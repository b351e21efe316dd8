import AccessSync.Proofs.Api.Pages
import AccessSync.Proofs.Catalog.Listing
import AccessSync.Proofs.Grants.Phase

/-!
# What a call of a listing asks for

A call asks for a page of a list first, and the page that it returns goes on where the page of the
list does. Its token says which list that is: the only one of a listing, or the list of a phase.

* `Operation.Reads`: work that is one page of a list.
* `Serves`: a call that asks for a page of a list, and the token that it returns.
* `serves_callAlong`, `serves_listPhased`: the calls of the two ways of listing.
-/

namespace AccessSync

open Api (Endpoint)
open Plan (AnyReply)

/-! ## A page of a list -/

section
variable {α β : Type}

/-- The operation asks for a page of a list, and a page that it returns goes on where the page of
the list does. -/
def Operation.Reads (x : Operation (Page α)) (e : Endpoint) : Prop :=
  ∃ f, x.run = .ask e f ∧ ∀ reply page, (f reply).Yields AnyReply (.ok page) →
    ∃ a, reply = .ok a ∧ page.next = e.next a

/-- The work of a call asks for a page of a list, and a page that it returns has the token that
`token` tells for the cursor that the page of the list goes on at. -/
def Serves (p : Dialogue (Except Failure (Page α) × FirstSeen)) (e : Endpoint)
    (token : String → String) : Prop :=
  ∃ f, p = .ask e f ∧ ∀ reply page seen, (f reply).Yields AnyReply (.ok page, seen) →
    ∃ a, reply = .ok a ∧ page.next = token (e.next a)

theorem Operation.reads_ask_bind {e : Endpoint} {f : e.Answer → Operation (Page α)}
    (h : ∀ a page, (f a).run.Yields AnyReply (.ok page) → page.next = e.next a) :
    (Operation.ask e >>= f).Reads e := by
  refine ⟨_, rfl, fun reply page hpage => ?_⟩
  cases reply with
  | error fault => cases hpage
  | ok a => exact ⟨a, rfl, h a page hpage⟩

/-- What is made of a page of a list goes on where the page does. -/
theorem Operation.reads_map {e : Endpoint} (f : e.Answer → List α) :
    (Operation.ask e >>= fun a => return ⟨f a, e.next a⟩ : Operation (Page α)).Reads e := by
  refine Operation.reads_ask_bind fun a page hpage => ?_
  cases hpage
  rfl

theorem Operation.Reads.serves {x : Operation (Page α)} {e : Endpoint} (hx : x.Reads e)
    {g : Except Failure (Page α) → Dialogue (Except Failure (Page β) × FirstSeen)}
    {token : String → String}
    (hok : ∀ page page' seen, (g (.ok page)).Yields AnyReply (.ok page', seen) →
      page'.next = token page.next)
    (herror : ∀ fault page' seen, ¬(g (.error fault)).Yields AnyReply (.ok page', seen)) :
    Serves (x.run >>= g) e token := by
  obtain ⟨f, hf, hreads⟩ := hx
  refine ⟨fun reply => f reply >>= g, by rw [hf]; rfl, fun reply page' seen h => ?_⟩
  obtain ⟨r, hr, hg⟩ := (Plan.yields_bind _ _ _).1 h
  cases r with
  | error fault => exact absurd hg (herror fault page' seen)
  | ok page =>
    obtain ⟨a, ha, hnext⟩ := hreads reply page hr
    exact ⟨a, ha, by rw [hok page page' seen hg, hnext]⟩

end

/-! ## Listings along one list -/

section
variable {α : Type} {kind : Kind} {e : Endpoint} {fetch : String → Operation (Page α)}

/-- The work of a call of a listing along one list. -/
def callAlong (kind : Kind) (fetch : String → Operation (Page α)) (token : String)
    (seen : FirstSeen) : Dialogue (Except Failure (Page α) × FirstSeen) :=
  (listPage kind token fetch).run >>= fun r => .done (r, seen)

theorem serves_callAlong (hfetch : ∀ cursor, (fetch cursor).Reads (e.atCursor cursor))
    {token : String} {s : PageStack}
    (hs : (PageStack.decode token).map (·.startWith kind.name) = .ok s) (seen : FirstSeen) :
    Serves (callAlong kind fetch token seen) (e.atCursor s.cursor) s.nextToken := by
  cases hdecode : PageStack.decode token with
  | error f => rw [hdecode] at hs; cases hs
  | ok stack =>
    rw [hdecode] at hs
    obtain rfl : stack.startWith kind.name = s := Except.ok.inj hs
    unfold callAlong listPage
    rw [hdecode]
    show Serves ((fetch (stack.startWith kind.name).cursor >>= fun page =>
      (return ⟨page.items, (stack.startWith kind.name).nextToken page.next⟩ :
        Operation (Page α))).run >>= fun r => .done (r, seen)) _ _
    rw [Plan.run_exceptT_bind, Plan.bind_assoc]
    refine (hfetch _).serves ?_ ?_
    · intro page page' seen' h
      cases h
      rfl
    · intro fault page' seen' h
      cases h

end

/-! ## Listings in phases -/

theorem Holding.atCursor_list (holding : Holding) (n : UInt32) (phase : Kind)
    (cursor cursor' : String) :
    (holding.list n phase cursor).atCursor cursor' = holding.list n phase cursor' := by
  cases holding <;> cases phase <;> rfl

/-- Each phase comes once. -/
theorem Kind.nodup_phases (k : Kind) : k.phases.Nodup := by cases k <;> decide

theorem Kind.currentPhase_eq_some {k phase : Kind} {s₀ s : PageStack}
    (h : k.currentPhase s₀ = .ok (some (phase, s))) :
    phase ∈ k.phases ∧ s.kind? = .ok (some phase) := by
  unfold currentPhase at h
  cases hk : s₀.kind? with
  | error f => rw [hk] at h; cases h
  | ok top =>
    rw [hk] at h
    cases top with
    | none => cases h
    | some k' =>
      dsimp only at h
      split at h
      · -- the frame that stands for all phases is replaced by the first of them
        cases hphases : k.phases with
        | nil => rw [hphases] at h; cases h
        | cons first rest =>
          rw [hphases] at h
          cases h
          exact ⟨List.mem_cons_self, kind?_unfold hphases s₀⟩
      · split at h
        · rename_i hmem
          cases h
          exact ⟨hmem, hk⟩
        · cases h

/-- A phase goes on as long as its part stays on top. -/
theorem Kind.currentPhase_of_part {k phase : Kind} {s s' : PageStack} (hphase : phase ∈ k.phases)
    (hk : s.kind? = .ok (some phase)) (hpart : s'.part? = s.part?) :
    k.currentPhase s' = .ok (some (phase, s')) := by
  have hk' : s'.kind? = .ok (some phase) := by
    rw [← hk]
    unfold PageStack.kind?
    rw [hpart]
  have hne : phase ≠ k := fun h => Place.not_mem_phases k (h ▸ hphase)
  unfold currentPhase
  rw [hk']
  simp only [hne, hphase, if_true, if_false]

section
variable {n : UInt32} {resource : ResourceId} {holding : Holding}

theorem yields_expandGroups {workspace : String} (page : Page Grant)
    (held : List (Api.Held Api.GroupRef)) {cursor : String}
    (h : (expandGroups resource workspace held >>= fun grants =>
      (return ⟨grants, cursor⟩ : Operation (Page Grant))).run.Yields AnyReply (.ok page)) :
    page.next = cursor := by
  obtain ⟨grants, -, hpage⟩ := Plan.yields_exceptT_bind_ok h
  cases hpage
  rfl

/-- **A page of a phase** is a page of its list. -/
theorem reads_phasePage {phase : Kind} (hphase : phase ∈ holding.kind.phases) (cursor : String) :
    (phasePage n resource holding phase cursor).Reads (holding.list n phase cursor) := by
  have hgroups : (groupPage n resource holding cursor).Reads
      (.roles holding.target .groups n cursor) := by
    refine Operation.reads_ask_bind fun a page h => ?_
    cases holding with
    | project id => exact yields_expandGroups page _ h
    | repository id => cases h; rfl
  have husers : (userPage n resource holding cursor).Reads
      (.roles holding.target .users n cursor) :=
    Operation.reads_map _
  rcases Holding.phase_cases hphase with rfl | rfl | ⟨rfl, id, rfl⟩
  · exact hgroups
  · exact husers
  · exact Operation.reads_map _

theorem serves_duePage {phase : Kind} (hphase : phase ∈ holding.kind.phases) (s : PageStack)
    (seen : FirstSeen) :
    Serves ((duePage n resource holding (some (phase, s))).run seen)
      (holding.list n phase s.cursor) s.nextToken := by
  unfold duePage
  rw [Plan.run_stateT_bind, Enumeration.run_ofOperation, Plan.bind_assoc]
  refine (reads_phasePage hphase s.cursor).serves ?_ ?_
  · intro page page' seen' h
    change ((Enumeration.keepNew phase s.position page.items >>= fun kept =>
      (pure ⟨kept, s.nextToken page.next⟩ : Enumeration (Page Grant))).run seen).Yields
        AnyReply (.ok page', seen') at h
    obtain ⟨kept, after, -, hpage⟩ := Plan.yields_stateT_bind_ok h
    cases hpage
    rfl
  · intro fault page' seen' h
    cases h

/-- What is no stack makes the call fail before anything else. -/
theorem run_listPhased_of_undecodable (n : UInt32) (resource : ResourceId) (holding : Holding)
    {token : String} {f : Failure} (hd : PageStack.decode token = .error f) (seen : FirstSeen) :
    (listPhased n resource holding token).run seen = .done (.error f, seen) := by
  unfold listPhased
  rw [hd]
  rfl

/-- A stack with no page due makes the call fail, with a clean record if it is empty. -/
theorem run_listPhased_of_error (resource : ResourceId) {token : String} {stack : PageStack}
    (hd : PageStack.decode token = .ok stack) {f : Failure}
    (hf : holding.kind.currentPhase (stack.startWith holding.kind.name) = .error f)
    (seen : FirstSeen) :
    (listPhased n resource holding token).run seen =
      .done (.error f, if stack.frames.isEmpty then seen.reset resource else seen) := by
  unfold listPhased
  rw [hd, Enumeration.ofExcept_ok_bind, hf]
  dsimp only
  split <;> rfl

/-- A call in phases is the page that its token makes due, with a clean record if the token stands
for the empty stack. -/
theorem run_listPhased_of_due (resource : ResourceId) {token : String} {stack : PageStack}
    (hd : PageStack.decode token = .ok stack) {due : Option (Kind × PageStack)}
    (hdue : holding.kind.currentPhase (stack.startWith holding.kind.name) = .ok due)
    (seen : FirstSeen) :
    (listPhased n resource holding token).run seen = (duePage n resource holding due).run
      (if stack.frames.isEmpty then seen.reset resource else seen) := by
  unfold listPhased
  rw [hd, Enumeration.ofExcept_ok_bind, hdue]
  dsimp only
  split
  · rw [Plan.run_stateT_bind, Enumeration.run_modify]
    rfl
  · rfl

theorem serves_listPhased {token : String} {stack : PageStack}
    (hd : PageStack.decode token = .ok stack) {phase : Kind} {s : PageStack}
    (hdue : holding.kind.currentPhase (stack.startWith holding.kind.name) = .ok (some (phase, s)))
    (seen : FirstSeen) :
    Serves ((listPhased n resource holding token).run seen) (holding.list n phase s.cursor)
      s.nextToken := by
  rw [run_listPhased_of_due resource hd hdue]
  exact serves_duePage (Kind.currentPhase_eq_some hdue).1 s _

/-- A token makes a page due, or nothing is asked. -/
theorem done_or_due (n : UInt32) (resource : ResourceId) (holding : Holding) (token : String) :
    (∀ seen, ∃ r, (listPhased n resource holding token).run seen = .done r) ∨
      ∃ stack phase s, PageStack.decode token = .ok stack ∧
        holding.kind.currentPhase (stack.startWith holding.kind.name) = .ok (some (phase, s)) := by
  cases hd : PageStack.decode token with
  | error f =>
    left
    intro seen
    exact ⟨_, run_listPhased_of_undecodable n resource holding hd seen⟩
  | ok stack =>
    cases hdue : holding.kind.currentPhase (stack.startWith holding.kind.name) with
    | error f =>
      left
      intro seen
      exact ⟨_, run_listPhased_of_error resource hd hdue seen⟩
    | ok due =>
      cases due with
      | none =>
        left
        intro seen
        exact ⟨_, run_listPhased_of_due resource hd hdue seen⟩
      | some due => exact .inr ⟨stack, due.1, due.2, rfl, hdue⟩

end

end AccessSync
