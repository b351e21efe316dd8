import AccessSync.Connector
import AccessSync.Proofs.Access.Reference
import AccessSync.Proofs.PageStack
import AccessSync.Proofs.Server

/-!
# Places in an enumeration

An enumeration of the grants on a project or a repository is always at a place: a phase, the cursor
of its next page, and the phases to come. A page token is a place and nothing else, so a call with a
token is the page of its place, and the empty token is the first place with a clean record.

* `nextToken_stack`: the token after a page is the token of the place after it.
* `listPhased_token`, `listPhased_empty`: what a call does.
-/

namespace AccessSync

open Api (Endpoint)

/-- The kind of a stack is read off its top frame, in any letter case. -/
theorem PageStack.kind?_cons (top : Frame) (below : List Frame) {k : Kind}
    (h : Text.lower top.part = k.name) : (⟨top :: below⟩ : PageStack).kind? = .ok (some k) := by
  unfold kind? part? top?
  simp only [List.head?_cons, Option.map_some, Kind.read?_eq_some_iff.2 h]

theorem Kind.lower_name (k : Kind) : Text.lower k.name = k.name :=
  Kind.read?_eq_some_iff.1 k.read?_name

/-- When the frame that stands for all phases is replaced, the first phase is on top. -/
theorem Kind.kind?_unfold {k first : Kind} {later : List Kind} (hp : k.phases = first :: later)
    (s : PageStack) : (k.unfold s).kind? = .ok (some first) := by
  unfold Kind.unfold
  rw [hp]
  exact PageStack.kind?_cons (.start first.name) _ first.lower_name

/-- Where an enumeration is. -/
structure Place where
  phase : Kind
  cursor : String
  later : List Kind
deriving DecidableEq, Repr

namespace Place

/-- The stack of a place: its frame on top, and one frame for each phase to come. -/
def stack (p : Place) : PageStack :=
  ⟨⟨p.phase.name, "", p.cursor⟩ :: p.later.map fun k => .start k.name⟩

/-- The token that asks for the page at a place. -/
def token (p : Place) : String := p.stack.encode

/-- Where the given phases start. -/
def first? : List Kind → Option Place
  | [] => none
  | k :: later => some ⟨k, "", later⟩

/-- The place after a page, by the cursor that the page ends with. -/
def after (p : Place) (next : String) : Option Place :=
  if next = "" then first? p.later else some { p with cursor := next }

/-- The token that asks for a place, empty when there is none. -/
def tokenOf : Option Place → String
  | none => ""
  | some p => p.token

/-- The place lies in an enumeration of the given phases. -/
def Within (p : Place) (phases : List Kind) : Prop := (p.phase :: p.later) <:+ phases

instance (p : Place) (phases : List Kind) : Decidable (p.Within phases) :=
  inferInstanceAs (Decidable (_ <:+ _))

theorem token_ne_empty (p : Place) : p.token ≠ "" := by
  intro h
  have hframes := (PageStack.encode_eq_empty_iff p.stack).1 h
  simp [stack] at hframes

/-- **Places have different tokens.** -/
theorem token_injective {p q : Place} (h : p.token = q.token) : p = q := by
  have hstack : p.stack = q.stack := by
    have hp := PageStack.decode_encode p.stack
    have hq := PageStack.decode_encode q.stack
    unfold token at h
    rw [h, hq] at hp
    exact (Except.ok.inj hp).symm
  obtain ⟨phase, cursor, later⟩ := p
  obtain ⟨phase', cursor', later'⟩ := q
  simp only [stack, PageStack.mk.injEq, List.cons.injEq, Frame.mk.injEq, true_and] at hstack
  obtain ⟨⟨hphase, hcursor⟩, hlater⟩ := hstack
  have hinj : ∀ k k' : Kind, Frame.start k.name = Frame.start k'.name → k = k' := by
    intro k k' hk
    apply Kind.name_injective
    simpa [Frame.start] using hk
  rw [Kind.name_injective hphase, hcursor, (List.map_inj_right hinj).1 hlater]

/-- **The token after a page** is the token of the place after it. -/
theorem nextToken_stack (p : Place) (next : String) :
    p.stack.nextToken next = tokenOf (p.after next) := by
  unfold PageStack.nextToken PageStack.advance after
  by_cases hn : next = ""
  · rw [if_pos hn, if_pos hn]
    obtain ⟨phase, cursor, later⟩ := p
    cases later with
    | nil => rfl
    | cons k ks => rfl
  · rw [if_neg hn, if_neg hn]
    rfl

theorem within_after {p q : Place} {phases : List Kind} (hp : p.Within phases) {next : String}
    (h : p.after next = some q) : q.Within phases := by
  unfold after at h
  split at h
  · cases hl : p.later with
    | nil => simp [hl, first?] at h
    | cons k ks =>
      obtain rfl : (⟨k, "", ks⟩ : Place) = q := by simpa [hl, first?] using h
      have hlater := (List.suffix_cons p.phase p.later).trans hp
      rwa [hl] at hlater
  · obtain rfl := Option.some.inj h
    exact hp

/-! ## Phases -/

theorem kind?_stack (p : Place) : p.stack.kind? = .ok (some p.phase) :=
  PageStack.kind?_cons ⟨p.phase.name, "", p.cursor⟩ _ p.phase.lower_name

/-- No kind is a phase of its own enumeration. -/
theorem not_mem_phases (k : Kind) : k ∉ k.phases := by
  cases k <;> decide

theorem currentPhase_stack {p : Place} {k : Kind} (hp : p.Within k.phases) :
    k.currentPhase p.stack = .ok (some (p.phase, p.stack)) := by
  have hmem : p.phase ∈ k.phases := hp.subset List.mem_cons_self
  have hne : p.phase ≠ k := fun h => not_mem_phases k (h ▸ hmem)
  unfold Kind.currentPhase
  rw [kind?_stack]
  simp only [hne, hmem, if_true, if_false]

/-- The frame that stands for a whole enumeration is replaced by the first place. -/
theorem currentPhase_start {k : Kind} {p : Place} (hp : first? k.phases = some p) :
    k.currentPhase (PageStack.empty.startWith k.name) = .ok (some (p.phase, p.stack)) := by
  -- only the grants on projects and repositories come in phases
  cases k with
  | project => cases hp; rfl
  | repository => cases hp; rfl
  | workspace => simp [first?, Kind.phases] at hp
  | userGroup => simp [first?, Kind.phases] at hp
  | user => simp [first?, Kind.phases] at hp

/-- What the page at a place keeps of its grants, and what has been seen then. -/
def keep (p : Place) (grants : List Grant) (seen : FirstSeen) : List Grant × FirstSeen :=
  if p.phase = .repository then (grants, seen) else seen.retainNew p.stack.position grants

end Place

namespace Holding

/-- Where an enumeration starts. -/
def start : Holding → Place
  | .project _ => ⟨.repository, "", [.userGroup, .user]⟩
  | .repository _ => ⟨.userGroup, "", [.user]⟩

/-- The phases there are: roles of groups and of users, and the repositories of a project. -/
theorem phase_cases {h : Holding} {phase : Kind} (hphase : phase ∈ h.kind.phases) :
    phase = .userGroup ∨ phase = .user ∨ phase = .repository ∧ ∃ id, h = .project id := by
  cases h with
  | project id => simpa [kind, Kind.phases, or_comm, or_left_comm] using hphase
  | repository id => simpa [kind, Kind.phases] using hphase

theorem first?_phases (h : Holding) : Place.first? h.kind.phases = some h.start := by
  cases h <;> rfl

theorem within_start (h : Holding) : h.start.Within h.kind.phases := by
  cases h <;> exact List.suffix_rfl

end Holding

/-! ## Calls -/

namespace Enumeration

variable {α : Type}

theorem run_ofExcept (r : Except Failure α) (seen : FirstSeen) :
    (Enumeration.ofExcept r).run seen = .done (r, seen) := rfl

theorem ofExcept_ok_bind {β : Type} (a : α) (f : α → Enumeration β) :
    Enumeration.ofExcept (.ok a) >>= f = f a := rfl

theorem run_ofOperation (x : Operation α) (seen : FirstSeen) :
    (Enumeration.ofOperation x).run seen = x.run >>= fun r => .done (r, seen) := rfl

theorem run_modify (f : FirstSeen → FirstSeen) (seen : FirstSeen) :
    (modify f : Enumeration PUnit).run seen = .done (.ok ⟨⟩, f seen) := rfl

theorem run_keepNew (p : Place) (grants : List Grant) (seen : FirstSeen) :
    (Enumeration.keepNew p.phase p.stack.position grants).run seen =
      .done (.ok (p.keep grants seen).1, (p.keep grants seen).2) := by
  unfold Enumeration.keepNew Place.keep
  split <;> rfl

/-- Keeping what is new asks for nothing and does not fail. -/
theorem exists_run_keepNew (phase : Kind) (position : String) (grants : List Grant)
    (seen : FirstSeen) :
    ∃ kept seen', (keepNew phase position grants).run seen = .done (.ok kept, seen') := by
  unfold keepNew
  split
  · exact ⟨_, _, rfl⟩
  · exact ⟨_, _, rfl⟩

end Enumeration

/-- The page at a place: what the server has there, less what was seen elsewhere. -/
def servePlace (pageSize : UInt32) (resource : ResourceId) (holding : Holding) (p : Place)
    (seen : FirstSeen) : Dialogue (Except Failure (Page Grant) × FirstSeen) :=
  (phasePage pageSize resource holding p.phase p.cursor).run >>= fun
    | .ok page => .done (.ok ⟨(p.keep page.items seen).1, Place.tokenOf (p.after page.next)⟩,
        (p.keep page.items seen).2)
    | .error e => .done (.error e, seen)

/-- The page that is due at a place is the page at that place. -/
theorem run_duePage (pageSize : UInt32) (resource : ResourceId) (holding : Holding) (p : Place)
    (seen : FirstSeen) :
    (duePage pageSize resource holding (some (p.phase, p.stack))).run seen =
      servePlace pageSize resource holding p seen := by
  unfold duePage
  rw [Plan.run_stateT_bind, Enumeration.run_ofOperation, Plan.bind_assoc]
  unfold servePlace
  congr 1
  funext r
  cases r with
  | error e => rfl
  | ok page =>
    show (Enumeration.keepNew p.phase p.stack.position page.items >>= fun kept =>
      (pure ⟨kept, p.stack.nextToken page.next⟩ : Enumeration (Page Grant))).run seen = _
    rw [Plan.run_stateT_bind, Enumeration.run_keepNew, Place.nextToken_stack]
    rfl

/-- **A call with the token of a place** is the page at that place. -/
theorem listPhased_token (pageSize : UInt32) (resource : ResourceId) {holding : Holding} {p : Place}
    (hp : p.Within holding.kind.phases) (seen : FirstSeen) :
    (listPhased pageSize resource holding p.token).run seen =
      servePlace pageSize resource holding p seen := by
  have hstart : p.stack.startWith holding.kind.name = p.stack := rfl
  have hframes : ¬p.stack.frames.isEmpty = true := by simp [Place.stack]
  unfold listPhased Place.token
  rw [PageStack.decode_encode, Enumeration.ofExcept_ok_bind]
  simp only [if_neg hframes]
  rw [hstart, Place.currentPhase_stack hp, Enumeration.ofExcept_ok_bind]
  exact run_duePage pageSize resource holding p seen

/-- **A call with the empty token** is the page at the first place, with nothing seen before. -/
theorem listPhased_empty (pageSize : UInt32) (resource : ResourceId) (holding : Holding)
    (seen : FirstSeen) :
    (listPhased pageSize resource holding "").run seen =
      servePlace pageSize resource holding holding.start (seen.reset resource) := by
  have hdecode : PageStack.decode "" = .ok .empty := rfl
  have hframes : PageStack.empty.frames.isEmpty = true := rfl
  unfold listPhased
  rw [hdecode, Enumeration.ofExcept_ok_bind]
  simp only [if_pos hframes]
  rw [Place.currentPhase_start holding.first?_phases, Plan.run_stateT_bind, Enumeration.run_modify]
  exact run_duePage pageSize resource holding holding.start (seen.reset resource)

end AccessSync
