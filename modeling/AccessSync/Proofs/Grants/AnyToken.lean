import AccessSync.Proofs.Grants.Enumeration
import AccessSync.Proofs.Paging.Call

/-!
# Whatever token a call is given

A page token comes from a caller, who may make up any stack: frames of any depth and in any order,
kinds in any letter case, any cursor. A call with such a token is refused before anything is asked,
or it serves a page of the top frame, after the frame that stands for all phases was replaced once
at most. The frames below are left as they are, so calls with the tokens returned come to an end.

* `Kind.round`, `repeatUpTo_round`: the search for the page that is due, round by round.
* `Holding.Refuses`, `Holding.Settles`: the tokens that are refused, and what becomes of the others.
* `Holding.ListsEnd`, `ComesToEnd`: lists that end from any cursor, and calls that come to an end.
* `framesEnd`, `comesToEnd_any`: the calls do, by induction on the frames.
* `any_token`: all of it together.
-/

namespace AccessSync

open Api (Endpoint Held Target)
open Text

/-! ## Rounds -/

namespace Kind

variable {listed : Kind}

/-- One round of the search for the page that is due: the stack to go on with, or the phase that is
due and its stack, or nothing when no frame is left. -/
def round (listed : Kind) (s : PageStack) :
    Except Failure (PageStack ⊕ Option (Kind × PageStack)) := do
  match ← s.kind? with
  | none => return .inr none
  | some k =>
    if k = listed then return .inl (listed.unfold s)
    else if k ∈ listed.phases then return .inr (some (k, s))
    else throw (listed.unexpectedPhase k)

theorem round_of_phase {s : PageStack} {k : Kind} (hs : s.kind? = .ok (some k))
    (hk : k ∈ listed.phases) : listed.round s = .ok (.inr (some (k, s))) := by
  have hne : k ≠ listed := fun h => Place.not_mem_phases listed (h ▸ hk)
  unfold round
  rw [hs]
  simp only [bind, Except.bind, if_neg hne, if_pos hk]
  rfl

/-- **Two rounds are enough.** The frame that stands for all phases is replaced by frames of phases,
so there is a page to serve after it was replaced. -/
theorem repeatUpTo_round {first : Kind} {later : List Kind} (hp : listed.phases = first :: later)
    (endless : Except Failure (Option (Kind × PageStack))) (n : Nat) (s : PageStack) :
    repeatUpTo endless listed.round (n + 2) s = listed.currentPhase s := by
  unfold currentPhase
  cases hs : s.kind? with
  | error e =>
    unfold repeatUpTo round
    rw [hs]
    rfl
  | ok top =>
    cases top with
    | none =>
      unfold repeatUpTo round
      rw [hs]
      rfl
    | some k =>
      dsimp only
      by_cases hk : k = listed
      · have hround : listed.round s = .ok (.inl (listed.unfold s)) := by
          unfold round
          rw [hs]
          simp only [bind, Except.bind, if_pos hk]
          rfl
        have hfirst : first ∈ listed.phases := hp ▸ List.mem_cons_self
        rw [if_pos hk, repeatUpTo, hround]
        simp only [bind, Except.bind]
        rw [repeatUpTo, round_of_phase (kind?_unfold hp s) hfirst, hp]
        rfl
      · rw [if_neg hk]
        by_cases hmem : k ∈ listed.phases
        · rw [if_pos hmem, repeatUpTo, round_of_phase hs hmem]
          rfl
        · rw [if_neg hmem, repeatUpTo, round, hs]
          simp only [bind, Except.bind, if_neg hk, if_neg hmem]
          rfl

end Kind

/-! ## Refused or settled -/

namespace Holding

/-- The kinds that have no place in the listing: neither the kind that is listed nor a phase. -/
def strangers : Holding → List Kind
  | .project _ => [.workspace]
  | .repository _ => [.workspace, .project]

variable {holding : Holding}

theorem kind_cases (holding : Holding) (k : Kind) :
    k = holding.kind ∨ k ∈ holding.kind.phases ∨ k ∈ holding.strangers := by
  cases holding <;> cases k <;> simp [kind, Kind.phases, strangers]

theorem not_mem_of_mem_strangers {k : Kind} (h : k ∈ holding.strangers) :
    k ≠ holding.kind ∧ k ∉ holding.kind.phases := by
  cases holding <;> cases k <;> simp_all [kind, Kind.phases, strangers]

theorem phases_eq (holding : Holding) :
    holding.kind.phases = holding.start.phase :: holding.start.later := by
  cases holding <;> rfl

variable (holding)

/-- The token is no stack, or the part on top of its stack is no kind, in any letter case, or is a
kind that has no place in the listing. -/
def Refuses (token : String) : Prop :=
  (∃ fault, PageStack.decode token = .error fault) ∨
  ∃ top below, PageStack.decode token = .ok ⟨top :: below⟩ ∧
    ((∀ k : Kind, lower top.part ≠ k.name) ∨ ∃ k ∈ holding.strangers, lower top.part = k.name)

/-- The phase that is due with a stack, its frame, and the frames below: a frame of a phase stays as
it is, and the frame that stands for all phases is replaced by theirs, each from its first page
on. -/
inductive Settles : PageStack → Kind → Frame → List Frame → Prop
  | phase {phase : Kind} {top : Frame} {below : List Frame} (part : lower top.part = phase.name)
      (mem : phase ∈ holding.kind.phases) : Settles ⟨top :: below⟩ phase top below
  | whole {f : Frame} {rest : List Frame} (part : lower f.part = holding.kind.name) :
      Settles ⟨f :: rest⟩ holding.start.phase (.start holding.start.phase.name)
        (holding.start.later.map (fun k => .start k.name) ++ rest)

/-- **Every token is refused or settles.** -/
theorem refuses_or_settles (token : String) :
    holding.Refuses token ∨ ∃ stack phase top below, PageStack.decode token = .ok stack ∧
      holding.Settles (stack.startWith holding.kind.name) phase top below := by
  cases hd : PageStack.decode token with
  | error fault => exact .inl (.inl ⟨fault, hd⟩)
  | ok stack =>
    obtain ⟨frames⟩ := stack
    cases frames with
    | nil =>
      -- the stack starts with the frame that stands for all phases
      exact .inr ⟨_, _, _, _, rfl, .whole holding.kind.lower_name⟩
    | cons f rest =>
      cases hk : Kind.read? f.part with
      | none =>
        refine .inl (.inr ⟨f, rest, hd, .inl fun k h => ?_⟩)
        rw [Kind.read?_eq_some_iff.2 h] at hk
        cases hk
      | some k =>
        have hpart := Kind.read?_eq_some_iff.1 hk
        rcases holding.kind_cases k with rfl | hmem | hstranger
        · exact .inr ⟨_, _, _, _, rfl, .whole hpart⟩
        · exact .inr ⟨_, _, _, _, rfl, .phase hpart hmem⟩
        · exact .inl (.inr ⟨f, rest, hd, .inr ⟨k, hstranger, hpart⟩⟩)

variable {holding} {start : PageStack} {phase : Kind} {top : Frame} {below : List Frame}

/-- What a stack settles to is what its page is looked for under. -/
theorem Settles.currentPhase_eq (h : holding.Settles start phase top below) :
    holding.kind.currentPhase start = .ok (some (phase, ⟨top :: below⟩)) := by
  cases h with
  | phase part mem =>
    exact Kind.currentPhase_of_part mem (PageStack.kind?_cons top below part) rfl
  | @whole f rest part =>
    unfold Kind.currentPhase
    rw [PageStack.kind?_cons f rest part]
    simp only [if_true, Kind.unfold, holding.phases_eq]
    rfl

theorem Settles.mem_phases (h : holding.Settles start phase top below) :
    phase ∈ holding.kind.phases := by
  cases h with
  | phase part mem => exact mem
  | whole part =>
    rw [holding.phases_eq]
    exact List.mem_cons_self

/-- The frame of the phase settles to itself, at whatever cursor. -/
theorem Settles.of_cursor (h : holding.Settles start phase top below) (cursor : String) :
    holding.Settles ⟨{ top with cursor } :: below⟩ phase { top with cursor } below := by
  have hmem := h.mem_phases
  cases h with
  | phase part _ => exact .phase part hmem
  | whole _ => exact .phase holding.start.phase.lower_name hmem

variable (holding) in
theorem currentPhase_of_not_kind (h : ∀ k : Kind, lower top.part ≠ k.name) :
    ∃ fault, holding.kind.currentPhase ⟨top :: below⟩ = .error (.invalidPageToken fault) := by
  have hread : Kind.read? top.part = none :=
    Option.eq_none_iff_forall_ne_some.2 fun k hk => h k (Kind.read?_eq_some_iff.1 hk)
  refine ⟨.phase (Kind.unknownMessage top.part), ?_⟩
  unfold Kind.currentPhase PageStack.kind? PageStack.part? PageStack.top?
  simp only [List.head?_cons, Option.map_some, hread]

theorem currentPhase_of_stranger {k : Kind} (hk : k ∈ holding.strangers)
    (h : lower top.part = k.name) :
    holding.kind.currentPhase ⟨top :: below⟩ = .error (holding.kind.unexpectedPhase k) := by
  obtain ⟨hne, hnot⟩ := not_mem_of_mem_strangers hk
  unfold Kind.currentPhase
  rw [PageStack.kind?_cons top below h]
  simp only [if_neg hne, if_neg hnot]

/-- What settles is not refused. -/
theorem Settles.not_refuses {token : String} {stack : PageStack}
    (h : holding.Settles (stack.startWith holding.kind.name) phase top below)
    (hd : PageStack.decode token = .ok stack) : ¬holding.Refuses token := by
  have hphase := h.currentPhase_eq
  rintro (⟨fault, hd'⟩ | ⟨top', below', hd', hnot | ⟨k, hk, hpart⟩⟩)
  · rw [hd'] at hd
    cases hd
  · obtain rfl := Except.ok.inj (hd'.symm.trans hd)
    obtain ⟨fault, hfault⟩ := holding.currentPhase_of_not_kind hnot
    cases hphase.symm.trans hfault
  · obtain rfl := Except.ok.inj (hd'.symm.trans hd)
    cases hphase.symm.trans (currentPhase_of_stranger hk hpart)

end Holding

section
variable {n : UInt32} {resource : ResourceId} {holding : Holding} {token : String}

/-- **A token that is refused** changes nothing, and nothing is asked. -/
theorem run_listPhased_of_refuses (h : holding.Refuses token) (seen : FirstSeen) :
    ∃ fault, (listPhased n resource holding token).run seen =
      .done (.error (.invalidPageToken fault), seen) := by
  rcases h with ⟨fault, hd⟩ | ⟨top, below, hd, hnot | ⟨k, hk, hpart⟩⟩
  · obtain ⟨detail, rfl⟩ := PageStack.decode_eq_error hd
    exact ⟨detail, run_listPhased_of_undecodable n resource holding hd seen⟩
  · obtain ⟨detail, hfault⟩ := holding.currentPhase_of_not_kind hnot
    exact ⟨detail, run_listPhased_of_error resource hd hfault seen⟩
  · exact ⟨_, run_listPhased_of_error resource hd (Holding.currentPhase_of_stranger hk hpart) seen⟩

/-- **A token that settles** is served with a page of the list that is due. -/
theorem serves_of_settles {stack : PageStack} (hd : PageStack.decode token = .ok stack)
    {phase : Kind} {top : Frame} {below : List Frame}
    (hs : holding.Settles (stack.startWith holding.kind.name) phase top below) (seen : FirstSeen) :
    Serves ((listPhased n resource holding token).run seen) (holding.list n phase top.cursor)
      fun next => PageStack.encode
        ⟨if next = "" then below else { top with cursor := next } :: below⟩ := by
  rw [← funext (PageStack.nextToken_cons top below)]
  exact serves_listPhased hd hs.currentPhase_eq seen

end

/-! ## Lists that end -/

/-- From any cursor the two halves of a permission table are finite chains of pages. -/
structure Api.Target.RolesEnd (table : Target) (s : Server) (pageSize : UInt32) : Prop where
  groups : ∀ cursor, ∃ pages, Chain (fun c => s (.roles table .groups pageSize c)) cursor pages
  users : ∀ cursor, ∃ pages, Chain (fun c => s (.roles table .users pageSize c)) cursor pages

/-- From any cursor the lists behind a project or a repository are finite chains of pages, and the
members of the groups with a role are there. Repositories and members are asked for on a project
alone. -/
inductive Holding.ListsEnd (s : Server) (pageSize : UInt32) : Holding → Prop
  | project {id : ProjectId}
      (roles : (Target.project id.workspace id.key).RolesEnd s pageSize)
      (repositories : ∀ cursor, ∃ pages,
        Chain (fun c => s (.repositories id.workspace id.project pageSize c)) cursor pages)
      (members : ∀ cursor page,
        s (.roles (.project id.workspace id.key) .groups pageSize cursor) = .ok page →
        ∀ g ∈ page.items, Kind.project.isRole g.role →
          ∃ users, s (.groupMembers ⟨id.workspace, g.holder.slug⟩) = .ok users) :
      ListsEnd s pageSize (.project id)
  | repository {id : RepositoryId}
      (roles : (Target.repository id.workspace id.repository).RolesEnd s pageSize) :
      ListsEnd s pageSize (.repository id)

/-- Calls that come to an end: the first one with the token, then each with the token that the last
one returned, as many as given, until the token is empty or is refused. -/
inductive ComesToEnd (s : Server) (list : String → Enumeration (Page Grant)) :
    Nat → String → FirstSeen → Prop
  | refused {token : String} {seen : FirstSeen} {fault : TokenFault}
      (call : ((list token).run seen).result s = .ok (.error (.invalidPageToken fault), seen)) :
      ComesToEnd s list 1 token seen
  | last {token : String} {seen seen' : FirstSeen} {page : Page Grant}
      (call : ((list token).run seen).result s = .ok (.ok page, seen')) (ends : page.next = "") :
      ComesToEnd s list 1 token seen
  | more {n : Nat} {token : String} {seen seen' : FirstSeen} {page : Page Grant}
      (call : ((list token).run seen).result s = .ok (.ok page, seen')) (goes : page.next ≠ "")
      (tail : ComesToEnd s list n page.next seen') : ComesToEnd s list (n + 1) token seen

section
variable {s : Server} {n : UInt32} {resource : ResourceId} {holding : Holding}

/-- The members that the server has of a group. -/
def Server.membersOf (s : Server) (workspace slug : String) : List Api.User :=
  match s (.groupMembers ⟨workspace, slug⟩) with
  | .ok users => users
  | .error _ => []

theorem Holding.ListsEnd.roles (h : holding.ListsEnd s n) : holding.target.RolesEnd s n := by
  cases h with
  | project roles repositories members => exact roles
  | repository roles => exact roles

theorem Holding.ListsEnd.exists_groupPage (h : holding.ListsEnd s n) {cursor : String}
    {page : Page (Held Api.GroupRef)}
    (hpage : s (.roles holding.target .groups n cursor) = .ok page) :
    ∃ found, (groupPage n resource holding cursor).outcome s = .ok found ∧
      found.next = page.next := by
  cases h with
  | @project id roles repositories members =>
    have hmembers : ∀ g ∈ page.items, Kind.project.isRole g.role →
        s (.groupMembers ⟨id.workspace, g.holder.slug⟩) =
          .ok (s.membersOf id.workspace g.holder.slug) := by
      intro g hg hrole
      obtain ⟨users, husers⟩ := members cursor page hpage g hg hrole
      unfold Server.membersOf
      rw [husers]
    exact ⟨_, Operation.outcome_eq_ok.2 (result_groupPage_project hpage hmembers), rfl⟩
  | repository roles =>
    exact ⟨_, Operation.outcome_eq_ok.2 (result_groupPage_repository hpage), rfl⟩

/-- **The pages of a phase end** where those of its list do. -/
theorem Holding.ListsEnd.exists_chain (h : holding.ListsEnd s n) (resource : ResourceId)
    {phase : Kind} (hphase : phase ∈ holding.kind.phases) (cursor : String) :
    ∃ pages, Chain (fun c => (phasePage n resource holding phase c).outcome s) cursor pages := by
  rcases Holding.phase_cases hphase with rfl | rfl | ⟨rfl, id, rfl⟩
  · obtain ⟨pages, hc⟩ := h.roles.groups cursor
    exact hc.map fun c page hpage => h.exists_groupPage hpage
  · obtain ⟨pages, hc⟩ := h.roles.users cursor
    exact hc.map fun c page hpage => ⟨_, Operation.outcome_eq_ok.2 (result_userPage hpage), rfl⟩
  · cases h with
    | project roles repositories members =>
      obtain ⟨pages, hc⟩ := repositories cursor
      exact hc.map fun c page hpage =>
        ⟨_, Operation.outcome_eq_ok.2 (result_repositoryPage hpage), rfl⟩

/-- A call is served when the page of its phase is found. -/
theorem exists_result_of_settles {token : String} {stack : PageStack}
    (hd : PageStack.decode token = .ok stack) {phase : Kind} {top : Frame} {below : List Frame}
    (hs : holding.Settles (stack.startWith holding.kind.name) phase top below)
    {found : Page Grant}
    (hfound : (phasePage n resource holding phase top.cursor).outcome s = .ok found)
    (seen : FirstSeen) :
    ∃ page seen', ((listPhased n resource holding token).run seen).result s =
        .ok (.ok page, seen') ∧
      page.next = PageStack.encode
        ⟨if found.next = "" then below else { top with cursor := found.next } :: below⟩ := by
  let due : PageStack := ⟨top :: below⟩
  let seen₀ := if stack.frames.isEmpty then seen.reset resource else seen
  obtain ⟨kept, seen', hkept⟩ :=
    Enumeration.exists_run_keepNew phase due.position found.items seen₀
  refine ⟨⟨kept, due.nextToken found.next⟩, seen', ?_, PageStack.nextToken_cons top below _⟩
  have hcursor : due.cursor = top.cursor := rfl
  rw [run_listPhased_of_due resource hd hs.currentPhase_eq]
  unfold duePage
  rw [Plan.run_stateT_bind, Enumeration.run_ofOperation, Plan.bind_assoc, hcursor,
    Plan.result_bind_of_ok (Operation.outcome_eq_ok.1 hfound)]
  show ((Enumeration.keepNew phase due.position found.items >>= fun kept =>
    (pure ⟨kept, due.nextToken found.next⟩ : Enumeration (Page Grant))).run seen₀).result s = _
  rw [Plan.run_stateT_bind, hkept]
  rfl

/-! ## Stacks of any depth -/

/-- The calls come to an end from the frames on, if there are any. -/
def FramesEnd (s : Server) (n : UInt32) (resource : ResourceId) (holding : Holding)
    (frames : List Frame) : Prop :=
  frames ≠ [] → ∀ seen, ∃ calls,
    ComesToEnd s (listPhased n resource holding) calls (PageStack.encode ⟨frames⟩) seen

theorem framesEnd_nil : FramesEnd s n resource holding [] := fun h => absurd rfl h

/-- **A frame is gone through along its chain**, and then the frames below are due. -/
theorem comesToEnd_of_chain {phase : Kind} {cursor : String} {pages : List (Page Grant)}
    (hc : Chain (fun c => (phasePage n resource holding phase c).outcome s) cursor pages)
    {token : String} {stack : PageStack} (hd : PageStack.decode token = .ok stack)
    {top : Frame} {below : List Frame} (hcursor : top.cursor = cursor)
    (hs : holding.Settles (stack.startWith holding.kind.name) phase top below)
    (hbelow : FramesEnd s n resource holding below) (seen : FirstSeen) :
    ∃ calls, ComesToEnd s (listPhased n resource holding) calls token seen := by
  induction hc generalizing token stack top seen with
  | @last cursor found hfound ends =>
    obtain ⟨page, seen', hcall, hnext⟩ := exists_result_of_settles hd hs (hcursor ▸ hfound) seen
    rw [if_pos ends] at hnext
    by_cases hne : below = []
    · exact ⟨1, .last hcall (hnext.trans ((PageStack.encode_eq_empty_iff _).2 hne))⟩
    · obtain ⟨calls, hcalls⟩ := hbelow hne seen'
      have hgoes : page.next ≠ "" := fun h =>
        hne ((PageStack.encode_eq_empty_iff _).1 (hnext.symm.trans h))
      exact ⟨calls + 1, .more hcall hgoes (hnext ▸ hcalls)⟩
  | @more cursor found rest hfound goes tail ih =>
    obtain ⟨page, seen', hcall, hnext⟩ := exists_result_of_settles hd hs (hcursor ▸ hfound) seen
    rw [if_neg goes] at hnext
    have hgoes : page.next ≠ "" := fun h =>
      List.cons_ne_nil _ _ ((PageStack.encode_eq_empty_iff _).1 (hnext.symm.trans h))
    -- the frame that is due next is of the same phase
    have hd' := PageStack.decode_encode ⟨{ top with cursor := found.next } :: below⟩
    obtain ⟨calls, hcalls⟩ := ih hd' rfl (hs.of_cursor found.next) seen'
    exact ⟨calls + 1, .more hcall hgoes (hnext ▸ hcalls)⟩

/-- The frames of phases come to an end when those below them do. -/
theorem framesEnd_phases (h : holding.ListsEnd s n) {phases : List Kind}
    (hphases : ∀ k ∈ phases, k ∈ holding.kind.phases) {rest : List Frame}
    (hrest : FramesEnd s n resource holding rest) :
    FramesEnd s n resource holding (phases.map (fun k => .start k.name) ++ rest) := by
  induction phases with
  | nil => exact hrest
  | cons k later ih =>
    have hlater := ih fun k' hk' => hphases k' (List.mem_cons_of_mem _ hk')
    have hk := hphases k List.mem_cons_self
    intro _ seen
    have hd := PageStack.decode_encode
      ⟨.start k.name :: (later.map (fun k => .start k.name) ++ rest)⟩
    have hs : holding.Settles ⟨.start k.name :: (later.map (fun k => .start k.name) ++ rest)⟩ k
      (.start k.name) (later.map (fun k => .start k.name) ++ rest) := .phase k.lower_name hk
    obtain ⟨pages, hc⟩ := h.exists_chain resource hk ""
    exact comesToEnd_of_chain hc hd rfl hs hlater seen

theorem Holding.Settles.framesEnd_below (h : holding.ListsEnd s n) {start : PageStack}
    {phase : Kind} {top : Frame} {below : List Frame} (hs : holding.Settles start phase top below)
    (hrest : FramesEnd s n resource holding start.pop.frames) :
    FramesEnd s n resource holding below := by
  cases hs with
  | phase part mem => exact hrest
  | whole part =>
    refine framesEnd_phases h ?_ hrest
    intro k hk
    rw [holding.phases_eq]
    exact List.mem_cons_of_mem _ hk

/-- What a token settles to is gone through when the frames below its top frame are. -/
theorem comesToEnd_of_settles (h : holding.ListsEnd s n) {token : String} {stack : PageStack}
    (hd : PageStack.decode token = .ok stack) {phase : Kind} {top : Frame} {below : List Frame}
    (hs : holding.Settles (stack.startWith holding.kind.name) phase top below)
    (hrest : FramesEnd s n resource holding (stack.startWith holding.kind.name).pop.frames)
    (seen : FirstSeen) :
    ∃ calls, ComesToEnd s (listPhased n resource holding) calls token seen := by
  obtain ⟨pages, hc⟩ := h.exists_chain resource hs.mem_phases top.cursor
  exact comesToEnd_of_chain hc hd rfl hs (hs.framesEnd_below h hrest) seen

theorem comesToEnd_of_refuses {token : String} (h : holding.Refuses token) (seen : FirstSeen) :
    ComesToEnd s (listPhased n resource holding) 1 token seen := by
  obtain ⟨fault, hrun⟩ := run_listPhased_of_refuses h seen
  exact .refused (congrArg (Plan.result s) hrun)

/-- **The calls come to an end from frames of any sort**, by induction on them: a frame is refused,
or goes along its chains down to the frames below. -/
theorem framesEnd (h : holding.ListsEnd s n) (resource : ResourceId) (frames : List Frame) :
    FramesEnd s n resource holding frames := by
  induction frames with
  | nil => exact framesEnd_nil
  | cons f rest ih =>
    intro _ seen
    rcases holding.refuses_or_settles (PageStack.encode ⟨f :: rest⟩) with
      hrefuses | ⟨stack, phase, top, below, hd, hs⟩
    · exact ⟨1, comesToEnd_of_refuses hrefuses seen⟩
    · obtain rfl : ⟨f :: rest⟩ = stack := by
        rw [PageStack.decode_encode] at hd
        exact Except.ok.inj hd
      exact comesToEnd_of_settles h hd hs ih seen

/-- **The calls come to an end from any token.** -/
theorem comesToEnd_any (h : holding.ListsEnd s n) (resource : ResourceId) (token : String)
    (seen : FirstSeen) :
    ∃ calls, ComesToEnd s (listPhased n resource holding) calls token seen := by
  rcases holding.refuses_or_settles token with hrefuses | ⟨stack, phase, top, below, hd, hs⟩
  · exact ⟨1, comesToEnd_of_refuses hrefuses seen⟩
  · exact comesToEnd_of_settles h hd hs (framesEnd h resource _) seen

/-! ## Any token -/

/-- **Any token is handled.** A call on a project or a repository in scope whose token is no stack,
or has a top frame that has no place in the listing, is refused: nothing is asked, and what has been
seen stays. With any other token the search for the page that is due replaces one frame at most and
finds a page; the call asks for it at the cursor of its frame, and the token returned has the frames
below as they were. When the lists end from any cursor and the requests for them succeed, calls with
the tokens returned come to the empty token or to one that is refused. -/
theorem any_token (c : Connector) {scope : Scope} (hr : resource.IsHolding holding)
    (hs : scope.contains holding.workspace) (token : String) :
    (holding.Refuses token → ∀ seen, ∃ fault,
      (c.listGrants scope resource token).run seen =
        .done (.error (.invalidPageToken fault), seen)) ∧
    (¬holding.Refuses token → ∃ stack phase top below, PageStack.decode token = .ok stack ∧
      holding.Settles (stack.startWith holding.kind.name) phase top below ∧
      (∀ endless rounds, repeatUpTo endless holding.kind.round (rounds + 2)
        (stack.startWith holding.kind.name) = .ok (some (phase, ⟨top :: below⟩))) ∧
      ∀ seen, Serves ((c.listGrants scope resource token).run seen)
        (holding.list c.pageSize phase top.cursor) fun next => PageStack.encode
          ⟨if next = "" then below else { top with cursor := next } :: below⟩) ∧
    ∀ s, holding.ListsEnd s c.pageSize → ∀ seen, ∃ calls,
      ComesToEnd s (c.listGrants scope resource) calls token seen := by
  rw [listGrants_eq_listPhased c hr hs]
  refine ⟨run_listPhased_of_refuses, ?_, fun s h seen => comesToEnd_any h resource token seen⟩
  intro hnot
  obtain ⟨stack, phase, top, below, hd, hsettles⟩ :=
    (holding.refuses_or_settles token).resolve_left hnot
  refine ⟨stack, phase, top, below, hd, hsettles, ?_, serves_of_settles hd hsettles⟩
  intro endless rounds
  rw [Kind.repeatUpTo_round holding.phases_eq, hsettles.currentPhase_eq]

end

/-- A list of two pages ends from any cursor. -/
theorem Chain.exists_of_two {ε α : Type} {fetch : String → Except ε (Page α)} {first last : Page α}
    (hfirst : fetch "" = .ok first) (hgoes : first.next ≠ "")
    (hlast : ∀ c, c ≠ "" → fetch c = .ok last) (hends : last.next = "") (cursor : String) :
    ∃ pages, Chain fetch cursor pages := by
  by_cases hc : cursor = ""
  · subst hc
    exact ⟨_, .more hfirst hgoes (.last (hlast _ hgoes) hends)⟩
  · exact ⟨_, .last (hlast _ hc) hends⟩

theorem listsEnd_sample : (Holding.project ⟨"w", "p", "P"⟩).ListsEnd sampleServer 100 := by
  refine .project ⟨?_, ?_⟩ ?_ fun _ _ _ _ _ _ => ⟨_, rfl⟩
  · exact Chain.exists_of_two rfl (by decide) (fun _ hc => if_neg hc) rfl
  · exact Chain.exists_of_two rfl (by decide) (fun _ hc => if_neg hc) rfl
  · exact Chain.exists_of_two rfl (by decide) (fun _ hc => if_neg hc) rfl

/-- A workspace is refused. A project in capitals stands for all phases, here with users below it
from a cursor that somebody made up: the repositories are due first. -/
theorem any_token_sample :
    (∃ fault, (Connector.listGrants ⟨100, []⟩ (.workspace "w") ⟨.project, "w:p:P"⟩
        (PageStack.encode ⟨[⟨"workspace", "", ""⟩]⟩)).run .empty =
      .done (.error (.invalidPageToken fault), .empty)) ∧
    Serves ((Connector.listGrants ⟨100, []⟩ (.workspace "w") ⟨.project, "w:p:P"⟩
        (PageStack.encode ⟨[⟨"PROJECT", "", ""⟩, ⟨"User", "", "7"⟩]⟩)).run .empty)
      (.repositories "w" "p" 100 "")
      (fun next => PageStack.encode
        ⟨if next = "" then [⟨"user_group", "", ""⟩, ⟨"user", "", ""⟩, ⟨"User", "", "7"⟩]
          else [⟨"repository", "", next⟩, ⟨"user_group", "", ""⟩, ⟨"user", "", ""⟩,
            ⟨"User", "", "7"⟩]⟩) ∧
    ∃ calls, ComesToEnd sampleServer
      (Connector.listGrants ⟨100, []⟩ (.workspace "w") ⟨.project, "w:p:P"⟩) calls
      (PageStack.encode ⟨[⟨"PROJECT", "", ""⟩, ⟨"User", "", "7"⟩]⟩) .empty := by
  have hr : ResourceId.IsHolding ⟨.project, "w:p:P"⟩ (.project ⟨"w", "p", "P"⟩) := ⟨rfl, rfl⟩
  have hs : (Scope.workspace "w").contains (Holding.project ⟨"w", "p", "P"⟩).workspace := rfl
  have hproject : lower "PROJECT" = Kind.project.name :=
    Kind.read?_eq_some_iff.1 (by decide +kernel)
  refine ⟨?_, ?_, ?_⟩
  · have hrefuses : (Holding.project ⟨"w", "p", "P"⟩).Refuses
        (PageStack.encode ⟨[⟨"workspace", "", ""⟩]⟩) :=
      .inr ⟨_, _, PageStack.decode_encode _,
        .inr ⟨.workspace, List.mem_cons_self, Kind.workspace.lower_name⟩⟩
    exact (any_token ⟨100, []⟩ hr hs _).1 hrefuses .empty
  · have hd := PageStack.decode_encode ⟨[⟨"PROJECT", "", ""⟩, ⟨"User", "", "7"⟩]⟩
    have hwhole : (Holding.project ⟨"w", "p", "P"⟩).Settles
        ⟨[⟨"PROJECT", "", ""⟩, ⟨"User", "", "7"⟩]⟩ _ _ _ := .whole hproject
    obtain ⟨stack, phase, top, below, hd', hsettles, -, hserves⟩ :=
      (any_token ⟨100, []⟩ hr hs _).2.1 (hwhole.not_refuses hd)
    obtain rfl := Except.ok.inj (hd.symm.trans hd')
    cases hsettles with
    | phase part mem =>
      obtain rfl := Kind.name_injective (hproject.symm.trans part)
      exact absurd mem (Place.not_mem_phases _)
    | whole part => exact hserves .empty
  · exact (any_token ⟨100, []⟩ hr hs _).2.2 _ listsEnd_sample .empty

end AccessSync
