import AccessSync.Proofs.Grants.FirstSeen
import AccessSync.Proofs.Grants.Phase
import AccessSync.Proofs.Grants.Place

/-!
# Enumerations of different resources

A connector keeps one record of first sightings for all resources, and every call on a project or a
repository reads it and writes to it. A call reads and writes what the record has of its own
resource and nothing else, whatever its token is. So the calls on a resource are answered as if
there had been no calls on others.

* `Enumeration.Keeps`: what two runs of the same work have in common, when the record is the same
  for one resource.
* `keeps_listGrants`: so it is with every page of grants.
* `answers_of_resource`: the calls on one resource among the calls on many.
-/

namespace AccessSync

/-- The same has been seen of the resource. -/
def FirstSeen.AgreesOn (resource : ResourceId) (seen other : FirstSeen) : Prop :=
  ∀ k, seen.position? resource k = other.position? resource k

namespace FirstSeen.AgreesOn

variable {resource : ResourceId} {seen other third : FirstSeen}

theorem refl (resource : ResourceId) (seen : FirstSeen) : seen.AgreesOn resource seen :=
  fun _ => rfl

theorem trans (h : seen.AgreesOn resource other) (h' : other.AgreesOn resource third) :
    seen.AgreesOn resource third := fun k => (h k).trans (h' k)

theorem reset (h : seen.AgreesOn resource other) (cleared : ResourceId) :
    (seen.reset cleared).AgreesOn resource (other.reset cleared) := by
  intro k
  rw [position?_reset, position?_reset, h k]

/-- A page of grants on the resource keeps the same grants, and the same has been seen then. -/
theorem retainNew (h : seen.AgreesOn resource other) {grants : List Grant}
    (hr : ∀ g ∈ grants, g.resource = resource) (position : String) :
    (seen.retainNew position grants).1 = (other.retainNew position grants).1 ∧
      (seen.retainNew position grants).2.AgreesOn resource (other.retainNew position grants).2 := by
  constructor
  · rw [retainNew_fst, retainNew_fst]
    apply List.filter_congr
    intro g hg
    rw [← without_nil grants] at hg
    unfold isFirstAt
    rw [hr g (mem_of_mem_firstOf hg).1, h g.key]
  · intro k
    rw [position?_retainNew hr, position?_retainNew hr, h k]

end FirstSeen.AgreesOn

/-! ## Operations that come to an end

A plan may also stop without a result. The operations behind a page never do. -/

section
variable {s : Server} {α β : Type}

namespace Operation

/-- The operation comes to an end against the server, with a result or with a failure. -/
def Ends (s : Server) (x : Operation α) : Prop := ∃ r, x.run.result s = .ok r

theorem ends_pure (a : α) : Ends s (pure a) := ⟨_, rfl⟩

theorem ends_ofExcept (r : Except Failure α) : Ends s (Operation.ofExcept r) := ⟨r, rfl⟩

theorem ends_ask (e : Api.Endpoint) : Ends s (Operation.ask e) := ⟨_, rfl⟩

theorem Ends.bind {x : Operation α} (hx : Ends s x) {f : α → Operation β}
    (hf : ∀ a, Ends s (f a)) : Ends s (x >>= f) := by
  obtain ⟨r, hr⟩ := hx
  unfold Ends
  rw [Plan.run_exceptT_bind, Plan.result_bind_of_ok hr]
  cases r with
  | ok a => exact hf a
  | error e => exact ⟨.error e, rfl⟩

end Operation

open Operation (ends_pure ends_ofExcept ends_ask)

variable {pageSize : UInt32} {resource : ResourceId} {holding : Holding}

theorem ends_expandGroups (workspace : String) (held : List (Api.Held Api.GroupRef)) :
    Operation.Ends s (expandGroups resource workspace held) := by
  induction held with
  | nil => exact ends_pure []
  | cons first rest ih =>
    unfold expandGroups
    exact (ends_ask _).bind fun _ => ih.bind fun _ => ends_pure _

theorem ends_phasePage (phase : Kind) (cursor : String) :
    Operation.Ends s (phasePage pageSize resource holding phase cursor) := by
  have hrepositories : ∀ id, holding = .project id →
      Operation.Ends s (repositoryPage pageSize resource id cursor) :=
    fun _ _ => (ends_ask _).bind fun _ => ends_pure _
  have hgroups : Operation.Ends s (groupPage pageSize resource holding cursor) := by
    unfold groupPage
    refine (ends_ask _).bind fun _ => ?_
    cases holding with
    | project id => exact (ends_expandGroups _ _).bind fun _ => ends_pure _
    | repository id => exact ends_pure _
  have husers : Operation.Ends s (userPage pageSize resource holding cursor) :=
    (ends_ask _).bind fun _ => ends_pure _
  exact phasePage_cases cursor (ends_pure _) hrepositories hgroups husers phase

theorem ends_listWorkspaceGrants (token : String) :
    Operation.Ends s (listWorkspaceGrants pageSize resource token) := by
  unfold listWorkspaceGrants listPage
  refine (ends_ofExcept _).bind fun _ => ?_
  refine Operation.Ends.bind ?_ fun _ => ends_pure _
  exact (ends_ask _).bind fun _ => ends_pure _

theorem ends_listGroupGrants : Operation.Ends s (listGroupGrants resource) := by
  unfold listGroupGrants
  refine (ends_ofExcept _).bind fun _ => ?_
  exact (ends_ask _).bind fun _ => ends_pure _

/-! ## Work that keeps to a resource -/

namespace Enumeration

/-- **The work keeps to a resource.** It comes to an end; how it ends, and what has been seen of the
resource then, is told by what was seen of the resource before; and nothing is seen of others. -/
structure Keeps (s : Server) (resource : ResourceId) (x : Enumeration α) : Prop where
  alike : ∀ seen other : FirstSeen, seen.AgreesOn resource other → ∃ r seen' other',
    (x.run seen).result s = .ok (r, seen') ∧ (x.run other).result s = .ok (r, other') ∧
      seen'.AgreesOn resource other'
  apart : ∀ seen r seen', (x.run seen).result s = .ok (r, seen') →
    ∀ q, q ≠ resource → seen'.AgreesOn q seen

theorem Keeps.bind {x : Enumeration α} (hx : Keeps s resource x) {f : α → Enumeration β}
    (hf : ∀ a seen seen', (x.run seen).result s = .ok (.ok a, seen') → Keeps s resource (f a)) :
    Keeps s resource (x >>= f) where
  alike seen other h := by
    obtain ⟨r, seen', other', hseen, hother, hagrees⟩ := hx.alike seen other h
    rw [Plan.run_stateT_bind, Plan.run_stateT_bind, Plan.result_bind_of_ok hseen,
      Plan.result_bind_of_ok hother]
    cases r with
    | error e => exact ⟨.error e, seen', other', rfl, rfl, hagrees⟩
    | ok a => exact (hf a seen seen' hseen).alike seen' other' hagrees
  apart seen r seen'' h q hq := by
    obtain ⟨first, seen', -, hfirst, -, -⟩ := hx.alike seen seen (.refl resource seen)
    have hbetween := hx.apart seen first seen' hfirst q hq
    rw [Plan.run_stateT_bind, Plan.result_bind_of_ok hfirst] at h
    cases first with
    | error e =>
      cases h
      exact hbetween
    | ok a => exact ((hf a seen seen' hfirst).apart seen' r seen'' h q hq).trans hbetween

/-- Work that sees no grants keeps to any resource. -/
theorem keeps_ofOperation {x : Operation α} (h : Operation.Ends s x) :
    Keeps s resource (Enumeration.ofOperation x) := by
  obtain ⟨r, hr⟩ := h
  have hrun : ∀ seen, ((Enumeration.ofOperation x).run seen).result s = .ok (r, seen) := by
    intro seen
    rw [run_ofOperation, Plan.result_bind_of_ok hr]
    rfl
  constructor
  · intro seen other h
    exact ⟨r, seen, other, hrun seen, hrun other, h⟩
  · intro seen r' seen' h q _
    rw [hrun] at h
    cases h
    exact .refl q seen

theorem keeps_ofExcept (r : Except Failure α) : Keeps s resource (Enumeration.ofExcept r) :=
  keeps_ofOperation (ends_ofExcept r)

theorem keeps_pure (a : α) : Keeps s resource (pure a : Enumeration α) := keeps_ofExcept (.ok a)

/-- So does the start of an enumeration. -/
theorem keeps_reset : Keeps s resource (modify (·.reset resource) : Enumeration PUnit) where
  alike seen other h := ⟨.ok ⟨⟩, _, _, rfl, rfl, h.reset resource⟩
  apart seen r seen' h q hq := by
    rw [run_modify] at h
    cases h
    intro k
    rw [FirstSeen.position?_reset, if_neg hq]

/-- So does a page of grants on the resource. -/
theorem keeps_keepNew {grants : List Grant} (hr : ∀ g ∈ grants, g.resource = resource)
    (phase : Kind) (position : String) :
    Keeps s resource (Enumeration.keepNew phase position grants) := by
  unfold keepNew
  by_cases hp : phase = .repository
  · rw [if_pos hp]
    exact keeps_pure grants
  · rw [if_neg hp]
    constructor
    · intro seen other h
      obtain ⟨hkept, hagrees⟩ := h.retainNew hr position
      refine ⟨.ok (seen.retainNew position grants).1, _, _, rfl, ?_, hagrees⟩
      rw [hkept]
      rfl
    · intro seen r seen' h q hq
      cases h
      exact fun k => FirstSeen.position?_retainNew_of_ne hq hr seen position k

end Enumeration

open Enumeration (keeps_ofOperation keeps_ofExcept keeps_pure keeps_reset keeps_keepNew)

theorem keeps_duePage (due : Option (Kind × PageStack)) :
    Enumeration.Keeps s resource (duePage pageSize resource holding due) := by
  cases due with
  | none => exact keeps_pure _
  | some due =>
    obtain ⟨phase, stack⟩ := due
    refine (keeps_ofOperation (ends_phasePage phase stack.cursor)).bind fun page seen seen' h => ?_
    -- the grants that come to be recorded are those of the page, all of them on the resource
    have hpage : (phasePage pageSize resource holding phase stack.cursor).run.result s =
        .ok (.ok page) := by
      obtain ⟨r, hr⟩ : Operation.Ends s (phasePage pageSize resource holding phase stack.cursor) :=
        ends_phasePage phase stack.cursor
      rw [Enumeration.run_ofOperation, Plan.result_bind_of_ok hr] at h
      cases h
      exact hr
    have hgrants := grantsOn_phasePage phase stack.cursor page hpage
    exact (keeps_keepNew hgrants phase stack.position).bind fun _ _ _ _ => keeps_pure _

theorem keeps_listPhased (token : String) :
    Enumeration.Keeps s resource (listPhased pageSize resource holding token) := by
  unfold listPhased
  refine (keeps_ofExcept _).bind fun stack _ _ _ => ?_
  have hrest : Enumeration.Keeps s resource (do
      let due ← Enumeration.ofExcept
        (holding.kind.currentPhase (stack.startWith holding.kind.name))
      duePage pageSize resource holding due) :=
    (keeps_ofExcept _).bind fun due _ _ _ => keeps_duePage due
  by_cases hstart : stack.frames.isEmpty = true
  · simp only [if_pos hstart]
    exact keeps_reset.bind fun _ _ _ _ => hrest
  · simp only [if_neg hstart]
    exact (keeps_pure ()).bind fun _ _ _ _ => hrest

/-- **A page of the grants on a resource** keeps to the resource, whatever the token is. -/
theorem keeps_listGrants (c : Connector) (scope : Scope) (resource : ResourceId) (token : String) :
    Enumeration.Keeps s resource (c.listGrants scope resource token) := by
  unfold Connector.listGrants
  refine (keeps_ofExcept _).bind fun _ _ _ _ => ?_
  unfold listGrants
  cases resource.kind with
  | workspace => exact keeps_ofOperation (ends_listWorkspaceGrants token)
  | user => exact keeps_pure _
  | userGroup => exact keeps_ofOperation ends_listGroupGrants
  | project => exact (keeps_ofExcept _).bind fun _ _ _ _ => keeps_listPhased token
  | repository => exact (keeps_ofExcept _).bind fun _ _ _ _ => keeps_listPhased token

end

/-! ## Calls on many resources -/

/-- A call for a page of the grants on a resource. -/
structure GrantCall where
  scope : Scope
  resource : ResourceId
  token : String

/-- The calls on a resource, in their order. -/
def GrantCall.on (resource : ResourceId) (calls : List GrantCall) : List GrantCall :=
  calls.filter (·.resource = resource)

/-- Calls made on a connector one after the other, each with its answer, which may be a failure. -/
def Connector.answers (c : Connector) : List GrantCall →
    StateT FirstSeen Dialogue (List (GrantCall × Except Failure (Page Grant)))
  | [] => return []
  | call :: rest => do
    let answer ← (c.listGrants call.scope call.resource call.token).run
    return (call, answer) :: (← c.answers rest)

section
variable {s : Server} {c : Connector} {seen seen' : FirstSeen}

/-- The calls after a call start from what it has seen. -/
theorem result_answers_cons {call : GrantCall} {answer : Except Failure (Page Grant)}
    (h : ((c.listGrants call.scope call.resource call.token).run seen).result s =
      .ok (answer, seen'))
    {rest : List GrantCall} {told : List (GrantCall × Except Failure (Page Grant))}
    {seen'' : FirstSeen} (hrest : (c.answers rest seen').result s = .ok (told, seen'')) :
    (c.answers (call :: rest) seen).result s = .ok ((call, answer) :: told, seen'') := by
  show (((c.listGrants call.scope call.resource call.token).run seen >>= fun out =>
    c.answers rest out.2 >>= fun more => .done ((call, out.1) :: more.1, more.2)).result s) = _
  rw [Plan.result_bind_of_ok h, Plan.result_bind_of_ok hrest]
  rfl

/-- The calls on the resource are answered alike from records that agree on the resource. -/
theorem answers_of_agreesOn (s : Server) (c : Connector) (resource : ResourceId)
    (calls : List GrantCall) {seen other : FirstSeen} (h : seen.AgreesOn resource other) :
    ∃ told alone seen' other',
      (c.answers calls seen).result s = .ok (told, seen') ∧
      (c.answers (GrantCall.on resource calls) other).result s = .ok (alone, other') ∧
      told.map Prod.fst = calls ∧ told.filter (·.1.resource = resource) = alone := by
  induction calls generalizing seen other with
  | nil => exact ⟨[], [], seen, other, rfl, rfl, rfl, rfl⟩
  | cons call rest ih =>
    have hkeeps := keeps_listGrants (s := s) c call.scope call.resource call.token
    by_cases hr : call.resource = resource
    · -- the call is made on both connectors, and answered in the same way
      subst hr
      obtain ⟨answer, seen₁, other₁, hseen, hother, hagrees⟩ := hkeeps.alike seen other h
      obtain ⟨told, alone, seen', other', htold, halone, hcalls, hon⟩ := ih hagrees
      have hfilter : GrantCall.on call.resource (call :: rest) =
          call :: GrantCall.on call.resource rest := List.filter_cons_of_pos (by simp)
      refine ⟨(call, answer) :: told, (call, answer) :: alone, seen', other', ?_, ?_, ?_, ?_⟩
      · exact result_answers_cons hseen htold
      · rw [hfilter]
        exact result_answers_cons hother halone
      · rw [List.map_cons, hcalls]
      · rw [List.filter_cons_of_pos (by simp), hon]
    · -- the call is made on one of them alone, and nothing is seen of the resource
      obtain ⟨answer, seen₁, -, hseen, -, -⟩ := hkeeps.alike seen seen (.refl _ seen)
      have hagrees := (hkeeps.apart seen answer seen₁ hseen resource (Ne.symm hr)).trans h
      obtain ⟨told, alone, seen', other', htold, halone, hcalls, hon⟩ := ih hagrees
      have hfilter : GrantCall.on resource (call :: rest) = GrantCall.on resource rest :=
        List.filter_cons_of_neg (by simp [hr])
      refine ⟨(call, answer) :: told, alone, seen', other', ?_, ?_, ?_, ?_⟩
      · exact result_answers_cons hseen htold
      · rw [hfilter]
        exact halone
      · rw [List.map_cons, hcalls]
      · rw [List.filter_cons_of_neg (by simp [hr]), hon]

end

/-- **Enumerations of different resources do not interfere.** Calls on any resources, with any
tokens and in any order, are all answered, and those on a resource are answered as they are when
they are the only calls on a connector that has seen nothing. -/
theorem answers_of_resource (s : Server) (c : Connector) (resource : ResourceId)
    (calls : List GrantCall) :
    ∃ told alone seen seen',
      (c.answers calls .empty).result s = .ok (told, seen) ∧
      (c.answers (GrantCall.on resource calls) .empty).result s = .ok (alone, seen') ∧
      told.map Prod.fst = calls ∧ told.filter (·.1.resource = resource) = alone :=
  answers_of_agreesOn s c resource calls (.refl resource .empty)

end AccessSync
