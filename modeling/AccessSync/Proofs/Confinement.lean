import AccessSync.Proofs.Grants.Enumeration
import AccessSync.Proofs.Provision.Change

/-!
# Confinement to the scope

Whatever a connector is asked to do in a scope, and whatever the server replies, the connector asks
only about workspaces in scope. A call that names something in a workspace out of scope is denied,
and nothing is asked at all.

* `Call`: the calls of a connector that take a scope.
* `confinement`: what they ask about.
-/

namespace AccessSync

open Api (Endpoint)
open Plan (asks_exceptT_bind asks_stateT_bind)

/-! ## Calls -/

/-- A call of a connector with a scope. -/
inductive Call
  | listResources (kind : Kind) (parent : Option ResourceId) (token : String)
  | listGrants (resource : ResourceId) (token : String)
  | change (what : Provision.Change)

namespace Call

/-- What a call returns. -/
abbrev Answer : Call → Type
  | .listResources .. => Page Resource
  | .listGrants .. => Page Grant
  | .change _ => Unit

/-- What a call names that may lie in a workspace: the parent or the resource. -/
def subject? : Call → Option ResourceId
  | .listResources _ parent _ => parent
  | .listGrants resource _ => some resource
  | .change what => some what.resource

/-- The work of a call, with what has been seen before it and after it. -/
def plan (c : Connector) (scope : Scope) (seen : FirstSeen) :
    (call : Call) → Dialogue (Except Failure call.Answer × FirstSeen)
  | .listResources kind parent token =>
    (c.listResources scope kind parent token).run >>= fun r => .done (r, seen)
  | .listGrants resource token => (c.listGrants scope resource token).run seen
  | .change what => (what.perform scope).run >>= fun r => .done (r, seen)

end Call

/-- The endpoint concerns the caller, or a workspace in scope. -/
def Scope.Allows (scope : Scope) (e : Endpoint) : Prop :=
  ∀ w, e.workspace? = some w → w ∈ scope.workspaceIds

/-! ## Listings -/

section
variable {scope : Scope} {α β : Type}

theorem Scope.mem_of_check {id : ResourceId} {w : String} (h : scope.check id = .ok ())
    (hw : id.workspace? = .ok (some w)) : w ∈ scope.workspaceIds := by
  simpa [contains] using (check_eq_ok_iff hw).1 h

theorem Scope.allows_of_mem {e : Endpoint} {w : String} (he : e.workspace? = some w)
    (hw : w ∈ scope.workspaceIds) : scope.Allows e := by
  intro w' hw'
  obtain rfl : w = w' := by simpa [he] using hw'
  exact hw

namespace Operation

variable {P : Endpoint → Prop}

theorem asks_ofExcept_bind {r : Except Failure α} {f : α → Operation β}
    (h : ∀ a, r = .ok a → (f a).run.Asks P) : (Operation.ofExcept r >>= f).run.Asks P := by
  cases r with
  | ok a => exact h a rfl
  | error e => trivial

/-- A page of a list asks what its fetch asks. -/
theorem asks_listPage {kind : Kind} {token : String} {fetch : String → Operation (Page α)}
    (h : ∀ cursor, (fetch cursor).run.Asks P) : (listPage kind token fetch).run.Asks P :=
  asks_ofExcept_bind fun _ _ => asks_exceptT_bind (h _) fun _ => trivial

end Operation

theorem asks_listWorkspaces (pageSize : UInt32) (scope : Scope) (token : String) :
    (listWorkspaces pageSize scope token).run.Asks scope.Allows := by
  unfold listWorkspaces
  cases scope with
  | workspace id =>
    refine asks_exceptT_bind (Operation.asks_ask ?_) fun _ => trivial
    exact Scope.allows_of_mem rfl List.mem_cons_self
  | user id workspaces =>
    refine Operation.asks_listPage fun cursor => ?_
    exact asks_exceptT_bind (Operation.asks_ask fun w hw => nomatch hw) fun _ => trivial

theorem asks_listRepositories (pageSize : UInt32) {parent : ResourceId} (token : String)
    (h : ∀ project, ProjectId.read parent.key = .ok project →
      project.workspace ∈ scope.workspaceIds) :
    (listRepositories pageSize parent token).run.Asks scope.Allows := by
  refine Operation.asks_ofExcept_bind fun project hproject => ?_
  refine Operation.asks_listPage fun cursor => ?_
  refine asks_exceptT_bind (Operation.asks_ask ?_) fun _ => trivial
  exact Scope.allows_of_mem rfl (h project hproject)

/-- **A page of resources** is asked for within the scope. -/
theorem asks_listKind (pageSize : UInt32) (kind : Kind) {parent : Option ResourceId}
    (hp : ∀ p, parent = some p → scope.check p = .ok ()) (token : String) :
    (listKind pageSize scope kind parent token).run.Asks scope.Allows := by
  -- whatever has a parent is listed below one of the right kind, or there is nothing to list
  have checked {k : Kind} {p : ResourceId} (h : parentOf k parent = some p) :
      scope.check p = .ok () ∧ p.kind = k := by
    obtain ⟨hsome, hkind⟩ : parent = some p ∧ p.kind = k := by
      simpa [parentOf, Option.filter_eq_some_iff] using h
    exact ⟨hp p hsome, hkind⟩
  have inside {p : ResourceId} (h : parentOf .workspace parent = some p) :
      p.key ∈ scope.workspaceIds :=
    Scope.mem_of_check (checked h).1 (ResourceId.workspace?_of_workspace (checked h).2)
  unfold listKind
  cases kind with
  | workspace => exact asks_listWorkspaces pageSize scope token
  | user =>
    dsimp only
    cases hparent : parentOf .workspace parent with
    | none => trivial
    | some p =>
      refine Operation.asks_listPage fun cursor => ?_
      refine asks_exceptT_bind (Operation.asks_ask ?_) fun _ => trivial
      exact Scope.allows_of_mem rfl (inside hparent)
  | userGroup =>
    dsimp only
    cases hparent : parentOf .workspace parent with
    | none => trivial
    | some p =>
      refine asks_exceptT_bind (Operation.asks_ask ?_) fun _ => trivial
      exact Scope.allows_of_mem rfl (inside hparent)
  | project =>
    dsimp only
    cases hparent : parentOf .workspace parent with
    | none => trivial
    | some p =>
      refine Operation.asks_listPage fun cursor => ?_
      refine asks_exceptT_bind (Operation.asks_ask ?_) fun _ => trivial
      exact Scope.allows_of_mem rfl (inside hparent)
  | repository =>
    dsimp only
    cases hparent : parentOf .project parent with
    | none => trivial
    | some p =>
      refine asks_listRepositories pageSize token fun project hproject => ?_
      have hholding : p.IsHolding (.project project) := ⟨(checked hparent).2, hproject⟩
      exact Scope.mem_of_check (checked hparent).1 hholding.workspace?

namespace Enumeration

variable {P : Endpoint → Prop} {seen : FirstSeen}

theorem asks_ofExcept_bind {r : Except Failure α} {f : α → Enumeration β}
    (h : ∀ a, r = .ok a → ((f a).run seen).Asks P) :
    ((Enumeration.ofExcept r >>= f).run seen).Asks P := by
  cases r with
  | ok a => exact h a rfl
  | error e => trivial

theorem asks_ofOperation {work : Operation α} (h : work.run.Asks P) :
    ((Enumeration.ofOperation work).run seen).Asks P :=
  h.bind fun _ => trivial

end Enumeration

theorem Scope.allows_list (n : UInt32) {holding : Holding}
    (hw : holding.workspace ∈ scope.workspaceIds) (phase : Kind) (cursor : String) :
    scope.Allows (holding.list n phase cursor) := by
  refine Scope.allows_of_mem ?_ hw
  cases holding <;> cases phase <;> rfl

theorem asks_listPhased (pageSize : UInt32) (resource : ResourceId) {holding : Holding}
    (hw : holding.workspace ∈ scope.workspaceIds) (token : String) (seen : FirstSeen) :
    ((listPhased pageSize resource holding token).run seen).Asks scope.Allows := by
  -- a token of another listing may name any phase and any page
  have hdue (due : Option (Kind × PageStack)) (seen : FirstSeen) :
      ((duePage pageSize resource holding due).run seen).Asks scope.Allows := by
    cases due with
    | none => trivial
    | some due =>
      refine asks_stateT_bind (Enumeration.asks_ofOperation ?_) fun page seen => ?_
      · exact asks_phasePage (Scope.allows_list pageSize hw due.1 due.2.cursor) fun _ =>
        Scope.allows_of_mem rfl hw
      · refine asks_stateT_bind ?_ fun kept seen => trivial
        unfold Enumeration.keepNew
        split <;> trivial
  refine Enumeration.asks_ofExcept_bind fun stack _ => ?_
  split
  · refine asks_stateT_bind ?_ fun _ seen => ?_
    · trivial
    · exact Enumeration.asks_ofExcept_bind fun due _ => hdue due seen
  · exact Enumeration.asks_ofExcept_bind fun due _ => hdue due seen

/-- **A page of grants** is asked for within the scope. -/
theorem asks_listGrants (pageSize : UInt32) {resource : ResourceId}
    (hs : scope.check resource = .ok ()) (token : String) (seen : FirstSeen) :
    ((listGrants pageSize resource token).run seen).Asks scope.Allows := by
  unfold listGrants
  cases hk : resource.kind with
  | workspace =>
    have hw := Scope.mem_of_check hs (ResourceId.workspace?_of_workspace hk)
    refine Enumeration.asks_ofOperation (Operation.asks_listPage fun cursor => ?_)
    exact asks_exceptT_bind (Operation.asks_ask (Scope.allows_of_mem rfl hw)) fun _ => trivial
  | userGroup =>
    refine Enumeration.asks_ofOperation (Operation.asks_ofExcept_bind fun group hgroup => ?_)
    have hw := Scope.mem_of_check hs (ResourceId.workspace?_of_userGroup hk hgroup)
    exact asks_exceptT_bind (Operation.asks_ask (Scope.allows_of_mem rfl hw)) fun _ => trivial
  | project =>
    refine Enumeration.asks_ofExcept_bind fun id hid => ?_
    have hholding : resource.IsHolding (.project id) := ⟨hk, hid⟩
    exact asks_listPhased pageSize resource (Scope.mem_of_check hs hholding.workspace?) token seen
  | repository =>
    refine Enumeration.asks_ofExcept_bind fun id hid => ?_
    have hholding : resource.IsHolding (.repository id) := ⟨hk, hid⟩
    exact asks_listPhased pageSize resource (Scope.mem_of_check hs hholding.workspace?) token seen
  | user => trivial

end

/-! ## All calls -/

section
variable {σ : Type} {scope : Scope}

theorem Scope.check_of_not_mem {id : ResourceId} {w : String} (hid : id.workspace? = .ok (some w))
    (hw : w ∉ scope.workspaceIds) :
    scope.check id =
      .error (.permissionDenied s!"workspace {w} is outside the connector scope") := by
  unfold check contains
  rw [hid]
  simp [hw]

/-- What a change asks about is in scope. -/
theorem Provision.Change.allows_of_mem_exchanges (c : Provision.Change) (scope : Scope)
    (up : Responder Endpoint.Reply σ) (s : σ) :
    ∀ x ∈ ((c.perform scope).run.course up s).exchanges, scope.Allows x.question := by
  intro x hx
  cases hentry : c.entry scope with
  | error f =>
    rw [run_perform_of_error hentry] at hx
    exact absurd hx List.not_mem_nil
  | ok e =>
    rw [course_perform hentry] at hx
    have hw : e.workspace ∈ scope.workspaceIds := (workspace_of_entry hentry).2
    rcases Entry.question_of_mem_course hx with hshown | hchanged
    · rw [hshown]
      exact Scope.allows_of_mem e.workspace?_shown hw
    · rw [hchanged]
      exact Scope.allows_of_mem (e.workspace?_changed _ _) hw

/-- **A page of resources** is asked for within the scope. -/
theorem asks_listResources (c : Connector) (scope : Scope) (kind : Kind)
    (parent : Option ResourceId) (token : String) :
    (c.listResources scope kind parent token).run.Asks scope.Allows := by
  unfold Connector.listResources
  cases parent with
  | none => exact asks_listKind c.pageSize kind (fun _ hp => by cases hp) token
  | some p =>
    refine Operation.asks_ofExcept_bind fun _ hp => asks_listKind c.pageSize kind ?_ token
    intro p' hp'
    obtain rfl := Option.some.inj hp'
    exact hp

/-- **Every call is confined to the scope.** Each endpoint that it asks and that concerns a
workspace concerns one in scope. If what the call names lies in a workspace out of scope the call is
denied, nothing is asked, and nothing is taken as seen. -/
theorem confinement (c : Connector) (scope : Scope) (seen : FirstSeen) (call : Call)
    (up : Responder Endpoint.Reply σ) (s : σ) :
    (∀ x ∈ ((call.plan c scope seen).course up s).exchanges,
      ∀ w, x.question.workspace? = some w → w ∈ scope.workspaceIds) ∧
    ∀ id w, call.subject? = some id → id.workspace? = .ok (some w) → w ∉ scope.workspaceIds →
      (call.plan c scope seen).course up s =
        ⟨.ok (.error (.permissionDenied s!"workspace {w} is outside the connector scope"), seen),
          [], s⟩ := by
  constructor
  · intro x hx
    cases call with
    | listResources kind parent token =>
      have hasks : (Call.plan c scope seen (.listResources kind parent token)).Asks scope.Allows :=
        (asks_listResources c scope kind parent token).bind fun _ => trivial
      exact hasks.exchanges up s x hx
    | listGrants resource token =>
      have hasks : (Call.plan c scope seen (.listGrants resource token)).Asks scope.Allows :=
        Enumeration.asks_ofExcept_bind fun _ hs => asks_listGrants c.pageSize hs token seen
      exact hasks.exchanges up s x hx
    | change what =>
      have hlog := Plan.exchanges_bind_done up (what.perform scope).run (fun r => (r, seen)) s
      have hmem : x ∈ ((what.perform scope).run.course up s).exchanges := hlog ▸ hx
      exact what.allows_of_mem_exchanges scope up s x hmem
  · intro id w hid hw hout
    -- the scope is looked at before anything is asked
    have hcheck := Scope.check_of_not_mem hw hout
    cases call with
    | listResources kind parent token =>
      obtain rfl : parent = some id := hid
      unfold Call.plan Connector.listResources
      simp only [hcheck]
      rfl
    | listGrants resource token =>
      obtain rfl : resource = id := Option.some.inj hid
      unfold Call.plan Connector.listGrants
      simp only [hcheck]
      rfl
    | change what =>
      obtain rfl : what.resource = id := Option.some.inj hid
      have hentry : what.entry scope = .error
          (.permissionDenied s!"workspace {w} is outside the connector scope") := by
        unfold Provision.Change.entry Provision.Change.changed
        rw [hcheck]
        rfl
      unfold Call.plan
      simp only [Provision.Change.run_perform_of_error hentry]
      rfl

/-- In its workspace a project is asked about, in another one its listing is denied. -/
theorem confinement_sample :
    let up : Responder Endpoint.Reply Unit := fun e s => (sampleServer e, s)
    let call : Call := .listGrants ⟨.project, "w:p:P"⟩ ""
    (∃ x ∈ ((call.plan ⟨100, []⟩ (.workspace "w") .empty).course up ()).exchanges,
      x.question = .repositories "w" "p" 100 "" ∧ "w" ∈ (Scope.workspace "w").workspaceIds) ∧
    (call.plan ⟨100, []⟩ (.workspace "v") .empty).course up () =
      ⟨.ok (.error (.permissionDenied "workspace w is outside the connector scope"), .empty),
        [], ()⟩ := by
  intro up call
  constructor
  · let first : Exchange Endpoint.Reply :=
      ⟨.repositories "w" "p" 100 "", sampleServer (.repositories "w" "p" 100 "")⟩
    have hfirst : first ∈ ((call.plan ⟨100, []⟩ (.workspace "w") .empty).course up ()).exchanges :=
      List.mem_cons_self
    have hconfined := confinement ⟨100, []⟩ (.workspace "w") .empty call up ()
    exact ⟨first, hfirst, rfl, hconfined.1 first hfirst "w" rfl⟩
  · exact (confinement ⟨100, []⟩ (.workspace "v") .empty call up ()).2 ⟨.project, "w:p:P"⟩ "w" rfl
      rfl (by decide)

end

end AccessSync
