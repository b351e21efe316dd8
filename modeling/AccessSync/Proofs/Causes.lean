import AccessSync.Proofs.Course
import AccessSync.Proofs.Catalog.Listing
import AccessSync.Proofs.Grants.Enumeration
import AccessSync.Proofs.Provision.Checks

/-!
# Causes of failures

A listing that may be made, on a resource whose key can be read, fails for one of two reasons: the
page token is no good, or a request on the way met a fault. Nothing else stands in its way.

* `Failure.HasCause`: the two reasons.
* `Operation.FailsWithCause`, `Enumeration.FailsWithCause`: work that fails for these alone.
* `failsWithCause_listResources`: a page of resources below a parent in scope.
* `failsWithCause_listGrants`: a page of grants on a resource in scope.
-/

namespace AccessSync

open Api (Endpoint Held)
open Provision (workspace?_of_check)
open Plan (yields_bind yields_exceptT_bind_error yields_stateT_bind_error)

/-- The failure has its cause in the page token, or in the fault of a request that may meet it. -/
inductive Failure.HasCause (may : (e : Endpoint) → e.Reply → Prop) : Failure → Prop
  | token (fault : TokenFault) : HasCause may (.invalidPageToken fault)
  | request {e : Endpoint} {fault : Fault} (met : may e (.error fault)) :
    HasCause may fault.failure

variable {may : (e : Endpoint) → e.Reply → Prop} {α β : Type}

/-- A page token that cannot be decoded is at fault itself. -/
theorem hasCause_of_decode {token : String} {f : Failure} (h : PageStack.decode token = .error f) :
    f.HasCause may := by
  unfold PageStack.decode at h
  split at h
  · cases h
  · split at h
    · cases h
    · cases h
      exact .token _

/-- A page token of another phase is at fault itself. -/
theorem hasCause_of_currentPhase {listed : Kind} {stack : PageStack} {f : Failure}
    (h : listed.currentPhase stack = .error f) : f.HasCause may := by
  unfold Kind.currentPhase PageStack.kind? at h
  split at h
  · rename_i e hkind
    split at hkind
    · cases hkind
    · split at hkind
      · cases hkind
      · cases hkind
        cases h
        exact .token _
  · cases h
  · split at h
    · cases h
    · split at h
      · cases h
      · cases h
        exact .token _

/-! ## Keys of resources in scope -/

section
variable {id : ResourceId} {w? : Option String}

theorem ResourceId.exists_groupId (hk : id.kind = .userGroup) (h : id.workspace? = .ok w?) :
    ∃ group, GroupId.read id.key = .ok group := by
  unfold workspace? at h
  rw [hk] at h
  obtain ⟨group, hread, -⟩ := except_map_eq_ok h
  exact ⟨group, hread⟩

theorem ResourceId.exists_projectId (hk : id.kind = .project) (h : id.workspace? = .ok w?) :
    ∃ project, ProjectId.read id.key = .ok project := by
  unfold workspace? at h
  rw [hk] at h
  obtain ⟨project, hread, -⟩ := except_map_eq_ok h
  exact ⟨project, hread⟩

theorem ResourceId.exists_repositoryId (hk : id.kind = .repository) (h : id.workspace? = .ok w?) :
    ∃ repository, RepositoryId.read id.key = .ok repository := by
  unfold workspace? at h
  rw [hk] at h
  obtain ⟨repository, hread, -⟩ := except_map_eq_ok h
  exact ⟨repository, hread⟩

end

/-! ## Operations -/

namespace Operation

/-- Whatever failure the work may end with has its cause in the page token or in a request. -/
def FailsWithCause (may : (e : Endpoint) → e.Reply → Prop) (work : Operation α) : Prop :=
  ∀ f, work.run.Yields may (.error f) → f.HasCause may

theorem failsWithCause_pure (a : α) : FailsWithCause may (pure a) := by
  intro f h
  cases h

theorem failsWithCause_ask (e : Endpoint) : FailsWithCause may (Operation.ask e) := by
  rintro f ⟨reply, hreply, h⟩
  cases reply with
  | ok a => cases h
  | error fault =>
    cases h
    exact .request hreply

theorem failsWithCause_ofExcept {r : Except Failure α} (h : ∀ f, r = .error f → f.HasCause may) :
    FailsWithCause may (Operation.ofExcept r) := h

/-- What needs no work and succeeds is no cause. -/
theorem failsWithCause_ofExcept_bind {r : Except Failure α} {a : α} (h : r = .ok a)
    {next : α → Operation β} (hn : FailsWithCause may (next a)) :
    FailsWithCause may (Operation.ofExcept r >>= next) := by
  rw [h]
  exact hn

theorem FailsWithCause.bind {work : Operation α} (hw : FailsWithCause may work)
    {next : α → Operation β} (hn : ∀ a, FailsWithCause may (next a)) :
    FailsWithCause may (work >>= next) := by
  intro f h
  rcases yields_exceptT_bind_error h with h | ⟨a, -, h⟩
  · exact hw f h
  · exact hn a f h

/-- What is made of one answer. -/
theorem failsWithCause_ask_map (e : Endpoint) (g : e.Answer → α) :
    FailsWithCause may (do return g (← Operation.ask e)) :=
  (failsWithCause_ask e).bind fun _ => failsWithCause_pure _

end Operation

open Operation (failsWithCause_pure failsWithCause_ask failsWithCause_ask_map failsWithCause_ofExcept)

/-- A page of a list fails with its token, or as the list does. -/
theorem failsWithCause_listPage {kind : Kind} {token : String} {fetch : String → Operation (Page α)}
    (h : ∀ cursor, (fetch cursor).FailsWithCause may) :
    (listPage kind token fetch).FailsWithCause may := by
  have hdecode : (Operation.ofExcept (PageStack.decode token)).FailsWithCause may :=
    failsWithCause_ofExcept fun _ => hasCause_of_decode
  exact hdecode.bind fun _ => (h _).bind fun _ => failsWithCause_pure _

/-! ## Resources -/

section
variable {pageSize : UInt32} {scope : Scope} {resource : ResourceId} {holding : Holding}

theorem failsWithCause_listWorkspaces (token : String) :
    (listWorkspaces pageSize scope token).FailsWithCause may := by
  unfold listWorkspaces
  cases scope with
  | workspace id => exact failsWithCause_ask_map _ _
  | user user ids =>
    exact failsWithCause_listPage fun _ => failsWithCause_ask_map _ _

/-- A page of a kind below a parent whose key can be read. -/
theorem failsWithCause_listKind {kind : Kind} {parent : Option ResourceId} (token : String)
    (h : ∀ p, parent = some p → ∃ w?, p.workspace? = .ok w?) :
    (listKind pageSize scope kind parent token).FailsWithCause may := by
  unfold listKind
  cases kind with
  | workspace => exact failsWithCause_listWorkspaces token
  | user =>
    dsimp only
    cases parentOf .workspace parent with
    | none => exact failsWithCause_pure _
    | some w =>
      exact failsWithCause_listPage fun _ => failsWithCause_ask_map _ _
  | userGroup =>
    dsimp only
    cases parentOf .workspace parent with
    | none => exact failsWithCause_pure _
    | some w => exact failsWithCause_ask_map _ _
  | project =>
    dsimp only
    cases parentOf .workspace parent with
    | none => exact failsWithCause_pure _
    | some w =>
      exact failsWithCause_listPage fun _ => failsWithCause_ask_map _ _
  | repository =>
    dsimp only
    cases hp : parentOf .project parent with
    | none => exact failsWithCause_pure _
    | some p =>
      obtain ⟨hparent, hkind⟩ := Option.filter_eq_some_iff.1 hp
      obtain ⟨w?, hw⟩ := h p hparent
      obtain ⟨id, hid⟩ := ResourceId.exists_projectId (by simpa using hkind) hw
      refine Operation.failsWithCause_ofExcept_bind hid ?_
      exact failsWithCause_listPage fun _ => failsWithCause_ask_map _ _

/-- **A page of resources below a parent in scope** fails for its token or for a request. -/
theorem failsWithCause_listResources (c : Connector) {kind : Kind} {parent : ResourceId}
    (h : scope.check parent = .ok ()) (token : String) :
    (c.listResources scope kind (some parent) token).FailsWithCause may := by
  rw [listResources_some c h]
  refine failsWithCause_listKind token ?_
  rintro p ⟨⟩
  exact workspace?_of_check h

/-! ## Pages of phases -/

theorem failsWithCause_expandGroups (workspace : String) (held : List (Held Api.GroupRef)) :
    (expandGroups resource workspace held).FailsWithCause may := by
  induction held with
  | nil => exact failsWithCause_pure _
  | cons first rest ih =>
    unfold expandGroups
    exact (failsWithCause_ask _).bind fun _ => ih.bind fun _ => failsWithCause_pure _

theorem failsWithCause_groupPage (cursor : String) :
    (groupPage pageSize resource holding cursor).FailsWithCause may := by
  unfold groupPage
  refine (failsWithCause_ask _).bind fun _ => ?_
  cases holding with
  | project id => exact (failsWithCause_expandGroups _ _).bind fun _ => failsWithCause_pure _
  | repository id => exact failsWithCause_pure _

theorem failsWithCause_phasePage (phase : Kind) (cursor : String) :
    (phasePage pageSize resource holding phase cursor).FailsWithCause may := by
  have hrepositories : ∀ id, holding = .project id →
      (repositoryPage pageSize resource id cursor).FailsWithCause may :=
    fun _ _ => failsWithCause_ask_map _ _
  have husers : (userPage pageSize resource holding cursor).FailsWithCause may :=
    failsWithCause_ask_map _ _
  exact phasePage_cases cursor (failsWithCause_pure _) hrepositories
    (failsWithCause_groupPage cursor) husers phase

end

/-! ## Enumerations -/

namespace Enumeration

/-- The same for work on grants, whatever it has seen. -/
def FailsWithCause (may : (e : Endpoint) → e.Reply → Prop) (work : Enumeration α) : Prop :=
  ∀ seen f seen', (work.run seen).Yields may (.error f, seen') → f.HasCause may

theorem failsWithCause_pure (a : α) : FailsWithCause may (pure a) := by
  intro seen f seen' h
  cases h

theorem failsWithCause_ofExcept {r : Except Failure α} (h : ∀ f, r = .error f → f.HasCause may) :
    FailsWithCause may (Enumeration.ofExcept r) := by
  intro seen f seen' hr
  cases hr
  exact h f rfl

theorem failsWithCause_ofOperation {work : Operation α} (h : work.FailsWithCause may) :
    FailsWithCause may (Enumeration.ofOperation work) := by
  intro seen f seen' hf
  rw [run_ofOperation, yields_bind] at hf
  obtain ⟨r, hr, hf⟩ := hf
  cases hf
  exact h f hr

theorem failsWithCause_keepNew (phase : Kind) (position : String) (grants : List Grant) :
    FailsWithCause may (keepNew phase position grants) := by
  intro seen f seen' h
  unfold keepNew at h
  split at h
  · cases h
  · cases h

theorem FailsWithCause.bind {work : Enumeration α} (hw : FailsWithCause may work)
    {next : α → Enumeration β} (hn : ∀ a, FailsWithCause may (next a)) :
    FailsWithCause may (work >>= next) := by
  intro seen f seen' h
  rcases yields_stateT_bind_error h with ⟨between, h⟩ | ⟨a, between, -, h⟩
  · exact hw seen f between h
  · exact hn a between f seen' h

end Enumeration

section
variable {pageSize : UInt32} {scope : Scope} {resource : ResourceId} {holding : Holding}

theorem failsWithCause_duePage (due : Option (Kind × PageStack)) :
    (duePage pageSize resource holding due).FailsWithCause may := by
  cases due with
  | none => exact Enumeration.failsWithCause_pure _
  | some due =>
    have hpage : (phasePage pageSize resource holding due.1 due.2.cursor).FailsWithCause may :=
      failsWithCause_phasePage due.1 due.2.cursor
    exact (Enumeration.failsWithCause_ofOperation hpage).bind fun _ =>
      (Enumeration.failsWithCause_keepNew _ _ _).bind fun _ => Enumeration.failsWithCause_pure _

theorem failsWithCause_listPhased (token : String) :
    (listPhased pageSize resource holding token).FailsWithCause may := by
  have hdecode : (Enumeration.ofExcept (PageStack.decode token)).FailsWithCause may :=
    Enumeration.failsWithCause_ofExcept fun _ => hasCause_of_decode
  have hrest (stack : PageStack) : (Enumeration.ofExcept (holding.kind.currentPhase stack) >>=
      duePage pageSize resource holding).FailsWithCause may :=
    (Enumeration.failsWithCause_ofExcept fun _ => hasCause_of_currentPhase).bind
      failsWithCause_duePage
  unfold listPhased
  refine hdecode.bind fun stack => ?_
  -- a clean record at the start makes no difference here
  split
  · have hclean : Enumeration.FailsWithCause may
        (modify (·.reset resource) : Enumeration PUnit) := by
      intro seen f seen' h
      cases h
    exact hclean.bind fun _ => hrest _
  · exact hrest _

/-- **A page of grants on a resource in scope** fails for its token or for a request. -/
theorem failsWithCause_listGrants (c : Connector) (h : scope.check resource = .ok ())
    (token : String) : (c.listGrants scope resource token).FailsWithCause may := by
  obtain ⟨w?, hw⟩ := workspace?_of_check h
  rw [listGrants_of_check c h]
  unfold listGrants
  cases hkind : resource.kind with
  | workspace =>
    exact Enumeration.failsWithCause_ofOperation
      (failsWithCause_listPage fun _ => failsWithCause_ask_map _ _)
  | user => exact Enumeration.failsWithCause_pure _
  | userGroup =>
    obtain ⟨id, hid⟩ := ResourceId.exists_groupId hkind hw
    exact Enumeration.failsWithCause_ofOperation (Operation.failsWithCause_ofExcept_bind hid
      (failsWithCause_ask_map _ _))
  | project =>
    obtain ⟨id, hid⟩ := ResourceId.exists_projectId hkind hw
    dsimp only
    rw [hid]
    exact failsWithCause_listPhased token
  | repository =>
    obtain ⟨id, hid⟩ := ResourceId.exists_repositoryId hkind hw
    dsimp only
    rw [hid]
    exact failsWithCause_listPhased token

end

end AccessSync
