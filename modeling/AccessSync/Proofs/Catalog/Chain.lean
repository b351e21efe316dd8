import AccessSync.Proofs.Access.Id
import AccessSync.Proofs.Causes

/-!
# Chains of listings

Resources are listed from the top down, each page below a resource of an earlier page. When the
server names things by texts without colons, every resource that such a chain comes to lies in
scope, its key is read back, and it can be listed below and asked about in its turn.

* `Api.Endpoint.WellNamed`: replies that name things by texts without colons.
* `Reached`: what chains of listings come to.
* `Resource.Usable`: what holds of it; `usable_of_listResources` is one listing, `Reached.usable` the
  chain.
* `listed_stays_usable`: no listing below it, and no listing of its grants, fails because of it.
-/

namespace AccessSync

open Api (Endpoint)
open Plan (yields_exceptT_bind_ok)
open Provision (workspace?_of_check)
open Text (IsSegment)

/-! ## Names that the server gives -/

namespace Api.Endpoint

/-- The answer names what is listed by texts that can stand between colons, and an answer about a
workspace is about the one that was asked for. -/
def AnswersWellNamed : (e : Endpoint) → e.Answer → Prop
  | .workspaces .., page => ∀ w ∈ page.items, IsSegment w.uuid
  | .workspace id, w => w.uuid = id ∧ IsSegment w.uuid
  | .projects .., page => ∀ p ∈ page.items, IsSegment p.uuid ∧ IsSegment p.key
  | .repositories .., page => ∀ r ∈ page.items, IsSegment r.uuid
  | .groups _, listed => ∀ g ∈ listed, IsSegment g.slug
  | _, _ => True

/-- The reply is such an answer, or a fault. -/
def WellNamed (e : Endpoint) (reply : e.Reply) : Prop :=
  ∀ answer, reply = .ok answer → e.AnswersWellNamed answer

end Api.Endpoint

open Api.Endpoint (WellNamed AnswersWellNamed)

theorem wellNamed_ok {e : Endpoint} {a : e.Answer} (h : e.AnswersWellNamed a) :
    WellNamed e (.ok a) := by
  rintro _ ⟨⟩
  exact h

theorem answersWellNamed_of_ask {e : Endpoint} {a : e.Answer}
    (h : (Operation.ask e).run.Yields WellNamed (.ok a)) : e.AnswersWellNamed a := by
  obtain ⟨reply, hreply, h⟩ := h
  cases reply with
  | error fault => cases h
  | ok answer =>
    cases h
    exact hreply a rfl

/-! ## What chains come to -/

/-- A resource that a chain of listings comes to: at the top, or below another one. Each listing is
of any kind and goes by any token, and the server may answer each of them anew. -/
inductive Reached (c : Connector) (scope : Scope) : Resource → Prop
  | first (kind : Kind) (token : String) (page : Page Resource) {r : Resource}
    (call : (c.listResources scope kind none token).run.Yields WellNamed (.ok page))
    (shown : r ∈ page.items) : Reached c scope r
  | under {parent : Resource} (listed : Reached c scope parent) (kind : Kind) (token : String)
    (page : Page Resource) {r : Resource}
    (call : (c.listResources scope kind (some parent.id) token).run.Yields WellNamed (.ok page))
    (shown : r ∈ page.items) : Reached c scope r

/-- The resource has a parent, and lies in the same workspace. -/
def Resource.SharesWorkspace (r : Resource) (workspace : String) : Prop :=
  ∃ p, r.parent = some p ∧ p.workspace? = .ok (some workspace)

/-- The key of the resource, when it is made of parts, is read as a key of its kind, with the
workspace of the parent. -/
def Resource.KeyFits (r : Resource) : Prop :=
  match r.id.kind with
  | .workspace | .user => True
  | .userGroup => ∃ id, GroupId.read r.id.key = .ok id ∧ r.SharesWorkspace id.workspace
  | .project => ∃ id, ProjectId.read r.id.key = .ok id ∧ r.SharesWorkspace id.workspace
  | .repository => ∃ id, RepositoryId.read r.id.key = .ok id ∧ r.SharesWorkspace id.workspace

/-- The resource lies in scope, its key fits, and the key of a workspace can stand between colons in
the keys of what lies below it. -/
structure Resource.Usable (scope : Scope) (r : Resource) : Prop where
  inScope : scope.check r.id = .ok ()
  fits : r.KeyFits
  named : r.id.kind = .workspace → IsSegment r.id.key

section
variable {pageSize : UInt32} {scope : Scope} {parent : ResourceId}

/-! ## One listing -/

theorem usable_workspace {w : Api.Workspace} (hw : IsSegment w.uuid)
    (hs : scope.contains w.uuid) : w.resource.Usable scope where
  inScope := (Scope.check_eq_ok_iff (ResourceId.workspace?_of_workspace rfl)).2 hs
  fits := trivial
  named _ := hw

theorem usable_user (u : Api.User) : (u.resource parent).Usable scope where
  inScope := rfl
  fits := trivial
  named h := nomatch h

/-- What lies in the workspace of something in scope is in scope. -/
theorem check_of_same_workspace {id : ResourceId} {w : String}
    (hid : id.workspace? = .ok (some w)) (hworkspace : parent.workspace? = .ok (some w))
    (hparent : scope.check parent = .ok ()) : scope.check id = .ok () := by
  have hs : scope.contains w := (Scope.check_eq_ok_iff hworkspace).1 hparent
  exact (Scope.check_eq_ok_iff hid).2 hs

section
variable (hkind : parent.kind = .workspace) (hnamed : IsSegment parent.key)
  (hparent : scope.check parent = .ok ())
include hkind hnamed hparent

theorem usable_userGroup {g : Api.UserGroup} (hg : IsSegment g.slug) :
    (g.resource parent).Usable scope := by
  have hworkspace := ResourceId.workspace?_of_workspace hkind
  have hread : GroupId.read (g.resource parent).id.key = .ok ⟨parent.key, g.slug⟩ :=
    GroupId.read_text hnamed hg
  have hid := ResourceId.workspace?_of_userGroup rfl hread
  exact
    { inScope := check_of_same_workspace hid hworkspace hparent
      fits := ⟨_, hread, parent, rfl, hworkspace⟩
      named := fun h => nomatch h }

theorem usable_project {p : Api.Project} (hp : IsSegment p.uuid) (hk : IsSegment p.key) :
    (p.resource parent).Usable scope := by
  have hworkspace := ResourceId.workspace?_of_workspace hkind
  have hread : ProjectId.read (p.resource parent).id.key = .ok ⟨parent.key, p.uuid, p.key⟩ :=
    ProjectId.read_text hnamed hp hk
  have hholding : (p.resource parent).id.IsHolding (.project ⟨parent.key, p.uuid, p.key⟩) :=
    ⟨rfl, hread⟩
  exact
    { inScope := check_of_same_workspace hholding.workspace? hworkspace hparent
      fits := ⟨_, hread, parent, rfl, hworkspace⟩
      named := fun h => nomatch h }

end

theorem usable_repository {project : ProjectId} (hkind : parent.kind = .project)
    (hproject : ProjectId.read parent.key = .ok project) (hparent : scope.check parent = .ok ())
    {r : Api.Repository} (hr : IsSegment r.uuid) : (r.resource parent project).Usable scope := by
  have habove : parent.IsHolding (.project project) := ⟨hkind, hproject⟩
  -- the key of the repository is that of the project and one segment more
  have hread : RepositoryId.read (r.resource parent project).id.key = .ok ⟨project, r.uuid⟩ :=
    (RepositoryId.read_eq_ok_iff _ project r.uuid).2
      ⟨project.text, rfl, ProjectId.text_of_read hproject ▸ hproject, hr⟩
  have hholding : (r.resource parent project).id.IsHolding (.repository ⟨project, r.uuid⟩) :=
    ⟨rfl, hread⟩
  exact
    { inScope := check_of_same_workspace hholding.workspace? habove.workspace? hparent
      fits := ⟨_, hread, parent, rfl, habove.workspace?⟩
      named := fun h => nomatch h }

/-- Each workspace of a page is named well, and in scope. -/
theorem usable_of_listWorkspaces {token : String} {page : Page Resource}
    (h : (listWorkspaces pageSize scope token).run.Yields WellNamed (.ok page)) :
    ∀ r ∈ page.items, r.Usable scope := by
  unfold listWorkspaces at h
  cases scope with
  | workspace id =>
    obtain ⟨w, hw, h⟩ := yields_exceptT_bind_ok h
    obtain ⟨hid, hnamed⟩ := answersWellNamed_of_ask hw
    cases h
    intro r hr
    obtain rfl := List.mem_singleton.1 hr
    refine usable_workspace hnamed ?_
    simp [Scope.contains, Scope.workspaceIds, hid]
  | user user ids =>
    obtain ⟨cursor, found, hfound, hitems⟩ := exists_of_listPage
      (f := fun items : List Api.Workspace =>
        (items.filter fun w => (Scope.user user ids).contains w.uuid).map (·.resource)) h
    have hnamed := answersWellNamed_of_ask hfound
    intro r hr
    rw [hitems] at hr
    obtain ⟨w, hw, rfl⟩ := List.mem_map.1 hr
    obtain ⟨hmem, hscope⟩ := List.mem_filter.1 hw
    exact usable_workspace (hnamed w hmem) hscope

/-- **The resources of a page** are usable when the parent that they are listed below is. -/
theorem usable_of_listKind {kind : Kind} {parent : Option ResourceId} {token : String}
    {page : Page Resource}
    (hparent : ∀ p, parent = some p →
      scope.check p = .ok () ∧ (p.kind = .workspace → IsSegment p.key))
    (h : (listKind pageSize scope kind parent token).run.Yields WellNamed (.ok page)) :
    ∀ r ∈ page.items, r.Usable scope := by
  have below {k : Kind} {p : ResourceId} (hp : parentOf k parent = some p) :
      scope.check p = .ok () ∧ (p.kind = .workspace → IsSegment p.key) ∧ p.kind = k := by
    obtain ⟨heq, hkind⟩ := Option.filter_eq_some_iff.1 hp
    obtain ⟨hcheck, hnamed⟩ := hparent p heq
    exact ⟨hcheck, hnamed, by simpa using hkind⟩
  have nothing (h : (pure .empty : Operation (Page Resource)).run.Yields WellNamed (.ok page)) :
      ∀ r ∈ page.items, r.Usable scope := by
    cases h
    intro r hr
    exact absurd hr List.not_mem_nil
  unfold listKind at h
  cases kind with
  | workspace => exact usable_of_listWorkspaces h
  | user =>
    dsimp only at h
    cases hp : parentOf .workspace parent with
    | none => rw [hp] at h; exact nothing h
    | some w =>
      rw [hp] at h
      obtain ⟨cursor, found, -, hitems⟩ := exists_of_listPage h
      intro r hr
      rw [hitems] at hr
      obtain ⟨u, -, rfl⟩ := List.mem_map.1 hr
      exact usable_user u
  | userGroup =>
    dsimp only at h
    cases hp : parentOf .workspace parent with
    | none => rw [hp] at h; exact nothing h
    | some w =>
      rw [hp] at h
      obtain ⟨hcheck, hnamed, hkind⟩ := below hp
      obtain ⟨groups, hgroups, h⟩ := yields_exceptT_bind_ok h
      have hslugs := answersWellNamed_of_ask hgroups
      cases h
      intro r hr
      obtain ⟨g, hg, rfl⟩ := List.mem_map.1 hr
      exact usable_userGroup hkind (hnamed hkind) hcheck (hslugs g hg)
  | project =>
    dsimp only at h
    cases hp : parentOf .workspace parent with
    | none => rw [hp] at h; exact nothing h
    | some w =>
      rw [hp] at h
      obtain ⟨hcheck, hnamed, hkind⟩ := below hp
      obtain ⟨cursor, found, hfound, hitems⟩ := exists_of_listPage h
      have hnames := answersWellNamed_of_ask hfound
      intro r hr
      rw [hitems] at hr
      obtain ⟨p, hp, rfl⟩ := List.mem_map.1 hr
      exact usable_project hkind (hnamed hkind) hcheck (hnames p hp).1 (hnames p hp).2
  | repository =>
    dsimp only at h
    cases hp : parentOf .project parent with
    | none => rw [hp] at h; exact nothing h
    | some p =>
      rw [hp] at h
      obtain ⟨hcheck, -, hkind⟩ := below hp
      obtain ⟨project, hproject, h⟩ := yields_exceptT_bind_ok h
      obtain ⟨cursor, found, hfound, hitems⟩ := exists_of_listPage h
      have hnames := answersWellNamed_of_ask hfound
      intro r hr
      rw [hitems] at hr
      obtain ⟨record, hrecord, rfl⟩ := List.mem_map.1 hr
      exact usable_repository hkind hproject hcheck (hnames record hrecord)

theorem usable_of_listResources {c : Connector} {kind : Kind} {parent : Option ResourceId}
    {token : String} {page : Page Resource}
    (hparent : ∀ p, parent = some p →
      scope.check p = .ok () ∧ (p.kind = .workspace → IsSegment p.key))
    (h : (c.listResources scope kind parent token).run.Yields WellNamed (.ok page)) :
    ∀ r ∈ page.items, r.Usable scope := by
  cases parent with
  | none => exact usable_of_listKind hparent h
  | some p =>
    rw [listResources_some c (hparent p rfl).1] at h
    exact usable_of_listKind hparent h

end

/-! ## The chain -/

section
variable {c : Connector} {scope : Scope} {r : Resource}

/-- **Whatever a chain of listings comes to is usable**: the top is, and what lies below something
usable is. -/
theorem Reached.usable (h : Reached c scope r) : r.Usable scope := by
  induction h with
  | first _ _ _ call shown =>
    refine usable_of_listResources ?_ call _ shown
    rintro p ⟨⟩
  | under _ _ _ _ call shown ih =>
    refine usable_of_listResources ?_ call _ shown
    rintro p ⟨⟩
    exact ⟨ih.inScope, ih.named⟩

/-- **Listed resources stay usable.** Whatever a chain of listings comes to lies in scope, and its
key is read as a key of its kind, with the workspace of its parent. Listing below it, or listing
its grants, against any server and with any token, fails only for the token or for a fault that a
request on the way was answered with. -/
theorem listed_stays_usable (h : Reached c scope r) :
    scope.check r.id = .ok () ∧ r.KeyFits ∧
    ∀ (σ : Type) (up : Responder Endpoint.Reply σ) (s : σ) (token : String) (f : Failure),
      (∀ kind, let course := (c.listResources scope kind (some r.id) token).run.course up s
        course.result = .ok (.error f) →
          f.HasCause fun e reply => ⟨e, reply⟩ ∈ course.exchanges) ∧
      ∀ seen seen', let course := ((c.listGrants scope r.id token).run seen).course up s
        course.result = .ok (.error f, seen') →
          f.HasCause fun e reply => ⟨e, reply⟩ ∈ course.exchanges := by
  have husable := h.usable
  refine ⟨husable.inScope, husable.fits, fun σ up s token f => ⟨?_, ?_⟩⟩
  · intro kind course hfails
    exact failsWithCause_listResources c husable.inScope token f (Plan.yields_exchanged hfails)
  · intro seen seen' course hfails
    exact failsWithCause_listGrants c husable.inScope token seen f seen'
      (Plan.yields_exchanged hfails)

end

/-- A repository, by way of its workspace and its project. -/
theorem listed_stays_usable_sample :
    let scope : Scope := .user "u1" ["w"]
    let project := Api.Project.resource ⟨.workspace, "w"⟩ ⟨"p", "P", "Project"⟩
    let r := Api.Repository.resource project.id ⟨"w", "p", "P"⟩ ⟨"r1", "one", "work/one"⟩
    Reached ⟨100, []⟩ scope r ∧ r.id.key = "w:p:P:r1" ∧ scope.check r.id = .ok () ∧ r.KeyFits := by
  intro scope project r
  let workspace := Api.Workspace.resource ⟨"w", "work", "Work"⟩
  have hworkspace : Reached ⟨100, []⟩ scope workspace := by
    refine .first .workspace "" ⟨[workspace], ""⟩ ?_ List.mem_cons_self
    exact ⟨.ok ⟨[⟨"w", "work", "Work"⟩], ""⟩,
      wellNamed_ok (List.forall_mem_singleton.2 (by decide)), rfl⟩
  have hproject : Reached ⟨100, []⟩ scope project := by
    refine .under hworkspace .project "" ⟨[project], ""⟩ ?_ List.mem_cons_self
    exact ⟨.ok ⟨[⟨"p", "P", "Project"⟩], ""⟩,
      wellNamed_ok (List.forall_mem_singleton.2 (by decide)), rfl⟩
  have hrepository : Reached ⟨100, []⟩ scope r := by
    refine .under hproject .repository "" ⟨[r], ""⟩ ?_ List.mem_cons_self
    have hread : ProjectId.read project.id.key = .ok ⟨"w", "p", "P"⟩ :=
      ProjectId.read_text (by decide) (by decide) (by decide)
    rw [listResources_some _ hproject.usable.inScope]
    show (listRepositories 100 project.id "").run.Yields WellNamed (.ok ⟨[r], ""⟩)
    unfold listRepositories
    rw [hread]
    exact ⟨.ok ⟨[⟨"r1", "one", "work/one"⟩], ""⟩,
      wellNamed_ok (List.forall_mem_singleton.2 (by decide)), rfl⟩
  have h := listed_stays_usable hrepository
  exact ⟨hrepository, by decide, h.1, h.2.1⟩

end AccessSync
