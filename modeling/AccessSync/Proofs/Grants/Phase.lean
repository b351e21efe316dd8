import AccessSync.Proofs.Course
import AccessSync.Proofs.Grants.Place

/-!
# Pages of phases

What a page of a phase asks for, what it holds when the requests for it succeed, and that a fault on
the way makes it fail and changes nothing else.

* `result_repositoryPage`, `result_groupPage`, `result_userPage`: the grants of a page.
* `emits_phasePage`, `grantsOn_phasePage`: what grants they are, whatever the server replies.
* `steady_phasePage`: a page whole or no page.
* `asks_phasePage`: what a page asks for.
-/

namespace AccessSync

open Api (Endpoint Held Target)
open Plan (AnyReply yields_exceptT_bind_ok)

variable {s : Server} {pageSize : UInt32} {resource : ResourceId} {holding : Holding}

/-- The assignment of a repository to its project. -/
def repositoryGrant (resource : ResourceId) (project : ProjectId) (r : Api.Repository) : Grant :=
  Grant.of resource repositorySlug ⟨.repository, RepositoryId.text ⟨project, r.uuid⟩⟩

/-- The grant of a role to a user. -/
def userGrant (resource : ResourceId) (held : Held Api.User) : Grant :=
  Grant.of resource held.role ⟨.user, held.holder.uuid⟩

/-- The grant of a role to a group, and those to the members of the group. -/
def groupGrants (resource : ResourceId) (workspace : String) (members : String → List Api.User)
    (held : Held Api.GroupRef) : List Grant :=
  groupGrant resource workspace held ::
    memberGrants resource held.role (members held.holder.slug)

/-! ## What a page holds -/

theorem result_repositoryPage {project : ProjectId} {cursor : String} {page : Page Api.Repository}
    (h : s (.repositories project.workspace project.project pageSize cursor) = .ok page) :
    (repositoryPage pageSize resource project cursor).run.result s =
      .ok (.ok ⟨page.items.map (repositoryGrant resource project), page.next⟩) := by
  unfold repositoryPage
  rw [Operation.result_bind_of_ok (Operation.result_ask_of_ok h)]
  rfl

/-- The members of each group are asked for in turn. -/
theorem result_expandGroups {workspace : String} {members : String → List Api.User}
    (held : List (Held Api.GroupRef))
    (h : ∀ g ∈ held, s (.groupMembers ⟨workspace, g.holder.slug⟩) = .ok (members g.holder.slug)) :
    (expandGroups resource workspace held).run.result s =
      .ok (.ok (held.flatMap (groupGrants resource workspace members))) := by
  induction held with
  | nil => rfl
  | cons g rest ih =>
    have hrest := ih fun g' hg' => h g' (List.mem_cons_of_mem _ hg')
    unfold expandGroups
    rw [Operation.result_bind_of_ok (Operation.result_ask_of_ok (h g List.mem_cons_self)),
      Operation.result_bind_of_ok hrest]
    rfl

theorem result_groupPage_project {project : ProjectId} {cursor : String}
    {page : Page (Held Api.GroupRef)} {members : String → List Api.User}
    (h : s (.roles (Holding.project project).target .groups pageSize cursor) = .ok page)
    (hm : ∀ g ∈ page.items, Kind.project.isRole g.role →
      s (.groupMembers ⟨project.workspace, g.holder.slug⟩) = .ok (members g.holder.slug)) :
    (groupPage pageSize resource (.project project) cursor).run.result s =
      .ok (.ok ⟨(page.items.filter fun g => Kind.project.isRole g.role).flatMap
        (groupGrants resource project.workspace members), page.next⟩) := by
  unfold groupPage
  rw [Operation.result_bind_of_ok (Operation.result_ask_of_ok h)]
  have hheld : ∀ g ∈ page.items.filter fun g => Kind.project.isRole g.role,
      s (.groupMembers ⟨project.workspace, g.holder.slug⟩) = .ok (members g.holder.slug) :=
    fun g hg => hm g (List.mem_filter.1 hg).1 (List.mem_filter.1 hg).2
  exact Operation.result_bind_of_ok (result_expandGroups _ hheld) _

theorem result_groupPage_repository {repository : RepositoryId} {cursor : String}
    {page : Page (Held Api.GroupRef)}
    (h : s (.roles (Holding.repository repository).target .groups pageSize cursor) = .ok page) :
    (groupPage pageSize resource (.repository repository) cursor).run.result s =
      .ok (.ok ⟨(page.items.filter fun g => Kind.repository.isRole g.role).map
        (groupGrant resource repository.workspace), page.next⟩) := by
  unfold groupPage
  rw [Operation.result_bind_of_ok (Operation.result_ask_of_ok h)]
  rfl

theorem result_userPage {cursor : String} {page : Page (Held Api.User)}
    (h : s (.roles holding.target .users pageSize cursor) = .ok page) :
    (userPage pageSize resource holding cursor).run.result s =
      .ok (.ok ⟨(page.items.filter fun u => holding.kind.isRole u.role).map (userGrant resource),
        page.next⟩) := by
  unfold userPage
  rw [Operation.result_bind_of_ok (Operation.result_ask_of_ok h)]
  rfl

/-! ## Any phase -/

/-- **What holds of the pages of the three phases**, and of the empty page that stands for any other
kind, holds of a page of any phase. -/
theorem phasePage_cases {P : Operation (Page Grant) → Prop} (cursor : String)
    (empty : P (pure .empty))
    (repositories : ∀ id, holding = .project id → P (repositoryPage pageSize resource id cursor))
    (groups : P (groupPage pageSize resource holding cursor))
    (users : P (userPage pageSize resource holding cursor)) (phase : Kind) :
    P (phasePage pageSize resource holding phase cursor) := by
  cases phase with
  | workspace => exact empty
  | project => exact empty
  | userGroup => exact groups
  | user => exact users
  | repository =>
    cases holding with
    | repository id => exact empty
    | project id => exact repositories id rfl

/-! ## What grants they are -/

/-- A grant as it is listed on a resource of a kind: it is made of its parts, and its principal can
hold the entitlement. -/
structure Grant.IsListed (kind : Kind) (resource : ResourceId) (g : Grant) : Prop where
  made : g = Grant.of resource g.slug g.principal
  holder : g.principal.kind ∈ kind.grantableTo g.slug

/-- Whatever the server replies, the grants of a page are as they are listed on the resource. -/
def Operation.Emits (work : Operation (Page Grant)) (kind : Kind) (resource : ResourceId) : Prop :=
  ∀ page, work.run.Yields AnyReply (.ok page) → ∀ g ∈ page.items, g.IsListed kind resource

/-- Users and groups can hold a role. -/
theorem Kind.grantableTo_of_isRole {k : Kind} {slug : String} (h : k.isRole slug) :
    k.grantableTo slug = [.user, .userGroup] := if_pos h

section
variable {kind : Kind}

theorem isListed_memberGrants {slug : String} (h : .user ∈ kind.grantableTo slug)
    {users : List Api.User} {g : Grant} (hg : g ∈ memberGrants resource slug users) :
    g.IsListed kind resource := by
  obtain ⟨u, -, rfl⟩ := List.mem_map.1 hg
  exact ⟨rfl, h⟩

theorem isListed_groupGrant {workspace : String} {held : Held Api.GroupRef}
    (h : kind.isRole held.role) : (groupGrant resource workspace held).IsListed kind resource where
  made := rfl
  holder := by
    show Kind.userGroup ∈ kind.grantableTo held.role
    rw [Kind.grantableTo_of_isRole h]
    exact List.mem_cons_of_mem _ List.mem_cons_self

theorem isListed_expandGroups {workspace : String} {held : List (Held Api.GroupRef)}
    (hroles : ∀ h ∈ held, kind.isRole h.role) {grants : List Grant}
    (h : (expandGroups resource workspace held).run.Yields AnyReply (.ok grants)) :
    ∀ g ∈ grants, g.IsListed kind resource := by
  induction held generalizing grants with
  | nil =>
    cases h
    intro g hg
    exact absurd hg List.not_mem_nil
  | cons first rest ih =>
    have hfirst : kind.isRole first.role := hroles first List.mem_cons_self
    have huser : .user ∈ kind.grantableTo first.role := by
      rw [Kind.grantableTo_of_isRole hfirst]
      exact List.mem_cons_self
    unfold expandGroups at h
    obtain ⟨members, -, h⟩ := yields_exceptT_bind_ok h
    obtain ⟨more, hmore, h⟩ := yields_exceptT_bind_ok h
    have hrest := ih (fun h' hh' => hroles h' (List.mem_cons_of_mem _ hh')) hmore
    cases h
    intro g hg
    -- the group itself, its members, or what comes of the groups after it
    rcases List.mem_cons.1 hg with rfl | hg
    · exact isListed_groupGrant hfirst
    · rcases List.mem_append.1 hg with hg | hg
      · exact isListed_memberGrants huser hg
      · exact hrest g hg

theorem emits_empty : Operation.Emits (pure .empty) kind resource := by
  intro page h g hg
  cases h
  exact absurd hg List.not_mem_nil

end

theorem emits_repositoryPage (project : ProjectId) (cursor : String) :
    (repositoryPage pageSize resource project cursor).Emits .project resource := by
  intro page h g hg
  unfold repositoryPage at h
  obtain ⟨found, -, h⟩ := yields_exceptT_bind_ok h
  cases h
  obtain ⟨r, -, rfl⟩ := List.mem_map.1 hg
  have hholder : Kind.repository ∈ Kind.project.grantableTo repositorySlug := by decide
  exact ⟨rfl, hholder⟩

theorem emits_groupPage (cursor : String) :
    (groupPage pageSize resource holding cursor).Emits holding.kind resource := by
  intro page h g hg
  unfold groupPage at h
  obtain ⟨found, -, h⟩ := yields_exceptT_bind_ok h
  have hroles : ∀ h ∈ found.items.filter fun h : Held Api.GroupRef => holding.kind.isRole h.role,
      holding.kind.isRole h.role := fun h hh => (List.mem_filter.1 hh).2
  cases holding with
  | project id =>
    obtain ⟨grants, hgrants, h⟩ := yields_exceptT_bind_ok h
    cases h
    exact isListed_expandGroups hroles hgrants g hg
  | repository id =>
    cases h
    obtain ⟨held, hheld, rfl⟩ := List.mem_map.1 hg
    exact isListed_groupGrant (hroles held hheld)

theorem emits_userPage (cursor : String) :
    (userPage pageSize resource holding cursor).Emits holding.kind resource := by
  intro page h g hg
  unfold userPage at h
  obtain ⟨found, -, h⟩ := yields_exceptT_bind_ok h
  cases h
  obtain ⟨held, hheld, rfl⟩ := List.mem_map.1 hg
  have hrole : holding.kind.isRole held.role := (List.mem_filter.1 hheld).2
  refine ⟨rfl, ?_⟩
  show Kind.user ∈ holding.kind.grantableTo held.role
  rw [Kind.grantableTo_of_isRole hrole]
  exact List.mem_cons_self

/-- **The grants of a page** are as they are listed on the resource, whatever the server replies. -/
theorem emits_phasePage (phase : Kind) (cursor : String) :
    (phasePage pageSize resource holding phase cursor).Emits holding.kind resource := by
  refine phasePage_cases (P := fun work => work.Emits holding.kind resource) cursor emits_empty ?_
    (emits_groupPage cursor) (emits_userPage cursor) phase
  rintro id rfl
  exact emits_repositoryPage id cursor

theorem resource_memberGrants {slug : String} {users : List Api.User} {g : Grant}
    (h : g ∈ memberGrants resource slug users) : g.resource = resource := by
  obtain ⟨u, _, rfl⟩ := List.mem_map.1 h
  rfl

/-- The operation gives no page with grants on anything but the resource. -/
def GrantsOn (s : Server) (resource : ResourceId) (work : Operation (Page Grant)) : Prop :=
  ∀ page, work.run.result s = .ok (.ok page) → ∀ g ∈ page.items, g.resource = resource

/-- **All grants of a page are grants on the resource** that is asked about. -/
theorem grantsOn_phasePage (phase : Kind) (cursor : String) :
    GrantsOn s resource (phasePage pageSize resource holding phase cursor) := by
  intro page h g hg
  have hyields := Plan.yields_any_of_result h
  have hlisted := emits_phasePage phase cursor page hyields g hg
  rw [hlisted.made]
  rfl

/-! ## Faults -/

theorem steady_expandGroups (workspace : String) (held : List (Held Api.GroupRef)) :
    Operation.Steady s (expandGroups resource workspace held) := by
  induction held with
  | nil => exact Operation.steady_pure _
  | cons g rest ih =>
    unfold expandGroups
    exact (Operation.steady_ask _).bind fun _ => ih.bind fun _ => Operation.steady_pure _

theorem steady_groupPage (cursor : String) :
    Operation.Steady s (groupPage pageSize resource holding cursor) := by
  unfold groupPage
  refine (Operation.steady_ask _).bind fun _ => ?_
  cases holding with
  | project id => exact (steady_expandGroups _ _).bind fun _ => Operation.steady_pure _
  | repository id => exact Operation.steady_pure _

/-- **A page whole or no page**: a fault of any request, also of one for the members of a group in
the middle of a page, makes the page fail. -/
theorem steady_phasePage (phase : Kind) (cursor : String) :
    Operation.Steady s (phasePage pageSize resource holding phase cursor) := by
  have hrepositories : ∀ id, holding = .project id →
      Operation.Steady s (repositoryPage pageSize resource id cursor) :=
    fun _ _ => (Operation.steady_ask _).bind fun _ => Operation.steady_pure _
  have husers : Operation.Steady s (userPage pageSize resource holding cursor) :=
    (Operation.steady_ask _).bind fun _ => Operation.steady_pure _
  exact phasePage_cases cursor (Operation.steady_pure _) hrepositories (steady_groupPage cursor)
    husers phase

/-! ## Questions -/

/-- The list of a phase, at a cursor: the repositories, or one side of the permission table. That of
a project is found by the key of the project, that of a repository by the repository. -/
def Holding.list (holding : Holding) (n : UInt32) (phase : Kind) (cursor : String) : Endpoint :=
  let table : Target := match holding with
    | .project id => .project id.workspace id.key
    | .repository id => .repository id.workspace id.repository
  match phase, holding with
  | .repository, .project id => .repositories id.workspace id.project n cursor
  | .userGroup, _ => .roles table .groups n cursor
  | _, _ => .roles table .users n cursor

section
variable {P : Endpoint → Prop}

theorem asks_expandGroups {workspace : String}
    (members : ∀ slug, P (.groupMembers ⟨workspace, slug⟩)) (held : List (Held Api.GroupRef)) :
    (expandGroups resource workspace held).run.Asks P := by
  induction held with
  | nil => trivial
  | cons first rest ih =>
    refine Plan.asks_exceptT_bind (Operation.asks_ask (members _)) fun _ => ?_
    exact Plan.asks_exceptT_bind ih fun _ => trivial

/-- **A page of a phase** asks for a page of its list, and for the members of groups. -/
theorem asks_phasePage {phase : Kind} {cursor : String}
    (list : P (holding.list pageSize phase cursor))
    (members : ∀ slug, P (.groupMembers ⟨holding.workspace, slug⟩)) :
    (phasePage pageSize resource holding phase cursor).run.Asks P := by
  cases phase with
  | userGroup =>
    refine Plan.asks_exceptT_bind (Operation.asks_ask list) fun page => ?_
    cases holding with
    | project id => exact Plan.asks_exceptT_bind (asks_expandGroups members _) fun _ => trivial
    | repository id => trivial
  | user => exact Plan.asks_exceptT_bind (Operation.asks_ask list) fun _ => trivial
  | repository =>
    cases holding with
    | project id => exact Plan.asks_exceptT_bind (Operation.asks_ask list) fun _ => trivial
    | repository id => trivial
  | workspace => trivial
  | project => trivial

end

end AccessSync
