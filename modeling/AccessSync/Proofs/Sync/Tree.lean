import AccessSync.Proofs.Access.Id
import AccessSync.Proofs.Sync.Walk

/-!
# Complete walks

Against lists of finitely many pages, a walk comes to an end and leaves the records of the whole
tree of resources, level by level, each resource once for every place where it is listed.

* `Inventory`: what a server has.
* `Inventory.nodes`: the tree, level by level.
* `walk_complete`: a walk leaves its records.
-/

namespace AccessSync.Sync

open Api (Endpoint Held Workspace Project Repository)
open Text (IsSegment)

/-- What a server has, by what it is asked for. -/
structure Inventory where
  workspaces : List (Page Workspace)
  workspace : String → Workspace
  members : String → List (Page Api.User)
  groups : String → List Api.UserGroup
  groupMembers : GroupId → List Api.User
  projects : String → List (Page Project)
  repositories : String → String → List (Page Repository)
  groupRoles : Api.Target → List (Page (Held Api.GroupRef))
  userRoles : Api.Target → List (Page (Held Api.User))

namespace Inventory

variable (inv : Inventory)

/-- The workspaces in scope: the one that is looked up, or those of the list that are in scope. -/
def inScope (scope : Scope) : List Workspace :=
  match scope with
  | .workspace id => [inv.workspace id]
  | .user .. => (Page.concat inv.workspaces).filter fun w => scope.contains w.uuid

/-- What is listed behind a project or a repository. -/
def contents (holding : Holding) : Contents where
  repositories :=
    match holding with
    | .project id => inv.repositories id.workspace id.project
    | .repository _ => []
  groups := inv.groupRoles holding.target
  users := inv.userRoles holding.target
  members slug := inv.groupMembers ⟨holding.workspace, slug⟩

/-! ## The tree -/

def projectsOf (w : Workspace) : List Project := Page.concat (inv.projects w.uuid)

def repositoriesOf (w : Workspace) (p : Project) : List Repository :=
  Page.concat (inv.repositories w.uuid p.uuid)

def projectId (w : Workspace) (p : Project) : ProjectId := ⟨w.uuid, p.uuid, p.key⟩

def repositoryId (w : Workspace) (p : Project) (r : Repository) : RepositoryId :=
  ⟨projectId w p, r.uuid⟩

def workspaceNode (w : Workspace) : Node :=
  ⟨w.resource, memberGrants w.resource.id memberSlug (Page.concat (inv.members w.uuid))⟩

def userNodes (w : Workspace) : List Node :=
  (Page.concat (inv.members w.uuid)).map fun u => ⟨u.resource w.resource.id, []⟩

def groupNode (w : Workspace) (g : Api.UserGroup) : Node :=
  let resource := g.resource w.resource.id
  ⟨resource, memberGrants resource.id memberSlug (inv.groupMembers ⟨w.uuid, g.slug⟩)⟩

def projectNode (w : Workspace) (p : Project) : Node :=
  let resource := p.resource w.resource.id
  let holding := Holding.project (projectId w p)
  ⟨resource, (inv.contents holding).grants resource.id holding⟩

def repositoryNode (w : Workspace) (p : Project) (r : Repository) : Node :=
  let resource := r.resource (p.resource w.resource.id).id (projectId w p)
  let holding := Holding.repository (repositoryId w p r)
  ⟨resource, (inv.contents holding).grants resource.id holding⟩

/-- **The tree level by level**: the workspaces in scope, then the users, the groups and the
projects of each, then the repositories of each project. -/
def nodes (scope : Scope) : List Node :=
  (inv.inScope scope).map inv.workspaceNode ++
    ((inv.inScope scope).flatMap fun w => inv.userNodes w ++
      ((inv.groups w.uuid).map (inv.groupNode w) ++ (inv.projectsOf w).map (inv.projectNode w))) ++
    (inv.inScope scope).flatMap fun w => (inv.projectsOf w).flatMap fun p =>
      (inv.repositoriesOf w p).map (inv.repositoryNode w p)

/-! ## Servers that have it -/

/-- The server has the inventory as far as the scope goes: each list as a finite chain of pages, and
no request for them fails. A workspace that is looked up is the one that was asked for. -/
structure ServedBy (s : Server) (pageSize : UInt32) (scope : Scope) : Prop where
  workspaces : ∀ user ids, scope = .user user ids →
    Chain (fun cursor => s (.workspaces pageSize cursor)) "" inv.workspaces
  workspace : ∀ id, scope = .workspace id →
    s (.workspace id) = .ok (inv.workspace id) ∧ (inv.workspace id).uuid = id
  members : ∀ w ∈ inv.inScope scope,
    Chain (fun cursor => s (.members w.uuid pageSize cursor)) "" (inv.members w.uuid)
  groups : ∀ w ∈ inv.inScope scope, s (.groups w.uuid) = .ok (inv.groups w.uuid)
  groupMembers : ∀ w ∈ inv.inScope scope, ∀ g ∈ inv.groups w.uuid,
    s (.groupMembers ⟨w.uuid, g.slug⟩) = .ok (inv.groupMembers ⟨w.uuid, g.slug⟩)
  projects : ∀ w ∈ inv.inScope scope,
    Chain (fun cursor => s (.projects w.uuid pageSize cursor)) "" (inv.projects w.uuid)
  projectContents : ∀ w ∈ inv.inScope scope, ∀ p ∈ inv.projectsOf w,
    (inv.contents (.project (projectId w p))).ListedAt s pageSize (.project (projectId w p))
  repositoryContents : ∀ w ∈ inv.inScope scope, ∀ p ∈ inv.projectsOf w,
    ∀ r ∈ inv.repositoriesOf w p, (inv.contents (.repository (repositoryId w p r))).ListedAt s
      pageSize (.repository (repositoryId w p r))

/-- The names that keys are made of can be told apart again: none is empty or holds a colon. -/
structure WellNamed (scope : Scope) : Prop where
  workspaces : ∀ w ∈ inv.inScope scope, IsSegment w.uuid
  groups : ∀ w ∈ inv.inScope scope, ∀ g ∈ inv.groups w.uuid, IsSegment g.slug
  projects : ∀ w ∈ inv.inScope scope, ∀ p ∈ inv.projectsOf w, IsSegment p.uuid ∧ IsSegment p.key
  repositories : ∀ w ∈ inv.inScope scope, ∀ p ∈ inv.projectsOf w, ∀ r ∈ inv.repositoriesOf w p,
    IsSegment r.uuid

/-! ## The lists of a walk -/

/-- The first list. -/
def topBranch (scope : Scope) : Branch :=
  ⟨(.workspace, none), (inv.inScope scope).map inv.workspaceNode⟩

/-- The lists below a workspace. -/
def workspaceBranches (w : Workspace) : List Branch :=
  [⟨(.user, some w.resource.id), inv.userNodes w⟩,
    ⟨(.userGroup, some w.resource.id), (inv.groups w.uuid).map (inv.groupNode w)⟩,
    ⟨(.project, some w.resource.id), (inv.projectsOf w).map (inv.projectNode w)⟩]

/-- The list below a project. -/
def projectBranch (w : Workspace) (p : Project) : Branch :=
  ⟨(.repository, some (p.resource w.resource.id).id),
    (inv.repositoriesOf w p).map (inv.repositoryNode w p)⟩

/-- The lists below all projects. -/
def projectBranches (scope : Scope) : List Branch :=
  (inv.inScope scope).flatMap fun w => (inv.projectsOf w).map (inv.projectBranch w)

theorem below_topBranch (scope : Scope) :
    [inv.topBranch scope].flatMap (·.below) =
      ((inv.inScope scope).flatMap inv.workspaceBranches).map (·.entry) := by
  rw [List.flatMap_singleton, List.map_flatMap]
  unfold Branch.below topBranch
  rw [List.flatMap_map]
  rfl

theorem below_workspaceBranches (scope : Scope) :
    ((inv.inScope scope).flatMap inv.workspaceBranches).flatMap (·.below) =
      (inv.projectBranches scope).map (·.entry) := by
  have hone : ∀ w, (inv.workspaceBranches w).flatMap (·.below) =
      ((inv.projectsOf w).map (inv.projectBranch w)).map (·.entry) := by
    intro w
    have husers : Branch.below ⟨(.user, some w.resource.id), inv.userNodes w⟩ = [] := by
      simp [Branch.below, entriesBelow, childKinds]
    have hgroups : Branch.below ⟨(.userGroup, some w.resource.id),
        (inv.groups w.uuid).map (inv.groupNode w)⟩ = [] := by
      simp [Branch.below, entriesBelow, childKinds]
    have hprojects : Branch.below ⟨(.project, some w.resource.id),
        (inv.projectsOf w).map (inv.projectNode w)⟩ =
          ((inv.projectsOf w).map (inv.projectBranch w)).map (·.entry) := by
      rw [Branch.below, List.flatMap_map, List.map_map]
      exact List.map_eq_flatMap.symm
    rw [workspaceBranches, List.flatMap_cons, husers, List.flatMap_cons, hgroups,
      List.flatMap_singleton, hprojects]
    rfl
  unfold projectBranches
  rw [List.flatMap_assoc, List.map_flatMap]
  simp only [hone]

theorem below_projectBranches (scope : Scope) :
    (inv.projectBranches scope).flatMap (·.below) = [] := by
  rw [List.flatMap_eq_nil_iff]
  intro b hb
  obtain ⟨w, -, hb⟩ := List.mem_flatMap.1 hb
  obtain ⟨p, -, rfl⟩ := List.mem_map.1 hb
  simp [Branch.below, projectBranch, entriesBelow, childKinds]

/-! ## What the server lists -/

variable {inv} {s : Server} {c : Connector} {scope : Scope}

theorem contains_of_mem_inScope (h : inv.ServedBy s c.pageSize scope) {w : Workspace}
    (hw : w ∈ inv.inScope scope) : scope.contains w.uuid := by
  cases scope with
  | workspace id =>
    obtain rfl := List.mem_singleton.1 hw
    rw [(h.workspace id rfl).2]
    simp [Scope.contains, Scope.workspaceIds]
  | user user ids => exact (List.mem_filter.1 hw).2

/-- A workspace in scope passes the check of the scope. -/
theorem check_workspace (h : inv.ServedBy s c.pageSize scope) {w : Workspace}
    (hw : w ∈ inv.inScope scope) : scope.check w.resource.id = .ok () := by
  have hworkspace : w.resource.id.workspace? = .ok (some w.uuid) := rfl
  exact (Scope.check_eq_ok_iff hworkspace).2 (contains_of_mem_inScope h hw)

theorem isHolding_project (hn : inv.WellNamed scope) {w : Workspace} (hw : w ∈ inv.inScope scope)
    {p : Project} (hp : p ∈ inv.projectsOf w) :
    (p.resource w.resource.id).id.IsHolding (.project (projectId w p)) :=
  ⟨rfl, ProjectId.read_text (hn.workspaces w hw) (hn.projects w hw p hp).1
    (hn.projects w hw p hp).2⟩

theorem isHolding_repository (hn : inv.WellNamed scope) {w : Workspace}
    (hw : w ∈ inv.inScope scope) {p : Project} (hp : p ∈ inv.projectsOf w) {r : Repository}
    (hr : r ∈ inv.repositoriesOf w p) :
    (inv.repositoryNode w p r).resource.id.IsHolding (.repository (repositoryId w p r)) :=
  ⟨rfl, RepositoryId.read_text (hn.workspaces w hw) (hn.projects w hw p hp).1
    (hn.projects w hw p hp).2 (hn.repositories w hw p hp r hr)⟩

theorem lists_topBranch (h : inv.ServedBy s c.pageSize scope) :
    Lists s (c.listResources scope .workspace none)
      ((inv.topBranch scope).nodes.map (·.resource)) := by
  have hnodes : (inv.topBranch scope).nodes.map (·.resource) =
      (inv.inScope scope).map (·.resource) := by
    rw [topBranch, List.map_map]
    rfl
  rw [hnodes, listResources_none]
  cases scope with
  | workspace id => exact (lists_workspaces_workspace (h.workspace id rfl).1).lists
  | user user ids => exact (lists_workspaces_user (h.workspaces user ids rfl)).lists

theorem lists_workspaceBranches (h : inv.ServedBy s c.pageSize scope) {w : Workspace}
    (hw : w ∈ inv.inScope scope) : ∀ b ∈ inv.workspaceBranches w,
      Lists s (c.listResources scope b.entry.1 b.entry.2) (b.nodes.map (·.resource)) := by
  intro b hb
  rw [workspaceBranches, List.mem_cons, List.mem_cons, List.mem_singleton] at hb
  have hcheck := check_workspace h hw
  rcases hb with rfl | rfl | rfl
  · have hlist := lists_users scope (w := w.resource.id) rfl (h.members w hw)
    rw [listResources_some c hcheck, userNodes, List.map_map]
    exact hlist.lists
  · have hlist := lists_groups c.pageSize scope (w := w.resource.id) rfl (h.groups w hw)
    rw [listResources_some c hcheck, List.map_map]
    exact hlist.lists
  · have hlist := lists_projects scope (w := w.resource.id) rfl (h.projects w hw)
    rw [listResources_some c hcheck, List.map_map]
    exact hlist.lists

theorem lists_projectBranch (h : inv.ServedBy s c.pageSize scope) (hn : inv.WellNamed scope)
    {w : Workspace} (hw : w ∈ inv.inScope scope) {p : Project} (hp : p ∈ inv.projectsOf w) :
    Lists s (c.listResources scope (inv.projectBranch w p).entry.1 (inv.projectBranch w p).entry.2)
      ((inv.projectBranch w p).nodes.map (·.resource)) := by
  have hholding := isHolding_project hn hw hp
  have hcheck := (Scope.check_eq_ok_iff hholding.workspace?).2 (contains_of_mem_inScope h hw)
  cases h.projectContents w hw p hp with
  | project roles repositories members =>
    have hlist := lists_repositories scope hholding.1 hholding.2 repositories
    rw [projectBranch, listResources_some c hcheck, List.map_map]
    exact hlist.lists

/-! ## What the server grants -/

theorem enumerates_topBranch (h : inv.ServedBy s c.pageSize scope) :
    ∀ n ∈ (inv.topBranch scope).nodes,
      Enumerates s (c.listGrants scope n.resource.id) n.grants := by
  intro n hn
  obtain ⟨w, hw, rfl⟩ := List.mem_map.1 hn
  exact enumerates_workspace rfl (contains_of_mem_inScope h hw) (h.members w hw)

theorem enumerates_workspaceBranches (h : inv.ServedBy s c.pageSize scope)
    (hn : inv.WellNamed scope) {w : Workspace} (hw : w ∈ inv.inScope scope) :
    ∀ b ∈ inv.workspaceBranches w, ∀ n ∈ b.nodes,
      Enumerates s (c.listGrants scope n.resource.id) n.grants := by
  intro b hb n hmem
  have hs := contains_of_mem_inScope h hw
  rw [workspaceBranches, List.mem_cons, List.mem_cons, List.mem_singleton] at hb
  rcases hb with rfl | rfl | rfl
  · -- nothing is granted on a user
    obtain ⟨u, -, rfl⟩ := List.mem_map.1 hmem
    exact enumerates_user rfl
  · -- the key of a group is read back, and it is in the scope by its workspace
    obtain ⟨g, hg, rfl⟩ := List.mem_map.1 hmem
    have hid : GroupId.read (inv.groupNode w g).resource.id.key = .ok ⟨w.uuid, g.slug⟩ := by
      have hread : GroupId.read (GroupId.text ⟨w.uuid, g.slug⟩) = .ok ⟨w.uuid, g.slug⟩ :=
        GroupId.read_text (hn.workspaces w hw) (hn.groups w hw g hg)
      exact hread
    exact enumerates_group rfl hid hs (h.groupMembers w hw g hg)
  · -- so is the key of a project
    obtain ⟨p, hp, rfl⟩ := List.mem_map.1 hmem
    have hholding := isHolding_project hn hw hp
    rw [projectNode, listGrants_eq_listPhased c hholding hs]
    exact enumerates_listPhased _ (h.projectContents w hw p hp)

theorem enumerates_projectBranch (h : inv.ServedBy s c.pageSize scope) (hn : inv.WellNamed scope)
    {w : Workspace} (hw : w ∈ inv.inScope scope) {p : Project} (hp : p ∈ inv.projectsOf w) :
    ∀ n ∈ (inv.projectBranch w p).nodes,
      Enumerates s (c.listGrants scope n.resource.id) n.grants := by
  intro n hmem
  obtain ⟨r, hr, rfl⟩ := List.mem_map.1 hmem
  have hholding := isHolding_repository hn hw hp hr
  rw [listGrants_eq_listPhased c hholding (contains_of_mem_inScope h hw)]
  exact enumerates_listPhased _ (h.repositoryContents w hw p hp r hr)

/-! ## The walk -/

theorem nodes_branches (inv : Inventory) (scope : Scope) :
    [inv.topBranch scope].flatMap (·.nodes) ++
      (((inv.inScope scope).flatMap inv.workspaceBranches).flatMap (·.nodes) ++
        (inv.projectBranches scope).flatMap (·.nodes)) = inv.nodes scope := by
  have hworkspaces : ((inv.inScope scope).flatMap inv.workspaceBranches).flatMap (·.nodes) =
      (inv.inScope scope).flatMap fun w => inv.userNodes w ++
        ((inv.groups w.uuid).map (inv.groupNode w) ++
          (inv.projectsOf w).map (inv.projectNode w)) := by
    simp [workspaceBranches, List.flatMap_assoc]
  have hprojects : (inv.projectBranches scope).flatMap (·.nodes) =
      (inv.inScope scope).flatMap fun w => (inv.projectsOf w).flatMap fun p =>
        (inv.repositoriesOf w p).map (inv.repositoryNode w p) := by
    simp [projectBranches, projectBranch, List.flatMap_assoc, List.flatMap_map]
  rw [hworkspaces, hprojects, List.flatMap_singleton, ← List.append_assoc]
  rfl

/-- When the lists can be made, level by level, so can the whole tree. -/
theorem does_walk {t : Task} (htop : (inv.topBranch t.scope).MadeBy s t)
    (hworkspaces : ∀ b ∈ (inv.inScope t.scope).flatMap inv.workspaceBranches, b.MadeBy s t)
    (hprojects : ∀ b ∈ inv.projectBranches t.scope, b.MadeBy s t) :
    t.walk.Does s ((inv.nodes t.scope).map (·.visit t.withGrants))
      ((inv.nodes t.scope).flatMap (·.records t.withGrants)) := by
  have hnone : (t.drain []).Does s [] [] := by
    rw [Task.drain]
    exact Walk.does_pure []
  -- from the last level back: the lists below a level are the next one
  rw [← inv.below_projectBranches t.scope] at hnone
  have hthird := Task.does_drain_level hprojects hnone
  rw [← below_workspaceBranches] at hthird
  have hsecond := Task.does_drain_level hworkspaces hthird
  rw [← below_topBranch] at hsecond
  have htops : ∀ b ∈ [inv.topBranch t.scope], b.MadeBy s t :=
    fun b hb => List.mem_singleton.1 hb ▸ htop
  have hfirst := Task.does_drain_level htops hsecond
  rw [List.append_nil, List.append_nil] at hfirst
  rw [← nodes_branches, List.map_append, List.map_append, List.flatMap_append, List.flatMap_append]
  exact hfirst

end Inventory

/-- **Every walk is complete.** Against a server that has the inventory, a walk with a large enough
limit of pages comes to an end without a failure, whatever was seen before, and leaves the records
of the tree, level by level: each resource that is listed, its entitlements, and the grants of a
whole enumeration if they are asked for. -/
theorem walk_complete (c : Connector) (withGrants : Bool) {scope : Scope} {inv : Inventory}
    (h : inv.ServedBy s c.pageSize scope) (hn : inv.WellNamed scope) :
    ∃ n, ∀ limit, n ≤ limit → (Task.mk c scope withGrants limit).walk.Does s
      ((inv.nodes scope).map (·.visit withGrants))
      ((inv.nodes scope).flatMap (·.records withGrants)) := by
  let t := Task.mk c scope withGrants 0
  -- each level can be made when the limit is large, hence all of them
  have htop : AllLarge fun limit => (inv.topBranch scope).MadeBy s (t.withLimit limit) :=
    Task.allLarge_madeBy t (Inventory.lists_topBranch h) (Inventory.enumerates_topBranch h)
  have hworkspaces : AllLarge fun limit =>
      ∀ b ∈ (inv.inScope scope).flatMap inv.workspaceBranches, b.MadeBy s (t.withLimit limit) := by
    apply allLarge_forall_mem
    intro b hb
    obtain ⟨w, hw, hb⟩ := List.mem_flatMap.1 hb
    exact Task.allLarge_madeBy t (Inventory.lists_workspaceBranches h hw b hb)
      (Inventory.enumerates_workspaceBranches h hn hw b hb)
  have hprojects : AllLarge fun limit =>
      ∀ b ∈ inv.projectBranches scope, b.MadeBy s (t.withLimit limit) := by
    apply allLarge_forall_mem
    intro b hb
    obtain ⟨w, hw, hb⟩ := List.mem_flatMap.1 hb
    obtain ⟨p, hp, rfl⟩ := List.mem_map.1 hb
    exact Task.allLarge_madeBy t (Inventory.lists_projectBranch h hn hw hp)
      (Inventory.enumerates_projectBranch h hn hw hp)
  obtain ⟨n, hlarge⟩ := htop.and (hworkspaces.and hprojects)
  refine ⟨n, ?_⟩
  intro limit hlimit
  obtain ⟨htop, hworkspaces, hprojects⟩ := hlarge limit hlimit
  exact Inventory.does_walk htop hworkspaces hprojects

/-- What the small server has. -/
def sampleInventory : Inventory where
  workspaces := [⟨[⟨"w", "work", "Work"⟩], ""⟩]
  workspace _ := ⟨"w", "work", "Work"⟩
  members _ := [⟨[⟨"u1", "First User", "first", "user"⟩], "2"⟩,
    ⟨[⟨"u2", "Second User", "second", "user"⟩], ""⟩]
  groups _ := [⟨"g", "Group", some "read", []⟩]
  groupMembers _ := sampleContents.members "g"
  projects _ := [⟨[⟨"p", "P", "Project"⟩], ""⟩]
  repositories _ _ := sampleContents.repositories
  groupRoles _ := sampleContents.groups
  userRoles _ := sampleContents.users

theorem servedBy_sample : sampleInventory.ServedBy sampleServer 100 (.user "u1" ["w"]) where
  workspaces _ _ _ := .last rfl rfl
  workspace id h := by cases h
  members _ _ := .more rfl (by decide) (.last rfl rfl)
  groups _ _ := rfl
  groupMembers _ _ _ _ := rfl
  projects _ _ := .last rfl rfl
  projectContents w hw p hp := by
    obtain rfl : w = ⟨"w", "work", "Work"⟩ := List.mem_singleton.1 hw
    obtain rfl : p = ⟨"p", "P", "Project"⟩ := List.mem_singleton.1 hp
    exact listedAt_sample
  repositoryContents w hw p hp r hr := by
    obtain rfl : w = ⟨"w", "work", "Work"⟩ := List.mem_singleton.1 hw
    obtain rfl : p = ⟨"p", "P", "Project"⟩ := List.mem_singleton.1 hp
    have htable : Api.Target.repository "w" r.uuid ∈ sampleTables := by
      rcases List.mem_cons.1 hr with rfl | hr
      · decide
      · obtain rfl := List.mem_singleton.1 hr
        decide
    have hroles := rolesAt_sample htable
    exact .repository ⟨hroles.groups, hroles.users⟩

theorem wellNamed_sample : sampleInventory.WellNamed (.user "u1" ["w"]) where
  workspaces := by decide
  groups := by decide
  projects := by decide
  repositories := by decide

/-- A walk of the small server, where each resource has so many grants. -/
theorem walk_complete_sample :
    (∃ n, ∀ limit, n ≤ limit → (Task.mk ⟨100, []⟩ (.user "u1" ["w"]) true limit).walk.Does
      sampleServer ((sampleInventory.nodes (.user "u1" ["w"])).map (·.visit true))
      ((sampleInventory.nodes (.user "u1" ["w"])).flatMap (·.records true))) ∧
    (sampleInventory.nodes (.user "u1" ["w"])).map (fun n => (n.resource.id.key, n.grants.length)) =
      [("w", 2), ("u1", 0), ("u2", 0), ("w:g", 2), ("w:p:P", 9), ("w:p:P:r1", 4),
        ("w:p:P:r2", 4)] :=
  ⟨walk_complete ⟨100, []⟩ true servedBy_sample wellNamed_sample, rfl⟩

end AccessSync.Sync
