import AccessSync.Proofs.Grants.Trail

/-!
# Complete enumerations

When the lists behind a project or a repository are finite chains of pages and every request
succeeds, an enumeration of its grants comes to an end, whatever was seen before, and returns the
grants of the lists: the repositories as they are, of all others the first of each slug and
principal.

* `Contents.grants`: the grants of the lists.
* `Enumerates`: calls that come to an end with certain grants.
* `Enumerates.unique`: no two enumerations come to different grants.
* `enumeration_complete`: an enumeration returns the grants of the lists.
-/

namespace AccessSync

open Api (Endpoint Held Target)

/-! ## What is there -/

/-- What a server lists behind a project or a repository: the pages of each list, and the members
of the groups by slug. -/
structure Contents where
  repositories : List (Page Api.Repository)
  groups : List (Page (Held Api.GroupRef))
  users : List (Page (Held Api.User))
  members : String → List Api.User

namespace Contents

/-- **The grants of a project or a repository.** Those of a project are its repositories, then the
grants of roles, first to groups and the members of each, then to users; those of a repository are
the grants of roles to groups, then to users. Of the grants of roles there is one for each slug and
principal, where it comes first. -/
def grants (c : Contents) (resource : ResourceId) : Holding → List Grant
  | .project id =>
    (Page.concat c.repositories).map (repositoryGrant resource id) ++
      firstOf
        (((Page.concat c.groups).filter fun g => Kind.project.isRole g.role).flatMap
            (groupGrants resource id.workspace c.members) ++
          ((Page.concat c.users).filter fun u => Kind.project.isRole u.role).map
            (userGrant resource))
  | .repository id =>
    firstOf
      (((Page.concat c.groups).filter fun g => Kind.repository.isRole g.role).map
          (groupGrant resource id.workspace) ++
        ((Page.concat c.users).filter fun u => Kind.repository.isRole u.role).map
          (userGrant resource))

/-- The server has the roles of groups and those of users in a permission table, each as a finite
chain of pages, and lets no request for them fail. -/
structure RolesAt (c : Contents) (s : Server) (pageSize : UInt32) (table : Target) : Prop where
  groups : Chain (fun cursor => s (.roles table .groups pageSize cursor)) "" c.groups
  users : Chain (fun cursor => s (.roles table .users pageSize cursor)) "" c.users

/-- The server has these lists, each as a finite chain of pages, and lets no request for them fail.
The permission table of a project is found by the key of the project, that of a repository by the
repository. Repositories and members are asked for on a project alone, and members of groups with a
role. -/
inductive ListedAt (c : Contents) (s : Server) (pageSize : UInt32) : Holding → Prop
  | project {id : ProjectId} (roles : c.RolesAt s pageSize (.project id.workspace id.key))
      (repositories : Chain
        (fun cursor => s (.repositories id.workspace id.project pageSize cursor)) ""
        c.repositories)
      (members : ∀ g ∈ Page.concat c.groups, Kind.project.isRole g.role →
        s (.groupMembers ⟨id.workspace, g.holder.slug⟩) = .ok (c.members g.holder.slug)) :
      ListedAt c s pageSize (.project id)
  | repository {id : RepositoryId}
      (roles : c.RolesAt s pageSize (.repository id.workspace id.repository)) :
      ListedAt c s pageSize (.repository id)

theorem ListedAt.roles {c : Contents} {s : Server} {pageSize : UInt32} {holding : Holding}
    (h : c.ListedAt s pageSize holding) : c.RolesAt s pageSize holding.target := by
  cases h with
  | project roles repositories members => exact roles
  | repository roles => exact roles

end Contents

/-- The calls straight through, first with the empty token and then with each token returned, come
to the empty token and return the grants. They are the same calls whatever was seen before. -/
def Enumerates (s : Server) (list : String → Enumeration (Page Grant)) (grants : List Grant) :
    Prop :=
  ∃ calls, calls ≠ [] ∧ calls.flatMap (·.2.items) = grants ∧
    ∀ seen, ∃ seen', StraightThrough s list seen calls "" seen'

/-- **There is one complete enumeration.** -/
theorem Enumerates.unique {s : Server} {list : String → Enumeration (Page Grant)}
    {grants grants' : List Grant} (h : Enumerates s list grants)
    (h' : Enumerates s list grants') : grants = grants' := by
  obtain ⟨calls, hne, rfl, hcalls⟩ := h
  obtain ⟨calls', hne', rfl, hcalls'⟩ := h'
  obtain ⟨seen, hrun⟩ := hcalls .empty
  obtain ⟨seen', hrun'⟩ := hcalls' .empty
  -- calls that have come to the empty token do not go on
  have hlength : calls.length = calls'.length := by
    rcases Nat.lt_trichotomy calls.length calls'.length with hlt | heq | hgt
    · exact absurd ((hrun.start_of_le hrun' (Nat.le_of_lt hlt)).2 hlt rfl) hne
    · exact heq
    · exact absurd ((hrun'.start_of_le hrun (Nat.le_of_lt hgt)).2 hgt rfl) hne'
  rw [(hrun.unique hrun' hlength).1]

/-- The resource is the project or the repository, by a well-formed key. -/
def ResourceId.IsHolding (resource : ResourceId) : Holding → Prop
  | .project id => resource.kind = .project ∧ ProjectId.read resource.key = .ok id
  | .repository id => resource.kind = .repository ∧ RepositoryId.read resource.key = .ok id

/-! ## A phase along its chain -/

section
variable {s : Server} {pageSize : UInt32} {resource : ResourceId} {holding : Holding}
variable {α : Type} {phase : Kind} {later : List Kind} {grantPage : Page α → Page Grant}

/-- The visits of a phase, one for each page of its list. -/
def phaseVisits (phase : Kind) (later : List Kind) (grantPage : Page α → Page Grant)
    (cursor : String) : List (Page α) → List Served
  | [] => []
  | page :: rest =>
    ⟨⟨phase, cursor, later⟩, grantPage page⟩ :: phaseVisits phase later grantPage page.next rest

/-- **A phase is gone through along its chain**, and then the next one starts. -/
theorem Trail.along {ε : Type} {fetch : String → Except ε (Page α)} {cursor : String}
    {pages : List (Page α)} (hc : Chain fetch cursor pages)
    (hf : ∀ page ∈ pages, ∀ c, fetch c = .ok page →
      FoundAt s pageSize resource holding ⟨phase, c, later⟩ (grantPage page))
    (hn : ∀ page, (grantPage page).next = page.next) {trail : List Served}
    (ht : Trail s pageSize resource holding trail (some ⟨phase, cursor, later⟩)) :
    Trail s pageSize resource holding (trail ++ phaseVisits phase later grantPage cursor pages)
      (Place.first? later) := by
  induction hc generalizing trail with
  | @last cursor page found ends =>
    have hnext := ht.next (hf page List.mem_cons_self cursor found)
    have hafter : Place.after ⟨phase, cursor, later⟩ (grantPage page).next =
        Place.first? later := by
      unfold Place.after
      rw [hn, if_pos ends]
    rwa [hafter] at hnext
  | @more cursor page rest found goes tail ih =>
    have hnext := ht.next (hf page List.mem_cons_self cursor found)
    have hafter : Place.after ⟨phase, cursor, later⟩ (grantPage page).next =
        some ⟨phase, page.next, later⟩ := by
      unfold Place.after
      rw [hn, if_neg goes]
    rw [hafter] at hnext
    have hrest := ih (fun page hp => hf page (List.mem_cons_of_mem _ hp)) hnext
    rwa [List.append_assoc, List.singleton_append] at hrest

theorem phase_of_mem_phaseVisits {cursor : String} {pages : List (Page α)} {v : Served}
    (hv : v ∈ phaseVisits phase later grantPage cursor pages) : v.place.phase = phase := by
  induction pages generalizing cursor with
  | nil => exact absurd hv List.not_mem_nil
  | cons page rest ih =>
    rcases List.mem_cons.1 hv with rfl | hv
    · rfl
    · exact ih hv

theorem items_phaseVisits (cursor : String) (pages : List (Page α)) :
    (phaseVisits phase later grantPage cursor pages).flatMap (·.page.items) =
      pages.flatMap fun page => (grantPage page).items := by
  induction pages generalizing cursor with
  | nil => rfl
  | cons page rest ih => rw [phaseVisits, List.flatMap_cons, List.flatMap_cons, ih]

/-! ## Positions

Only a page that is recorded under a position of its own keeps what is new on it. -/

theorem at_not_mem_name (k : Kind) : '@' ∉ k.name.toList := by cases k <;> decide

theorem takeWhile_name (k : Kind) (cs : List Char) :
    (k.name.toList ++ '@' :: cs).takeWhile (· ≠ '@') = k.name.toList := by
  rw [List.takeWhile_append_of_pos]
  · simp
  · intro c hc
    exact decide_eq_true fun h => at_not_mem_name k (h ▸ hc)

/-- **A position tells the phase and the cursor.** -/
theorem position_injective {k k' : Kind} {c c' : String}
    (h : k.name ++ "@" ++ c = k'.name ++ "@" ++ c') : k = k' ∧ c = c' := by
  have hat : "@".toList = ['@'] := rfl
  have hchars := congrArg String.toList h
  simp only [String.toList_append, List.append_assoc, hat, List.singleton_append] at hchars
  have hname := congrArg (List.takeWhile (· ≠ '@')) hchars
  rw [takeWhile_name, takeWhile_name, String.toList_inj] at hname
  rw [hname, List.append_right_inj, List.cons.injEq, String.toList_inj] at hchars
  exact ⟨Kind.name_injective hname, hchars.2⟩

theorem Served.position_eq (v : Served) :
    v.position = v.place.phase.name ++ "@" ++ v.place.cursor := rfl

theorem positions_phaseVisits (cursor : String) (pages : List (Page α)) :
    (phaseVisits phase later grantPage cursor pages).map Served.position =
      (Chain.cursors cursor pages).map (phase.name ++ "@" ++ ·) := by
  induction pages generalizing cursor with
  | nil => rfl
  | cons page rest ih =>
    rw [phaseVisits, Chain.cursors, List.map_cons, List.map_cons, ih]
    rfl

theorem nodup_positions_phaseVisits {ε : Type} {fetch : String → Except ε (Page α)}
    {cursor : String} {pages : List (Page α)} (h : Chain fetch cursor pages) :
    ((phaseVisits phase later grantPage cursor pages).map Served.position).Nodup := by
  rw [positions_phaseVisits]
  refine List.Pairwise.map _ ?_ h.nodup_cursors
  intro c c' hne heq
  exact hne (position_injective heq).2

theorem nodup_positions_append {xs ys : List Served} (hx : (xs.map Served.position).Nodup)
    (hy : (ys.map Served.position).Nodup)
    (h : ∀ v ∈ xs, ∀ u ∈ ys, v.place.phase ≠ u.place.phase) :
    ((xs ++ ys).map Served.position).Nodup := by
  rw [List.map_append, List.nodup_append]
  refine ⟨hx, hy, ?_⟩
  intro p hp q hq heq
  obtain ⟨v, hv, rfl⟩ := List.mem_map.1 hp
  obtain ⟨u, hu, rfl⟩ := List.mem_map.1 hq
  rw [v.position_eq, u.position_eq] at heq
  exact h v hv u hu (position_injective heq).1

end

/-! ## What the calls of a trail return -/

theorem items_callsFrom_repositories {before xs : List Served}
    (h : ∀ v ∈ xs, v.place.phase = .repository) :
    (callsFrom before xs).flatMap (·.2.items) = xs.flatMap (·.page.items) := by
  induction xs generalizing before with
  | nil => rfl
  | cons v rest ih =>
    have hv : (v.shown before).items = v.page.items := if_pos (h v List.mem_cons_self)
    rw [callsFrom, List.flatMap_cons, List.flatMap_cons, hv,
      ih fun u hu => h u (List.mem_cons_of_mem _ hu)]

/-- A page at a new position shows the first grants that were not on any page before. -/
theorem items_shown {v : Served} {before : List Served} (hv : v.place.phase ≠ .repository)
    (hnew : ∀ u ∈ before, u.position ≠ v.position) :
    (v.shown before).items = firstOf (without (before.flatMap Served.keys) v.page.items) := by
  rw [firstOf_without]
  unfold Served.shown without
  rw [if_neg hv]
  apply List.filter_congr
  intro g hg
  have hkey := (Served.key_mem_keys hv hg).2
  rw [sighted_append_singleton, if_pos hkey]
  cases hs : sighted before g.key with
  | none =>
    -- no page before shows the grant: its first sighting is here, and it is new
    have hnone : g.key ∉ before.flatMap Served.keys := by
      intro hmem
      obtain ⟨u, hu, hk⟩ := List.mem_flatMap.1 hmem
      exact sighted_eq_none.1 hs u hu hk
    simp [hnone]
  | some q =>
    -- a page before shows it, at another position: it is left out on both sides
    obtain ⟨u, hu, hq⟩ := List.exists_of_findSome?_eq_some hs
    split at hq
    · rename_i hk
      obtain rfl := Option.some.inj hq
      have hmem : g.key ∈ before.flatMap Served.keys := List.mem_flatMap.2 ⟨u, hu, hk⟩
      simp [hmem, hnew u hu]
    · cases hq

/-- **The calls at new positions return the first grants** that were not on any page before. -/
theorem items_callsFrom {before xs : List Served} (h : ∀ v ∈ xs, v.place.phase ≠ .repository)
    (hnew : ((before ++ xs).map Served.position).Nodup) :
    (callsFrom before xs).flatMap (·.2.items) =
      firstOf (without (before.flatMap Served.keys) (xs.flatMap (·.page.items))) := by
  induction xs generalizing before with
  | nil => rfl
  | cons v rest ih =>
    have hphase := h v List.mem_cons_self
    have hv : ∀ u ∈ before, u.position ≠ v.position := by
      rw [List.map_append, List.nodup_append] at hnew
      intro u hu
      exact hnew.2.2 _ (List.mem_map_of_mem hu) _ (List.mem_map_of_mem List.mem_cons_self)
    have hkeys : v.keys = v.page.items.map Grant.key := if_neg hphase
    have hrest : (before ++ [v]) ++ rest = before ++ v :: rest := by simp
    rw [callsFrom, List.flatMap_cons, List.flatMap_cons, items_shown hphase hv,
      ih (fun u hu => h u (List.mem_cons_of_mem _ hu)) (by rwa [hrest]), firstOf_without_append]
    -- what is left out of the rest is the same set of keys, listed in another order
    congr 2
    apply without_congr
    intro k
    rw [List.flatMap_append, List.flatMap_singleton, hkeys, List.mem_append, List.mem_append]
    exact or_comm

/-! ## Whole enumerations -/

section
variable {s : Server} {resource : ResourceId} {holding : Holding} {scope : Scope}

theorem Scope.check_eq_ok_iff {id : ResourceId} {w : String} (h : id.workspace? = .ok (some w)) :
    scope.check id = .ok () ↔ scope.contains w := by
  unfold Scope.check
  rw [h]
  by_cases hs : scope.contains w <;> simp [hs]

theorem ResourceId.workspace?_of_workspace {id : ResourceId} (hk : id.kind = .workspace) :
    id.workspace? = .ok (some id.key) := by
  unfold workspace?
  rw [hk]

theorem ResourceId.workspace?_of_userGroup {id : ResourceId} (hk : id.kind = .userGroup)
    {group : GroupId} (h : GroupId.read id.key = .ok group) :
    id.workspace? = .ok (some group.workspace) := by
  unfold workspace?
  rw [hk, h]
  rfl

theorem ResourceId.IsHolding.workspace? (h : resource.IsHolding holding) :
    resource.workspace? = .ok (some holding.workspace) := by
  unfold ResourceId.workspace?
  cases holding with
  | project id => rw [h.1, h.2]; rfl
  | repository id => rw [h.1, h.2]; rfl

theorem listGrants_of_check (c : Connector) (h : scope.check resource = .ok ()) :
    c.listGrants scope resource = AccessSync.listGrants c.pageSize resource := by
  funext token
  unfold Connector.listGrants
  rw [h]
  rfl

/-- A call on a project or a repository in scope gets through to its phases. -/
theorem listGrants_eq_listPhased (c : Connector) (hr : resource.IsHolding holding)
    (hs : scope.contains holding.workspace) :
    c.listGrants scope resource = listPhased c.pageSize resource holding := by
  have hcheck := (Scope.check_eq_ok_iff hr.workspace?).2 hs
  rw [listGrants_of_check c hcheck]
  funext token
  unfold AccessSync.listGrants
  cases holding with
  | project id => rw [hr.1, hr.2]; rfl
  | repository id => rw [hr.1, hr.2]; rfl

/-- What the calls of a trail return when its phase of repositories comes first. -/
theorem items_trailCalls {repositories others : List Served}
    (hr : ∀ v ∈ repositories, v.place.phase = .repository)
    (ho : ∀ v ∈ others, v.place.phase ≠ .repository)
    (hnew : ((repositories ++ others).map Served.position).Nodup) :
    (trailCalls (repositories ++ others)).flatMap (·.2.items) =
      repositories.flatMap (·.page.items) ++ firstOf (others.flatMap (·.page.items)) := by
  have hkeys : repositories.flatMap Served.keys = [] := by
    rw [List.flatMap_eq_nil_iff]
    intro v hv
    exact if_pos (hr v hv)
  unfold trailCalls
  rw [callsFrom_append, List.flatMap_append, List.nil_append, items_callsFrom_repositories hr,
    items_callsFrom ho hnew, hkeys, without_nil]

variable {pageSize : UInt32} {contents : Contents}

/-- The end of a trail, from where the phases of roles are due, what its calls return, and that each
of its pages is recorded under a position of its own. -/
theorem exists_trail_roles {repositories : List Served}
    (ht : Trail s pageSize resource holding repositories (some ⟨.userGroup, "", [.user]⟩))
    (hr : ∀ v ∈ repositories, v.place.phase = .repository)
    (hnew : (repositories.map Served.position).Nodup)
    (h : contents.RolesAt s pageSize holding.target)
    (grantsOf : Page (Held Api.GroupRef) → List Grant)
    (hg : ∀ page ∈ contents.groups, ∀ c, s (.roles holding.target .groups pageSize c) = .ok page →
      FoundAt s pageSize resource holding ⟨.userGroup, c, [.user]⟩ ⟨grantsOf page, page.next⟩) :
    ∃ trail, trail ≠ [] ∧ Trail s pageSize resource holding trail none ∧
      (trailCalls trail).flatMap (·.2.items) =
        repositories.flatMap (·.page.items) ++ firstOf (contents.groups.flatMap grantsOf ++
          ((Page.concat contents.users).filter fun u => holding.kind.isRole u.role).map
            (userGrant resource)) ∧
      (trail.map Served.position).Nodup := by
  let groups := phaseVisits .userGroup [.user] (fun page => ⟨grantsOf page, page.next⟩) ""
    contents.groups
  let users := phaseVisits .user []
    (fun page => ⟨(page.items.filter fun u => holding.kind.isRole u.role).map (userGrant resource),
      page.next⟩) "" contents.users
  have hgroups : Trail s pageSize resource holding (repositories ++ groups)
      (some ⟨.user, "", []⟩) := ht.along h.groups hg fun _ => rfl
  have husers : Trail s pageSize resource holding (repositories ++ groups ++ users) none := by
    refine hgroups.along h.users ?_ fun _ => rfl
    intro page _ c hc
    exact result_userPage hc
  have hothers : ∀ v ∈ groups ++ users, v.place.phase ≠ .repository := by
    intro v hv
    rcases List.mem_append.1 hv with hv | hv
    · rw [phase_of_mem_phaseVisits hv]
      decide
    · rw [phase_of_mem_phaseVisits hv]
      decide
  -- within a phase the cursors differ, between phases their names do
  have hpositions : ((repositories ++ (groups ++ users)).map Served.position).Nodup := by
    refine nodup_positions_append hnew (nodup_positions_append
      (nodup_positions_phaseVisits h.groups) (nodup_positions_phaseVisits h.users) ?_) ?_
    · intro v hv u hu
      rw [phase_of_mem_phaseVisits hv, phase_of_mem_phaseVisits hu]
      decide
    · intro v hv u hu heq
      rw [hr v hv] at heq
      exact hothers u hu heq.symm
  refine ⟨_, ?_, husers, ?_, List.append_assoc _ _ _ ▸ hpositions⟩
  · intro hnil
    cases husers.due_of_nil hnil
  · rw [List.append_assoc, items_trailCalls hr hothers hpositions, List.flatMap_append,
      items_phaseVisits, items_phaseVisits]
    simp only [Page.concat, List.map_flatMap, List.filter_flatMap]

/-- The trail of a project or a repository to its end, what its calls return, and that each of its
pages is recorded under a position of its own. -/
theorem exists_trail (resource : ResourceId) (h : contents.ListedAt s pageSize holding) :
    ∃ trail, trail ≠ [] ∧ Trail s pageSize resource holding trail none ∧
      (trailCalls trail).flatMap (·.2.items) = contents.grants resource holding ∧
      (trail.map Served.position).Nodup := by
  cases h with
  | @project id roles hchain hmembers =>
    let repositories := phaseVisits .repository [.userGroup, .user]
      (fun page => ⟨page.items.map (repositoryGrant resource id), page.next⟩) ""
      contents.repositories
    have hstart : Trail s pageSize resource (.project id) []
        (some ⟨.repository, "", [.userGroup, .user]⟩) := .start
    have htrail : Trail s pageSize resource (.project id) repositories
        (some ⟨.userGroup, "", [.user]⟩) := by
      refine hstart.along hchain ?_ fun _ => rfl
      intro page _ c hc
      exact result_repositoryPage hc
    obtain ⟨trail, hne, hend, hitems, hnew⟩ := exists_trail_roles htrail
      (fun v hv => phase_of_mem_phaseVisits hv) (nodup_positions_phaseVisits hchain) roles
      (fun page => (page.items.filter fun g => Kind.project.isRole g.role).flatMap
        (groupGrants resource id.workspace contents.members)) (by
        intro page hpage c hc
        apply result_groupPage_project hc
        intro g hg hrole
        exact hmembers g (List.mem_flatMap.2 ⟨page, hpage, hg⟩) hrole)
    refine ⟨trail, hne, hend, ?_, hnew⟩
    rw [hitems, items_phaseVisits]
    simp only [Contents.grants, Page.concat, List.map_flatMap, List.filter_flatMap,
      List.flatMap_assoc]
    rfl
  | @repository id roles =>
    have hstart : Trail s pageSize resource (.repository id) [] (some ⟨.userGroup, "", [.user]⟩) :=
      .start
    obtain ⟨trail, hne, hend, hitems, hnew⟩ := exists_trail_roles hstart (by simp) (by simp) roles
      (fun page => (page.items.filter fun g => Kind.repository.isRole g.role).map
        (groupGrant resource id.workspace)) (by
        intro page _ c hc
        exact result_groupPage_repository hc)
    refine ⟨trail, hne, hend, ?_, hnew⟩
    rw [hitems]
    simp only [Contents.grants, Page.concat, List.map_flatMap, List.filter_flatMap,
      List.flatMap_nil, List.nil_append]
    rfl

/-- The calls on a project or a repository come to an end with the grants of the lists. -/
theorem enumerates_listPhased (resource : ResourceId) (h : contents.ListedAt s pageSize holding) :
    Enumerates s (listPhased pageSize resource holding) (contents.grants resource holding) := by
  obtain ⟨trail, hne, htrail, hitems, -⟩ := exists_trail resource h
  have htoken : dueToken trail none = "" := if_neg hne
  refine ⟨trailCalls trail, ?_, hitems, ?_⟩
  · rwa [Ne, trailCalls_eq_nil]
  · intro seen
    obtain ⟨seen', hcalls, -⟩ := straightThrough_of_trail htrail seen
    rw [htoken] at hcalls
    exact ⟨seen', hcalls⟩

/-- **Every enumeration is complete.** Against lists of finitely many pages, the calls on a project
or a repository in scope come to the empty token and return the grants of the lists, whatever was
seen before. -/
theorem enumeration_complete (c : Connector) (hr : resource.IsHolding holding)
    (hs : scope.contains holding.workspace) (h : contents.ListedAt s c.pageSize holding) :
    Enumerates s (c.listGrants scope resource) (contents.grants resource holding) := by
  rw [listGrants_eq_listPhased c hr hs]
  exact enumerates_listPhased resource h

end

/-! ## A small server -/

/-- The permission tables of the small server: that of its project and those of the two
repositories. -/
def sampleTables : List Target := [.project "w" "P", .repository "w" "r1", .repository "w" "r2"]

/-- One workspace with two members, a group of both of them, and a project with two repositories.
The repositories, the groups with a role and the users with a role come in two pages each, and
nobody has a role only once. -/
def sampleServer : Server
  | .currentUser => .ok ⟨"u1", "First User", "first", "user"⟩
  | .workspaces .. => .ok ⟨[⟨"w", "work", "Work"⟩], ""⟩
  | .workspace _ => .ok ⟨"w", "work", "Work"⟩
  | .members _ _ cursor =>
    if cursor = "" then .ok ⟨[⟨"u1", "First User", "first", "user"⟩], "2"⟩
    else .ok ⟨[⟨"u2", "Second User", "second", "user"⟩], ""⟩
  | .projects .. => .ok ⟨[⟨"p", "P", "Project"⟩], ""⟩
  | .repositories _ _ _ cursor =>
    if cursor = "" then .ok ⟨[⟨"r1", "one", "work/one"⟩], "2"⟩
    else .ok ⟨[⟨"r2", "two", "work/two"⟩], ""⟩
  | .groups _ => .ok [⟨"g", "Group", some "read", []⟩]
  | .groupMembers _ =>
    .ok [⟨"u1", "First User", "first", "user"⟩, ⟨"u2", "Second User", "second", "user"⟩]
  | .roles table .groups _ cursor =>
    if table ∉ sampleTables then .error (.status 404 "not found")
    else if cursor = "" then .ok ⟨[⟨"write", ⟨"g", "Group"⟩⟩, ⟨"none", ⟨"g", "Group"⟩⟩], "2"⟩
    else .ok ⟨[⟨"write", ⟨"g", "Group"⟩⟩, ⟨"read", ⟨"g", "Group"⟩⟩], ""⟩
  | .roles table .users _ cursor =>
    if table ∉ sampleTables then .error (.status 404 "not found")
    else if cursor = "" then .ok ⟨[⟨"write", ⟨"u1", "First User", "first", "user"⟩⟩], "2"⟩
    else .ok ⟨[⟨"admin", ⟨"u2", "Second User", "second", "user"⟩⟩], ""⟩
  | .role .. | .addMember .. | .removeMember .. | .setRole .. | .dropRole .. =>
    .error (.status 404 "not found")

/-- What the small server lists behind its project and its repositories. -/
def sampleContents : Contents where
  repositories := [⟨[⟨"r1", "one", "work/one"⟩], "2"⟩, ⟨[⟨"r2", "two", "work/two"⟩], ""⟩]
  groups := [⟨[⟨"write", ⟨"g", "Group"⟩⟩, ⟨"none", ⟨"g", "Group"⟩⟩], "2"⟩,
    ⟨[⟨"write", ⟨"g", "Group"⟩⟩, ⟨"read", ⟨"g", "Group"⟩⟩], ""⟩]
  users := [⟨[⟨"write", ⟨"u1", "First User", "first", "user"⟩⟩], "2"⟩,
    ⟨[⟨"admin", ⟨"u2", "Second User", "second", "user"⟩⟩], ""⟩]
  members _ := [⟨"u1", "First User", "first", "user"⟩, ⟨"u2", "Second User", "second", "user"⟩]

theorem rolesAt_sample {table : Target} (h : table ∈ sampleTables) :
    sampleContents.RolesAt sampleServer 100 table := by
  have hthere : ¬table ∉ sampleTables := not_not_intro h
  have hgroups (cursor : String) : sampleServer (.roles table .groups 100 cursor) = _ :=
    if_neg hthere
  have husers (cursor : String) : sampleServer (.roles table .users 100 cursor) = _ :=
    if_neg hthere
  exact ⟨.more (hgroups "") (by decide) (.last (hgroups "2") rfl),
    .more (husers "") (by decide) (.last (husers "2") rfl)⟩

theorem listedAt_sample : sampleContents.ListedAt sampleServer 100 (.project ⟨"w", "p", "P"⟩) :=
  .project (rolesAt_sample (.head _)) (.more rfl (by decide) (.last rfl rfl)) fun _ _ _ => rfl

theorem enumeration_complete_sample :
    Enumerates sampleServer (Connector.listGrants ⟨100, []⟩ (.workspace "w") ⟨.project, "w:p:P"⟩)
      (sampleContents.grants ⟨.project, "w:p:P"⟩ (.project ⟨"w", "p", "P"⟩)) ∧
    (sampleContents.grants ⟨.project, "w:p:P"⟩ (.project ⟨"w", "p", "P"⟩)).map Grant.key =
      [("repository", ⟨.repository, "w:p:P:r1"⟩), ("repository", ⟨.repository, "w:p:P:r2"⟩),
        ("write", ⟨.userGroup, "w:g"⟩), ("write", ⟨.user, "u1"⟩), ("write", ⟨.user, "u2"⟩),
        ("read", ⟨.userGroup, "w:g"⟩), ("read", ⟨.user, "u1"⟩), ("read", ⟨.user, "u2"⟩),
        ("admin", ⟨.user, "u2"⟩)] := by
  have hr : ResourceId.IsHolding ⟨.project, "w:p:P"⟩ (.project ⟨"w", "p", "P"⟩) := ⟨rfl, rfl⟩
  constructor
  · exact enumeration_complete ⟨100, []⟩ hr rfl listedAt_sample
  · rfl

end AccessSync
