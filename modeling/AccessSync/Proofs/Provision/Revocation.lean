import AccessSync.Proofs.Access.Id
import AccessSync.Proofs.Grants.Membership
import AccessSync.Proofs.Provision.History

/-!
# Revoking what was listed

The grants on a project go to the members of a group as well as to the group, and look like grants
to users there. Taking such a grant away takes the role of the user itself away, if it has one, and
leaves the group and its members as they are. So a grant that was revoked is listed no more, unless
a user still reaches it through a group.

* `ListsStore`: a server that keeps entries and lists them.
* `Reaches`: who is listed with a role.
* `listed_after_revoke_iff`: when a revoked grant is listed again.
-/

namespace AccessSync.Provision

open Api (Endpoint Held Target)
open Function (update)

variable {σ : Type}

/-- The server keeps entries, and its lists of roles tell those that it keeps. -/
structure ListsStore (up : Responder Endpoint.Reply σ) (view : σ → Store) (pageSize : UInt32) : Prop
    extends IsStore up view where
  groups : ∀ target s, ∃ pages : List (Page (Held Api.GroupRef)),
    Chain (fun cursor => (up (.roles target .groups pageSize cursor) s).1) "" pages ∧
    ∀ slug r, (∃ held ∈ Page.concat pages, held.holder.slug = slug ∧ held.role = r) ↔
      view s (.role target .groups slug) = some r
  users : ∀ target s, ∃ pages : List (Page (Held Api.User)),
    Chain (fun cursor => (up (.roles target .users pageSize cursor) s).1) "" pages ∧
    ∀ user r, (∃ held ∈ Page.concat pages, held.holder.uuid = user ∧ held.role = r) ↔
      view s (.role target .users user) = some r
  repositories : ∀ workspace project s, ∃ pages : List (Page Api.Repository),
    Chain (fun cursor => (up (.repositories workspace project pageSize cursor) s).1) "" pages

/-! ## Who is listed -/

/-- The user is a member of a group with the role, on a project, where that counts. -/
def ThroughGroup (store : Store) (role user : String) : Holding → Prop
  | .project id => ∃ slug, store (.role (.project id.workspace id.key) .groups slug) = some role ∧
      (store (.membership ⟨id.workspace, slug⟩ user)).isSome
  | .repository _ => False

/-- The principal is listed with the role: a user by itself or through a group, a group by
itself. -/
def Reaches (store : Store) (holding : Holding) (role : String) (principal : ResourceId) : Prop :=
  match principal.kind with
  | .user => store (.role holding.target .users principal.key) = some role ∨
      ThroughGroup store role principal.key holding
  | .userGroup => ∃ slug, principal.key = GroupId.text ⟨holding.workspace, slug⟩ ∧
      store (.role holding.target .groups slug) = some role
  | _ => False

/-- The lists of a project or a repository are those of a store. -/
structure TellsStore (contents : Contents) (store : Store) (holding : Holding) : Prop where
  groups : ∀ slug r,
    (∃ held ∈ Page.concat contents.groups, held.holder.slug = slug ∧ held.role = r) ↔
      store (.role holding.target .groups slug) = some r
  users : ∀ user r,
    (∃ held ∈ Page.concat contents.users, held.holder.uuid = user ∧ held.role = r) ↔
      store (.role holding.target .users user) = some r
  members : ∀ slug user, user ∈ (contents.members slug).map (fun m => m.uuid) ↔
    (store (.membership ⟨holding.workspace, slug⟩ user)).isSome

/-- **What a server that lists its entries lists** behind a project or a repository. -/
theorem ListsStore.exists_contents {up : Responder Endpoint.Reply σ} {view : σ → Store}
    {pageSize : UInt32} (h : ListsStore up view pageSize) (holding : Holding) (s : σ) :
    ∃ contents : Contents, contents.ListedAt (up.asOf s) pageSize holding ∧
      TellsStore contents (view s) holding := by
  obtain ⟨groups, hgroups, tellsGroups⟩ := h.groups holding.target s
  obtain ⟨users, husers, tellsUsers⟩ := h.users holding.target s
  obtain ⟨members, hmembers⟩ := Classical.axiomOfChoice fun slug =>
    h.members ⟨holding.workspace, slug⟩ s
  cases holding with
  | project id =>
    obtain ⟨repositories, hrepositories⟩ := h.repositories id.workspace id.project s
    refine ⟨⟨repositories, groups, users, members⟩, ?_, ?_⟩
    · exact .project ⟨hgroups, husers⟩ hrepositories fun g _ _ => (hmembers g.holder.slug).1
    · exact ⟨tellsGroups, tellsUsers, fun slug => (hmembers slug).2⟩
  | repository id =>
    refine ⟨⟨[], groups, users, members⟩, ?_, ?_⟩
    · exact .repository ⟨hgroups, husers⟩
    · exact ⟨tellsGroups, tellsUsers, fun slug => (hmembers slug).2⟩

section
variable {contents : Contents} {store : Store} {holding : Holding} {resource : ResourceId}
variable {role : String} {kind : Kind} {name : String}

theorem mem_keys_memberGrants {slug : String} {members : List Api.User} :
    (role, ⟨kind, name⟩) ∈ (memberGrants resource slug members).map Grant.key ↔
      role = slug ∧ kind = .user ∧ name ∈ members.map fun m => m.uuid := by
  unfold memberGrants
  rw [List.map_map, List.mem_map, List.mem_map]
  constructor
  · rintro ⟨m, hm, hkey⟩
    cases hkey
    exact ⟨rfl, rfl, m, hm, rfl⟩
  · rintro ⟨rfl, rfl, m, hm, rfl⟩
    exact ⟨m, hm, rfl⟩

/-- The listed grants of roles to users are those of the users with a role. -/
theorem mem_keys_users (h : TellsStore contents store holding) :
    (role, ⟨kind, name⟩) ∈ (((Page.concat contents.users).filter fun u =>
        holding.kind.isRole u.role).map (userGrant resource)).map Grant.key ↔
      holding.kind.isRole role ∧ kind = .user ∧
        store (.role holding.target .users name) = some role := by
  rw [← h.users, List.map_map, List.mem_map]
  constructor
  · rintro ⟨held, hmem, hkey⟩
    obtain ⟨hheld, hrole⟩ := List.mem_filter.1 hmem
    cases hkey
    exact ⟨hrole, rfl, held, hheld, rfl, rfl⟩
  · rintro ⟨hrole, rfl, held, hheld, rfl, rfl⟩
    exact ⟨held, List.mem_filter.2 ⟨hheld, hrole⟩, rfl⟩

/-- The listed grants of roles to groups are those of the groups with a role. -/
theorem mem_keys_groups (h : TellsStore contents store holding) :
    (role, ⟨kind, name⟩) ∈ (((Page.concat contents.groups).filter fun g =>
        holding.kind.isRole g.role).map (groupGrant resource holding.workspace)).map Grant.key ↔
      holding.kind.isRole role ∧ kind = .userGroup ∧
        ∃ slug, name = GroupId.text ⟨holding.workspace, slug⟩ ∧
          store (.role holding.target .groups slug) = some role := by
  rw [List.map_map, List.mem_map]
  constructor
  · rintro ⟨held, hmem, hkey⟩
    obtain ⟨hheld, hrole⟩ := List.mem_filter.1 hmem
    cases hkey
    exact ⟨hrole, rfl, _, rfl, (h.groups _ _).1 ⟨held, hheld, rfl, rfl⟩⟩
  · rintro ⟨hrole, rfl, slug, rfl, hslug⟩
    obtain ⟨held, hheld, rfl, rfl⟩ := (h.groups _ _).2 hslug
    exact ⟨held, List.mem_filter.2 ⟨hheld, hrole⟩, rfl⟩

/-- With the members of each group, the listed grants are those of the groups with a role and of
their members. -/
theorem mem_keys_expanded {id : ProjectId} (h : TellsStore contents store (.project id)) :
    (role, ⟨kind, name⟩) ∈ (((Page.concat contents.groups).filter fun g =>
        Kind.project.isRole g.role).flatMap
          (groupGrants resource id.workspace contents.members)).map Grant.key ↔
      Kind.project.isRole role ∧
        ((kind = .userGroup ∧ ∃ slug, name = GroupId.text ⟨id.workspace, slug⟩ ∧
          store (.role (Holding.project id).target .groups slug) = some role) ∨
        (kind = .user ∧ ThroughGroup store role name (.project id))) := by
  rw [List.map_flatMap, List.mem_flatMap]
  constructor
  · rintro ⟨held, hmem, hkey⟩
    obtain ⟨hheld, hrole⟩ := List.mem_filter.1 hmem
    have hstore := (h.groups held.holder.slug held.role).1 ⟨held, hheld, rfl, rfl⟩
    -- the grant goes to the group itself or to one of its members
    rcases List.mem_cons.1 hkey with hgroup | hmember
    · cases hgroup
      exact ⟨hrole, .inl ⟨rfl, _, rfl, hstore⟩⟩
    · obtain ⟨rfl, rfl, hname⟩ := mem_keys_memberGrants.1 hmember
      exact ⟨hrole, .inr ⟨rfl, _, hstore, (h.members _ _).1 hname⟩⟩
  · rintro ⟨hrole, ⟨rfl, slug, rfl, hslug⟩ | ⟨rfl, slug, hslug, hmember⟩⟩
    · obtain ⟨held, hheld, rfl, rfl⟩ := (h.groups _ _).2 hslug
      exact ⟨held, List.mem_filter.2 ⟨hheld, hrole⟩, List.mem_cons_self⟩
    · obtain ⟨held, hheld, rfl, rfl⟩ := (h.groups _ _).2 hslug
      refine ⟨held, List.mem_filter.2 ⟨hheld, hrole⟩, List.mem_cons_of_mem _ ?_⟩
      exact mem_keys_memberGrants.2 ⟨rfl, rfl, (h.members _ _).2 hmember⟩

/-- **Who is listed with a role** on a project or a repository, of users and groups. -/
theorem mem_keys_grants (h : TellsStore contents store holding) {principal : ResourceId}
    (hp : principal.kind = .user ∨ principal.kind = .userGroup) :
    (role, principal) ∈ (contents.grants resource holding).map Grant.key ↔
      holding.kind.isRole role ∧ Reaches store holding role principal := by
  obtain ⟨kind, name⟩ := principal
  cases holding with
  | project id =>
    -- what is listed below the project goes to repositories
    have hrepositories : (role, ⟨kind, name⟩) ∉
        ((Page.concat contents.repositories).map (repositoryGrant resource id)).map Grant.key := by
      rw [List.map_map, List.mem_map]
      rintro ⟨r, -, hkey⟩
      cases hkey
      simp at hp
    unfold Contents.grants
    dsimp only
    rw [List.map_append, List.mem_append, or_iff_right hrepositories, mem_keys_firstOf,
      List.map_append, List.mem_append, mem_keys_expanded h]
    refine (or_congr_right (mem_keys_users h)).trans ?_
    refine and_or_left.symm.trans (and_congr_right fun _ => ?_)
    rcases hp with hkind | hkind
    · obtain rfl : kind = .user := hkind
      simp [Reaches, or_comm]
    · obtain rfl : kind = .userGroup := hkind
      simp [Reaches, Holding.workspace]
  | repository id =>
    unfold Contents.grants
    dsimp only
    rw [mem_keys_firstOf, List.map_append, List.mem_append]
    refine (or_congr (mem_keys_groups h) (mem_keys_users h)).trans ?_
    refine and_or_left.symm.trans (and_congr_right fun _ => ?_)
    rcases hp with hkind | hkind
    · obtain rfl : kind = .user := hkind
      simp [Reaches, ThroughGroup]
    · obtain rfl : kind = .userGroup := hkind
      simp [Reaches, Holding.workspace]

end

/-! ## Enumerations of a store -/

section
variable {up : Responder Endpoint.Reply σ} {view : σ → Store} {c : Connector} {scope : Scope}
variable {resource : ResourceId}

theorem enumerates_of_group (h : ListsStore up view c.pageSize) (hk : resource.kind = .userGroup)
    {group : GroupId} (hid : GroupId.read resource.key = .ok group)
    (hs : scope.contains group.workspace) (s : σ) :
    ∃ members : List Api.User,
      Enumerates (up.asOf s) (c.listGrants scope resource)
        (memberGrants resource memberSlug members) ∧
      ∀ user, user ∈ members.map (fun m => m.uuid) ↔ (view s (.membership group user)).isSome := by
  obtain ⟨members, hmembers, hmem⟩ := h.members group s
  exact ⟨members, enumerates_group hk hid hs hmembers, hmem⟩

theorem enumerates_of_holding (h : ListsStore up view c.pageSize) {holding : Holding}
    (hr : resource.IsHolding holding) (hs : scope.contains holding.workspace) (s : σ) :
    ∃ contents : Contents,
      Enumerates (up.asOf s) (c.listGrants scope resource) (contents.grants resource holding) ∧
      TellsStore contents (view s) holding := by
  obtain ⟨contents, hlisted, htells⟩ := h.exists_contents holding s
  rw [listGrants_eq_listPhased c hr hs]
  exact ⟨contents, enumerates_listPhased resource hlisted, htells⟩

theorem resource_of_mem_grants {contents : Contents} {holding : Holding} {g : Grant}
    (hg : g ∈ contents.grants resource holding) : g.resource = resource := by
  have hfirst {grants : List Grant} (h : g ∈ firstOf grants) : g ∈ grants := by
    rw [← without_nil grants] at h
    exact (mem_of_mem_firstOf h).1
  have husers {held : List (Held Api.User)} (h : g ∈ held.map (userGrant resource)) :
      g.resource = resource := by
    obtain ⟨u, -, rfl⟩ := List.mem_map.1 h
    rfl
  cases holding with
  | project id =>
    rcases List.mem_append.1 hg with hrepository | hrole
    · obtain ⟨r, -, rfl⟩ := List.mem_map.1 hrepository
      rfl
    · rcases List.mem_append.1 (hfirst hrole) with hgroup | huser
      · obtain ⟨held, -, hheld⟩ := List.mem_flatMap.1 hgroup
        rcases List.mem_cons.1 hheld with rfl | hmember
        · rfl
        · exact resource_memberGrants hmember
      · exact husers huser
  | repository id =>
    rcases List.mem_append.1 (hfirst hg) with hgroup | huser
    · obtain ⟨held, -, rfl⟩ := List.mem_map.1 hgroup
      rfl
    · exact husers huser

end

/-! ## Revoking -/

/-- The change that takes a grant away. -/
def Change.revoke (g : Grant) : Change := ⟨.take, g.principal, g.resource, g.slug⟩

section
variable {up : Responder Endpoint.Reply σ} {view : σ → Store} {c : Connector} {scope : Scope}
variable {resource : ResourceId} {s : σ} {g : Grant}

/-- A revocation that succeeds takes its entry away. -/
theorem view_of_revoke (h : IsStore up view)
    (hrevoke : (make up scope (.revoke g) s).result = .ok (.ok ())) :
    ∃ e, (Change.revoke g).entry scope = .ok e ∧
      view (make up scope (.revoke g) s).after = update (view s) e none := by
  have hfits := fits_make h scope (.revoke g) s
  obtain ⟨e, habout, hview⟩ := hfits.done hrevoke
  exact ⟨e, Change.entry_eq_ok_iff.2 ⟨hfits.fault?_eq_none hrevoke, habout⟩, hview⟩

/-- What is changed on a group is a membership. -/
theorem entry_on_group {c : Change} {e : Entry} (hk : c.resource.kind = .userGroup)
    (he : c.entry scope = .ok e) :
    ∃ group, GroupId.read c.resource.key = .ok group ∧ e = .membership group c.principal.key := by
  obtain ⟨what, -, -, hread, hentry⟩ := Change.of_entry_eq_ok he
  unfold Changed.read at hread
  simp only [hk] at hread
  obtain ⟨group, hgroup, rfl⟩ := except_map_eq_ok hread
  exact ⟨group, hgroup, (Except.ok.inj hentry).symm⟩

/-- What is changed on a project or a repository is the role of the principal. -/
theorem entry_on_holding {c : Change} {e : Entry} {holding : Holding}
    (hr : c.resource.IsHolding holding) (he : c.entry scope = .ok e) :
    ∃ holder, Holder.read c.principal holding.workspace = .ok holder ∧
      e = .role holding.target holder.side holder.name := by
  obtain ⟨what, -, -, hread, hentry⟩ := Change.of_entry_eq_ok he
  obtain rfl : what = .roles holding.target := by
    unfold Changed.read at hread
    cases holding with
    | project id | repository id =>
      rw [hr.1, hr.2] at hread
      exact (Except.ok.inj hread).symm
  obtain ⟨holder, hholder, rfl⟩ := except_map_eq_ok hentry
  refine ⟨holder, ?_, rfl⟩
  cases holding <;> exact hholder

theorem throughGroup_update {holding : Holding} {store : Store} {target : Target}
    {name role user : String} :
    ThroughGroup (update store (.role target .users name) none) role user holding ↔
      ThroughGroup store role user holding := by
  cases holding with
  | project id =>
    unfold ThroughGroup
    simp only [ne_eq, reduceCtorEq, not_false_eq_true, Function.update_of_ne, Entry.role.injEq,
      and_false, false_and]
  | repository id => exact Iff.rfl

/-- A group that can hold a role of the workspace has the key of its slug. -/
theorem slug_of_read_holder {name workspace : String} {holder : Holder}
    (h : Holder.read ⟨.userGroup, name⟩ workspace = .ok holder) :
    ∃ group, holder = .group group ∧ name = GroupId.text ⟨workspace, group.slug⟩ := by
  unfold Holder.read at h
  dsimp only at h
  cases hread : GroupId.read name with
  | error e => rw [hread] at h; cases h
  | ok group =>
    rw [hread] at h
    dsimp only at h
    split at h
    · rename_i hw
      subst hw
      exact ⟨group, (Except.ok.inj h).symm, (GroupId.text_of_read hread).symm⟩
    · cases h

/-- **A role that is taken away** leaves what a user has through groups. -/
theorem reaches_update {holding : Holding} {holder : Holder} {store : Store} {role : String}
    {principal : ResourceId} (hholder : Holder.read principal holding.workspace = .ok holder) :
    Reaches (update store (.role holding.target holder.side holder.name) none) holding role
        principal ↔
      principal.kind = .user ∧ ThroughGroup store role principal.key holding := by
  obtain ⟨kind, name⟩ := principal
  cases kind with
  | user =>
    obtain rfl : Holder.user name = holder := Except.ok.inj hholder
    unfold Reaches
    dsimp only [Holder.side, Holder.name]
    rw [Function.update_self, throughGroup_update]
    simp
  | userGroup =>
    obtain ⟨group, rfl, rfl⟩ := slug_of_read_holder hholder
    unfold Reaches
    dsimp only [Holder.side, Holder.name]
    constructor
    · rintro ⟨slug, hkey, hslug⟩
      obtain rfl := GroupId.slug_of_text hkey
      rw [Function.update_self] at hslug
      cases hslug
    · rintro ⟨huser, -⟩
      cases huser
  | workspace | project | repository => cases hholder

/-! ## What is listed again -/

/-- A group in scope has a well-formed key. -/
theorem group_of_check (hk : resource.kind = .userGroup) (hscope : scope.check resource = .ok ()) :
    ∃ group, GroupId.read resource.key = .ok group := by
  obtain ⟨w?, hw⟩ := workspace?_of_check hscope
  unfold ResourceId.workspace? at hw
  rw [hk] at hw
  obtain ⟨group, hgroup, -⟩ := except_map_eq_ok hw
  exact ⟨group, hgroup⟩

/-- A project or a repository in scope has a well-formed key. -/
theorem holding_of_check (hk : resource.kind = .project ∨ resource.kind = .repository)
    (hscope : scope.check resource = .ok ()) : ∃ holding, resource.IsHolding holding := by
  obtain ⟨w?, hw⟩ := workspace?_of_check hscope
  unfold ResourceId.workspace? at hw
  rcases hk with hk | hk
  · rw [hk] at hw
    obtain ⟨id, hid, -⟩ := except_map_eq_ok hw
    exact ⟨.project id, hk, hid⟩
  · rw [hk] at hw
    obtain ⟨id, hid, -⟩ := except_map_eq_ok hw
    exact ⟨.repository id, hk, hid⟩

/-- A membership that was revoked is not listed again. -/
theorem not_listed_in_group (h : ListsStore up view c.pageSize) (hk : resource.kind = .userGroup)
    (hscope : scope.check resource = .ok ()) {grants : List Grant}
    (hbefore : Enumerates (up.asOf s) (c.listGrants scope resource) grants) (hg : g ∈ grants)
    (hrevoke : (make up scope (.revoke g) s).result = .ok (.ok ())) :
    ∃ after, Enumerates (up.asOf (make up scope (.revoke g) s).after)
      (c.listGrants scope resource) after ∧ g.key ∉ after.map Grant.key := by
  obtain ⟨group, hgroup⟩ := group_of_check hk hscope
  have hs := (Scope.check_eq_ok_iff (ResourceId.workspace?_of_userGroup hk hgroup)).1 hscope
  obtain ⟨_, hlisted, -⟩ := enumerates_of_group h hk hgroup hs s
  obtain rfl := hbefore.unique hlisted
  obtain rfl : g.resource = resource := resource_memberGrants hg
  obtain ⟨e, hentry, hview⟩ := view_of_revoke h.toIsStore hrevoke
  obtain ⟨found, hfound, rfl⟩ := entry_on_group hk hentry
  obtain rfl : group = found := Except.ok.inj (hgroup.symm.trans hfound)
  obtain ⟨members, hafter, hmem⟩ :=
    enumerates_of_group h hk hgroup hs (make up scope (.revoke g) s).after
  refine ⟨_, hafter, fun hkey => ?_⟩
  obtain ⟨-, -, hname⟩ := mem_keys_memberGrants.1 hkey
  have hgone : view (make up scope (.revoke g) s).after (.membership group g.principal.key) =
      none := by
    rw [hview]
    exact Function.update_self _ _ _
  have hmember := (hmem g.principal.key).1 hname
  rw [hgone] at hmember
  cases hmember

/-- A role that was revoked is listed again when a user has it through a group. -/
theorem listed_in_holding_iff (h : ListsStore up view c.pageSize) {holding : Holding}
    (hr : resource.IsHolding holding) (hscope : scope.check resource = .ok ())
    (hp : g.principal.kind = .user ∨ g.principal.kind = .userGroup) {grants : List Grant}
    (hbefore : Enumerates (up.asOf s) (c.listGrants scope resource) grants) (hg : g ∈ grants)
    (hrevoke : (make up scope (.revoke g) s).result = .ok (.ok ())) :
    ∃ after, Enumerates (up.asOf (make up scope (.revoke g) s).after)
      (c.listGrants scope resource) after ∧
      (g.key ∈ after.map Grant.key ↔
        g.principal.kind = .user ∧ ThroughGroup (view s) g.slug g.principal.key holding) := by
  have hs := (Scope.check_eq_ok_iff hr.workspace?).1 hscope
  obtain ⟨contents, hlisted, htells⟩ := enumerates_of_holding h hr hs s
  obtain rfl := hbefore.unique hlisted
  obtain rfl : g.resource = resource := resource_of_mem_grants hg
  obtain ⟨e, hentry, hview⟩ := view_of_revoke h.toIsStore hrevoke
  obtain ⟨holder, hholder, rfl⟩ := entry_on_holding hr hentry
  -- it was listed before, so its slug is a role; who has the role is all that may have changed
  have hrole := ((mem_keys_grants htells hp).1 (List.mem_map_of_mem hg)).1
  obtain ⟨after, hafter, htells'⟩ :=
    enumerates_of_holding h hr hs (make up scope (.revoke g) s).after
  refine ⟨_, hafter, (mem_keys_grants htells' hp).trans ?_⟩
  rw [hview, and_iff_right hrole]
  exact reaches_update hholder

/-- **A revoked grant is listed again** exactly when it goes to a user who is a member of a group
with the role, on a project: no more is taken away than what the user has itself. -/
theorem listed_after_revoke_iff (h : ListsStore up view c.pageSize)
    (hk : resource.kind = .userGroup ∨ resource.kind = .project ∨ resource.kind = .repository)
    (hscope : scope.check resource = .ok ()) {grants : List Grant}
    (hbefore : Enumerates (up.asOf s) (c.listGrants scope resource) grants) (hg : g ∈ grants)
    (hp : g.principal.kind = .user ∨ g.principal.kind = .userGroup)
    (hrevoke : (make up scope (.revoke g) s).result = .ok (.ok ())) :
    let s' := (make up scope (.revoke g) s).after
    (∃ after, Enumerates (up.asOf s') (c.listGrants scope resource) after) ∧
    ∀ after, Enumerates (up.asOf s') (c.listGrants scope resource) after →
      ((∃ g' ∈ after, g'.slug = g.slug ∧ g'.principal = g.principal) ↔
        ∃ id slug, resource.IsHolding (.project id) ∧ g.principal.kind = .user ∧
          view s (.role (.project id.workspace id.key) .groups slug) = some g.slug ∧
          (view s (.membership ⟨id.workspace, slug⟩ g.principal.key)).isSome) := by
  have hkeys (after : List Grant) : (∃ g' ∈ after, g'.slug = g.slug ∧ g'.principal = g.principal) ↔
      g.key ∈ after.map Grant.key := by
    simp only [List.mem_map, Grant.key, Prod.mk.injEq]
  rcases hk with hk | hk
  · obtain ⟨after, hafter, hgone⟩ := not_listed_in_group h hk hscope hbefore hg hrevoke
    refine ⟨⟨after, hafter⟩, fun others hothers => ?_⟩
    obtain rfl := hafter.unique hothers
    rw [hkeys]
    refine iff_of_false hgone ?_
    rintro ⟨id, slug, ⟨hproject, -⟩, -⟩
    rw [hk] at hproject
    cases hproject
  · obtain ⟨holding, hr⟩ := holding_of_check hk hscope
    obtain ⟨after, hafter, hagain⟩ :=
      listed_in_holding_iff h hr hscope hp hbefore hg hrevoke
    refine ⟨⟨after, hafter⟩, fun others hothers => ?_⟩
    obtain rfl := hafter.unique hothers
    rw [hkeys, hagain]
    cases holding with
    | project id =>
      constructor
      · rintro ⟨huser, slug, hrole, hmember⟩
        exact ⟨id, slug, hr, huser, hrole, hmember⟩
      · rintro ⟨id', slug, ⟨-, hid⟩, huser, hrole, hmember⟩
        obtain rfl : id = id' := Except.ok.inj (hr.2.symm.trans hid)
        exact ⟨huser, slug, hrole, hmember⟩
    | repository id =>
      refine iff_of_false (fun hthrough => hthrough.2) ?_
      rintro ⟨id', slug, ⟨hproject, -⟩, -⟩
      rw [hr.1] at hproject
      cases hproject

end

/-! ## A ledger that is listed -/

namespace Ledger

theorem mem_held {l : Ledger} {target : Target} {side : Api.Side} {h : Held side.Holder} :
    h ∈ l.held target side ↔
      ∃ name r, l.view (.role target side name) = some r ∧ h = ⟨r, holder name side⟩ := by
  unfold held
  rw [List.mem_filterMap]
  constructor
  · rintro ⟨⟨e, v⟩, -, he⟩
    cases e with
    | membership group user => cases he
    | role t side' name =>
      dsimp only at he
      split at he
      · obtain ⟨r, hview, rfl⟩ := Option.map_eq_some_iff.1 he
        exact ⟨name, r, hview, rfl⟩
      · cases he
  · rintro ⟨name, r, hview, rfl⟩
    obtain ⟨v, hmem⟩ := view_isSome_iff.1 (hview ▸ rfl : (l.view (.role target side name)).isSome)
    exact ⟨_, hmem, by simp [hview]⟩

/-- **The server of ledgers lists its entries.** -/
theorem listsStore_server (pageSize : UInt32) : ListsStore server view pageSize where
  toIsStore := isStore_server
  groups target l := by
    refine ⟨[⟨l.held target .groups, ""⟩], .last rfl rfl, fun slug r => ?_⟩
    rw [Page.concat, List.flatMap_singleton]
    constructor
    · rintro ⟨held, hheld, rfl, rfl⟩
      obtain ⟨name, r, hview, rfl⟩ := mem_held.1 hheld
      exact hview
    · intro hview
      exact ⟨_, mem_held.2 ⟨slug, r, hview, rfl⟩, rfl, rfl⟩
  users target l := by
    refine ⟨[⟨l.held target .users, ""⟩], .last rfl rfl, fun user r => ?_⟩
    rw [Page.concat, List.flatMap_singleton]
    constructor
    · rintro ⟨held, hheld, rfl, rfl⟩
      obtain ⟨name, r, hview, rfl⟩ := mem_held.1 hheld
      exact hview
    · intro hview
      exact ⟨_, mem_held.2 ⟨user, r, hview, rfl⟩, rfl, rfl⟩
  repositories _ _ _ := ⟨[⟨[], ""⟩], .last rfl rfl⟩

end Ledger

/-- A group with a role on a project, a member of the group, and a user with the same role. -/
def sampleLedger : Ledger :=
  [(.role (.project "w" "P") .groups "g", "write"), (.membership ⟨"w", "g"⟩ "u1", "member"),
    (.role (.project "w" "P") .users "u2", "write")]

/-- The project of the ledger. -/
def sampleProject : ResourceId := ⟨.project, "w:p:P"⟩

/-- The grants on the project. -/
def sampleGrants : List Grant :=
  [Grant.of sampleProject "write" ⟨.userGroup, "w:g"⟩, Grant.of sampleProject "write" ⟨.user, "u1"⟩,
    Grant.of sampleProject "write" ⟨.user, "u2"⟩]

theorem enumerates_sampleLedger :
    Enumerates (Ledger.server.asOf sampleLedger)
      (Connector.listGrants ⟨100, []⟩ (.workspace "w") sampleProject) sampleGrants := by
  have hr : sampleProject.IsHolding (.project ⟨"w", "p", "P"⟩) := ⟨rfl, rfl⟩
  let contents : Contents :=
    { repositories := [⟨[], ""⟩]
      groups := [⟨[⟨"write", ⟨"g", ""⟩⟩], ""⟩]
      users := [⟨[⟨"write", ⟨"u2", "", "", ""⟩⟩], ""⟩]
      members := fun _ => [⟨"u1", "", "", ""⟩] }
  have hlisted : contents.ListedAt (Ledger.server.asOf sampleLedger) 100
      (.project ⟨"w", "p", "P"⟩) := by
    refine .project ⟨.last rfl rfl, .last rfl rfl⟩ (.last rfl rfl) fun g hg _ => ?_
    obtain rfl := List.mem_singleton.1 hg
    rfl
  rw [listGrants_eq_listPhased ⟨100, []⟩ hr rfl]
  exact enumerates_listPhased sampleProject hlisted

/-- The role of the second user is not listed again, that of the first one is. -/
theorem listed_after_revoke_iff_sample :
    let list := Connector.listGrants ⟨100, []⟩ (.workspace "w") sampleProject
    let left (user : String) : Ledger := (make Ledger.server (.workspace "w")
      (.revoke (Grant.of sampleProject "write" ⟨.user, user⟩)) sampleLedger).after
    (∃ after, Enumerates (Ledger.server.asOf (left "u1")) list after ∧
      ∃ g ∈ after, g.slug = "write" ∧ g.principal = ⟨.user, "u1"⟩) ∧
    ∃ after, Enumerates (Ledger.server.asOf (left "u2")) list after ∧
      ¬∃ g ∈ after, g.slug = "write" ∧ g.principal = ⟨.user, "u2"⟩ := by
  intro list left
  have hstore := Ledger.listsStore_server 100
  constructor
  · have hfirst : Grant.of sampleProject "write" ⟨.user, "u1"⟩ ∈ sampleGrants := by
      simp [sampleGrants]
    obtain ⟨⟨after, hafter⟩, hiff⟩ := listed_after_revoke_iff (c := ⟨100, []⟩) hstore
      (.inr (.inl rfl)) rfl enumerates_sampleLedger hfirst (.inl rfl) rfl
    refine ⟨after, hafter, (hiff after hafter).2 ?_⟩
    exact ⟨⟨"w", "p", "P"⟩, "g", ⟨rfl, rfl⟩, rfl, rfl, rfl⟩
  · have hsecond : Grant.of sampleProject "write" ⟨.user, "u2"⟩ ∈ sampleGrants := by
      simp [sampleGrants]
    obtain ⟨⟨after, hafter⟩, hiff⟩ := listed_after_revoke_iff (c := ⟨100, []⟩) hstore
      (.inr (.inl rfl)) rfl enumerates_sampleLedger hsecond (.inl rfl) rfl
    refine ⟨after, hafter, fun hagain => ?_⟩
    obtain ⟨id, slug, -, -, -, hmember⟩ := (hiff after hafter).1 hagain
    obtain ⟨v, hmem⟩ := Ledger.view_isSome_iff.1 hmember
    simp [sampleLedger, Grant.of] at hmem

/-- **A revoked grant can be listed again.** The first user is a member of the group with the role;
its grant is revoked, which succeeds, and a complete enumeration returns it as before. -/
theorem revoked_grant_listed_again :
    ListsStore Ledger.server Ledger.view 100 ∧
    Enumerates (Ledger.server.asOf sampleLedger)
      (Connector.listGrants ⟨100, []⟩ (.workspace "w") sampleProject) sampleGrants ∧
    ∃ g ∈ sampleGrants, g.principal.kind = .user ∧
      (make Ledger.server (.workspace "w") (.revoke g) sampleLedger).result = .ok (.ok ()) ∧
      ∃ after, Enumerates
          (Ledger.server.asOf (make Ledger.server (.workspace "w") (.revoke g) sampleLedger).after)
          (Connector.listGrants ⟨100, []⟩ (.workspace "w") sampleProject) after ∧
        ∃ g' ∈ after, g'.slug = g.slug ∧ g'.principal = g.principal := by
  have hr : sampleProject.IsHolding (.project ⟨"w", "p", "P"⟩) := ⟨rfl, rfl⟩
  have hfirst : Grant.of sampleProject "write" ⟨.user, "u1"⟩ ∈ sampleGrants := by
    simp [sampleGrants]
  refine ⟨Ledger.listsStore_server 100, enumerates_sampleLedger, _, hfirst, rfl, rfl, ?_⟩
  obtain ⟨after, hafter, hiff⟩ := listed_in_holding_iff (c := ⟨100, []⟩)
    (Ledger.listsStore_server 100) hr rfl (.inl rfl) enumerates_sampleLedger hfirst rfl
  obtain ⟨g', hg', hkey⟩ := List.mem_map.1 (hiff.2 ⟨rfl, "g", rfl, rfl⟩)
  exact ⟨after, hafter, g', hg', (Prod.mk.inj hkey).1, (Prod.mk.inj hkey).2⟩

end AccessSync.Provision
