import AccessSync.Connector
import AccessSync.Proofs.Except

/-!
# Changes and their checks

A change gives an entitlement to a principal or takes it away. It is checked first, and about one
entry of what the server keeps if no check finds anything wrong: the role of a holder in a
permission table, or the membership of a user in a group.

* `Change.checks`: the checks, in order.
* `Change.IsAbout`: the entry that a change is about.
* `Change.failureOf_entry`: without an entry to change, the first check that finds something
  decides.
* `Change.entry_eq_ok_iff`: otherwise the entry to change is the one that the change is about.
* `Change.workspace_of_entry`: the entry lies in the workspace of the resource, which is in scope.
-/

namespace AccessSync

open Api (Endpoint Target Side)

/-- The workspace that what is changed lies in. -/
def Changed.workspace : Changed → String
  | .members group => group.workspace
  | .roles target => target.workspace

namespace Provision

/-- Which way access is changed. -/
inductive Direction
  | give
  | take
deriving DecidableEq, Repr

/-- A request that a principal gets an entitlement, or loses it. -/
structure Change where
  direction : Direction
  principal : ResourceId
  resource : ResourceId
  slug : String
deriving DecidableEq, Repr

/-- The change, as it is made in a scope. -/
def Change.perform (c : Change) (scope : Scope) : Operation Unit :=
  match c.direction with
  | .give => Connector.grant scope c.principal c.resource c.slug
  | .take => Connector.revoke scope c.principal c.resource c.slug

/-! ## Entries -/

/-- An entry of what the server keeps: the role of a holder in a permission table, or the membership
of a user in a group. -/
inductive Entry
  | role (target : Target) (side : Side) (holder : String)
  | membership (group : GroupId) (user : String)
deriving DecidableEq, Repr

namespace Entry

def workspace : Entry → String
  | .role target .. => target.workspace
  | .membership group _ => group.workspace

/-- The question that reads the entry. -/
def shown : Entry → Endpoint
  | .role target side holder => .role target side holder
  | .membership group _ => .groupMembers group

/-- The question that writes the entry, with the slug for a role. -/
def changed (d : Direction) (slug : String) : Entry → Endpoint
  | .role target side holder =>
    match d with
    | .give => .setRole target side holder slug
    | .take => .dropRole target side holder
  | .membership group user =>
    match d with
    | .give => .addMember group user
    | .take => .removeMember group user

theorem workspace?_shown (e : Entry) : e.shown.workspace? = some e.workspace := by
  cases e <;> rfl

theorem workspace?_changed (d : Direction) (slug : String) (e : Entry) :
    (e.changed d slug).workspace? = some e.workspace := by
  cases e <;> cases d <;> rfl

end Entry

/-- The permission table of a project is found by the key of the project, that of a repository by
the repository. -/
inductive HasTable (resource : ResourceId) : Target → Prop
  | project {id : ProjectId} (hkind : resource.kind = .project)
      (hread : ProjectId.read resource.key = .ok id) :
      HasTable resource (.project id.workspace id.key)
  | repository {id : RepositoryId} (hkind : resource.kind = .repository)
      (hread : RepositoryId.read resource.key = .ok id) :
      HasTable resource (.repository id.workspace id.repository)

/-- In a permission table a user stands among the users, and a group among the groups by its
slug. -/
inductive StandsAt (principal : ResourceId) : Side → String → Prop
  | user (hkind : principal.kind = .user) : StandsAt principal .users principal.key
  | group {group : GroupId} (hkind : principal.kind = .userGroup)
      (hread : GroupId.read principal.key = .ok group) : StandsAt principal .groups group.slug

/-- **The entry that a change is about**: on a group the membership of the user, on a project or a
repository the role of the principal. -/
inductive Change.IsAbout (c : Change) : Entry → Prop
  | membership {group : GroupId} (hkind : c.resource.kind = .userGroup)
      (hread : GroupId.read c.resource.key = .ok group) (hprincipal : c.principal.kind = .user) :
      IsAbout c (.membership group c.principal.key)
  | role {target : Target} {side : Side} {holder : String} (htable : HasTable c.resource target)
      (hholder : StandsAt c.principal side holder) : IsAbout c (.role target side holder)

/-! ## Checks -/

/-- What went wrong, if anything did. -/
def failureOf {α : Type} : Except Failure α → Option Failure
  | .ok _ => none
  | .error f => some f

/-- The failure, unless the condition holds. -/
def unlessHolds (p : Prop) [Decidable p] (f : Failure) : Option Failure :=
  if p then none else some f

namespace Change

/-- The workspace of the resource is out of scope. -/
def outside (c : Change) (scope : Scope) : Option Failure :=
  match c.resource.workspace? with
  | .ok (some w) =>
    unlessHolds (w ∈ scope.workspaceIds)
      (.permissionDenied s!"workspace {w} is outside the connector scope")
  | _ => none

/-- A group that is to hold a role is malformed. -/
def malformedGroup (c : Change) : Option Failure :=
  if c.principal.kind = .userGroup then failureOf (GroupId.read c.principal.key) else none

/-- A group that is to hold a role is one of another workspace than the resource. -/
def foreignGroup (c : Change) : Option Failure :=
  match c.principal.kind, GroupId.read c.principal.key, c.resource.workspace? with
  | .userGroup, .ok g, .ok (some w) =>
    unlessHolds (g.workspace = w)
      (.invalidArgument s!"group {g.text} belongs to workspace {g.workspace}, not {w}")
  | _, _, _ => none

/-- **The checks of a change**, in order, each with what it finds wrong: the key of the resource,
its workspace, whether the principal can hold anything, whether the slug is known, whether it can be
changed at all, whether this principal can hold it, and the group and the workspace of the group
where the principal is one. -/
def checks (c : Change) (scope : Scope) : List (Option Failure) :=
  let kind := c.resource.kind
  let unsupported := Failure.unsupportedPrincipal kind c.slug c.principal.kind
  [failureOf c.resource.workspace?,
    c.outside scope,
    unlessHolds (c.principal.kind = .user ∨ c.principal.kind = .userGroup) unsupported,
    unlessHolds (kind.isKnownSlug c.slug) (.unsupportedRole kind c.slug),
    unlessHolds (kind.isProvisionable c.slug) (.notProvisionable kind c.slug),
    unlessHolds (c.principal.kind ∈ kind.grantableTo c.slug) unsupported,
    c.malformedGroup,
    c.foreignGroup]

/-- What the first check that finds something wrong finds. -/
def fault? (c : Change) (scope : Scope) : Option Failure := (c.checks scope).findSome? id

/-- What is changed, unless a check before finds something wrong. -/
def changed (c : Change) (scope : Scope) : Except Failure Changed := do
  scope.check c.resource
  checkRequest c.principal c.resource c.slug
  Changed.read c.resource c.slug

/-- The entry of the principal in what is changed. -/
def entryIn (c : Change) : Changed → Except Failure Entry
  | .members group => .ok (.membership group c.principal.key)
  | .roles target =>
    (Holder.read c.principal target.workspace).map fun holder =>
      .role target holder.side holder.name

/-- The entry that the change is about, unless something is wrong with the change. -/
def entry (c : Change) (scope : Scope) : Except Failure Entry := c.changed scope >>= c.entryIn

end Change

theorem failureOf_bind {α β : Type} {x : Except Failure α} {f : α → Except Failure β}
    {later : Option Failure} (h : ∀ a, x = .ok a → failureOf (f a) = later) :
    failureOf (x >>= f) = (failureOf x).or later := by
  cases x with
  | error e => rfl
  | ok a => exact h a rfl

theorem failureOf_map {α β : Type} (x : Except Failure α) (f : α → β) :
    failureOf (x.map f) = failureOf x := by
  cases x <;> rfl

@[simp] theorem failureOf_eq_none {α : Type} {x : Except Failure α} :
    failureOf x = none ↔ ∃ a, x = .ok a := by
  cases x <;> simp [failureOf]

/-- Whatever is in scope has a well-formed key. -/
theorem workspace?_of_check {scope : Scope} {id : ResourceId} (h : scope.check id = .ok ()) :
    ∃ w?, id.workspace? = .ok w? := by
  unfold Scope.check at h
  split at h
  · cases h
  · exact ⟨none, ‹_›⟩
  · exact ⟨some _, ‹_›⟩

@[simp] theorem unlessHolds_eq_none {p : Prop} [Decidable p] {f : Failure} :
    unlessHolds p f = none ↔ p := by
  unfold unlessHolds
  split <;> simp_all

/-! ## Tables and holders -/

theorem of_read_members {resource : ResourceId} {slug : String} {group : GroupId}
    (h : Changed.read resource slug = .ok (.members group)) :
    resource.kind = .userGroup ∧ GroupId.read resource.key = .ok group := by
  unfold Changed.read at h
  cases hk : resource.kind with
  | userGroup =>
    simp only [hk] at h
    obtain ⟨found, hfound, heq⟩ := except_map_eq_ok h
    cases heq
    exact ⟨rfl, hfound⟩
  | workspace | user => rw [hk] at h; cases h
  | project | repository =>
    simp only [hk] at h
    obtain ⟨id, -, heq⟩ := except_map_eq_ok h
    cases heq

/-- Where roles are changed, the table is that of the resource. -/
theorem hasTable_of_read {resource : ResourceId} {slug : String} {target : Target}
    (h : Changed.read resource slug = .ok (.roles target)) : HasTable resource target := by
  unfold Changed.read at h
  cases hk : resource.kind with
  | workspace | user => rw [hk] at h; cases h
  | userGroup =>
    simp only [hk] at h
    obtain ⟨group, -, heq⟩ := except_map_eq_ok h
    cases heq
  | project =>
    simp only [hk] at h
    obtain ⟨id, hid, heq⟩ := except_map_eq_ok h
    cases heq
    exact .project hk hid
  | repository =>
    simp only [hk] at h
    obtain ⟨id, hid, heq⟩ := except_map_eq_ok h
    cases heq
    exact .repository hk hid

/-- A holder stands in a table where the principal does. -/
theorem standsAt_of_read {principal : ResourceId} {workspace : String} {holder : Holder}
    (h : Holder.read principal workspace = .ok holder) :
    StandsAt principal holder.side holder.name := by
  unfold Holder.read at h
  cases hk : principal.kind with
  | workspace | project | repository => rw [hk] at h; cases h
  | user =>
    simp only [hk] at h
    cases h
    exact .user hk
  | userGroup =>
    simp only [hk] at h
    cases hread : GroupId.read principal.key with
    | error e => rw [hread] at h; cases h
    | ok group =>
      simp only [hread] at h
      split at h
      · cases h
        exact .group hk hread
      · cases h

theorem HasTable.unique {resource : ResourceId} {target target' : Target}
    (h : HasTable resource target) (h' : HasTable resource target') : target = target' := by
  cases h with
  | project hkind hread =>
    cases h' with
    | project hkind' hread' => rw [Except.ok.inj (hread.symm.trans hread')]
    | repository hkind' hread' => cases hkind.symm.trans hkind'
  | repository hkind hread =>
    cases h' with
    | project hkind' hread' => cases hkind.symm.trans hkind'
    | repository hkind' hread' => rw [Except.ok.inj (hread.symm.trans hread')]

theorem StandsAt.unique {principal : ResourceId} {side side' : Side} {holder holder' : String}
    (h : StandsAt principal side holder) (h' : StandsAt principal side' holder') :
    side = side' ∧ holder = holder' := by
  cases h with
  | user hkind =>
    cases h' with
    | user hkind' => exact ⟨rfl, rfl⟩
    | group hkind' hread' => cases hkind.symm.trans hkind'
  | group hkind hread =>
    cases h' with
    | user hkind' => cases hkind.symm.trans hkind'
    | group hkind' hread' =>
      rw [Except.ok.inj (hread.symm.trans hread')]
      exact ⟨rfl, rfl⟩

theorem HasTable.kind_ne {resource : ResourceId} {target : Target} (h : HasTable resource target) :
    resource.kind ≠ .userGroup := by
  cases h with
  | project hkind hread | repository hkind hread => simp [hkind]

namespace Change

variable {c : Change} {scope : Scope}

theorem failureOf_check (c : Change) (scope : Scope) :
    failureOf (scope.check c.resource) =
      (failureOf c.resource.workspace?).or (c.outside scope) := by
  unfold Scope.check outside Scope.contains
  cases c.resource.workspace? with
  | error f => rfl
  | ok w? =>
    cases w? with
    | none => rfl
    | some w =>
      simp only [List.contains_iff_mem]
      unfold unlessHolds
      split <;> rfl

theorem failureOf_ite {α : Type} (p : Prop) [Decidable p] (f : Failure) (x : Except Failure α) :
    failureOf (if ¬p then .error f else x) = (unlessHolds p f).or (failureOf x) := by
  unfold unlessHolds
  by_cases hp : p
  · rw [if_neg (not_not_intro hp), if_pos hp]; rfl
  · rw [if_pos hp, if_neg hp]; rfl

theorem failureOf_checkRequest (c : Change) :
    failureOf (checkRequest c.principal c.resource c.slug) =
      ((((unlessHolds (c.principal.kind = .user ∨ c.principal.kind = .userGroup)
          (.unsupportedPrincipal c.resource.kind c.slug c.principal.kind)).or
        (unlessHolds (c.resource.kind.isKnownSlug c.slug)
          (.unsupportedRole c.resource.kind c.slug))).or
        (unlessHolds (c.resource.kind.isProvisionable c.slug)
          (.notProvisionable c.resource.kind c.slug))).or
        (unlessHolds (c.principal.kind ∈ c.resource.kind.grantableTo c.slug)
          (.unsupportedPrincipal c.resource.kind c.slug c.principal.kind))) := by
  have hprincipal : c.principal.kind.isPrincipal = true ↔
      c.principal.kind = .user ∨ c.principal.kind = .userGroup := by
    cases c.principal.kind <;> simp [Kind.isPrincipal]
  unfold checkRequest
  simp only [Bool.not_eq_true', ← Bool.not_eq_true, hprincipal, List.contains_iff_mem,
    failureOf_ite]
  simp [failureOf, Option.or_assoc]

/-- The groups that can be changed have one member slug, which users can hold. -/
theorem user_of_grantableTo {k : Kind} {slug : String}
    (h : k ∈ Kind.userGroup.grantableTo slug) : k = .user := by
  have hslug : Kind.userGroup.grantableTo slug = if slug = memberSlug then [.user] else [] := rfl
  rw [hslug] at h
  split at h
  · exact List.mem_singleton.1 h
  · exact absurd h List.not_mem_nil

theorem failureOf_holder (c : Change) {w : String} (hw : c.resource.workspace? = .ok (some w))
    (hp : c.principal.kind = .user ∨ c.principal.kind = .userGroup) :
    failureOf (Holder.read c.principal w) = c.malformedGroup.or c.foreignGroup := by
  unfold Holder.read malformedGroup foreignGroup
  rcases hp with hp | hp
  · simp [hp, failureOf]
  · rw [hp, hw]
    cases GroupId.read c.principal.key with
    | error f => simp [failureOf]
    | ok g =>
      simp only [if_true, unlessHolds]
      split <;> rfl

/-- What is wrong with the entry of a change that passed the other checks. -/
theorem failureOf_entryIn {w? : Option String} (hw : c.resource.workspace? = .ok w?)
    (hp : c.principal.kind = .user ∨ c.principal.kind = .userGroup)
    (hs : c.resource.kind.isProvisionable c.slug)
    (hg : c.principal.kind ∈ c.resource.kind.grantableTo c.slug) :
    failureOf (Changed.read c.resource c.slug >>= c.entryIn) =
      c.malformedGroup.or c.foreignGroup := by
  have hread := hw
  unfold ResourceId.workspace? at hread
  unfold Changed.read
  cases hk : c.resource.kind with
  | workspace => rw [hk] at hs; cases hs
  | user => rw [hk] at hs; cases hs
  | userGroup =>
    simp only [hk] at hread ⊢
    obtain ⟨group, hgroup, -⟩ := except_map_eq_ok hread
    have huser : c.principal.kind = .user := user_of_grantableTo (hk ▸ hg)
    have hnone : c.malformedGroup.or c.foreignGroup = none := by
      simp [malformedGroup, foreignGroup, huser]
    rw [hgroup, hnone]
    rfl
  | project =>
    simp only [hk] at hread ⊢
    obtain ⟨id, hid, rfl⟩ := except_map_eq_ok hread
    rw [hid, ← failureOf_holder c hw hp]
    exact failureOf_map _ _
  | repository =>
    simp only [hk] at hread ⊢
    obtain ⟨id, hid, rfl⟩ := except_map_eq_ok hread
    rw [hid, ← failureOf_holder c hw hp]
    exact failureOf_map _ _

/-- **A request passes its checks** exactly if nothing that they look at is wrong. -/
theorem checkRequest_eq_ok_iff : checkRequest c.principal c.resource c.slug = .ok () ↔
    (c.principal.kind = .user ∨ c.principal.kind = .userGroup) ∧
      c.resource.kind.isKnownSlug c.slug ∧ c.resource.kind.isProvisionable c.slug ∧
      c.principal.kind ∈ c.resource.kind.grantableTo c.slug := by
  have hok : checkRequest c.principal c.resource c.slug = .ok () ↔
      failureOf (checkRequest c.principal c.resource c.slug) = none := by
    rw [failureOf_eq_none]
    exact ⟨fun h => ⟨(), h⟩, fun ⟨_, h⟩ => h⟩
  rw [hok, failureOf_checkRequest]
  simp only [Option.or_eq_none_iff, unlessHolds_eq_none, and_assoc]

/-- **Without an entry to change, the first check that finds something wrong decides.** -/
theorem failureOf_entry (c : Change) (scope : Scope) :
    failureOf (c.entry scope) = c.fault? scope := by
  have hfirst (a : Option Failure) (rest : List (Option Failure)) :
      (a :: rest).findSome? id = a.or (rest.findSome? id) := by
    cases a <;> rfl
  -- the checks of the group say what is wrong with the entry only after those of the slug
  have hgroups (hscope : scope.check c.resource = .ok ())
      (hrequest : checkRequest c.principal c.resource c.slug = .ok ()) :
      failureOf (Changed.read c.resource c.slug >>= c.entryIn) =
        c.malformedGroup.or c.foreignGroup := by
    obtain ⟨w?, hw⟩ := workspace?_of_check hscope
    obtain ⟨hp, -, hs, hg⟩ := checkRequest_eq_ok_iff.1 hrequest
    exact failureOf_entryIn hw hp hs hg
  unfold entry changed fault? checks
  simp only [bind_assoc]
  rw [failureOf_bind fun _ hscope => failureOf_bind fun _ hrequest => hgroups hscope hrequest,
    failureOf_check, failureOf_checkRequest]
  simp only [hfirst, List.findSome?_nil, Option.or_none, Option.or_assoc]

theorem fault?_eq_some_iff {f : Failure} : c.fault? scope = some f ↔ c.entry scope = .error f := by
  rw [← failureOf_entry]
  cases c.entry scope <;> simp [failureOf]

theorem fault?_eq_none_iff : c.fault? scope = none ↔ ∃ e, c.entry scope = .ok e := by
  rw [← failureOf_entry, failureOf_eq_none]

/-! ## The entry of a change -/

/-- A change with an entry has passed its checks. -/
theorem of_entry_eq_ok {e : Entry} (h : c.entry scope = .ok e) :
    ∃ what, scope.check c.resource = .ok () ∧
      checkRequest c.principal c.resource c.slug = .ok () ∧
      Changed.read c.resource c.slug = .ok what ∧ c.entryIn what = .ok e := by
  obtain ⟨what, hchanged, hentry⟩ := except_bind_eq_ok h
  obtain ⟨_, hscope, hrest⟩ := except_bind_eq_ok hchanged
  obtain ⟨_, hrequest, hread⟩ := except_bind_eq_ok hrest
  exact ⟨what, hscope, hrequest, hread, hentry⟩

/-- A change is about one entry. -/
theorem IsAbout.unique {e e' : Entry} (h : c.IsAbout e) (h' : c.IsAbout e') : e = e' := by
  cases h with
  | membership hkind hread =>
    cases h' with
    | membership hkind' hread' => rw [Except.ok.inj (hread.symm.trans hread')]
    | role htable hholder => exact absurd hkind htable.kind_ne
  | role htable hholder =>
    cases h' with
    | membership hkind hread => exact absurd hkind htable.kind_ne
    | role htable' hholder' =>
      obtain ⟨rfl, rfl⟩ := hholder.unique hholder'
      rw [htable.unique htable']

theorem isAbout_userOnGroup (d : Direction) (slug : String) :
    IsAbout ⟨d, ⟨.user, "u1"⟩, ⟨.userGroup, "w:g"⟩, slug⟩ (.membership ⟨"w", "g"⟩ "u1") := by
  have hread : GroupId.read "w:g" = .ok ⟨"w", "g"⟩ := rfl
  exact .membership rfl hread rfl

theorem isAbout_userOnProject (d : Direction) (slug : String) :
    IsAbout ⟨d, ⟨.user, "u1"⟩, ⟨.project, "w:p:P"⟩, slug⟩
      (.role (.project "w" "P") .users "u1") := by
  have hread : ProjectId.read "w:p:P" = .ok ⟨"w", "p", "P"⟩ := rfl
  have htable : HasTable ⟨.project, "w:p:P"⟩ _ := .project rfl hread
  exact .role htable (.user rfl)

theorem isAbout_groupOnRepository (d : Direction) (slug : String) :
    IsAbout ⟨d, ⟨.userGroup, "w:g"⟩, ⟨.repository, "w:p:P:r"⟩, slug⟩
      (.role (.repository "w" "r") .groups "g") := by
  have hread : RepositoryId.read "w:p:P:r" = .ok ⟨⟨"w", "p", "P"⟩, "r"⟩ := rfl
  have hgroup : GroupId.read "w:g" = .ok ⟨"w", "g"⟩ := rfl
  have htable : HasTable ⟨.repository, "w:p:P:r"⟩ _ := .repository rfl hread
  have hholder : StandsAt ⟨.userGroup, "w:g"⟩ .groups _ := .group rfl hgroup
  exact .role htable hholder

/-- The entry of a change is the one that it is about. -/
theorem isAbout_of_entry {e : Entry} (h : c.entry scope = .ok e) : c.IsAbout e := by
  obtain ⟨what, -, hrequest, hread, hentry⟩ := of_entry_eq_ok h
  cases what with
  | members group =>
    cases hentry
    obtain ⟨hkind, hgroup⟩ := of_read_members hread
    obtain ⟨-, -, -, hholds⟩ := checkRequest_eq_ok_iff.1 hrequest
    rw [hkind] at hholds
    exact .membership hkind hgroup (user_of_grantableTo hholds)
  | roles target =>
    obtain ⟨holder, hholder, rfl⟩ := except_map_eq_ok hentry
    exact .role (hasTable_of_read hread) (standsAt_of_read hholder)

/-- **The entry to change** is the one that the change is about, when no check finds anything
wrong. -/
theorem entry_eq_ok_iff {e : Entry} :
    c.entry scope = .ok e ↔ c.fault? scope = none ∧ c.IsAbout e := by
  constructor
  · intro h
    exact ⟨fault?_eq_none_iff.2 ⟨e, h⟩, isAbout_of_entry h⟩
  · rintro ⟨hvalid, habout⟩
    obtain ⟨e', he'⟩ := fault?_eq_none_iff.1 hvalid
    rw [he', (isAbout_of_entry he').unique habout]

/-! ## The workspace of an entry -/

theorem workspace?_of_read {id : ResourceId} {slug : String} {what : Changed}
    (h : Changed.read id slug = .ok what) : id.workspace? = .ok (some what.workspace) := by
  unfold Changed.read at h
  unfold ResourceId.workspace?
  cases hk : id.kind with
  | workspace => rw [hk] at h; cases h
  | user => rw [hk] at h; cases h
  | userGroup | project | repository =>
    simp only [hk] at h ⊢
    obtain ⟨found, hfound, rfl⟩ := except_map_eq_ok h
    rw [hfound]
    rfl

theorem workspace_of_entryIn {what : Changed} {e : Entry} (h : c.entryIn what = .ok e) :
    e.workspace = what.workspace := by
  cases what with
  | members group => cases h; rfl
  | roles target =>
    obtain ⟨holder, -, rfl⟩ := except_map_eq_ok h
    rfl

/-- **The entry of a change lies in the workspace of the resource**, which is in scope. -/
theorem workspace_of_entry {e : Entry} (h : c.entry scope = .ok e) :
    c.resource.workspace? = .ok (some e.workspace) ∧ e.workspace ∈ scope.workspaceIds := by
  obtain ⟨what, hscope, -, hread, he⟩ := of_entry_eq_ok h
  have hw : c.resource.workspace? = .ok (some e.workspace) := by
    rw [workspace_of_entryIn he]
    exact workspace?_of_read hread
  have hnone := failureOf_check c scope
  rw [hscope, hw] at hnone
  have houtside : c.outside scope = none := hnone.symm
  unfold outside at houtside
  rw [hw] at houtside
  exact ⟨hw, unlessHolds_eq_none.1 houtside⟩

end Change

end Provision

end AccessSync
