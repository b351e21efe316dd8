import Mathlib.Data.List.Nodup
import AccessSync.Catalog.Entitlement
import AccessSync.Proofs.Access.Reference
import AccessSync.Proofs.Provision.Checks

/-!
# One vocabulary

Which entitlements there are on a resource is told in three ways: by the list that the resource
offers, by the slugs of its kind, and by what a change of access is checked against. All three tell
the same. Each slug of the kind is offered once, with the holders that the kind has for it, the
identifier of an entitlement leads to it again, and a change passes its checks exactly when it is
about such an entitlement that can be changed and that the principal can hold.

* `Entitlement.IsOf`: the entitlement that a slug names on a resource.
* `Resource.slugs_entitlements`: the slugs of a list are those of the kind.
* `Resource.isOf_of_mem_entitlements`: each entitlement of a list is the one that its slug names.
* `resolveEntitlement_eq_ok_iff`, `resolveEntitlement_eq_error_iff`: looking up an identifier.
* `vocabularies_agree`: all of it together.
-/

namespace AccessSync

open Text

/-! ## The slugs of a kind -/

namespace Kind

variable {k : Kind} {slug : String}

theorem isKnownSlug_iff : k.isKnownSlug slug ↔ slug ∈ k.assignments ++ k.roles := by
  simp [isKnownSlug, isRole, or_comm]

/-- No slug is both an assignment and a role, and none is told twice. -/
theorem nodup_slugs (k : Kind) : (k.assignments ++ k.roles).Nodup := by
  cases k <;> decide

theorem isSegment_of_isKnownSlug (h : k.isKnownSlug slug) : IsSegment slug := by
  have hall : ∀ slug ∈ k.assignments ++ k.roles, IsSegment slug := by
    cases k <;> decide
  exact hall slug (isKnownSlug_iff.1 h)

/-- What can be held is in the vocabulary. -/
theorem isKnownSlug_of_mem_grantableTo {holder : Kind} (h : holder ∈ k.grantableTo slug) :
    k.isKnownSlug slug := by
  unfold isKnownSlug
  by_cases hrole : k.isRole slug
  · rw [hrole]
    rfl
  · unfold grantableTo at h
    rw [if_neg hrole] at h
    cases k <;> simp at h <;> simp [h.1, assignments]

end Kind

/-! ## What a resource offers -/

/-- The entitlement is the one that the slug names on the resource: a permission if the slug is a
role and an assignment otherwise, for the holders that the kind of the resource has for it. -/
structure Entitlement.IsOf (e : Entitlement) (resource : ResourceId) (slug : String) : Prop where
  id_eq : e.id = entitlementId resource slug
  resource_eq : e.resource = resource
  slug_eq : e.slug = slug
  kind_eq : e.kind = .permission ↔ resource.kind.isRole slug
  grantableTo_eq : e.grantableTo = resource.kind.grantableTo slug

/-- What a slug names differs in its texts at most. -/
theorem Entitlement.IsOf.eq {e e' : Entitlement} {resource : ResourceId} {slug : String}
    (h : e.IsOf resource slug) (h' : e'.IsOf resource slug) :
    { e' with displayName := e.displayName, description := e.description } = e := by
  have hkind : e'.kind = e.kind := by
    have hiff := h'.kind_eq.trans h.kind_eq.symm
    cases hk : e.kind <;> cases hk' : e'.kind <;> simp_all
  obtain ⟨id, of, named, kind, name, description, holders⟩ := e
  obtain ⟨id', of', named', kind', name', description', holders'⟩ := e'
  rw [Entitlement.mk.injEq]
  exact ⟨h'.id_eq.trans h.id_eq.symm, h'.resource_eq.trans h.resource_eq.symm,
    h'.slug_eq.trans h.slug_eq.symm, hkind, rfl, rfl, h'.grantableTo_eq.trans h.grantableTo_eq.symm⟩

namespace Resource

variable {r : Resource} {slug : String}

/-- **The slugs of what a resource offers** are those of its kind. -/
theorem slugs_entitlements (r : Resource) :
    r.entitlements.map (·.slug) = r.id.kind.assignments ++ r.id.kind.roles := by
  unfold entitlements
  cases r.id.kind <;> rfl

theorem exists_mem_entitlements_iff :
    (∃ e ∈ r.entitlements, e.slug = slug) ↔ r.id.kind.isKnownSlug slug := by
  rw [Kind.isKnownSlug_iff, ← slugs_entitlements, List.mem_map]

theorem isOf_role (h : r.id.kind.isRole slug) : (r.role slug).IsOf r.id slug where
  id_eq := rfl
  resource_eq := rfl
  slug_eq := rfl
  kind_eq := iff_of_true rfl h
  grantableTo_eq := (if_pos h).symm

theorem isOf_assignment {holder : Kind} (description : String) (h : ¬r.id.kind.isRole slug)
    (hholder : r.id.kind.grantableTo slug = [holder]) :
    (r.assignment slug holder description).IsOf r.id slug where
  id_eq := rfl
  resource_eq := rfl
  slug_eq := rfl
  kind_eq := iff_of_false (fun hkind => by cases hkind) h
  grantableTo_eq := hholder.symm

/-- **Whatever a resource offers** is what its slug names. -/
theorem isOf_of_mem_entitlements {e : Entitlement} (h : e ∈ r.entitlements) :
    e.IsOf r.id e.slug := by
  have hroles (hmem : e ∈ r.id.kind.roles.map r.role) : e.IsOf r.id e.slug := by
    obtain ⟨slug, hslug, rfl⟩ := List.mem_map.1 hmem
    exact isOf_role (by simpa [Kind.isRole] using hslug)
  unfold entitlements at h
  cases hk : r.id.kind with
  | workspace =>
    rw [hk] at h
    obtain rfl := List.mem_singleton.1 h
    exact isOf_assignment _ (by rw [hk]; decide) (by rw [hk]; rfl)
  | userGroup =>
    rw [hk] at h
    obtain rfl := List.mem_singleton.1 h
    exact isOf_assignment _ (by rw [hk]; decide) (by rw [hk]; rfl)
  | project =>
    rw [hk] at h hroles
    rcases List.mem_cons.1 h with rfl | h
    · exact isOf_assignment _ (by rw [hk]; decide) (by rw [hk]; rfl)
    · exact hroles h
  | repository =>
    rw [hk] at h hroles
    exact hroles h
  | user =>
    rw [hk] at h
    exact absurd h List.not_mem_nil

/-- **Each slug of the kind is offered once**, as what it names. -/
theorem exists_filter_slug (h : r.id.kind.isKnownSlug slug) :
    ∃ e, r.entitlements.filter (fun e => e.slug == slug) = [e] ∧ e.IsOf r.id slug := by
  have hcount : (r.entitlements.map (·.slug)).count slug = 1 := by
    rw [slugs_entitlements]
    exact List.count_eq_one_of_mem (Kind.nodup_slugs _) (Kind.isKnownSlug_iff.1 h)
  have hlength : (r.entitlements.filter fun e => e.slug == slug).length = 1 := by
    rw [← List.countP_eq_length_filter]
    rwa [List.count, List.countP_map] at hcount
  obtain ⟨e, he⟩ := List.length_eq_one_iff.1 hlength
  have hmem : e ∈ r.entitlements.filter fun e => e.slug == slug := by
    rw [he]
    exact List.mem_singleton_self e
  obtain ⟨hoffered, hslug⟩ := List.mem_filter.1 hmem
  obtain rfl : e.slug = slug := by simpa using hslug
  exact ⟨e, he, isOf_of_mem_entitlements hoffered⟩

end Resource

/-! ## Looking up an identifier -/

section
variable {s : String} {id : ResourceId} {slug : String}

/-- An identifier that can be read is looked up among what the resource offers. -/
theorem resolveEntitlement_of_read (h : readEntitlementId s = .ok (id, slug)) :
    resolveEntitlement s =
      ((Resource.bare id).entitlements.filter fun e => e.slug == slug).head?.elim
        (.error (.unsupportedRole id.kind slug)) .ok := by
  unfold resolveEntitlement
  rw [h, List.head?_filter]
  simp only [bind, Except.bind]
  cases (Resource.bare id).entitlements.find? fun e => e.slug == slug <;> rfl

theorem resolveEntitlement_of_unreadable {f : Failure} (h : readEntitlementId s = .error f) :
    resolveEntitlement s = .error f := by
  unfold resolveEntitlement
  rw [h]
  rfl

theorem resolveEntitlement_of_unknown (h : readEntitlementId s = .ok (id, slug))
    (hk : ¬id.kind.isKnownSlug slug) :
    resolveEntitlement s = .error (.unsupportedRole id.kind slug) := by
  have hnone : (Resource.bare id).entitlements.filter (fun e => e.slug == slug) = [] := by
    rw [List.filter_eq_nil_iff]
    intro e he hslug
    exact hk (Resource.exists_mem_entitlements_iff.1 ⟨e, he, by simpa using hslug⟩)
  rw [resolveEntitlement_of_read h, hnone]
  rfl

/-- A known slug is found, as the one thing of that name that the resource offers. -/
theorem exists_resolveEntitlement (h : readEntitlementId s = .ok (id, slug))
    (hk : id.kind.isKnownSlug slug) : ∃ e, resolveEntitlement s = .ok e ∧
      ∀ e', e' = e ↔ e' ∈ (Resource.bare id).entitlements ∧ e'.IsOf id slug := by
  obtain ⟨e, he, hof⟩ := Resource.exists_filter_slug (r := Resource.bare id) hk
  have hmem (e' : Entitlement) :
      e' = e ↔ e' ∈ (Resource.bare id).entitlements ∧ e'.slug = slug := by
    rw [← List.mem_singleton, ← he, List.mem_filter, beq_iff_eq]
  refine ⟨e, ?_, fun e' => ⟨?_, fun h' => (hmem e').2 ⟨h'.1, h'.2.slug_eq⟩⟩⟩
  · rw [resolveEntitlement_of_read h, he]
    rfl
  · rintro rfl
    exact ⟨((hmem e').1 rfl).1, hof⟩

/-- **An identifier is found** if it can be read and its slug is one of the kind. -/
theorem resolveEntitlement_eq_ok_iff {e : Entitlement} : resolveEntitlement s = .ok e ↔
    ∃ id slug, readEntitlementId s = .ok (id, slug) ∧ id.kind.isKnownSlug slug ∧
      e ∈ (Resource.bare id).entitlements ∧ e.IsOf id slug := by
  constructor
  · intro h
    cases hread : readEntitlementId s with
    | error f => rw [resolveEntitlement_of_unreadable hread] at h; cases h
    | ok x =>
      obtain ⟨id, slug⟩ := x
      by_cases hk : id.kind.isKnownSlug slug
      · obtain ⟨e', he', honly⟩ := exists_resolveEntitlement hread hk
        rw [he'] at h
        exact ⟨id, slug, rfl, hk, (honly e).1 (Except.ok.inj h).symm⟩
      · rw [resolveEntitlement_of_unknown hread hk] at h
        cases h
  · rintro ⟨id, slug, hread, hk, hoffered⟩
    obtain ⟨e', he', honly⟩ := exists_resolveEntitlement hread hk
    rw [he', (honly e).2 hoffered]

/-- **An identifier is not found** if it cannot be read, which is what is said, or if its slug is
none of the kind. -/
theorem resolveEntitlement_eq_error_iff {f : Failure} : resolveEntitlement s = .error f ↔
    readEntitlementId s = .error f ∨ ∃ id slug, readEntitlementId s = .ok (id, slug) ∧
      ¬id.kind.isKnownSlug slug ∧ f = .unsupportedRole id.kind slug := by
  constructor
  · intro h
    cases hread : readEntitlementId s with
    | error f' =>
      rw [resolveEntitlement_of_unreadable hread] at h
      exact .inl (congrArg Except.error (Except.error.inj h))
    | ok x =>
      obtain ⟨id, slug⟩ := x
      by_cases hk : id.kind.isKnownSlug slug
      · obtain ⟨e, he, -⟩ := exists_resolveEntitlement hread hk
        rw [he] at h
        cases h
      · rw [resolveEntitlement_of_unknown hread hk] at h
        exact .inr ⟨id, slug, rfl, hk, (Except.error.inj h).symm⟩
  · rintro (hread | ⟨id, slug, hread, hk, rfl⟩)
    · exact resolveEntitlement_of_unreadable hread
    · exact resolveEntitlement_of_unknown hread hk

end

/-- The identifier of what a resource offers is read back. -/
theorem readEntitlementId_of_offered {r : Resource} {e : Entitlement} (h : e ∈ r.entitlements)
    (hkey : "" ∉ segments ':' r.id.key) : readEntitlementId e.id = .ok (r.id, e.slug) := by
  have hknown : r.id.kind.isKnownSlug e.slug := Resource.exists_mem_entitlements_iff.1 ⟨e, h, rfl⟩
  rw [(Resource.isOf_of_mem_entitlements h).id_eq]
  exact (exact_entitlementReferences.read_text (r.id, e.slug)).2
    ⟨hkey, Kind.isSegment_of_isKnownSlug hknown⟩

/-! ## Agreement -/

/-- A change passes its checks if it is about an entitlement that the resource offers and that can
be changed, and the principal is a user or a group that can hold it. -/
theorem checkRequest_eq_ok_iff_offered {principal : ResourceId} {r : Resource} {slug : String} :
    checkRequest principal r.id slug = .ok () ↔
      (∃ e ∈ r.entitlements, e.slug = slug ∧ principal.kind ∈ e.grantableTo) ∧
        r.id.kind.isProvisionable slug ∧
        (principal.kind = .user ∨ principal.kind = .userGroup) := by
  have hchecks := Provision.Change.checkRequest_eq_ok_iff (c := ⟨.give, principal, r.id, slug⟩)
  dsimp only at hchecks
  rw [hchecks]
  constructor
  · rintro ⟨hprincipal, hk, hprovisionable, hholder⟩
    obtain ⟨e, he, rfl⟩ := Resource.exists_mem_entitlements_iff.2 hk
    rw [← (Resource.isOf_of_mem_entitlements he).grantableTo_eq] at hholder
    exact ⟨⟨e, he, rfl, hholder⟩, hprovisionable, hprincipal⟩
  · rintro ⟨⟨e, he, rfl, hholder⟩, hprovisionable, hprincipal⟩
    rw [(Resource.isOf_of_mem_entitlements he).grantableTo_eq] at hholder
    exact ⟨hprincipal, Kind.isKnownSlug_of_mem_grantableTo hholder, hprovisionable, hholder⟩

/-- **The vocabularies agree.** A resource, whatever its kind, its key and its name are, offers an
entitlement for the slugs of its kind and for no others, exactly one for each, which is what the
slug names. A change of access passes its checks exactly when it is about such an entitlement.
Looking up an identifier finds such an entitlement of the resource in it, or tells what is wrong
with the identifier; and what a resource offers is found again, but for the texts that name it, if
no segment of the key of the resource is empty. -/
theorem vocabularies_agree :
    (∀ (r : Resource) (slug : String),
      ((∃ e ∈ r.entitlements, e.slug = slug) ↔ r.id.kind.isKnownSlug slug) ∧
      (r.id.kind.isKnownSlug slug →
        ∃ e, r.entitlements.filter (fun e => e.slug == slug) = [e] ∧ e.IsOf r.id slug) ∧
      ∀ principal, checkRequest principal r.id slug = .ok () ↔
        (∃ e ∈ r.entitlements, e.slug = slug ∧ principal.kind ∈ e.grantableTo) ∧
          r.id.kind.isProvisionable slug ∧
          (principal.kind = .user ∨ principal.kind = .userGroup)) ∧
    (∀ s e, resolveEntitlement s = .ok e ↔
      ∃ id slug, readEntitlementId s = .ok (id, slug) ∧ id.kind.isKnownSlug slug ∧
        e ∈ (Resource.bare id).entitlements ∧ e.IsOf id slug) ∧
    (∀ s f, resolveEntitlement s = .error f ↔
      readEntitlementId s = .error f ∨ ∃ id slug, readEntitlementId s = .ok (id, slug) ∧
        ¬id.kind.isKnownSlug slug ∧ f = .unsupportedRole id.kind slug) ∧
    ∀ (r : Resource), "" ∉ segments ':' r.id.key → ∀ e ∈ r.entitlements,
      ∃ e', resolveEntitlement e.id = .ok e' ∧
        { e' with displayName := e.displayName, description := e.description } = e := by
  refine ⟨fun r slug => ⟨Resource.exists_mem_entitlements_iff, Resource.exists_filter_slug,
    fun principal => checkRequest_eq_ok_iff_offered⟩, fun s e => resolveEntitlement_eq_ok_iff,
    fun s f => resolveEntitlement_eq_error_iff, ?_⟩
  intro r hkey e he
  have hknown : r.id.kind.isKnownSlug e.slug := Resource.exists_mem_entitlements_iff.1 ⟨e, he, rfl⟩
  obtain ⟨e', he', honly⟩ := exists_resolveEntitlement (readEntitlementId_of_offered he hkey) hknown
  exact ⟨e', he', (Resource.isOf_of_mem_entitlements he).eq ((honly e').1 rfl).2⟩

/-- The assignment of repositories to a project is offered like its roles, and cannot be changed. -/
theorem vocabularies_agree_sample :
    let r : Resource := ⟨⟨.project, "w:p:P"⟩, "Platform", none, .empty⟩
    (∃ e, r.entitlements.filter (fun e => e.slug == "create-repo") = [e] ∧
      e.IsOf r.id "create-repo") ∧
    checkRequest ⟨.userGroup, "w:g"⟩ r.id "create-repo" = .ok () ∧
    checkRequest ⟨.user, "u"⟩ r.id repositorySlug ≠ .ok () ∧
    (∃ e ∈ r.entitlements, e.slug = repositorySlug) ∧
    resolveEntitlement "Project:w:p:P:owner" = .error (.unsupportedRole .project "owner") ∧
    ∀ e ∈ r.entitlements, ∃ e', resolveEntitlement e.id = .ok e' ∧
      { e' with displayName := e.displayName, description := e.description } = e := by
  intro r
  obtain ⟨hoffers, hfound, hlost, hagain⟩ := vocabularies_agree
  have hcreate := (hoffers r "create-repo").2.1 (by decide)
  obtain ⟨e, he, hof⟩ := hcreate
  have hmem : e ∈ r.entitlements.filter fun e => e.slug == "create-repo" := by
    rw [he]
    exact List.mem_singleton_self e
  have hholder : Kind.userGroup ∈ e.grantableTo := by
    rw [hof.grantableTo_eq]
    decide
  have hread : readEntitlementId "Project:w:p:P:owner" = .ok (r.id, "owner") := by
    decide +kernel
  refine ⟨⟨e, he, hof⟩, ?_, ?_, ?_, ?_, hagain r (by decide)⟩
  · exact ((hoffers r "create-repo").2.2 _).2
      ⟨⟨e, (List.mem_filter.1 hmem).1, hof.slug_eq, hholder⟩, by decide, .inr rfl⟩
  · intro hchecked
    exact absurd (((hoffers r repositorySlug).2.2 _).1 hchecked).2.1 (by decide)
  · exact (hoffers r repositorySlug).1.2 (by decide)
  · exact (hlost _ _).2 (.inr ⟨r.id, "owner", hread, by decide, rfl⟩)

end AccessSync
