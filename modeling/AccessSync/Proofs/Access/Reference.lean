import AccessSync.Access.Resource
import AccessSync.Proofs.Access.Id

/-!
# References read back

A reference to a resource is its kind and its key, and the identifier of an entitlement is such a
reference with the slug after it. The first is cut at its first colon, so that the key may be any
text that is not empty. The second is cut at every colon, the first segment and the last one are the
kind and the slug, and every segment counts: it is read back when no segment of the key is empty and
the slug is a segment. The kind is read in any letter case and written in lower case, which is all
that a text and the reference it is read as can differ in.

The identifier of a grant is that of the entitlement with the reference to the principal after it.
Nothing reads it, but no two grants have the same one.

* `ReferenceFormat.Exact`: reading as the inverse of writing, up to the letter case of the kind.
* `references_exact`: both sorts of references.
* `ResourceId.IsWellFormed`: a key with the segments of its kind.
* `grants_told_apart`: the identifiers of grants.
-/

namespace AccessSync

open Text

namespace Kind

theorem read?_name (k : Kind) : Kind.read? k.name = some k := by
  cases k <;> decide +kernel

theorem isSegment_name (k : Kind) : IsSegment k.name := by cases k <;> decide

theorem name_injective {k k' : Kind} (h : k.name = k'.name) : k = k' := by
  have hk := ofName?_name k
  rw [h, ofName?_name] at hk
  exact (Option.some.inj hk).symm

/-- **A kind is read** off its name in any letter case. -/
theorem read?_eq_some_iff {s : String} {k : Kind} : read? s = some k ↔ lower s = k.name := by
  unfold read?
  constructor
  · intro h
    exact (name_of_ofName? h).symm
  · intro h
    rw [h, ofName?_name]

theorem ne_empty_of_read? {s : String} {k : Kind} (h : read? s = some k) : s ≠ "" := by
  rintro rfl
  cases h

/-- The text is what is written, with the name of the kind, which stands in front, in any letter
case. -/
def Respells (k : Kind) (s written : String) : Prop :=
  ∃ word rest, ':' ∉ word.toList ∧ lower word = k.name ∧ s = word ++ ":" ++ rest ∧
    written = k.name ++ ":" ++ rest

theorem respells_self (k : Kind) (rest : String) :
    k.Respells (k.name ++ ":" ++ rest) (k.name ++ ":" ++ rest) :=
  ⟨k.name, rest, k.isSegment_name.2, read?_eq_some_iff.1 k.read?_name, rfl, rfl⟩

end Kind

/-! ## Sorts of references -/

/-- A sort of references with the name of a kind in front: what messages call it, which references
are whole, and how a reference is written and read. -/
structure ReferenceFormat (α : Type) where
  what : String
  kind : α → Kind
  IsWhole : α → Prop
  text : α → String
  read : String → Except Failure α

/-- **References are read exactly.** A whole reference is read back, and any other is not. A text is
read as a reference only if it is the whole reference written down, up to the letter case of its
kind. All other texts are refused as invalid arguments. -/
structure ReferenceFormat.Exact {α : Type} (f : ReferenceFormat α) : Prop where
  read_text : ∀ x, f.read (f.text x) = .ok x ↔ f.IsWhole x
  read_eq_ok : ∀ s x, f.read s = .ok x ↔ f.IsWhole x ∧ (f.kind x).Respells s (f.text x)
  /-- Where the first segment names no kind, that is what may be said instead. -/
  refused : ∀ s, (∀ x, f.read s ≠ .ok x) →
    f.read s = .error (.invalidArgument s!"invalid {f.what}: {s}") ∨
    ∃ word rest, s = word ++ ":" ++ rest ∧ ':' ∉ word.toList ∧ Kind.read? word = none ∧
      f.read s = .error (.invalidArgument (Kind.unknownMessage word))

/-! ## Resources -/

namespace ResourceId

theorem read_eq_ok_iff (s : String) (id : ResourceId) :
    read s = .ok id ↔ id.key ≠ "" ∧ id.kind.Respells s id.text := by
  constructor
  · intro h
    unfold read at h
    cases hcut : cut ':' s with
    | none => rw [hcut] at h; cases h
    | some parts =>
      obtain ⟨word, key⟩ := parts
      simp only [hcut] at h
      split at h
      · cases h
      · rename_i hkey
        cases hk : Kind.read? word with
        | none => rw [hk] at h; cases h
        | some k =>
          rw [hk] at h
          cases h
          obtain ⟨hs, hword⟩ := cut_eq_some_iff.1 hcut
          exact ⟨hkey, word, key, hword, Kind.read?_eq_some_iff.1 hk, hs, rfl⟩
  · rintro ⟨hkey, word, rest, hword, hlower, rfl, htext⟩
    obtain rfl : id.key = rest := by
      unfold text at htext
      rw [← String.toList_inj] at htext ⊢
      simpa using htext
    unfold read
    simp only [cut_colon hword, if_neg hkey, Kind.read?_eq_some_iff.2 hlower]

theorem read_eq_error {s : String} (hs : ∀ id, read s ≠ .ok id) :
    read s = .error (.invalidArgument s!"invalid resource reference: {s}") ∨
    ∃ word rest, s = word ++ ":" ++ rest ∧ ':' ∉ word.toList ∧ Kind.read? word = none ∧
      read s = .error (.invalidArgument (Kind.unknownMessage word)) := by
  unfold read at hs ⊢
  cases hcut : cut ':' s with
  | none => exact .inl rfl
  | some parts =>
    obtain ⟨word, key⟩ := parts
    simp only [hcut] at hs ⊢
    split
    · exact .inl rfl
    · rename_i hkey
      rw [if_neg hkey] at hs
      cases hk : Kind.read? word with
      | none =>
        obtain ⟨htext, hword⟩ := cut_eq_some_iff.1 hcut
        exact .inr ⟨word, key, htext, hword, hk, rfl⟩
      | some k =>
        rw [hk] at hs
        exact absurd rfl (hs ⟨k, key⟩)

/-- Different resources are referred to differently. -/
theorem text_injective {id id' : ResourceId} (h : id.text = id'.text) : id = id' := by
  have hcut (id : ResourceId) : cut ':' id.text = some (id.kind.name, id.key) :=
    cut_colon id.kind.isSegment_name.2 _
  have hparts := hcut id
  rw [h, hcut id', Option.some.injEq, Prod.mk.injEq] at hparts
  obtain ⟨hname, hkey⟩ := hparts
  cases id
  cases id'
  rw [ResourceId.mk.injEq]
  exact ⟨(Kind.name_injective hname).symm, hkey.symm⟩

end ResourceId

def resourceReferences : ReferenceFormat ResourceId where
  what := "resource reference"
  kind id := id.kind
  IsWhole id := id.key ≠ ""
  text := ResourceId.text
  read := ResourceId.read

theorem exact_resourceReferences : resourceReferences.Exact where
  read_text id := by
    have hself : id.kind.Respells id.text id.text := Kind.respells_self _ _
    exact (ResourceId.read_eq_ok_iff id.text id).trans (and_iff_left hself)
  read_eq_ok := ResourceId.read_eq_ok_iff
  refused _ := ResourceId.read_eq_error

/-- **A reference** is read back as what it refers to. -/
theorem ResourceId.read_text {id : ResourceId} (h : id.key ≠ "") :
    ResourceId.read id.text = .ok id := (exact_resourceReferences.read_text id).2 h

/-! ## Entitlements -/

theorem entitlementId_eq (resource : ResourceId) (slug : String) :
    entitlementId resource slug = resource.kind.name ++ ":" ++ (resource.key ++ ":" ++ slug) := by
  unfold entitlementId ResourceId.text
  simp only [String.append_assoc]

/-- A text is read when its segments are the name of a kind, parts and a slug, none of them
empty. -/
theorem readEntitlementId_of_segments {s word slug : String} {parts : List String} {k : Kind}
    (hs : segments ':' s = word :: (parts ++ [slug])) (hne : parts ≠ [])
    (hfull : "" ∉ parts ++ [slug]) (hk : Kind.read? word = some k) :
    readEntitlementId s = .ok (⟨k, joinWith ":" parts⟩, slug) := by
  obtain ⟨first, more, rfl⟩ := List.exists_cons_of_ne_nil hne
  obtain ⟨second, rest, hrest⟩ : ∃ second rest, more ++ [slug] = second :: rest :=
    List.exists_cons_of_ne_nil (by simp)
  have hinner : first :: second :: rest = (first :: more) ++ [slug] := by
    rw [← hrest]
    rfl
  have hempty : "" ∉ word :: first :: second :: rest := by
    rw [List.mem_cons, not_or, hinner]
    exact ⟨(Kind.ne_empty_of_read? hk).symm, hfull⟩
  have hlast : ((first :: more) ++ [slug]).getLastD "" = slug := by
    rw [List.getLastD_eq_getLast?, List.getLast?_concat]
    rfl
  rw [← hinner] at hs hlast
  unfold readEntitlementId
  simp only [hs, if_neg hempty, hk, hlast]
  rw [hinner, List.dropLast_concat]

/-- Only such a text is read. -/
theorem segments_of_readEntitlementId {s : String} {x : ResourceId × String}
    (h : readEntitlementId s = .ok x) :
    ∃ word parts, segments ':' s = word :: (parts ++ [x.2]) ∧ parts ≠ [] ∧
      "" ∉ parts ++ [x.2] ∧ Kind.read? word = some x.1.kind ∧ x.1.key = joinWith ":" parts := by
  unfold readEntitlementId at h
  dsimp only at h
  split at h
  · rename_i word first second rest hs
    split at h
    · cases h
    · rename_i hfull
      cases hk : Kind.read? word with
      | none => rw [hk] at h; cases h
      | some k =>
        rw [hk] at h
        cases h
        have hinner : (first :: second :: rest).dropLast ++
            [(first :: second :: rest).getLastD ""] = first :: second :: rest := by
          rw [List.getLastD_eq_getLast?, List.getLast?_eq_some_getLast (List.cons_ne_nil _ _)]
          exact List.dropLast_concat_getLast (List.cons_ne_nil _ _)
        refine ⟨word, (first :: second :: rest).dropLast, ?_, ?_, ?_, hk, rfl⟩
        · rw [hinner, hs]
        · simp
        · rw [hinner]
          exact fun hmem => hfull (List.mem_cons_of_mem _ hmem)
  · cases h

theorem readEntitlementId_eq_ok_iff (s : String) (x : ResourceId × String) :
    readEntitlementId s = .ok x ↔ ("" ∉ segments ':' x.1.key ∧ IsSegment x.2) ∧
      x.1.kind.Respells s (entitlementId x.1 x.2) := by
  obtain ⟨id, slug⟩ := x
  dsimp only
  constructor
  · intro h
    obtain ⟨word, parts, hs, hne, hfull, hk, hkey⟩ := segments_of_readEntitlementId h
    rw [List.mem_append, not_or, List.mem_singleton] at hfull
    obtain ⟨htext, hcolons⟩ := (segments_eq_iff (List.cons_ne_nil _ _)).1 hs
    have hslug : IsSegment slug := ⟨Ne.symm hfull.2, hcolons slug (by simp)⟩
    have hparts : segments ':' id.key = parts := by
      rw [hkey]
      exact segments_joinWith hne fun part hpart => hcolons part (by simp [hpart])
    -- what comes after the first colon is the key and the slug
    have hrest :
        joinWith ":" (word :: (parts ++ [slug])) = word ++ ":" ++ (id.key ++ ":" ++ slug) := by
      obtain ⟨first, more, hmore⟩ : ∃ first more, parts ++ [slug] = first :: more :=
        List.exists_cons_of_ne_nil (by simp)
      rw [hkey, ← joinWith_concat hne, hmore, joinWith_cons_cons]
    exact ⟨⟨hparts ▸ hfull.1, hslug⟩, word, _, hcolons word List.mem_cons_self,
      Kind.read?_eq_some_iff.1 hk, htext.trans hrest, entitlementId_eq id slug⟩
  · rintro ⟨⟨hkey, hslug⟩, word, rest, hword, hlower, rfl, hwritten⟩
    obtain rfl : id.key ++ ":" ++ slug = rest := by
      rw [entitlementId_eq, ← String.toList_inj] at hwritten
      rw [← String.toList_inj]
      simpa using hwritten
    have hs : segments ':' (word ++ ":" ++ (id.key ++ ":" ++ slug)) =
        word :: (segments ':' id.key ++ [slug]) := by
      rw [segments_append_colon, segments_append_colon, segments_of_not_mem hword,
        segments_of_not_mem hslug.2]
      rfl
    have hfull : "" ∉ segments ':' id.key ++ [slug] := by
      rw [List.mem_append, not_or, List.mem_singleton]
      exact ⟨hkey, Ne.symm hslug.1⟩
    rw [readEntitlementId_of_segments hs (segments_ne_nil _ _) hfull
      (Kind.read?_eq_some_iff.2 hlower), joinWith_segments]

theorem readEntitlementId_eq_error {s : String} (hs : ∀ x, readEntitlementId s ≠ .ok x) :
    readEntitlementId s = .error (.invalidArgument s!"invalid entitlement id: {s}") ∨
    ∃ word rest, s = word ++ ":" ++ rest ∧ ':' ∉ word.toList ∧ Kind.read? word = none ∧
      readEntitlementId s = .error (.invalidArgument (Kind.unknownMessage word)) := by
  unfold readEntitlementId at hs ⊢
  dsimp only at hs ⊢
  split
  · rename_i word first second rest hsegments
    simp only [hsegments] at hs
    split
    · exact .inl rfl
    · rename_i hfull
      rw [if_neg hfull] at hs
      cases hk : Kind.read? word with
      | none =>
        obtain ⟨htext, hcolons⟩ := (segments_eq_iff (List.cons_ne_nil _ _)).1 hsegments
        exact .inr ⟨word, _, htext, hcolons word List.mem_cons_self, hk, rfl⟩
      | some k =>
        rw [hk] at hs
        exact absurd rfl (hs _)
  · exact .inl rfl

/-- The identifier of an entitlement is whole if no segment of the key is empty and the slug is a
segment. -/
def entitlementReferences : ReferenceFormat (ResourceId × String) where
  what := "entitlement id"
  kind x := x.1.kind
  IsWhole x := "" ∉ segments ':' x.1.key ∧ IsSegment x.2
  text x := entitlementId x.1 x.2
  read := readEntitlementId

theorem exact_entitlementReferences : entitlementReferences.Exact where
  read_text x := by
    have hself : x.1.kind.Respells (entitlementId x.1 x.2) (entitlementId x.1 x.2) := by
      rw [entitlementId_eq]
      exact Kind.respells_self _ _
    exact (readEntitlementId_eq_ok_iff _ x).trans (and_iff_left hself)
  read_eq_ok := readEntitlementId_eq_ok_iff
  refused _ := readEntitlementId_eq_error

/-- **References are exact.** Both the references to resources and the identifiers of entitlements
are read as the inverse of how they are written, up to the letter case of the kind in front, and
whatever else is written in their place is refused as an invalid argument. -/
theorem references_exact : resourceReferences.Exact ∧ entitlementReferences.Exact :=
  ⟨exact_resourceReferences, exact_entitlementReferences⟩

/-! ## Well-formed keys -/

/-- How many segments the key of a resource of this kind has. -/
def Kind.depth : Kind → Nat
  | .workspace | .user => 1
  | .userGroup => 2
  | .project => 3
  | .repository => 4

/-- The key of the resource is made of as many segments as its kind has. -/
def ResourceId.IsWellFormed (id : ResourceId) : Prop :=
  ∃ parts : List String, parts.length = id.kind.depth ∧ (∀ part ∈ parts, IsSegment part) ∧
    id.key = joinWith ":" parts

/-- **A well-formed key** is cut into its parts. -/
theorem ResourceId.IsWellFormed.segments_key {id : ResourceId} (h : id.IsWellFormed) :
    (segments ':' id.key).length = id.kind.depth ∧
      ∀ part ∈ segments ':' id.key, IsSegment part := by
  obtain ⟨parts, hlength, hparts, hkey⟩ := h
  have hne : parts ≠ [] := by
    rintro rfl
    cases hk : id.kind <;> simp [hk, Kind.depth] at hlength
  rw [hkey, segments_joinWith hne fun part hpart => (hparts part hpart).2]
  exact ⟨hlength, hparts⟩

/-- A well-formed key has no empty segment. -/
theorem ResourceId.IsWellFormed.isWhole {id : ResourceId} (h : id.IsWellFormed) :
    "" ∉ segments ':' id.key := fun hempty => (h.segments_key.2 "" hempty).1 rfl

/-- **The identifier of an entitlement** is read back as its resource and its slug. -/
theorem readEntitlementId_entitlementId {resource : ResourceId} (h : resource.IsWellFormed)
    {slug : String} (hslug : IsSegment slug) :
    readEntitlementId (entitlementId resource slug) = .ok (resource, slug) :=
  (exact_entitlementReferences.read_text (resource, slug)).2 ⟨h.isWhole, hslug⟩

/-! ## Grants -/

/-- The identifier of a grant has the kind, the segments of the key, the slug and the segments of
the principal. -/
theorem segments_grantId {slug : String} (hslug : IsSegment slug)
    (resource principal : ResourceId) :
    segments ':' (Grant.of resource slug principal).id =
      resource.kind.name :: (segments ':' resource.key ++ slug :: segments ':' principal.text) := by
  show segments ':' (entitlementId resource slug ++ ":" ++ principal.text) = _
  unfold entitlementId ResourceId.text
  simp only [segments_append_colon, segments_of_not_mem resource.kind.isSegment_name.2,
    segments_of_not_mem hslug.2]
  simp

/-- **Grants are told apart by their identifiers.** On resources with well-formed keys, and with
slugs that are segments, two grants have the same identifier only if they are grants of the same
slug on the same resource to the same principal, whatever the keys of the principals are; and two
entitlements have the same identifier only if they are the same slug on the same resource. -/
theorem grants_told_apart {r r' : ResourceId} (hr : r.IsWellFormed) (hr' : r'.IsWellFormed)
    {slug slug' : String} (hslug : IsSegment slug) (hslug' : IsSegment slug') (p p' : ResourceId) :
    ((Grant.of r slug p).id = (Grant.of r' slug' p').id ↔ r = r' ∧ slug = slug' ∧ p = p') ∧
    ((Grant.of r slug p).entitlementId = (Grant.of r' slug' p').entitlementId ↔
      r = r' ∧ slug = slug') := by
  constructor
  · constructor
    · intro h
      have hsegments := congrArg (segments ':') h
      rw [segments_grantId hslug, segments_grantId hslug', List.cons.injEq] at hsegments
      obtain ⟨hname, hrest⟩ := hsegments
      have hkind : r.kind = r'.kind := Kind.name_injective hname
      -- keys of one kind have one number of segments, so the slug stands at the same place
      have hlength : (segments ':' r.key).length = (segments ':' r'.key).length := by
        rw [hr.segments_key.1, hr'.segments_key.1, hkind]
      obtain ⟨hkey, hrest⟩ := List.append_inj hrest hlength
      obtain ⟨rfl, hprincipal⟩ := List.cons.inj hrest
      have hresource : r = r' := by
        cases r
        cases r'
        rw [ResourceId.mk.injEq]
        exact ⟨hkind, segments_injective hkey⟩
      exact ⟨hresource, rfl, ResourceId.text_injective (segments_injective hprincipal)⟩
    · rintro ⟨rfl, rfl, rfl⟩
      rfl
  · constructor
    · intro h
      change entitlementId r slug = entitlementId r' slug' at h
      have hread := readEntitlementId_entitlementId hr hslug
      rw [h, readEntitlementId_entitlementId hr' hslug'] at hread
      cases hread
      exact ⟨rfl, rfl⟩
    · rintro ⟨rfl, rfl⟩
      rfl

/-- The key of a principal may look like the rest of another grant. -/
theorem grants_told_apart_sample :
    (Grant.of ⟨.userGroup, "w:g"⟩ "member" ⟨.user, "u:user:v"⟩).id ≠
      (Grant.of ⟨.userGroup, "w:g"⟩ "member" ⟨.user, "u"⟩).id ∧
    (Grant.of ⟨.userGroup, "w:g"⟩ "member" ⟨.user, "u:user:v"⟩).entitlementId =
      (Grant.of ⟨.userGroup, "w:g"⟩ "member" ⟨.user, "u"⟩).entitlementId := by
  have hr : ResourceId.IsWellFormed ⟨.userGroup, "w:g"⟩ := ⟨["w", "g"], rfl, by decide, rfl⟩
  have hslug : IsSegment "member" := by decide
  have htold := grants_told_apart hr hr hslug hslug ⟨.user, "u:user:v"⟩ ⟨.user, "u"⟩
  constructor
  · intro h
    exact absurd (htold.1.1 h).2.2 (by decide)
  · exact htold.2.2 ⟨rfl, rfl⟩

/-- A slug with a colon is taken for the end of another key. -/
example : (Grant.of ⟨.user, "u"⟩ "a" ⟨.user, "v:user:x"⟩).id =
    (Grant.of ⟨.user, "u"⟩ "a:user:v" ⟨.user, "x"⟩).id := by decide

end AccessSync
