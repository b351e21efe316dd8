import AccessSync.Access.Id
import AccessSync.Proofs.Text.Segment

/-!
# Keys of named things

The key of a project, a repository or a user group is made of a fixed number of parts with colons
between them. A text is read as a key when it has that many segments and none of them is empty, so
every key that can be read is written as it was read, and a key whose parts hold colons or nothing
is refused instead of being taken for another one.

* `KeyFormat.Exact`: reading as the inverse of writing.
* `KeyFormat.Segmented.exact`: what is cut into so many segments is read exactly.
* `ProjectId.read_text`, `RepositoryId.read_text`, `GroupId.read_text`: reading a written key.
* `keys_told_apart`: the three sorts of keys together.
-/

namespace AccessSync

namespace Text

/-- The text can stand between colons. -/
def IsSegment (s : String) : Prop := s ≠ "" ∧ ':' ∉ s.toList

instance (s : String) : Decidable (IsSegment s) := inferInstanceAs (Decidable (_ ∧ _))

end Text

open Text

/-! ## Formats of keys -/

/-- A sort of keys: what messages call it, of how many parts it is, which parts make which key, and
how it is written and read. -/
structure KeyFormat (α : Type) where
  what : String
  count : Nat
  parts : α → List String
  ofParts? : List String → Option α
  text : α → String
  read : String → Except Failure α

namespace KeyFormat

variable {α : Type}

/-- Every part of the key can stand between colons. -/
def IsNamed (k : KeyFormat α) (x : α) : Prop := ∀ part ∈ k.parts x, IsSegment part

/-- Keys are written as their parts with colons between them, and read off as many segments. -/
structure Segmented (k : KeyFormat α) : Prop where
  count_pos : 0 < k.count
  length_parts : ∀ x, (k.parts x).length = k.count
  ofParts_eq_some : ∀ parts x, k.ofParts? parts = some x ↔ parts = k.parts x
  text_eq : ∀ x, k.text x = joinWith ":" (k.parts x)
  read_eq : ∀ s, k.read s =
    match k.ofParts? (segments ':' s) with
    | some x => if "" ∈ segments ':' s then .error (badKey k.what k.count s) else .ok x
    | none => .error (badKey k.what k.count s)

/-- **Reading is the inverse of writing.** A text is read as a key exactly if it is that key written
down and each part of the key can stand between colons. A written key is read back, or if it has
other parts, refused as an invalid argument; it is never read as another key. -/
structure Exact (k : KeyFormat α) : Prop where
  read_eq_ok : ∀ s x, k.read s = .ok x ↔ s = k.text x ∧ k.IsNamed x
  read_text : ∀ x, k.IsNamed x → k.read (k.text x) = .ok x
  refused : ∀ x, ¬k.IsNamed x → k.read (k.text x) = .error (badKey k.what k.count (k.text x))

variable {k : KeyFormat α}

namespace Segmented

theorem parts_ne_nil (h : k.Segmented) (x : α) : k.parts x ≠ [] := by
  rw [← List.length_pos_iff, h.length_parts]
  exact h.count_pos

/-- A text that makes a key is read as it when no segment is empty. -/
theorem read_of_ofParts (h : k.Segmented) {s : String} {x : α}
    (hx : k.ofParts? (segments ':' s) = some x) :
    k.read s = if "" ∈ k.parts x then .error (badKey k.what k.count s) else .ok x := by
  rw [h.read_eq, hx, ← (h.ofParts_eq_some _ x).1 hx]

theorem read_eq_ok_iff_segments (h : k.Segmented) (s : String) (x : α) :
    k.read s = .ok x ↔ segments ':' s = k.parts x ∧ "" ∉ k.parts x := by
  rw [← h.ofParts_eq_some]
  cases hx : k.ofParts? (segments ':' s) with
  | none =>
    rw [h.read_eq, hx]
    simp
  | some y =>
    rw [h.read_of_ofParts hx, Option.some.injEq]
    constructor
    · intro hread
      split at hread
      · cases hread
      · rename_i hempty
        obtain rfl := Except.ok.inj hread
        exact ⟨rfl, hempty⟩
    · rintro ⟨rfl, hempty⟩
      exact if_neg hempty

/-- Whatever cannot be read is refused with the number of segments that were found. -/
theorem read_eq_error (h : k.Segmented) {s : String} (hs : ∀ x, k.read s ≠ .ok x) :
    k.read s = .error (badKey k.what k.count s) := by
  cases hx : k.ofParts? (segments ':' s) with
  | none => rw [h.read_eq, hx]
  | some x =>
    have hread := h.read_of_ofParts hx
    by_cases hempty : "" ∈ k.parts x
    · rw [hread, if_pos hempty]
    · rw [if_neg hempty] at hread
      exact absurd hread (hs x)

theorem read_eq_ok_iff (h : k.Segmented) (s : String) (x : α) :
    k.read s = .ok x ↔ s = k.text x ∧ k.IsNamed x := by
  rw [h.read_eq_ok_iff_segments, segments_eq_iff (h.parts_ne_nil x), h.text_eq]
  constructor
  · rintro ⟨⟨hs, hcolons⟩, hempty⟩
    refine ⟨hs, fun part hpart => ⟨?_, hcolons part hpart⟩⟩
    rintro rfl
    exact hempty hpart
  · rintro ⟨hs, hnamed⟩
    exact ⟨⟨hs, fun part hpart => (hnamed part hpart).2⟩, fun hempty => (hnamed "" hempty).1 rfl⟩

/-- What can be read has so many segments. -/
theorem length_segments (h : k.Segmented) {s : String} {x : α} (hs : k.read s = .ok x) :
    (segments ':' s).length = k.count := by
  rw [((h.read_eq_ok_iff_segments s x).1 hs).1, h.length_parts]

/-- **A written key that can be read** has the parts of a key that can be read: had one of them a
colon, there would be too many segments. -/
theorem isNamed_of_read_text (h : k.Segmented) {x y : α} (hread : k.read (k.text x) = .ok y) :
    k.IsNamed x := by
  have hlength := h.length_segments hread
  rw [h.text_eq, segments_joinWith_eq_flatMap (h.parts_ne_nil x)] at hlength
  have hcolons : ∀ part ∈ k.parts x, ':' ∉ part.toList := by
    apply not_mem_of_length_segments
    rw [hlength, h.length_parts]
  -- so the text is cut where it was joined, and both keys have the same parts
  have hparts : k.parts x = k.parts y := by
    rw [← ((h.read_eq_ok_iff_segments _ y).1 hread).1, h.text_eq,
      segments_joinWith (h.parts_ne_nil x) hcolons]
  unfold IsNamed
  rw [hparts]
  exact ((h.read_eq_ok_iff _ y).1 hread).2

/-- **What is cut into so many segments is read exactly.** -/
theorem exact (h : k.Segmented) : k.Exact where
  read_eq_ok := h.read_eq_ok_iff
  read_text x hx := (h.read_eq_ok_iff _ x).2 ⟨rfl, hx⟩
  refused _ hx := h.read_eq_error fun _ hread => hx (h.isNamed_of_read_text hread)

end Segmented

end KeyFormat

/-! ## The three sorts -/

def projectKeys : KeyFormat ProjectId where
  what := "project"
  count := 3
  parts id := [id.workspace, id.project, id.key]
  ofParts?
    | [workspace, project, key] => some ⟨workspace, project, key⟩
    | _ => none
  text := ProjectId.text
  read := ProjectId.read

def repositoryKeys : KeyFormat RepositoryId where
  what := "repository"
  count := 4
  parts id := [id.project.workspace, id.project.project, id.project.key, id.repository]
  ofParts?
    | [workspace, project, key, repository] => some ⟨⟨workspace, project, key⟩, repository⟩
    | _ => none
  text := RepositoryId.text
  read := RepositoryId.read

def groupKeys : KeyFormat GroupId where
  what := "user group"
  count := 2
  parts id := [id.workspace, id.slug]
  ofParts?
    | [workspace, slug] => some ⟨workspace, slug⟩
    | _ => none
  text := GroupId.text
  read := GroupId.read

theorem segmented_projectKeys : projectKeys.Segmented where
  count_pos := by decide
  length_parts _ := rfl
  ofParts_eq_some parts id := by
    unfold projectKeys
    dsimp only
    cases id
    split <;> grind
  text_eq _ := by simp [projectKeys, ProjectId.text, joinWith, String.append_assoc]
  read_eq s := by
    show ProjectId.read s = _
    unfold ProjectId.read projectKeys
    dsimp only
    split <;> simp_all

theorem segmented_repositoryKeys : repositoryKeys.Segmented where
  count_pos := by decide
  length_parts _ := rfl
  ofParts_eq_some parts id := by
    unfold repositoryKeys
    dsimp only
    obtain ⟨⟨_, _, _⟩, _⟩ := id
    split <;> grind
  text_eq _ := by
    simp [repositoryKeys, RepositoryId.text, ProjectId.text, joinWith, String.append_assoc]
  read_eq s := by
    show RepositoryId.read s = _
    unfold RepositoryId.read repositoryKeys
    dsimp only
    split <;> simp_all

theorem segmented_groupKeys : groupKeys.Segmented where
  count_pos := by decide
  length_parts _ := rfl
  ofParts_eq_some parts id := by
    unfold groupKeys
    dsimp only
    cases id
    split <;> grind
  text_eq _ := by simp [groupKeys, GroupId.text, joinWith, String.append_assoc]
  read_eq s := by
    show GroupId.read s = _
    unfold GroupId.read groupKeys
    dsimp only
    split <;> simp_all

/-- **The key of a project** is read back. -/
theorem ProjectId.read_text {id : ProjectId} (hw : IsSegment id.workspace)
    (hp : IsSegment id.project) (hk : IsSegment id.key) : ProjectId.read id.text = .ok id := by
  apply segmented_projectKeys.exact.read_text
  simp [KeyFormat.IsNamed, projectKeys, hw, hp, hk]

/-- **The key of a repository** is read back. -/
theorem RepositoryId.read_text {id : RepositoryId} (hw : IsSegment id.project.workspace)
    (hp : IsSegment id.project.project) (hk : IsSegment id.project.key)
    (hr : IsSegment id.repository) : RepositoryId.read id.text = .ok id := by
  apply segmented_repositoryKeys.exact.read_text
  simp [KeyFormat.IsNamed, repositoryKeys, hw, hp, hk, hr]

/-- **The key of a user group** is read back. -/
theorem GroupId.read_text {id : GroupId} (hw : IsSegment id.workspace) (hs : IsSegment id.slug) :
    GroupId.read id.text = .ok id := by
  apply segmented_groupKeys.exact.read_text
  simp [KeyFormat.IsNamed, groupKeys, hw, hs]

/-- **A key of a project that can be read** is the one that is written. -/
theorem ProjectId.text_of_read {s : String} {id : ProjectId} (h : ProjectId.read s = .ok id) :
    id.text = s := ((segmented_projectKeys.exact.read_eq_ok s id).1 h).1.symm

/-- **A key of a user group that can be read** is the one that is written. -/
theorem GroupId.text_of_read {s : String} {id : GroupId} (h : GroupId.read s = .ok id) :
    id.text = s := ((segmented_groupKeys.exact.read_eq_ok s id).1 h).1.symm

/-- Groups of one workspace have different keys. -/
theorem GroupId.slug_of_text {workspace slug slug' : String}
    (h : GroupId.text ⟨workspace, slug⟩ = GroupId.text ⟨workspace, slug'⟩) : slug = slug' := by
  unfold text at h
  rw [← String.toList_inj] at h ⊢
  simpa using h

/-! ## The three sorts together -/

/-- A text has one number of segments, so it is a key of one sort at most. -/
theorem KeyFormat.Segmented.not_both {α β : Type} {k : KeyFormat α} {k' : KeyFormat β}
    (h : k.Segmented) (h' : k'.Segmented) (hcount : k.count ≠ k'.count) (s : String) (x : α)
    (y : β) : ¬(k.read s = .ok x ∧ k'.read s = .ok y) := by
  rintro ⟨hx, hy⟩
  exact hcount ((h.length_segments hx).symm.trans (h'.length_segments hy))

/-- **The key of a repository** is that of its project, a colon and one segment more. -/
theorem RepositoryId.read_eq_ok_iff (s : String) (p : ProjectId) (r : String) :
    RepositoryId.read s = .ok ⟨p, r⟩ ↔
      ∃ q, s = q ++ ":" ++ r ∧ ProjectId.read q = .ok p ∧ IsSegment r := by
  have hrepository := segmented_repositoryKeys.exact.read_eq_ok s ⟨p, r⟩
  have hproject := segmented_projectKeys.exact.read_eq_ok
  have hnamed : repositoryKeys.IsNamed ⟨p, r⟩ ↔ projectKeys.IsNamed p ∧ IsSegment r := by
    simp [KeyFormat.IsNamed, repositoryKeys, projectKeys, and_assoc]
  rw [hnamed] at hrepository
  constructor
  · intro h
    obtain ⟨hs, hp, hr⟩ := hrepository.1 h
    exact ⟨p.text, hs, (hproject p.text p).2 ⟨rfl, hp⟩, hr⟩
  · rintro ⟨q, hs, hq, hr⟩
    obtain ⟨rfl, hp⟩ := (hproject q p).1 hq
    exact hrepository.2 ⟨hs, hp, hr⟩

/-- **Keys are never misread.** The keys of projects, repositories and user groups are each read as
the exact inverse of how they are written, and whatever else is written in their place is refused.
No text is a key of two sorts, and the key of a repository is the key of its project with one
segment more. -/
theorem keys_told_apart :
    projectKeys.Exact ∧ repositoryKeys.Exact ∧ groupKeys.Exact ∧
    (∀ s p r, ¬(ProjectId.read s = .ok p ∧ RepositoryId.read s = .ok r)) ∧
    (∀ s p g, ¬(ProjectId.read s = .ok p ∧ GroupId.read s = .ok g)) ∧
    (∀ s r g, ¬(RepositoryId.read s = .ok r ∧ GroupId.read s = .ok g)) ∧
    ∀ s p r, RepositoryId.read s = .ok ⟨p, r⟩ ↔
      ∃ q, s = q ++ ":" ++ r ∧ ProjectId.read q = .ok p ∧ IsSegment r := by
  have hproject := segmented_projectKeys
  have hrepository := segmented_repositoryKeys
  have hgroup := segmented_groupKeys
  refine ⟨hproject.exact, hrepository.exact, hgroup.exact, ?_, ?_, ?_, ?_⟩
  · exact hproject.not_both hrepository (by decide)
  · exact hproject.not_both hgroup (by decide)
  · exact hrepository.not_both hgroup (by decide)
  · exact RepositoryId.read_eq_ok_iff

end AccessSync
