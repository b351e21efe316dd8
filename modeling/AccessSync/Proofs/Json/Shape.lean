import AccessSync.Json.Shape
import AccessSync.Proofs.Except

/-!
# Records read field by field

What it says of a structure that a record was read from it: an object is read by the names of its
fields and an array by their places, and each field is either there or has the value for its absence.

* `exists_of_decode`: by name or by place.
* `of_named_both`, `of_placed_both`: two fields.
* `of_named_optional`, `of_placed_optional`: a field that may be absent.
* `Tree.HasField`, `decode_required_iff`: a record of one field.
-/

namespace AccessSync.Json

/-- The field stands once among the fields of an object, and all other names are texts. -/
inductive Fields.HasOnce (name : String) (value : Tree) : Fields → Prop
  | here {rest : Fields} (hrest : ∀ f ∈ rest, ∃ other, f.1 = some other ∧ other ≠ name) :
      HasOnce name value ((some name, value) :: rest)
  | later {other : String} {t : Tree} {rest : Fields} (hother : other ≠ name)
      (h : HasOnce name value rest) : HasOnce name value ((some other, t) :: rest)

/-- The structure is a record with a field that has the value: an object with the field, or an array
with the value as its only item. -/
inductive Tree.HasField (name : String) (value : Tree) : Tree → Prop
  | named {fields : Fields} (h : fields.HasOnce name value) : HasField name value (.object fields)
  | placed : HasField name value (.array [value])

namespace Shape

variable {α β : Type}

/-- A record is read by name or by place. -/
theorem exists_of_decode {shape : Shape α} {t : Tree} {a : α} (h : shape.decode t = .ok a) :
    (∃ fields, t = .object fields ∧ shape.named fields = .ok a) ∨
      ∃ items, t = .array items ∧ shape.placed items = .ok (a, []) := by
  unfold decode at h
  split at h
  · rename_i fields
    split at h
    · cases h
    · exact .inl ⟨fields, rfl, h⟩
  · rename_i items
    split at h
    · cases h
    · rename_i hplaced
      cases h
      exact .inr ⟨items, rfl, hplaced⟩
    · cases h
  · cases h

section
variable {a : Shape α} {b : Shape β} {x : α} {y : β}

theorem of_named_both {fields : Fields} (h : (a.both b).named fields = .ok (x, y)) :
    a.named fields = .ok x ∧ b.named fields = .ok y := by
  unfold both at h
  dsimp only at h
  split at h
  · cases h
  · rename_i hx
    obtain ⟨y', hy, heq⟩ := except_map_eq_ok h
    cases heq
    exact ⟨hx, hy⟩

theorem of_placed_both {items rest : List Tree} (h : (a.both b).placed items = .ok ((x, y), rest)) :
    ∃ between, a.placed items = .ok (x, between) ∧ b.placed between = .ok (y, rest) := by
  unfold both at h
  dsimp only at h
  split at h
  · cases h
  · rename_i x' between hx
    obtain ⟨⟨y', rest'⟩, hy, heq⟩ := except_map_eq_ok h
    cases heq
    exact ⟨between, hx, hy⟩

end

section
variable {name : String} {decode : Decoder α} {absent x : α}

theorem of_named_optional {fields : Fields}
    (h : (optional name decode absent).named fields = .ok x) :
    (∃ t, fields.find? name = some t ∧ decode t = .ok x) ∨
      fields.find? name = none ∧ x = absent := by
  unfold optional at h
  dsimp only at h
  split at h
  · rename_i t hfind
    exact .inl ⟨t, hfind, h⟩
  · rename_i hfind
    cases h
    exact .inr ⟨hfind, rfl⟩

theorem of_placed_optional {items rest : List Tree}
    (h : (optional name decode absent).placed items = .ok (x, rest)) :
    (∃ t, items = t :: rest ∧ decode t = .ok x) ∨ items = [] ∧ rest = [] ∧ x = absent := by
  unfold optional at h
  cases items with
  | nil =>
    cases h
    exact .inr ⟨rfl, rfl, rfl⟩
  | cons t more =>
    obtain ⟨x', ht, heq⟩ := except_map_eq_ok h
    cases heq
    exact .inl ⟨t, rfl, ht⟩

/-- A field that must be there takes up the first place. -/
theorem of_placed_required {items rest : List Tree}
    (h : (required name decode).placed items = .ok (x, rest)) :
    ∃ t, items = t :: rest ∧ decode t = .ok x := by
  unfold required at h
  cases items with
  | nil => cases h
  | cons t more =>
    obtain ⟨x', ht, heq⟩ := except_map_eq_ok h
    cases heq
    exact ⟨t, rfl, ht⟩

end

/-! ## One field -/

section
variable {name : String} {decode : Decoder α} {a : α}

/-- After the field has been read, only others may follow. -/
theorem check_seen_eq_none_iff {fails : Tree → Option Mismatch} {fields : Fields} :
    check [(name, fails)] [name] fields = none ↔
      ∀ f ∈ fields, ∃ other, f.1 = some other ∧ other ≠ name := by
  induction fields with
  | nil => simp [check]
  | cons f rest ih =>
    obtain ⟨found?, t⟩ := f
    cases found? with
    | none => simp [check]
    | some found =>
      by_cases hfound : found = name
      · simp [check, hfound]
      · simp [check, List.lookup_cons, beq_false_of_ne hfound, hfound, ih]

/-- **A field is read from an object** in which it stands once, by induction on the fields. -/
theorem named_required_iff {fields : Fields} :
    check (required name decode).checks [] fields = none ∧
        (required name decode).named fields = .ok a ↔
      ∃ value, fields.HasOnce name value ∧ decode value = .ok a := by
  induction fields with
  | nil =>
    constructor
    · rintro ⟨-, hnamed⟩
      cases hnamed
    · rintro ⟨value, hfield, -⟩
      cases hfield
  | cons f rest ih =>
    obtain ⟨found?, t⟩ := f
    cases found? with
    | none =>
      constructor
      · rintro ⟨hcheck, -⟩
        cases hcheck
      · rintro ⟨value, hfield, -⟩
        cases hfield
    | some found =>
      by_cases hfound : found = name
      · subst hfound
        -- the value is read here, and the field may not come again
        have hhere : check (required found decode).checks [] ((some found, t) :: rest) = none ∧
            (required found decode).named ((some found, t) :: rest) = .ok a ↔
              (∀ f ∈ rest, ∃ other, f.1 = some other ∧ other ≠ found) ∧ decode t = .ok a := by
          cases ht : decode t <;>
            simp [required, check, failure?, Fields.find?, ht, check_seen_eq_none_iff]
        rw [hhere]
        constructor
        · rintro ⟨hrest, ht⟩
          exact ⟨t, .here hrest, ht⟩
        · rintro ⟨value, hfield, hvalue⟩
          cases hfield with
          | here hrest => exact ⟨hrest, hvalue⟩
          | later hother => exact absurd rfl hother
      · -- another field is passed over
        have hother : check (required name decode).checks [] ((some found, t) :: rest) = none ∧
            (required name decode).named ((some found, t) :: rest) = .ok a ↔
              check (required name decode).checks [] rest = none ∧
                (required name decode).named rest = .ok a := by
          simp [required, check, Fields.find?, List.lookup_cons, beq_false_of_ne hfound, hfound]
        rw [hother, ih]
        constructor
        · rintro ⟨value, hfield, hvalue⟩
          exact ⟨value, .later hfound hfield, hvalue⟩
        · rintro ⟨value, hfield, hvalue⟩
          cases hfield with
          | here hrest => exact absurd rfl hfound
          | later _ hfield => exact ⟨value, hfield, hvalue⟩

/-- **A record of one field** is read when the structure has the field. -/
theorem decode_required_iff {t : Tree} :
    (required name decode).decode t = .ok a ↔
      ∃ value, Tree.HasField name value t ∧ decode value = .ok a := by
  constructor
  · intro h
    rcases exists_of_decode h with ⟨fields, rfl, hnamed⟩ | ⟨items, rfl, hplaced⟩
    · have hcheck : check (required name decode).checks [] fields = none := by
        unfold Shape.decode at h
        dsimp only at h
        split at h
        · cases h
        · assumption
      obtain ⟨value, hfield, hvalue⟩ := named_required_iff.1 ⟨hcheck, hnamed⟩
      exact ⟨value, .named hfield, hvalue⟩
    · obtain ⟨value, rfl, hvalue⟩ := of_placed_required hplaced
      exact ⟨value, .placed, hvalue⟩
  · rintro ⟨value, hfield, hvalue⟩
    unfold Shape.decode
    cases hfield with
    | named hfield =>
      obtain ⟨hcheck, hnamed⟩ := named_required_iff.2 ⟨value, hfield, hvalue⟩
      simp only [hcheck, hnamed]
    | placed => simp [required, hvalue, Except.map]

end

/-- A text is written as one. -/
theorem eq_of_text {t : Tree} {s : String} (h : Decoder.text t = .ok s) : t = .text (some s) := by
  unfold Decoder.text at h
  split at h
  · cases h
    rfl
  · cases h
  · cases h

/-- An integer is written as one. -/
theorem eq_of_integer {t : Tree} {i : Int} (h : Decoder.integer t = .ok i) :
    t = .number (.int i) := by
  unfold Decoder.integer at h
  split at h
  · split at h
    · cases h
      rfl
    · cases h
  · cases h

end Shape

end AccessSync.Json
