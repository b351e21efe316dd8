import AccessSync.Proofs.Json.RoundTrip

/-!
# Values on a line

The compact text of a value made of texts, arrays and objects is one line, whatever the texts are:
a line break inside of a text is written as an escape. What the text reads as has no name twice when
the value has none.

* `newline_not_mem_compact`: the text is one line.
* `Tree.Distinct`: no object has a name twice, at any level.
-/

namespace AccessSync.Json

/-! ## Line breaks -/

theorem hexDigit_ne_newline : ∀ n < 16, hexDigit n ≠ '\n' := by decide

theorem newline_not_mem_escapeChar (c : Char) : '\n' ∉ escapeChar c := by
  unfold escapeChar
  split
  · decide
  split
  · decide
  split
  · decide
  split
  · decide
  split
  · decide
  split
  · decide
  split
  · decide
  split
  · -- the two hexadecimal digits of a control character
    rename_i hlow
    have h1 := hexDigit_ne_newline (c.toNat / 16) (by omega)
    have h2 := hexDigit_ne_newline (c.toNat % 16) (by omega)
    simp [h1.symm, h2.symm]
  · rename_i hnewline _ _ _
    simpa using Ne.symm hnewline

theorem newline_not_mem_textChars (s : String) : '\n' ∉ textChars s := by
  have hescaped : ∀ cs : List Char, '\n' ∉ cs.flatMap escapeChar := by
    intro cs h
    obtain ⟨c, -, hc⟩ := List.mem_flatMap.1 h
    exact newline_not_mem_escapeChar c hc
  unfold textChars
  simp [-List.mem_flatMap, hescaped]

mutual

theorem newline_not_mem_chars : ∀ j : Json, j.wordless → '\n' ∉ j.chars
  | .null, h => by simp [wordless] at h
  | .bool _, h => by simp [wordless] at h
  | .number _, h => by simp [wordless] at h
  | .text s, _ => newline_not_mem_textChars s
  | .array items, h => by
    have hitems := newline_not_mem_itemsChars items h
    rw [chars]
    simp [hitems]
  | .object fields, h => by
    have hfields := newline_not_mem_fieldsChars fields h
    rw [chars]
    simp [hfields]

theorem newline_not_mem_itemsChars : ∀ items : List Json, wordlessItems items →
    '\n' ∉ itemsChars items
  | [], _ => List.not_mem_nil
  | [j], h => newline_not_mem_chars j (by simpa [wordlessItems] using h)
  | j :: next :: rest, h => by
    rw [wordlessItems, Bool.and_eq_true] at h
    have hfirst := newline_not_mem_chars j h.1
    have hrest := newline_not_mem_itemsChars (next :: rest) h.2
    rw [itemsChars]
    simp [hfirst, hrest]

theorem newline_not_mem_fieldsChars : ∀ fields : List (String × Json), wordlessFields fields →
    '\n' ∉ fieldsChars fields
  | [], _ => List.not_mem_nil
  | [(name, j)], h => by
    have hname := newline_not_mem_textChars name
    have hvalue := newline_not_mem_chars j (by simpa [wordlessFields] using h)
    rw [fieldsChars]
    simp [hname, hvalue]
  | (name, j) :: next :: rest, h => by
    rw [wordlessFields, Bool.and_eq_true] at h
    have hname := newline_not_mem_textChars name
    have hvalue := newline_not_mem_chars j h.1
    have hrest := newline_not_mem_fieldsChars (next :: rest) h.2
    rw [fieldsChars]
    simp [hname, hvalue, hrest]

end

/-- **A compact text is one line**, whatever texts are in the value. -/
theorem newline_not_mem_compact {j : Json} (h : j.wordless) : '\n' ∉ j.compact.toList := by
  unfold compact
  rw [String.toList_ofList]
  exact newline_not_mem_chars j h

theorem compact_object_ne_empty (fields : List (String × Json)) :
    (Json.object fields).compact ≠ "" := by
  intro h
  have hchars := congrArg String.toList h
  simp [compact, chars] at hchars

/-! ## Names -/

/-- No object has a name twice, neither the structure itself nor anything inside of it. -/
inductive Tree.Distinct : Tree → Prop
  | null : Distinct .null
  | bool (b : Bool) : Distinct (.bool b)
  | number (n : Number) : Distinct (.number n)
  | text (s : Option String) : Distinct (.text s)
  | array {items : List Tree} (each : ∀ t ∈ items, Distinct t) : Distinct (.array items)
  | object {fields : List (Option String × Tree)} (names : (fields.map (·.1)).Nodup)
    (each : ∀ f ∈ fields, Distinct f.2) : Distinct (.object fields)

theorem treeFields_eq_map (fields : List (String × Json)) :
    treeFields fields = fields.map fun (name, j) => (some name, j.tree) := by
  induction fields with
  | nil => rfl
  | cons f rest ih => rw [treeFields, ih, List.map_cons]

/-- The names of a written object are those of its fields. -/
theorem names_treeFields (fields : List (String × Json)) :
    (treeFields fields).map (·.1) = (fields.map (·.1)).map some := by
  rw [treeFields_eq_map, List.map_map, List.map_map]
  rfl

/-- **An object is written without a name twice** when it has no name twice, and its values neither.
-/
theorem distinct_object {fields : List (String × Json)} (names : (fields.map (·.1)).Nodup)
    (each : ∀ f ∈ fields, f.2.tree.Distinct) : (Json.object fields).tree.Distinct := by
  rw [tree]
  refine .object ?_ ?_
  · rw [names_treeFields]
    exact List.Pairwise.map _ (fun _ _ hne heq => hne (Option.some.inj heq)) names
  · intro f hf
    rw [treeFields_eq_map] at hf
    obtain ⟨field, hfield, rfl⟩ := List.mem_map.1 hf
    exact each field hfield

theorem distinct_text (s : String) : (Json.text s).tree.Distinct := .text (some s)

/-- An array of values of one sort. -/
theorem distinct_array_map {α : Type} {f : α → Json} (h : ∀ a, (f a).tree.Distinct) (xs : List α) :
    (Json.array (xs.map f)).tree.Distinct := by
  rw [tree, treeItems_map]
  refine .array fun t ht => ?_
  obtain ⟨a, -, rfl⟩ := List.mem_map.1 ht
  exact h a

end AccessSync.Json
