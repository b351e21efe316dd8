import AccessSync.Json.Shape

/-!
# Reading what was written

The reader is a fold over characters, so what a written value does to it is stated for any state
of the fold: a value that may start here ends here, inside whatever is still open.

* `read_compact`: the compact text of a value made of texts, arrays and objects reads as the
  structure of that value.
-/

namespace AccessSync.Json

/-! ## Strings -/

theorem hexValue?_hexDigit : ∀ n < 16, hexValue? (hexDigit n) = some n := by decide

/-- A character below U+0020 is the one its two hexadecimal digits stand for. -/
theorem ofUnit_low {c : Char} (h : c.toNat < 0x20) :
    Piece.ofUnit ((((0 * 16 + 0) * 16 + 0) * 16 + c.toNat / 16) * 16 + c.toNat % 16) = .char c := by
  have hn : (((0 * 16 + 0) * 16 + 0) * 16 + c.toNat / 16) * 16 + c.toNat % 16 = c.toNat := by omega
  rw [hn]
  unfold Piece.ofUnit
  rw [if_neg (by omega), if_neg (by omega), Char.ofNat_toNat]

/-- An escaped character inside a string is read as that character. -/
theorem foldlM_escapeChar (c : Char) (pieces : List Piece) (nest : Nest) :
    (escapeChar c).foldlM Reader.step ⟨.quote pieces, nest⟩ =
      some ⟨.quote (.char c :: pieces), nest⟩ := by
  unfold escapeChar
  split
  · subst_vars; rfl
  split
  · subst_vars; rfl
  split
  · subst_vars; rfl
  split
  · subst_vars; rfl
  split
  · subst_vars; rfl
  split
  · subst_vars; rfl
  split
  · subst_vars; rfl
  split
  · -- any other control character is written with four hexadecimal digits
    rename_i hc
    have h1 := hexValue?_hexDigit (c.toNat / 16) (by omega)
    have h2 := hexValue?_hexDigit (c.toNat % 16) (by omega)
    have h0 : hexValue? '0' = some 0 := by decide
    simp only [List.foldlM_cons, List.foldlM_nil, Reader.step, Char.reduceEq, ↓reduceIte, h0, h1,
      h2, Option.bind_eq_bind, Option.bind_some, Nat.reduceLeDiff, Nat.reduceSub, ofUnit_low hc,
      Nat.le_refl]
    rfl
  · -- all other characters stand for themselves
    rename_i hquote hback _ _ _ _ _ hlow
    simp [Reader.step, hquote, hback, hlow]

theorem foldlM_escaped (cs : List Char) (pieces : List Piece) (nest : Nest) :
    (cs.flatMap escapeChar).foldlM Reader.step ⟨.quote pieces, nest⟩ =
      some ⟨.quote ((cs.map Piece.char).reverse ++ pieces), nest⟩ := by
  induction cs generalizing pieces with
  | nil => rfl
  | cons c cs ih =>
    rw [List.flatMap_cons, List.foldlM_append, foldlM_escapeChar]
    simp [ih]

theorem joinPieces_map_char (cs : List Char) : joinPieces (cs.map Piece.char) = some cs := by
  induction cs with
  | nil => rfl
  | cons c cs ih => simp [joinPieces, ih]

/-- A written string is one scalar. -/
theorem foldlM_textChars (s : String) {nest next : Nest}
    (h : nest.step (.scalar (.text (some s))) = some next) :
    (textChars s).foldlM Reader.step ⟨.between, nest⟩ = some ⟨.between, next⟩ := by
  have hopen : Reader.step ⟨.between, nest⟩ '"' = some ⟨.quote [], nest⟩ := rfl
  have hclose : Reader.step ⟨.quote (s.toList.map Piece.char).reverse, nest⟩ '"' =
      some ⟨.between, next⟩ := by
    simp [Reader.step, joinPieces_map_char, h]
  unfold textChars
  rw [List.cons_append, List.foldlM_cons, hopen]
  simp [foldlM_escaped, hclose]

/-! ## Values -/

mutual

/-- The value is made of texts, arrays and objects alone. -/
def wordless : Json → Bool
  | .text _ => true
  | .array items => wordlessItems items
  | .object fields => wordlessFields fields
  | .null | .bool _ | .number _ => false

def wordlessItems : List Json → Bool
  | [] => true
  | j :: rest => j.wordless && wordlessItems rest

def wordlessFields : List (String × Json) → Bool
  | [] => true
  | (_, j) :: rest => j.wordless && wordlessFields rest

end

/-- A value may come next. -/
def Want.isValue : Want → Bool
  | .value | .valueOrClose => true
  | _ => false

/-- The name of a field may come next. -/
def Want.isName : Want → Bool
  | .name | .nameOrClose => true
  | _ => false

theorem step_scalar {nest : Nest} (hw : nest.want.isValue) (t : Tree) :
    nest.step (.scalar t) = Nest.complete t nest.stack := by
  obtain ⟨stack, want⟩ := nest
  cases want <;> first | rfl | simp [Want.isValue] at hw

theorem step_openArray {nest : Nest} (hw : nest.want.isValue) :
    nest.step .openArray = some ⟨.array [] :: nest.stack, .valueOrClose⟩ := by
  obtain ⟨stack, want⟩ := nest
  cases want <;> first | rfl | simp [Want.isValue] at hw

theorem step_openObject {nest : Nest} (hw : nest.want.isValue) :
    nest.step .openObject = some ⟨.object [] :: nest.stack, .nameOrClose⟩ := by
  obtain ⟨stack, want⟩ := nest
  cases want <;> first | rfl | simp [Want.isValue] at hw

theorem step_name {want : Want} (hw : want.isName) (done : List (Option String × Tree))
    (stack : List Frame) (name : String) :
    Nest.step ⟨.object done :: stack, want⟩ (.scalar (.text (some name))) =
      some ⟨.field done (some name) :: stack, .colon⟩ := by
  cases want <;> first | rfl | simp [Want.isName] at hw

theorem step_closeArray {want : Want} (hw : want = .commaOrClose ∨ want = .valueOrClose)
    (done : List Tree) (stack : List Frame) :
    Nest.step ⟨.array done :: stack, want⟩ .closeArray =
      Nest.complete (.array done.reverse) stack := by
  rcases hw with rfl | rfl <;> rfl

theorem step_closeObject {want : Want} (hw : want = .commaOrClose ∨ want = .nameOrClose)
    (done : List (Option String × Tree)) (stack : List Frame) :
    Nest.step ⟨.object done :: stack, want⟩ .closeObject =
      Nest.complete (.object done.reverse) stack := by
  rcases hw with rfl | rfl <;> rfl

/-- A character of structure moves the stack by its token. -/
theorem step_mark {c : Char} {t : Token} (nest : Nest) {next : Nest} (hs : isSpace c = false)
    (hq : c ≠ '"') (hm : mark? c = some t) (h : nest.step t = some next) :
    Reader.step ⟨.between, nest⟩ c = some ⟨.between, next⟩ := by
  simp [Reader.step, Reader.between, hs, hq, hm, h]

/-- What may come after items that were written where `want` was due. -/
def Want.afterAll {α : Type} (want : Want) : List α → Want
  | [] => want
  | _ :: _ => .commaOrClose

mutual

/-- A value that may start here ends here, inside whatever is still open. -/
theorem foldlM_chars : ∀ (j : Json) (nest : Nest) {next : Nest}, j.wordless → nest.want.isValue →
    Nest.complete j.tree nest.stack = some next →
    j.chars.foldlM Reader.step ⟨.between, nest⟩ = some ⟨.between, next⟩
  | .null, _, _, hj, _, _ => by simp [wordless] at hj
  | .bool _, _, _, hj, _, _ => by simp [wordless] at hj
  | .number _, _, _, hj, _, _ => by simp [wordless] at hj
  | .text s, nest, next, _, hw, h => by
    rw [chars]
    apply foldlM_textChars
    rw [step_scalar hw]
    exact h
  | .array items, nest, next, hj, hw, h => by
    have hopen := step_mark (c := '[') nest rfl (by decide) rfl (step_openArray hw)
    have hitems := foldlM_items items [] nest.stack .valueOrClose hj rfl
    have hclose : Reader.step ⟨.between, ⟨.array (treeItems items).reverse :: nest.stack,
        Want.afterAll .valueOrClose items⟩⟩ ']' = some ⟨.between, next⟩ := by
      apply step_mark _ rfl (by decide) (rfl : mark? ']' = some .closeArray)
      rw [step_closeArray (by cases items <;> simp [Want.afterAll]), List.reverse_reverse]
      exact h
    rw [List.append_nil] at hitems
    rw [chars, List.cons_append, List.foldlM_cons, hopen]
    simp [hitems, hclose]
  | .object fields, nest, next, hj, hw, h => by
    have hopen := step_mark (c := '\x7b') nest rfl (by decide) rfl (step_openObject hw)
    have hfields := foldlM_fields fields [] nest.stack .nameOrClose hj rfl
    have hclose : Reader.step ⟨.between, ⟨.object (treeFields fields).reverse :: nest.stack,
        Want.afterAll .nameOrClose fields⟩⟩ '\x7d' = some ⟨.between, next⟩ := by
      apply step_mark _ rfl (by decide) (rfl : mark? '\x7d' = some .closeObject)
      rw [step_closeObject (by cases fields <;> simp [Want.afterAll]), List.reverse_reverse]
      exact h
    rw [List.append_nil] at hfields
    rw [chars, List.cons_append, List.foldlM_cons, hopen]
    simp [hfields, hclose]

/-- The items of an array go on top of what it holds. -/
theorem foldlM_items : ∀ (items : List Json) (done : List Tree) (stack : List Frame) (want : Want),
    wordlessItems items → want.isValue →
    (itemsChars items).foldlM Reader.step ⟨.between, ⟨.array done :: stack, want⟩⟩ =
      some ⟨.between, ⟨.array ((treeItems items).reverse ++ done) :: stack, want.afterAll items⟩⟩
  | [], done, stack, want, _, _ => rfl
  | [j], done, stack, want, hj, hw => by
    have hfirst := foldlM_chars j ⟨.array done :: stack, want⟩
      (by simpa [wordlessItems] using hj) hw rfl
    rw [itemsChars, hfirst]
    rfl
  | j :: next :: rest, done, stack, want, hj, hw => by
    rw [wordlessItems, Bool.and_eq_true] at hj
    have hfirst := foldlM_chars j ⟨.array done :: stack, want⟩ hj.1 hw rfl
    have hcomma := step_mark (c := ',') ⟨.array (j.tree :: done) :: stack, .commaOrClose⟩
      rfl (by decide) rfl rfl
    have hrest := foldlM_items (next :: rest) (j.tree :: done) stack .value hj.2 rfl
    rw [itemsChars, List.foldlM_append, hfirst, Option.bind_eq_bind, Option.bind_some,
      List.foldlM_cons, hcomma, Option.bind_eq_bind, Option.bind_some, hrest]
    simp [treeItems, Want.afterAll]

/-- The fields of an object go on top of what it holds. -/
theorem foldlM_fields : ∀ (fields : List (String × Json)) (done : List (Option String × Tree))
    (stack : List Frame) (want : Want), wordlessFields fields → want.isName →
    (fieldsChars fields).foldlM Reader.step ⟨.between, ⟨.object done :: stack, want⟩⟩ =
      some ⟨.between,
        ⟨.object ((treeFields fields).reverse ++ done) :: stack, want.afterAll fields⟩⟩
  | [], done, stack, want, _, _ => rfl
  | [(name, j)], done, stack, want, hj, hw => by
    have hname := foldlM_textChars name (step_name hw done stack name)
    have hcolon := step_mark (c := ':') ⟨.field done (some name) :: stack, .colon⟩
      rfl (by decide) rfl rfl
    have hvalue := foldlM_chars j ⟨.field done (some name) :: stack, .value⟩
      (by simpa [wordlessFields] using hj) rfl rfl
    rw [fieldsChars, List.foldlM_append, hname, Option.bind_eq_bind, Option.bind_some,
      List.foldlM_cons, hcolon, Option.bind_eq_bind, Option.bind_some, hvalue]
    rfl
  | (name, j) :: next :: rest, done, stack, want, hj, hw => by
    rw [wordlessFields, Bool.and_eq_true] at hj
    have hname := foldlM_textChars name (step_name hw done stack name)
    have hcolon := step_mark (c := ':') ⟨.field done (some name) :: stack, .colon⟩
      rfl (by decide) rfl rfl
    have hvalue := foldlM_chars j ⟨.field done (some name) :: stack, .value⟩ hj.1 rfl rfl
    have hcomma := step_mark (c := ',')
      ⟨.object ((some name, j.tree) :: done) :: stack, .commaOrClose⟩ rfl (by decide) rfl rfl
    have hrest := foldlM_fields (next :: rest) ((some name, j.tree) :: done) stack .name
      hj.2 rfl
    rw [fieldsChars, List.append_assoc, List.foldlM_append, hname, Option.bind_eq_bind,
      Option.bind_some, List.cons_append, List.foldlM_cons, hcolon, Option.bind_eq_bind,
      Option.bind_some, List.foldlM_append, hvalue, Option.bind_eq_bind, Option.bind_some,
      List.foldlM_cons, hcomma, Option.bind_eq_bind, Option.bind_some, hrest]
    simp [treeFields, Want.afterAll]

end

/-- **Reading a written value** gives the structure of that value. -/
theorem read_compact {j : Json} (h : j.wordless) : read j.compact = some j.tree := by
  have hchars := foldlM_chars j .start h rfl rfl
  unfold read readChars compact Reader.start
  rw [String.toList_ofList, hchars]
  rfl

/-! ## Lists of one sort of values -/

theorem treeItems_map {α : Type} (f : α → Json) (xs : List α) :
    treeItems (xs.map f) = xs.map fun x => (f x).tree := by
  induction xs with
  | nil => rfl
  | cons x xs ih => rw [List.map_cons, treeItems, ih, List.map_cons]

theorem wordlessItems_map {α : Type} (f : α → Json) (hf : ∀ x, (f x).wordless) (xs : List α) :
    wordlessItems (xs.map f) := by
  induction xs with
  | nil => rfl
  | cons x xs ih => rw [List.map_cons, wordlessItems, hf x, ih]; rfl

theorem decodeAll_map {α : Type} (item : Decoder α) (f : α → Tree) (hf : ∀ x, item (f x) = .ok x)
    (xs : List α) : decodeAll item (xs.map f) = .ok xs := by
  induction xs with
  | nil => rfl
  | cons x xs ih => rw [List.map_cons, decodeAll, hf x, ih]; rfl

end AccessSync.Json
