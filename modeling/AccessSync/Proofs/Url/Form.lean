import AccessSync.Proofs.Text.Segment
import AccessSync.Proofs.Text.Utf8
import AccessSync.Url.Form

/-!
# Reading form-encoded pairs

Pairs that were added to a query are read back as they were, whatever characters they hold, and
those that were there before stay as they are. A byte is written as itself or as a code of three
bytes, neither of which looks like a separator; `+` is turned into a space before the codes are
read, and no code holds a `+`.

* `formText_formChars`: a name or a value is read back.
* `pairs_append`: the pairs of a URL with pairs added.
-/

namespace AccessSync.Url

open Text (Bytes utf8 encodeChars)

/-! ## Bytes -/

/-- The bytes are read as the given one, once every `+` is a space: the byte itself, or its code. -/
def codes (b : UInt8) : Bytes → Bool
  | [own] => own == b && b != 0x25
  | [mark, high, low] => mark == 0x25 && hexPair? high low == some b
  | _ => false

theorem codes_formByte : ∀ n < 256,
    codes (UInt8.ofNat n) (plusAsSpace (encodeChars (formByte (UInt8.ofNat n)))) = true := by
  decide +kernel

/-- No separator of pairs is written for a byte. -/
theorem separator_formByte : ∀ n < 256,
    '&' ∉ formByte (UInt8.ofNat n) ∧ '=' ∉ formByte (UInt8.ofNat n) := by
  decide +kernel

theorem percentDecode_cons {b : UInt8} (h : b ≠ 0x25) (rest : Bytes) :
    percentDecode (b :: rest) = b :: percentDecode rest := by
  match rest with
  | [] => rfl
  | [_] => rfl
  | _ :: _ :: _ => rw [percentDecode, if_neg h]

theorem percentDecode_codes {b : UInt8} {code : Bytes} (h : codes b code = true) (rest : Bytes) :
    percentDecode (code ++ rest) = b :: percentDecode rest := by
  unfold codes at h
  split at h
  · rw [Bool.and_eq_true, beq_iff_eq, bne_iff_ne] at h
    obtain ⟨rfl, hb⟩ := h
    exact percentDecode_cons hb rest
  · rw [Bool.and_eq_true, beq_iff_eq, beq_iff_eq] at h
    obtain ⟨rfl, hpair⟩ := h
    rw [List.cons_append, List.cons_append, List.cons_append, percentDecode, if_pos rfl, hpair]
    rfl
  · cases h

/-! ## Names and values -/

theorem encodeChars_append (cs ds : List Char) :
    encodeChars (cs ++ ds) = encodeChars cs ++ encodeChars ds := List.flatMap_append

theorem plusAsSpace_append (bs cs : Bytes) :
    plusAsSpace (bs ++ cs) = plusAsSpace bs ++ plusAsSpace cs := List.map_append

theorem percentDecode_formBytes (bytes : Bytes) :
    percentDecode (plusAsSpace (encodeChars (bytes.flatMap formByte))) = bytes := by
  induction bytes with
  | nil => rfl
  | cons b rest ih =>
    have hcode := codes_formByte b.toNat b.toNat_lt
    rw [UInt8.ofNat_toNat] at hcode
    rw [List.flatMap_cons, encodeChars_append, plusAsSpace_append, percentDecode_codes hcode, ih]

/-- **A name or a value is read back.** -/
theorem formText_formChars (s : String) : formText (formChars s) = s := by
  unfold formText formChars
  rw [percentDecode_formBytes, Text.decodeLossy_utf8]

theorem separator_formChars (s : String) : '&' ∉ formChars s ∧ '=' ∉ formChars s := by
  have hbytes (b : UInt8) : '&' ∉ formByte b ∧ '=' ∉ formByte b := by
    have hb := separator_formByte b.toNat b.toNat_lt
    rwa [UInt8.ofNat_toNat] at hb
  unfold formChars
  simp only [List.mem_flatMap, not_exists, not_and]
  exact ⟨fun b _ => (hbytes b).1, fun b _ => (hbytes b).2⟩

/-! ## Pairs -/

theorem pairOf_pairChars (pair : String × String) : pairOf (pairChars pair) = pair := by
  unfold pairOf pairChars
  rw [Text.cutChars_append (separator_formChars pair.1).2]
  simp only [formText_formChars]

theorem pairChars_ne_nil (pair : String × String) : pairChars pair ≠ [] := by
  unfold pairChars
  simp

theorem pairsOf_pairChars (pair : String × String) : pairsOf (pairChars pair) = [pair] := by
  have hsep : '&' ∉ pairChars pair := by
    unfold pairChars
    simp [(separator_formChars pair.1).1, (separator_formChars pair.2).1]
  unfold pairsOf
  rw [Text.splitChars_of_not_mem hsep]
  simp [pairChars_ne_nil, pairOf_pairChars]

theorem pairsOf_append_cons (query more : List Char) :
    pairsOf (query ++ '&' :: more) = pairsOf query ++ pairsOf more := by
  unfold pairsOf
  rw [Text.splitChars_append_cons, List.filter_append, List.map_append]

theorem pairsOf_appendPairs (query : List Char) (added : List (String × String)) :
    pairsOf (appendPairs query added) = pairsOf query ++ added := by
  induction added generalizing query with
  | nil => rw [appendPairs, List.append_nil]
  | cons pair rest ih =>
    rw [appendPairs, ih]
    cases query with
    | nil =>
      have hempty : pairsOf [] = [] := rfl
      simp [pairsOf_pairChars, hempty]
    | cons c cs =>
      rw [if_neg (by simp), pairsOf_append_cons, pairsOf_pairChars, List.append_assoc]
      rfl

/-- A path of segments stays as it is. -/
theorem path_append_of_segments {u : Url} {parts : List String} (h : u.path = .segments parts)
    (added : List (String × String)) : (u.append added).path = .segments parts := by
  unfold append
  dsimp only
  rw [h]
  split <;> rfl

/-- **The pairs of a URL with pairs added** are those it had, then the new ones. -/
theorem pairs_append (u : Url) (added : List (String × String)) :
    (u.append added).pairs = u.pairs ++ added := by
  have hempty : pairsOf "".toList = [] := rfl
  have hquery : pairsOf (u.query.getD "").toList = u.pairs := by
    unfold pairs
    cases u.query with
    | none => exact hempty
    | some q => rfl
  rw [← hquery, ← pairsOf_appendPairs]
  unfold append pairs
  dsimp only
  -- a query that stays empty is none, and has no pairs either way
  by_cases hnil : (appendPairs (u.query.getD "").toList added).isEmpty
  · rw [if_pos hnil, List.isEmpty_iff.1 hnil]
    rfl
  · rw [if_neg hnil]
    simp only [String.toList_ofList]

end AccessSync.Url
