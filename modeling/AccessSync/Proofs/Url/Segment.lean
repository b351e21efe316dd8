import AccessSync.Proofs.Url.Form
import AccessSync.Url.Path

/-!
# Segments added to a path

A segment that is given as a whole text is written so that it is read back as that text, unless it
says where to go instead of where to be: dots are passed over, and characters that have no place in
a URL are dropped, which may leave dots as well. What such a segment leaves is always shorter, so
the loss shows in the length of the path.

* `segmentText_percentEncode`: a segment is read back.
* `addedTo_of_isWhole`: whole segments are added as they are.
* `weight_addedTo_lt`: others leave something out.
-/

namespace AccessSync.Url

open Text (Bytes encodeChars)

/-! ## Segments as they are read -/

/-- The text that a segment of a path stands for. -/
def segmentText (segment : String) : String :=
  Text.decodeLossy (percentDecode (encodeChars segment.toList))

theorem codes_percentByte : ∀ n < 256,
    codes (UInt8.ofNat n) (encodeChars (percentByte (UInt8.ofNat n))) = true := by
  decide +kernel

theorem percentDecode_percentBytes (bytes rest : Bytes) :
    percentDecode (encodeChars (bytes.flatMap percentByte) ++ rest) =
      bytes ++ percentDecode rest := by
  induction bytes with
  | nil => rfl
  | cons b more ih =>
    have hcode := codes_percentByte b.toNat b.toNat_lt
    rw [UInt8.ofNat_toNat] at hcode
    rw [List.flatMap_cons, encodeChars_append, List.append_assoc, percentDecode_codes hcode, ih,
      List.cons_append]

/-- A character below 0x80 is one byte, and only a percent sign is that of a code. -/
theorem percentDecode_plain {c : Char} (hlow : c.toNat < 0x80) (hc : c ≠ '%') (rest : Bytes) :
    percentDecode (encodeChars [c] ++ rest) = encodeChars [c] ++ percentDecode rest := by
  have hbytes : encodeChars [c] = [UInt8.ofNat c.toNat] := by
    unfold encodeChars Text.encodeChar
    simp [hlow]
  have hmark : UInt8.ofNat c.toNat ≠ 0x25 := by
    intro h
    have hvalue : c.toNat = 0x25 := by
      have hnat := congrArg UInt8.toNat h
      rwa [Text.toNat_byte (by omega)] at hnat
    exact hc (Char.toNat_inj.1 hvalue)
  rw [hbytes]
  exact percentDecode_cons hmark rest

/-- **What is percent-coded is read back**, if percent signs are coded as well. -/
theorem percentDecode_percentEncode {set : Char → Bool} (hset : set '%') (cs : List Char) :
    percentDecode (encodeChars (percentEncode set cs)) = encodeChars cs := by
  induction cs with
  | nil => rfl
  | cons c rest ih =>
    have hcons : percentEncode set (c :: rest) = percentChar set c ++ percentEncode set rest := rfl
    have hchar : encodeChars (c :: rest) = encodeChars [c] ++ encodeChars rest :=
      encodeChars_append [c] rest
    rw [hcons, hchar, encodeChars_append]
    by_cases hcoded : 0x80 ≤ c.toNat || set c
    · have hone : encodeChars [c] = Text.encodeChar c := List.append_nil _
      unfold percentChar
      rw [if_pos hcoded, percentDecode_percentBytes, ih, hone]
    · have hplain := hcoded
      rw [Bool.or_eq_true, not_or, decide_eq_true_iff, Nat.not_le] at hplain
      have hc : c ≠ '%' := by
        rintro rfl
        exact hplain.2 hset
      unfold percentChar
      rw [if_neg hcoded, percentDecode_plain hplain.1 hc, ih]

/-- **A segment is read back** as the characters that it was written for. -/
theorem segmentText_percentEncode (special : Bool) (cs : List Char) :
    segmentText (String.ofList (percentEncode (inSegmentSet special) cs)) = String.ofList cs := by
  have hset : inSegmentSet special '%' := by cases special <;> rfl
  have htext := Text.decodeLossy_utf8 (String.ofList cs)
  unfold Text.utf8 at htext
  rw [String.toList_ofList] at htext
  unfold segmentText
  rw [String.toList_ofList, percentDecode_percentEncode hset, htext]

/-! ## Whole segments -/

/-- The segment is written as it is: it is no dots, and nothing of it is dropped. -/
def IsWhole (s : String) : Prop := s ≠ "." ∧ s ≠ ".." ∧ s.toList.all fun c => !isDropped c

instance (s : String) : Decidable (IsWhole s) := inferInstanceAs (Decidable (_ ∧ _ ∧ _))

/-- The segments that others are added to: none if there is but an empty one. -/
def keptBase (parts : List String) : List String := if isRoot parts then [] else parts

/-- The segments of a path that others are added to, which leaves out an empty one at its end. -/
def stem (u : Url) : List String :=
  match u.path with
  | .segments parts => keptBase (dropEmptyEnd parts)
  | .rootless _ => []

/-- The segments with more of them added in order. -/
def addedTo (special : Bool) (parts added : List String) : List String :=
  added.foldl (pushSegment special false) parts

/-- The segment as it is written. -/
def writtenSegment (special : Bool) (s : String) : String :=
  String.ofList (percentEncode (inSegmentSet special) s.toList)

theorem segmentText_writtenSegment (special : Bool) (s : String) :
    segmentText (writtenSegment special s) = s := by
  unfold writtenSegment
  rw [segmentText_percentEncode, String.ofList_toList]

theorem filter_of_isWhole {s : String} (h : IsWhole s) :
    (s.toList.filter fun c => !isDropped c) = s.toList := by
  rw [List.filter_eq_self]
  exact List.all_eq_true.1 h.2.2

theorem pushSegment_of_isWhole (special : Bool) {s : String} (h : IsWhole s)
    (parts : List String) :
    pushSegment special false parts s = keptBase parts ++ [writtenSegment special s] := by
  have hfilter := filter_of_isWhole h
  have hdot : s.toList ≠ ['.'] := fun heq => h.1 (String.toList_inj.1 heq)
  have hdots : s.toList ≠ ['.', '.'] := fun heq => h.2.1 (String.toList_inj.1 heq)
  unfold pushSegment
  simp only [h.1, h.2.1, hfilter, beq_iff_eq, hdot, hdots, trimFront]
  rfl

theorem isRoot_concat {parts : List String} (h : isRoot parts = false) (s : String) :
    isRoot (parts ++ [s]) = false := by
  cases parts with
  | nil => cases h
  | cons first rest => cases rest <;> simp [isRoot]

/-- **Whole segments are added as they are**, once there is a segment. -/
theorem addedTo_of_isWhole {special : Bool} {parts added : List String}
    (hparts : isRoot parts = false) (h : ∀ s ∈ added, IsWhole s) :
    addedTo special parts added = parts ++ added.map (writtenSegment special) := by
  induction added generalizing parts with
  | nil => exact (List.append_nil parts).symm
  | cons s rest ih =>
    have hkept : keptBase parts = parts := by
      unfold keptBase
      rw [hparts]
      rfl
    have hpush := pushSegment_of_isWhole special (h s List.mem_cons_self) parts
    rw [hkept] at hpush
    have hrest := ih (isRoot_concat hparts (writtenSegment special s))
      fun t ht => h t (List.mem_cons_of_mem _ ht)
    unfold addedTo at hrest ⊢
    rw [List.foldl_cons, hpush, hrest, List.append_assoc]
    rfl

/-- The first segment that is added takes the place of an empty path. -/
theorem addedTo_cons {special : Bool} {s : String} (hs : IsWhole s) (parts rest : List String) :
    addedTo special parts (s :: rest) =
      addedTo special (keptBase parts ++ [writtenSegment special s]) rest := by
  unfold addedTo
  rw [List.foldl_cons, pushSegment_of_isWhole special hs]

theorem isRoot_first (special : Bool) {s : String} (hs : s ≠ "") (parts : List String) :
    isRoot (keptBase parts ++ [writtenSegment special s]) = false := by
  have hwritten : writtenSegment special s ≠ "" := by
    intro hempty
    have htext := segmentText_writtenSegment special s
    rw [hempty] at htext
    exact hs htext.symm
  unfold keptBase
  by_cases hroot : isRoot parts
  · rw [if_pos hroot]
    simp [isRoot, hwritten]
  · rw [if_neg hroot]
    exact isRoot_concat (Bool.not_eq_true _ ▸ hroot) _

/-! ## What is left out -/

/-- The characters of the texts, and a slash for each. -/
def textWeight : List String → Nat
  | [] => 0
  | s :: rest => s.length + 1 + textWeight rest

/-- The characters that the segments stand for, and a slash for each. -/
def weight (parts : List String) : Nat := textWeight (parts.map segmentText)

theorem textWeight_append (texts more : List String) :
    textWeight (texts ++ more) = textWeight texts + textWeight more := by
  induction texts with
  | nil => exact (Nat.zero_add _).symm
  | cons s rest ih =>
    rw [List.cons_append, textWeight, textWeight, ih]
    omega

theorem weight_append (parts more : List String) :
    weight (parts ++ more) = weight parts + weight more := by
  unfold weight
  rw [List.map_append, textWeight_append]

theorem weight_shorten_le (parts : List String) : weight (shorten false parts) ≤ weight parts := by
  induction parts with
  | nil => exact Nat.le_refl _
  | cons s rest ih =>
    cases rest with
    | nil => exact Nat.zero_le _
    | cons next more =>
      have hshorten : shorten false (s :: next :: more) = [s] ++ shorten false (next :: more) := rfl
      have hcons : s :: next :: more = [s] ++ (next :: more) := rfl
      rw [hshorten, hcons, weight_append, weight_append]
      omega

theorem weight_keptBase_le (parts : List String) : weight (keptBase parts) ≤ weight parts := by
  unfold keptBase
  split
  · exact Nat.zero_le _
  · exact Nat.le_refl _

theorem weight_written (special : Bool) (cs : List Char) :
    weight [String.ofList (percentEncode (inSegmentSet special) cs)] = cs.length + 1 := by
  unfold weight
  rw [List.map_singleton, segmentText_percentEncode, textWeight, String.length_ofList]
  rfl

/-- What is dropped of a segment that is no dots shows in its length. -/
theorem length_filter_lt {s : String} (h : ¬ (s = "." ∨ s = "..")) (hwhole : ¬ IsWhole s) :
    (s.toList.filter fun c => !isDropped c).length < s.length := by
  rw [not_or] at h
  have hdropped : ∃ c ∈ s.toList, isDropped c := by
    have hsome : ¬ s.toList.all fun c => !isDropped c := fun hnone => hwhole ⟨h.1, h.2, hnone⟩
    simpa using hsome
  obtain ⟨c, hc, hdrop⟩ := hdropped
  rw [← String.length_toList, List.length_filter_lt_length_iff_exists]
  exact ⟨c, hc, by simp [hdrop]⟩

theorem pushSegment_of_dots {special : Bool} {s : String} (h : s = "." ∨ s = "..")
    (parts : List String) : pushSegment special false parts s = parts := by
  unfold pushSegment
  rw [if_pos (by simpa using h)]

/-- A segment adds no more than the characters that are left of it. -/
theorem weight_pushSegment_le (special : Bool) {s : String} (h : ¬ (s = "." ∨ s = ".."))
    (parts : List String) :
    weight (pushSegment special false parts s) ≤
      weight parts + ((s.toList.filter fun c => !isDropped c).length + 1) := by
  have hempty : weight [""] = 1 := rfl
  have hkept := weight_keptBase_le parts
  have hup := weight_shorten_le (keptBase parts)
  unfold pushSegment
  rw [if_neg (by simpa using h)]
  generalize s.toList.filter (fun c => !isDropped c) = cs
  show weight (if cs == ['.', '.'] then shorten false (keptBase parts) ++ [""]
    else if cs == ['.'] then keptBase parts ++ [""]
    else keptBase parts ++ [String.ofList (percentEncode (inSegmentSet special) cs)]) ≤ _
  split
  · rw [weight_append]
    omega
  split
  · rw [weight_append]
    omega
  · rw [weight_append, weight_written]
    omega

/-- **A segment that is not whole adds less than its own characters**, and none adds more. -/
theorem weight_pushSegment (special : Bool) (parts : List String) (s : String) :
    weight (pushSegment special false parts s) ≤ weight parts + (s.length + 1) ∧
      (¬ IsWhole s →
        weight (pushSegment special false parts s) < weight parts + (s.length + 1)) := by
  by_cases hdots : s = "." ∨ s = ".."
  · rw [pushSegment_of_dots hdots]
    omega
  · have hpush := weight_pushSegment_le special hdots parts
    have hle : (s.toList.filter fun c => !isDropped c).length ≤ s.length := by
      rw [← String.length_toList]
      exact List.length_filter_le _ _
    have hlt := length_filter_lt hdots
    constructor
    · omega
    · intro hwhole
      have hless := hlt hwhole
      omega

theorem weight_addedTo_le (special : Bool) (parts added : List String) :
    weight (addedTo special parts added) ≤ weight parts + textWeight added := by
  induction added generalizing parts with
  | nil => exact Nat.le_refl _
  | cons s rest ih =>
    have hfirst := (weight_pushSegment special parts s).1
    have hrest := ih (pushSegment special false parts s)
    have htext : textWeight (s :: rest) = s.length + 1 + textWeight rest := rfl
    have hadded : addedTo special parts (s :: rest) =
        addedTo special (pushSegment special false parts s) rest := rfl
    rw [hadded]
    omega

/-- **Segments that are not whole leave something out.** -/
theorem weight_addedTo_lt (special : Bool) (parts : List String) {added : List String}
    (h : ∃ s ∈ added, ¬ IsWhole s) :
    weight (addedTo special parts added) < weight parts + textWeight added := by
  induction added generalizing parts with
  | nil => simp at h
  | cons s rest ih =>
    have hfirst := weight_pushSegment special parts s
    have htext : textWeight (s :: rest) = s.length + 1 + textWeight rest := rfl
    have hadded : addedTo special parts (s :: rest) =
        addedTo special (pushSegment special false parts s) rest := rfl
    rw [hadded]
    by_cases hwhole : IsWhole s
    · have hother : ∃ t ∈ rest, ¬ IsWhole t := by
        obtain ⟨t, ht, hnot⟩ := h
        rcases List.mem_cons.1 ht with rfl | ht
        · exact absurd hwhole hnot
        · exact ⟨t, ht, hnot⟩
      have hrest := ih (pushSegment special false parts s) hother
      omega
    · have hless := hfirst.2 hwhole
      have hrest := weight_addedTo_le special (pushSegment special false parts s) rest
      omega

/-! ## Paths -/

/-- **Texts that are added to a path are its last segments** exactly when each of them is whole. -/
theorem addedTo_faithful_iff (special : Bool) (parts : List String) {s : String}
    {rest : List String} (hs : IsWhole s) (hne : s ≠ "") :
    (∃ last, addedTo special parts (s :: rest) = keptBase parts ++ last ∧
        last.map segmentText = s :: rest) ↔ ∀ t ∈ rest, IsWhole t := by
  have hroot := isRoot_first special hne parts
  rw [addedTo_cons hs]
  constructor
  · rintro ⟨last, hlast, htexts⟩ t ht
    -- the path has all the characters that were given for it, so none was left out
    refine Decidable.byContradiction fun hnot => ?_
    have hless := weight_addedTo_lt special (keptBase parts ++ [writtenSegment special s])
      ⟨t, ht, hnot⟩
    have hfirst : weight [writtenSegment special s] = s.length + 1 := by
      unfold weight
      rw [List.map_singleton, segmentText_writtenSegment]
      rfl
    have htotal : weight last = textWeight (s :: rest) := congrArg textWeight htexts
    have htext : textWeight (s :: rest) = s.length + 1 + textWeight rest := rfl
    rw [hlast, weight_append, weight_append] at hless
    omega
  · intro hrest
    refine ⟨writtenSegment special s :: rest.map (writtenSegment special), ?_, ?_⟩
    · rw [addedTo_of_isWhole hroot hrest, List.append_assoc]
      rfl
    · have hwritten : segmentText ∘ writtenSegment special = id :=
        funext (segmentText_writtenSegment special)
      rw [List.map_cons, segmentText_writtenSegment, List.map_map, hwritten, List.map_id]

end AccessSync.Url
