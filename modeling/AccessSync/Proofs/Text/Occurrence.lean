import AccessSync.Text.Segment

/-!
# What occurs behind a beginning

A text is often made of a fixed beginning and of something that comes from elsewhere. What occurs in
it is then told by the rest, as long as nothing of it begins in the fixed part.

* `passesOver`: no occurrence begins in a text, whatever follows.
* `contains_append`: what occurs behind such a text.
-/

namespace AccessSync.Text

/-- No occurrence of the part begins in these characters, whatever follows them. -/
def passesOver (part : List Char) : List Char → Bool
  | [] => true
  | c :: cs => !part.isPrefixOf (c :: cs) && !(c :: cs).isPrefixOf part && passesOver part cs

theorem occursIn_append_of_passesOver {part start : List Char} (h : passesOver part start)
    (cs : List Char) : occursIn part (start ++ cs) = occursIn part cs := by
  induction start with
  | nil => rfl
  | cons c rest ih =>
    unfold passesOver at h
    simp only [Bool.and_eq_true, Bool.not_eq_true'] at h
    obtain ⟨⟨hshort, hlong⟩, hrest⟩ := h
    -- an occurrence here would end in the characters, or begin with all of them
    have hnone : part.isPrefixOf (c :: rest ++ cs) = false := by
      rw [Bool.eq_false_iff, ne_eq, List.isPrefixOf_iff_prefix]
      intro hoccurs
      rcases List.prefix_or_prefix_of_prefix hoccurs (List.prefix_append (c :: rest) cs) with h | h
      · rw [← List.isPrefixOf_iff_prefix, hshort] at h
        cases h
      · rw [← List.isPrefixOf_iff_prefix, hlong] at h
        cases h
    rw [List.cons_append] at hnone ⊢
    rw [occursIn, hnone, Bool.false_or, ih hrest]

/-- An occurrence begins with its first character. -/
theorem passesOver_of_not_mem {c : Char} {part start : List Char} (h : c ∉ start) :
    passesOver (c :: part) start := by
  induction start with
  | nil => rfl
  | cons d rest ih =>
    rw [List.mem_cons, not_or] at h
    have hhere : (c == d) = false := beq_false_of_ne h.1
    have hthere : (d == c) = false := beq_false_of_ne (Ne.symm h.1)
    unfold passesOver
    simp [List.isPrefixOf, hhere, hthere, ih h.2]

/-- A character that the part does not have ends what it can be the start of. -/
theorem isPrefixOf_append_cons {c : Char} {part : List Char} (h : c ∉ part)
    (start rest : List Char) : part.isPrefixOf (start ++ c :: rest) = part.isPrefixOf start := by
  induction part generalizing start with
  | nil => rfl
  | cons d more ih =>
    rw [List.mem_cons, not_or] at h
    cases start with
    | nil =>
      have hother : (d == c) = false := beq_false_of_ne (Ne.symm h.1)
      simp [List.isPrefixOf, hother]
    | cons e start => simp only [List.cons_append, List.isPrefixOf, ih h.2 start]

/-- **What occurs behind a text** that nothing of it begins in occurs after it. -/
theorem contains_append (start : String) {part : String}
    (h : passesOver part.toList start.toList) (s : String) :
    contains (start ++ s) part = contains s part := by
  unfold contains
  rw [String.toList_append, occursIn_append_of_passesOver h]

end AccessSync.Text
