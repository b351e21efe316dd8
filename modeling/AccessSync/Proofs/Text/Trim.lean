import AccessSync.Text.Blank
import Mathlib.Data.List.DropRight
import Mathlib.Data.List.TakeWhile

/-!
# Blanks around a text

What trimming takes away is blank, and what it leaves begins and ends with no blank. So a text is
told from the blanks around it in one way only, and blanks added to its ends are never seen.

* `stripBoth_pad`: what stands at the ends of a list goes.
* `trim_pad`: blanks around a text do not change what is left of it.
* `exists_pad`: a text is what is left of it with blanks around.
-/

namespace AccessSync.Text

section
variable {p : Char → Bool} {cs before after : List Char}

/-- Both ends lose the same way: the second one is the first of the list read backwards. -/
theorem stripBoth_eq_rdropWhile (p : Char → Bool) (cs : List Char) :
    stripBoth p cs = (cs.dropWhile p).rdropWhile p := rfl

theorem stripBoth_eq_nil_iff : stripBoth p cs = [] ↔ ∀ c ∈ cs, p c := by
  rw [stripBoth_eq_rdropWhile, List.rdropWhile_eq_nil_iff]
  constructor
  · intro h
    rw [← List.dropWhile_eq_nil_iff]
    -- what is left begins with a character that would have gone, unless nothing is left
    cases hcs : cs.dropWhile p with
    | nil => rfl
    | cons c rest =>
      have hstop := List.head?_dropWhile_not p cs
      rw [hcs] at h hstop
      have hgo : p c = true := h c List.mem_cons_self
      exact absurd hgo (by simpa using hstop)
  · intro h
    rw [List.dropWhile_eq_nil_iff.2 h]
    exact fun c hc => absurd hc List.not_mem_nil

/-- **What stands at the ends** of a list goes with what goes from it anyway. -/
theorem stripBoth_pad (hbefore : ∀ c ∈ before, p c) (hafter : ∀ c ∈ after, p c) :
    stripBoth p (before ++ cs ++ after) = stripBoth p cs := by
  unfold stripBoth
  rw [List.append_assoc, List.dropWhile_append_of_pos hbefore, List.dropWhile_append]
  split
  · rename_i hnone
    have hcs : cs.dropWhile p = [] := List.isEmpty_iff.1 hnone
    rw [hcs, List.dropWhile_eq_nil_iff.2 hafter]
  · have hback : ∀ c ∈ after.reverse, p c := fun c hc => hafter c (List.mem_reverse.1 hc)
    rw [List.reverse_append, List.dropWhile_append_of_pos hback]

/-- What goes from a list stands at its ends. -/
theorem exists_strip (p : Char → Bool) (cs : List Char) :
    ∃ before after, (∀ c ∈ before, p c) ∧ (∀ c ∈ after, p c) ∧
      cs = before ++ stripBoth p cs ++ after := by
  refine ⟨cs.takeWhile p, ((cs.dropWhile p).reverse.takeWhile p).reverse,
    fun c hc => List.mem_takeWhile_imp hc,
    fun c hc => List.mem_takeWhile_imp (List.mem_reverse.1 hc), ?_⟩
  have hend : stripBoth p cs ++ ((cs.dropWhile p).reverse.takeWhile p).reverse =
      cs.dropWhile p := by
    unfold stripBoth
    rw [← List.reverse_append, List.takeWhile_append_dropWhile, List.reverse_reverse]
  rw [List.append_assoc, hend, List.takeWhile_append_dropWhile]

end

/-! ## Texts -/

variable {s before after : String}

theorem isBlankText_iff : isBlankText s = true ↔ ∀ c ∈ s.toList, isBlank c := List.all_eq_true

/-- A text is blank when nothing is left of it. -/
theorem trim_eq_empty_iff : trim s = "" ↔ isBlankText s = true := by
  rw [isBlankText_iff, ← stripBoth_eq_nil_iff, ← String.toList_inj]
  unfold trim
  rw [String.toList_ofList]
  rfl

/-- **Blanks around a text** do not change what is left of it. -/
theorem trim_pad (hbefore : isBlankText before = true) (hafter : isBlankText after = true) :
    trim (before ++ s ++ after) = trim s := by
  unfold trim
  rw [String.toList_append, String.toList_append,
    stripBoth_pad (isBlankText_iff.1 hbefore) (isBlankText_iff.1 hafter)]

/-- **A text** is what is left of it with blanks around. -/
theorem exists_pad (s : String) :
    ∃ before after, isBlankText before = true ∧ isBlankText after = true ∧
      s = before ++ trim s ++ after := by
  obtain ⟨before, after, hbefore, hafter, hs⟩ := exists_strip isBlank s.toList
  refine ⟨String.ofList before, String.ofList after, ?_, ?_, ?_⟩
  · rw [isBlankText_iff, String.toList_ofList]
    exact hbefore
  · rw [isBlankText_iff, String.toList_ofList]
    exact hafter
  · rw [← String.toList_inj]
    unfold trim
    simpa using hs

/-- Trimming again changes nothing. -/
theorem trim_trim (s : String) : trim (trim s) = trim s := by
  obtain ⟨before, after, hbefore, hafter, hs⟩ := exists_pad s
  have htrim : trim s = trim (trim s) := by
    conv_lhs => rw [hs]
    exact trim_pad hbefore hafter
  exact htrim.symm

theorem mem_of_mem_trim {c : Char} (h : c ∈ (trim s).toList) : c ∈ s.toList := by
  obtain ⟨before, after, -, -, hs⟩ := exists_pad s
  rw [hs, String.toList_append, String.toList_append]
  exact List.mem_append_left _ (List.mem_append_right _ h)

end AccessSync.Text
