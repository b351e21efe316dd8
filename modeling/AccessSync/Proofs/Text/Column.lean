import AccessSync.Proofs.Text.Segment
import AccessSync.Text.Column

/-!
# Words in columns

What fills a column are spaces around its cell. So the words of a line are those of its cells,
however wide the columns are.

* `words`: what stands between the spaces of a text.
* `words_alignLeft`, `words_alignRight`: a column has the words of its cell.
* `words_joinWith`: a line has the words of its columns.
-/

namespace AccessSync.Text

/-- The words of a text: what stands between its spaces. -/
def words (s : String) : List String := (segments ' ' s).filter (· ≠ "")

theorem words_append_space (s rest : String) :
    words (s ++ " " ++ rest) = words s ++ words rest := by
  unfold words
  rw [← List.filter_append]
  exact congrArg (List.filter _) (segments_append_separator ' ' s rest)

/-- A text without spaces is one word. -/
theorem words_of_not_mem {s : String} (h : ' ' ∉ s.toList) (hne : s ≠ "") : words s = [s] := by
  unfold words
  rw [segments_of_not_mem h]
  exact List.filter_cons_of_pos (decide_eq_true hne)

/-! ## Columns -/

theorem words_spaces (n : Nat) : words (String.ofList (List.replicate n ' ')) = [] := by
  induction n with
  | zero => rfl
  | succ n ih =>
    have hfirst : String.ofList (List.replicate (n + 1) ' ') =
        "" ++ " " ++ String.ofList (List.replicate n ' ') := by
      rw [List.replicate_succ, String.ofList_cons]
      rfl
    rw [hfirst, words_append_space, ih]
    rfl

/-- A cell at the left of its column. -/
theorem words_alignLeft (width : Nat) (cell : String) :
    words (alignLeft width cell) = words cell := by
  unfold alignLeft
  cases width - cell.length with
  | zero => exact congrArg words (String.append_empty)
  | succ n =>
    have hspace : cell ++ String.ofList (List.replicate (n + 1) ' ') =
        cell ++ " " ++ String.ofList (List.replicate n ' ') := by
      rw [List.replicate_succ, String.ofList_cons, String.append_assoc]
      rfl
    rw [hspace, words_append_space, words_spaces, List.append_nil]

/-- A cell at the right of its column. -/
theorem words_alignRight (width : Nat) (cell : String) :
    words (alignRight width cell) = words cell := by
  unfold alignRight
  cases width - cell.length with
  | zero => exact congrArg words (String.empty_append)
  | succ n =>
    have hspace : String.ofList (List.replicate (n + 1) ' ') ++ cell =
        String.ofList (List.replicate n ' ') ++ " " ++ cell := by
      rw [List.replicate_succ', String.ofList_append]
    rw [hspace, words_append_space, words_spaces, List.nil_append]

/-- **The words of a line** are those of its columns. -/
theorem words_joinWith (columns : List String) :
    words (joinWith " " columns) = columns.flatMap words := by
  induction columns with
  | nil => rfl
  | cons column rest ih =>
    cases rest with
    | nil => exact (List.flatMap_singleton words column).symm
    | cons next more =>
      have hjoin : joinWith " " (column :: next :: more) =
          column ++ " " ++ joinWith " " (next :: more) := rfl
      rw [hjoin, words_append_space, ih]
      exact List.flatMap_cons.symm

/-! ## Numbers -/

/-- A number is one word: its digits. -/
theorem words_toString (n : Nat) : words (toString n) = [toString n] := by
  rw [Nat.toString_eq_repr]
  apply words_of_not_mem
  · rw [Nat.toList_repr]
    intro hmem
    exact absurd (Nat.isDigit_of_mem_toDigits (by decide) (by decide) hmem) (by decide)
  · intro hempty
    have hnil := congrArg String.toList hempty
    rw [Nat.toList_repr] at hnil
    exact Nat.toDigits_ne_nil hnil

end AccessSync.Text
