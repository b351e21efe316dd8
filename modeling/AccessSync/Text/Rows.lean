/-!
# Tables written as text

A table of numbers as rows of hexadecimal digits: a full stop parts the numbers of a row, blanks
and ends of lines part the rows. A row of a table of ranges is one number, or the first and the
last of consecutive ones.
-/

namespace AccessSync.Text

/-- The value of a hexadecimal digit. -/
def rowDigit (c : Char) : Nat :=
  if c ≤ '9' then c.toNat - '0'.toNat else c.toNat - 'A'.toNat + 10

/-- The rows up to a character, given those before it, both newest first. -/
def extendRows (table : List (List Nat)) (c : Char) : List (List Nat) :=
  if c = ' ' ∨ c = '\n' then [] :: table
  else match table with
    | [] => [[rowDigit c]]
    | [] :: earlier => [rowDigit c] :: earlier
    | (n :: numbers) :: earlier =>
      if c = '.' then (0 :: n :: numbers) :: earlier
      else ((n * 16 + rowDigit c) :: numbers) :: earlier

/-- The rows of a table. -/
def rows (s : String) : List (List Nat) :=
  (s.toList.foldl extendRows []).foldl
    (fun table row => if row.isEmpty then table else row.reverse :: table) []

/-- The ranges of a table, each with its first and its last number. -/
def ranges (s : String) : List (Nat × Nat) :=
  (rows s).filterMap fun
    | [n] => some (n, n)
    | [first, last] => some (first, last)
    | _ => none

/-- The character is in one of the ranges. -/
def inRanges (table : List (Nat × Nat)) (c : Char) : Bool :=
  table.any fun (first, last) => first ≤ c.toNat && c.toNat ≤ last

example : rows "A.1F 0\n  10.2.30" = [[10, 31], [0], [16, 2, 48]] := by decide +kernel

end AccessSync.Text
