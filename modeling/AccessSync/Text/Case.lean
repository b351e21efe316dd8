import AccessSync.Text.CaseTable

/-!
# Letter case

Every character is mapped to its full lower-case or upper-case form, one character at a time; the
mapping does not look at the neighbours.
-/

namespace AccessSync.Text

/-- The image of `n` under the first run that has it. -/
def runImage? (runs : List (Nat × Nat × Nat × Int)) (n : Nat) : Option Nat :=
  match runs.find? fun (first, last, step, _) =>
      first ≤ n && n ≤ last && (n - first) % step == 0 with
  | some (_, _, _, offset) => some (n + offset).toNat
  | none => none

/-- The form of a character under a table of sequences and a table of runs. -/
def mapChar (sequences : List (Nat × List Nat)) (runs : List (Nat × Nat × Nat × Int))
    (c : Char) : List Char :=
  match sequences.lookup c.toNat with
  | some image => image.map Char.ofNat
  | none =>
    match runImage? runs c.toNat with
    | some n => [Char.ofNat n]
    | none => [c]

/-- The lower-case form of a character. -/
def lowerChar (c : Char) : List Char := mapChar lowerSequences lowerRuns c

/-- The upper-case form of a character. -/
def upperChar (c : Char) : List Char := mapChar upperSequences upperRuns c

/-- The text with every character in lower case. -/
def lower (s : String) : String := String.ofList (s.toList.flatMap lowerChar)

/-- The text with its first character in upper case and the others as they are. -/
def capitalize (s : String) : String :=
  match s.toList with
  | [] => ""
  | c :: cs => String.ofList (upperChar c ++ cs)

end AccessSync.Text
