import AccessSync.Text.MarkTable

/-!
# Characters that combine

A mark belongs to the character before it. Its combining class, above zero for a mark that is
drawn around that character, tells the marks that would be drawn in the same place.
-/

namespace AccessSync.Text

/-- A mark without a width of its own. -/
def isNonspacing (c : Char) : Bool :=
  if c.toNat < 0x300 then false else inRanges nonspacingMarks c

/-- A mark. -/
def isMark (c : Char) : Bool :=
  if c.toNat < 0x300 then false else inRanges nonspacingMarks c || inRanges spacingMarks c

/-- The class under the first run that has the character, and zero under none. -/
def classIn : List (List Nat) → Char → Nat
  | [first, last, k] :: rest, c =>
    if first ≤ c.toNat ∧ c.toNat ≤ last then k else classIn rest c
  | _ :: rest, c => classIn rest c
  | [], _ => 0

/-- The combining class of a character; zero for a character that stands by itself. -/
def combiningClass (c : Char) : Nat := if c.toNat < 0x300 then 0 else classIn combiningRuns c

end AccessSync.Text
