/-!
# Blank characters

A character is blank when it has the Unicode property White_Space. `trim` removes blank characters
from both ends of a text.
-/

namespace AccessSync.Text

/-- The characters with the property White_Space. -/
def isBlank (c : Char) : Bool :=
  (0x09 ≤ c.toNat && c.toNat ≤ 0x0D) || c.toNat == 0x20 || c.toNat == 0x85 || c.toNat == 0xA0 ||
    c.toNat == 0x1680 || (0x2000 ≤ c.toNat && c.toNat ≤ 0x200A) || c.toNat == 0x2028 ||
    c.toNat == 0x2029 || c.toNat == 0x202F || c.toNat == 0x205F || c.toNat == 0x3000

/-- The list without the elements satisfying `p` at its two ends. -/
def stripBoth (p : Char → Bool) (cs : List Char) : List Char :=
  ((cs.dropWhile p).reverse.dropWhile p).reverse

/-- The text without the blank characters at its two ends. -/
def trim (s : String) : String := String.ofList (stripBoth isBlank s.toList)

/-- No character but blank ones: what `trim` leaves nothing of. -/
def isBlankText (s : String) : Bool := s.toList.all isBlank

end AccessSync.Text
