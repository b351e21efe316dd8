import AccessSync.Text.CompositeTable
import AccessSync.Text.Mark

/-!
# Composed text

The same letter with the same marks can be written as one character or as several, and the marks
in several orders. All these texts have one composed form: composites are taken apart, marks put
in the order of their classes, and a character becomes one with each mark that it has a composite
with. Characters that are mere duplicates of others are not looked for.

* `composed_eq_self_of_low`: text without combining characters is its own composed form.
-/

namespace AccessSync.Text

/-! ## Taking apart -/

/-- The characters that make up `n`, under composites each of which stands before the ones that
it extends. -/
def partsIn : List (List Nat) → Nat → List Nat
  | [composite, base, mark] :: rest, n =>
    if n = composite then partsIn rest base ++ [mark] else partsIn rest n
  | _ :: rest, n => partsIn rest n
  | [], n => [n]

/-- A character and its marks, one by one. Hangul syllables stay whole: their parts would meet
again in the same syllable. -/
def parts (c : Char) : List Char :=
  if c.toNat < 0xC0 then [c] else (partsIn compositeRows c.toNat).map Char.ofNat

/-! ## Order of marks -/

/-- Puts a character in front of a text whose marks are in order, behind the marks of lower
classes that the text begins with. -/
def insertMark (c : Char) : List Char → List Char
  | [] => [c]
  | d :: rest =>
    if 0 < combiningClass d ∧ combiningClass d < combiningClass c then d :: insertMark c rest
    else c :: d :: rest

/-- The text with the marks behind each character in the order of their classes. -/
def orderMarks (cs : List Char) : List Char := cs.foldr insertMark []

/-! ## Putting together -/

/-- The syllable of two Hangul letters, or of a syllable that is open and the letter that
closes it. -/
def hangul? (a b : Nat) : Option Nat :=
  if 0x1100 ≤ a ∧ a ≤ 0x1112 ∧ 0x1161 ≤ b ∧ b ≤ 0x1175 then
    some (0xAC00 + ((a - 0x1100) * 21 + (b - 0x1161)) * 28)
  else if 0xAC00 ≤ a ∧ a ≤ 0xD7A3 ∧ (a - 0xAC00) % 28 = 0 ∧ 0x11A8 ≤ b ∧ b ≤ 0x11C2 then
    some (a + (b - 0x11A7))
  else none

/-- The composite of two characters. -/
def composite? (a b : Char) : Option Char :=
  if b.toNat < 0x300 then none
  else match hangul? a.toNat b.toNat with
    | some n => some (Char.ofNat n)
    | none =>
      match compositeRows.find? (·.drop 1 = [a.toNat, b.toNat]) with
      | some (n :: _) => some (Char.ofNat n)
      | _ => none

/-- Composes what follows a character `base` and the marks `kept`, newest first, that did not
become one with it. A mark reaches the base over marks of lower classes only, and a character
that is no mark only if it is next to it. -/
def composeBehind (base : Char) (kept : List Char) : List Char → List Char
  | [] => base :: kept.reverse
  | c :: rest =>
    let reaches := match kept with
      | [] => true
      | d :: _ => combiningClass d < combiningClass c
    match if reaches then composite? base c else none with
    | some b => composeBehind b kept rest
    | none =>
      if combiningClass c = 0 then base :: kept.reverse ++ composeBehind c [] rest
      else composeBehind base (c :: kept) rest

/-- Composes a text taken apart; marks that it begins with have nothing to become one with. -/
def compose : List Char → List Char
  | [] => []
  | c :: rest => if combiningClass c = 0 then composeBehind c [] rest else c :: compose rest

/-- The composed form of a text. -/
def composed (cs : List Char) : List Char :=
  if cs.all (·.toNat < 0x300) then cs else compose (orderMarks (cs.flatMap parts))

theorem composed_eq_self_of_low {cs : List Char} (h : ∀ c ∈ cs, c.toNat < 0x300) :
    composed cs = cs := by
  have : cs.all (·.toNat < 0x300) = true := by simpa using h
  simp [composed, this]

end AccessSync.Text
