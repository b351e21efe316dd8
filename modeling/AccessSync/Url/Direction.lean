import AccessSync.Url.DirectionTable

/-!
# Direction of labels

A name with characters written from right to left can be read only if each of its labels runs in
one direction. A label runs in the direction of its first character, which decides what else it
may hold and how it may end.
-/

namespace AccessSync.Url

/-- How a character is placed among others. -/
inductive Direction
  | leftToRight
  | rightToLeft
  | arabicNumber
  | europeanNumber
  | neutral
  | nonspacing
  deriving DecidableEq

/-- The tables of the directions. -/
def directionTables : List (Direction × List (Nat × Nat)) :=
  [(.rightToLeft, rightToLeftRanges), (.arabicNumber, arabicNumberRanges),
    (.europeanNumber, europeanNumberRanges), (.neutral, neutralRanges),
    (.nonspacing, nonspacingRanges)]

/-- The direction of a character. -/
def Direction.of (c : Char) : Direction :=
  match directionTables.find? fun (_, table) => Text.inRanges table c with
  | some (d, _) => d
  | none => .leftToRight

/-- The character makes its name one with right-to-left characters. -/
def isRightToLeft (c : Char) : Bool :=
  if c.toNat < 0x590 then false
  else Direction.of c == .rightToLeft || Direction.of c == .arabicNumber

/-- What a label that runs in direction `base` may end in, marks apart. -/
def Direction.mayEnd (base : Direction) : Direction → Bool
  | .neutral | .nonspacing => false
  | .europeanNumber => true
  | .arabicNumber => base == .rightToLeft
  | d => d == base

/-- What a label that runs in direction `base` may hold. -/
def Direction.mayHold (base : Direction) : Direction → Bool
  | .neutral | .nonspacing => true
  | d => base.mayEnd d

/-- The directions of a label's characters make it run in one direction. Both kinds of number in
one label would not. -/
def runsOneWay : List Direction → Bool
  | [] => true
  | first :: rest =>
    (first == .leftToRight || first == .rightToLeft) &&
      match rest.reverse.dropWhile (· == .nonspacing) with
      | [] => true
      | last :: before =>
        let inner := last :: before
        first.mayEnd last && before.all first.mayHold &&
          !(inner.contains .arabicNumber && inner.contains .europeanNumber)

/-- The labels can be read as a name: they have no right-to-left characters, or each runs in one
direction. -/
def areReadable (labels : List (List Char)) : Bool :=
  if labels.any (·.any isRightToLeft) then
    labels.all fun label => runsOneWay (label.map Direction.of)
  else true

end AccessSync.Url
