/-!
# Natural numbers in decimal

Reading a bounded natural number: an optional `+`, then at least one ASCII digit. Three things can
be wrong with a text, and the first one met from the left is reported.
-/

namespace AccessSync.Text

/-- Why a text is no natural number within its bound. -/
inductive NaturalError
  | noDigits
  | invalidDigit
  | tooLarge
deriving Repr, DecidableEq

def NaturalError.message : NaturalError → String
  | .noDigits => "cannot parse integer from empty string"
  | .invalidDigit => "invalid digit found in string"
  | .tooLarge => "number too large to fit in target type"

/-- The value of an ASCII digit. -/
def digit? (c : Char) : Option Nat :=
  if '0' ≤ c ∧ c ≤ '9' then some (c.toNat - '0'.toNat) else none

/-- Reads digits after those that gave `acc`, as long as the number stays within `bound`. -/
def readDigits (bound acc : Nat) : List Char → Except NaturalError Nat
  | [] => .ok acc
  | c :: cs =>
    match digit? c with
    | none => .error .invalidDigit
    | some d =>
      if bound < acc * 10 + d then .error .tooLarge else readDigits bound (acc * 10 + d) cs

/-- The natural number a text stands for, at most `bound`. -/
def readNatural (bound : Nat) (s : String) : Except NaturalError Nat :=
  match s.toList with
  | [] => .error .noDigits
  | ['+'] => .error .invalidDigit
  | '+' :: cs => readDigits bound 0 cs
  | cs => readDigits bound 0 cs

/-- A natural number of 32 bits. -/
def readWord32 (s : String) : Except NaturalError UInt32 :=
  (readNatural (UInt32.size - 1) s).map UInt32.ofNat

/-- A natural number of 64 bits. -/
def readWord64 (s : String) : Except NaturalError UInt64 :=
  (readNatural (UInt64.size - 1) s).map UInt64.ofNat

end AccessSync.Text
