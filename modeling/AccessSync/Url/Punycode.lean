/-!
# Punycode

Labels beyond ASCII as ASCII letters and digits: the ASCII characters first, then, as numbers of
variable length, where the other characters stand and which they are.
-/

namespace AccessSync.Url.Punycode

/-- The digit of a number below 36. -/
def digit (n : Nat) : Char :=
  if n < 26 then Char.ofNat ('a'.toNat + n) else Char.ofNat ('0'.toNat + (n - 26))

/-- The number of a digit. -/
def digitValue? (c : Char) : Option Nat :=
  if 'a' ≤ c ∧ c ≤ 'z' then some (c.toNat - 'a'.toNat)
  else if 'A' ≤ c ∧ c ≤ 'Z' then some (c.toNat - 'A'.toNat)
  else if '0' ≤ c ∧ c ≤ '9' then some (c.toNat - '0'.toNat + 26)
  else none

/-- The threshold of the digit at distance `k` under a bias. -/
def threshold (k bias : Nat) : Nat := min 26 (max 1 (k - bias))

/-- The bias that a difference leads to: how often it can be divided, and what is left. -/
def biasOf (k delta : Nat) : Nat :=
  if h : 455 < delta then biasOf (k + 36) (delta / 35) else k + 36 * delta / (delta + 38)
termination_by delta
decreasing_by omega

/-- The bias after a difference among `length` characters. -/
def adapt (delta length : Nat) (first : Bool) : Nat :=
  let scaled := if first then delta / 700 else delta / 2
  biasOf 0 (scaled + scaled / length)

/-- A difference in digits, from distance `k` on. -/
def encodeNumber (bias k q : Nat) : List Char :=
  let t := threshold k bias
  if h : t ≤ q ∧ t < 36 ∧ 1 ≤ t then
    digit (t + (q - t) % (36 - t)) :: encodeNumber bias (k + 36) ((q - t) / (36 - t))
  else [digit q]
termination_by q
decreasing_by
  have : (q - threshold k bias) / (36 - threshold k bias) ≤ q - threshold k bias :=
    Nat.div_le_self _ _
  omega

/-- The characters beyond ASCII in the order in which they are inserted, each with the number of
characters that are there before it when its turn comes. -/
def insertions (codes : List Nat) : List (Nat × Nat) :=
  let special := codes.zipIdx.filter fun (n, _) => 0x80 ≤ n
  (special.mergeSort fun a b => a.1 ≤ b.1).map fun (n, at_) =>
    (n, (codes.take at_).countP (· ≤ n))

/-- The insertions in digits, into `length` characters. A number says how many insertions would be
possible before this one, from `code` at `place` on: each character at each place in turn. -/
def encodeInsertions (bias length code place : Nat) (first : Bool) : List (Nat × Nat) → List Char
  | [] => []
  | (n, at_) :: rest =>
    let delta := (n - code) * (length + 1) + at_ - place
    encodeNumber bias 36 delta ++
      encodeInsertions (adapt delta (length + 1) first) (length + 1) n (at_ + 1) false rest

/-- The ASCII form of a label. -/
def encode (label : List Char) : List Char :=
  let plain := label.filter (·.toNat < 0x80)
  let start := if plain.isEmpty then [] else plain ++ ['-']
  start ++ encodeInsertions 72 plain.length 0x80 0 true (insertions (label.map Char.toNat))

/-- Progress of a decoding: the characters so far, the one to insert next, where, and the number
being read. -/
structure Reader where
  out : List Nat
  code : Nat
  place : Nat
  bias : Nat
  start : Nat
  weight : Nat
  distance : Nat

/-- Numbers stay below this one. -/
def numberBound : Nat := UInt32.size

/-- One digit. -/
def Reader.step (r : Reader) (c : Char) : Option Reader :=
  match digitValue? c with
  | none => none
  | some d =>
    let place := r.place + d * r.weight
    let t := threshold r.distance r.bias
    if numberBound ≤ place then none
    else if d < t then
      let length := r.out.length + 1
      let code := r.code + place / length
      let at_ := place % length
      if 0x110000 ≤ code || (0xD800 ≤ code && code < 0xE000) then none
      else some ⟨r.out.take at_ ++ code :: r.out.drop at_, code, at_ + 1,
        adapt (place - r.start) length (r.start = 0), at_ + 1, 1, 36⟩
    else if numberBound ≤ r.weight * (36 - t) then none
    else some { r with place := place, weight := r.weight * (36 - t), distance := r.distance + 36 }

/-- What stands before the last hyphen, and what stands after it; a hyphen with nothing before it
parts nothing. -/
def cutLast (cs : List Char) : List Char × List Char :=
  let tail := cs.reverse.takeWhile (· != '-')
  match (cs.take (cs.length - tail.length)).dropLast with
  | [] => ([], cs)
  | plain => (plain, tail.reverse)

/-- The label of an ASCII form. -/
def decode? (cs : List Char) : Option (List Char) :=
  let (plain, digits) := cutLast cs
  if !plain.all (·.toNat < 0x80) then none
  else
    match digits.foldlM Reader.step ⟨plain.map Char.toNat, 0x80, 0, 72, 0, 1, 36⟩ with
    | some r => if r.weight = 1 then some (r.out.map Char.ofNat) else none
    | none => none

end AccessSync.Url.Punycode
