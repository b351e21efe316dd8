import AccessSync.Text.Segment
import AccessSync.Url.Basic

/-!
# Internet addresses in hosts

Version 4: up to four numbers in decimal, octal or hexadecimal, the last one filling the bytes that
are left. Version 6: eight hexadecimal pieces, `::` for a run of zeros, and a dotted address in
place of the last two pieces.
-/

namespace AccessSync.Url

/-- The value of a digit in bases up to 16. -/
def digitIn? (base : Nat) (c : Char) : Option Nat :=
  let value :=
    if '0' ≤ c ∧ c ≤ '9' then some (c.toNat - '0'.toNat)
    else if 'a' ≤ c ∧ c ≤ 'f' then some (c.toNat - 'a'.toNat + 10)
    else if 'A' ≤ c ∧ c ≤ 'F' then some (c.toNat - 'A'.toNat + 10)
    else none
  value.filter (· < base)

/-- The number that digits stand for; no digits are zero. -/
def numberIn? (base : Nat) (cs : List Char) : Option Nat :=
  cs.foldlM (fun n c => (digitIn? base c).map fun d => n * base + d) 0

/-- A part of a version 4 address. -/
def ipv4Part? : List Char → Option Nat
  | [] => none
  | '0' :: x :: rest =>
    if x = 'x' || x = 'X' then numberIn? 16 rest else numberIn? 8 (x :: rest)
  | cs => numberIn? 10 cs

/-- The last element and those before it. -/
def unsnoc {α : Type} : List α → Option (List α × α)
  | [] => none
  | [a] => some ([], a)
  | a :: rest => (unsnoc rest).map fun (front, last) => (a :: front, last)

/-- The parts between the dots, without an empty one at the end. -/
def dottedParts (cs : List Char) : List (List Char) :=
  match unsnoc (Text.splitChars '.' cs) with
  | some (front, []) => if front.isEmpty then [[]] else front
  | some (front, last) => front ++ [last]
  | none => []

/-- The last part of the name is a number, so that the name must be an address. -/
def endsInNumber (cs : List Char) : Bool :=
  match unsnoc (dottedParts cs) with
  | some (_, last) =>
    !last.isEmpty && (last.all (fun c => '0' ≤ c && c ≤ '9') || (ipv4Part? last).isSome)
  | none => false

/-- The values of all parts. -/
def ipv4Parts? : List (List Char) → Option (List Nat)
  | [] => some []
  | part :: rest =>
    match ipv4Part? part, ipv4Parts? rest with
    | some n, some ns => some (n :: ns)
    | _, _ => none

/-- The version 4 address of a name. -/
def ipv4? (cs : List Char) : Option Nat :=
  let parts := dottedParts cs
  if 4 < parts.length then none
  else match (ipv4Parts? parts).bind unsnoc with
    | none => none
    | some (front, last) =>
      if 1 <<< (8 * (4 - front.length)) ≤ last || front.any (255 < ·) then none
      else some ((front ++ List.replicate (4 - front.length) 0).take 4 |>.foldl
        (fun n byte => n * 256 + byte) 0 |> (· + last))

/-- A piece of a version 6 address: one to four hexadecimal digits. -/
def ipv6Piece? (cs : List Char) : Option Nat :=
  if cs.isEmpty || 4 < cs.length then none else numberIn? 16 cs

/-- A byte in decimal without leading zeros. -/
def plainByte? (cs : List Char) : Option Nat :=
  match cs with
  | [] => none
  | '0' :: _ :: _ => none
  | cs => if 3 < cs.length then none else (numberIn? 10 cs).filter (· ≤ 255)

/-- A dotted address as two pieces. -/
def dottedPieces? (cs : List Char) : Option (List Nat) :=
  match (Text.splitChars '.' cs).map plainByte? with
  | [some a, some b, some c, some d] => some [a * 256 + b, c * 256 + d]
  | _ => none

/-- The pieces between colons; the last one may be a dotted address. -/
def ipv6Pieces? : List (List Char) → Option (List Nat)
  | [] => some []
  | [last] =>
    if last.contains '.' then dottedPieces? last else (ipv6Piece? last).map ([·])
  | part :: next :: rest =>
    match ipv6Piece? part, ipv6Pieces? (next :: rest) with
    | some n, some ns => some (n :: ns)
    | _, _ => none

/-- The pieces of a part of an address that has no `::` in it. -/
def ipv6Side? (cs : List Char) : Option (List Nat) :=
  if cs.isEmpty then some [] else ipv6Pieces? (Text.splitChars ':' cs)

/-- What stands before the first `::` and after it. -/
def cutDouble : List Char → Option (List Char × List Char)
  | ':' :: ':' :: rest => some ([], rest)
  | c :: rest => (cutDouble rest).map fun (before, after) => (c :: before, after)
  | [] => none

/-- The eight pieces of a version 6 address. -/
def ipv6? (cs : List Char) : Option (List Nat) :=
  match cutDouble cs with
  | none => (ipv6Side? cs).filter (·.length == 8)
  | some (before, after) =>
    if before.contains '.' then none
    else match ipv6Side? before, ipv6Side? after with
      | some front, some back =>
        let missing := 8 - (front.length + back.length)
        if missing = 0 then none
        else some (front ++ List.replicate missing 0 ++ back)
      | _, _ => none

end AccessSync.Url
