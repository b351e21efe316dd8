/-!
# UTF-8

Encoding a text as bytes, and decoding bytes as a text: exactly, or with U+FFFD in place of every
maximal part that cannot be completed to a character.
-/

namespace AccessSync.Text

abbrev Bytes := List UInt8

/-- The one to four bytes of a character. -/
def encodeChar (c : Char) : Bytes :=
  let n := c.toNat
  if n < 0x80 then [UInt8.ofNat n]
  else if n < 0x800 then [UInt8.ofNat (0xC0 + n / 0x40), UInt8.ofNat (0x80 + n % 0x40)]
  else if n < 0x10000 then
    [UInt8.ofNat (0xE0 + n / 0x1000), UInt8.ofNat (0x80 + n / 0x40 % 0x40),
      UInt8.ofNat (0x80 + n % 0x40)]
  else
    [UInt8.ofNat (0xF0 + n / 0x40000), UInt8.ofNat (0x80 + n / 0x1000 % 0x40),
      UInt8.ofNat (0x80 + n / 0x40 % 0x40), UInt8.ofNat (0x80 + n % 0x40)]

/-- The bytes of a list of characters. -/
def encodeChars (cs : List Char) : Bytes := cs.flatMap encodeChar

/-- The bytes of a text. -/
def utf8 (s : String) : Bytes := encodeChars s.toList

/-- A character of which some bytes have been read: their value, how many bytes are missing, and
the range of the next one. The ranges leave out overlong forms, surrogates and what lies above
U+10FFFF. -/
structure Pending where
  value : Nat
  missing : Nat
  low : UInt8
  high : UInt8
deriving Repr, DecidableEq

/-- What a first byte gives: a character, the start of one, or nothing that can be completed. -/
inductive Lead
  | char (c : Char)
  | opening (p : Pending)
  | broken

/-- The meaning of a first byte. -/
def lead (b : UInt8) : Lead :=
  if b < 0x80 then .char (Char.ofNat b.toNat)
  else if b < 0xC2 then .broken
  else if b < 0xE0 then .opening ⟨b.toNat % 0x20, 1, 0x80, 0xBF⟩
  else if b == 0xE0 then .opening ⟨0, 2, 0xA0, 0xBF⟩
  else if b == 0xED then .opening ⟨0xD, 2, 0x80, 0x9F⟩
  else if b < 0xF0 then .opening ⟨b.toNat % 0x10, 2, 0x80, 0xBF⟩
  else if b == 0xF0 then .opening ⟨0, 3, 0x90, 0xBF⟩
  else if b < 0xF4 then .opening ⟨b.toNat % 0x08, 3, 0x80, 0xBF⟩
  else if b == 0xF4 then .opening ⟨4, 3, 0x80, 0x8F⟩
  else .broken

/-- The bytes as characters, `none` for every maximal part that is no character, after the bytes
of a pending one. -/
def decodeFrom : Option Pending → Bytes → List (Option Char)
  | none, [] => []
  | some _, [] => [none]
  | none, b :: rest =>
    match lead b with
    | .char c => some c :: decodeFrom none rest
    | .opening p => decodeFrom (some p) rest
    | .broken => none :: decodeFrom none rest
  | some p, b :: rest =>
    if p.low ≤ b && b ≤ p.high then
      let value := p.value * 0x40 + b.toNat % 0x40
      if p.missing ≤ 1 then some (Char.ofNat value) :: decodeFrom none rest
      else decodeFrom (some ⟨value, p.missing - 1, 0x80, 0xBF⟩) rest
    else
      match lead b with
      | .char c => none :: some c :: decodeFrom none rest
      | .opening q => none :: decodeFrom (some q) rest
      | .broken => none :: none :: decodeFrom none rest

/-- The bytes as characters, `none` for every maximal part that is no character. -/
def decodeParts (bytes : Bytes) : List (Option Char) := decodeFrom none bytes

/-- The characters of the bytes, U+FFFD for what is no character. -/
def decodeLossyChars (bytes : Bytes) : List Char :=
  (decodeParts bytes).map (·.getD '\ufffd')

/-- The text of the bytes, U+FFFD for what is no character. -/
def decodeLossy (bytes : Bytes) : String := String.ofList (decodeLossyChars bytes)

/-- The characters present, if none is missing. -/
def allPresent : List (Option Char) → Option (List Char)
  | [] => some []
  | none :: _ => none
  | some c :: rest => (allPresent rest).map (c :: ·)

/-- The text of the bytes, if they are the bytes of a text. -/
def decode? (bytes : Bytes) : Option String :=
  (allPresent (decodeParts bytes)).map String.ofList

end AccessSync.Text
