import AccessSync.Json.Value

/-!
# Writing JSON

Compact text without any blank, and text with one item a line and two spaces for each level.
Strings keep every character from U+0020 on except the quote and the backslash.
-/

namespace AccessSync.Json

/-- A digit of a number in lower-case hexadecimal. -/
def hexDigit (n : Nat) : Char := Nat.digitChar n

/-- A character inside a string. -/
def escapeChar (c : Char) : List Char :=
  if c = '"' then ['\\', '"']
  else if c = '\\' then ['\\', '\\']
  else if c = '\x08' then ['\\', 'b']
  else if c = '\x0c' then ['\\', 'f']
  else if c = '\n' then ['\\', 'n']
  else if c = '\r' then ['\\', 'r']
  else if c = '\t' then ['\\', 't']
  else if c.toNat < 0x20 then
    ['\\', 'u', '0', '0', hexDigit (c.toNat / 16), hexDigit (c.toNat % 16)]
  else [c]

/-- A string with its quotes. -/
def textChars (s : String) : List Char := '"' :: s.toList.flatMap escapeChar ++ ['"']

/-- The text of a number. -/
def Number.chars : Number → List Char
  | .int i => (toString i).toList
  | .real negative digits exponent =>
    (if negative then ['-'] else []) ++ (toString digits).toList ++
      (if exponent = 0 then ['.', '0'] else 'e' :: (toString exponent).toList)

mutual

/-- The compact text of a value. -/
def chars : Json → List Char
  | .null => ['n', 'u', 'l', 'l']
  | .bool true => ['t', 'r', 'u', 'e']
  | .bool false => ['f', 'a', 'l', 's', 'e']
  | .number n => n.chars
  | .text s => textChars s
  | .array items => '[' :: itemsChars items ++ [']']
  | .object fields => '\x7b' :: fieldsChars fields ++ ['\x7d']

def itemsChars : List Json → List Char
  | [] => []
  | [j] => j.chars
  | j :: next :: rest => j.chars ++ ',' :: itemsChars (next :: rest)

def fieldsChars : List (String × Json) → List Char
  | [] => []
  | [(name, j)] => textChars name ++ ':' :: j.chars
  | (name, j) :: next :: rest =>
    textChars name ++ ':' :: j.chars ++ ',' :: fieldsChars (next :: rest)

end

/-- The compact text of a value. -/
def compact (j : Json) : String := String.ofList j.chars

/-- The start of a line at a level. -/
def newLine (level : Nat) : List Char := '\n' :: List.replicate (2 * level) ' '

mutual

/-- The text of a value with one item a line, its first line at the given level. -/
def prettyChars (level : Nat) : Json → List Char
  | .array [] => ['[', ']']
  | .array (j :: rest) =>
    '[' :: prettyItems (level + 1) (j :: rest) ++ newLine level ++ [']']
  | .object [] => ['\x7b', '\x7d']
  | .object (field :: rest) =>
    '\x7b' :: prettyFields (level + 1) (field :: rest) ++ newLine level ++ ['\x7d']
  | .null => ['n', 'u', 'l', 'l']
  | .bool true => ['t', 'r', 'u', 'e']
  | .bool false => ['f', 'a', 'l', 's', 'e']
  | .number n => n.chars
  | .text s => textChars s

def prettyItems (level : Nat) : List Json → List Char
  | [] => []
  | [j] => newLine level ++ prettyChars level j
  | j :: next :: rest =>
    newLine level ++ prettyChars level j ++ ',' :: prettyItems level (next :: rest)

def prettyFields (level : Nat) : List (String × Json) → List Char
  | [] => []
  | [(name, j)] => newLine level ++ textChars name ++ ':' :: ' ' :: prettyChars level j
  | (name, j) :: next :: rest =>
    newLine level ++ textChars name ++ ':' :: ' ' :: prettyChars level j ++
      ',' :: prettyFields level (next :: rest)

end

/-- The text of a value with one item a line. -/
def pretty (j : Json) : String := String.ofList (prettyChars 0 j)

end AccessSync.Json
