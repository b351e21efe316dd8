import AccessSync.Text.PrintTable

/-!
# Quoted text for people

A text in double quotes with its quotes and backslashes escaped, and every character that would
not show written by its number, so that the text can be read off its quoted form.
-/

namespace AccessSync.Text

/-- The character is no graphic character of its own. -/
def isHidden (c : Char) : Bool :=
  hiddenRuns.any fun (first, last) => first ≤ c.toNat && c.toNat ≤ last

/-- A character inside quotes: itself, a short escape, or its number in hexadecimal digits. -/
def quotedChar (c : Char) : List Char :=
  match c with
  | '"' => ['\\', '"']
  | '\\' => ['\\', '\\']
  | '\n' => ['\\', 'n']
  | '\r' => ['\\', 'r']
  | '\t' => ['\\', 't']
  | '\x00' => ['\\', '0']
  | c =>
    if isHidden c then ['\\', 'u', '\x7b'] ++ Nat.toDigits 16 c.toNat ++ ['\x7d'] else [c]

/-- The text in double quotes. -/
def quoted (s : String) : String :=
  String.ofList ('"' :: s.toList.flatMap quotedChar ++ ['"'])

end AccessSync.Text
