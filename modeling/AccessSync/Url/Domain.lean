import AccessSync.Text.Utf8
import AccessSync.Url.Direction
import AccessSync.Url.Label
import AccessSync.Url.Percent

/-!
# Domain names

A name is percent-decoded, brought to the text that it stands for and, label by label, into its
ASCII form. Some ASCII characters no name may hold.
-/

namespace AccessSync.Url

/-- An ASCII character that no name may hold. -/
def isForbiddenInDomain (c : Char) : Bool :=
  isControl c || c == ' ' || c == '#' || c == '%' || c == '/' || c == ':' || c == '<' ||
    c == '>' || c == '?' || c == '@' || c == '[' || c == '\\' || c == ']' || c == '^' || c == '|'

/-- The labels of the text that a name stands for. -/
def labels? (text : List Char) : Option (List Label) :=
  if text.any isForbiddenInDomain then none
  else match Label.ofParts? (Text.splitChars '.' text) with
    | none => none
    | some labels => if areReadable (labels.map Label.text) then some labels else none

/-- The ASCII form of a name as it stands in a URL. -/
def domain? (cs : List Char) : Option (List Char) :=
  match Text.decode? (percentDecode (Text.encodeChars cs)) with
  | none => none
  | some name =>
    match nameText? name.toList with
    | none => none
    | some text => (labels? text).map fun labels => List.intercalate ['.'] (labels.map Label.ascii)

end AccessSync.Url
