import AccessSync.Text.Segment
import AccessSync.Url.Basic
import AccessSync.Url.Percent

/-!
# Form-encoded queries

Pairs of names and values, `name=value` with `&` between them. A space is written as `+`; ASCII
letters, digits and `*-._` stand for themselves, every other byte is percent-coded. Reading is
lenient: any text is some list of pairs.

* `pairs`: the pairs of a query.
* `Url.append`: a URL with pairs added after those it has.
-/

namespace AccessSync.Url

open Text (Bytes)

/-- The byte stands for itself. -/
def isFormPlain (b : UInt8) : Bool :=
  let n := b.toNat
  (48 ≤ n && n ≤ 57) || (65 ≤ n && n ≤ 90) || (97 ≤ n && n ≤ 122) || n == 42 || n == 45 ||
    n == 46 || n == 95

/-- A byte of a name or a value. -/
def formByte (b : UInt8) : List Char :=
  if b = 0x20 then ['+'] else if isFormPlain b then [Char.ofNat b.toNat] else percentByte b

/-- A name or a value. -/
def formChars (s : String) : List Char := (Text.utf8 s).flatMap formByte

/-- A pair. -/
def pairChars (pair : String × String) : List Char :=
  formChars pair.1 ++ '=' :: formChars pair.2

/-- The characters of a query with the pairs added. -/
def appendPairs (query : List Char) : List (String × String) → List Char
  | [] => query
  | pair :: rest =>
    appendPairs (if query.isEmpty then pairChars pair else query ++ '&' :: pairChars pair) rest

/-- The bytes with every `+` as a space. -/
def plusAsSpace (bytes : Bytes) : Bytes := bytes.map fun b => if b = 0x2B then 0x20 else b

/-- The name or value that characters stand for. -/
def formText (cs : List Char) : String :=
  Text.decodeLossy (percentDecode (plusAsSpace (Text.encodeChars cs)))

/-- The pair that the characters between two `&` stand for: without `=`, the value is empty. -/
def pairOf (cs : List Char) : String × String :=
  match Text.cutChars '=' cs with
  | some (name, value) => (formText name, formText value)
  | none => (formText cs, "")

/-- The pairs of a query; nothing between two `&` is no pair. -/
def pairsOf (query : List Char) : List (String × String) :=
  ((Text.splitChars '&' query).filter fun cs => !cs.isEmpty).map pairOf

/-- The pairs of the query. -/
def pairs (u : Url) : List (String × String) :=
  match u.query with
  | some q => pairsOf q.toList
  | none => []

/-- The text without the spaces at its end. -/
def dropEndSpaces (s : String) : String :=
  String.ofList (s.toList.reverse.dropWhile (· == ' ')).reverse

/-- The path where a URL ends with it: a rootless one has no spaces at its end there. -/
def Path.atEnd : Path → Path
  | .rootless s => .rootless (dropEndSpaces s)
  | .segments parts => .segments parts

/-- The URL with the pairs added to its query; an empty query is none, and the URL may then end with
its path. -/
def append (u : Url) (added : List (String × String)) : Url :=
  let query := appendPairs (u.query.getD "").toList added
  let endsWithPath := query.isEmpty && u.fragment.isNone
  { u with
    path := if endsWithPath then u.path.atEnd else u.path
    query := if query.isEmpty then none else some (String.ofList query) }

end AccessSync.Url
