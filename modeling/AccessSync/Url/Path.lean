import AccessSync.Text.Segment
import AccessSync.Url.Basic
import AccessSync.Url.Percent

/-!
# Paths of URLs

A path grows segment by segment. A segment `.` adds nothing and `..` takes the last one away, also
with the dot percent-coded; at the end of a path both leave an empty segment. `Url.extend?` adds
segments given as whole texts, such as identifiers.
-/

namespace AccessSync.Url

/-- The text of a segment with the percent-coded dots read. -/
def readDots : List Char → List Char
  | '%' :: '2' :: e :: rest => if e = 'e' || e = 'E' then '.' :: readDots rest
    else '%' :: '2' :: e :: rest
  | '.' :: rest => '.' :: readDots rest
  | cs => cs

/-- The segment means "here". -/
def isDot (cs : List Char) : Bool := readDots cs == ['.']

/-- The segment means "one up". -/
def isDoubleDot (cs : List Char) : Bool := readDots cs == ['.', '.']

/-- A letter and a colon, or a bar in place of the colon: the name of a drive. -/
def isDrive : List Char → Bool
  | [c, d] => c.isAlpha && (d == ':' || d == '|')
  | _ => false

/-- The segments without the last one; a drive in a file path stays. -/
def shorten (file : Bool) : List String → List String
  | [] => []
  | [s] => if file && isDrive s.toList then [s] else []
  | s :: next :: rest => s :: shorten file (next :: rest)

/-- The path starts with a drive. -/
def Path.startsAtDrive : Path → Bool
  | .segments (s :: _) => isDrive s.toList
  | _ => false

/-- The path with one more segment; `last` says that none follows. -/
def addSegment (file : Bool) (set : Char → Bool) (last : Bool) (done : List String)
    (segment : List Char) : List String :=
  if isDoubleDot segment then
    let up := shorten file done
    if last then up ++ [""] else up
  else if isDot segment then
    if last then done ++ [""] else done
  else if file && done.isEmpty && isDrive segment then
    done ++ [String.ofList (segment.take 1 ++ [':'])]
  else done ++ [String.ofList (percentEncode set segment)]

/-- The path with the segments added in order. -/
def addSegments (file : Bool) (set : Char → Bool) (done : List String) :
    List (List Char) → List String
  | [] => done
  | [segment] => addSegment file set true done segment
  | segment :: next :: rest =>
    addSegments file set (addSegment file set false done segment) (next :: rest)

/-- A file path has no empty segment in front. -/
def trimFront (file : Bool) (parts : List String) : List String :=
  if file then
    match parts.dropWhile (· == "") with
    | [] => [""]
    | kept => kept
  else parts

/-- The list cut at the characters satisfying `sep`. -/
def splitAtSlashes (sep : Char → Bool) : List Char → List (List Char)
  | [] => [[]]
  | c :: cs =>
    if sep c then [] :: splitAtSlashes sep cs
    else match splitAtSlashes sep cs with
      | [] => [[c]]
      | run :: runs => (c :: run) :: runs

/-- A slash, in a special URL also the backslash. -/
def isSlash (special : Bool) (c : Char) : Bool := c == '/' || (special && c == '\\')

/-- The segments of a path as written, after its first slash. -/
def readSegments (special file : Bool) (cs : List Char) : List String :=
  trimFront file (addSegments file inPathSet [] (splitAtSlashes (isSlash special) cs))

/-! ## Extending a path -/

/-- The character has no place in any part of a URL and is dropped. -/
def isDropped (c : Char) : Bool := c == '\t' || c == '\n' || c == '\r'

/-- The segments without one empty segment at the end, unless it is the only one. -/
def dropEmptyEnd : List String → List String
  | [] => []
  | [s] => [s]
  | [s, ""] => [s]
  | s :: next :: rest => s :: dropEmptyEnd (next :: rest)

/-- A path that holds no segment yet. -/
def isRoot (parts : List String) : Bool := parts == [] || parts == [""]

/-- The path with one segment given as a whole text; `.` and `..` are passed over. Only literal dots
count here, because a percent sign is written as such. -/
def pushSegment (special file : Bool) (parts : List String) (segment : String) : List String :=
  if segment = "." || segment = ".." then parts
  else
    let cs := segment.toList.filter fun c => !isDropped c
    let done := if isRoot parts then [] else parts
    trimFront file <|
      if cs == ['.', '.'] then shorten file done ++ [""]
      else if cs == ['.'] then done ++ [""]
      else if file && done.isEmpty && isDrive cs then [String.ofList (cs.take 1 ++ [':'])]
      else done ++ [String.ofList (percentEncode (inSegmentSet special) cs)]

/-- The URL with the segments added to its path, after one empty segment at its end has been
removed; a rootless path cannot be extended. -/
def extend? (u : Url) (added : List String) : Option Url :=
  match u.path with
  | .rootless _ => none
  | .segments parts =>
    let push := pushSegment u.isSpecial (u.scheme == "file")
    some { u with path := .segments (added.foldl push (dropEmptyEnd parts)) }

end AccessSync.Url
