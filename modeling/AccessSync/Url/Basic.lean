/-!
# URLs

The parts of an absolute URL as the URL standard keeps them: every text is in its encoded form, an
address has a number instead of a text, and the port number is left out when it is the usual
one of the scheme. `Url.text` writes the parts.
-/

namespace AccessSync

/-- A host: a registered or plain name, or an address. The empty name stands for "no host". -/
inductive Url.Host
  | name (text : String)
  | ipv4 (address : Nat)
  | ipv6 (pieces : List Nat)
deriving Repr, DecidableEq

/-- A path: one text that cannot be extended, or segments that each follow a slash. -/
inductive Url.Path
  | rootless (text : String)
  | segments (parts : List String)
deriving Repr, DecidableEq

/-- An absolute URL. -/
structure Url where
  scheme : String
  username : String
  password : String
  host : Option Url.Host
  portNumber : Option Nat
  path : Url.Path
  query : Option String
  fragment : Option String
deriving Repr, DecidableEq

namespace Url

/-- Why a text is no absolute URL. -/
inductive Error
  | relative
  | emptyHost
  | badPort
  | badIpv4
  | badIpv6
  | badDomain
  | badHostCharacter
deriving Repr, DecidableEq

def Error.message : Error → String
  | .relative => "relative URL without a base"
  | .emptyHost => "empty host"
  | .badPort => "invalid port number"
  | .badIpv4 => "invalid IPv4 address"
  | .badIpv6 => "invalid IPv6 address"
  | .badDomain => "invalid international domain name"
  | .badHostCharacter => "invalid domain character"

/-- The schemes with a host and slashes of their own, and the port number that each uses. -/
def specialPorts : List (String × Option Nat) :=
  [("http", some 80), ("https", some 443), ("ws", some 80), ("wss", some 443), ("ftp", some 21),
    ("file", none)]

/-- The scheme is one of the special ones. -/
def isSpecialScheme (scheme : String) : Bool := (specialPorts.lookup scheme).isSome

/-- The port number that a scheme uses when none is given. -/
def usualPort (scheme : String) : Option Nat := (specialPorts.lookup scheme).join

/-- The scheme of the URL is one of the special ones. -/
def isSpecial (u : Url) : Bool := isSpecialScheme u.scheme

/-! ## Text of the parts -/

/-- The address with its four bytes in decimal. -/
def ipv4Text (address : Nat) : String :=
  let byte shift := (address >>> shift) % 256
  s!"{byte 24}.{byte 16}.{byte 8}.{byte 0}"

/-- How many zeros the list starts with. -/
def leadingZeros (pieces : List Nat) : Nat := (pieces.takeWhile (· == 0)).length

/-- The longest run of zeros as its start and length, the first one of several. -/
def longestZeros : Nat → List Nat → Nat × Nat
  | _, [] => (0, 0)
  | start, piece :: rest =>
    let here := leadingZeros (piece :: rest)
    let later := longestZeros (start + 1) rest
    if later.2 ≤ here then (start, here) else later

/-- A number in lower-case hexadecimal. -/
def hexText (n : Nat) : String := String.ofList (Nat.toDigits 16 n)

/-- Pieces in hexadecimal with colons between them. -/
def piecesText : List Nat → String
  | [] => ""
  | [p] => hexText p
  | p :: rest => hexText p ++ ":" ++ piecesText rest

/-- The address in brackets, its longest run of at least two zeros shortened to `::`. -/
def ipv6Text (pieces : List Nat) : String :=
  let (start, length) := longestZeros 0 pieces
  if length < 2 then "[" ++ piecesText pieces ++ "]"
  else
    "[" ++ piecesText (pieces.take start) ++ "::" ++ piecesText (pieces.drop (start + length)) ++
      "]"

def Host.text : Host → String
  | .name s => s
  | .ipv4 address => ipv4Text address
  | .ipv6 pieces => ipv6Text pieces

/-- Every segment after a slash. -/
def segmentsText : List String → String
  | [] => ""
  | s :: rest => "/" ++ s ++ segmentsText rest

def Path.text : Path → String
  | .rootless s => s
  | .segments parts => segmentsText parts

/-- The user information with its mark, empty when there is none. -/
def userText (u : Url) : String :=
  if u.username = "" ∧ u.password = "" then ""
  else if u.password = "" then u.username ++ "@"
  else u.username ++ ":" ++ u.password ++ "@"

/-- The port number with its mark, empty when there is none. -/
def portText (u : Url) : String :=
  match u.portNumber with
  | some n => s!":{n}"
  | none => ""

/-- User information, host and port number after two slashes. A path without host that would look
like one is kept apart from the scheme by a dot segment. -/
def authorityText (u : Url) : String :=
  match u.host with
  | some host => "//" ++ u.userText ++ host.text ++ u.portText
  | none =>
    match u.path with
    | .segments ("" :: _ :: _) => "/."
    | _ => ""

/-- The path of the URL as it is written. -/
def pathText (u : Url) : String := u.path.text

/-- The query with its mark, empty when there is none. -/
def queryText (u : Url) : String :=
  match u.query with
  | some q => "?" ++ q
  | none => ""

/-- The fragment with its mark, empty when there is none. -/
def fragmentText (u : Url) : String :=
  match u.fragment with
  | some f => "#" ++ f
  | none => ""

/-- The text of the URL. -/
def text (u : Url) : String :=
  u.scheme ++ ":" ++ u.authorityText ++ u.pathText ++ u.queryText ++ u.fragmentText

/-- What a request names of the URL: its path and its query. -/
def target (u : Url) : String := u.pathText ++ u.queryText

end Url

end AccessSync
