import AccessSync.Text.Blank
import AccessSync.Url.Address
import AccessSync.Url.Domain
import AccessSync.Url.Path

/-!
# Reading URLs

An absolute URL is read from left to right: scheme, authority, path, query, fragment. The text may
have controls and spaces around it, and tabs and line ends anywhere; they are dropped.

* `Url.read`: the URL of a text, or why it is none.
-/

namespace AccessSync.Url

/-- The characters that count: nothing below U+0021 at the ends, no tab and no line end. -/
def significant (s : String) : List Char :=
  (Text.stripBoth (fun c => c.toNat ≤ 0x20) s.toList).filter fun c => !isDropped c

/-- An ASCII letter. -/
def isLetter (c : Char) : Bool := ('a' ≤ c && c ≤ 'z') || ('A' ≤ c && c ≤ 'Z')

/-- An ASCII letter or digit. -/
def isLetterOrDigit (c : Char) : Bool := isLetter c || ('0' ≤ c && c ≤ '9')

/-- A character of a scheme. -/
def inScheme (c : Char) : Bool := isLetterOrDigit c || c == '+' || c == '-' || c == '.'

/-- The scheme in lower case, and what follows its colon. -/
def cutScheme (cs : List Char) : Option (String × List Char) :=
  match cs with
  | [] => none
  | c :: _ =>
    if isLetter c then
      match cs.dropWhile inScheme with
      | ':' :: rest => some (String.ofList ((cs.takeWhile inScheme).map Char.toLower), rest)
      | _ => none
    else none

/-! ## Hosts -/

/-- A character that no plain name of a host may hold. -/
def isForbiddenInHost (c : Char) : Bool :=
  c == '\x00' || c == '\t' || c == '\n' || c == '\r' || c == ' ' || c == '#' || c == '/' ||
    c == ':' || c == '<' || c == '>' || c == '?' || c == '@' || c == '[' || c == '\\' ||
    c == ']' || c == '^' || c == '|'

/-- An address in brackets. -/
def readBrackets (cs : List Char) : Except Error Host :=
  match unsnoc cs with
  | some ('[' :: inner, ']') =>
    match ipv6? inner with
    | some pieces => .ok (.ipv6 pieces)
    | none => .error .badIpv6
  | _ => .error .badIpv6

/-- The host of a special URL: an address or a domain name. -/
def readHost (cs : List Char) : Except Error Host :=
  match cs with
  | '[' :: _ => readBrackets cs
  | _ =>
    match domain? cs with
    | none => .error .badDomain
    | some [] => .error .emptyHost
    | some name =>
      if endsInNumber name then
        match ipv4? name with
        | some address => .ok (.ipv4 address)
        | none => .error .badIpv4
      else .ok (.name (String.ofList name))

/-- The host of any other URL: an address in brackets or a plain name. -/
def readPlainHost (cs : List Char) : Except Error Host :=
  match cs with
  | '[' :: _ => readBrackets cs
  | _ =>
    if cs.any isForbiddenInHost then .error .badHostCharacter
    else .ok (.name (String.ofList (percentEncode isControl cs)))

/-! ## Authorities -/

/-- What stands before the last `mark` and what stands after it. -/
def cutAtLast (mark : Char) : List Char → Option (List Char × List Char)
  | [] => none
  | c :: cs =>
    match cutAtLast mark cs with
    | some (before, after) => some (c :: before, after)
    | none => if c = mark then some ([], cs) else none

/-- The host and what follows its colon, if there is one; a colon in brackets belongs to the
host. -/
def cutPort : Bool → List Char → List Char × Option (List Char)
  | _, [] => ([], none)
  | inside, c :: cs =>
    if c = ':' ∧ !inside then ([], some cs)
    else
      let (host, after) := cutPort (if c = '[' then true else if c = ']' then false else inside) cs
      (c :: host, after)

/-- The port number that digits stand for. -/
def readPort (digits : List Char) : Except Error (Option Nat) :=
  let step (n : Nat) (c : Char) : Option Nat :=
    let next := n * 10 + (c.toNat - '0'.toNat)
    if next ≤ 65535 then some next else none
  if digits.isEmpty then .ok none
  else match digits.foldlM step 0 with
    | some n => .ok (some n)
    | none => .error .badPort

/-- User name and password in front of the `@`. -/
def readUser (cs : List Char) : String × String :=
  let encoded (part : List Char) : String := String.ofList (percentEncode inUserSet part)
  match Text.cutChars ':' cs with
  | some (name, password) => (encoded name, encoded password)
  | none => (encoded cs, "")

/-- A decimal digit. -/
def isPortDigit (c : Char) : Bool := '0' ≤ c && c ≤ '9'

/-- The parts of an authority. -/
structure Authority where
  username : String
  password : String
  host : Host
  portNumber : Option Nat
  /-- What is left of the text after the port number: the start of the path. -/
  rest : List Char

/-- The authority that the characters before the path stand for. A port number may be followed by a
backslash, which starts the path. -/
def readAuthority (scheme : String) (cs : List Char) : Except Error Authority := do
  let special := isSpecialScheme scheme
  let (username, password, hostPort) ←
    match cutAtLast '@' cs with
    | none => .ok ("", "", cs)
    | some (user, after) =>
      let (name, password) := readUser user
      .ok (name, password, after)
  let (hostChars, portChars) := cutPort false hostPort
  if special && hostChars.isEmpty then throw .emptyHost
  let host ← if special then readHost hostChars else readPlainHost hostChars
  if host == .name "" && (portChars.isSome || username != "" || password != "") then
    throw .emptyHost
  let (portNumber, rest) ←
    match portChars with
    | none => .ok (none, [])
    | some chars =>
      match chars.dropWhile isPortDigit with
      | [] => (readPort chars).map (·, [])
      | '\\' :: more => (readPort (chars.takeWhile isPortDigit)).map (·, '\\' :: more)
      | _ => .error .badPort
  let portNumber := if portNumber == usualPort scheme then none else portNumber
  return { username, password, host, portNumber, rest }

/-! ## What follows the authority -/

/-- A character that ends the path. -/
def endsPath (c : Char) : Bool := c == '?' || c == '#'

/-- The query and the fragment at the start of the text. -/
def readEnd (special : Bool) (cs : List Char) : Option String × Option String :=
  let fragment (cs : List Char) : String := String.ofList (percentEncode inFragmentSet cs)
  match cs with
  | '#' :: rest => (none, some (fragment rest))
  | '?' :: rest =>
    let set := if special then inSpecialQuerySet else inQuerySet
    let query := String.ofList (percentEncode set (rest.takeWhile (· != '#')))
    match rest.dropWhile (· != '#') with
    | _ :: more => (some query, some (fragment more))
    | [] => (some query, none)
  | _ => (none, none)

/-- The URL made of the parts before the path and a text that starts with the path. -/
def withPath (scheme : String) (authority : Option Authority) (cs : List Char) : Url :=
  let special := isSpecialScheme scheme
  let pathChars := cs.takeWhile fun c => !endsPath c
  let (query, fragment) := readEnd special (cs.dropWhile fun c => !endsPath c)
  let file := scheme == "file"
  let parts :=
    match pathChars with
    | [] => if special then [""] else []
    | c :: rest =>
      if isSlash special c then readSegments special file rest
      else readSegments special file pathChars
  { scheme, query, fragment
    username := (authority.map (·.username)).getD ""
    password := (authority.map (·.password)).getD ""
    host := authority.map (·.host)
    portNumber := authority.bind (·.portNumber)
    path := .segments parts }

/-- A character that ends the authority. -/
def endsAuthority (special : Bool) (c : Char) : Bool := endsPath c || isSlash special c

/-- A URL with an authority, read after its two slashes. -/
def readWithAuthority (scheme : String) (cs : List Char) : Except Error Url := do
  let special := isSpecialScheme scheme
  let inside := cs.takeWhile fun c => !endsAuthority special c
  let after := cs.dropWhile fun c => !endsAuthority special c
  if inside == ['@'] && !after.isEmpty then throw .emptyHost
  let authority ← readAuthority scheme inside
  return withPath scheme (some authority) (authority.rest ++ after)

/-- The host of a file URL; the own host is none. -/
def readFileHost (cs : List Char) : Except Error Host := do
  if cs.isEmpty then return .name ""
  let host ← readHost cs
  return if host == .name "localhost" then .name "" else host

/-- A file URL, read after its scheme. One whose path starts with a drive has no host. -/
def readFile (cs : List Char) : Except Error Url := do
  let isEnd (c : Char) : Bool := endsAuthority true c
  let at_ (host : Host) (path : List Char) : Url :=
    let url := withPath "file" (some ⟨"", "", host, none, []⟩) path
    if url.path.startsAtDrive then { url with host := some (.name "") } else url
  match cs with
  | a :: b :: rest =>
    if isSlash true a && isSlash true b then
      let inside := rest.takeWhile fun c => !isEnd c
      if isDrive inside then return at_ (.name "") rest
      else return at_ (← readFileHost inside) (rest.dropWhile fun c => !isEnd c)
    else return at_ (.name "") cs
  | _ => return at_ (.name "") cs

/-- Any other URL that is not special, read after its scheme. -/
def readOther (scheme : String) (cs : List Char) : Except Error Url :=
  match cs with
  | '/' :: '/' :: rest => readWithAuthority scheme rest
  | '/' :: _ => .ok (withPath scheme none cs)
  | _ =>
    let (query, fragment) := readEnd false (cs.dropWhile fun c => !endsPath c)
    let text := percentEncode isControl (cs.takeWhile fun c => !endsPath c)
    .ok { scheme, query, fragment, username := "", password := ""
          host := none, portNumber := none
          path := .rootless (String.ofList text) }

/-- The URL that a text stands for. -/
def read (s : String) : Except Error Url :=
  match cutScheme (significant s) with
  | none => .error .relative
  | some (scheme, rest) =>
    if scheme = "file" then readFile rest
    else if isSpecialScheme scheme then
      readWithAuthority scheme (rest.dropWhile (isSlash true))
    else readOther scheme rest

end AccessSync.Url
