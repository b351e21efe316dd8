import AccessSync.Json.Value
import AccessSync.Text.Utf8

/-!
# Reading JSON

A reader is a machine that takes one character at a time. Characters make tokens; a token moves a
stack of open arrays and objects. Both steps are functions, so a text is read by one fold and
nesting costs no recursion.

* `read`: the structure of a text, if it is one JSON text and nothing else.
* `readValue`: its value.
* `readBytes`: the structure of bytes; broken ones may stand in a string that nobody asks for.
-/

namespace AccessSync.Json

/-! ## Strings -/

/-- An item of a string: a character, half of a surrogate pair given by an escape, or bytes that are
no character. -/
inductive Piece
  | char (c : Char)
  | high (unit : Nat)
  | low (unit : Nat)
  | broken
deriving Repr, DecidableEq

/-- The item that the escape of a 16-bit number stands for. -/
def Piece.ofUnit (unit : Nat) : Piece :=
  if 0xD800 ≤ unit ∧ unit < 0xDC00 then .high unit
  else if 0xDC00 ≤ unit ∧ unit < 0xE000 then .low unit
  else .char (Char.ofNat unit)

/-- The characters of the items: every half must have the other half beside it. -/
def joinPieces : List Piece → Option (List Char)
  | [] => some []
  | .char c :: rest => (joinPieces rest).map (c :: ·)
  | .high h :: .low l :: rest =>
    (joinPieces rest).map (Char.ofNat (0x10000 + (h - 0xD800) * 0x400 + (l - 0xDC00)) :: ·)
  | .high _ :: _ => none
  | .low _ :: _ => none
  | .broken :: _ => none

/-- The character after a backslash that stands for one character. -/
def simpleEscape? (c : Char) : Option Char :=
  if c = '"' then some '"'
  else if c = '\\' then some '\\'
  else if c = '/' then some '/'
  else if c = 'b' then some '\x08'
  else if c = 'f' then some '\x0c'
  else if c = 'n' then some '\n'
  else if c = 'r' then some '\r'
  else if c = 't' then some '\t'
  else none

/-- The value of a hexadecimal digit. -/
def hexValue? (c : Char) : Option Nat :=
  if '0' ≤ c ∧ c ≤ '9' then some (c.toNat - '0'.toNat)
  else if 'a' ≤ c ∧ c ≤ 'f' then some (c.toNat - 'a'.toNat + 10)
  else if 'A' ≤ c ∧ c ≤ 'F' then some (c.toNat - 'A'.toNat + 10)
  else none

/-! ## Numbers and names -/

/-- The character is a decimal digit. -/
def isDigit (c : Char) : Bool := '0' ≤ c && c ≤ '9'

/-- The number that decimal digits stand for. -/
def digitsValue (cs : List Char) : Nat := cs.foldl (fun n c => n * 10 + (c.toNat - '0'.toNat)) 0

/-- The exponent written after the mark: digits with an optional sign. -/
def readExponent (cs : List Char) : Option Int :=
  let read (digits : List Char) : Option Nat :=
    if digits.isEmpty || !digits.all isDigit then none else some (digitsValue digits)
  match cs with
  | '-' :: rest => (read rest).map fun n => -(n : Int)
  | '+' :: rest => (read rest).map fun n => (n : Int)
  | rest => (read rest).map fun n => (n : Int)

/-- What follows the whole part of a number: a fraction, an exponent, both or nothing. -/
def readTail (negative : Bool) (whole : List Char) (cs : List Char) : Option Number :=
  match cs with
  | [] =>
    let n := digitsValue whole
    if negative && n = 0 then some (.real true 0 0)
    else some (Number.ofInt (if negative then -(n : Int) else n))
  | '.' :: rest =>
    let fraction := rest.takeWhile isDigit
    let digits := digitsValue (whole ++ fraction)
    let exponent := -(fraction.length : Int)
    if fraction.isEmpty then none
    else match rest.dropWhile isDigit with
      | [] => some (.real negative digits exponent)
      | mark :: more =>
        if mark = 'e' || mark = 'E' then
          (readExponent more).map fun e => .real negative digits (exponent + e)
        else none
  | mark :: more =>
    if mark = 'e' || mark = 'E' then
      (readExponent more).map fun e => .real negative (digitsValue whole) e
    else none

/-- A number without its sign. -/
def readUnsigned (negative : Bool) (cs : List Char) : Option Number :=
  match cs.takeWhile isDigit with
  | [] => none
  | '0' :: _ :: _ => none
  | whole => readTail negative whole (cs.dropWhile isDigit)

/-- The number that a word stands for. -/
def readNumber : List Char → Option Number
  | '-' :: cs => readUnsigned true cs
  | cs => readUnsigned false cs

/-- The scalar that a word stands for. -/
def readWord (cs : List Char) : Option Tree :=
  if cs = ['n', 'u', 'l', 'l'] then some .null
  else if cs = ['t', 'r', 'u', 'e'] then some (.bool true)
  else if cs = ['f', 'a', 'l', 's', 'e'] then some (.bool false)
  else (readNumber cs).map .number

/-! ## Nesting -/

/-- A token: a mark of structure, or a scalar. -/
inductive Token
  | openArray | closeArray | openObject | closeObject | comma | colon
  | scalar (t : Tree)
deriving Repr

/-- An array or object that is still open, with what it holds already in reverse. -/
inductive Frame
  | array (done : List Tree)
  | object (done : List (Option String × Tree))
  | field (done : List (Option String × Tree)) (name : Option String)
deriving Repr

/-- What may come next. -/
inductive Want
  | value
  | valueOrClose
  | name
  | nameOrClose
  | colon
  | commaOrClose
  | nothing (whole : Tree)
deriving Repr

/-- How far the structure of a text has been read. -/
structure Nest where
  stack : List Frame
  want : Want
deriving Repr

/-- Nothing has been read. -/
def Nest.start : Nest := ⟨[], .value⟩

/-- A value has ended inside the given stack. -/
def Nest.complete (t : Tree) : List Frame → Option Nest
  | [] => some ⟨[], .nothing t⟩
  | .array done :: stack => some ⟨.array (t :: done) :: stack, .commaOrClose⟩
  | .field done name :: stack => some ⟨.object ((name, t) :: done) :: stack, .commaOrClose⟩
  | .object _ :: _ => none

/-- A token where a value may start. -/
def Nest.begin (stack : List Frame) : Token → Option Nest
  | .openArray => some ⟨.array [] :: stack, .valueOrClose⟩
  | .openObject => some ⟨.object [] :: stack, .nameOrClose⟩
  | .scalar t => Nest.complete t stack
  | _ => none

/-- A token where the name of a field is due. -/
def Nest.named (stack : List Frame) : Token → Option Nest
  | .scalar (.text name) =>
    match stack with
    | .object done :: rest => some ⟨.field done name :: rest, .colon⟩
    | _ => none
  | _ => none

/-- A token that ends the innermost array or object. -/
def Nest.close (stack : List Frame) : Token → Option Nest
  | .closeArray =>
    match stack with
    | .array done :: rest => Nest.complete (.array done.reverse) rest
    | _ => none
  | .closeObject =>
    match stack with
    | .object done :: rest => Nest.complete (.object done.reverse) rest
    | _ => none
  | _ => none

/-- One token. -/
def Nest.step (n : Nest) (t : Token) : Option Nest :=
  match n.want with
  | .value => Nest.begin n.stack t
  | .valueOrClose =>
    match t with
    | .closeArray => Nest.close n.stack t
    | _ => Nest.begin n.stack t
  | .name => Nest.named n.stack t
  | .nameOrClose =>
    match t with
    | .closeObject => Nest.close n.stack t
    | _ => Nest.named n.stack t
  | .colon =>
    match t with
    | .colon => some ⟨n.stack, .value⟩
    | _ => none
  | .commaOrClose =>
    match t with
    | .comma =>
      match n.stack with
      | .array _ :: _ => some ⟨n.stack, .value⟩
      | .object _ :: _ => some ⟨n.stack, .name⟩
      | _ => none
    | _ => Nest.close n.stack t
  | .nothing _ => none

/-! ## Characters -/

/-- Where the reader is between the ends of tokens. -/
inductive Mode
  | between
  | word (chars : List Char)
  | quote (pieces : List Piece)
  | escape (pieces : List Piece)
  | unit (pieces : List Piece) (digits : Nat) (value : Nat)
deriving Repr

/-- A reader of a text. -/
structure Reader where
  mode : Mode
  nest : Nest
deriving Repr

/-- A reader that has read nothing. -/
def Reader.start : Reader := ⟨.between, .start⟩

/-- The blanks between tokens. -/
def isSpace (c : Char) : Bool := c = ' ' || c = '\n' || c = '\r' || c = '\t'

/-- The mark of structure that a character is. -/
def mark? (c : Char) : Option Token :=
  if c = '[' then some .openArray
  else if c = ']' then some .closeArray
  else if c = '\x7b' then some .openObject
  else if c = '\x7d' then some .closeObject
  else if c = ',' then some .comma
  else if c = ':' then some .colon
  else none

/-- A character between tokens: a blank, a mark, a quote or the start of a word. -/
def Reader.between (nest : Nest) (c : Char) : Option Reader :=
  if isSpace c then some ⟨.between, nest⟩
  else if c = '"' then some ⟨.quote [], nest⟩
  else match mark? c with
    | some t => (nest.step t).map fun next => ⟨.between, next⟩
    | none => some ⟨.word [c], nest⟩

/-- A word has ended. -/
def endWord (nest : Nest) (chars : List Char) : Option Nest :=
  match readWord chars.reverse with
  | some t => nest.step (.scalar t)
  | none => none

/-- One character. -/
def Reader.step (r : Reader) (c : Char) : Option Reader :=
  match r.mode with
  | .between => Reader.between r.nest c
  | .word chars =>
    if isSpace c || c = '"' || (mark? c).isSome then
      match endWord r.nest chars with
      | some nest => Reader.between nest c
      | none => none
    else some ⟨.word (c :: chars), r.nest⟩
  | .quote pieces =>
    if c = '"' then
      let s := (joinPieces pieces.reverse).map String.ofList
      (r.nest.step (.scalar (.text s))).map fun next => ⟨.between, next⟩
    else if c = '\\' then some ⟨.escape pieces, r.nest⟩
    else if c.toNat < 0x20 then none
    else some ⟨.quote (.char c :: pieces), r.nest⟩
  | .escape pieces =>
    if c = 'u' then some ⟨.unit pieces 4 0, r.nest⟩
    else (simpleEscape? c).map fun e => ⟨.quote (.char e :: pieces), r.nest⟩
  | .unit pieces digits value =>
    match hexValue? c with
    | none => none
    | some d =>
      let unit := value * 16 + d
      if digits ≤ 1 then some ⟨.quote (Piece.ofUnit unit :: pieces), r.nest⟩
      else some ⟨.unit pieces (digits - 1) unit, r.nest⟩

/-- The structure that has been read when the text ends here. -/
def Reader.finish (r : Reader) : Option Tree :=
  let done (nest : Nest) : Option Tree :=
    match nest.want with
    | .nothing t => some t
    | _ => none
  match r.mode with
  | .between => done r.nest
  | .word chars => (endWord r.nest chars).bind done
  | _ => none

/-- The structure of a list of characters. -/
def readChars (cs : List Char) : Option Tree := (cs.foldlM Reader.step .start).bind Reader.finish

/-- The structure of a text, if it is one JSON text and nothing else. -/
def read (s : String) : Option Tree := readChars s.toList

/-- One character, or bytes that are no character. -/
def Reader.stepPart (r : Reader) : Option Char → Option Reader
  | some c => r.step c
  | none =>
    match r.mode with
    | .quote pieces => some ⟨.quote (.broken :: pieces), r.nest⟩
    | _ => none

/-- The structure of bytes. -/
def readBytes (bytes : Text.Bytes) : Option Tree :=
  ((Text.decodeParts bytes).foldlM Reader.stepPart .start).bind Reader.finish

/-- The value of a text. -/
def readValue (s : String) : Option Json := (read s).bind (Tree.value? maxDepth)

end AccessSync.Json
