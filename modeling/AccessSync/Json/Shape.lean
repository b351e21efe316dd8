import AccessSync.Json.Reader
import AccessSync.Json.Writer
import AccessSync.Text.Quoted
import AccessSync.Text.Segment

/-!
# Shapes of JSON

A decoder reads a value of some type off the structure of a text. A `Shape` describes a record by
its fields: it is read from an object, by name and in any order, with unknown fields passed over
unread; or from an array, by position. Fields with a default may be absent, in an array only at
the end.

* `Shape.decode`: the record that a structure holds.
* `Mismatch.message`: what is wrong with a structure that holds none.
-/

namespace AccessSync.Json

/-- Why a structure does not have the wanted shape. -/
inductive Mismatch
  | notJson
  | type (found : Tree) (expected : String)
  | halfSurrogate
  | missingField (name : String)
  | repeatedField (name : String)
  | tooFewItems
  | tooManyItems
  | unknownName (found : String) (known : List String)
deriving Repr

/-- How a message names what was found. -/
def Tree.description : Tree → String
  | .null => "null"
  | .bool b => s!"boolean `{b}`"
  | .number (.int i) => s!"integer `{i}`"
  | .number n => s!"floating point `{String.ofList n.chars}`"
  | .text (some s) => s!"string {Text.quoted s}"
  | .text none => "string"
  | .array _ => "sequence"
  | .object _ => "map"

def Mismatch.message : Mismatch → String
  | .notJson => "invalid JSON text"
  | .type found expected => s!"invalid type: {found.description}, expected {expected}"
  | .halfSurrogate => "lone surrogate in a string"
  | .missingField name => s!"missing field `{name}`"
  | .repeatedField name => s!"duplicate field `{name}`"
  | .tooFewItems => "invalid length: an item is missing"
  | .tooManyItems => "invalid length: an item is left over"
  | .unknownName found known =>
    s!"unknown variant `{found}`, expected one of " ++ Text.joinWith ", " known

/-- A reader of values off the structure of a text. -/
abbrev Decoder (α : Type) := Tree → Except Mismatch α

/-- A text. -/
def Decoder.text : Decoder String
  | .text (some s) => .ok s
  | .text none => .error .halfSurrogate
  | t => .error (.type t "a string")

/-- A text or `null`. -/
def Decoder.textOrNull : Decoder (Option String)
  | .null => .ok none
  | t => (Decoder.text t).map some

/-- An integer of 64 bits with a sign. -/
def Decoder.integer : Decoder Int
  | .number (.int i) =>
    if i ≤ Int64.maxValue.toInt then .ok i else .error (.type (.number (.int i)) "i64")
  | t => .error (.type t "i64")

/-- The items of a list, the first failure deciding. -/
def decodeAll {α : Type} (item : Decoder α) : List Tree → Except Mismatch (List α)
  | [] => .ok []
  | t :: rest =>
    match item t with
    | .error e => .error e
    | .ok a => (decodeAll item rest).map (a :: ·)

/-- An array of items. -/
def Decoder.list {α : Type} (item : Decoder α) : Decoder (List α)
  | .array items => decodeAll item items
  | t => .error (.type t "a sequence")

/-- One of a few names, alone or as the only field of an object with nothing in it. -/
def Decoder.name {α : Type} (known : List (String × α)) : Decoder α := fun t =>
  let find (s : String) : Except Mismatch α :=
    match known.lookup s with
    | some a => .ok a
    | none => .error (.unknownName s (known.map (·.1)))
  match t with
  | .text (some s) => find s
  | .object [(some s, content)] =>
    match find s, content with
    | .error e, _ => .error e
    | .ok a, .null => .ok a
    | .ok _, _ => .error (.type content "unit")
  | t => .error (.type t "a name")

/-- The fields of an object. -/
abbrev Fields := List (Option String × Tree)

/-- The first field with the given name. -/
def Fields.find? (name : String) : Fields → Option Tree
  | [] => none
  | (other, t) :: rest => if other = some name then some t else Fields.find? name rest

/-- The fields of a record: how each known one is checked, how they are read by name, and how they
are read off the front of a list by position. -/
structure Shape (α : Type) where
  checks : List (String × (Tree → Option Mismatch))
  named : Fields → Except Mismatch α
  placed : List Tree → Except Mismatch (α × List Tree)

namespace Shape

variable {α β : Type}

/-- What is wrong with a value, if anything. -/
def failure? (decode : Decoder α) (t : Tree) : Option Mismatch :=
  match decode t with
  | .error e => some e
  | .ok _ => none

/-- A field that must be there. -/
def required (name : String) (decode : Decoder α) : Shape α where
  checks := [(name, failure? decode)]
  named fields :=
    match fields.find? name with
    | some t => decode t
    | none => .error (.missingField name)
  placed
    | t :: rest => (decode t).map (·, rest)
    | [] => .error .tooFewItems

/-- A field that has a value of its own when it is absent. -/
def optional (name : String) (decode : Decoder α) (absent : α) : Shape α where
  checks := [(name, failure? decode)]
  named fields :=
    match fields.find? name with
    | some t => decode t
    | none => .ok absent
  placed
    | t :: rest => (decode t).map (·, rest)
    | [] => .ok (absent, [])

/-- The fields of two records, those of the first before those of the second. -/
def both (a : Shape α) (b : Shape β) : Shape (α × β) where
  checks := a.checks ++ b.checks
  named fields :=
    match a.named fields with
    | .error e => .error e
    | .ok x => (b.named fields).map (x, ·)
  placed items :=
    match a.placed items with
    | .error e => .error e
    | .ok (x, rest) => (b.placed rest).map fun (y, rest') => ((x, y), rest')

/-- A record made of the fields. -/
def map (f : α → β) (a : Shape α) : Shape β where
  checks := a.checks
  named fields := (a.named fields).map f
  placed items := (a.placed items).map fun (x, rest) => (f x, rest)

/-- The first failure among the known fields in the order they stand; a known field may stand
once. -/
def check (known : List (String × (Tree → Option Mismatch))) (seen : List String) :
    Fields → Option Mismatch
  | [] => none
  | (none, _) :: _ => some .halfSurrogate
  | (some name, t) :: rest =>
    match known.lookup name with
    | none => check known seen rest
    | some fails =>
      if seen.contains name then some (.repeatedField name)
      else match fails t with
        | some e => some e
        | none => check known (name :: seen) rest

/-- The record that a structure holds. -/
def decode (shape : Shape α) : Decoder α
  | .object fields =>
    match check shape.checks [] fields with
    | some e => .error e
    | none => shape.named fields
  | .array items =>
    match shape.placed items with
    | .error e => .error e
    | .ok (a, []) => .ok a
    | .ok (_, _ :: _) => .error .tooManyItems
  | t => .error (.type t "an object")

/-- The record that a text holds. -/
def ofText (shape : Shape α) (s : String) : Except Mismatch α :=
  match read s with
  | some t => shape.decode t
  | none => .error .notJson

/-- The record that bytes hold. -/
def ofBytes (shape : Shape α) (bytes : Text.Bytes) : Except Mismatch α :=
  match readBytes bytes with
  | some t => shape.decode t
  | none => .error .notJson

end Shape

end AccessSync.Json
