/-!
# JSON values

`Json` is a value of the data format; the fields of an object keep their order. `Json.Tree` is what
stands in a text before anyone asks for its meaning: a string with half of a surrogate pair, or a
number no double can hold, is well-formed text but no value.
-/

namespace AccessSync

/-- A number: an integer within 64 bits, or `digits · 10 ^ exponent` with a sign. -/
inductive Json.Number
  | int (i : Int)
  | real (negative : Bool) (digits : Nat) (exponent : Int)
deriving Repr, DecidableEq, BEq

/-- A value of the data format. -/
inductive Json
  | null
  | bool (b : Bool)
  | number (n : Json.Number)
  | text (s : String)
  | array (items : List Json)
  | object (fields : List (String × Json))
deriving Repr, BEq, Inhabited

namespace Json

/-- The structure of a text; `none` stands for a string that holds half of a surrogate pair. -/
inductive Tree
  | null
  | bool (b : Bool)
  | number (n : Number)
  | text (s : Option String)
  | array (items : List Tree)
  | object (fields : List (Option String × Tree))
deriving Repr, BEq, Inhabited

mutual

/-- The structure of the text that a value is written as. -/
def tree : Json → Tree
  | .null => .null
  | .bool b => .bool b
  | .number n => .number n
  | .text s => .text (some s)
  | .array items => .array (treeItems items)
  | .object fields => .object (treeFields fields)

def treeItems : List Json → List Tree
  | [] => []
  | j :: rest => j.tree :: treeItems rest

def treeFields : List (String × Json) → List (Option String × Tree)
  | [] => []
  | (name, j) :: rest => (some name, j.tree) :: treeFields rest

end

/-- The integers that are kept as integers. -/
def Number.ofInt (i : Int) : Number :=
  if Int64.minValue.toInt ≤ i ∧ i < UInt64.size then .int i else .real (i < 0) i.natAbs 0

/-- The midpoint of the largest double and the next power of two. -/
def doubleBound : Nat := 1 <<< 1024 - 1 <<< 970

/-- A double can hold the number: it lies below the bound. -/
def Number.isFinite : Number → Bool
  | .int _ => true
  | .real _ digits exponent =>
    let magnitude := (Nat.toDigits 10 digits).length + exponent
    if digits = 0 || magnitude < 300 then true
    else if 320 < magnitude then false
    else if 0 ≤ exponent then digits * Nat.pow 10 exponent.toNat < doubleBound
    else digits < doubleBound * Nat.pow 10 (-exponent).toNat

/-- The fields with `value` under `name`, in ascending order of the names. -/
def insertField (name : String) (value : Json) : List (String × Json) → List (String × Json)
  | [] => [(name, value)]
  | (other, old) :: rest =>
    if name < other then (name, value) :: (other, old) :: rest
    else if name = other then (name, value) :: rest
    else (other, old) :: insertField name value rest

/-- How deep a value may nest arrays and objects. -/
def maxDepth : Nat := 127

namespace Tree

mutual

/-- The value of a structure that nests at most `depth` deep: its strings are texts, its numbers
finite, the fields of its objects in ascending order, and of a repeated field the last one. -/
def value? (depth : Nat) : Tree → Option Json
  | .null => some .null
  | .bool b => some (.bool b)
  | .number n => if n.isFinite then some (.number n) else none
  | .text s => s.map .text
  | .array items =>
    match depth with
    | 0 => none
    | d + 1 => (itemValues? d items).map .array
  | .object fields =>
    match depth with
    | 0 => none
    | d + 1 => (fieldValues? d [] fields).map .object

def itemValues? (depth : Nat) : List Tree → Option (List Json)
  | [] => some []
  | t :: rest =>
    match value? depth t, itemValues? depth rest with
    | some j, some js => some (j :: js)
    | _, _ => none

def fieldValues? (depth : Nat) (done : List (String × Json)) :
    List (Option String × Tree) → Option (List (String × Json))
  | [] => some done
  | (none, _) :: _ => none
  | (some name, t) :: rest =>
    match value? depth t with
    | some j => fieldValues? depth (insertField name j done) rest
    | none => none

end

end Tree

/-- The value of a field of an object. -/
def field? (name : String) : Json → Option Json
  | .object fields => fields.lookup name
  | _ => none

/-- The text that a value is, if it is one. -/
def text? : Json → Option String
  | .text s => some s
  | _ => none

/-- The items of an array. -/
def items? : Json → Option (List Json)
  | .array items => some items
  | _ => none

/-- An integer. -/
def ofNat (n : Nat) : Json := .number (.int n)

end Json

end AccessSync
