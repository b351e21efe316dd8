import AccessSync.Access.Failure
import AccessSync.Json.Shape

/-!
# Page tokens

A listing is resumed from a page token. The token stands for a stack of frames: the top frame names
the part that is being listed and the cursor of its next page, the frames below are the parts still
to come. The empty token stands for the empty stack, both before a listing and after it.

* `PageStack.encode`, `PageStack.decode`: the token of a stack and the stack of a token.
* `PageStack.advance`: the stack after a page.
-/

namespace AccessSync

/-- A part of a listing, and where to go on with it. -/
structure Frame where
  /-- What is being listed. -/
  part : String
  /-- The resource that it is listed below, where the part does not say so. -/
  resource : String
  /-- The cursor of the next page, empty for the first. -/
  cursor : String
deriving DecidableEq, Repr, Inhabited

namespace Frame

/-- A part from its first page on. -/
def start (part : String) : Frame := ⟨part, "", ""⟩

/-- The frame in a token, without what is empty. -/
def json (f : Frame) : Json :=
  .object ([("resource_type_id", .text f.part)] ++
    (if f.resource = "" then [] else [("resource_id", .text f.resource)]) ++
    (if f.cursor = "" then [] else [("token", .text f.cursor)]))

def shape : Json.Shape Frame :=
  ((Json.Shape.required "resource_type_id" .text).both
    ((Json.Shape.optional "resource_id" .text "").both (.optional "token" .text ""))).map
    fun (part, resource, cursor) => ⟨part, resource, cursor⟩

end Frame

/-- The frames of a token, the top one first. -/
structure PageStack where
  frames : List Frame
deriving DecidableEq, Repr, Inhabited

namespace PageStack

def empty : PageStack := ⟨[]⟩

/-- The stack in a token, the top frame last. -/
def json (s : PageStack) : Json :=
  .object [("states", .array (s.frames.reverse.map Frame.json))]

def shape : Json.Shape PageStack :=
  (Json.Shape.required "states" (.list Frame.shape.decode)).map fun frames => ⟨frames.reverse⟩

/-- The token of a stack. -/
def encode (s : PageStack) : String := if s.frames.isEmpty then "" else s.json.compact

/-- The stack of a token. -/
def decode (token : String) : Except Failure PageStack :=
  if token = "" then .ok empty
  else match shape.ofText token with
    | .ok s => .ok s
    | .error e => .error (.invalidPageToken (.undecodable e.message token))

def push (s : PageStack) (f : Frame) : PageStack := ⟨f :: s.frames⟩

/-- The stack without its top frame. -/
def pop (s : PageStack) : PageStack := ⟨s.frames.tail⟩

def top? (s : PageStack) : Option Frame := s.frames.head?

/-- An empty stack starts with the given part; any other stack goes on. -/
def startWith (part : String) (s : PageStack) : PageStack :=
  if s.frames.isEmpty then s.push (.start part) else s

/-- The part that is being listed. -/
def part? (s : PageStack) : Option String := s.top?.map (·.part)

/-- The cursor of the page to ask for. -/
def cursor (s : PageStack) : String := (s.top?.map (·.cursor)).getD ""

/-- The stack after a page: the top frame moves to the next cursor, or ends when there is none. -/
def advance (s : PageStack) (next : String) : PageStack :=
  if next = "" then s.pop
  else match s.frames with
    | [] => s
    | f :: rest => ⟨{ f with cursor := next } :: rest⟩

/-- The token after a page. -/
def nextToken (s : PageStack) (next : String) : String := (s.advance next).encode

end PageStack

end AccessSync
