import AccessSync.Api.Endpoint
import AccessSync.Event
import AccessSync.Plan
import AccessSync.Text.Utf8

/-!
# Messages

What goes to a server and what comes back. Everything that a connection may be asked for is one
question: send a message, wait, tell whether the work was given up, tell the time.
-/

namespace AccessSync.Http

/-- A message to a server. -/
structure Message where
  method : Api.Method
  url : Url
  authorization : String
  contentType : Option String
  body : String
deriving Repr

/-- The response of a server; the values of its headers come without blanks at their ends. -/
structure Response where
  status : Nat
  headers : List (String × String)
  body : Text.Bytes
deriving Repr

/-- A name of a header up to letter case. -/
def sameHeader (a b : String) : Bool := a.toList.map Char.toLower == b.toList.map Char.toLower

/-- The value of the first header with the given name. -/
def Response.header? (r : Response) (name : String) : Option String :=
  (r.headers.find? fun (other, _) => sameHeader name other).map (·.2)

/-- What becomes of a message. -/
inductive Outcome
  | response (r : Response)
  /-- The connection broke down before there was a response. -/
  | lost
  /-- The work was given up before there was a response. -/
  | cancelled
deriving Repr

/-- A point in time, in nanoseconds since the start of 1970. -/
abbrev Instant : Type := Int

/-- What a connection is asked for. -/
inductive Wire
  | send (m : Message)
  | pause (millis : Nat)
  | isCancelled
  | now
deriving Repr

/-- The reply of a connection; that of a pause tells whether it went on to its end. -/
abbrev Wire.Reply : Wire → Type
  | .send _ => Outcome
  | .pause _ => Bool
  | .isCancelled => Bool
  | .now => Instant

/-- The character may stand in a header. -/
def isHeaderChar (c : Char) : Bool := c = '\t' || (0x20 ≤ c.toNat && c.toNat ≠ 0x7F)

/-- The text may stand in a header. -/
def isHeaderText (s : String) : Bool := s.toList.all isHeaderChar

/-- The address can be reached by a connection. -/
def isReachable (u : Url) : Bool := u.scheme == "http" || u.scheme == "https"

end AccessSync.Http
