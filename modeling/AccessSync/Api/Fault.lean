import AccessSync.Access.Failure
import AccessSync.Json.Shape
import AccessSync.Url.Basic

/-!
# Faults

What can go wrong with one request to the server. A fault says what was seen; `Fault.failure` says
what that means for the operation the request was made for.
-/

namespace AccessSync

/-- What went wrong with a request. -/
inductive Fault
  /-- The settings do not allow the request. -/
  | configuration (message : String)
  /-- No token could be had. -/
  | authentication (message : String)
  /-- The server answered, and with a status that is no success. -/
  | status (code : Nat) (message : String)
  /-- The exchange itself broke down. -/
  | exchange (message : String)
  /-- The server could not be reached. -/
  | transport (message : String)
  /-- The answer does not have the expected shape. -/
  | shape (mismatch : Json.Mismatch)
  /-- A text is no URL. -/
  | url (error : Url.Error)
  /-- An identifier is malformed. -/
  | identifier (message : String)
  /-- The caller gave up while the request was under way. -/
  | cancelled
deriving Repr

namespace Fault

def message : Fault → String
  | .configuration m => s!"Configuration error: {m}"
  | .authentication m => s!"Authentication error: {m}"
  | .status code m => s!"request failed with status {code}: {m}"
  | .exchange m => s!"HTTP error: {m}"
  | .transport m => s!"Transport error: {m}"
  | .shape mismatch => s!"JSON error: {mismatch.message}"
  | .url e => s!"URL error: {e.message}"
  | .identifier m => s!"invalid id: {m}"
  | .cancelled => "request cancelled"

/-- The status that the server answered with. -/
def status? : Fault → Option Nat
  | .status code _ => some code
  | _ => none

/-- The server does not know the thing that was asked for. -/
def isNotFound (f : Fault) : Bool := f.status? == some 404

/-- The failure that an answer with this status means. -/
def ofStatus (code : Nat) (message : String) : Failure :=
  if code = 401 then .unauthenticated message
  else if code = 403 then .permissionDenied message
  else if code = 404 then .notFound message
  else if code = 429 then .transport message none
  else if 400 ≤ code ∧ code < 500 then .invalidArgument message
  else .transport message none

/-- The failure that the fault means. -/
def failure (f : Fault) : Failure :=
  match f with
  | .status code _ => ofStatus code f.message
  | .exchange m => .transport "HTTP request failed" (some m)
  | .transport _ => .transport f.message none
  | .shape mismatch => .serialization mismatch.message
  | .url _ | .identifier _ => .invalidArgument f.message
  | .configuration m => .invalidConfiguration m
  | .authentication _ => .unauthenticated f.message
  | .cancelled => .cancelled

end Fault

end AccessSync
