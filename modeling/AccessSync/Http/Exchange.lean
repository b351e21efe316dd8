import AccessSync.Api.Client
import AccessSync.Http.Token
import AccessSync.Json.Reader
import AccessSync.Json.Writer
import AccessSync.Text.Blank
import AccessSync.Text.Span

/-!
# Exchanges

A request is carried out by one exchange of messages or by several: a server that is asked too often
or out of order for now is asked again after a wait, and a token that is refused is replaced once.
The first response that calls for nothing of this decides.

* `Agent.perform`: a request carried out.
-/

namespace AccessSync.Http

open Api (Request)

/-- Who makes requests, and how often they are tried again. -/
structure Agent where
  authentication : Authentication
  retry : Retry
deriving DecidableEq, Repr

/-- The agent of a configuration. -/
def Agent.ofConfig (c : Config) : Except Fault Agent :=
  match c.authentication with
  | .ok authentication => .ok ⟨authentication, c.retry⟩
  | .error e => .error (.configuration e.message)

/-! ## Responses -/

/-- The shape of what a server says of an error. -/
def errorShape : Json.Shape String :=
  Json.Shape.required "error" (Json.Shape.required "message" .text).decode

/-- What the body of a response says of an error; a body of another shape is taken as it is. -/
def errorText (body : String) : String :=
  match errorShape.ofText body with
  | .ok message => "Error: " ++ message
  | .error _ => body

/-- The result of a request that this response decides. -/
def readResponse (r : Response) : Except Fault Json :=
  let body := Text.decodeLossy r.body
  if isSuccess r.status then
    if Text.isBlankText body then .ok .null
    else match Json.readValue body with
      | some j => .ok j
      | none => .error (.shape .notJson)
  else .error (.status r.status (errorText body))

/-- The wait in milliseconds that a server asks for, in whole seconds. -/
def requestedWait? (r : Response) : Option Nat :=
  (r.header? "Retry-After").bind fun value =>
    match Text.readWord64 value with
    | .ok seconds => some (seconds.toNat * 1000)
    | .error _ => none

/-- Why a request is tried again. -/
inductive Cause
  | rateLimit (requested : Option Nat)
  | outage (status : Nat)
deriving DecidableEq, Repr

namespace Cause

/-- The response calls for another try. -/
def of? (r : Response) : Option Cause :=
  if isRateLimit r.status then some (.rateLimit (requestedWait? r))
  else if isOutage r.status then some (.outage r.status)
  else none

/-- The wait before the retry with the given number, in milliseconds: what the server asks for, if
it does and as far as waits go, or the usual one. -/
def wait (retry : Retry) (number : UInt32) : Cause → Nat
  | .rateLimit (some millis) => min millis retry.maxWait.toNat
  | .rateLimit none | .outage _ => (retry.wait number).toNat

/-- What an operator is told. -/
def event (retry : Retry) (number : UInt32) (cause : Cause) : Event :=
  let what :=
    match cause with
    | .rateLimit _ => "Rate limited"
    | .outage status => s!"Transient error {statusText status}"
  .warn (s!"{what}, retry {number.toNat + 1}/{retry.maxRetries.toNat} after " ++
    Text.spanText (cause.wait retry number)) []

end Cause

/-! ## Requests -/

/-- The message of a request. -/
def message (r : Request) (authorization : String) : Message where
  method := r.method
  url := r.address
  authorization := authorization
  contentType := r.body.map fun _ => "application/json"
  body := (r.body.map Json.compact).getD ""

namespace Agent

/-- The header that proves who makes a request. -/
def authorize (a : Agent) : Session String :=
  match a.authentication with
  | .bearer token => return bearerHeader token
  | .basic username password => return basicHeader username password
  | .oauth2 loginUrl key secret => return bearerHeader (← getToken loginUrl key secret)

/-- The response to one message for the request. -/
def exchange (a : Agent) (r : Request) : Session Response := do
  if ← Session.ask .isCancelled then throw .cancelled
  let header ← a.authorize
  if !isHeaderText header || !isReachable r.address then throw (.exchange "builder error")
  match ← Session.ask (.send (message r header)) with
  | .lost => throw (.exchange (lostText r.address))
  | .cancelled => throw .cancelled
  | .response response => return response

/-- A wait; giving up ends it early. -/
def pause (millis : Nat) : Session Unit := do
  if !(← Session.ask (.pause millis)) then throw .cancelled

/-- One exchange for the request, and what its response calls for: another try after a wait, while
tries are left; a new token, while one may still be had; or an end. -/
def attempt (a : Agent) (r : Request) (number : UInt32) (again : Option (Unit → Session Json))
    (renewed : Option (Unit → Session Json)) : Session Json := do
  let response ← a.exchange r
  match Cause.of? response, again with
  | some cause, some next => do
    Session.report (cause.event a.retry number)
    pause (cause.wait a.retry number)
    next ()
  | _, _ =>
    match response.status == 401, renewed with
    | true, some next => do
      forgetToken
      next ()
    | _, _ => ExceptT.mk (pure (readResponse response))

/-- The request with so many retries left; `renewed` is what is done with a new token, with the
retries that are left then. -/
def attempts (a : Agent) (r : Request) (renewed : Option (Nat → Session Json)) : Nat → Session Json
  | 0 => a.attempt r a.retry.maxRetries none (renewed.map fun next _ => next 0)
  | left + 1 =>
    a.attempt r (a.retry.maxRetries - UInt32.ofNat (left + 1))
      (some fun _ => attempts a r renewed left) (renewed.map fun next _ => next (left + 1))

/-- The request carried out. A token that was had for a key and a secret is replaced once when the
server refuses it. -/
def perform (a : Agent) (r : Request) : Session Json :=
  let renewed : Option (Nat → Session Json) :=
    match a.authentication with
    | .oauth2 .. => some (a.attempts r none)
    | _ => none
  a.attempts r renewed a.retry.maxRetries.toNat

/-- A plan that makes requests, as a plan that exchanges messages. -/
def handler {N : Type} (a : Agent) (embed : Event → N) :
    Handler N Request.Reply (StateT (Option Token) (Plan N Wire.Reply)) where
  stop why := StateT.lift (.stop why)
  note n := StateT.lift (Plan.report n)
  answer r kept := ((a.perform r).run kept).mapNotes fun e => [embed e]

end Agent

end AccessSync.Http
