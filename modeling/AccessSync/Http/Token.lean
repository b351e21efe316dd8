import AccessSync.Http.Message
import AccessSync.Http.Status
import AccessSync.Text.Base64

/-!
# Tokens

The key and secret of a consumer are exchanged for a token with a lifetime. A token is kept and used
until five minutes before it expires; only a new token takes its place.

* `getToken`: the kept token, or a new one.
* `Token.isFresh`: whether the kept token can still be used.
-/

namespace AccessSync.Http

/-! ## The calendar -/

/-- The nanoseconds of a second. -/
def second : Int := 1000000000

/-- The leap days up to the end of a year. -/
def leapDays (year : Int) : Int := year / 4 - year / 100 + year / 400

/-- The start of a year. -/
def yearStart (year : Int) : Instant :=
  (365 * (year - 1970) + leapDays (year - 1) - leapDays 1969) * 86400 * second

/-- The years of the calendar. -/
def inCalendar (t : Instant) : Bool := yearStart (-262143) ≤ t && t < yearStart 262143

/-- The longest lifetime that can be told, in seconds. -/
def longestLifetime : Int := 9223372036854775

/-- The instant so many seconds later, if the calendar has it. -/
def later? (t : Instant) (seconds : Int) : Option Instant :=
  if seconds.natAbs ≤ longestLifetime.natAbs ∧ inCalendar (t + seconds * second) then
    some (t + seconds * second)
  else none

/-! ## Exchange -/

/-- A token and the instant it expires at. -/
structure Token where
  text : String
  expiry : Instant
deriving DecidableEq, Repr

/-- How long before it expires a token is not used any more. -/
def gracePeriod : Int := 300 * second

/-- The token can be used. -/
def Token.isFresh (t : Token) (now : Instant) : Bool := now + gracePeriod < t.expiry

/-- A connection that keeps a token; the token outlasts a fault. -/
abbrev Session : Type → Type := ExceptT Fault (StateT (Option Token) (Plan Event Wire.Reply))

namespace Session

/-- The reply of the connection. -/
def ask (q : Wire) : Session (Wire.Reply q) := ExceptT.lift (StateT.lift (Plan.query q))

/-- An operator is told of an event. -/
def report (e : Event) : Session Unit := ExceptT.lift (StateT.lift (Plan.report e))

/-- The work stops for good. -/
def stop {α : Type} (why : Stop) : Session α := ExceptT.lift (StateT.lift (.stop why))

end Session

/-- The token and its lifetime in seconds, as a server sends them. -/
def tokenShape : Json.Shape (String × Int) :=
  (Json.Shape.required "access_token" .text).both (.optional "expires_in" .integer 3600)

/-- The header for a user name and a password. -/
def basicHeader (username password : String) : String :=
  "Basic " ++ Text.base64 (username ++ ":" ++ password)

/-- The header for a token. -/
def bearerHeader (token : String) : String := "Bearer " ++ token

/-- The message that asks for a token. -/
def tokenMessage (url : Url) (key secret : String) : Message where
  method := .post
  url := url
  authorization := basicHeader key secret
  contentType := some "application/x-www-form-urlencoded"
  body := "grant_type=client_credentials"

/-- What is said of a connection that broke down. -/
def lostText (url : Url) : String := s!"error sending request for url ({url.text})"

/-- The token in a response, from the instant on that it was received at. -/
def readToken (r : Response) : Session Token := do
  if !isSuccess r.status then
    throw (.authentication
      s!"Token request failed with status {statusText r.status}: {Text.decodeLossy r.body}")
  match tokenShape.ofBytes r.body with
  | .error _ =>
    throw (.authentication "Failed to parse token response: error decoding response body")
  | .ok (text, lifetime) =>
    match later? (← Session.ask .now) lifetime with
    | some expiry => return ⟨text, expiry⟩
    | none => Session.stop .calendar

/-- A new token for the key and the secret. -/
def requestToken (loginUrl key secret : String) : Session Token := do
  match Url.read loginUrl with
  | .error _ => throw (.authentication "Token request failed: builder error")
  | .ok url =>
    if !isReachable url then
      throw (.authentication s!"Token request failed: builder error for url ({url.text})")
    match ← Session.ask (.send (tokenMessage url key secret)) with
    | .lost => throw (.authentication s!"Token request failed: {lostText url}")
    | .cancelled => throw .cancelled
    | .response r => readToken r

/-- The kept token can be used now. -/
def keptToken? : Session (Option Token) := do
  match ← get with
  | none => return none
  | some token => return if token.isFresh (← Session.ask .now) then some token else none

/-- The kept token while it is fresh, otherwise a new one, which is kept. -/
def getToken (loginUrl key secret : String) : Session String := do
  match ← keptToken? with
  | some token => return token.text
  | none =>
    let token ← requestToken loginUrl key secret
    set (some token)
    return token.text

/-- The kept token is not used any more. -/
def forgetToken : Session Unit := set (none : Option Token)

end AccessSync.Http
