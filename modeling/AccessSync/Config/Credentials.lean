import AccessSync.Text.Quoted
import AccessSync.Text.Segment

/-!
# Credentials

The three families of credentials: an access token, a user name with an application password, and
the key and secret of an OAuth consumer. One family is used, the first that is complete; half of a
pair is an error. Secrets never show in a text made for people.
-/

namespace AccessSync

/-- Why a configuration cannot be used. -/
inductive ConfigError
  | missing (name : String)
  | badValue (name reason : String)
  | invalid (message : String)
deriving DecidableEq, Repr

def ConfigError.message : ConfigError → String
  | .missing name => s!"missing required environment variable: {name}"
  | .badValue name reason => s!"invalid value for {name}: {reason}"
  | .invalid m => s!"invalid configuration: {m}"

/-- How requests prove who makes them. -/
inductive Authentication
  /-- A token that goes with every request. -/
  | bearer (token : String)
  /-- A user name and a password. -/
  | basic (username password : String)
  /-- A key and a secret, exchanged for tokens that expire. -/
  | oauth2 (loginUrl key secret : String)
deriving DecidableEq, Repr

/-- The credentials as they were given. -/
structure Credentials where
  token : Option String
  username : Option String
  appPassword : Option String
  consumerKey : Option String
  consumerSecret : Option String
deriving DecidableEq, Repr

namespace Credentials

/-- No credentials. -/
def empty : Credentials := ⟨none, none, none, none, none⟩

/-- An access token and nothing else. -/
def ofToken (token : String) : Credentials := { empty with token := some token }

/-- What is said of half of the first pair. -/
def halfUser : ConfigError := .invalid "username and app password must be provided together"

/-- What is said of half of the second pair. -/
def halfConsumer : ConfigError :=
  .invalid "consumer key and consumer secret must be provided together"

/-- What is said when nothing was given. -/
def nothingGiven : ConfigError :=
  .invalid ("either an access token, username and app password or consumer key and secret must " ++
    "be provided")

/-- The way of authentication that the credentials give, with the address that hands out tokens. -/
def authentication (c : Credentials) (loginUrl : String) : Except ConfigError Authentication :=
  if c.username.isSome ≠ c.appPassword.isSome then .error halfUser
  else if c.consumerKey.isSome ≠ c.consumerSecret.isSome then .error halfConsumer
  else match c.token, c.username, c.appPassword, c.consumerKey, c.consumerSecret with
    | some token, _, _, _, _ => .ok (.bearer token)
    | none, some username, some password, _, _ => .ok (.basic username password)
    | none, _, _, some key, some secret => .ok (.oauth2 loginUrl key secret)
    | _, _, _, _, _ => .error nothingGiven

end Credentials

/-! ## Texts for people -/

/-- A record's text: its name, then its fields in braces. -/
def recordText (name : String) (fields : List (String × String)) : String :=
  name ++ " \x7b " ++ Text.joinWith ", " (fields.map fun (field, text) => field ++ ": " ++ text) ++
    " \x7d"

/-- What stands in place of a secret. -/
def hiddenText : String := Text.quoted "***"

/-- A text that may be missing. -/
def optionText : Option String → String
  | some s => "Some(" ++ Text.quoted s ++ ")"
  | none => "None"

/-- Whether a secret was given, and no more. -/
def secretText (secret : Option String) : String :=
  if secret.isSome then hiddenText else Text.quoted "<unset>"

/-- The credentials without their secrets. -/
def Credentials.summary (c : Credentials) : String :=
  recordText "BitbucketCredentials"
    [("token", secretText c.token), ("username", optionText c.username),
      ("app_password", secretText c.appPassword), ("consumer_key", optionText c.consumerKey),
      ("consumer_secret", secretText c.consumerSecret)]

namespace Authentication

/-- The short name of a way of authentication. -/
def name : Authentication → String
  | .bearer _ => "bearer"
  | .basic .. => "basic"
  | .oauth2 .. => "oauth2"

/-- The way of authentication without its secrets. -/
def summary : Authentication → String
  | .bearer _ => recordText "Bearer" [("token", hiddenText)]
  | .basic username _ =>
    recordText "Basic" [("username", Text.quoted username), ("password", hiddenText)]
  | .oauth2 loginUrl key _ =>
    recordText "OAuth2"
      [("token_url", Text.quoted loginUrl), ("consumer_key", Text.quoted key),
        ("consumer_secret", hiddenText)]

end Authentication

end AccessSync
