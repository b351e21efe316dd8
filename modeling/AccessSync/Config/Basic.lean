import AccessSync.Config.Credentials
import AccessSync.Config.Retry
import AccessSync.Text.Blank
import AccessSync.Text.Natural
import AccessSync.Text.Segment
import AccessSync.Url.Reader

/-!
# Configuration

Where the server is, what is looked at, and how requests are made. A configuration is usable when
its addresses are URLs, pages hold at least one entry and the credentials are complete.

* `Config.validate`: whether a configuration is usable.
* `Config.ofEnvironment`: the configuration that the variables of an environment describe.
-/

namespace AccessSync

/-- The settings of a connector. -/
structure Config where
  /-- The second version of the interface, with a slash at the end. -/
  baseUrl : String
  /-- The first version of the interface, with a slash at the end. -/
  firstBaseUrl : String
  /-- Where keys and secrets are exchanged for tokens. -/
  loginUrl : String
  /-- The slugs of the workspaces to look at; all of them when there is none. -/
  workspaces : List String
  /-- How many entries a page of a list holds. -/
  pageSize : UInt32
  /-- How many seconds a request may take. -/
  timeout : UInt64
  retry : Retry
  credentials : Credentials
deriving DecidableEq, Repr

namespace Config

def usualBaseUrl : String := "https://api.bitbucket.org/2.0/"

def usualFirstBaseUrl : String := "https://api.bitbucket.org/1.0/"

def usualLoginUrl : String := "https://bitbucket.org/site/oauth2/access_token"

/-- The usual settings with the given credentials. -/
def usual (credentials : Credentials) : Config where
  baseUrl := usualBaseUrl
  firstBaseUrl := usualFirstBaseUrl
  loginUrl := usualLoginUrl
  workspaces := []
  pageSize := 50
  timeout := 30
  retry := .usual
  credentials := credentials

/-- The text with a slash at its end. -/
def withSlash (s : String) : String := if s.toList.getLast? = some '/' then s else s ++ "/"

/-- Another server for both versions of the interface. -/
def withBaseUrls (c : Config) (second first : String) : Config :=
  { c with baseUrl := withSlash second, firstBaseUrl := withSlash first }

/-- The way of authentication of the credentials. -/
def authentication (c : Config) : Except ConfigError Authentication :=
  c.credentials.authentication c.loginUrl

/-- The text is a URL. -/
def checkUrl (name value : String) : Except ConfigError Unit :=
  match Url.read value with
  | .ok _ => .ok ()
  | .error e => .error (.badValue name e.message)

/-- The configuration is usable; the first thing that is wrong with it otherwise. -/
def validate (c : Config) : Except ConfigError Unit := do
  checkUrl "BITBUCKET_BASE_URL" c.baseUrl
  checkUrl "BITBUCKET_V1_BASE_URL" c.firstBaseUrl
  checkUrl "BITBUCKET_LOGIN_URL" c.loginUrl
  if c.pageSize = 0 then throw (.badValue "BITBUCKET_PAGE_SIZE" "must be greater than zero")
  let _ ← c.authentication
  return ()

/-! ## Environments -/

/-- The variables that can be read, by name. -/
abbrev Environment := String → Option String

/-- The names of the variables that describe a configuration. -/
def variableNames : List String :=
  ["BITBUCKET_TOKEN", "BITBUCKET_USERNAME", "BITBUCKET_APP_PASSWORD", "BITBUCKET_CONSUMER_KEY",
    "BITBUCKET_CONSUMER_SECRET", "BITBUCKET_WORKSPACES", "BITBUCKET_BASE_URL",
    "BITBUCKET_V1_BASE_URL", "BITBUCKET_LOGIN_URL", "BITBUCKET_PAGE_SIZE",
    "BITBUCKET_MAX_RETRIES", "BITBUCKET_REQUEST_TIMEOUT_SECS"]

/-- The value of a variable; a blank one counts as absent. -/
def Environment.value? (env : Environment) (name : String) : Option String :=
  (env name).filter fun s => !Text.isBlankText s

/-- The number that a variable holds. -/
def numberOr {α : Type} (name : String) (read : String → Except Text.NaturalError α) (absent : α) :
    Option String → Except ConfigError α
  | none => .ok absent
  | some s =>
    match read (Text.trim s) with
    | .ok n => .ok n
    | .error e => .error (.badValue name e.message)

/-- The entries of a list with commas, without the blanks around them and without blank ones. -/
def readList (s : String) : List String :=
  ((Text.segments ',' s).map Text.trim).filter fun entry => entry ≠ ""

/-- The configuration that an environment describes. -/
def ofEnvironment (env : Environment) : Except ConfigError Config := do
  let credentials : Credentials :=
    { token := env.value? "BITBUCKET_TOKEN"
      username := env.value? "BITBUCKET_USERNAME"
      appPassword := env.value? "BITBUCKET_APP_PASSWORD"
      consumerKey := env.value? "BITBUCKET_CONSUMER_KEY"
      consumerSecret := env.value? "BITBUCKET_CONSUMER_SECRET" }
  let pageSize ← numberOr "BITBUCKET_PAGE_SIZE" Text.readWord32 50
    (env.value? "BITBUCKET_PAGE_SIZE")
  let maxRetries ← numberOr "BITBUCKET_MAX_RETRIES" Text.readWord32 3
    (env.value? "BITBUCKET_MAX_RETRIES")
  let timeout ← numberOr "BITBUCKET_REQUEST_TIMEOUT_SECS" Text.readWord64 30
    (env.value? "BITBUCKET_REQUEST_TIMEOUT_SECS")
  let config : Config :=
    { baseUrl := withSlash ((env.value? "BITBUCKET_BASE_URL").getD usualBaseUrl)
      firstBaseUrl := withSlash ((env.value? "BITBUCKET_V1_BASE_URL").getD usualFirstBaseUrl)
      loginUrl := (env.value? "BITBUCKET_LOGIN_URL").getD usualLoginUrl
      workspaces := ((env.value? "BITBUCKET_WORKSPACES").map readList).getD []
      pageSize, timeout, credentials
      retry := .upTo maxRetries }
  config.validate
  return config

end Config

end AccessSync
