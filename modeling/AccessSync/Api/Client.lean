import AccessSync.Api.Endpoint
import AccessSync.Config.Basic
import AccessSync.Plan

/-!
# The client

A client knows where the two versions of the interface are. It turns an endpoint into a request,
and the reply to that request into the reply of the endpoint.

* `Client.request`: the request of an endpoint.
* `Client.answer`: an endpoint asked by one request at most.
-/

namespace AccessSync.Api

/-- One request: what is done to the thing at an address, with which parameters and which body. -/
structure Request where
  method : Method
  url : Url
  query : Query
  body : Option Json
deriving Repr

namespace Request

/-- The address with the parameters. -/
def address (r : Request) : Url := r.query.apply r.url

/-- The reply to a request: the value that the server sends, or what went wrong. -/
abbrev Reply (_ : Request) : Type := Except Fault Json

end Request

/-- Where the two versions of the interface are, and how long pages are. -/
structure Client where
  base : Url
  firstBase : Url
  pageSize : UInt32
deriving Repr

namespace Client

/-- An address in a configuration. -/
def readBase (s : String) : Except Fault Url :=
  match Url.read s with
  | .ok url => .ok url
  | .error e => .error (.url e)

/-- The client of a configuration. -/
def ofConfig (c : Config) : Except Fault Client := do
  let base ← readBase c.baseUrl
  let firstBase ← readBase c.firstBaseUrl
  return { base, firstBase, pageSize := c.pageSize }

/-- The base of a version. -/
def baseOf (c : Client) : Version → Url
  | .first => c.firstBase
  | .second => c.base

/-- The address of an endpoint, without parameters. -/
def place (c : Client) (e : Endpoint) : Except Fault Url :=
  let base := c.baseOf e.version
  match base.extend? e.path with
  | some url => .ok url
  | none => .error (.configuration s!"base URL cannot be a base: {base.text}")

/-- The request of an endpoint. -/
def request (c : Client) (e : Endpoint) : Except Fault Request :=
  (c.place e).map fun url => { method := e.method, url, query := e.query, body := e.body }

/-- The reply of an endpoint in the reply to its request. -/
def reply (e : Endpoint) : Except Fault Json → e.Reply
  | .error f => .error f
  | .ok j =>
    match e.decode j with
    | .ok a => .ok a
    | .error m => .error (.shape m)

/-- The endpoint asked by its request; without a request nothing is asked. -/
def answer {N : Type} (c : Client) (e : Endpoint) : Plan N Request.Reply e.Reply :=
  match c.request e with
  | .error f => .done (.error f)
  | .ok r => .ask r fun result => .done (reply e result)

/-- The questions of a plan asked by requests. -/
def handler {N : Type} (c : Client) : Handler N Endpoint.Reply (Plan N Request.Reply) where
  stop := .stop
  note := Plan.report
  answer := c.answer

/-- The client for people. -/
def summary (c : Client) : String :=
  "BitbucketClient \x7b base_url: " ++ Text.quoted c.base.text ++ ", v1_base_url: " ++
    Text.quoted c.firstBase.text ++ s!", page_size: {c.pageSize.toNat}, .. \x7d"

end Client

end AccessSync.Api
