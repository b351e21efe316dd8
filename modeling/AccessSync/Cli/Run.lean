import AccessSync.Catalog.Entitlement
import AccessSync.Cli.Arguments
import AccessSync.Cli.Problem
import AccessSync.Connection
import AccessSync.Sync.Summary

/-!
# Running a command

A command reads its references, connects with the configuration of the environment, finds out what
is in scope, and does its work. What it prints it leaves as notes, line by line, so records show as
soon as they are found.

* `runProgram`: a command line, as a plan that exchanges messages and ends with an exit code.
-/

namespace AccessSync.Cli

/-- What a program gives out. -/
inductive Output
  /-- A line of its result. -/
  | line (s : String)
  /-- Why it ended without success. -/
  | problem (p : Problem)
  /-- What is wrong with the command line. -/
  | misuse (message : String)
  /-- Something that an operator is told on the way. -/
  | event (e : Event)
deriving DecidableEq, Repr

/-- The work of a command once it is connected. -/
abbrev Job : Type → Type := ExceptT Problem (Plan Output Api.Endpoint.Reply)

namespace Job

/-- A line of the result. -/
def print (s : String) : Job Unit := ExceptT.lift (Plan.report (.line s))

/-- What needs no work. -/
def ofExcept {α : Type} (result : Except Failure α) : Job α :=
  ExceptT.mk (pure (result.mapError .failure))

/-- An operation on the server. -/
def ofOperation {α : Type} (work : Operation α) : Job α :=
  ExceptT.mk do
    let result ← work.run.mapNotes fun e => [Output.event e]
    return result.mapError .failure

/-- What is given out for a note of a walk; records are lines only when they are asked for. -/
def ofNote (json : Bool) : Sync.Note → List Output
  | .record r => if json then [.line r.line] else []
  | .event e => [.event e]

/-- A walk, from nothing seen on. -/
def ofWalk {α : Type} (json : Bool) (work : Sync.Walk α) : Job α :=
  ExceptT.mk do
    let (result, _) ← (work.run FirstSeen.empty).mapNotes (ofNote json)
    return result.mapError .failure

end Job

/-! ## References -/

/-- The principal that a reference names. -/
def readPrincipal (s : String) : Except Problem ResourceId :=
  match ResourceId.read s with
  | .error f => .error (.input s!"principal {s}: {f.message}")
  | .ok id =>
    if id.kind.isPrincipal then .ok id
    else .error (.input s!"principal must be a user or user_group, got {id.kind.name}")

/-! ## Commands -/

/-- The lines that tell a scope: as JSON, or the scope and the workspaces in it. -/
def scopeLines (json : Bool) (scope : Scope) : List String :=
  if json then Text.segments '\n' scope.json.pretty
  else s!"Scope: {scope.text}" :: scope.workspaceIds.map fun id => "  " ++ id

/-- The scope of the credentials is printed. -/
def validateJob (json : Bool) (limit : Nat) (c : Connector) : Job Unit := do
  let scope ← Job.ofOperation (c.validate limit)
  (scopeLines json scope).forM Job.print

/-- Everything in scope is listed: as records on the way, or as a summary at the end. -/
def syncJob (json noGrants : Bool) (limit : Nat) (c : Connector) : Job Unit := do
  let scope ← Job.ofOperation (c.validate limit)
  let task : Sync.Task := { connector := c, scope, withGrants := !noGrants, limit }
  let visits ← Job.ofWalk json task.walk
  if !json then
    Job.print s!"Scope: {scope.text}"
    (Sync.table visits).forM Job.print

/-- The principal gets the entitlement that the text names. -/
def grantJob (principal : ResourceId) (entitlement : String) (limit : Nat) (c : Connector) :
    Job Unit := do
  let e ← Job.ofExcept (resolveEntitlement entitlement)
  let scope ← Job.ofOperation (c.validate limit)
  Job.ofOperation (Connector.grant scope principal e.resource e.slug)
  Job.print s!"Granted {e.id} to {principal.text}"

/-- The principal loses the entitlement of a grant. -/
def revokeJob (g : Grant) (limit : Nat) (c : Connector) : Job Unit := do
  let scope ← Job.ofOperation (c.validate limit)
  Job.ofOperation (Connector.revoke scope g.principal g.resource g.slug)
  Job.print s!"Revoked {g.entitlementId} from {g.principal.text}"

/-- The work of a command; references that do not need the server are read first. -/
def Command.job (limit : Nat) : Command → Except Problem (Connector → Job Unit)
  | .validate json => .ok (validateJob json limit)
  | .sync json noGrants => .ok (syncJob json noGrants limit)
  | .grant change => do
    let principal ← readPrincipal change.principal
    return grantJob principal change.entitlement limit
  | .revoke change => do
    let principal ← readPrincipal change.principal
    let (resource, slug) ← (readEntitlementId change.entitlement).mapError .failure
    return revokeJob (Grant.of resource slug principal) limit

/-- The connection that an environment describes. -/
def connect (env : Config.Environment) : Except Problem Connection := do
  let config ← (Config.ofEnvironment env).mapError .config
  (Connection.ofConfig config).mapError .failure

/-- The work of a command and the connection for it. -/
def Command.prepare (env : Config.Environment) (limit : Nat) (c : Command) :
    Except Problem (Connection × Job Unit) := do
  let job ← c.job limit
  let connection ← connect env
  return (connection, job connection.connector)

/-- The exit code of a command; a problem is printed. -/
def exitCode : Except Problem Unit → Plan Output Http.Wire.Reply Nat
  | .ok () => return 0
  | .error p => do
    Plan.report (.problem p)
    return p.exitCode

/-- A command from its start to its exit code. -/
def Command.run (env : Config.Environment) (limit : Nat) (c : Command) :
    Plan Output Http.Wire.Reply Nat :=
  match c.prepare env limit with
  | .error p => exitCode (.error p)
  | .ok (connection, job) => do
    let (result, _) ← connection.carry .event job.run none
    exitCode result

/-- The program from its command line to its exit code. No list may have more than `limit`
pages. -/
def runProgram (env : Config.Environment) (limit : Nat) (args : List String) :
    Plan Output Http.Wire.Reply Nat :=
  match Invocation.read args with
  | .run c => c.run env limit
  | .version program => do
    Plan.report (.line (versionLine program))
    return 0
  | .help verb => do
    Plan.report (.line (usageLine verb))
    return 0
  | .misuse message => do
    Plan.report (.misuse message)
    return 2

end AccessSync.Cli
