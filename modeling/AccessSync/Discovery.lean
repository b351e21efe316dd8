import AccessSync.Access.Scope
import AccessSync.Api.Dialogue

/-!
# Discovery

The server has no list of what credentials may do, so every candidate workspace is probed by the
lists that a sync needs: its groups, its members and its projects. A workspace where one of them is
denied is left out; any other failure ends the discovery.

* `discoverScope`: what the credentials reach.
-/

namespace AccessSync

open Api (Endpoint)

/-- A list that a workspace is probed by. -/
inductive Probe
  | groups
  | members
  | projects
deriving DecidableEq, Repr

namespace Probe

/-- The probes in their order. -/
def all : List Probe := [.groups, .members, .projects]

/-- What a probe lists, in an event. -/
def name : Probe → String
  | .groups => "userGroups"
  | .members => "users"
  | .projects => "projects"

/-- The list that is asked for; one entry is enough where the list has pages. -/
def endpoint (workspace : String) : Probe → Endpoint
  | .groups => .groups workspace
  | .members => .members workspace 1 ""
  | .projects => .projects workspace 1 ""

end Probe

/-- What an operator is told of a probe that was denied. -/
def deniedEvent (w : Api.Workspace) (p : Probe) : Event :=
  ⟨.error, "missing permission to list object in workspace",
    [("workspace", w.slug), ("workspace_id", w.uuid), ("object", p.name)]⟩

/-- The workspace passes the probes, none of which is denied. -/
def passes (w : Api.Workspace) : List Probe → Operation Bool
  | [] => return true
  | p :: rest => do
    match ← Operation.attempt (p.endpoint w.uuid) with
    | .ok _ => passes w rest
    | .error fault =>
      if fault.failure.isPermissionDenied then do
        Operation.report (deniedEvent w p)
        return false
      else throw fault.failure

/-- The workspaces among the given ones that pass all probes. -/
def passing : List Api.Workspace → Operation (List String)
  | [] => return []
  | w :: rest => do
    let ok ← passes w Probe.all
    let more ← passing rest
    return if ok then w.uuid :: more else more

/-- The slug is among the wanted ones, if any are given. -/
def isWanted (wanted : List String) (w : Api.Workspace) : Bool :=
  wanted.isEmpty || wanted.contains w.slug

/-- The workspaces of the caller that are wanted and pass all probes. -/
def discoverWorkspaces (pageSize : UInt32) (wanted : List String) (limit : Nat) :
    Operation (List String) := do
  let all ← (Api.allWorkspaces pageSize limit).operation
  passing (all.filter (isWanted wanted))

/-- The only workspace of credentials that belong to one. -/
def ownWorkspace (identity : Api.User) : Api.Workspace :=
  ⟨identity.uuid, identity.nickname, identity.displayName⟩

/-- What the credentials of an identity reach, with at most `limit` pages of workspaces. -/
def scopeFor (pageSize : UInt32) (wanted : List String) (limit : Nat) (identity : Api.User) :
    Operation Scope := do
  if identity.kind = "team" then
    if ← passes (ownWorkspace identity) Probe.all then return .workspace identity.uuid
    else throw .noWorkspaces
  else if identity.kind = "user" then
    let workspaces ← discoverWorkspaces pageSize wanted limit
    if workspaces.isEmpty then throw .noWorkspaces else return .user identity.uuid workspaces
  else throw (.unauthenticated s!"unsupported identity type: {identity.kind}")

/-- What the credentials reach. -/
def discoverScope (pageSize : UInt32) (wanted : List String) (limit : Nat) : Operation Scope := do
  scopeFor pageSize wanted limit (← Operation.ask .currentUser)

end AccessSync
