import AccessSync.Catalog.Entitlement
import AccessSync.Catalog.Listing
import AccessSync.Config.Basic
import AccessSync.Discovery
import AccessSync.Grants.Listing
import AccessSync.Provision.Change

/-!
# The connector

What callers work with: discovery, the two listings and the two changes. Whatever names a resource
of a workspace is checked against the scope first, so nothing outside of it is ever asked about.
-/

namespace AccessSync

/-- The settings that operations depend on. -/
structure Connector where
  /-- How many entries a page holds. -/
  pageSize : UInt32
  /-- The slugs of the workspaces to look at; all of them when there is none. -/
  wanted : List String
deriving DecidableEq, Repr

/-- The workspace that a resource lies in; users lie in none. -/
def ResourceId.workspace? (id : ResourceId) : Except Failure (Option String) :=
  match id.kind with
  | .workspace => .ok (some id.key)
  | .user => .ok none
  | .userGroup => (GroupId.read id.key).map fun g => some g.workspace
  | .project => (ProjectId.read id.key).map fun p => some p.workspace
  | .repository => (RepositoryId.read id.key).map fun r => some r.workspace

/-- The resource lies in scope, or in no workspace. -/
def Scope.check (scope : Scope) (id : ResourceId) : Except Failure Unit :=
  match id.workspace? with
  | .error e => .error e
  | .ok none => .ok ()
  | .ok (some w) =>
    if scope.contains w then .ok ()
    else .error (.permissionDenied s!"workspace {w} is outside the connector scope")

namespace Connector

/-- The connector of a configuration. -/
def ofConfig (c : Config) : Connector := ⟨c.pageSize, c.workspaces⟩

/-- What the connector is called. -/
def name : String := "Bitbucket"

/-- The kinds in the order in which a sync lists them. -/
def kinds : List Kind := [.workspace, .user, .userGroup, .project, .repository]

/-- What the credentials reach. -/
def validate (c : Connector) (limit : Nat) : Operation Scope :=
  discoverScope c.pageSize c.wanted limit

/-- A page of the resources of a kind below a parent. -/
def listResources (c : Connector) (scope : Scope) (kind : Kind) (parent : Option ResourceId)
    (token : String) : Operation (Page Resource) := do
  if let some p := parent then Operation.ofExcept (scope.check p)
  listKind c.pageSize scope kind parent token

/-- A page of the grants on a resource. -/
def listGrants (c : Connector) (scope : Scope) (resource : ResourceId) (token : String) :
    Enumeration (Page Grant) := do
  Enumeration.ofExcept (scope.check resource)
  AccessSync.listGrants c.pageSize resource token

/-- The principal gets an entitlement. -/
def grant (scope : Scope) (principal resource : ResourceId) (slug : String) : Operation Unit := do
  Operation.ofExcept (scope.check resource)
  giveAccess principal resource slug

/-- The principal loses an entitlement. -/
def revoke (scope : Scope) (principal resource : ResourceId) (slug : String) : Operation Unit := do
  Operation.ofExcept (scope.check resource)
  takeAccess principal resource slug

end Connector

end AccessSync
