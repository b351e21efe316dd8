import AccessSync.Access.Id
import AccessSync.Access.Vocabulary
import AccessSync.Api.Endpoint

/-!
# Requests to change access

A request names a principal, a resource and a slug. Everything that can be wrong with it is found
before the server is asked: first whether the principal can hold anything, then whether the slug
names an entitlement, whether that can be changed at all, and whether this principal can hold it.
-/

namespace AccessSync

open Api (Side)

/-- The request can be carried out; the first thing that is wrong with it otherwise. -/
def checkRequest (principal resource : ResourceId) (slug : String) : Except Failure Unit :=
  let kind := resource.kind
  if !principal.kind.isPrincipal then .error (.unsupportedPrincipal kind slug principal.kind)
  else if !kind.isKnownSlug slug then .error (.unsupportedRole kind slug)
  else if !kind.isProvisionable slug then .error (.notProvisionable kind slug)
  else if !(kind.grantableTo slug).contains principal.kind then
    .error (.unsupportedPrincipal kind slug principal.kind)
  else .ok ()

/-- Who holds a role. -/
inductive Holder
  | user (id : String)
  | group (id : GroupId)
deriving DecidableEq, Repr

namespace Holder

/-- The holder that a principal is in a workspace; a group has to belong to the workspace. -/
def read (principal : ResourceId) (workspace : String) : Except Failure Holder :=
  match principal.kind with
  | .user => .ok (.user principal.key)
  | .userGroup =>
    match GroupId.read principal.key with
    | .error e => .error e
    | .ok g =>
      if g.workspace = workspace then .ok (.group g)
      else .error (.invalidArgument
        s!"group {g.text} belongs to workspace {g.workspace}, not {workspace}")
  | kind => .error (.invalidArgument s!"{kind.name} cannot hold permissions")

/-- The half of a permission table that the holder stands in. -/
def side : Holder → Side
  | .user _ => .users
  | .group _ => .groups

/-- The name of the holder in a permission table. -/
def name : Holder → String
  | .user id => id
  | .group id => id.slug

end Holder

end AccessSync
