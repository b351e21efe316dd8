import AccessSync.Access.Id
import AccessSync.Api.Fault
import AccessSync.Api.Payload
import AccessSync.Api.Query

/-!
# Endpoints

Everything that is ever asked of the server, as one type: each endpoint with its arguments, and for
each the type of its answer. Where an endpoint lies, how it is asked and how its answer is read are
functions of the endpoint.

Groups and their members live in the first version of the interface, everything else in the second.
-/

namespace AccessSync.Api

/-- A project or a repository, as the holder of a permission table. -/
inductive Target
  | project (workspace key : String)
  | repository (workspace slug : String)
deriving DecidableEq, Repr

namespace Target

def workspace : Target → String
  | .project workspace _ => workspace
  | .repository workspace _ => workspace

/-- Where the permission table lies. -/
def path : Target → List String
  | .project workspace key => ["workspaces", workspace, "projects", key, "permissions-config"]
  | .repository workspace slug => ["repositories", workspace, slug, "permissions-config"]

end Target

/-- The two halves of a permission table: the roles of groups and those of users. -/
inductive Side
  | groups
  | users
deriving DecidableEq, Repr

namespace Side

/-- How the holder of a role is told. -/
abbrev Holder : Side → Type
  | .groups => GroupRef
  | .users => User

def shape : (s : Side) → Json.Shape (Held s.Holder)
  | .groups => groupRoleShape
  | .users => userRoleShape

def segment : Side → String
  | .groups => "groups"
  | .users => "users"

end Side

/-- What can be asked of the server. A list in pages is asked for with the length of a page and the
cursor to go on at. -/
inductive Endpoint
  | currentUser
  | workspaces (length : UInt32) (cursor : String)
  | workspace (workspace : String)
  | members (workspace : String) (length : UInt32) (cursor : String)
  | projects (workspace : String) (length : UInt32) (cursor : String)
  | repositories (workspace project : String) (length : UInt32) (cursor : String)
  | groups (workspace : String)
  | groupMembers (group : GroupId)
  | addMember (group : GroupId) (user : String)
  | removeMember (group : GroupId) (user : String)
  | roles (target : Target) (side : Side) (length : UInt32) (cursor : String)
  | role (target : Target) (side : Side) (holder : String)
  | setRole (target : Target) (side : Side) (holder slug : String)
  | dropRole (target : Target) (side : Side) (holder : String)
deriving DecidableEq, Repr

/-- What a request does with the thing it names. -/
inductive Method
  | get
  | put
  | delete
  | post
deriving DecidableEq, Repr

def Method.name : Method → String
  | .get => "GET"
  | .put => "PUT"
  | .delete => "DELETE"
  | .post => "POST"

/-- The two versions of the interface. -/
inductive Version
  | first
  | second
deriving DecidableEq, Repr

/-- The fields left out of lists of members. -/
def memberFields : List String := ["-*.workspace"]

/-- The fields left out of lists of projects. -/
def projectFields : List String := ["-*.workspace", "-*.owner"]

/-- The fields left out of roles and lists of roles. -/
def roleFields : List String := ["-*.*.workspace", "-*.*.owner"]

namespace Endpoint

/-- The answer that an endpoint gives. -/
abbrev Answer : Endpoint → Type
  | .currentUser => User
  | .workspaces .. => Page Workspace
  | .workspace _ => Workspace
  | .members .. => Page User
  | .projects .. => Page Project
  | .repositories .. => Page Repository
  | .groups _ => List UserGroup
  | .groupMembers _ => List User
  | .addMember .. => Unit
  | .removeMember .. => Unit
  | .roles _ side _ _ => Page (Held side.Holder)
  | .role _ side _ => Held side.Holder
  | .setRole .. => Unit
  | .dropRole .. => Unit

/-- The workspace that an endpoint asks about; `none` for the two that concern the caller. -/
def workspace? : Endpoint → Option String
  | .currentUser => none
  | .workspaces .. => none
  | .workspace w | .members w .. | .projects w .. | .repositories w .. | .groups w => some w
  | .groupMembers g | .addMember g _ | .removeMember g _ => some g.workspace
  | .roles t .. | .role t .. | .setRole t .. | .dropRole t .. => some t.workspace

def version : Endpoint → Version
  | .groups _ | .groupMembers _ | .addMember .. | .removeMember .. => .first
  | _ => .second

def method : Endpoint → Method
  | .addMember .. | .setRole .. => .put
  | .removeMember .. | .dropRole .. => .delete
  | _ => .get

/-- The segments after those of the base. -/
def path : Endpoint → List String
  | .currentUser => ["user"]
  | .workspaces .. => ["workspaces"]
  | .workspace w => ["workspaces", w]
  | .members w .. => ["workspaces", w, "members"]
  | .projects w .. => ["workspaces", w, "projects"]
  | .repositories w .. => ["repositories", w]
  | .groups w => ["groups", w]
  | .groupMembers g => ["groups", g.workspace, g.slug, "members"]
  | .addMember g user | .removeMember g user => ["groups", g.workspace, g.slug, "members", user]
  | .roles target side .. => target.path ++ [side.segment]
  | .role target side holder | .setRole target side holder _ | .dropRole target side holder =>
    target.path ++ [side.segment, holder]

/-- The filter for the repositories of a project. -/
def inProject (project : String) : String := "project.uuid=\"" ++ project ++ "\""

/-- The parameters; the first version and everything that writes goes without. -/
def query : Endpoint → Query
  | .currentUser | .workspace _ => .withoutLinks
  | .workspaces length cursor => Query.withoutLinks.page length cursor
  | .members _ length cursor => (Query.withoutLinks.page length cursor).without memberFields
  | .projects _ length cursor => (Query.withoutLinks.page length cursor).without projectFields
  | .repositories _ project length cursor =>
    (Query.withoutLinks.page length cursor).only (inProject project)
  | .roles _ _ length cursor => (Query.withoutLinks.page length cursor).without roleFields
  | .role .. => Query.withoutLinks.without roleFields
  | .groups _ | .groupMembers _ | .addMember .. | .removeMember .. | .setRole .. | .dropRole .. =>
    .bare

/-- What is sent along. -/
def body : Endpoint → Option Json
  | .addMember .. => some (.object [])
  | .setRole _ _ _ slug => some (.object [("permission", .text slug)])
  | _ => none

/-- The answer in what the server sends; the answer to a write is not looked at. -/
def decode : (e : Endpoint) → Json → Except Json.Mismatch e.Answer
  | .currentUser, j => User.shape.decode j.tree
  | .workspaces .., j => ((Listing.shape Workspace.shape).decode j.tree).map Listing.page
  | .workspace _, j => Workspace.shape.decode j.tree
  | .members .., j => ((Listing.shape memberShape).decode j.tree).map Listing.page
  | .projects .., j => ((Listing.shape Project.shape).decode j.tree).map Listing.page
  | .repositories .., j => ((Listing.shape Repository.shape).decode j.tree).map Listing.page
  | .groups _, j => Json.Decoder.list UserGroup.shape.decode j.tree
  | .groupMembers _, j => Json.Decoder.list User.shape.decode j.tree
  | .roles _ side _ _, j => ((Listing.shape side.shape).decode j.tree).map Listing.page
  | .role _ side _, j => side.shape.decode j.tree
  | .addMember .., _ | .removeMember .., _ | .setRole .., _ | .dropRole .., _ => .ok ()

/-- The reply to an endpoint: its answer, or what went wrong. -/
abbrev Reply (e : Endpoint) : Type := Except Fault e.Answer

end Endpoint

end AccessSync.Api
