import AccessSync.Access.Vocabulary
import AccessSync.Catalog.Listing
import AccessSync.Grants.FirstSeen
import AccessSync.Grants.Phase

/-!
# Listing grants

Who holds what on a resource, page by page. The members of a workspace and of a group are one list
each. On a project and on a repository grants come in phases, and a grant that was returned by one
page of an enumeration is left out of all later ones; the repositories of a project are listed as
they are.

* `listGrants`: a page of the grants on a resource.
-/

namespace AccessSync

open Api (Target Side Held)

/-- A resource whose grants come in phases. -/
inductive Holding
  | project (id : ProjectId)
  | repository (id : RepositoryId)
deriving DecidableEq, Repr

namespace Holding

def kind : Holding → Kind
  | .project _ => .project
  | .repository _ => .repository

def workspace : Holding → String
  | .project id => id.workspace
  | .repository id => id.workspace

/-- The permission table of the resource. -/
def target : Holding → Target
  | .project id => .project id.workspace id.key
  | .repository id => .repository id.workspace id.repository

end Holding

/-- The grants of a membership to accounts. -/
def memberGrants (resource : ResourceId) (slug : String) (users : List Api.User) : List Grant :=
  users.map fun u => Grant.of resource slug ⟨.user, u.uuid⟩

/-- A page of the repositories of a project, as grants to them. -/
def repositoryPage (pageSize : UInt32) (resource : ResourceId) (project : ProjectId)
    (cursor : String) : Operation (Page Grant) := do
  let page ← Operation.ask (.repositories project.workspace project.project pageSize cursor)
  let grants := page.items.map fun r =>
    Grant.of resource repositorySlug ⟨.repository, RepositoryId.text ⟨project, r.uuid⟩⟩
  return ⟨grants, page.next⟩

/-- The grant of a role to a group. -/
def groupGrant (resource : ResourceId) (workspace : String) (held : Held Api.GroupRef) : Grant :=
  Grant.of resource held.role ⟨.userGroup, GroupId.text ⟨workspace, held.holder.slug⟩⟩

/-- The grants of roles to groups, each with the grants to the members of the group. -/
def expandGroups (resource : ResourceId) (workspace : String) :
    List (Held Api.GroupRef) → Operation (List Grant)
  | [] => return []
  | held :: rest => do
    let members ← Operation.ask (.groupMembers ⟨workspace, held.holder.slug⟩)
    let more ← expandGroups resource workspace rest
    return groupGrant resource workspace held :: memberGrants resource held.role members ++ more

/-- A page of the roles of groups; those of a project also go to the members of each group. -/
def groupPage (pageSize : UInt32) (resource : ResourceId) (holding : Holding) (cursor : String) :
    Operation (Page Grant) := do
  let page ← Operation.ask (.roles holding.target .groups pageSize cursor)
  let held := page.items.filter fun (h : Held Api.GroupRef) => holding.kind.isRole h.role
  match holding with
  | .project id => return ⟨← expandGroups resource id.workspace held, page.next⟩
  | .repository id => return ⟨held.map (groupGrant resource id.workspace), page.next⟩

/-- A page of the roles of users. -/
def userPage (pageSize : UInt32) (resource : ResourceId) (holding : Holding) (cursor : String) :
    Operation (Page Grant) := do
  let page ← Operation.ask (.roles holding.target .users pageSize cursor)
  let held := page.items.filter fun (h : Held Api.User) => holding.kind.isRole h.role
  return ⟨held.map fun h => Grant.of resource h.role ⟨.user, h.holder.uuid⟩, page.next⟩

/-- A page of one phase. -/
def phasePage (pageSize : UInt32) (resource : ResourceId) (holding : Holding) (phase : Kind)
    (cursor : String) : Operation (Page Grant) :=
  match phase, holding with
  | .repository, .project id => repositoryPage pageSize resource id cursor
  | .userGroup, _ => groupPage pageSize resource holding cursor
  | .user, _ => userPage pageSize resource holding cursor
  | _, _ => return .empty

/-- Work on grants: it fails like any operation, and what it has seen outlasts the failure. -/
abbrev Enumeration : Type → Type := ExceptT Failure (StateT FirstSeen Dialogue)

namespace Enumeration

/-- What needs no work. -/
def ofExcept {α : Type} (result : Except Failure α) : Enumeration α := ExceptT.mk (pure result)

/-- Work that sees no grants. -/
def ofOperation {α : Type} (work : Operation α) : Enumeration α := ExceptT.mk (StateT.lift work.run)

/-- The grants that a page of a phase keeps; repositories are kept as they are. -/
def keepNew (phase : Kind) (position : String) (grants : List Grant) : Enumeration (List Grant) :=
  if phase = .repository then return grants
  else ExceptT.lift fun seen => return seen.retainNew position grants

end Enumeration

/-- A page of the phase on top of a stack, and nothing when no phase is due. -/
def duePage (pageSize : UInt32) (resource : ResourceId) (holding : Holding) :
    Option (Kind × PageStack) → Enumeration (Page Grant)
  | none => return .empty
  | some (phase, stack) => do
    let page ← Enumeration.ofOperation (phasePage pageSize resource holding phase stack.cursor)
    let kept ← Enumeration.keepNew phase stack.position page.items
    return ⟨kept, stack.nextToken page.next⟩

/-- A page of the grants on a resource that come in phases. The empty token starts over. -/
def listPhased (pageSize : UInt32) (resource : ResourceId) (holding : Holding) (token : String) :
    Enumeration (Page Grant) := do
  let stack ← Enumeration.ofExcept (PageStack.decode token)
  if stack.frames.isEmpty then modify (·.reset resource)
  let due ← Enumeration.ofExcept (holding.kind.currentPhase (stack.startWith holding.kind.name))
  duePage pageSize resource holding due

/-- The members of a workspace. -/
def listWorkspaceGrants (pageSize : UInt32) (resource : ResourceId) (token : String) :
    Operation (Page Grant) :=
  listPage .user token fun cursor => do
    let page ← Operation.ask (.members resource.key pageSize cursor)
    return ⟨memberGrants resource memberSlug page.items, page.next⟩

/-- The members of a group, all on one page. -/
def listGroupGrants (resource : ResourceId) : Operation (Page Grant) := do
  let group ← Operation.ofExcept (GroupId.read resource.key)
  let members ← Operation.ask (.groupMembers group)
  return ⟨memberGrants resource memberSlug members, ""⟩

/-- A page of the grants on a resource. -/
def listGrants (pageSize : UInt32) (resource : ResourceId) (token : String) :
    Enumeration (Page Grant) :=
  match resource.kind with
  | .workspace => Enumeration.ofOperation (listWorkspaceGrants pageSize resource token)
  | .userGroup => Enumeration.ofOperation (listGroupGrants resource)
  | .project => do
    let id ← Enumeration.ofExcept (ProjectId.read resource.key)
    listPhased pageSize resource (.project id) token
  | .repository => do
    let id ← Enumeration.ofExcept (RepositoryId.read resource.key)
    listPhased pageSize resource (.repository id) token
  | .user => return .empty

end AccessSync
