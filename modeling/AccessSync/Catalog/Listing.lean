import AccessSync.Access.PageStack
import AccessSync.Access.Scope
import AccessSync.Api.Dialogue
import AccessSync.Catalog.Resource

/-!
# Listing resources

The resources of one kind below a parent, page by page. Workspaces have no parent; users, groups
and projects are listed below a workspace, repositories below a project. Below anything else there
is nothing to list.
-/

namespace AccessSync

open Api (Endpoint)

/-- One page of a list that is asked for page by page: where the token points to, and with the token
after it. -/
def listPage {α : Type} (kind : Kind) (token : String) (fetch : String → Operation (Page α)) :
    Operation (Page α) := do
  let stack := (← Operation.ofExcept (PageStack.decode token)).startWith kind.name
  let page ← fetch stack.cursor
  return ⟨page.items, stack.nextToken page.next⟩

/-- The parent, when it is of the wanted kind. -/
def parentOf (kind : Kind) (parent : Option ResourceId) : Option ResourceId :=
  parent.filter fun p => p.kind == kind

/-- The workspaces in scope: the only one, or those of the caller's workspaces that are in scope. -/
def listWorkspaces (pageSize : UInt32) (scope : Scope) (token : String) :
    Operation (Page Resource) :=
  match scope with
  | .workspace id => do
    let workspace ← Operation.ask (.workspace id)
    return ⟨[workspace.resource], ""⟩
  | .user .. =>
    listPage .workspace token fun cursor => do
      let page ← Operation.ask (.workspaces pageSize cursor)
      return ⟨(page.items.filter fun w => scope.contains w.uuid).map (·.resource), page.next⟩

/-- The members of a workspace. -/
def listUsers (pageSize : UInt32) (workspace : ResourceId) (token : String) :
    Operation (Page Resource) :=
  listPage .user token fun cursor => do
    let page ← Operation.ask (.members workspace.key pageSize cursor)
    return ⟨page.items.map (·.resource workspace), page.next⟩

/-- The groups of a workspace, all on one page. -/
def listGroups (workspace : ResourceId) : Operation (Page Resource) := do
  let groups ← Operation.ask (.groups workspace.key)
  return ⟨groups.map (·.resource workspace), ""⟩

/-- The projects of a workspace. -/
def listProjects (pageSize : UInt32) (workspace : ResourceId) (token : String) :
    Operation (Page Resource) :=
  listPage .project token fun cursor => do
    let page ← Operation.ask (.projects workspace.key pageSize cursor)
    return ⟨page.items.map (·.resource workspace), page.next⟩

/-- The repositories of a project. -/
def listRepositories (pageSize : UInt32) (parent : ResourceId) (token : String) :
    Operation (Page Resource) := do
  let project ← Operation.ofExcept (ProjectId.read parent.key)
  listPage .repository token fun cursor => do
    let page ← Operation.ask (.repositories project.workspace project.project pageSize cursor)
    return ⟨page.items.map (·.resource parent project), page.next⟩

/-- The resources of a kind below a parent. -/
def listKind (pageSize : UInt32) (scope : Scope) (kind : Kind) (parent : Option ResourceId)
    (token : String) : Operation (Page Resource) :=
  let below (parentKind : Kind) (list : ResourceId → Operation (Page Resource)) :
      Operation (Page Resource) :=
    match parentOf parentKind parent with
    | some p => list p
    | none => return .empty
  match kind with
  | .workspace => listWorkspaces pageSize scope token
  | .user => below .workspace fun w => listUsers pageSize w token
  | .userGroup => below .workspace listGroups
  | .project => below .workspace fun w => listProjects pageSize w token
  | .repository => below .project fun p => listRepositories pageSize p token

end AccessSync
