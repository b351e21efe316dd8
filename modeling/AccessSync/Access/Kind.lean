import AccessSync.Text.Case

/-!
# Kinds of resources

The five kinds of things that access is described for. A kind is read in any letter case and
written in lower case.
-/

namespace AccessSync

/-- What a resource is. The order of the constructors is the order of the kinds. -/
inductive Kind
  | workspace
  | project
  | repository
  | userGroup
  | user
deriving DecidableEq, Repr, Inhabited

namespace Kind

/-- The kinds as they are listed to a caller. -/
def all : List Kind := [.workspace, .userGroup, .user, .project, .repository]

/-- The place of a kind in the order. -/
def rank : Kind → Nat
  | .workspace => 0
  | .project => 1
  | .repository => 2
  | .userGroup => 3
  | .user => 4

/-- The name that identifiers and records use. -/
def name : Kind → String
  | .workspace => "workspace"
  | .project => "project"
  | .repository => "repository"
  | .userGroup => "user_group"
  | .user => "user"

/-- The name that people read. -/
def title : Kind → String
  | .workspace => "Workspace"
  | .project => "Project"
  | .repository => "Repository"
  | .userGroup => "UserGroup"
  | .user => "User"

/-- Access can be given to resources of this kind. -/
def isPrincipal : Kind → Bool
  | .user | .userGroup => true
  | .workspace | .project | .repository => false

/-- The kind with the given name. -/
def ofName? (s : String) : Option Kind :=
  match s with
  | "workspace" => some .workspace
  | "project" => some .project
  | "repository" => some .repository
  | "user_group" => some .userGroup
  | "user" => some .user
  | _ => none

/-- The kind whose name is the text up to letter case. -/
def read? (s : String) : Option Kind := ofName? (Text.lower s)

/-- What is said of a text that names no kind. -/
def unknownMessage (s : String) : String :=
  s!"invalid resource type '{s}', expected one of: workspace, project, repository, user_group, user"

theorem ofName?_name (k : Kind) : ofName? k.name = some k := by cases k <;> rfl

theorem name_of_ofName? {s : String} {k : Kind} (h : ofName? s = some k) : k.name = s := by
  unfold ofName? at h
  split at h <;> simp_all [name] <;> (subst h; rfl)

end Kind

/-- How an entitlement comes about: by belonging to something, or by a role. -/
inductive EntitlementKind
  | assignment
  | permission
deriving DecidableEq, Repr, Inhabited

def EntitlementKind.name : EntitlementKind → String
  | .assignment => "assignment"
  | .permission => "permission"

end AccessSync
