import AccessSync.Access.Failure
import AccessSync.Text.Segment

/-!
# Identifiers

A resource is named by its kind and a key. The key of a group, a project or a repository holds the
keys of what it lies in, so it is made of segments joined by colons. Reading is the inverse of
writing on segments that are neither empty nor hold a colon.
-/

namespace AccessSync

/-- The kind and the key of a resource. -/
structure ResourceId where
  kind : Kind
  key : String
deriving DecidableEq, Repr, Inhabited

namespace ResourceId

def text (id : ResourceId) : String := id.kind.name ++ ":" ++ id.key

/-- The identifier that a reference `kind:key` stands for; the key is everything after the first
colon. -/
def read (s : String) : Except Failure ResourceId :=
  match Text.cut ':' s with
  | none => .error (.invalidArgument s!"invalid resource reference: {s}")
  | some (kind, key) =>
    if key = "" then .error (.invalidArgument s!"invalid resource reference: {s}")
    else match Kind.read? kind with
      | none => .error (.invalidArgument (Kind.unknownMessage kind))
      | some k => .ok ⟨k, key⟩

end ResourceId

/-- What is said of a key that does not have the segments of its kind. -/
def badKey (what : String) (count : Nat) (s : String) : Failure :=
  let found := (Text.segments ':' s).length
  .invalidArgument
    s!"invalid {what} id '{s}': expected {count} non-empty segments, found {found}"

/-- The key of a project: workspace, project and project key. -/
structure ProjectId where
  workspace : String
  project : String
  key : String
deriving DecidableEq, Repr, Inhabited

def ProjectId.text (id : ProjectId) : String := id.workspace ++ ":" ++ id.project ++ ":" ++ id.key

def ProjectId.read (s : String) : Except Failure ProjectId :=
  match Text.segments ':' s with
  | [workspace, project, key] =>
    if "" ∈ [workspace, project, key] then .error (badKey "project" 3 s)
    else .ok ⟨workspace, project, key⟩
  | _ => .error (badKey "project" 3 s)

/-- The key of a repository: its project and the repository. -/
structure RepositoryId where
  project : ProjectId
  repository : String
deriving DecidableEq, Repr, Inhabited

namespace RepositoryId

def workspace (id : RepositoryId) : String := id.project.workspace

def text (id : RepositoryId) : String := id.project.text ++ ":" ++ id.repository

def read (s : String) : Except Failure RepositoryId :=
  match Text.segments ':' s with
  | [workspace, project, key, repository] =>
    if "" ∈ [workspace, project, key, repository] then .error (badKey "repository" 4 s)
    else .ok ⟨⟨workspace, project, key⟩, repository⟩
  | _ => .error (badKey "repository" 4 s)

end RepositoryId

/-- The key of a user group: workspace and slug. -/
structure GroupId where
  workspace : String
  slug : String
deriving DecidableEq, Repr, Inhabited

def GroupId.text (id : GroupId) : String := id.workspace ++ ":" ++ id.slug

def GroupId.read (s : String) : Except Failure GroupId :=
  match Text.segments ':' s with
  | [workspace, slug] =>
    if "" ∈ [workspace, slug] then .error (badKey "user group" 2 s) else .ok ⟨workspace, slug⟩
  | _ => .error (badKey "user group" 2 s)

/-! ## Entitlements -/

/-- The identifier of the entitlement `slug` on a resource. -/
def entitlementId (resource : ResourceId) (slug : String) : String := resource.text ++ ":" ++ slug

/-- The resource and the slug that an entitlement's identifier stands for: at least three
segments, none empty, the first the kind and the last the slug. -/
def readEntitlementId (s : String) : Except Failure (ResourceId × String) :=
  let invalid := Failure.invalidArgument s!"invalid entitlement id: {s}"
  match Text.segments ':' s with
  | kind :: first :: second :: rest =>
    let inner := first :: second :: rest
    if "" ∈ kind :: inner then .error invalid
    else match Kind.read? kind with
      | none => .error (.invalidArgument (Kind.unknownMessage kind))
      | some k => .ok (⟨k, Text.joinWith ":" inner.dropLast⟩, inner.getLastD "")
  | _ => .error invalid

end AccessSync
