import AccessSync.Access.Resource
import AccessSync.Access.Vocabulary
import AccessSync.Text.Case

/-!
# Entitlements of a resource

The entitlements that a resource offers depend on its kind alone, so they are known without asking
anyone. An identifier names one of them, or nothing.
-/

namespace AccessSync

namespace Resource

/-- The name of an entitlement: the resource, its kind and the slug. -/
def entitlementName (r : Resource) (slug : String) : String :=
  s!"{r.displayName} {r.id.kind.title} {Text.capitalize slug}"

/-- An assignment on the resource. -/
def assignment (r : Resource) (slug : String) (holder : Kind) (description : String) :
    Entitlement :=
  .on r.id slug .assignment [holder] (r.entitlementName slug) description

/-- A role on the resource, held by users and groups. -/
def role (r : Resource) (slug : String) : Entitlement :=
  .on r.id slug .permission [.user, .userGroup] (r.entitlementName slug)
    s!"{Text.capitalize slug} access to {r.displayName} {r.id.kind.name} in Bitbucket"

/-- What can be held on the resource. -/
def entitlements (r : Resource) : List Entitlement :=
  match r.id.kind with
  | .workspace =>
    [r.assignment memberSlug .user s!"Workspace {r.displayName} role in Bitbucket"]
  | .userGroup =>
    [r.assignment memberSlug .user s!"Access to {r.displayName} userGroup in Bitbucket"]
  | .project =>
    r.assignment repositorySlug .repository s!"Access to {r.displayName} project in Bitbucket" ::
      Kind.project.roles.map r.role
  | .repository => Kind.repository.roles.map r.role
  | .user => []

/-- A resource of which no more is known than its identifier. -/
def bare (id : ResourceId) : Resource := ⟨id, id.key, none, .empty⟩

end Resource

/-- The entitlement that an identifier names. -/
def resolveEntitlement (s : String) : Except Failure Entitlement := do
  let (id, slug) ← readEntitlementId s
  match (Resource.bare id).entitlements.find? fun e => e.slug == slug with
  | some e => .ok e
  | none => .error (.unsupportedRole id.kind slug)

end AccessSync
