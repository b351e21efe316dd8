import AccessSync.Access.Kind

/-!
# The vocabulary of entitlements

Which slugs name an entitlement on a resource of a kind, who can hold it, and whether it can be
changed from here. Roles are held by users and groups; assignments link members to workspaces and
groups, and repositories to projects.
-/

namespace AccessSync

/-- What a permission reads as when there is none. -/
def noRole : String := "none"

/-- The assignment of members. -/
def memberSlug : String := "member"

/-- The assignment of repositories to projects. -/
def repositorySlug : String := "repository"

namespace Kind

/-- The roles on a resource of this kind. -/
def roles : Kind → List String
  | .project => ["read", "write", "create-repo", "admin"]
  | .repository => ["read", "write", "admin"]
  | .workspace | .userGroup | .user => []

/-- The assignments on a resource of this kind. -/
def assignments : Kind → List String
  | .workspace | .userGroup => [memberSlug]
  | .project => [repositorySlug]
  | .repository | .user => []

/-- The slug is a role. -/
def isRole (k : Kind) (slug : String) : Bool := k.roles.contains slug

/-- The slug names an entitlement. -/
def isKnownSlug (k : Kind) (slug : String) : Bool := k.isRole slug || k.assignments.contains slug

/-- The kinds of resources that can hold the entitlement. -/
def grantableTo (k : Kind) (slug : String) : List Kind :=
  if k.isRole slug then [.user, .userGroup]
  else match k with
    | .workspace | .userGroup => if slug = memberSlug then [.user] else []
    | .project => if slug = repositorySlug then [.repository] else []
    | .repository | .user => []

/-- The entitlement can be granted and revoked. -/
def isProvisionable (k : Kind) (slug : String) : Bool :=
  match k with
  | .userGroup => slug == memberSlug
  | .project | .repository => k.isRole slug
  | .workspace | .user => false

end Kind

end AccessSync
