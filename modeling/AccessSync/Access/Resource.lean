import AccessSync.Access.Id
import AccessSync.Access.Profile

/-!
# Resources, entitlements, grants

A resource is listed with its name, its parent and a profile; an entitlement is something that can
be held on a resource; a grant says that a principal holds it. All three are plain values, and each
has a record form.
-/

namespace AccessSync

/-- A thing that access is described for. -/
structure Resource where
  id : ResourceId
  displayName : String
  parent : Option ResourceId
  profile : Profile
deriving DecidableEq, Repr

/-- Something that can be held on a resource. -/
structure Entitlement where
  id : String
  resource : ResourceId
  slug : String
  kind : EntitlementKind
  displayName : String
  description : String
  grantableTo : List Kind
deriving DecidableEq, Repr

/-- The entitlement `slug` on a resource. -/
def Entitlement.on (resource : ResourceId) (slug : String) (kind : EntitlementKind)
    (grantableTo : List Kind) (displayName description : String) : Entitlement :=
  { id := entitlementId resource slug, resource, slug, kind, displayName, description, grantableTo }

/-- Resources of a kind can hold the entitlement. -/
def Entitlement.isGrantableTo (e : Entitlement) (kind : Kind) : Bool := e.grantableTo.contains kind

/-- A principal holds the entitlement `slug` on a resource. -/
structure Grant where
  id : String
  entitlementId : String
  resource : ResourceId
  slug : String
  principal : ResourceId
deriving DecidableEq, Repr

/-- The grant of `slug` on a resource to a principal. -/
def Grant.of (resource : ResourceId) (slug : String) (principal : ResourceId) : Grant :=
  let entitlement := AccessSync.entitlementId resource slug
  { id := entitlement ++ ":" ++ principal.text, entitlementId := entitlement, resource, slug,
    principal }

/-- A page of a listing, and the token that asks for the next one; the empty token says that this
is the last. -/
structure Page (α : Type) where
  items : List α
  next : String
deriving DecidableEq, Repr

/-- The only page of a listing of nothing. -/
def Page.empty {α : Type} : Page α := ⟨[], ""⟩

/-! ## Records -/

def ResourceId.json (id : ResourceId) : Json :=
  .object [("resource_type", .text id.kind.name), ("resource", .text id.key)]

/-- The fields of a resource's record; parent and profile only when there are any. -/
def Resource.fields (r : Resource) : List (String × Json) :=
  [("id", r.id.json), ("display_name", .text r.displayName)] ++
    (match r.parent with
      | some parent => [("parent_id", parent.json)]
      | none => []) ++
    if r.profile.isEmpty then [] else [("profile", r.profile.json)]

def Entitlement.fields (e : Entitlement) : List (String × Json) :=
  [("id", .text e.id), ("resource", e.resource.json), ("slug", .text e.slug),
    ("kind", .text e.kind.name), ("display_name", .text e.displayName),
    ("description", .text e.description),
    ("grantable_to", .array (e.grantableTo.map fun k => .text k.name))]

def Grant.fields (g : Grant) : List (String × Json) :=
  [("id", .text g.id), ("entitlement_id", .text g.entitlementId), ("resource", g.resource.json),
    ("slug", .text g.slug), ("principal", g.principal.json)]

def Resource.json (r : Resource) : Json := .object r.fields

def Entitlement.json (e : Entitlement) : Json := .object e.fields

def Grant.json (g : Grant) : Json := .object g.fields

end AccessSync
