import AccessSync.Access.Resource
import AccessSync.Json.Shape
import AccessSync.Url.Form
import AccessSync.Url.Reader

/-!
# Payloads

The records that the server sends, as far as they are used, and the shape each is read by.
-/

namespace AccessSync.Api

open Json (Shape Decoder)

/-- A workspace. -/
structure Workspace where
  uuid : String
  slug : String
  name : String
deriving DecidableEq, Repr, Inhabited

def Workspace.shape : Shape Workspace :=
  ((Shape.required "uuid" .text).both
    ((Shape.optional "slug" .text "").both (.optional "name" .text ""))).map
    fun (uuid, slug, name) => ⟨uuid, slug, name⟩

/-- An account; credentials of a workspace show as an account of kind `team`. -/
structure User where
  uuid : String
  displayName : String
  nickname : String
  kind : String
deriving DecidableEq, Repr, Inhabited

namespace User

def shape : Shape User :=
  ((Shape.required "uuid" .text).both
    ((Shape.optional "display_name" .text "").both
      ((Shape.optional "nickname" .text "").both (.optional "type" .text "")))).map
    fun (uuid, displayName, nickname, kind) => ⟨uuid, displayName, nickname, kind⟩

/-- First and last name: the display name cut at its first space. -/
def splitName (u : User) : String × String :=
  (Text.cut ' ' u.displayName).getD (u.displayName, "")

end User

/-- The account of a member of a workspace. -/
def memberShape : Shape User := Shape.required "user" User.shape.decode

/-- A project. -/
structure Project where
  uuid : String
  key : String
  name : String
deriving DecidableEq, Repr, Inhabited

def Project.shape : Shape Project :=
  ((Shape.required "uuid" .text).both
    ((Shape.required "key" .text).both (.optional "name" .text ""))).map
    fun (uuid, key, name) => ⟨uuid, key, name⟩

/-- A repository. -/
structure Repository where
  uuid : String
  name : String
  fullName : String
deriving DecidableEq, Repr, Inhabited

def Repository.shape : Shape Repository :=
  ((Shape.required "uuid" .text).both
    ((Shape.optional "name" .text "").both (.optional "full_name" .text ""))).map
    fun (uuid, name, fullName) => ⟨uuid, name, fullName⟩

/-- A user group, with the members that its listing tells. -/
structure UserGroup where
  slug : String
  name : String
  permission : Option String
  members : List User
deriving DecidableEq, Repr, Inhabited

def UserGroup.shape : Shape UserGroup :=
  ((Shape.required "slug" .text).both
    ((Shape.optional "name" .text "").both
      ((Shape.optional "permission" .textOrNull none).both
        (.optional "members" (.list User.shape.decode) [])))).map
    fun (slug, name, permission, members) => ⟨slug, name, permission, members⟩

/-- A mention of a user group. -/
structure GroupRef where
  slug : String
  name : String
deriving DecidableEq, Repr, Inhabited

def GroupRef.shape : Shape GroupRef :=
  ((Shape.required "slug" .text).both (.optional "name" .text "")).map
    fun (slug, name) => ⟨slug, name⟩

/-- A role and who holds it. -/
structure Held (α : Type) where
  role : String
  holder : α
deriving DecidableEq, Repr, Inhabited

/-- The shape of a role whose holder stands in the field `name`. -/
def Held.shape {α : Type} (name : String) (holder : Shape α) : Shape (Held α) :=
  ((Shape.required "permission" .text).both (.required name holder.decode)).map
    fun (role, holder) => ⟨role, holder⟩

/-- The role of a group. -/
def groupRoleShape : Shape (Held GroupRef) := Held.shape "group" GroupRef.shape

/-- The role of an account. -/
def userRoleShape : Shape (Held User) := Held.shape "user" User.shape

/-! ## Lists in pages -/

/-- A page of a list, and the link to the next one. -/
structure Listing (α : Type) where
  values : List α
  next : Option String
deriving DecidableEq, Repr

namespace Listing

def shape {α : Type} (item : Shape α) : Shape (Listing α) :=
  ((Shape.optional "values" (.list item.decode) []).both (.optional "next" .textOrNull none)).map
    fun (values, next) => ⟨values, next⟩

/-- The cursor in a link: the value of its first parameter `page`. -/
def cursorOf (link : String) : String :=
  match Url.read link with
  | .error _ => ""
  | .ok url => (url.pairs.lookup "page").getD ""

/-- The cursor of the next page; empty when there is none, or when the link tells none. -/
def nextCursor {α : Type} (l : Listing α) : String := (l.next.map cursorOf).getD ""

/-- The page, with the cursor in place of the link. -/
def page {α : Type} (l : Listing α) : Page α := ⟨l.values, l.nextCursor⟩

end Listing

end AccessSync.Api
