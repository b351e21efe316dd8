import AccessSync.Access.Resource
import AccessSync.Api.Dialogue
import AccessSync.Grants.Listing
import AccessSync.Provision.Request

/-!
# Changing access

A change reads what is there and then writes once. A role overwrites the one that was held before,
and taking a role away takes whatever is held; both are worth a warning. Membership is strict: who
is a member already cannot be added. Taking away what is not there succeeds.

* `giveAccess`, `takeAccess`: a principal gets or loses an entitlement.
-/

namespace AccessSync

open Api (Endpoint Target)

/-- What taking away leaves when there was nothing: success, with a warning that names what was
gone. -/
def tolerateAbsence (what : String) (reply : Except Fault Unit) : Operation Unit :=
  match reply with
  | .ok () => return ()
  | .error f =>
    if f.isNotFound then
      Operation.report (.warn (what ++ " already absent upstream") [("error", f.message)])
    else throw f.failure

/-! ## Membership -/

/-- The user is a member of the group. -/
def isMember (group : GroupId) (user : String) : Operation Bool := do
  let members ← Operation.ask (.groupMembers group)
  return members.any fun (m : Api.User) => m.uuid == user

/-- The user becomes a member of the group. -/
def addMember (group : GroupId) (user : String) : Operation Unit := do
  if ← isMember group user then
    throw (.alreadyGranted s!"user {user} is already a member of group {group.text}")
  Operation.ask (.addMember group user)

/-- The user is no member of the group any more. -/
def removeMember (group : GroupId) (user : String) : Operation Unit := do
  if !(← isMember group user) then
    Operation.report (.warn "User is not a member of the group, removing anyway"
      [("group", group.text), ("user", user)])
  tolerateAbsence "group membership" (← Operation.attempt (.removeMember group user))

/-! ## Roles -/

/-- The role that an entry of a permission table gives; without an entry there is none. -/
def roleOf {α : Type} : Except Fault (Api.Held α) → Except Failure String
  | .ok held => .ok held.role
  | .error f => if f.isNotFound then .ok noRole else .error f.failure

/-- The role that a holder has. -/
def currentRole (target : Target) (holder : Holder) : Operation String := do
  Operation.ofExcept (roleOf (← Operation.attempt (.role target holder.side holder.name)))

/-- The holder gets the role. -/
def setRole (target : Target) (principal : ResourceId) (role : String) : Operation Unit := do
  let holder ← Operation.ofExcept (Holder.read principal target.workspace)
  let current ← currentRole target holder
  if current ≠ noRole then
    Operation.report (.warn "Principal already has a permission, overwriting"
      [("principal", principal.text), ("current", current), ("requested", role)])
  Operation.ask (.setRole target holder.side holder.name role)

/-- What is worth a warning when a role is taken away. -/
def dropWarning (principal : ResourceId) (current role : String) : List Event :=
  if current = noRole then
    [.warn "Principal has no permission to revoke" [("principal", principal.text), ("role", role)]]
  else if current ≠ role then
    [.warn "Principal holds a different permission, removing it"
      [("principal", principal.text), ("current", current), ("revoked", role)]]
  else []

/-- The holder loses whatever role it has. -/
def dropRole (target : Target) (principal : ResourceId) (role : String) : Operation Unit := do
  let holder ← Operation.ofExcept (Holder.read principal target.workspace)
  let current ← currentRole target holder
  (dropWarning principal current role).forM Operation.report
  tolerateAbsence "permission" (← Operation.attempt (.dropRole target holder.side holder.name))

/-! ## Requests -/

/-- What is changed on a resource: the members of a group, or a permission table. -/
inductive Changed
  | members (group : GroupId)
  | roles (target : Target)
deriving DecidableEq, Repr

/-- What a request for the slug changes on a resource. -/
def Changed.read (resource : ResourceId) (slug : String) : Except Failure Changed :=
  match resource.kind with
  | .userGroup => (GroupId.read resource.key).map .members
  | .project => (ProjectId.read resource.key).map fun id => .roles (Holding.project id).target
  | .repository =>
    (RepositoryId.read resource.key).map fun id => .roles (Holding.repository id).target
  | kind => .error (.notProvisionable kind slug)

/-- The principal gets the entitlement `slug` on the resource. -/
def giveAccess (principal resource : ResourceId) (slug : String) : Operation Unit := do
  Operation.ofExcept (checkRequest principal resource slug)
  match ← Operation.ofExcept (Changed.read resource slug) with
  | .members group => addMember group principal.key
  | .roles target => setRole target principal slug

/-- The principal loses the entitlement `slug` on the resource. -/
def takeAccess (principal resource : ResourceId) (slug : String) : Operation Unit := do
  Operation.ofExcept (checkRequest principal resource slug)
  match ← Operation.ofExcept (Changed.read resource slug) with
  | .members group => removeMember group principal.key
  | .roles target => dropRole target principal slug

end AccessSync
