import AccessSync.Access.Resource
import AccessSync.Api.Payload

/-!
# Resources of the server's records

Each record of the server as a resource: its identifier within the parent it was listed under, its
name, and a profile of what the record tells.
-/

namespace AccessSync.Api

/-- A workspace; it has no parent, and goes by its slug. -/
def Workspace.resource (w : Workspace) : Resource where
  id := ⟨.workspace, w.uuid⟩
  displayName := w.slug
  parent := none
  profile := (Profile.empty.setText "workspace_slug" w.slug).setText "workspace_name" w.name

/-- An account. -/
def User.resource (parent : ResourceId) (u : User) : Resource where
  id := ⟨.user, u.uuid⟩
  displayName := u.displayName
  parent := some parent
  profile :=
    (((Profile.empty.setText "first_name" u.splitName.1).setText "last_name" u.splitName.2).setText
      "login" u.nickname).setText "user_id" u.uuid

/-- A user group of a workspace. The members are told only when the record has any. -/
def UserGroup.resource (workspace : ResourceId) (g : UserGroup) : Resource where
  id := ⟨.userGroup, GroupId.text ⟨workspace.key, g.slug⟩⟩
  displayName := g.name
  parent := some workspace
  profile :=
    let told := ((Profile.empty.setText "userGroup_name" g.name).setText
      "userGroup_slug" g.slug).setText "userGroup_permission" (g.permission.getD "")
    if g.members.isEmpty then told
    else told.set "userGroup_members" (.many (g.members.map (·.uuid)))

/-- A project of a workspace. -/
def Project.resource (workspace : ResourceId) (p : Project) : Resource where
  id := ⟨.project, ProjectId.text ⟨workspace.key, p.uuid, p.key⟩⟩
  displayName := p.name
  parent := some workspace
  profile := ((Profile.empty.setText "project_id" p.uuid).setText "project_name" p.name).setText
    "project_key" p.key

/-- A repository of a project; it goes by its full name. -/
def Repository.resource (parent : ResourceId) (project : ProjectId) (r : Repository) :
    Resource where
  id := ⟨.repository, RepositoryId.text ⟨project, r.uuid⟩⟩
  displayName := r.fullName
  parent := some parent
  profile := ((Profile.empty.setText "repository_id" r.uuid).setText
    "repository_name" r.name).setText "repository_full_name" r.fullName

end AccessSync.Api
