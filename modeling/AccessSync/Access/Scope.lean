import AccessSync.Json.Value
import AccessSync.Text.Segment

/-!
# Scopes

The workspaces that validated credentials reach: the one that an access token belongs to, or those
of a user that passed the probe.
-/

namespace AccessSync

/-- What credentials reach. -/
inductive Scope
  | workspace (id : String)
  | user (id : String) (workspaces : List String)
deriving DecidableEq, Repr

namespace Scope

def workspaceIds : Scope → List String
  | .workspace id => [id]
  | .user _ workspaces => workspaces

/-- The workspace is in scope. -/
def contains (s : Scope) (workspace : String) : Bool := s.workspaceIds.contains workspace

def text : Scope → String
  | .workspace id => s!"workspace:{id}"
  | .user id workspaces => s!"user:{id} ({workspaces.length} workspaces)"

/-- The scope as a record. -/
def json : Scope → Json
  | .workspace id => .object [("kind", .text "workspace"), ("workspace_id", .text id)]
  | .user id workspaces =>
    .object [("kind", .text "user"), ("user_id", .text id),
      ("workspace_ids", .array (workspaces.map .text))]

end Scope

end AccessSync
