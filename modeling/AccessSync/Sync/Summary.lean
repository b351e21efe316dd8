import AccessSync.Sync.Walk
import AccessSync.Text.Column

/-!
# Summary

How many resources, entitlements and grants a sync found, by kind of resource. A kind without
resources has no row.
-/

namespace AccessSync.Sync

/-- A row of the summary. -/
structure Row where
  kind : Kind
  resources : Nat
  entitlements : Nat
  grants : Nat
deriving DecidableEq, Repr

/-- The kinds in their order. -/
def rankedKinds : List Kind := [.workspace, .project, .repository, .userGroup, .user]

/-- The row of a kind, if it was visited. -/
def rowOf? (visits : List Visit) (kind : Kind) : Option Row :=
  match visits.filter fun v => v.kind == kind with
  | [] => none
  | own =>
    some ⟨kind, own.length, own.foldl (· + ·.entitlements) 0, own.foldl (· + ·.grants) 0⟩

/-- The rows in the order of the kinds. -/
def rows (visits : List Visit) : List Row := rankedKinds.filterMap (rowOf? visits)

/-- A line of the table. -/
def tableLine (kind resources entitlements grants : String) : String :=
  Text.joinWith " " [Text.alignLeft 12 kind, Text.alignRight 10 resources,
    Text.alignRight 13 entitlements, Text.alignRight 8 grants]

def Row.line (r : Row) : String :=
  tableLine r.kind.name (toString r.resources) (toString r.entitlements) (toString r.grants)

/-- The table: its head, then its rows. -/
def table (visits : List Visit) : List String :=
  tableLine "TYPE" "RESOURCES" "ENTITLEMENTS" "GRANTS" :: (rows visits).map Row.line

end AccessSync.Sync
