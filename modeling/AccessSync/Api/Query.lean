import AccessSync.Text.Segment
import AccessSync.Url.Form

/-!
# Queries

The parameters that a request adds to its URL: how much of a list is asked for, where to go on,
which entries are wanted and which fields are left out.
-/

namespace AccessSync.Api

/-- The parameters of a request. -/
structure Query where
  length : Option UInt32
  cursor : Option String
  filter : Option String
  fields : List String
deriving DecidableEq, Repr

namespace Query

/-- No parameters. -/
def bare : Query := ⟨none, none, none, []⟩

/-- The fields that no request asks for: nested link objects. -/
def linkFields : List String := ["-links", "-*.links", "-*.*.links"]

/-- The links are left out. -/
def withoutLinks : Query := { bare with fields := linkFields }

/-- A page of the given length; the empty cursor asks for the first one. -/
def page (q : Query) (length : UInt32) (cursor : String) : Query :=
  { q with length := some length, cursor := if cursor = "" then none else some cursor }

/-- Only entries that pass the filter. -/
def only (q : Query) (filter : String) : Query := { q with filter := some filter }

/-- More fields are left out. -/
def without (q : Query) (fields : List String) : Query := { q with fields := q.fields ++ fields }

/-- The parameters by name, in the order they are written. -/
def pairs (q : Query) : List (String × String) :=
  (q.length.map fun n => ("pagelen", toString n.toNat)).toList ++
    (q.cursor.map fun s => ("page", s)).toList ++
    (q.filter.map fun s => ("q", s)).toList ++
    if q.fields.isEmpty then [] else [("fields", Text.joinWith "," q.fields)]

/-- The URL with the parameters after those it has. -/
def apply (q : Query) (u : Url) : Url := u.append q.pairs

end Query

end AccessSync.Api
