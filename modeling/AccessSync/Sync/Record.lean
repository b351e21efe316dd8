import AccessSync.Access.Resource
import AccessSync.Json.Writer

/-!
# Records

What a sync tells, one record at a time: a resource, an entitlement on it, or a grant on it. As a
line of text, a record is one JSON object that says first what it is.
-/

namespace AccessSync.Sync

/-- A thing that a sync found. -/
inductive Record
  | resource (r : Resource)
  | entitlement (e : Entitlement)
  | grant (g : Grant)
deriving DecidableEq, Repr

namespace Record

/-- What the record is, and its fields. -/
def fields : Record → String × List (String × Json)
  | .resource r => ("resource", r.fields)
  | .entitlement e => ("entitlement", e.fields)
  | .grant g => ("grant", g.fields)

def json (r : Record) : Json :=
  let (tag, fields) := r.fields
  .object (("record", .text tag) :: fields)

/-- The record as a line, without the end of the line. -/
def line (r : Record) : String := r.json.compact

end Record

end AccessSync.Sync
