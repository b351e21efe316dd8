import AccessSync.Access.Resource

/-!
# First sightings of grants

The same grant can be reached on several ways, and is returned once per enumeration. For every
resource it is kept where each of its grants was seen first; a page keeps the grants that were
first seen on it. So a page that is served again is the same page, and only the start of a new
enumeration forgets.

* `FirstSeen.position?`: where a grant was seen first.
* `FirstSeen.retainNew`: the grants that a page keeps.
-/

namespace AccessSync

/-- What tells grants on one resource apart: slug and principal. -/
abbrev GrantKey : Type := String × ResourceId

instance : LawfulBEq GrantKey := inferInstanceAs (LawfulBEq (String × ResourceId))

def Grant.key (g : Grant) : GrantKey := (g.slug, g.principal)

/-- Where the grants of each resource were seen first. -/
structure FirstSeen where
  tables : List (ResourceId × List (GrantKey × String))
deriving DecidableEq, Repr

namespace FirstSeen

/-- Nothing has been seen. -/
def empty : FirstSeen := ⟨[]⟩

/-- The sightings on a resource. -/
def table (s : FirstSeen) (resource : ResourceId) : List (GrantKey × String) :=
  (s.tables.lookup resource).getD []

/-- Where a grant was seen first. -/
def position? (s : FirstSeen) (resource : ResourceId) (key : GrantKey) : Option String :=
  (s.table resource).lookup key

/-- The sightings on a resource are forgotten. -/
def reset (s : FirstSeen) (resource : ResourceId) : FirstSeen :=
  ⟨s.tables.filter fun (other, _) => other != resource⟩

/-- The tables with one replaced. -/
def replaceTable (resource : ResourceId) (table : List (GrantKey × String)) :
    List (ResourceId × List (GrantKey × String)) → List (ResourceId × List (GrantKey × String))
  | [] => [(resource, table)]
  | (other, old) :: rest =>
    if other = resource then (resource, table) :: rest
    else (other, old) :: replaceTable resource table rest

/-- A grant that was not seen before is seen at a position. -/
def record (s : FirstSeen) (resource : ResourceId) (key : GrantKey) (position : String) :
    FirstSeen :=
  ⟨replaceTable resource ((key, position) :: s.table resource) s.tables⟩

/-- The grants of a page that are seen at its position for the first time, of repeated ones the
first, and what has been seen then. -/
def retainFrom (position : String) (onPage : List GrantKey) (s : FirstSeen) :
    List Grant → List Grant × FirstSeen
  | [] => ([], s)
  | g :: rest =>
    if g.key ∈ onPage then retainFrom position onPage s rest
    else
      match s.position? g.resource g.key with
      | none =>
        let (kept, seen) :=
          retainFrom position (g.key :: onPage) (s.record g.resource g.key position) rest
        (g :: kept, seen)
      | some first =>
        let (kept, seen) := retainFrom position (g.key :: onPage) s rest
        (if first = position then g :: kept else kept, seen)

/-- The grants that the page at a position keeps, and what has been seen then. -/
def retainNew (s : FirstSeen) (position : String) (grants : List Grant) : List Grant × FirstSeen :=
  retainFrom position [] s grants

end FirstSeen

end AccessSync
