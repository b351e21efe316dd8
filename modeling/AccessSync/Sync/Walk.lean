import AccessSync.Connector
import AccessSync.Sync.Record

/-!
# The walk

A sync walks the tree of resources from a queue of lists that are still to be made: the workspaces,
then the users, groups and projects of each, then the repositories of each project. Every resource
that is found is visited once: its record, then its entitlements, then all its grants.

* `walk`: the whole walk, as records on the way and one visit for each resource.
-/

namespace AccessSync.Sync

/-- What the walk leaves on its way. -/
inductive Note
  | record (r : Record)
  | event (e : Event)
deriving DecidableEq, Repr

/-- Work on the way; what has been seen outlasts a failure. -/
abbrev Walk : Type → Type := ExceptT Failure (StateT FirstSeen (Plan Note Api.Endpoint.Reply))

namespace Walk

/-- A record on the way. -/
def emit (r : Record) : Walk Unit := ExceptT.lift (StateT.lift (Plan.report (.record r)))

/-- An enumeration on the way. -/
def ofEnumeration {α : Type} (work : Enumeration α) : Walk α := fun seen =>
  (work seen).mapNotes fun e => [.event e]

/-- An operation on the way. -/
def ofOperation {α : Type} (work : Operation α) : Walk α := ofEnumeration (.ofOperation work)

/-- The end of a walk that goes round too often. -/
def endless {α : Type} : Walk α := ExceptT.lift (StateT.lift (.stop .rounds))

end Walk

/-- What is counted of a visit. -/
structure Visit where
  kind : Kind
  entitlements : Nat
  grants : Nat
deriving DecidableEq, Repr

/-- What a sync is asked to do. -/
structure Task where
  connector : Connector
  scope : Scope
  /-- Grants are listed as well. -/
  withGrants : Bool
  /-- How many pages a list may have. -/
  limit : Nat

namespace Task

/-- One more page of the resources of a kind below a parent, after those found before. -/
def moreResources (t : Task) (kind : Kind) (parent : Option ResourceId) (done : List Resource)
    (token : String) : Walk ((List Resource × String) ⊕ List Resource) := do
  let page ← Walk.ofOperation (t.connector.listResources t.scope kind parent token)
  let found := done ++ page.items
  if page.next = "" then return .inr found else return .inl (found, page.next)

/-- Every resource of a kind below a parent, page after page. -/
def listAll (t : Task) (kind : Kind) (parent : Option ResourceId) : Walk (List Resource) :=
  repeatUpTo Walk.endless (fun (done, token) => t.moreResources kind parent done token) t.limit
    ([], "")

/-- The records of one more page of the grants on a resource, after so many before. -/
def moreGrants (t : Task) (resource : ResourceId) (count : Nat) (token : String) :
    Walk ((Nat × String) ⊕ Nat) := do
  let page ← Walk.ofEnumeration (t.connector.listGrants t.scope resource token)
  page.items.forM fun g => Walk.emit (.grant g)
  let count := count + page.items.length
  if page.next = "" then return .inr count else return .inl (count, page.next)

/-- The records of every grant on a resource, page after page, and how many there are. -/
def emitGrants (t : Task) (resource : ResourceId) : Walk Nat :=
  repeatUpTo Walk.endless (fun (count, token) => t.moreGrants resource count token) t.limit (0, "")

/-- The records of a resource. -/
def visit (t : Task) (r : Resource) : Walk Visit := do
  Walk.emit (.resource r)
  r.entitlements.forM fun e => Walk.emit (.entitlement e)
  let grants ← if t.withGrants then t.emitGrants r.id else pure 0
  return ⟨r.id.kind, r.entitlements.length, grants⟩

end Task

/-- A list that is still to be made: a kind below a parent. -/
abbrev Entry : Type := Kind × Option ResourceId

/-- The kinds that are listed below a kind. -/
def childKinds : Kind → List Kind
  | .workspace => [.user, .userGroup, .project]
  | .project => [.repository]
  | .repository | .userGroup | .user => []

/-- The lists below a resource that was listed as one of a kind. -/
def entriesBelow (kind : Kind) (r : Resource) : List Entry :=
  (childKinds kind).map fun child => (child, some r.id)

/-- How much a queue of lists can still grow, and how long it is. Below a list of a kind there are
only lists of kinds with less below them, so whatever is found, it is less work than the list was.
-/
def workLeft (entries : List Entry) : Nat × Nat × Nat :=
  (entries.countP (·.1 = .workspace), entries.countP (·.1 = .project), entries.length)

theorem countP_below {kind k : Kind} (h : k ∉ childKinds kind) (rest : List Entry)
    (found : List Resource) :
    (rest ++ found.flatMap (entriesBelow kind)).countP (·.1 = k) = rest.countP (·.1 = k) := by
  have hbelow : (found.flatMap (entriesBelow kind)).countP (·.1 = k) = 0 := by
    rw [List.countP_eq_zero]
    intro entry hentry
    obtain ⟨r, _, hr⟩ := List.mem_flatMap.1 hentry
    obtain ⟨child, hchild, rfl⟩ := List.mem_map.1 hr
    simp only [decide_eq_true_eq]
    rintro rfl
    exact h hchild
  rw [List.countP_append, hbelow, Nat.add_zero]

/-- **The queue gets less** with every list that is made. -/
theorem workLeft_lt (kind : Kind) (parent : Option ResourceId) (rest : List Entry)
    (found : List Resource) :
    Prod.Lex (· < ·) (Prod.Lex (· < ·) (· < ·))
      (workLeft (rest ++ found.flatMap (entriesBelow kind)))
      (workLeft ((kind, parent) :: rest)) := by
  have hnone : childKinds kind = [] → found.flatMap (entriesBelow kind) = [] := by
    intro h
    simp [entriesBelow, h]
  unfold workLeft
  cases kind with
  | workspace =>
    apply Prod.Lex.left
    rw [countP_below (by decide)]
    simp
  | project =>
    rw [countP_below (by decide)]
    apply Prod.Lex.right
    apply Prod.Lex.left
    rw [countP_below (by decide)]
    simp
  | repository => rw [hnone rfl]; simp [Prod.lex_def]
  | userGroup => rw [hnone rfl]; simp [Prod.lex_def]
  | user => rw [hnone rfl]; simp [Prod.lex_def]

namespace Task

/-- Visits to the resources of one list. -/
def visitAll (t : Task) : List Resource → Walk (List Visit)
  | [] => return []
  | r :: rest => do
    let first ← t.visit r
    return first :: (← t.visitAll rest)

/-- Visits to everything in a queue of lists and below: the lists below what is found wait at the
end of the queue. -/
def drain (t : Task) : List Entry → Walk (List Visit)
  | [] => return []
  | (kind, parent) :: rest => do
    let found ← t.listAll kind parent
    let visits ← t.visitAll found
    return visits ++ (← t.drain (rest ++ found.flatMap (entriesBelow kind)))
  termination_by entries => workLeft entries
  decreasing_by exact workLeft_lt kind parent rest found

/-- The whole tree. -/
def walk (t : Task) : Walk (List Visit) := t.drain [(.workspace, none)]

end Task

end AccessSync.Sync
