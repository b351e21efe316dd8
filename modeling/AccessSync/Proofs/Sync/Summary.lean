import AccessSync.Proofs.Sync.Catalogue
import AccessSync.Proofs.Sync.Integrity
import AccessSync.Proofs.Text.Column
import AccessSync.Sync.Summary
import Mathlib.Algebra.GroupWithZero.Nat

/-!
# Summaries count records

The rows of a summary are made from what a walk counted, its records from what it told. Both come
from the same nodes, so the rows count the records. The line of a row shows its kind and its three
numbers, however wide the columns are.

* `Record.about`: the resource that a record is about.
* `Summarizes`: rows that count records.
* `summarizes_rows`: the rows of a walk count its records.
* `Row.words_line`: what the line of a row shows.
-/

namespace AccessSync.Sync

namespace Record

/-- The kind of the resource that the record is about. -/
def about : Record → Kind
  | .resource r => r.id.kind
  | .entitlement e => e.resource.kind
  | .grant g => g.resource.kind

def isResource : Record → Bool
  | .resource _ => true
  | .entitlement _ | .grant _ => false

def isEntitlement : Record → Bool
  | .entitlement _ => true
  | .resource _ | .grant _ => false

def isGrant : Record → Bool
  | .grant _ => true
  | .resource _ | .entitlement _ => false

end Record

/-- How many of the records are of a sort, and about resources of a kind. -/
def countAbout (sort : Record → Bool) (kind : Kind) (records : List Record) : Nat :=
  records.countP fun r => sort r && r.about == kind

/-- The rows count the records: there is one for each kind that a resource was told of, in the order
of the kinds, with the numbers of resources, entitlements and grants that were told. Grants are
counted when they are asked for. -/
structure Summarizes (records : List Record) (withGrants : Bool) (rows : List Row) : Prop where
  ordered : rows.Pairwise fun a b => a.kind.rank < b.kind.rank
  kinds : ∀ k, (∃ row ∈ rows, row.kind = k) ↔ ∃ r, .resource r ∈ records ∧ r.id.kind = k
  resources : ∀ row ∈ rows, row.resources = countAbout Record.isResource row.kind records
  entitlements : ∀ row ∈ rows, row.entitlements = countAbout Record.isEntitlement row.kind records
  grants : ∀ row ∈ rows, row.grants =
    if withGrants then countAbout Record.isGrant row.kind records else 0

/-! ## Sums over visits -/

theorem foldl_eq_sum (size : Visit → Nat) (visits : List Visit) :
    visits.foldl (fun sum v => sum + size v) 0 = (visits.map size).sum := by
  rw [List.sum_eq_foldl, List.foldl_map]

/-- What is summed up over the visits of a kind is nothing for the others. -/
theorem sum_own (size : Visit → Nat) (kind : Kind) (visits : List Visit) :
    ((visits.filter fun v => v.kind == kind).map size).sum =
      (visits.map fun v => if v.kind = kind then size v else 0).sum := by
  induction visits with
  | nil => rfl
  | cons v rest ih =>
    by_cases hv : v.kind = kind <;> simp [hv, ih]

/-! ## One node -/

/-- Records that are all about one kind. -/
theorem countAbout_of_about {sort : Record → Bool} {kind about : Kind} {records : List Record}
    (h : ∀ r ∈ records, r.about = about) :
    countAbout sort kind records = if about = kind then records.countP sort else 0 := by
  unfold countAbout
  split
  · rename_i heq
    apply List.countP_congr
    intro r hr
    simp [h r hr, heq]
  · rename_i hne
    rw [List.countP_eq_zero]
    intro r hr
    simp [h r hr, hne]

/-- **All records of a node** are about its resource. -/
theorem Node.about_of_mem_records {n : Node} (hn : n.OwnsGrants) {withGrants : Bool} :
    ∀ r ∈ n.records withGrants, r.about = n.resource.id.kind := by
  intro r hr
  rcases List.mem_cons.1 hr with rfl | hr
  · rfl
  rcases List.mem_append.1 hr with hr | hr
  · obtain ⟨e, he, rfl⟩ := List.mem_map.1 hr
    exact congrArg ResourceId.kind (Resource.isOf_of_mem_entitlements he).resource_eq
  · split at hr
    · obtain ⟨g, hg, rfl⟩ := List.mem_map.1 hr
      exact congrArg ResourceId.kind (hn g hg)
    · exact absurd hr List.not_mem_nil

theorem Node.countP_records (n : Node) : (n.records true).countP Record.isResource = 1 ∧
    (n.records true).countP Record.isEntitlement = n.resource.entitlements.length ∧
    (n.records true).countP Record.isGrant = n.grants.length := by
  simp [Node.records, List.countP_cons, List.countP_map, Function.comp_def, Record.isResource,
    Record.isEntitlement, Record.isGrant]

/-- **What a walk without grants tells** is what a walk with grants tells, but for the grants. -/
theorem filter_records (nodes : List Node) :
    ((nodes.flatMap (·.records true)).filter fun r => !r.isGrant) =
      nodes.flatMap (·.records false) := by
  have hnode : ∀ n : Node, ((n.records true).filter fun r => !r.isGrant) = n.records false := by
    intro n
    have hentitlements : ((n.resource.entitlements.map Record.entitlement).filter fun r =>
        !r.isGrant) = n.resource.entitlements.map .entitlement :=
      List.filter_eq_self.2 fun r hr => by
        obtain ⟨e, -, rfl⟩ := List.mem_map.1 hr
        rfl
    have hgrants : ((n.grants.map Record.grant).filter fun r => !r.isGrant) = [] :=
      List.filter_eq_nil_iff.2 fun r hr => by
        obtain ⟨g, -, rfl⟩ := List.mem_map.1 hr
        exact Bool.false_ne_true
    unfold Node.records
    rw [List.filter_cons_of_pos rfl, List.filter_append, hentitlements, if_pos rfl, hgrants]
    rfl
  rw [List.filter_flatMap]
  simp only [hnode]

/-- A resource that was told of is that of a node. -/
theorem mem_flatMap_records_iff {nodes : List Node} {withGrants : Bool} {r : Resource} :
    .resource r ∈ nodes.flatMap (·.records withGrants) ↔ ∃ n ∈ nodes, n.resource = r := by
  simp only [List.mem_flatMap]
  refine exists_congr fun n => and_congr_right fun _ => ?_
  cases withGrants <;> simp [Node.records, eq_comm]

/-- **What is summed up over visits** is how many records of a sort there are, when it is so for
each node. -/
theorem sum_visits {nodes : List Node} (hnodes : ∀ n ∈ nodes, n.OwnsGrants) {withGrants : Bool}
    {size : Visit → Nat} {sort : Record → Bool}
    (h : ∀ n ∈ nodes, (n.records true).countP sort = size (n.visit withGrants)) (kind : Kind) :
    (((nodes.map (·.visit withGrants)).filter fun v => v.kind == kind).map size).sum =
      countAbout sort kind (nodes.flatMap (·.records true)) := by
  have hsum : (nodes.map fun n => countAbout sort kind (n.records true)) =
      nodes.map fun n => if n.resource.id.kind = kind then size (n.visit withGrants) else 0 := by
    apply List.map_congr_left
    intro n hn
    rw [countAbout_of_about (Node.about_of_mem_records (hnodes n hn)), h n hn]
  unfold countAbout at hsum ⊢
  rw [sum_own, List.map_map, List.countP_flatMap]
  exact congrArg List.sum hsum.symm

/-! ## Rows -/

/-- What is in the row of a kind, as sums over the visits of the kind. -/
theorem sums_of_rowOf? {visits : List Visit} {kind : Kind} {row : Row}
    (h : rowOf? visits kind = some row) :
    let own := visits.filter fun v => v.kind == kind
    row.kind = kind ∧ row.resources = (own.map fun _ => 1).sum ∧
      row.entitlements = (own.map (·.entitlements)).sum ∧ row.grants = (own.map (·.grants)).sum := by
  intro own
  unfold rowOf? at h
  split at h
  · cases h
  · cases h
    refine ⟨rfl, ?_, foldl_eq_sum (·.entitlements) own, foldl_eq_sum (·.grants) own⟩
    simp [own, List.map_const']

/-- A kind has a row when it was visited. -/
theorem exists_rowOf?_iff {visits : List Visit} {kind : Kind} :
    (∃ row, rowOf? visits kind = some row) ↔ ∃ v ∈ visits, v.kind = kind := by
  unfold rowOf?
  split
  · rename_i hnone
    simpa [List.filter_eq_nil_iff] using hnone
  · rename_i hown
    obtain ⟨v, hv⟩ := List.exists_mem_of_ne_nil _ hown
    simp only [Option.some.injEq, exists_eq', true_iff]
    exact ⟨v, by simpa using hv⟩

theorem mem_rankedKinds (kind : Kind) : kind ∈ rankedKinds := by cases kind <;> decide

theorem pairwise_rankedKinds : rankedKinds.Pairwise fun a b => a.rank < b.rank := by decide

/-- **The rows of a walk** count the records of the walk with grants. -/
theorem summarizes_rows {nodes : List Node} (hnodes : ∀ n ∈ nodes, n.OwnsGrants)
    (withGrants : Bool) :
    Summarizes (nodes.flatMap (·.records true)) withGrants
      (rows (nodes.map (·.visit withGrants))) where
  ordered := by
    refine List.Pairwise.filterMap _ ?_ pairwise_rankedKinds
    intro a b hrank row hrow row' hrow'
    rwa [(sums_of_rowOf? hrow).1, (sums_of_rowOf? hrow').1]
  kinds k := by
    constructor
    · rintro ⟨row, hrow, rfl⟩
      obtain ⟨kind, -, hkind⟩ := List.mem_filterMap.1 hrow
      obtain ⟨v, hv, hvisit⟩ := exists_rowOf?_iff.1 ⟨row, hkind⟩
      obtain ⟨n, hn, rfl⟩ := List.mem_map.1 hv
      exact ⟨n.resource, mem_flatMap_records_iff.2 ⟨n, hn, rfl⟩,
        hvisit.trans (sums_of_rowOf? hkind).1.symm⟩
    · rintro ⟨r, hr, rfl⟩
      obtain ⟨n, hn, rfl⟩ := mem_flatMap_records_iff.1 hr
      obtain ⟨row, hrow⟩ := exists_rowOf?_iff.2
        ⟨n.visit withGrants, List.mem_map_of_mem hn, rfl⟩
      exact ⟨row, List.mem_filterMap.2 ⟨_, mem_rankedKinds _, hrow⟩, (sums_of_rowOf? hrow).1⟩
  resources row hrow := by
    obtain ⟨kind, -, hkind⟩ := List.mem_filterMap.1 hrow
    obtain ⟨rfl, hresources, -⟩ := sums_of_rowOf? hkind
    rw [hresources]
    exact sum_visits hnodes (fun n _ => n.countP_records.1) row.kind
  entitlements row hrow := by
    obtain ⟨kind, -, hkind⟩ := List.mem_filterMap.1 hrow
    obtain ⟨rfl, -, hentitlements, -⟩ := sums_of_rowOf? hkind
    rw [hentitlements]
    exact sum_visits hnodes (fun n _ => n.countP_records.2.1) row.kind
  grants row hrow := by
    obtain ⟨kind, -, hkind⟩ := List.mem_filterMap.1 hrow
    obtain ⟨rfl, -, -, hgrants⟩ := sums_of_rowOf? hkind
    rw [hgrants]
    cases withGrants with
    | true => exact sum_visits hnodes (fun n _ => n.countP_records.2.2) row.kind
    | false =>
      -- without grants each visit counts none
      rw [if_neg Bool.false_ne_true, sum_own, List.map_map]
      simp [Function.comp_def, Node.visit, List.map_const']

/-! ## Lines -/

theorem words_tableLine (kind resources entitlements grants : String) :
    Text.words (tableLine kind resources entitlements grants) =
      Text.words kind ++ Text.words resources ++ Text.words entitlements ++ Text.words grants := by
  unfold tableLine
  rw [Text.words_joinWith]
  simp only [List.flatMap_cons, List.flatMap_nil, Text.words_alignLeft, Text.words_alignRight,
    List.append_assoc, List.append_nil]

theorem words_name (k : Kind) : Text.words k.name = [k.name] := by
  cases k <;> exact Text.words_of_not_mem (by decide) (by decide)

/-- What a row shows: the name of its kind and how many resources, entitlements and grants there
are, in decimal. -/
def Row.cells (r : Row) : List String :=
  [r.kind.name, toString r.resources, toString r.entitlements, toString r.grants]

/-- **The line of a row** shows its kind and its numbers. -/
theorem Row.words_line (r : Row) : Text.words r.line = r.cells := by
  unfold Row.line
  rw [words_tableLine, words_name]
  simp only [Text.words_toString]
  rfl

example : (Row.mk .userGroup 2 10 31).line =
    "user_group            2            10       31" := rfl

/-- The lines show the rows: below the names of the columns there is one line for each row, in
order, with the kind and the numbers of the row. -/
inductive ShowsRows (rows : List Row) : List String → Prop
  | table {head : String} {body : List String}
      (hhead : Text.words head = ["TYPE", "RESOURCES", "ENTITLEMENTS", "GRANTS"])
      (hbody : body.map Text.words = rows.map Row.cells) : ShowsRows rows (head :: body)

/-- **A table shows its rows.** -/
theorem showsRows_table (rows : List Row) :
    ShowsRows rows (tableLine "TYPE" "RESOURCES" "ENTITLEMENTS" "GRANTS" :: rows.map Row.line) := by
  constructor
  · rw [words_tableLine]
    rfl
  · rw [List.map_map]
    exact List.map_congr_left fun row _ => row.words_line

end AccessSync.Sync
