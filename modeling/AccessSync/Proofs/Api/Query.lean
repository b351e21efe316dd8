import AccessSync.Api.Query
import AccessSync.Proofs.Url.Form
import AccessSync.Url.Reader
import Mathlib.Data.List.DropRight

/-!
# Parameters as they are transmitted

The parameters of a request are read back from its URL behind the pairs that were there before. The
URL stays what it is otherwise, up to spaces: where it ends with a rootless path, the last spaces of
the path are no part of it.

* `query_append_eq_none_iff`: when a URL has no query after pairs were added.
* `left_path_append`: what is left of the path.
* `apply_faithful`: the URL with the parameters of a request.
-/

namespace AccessSync

namespace Url

/-- The text is the other one without the spaces at its end. -/
structure IsTrimmed (t s : String) : Prop where
  spaces : ∃ n, s.toList = t.toList ++ List.replicate n ' '
  stop : t.toList.getLast? ≠ some ' '

/-- What is left of a path where it is the end of a URL, and where it is not. -/
inductive Path.Left (isEnd : Prop) : Path → Path → Prop
  | segments (parts : List String) : Left isEnd (.segments parts) (.segments parts)
  | between {s : String} (h : ¬ isEnd) : Left isEnd (.rootless s) (.rootless s)
  | atEnd {s t : String} (h : isEnd) (ht : IsTrimmed t s) : Left isEnd (.rootless s) (.rootless t)

theorem isTrimmed_dropEndSpaces (s : String) : IsTrimmed (dropEndSpaces s) s := by
  have hkept : (dropEndSpaces s).toList = s.toList.rdropWhile (· == ' ') := String.toList_ofList
  constructor
  · have hspaces : ∀ c ∈ s.toList.rtakeWhile (· == ' '), c = ' ' := by
      intro c hc
      simpa using List.mem_rtakeWhile_imp hc
    refine ⟨(s.toList.rtakeWhile (· == ' ')).length, ?_⟩
    rw [hkept, ← List.eq_replicate_of_mem hspaces, List.rdropWhile_append_rtakeWhile]
  · rw [hkept]
    intro hlast
    have hne : s.toList.rdropWhile (· == ' ') ≠ [] := by
      intro hnil
      rw [hnil] at hlast
      cases hlast
    have hstop := List.rdropWhile_last_not (· == ' ') s.toList hne
    rw [List.getLast?_eq_some_getLast hne, Option.some.injEq] at hlast
    exact hstop (by rw [hlast]; rfl)

variable (u : Url) (added : List (String × String))

theorem appendPairs_eq_nil_iff {query : List Char} {added : List (String × String)} :
    appendPairs query added = [] ↔ query = [] ∧ added = [] := by
  induction added generalizing query with
  | nil => simp [appendPairs]
  | cons pair rest ih =>
    have hpair : pairChars pair ≠ [] := pairChars_ne_nil pair
    rw [appendPairs, ih]
    split <;> simp [hpair]

/-- **A URL has no query** after pairs were added when it had none or an empty one, and there were
no pairs to add. -/
theorem query_append_eq_none_iff :
    (u.append added).query = none ↔ (u.query = none ∨ u.query = some "") ∧ added = [] := by
  have hempty : (u.query.getD "").toList = [] ↔ u.query = none ∨ u.query = some "" := by
    cases u.query <;> simp
  rw [← hempty, ← appendPairs_eq_nil_iff]
  unfold append
  dsimp only
  split <;> simp_all

/-- **What is left of the path** after pairs were added. -/
theorem left_path_append :
    u.path.Left ((u.append added).query = none ∧ u.fragment = none) (u.append added).path := by
  have hend : (u.append added).path =
      if (u.append added).query = none ∧ u.fragment = none then u.path.atEnd else u.path := by
    unfold append
    dsimp only
    cases u.fragment <;> split <;> simp_all
  rw [hend]
  split
  · rename_i h
    cases u.path with
    | segments parts => exact .segments parts
    | rootless s => exact .atEnd h (isTrimmed_dropEndSpaces s)
  · rename_i h
    cases u.path with
    | segments parts => exact .segments parts
    | rootless s => exact .between h

end Url

namespace Api.Query

/-- The parameters that are set, in their order. -/
theorem pairs_eq_filterMap (q : Query) : q.pairs =
    [("pagelen", q.length.map fun n => toString n.toNat), ("page", q.cursor), ("q", q.filter),
      ("fields", if q.fields = [] then none else some (",".intercalate q.fields))].filterMap
        fun (name, value) => value.map (name, ·) := by
  obtain ⟨length, cursor, filter, fields⟩ := q
  unfold pairs
  rw [Text.joinWith_eq_intercalate]
  cases length <;> cases cursor <;> cases filter <;> cases fields <;> rfl

theorem pairs_eq_nil_iff {q : Query} : q.pairs = [] ↔ q = bare := by
  obtain ⟨length, cursor, filter, fields⟩ := q
  unfold pairs bare
  cases length <;> cases cursor <;> cases filter <;> cases fields <;> simp

/-- **Parameters are transmitted as they are.** They are read back behind the pairs that the URL
had, those that are set and in their order. All that changes of the URL besides is a rootless path
that the URL then ends with: its last spaces go. There is no query when there was none, or an empty
one, and nothing is added. -/
theorem apply_faithful (q : Query) (u : Url) :
    (q.apply u).pairs = u.pairs ++
      [("pagelen", q.length.map fun n => toString n.toNat), ("page", q.cursor), ("q", q.filter),
        ("fields", if q.fields = [] then none else some (",".intercalate q.fields))].filterMap
          (fun (name, value) => value.map (name, ·)) ∧
      (∃ path query, q.apply u = { u with path, query }) ∧
      u.path.Left ((q.apply u).query = none ∧ u.fragment = none) (q.apply u).path ∧
      ((q.apply u).query = none ↔ (u.query = none ∨ u.query = some "") ∧ q = bare) := by
  unfold apply
  refine ⟨?_, ⟨_, _, rfl⟩, Url.left_path_append u q.pairs, ?_⟩
  · rw [Url.pairs_append, pairs_eq_filterMap]
  · rw [Url.query_append_eq_none_iff, pairs_eq_nil_iff]

/-- A URL with a text for its path, an empty query and no fragment. -/
def spacedUrl : Url := ⟨"data", "", "", none, none, .rootless "x ", some "", none⟩

/-- **A path that changes**: nothing is added, and the space at its end is gone. -/
theorem spaced_path_cut :
    Url.read "data:x ?" = .ok spacedUrl ∧ (bare.apply spacedUrl).path = .rootless "x" ∧
      (bare.apply spacedUrl).path ≠ spacedUrl.path :=
  ⟨rfl, rfl, by decide⟩

end Api.Query

end AccessSync
