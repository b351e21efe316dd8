import AccessSync.Proofs.Grants.FirstSeen
import AccessSync.Proofs.Grants.Phase

/-!
# The trail of an enumeration

Straight through, an enumeration goes from place to place, and what it has seen is told by the pages
behind it. The page that a place shows depends on the pages before it alone, so it is the same page
whenever the place is visited again, however much has been seen in the meantime.

* `StraightThrough`: one call after the other, each with the token that the last one returned.
* `StraightThrough.unique`: there is one way straight through.
* `straightThrough_of_trail`, `trail_of_straightThrough`: such calls are the pages of a trail.
* `keep_next`, `keep_again`: what a page keeps, at its first visit and at every later one.
-/

namespace AccessSync

/-! ## Calls -/

/-- The calls of an enumeration straight through, each with its token and its page, the token that
is due then, and what has been seen. The first call has the empty token; no call fails. -/
inductive StraightThrough (s : Server) (list : String → Enumeration (Page Grant))
    (seen₀ : FirstSeen) : List (String × Page Grant) → String → FirstSeen → Prop
  | start : StraightThrough s list seen₀ [] "" seen₀
  | next {calls : List (String × Page Grant)} {token : String} {seen seen' : FirstSeen}
      {page : Page Grant} (before : StraightThrough s list seen₀ calls token seen)
      (goes : token = "" → calls = [])
      (call : ((list token).run seen).result s = .ok (.ok page, seen')) :
      StraightThrough s list seen₀ (calls ++ [(token, page)]) page.next seen'

section
variable {s : Server} {list : String → Enumeration (Page Grant)} {seen₀ seen seen' : FirstSeen}
variable {calls calls' : List (String × Page Grant)} {token token' : String}

/-- There is one way to make a number of calls straight through. -/
theorem StraightThrough.unique (h : StraightThrough s list seen₀ calls token seen)
    (h' : StraightThrough s list seen₀ calls' token' seen') (hl : calls.length = calls'.length) :
    calls = calls' ∧ token = token' ∧ seen = seen' := by
  induction h generalizing calls' token' seen' with
  | start =>
    cases h' with
    | start => exact ⟨rfl, rfl, rfl⟩
    | next before goes call => simp at hl
  | next before goes call ih =>
    cases h' with
    | start => simp at hl
    | next before' goes' call' =>
      obtain ⟨rfl, rfl, rfl⟩ := ih before' (by simpa using hl)
      rw [call] at call'
      cases call'
      exact ⟨rfl, rfl, rfl⟩

/-- Of two runs of calls straight through the shorter one is the start of the longer one, and has
not come to the empty token. -/
theorem StraightThrough.start_of_le (h : StraightThrough s list seen₀ calls token seen)
    (h' : StraightThrough s list seen₀ calls' token' seen') (hl : calls.length ≤ calls'.length) :
    calls <+: calls' ∧ (calls.length < calls'.length → token = "" → calls = []) := by
  induction h' with
  | start =>
    obtain rfl : calls = [] := List.eq_nil_of_length_eq_zero (Nat.le_zero.1 hl)
    exact ⟨List.prefix_rfl, fun _ _ => rfl⟩
  | @next before token' seen₁ seen' page hbefore goes call ih =>
    rcases Nat.lt_or_ge before.length calls.length with hlong | hshort
    · have hlength : calls.length = (before ++ [(token', page)]).length := by
        rw [List.length_append, List.length_singleton] at hl ⊢
        omega
      obtain ⟨rfl, -, -⟩ := h.unique (hbefore.next goes call) hlength
      exact ⟨List.prefix_rfl, fun hlt => absurd hlt (Nat.lt_irrefl _)⟩
    · obtain ⟨hstart, hdue⟩ := ih hshort
      refine ⟨hstart.trans (List.prefix_append _ _), fun _ htoken => ?_⟩
      rcases Nat.lt_or_ge calls.length before.length with hlt | hge
      · exact hdue hlt htoken
      · obtain ⟨rfl, rfl, -⟩ := h.unique hbefore (Nat.le_antisymm hshort hge)
        exact goes htoken

end

/-! ## Trails -/

/-- A place with what the server has there. -/
structure Served where
  place : Place
  page : Page Grant
deriving DecidableEq, Repr

namespace Served

/-- The position that a page is recorded under. -/
def position (v : Served) : String := v.place.stack.position

/-- The keys of the grants of a page, as far as they are recorded. -/
def keys (v : Served) : List GrantKey :=
  if v.place.phase = .repository then [] else v.page.items.map Grant.key

end Served

/-- Where a grant was seen first on a trail. -/
def sighted (trail : List Served) (k : GrantKey) : Option String :=
  trail.findSome? fun v => if k ∈ v.keys then some v.position else none

namespace Served

/-- The page that a caller gets of what the server has, when the trail before has been seen. -/
def shown (v : Served) (before : List Served) : Page Grant where
  items :=
    if v.place.phase = .repository then v.page.items
    else (firstOf v.page.items).filter fun g => sighted (before ++ [v]) g.key == some v.position
  next := Place.tokenOf (v.place.after v.page.next)

/-- The token that the page is asked for with, when the trail before has been seen. -/
def tokenAfter (v : Served) (before : List Served) : String :=
  if before = [] then "" else v.place.token

end Served

/-- The calls that follow a trail. -/
def callsFrom (before : List Served) : List Served → List (String × Page Grant)
  | [] => []
  | v :: rest => (v.tokenAfter before, v.shown before) :: callsFrom (before ++ [v]) rest

/-- The calls of a trail from its start. -/
def trailCalls (trail : List Served) : List (String × Page Grant) := callsFrom [] trail

/-- The token that is due after a trail. -/
def dueToken (trail : List Served) (due : Option Place) : String :=
  if trail = [] then "" else Place.tokenOf due

section
variable (s : Server) (pageSize : UInt32) (resource : ResourceId) (holding : Holding)

/-- The server has the page at the place. -/
def FoundAt (p : Place) (page : Page Grant) : Prop :=
  (phasePage pageSize resource holding p.phase p.cursor).run.result s = .ok (.ok page)

/-- The places of an enumeration in order, and the place that is due then. -/
inductive Trail : List Served → Option Place → Prop
  | start : Trail [] (some holding.start)
  | next {trail : List Served} {p : Place} {page : Page Grant} (before : Trail trail (some p))
      (found : FoundAt s pageSize resource holding p page) :
      Trail (trail ++ [⟨p, page⟩]) (p.after page.next)

end

/-- What has been seen of a resource is what the trail shows. -/
def FirstSeen.Follows (seen : FirstSeen) (resource : ResourceId) (trail : List Served) : Prop :=
  ∀ k, seen.position? resource k = sighted trail k

/-! ## Sightings -/

theorem sighted_append (xs ys : List Served) (k : GrantKey) :
    sighted (xs ++ ys) k = (sighted xs k).or (sighted ys k) := by
  unfold sighted
  rw [List.findSome?_append]

theorem sighted_singleton (v : Served) (k : GrantKey) :
    sighted [v] k = if k ∈ v.keys then some v.position else none := by
  unfold sighted
  rw [List.findSome?_cons]
  by_cases h : k ∈ v.keys <;> simp [h]

theorem sighted_eq_none {trail : List Served} {k : GrantKey} :
    sighted trail k = none ↔ ∀ v ∈ trail, k ∉ v.keys := by
  unfold sighted
  rw [List.findSome?_eq_none_iff]
  constructor
  · intro h v hv hk
    exact absurd (h v hv) (by simp [hk])
  · intro h v hv
    simp [h v hv]

/-- A grant of a page has been seen on the page at the latest. -/
theorem sighted_of_mem {before after : List Served} {v : Served} {k : GrantKey} (hk : k ∈ v.keys) :
    sighted (before ++ v :: after) k = sighted (before ++ [v]) k := by
  have hcons : v :: after = [v] ++ after := rfl
  rw [hcons, ← List.append_assoc, sighted_append, sighted_append before, sighted_singleton,
    if_pos hk]
  cases sighted before k <;> rfl

theorem sighted_append_singleton (before : List Served) (v : Served) (k : GrantKey) :
    sighted (before ++ [v]) k =
      (sighted before k).or (if k ∈ v.keys then some v.position else none) := by
  rw [sighted_append, sighted_singleton]

/-! ## Pages along a trail -/

/-- The grants that a page may keep are among those that it records. -/
theorem Served.key_mem_keys {v : Served} (hp : v.place.phase ≠ .repository) {g : Grant}
    (hg : g ∈ firstOf v.page.items) : g ∈ v.page.items ∧ g.key ∈ v.keys := by
  rw [← without_nil v.page.items] at hg
  have hmem := (mem_of_mem_firstOf hg).1
  unfold Served.keys
  rw [if_neg hp]
  exact ⟨hmem, List.mem_map_of_mem hmem⟩

section
variable {v : Served} {seen : FirstSeen} {resource : ResourceId} {before after : List Served}

/-- The page of a visit when every grant on it has its first sighting on the trail up to here. -/
theorem keep_fst (hr : ∀ g ∈ v.page.items, g.resource = resource)
    (h : ∀ k ∈ v.keys, (seen.position? resource k).getD v.position =
      (sighted (before ++ [v]) k).getD v.position) :
    (v.place.keep v.page.items seen).1 = (v.shown before).items := by
  unfold Place.keep Served.shown
  by_cases hp : v.place.phase = .repository
  · rw [if_pos hp]
    exact (if_pos hp).symm
  · rw [if_neg hp, FirstSeen.retainNew_fst]
    refine Eq.trans (List.filter_congr ?_) (if_neg hp).symm
    intro g hg
    obtain ⟨hmem, hkey⟩ := Served.key_mem_keys hp hg
    -- the grant has been sighted on this page at the latest, so the default never counts
    have hsome : ∃ q, sighted (before ++ [v]) g.key = some q := by
      rw [sighted_append_singleton, if_pos hkey]
      cases sighted before g.key <;> simp
    obtain ⟨q, hq⟩ := hsome
    unfold FirstSeen.isFirstAt
    rw [hr g hmem]
    show ((seen.position? resource g.key).getD v.position == v.position) = _
    rw [h g.key hkey, hq]
    rfl

theorem position?_keep (hr : ∀ g ∈ v.page.items, g.resource = resource) (k : GrantKey) :
    (v.place.keep v.page.items seen).2.position? resource k =
      (seen.position? resource k).or (if k ∈ v.keys then some v.position else none) := by
  unfold Place.keep Served.keys
  by_cases hp : v.place.phase = .repository
  · rw [if_pos hp, if_pos hp]
    simp
  · rw [if_neg hp, if_neg hp]
    exact FirstSeen.position?_retainNew hr _ _ _

/-- **The first visit**: the page is the one that the trail shows, and is recorded. -/
theorem keep_next (hr : ∀ g ∈ v.page.items, g.resource = resource)
    (h : seen.Follows resource before) :
    (v.place.keep v.page.items seen).1 = (v.shown before).items ∧
      (v.place.keep v.page.items seen).2.Follows resource (before ++ [v]) := by
  constructor
  · apply keep_fst hr
    intro k hk
    rw [h k, sighted_append_singleton, if_pos hk]
    cases sighted before k <;> rfl
  · intro k
    rw [position?_keep hr, h k, sighted_append_singleton]

/-- **Every later visit**: the page is the same again, and nothing new is recorded. -/
theorem keep_again (hr : ∀ g ∈ v.page.items, g.resource = resource)
    (h : seen.Follows resource (before ++ v :: after)) :
    (v.place.keep v.page.items seen).1 = (v.shown before).items ∧
      (v.place.keep v.page.items seen).2.Follows resource (before ++ v :: after) := by
  constructor
  · apply keep_fst hr
    intro k hk
    rw [h k, sighted_of_mem hk]
  · intro k
    rw [position?_keep hr, h k]
    by_cases hk : k ∈ v.keys
    · rw [sighted_of_mem hk, sighted_append_singleton, if_pos hk]
      cases sighted before k <;> rfl
    · rw [if_neg hk, Option.or_none]

end

/-! ## The calls of a trail -/

theorem callsFrom_append (before xs ys : List Served) :
    callsFrom before (xs ++ ys) = callsFrom before xs ++ callsFrom (before ++ xs) ys := by
  induction xs generalizing before with
  | nil => simp [callsFrom]
  | cons v rest ih =>
    rw [List.cons_append, callsFrom, callsFrom, ih, List.cons_append, List.append_assoc]
    rfl

theorem trailCalls_append_singleton (trail : List Served) (v : Served) :
    trailCalls (trail ++ [v]) = trailCalls trail ++ [(v.tokenAfter trail, v.shown trail)] := by
  unfold trailCalls
  rw [callsFrom_append]
  rfl

@[simp] theorem trailCalls_eq_nil {trail : List Served} : trailCalls trail = [] ↔ trail = [] := by
  cases trail <;> simp [trailCalls, callsFrom]

theorem mem_callsFrom {before trail : List Served} {call : String × Page Grant} :
    call ∈ callsFrom before trail ↔ ∃ between v after, trail = between ++ v :: after ∧
      call = (v.tokenAfter (before ++ between), v.shown (before ++ between)) := by
  induction trail generalizing before with
  | nil => simp [callsFrom]
  | cons u rest ih =>
    rw [callsFrom, List.mem_cons, ih]
    constructor
    · rintro (rfl | ⟨between, v, after, rfl, rfl⟩)
      · exact ⟨[], u, rest, rfl, by rw [List.append_nil]⟩
      · exact ⟨u :: between, v, after, rfl, by rw [List.append_assoc, List.singleton_append]⟩
    · rintro ⟨between, v, after, heq, rfl⟩
      cases between with
      | nil =>
        obtain ⟨rfl, rfl⟩ := List.cons.inj heq
        rw [List.append_nil]
        exact .inl rfl
      | cons w between =>
        obtain ⟨rfl, rfl⟩ := List.cons.inj heq
        refine .inr ⟨between, v, after, rfl, ?_⟩
        rw [List.append_assoc, List.singleton_append]

/-- A call of a trail is a visit on it, after the part of the trail before. -/
theorem mem_trailCalls {trail : List Served} {call : String × Page Grant} :
    call ∈ trailCalls trail ↔ ∃ before v after, trail = before ++ v :: after ∧
      call = (v.tokenAfter before, v.shown before) := by
  unfold trailCalls
  rw [mem_callsFrom]
  simp only [List.nil_append]

/-! ## Calls straight through -/

section
variable {s : Server} {pageSize : UInt32} {resource : ResourceId} {holding : Holding}
variable {trail : List Served} {due : Option Place} {seen₀ seen seen' : FirstSeen}

theorem Trail.due_of_nil (h : Trail s pageSize resource holding trail due) (ht : trail = []) :
    due = some holding.start := by
  cases h with
  | start => rfl
  | next before found => simp at ht

theorem Trail.within (h : Trail s pageSize resource holding trail due) :
    ∀ p, due = some p → p.Within holding.kind.phases := by
  induction h with
  | start =>
    intro p hp
    obtain rfl := Option.some.inj hp
    exact holding.within_start
  | next before found ih =>
    intro q hq
    exact Place.within_after (ih _ rfl) hq

/-- A call at a place succeeds with what the server has there, as far as it is kept. -/
theorem result_servePlace {p : Place} {page : Page Grant} :
    (servePlace pageSize resource holding p seen).result s = .ok (.ok page, seen') ↔
      ∃ found, FoundAt s pageSize resource holding p found ∧
        page = ⟨(p.keep found.items seen).1, Place.tokenOf (p.after found.next)⟩ ∧
        seen' = (p.keep found.items seen).2 := by
  unfold servePlace FoundAt
  rw [Plan.result_bind]
  cases (phasePage pageSize resource holding p.phase p.cursor).run.result s with
  | error why => simp [bind, Except.bind]
  | ok r =>
    cases r with
    | error e => simp [bind, Except.bind]
    | ok found =>
      simp only [bind, Except.bind, Plan.result_done, Except.ok.injEq, Prod.mk.injEq,
        exists_eq_left']
      constructor
      · rintro ⟨rfl, rfl⟩
        exact ⟨rfl, rfl⟩
      · rintro ⟨rfl, rfl⟩
        exact ⟨rfl, rfl⟩

/-- The call that is due after a trail is a visit to the place that is due. -/
theorem run_dueToken {p : Place} (h : Trail s pageSize resource holding trail (some p)) :
    (listPhased pageSize resource holding (dueToken trail (some p))).run seen =
      servePlace pageSize resource holding p
        (if trail = [] then seen.reset resource else seen) := by
  unfold dueToken
  by_cases ht : trail = []
  · subst ht
    obtain rfl := Option.some.inj (h.due_of_nil rfl)
    rw [if_pos rfl, if_pos rfl]
    exact listPhased_empty pageSize resource holding seen
  · rw [if_neg ht, if_neg ht]
    exact listPhased_token pageSize resource (h.within p rfl) seen

theorem follows_reset (seen : FirstSeen) : (seen.reset resource).Follows resource [] := by
  intro k
  rw [FirstSeen.position?_reset, if_pos rfl]
  rfl

theorem follows_before (h : trail ≠ [] → seen.Follows resource trail) :
    (if trail = [] then seen.reset resource else seen).Follows resource trail := by
  by_cases ht : trail = []
  · subst ht
    rw [if_pos rfl]
    exact follows_reset seen
  · rw [if_neg ht]
    exact h ht

/-- **A visit to the place that is due** gives the page that the trail shows next. -/
theorem visit_next {p : Place} {found : Page Grant}
    (hf : FoundAt s pageSize resource holding p found)
    (h : trail ≠ [] → seen.Follows resource trail) :
    ∃ seen', (servePlace pageSize resource holding p
        (if trail = [] then seen.reset resource else seen)).result s =
          .ok (.ok (Served.shown ⟨p, found⟩ trail), seen') ∧
      seen'.Follows resource (trail ++ [⟨p, found⟩]) := by
  obtain ⟨hitems, hseen⟩ :=
    keep_next (v := ⟨p, found⟩) (grantsOn_phasePage _ _ _ hf) (follows_before h)
  refine ⟨_, result_servePlace.2 ⟨found, hf, ?_, rfl⟩, hseen⟩
  rw [hitems]
  rfl

/-- The calls of a trail are calls straight through. -/
theorem straightThrough_of_trail (h : Trail s pageSize resource holding trail due)
    (seen₀ : FirstSeen) :
    ∃ seen, StraightThrough s (listPhased pageSize resource holding) seen₀ (trailCalls trail)
      (dueToken trail due) seen ∧ (trail ≠ [] → seen.Follows resource trail) := by
  induction h with
  | start => exact ⟨seen₀, .start, fun h => absurd rfl h⟩
  | @next trail p page before found ih =>
    obtain ⟨seen, hcalls, hseen⟩ := ih
    obtain ⟨seen', hcall, hseen'⟩ := visit_next found hseen
    have hdue : dueToken (trail ++ [⟨p, page⟩]) (p.after page.next) =
        (Served.shown ⟨p, page⟩ trail).next := by
      unfold dueToken
      rw [if_neg (by simp)]
      rfl
    have htoken : (Served.mk p page).tokenAfter trail = dueToken trail (some p) := rfl
    refine ⟨seen', ?_, fun _ => hseen'⟩
    rw [trailCalls_append_singleton, hdue, htoken]
    refine hcalls.next ?_ ?_
    · -- a place has a token that is not empty
      intro hempty
      unfold dueToken at hempty
      by_cases ht : trail = []
      · exact trailCalls_eq_nil.2 ht
      · rw [if_neg ht] at hempty
        exact absurd hempty p.token_ne_empty
    · rw [run_dueToken before]
      exact hcall

/-- Calls straight through are the calls of a trail. -/
theorem trail_of_straightThrough {calls : List (String × Page Grant)} {token : String}
    (h : StraightThrough s (listPhased pageSize resource holding) seen₀ calls token seen) :
    ∃ trail due, Trail s pageSize resource holding trail due ∧ calls = trailCalls trail ∧
      token = dueToken trail due ∧ (trail ≠ [] → seen.Follows resource trail) := by
  induction h with
  | start => exact ⟨[], _, .start, rfl, rfl, fun h => absurd rfl h⟩
  | @next calls token seen seen' page before goes call ih =>
    obtain ⟨trail, due, htrail, rfl, rfl, hseen⟩ := ih
    cases due with
    | none =>
      -- after its end a trail has the empty token, which asks for its start alone
      exfalso
      have hempty : dueToken trail none = "" := by unfold dueToken; split <;> rfl
      have hstart := htrail.due_of_nil (trailCalls_eq_nil.1 (goes hempty))
      exact absurd hstart (by simp)
    | some p =>
      rw [run_dueToken htrail] at call
      obtain ⟨found, hf, hpage, hseen'⟩ := result_servePlace.1 call
      obtain ⟨seen'', hcall, hfollows⟩ := visit_next hf hseen
      rw [call] at hcall
      cases hcall
      refine ⟨trail ++ [⟨p, found⟩], _, htrail.next hf, ?_, ?_, fun _ => hfollows⟩
      · rw [trailCalls_append_singleton]
        rfl
      · unfold dueToken
        rw [if_neg (by simp)]
        rfl

end

end AccessSync
