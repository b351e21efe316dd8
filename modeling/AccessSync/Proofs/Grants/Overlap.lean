import AccessSync.Proofs.Grants.Replay
import Mathlib.Data.List.Forall2
import Mathlib.Data.List.Induction

/-!
# Enumerations that overlap

A connector is made for one enumeration of a resource at a time. When several go on by turns, each
of them still comes to its end, but the start of one of them clears what the others have recorded.
A page returns a pair of slug and principal when, since the last start, it was the first page to
show the pair. So an enumeration may miss a pair, and does so only when another one starts between
two of its pages that both show the pair.

* `Interleaving`: enumerations that take turns.
* `firstShown`: where a pair was shown first since the last start.
* `Traces`: what holds after any turns.
* `overlapping_enumerations`: what an enumeration returns, and what it may miss.
* `overlap_misses_a_grant`: three enumerations, one of which misses a pair.
-/

namespace AccessSync

/-! ## Turns -/

/-- A call among those of several enumerations: which one makes it, with which token, and the page
that it returns. -/
structure Turn where
  walker : Nat
  token : String
  page : Page Grant
deriving DecidableEq, Repr

/-- The pairs of slug and principal that the page holds. -/
def Turn.keys (t : Turn) : List GrantKey := t.page.items.map Grant.key

/-- The turns of an enumeration. -/
def turnsOf (walker : Nat) (turns : List Turn) : List Turn := turns.filter (·.walker = walker)

/-- The token that is due for an enumeration: the empty one at first, then the one that its last
page returned. -/
def dueFor (walker : Nat) (turns : List Turn) : String :=
  ((turnsOf walker turns).getLast?.map (·.page.next)).getD ""

/-- The enumeration has come to the empty token. -/
def HasEnded (walker : Nat) (turns : List Turn) : Prop :=
  turnsOf walker turns ≠ [] ∧ dueFor walker turns = ""

/-- **Enumerations that take turns**, in any order and however many they are. Each starts with the
empty token and is followed page by page to its empty token; no call fails. -/
inductive Interleaving (s : Server) (list : String → Enumeration (Page Grant)) (seen₀ : FirstSeen) :
    List Turn → FirstSeen → Prop
  | start : Interleaving s list seen₀ [] seen₀
  | next {turns : List Turn} {seen seen' : FirstSeen} {walker : Nat} {page : Page Grant}
      (before : Interleaving s list seen₀ turns seen) (goes : ¬HasEnded walker turns)
      (call : ((list (dueFor walker turns)).run seen).result s = .ok (.ok page, seen')) :
      Interleaving s list seen₀ (turns ++ [⟨walker, dueFor walker turns, page⟩]) seen'

/-- The turns since an enumeration started last, from that start on. -/
def sinceStart (turns : List Turn) : List Turn :=
  turns.foldl (fun run t => if t.token = "" then [t] else run ++ [t]) []

/-- The pairs that the page with a token shows: those that it returns when nothing has been seen. -/
def shownAt (s : Server) (list : String → Enumeration (Page Grant)) (token : String) :
    List GrantKey :=
  match ((list token).run .empty).result s with
  | .ok (.ok page, _) => page.items.map Grant.key
  | _ => []

/-- The token of the page that was the first to show a pair, since an enumeration started last. -/
def firstShown (s : Server) (list : String → Enumeration (Page Grant)) (k : GrantKey)
    (turns : List Turn) : Option String :=
  ((sinceStart turns).find? fun t => k ∈ shownAt s list t.token).map (·.token)

section
variable {turns : List Turn} {t : Turn} {w : Nat}

theorem turnsOf_append_self (page : Page Grant) (token : String) :
    turnsOf w (turns ++ [⟨w, token, page⟩]) = turnsOf w turns ++ [⟨w, token, page⟩] := by
  simp [turnsOf]

theorem turnsOf_append_of_ne (h : t.walker ≠ w) : turnsOf w (turns ++ [t]) = turnsOf w turns := by
  simp [turnsOf, h]

theorem mem_turnsOf : t ∈ turnsOf w turns ↔ t ∈ turns ∧ t.walker = w := by
  simp [turnsOf]

theorem dueFor_append_self (page : Page Grant) (token : String) :
    dueFor w (turns ++ [⟨w, token, page⟩]) = page.next := by
  simp [dueFor, turnsOf_append_self]

theorem dueFor_append_of_ne (h : t.walker ≠ w) : dueFor w (turns ++ [t]) = dueFor w turns := by
  rw [dueFor, turnsOf_append_of_ne h]
  rfl

theorem sinceStart_append_of_start (h : t.token = "") : sinceStart (turns ++ [t]) = [t] := by
  simp [sinceStart, h]

theorem sinceStart_append (h : t.token ≠ "") :
    sinceStart (turns ++ [t]) = sinceStart turns ++ [t] := by
  simp [sinceStart, h]

/-- As long as no enumeration starts, the turns since the last start are more and more. -/
theorem sinceStart_append_of_forall {more : List Turn} (h : ∀ t ∈ more, t.token ≠ "") :
    sinceStart (turns ++ more) = sinceStart turns ++ more := by
  induction more generalizing turns with
  | nil => simp
  | cons t rest ih =>
    have hrest : sinceStart (turns ++ [t] ++ rest) = sinceStart (turns ++ [t]) ++ rest :=
      ih fun u hu => h u (List.mem_cons_of_mem _ hu)
    rw [sinceStart_append (h t List.mem_cons_self), List.append_assoc, List.append_assoc] at hrest
    exact hrest

theorem subset_of_sinceStart : sinceStart turns ⊆ turns := by
  induction turns using List.reverseRecOn with
  | nil => simp [sinceStart]
  | append_singleton turns t ih =>
    by_cases h : t.token = ""
    · rw [sinceStart_append_of_start h]
      simp
    · rw [sinceStart_append h]
      exact List.append_subset.2 ⟨List.subset_append_of_subset_left _ ih, by simp⟩

theorem mem_sinceStart_append_self : t ∈ sinceStart (turns ++ [t]) := by
  by_cases h : t.token = ""
  · rw [sinceStart_append_of_start h]
    exact List.mem_singleton_self t
  · rw [sinceStart_append h]
    exact List.mem_append_right _ (List.mem_singleton_self t)

variable {s : Server} {list : String → Enumeration (Page Grant)} {k : GrantKey}

/-- A pair that is shown was shown first by some turn. -/
theorem exists_firstShown (h : t ∈ sinceStart turns) (hk : k ∈ shownAt s list t.token) :
    ∃ f ∈ turns, firstShown s list k turns = some f.token ∧ k ∈ shownAt s list f.token := by
  unfold firstShown
  cases hf : (sinceStart turns).find? fun t => k ∈ shownAt s list t.token with
  | none => exact absurd (decide_eq_true hk) (List.find?_eq_none.1 hf t h)
  | some f =>
    refine ⟨f, subset_of_sinceStart (List.mem_of_find?_eq_some hf), rfl, ?_⟩
    simpa using List.find?_some hf

/-- As long as no enumeration starts, a pair stays shown first where it was. -/
theorem firstShown_append {token : String} {more : List Turn} (h : ∀ t ∈ more, t.token ≠ "")
    (hfirst : firstShown s list k turns = some token) :
    firstShown s list k (turns ++ more) = some token := by
  unfold firstShown at hfirst ⊢
  obtain ⟨f, hf, htoken⟩ := Option.map_eq_some_iff.1 hfirst
  rw [sinceStart_append_of_forall h, List.find?_append, hf, ← htoken]
  rfl

/-- When it does not stay there, an enumeration has started. -/
theorem exists_start {token : String} {more : List Turn}
    (hfirst : firstShown s list k turns = some token)
    (hmoved : firstShown s list k (turns ++ more) ≠ some token) : ∃ u ∈ more, u.token = "" := by
  by_contra hnone
  push Not at hnone
  exact hmoved (firstShown_append hnone hfirst)

end

namespace Interleaving

variable {s : Server} {list : String → Enumeration (Page Grant)} {seen₀ seen : FirstSeen}
variable {turns : List Turn}

/-- Only the first turn of an enumeration has the empty token. -/
theorem turnsOf_of_start (h : Interleaving s list seen₀ turns seen) {a b : List Turn} {t : Turn}
    (hturns : turns = a ++ t :: b) (htoken : t.token = "") : turnsOf t.walker a = [] := by
  induction h generalizing a b with
  | start => simp at hturns
  | @next turns seen seen' w page before goes call ih =>
    rcases append_singleton_split hturns with ⟨rfl, rfl, rfl⟩ | ⟨rest, -, hfront⟩
    · by_contra hstarted
      exact goes ⟨hstarted, htoken⟩
    · exact ih hfront

/-- What starts after a turn is another enumeration. -/
theorem walker_ne_of_start (h : Interleaving s list seen₀ turns seen) {a b : List Turn} {t u : Turn}
    (hturns : turns = a ++ t :: b) (hu : u ∈ b) (htoken : u.token = "") : u.walker ≠ t.walker := by
  obtain ⟨c, d, rfl⟩ := List.append_of_mem hu
  have hsplit : turns = (a ++ t :: c) ++ u :: d := by simp [hturns]
  have hnone := h.turnsOf_of_start hsplit htoken
  intro hwalker
  have hmem : t ∈ turnsOf u.walker (a ++ t :: c) := mem_turnsOf.2 ⟨by simp, hwalker.symm⟩
  rw [hnone] at hmem
  exact absurd hmem List.not_mem_nil

end Interleaving

/-! ## Pages along the trail -/

section
variable {s : Server} {pageSize : UInt32} {resource : ResourceId} {holding : Holding}
variable {trail : List Served} {due : Option Place} {k : GrantKey}

/-- The repositories of a project are no roles on it. -/
theorem Kind.not_isRole_repositorySlug (k : Kind) : k.isRole repositorySlug = false := by
  cases k <;> rfl

/-- All that is listed in the phase of repositories are repositories. -/
theorem slug_of_repositoryPhase {p : Place} {page : Page Grant}
    (h : FoundAt s pageSize resource holding p page) (hp : p.phase = .repository) :
    ∀ g ∈ page.items, g.slug = repositorySlug := by
  have hyields := Plan.yields_any_of_result h
  rw [hp] at hyields
  cases holding with
  | project id =>
    obtain ⟨found, -, hyields⟩ := Plan.yields_exceptT_bind_ok hyields
    cases hyields
    intro g hg
    obtain ⟨r, -, rfl⟩ := List.mem_map.1 hg
    rfl
  | repository id =>
    cases hyields
    intro g hg
    exact absurd hg List.not_mem_nil

/-- The roles on a page are among what is recorded of it. -/
theorem Trail.mem_keys_iff (ht : Trail s pageSize resource holding trail due)
    {before after : List Served} {v : Served} (hv : trail = before ++ v :: after)
    (hk : holding.kind.isRole k.1) : k ∈ v.keys ↔ k ∈ v.page.items.map Grant.key := by
  unfold Served.keys
  by_cases hp : v.place.phase = .repository
  · have hslug := slug_of_repositoryPhase (ht.split hv).2 hp
    rw [if_pos hp]
    refine iff_of_false List.not_mem_nil fun hmem => ?_
    obtain ⟨g, hg, rfl⟩ := List.mem_map.1 hmem
    have hrole : holding.kind.isRole repositorySlug := hslug g hg ▸ hk
    rw [Kind.not_isRole_repositorySlug] at hrole
    cases hrole
  · rw [if_neg hp]

/-- **The roles that a page returns** are those that it was the first to show. -/
theorem Trail.mem_shown_iff (ht : Trail s pageSize resource holding trail due)
    {before after : List Served} {v : Served} (hv : trail = before ++ v :: after)
    (hk : holding.kind.isRole k.1) (seen : List Served) :
    k ∈ (v.shown seen).items.map Grant.key ↔
      k ∈ v.keys ∧ sighted (seen ++ [v]) k = some v.position := by
  have hkeys := ht.mem_keys_iff hv hk
  unfold Served.shown
  by_cases hp : v.place.phase = .repository
  · have hnone : k ∉ v.keys := by
      unfold Served.keys
      rw [if_pos hp]
      exact List.not_mem_nil
    rw [if_pos hp, ← hkeys]
    exact iff_of_false hnone fun h => hnone h.1
  · have hfirst : k ∈ v.page.items.map Grant.key ↔ k ∈ (firstOf v.page.items).map Grant.key :=
      mem_keys_firstOf.symm
    rw [if_neg hp, hkeys, hfirst]
    constructor
    · intro hmem
      obtain ⟨g, hg, rfl⟩ := List.mem_map.1 hmem
      obtain ⟨hg, hsighted⟩ := List.mem_filter.1 hg
      exact ⟨List.mem_map_of_mem hg, by simpa using hsighted⟩
    · rintro ⟨hmem, hsighted⟩
      obtain ⟨g, hg, rfl⟩ := List.mem_map.1 hmem
      exact List.mem_map_of_mem (List.mem_filter.2 ⟨hg, by simpa using hsighted⟩)

/-- **A call with the token of a visit** returns what of the visited page was not seen elsewhere,
after any visits that have been recorded. -/
theorem Trail.result_call (ht : Trail s pageSize resource holding trail due)
    {before after : List Served} {v : Served} (hv : trail = before ++ v :: after)
    {seen : FirstSeen} {visits : List Served}
    (h : before ≠ [] → seen.Follows resource visits) :
    ∃ seen', ((listPhased pageSize resource holding (v.tokenAfter before)).run seen).result s =
        .ok (.ok (v.shown (if before = [] then [] else visits)), seen') ∧
      seen'.Follows resource ((if before = [] then [] else visits) ++ [v]) := by
  obtain ⟨hbefore, hfound⟩ := ht.split hv
  have hfollows : (if before = [] then seen.reset resource else seen).Follows resource
      (if before = [] then [] else visits) := by
    by_cases hb : before = []
    · rw [if_pos hb, if_pos hb]
      exact follows_reset seen
    · rw [if_neg hb, if_neg hb]
      exact h hb
  obtain ⟨hitems, hseen⟩ := keep_next (grantsOn_phasePage _ _ _ hfound) hfollows
  have htoken : v.tokenAfter before = dueToken before (some v.place) := rfl
  rw [htoken, run_dueToken hbefore]
  refine ⟨_, result_servePlace.2 ⟨v.page, hfound, ?_, rfl⟩, hseen⟩
  rw [hitems]
  rfl

/-- What a page shows of roles is what the server has there. -/
theorem Trail.mem_shownAt_iff (ht : Trail s pageSize resource holding trail due)
    {before after : List Served} {v : Served} (hv : trail = before ++ v :: after)
    (hk : holding.kind.isRole k.1) :
    k ∈ shownAt s (listPhased pageSize resource holding) (v.tokenAfter before) ↔ k ∈ v.keys := by
  have hempty : FirstSeen.empty.Follows resource [] := fun _ => rfl
  obtain ⟨seen', hcall, -⟩ := ht.result_call hv fun _ => hempty
  unfold shownAt
  rw [hcall, ite_self]
  dsimp only
  rw [ht.mem_shown_iff hv hk, List.nil_append, sighted_singleton]
  constructor
  · exact And.left
  · exact fun h => ⟨h, if_pos h⟩

/-- The turn asks for the page of the visit. -/
def Turn.Visits (t : Turn) (trail : List Served) (v : Served) : Prop :=
  ∃ before after, trail = before ++ v :: after ∧ t.token = v.tokenAfter before

/-- Where the pages of a trail have positions of their own, a token stands for a position. -/
theorem Turn.Visits.token_eq_iff {t t' : Turn} {v v' : Served} (h : t.Visits trail v)
    (h' : t'.Visits trail v') (hnew : (trail.map Served.position).Nodup) :
    t.token = t'.token ↔ v.position = v'.position := by
  obtain ⟨before, after, hv, htoken⟩ := h
  obtain ⟨before', after', hv', htoken'⟩ := h'
  rw [htoken, htoken']
  unfold Served.tokenAfter
  constructor
  · intro heq
    by_cases hb : before = []
    · by_cases hb' : before' = []
      · subst hb hb'
        rw [hv] at hv'
        obtain rfl := (List.cons.inj hv').1
        rfl
      · rw [if_pos hb, if_neg hb'] at heq
        exact absurd heq.symm v'.place.token_ne_empty
    · by_cases hb' : before' = []
      · rw [if_neg hb, if_pos hb'] at heq
        exact absurd heq v.place.token_ne_empty
      · rw [if_neg hb, if_neg hb'] at heq
        exact congrArg (fun p : Place => p.stack.position) (Place.token_injective heq)
  · intro heq
    -- the same position is found at one place of the trail
    have hlength : before.length = before'.length := by
      have hget : (trail.map Served.position)[before.length]? = some v.position := by simp [hv]
      have hget' : (trail.map Served.position)[before'.length]? = some v.position := by
        simp [hv', heq]
      have hlt : before.length < (trail.map Served.position).length := by simp [hv]
      exact (List.getElem?_inj hlt hnew).1 (hget.trans hget'.symm)
    rw [hv] at hv'
    obtain ⟨rfl, htail⟩ := List.append_inj hv' hlength
    obtain rfl := (List.cons.inj htail).1
    rfl

/-- Where turns are visits, the first one that shows a role is where it was seen first. -/
theorem sighted_of_visits (ht : Trail s pageSize resource holding trail due)
    (hk : holding.kind.isRole k.1) {turns : List Turn} {visits : List Served}
    (h : List.Forall₂ (fun t v => t.Visits trail v) turns visits) :
    let first := turns.find? fun t =>
      k ∈ shownAt s (listPhased pageSize resource holding) t.token
    (first = none ∧ sighted visits k = none) ∨
      ∃ t v, first = some t ∧ t.Visits trail v ∧ sighted visits k = some v.position := by
  induction h with
  | nil => exact .inl ⟨rfl, rfl⟩
  | @cons t v turns visits hvisits rest ih =>
    obtain ⟨before, after, hv, htoken⟩ := hvisits
    have hshown := ht.mem_shownAt_iff hv hk
    rw [← htoken] at hshown
    by_cases hmem : k ∈ v.keys
    · refine .inr ⟨t, v, ?_, ⟨before, after, hv, htoken⟩, ?_⟩
      · exact List.find?_cons_of_pos (by simp [hshown, hmem])
      · unfold sighted
        rw [List.findSome?_cons, if_pos hmem]
    · dsimp only
      have hsighted : sighted (v :: visits) k = sighted visits k := by
        unfold sighted
        rw [List.findSome?_cons, if_neg hmem]
      rw [List.find?_cons_of_neg (by simp [hshown, hmem]), hsighted]
      exact ih

/-! ## What holds after any turns -/

/-- What holds after any turns, along a complete trail: every enumeration has gone a part of the
trail and has the rest of it left, what has been seen is what the turns since the last start show,
and each turn returned what those before it since then had left. -/
structure Traces (trail : List Served) (resource : ResourceId) (turns : List Turn)
    (seen : FirstSeen) : Prop where
  walkers : ∀ w, ∃ gone left, trail = gone ++ left ∧
    (turnsOf w turns).map (·.token) = (trailCalls gone).map Prod.fst ∧
    (gone ≠ [] → dueFor w turns = Place.tokenOf (left.head?.map Served.place))
  record : ∃ visits, List.Forall₂ (fun t v => t.Visits trail v) (sinceStart turns) visits ∧
    (turns ≠ [] → seen.Follows resource visits)
  pages : ∀ a t b, turns = a ++ t :: b → ∃ v visits, t.Visits trail v ∧
    List.Forall₂ (fun t v => t.Visits trail v) (sinceStart (a ++ [t])) (visits ++ [v]) ∧
    t.page.items = (v.shown visits).items

/-- The place after a visit is the next one on a complete trail. -/
theorem Trail.after_head (ht : Trail s pageSize resource holding trail none)
    {before rest : List Served} {v : Served} (hv : trail = before ++ v :: rest) :
    v.place.after v.page.next = rest.head?.map Served.place := by
  cases rest with
  | nil => exact (ht.due_last hv).symm
  | cons u more =>
    subst hv
    exact ht.after_eq

variable {turns : List Turn} {seen seen' : FirstSeen} {w : Nat}

theorem length_trailCalls (trail : List Served) : (trailCalls trail).length = trail.length := by
  suffices h : ∀ before, (callsFrom before trail).length = trail.length from h []
  induction trail with
  | nil => exact fun _ => rfl
  | cons v rest ih => exact fun before => congrArg (· + 1) (ih _)

theorem traces_start (trail : List Served) (resource : ResourceId) (seen : FirstSeen) :
    Traces trail resource [] seen where
  walkers _ := ⟨[], trail, rfl, rfl, fun h => absurd rfl h⟩
  record := ⟨[], .nil, fun h => absurd rfl h⟩
  pages a t b h := by simp at h

/-- An enumeration has gone as far as it has had turns, and has ended when nothing is left. -/
theorem Traces.hasEnded_iff (h : Traces trail resource turns seen) (hne : trail ≠ []) (w : Nat) :
    ∃ gone left, trail = gone ++ left ∧
      (turnsOf w turns).map (·.token) = (trailCalls gone).map Prod.fst ∧
      (turnsOf w turns).length = gone.length ∧ (HasEnded w turns ↔ left = []) ∧
      ∀ v rest, left = v :: rest → dueFor w turns = v.tokenAfter gone := by
  obtain ⟨gone, left, htrail, htokens, hdue⟩ := h.walkers w
  have hlength : (turnsOf w turns).length = gone.length := by
    have hmap := congrArg List.length htokens
    rwa [List.length_map, List.length_map, length_trailCalls] at hmap
  have hstarted : turnsOf w turns = [] ↔ gone = [] := by
    rw [← List.length_eq_zero_iff, hlength, List.length_eq_zero_iff]
  refine ⟨gone, left, htrail, htokens, hlength, ?_, ?_⟩
  · constructor
    · rintro ⟨hturns, hempty⟩
      rw [hdue fun hg => hturns (hstarted.2 hg)] at hempty
      cases left with
      | nil => rfl
      | cons v rest => exact absurd hempty v.place.token_ne_empty
    · rintro rfl
      rw [List.append_nil] at htrail
      have hgone : gone ≠ [] := htrail ▸ hne
      exact ⟨fun hturns => hgone (hstarted.1 hturns), hdue hgone⟩
  · rintro v rest rfl
    unfold Served.tokenAfter
    by_cases hg : gone = []
    · rw [if_pos hg]
      unfold dueFor
      rw [hstarted.2 hg]
      rfl
    · rw [if_neg hg, hdue hg]
      rfl

/-- An enumeration that has not ended has a visit to make, and its next call succeeds. -/
theorem Traces.exists_next (h : Traces trail resource turns seen)
    (ht : Trail s pageSize resource holding trail none) (hne : trail ≠ [])
    (goes : ¬HasEnded w turns) :
    ∃ gone v rest visits, trail = gone ++ v :: rest ∧
      (turnsOf w turns).map (·.token) = (trailCalls gone).map Prod.fst ∧
      dueFor w turns = v.tokenAfter gone ∧
      List.Forall₂ (fun t v => t.Visits trail v) (sinceStart turns) visits ∧
      ∃ seen', ((listPhased pageSize resource holding (dueFor w turns)).run seen).result s =
          .ok (.ok (v.shown (if gone = [] then [] else visits)), seen') ∧
        seen'.Follows resource ((if gone = [] then [] else visits) ++ [v]) := by
  obtain ⟨gone, left, htrail, htokens, hlength, hended, hdue⟩ := h.hasEnded_iff hne w
  obtain ⟨visits, hvisits, hfollows⟩ := h.record
  cases left with
  | nil => exact absurd (hended.2 rfl) goes
  | cons v rest =>
    have hseen : gone ≠ [] → seen.Follows resource visits := by
      intro hg
      refine hfollows fun hturns => hg ?_
      rw [hturns] at hlength
      exact List.length_eq_zero_iff.1 hlength.symm
    obtain ⟨seen', hcall, hnext⟩ := ht.result_call htrail hseen
    refine ⟨gone, v, rest, visits, htrail, htokens, hdue v rest rfl, hvisits, seen', ?_, hnext⟩
    rw [hdue v rest rfl]
    exact hcall

/-- The turn of a first visit starts the record anew, that of a later one is added to it. -/
theorem visits_sinceStart {t : Turn} {v : Served} {gone visits : List Served}
    (hvisits : List.Forall₂ (fun t v => t.Visits trail v) (sinceStart turns) visits)
    (hvisit : t.Visits trail v) (htoken : t.token = v.tokenAfter gone) :
    List.Forall₂ (fun t v => t.Visits trail v) (sinceStart (turns ++ [t]))
      ((if gone = [] then [] else visits) ++ [v]) := by
  unfold Served.tokenAfter at htoken
  by_cases hg : gone = []
  · rw [if_pos hg] at htoken ⊢
    rw [sinceStart_append_of_start htoken]
    exact .cons hvisit .nil
  · rw [if_neg hg] at htoken ⊢
    have hlater : t.token ≠ "" := htoken ▸ v.place.token_ne_empty
    rw [sinceStart_append hlater]
    exact List.rel_append hvisits (.cons hvisit .nil)

/-- **One more turn.** -/
theorem Traces.next (h : Traces trail resource turns seen)
    (ht : Trail s pageSize resource holding trail none) (hne : trail ≠ [])
    (goes : ¬HasEnded w turns) {page : Page Grant}
    (call : ((listPhased pageSize resource holding (dueFor w turns)).run seen).result s =
      .ok (.ok page, seen')) :
    Traces trail resource (turns ++ [⟨w, dueFor w turns, page⟩]) seen' := by
  obtain ⟨gone, v, rest, visits, hv, htokens, hdue, hvisits, seen'', hcall, hfollows⟩ :=
    h.exists_next ht hne goes
  rw [call] at hcall
  cases hcall
  have hvisit :
      Turn.Visits ⟨w, dueFor w turns, v.shown (if gone = [] then [] else visits)⟩ trail v :=
    ⟨gone, rest, hv, hdue⟩
  have hsince := visits_sinceStart hvisits hvisit hdue
  constructor
  · intro w'
    by_cases hw : w = w'
    · subst hw
      refine ⟨gone ++ [v], rest, by simp [hv], ?_, fun _ => ?_⟩
      · rw [turnsOf_append_self, List.map_append, htokens, trailCalls_append_singleton,
          List.map_append, List.map_singleton, List.map_singleton, hdue]
      · rw [dueFor_append_self]
        show Place.tokenOf (v.place.after v.page.next) = _
        rw [ht.after_head hv]
    · rw [turnsOf_append_of_ne hw, dueFor_append_of_ne hw]
      exact h.walkers w'
  · exact ⟨_, hsince, fun _ => hfollows⟩
  · intro a t b hturns
    rcases append_singleton_split hturns with ⟨rfl, rfl, rfl⟩ | ⟨front, -, hfront⟩
    · exact ⟨v, _, hvisit, hsince, rfl⟩
    · exact h.pages a t front hfront

/-- **Any turns** leave a trace. -/
theorem traces_of_interleaving {seen₀ : FirstSeen}
    (ht : Trail s pageSize resource holding trail none) (hne : trail ≠ [])
    (h : Interleaving s (listPhased pageSize resource holding) seen₀ turns seen) :
    Traces trail resource turns seen := by
  induction h with
  | start => exact traces_start trail resource seen₀
  | next before goes call ih => exact ih.next ht hne goes call

/-- **What a turn returns** of roles is what its page was the first to show since the last start. -/
theorem Traces.mem_keys_iff (h : Traces trail resource turns seen)
    (ht : Trail s pageSize resource holding trail none)
    (hnew : (trail.map Served.position).Nodup) (hk : holding.kind.isRole k.1)
    {a b : List Turn} {t : Turn} (hturns : turns = a ++ t :: b) :
    k ∈ t.keys ↔
      firstShown s (listPhased pageSize resource holding) k (a ++ [t]) = some t.token := by
  obtain ⟨v, visits, hvisit, hsince, hitems⟩ := h.pages a t b hturns
  obtain ⟨before, after, hv, htoken⟩ := id hvisit
  have hshown : k ∈ t.keys ↔ k ∈ v.keys ∧ sighted (visits ++ [v]) k = some v.position := by
    unfold Turn.keys
    rw [hitems]
    exact ht.mem_shown_iff hv hk visits
  unfold firstShown
  rw [hshown]
  rcases sighted_of_visits ht hk hsince with ⟨hfirst, hsighted⟩ | ⟨f, u, hfirst, hu, hsighted⟩
  · rw [hfirst, hsighted]
    simp
  · have hposition := hu.token_eq_iff hvisit hnew
    rw [hfirst, hsighted, Option.map_some, Option.some.injEq, Option.some.injEq, hposition]
    refine ⟨And.right, fun heq => ⟨?_, heq⟩⟩
    -- the page that showed it first is the page of this turn
    have hf : k ∈ shownAt s (listPhased pageSize resource holding) f.token := by
      simpa using List.find?_some hfirst
    rwa [hposition.2 heq, htoken, ht.mem_shownAt_iff hv hk] at hf

/-! ## What is missed -/

/-- None of the pages of an enumeration holds the pair. -/
def Misses (walker : Nat) (k : GrantKey) (turns : List Turn) : Prop :=
  ∀ t ∈ turnsOf walker turns, k ∉ t.keys

/-- **What an enumeration misses** of roles is what none of its turns was the first to show. -/
theorem Traces.misses_iff (h : Traces trail resource turns seen)
    (ht : Trail s pageSize resource holding trail none)
    (hnew : (trail.map Served.position).Nodup) (hk : holding.kind.isRole k.1) :
    Misses w k turns ↔ ∀ a t b, turns = a ++ t :: b → t.walker = w →
      firstShown s (listPhased pageSize resource holding) k (a ++ [t]) ≠ some t.token := by
  constructor
  · intro hmisses a t b hturns hw hfirst
    have hmem : t ∈ turnsOf w turns := mem_turnsOf.2 ⟨hturns ▸ by simp, hw⟩
    exact hmisses t hmem ((h.mem_keys_iff ht hnew hk hturns).2 hfirst)
  · intro hnever t hmem hkey
    obtain ⟨hmem, hw⟩ := mem_turnsOf.1 hmem
    obtain ⟨a, b, hturns⟩ := List.append_of_mem hmem
    exact hnever a t b hturns hw ((h.mem_keys_iff ht hnew hk hturns).1 hkey)

/-- An enumeration that has ended has asked for every page of the trail. -/
theorem Traces.exists_turn (h : Traces trail resource turns seen) (hne : trail ≠ [])
    (hended : HasEnded w turns) {before after : List Served} {v : Served}
    (hv : trail = before ++ v :: after) :
    ∃ t ∈ turnsOf w turns, t.token = v.tokenAfter before := by
  obtain ⟨gone, left, htrail, htokens, -, hiff, -⟩ := h.hasEnded_iff hne w
  obtain rfl := hiff.1 hended
  rw [List.append_nil] at htrail
  have hcall : (v.tokenAfter before, v.shown before) ∈ trailCalls gone :=
    mem_trailCalls.2 ⟨before, v, after, htrail ▸ hv, rfl⟩
  have htoken := List.mem_map_of_mem (f := Prod.fst) hcall
  rw [← htokens] at htoken
  exact List.mem_map.1 htoken

/-- So it has asked for every page that another one has asked for. -/
theorem Traces.exists_turn_of_mem (h : Traces trail resource turns seen) (hne : trail ≠ [])
    (hended : HasEnded w turns) {f : Turn} (hf : f ∈ turns) :
    ∃ t ∈ turns, t.walker = w ∧ t.token = f.token := by
  obtain ⟨a, b, hturns⟩ := List.append_of_mem hf
  obtain ⟨v, -, ⟨before, after, hv, htoken⟩, -⟩ := h.pages a f b hturns
  obtain ⟨t, ht, htoken'⟩ := h.exists_turn hne hended hv
  obtain ⟨hmem, hw⟩ := mem_turnsOf.1 ht
  exact ⟨t, hmem, hw, htoken'.trans htoken.symm⟩

/-- The first turn of an enumeration with a property. -/
theorem exists_first_turn {P : Turn → Prop} (h : ∃ t ∈ turns, t.walker = w ∧ P t) :
    ∃ a t b, turns = a ++ t :: b ∧ t.walker = w ∧ P t ∧ ∀ t' ∈ a, t'.walker = w → ¬P t' := by
  classical
  have hsome : (turns.find? fun t => decide (t.walker = w ∧ P t)).isSome := by
    rw [List.find?_isSome]
    obtain ⟨t, ht, hp⟩ := h
    exact ⟨t, ht, decide_eq_true hp⟩
  obtain ⟨t, hfind⟩ := Option.isSome_iff_exists.1 hsome
  obtain ⟨hp, a, b, hturns, hbefore⟩ := List.find?_eq_some_iff_append.1 hfind
  obtain ⟨hw, hpt⟩ := of_decide_eq_true hp
  refine ⟨a, t, b, hturns, hw, hpt, fun t' ht' hw' hp' => ?_⟩
  have hnot := hbefore t' ht'
  simp [hw', hp'] at hnot

/-- **A pair is missed** only when another enumeration starts between two turns that show it. -/
theorem Traces.start_between {seen₀ : FirstSeen} (h : Traces trail resource turns seen)
    (hi : Interleaving s (listPhased pageSize resource holding) seen₀ turns seen)
    (ht : Trail s pageSize resource holding trail none) (hne : trail ≠ [])
    (hnew : (trail.map Served.position).Nodup) (hk : holding.kind.isRole k.1)
    (hshows : ∃ before v after, trail = before ++ v :: after ∧ k ∈ v.keys)
    (hended : HasEnded w turns) (hmisses : Misses w k turns) :
    ∃ t u t', [t, u, t'].Sublist turns ∧ t.walker = w ∧ t'.walker = w ∧ u.walker ≠ w ∧
      u.token = "" ∧ k ∈ shownAt s (listPhased pageSize resource holding) t.token ∧
      k ∈ shownAt s (listPhased pageSize resource holding) t'.token := by
  have hmissed := (h.misses_iff ht hnew hk).1 hmisses
  have hexists : ∃ t ∈ turns, t.walker = w ∧
      k ∈ shownAt s (listPhased pageSize resource holding) t.token := by
    obtain ⟨before, v, after, hv, hkeys⟩ := hshows
    obtain ⟨t, hmem, htoken⟩ := h.exists_turn hne hended hv
    obtain ⟨hmem, hw⟩ := mem_turnsOf.1 hmem
    exact ⟨t, hmem, hw, htoken ▸ (ht.mem_shownAt_iff hv hk).2 hkeys⟩
  -- at the first turn that shows the pair, another page was first, which comes later in the trail
  obtain ⟨a, t, b, hturns, hw, hshown, hbefore⟩ := exists_first_turn hexists
  obtain ⟨f, hf, hfirst, hfshown⟩ := exists_firstShown mem_sinceStart_append_self hshown
  have hfmem : f ∈ turns := by
    rw [hturns, List.append_cons]
    exact List.mem_append_left _ hf
  obtain ⟨t', hmem', hw', htoken'⟩ := h.exists_turn_of_mem hne hended hfmem
  rw [← htoken'] at hfirst hfshown
  have hlater : t' ∈ b := by
    rw [hturns] at hmem'
    rcases List.mem_append.1 hmem' with hmem' | hmem'
    · exact absurd hfshown (hbefore t' hmem' hw')
    · rcases List.mem_cons.1 hmem' with rfl | hmem'
      · exact absurd hfirst (hmissed a _ b hturns hw)
      · exact hmem'
  -- at the turn for that page it is first no more
  obtain ⟨c, d, rfl⟩ := List.append_of_mem hlater
  have hmoved : firstShown s (listPhased pageSize resource holding) k
      ((a ++ [t]) ++ (c ++ [t'])) ≠ some t'.token := by
    have hturns' : turns = (a ++ t :: c) ++ t' :: d := by simp [hturns]
    simpa using hmissed _ t' d hturns' hw'
  obtain ⟨u, hu, hempty⟩ := exists_start hfirst hmoved
  have hub : u ∈ c ++ t' :: d := by
    rw [List.append_cons]
    exact List.mem_append_left _ hu
  have hwalker : u.walker ≠ w := hw ▸ hi.walker_ne_of_start hturns hub hempty
  have huc : u ∈ c := by
    rcases List.mem_append.1 hu with hu | hu
    · exact hu
    · obtain rfl := List.mem_singleton.1 hu
      exact absurd hw' hwalker
  refine ⟨t, u, t', ?_, hw, hw', hwalker, hempty, hshown, hfshown⟩
  have hsub : List.Sublist ([t] ++ ([u] ++ [t'])) ((a ++ [t]) ++ (c ++ t' :: d)) :=
    (List.singleton_sublist.2 (by simp)).append
      ((List.singleton_sublist.2 huc).append (List.singleton_sublist.2 List.mem_cons_self))
  simpa [hturns] using hsub

/-- A role among the grants of the lists is shown by a page of the trail. -/
theorem exists_visit_of_grant (ht : Trail s pageSize resource holding trail none) {g : Grant}
    (hg : g ∈ (trailCalls trail).flatMap (·.2.items)) (hk : holding.kind.isRole g.slug) :
    ∃ before v after, trail = before ++ v :: after ∧ g.key ∈ v.keys := by
  obtain ⟨call, hcall, hg⟩ := List.mem_flatMap.1 hg
  obtain ⟨before, v, after, hv, rfl⟩ := mem_trailCalls.1 hcall
  have hshown := (ht.mem_shown_iff (k := g.key) hv hk before).1 (List.mem_map_of_mem hg)
  exact ⟨before, v, after, hv, hshown.1⟩

end

/-! ## A pair that is missed -/

/-- A project without repositories, on which a group and its only member have the same role. -/
def overlapServer : Server
  | .repositories .. => .ok ⟨[], ""⟩
  | .groupMembers _ => .ok [⟨"u1", "First User", "first", "user"⟩]
  | .roles table .groups .. =>
    if table = .project "w" "P" then .ok ⟨[⟨"write", ⟨"g", "Group"⟩⟩], ""⟩
    else .error (.status 404 "not found")
  | .roles table .users .. =>
    if table = .project "w" "P" then
      .ok ⟨[⟨"write", ⟨"u1", "First User", "first", "user"⟩⟩], ""⟩
    else .error (.status 404 "not found")
  | .currentUser | .workspaces .. | .workspace _ | .members .. | .projects .. | .groups _ | .role ..
  | .addMember .. | .removeMember .. | .setRole .. | .dropRole .. =>
    .error (.status 404 "not found")

/-- What that server lists behind the project. -/
def overlapContents : Contents where
  repositories := [⟨[], ""⟩]
  groups := [⟨[⟨"write", ⟨"g", "Group"⟩⟩], ""⟩]
  users := [⟨[⟨"write", ⟨"u1", "First User", "first", "user"⟩⟩], ""⟩]
  members _ := [⟨"u1", "First User", "first", "user"⟩]

theorem listedAt_overlap :
    overlapContents.ListedAt overlapServer 100 (.project ⟨"w", "p", "P"⟩) :=
  .project ⟨.last rfl rfl, .last rfl rfl⟩ (.last rfl rfl) fun _ _ _ => rfl

section
variable {s : Server} {pageSize : UInt32} {resource : ResourceId} {holding : Holding}
variable {seen₀ seen : FirstSeen} {turns : List Turn} {w : Nat} {found : Page Grant}

/-- The first turn of an enumeration. -/
theorem Interleaving.first
    (h : Interleaving s (listPhased pageSize resource holding) seen₀ turns seen)
    (hw : turnsOf w turns = []) (hf : FoundAt s pageSize resource holding holding.start found) :
    let kept := holding.start.keep found.items (seen.reset resource)
    Interleaving s (listPhased pageSize resource holding) seen₀
      (turns ++ [⟨w, "", ⟨kept.1, Place.tokenOf (holding.start.after found.next)⟩⟩]) kept.2 := by
  have hdue : dueFor w turns = "" := by
    unfold dueFor
    rw [hw]
    rfl
  rw [← hdue]
  refine h.next (fun hended => hended.1 hw) ?_
  rw [hdue, listPhased_empty]
  exact result_servePlace.2 ⟨found, hf, rfl, rfl⟩

/-- A later turn, to the place that is due. -/
theorem Interleaving.later {p : Place}
    (h : Interleaving s (listPhased pageSize resource holding) seen₀ turns seen)
    (hdue : dueFor w turns = p.token) (hp : p.Within holding.kind.phases)
    (hf : FoundAt s pageSize resource holding p found) :
    let kept := p.keep found.items seen
    Interleaving s (listPhased pageSize resource holding) seen₀
      (turns ++ [⟨w, p.token, ⟨kept.1, Place.tokenOf (p.after found.next)⟩⟩]) kept.2 := by
  rw [← hdue]
  refine h.next (fun hended => p.token_ne_empty (hdue ▸ hended.2)) ?_
  rw [hdue, listPhased_token pageSize resource hp]
  exact result_servePlace.2 ⟨found, hf, rfl, rfl⟩

end

theorem isHolding_overlap : ResourceId.IsHolding ⟨.project, "w:p:P"⟩ (.project ⟨"w", "p", "P"⟩) :=
  ⟨rfl, rfl⟩

/-- The group passes its role on to the user. -/
theorem mem_grants_overlap : Grant.of ⟨.project, "w:p:P"⟩ "write" ⟨.user, "u1"⟩ ∈
    overlapContents.grants ⟨.project, "w:p:P"⟩ (.project ⟨"w", "p", "P"⟩) :=
  .tail _ (.head _)

/-- Three enumerations of that project take turns: the second one starts when the first one has
listed the groups, and lists them when the first one has come to the users; the third one starts
then and lists the groups, before the second one lists the users. -/
theorem interleaving_overlap :
    let list := Connector.listGrants ⟨100, []⟩ (.workspace "w") ⟨.project, "w:p:P"⟩
    ∃ turns seen, Interleaving overlapServer list .empty turns seen ∧
      turns.map (·.walker) = [0, 0, 1, 0, 1, 2, 2, 1, 2] ∧
      (∀ w ∈ turns.map (·.walker), HasEnded w turns) ∧ Misses 1 ("write", ⟨.user, "u1"⟩) turns := by
  let resource : ResourceId := ⟨.project, "w:p:P"⟩
  let holding := Holding.project ⟨"w", "p", "P"⟩
  -- what the server has at the three places of an enumeration
  have hrepositories : FoundAt overlapServer 100 resource holding holding.start ⟨[], ""⟩ := rfl
  have hgroups : FoundAt overlapServer 100 resource holding ⟨.userGroup, "", [.user]⟩
      ⟨[Grant.of resource "write" ⟨.userGroup, "w:g"⟩,
        Grant.of resource "write" ⟨.user, "u1"⟩], ""⟩ := rfl
  have husers : FoundAt overlapServer 100 resource holding ⟨.user, "", []⟩
      ⟨[Grant.of resource "write" ⟨.user, "u1"⟩], ""⟩ := rfl
  have hgroupsDue : Place.Within ⟨.userGroup, "", [.user]⟩ holding.kind.phases := by decide
  have husersDue : Place.Within ⟨.user, "", []⟩ holding.kind.phases := by decide
  -- the turns in their order
  have h₀ : Interleaving overlapServer (listPhased 100 resource holding) .empty [] .empty := .start
  have h₁ := h₀.first (w := 0) rfl hrepositories
  have h₂ := h₁.later (w := 0) rfl hgroupsDue hgroups
  have h₃ := h₂.first (w := 1) rfl hrepositories
  have h₄ := h₃.later (w := 0) rfl husersDue husers
  have h₅ := h₄.later (w := 1) rfl hgroupsDue hgroups
  have h₆ := h₅.first (w := 2) rfl hrepositories
  have h₇ := h₆.later (w := 2) rfl hgroupsDue hgroups
  have h₈ := h₇.later (w := 1) rfl husersDue husers
  have h₉ := h₈.later (w := 2) rfl husersDue husers
  intro list
  have hlist : list = listPhased 100 resource holding :=
    listGrants_eq_listPhased ⟨100, []⟩ isHolding_overlap rfl
  rw [hlist]
  refine ⟨_, _, h₉, rfl, ?_, ?_⟩
  · intro w hw
    have hwalker : w = 0 ∨ w = 1 ∨ w = 2 := by
      have hall : ∀ w ∈ [0, 0, 1, 0, 1, 2, 2, 1, 2], w = 0 ∨ w = 1 ∨ w = 2 := by decide
      exact hall w hw
    rcases hwalker with rfl | rfl | rfl <;> exact ⟨List.cons_ne_nil _ _, rfl⟩
  · unfold Misses
    decide

section
variable {s : Server} {resource : ResourceId} {holding : Holding} {scope : Scope}
variable {contents : Contents}

/-- **What enumerations that overlap return.** Against lists of finitely many pages, any number of
enumerations of one project or repository in scope may take turns in any order: no call fails, and
each of them ends after the same number of turns. Of the grants of roles that are listed, an
enumeration that has ended misses those of which none of its turns was the first to show the pair
since an enumeration started last; and of those that it misses, another enumeration has started
between two of its turns that both show the pair. -/
theorem overlapping_enumerations (c : Connector) (hr : resource.IsHolding holding)
    (hs : scope.contains holding.workspace) (h : contents.ListedAt s c.pageSize holding) :
    let list := c.listGrants scope resource
    ∃ count, ∀ seen₀ turns seen, Interleaving s list seen₀ turns seen →
      (∀ w, HasEnded w turns ↔ (turnsOf w turns).length = count) ∧
      (∀ w, ¬HasEnded w turns → ∃ page seen',
        ((list (dueFor w turns)).run seen).result s = .ok (.ok page, seen')) ∧
      ∀ w, HasEnded w turns → ∀ g ∈ contents.grants resource holding,
        holding.kind.isRole g.slug →
        (Misses w g.key turns ↔ ∀ a t b, turns = a ++ t :: b → t.walker = w →
          firstShown s list g.key (a ++ [t]) ≠ some t.token) ∧
        (Misses w g.key turns → ∃ t u t', [t, u, t'].Sublist turns ∧
          t.walker = w ∧ t'.walker = w ∧ u.walker ≠ w ∧ u.token = "" ∧
          g.key ∈ shownAt s list t.token ∧ g.key ∈ shownAt s list t'.token) := by
  rw [listGrants_eq_listPhased c hr hs]
  obtain ⟨trail, hne, ht, hitems, hnew⟩ := exists_trail resource h
  refine ⟨trail.length, fun seen₀ turns seen hi => ?_⟩
  have htraces := traces_of_interleaving ht hne hi
  refine ⟨fun w => ?_, fun w goes => ?_, fun w hended g hg hk => ⟨?_, fun hmisses => ?_⟩⟩
  · obtain ⟨gone, left, rfl, -, hlength, hiff, -⟩ := htraces.hasEnded_iff hne w
    rw [hiff, hlength, List.length_append]
    constructor
    · rintro rfl
      rfl
    · intro heq
      exact List.length_eq_zero_iff.1 (by omega)
  · obtain ⟨_, _, _, _, -, -, -, -, seen', hcall, -⟩ := htraces.exists_next ht hne goes
    exact ⟨_, seen', hcall⟩
  · exact htraces.misses_iff ht hnew hk
  · rw [← hitems] at hg
    exact htraces.start_between hi ht hne hnew hk (exists_visit_of_grant ht hg hk) hended hmisses

end

/-- **An enumeration may miss a grant.** Of three enumerations of the same project, all of them
followed to their end, the second one has returned the role of the user nowhere. -/
theorem overlap_misses_a_grant :
    let resource : ResourceId := ⟨.project, "w:p:P"⟩
    let holding := Holding.project ⟨"w", "p", "P"⟩
    let g := Grant.of resource "write" ⟨.user, "u1"⟩
    overlapContents.ListedAt overlapServer 100 holding ∧
      g ∈ overlapContents.grants resource holding ∧ holding.kind.isRole g.slug ∧
      ∃ turns seen, Interleaving overlapServer
          (Connector.listGrants ⟨100, []⟩ (.workspace "w") resource) .empty turns seen ∧
        turns.map (·.walker) = [0, 0, 1, 0, 1, 2, 2, 1, 2] ∧
        (∀ w ∈ turns.map (·.walker), HasEnded w turns) ∧ Misses 1 g.key turns := by
  intro resource holding g
  exact ⟨listedAt_overlap, mem_grants_overlap, rfl, interleaving_overlap⟩

/-- In those turns no call fails, and another enumeration starts between the two turns of the second
one that show the role of the user. -/
theorem overlapping_enumerations_sample :
    let list := Connector.listGrants ⟨100, []⟩ (.workspace "w") ⟨.project, "w:p:P"⟩
    let k : GrantKey := ("write", ⟨.user, "u1"⟩)
    ∃ turns seen, Interleaving overlapServer list .empty turns seen ∧ HasEnded 1 turns ∧
      (∃ page seen', ((list (dueFor 3 turns)).run seen).result overlapServer =
        .ok (.ok page, seen')) ∧
      (∀ a t b, turns = a ++ t :: b → t.walker = 1 →
        firstShown overlapServer list k (a ++ [t]) ≠ some t.token) ∧
      ∃ t u t', [t, u, t'].Sublist turns ∧ t.walker = 1 ∧ t'.walker = 1 ∧ u.walker ≠ 1 ∧
        u.token = "" ∧ k ∈ shownAt overlapServer list t.token ∧
        k ∈ shownAt overlapServer list t'.token := by
  obtain ⟨turns, seen, hturns, hwalkers, hended, hmisses⟩ := interleaving_overlap
  have hs : (Scope.workspace "w").contains "w" := rfl
  obtain ⟨count, hall⟩ :=
    overlapping_enumerations ⟨100, []⟩ isHolding_overlap hs listedAt_overlap
  obtain ⟨-, hgoes, hroles⟩ := hall _ turns seen hturns
  have hsecond : HasEnded 1 turns := hended 1 (hwalkers ▸ by decide)
  have hfourth : ¬HasEnded 3 turns := by
    rintro ⟨hstarted, -⟩
    obtain ⟨t, ht⟩ := List.exists_mem_of_ne_nil _ hstarted
    obtain ⟨hmem, hw⟩ := mem_turnsOf.1 ht
    have hthree : 3 ∈ turns.map (·.walker) := List.mem_map.2 ⟨t, hmem, hw⟩
    rw [hwalkers] at hthree
    exact absurd hthree (by decide)
  obtain ⟨hfirst, hbetween⟩ := hroles 1 hsecond _ mem_grants_overlap rfl
  exact ⟨turns, seen, hturns, hsecond, hgoes 3 hfourth, hfirst.1 hmisses, hbetween hmisses⟩

end AccessSync
