import AccessSync.Grants.FirstSeen

/-!
# Pages and first sightings

What a page keeps is told by where its grants were seen first: a grant is kept when its first
sighting is on this page, of repeated grants the first one.

* `firstOf_without_append`, `nodup_keys_firstOf`: the first grants of two lists, and that no two of
  them are the same.
* `mem_keys_firstOf`: they are grants of the same slugs to the same principals.
* `retainNew_fst`: the grants that a page keeps.
* `position?_retainNew`: the first sightings after a page.
* `position?_retainNew_of_ne`: nothing else is seen by it.
-/

namespace AccessSync

/-- The grants are of the same slug to the same principal. -/
def Grant.sameKey (g h : Grant) : Bool := g.key == h.key

/-- The first grant with each key, in order. -/
def firstOf (grants : List Grant) : List Grant := grants.eraseDupsBy Grant.sameKey

/-- The grants whose key is not among the given ones. -/
def without (keys : List GrantKey) (grants : List Grant) : List Grant :=
  grants.filter fun g => g.key ∉ keys

/-! ## First grants

All inductions are on the grants, for any keys that are left out: what follows a grant is taken
without its key. -/

theorem without_nil (grants : List Grant) : without [] grants = grants := by
  simp [without]

/-- Only the set of keys counts. -/
theorem without_congr {keys others : List GrantKey} (h : ∀ k, k ∈ keys ↔ k ∈ others)
    (grants : List Grant) : without keys grants = without others grants := by
  unfold without
  apply List.filter_congr
  intro g _
  rw [decide_eq_decide, h]

theorem without_cons_of_mem {keys : List GrantKey} {g : Grant} (h : g.key ∈ keys)
    (rest : List Grant) : without keys (g :: rest) = without keys rest := by
  simp [without, h]

theorem without_cons {keys : List GrantKey} {g : Grant} (h : g.key ∉ keys) (rest : List Grant) :
    without keys (g :: rest) = g :: without keys rest := by
  simp [without, h]

theorem without_without (keys others : List GrantKey) (grants : List Grant) :
    without keys (without others grants) = without (keys ++ others) grants := by
  simp [without, List.filter_filter]

@[simp] theorem firstOf_nil : firstOf [] = [] := rfl

theorem firstOf_cons (g : Grant) (rest : List Grant) :
    firstOf (g :: rest) = g :: firstOf (without [g.key] rest) := by
  unfold firstOf without
  rw [List.eraseDupsBy_cons]
  congr 2
  apply List.filter_congr
  intro h _
  simp [Grant.sameKey]

theorem firstOf_without_cons_of_mem {keys : List GrantKey} {g : Grant} (h : g.key ∈ keys)
    (rest : List Grant) : firstOf (without keys (g :: rest)) = firstOf (without keys rest) := by
  rw [without_cons_of_mem h]

theorem firstOf_without_cons {keys : List GrantKey} {g : Grant} (h : g.key ∉ keys)
    (rest : List Grant) :
    firstOf (without keys (g :: rest)) = g :: firstOf (without (g.key :: keys) rest) := by
  rw [without_cons h, firstOf_cons, without_without, List.singleton_append]

/-- **The first grants of two lists** are those of the first, then those of the second that are
new. -/
theorem firstOf_without_append (keys : List GrantKey) (xs ys : List Grant) :
    firstOf (without keys (xs ++ ys)) =
      firstOf (without keys xs) ++ firstOf (without (xs.map Grant.key ++ keys) ys) := by
  induction xs generalizing keys with
  | nil => simp [without]
  | cons g rest ih =>
    rw [List.cons_append]
    by_cases hg : g.key ∈ keys
    · rw [firstOf_without_cons_of_mem hg, firstOf_without_cons_of_mem hg, ih]
      congr 2
      apply without_congr
      intro k
      simp only [List.map_cons, List.mem_append, List.mem_cons]
      constructor
      · rintro (h | h)
        · exact .inl (.inr h)
        · exact .inr h
      · rintro ((rfl | h) | h)
        · exact .inr hg
        · exact .inl h
        · exact .inr h
    · rw [firstOf_without_cons hg, firstOf_without_cons hg, ih, List.cons_append]
      congr 3
      apply without_congr
      intro k
      simp only [List.map_cons, List.mem_append, List.mem_cons]
      rw [or_left_comm, or_assoc]

theorem mem_of_mem_firstOf {keys : List GrantKey} {g : Grant} {grants : List Grant}
    (h : g ∈ firstOf (without keys grants)) : g ∈ grants ∧ g.key ∉ keys := by
  induction grants generalizing keys with
  | nil => simp [without] at h
  | cons a rest ih =>
    by_cases ha : a.key ∈ keys
    · rw [firstOf_without_cons_of_mem ha] at h
      exact ⟨List.mem_cons_of_mem _ (ih h).1, (ih h).2⟩
    · rw [firstOf_without_cons ha] at h
      rcases List.mem_cons.1 h with rfl | h
      · exact ⟨List.mem_cons_self, ha⟩
      · exact ⟨List.mem_cons_of_mem _ (ih h).1, fun hk => (ih h).2 (List.mem_cons_of_mem _ hk)⟩

/-- The first grants have all the keys. -/
theorem mem_keys_firstOf {k : GrantKey} {grants : List Grant} :
    k ∈ (firstOf grants).map Grant.key ↔ k ∈ grants.map Grant.key := by
  suffices h : ∀ keys, k ∈ (firstOf (without keys grants)).map Grant.key ↔
      k ∈ grants.map Grant.key ∧ k ∉ keys by
    have hnil := h []
    rw [without_nil] at hnil
    simpa using hnil
  induction grants with
  | nil => simp [without]
  | cons g rest ih =>
    intro keys
    by_cases hg : g.key ∈ keys
    · rw [firstOf_without_cons_of_mem hg, ih, List.map_cons, List.mem_cons]
      grind
    · rw [firstOf_without_cons hg, List.map_cons, List.map_cons, List.mem_cons, List.mem_cons, ih]
      grind

/-- **No two of the first grants** have the same slug and the same principal. -/
theorem nodup_keys_firstOf (grants : List Grant) : ((firstOf grants).map Grant.key).Nodup := by
  suffices h : ∀ keys, ((firstOf (without keys grants)).map Grant.key).Nodup by
    have := h []
    rwa [without_nil] at this
  induction grants with
  | nil => exact fun _ => List.nodup_nil
  | cons g rest ih =>
    intro keys
    by_cases hg : g.key ∈ keys
    · rw [firstOf_without_cons_of_mem hg]
      exact ih keys
    · rw [firstOf_without_cons hg, List.map_cons, List.nodup_cons]
      refine ⟨?_, ih _⟩
      intro hmem
      obtain ⟨h, hh, hkey⟩ := List.mem_map.1 hmem
      exact (mem_of_mem_firstOf hh).2 (hkey ▸ List.mem_cons_self)

/-- Leaving out keys before or after taking first grants is the same. -/
theorem firstOf_without (keys : List GrantKey) (grants : List Grant) :
    firstOf (without keys grants) = without keys (firstOf grants) := by
  suffices h : ∀ others, firstOf (without (keys ++ others) grants) =
      without keys (firstOf (without others grants)) by
    have := h []
    rwa [List.append_nil, without_nil] at this
  induction grants with
  | nil => intro _; rfl
  | cons g rest ih =>
    intro others
    by_cases ho : g.key ∈ others
    · rw [firstOf_without_cons_of_mem ho,
        firstOf_without_cons_of_mem (List.mem_append_right _ ho), ih]
    · rw [firstOf_without_cons ho]
      have hset : ∀ k, k ∈ g.key :: (keys ++ others) ↔ k ∈ keys ++ g.key :: others := by
        intro k
        simp only [List.mem_append, List.mem_cons]
        exact or_left_comm
      by_cases hk : g.key ∈ keys
      · have hsame : ∀ k, k ∈ keys ++ others ↔ k ∈ keys ++ g.key :: others := by
          intro k
          rw [← hset]
          simp only [List.mem_append, List.mem_cons]
          constructor
          · exact .inr
          · rintro (rfl | h)
            · exact .inl hk
            · exact h
        rw [firstOf_without_cons_of_mem (List.mem_append_left _ hk), without_cons_of_mem hk, ← ih,
          without_congr hsame]
      · rw [firstOf_without_cons (by simp [hk, ho]), without_cons hk, ← ih, without_congr hset]

namespace FirstSeen

/-! ## Tables -/

theorem lookup_cons_of_ne {α β : Type} [BEq α] [LawfulBEq α] {a k : α} (h : k ≠ a) (b : β)
    (rest : List (α × β)) : ((a, b) :: rest).lookup k = rest.lookup k := by
  rw [List.lookup_cons, beq_false_of_ne h]

theorem lookup_replaceTable (resource other : ResourceId) (table : List (GrantKey × String))
    (tables : List (ResourceId × List (GrantKey × String))) :
    (replaceTable resource table tables).lookup other =
      if other = resource then some table else tables.lookup other := by
  induction tables with
  | nil =>
    by_cases h : other = resource
    · simp [replaceTable, h]
    · rw [replaceTable, lookup_cons_of_ne h, if_neg h]
  | cons entry rest ih =>
    obtain ⟨key, old⟩ := entry
    unfold replaceTable
    by_cases hk : key = resource
    · subst hk
      rw [if_pos rfl]
      by_cases h : other = key
      · simp [h]
      · rw [lookup_cons_of_ne h, lookup_cons_of_ne h, if_neg h]
    · rw [if_neg hk]
      by_cases ho : other = key
      · subst ho
        simp [hk]
      · rw [lookup_cons_of_ne ho, lookup_cons_of_ne ho, ih]

theorem position?_record (s : FirstSeen) (resource other : ResourceId) (key k : GrantKey)
    (position : String) :
    (s.record resource key position).position? other k =
      if other = resource ∧ k = key then some position else s.position? other k := by
  unfold position? table record
  rw [lookup_replaceTable]
  by_cases ho : other = resource
  · subst ho
    by_cases hk : k = key
    · simp [hk]
    · simp only [if_true, Option.getD_some, lookup_cons_of_ne hk, hk, and_false, if_false]
      rfl
  · simp [ho]

/-- Only the sightings on the resource are forgotten. -/
theorem position?_reset (s : FirstSeen) (resource other : ResourceId) (k : GrantKey) :
    (s.reset resource).position? other k =
      if other = resource then none else s.position? other k := by
  have htable : (s.reset resource).tables.lookup other =
      if other = resource then none else s.tables.lookup other := by
    unfold reset
    induction s.tables with
    | nil => simp
    | cons entry rest ih =>
      obtain ⟨key, old⟩ := entry
      by_cases hk : key = resource
      · subst hk
        rw [List.filter_cons_of_neg (by simp), ih]
        by_cases h : other = key
        · simp [h]
        · rw [lookup_cons_of_ne h]
      · rw [List.filter_cons_of_pos (by simp [hk])]
        by_cases ho : other = key
        · subst ho
          simp [hk]
        · rw [lookup_cons_of_ne ho, lookup_cons_of_ne ho, ih]
  unfold position? table
  rw [htable]
  by_cases h : other = resource <;> simp [h]

/-! ## Pages -/

/-- The first sighting of the grant is at the position, or would be. -/
def isFirstAt (s : FirstSeen) (position : String) (g : Grant) : Bool :=
  (s.position? g.resource g.key).getD position == position

/-- A new sighting at the position makes no difference to what is first there. -/
theorem isFirstAt_record {s : FirstSeen} {g : Grant} (h : s.position? g.resource g.key = none)
    (position : String) :
    (s.record g.resource g.key position).isFirstAt position = s.isFirstAt position := by
  funext other
  unfold isFirstAt
  rw [position?_record]
  split
  · rename_i hsame
    rw [hsame.1, hsame.2, h]
    rfl
  · rfl

theorem retainFrom_fst (position : String) (onPage : List GrantKey) (s : FirstSeen)
    (grants : List Grant) :
    (retainFrom position onPage s grants).1 =
      (firstOf (without onPage grants)).filter (s.isFirstAt position) := by
  induction grants generalizing onPage s with
  | nil => rfl
  | cons g rest ih =>
    unfold retainFrom
    by_cases hg : g.key ∈ onPage
    · rw [if_pos hg, ih, firstOf_without_cons_of_mem hg]
    · rw [if_neg hg, firstOf_without_cons hg]
      cases hp : s.position? g.resource g.key with
      | none =>
        -- recording the grant at this position does not change which grants are first here
        have hkeep : s.isFirstAt position g := by simp [isFirstAt, hp]
        rw [List.filter_cons_of_pos hkeep]
        show g :: (retainFrom position (g.key :: onPage) (s.record g.resource g.key position)
          rest).1 = _
        rw [ih, isFirstAt_record hp]
      | some first =>
        have hkeep : s.isFirstAt position g = (first == position) := by simp [isFirstAt, hp]
        show (if first = position then g :: (retainFrom position (g.key :: onPage) s rest).1
          else (retainFrom position (g.key :: onPage) s rest).1) = _
        rw [ih]
        by_cases hf : first = position
        · rw [if_pos hf, List.filter_cons_of_pos (by simp [hkeep, hf])]
        · rw [if_neg hf, List.filter_cons_of_neg (by simp [hkeep, hf])]

/-- **What a page keeps**: of its grants the first with each key, when the page is the place where
it was seen first. -/
theorem retainNew_fst (s : FirstSeen) (position : String) (grants : List Grant) :
    (s.retainNew position grants).1 = (firstOf grants).filter (s.isFirstAt position) := by
  unfold retainNew
  rw [retainFrom_fst, without_nil]

theorem position?_retainFrom {resource : ResourceId} {grants : List Grant}
    (hr : ∀ g ∈ grants, g.resource = resource) (position : String) (onPage : List GrantKey)
    (s : FirstSeen) (k : GrantKey) :
    (retainFrom position onPage s grants).2.position? resource k =
      (s.position? resource k).or
        (if k ∈ (without onPage grants).map Grant.key then some position else none) := by
  induction grants generalizing onPage s with
  | nil => simp [retainFrom, without]
  | cons g rest ih =>
    have hrest : ∀ h ∈ rest, h.resource = resource := fun h hh => hr h (List.mem_cons_of_mem _ hh)
    have hgr : g.resource = resource := hr g List.mem_cons_self
    unfold retainFrom
    by_cases hg : g.key ∈ onPage
    · rw [if_pos hg, ih hrest, without_cons_of_mem hg]
    · rw [if_neg hg]
      have hmem : k ∈ (without onPage (g :: rest)).map Grant.key ↔
          k = g.key ∨ k ∈ (without (g.key :: onPage) rest).map Grant.key := by
        simp only [without, List.mem_map, List.mem_filter, List.mem_cons, decide_eq_true_eq]
        constructor
        · rintro ⟨h, ⟨rfl | hh, hk⟩, rfl⟩
          · exact .inl rfl
          · by_cases he : h.key = g.key
            · exact .inl he
            · exact .inr ⟨h, ⟨hh, by simp [he, hk]⟩, rfl⟩
        · rintro (rfl | ⟨h, ⟨hh, hk⟩, rfl⟩)
          · exact ⟨g, ⟨.inl rfl, hg⟩, rfl⟩
          · exact ⟨h, ⟨.inr hh, fun hko => hk (.inr hko)⟩, rfl⟩
      cases hp : s.position? g.resource g.key with
      | none =>
        show (retainFrom position (g.key :: onPage) (s.record g.resource g.key position)
          rest).2.position? resource k = _
        rw [ih hrest, position?_record, hgr]
        rw [hgr] at hp
        by_cases hk : k = g.key
        · subst hk
          simp [hmem, hp]
        · simp [hmem, hk]
      | some first =>
        show (retainFrom position (g.key :: onPage) s rest).2.position? resource k = _
        rw [ih hrest]
        rw [hgr] at hp
        by_cases hk : k = g.key
        · subst hk
          simp [hp]
        · simp [hmem, hk]

/-- **The first sightings after a page** of grants on one resource: those there were, and the page
for whatever it shows for the first time. -/
theorem position?_retainNew {resource : ResourceId} {grants : List Grant}
    (hr : ∀ g ∈ grants, g.resource = resource) (s : FirstSeen) (position : String) (k : GrantKey) :
    (s.retainNew position grants).2.position? resource k =
      (s.position? resource k).or (if k ∈ grants.map Grant.key then some position else none) := by
  unfold retainNew
  rw [position?_retainFrom hr, without_nil]

theorem position?_retainFrom_of_ne {resource other : ResourceId} (ho : other ≠ resource)
    {grants : List Grant} (hr : ∀ g ∈ grants, g.resource = resource) (position : String)
    (onPage : List GrantKey) (s : FirstSeen) (k : GrantKey) :
    (retainFrom position onPage s grants).2.position? other k = s.position? other k := by
  induction grants generalizing onPage s with
  | nil => rfl
  | cons g rest ih =>
    have hrest : ∀ h ∈ rest, h.resource = resource := fun h hh => hr h (List.mem_cons_of_mem _ hh)
    have hgr : g.resource = resource := hr g List.mem_cons_self
    unfold retainFrom
    by_cases hg : g.key ∈ onPage
    · rw [if_pos hg]
      exact ih hrest onPage s
    · rw [if_neg hg]
      cases s.position? g.resource g.key with
      | none =>
        show (retainFrom position (g.key :: onPage) (s.record g.resource g.key position)
          rest).2.position? other k = _
        rw [ih hrest, position?_record, hgr, if_neg fun h => ho h.1]
      | some first => exact ih hrest (g.key :: onPage) s

/-- A page of grants on one resource changes nothing of what was seen of another. -/
theorem position?_retainNew_of_ne {resource other : ResourceId} (ho : other ≠ resource)
    {grants : List Grant} (hr : ∀ g ∈ grants, g.resource = resource) (s : FirstSeen)
    (position : String) (k : GrantKey) :
    (s.retainNew position grants).2.position? other k = s.position? other k :=
  position?_retainFrom_of_ne ho hr position [] s k

end FirstSeen

end AccessSync
