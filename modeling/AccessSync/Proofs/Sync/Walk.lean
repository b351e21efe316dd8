import AccessSync.Proofs.Grants.Membership
import AccessSync.Sync.Walk

/-!
# What a walk leaves

Work on the way of a walk leads from what has been seen to a result and more that has been seen,
and leaves records. A list is made page after page; a visit leaves the records of a resource; and a
queue of lists leaves those of the resources on its lists, then those of the lists below them.

* `Walk.Leads`, `Walk.Does`: what work on the way comes to, from one state or from any.
* `does_listAll`, `does_visit`: one list, one visit.
* `does_drain_append`: the lists at the front of a queue.
-/

namespace AccessSync.Sync

variable {α β : Type} {s : Server}

/-- The records among the notes. -/
def recordsOf (notes : List Note) : List Record :=
  notes.filterMap fun
    | .record r => some r
    | .event _ => none

namespace Walk

/-- From what has been seen the work ends with `a`, leaving the records, and what has been seen
then. -/
structure Leads (s : Server) (x : Walk α) (seen : FirstSeen) (a : α) (records : List Record)
    (seen' : FirstSeen) : Prop where
  result : (x.run seen).result s = .ok (.ok a, seen')
  records : recordsOf ((x.run seen).noted s) = records

/-- The work ends with `a`, leaving the records, whatever has been seen. -/
def Does (s : Server) (x : Walk α) (a : α) (records : List Record) : Prop :=
  ∀ seen, ∃ seen', x.Leads s seen a records seen'

section
variable {x : Walk α} {a : α} {f : α → Walk β} {b : β} {records more : List Record}
variable {seen seen' seen'' : FirstSeen}

theorem recordsOf_append (notes others : List Note) :
    recordsOf (notes ++ others) = recordsOf notes ++ recordsOf others := List.filterMap_append

/-- **One piece of work after the other** leaves the records of both. -/
theorem Leads.bind (hx : x.Leads s seen a records seen') (hf : (f a).Leads s seen' b more seen'') :
    (x >>= f).Leads s seen b (records ++ more) seen'' where
  result := by rw [Plan.run_stateT_bind, Plan.result_bind_of_ok hx.result, hf.result]
  records := by
    rw [Plan.run_stateT_bind, Plan.noted_bind hx.result, recordsOf_append, hx.records, hf.records]

theorem leads_pure (a : α) (seen : FirstSeen) : (pure a : Walk α).Leads s seen a [] seen :=
  ⟨rfl, rfl⟩

theorem leads_emit (r : Record) (seen : FirstSeen) : (Walk.emit r).Leads s seen () [r] seen :=
  ⟨rfl, rfl⟩

theorem leads_forM_emit (record : α → Record) (items : List α) (seen : FirstSeen) :
    (items.forM fun a => Walk.emit (record a)).Leads s seen () (items.map record) seen := by
  induction items with
  | nil => exact leads_pure () seen
  | cons a rest ih => exact (leads_emit (record a) seen).bind ih

/-- An enumeration leaves no records of its own. -/
theorem leads_ofEnumeration {work : Enumeration α}
    (h : (work.run seen).result s = .ok (.ok a, seen')) :
    (Walk.ofEnumeration work).Leads s seen a [] seen' where
  result := (Plan.result_mapNotes _ _).trans h
  records := by
    show recordsOf (((work.run seen).mapNotes fun e => [Note.event e]).noted s) = []
    rw [Plan.noted_mapNotes, recordsOf, List.filterMap_flatMap]
    simp

theorem leads_ofOperation {work : Operation α} (h : work.outcome s = .ok a) (seen : FirstSeen) :
    (Walk.ofOperation work).Leads s seen a [] seen := by
  apply leads_ofEnumeration
  rw [Enumeration.run_ofOperation, Plan.result_bind_of_ok (Operation.outcome_eq_ok.1 h)]
  rfl

theorem Does.bind (hx : x.Does s a records) (hf : (f a).Does s b more) :
    (x >>= f).Does s b (records ++ more) := by
  intro seen
  obtain ⟨seen', hx⟩ := hx seen
  obtain ⟨seen'', hf⟩ := hf seen'
  exact ⟨seen'', hx.bind hf⟩

theorem does_pure (a : α) : (pure a : Walk α).Does s a [] := fun seen => ⟨seen, leads_pure a seen⟩

theorem Does.map (hx : x.Does s a records) (g : α → β) :
    (x >>= fun a => pure (g a)).Does s (g a) records := by
  rw [← List.append_nil records]
  exact hx.bind (does_pure (g a))

end

end Walk

namespace Task

variable {t : Task} {resource : ResourceId}

/-! ## Lists -/

/-- A page that could be listed is taken to the resources found before. -/
theorem leads_moreResources {kind : Kind} {parent : Option ResourceId} {token : String}
    {page : Page Resource}
    (h : (t.connector.listResources t.scope kind parent token).outcome s = .ok page)
    (done : List Resource) (seen : FirstSeen) :
    (t.moreResources kind parent done token).Leads s seen
      (if page.next = "" then .inr (done ++ page.items)
        else .inl (done ++ page.items, page.next)) [] seen := by
  refine (Walk.leads_ofOperation h seen).bind ?_
  by_cases hn : page.next = ""
  · simp only [if_pos hn]
    exact Walk.leads_pure _ seen
  · simp only [if_neg hn]
    exact Walk.leads_pure _ seen

/-- From any page of a list on, its resources come after those found before. -/
theorem leads_listFrom {kind : Kind} {parent : Option ResourceId} {token : String}
    {pages : List (Page Resource)}
    (h : Chain (fun token => (t.connector.listResources t.scope kind parent token).outcome s) token
      pages) {n : Nat} (hn : pages.length ≤ n) (done : List Resource) (seen : FirstSeen) :
    (repeatUpTo Walk.endless (fun (done, token) => t.moreResources kind parent done token) n
      (done, token)).Leads s seen (done ++ Page.concat pages) [] seen := by
  induction h generalizing n done with
  | @last token page found ends =>
    obtain ⟨n, rfl⟩ : ∃ m, n = m + 1 := Nat.exists_eq_add_one.2 hn
    have hpage := leads_moreResources found done seen
    rw [if_pos ends] at hpage
    have hitems : done ++ Page.concat [page] = done ++ page.items := by simp [Page.concat]
    unfold repeatUpTo
    rw [hitems]
    exact hpage.bind (Walk.leads_pure _ seen)
  | @more token page rest found goes tail ih =>
    obtain ⟨n, rfl⟩ : ∃ m, n = m + 1 := Nat.exists_eq_add_one.2 (Nat.lt_of_lt_of_le (by simp) hn)
    have hpage := leads_moreResources found done seen
    rw [if_neg goes] at hpage
    have hrest := ih (Nat.le_of_succ_le_succ hn) (done ++ page.items)
    have hitems : done ++ Page.concat (page :: rest) = done ++ page.items ++ Page.concat rest := by
      simp [Page.concat]
    unfold repeatUpTo
    rw [hitems]
    exact hpage.bind hrest

/-- **A list is made** to its end when the pages are no more than the limit. -/
theorem does_listAll {kind : Kind} {parent : Option ResourceId} {pages : List (Page Resource)}
    (h : Chain (fun token => (t.connector.listResources t.scope kind parent token).outcome s) ""
      pages) (hn : pages.length ≤ t.limit) :
    (t.listAll kind parent).Does s (Page.concat pages) [] := by
  intro seen
  exact ⟨seen, leads_listFrom h hn [] seen⟩

/-! ## Visits -/

/-- The grants on a resource from a token on, after so many before, with so many pages at most. -/
def grantsFrom (t : Task) (resource : ResourceId) (n count : Nat) (token : String) : Walk Nat :=
  repeatUpTo Walk.endless (fun (count, token) => t.moreGrants resource count token) n (count, token)

/-- A page of grants that could be enumerated leaves their records. -/
theorem leads_moreGrants {token : String} {seen seen' : FirstSeen} {page : Page Grant}
    (h : ((t.connector.listGrants t.scope resource token).run seen).result s =
      .ok (.ok page, seen')) (count : Nat) :
    (t.moreGrants resource count token).Leads s seen
      (if page.next = "" then .inr (count + page.items.length)
        else .inl (count + page.items.length, page.next)) (page.items.map .grant) seen' := by
  refine (Walk.leads_ofEnumeration h).bind ?_
  rw [← List.append_nil (page.items.map Record.grant)]
  refine (Walk.leads_forM_emit Record.grant page.items seen').bind ?_
  by_cases hn : page.next = ""
  · simp only [if_pos hn]
    exact Walk.leads_pure _ seen'
  · simp only [if_neg hn]
    exact Walk.leads_pure _ seen'

/-- The calls of an enumeration up to a token come first, then what is left from that token on. The
induction takes the calls from the last one back, so what is left grows by one page at each step. -/
theorem leads_grantsFrom {calls : List (String × Page Grant)} {token : String}
    {seen₀ seen seen' : FirstSeen} {total m : Nat} {records : List Record}
    (h : StraightThrough s (t.connector.listGrants t.scope resource) seen₀ calls token seen)
    (goes : token = "" → calls = [])
    (hrest : (t.grantsFrom resource m (calls.flatMap (·.2.items)).length token).Leads s seen total
      records seen') :
    (t.grantsFrom resource (calls.length + m) 0 "").Leads s seen₀ total
      ((calls.flatMap (·.2.items)).map .grant ++ records) seen' := by
  induction h generalizing m records with
  | start => rwa [List.length_nil, Nat.zero_add]
  | @next calls token seen seen'' page before first call ih =>
    -- the page is not the last one, for only before the first call the empty token is due
    have hne : page.next ≠ "" := fun h => by simpa using goes h
    have hpage := leads_moreGrants call (calls.flatMap (·.2.items)).length
    rw [if_neg hne] at hpage
    rw [List.flatMap_append, List.flatMap_singleton] at hrest ⊢
    rw [List.length_append] at hrest
    have hstep : (t.grantsFrom resource (m + 1) (calls.flatMap (·.2.items)).length token).Leads s
        seen total (page.items.map .grant ++ records) seen' := by
      unfold grantsFrom repeatUpTo
      exact hpage.bind hrest
    have hall := ih first hstep
    rw [List.length_append, List.length_singleton, Nat.add_assoc, Nat.add_comm 1, List.map_append,
      List.append_assoc]
    exact hall

/-- **The grants of a whole enumeration** are told when its calls are no more than the limit. -/
theorem leads_emitGrants {calls : List (String × Page Grant)} {seen seen' : FirstSeen}
    (h : StraightThrough s (t.connector.listGrants t.scope resource) seen calls "" seen')
    (hne : calls ≠ []) (hn : calls.length ≤ t.limit) :
    (t.emitGrants resource).Leads s seen (calls.flatMap (·.2.items)).length
      ((calls.flatMap (·.2.items)).map .grant) seen' := by
  -- only the last call returns the empty token; those before go on
  generalize htoken : "" = token at h
  cases h with
  | start => exact absurd rfl hne
  | @next calls token seen seen'' page before first call =>
    rw [List.length_append, List.length_singleton] at hn
    obtain ⟨m, hm⟩ : ∃ m, t.limit = calls.length + (m + 1) :=
      ⟨t.limit - (calls.length + 1), by omega⟩
    have hpage := leads_moreGrants call (calls.flatMap (·.2.items)).length
    rw [if_pos htoken.symm] at hpage
    have hlast : (t.grantsFrom resource (m + 1) (calls.flatMap (·.2.items)).length token).Leads s
        seen ((calls.flatMap (·.2.items)).length + page.items.length) (page.items.map .grant)
        seen' := by
      rw [← List.append_nil (page.items.map Record.grant)]
      unfold grantsFrom repeatUpTo
      exact hpage.bind (Walk.leads_pure _ seen')
    have hall := leads_grantsFrom before first hlast
    rw [← hm, ← List.map_append] at hall
    rw [List.flatMap_append, List.flatMap_singleton, List.length_append]
    exact hall

end Task

/-- A resource with the grants on it. -/
structure Node where
  resource : Resource
  grants : List Grant
deriving DecidableEq, Repr

namespace Node

/-- What a walk tells of a resource: the resource, its entitlements, and the grants on it if they
are asked for. -/
def records (withGrants : Bool) (n : Node) : List Record :=
  .resource n.resource :: (n.resource.entitlements.map .entitlement ++
    if withGrants then n.grants.map .grant else [])

/-- What a walk counts of a resource. -/
def visit (withGrants : Bool) (n : Node) : Visit :=
  ⟨n.resource.id.kind, n.resource.entitlements.length, if withGrants then n.grants.length else 0⟩

end Node

/-- A list that is made, with what is on it. -/
structure Branch where
  entry : Entry
  nodes : List Node
deriving DecidableEq, Repr

/-- The lists below what is on the list. -/
def Branch.below (b : Branch) : List Entry :=
  b.nodes.flatMap fun n => entriesBelow b.entry.1 n.resource

/-- The list has these resources on it, each of which can be visited. -/
structure Branch.MadeBy (b : Branch) (s : Server) (t : Task) : Prop where
  list : (t.listAll b.entry.1 b.entry.2).Does s (b.nodes.map (·.resource)) []
  visits : ∀ n ∈ b.nodes,
    (t.visit n.resource).Does s (n.visit t.withGrants) (n.records t.withGrants)

namespace Task

variable {t : Task}

/-- **A visit** leaves the records of the resource. -/
theorem does_visit {node : Node} {calls : List (String × Page Grant)} (hne : calls ≠ [])
    (hitems : calls.flatMap (·.2.items) = node.grants)
    (h : ∀ seen, ∃ seen', StraightThrough s (t.connector.listGrants t.scope node.resource.id) seen
      calls "" seen') (hn : calls.length ≤ t.limit) :
    (t.visit node.resource).Does s (node.visit t.withGrants) (node.records t.withGrants) := by
  intro seen
  obtain ⟨seen', hcalls⟩ := h seen
  have hgrants := leads_emitGrants hcalls hne hn
  rw [hitems] at hgrants
  have hentitlements :=
    Walk.leads_forM_emit (s := s) Record.entitlement node.resource.entitlements seen
  have hrecord := Walk.leads_emit (s := s) (.resource node.resource) seen
  unfold visit Node.visit Node.records
  cases t.withGrants with
  | true =>
    refine ⟨seen', hrecord.bind (hentitlements.bind ?_)⟩
    rw [if_pos rfl, ← List.append_nil (node.grants.map Record.grant)]
    exact hgrants.bind (Walk.leads_pure _ seen')
  | false => exact ⟨seen, hrecord.bind (hentitlements.bind (Walk.leads_pure _ seen))⟩

theorem does_visitAll {nodes : List Node} (h : ∀ n ∈ nodes,
    (t.visit n.resource).Does s (n.visit t.withGrants) (n.records t.withGrants)) :
    (t.visitAll (nodes.map (·.resource))).Does s (nodes.map (·.visit t.withGrants))
      (nodes.flatMap (·.records t.withGrants)) := by
  induction nodes with
  | nil => exact Walk.does_pure []
  | cons n rest ih =>
    have hfirst := h n List.mem_cons_self
    have hrest := ih fun n' hn' => h n' (List.mem_cons_of_mem _ hn')
    rw [List.map_cons, visitAll, List.map_cons, List.flatMap_cons]
    exact hfirst.bind (hrest.map _)

/-! ## Queues -/

/-- **The lists at the front of a queue** are made one after the other, and what is below them comes
after the rest of the queue. -/
theorem does_drain_append {branches : List Branch} (hb : ∀ b ∈ branches, b.MadeBy s t)
    (rest : List Entry) {visits : List Visit} {records : List Record}
    (h : (t.drain (rest ++ branches.flatMap (·.below))).Does s visits records) :
    (t.drain (branches.map (·.entry) ++ rest)).Does s
      ((branches.flatMap (·.nodes)).map (·.visit t.withGrants) ++ visits)
      ((branches.flatMap (·.nodes)).flatMap (·.records t.withGrants) ++ records) := by
  induction branches generalizing rest with
  | nil => simpa using h
  | cons b more ih =>
    have hmade := hb b List.mem_cons_self
    have hbelow : (b.nodes.map (·.resource)).flatMap (entriesBelow b.entry.1) = b.below := by
      rw [List.flatMap_map]
      rfl
    -- what is below the first list waits behind the rest while the other lists are made
    rw [List.flatMap_cons, ← List.append_assoc] at h
    have hmore := ih (fun b' hb' => hb b' (List.mem_cons_of_mem _ hb')) (rest ++ b.below) h
    rw [List.map_cons, List.cons_append, drain, List.flatMap_cons, List.map_append,
      List.flatMap_append, List.append_assoc, List.append_assoc]
    refine hmade.list.bind ((does_visitAll hmade.visits).bind ?_)
    rw [hbelow, List.append_assoc]
    exact hmore.map _

/-- **A level of lists** is made before the lists below it. -/
theorem does_drain_level {branches : List Branch} (hb : ∀ b ∈ branches, b.MadeBy s t)
    {visits : List Visit} {records : List Record}
    (h : (t.drain (branches.flatMap (·.below))).Does s visits records) :
    (t.drain (branches.map (·.entry))).Does s
      ((branches.flatMap (·.nodes)).map (·.visit t.withGrants) ++ visits)
      ((branches.flatMap (·.nodes)).flatMap (·.records t.withGrants) ++ records) := by
  have hall := does_drain_append hb [] h
  rwa [List.append_nil] at hall

end Task

/-! ## Limits

How many pages there are is known of each list and of each enumeration alone; a limit that is large
enough for several of them is large enough for all. -/

/-- All numbers from some one on have the property. -/
def AllLarge (p : Nat → Prop) : Prop := ∃ n, ∀ m, n ≤ m → p m

theorem AllLarge.and {p q : Nat → Prop} (hp : AllLarge p) (hq : AllLarge q) :
    AllLarge fun m => p m ∧ q m := by
  obtain ⟨n, hp⟩ := hp
  obtain ⟨k, hq⟩ := hq
  exact ⟨max n k, fun m hm => ⟨hp m (by omega), hq m (by omega)⟩⟩

theorem allLarge_forall_mem {xs : List α} {p : α → Nat → Prop} (h : ∀ x ∈ xs, AllLarge (p x)) :
    AllLarge fun m => ∀ x ∈ xs, p x m := by
  induction xs with
  | nil => exact ⟨0, fun m _ x hx => absurd hx List.not_mem_nil⟩
  | cons x rest ih =>
    have hfirst := h x List.mem_cons_self
    have hrest := ih fun y hy => h y (List.mem_cons_of_mem _ hy)
    obtain ⟨n, hall⟩ := hfirst.and hrest
    refine ⟨n, ?_⟩
    intro m hm y hy
    rcases List.mem_cons.1 hy with rfl | hy
    · exact (hall m hm).1
    · exact (hall m hm).2 y hy

namespace Task

/-- The task with another limit of pages. -/
def withLimit (t : Task) (limit : Nat) : Task := { t with limit }

/-- **A list that comes to an end is made** when the limit is large. -/
theorem allLarge_does_listAll (t : Task) {kind : Kind} {parent : Option ResourceId}
    {items : List Resource} (h : Lists s (t.connector.listResources t.scope kind parent) items) :
    AllLarge fun limit => ((t.withLimit limit).listAll kind parent).Does s items [] := by
  obtain ⟨pages, hchain, rfl⟩ := h
  refine ⟨pages.length, ?_⟩
  intro limit hlimit
  exact does_listAll hchain hlimit

/-- **A resource is visited** when the limit is large. -/
theorem allLarge_does_visit (t : Task) {node : Node}
    (h : Enumerates s (t.connector.listGrants t.scope node.resource.id) node.grants) :
    AllLarge fun limit => ((t.withLimit limit).visit node.resource).Does s
      (node.visit t.withGrants) (node.records t.withGrants) := by
  obtain ⟨calls, hne, hitems, hcalls⟩ := h
  refine ⟨calls.length, ?_⟩
  intro limit hlimit
  exact does_visit hne hitems hcalls hlimit

/-- **A list is made and what is on it visited** when the limit is large. -/
theorem allLarge_madeBy (t : Task) {b : Branch}
    (hlist : Lists s (t.connector.listResources t.scope b.entry.1 b.entry.2)
      (b.nodes.map (·.resource)))
    (hgrants : ∀ n ∈ b.nodes,
      Enumerates s (t.connector.listGrants t.scope n.resource.id) n.grants) :
    AllLarge fun limit => b.MadeBy s (t.withLimit limit) := by
  have hvisits := allLarge_forall_mem fun n hn => allLarge_does_visit t (hgrants n hn)
  obtain ⟨n, hall⟩ := (allLarge_does_listAll t hlist).and hvisits
  refine ⟨n, ?_⟩
  intro limit hlimit
  exact ⟨(hall limit hlimit).1, (hall limit hlimit).2⟩

end Task

end AccessSync.Sync
