import AccessSync.Proofs.Grants.Listed
import AccessSync.Proofs.Sync.Walk

/-!
# Walks that succeed

What a walk left is known from its success: a node for each resource of the tree, with the grants on
it. The tree itself is found by listing resources alone, so a walk that leaves the grants out finds
the same tree and asks for nothing else.

* `catalogue`: the resources of the tree, by listing alone.
* `Task.nodes_of_drain`: the nodes of a walk that succeeded.
* `Task.retraces_drain`: a walk without grants.
-/

namespace AccessSync.Sync

open Api (Endpoint)

variable {α β σ : Type} {s : Server}

namespace Walk

section
variable {x : Walk α} {f : α → Walk β} {a b : α} {records more : List Record}
variable {seen seen' seen'' : FirstSeen}

/-- **Two pieces of work that lead to a result** led to one each. -/
theorem Leads.of_bind {b : β} (h : (x >>= f).Leads s seen b records seen'') :
    ∃ a between first rest, x.Leads s seen a first between ∧
      (f a).Leads s between b rest seen'' ∧ records = first ++ rest := by
  obtain ⟨a, between, hx, hf⟩ := Plan.result_stateT_bind_ok h.result
  refine ⟨a, between, _, _, ⟨hx, rfl⟩, ⟨hf, rfl⟩, ?_⟩
  have hnoted := h.records
  rw [Plan.run_stateT_bind, Plan.noted_bind hx, recordsOf_append] at hnoted
  exact hnoted.symm

/-- Work leads to one result only. -/
theorem Leads.unique (h : x.Leads s seen a records seen') (h' : x.Leads s seen b more seen'') :
    a = b ∧ records = more ∧ seen' = seen'' := by
  have hresult := h.result.symm.trans h'.result
  simp only [Except.ok.injEq, Prod.mk.injEq] at hresult
  exact ⟨hresult.1, h.records.symm.trans h'.records, hresult.2⟩

/-- **A step that is repeated** leads to what the last step leads to, by way of those before. -/
theorem Leads.of_repeatUpTo {step : σ → Walk (σ ⊕ α)} (good : σ → α → List Record → Prop)
    (last : ∀ {state a records seen seen'},
      (step state).Leads s seen (.inr a) records seen' → good state a records)
    (again : ∀ {state next a records more seen seen'},
      (step state).Leads s seen (.inl next) records seen' → good next a more →
        good state a (records ++ more))
    {n : Nat} {state : σ} (h : (repeatUpTo Walk.endless step n state).Leads s seen a records seen') :
    good state a records := by
  induction n generalizing state seen records with
  | zero => cases h.result
  | succ n ih =>
    obtain ⟨out, between, first, rest, hstep, hrest, rfl⟩ := h.of_bind
    cases out with
    | inl next => exact again hstep (ih hrest)
    | inr final =>
      obtain ⟨rfl, rfl, -⟩ := hrest.unique (leads_pure final between)
      rw [List.append_nil]
      exact last hstep

end

/-! ## Operations on the way -/

theorem run_ofEnumeration (work : Enumeration α) (seen : FirstSeen) :
    (Walk.ofEnumeration work).run seen = (work.run seen).mapNotes fun e => [.event e] := rfl

theorem run_ofOperation (work : Operation α) (seen : FirstSeen) :
    (Walk.ofOperation work).run seen =
      (work.run.mapNotes fun e => [Note.event e]) >>= fun r => .done (r, seen) :=
  Plan.mapNotes_bind _ work.run fun r => .done (r, seen)

/-- **One operation after the other** on the way. -/
theorem ofOperation_bind (work : Operation α) (next : α → Operation β) :
    Walk.ofOperation (work >>= next) = Walk.ofOperation work >>= fun a =>
      Walk.ofOperation (next a) := by
  funext seen
  show (Walk.ofOperation (work >>= next)).run seen =
    (Walk.ofOperation work >>= fun a => Walk.ofOperation (next a)).run seen
  rw [run_ofOperation, Plan.run_exceptT_bind, Plan.run_stateT_bind, run_ofOperation,
    Plan.mapNotes_bind, bind_assoc, bind_assoc]
  congr 1
  funext r
  cases r with
  | ok a => exact (run_ofOperation (next a) seen).symm
  | error e => rfl

/-- An operation that is repeated, on the way. -/
theorem ofOperation_repeatUpTo (step : σ → Operation (σ ⊕ α)) (n : Nat) (state : σ) :
    Walk.ofOperation (repeatUpTo (ExceptT.lift (.stop .rounds)) step n state) =
      repeatUpTo Walk.endless (fun state => Walk.ofOperation (step state)) n state := by
  induction n generalizing state with
  | zero => rfl
  | succ n ih =>
    unfold repeatUpTo
    rw [ofOperation_bind]
    congr 1
    funext out
    cases out with
    | inl next => exact ih next
    | inr a => rfl

/-- An operation on the way leads to what it comes to, and leaves no records. -/
theorem Leads.of_ofOperation {work : Operation α} {a : α} {records : List Record}
    {seen seen' : FirstSeen} (h : (Walk.ofOperation work).Leads s seen a records seen') :
    work.outcome s = .ok a ∧ records = [] := by
  have hresult := h.result
  rw [run_ofOperation, Plan.result_bind, Plan.result_mapNotes] at hresult
  cases hwork : work.run.result s with
  | error why => rw [hwork] at hresult; cases hresult
  | ok r =>
    rw [hwork] at hresult
    cases hresult
    have houtcome : work.outcome s = .ok a := Operation.outcome_eq_ok.2 hwork
    exact ⟨houtcome, (h.unique (leads_ofOperation houtcome seen)).2.1⟩

/-! ## Work that sees no grants -/

/-- Whatever has been seen, the work ends with `a` and has seen nothing more; it leaves the records
and asks the questions. -/
structure Retraces (s : Server) (x : Walk α) (a : α) (records : List Record)
    (questions : List Endpoint) : Prop where
  leads : ∀ seen, x.Leads s seen a records seen
  asked : ∀ seen, (x.run seen).asked s = questions

section
variable {x : Walk α} {f : α → Walk β} {a : α} {b : β} {records more : List Record}
variable {questions further : List Endpoint}

theorem Retraces.bind (hx : x.Retraces s a records questions)
    (hf : (f a).Retraces s b more further) :
    (x >>= f).Retraces s b (records ++ more) (questions ++ further) where
  leads seen := (hx.leads seen).bind (hf.leads seen)
  asked seen := by
    rw [Plan.run_stateT_bind, Plan.asked_bind (hx.leads seen).result, hx.asked]
    exact congrArg (questions ++ ·) (hf.asked seen)

theorem retraces_pure (a : α) : (pure a : Walk α).Retraces s a [] [] :=
  ⟨leads_pure a, fun _ => rfl⟩

/-- Work on the result asks and leaves nothing more. -/
theorem Retraces.map (hx : x.Retraces s a records questions) (g : α → β) :
    (x >>= fun a => pure (g a)).Retraces s (g a) records questions := by
  rw [← List.append_nil records, ← List.append_nil questions]
  exact hx.bind (retraces_pure (g a))

theorem retraces_emit (r : Record) : (Walk.emit r).Retraces s () [r] [] :=
  ⟨leads_emit r, fun _ => rfl⟩

theorem retraces_forM_emit (record : α → Record) (items : List α) :
    (items.forM fun a => Walk.emit (record a)).Retraces s () (items.map record) [] := by
  induction items with
  | nil => exact retraces_pure ()
  | cons a rest ih => exact (retraces_emit (record a)).bind ih

theorem retraces_ofOperation {work : Operation α} (h : work.outcome s = .ok a) :
    (Walk.ofOperation work).Retraces s a [] (work.run.asked s) where
  leads := leads_ofOperation h
  asked seen := by
    have hwork := Operation.outcome_eq_ok.1 h
    rw [run_ofOperation]
    exact (Plan.does_mapNotes_done _ hwork fun r => (r, seen)).asked

end

end Walk

namespace Node

/-- The grants of the node are grants on its resource. -/
def OwnsGrants (n : Node) : Prop := ∀ g ∈ n.grants, g.resource = n.resource.id

/-- The node of a resource whose grants are left out. -/
def bare (r : Resource) : Node := ⟨r, []⟩

end Node

/-! ## Lists without a walk -/

/-- One more page of the resources of a kind below a parent, after those found before. -/
def moreListing (c : Connector) (scope : Scope) (kind : Kind) (parent : Option ResourceId)
    (done : List Resource) (token : String) :
    Operation ((List Resource × String) ⊕ List Resource) := do
  let page ← c.listResources scope kind parent token
  let found := done ++ page.items
  if page.next = "" then return .inr found else return .inl (found, page.next)

/-- Every resource of a kind below a parent, with at most `limit` pages. -/
def listing (c : Connector) (scope : Scope) (limit : Nat) (kind : Kind)
    (parent : Option ResourceId) : Operation (List Resource) :=
  repeatUpTo (ExceptT.lift (.stop .rounds))
    (fun (done, token) => moreListing c scope kind parent done token) limit ([], "")

/-- The resources on the lists of a queue and below, found by listing resources and nothing else. -/
def catalogue (c : Connector) (scope : Scope) (limit : Nat) :
    List Entry → Operation (List Resource)
  | [] => return []
  | (kind, parent) :: rest => do
    let found ← listing c scope limit kind parent
    return found ++ (← catalogue c scope limit (rest ++ found.flatMap (entriesBelow kind)))
  termination_by entries => workLeft entries
  decreasing_by exact workLeft_lt kind parent rest found

namespace Task

variable {t : Task}

/-- **A list is made** as by listing alone. -/
theorem listAll_eq (kind : Kind) (parent : Option ResourceId) : t.listAll kind parent =
    Walk.ofOperation (listing t.connector t.scope t.limit kind parent) := by
  unfold listAll listing
  rw [Walk.ofOperation_repeatUpTo]
  congr 1
  funext state
  unfold moreResources moreListing
  rw [Walk.ofOperation_bind]
  refine bind_congr fun page => ?_
  dsimp only
  split <;> rfl

/-! ## What a walk has done -/

/-- The grants on a page are grants on the resource that was asked about. -/
theorem resource_of_listGrants {c : Connector} {scope : Scope} {resource : ResourceId}
    {token : String} {page : Page Grant} {seen seen' : FirstSeen}
    (h : ((c.listGrants scope resource token).run seen).result s = .ok (.ok page, seen')) :
    ∀ g ∈ page.items, g.resource = resource := by
  intro g hg
  obtain ⟨_, between, -, hlist⟩ := Plan.yields_stateT_bind_ok (Plan.yields_any_of_result h)
  rw [(isListed_of_listGrants hlist g hg).made]
  rfl

/-- **A page of grants that was told** is one of grants on the resource. -/
theorem page_of_moreGrants {resource : ResourceId} {count : Nat} {token : String}
    {out : (Nat × String) ⊕ Nat} {records : List Record} {seen seen' : FirstSeen}
    (h : (t.moreGrants resource count token).Leads s seen out records seen') :
    ∃ page : Page Grant, records = page.items.map .grant ∧
      (∀ g ∈ page.items, g.resource = resource) ∧
      out = if page.next = "" then .inr (count + page.items.length)
        else .inl (count + page.items.length, page.next) := by
  obtain ⟨page, between, _, _, hpage, -, -⟩ := h.of_bind
  have hlist := hpage.result
  rw [Walk.run_ofEnumeration, Plan.result_mapNotes] at hlist
  obtain ⟨hout, hrecords, -⟩ := h.unique (leads_moreGrants hlist count)
  exact ⟨page, hrecords, resource_of_listGrants hlist, hout⟩

/-- **The grants that were told of a resource** are grants on it, and were counted. -/
theorem grants_of_emitGrants {resource : ResourceId} {count : Nat} {records : List Record}
    {seen seen' : FirstSeen} (h : (t.emitGrants resource).Leads s seen count records seen') :
    ∃ grants : List Grant, records = grants.map .grant ∧ count = grants.length ∧
      ∀ g ∈ grants, g.resource = resource := by
  let good (state : Nat × String) (count : Nat) (records : List Record) : Prop :=
    ∃ grants : List Grant, records = grants.map .grant ∧ count = state.1 + grants.length ∧
      ∀ g ∈ grants, g.resource = resource
  have hall : good (0, "") count records := by
    refine Walk.Leads.of_repeatUpTo good ?_ ?_ h
    · rintro ⟨before, token⟩ count records seen seen' hstep
      obtain ⟨page, rfl, hpage, hout⟩ := page_of_moreGrants hstep
      split at hout
      · cases hout
        exact ⟨page.items, rfl, rfl, hpage⟩
      · cases hout
    · rintro ⟨before, token⟩ next count records more seen seen' hstep ⟨grants, rfl, rfl, hgrants⟩
      obtain ⟨page, rfl, hpage, hout⟩ := page_of_moreGrants hstep
      split at hout
      · cases hout
      · cases hout
        refine ⟨page.items ++ grants, by rw [List.map_append], ?_, ?_⟩
        · rw [List.length_append, Nat.add_assoc]
        · exact List.forall_mem_append.2 ⟨hpage, hgrants⟩
  obtain ⟨grants, hrecords, hcount, hgrants⟩ := hall
  exact ⟨grants, hrecords, by rw [hcount, Nat.zero_add], hgrants⟩

/-- **A visit** told of the resource, its entitlements and the grants on it. -/
theorem node_of_visit {r : Resource} {v : Visit} {records : List Record}
    {seen seen' : FirstSeen} (h : (t.visit r).Leads s seen v records seen') :
    ∃ n : Node, n.resource = r ∧ n.OwnsGrants ∧ v = n.visit t.withGrants ∧
      records = n.records t.withGrants := by
  obtain ⟨_, seen₁, _, _, hresource, hvisit, rfl⟩ := h.of_bind
  obtain ⟨-, rfl, rfl⟩ := hresource.unique (Walk.leads_emit (.resource r) seen)
  obtain ⟨_, seen₂, _, _, hentitlements, hgrants, rfl⟩ := hvisit.of_bind
  obtain ⟨-, rfl, rfl⟩ := hentitlements.unique
    (Walk.leads_forM_emit Record.entitlement r.entitlements _)
  cases hg : t.withGrants with
  | true =>
    rw [hg, if_pos rfl] at hgrants
    obtain ⟨count, seen₃, _, _, hemit, hcount, rfl⟩ := hgrants.of_bind
    obtain ⟨rfl, rfl, -⟩ := hcount.unique (Walk.leads_pure _ _)
    obtain ⟨grants, rfl, rfl, hown⟩ := grants_of_emitGrants hemit
    refine ⟨⟨r, grants⟩, rfl, hown, rfl, ?_⟩
    simp [Node.records]
  | false =>
    rw [hg] at hgrants
    obtain ⟨rfl, rfl, -⟩ := hgrants.unique (Walk.leads_pure _ _)
    refine ⟨.bare r, rfl, fun g hg => absurd hg List.not_mem_nil, rfl, ?_⟩
    simp [Node.records, Node.bare]

theorem nodes_of_visitAll {resources : List Resource} {visits : List Visit}
    {records : List Record} {seen seen' : FirstSeen}
    (h : (t.visitAll resources).Leads s seen visits records seen') :
    ∃ nodes : List Node, nodes.map (·.resource) = resources ∧ (∀ n ∈ nodes, n.OwnsGrants) ∧
      visits = nodes.map (·.visit t.withGrants) ∧
      records = nodes.flatMap (·.records t.withGrants) := by
  induction resources generalizing visits records seen seen' with
  | nil =>
    obtain ⟨rfl, rfl, -⟩ := h.unique (Walk.leads_pure [] seen)
    exact ⟨[], rfl, fun n hn => absurd hn List.not_mem_nil, rfl, rfl⟩
  | cons r rest ih =>
    obtain ⟨first, seen₁, _, _, hfirst, hrest, rfl⟩ := h.of_bind
    obtain ⟨more, seen₂, _, _, hmore, hvisits, rfl⟩ := hrest.of_bind
    obtain ⟨rfl, rfl, -⟩ := hvisits.unique (Walk.leads_pure _ _)
    obtain ⟨n, rfl, hn, rfl, rfl⟩ := node_of_visit hfirst
    obtain ⟨nodes, rfl, hnodes, rfl, rfl⟩ := ih hmore
    exact ⟨n :: nodes, rfl, List.forall_mem_cons.2 ⟨hn, hnodes⟩, rfl, by simp⟩

/-- **A walk that succeeded** told of the nodes of a tree, whose resources are the catalogue. -/
theorem nodes_of_drain {entries : List Entry} {visits : List Visit} {records : List Record}
    {seen seen' : FirstSeen} (h : (t.drain entries).Leads s seen visits records seen') :
    ∃ nodes : List Node,
      (catalogue t.connector t.scope t.limit entries).outcome s = .ok (nodes.map (·.resource)) ∧
      (∀ n ∈ nodes, n.OwnsGrants) ∧ visits = nodes.map (·.visit t.withGrants) ∧
      records = nodes.flatMap (·.records t.withGrants) := by
  induction entries using Task.drain.induct generalizing visits records seen seen' with
  | case1 =>
    rw [drain] at h
    obtain ⟨rfl, rfl, -⟩ := h.unique (Walk.leads_pure [] seen)
    rw [catalogue]
    exact ⟨[], rfl, fun n hn => absurd hn List.not_mem_nil, rfl, rfl⟩
  | case2 kind parent rest ih =>
    rw [drain] at h
    obtain ⟨found, seen₁, _, _, hlist, hwalk, rfl⟩ := h.of_bind
    obtain ⟨first, seen₂, _, _, hfirst, hrest, rfl⟩ := hwalk.of_bind
    obtain ⟨more, seen₃, _, _, hmore, hvisits, rfl⟩ := hrest.of_bind
    obtain ⟨rfl, rfl, -⟩ := hvisits.unique (Walk.leads_pure _ _)
    rw [listAll_eq] at hlist
    obtain ⟨hlisting, rfl⟩ := hlist.of_ofOperation
    obtain ⟨nodes, hnodes, hown, rfl, rfl⟩ := nodes_of_visitAll hfirst
    obtain ⟨below, hbelow, hownBelow, rfl, rfl⟩ := ih found hmore
    refine ⟨nodes ++ below, ?_, List.forall_mem_append.2 ⟨hown, hownBelow⟩, ?_, ?_⟩
    · rw [catalogue, Operation.outcome_eq_ok,
        Operation.result_bind_of_ok (Operation.outcome_eq_ok.1 hlisting),
        Operation.result_bind_of_ok (Operation.outcome_eq_ok.1 hbelow), List.map_append, hnodes]
      rfl
    · rw [List.map_append]
    · simp

/-! ## Without grants -/

theorem retraces_visit (hg : t.withGrants = false) (r : Resource) :
    (t.visit r).Retraces s ((Node.bare r).visit false) ((Node.bare r).records false) [] := by
  have hentitlements := Walk.retraces_forM_emit (s := s) Record.entitlement r.entitlements
  unfold visit
  rw [hg]
  exact (Walk.retraces_emit (.resource r)).bind (hentitlements.bind (Walk.retraces_pure _))

theorem retraces_visitAll (hg : t.withGrants = false) (resources : List Resource) :
    (t.visitAll resources).Retraces s (resources.map fun r => (Node.bare r).visit false)
      (resources.flatMap fun r => (Node.bare r).records false) [] := by
  induction resources with
  | nil => exact Walk.retraces_pure []
  | cons r rest ih =>
    rw [visitAll, List.map_cons, List.flatMap_cons]
    exact (retraces_visit hg r).bind (ih.map _)

/-- **A walk without grants** visits the resources of the catalogue, and asks what the catalogue
asks. -/
theorem retraces_drain (hg : t.withGrants = false) {entries : List Entry}
    {resources : List Resource}
    (h : (catalogue t.connector t.scope t.limit entries).outcome s = .ok resources) :
    (t.drain entries).Retraces s (resources.map fun r => (Node.bare r).visit false)
      (resources.flatMap fun r => (Node.bare r).records false)
      ((catalogue t.connector t.scope t.limit entries).run.asked s) := by
  induction entries using Task.drain.induct generalizing resources with
  | case1 =>
    rw [catalogue] at h ⊢
    cases h
    rw [drain]
    exact Walk.retraces_pure []
  | case2 kind parent rest ih =>
    rw [catalogue, Operation.outcome_eq_ok] at h
    obtain ⟨found, hlisting, hrest⟩ := Plan.result_exceptT_bind_ok h
    obtain ⟨below, hbelow, hall⟩ := Plan.result_exceptT_bind_ok hrest
    cases hall
    have hlist := Walk.retraces_ofOperation (Operation.outcome_eq_ok.2 hlisting)
    rw [← listAll_eq] at hlist
    have hmore := ih found (Operation.outcome_eq_ok.2 hbelow)
    rw [drain, catalogue, Plan.asked_exceptT_bind hlisting, Plan.asked_exceptT_bind hbelow,
      List.map_append, List.flatMap_append]
    show Walk.Retraces s _ _ _ (_ ++ (_ ++ []))
    rw [List.append_nil]
    exact hlist.bind ((retraces_visitAll hg found).bind (hmore.map _))

end Task

end AccessSync.Sync
