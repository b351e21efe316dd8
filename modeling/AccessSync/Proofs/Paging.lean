import AccessSync.Proofs.Paging.Call
import Mathlib.Logic.Relation

/-!
# From page to page

A page token goes on where the link of the last page leads to: the next call asks for the same list
with that cursor. When no link leads on, the list is done, and no later token of the enumeration
asks for it.

* `Goes`: how a listing goes through its lists, in one of three ways.
* `Goes.next_call`: the token that a call returns goes on where it says.
* `Goes.list_ends`: a list that has come to its end is not asked for again.
* `cursor_fidelity`: where a token goes on.
-/

namespace AccessSync

open Api (Endpoint Request Client)
open Plan (AnyReply)

/-! ## All listings -/

/-- What is listed: the resources of a kind below a parent, or the grants on a resource. -/
inductive Listed
  | resources (kind : Kind) (parent : Option ResourceId)
  | grants (resource : ResourceId)

namespace Listed

/-- What the pages hold. -/
abbrev Item : Listed → Type
  | resources .. => Resource
  | grants _ => Grant

/-- The work of a call with a token, with what has been seen before it and after it. -/
def call (c : Connector) (scope : Scope) : (what : Listed) → String → FirstSeen →
    Dialogue (Except Failure (Page what.Item) × FirstSeen)
  | resources kind parent, token, seen =>
    (c.listResources scope kind parent token).run >>= fun r => .done (r, seen)
  | grants resource, token, seen => (c.listGrants scope resource token).run seen

end Listed

/-- How a listing goes through the lists of the server: it asks for no page of a list, or goes along
one list, or through the lists of phases. -/
inductive Goes (n : UInt32) : {α : Type} →
    (String → FirstSeen → Dialogue (Except Failure (Page α) × FirstSeen)) → Prop
  | once {α : Type} {call : String → FirstSeen → Dialogue (Except Failure (Page α) × FirstSeen)}
      (pageless : ∀ token seen e, (call token seen).first? = some e → e.query.length = none) :
      Goes n call
  | along {α : Type} (kind : Kind) (e : Endpoint) (fetch : String → Operation (Page α))
      (reads : ∀ cursor, (fetch cursor).Reads (e.atCursor cursor)) : Goes n (callAlong kind fetch)
  | phases (resource : ResourceId) (holding : Holding) :
      Goes n fun token seen => (listPhased n resource holding token).run seen

section
variable {scope : Scope} {α : Type}

theorem goes_of_done {call : String → FirstSeen → Dialogue (Except Failure (Page α) × FirstSeen)}
    {n : UInt32} (h : ∀ token seen, ∃ r, call token seen = .done r) : Goes n call := by
  refine .once fun token seen e he => ?_
  obtain ⟨r, hr⟩ := h token seen
  rw [hr] at he
  cases he

theorem goes_of_ask {n : UInt32} {e : Endpoint} (hn : e.query.length = none)
    (f : e.Answer → Operation (Page α)) :
    Goes n fun _ seen => (Operation.ask e >>= f).run >>= fun r => .done (r, seen) := by
  refine .once fun token seen e' he => ?_
  obtain rfl : e = e' := Option.some.inj he
  exact hn

/-- **Resources of a kind** are listed along one list, or all at once. -/
theorem goes_listKind (n : UInt32) (scope : Scope) (kind : Kind) (parent : Option ResourceId) :
    Goes n fun token seen =>
      (listKind n scope kind parent token).run >>= fun r => .done (r, seen) := by
  unfold listKind
  cases kind with
  | workspace =>
    cases scope with
    | workspace id => exact goes_of_ask (e := .workspace id) rfl _
    | user id ids =>
      unfold listWorkspaces
      dsimp only
      refine .along .workspace (.workspaces n "") _ fun _ => ?_
      exact Operation.reads_map _
  | user =>
    dsimp only
    cases parentOf .workspace parent with
    | none => exact goes_of_done fun _ _ => ⟨_, rfl⟩
    | some w =>
      refine .along .user (.members w.key n "") _ fun _ => ?_
      exact Operation.reads_map _
  | userGroup =>
    dsimp only
    cases parentOf .workspace parent with
    | none => exact goes_of_done fun _ _ => ⟨_, rfl⟩
    | some w => exact goes_of_ask (e := .groups w.key) rfl _
  | project =>
    dsimp only
    cases parentOf .workspace parent with
    | none => exact goes_of_done fun _ _ => ⟨_, rfl⟩
    | some w =>
      refine .along .project (.projects w.key n "") _ fun _ => ?_
      exact Operation.reads_map _
  | repository =>
    dsimp only
    cases parentOf .project parent with
    | none => exact goes_of_done fun _ _ => ⟨_, rfl⟩
    | some p =>
      dsimp only
      unfold listRepositories
      cases ProjectId.read p.key with
      | error f => exact goes_of_done fun _ _ => ⟨_, rfl⟩
      | ok id =>
        show Goes n (callAlong .repository fun cursor => do
          let page ← Operation.ask (.repositories id.workspace id.project n cursor)
          return ⟨page.items.map (·.resource p id), page.next⟩)
        refine .along .repository (.repositories id.workspace id.project n "") _ fun _ => ?_
        exact Operation.reads_map _

/-- **Grants on a resource** are listed along one list, in phases, or all at once. -/
theorem goes_listGrants (n : UInt32) (resource : ResourceId) :
    Goes n fun token seen => (listGrants n resource token).run seen := by
  unfold listGrants
  cases resource.kind with
  | workspace =>
    refine .along .user (.members resource.key n "") _ fun _ => ?_
    exact Operation.reads_map _
  | userGroup =>
    dsimp only
    unfold listGroupGrants
    cases GroupId.read resource.key with
    | error f => exact goes_of_done fun _ _ => ⟨_, rfl⟩
    | ok group => exact goes_of_ask (e := .groupMembers group) rfl _
  | project =>
    dsimp only
    cases ProjectId.read resource.key with
    | error f => exact goes_of_done fun _ _ => ⟨_, rfl⟩
    | ok id => exact .phases resource (.project id)
  | repository =>
    dsimp only
    cases RepositoryId.read resource.key with
    | error f => exact goes_of_done fun _ _ => ⟨_, rfl⟩
    | ok id => exact .phases resource (.repository id)
  | user => exact goes_of_done fun _ _ => ⟨_, rfl⟩

/-- **Every listing** goes through its lists in one of the three ways. -/
theorem goes_call (c : Connector) (scope : Scope) (what : Listed) :
    Goes c.pageSize (what.call c scope) := by
  cases what with
  | resources kind parent =>
    show Goes c.pageSize fun token seen =>
      (c.listResources scope kind parent token).run >>= fun r => .done (r, seen)
    cases parent with
    | none => exact goes_listKind c.pageSize scope kind none
    | some p =>
      cases hcheck : scope.check p with
      | ok u =>
        simp only [listResources_some c hcheck]
        exact goes_listKind c.pageSize scope kind (some p)
      | error f =>
        unfold Connector.listResources
        simp only [hcheck]
        exact goes_of_done fun _ _ => ⟨_, rfl⟩
  | grants resource =>
    show Goes c.pageSize fun token seen => (c.listGrants scope resource token).run seen
    unfold Connector.listGrants
    cases scope.check resource with
    | ok u => exact goes_listGrants c.pageSize resource
    | error f => exact goes_of_done fun _ _ => ⟨_, rfl⟩

end

/-! ## The next call -/

section
variable {n : UInt32} {α : Type}
variable {call : String → FirstSeen → Dialogue (Except Failure (Page α) × FirstSeen)}

/-- **A token goes on where it says**: a call that asks for a page of a list returns tokens with
which the next call asks for the page of the same list at the next cursor. -/
theorem Goes.next_call (h : Goes n call) (token : String) :
    (∀ seen e, (call token seen).first? = some e → e.query.length = none) ∨
      ∃ e tokenAt, (∀ seen, Serves (call token seen) e tokenAt) ∧
        ∀ cursor, cursor ≠ "" → ∃ tokenAt', ∀ seen,
          Serves (call (tokenAt cursor) seen) (e.atCursor cursor) tokenAt' := by
  cases h with
  | once pageless => exact .inl (pageless token)
  | along kind e fetch reads =>
    cases hd : PageStack.decode token with
    | error f =>
      left
      intro seen e' he
      unfold callAlong listPage at he
      rw [hd] at he
      cases he
    | ok stack =>
      right
      have hframes := stack.startWith_ne_nil kind.name
      refine ⟨_, _, serves_callAlong reads (by rw [hd]; rfl), fun cursor hc => ?_⟩
      obtain ⟨s, hdecode, hs, rfl, -⟩ := PageStack.decode_nextToken hframes hc
      rw [Endpoint.atCursor_atCursor]
      refine ⟨_, serves_callAlong reads ?_⟩
      rw [hdecode]
      exact congrArg Except.ok (PageStack.startWith_of_ne_nil hs _)
  | phases resource holding =>
    rcases done_or_due n resource holding token with hdone | ⟨stack, phase, s, hd, hdue⟩
    · left
      intro seen e he
      obtain ⟨r, hr⟩ := hdone seen
      dsimp only at he
      rw [hr] at he
      cases he
    · right
      obtain ⟨hphase, hkind⟩ := Kind.currentPhase_eq_some hdue
      have hframes : s.frames ≠ [] := by
        intro hnil
        unfold PageStack.kind? PageStack.part? PageStack.top? at hkind
        rw [hnil] at hkind
        cases hkind
      refine ⟨_, _, serves_listPhased hd hdue, fun cursor hc => ?_⟩
      obtain ⟨s', hdecode, hs, rfl, hpart⟩ := PageStack.decode_nextToken hframes hc
      rw [holding.atCursor_list]
      refine ⟨_, serves_listPhased hdecode ?_⟩
      rw [PageStack.startWith_of_ne_nil hs]
      exact Kind.currentPhase_of_part hphase hkind hpart

end

/-! ## Later calls -/

section
variable {n : UInt32} {α : Type} {client : Client}
variable {call : String → FirstSeen → Dialogue (Except Failure (Page α) × FirstSeen)}
variable {token token' : String}

/-- A call with the token may return a page with the other token, and that is not the empty one. -/
def Follows (client : Client)
    (call : String → FirstSeen → Dialogue (Except Failure (Page α) × FirstSeen))
    (token token' : String) : Prop :=
  token' ≠ "" ∧ ∃ seen page seen',
    ((call token seen).run client.handler).Yields AnyReply (.ok page, seen') ∧ page.next = token'

theorem Follows.of_serves (h : Follows client call token token') {e : Endpoint}
    {tokenAt : String → String} (hs : ∀ seen, Serves (call token seen) e tokenAt) :
    ∃ a : e.Answer, token' = tokenAt (e.next a) := by
  obtain ⟨-, seen, page, seen', hyields, rfl⟩ := h
  obtain ⟨f, hf, hnext⟩ := hs seen
  have hmay := Client.yields_of_run hyields
  rw [hf] at hmay
  obtain ⟨reply, -, hmay⟩ := hmay
  obtain ⟨a, -, ha⟩ := hnext reply page seen' hmay
  exact ⟨a, ha⟩

/-- Along one list every token is one of that list. -/
theorem exists_listToken {kind : Kind} {e : Endpoint} {fetch : String → Operation (Page α)}
    (reads : ∀ cursor, (fetch cursor).Reads (e.atCursor cursor))
    (h : Relation.ReflTransGen (Follows client (callAlong kind fetch)) "" token) :
    ∃ cursor, token = listToken kind cursor := by
  induction h with
  | refl => exact ⟨"", rfl⟩
  | tail _ step ih =>
    obtain ⟨cursor, rfl⟩ := ih
    obtain ⟨a, rfl⟩ := step.of_serves (serves_callAlong reads (decode_listToken kind cursor))
    exact ⟨_, nextToken_listToken _ _ _⟩

section
variable {resource : ResourceId} {holding : Holding} {p q : Place}

theorem serves_servePlace (resource : ResourceId) (hp : p.Within holding.kind.phases)
    (seen : FirstSeen) :
    Serves (servePlace n resource holding p seen) (holding.list n p.phase p.cursor)
      fun next => Place.tokenOf (p.after next) := by
  refine (reads_phasePage (hp.subset List.mem_cons_self) p.cursor).serves ?_ ?_
  · intro page page' seen' h
    cases h
    rfl
  · intro fault page' seen' h
    cases h

/-- After a page of a place the enumeration is at the place after it. -/
theorem Follows.place (hp : p.Within holding.kind.phases)
    (hcall : ∀ seen, ∃ seen', (listPhased n resource holding token).run seen =
      servePlace n resource holding p seen')
    (h : Follows client (fun token seen => (listPhased n resource holding token).run seen)
      token token') :
    ∃ next q, p.after next = some q ∧ token' = q.token := by
  have hserves (seen : FirstSeen) : Serves ((listPhased n resource holding token).run seen)
      (holding.list n p.phase p.cursor) fun next => Place.tokenOf (p.after next) := by
    obtain ⟨seen', hrun⟩ := hcall seen
    rw [hrun]
    exact serves_servePlace resource hp seen'
  obtain ⟨a, ha⟩ := h.of_serves hserves
  cases hafter : p.after ((holding.list n p.phase p.cursor).next a) with
  | none =>
    rw [hafter] at ha
    exact absurd ha h.1
  | some q =>
    rw [hafter] at ha
    exact ⟨_, q, hafter, ha⟩

/-- From a place within some phases on, all later places lie within them. -/
theorem place_of_later {phases : List Kind} (hphases : phases <:+ holding.kind.phases)
    (hq : q.Within phases)
    (h : Relation.ReflTransGen
      (Follows client fun token seen => (listPhased n resource holding token).run seen)
      q.token token) :
    ∃ q', Place.Within q' phases ∧ token = q'.token := by
  induction h with
  | refl => exact ⟨q, hq, rfl⟩
  | tail _ step ih =>
    obtain ⟨q', hq', rfl⟩ := ih
    have hwithin : q'.Within holding.kind.phases := List.IsSuffix.trans hq' hphases
    obtain ⟨next, q'', hafter, rfl⟩ :=
      step.place hwithin fun seen => ⟨seen, listPhased_token n resource hwithin seen⟩
    exact ⟨q'', Place.within_after hq' hafter, rfl⟩

/-- Every call of an enumeration from the empty token on is the page of a place. -/
theorem place_of_reached
    (h : Relation.ReflTransGen
      (Follows client fun token seen => (listPhased n resource holding token).run seen) "" token) :
    ∃ p : Place, p.Within holding.kind.phases ∧ ∀ seen, ∃ seen',
      (listPhased n resource holding token).run seen = servePlace n resource holding p seen' := by
  have hempty (seen : FirstSeen) : ∃ seen', (listPhased n resource holding "").run seen =
      servePlace n resource holding holding.start seen' :=
    ⟨_, listPhased_empty n resource holding seen⟩
  rcases h.cases_head with rfl | ⟨first, step, rest⟩
  · exact ⟨holding.start, holding.within_start, hempty⟩
  · obtain ⟨next, q, hafter, rfl⟩ := step.place holding.within_start hempty
    have hq := Place.within_after holding.within_start hafter
    obtain ⟨p, hp, rfl⟩ := place_of_later List.suffix_rfl hq rest
    exact ⟨p, hp, fun seen => ⟨seen, listPhased_token n resource hp seen⟩⟩

/-- Beside its list, the page of a place asks for no page. -/
theorem asks_servePlace (p : Place) (seen : FirstSeen) :
    (servePlace n resource holding p seen).Asks fun e =>
      e = holding.list n p.phase p.cursor ∨ e.query.length = none := by
  refine (asks_phasePage (.inl rfl) fun _ => .inr rfl).bind fun r => ?_
  cases r <;> trivial

/-- Two phases go through different lists. -/
theorem Holding.not_sameList {phase phase' : Kind} (hphase : phase ∈ holding.kind.phases)
    (hphase' : phase' ∈ holding.kind.phases) (hne : phase ≠ phase') {cursor cursor' : String}
    {r r' : Request} (hr : client.request (holding.list n phase cursor) = .ok r)
    (hr' : client.request (holding.list n phase' cursor') = .ok r') : ¬r.SameList r' := by
  have hq := Client.query_of_request hr
  have hq' := Client.query_of_request hr'
  cases holding with
  | project id =>
    simp only [Holding.kind, Kind.phases, List.mem_cons, List.not_mem_nil, or_false]
      at hphase hphase'
    rcases hphase with rfl | rfl | rfl <;> rcases hphase' with rfl | rfl | rfl
    · exact absurd rfl hne
    · exact Client.not_sameList_of_filter (by rw [hq, hq']; exact Option.some_ne_none _)
    · exact Client.not_sameList_of_filter (by rw [hq, hq']; exact Option.some_ne_none _)
    · exact Client.not_sameList_of_filter (by rw [hq, hq']; exact (Option.some_ne_none _).symm)
    · exact absurd rfl hne
    · exact Client.not_sameList_of_side hr hr' (by decide)
    · exact Client.not_sameList_of_filter (by rw [hq, hq']; exact (Option.some_ne_none _).symm)
    · exact Client.not_sameList_of_side hr hr' (by decide)
    · exact absurd rfl hne
  | repository id =>
    simp only [Holding.kind, Kind.phases, List.mem_cons, List.not_mem_nil, or_false]
      at hphase hphase'
    rcases hphase with rfl | rfl <;> rcases hphase' with rfl | rfl
    · exact absurd rfl hne
    · exact Client.not_sameList_of_side hr hr' (by decide)
    · exact Client.not_sameList_of_side hr hr' (by decide)
    · exact absurd rfl hne

end

/-- **A list that has come to its end is not asked for again**: not with any later token, when the
enumeration started from the empty one. -/
theorem Goes.list_ends (h : Goes n call)
    (hreached : Relation.ReflTransGen (Follows client call) "" token) {e : Endpoint}
    (hpage : e.query.length ≠ none) {seen : FirstSeen} {f : e.Reply → _}
    (hask : call token seen = .ask e f) {a : e.Answer} (hlast : e.next a = "") {page : Page α}
    {seen' : FirstSeen} (hreturned : (f (.ok a)).Yields AnyReply (.ok page, seen'))
    (hgoes : page.next ≠ "") {r : Request} (hr : client.request e = .ok r)
    (hlater : Relation.ReflTransGen (Follows client call) page.next token') (seen'' : FirstSeen) :
    ((call token' seen'').run client.handler).Asks fun r' => ¬r.SameList r' := by
  cases h with
  | once pageless =>
    refine absurd (pageless token seen e ?_) hpage
    rw [hask]
    rfl
  | along kind e' fetch reads =>
    -- the token after the last page of the only list is empty
    obtain ⟨cursor, rfl⟩ := exists_listToken reads hreached
    obtain ⟨f', hask', hnext⟩ := serves_callAlong reads (decode_listToken kind cursor) seen
    rw [hask] at hask'
    cases hask'
    obtain ⟨a', ha', htoken⟩ := hnext _ page seen' hreturned
    cases ha'
    rw [hlast, nextToken_listToken] at htoken
    exact absurd htoken hgoes
  | phases resource holding =>
    obtain ⟨p, hp, hcall⟩ := place_of_reached hreached
    obtain ⟨seen₀, hrun⟩ := hcall seen
    dsimp only at hask
    obtain ⟨f', hask', hnext⟩ := serves_servePlace (n := n) resource hp seen₀
    rw [← hrun, hask] at hask'
    cases hask'
    obtain ⟨a', ha', htoken⟩ := hnext _ page seen' hreturned
    cases ha'
    have hafter : p.after "" = Place.first? p.later := if_pos rfl
    dsimp only at htoken
    rw [hlast, hafter] at htoken
    cases hphases : p.later with
    | nil =>
      rw [hphases] at htoken
      exact absurd htoken hgoes
    | cons k ks =>
      rw [hphases] at htoken
      have hsuffix : p.phase :: k :: ks <:+ holding.kind.phases := hphases ▸ hp
      have hlaterPhases : k :: ks <:+ holding.kind.phases :=
        (List.suffix_cons p.phase (k :: ks)).trans hsuffix
      have hq : Place.Within ⟨k, "", ks⟩ (k :: ks) := List.suffix_rfl
      change page.next = Place.token ⟨k, "", ks⟩ at htoken
      rw [htoken] at hlater
      obtain ⟨q, hwithin, rfl⟩ := place_of_later hlaterPhases hq hlater
      dsimp only
      rw [listPhased_token n resource (List.IsSuffix.trans hwithin hlaterPhases) seen'']
      refine Client.asks_run ?_ (asks_servePlace q seen'')
      have hnodup : (p.phase :: k :: ks).Nodup :=
        hsuffix.sublist.nodup holding.kind.nodup_phases
      have hlaterPhase : q.phase ∈ k :: ks := hwithin.subset List.mem_cons_self
      have hne : p.phase ≠ q.phase := by
        intro heq
        exact (List.nodup_cons.1 hnodup).1 (heq ▸ hlaterPhase)
      rintro e' r' (rfl | hlength) hr'
      · exact Holding.not_sameList (hsuffix.subset List.mem_cons_self)
          (hlaterPhases.subset hlaterPhase) hne hr hr'
      · refine Client.not_sameList_of_length ?_
        rw [Client.query_of_request hr, Client.query_of_request hr', hlength]
        exact hpage

end

/-! ## Where tokens go on -/

/-- **A page token goes on where the link of the page leads to.** Take a call that asks for a page
of a list first, and that returns a page of its own. If the server's page has a link to a URL whose
first pair named `page` has a value that is not empty, then the first request of the next call is
the same request with that value for its cursor: the one pair named `page` in its address is the
cursor, letter by letter, and the other pairs are those of the first request. Otherwise the list is
done: when the enumeration started from the empty token, no later call makes a request for it. -/
theorem cursor_fidelity (client : Client) (hbase : client.base.query = none) (c : Connector)
    (scope : Scope) (what : Listed) {σ : Type} {up : Responder Request.Reply σ} {s s' : σ}
    {token : String} {seen seen' : FirstSeen} {page : Page what.Item} {e : Endpoint} {r : Request}
    {j : Json} {log : List (Exchange Request.Reply)}
    (hfirst : (what.call c scope token seen).first? = some e) (hpage : e.query.length ≠ none)
    (hr : client.request e = .ok r)
    (hcall : ((what.call c scope token seen).run client.handler).course up s =
      ⟨.ok (.ok page, seen'), ⟨r, .ok j⟩ :: log, s'⟩) :
    (∀ link cursor, e.link? j = some link → Api.LeadsTo link cursor →
      (∀ seen, ((what.call c scope page.next seen).run client.handler).first? =
        some (r.withCursor cursor)) ∧
      (r.withCursor cursor).address.pairs.filter (·.1 == "page") = [("page", cursor)] ∧
      (r.withCursor cursor).address.pairs.filter (·.1 != "page") =
        r.address.pairs.filter (·.1 != "page")) ∧
    ((∀ link cursor, e.link? j = some link → ¬Api.LeadsTo link cursor) →
      Relation.ReflTransGen (Follows client (what.call c scope)) "" token → page.next ≠ "" →
      ∀ later, Relation.ReflTransGen (Follows client (what.call c scope)) page.next later →
      ∀ seen, ((what.call c scope later seen).run client.handler).Asks
        fun r' => ¬r.SameList r') := by
  have hlength : r.query.length ≠ none := by rwa [Client.query_of_request hr]
  have hgoes := goes_call c scope what
  rcases hgoes.next_call token with hpageless | ⟨e', tokenAt, hserves, hnext⟩
  · exact absurd (hpageless seen e hfirst) hpage
  · obtain ⟨f, hask, hreturns⟩ := hserves seen
    obtain rfl : e' = e := by
      rw [hask] at hfirst
      exact Option.some.inj hfirst
    -- the reply to the first request decides where the token goes on
    rw [hask, Client.run_ask_of_ok hr, Plan.course_ask] at hcall
    have hresult := congrArg Course.result hcall
    have hhead := congrArg (fun k => k.exchanges.head?) hcall
    have hreply : (up r s).1 = .ok j := by
      simp only [Course.after, List.cons_append, List.head?_cons, Option.some.injEq,
        Exchange.mk.injEq, heq_eq_eq, true_and] at hhead
      exact hhead
    have hreturned := Client.yields_of_run (Plan.yields_of_course hresult)
    rw [hreply] at hreturned
    obtain ⟨a, ha, htoken⟩ := hreturns _ page seen' hreturned
    have hdecode := Client.decode_of_reply ha
    constructor
    · intro link cursor hlink hleads
      have hat : e'.next a = cursor :=
        (Endpoint.next_eq_iff hdecode hleads.1).2 ⟨link, hlink, hleads⟩
      have hr' := Client.request_atCursor hr hlength hleads.1
      have hlength' : (r.withCursor cursor).query.length ≠ none := hlength
      rw [Client.pairs_address hbase hr hlength, Client.pairs_address hbase hr' hlength', htoken,
        hat]
      refine ⟨fun seen => ?_, r.query.pairs_withCursor cursor⟩
      obtain ⟨tokenAt', hserves'⟩ := hnext cursor hleads.1
      obtain ⟨f', hask', -⟩ := hserves' seen
      rw [hask', Client.run_ask_of_ok hr']
      rfl
    · intro hnone hreached hnonempty later hlater
      have hlast : e'.next a = "" := by
        refine Decidable.byContradiction fun hne => ?_
        obtain ⟨link, hlink, hleads⟩ := (Endpoint.next_eq_iff hdecode hne).1 rfl
        exact hnone link _ hlink hleads
      rw [ha] at hreturned
      exact hgoes.list_ends hreached hpage hask hlast hreturned hnonempty hr hlater

/-! ## A link with a cursor -/

/-- A project whose grants are listed. -/
def pagedProject : Listed := .grants ⟨.project, "w:p:P"⟩

def pagedBase : Url := ⟨"https", "", "", some (.name "h"), none, .segments [""], none, none⟩

def pagedClient : Client := ⟨pagedBase, pagedBase, 100⟩

/-- The first request. -/
def pagedRequest : Request where
  method := .get
  url := { pagedBase with path := .segments ["repositories", "w"] }
  query := (Endpoint.repositories "w" "p" 100 "").query
  body := none

/-- A server with one reply. -/
def oneReply (j : Json) : Responder Request.Reply Unit := fun _ s => (.ok j, s)

/-- A page with nothing on it and a link. -/
def linkingPage : Json := .object [("next", .text "https://h/?q=1&page=a%26b+%C3%A9&page=c")]

theorem leadsTo_linkingPage : Api.LeadsTo "https://h/?q=1&page=a%26b+%C3%A9&page=c" "a&b é" := by
  refine ⟨by decide, { pagedBase with query := some "q=1&page=a%26b+%C3%A9&page=c" }, ?_, ?_⟩
  · rfl
  · decide +kernel

theorem course_linkingPage :
    ((pagedProject.call ⟨100, []⟩ (.workspace "w") "" .empty).run pagedClient.handler).course
      (oneReply linkingPage) () =
        ⟨.ok (.ok ⟨[], (Place.mk .repository "a&b é" [.userGroup, .user]).token⟩,
          FirstSeen.empty.reset ⟨.project, "w:p:P"⟩), [⟨pagedRequest, .ok linkingPage⟩], ()⟩ := by
  rfl

theorem course_lastPage :
    ((pagedProject.call ⟨100, []⟩ (.workspace "w") "" .empty).run pagedClient.handler).course
      (oneReply (.object [])) () =
        ⟨.ok (.ok ⟨[], (Place.mk .userGroup "" [.user]).token⟩,
          FirstSeen.empty.reset ⟨.project, "w:p:P"⟩), [⟨pagedRequest, .ok (.object [])⟩], ()⟩ := by
  rfl

/-- The repositories of a project come first, and a page of them goes on at the cursor that its link
tells; after a page without a link they are not asked for again. -/
theorem cursor_fidelity_sample :
    let call := pagedProject.call ⟨100, []⟩ (.workspace "w")
    (∀ seen, ((call (Place.mk .repository "a&b é" [.userGroup, .user]).token seen).run
      pagedClient.handler).first? = some (pagedRequest.withCursor "a&b é")) ∧
    ∀ later, Relation.ReflTransGen (Follows pagedClient call)
        (Place.mk .userGroup "" [.user]).token later →
      ∀ seen, ((call later seen).run pagedClient.handler).Asks
        fun r => ¬pagedRequest.SameList r := by
  intro call
  let e : Endpoint := .repositories "w" "p" 100 ""
  have hfirst : (call "" .empty).first? = some e := rfl
  have hr : pagedClient.request e = .ok pagedRequest := rfl
  constructor
  · have hlinked := cursor_fidelity pagedClient rfl ⟨100, []⟩ (.workspace "w") pagedProject hfirst
      (by decide) hr course_linkingPage
    exact (hlinked.1 _ "a&b é" rfl leadsTo_linkingPage).1
  · have hlast := cursor_fidelity pagedClient rfl ⟨100, []⟩ (.workspace "w") pagedProject hfirst
      (by decide) hr course_lastPage
    have hnone : ∀ link cursor, e.link? (.object []) = some link → ¬Api.LeadsTo link cursor := by
      intro link cursor hlink
      cases hlink
    exact hlast.2 hnone .refl (Place.token_ne_empty _)

end AccessSync
