import AccessSync.Connection
import AccessSync.Proofs.Http.Interruption
import AccessSync.Proofs.Provision.Requests
import AccessSync.Proofs.Provision.Store

/-!
# Changes over a connection with interruptions

A change reads an entry and writes it, and either request may reach the server several times. That
makes no difference: reading changes nothing, writing leaves the same when it is done again, and
what is gone already counts as taken away.

* `Blind`, `Repeatable`: what the reply to an endpoint means does not depend on how often it was
  asked.
* `blind_through`: an endpoint asked over a connection with interruptions.
* `interruptions_unseen`: a change made over one.
-/

namespace AccessSync.Provision

open Api (Client Endpoint Request)
open Function (update)
open Http (Agent Interruption Net World)

variable {σ : Type}

/-! ## Endpoints asked again -/

/-- What a reply means and what is kept afterwards follow from what was kept before. -/
def Blind {τ : Type} (up : Responder Endpoint.Reply τ) (view : τ → Store) (q : Endpoint)
    (meaning : q.Reply → Except Failure Unit) : Prop :=
  ∀ t t', view t = view t' →
    meaning (up q t).1 = meaning (up q t').1 ∧ view (up q t).2 = view (up q t').2

/-- What a reply means and what is kept afterwards are the same when the endpoint is asked again. -/
structure Repeatable (up : Responder Endpoint.Reply σ) (view : σ → Store) (q : Endpoint)
    (meaning : q.Reply → Except Failure Unit) : Prop where
  blind : Blind up view q meaning
  again : ∀ s, meaning (up q (up q s).2).1 = meaning (up q s).1 ∧
    view (up q (up q s).2).2 = view (up q s).2

section
variable {up : Responder Endpoint.Reply σ} {view : σ → Store} {e : Entry}

/-- Reading a kept entry can be repeated. -/
theorem Keeps.repeatable_shown (h : Keeps up view e) (d : Direction) :
    Repeatable up view e.shown (d.verdict e) := by
  have hblind : Blind up view e.shown (d.verdict e) := by
    intro s s' hview
    refine ⟨?_, by rw [h.view_shown, h.view_shown, hview]⟩
    by_cases htaken : d = .give ∧ e.IsTaken (view s)
    · obtain ⟨rfl, htaken⟩ := htaken
      cases e with
      | role target side holder => exact htaken.elim
      | membership group user =>
        have htaken' : (view s' (.membership group user)).isSome := hview ▸ htaken
        exact (h.verdict_of_taken htaken).trans (h.verdict_of_taken htaken').symm
    · rw [h.verdict_of_free htaken, h.verdict_of_free (hview ▸ htaken)]
  exact ⟨hblind, fun s => hblind _ _ (h.view_shown s)⟩

/-- Writing a kept entry can be repeated. -/
theorem Keeps.repeatable_changed (h : Keeps up view e) (d : Direction) (slug : String) :
    Repeatable up view (e.changed d slug) d.outcome where
  blind s s' hview := by
    obtain ⟨hreply, hleft⟩ := h.write d slug s
    obtain ⟨hreply', hleft'⟩ := h.write d slug s'
    exact ⟨hreply.trans hreply'.symm, by rw [hleft, hleft', hview]⟩
  again s := by
    obtain ⟨hreply, hleft⟩ := h.write d slug s
    obtain ⟨hreply', hleft'⟩ := h.write d slug (up (e.changed d slug) s).2
    exact ⟨hreply'.trans hreply.symm, by rw [hleft', hleft, Function.update_idem]⟩

end

section
variable {client : Client} {net : Net σ} {agent : Agent} {view : σ → Store} {q : Endpoint}
  {meaning : q.Reply → Except Failure Unit}

/-- Interruptions of a request that can be repeated do not show in the reply that comes in the
end. -/
theorem Repeatable.afterInterruptions
    (h : Repeatable (client.respond net.replies) view q meaning) {r : Request}
    (hr : client.request q = .ok r) (interruptions : List Interruption) (s : σ) :
    let s' := interruptions.foldl (net.afterInterruption (Http.message r "")) s
    meaning (client.respond net.replies q s').1 = meaning (client.respond net.replies q s).1 ∧
      view (client.respond net.replies q s').2 = view (client.respond net.replies q s).2 := by
  refine List.foldlRecOn interruptions _ (motive := fun s' =>
    meaning (client.respond net.replies q s').1 = meaning (client.respond net.replies q s).1 ∧
      view (client.respond net.replies q s').2 = view (client.respond net.replies q s).2)
    ⟨rfl, rfl⟩ fun s' hs' i _ => ?_
  -- the server got the message once more, or it did not
  have hstep : net.afterInterruption (Http.message r "") s' i =
      if i.applied then (client.respond net.replies q s').2 else s' := by
    rw [Client.respond_of_ok hr]
    rfl
  rw [hstep]
  split
  · exact ⟨(h.again s').1.trans hs'.1, (h.again s').2.trans hs'.2⟩
  · exact hs'

/-- **Interruptions do not show** in what an endpoint that can be asked again is answered, nor in
what is kept afterwards. -/
theorem blind_through (h : Repeatable (client.respond net.replies) view q meaning) (agent : Agent) :
    Blind (client.respond (agent.through net)) (fun w => view w.state) q meaning := by
  intro w w' hview
  cases hr : client.request q with
  | error f =>
    -- an endpoint that there is no request for is not asked at all
    have hreply (w : World σ) : client.respond (agent.through net) q w = (.error f, w) := by
      unfold Client.respond
      rw [hr]
    rw [hreply, hreply]
    exact ⟨rfl, hview⟩
  | ok r =>
    rw [Client.respond_of_ok hr, Client.respond_of_ok hr]
    unfold Agent.through
    cases agent.canSend r with
    | false => exact ⟨rfl, hview⟩
    | true =>
      -- on both sides the interruptions can be left out
      have hw := h.afterInterruptions hr (w.due.headD []) w.state
      have hw' := h.afterInterruptions hr (w'.due.headD []) w'.state
      have hboth := h.blind _ _ hview
      simp only [Client.respond_of_ok hr] at hw hw' hboth
      exact ⟨hw.1.trans (hboth.1.trans hw'.1.symm), hw.2.trans (hboth.2.trans hw'.2.symm)⟩

end

/-! ## Changes -/

section
variable {τ : Type} {up : Responder Endpoint.Reply τ} {view : τ → Store} {e : Entry} {d : Direction}
  {slug : String}

/-- A change that sees nothing but what is kept ends in the same way and leaves the same when the
same is kept. -/
theorem Entry.course_of_blind (hread : Blind up view e.shown (d.verdict e))
    (hwrite : Blind up view (e.changed d slug) d.outcome) {t t' : τ} (hview : view t = view t') :
    ∃ r, (e.course d slug up t).result = .ok r ∧ (e.course d slug up t').result = .ok r ∧
      view (e.course d slug up t).state = view (e.course d slug up t').state := by
  obtain ⟨hverdict, hshown⟩ := hread t t' hview
  cases hv : d.verdict e (up e.shown t).1 with
  | error f =>
    rw [e.course_of_error rfl hv, e.course_of_error rfl (hverdict.symm.trans hv)]
    exact ⟨.error f, rfl, rfl, hshown⟩
  | ok u =>
    obtain ⟨houtcome, hleft⟩ := hwrite _ _ hshown
    rw [e.course_of_ok rfl hv, e.course_of_ok rfl (hverdict.symm.trans hv)]
    exact ⟨_, rfl, congrArg Except.ok houtcome.symm, hleft⟩

end

section
variable {up : Responder Endpoint.Reply σ} {view : σ → Store} {e : Entry}

/-- Nothing can go wrong with reading a kept entry but that there is none. -/
theorem Keeps.notFound_of_shown (h : Keeps up view e) {s : σ} {f : Fault}
    (hf : (up e.shown s).1 = .error f) : f.isNotFound := by
  cases e with
  | role target side holder =>
    have hf : (up (.role target side holder) s).1 = .error f := hf
    cases hrole : view s (.role target side holder) with
    | some r =>
      obtain ⟨held, hheld, -⟩ := KeepsRole.role h _ _ hrole
      rw [hheld] at hf
      cases hf
    | none =>
      obtain ⟨m, hm⟩ := KeepsRole.noRole h _ hrole
      rw [hm] at hf
      cases hf
      rfl
  | membership group user =>
    have hf : (up (.groupMembers group) s).1 = .error f := hf
    obtain ⟨members, hmembers, -⟩ := KeepsMembership.members h s
    rw [hmembers] at hf
    cases hf

theorem notFound_of_removes {old : Option String} {reply : Except Fault Unit} {f : Fault}
    (h : Removes old reply) (hf : reply = .error f) : f.isNotFound := by
  subst hf
  cases old with
  | some r => cases h
  | none =>
    obtain ⟨m, hm⟩ : ∃ m, Except.error f = .error (.status 404 m) := h
    cases hm
    rfl

/-- Nor with writing one. -/
theorem Keeps.notFound_of_changed (h : Keeps up view e) {d : Direction} {slug : String} {s : σ}
    {f : Fault} (hf : (up (e.changed d slug) s).1 = .error f) : f.isNotFound := by
  cases e with
  | role target side holder =>
    cases d with
    | give => cases (KeepsRole.set h slug s).1.symm.trans hf
    | take => exact notFound_of_removes (KeepsRole.drop h s).1 hf
  | membership group user =>
    cases d with
    | give => cases (KeepsMembership.add h s).1.symm.trans hf
    | take => exact notFound_of_removes (KeepsMembership.remove h s).1 hf

end

section
variable {client : Client} {net : Net σ} {view : σ → Store} {e : Entry}

/-- A server that at most does not find what is asked for answers once and for all. -/
theorem settled_of_notFound {q : Endpoint} {r : Request} (hr : client.request q = .ok r)
    (h : ∀ s f, (client.respond net.replies q s).1 = .error f → f.isNotFound) :
    Http.Settled net r where
  method := by
    rw [Client.method_of_request hr]
    cases q <;> exact nofun
  reply s := by
    have hs := h s
    rw [Client.respond_of_ok hr] at hs
    cases hreply : (net.replies r s).1 with
    | ok j => trivial
    | error f =>
      rw [hreply] at hs
      have hf := hs f rfl
      cases f with
      | status code m =>
        -- nobody tries again for what is not there
        obtain rfl : code = 404 := by simpa [Fault.isNotFound, Fault.status?] using hf
        exact ⟨rfl, rfl, by decide⟩
      | _ => trivial

variable {c : Change} {scope : Scope}

/-- The requests of a change to a kept entry are answered once and for all. -/
theorem settled_of_change (agent : Agent) (hentry : c.entry scope = .ok e)
    (h : Keeps (client.respond net.replies) view e) (w : World σ) :
    ∀ x ∈ (((c.perform scope).run.run client.handler).course (agent.through net) w).exchanges,
      Http.Settled net x.question := by
  intro x hx
  -- each request is that for the reading or for the writing of the entry
  obtain ⟨y, hy, hr⟩ := Client.exchanges_run client (agent.through net) _ w x hx
  rw [Change.course_perform hentry] at hy
  rcases Entry.question_of_mem_course hy with hq | hq
  · rw [hq] at hr
    exact settled_of_notFound hr fun s f hf => h.notFound_of_shown hf
  · rw [hq] at hr
    exact settled_of_notFound hr fun s f hf => h.notFound_of_changed hf

variable {conn : Connection} {kept : Option Http.Token}

/-- Work that is answered once and for all ends over a connection with interruptions as it does
against the server that its requests reach in the end. -/
theorem course_carry {N α : Type} (embed : Event → N) {work : Plan N Endpoint.Reply α} {w : World σ}
    (hwork : ∀ x ∈ ((work.run conn.client.handler).course (conn.agent.through net) w).exchanges,
      Http.Settled net x.question)
    (hw : conn.agent.Outlasts w) (hkept : conn.agent.CanLogIn net kept) (n : Nat) :
    let c := (conn.carry embed work kept).course net.wire (w, n)
    let reached := work.course (conn.client.respond (conn.agent.through net)) w
    c.result.map Prod.fst = reached.result ∧ c.state.1 = reached.state := by
  obtain ⟨hresult, hstate⟩ := Http.course_carried embed _ hwork hw hkept n
  obtain ⟨hresult', hstate'⟩ :=
    Client.course_run_handler conn.client (conn.agent.through net) work w
  exact ⟨hresult.trans hresult', hstate.trans hstate'⟩

/-- **Interruptions do not show in a change** of an entry that the server keeps. Take an agent that
can log in. However the requests of the change are interrupted, each no more often than the agent
tries again, and whether or not the server got them by then, the change returns what it returns
without interruptions, and leaves what it leaves without them. -/
theorem interruptions_unseen
    (hstore : ∀ e, c.entry scope = .ok e → Keeps (conn.client.respond net.replies) view e)
    (hkept : conn.agent.CanLogIn net kept) (embed : Event → Event) (s : σ) (n : Nat)
    (due : List (List Interruption)) (hdue : conn.agent.Outlasts ⟨s, due⟩) :
    let run := fun due =>
      (conn.carry embed (c.perform scope).run kept).course net.wire (⟨s, due⟩, n)
    ∃ r, (run due).result.map Prod.fst = .ok r ∧ (run []).result.map Prod.fst = .ok r ∧
      view (run due).state.1.state = view (run []).state.1.state := by
  intro run
  cases hentry : c.entry scope with
  | error f =>
    simp only [run, Connection.carry, Change.run_perform_of_error hentry]
    exact ⟨.error f, rfl, rfl, rfl⟩
  | ok e =>
    have hkeeps := hstore e hentry
    -- with and without interruptions, the change is made against what its requests reach
    have hrun (due : List (List Interruption)) (hdue : conn.agent.Outlasts ⟨s, due⟩) :=
      course_carry embed (settled_of_change conn.agent hentry hkeeps ⟨s, due⟩) hdue hkept n
    simp only [Change.course_perform hentry] at hrun
    obtain ⟨hresult, hstate⟩ := hrun due hdue
    obtain ⟨hresult', hstate'⟩ := hrun [] nofun
    have hsame : view (World.mk s due).state = view (World.mk s []).state := rfl
    obtain ⟨r, hr, hr', hview⟩ := Entry.course_of_blind
      (blind_through (hkeeps.repeatable_shown c.direction) conn.agent)
      (blind_through (hkeeps.repeatable_changed c.direction c.slug) conn.agent) hsame
    exact ⟨r, hresult.trans hr, hresult'.trans hr', by rw [hstate, hstate', hview]⟩

end

/-! ## A group with one user -/

/-- The members of the group as they are sent. -/
def memberText (isMember : Bool) : String :=
  if isMember then "[\x7b\"uuid\":\"u1\"\x7d]" else "[]"

/-- A server that keeps whether one user is a member of a group. -/
def memberServer (m : Http.Message) (isMember : Bool) : Http.Response × Bool :=
  match m.method with
  | .get => (⟨200, [], Text.utf8 (memberText isMember)⟩, isMember)
  | .put => (⟨200, [], []⟩, true)
  | .delete => (⟨if isMember then 204 else 404, [], []⟩, false)
  | .post => (⟨405, [], []⟩, isMember)

/-- The server, another one that hands out a token for an hour, and a clock on which that hour goes
by. -/
def memberNet : Net Bool where
  server := memberServer
  login _ _ := ⟨200, [], Text.utf8 "\x7b\"access_token\":\"t\"\x7d"⟩
  clock n := if n < 2 then 0 else 3600 * Http.second

/-- A connection with a key and a secret. -/
def sampleConnection : Connection where
  connector := ⟨50, []⟩
  client := sampleClient
  agent := ⟨.oauth2 Config.usualLoginUrl "key" "secret", .usual⟩

/-- The user is a member of the group or not, and nothing else is kept. -/
def memberView (isMember : Bool) : Store :=
  update (fun _ => none) (.membership ⟨"w", "g"⟩ "u1") (if isMember then some memberSlug else none)

/-- The user is taken out of the group. -/
def sampleRemoval : Change := ⟨.take, ⟨.user, "u1"⟩, ⟨.userGroup, "w:g"⟩, memberSlug⟩

theorem readResponse_memberText (isMember : Bool) :
    Http.readResponse ⟨200, [], Text.utf8 (memberText isMember)⟩ =
      .ok (.array (if isMember then [.object [("uuid", .text "u1")]] else [])) := by
  cases isMember with
  | false => rfl
  | true =>
    have htext : Text.decodeLossy (Text.utf8 (memberText true)) = memberText true := rfl
    have hread : Json.read (memberText true) =
        some (.array [.object [(some "uuid", .text (some "u1"))]]) := rfl
    have hvalue : Json.readValue (memberText true) =
        some (.array [.object [("uuid", .text "u1")]]) := by
      unfold Json.readValue
      rw [hread]
      rfl
    unfold Http.readResponse
    simp only [htext, hvalue]
    rfl

theorem respond_groupMembers (isMember : Bool) :
    sampleClient.respond memberNet.replies (.groupMembers ⟨"w", "g"⟩) isMember =
      (.ok (if isMember then [⟨"u1", "", "", ""⟩] else []), isMember) := by
  obtain ⟨r, hr⟩ : ∃ r, sampleClient.request (.groupMembers ⟨"w", "g"⟩) = .ok r := ⟨_, rfl⟩
  have hreplies : memberNet.replies r isMember =
      (Http.readResponse ⟨200, [], Text.utf8 (memberText isMember)⟩, isMember) := by
    have hmethod : (Http.message r "").method = .get := Client.method_of_request hr
    unfold Net.replies memberNet memberServer
    simp only [hmethod]
  rw [Client.respond_of_ok hr, hreplies, readResponse_memberText]
  cases isMember <;> rfl

theorem keeps_memberNet :
    Keeps (sampleClient.respond memberNet.replies) memberView (.membership ⟨"w", "g"⟩ "u1") :=
  show KeepsMembership _ _ _ _ from
  { get := fun s => by rw [respond_groupMembers]
    members := fun s => by
      refine ⟨_, congrArg Prod.fst (respond_groupMembers s), ?_⟩
      unfold memberView
      cases s <;> simp
    add := fun s => ⟨rfl, by unfold memberView; rw [Function.update_idem]; rfl⟩
    remove := fun s => by
      unfold memberView
      refine ⟨?_, by rw [Function.update_idem]; rfl⟩
      rw [Function.update_self]
      cases s with
      | false => exact ⟨"", rfl⟩
      | true => rfl }

theorem canLogIn_memberNet : sampleConnection.agent.CanLogIn memberNet none := by
  refine ⟨⟨⟨"https", "", "", some (.name "bitbucket.org"), none,
    .segments ["site", "oauth2", "access_token"], none, none⟩, rfl, rfl, fun n => ?_⟩, nofun⟩
  refine ⟨rfl, "t", 3600, rfl, rfl, ?_⟩
  unfold memberNet
  by_cases hn : n < 2
  · simp only [hn]
    decide
  · simp only [hn]
    decide

/-- An outage while the members are read; then the user is taken out of the group, which nobody is
told, and the server is asked too often. -/
def sampleInterruptions : List (List Interruption) :=
  [[⟨⟨503, [], []⟩, by decide, false⟩],
    [⟨⟨502, [], []⟩, by decide, true⟩, ⟨⟨429, [("Retry-After", "7")], []⟩, by decide, false⟩]]

/-- The user is gone by the time that the server answers, and the removal succeeds all the same. -/
theorem interruptions_unseen_sample :
    let run := fun due => (sampleConnection.carry id
      (sampleRemoval.perform (.workspace "w")).run none).course memberNet.wire (⟨true, due⟩, 0)
    ∃ r, (run sampleInterruptions).result.map Prod.fst = .ok r ∧
      (run []).result.map Prod.fst = .ok r ∧
      memberView (run sampleInterruptions).state.1.state = memberView (run []).state.1.state := by
  have hentry : sampleRemoval.entry (.workspace "w") = .ok (.membership ⟨"w", "g"⟩ "u1") := rfl
  refine interruptions_unseen (fun e he => ?_) canLogIn_memberNet id true 0 sampleInterruptions ?_
  · obtain rfl := Except.ok.inj (hentry.symm.trans he)
    exact keeps_memberNet
  · intro interruptions hmem
    simp only [sampleInterruptions, List.mem_cons, List.not_mem_nil, or_false] at hmem
    rcases hmem with rfl | rfl
    · decide
    · decide

end AccessSync.Provision
