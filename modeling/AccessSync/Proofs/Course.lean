import AccessSync.Api.Client
import AccessSync.Api.Dialogue
import AccessSync.Proofs.Plan

/-!
# The course of a plan

A server changes while it is worked with, and need not answer a question twice in the same way. What
answers then has a state of its own, and a plan takes a course against it: the exchanges that are
made, how the plan ends, and the state that is left.

* `course_bind`: one plan after the other.
* `course_eq_run`: the course is what running the plan gives.
* `course_logged`: a log of the exchanges can be kept in the state.
* `Asks.exchanges`: what holds of every question that a plan may ask holds of those that it asks.
* `course_run_handler`, `course_run_handler_logged`: a client is to endpoints what its server is to
  requests.
-/

namespace AccessSync

/-- Whatever answers questions from a state, which a question may change. -/
abbrev Responder {Q : Type} (R : Q → Type) (σ : Type) : Type := (q : Q) → σ → R q × σ

/-- A question and its reply. -/
structure Exchange {Q : Type} (R : Q → Type) where
  question : Q
  reply : R question

/-- How a plan ends, the exchanges that it makes, in order, and the state that is left. -/
structure Course {Q : Type} (R : Q → Type) (σ α : Type) where
  result : Except Stop α
  exchanges : List (Exchange R)
  state : σ

section
variable {Q : Type} {R : Q → Type} {σ α β : Type}

namespace Course

/-- The course with exchanges before it. -/
def after (log : List (Exchange R)) (c : Course R σ α) : Course R σ α :=
  { c with exchanges := log ++ c.exchanges }

/-- The course that goes on from the result and the state, if there is a result. -/
def andThen (c : Course R σ α) (f : α → σ → Course R σ β) : Course R σ β :=
  match c.result with
  | .ok a => (f a c.state).after c.exchanges
  | .error why => ⟨.error why, c.exchanges, c.state⟩

theorem andThen_after (log : List (Exchange R)) (c : Course R σ α) (f : α → σ → Course R σ β) :
    (c.after log).andThen f = (c.andThen f).after log := by
  unfold andThen
  cases hc : c.result with
  | ok a => simp only [after, hc, List.append_assoc]
  | error why => simp only [after, hc]

end Course

namespace Responder

/-- The server that a responder is as long as its state stays the same. -/
def asOf (up : Responder R σ) (s : σ) (q : Q) : R q := (up q s).1

/-- The responder that keeps a log of the exchanges. -/
def logged (up : Responder R σ) : Responder R (List (Exchange R) × σ) := fun q (log, s) =>
  ((up q s).1, log ++ [⟨q, (up q s).1⟩], (up q s).2)

end Responder

end

namespace Plan

variable {N Q : Type} {R : Q → Type} {σ α β : Type}

/-- The course of a plan, from a state of what answers its questions. -/
def course (up : Responder R σ) : Plan N R α → σ → Course R σ α
  | done a, s => ⟨.ok a, [], s⟩
  | stop why, s => ⟨.error why, [], s⟩
  | note _ rest, s => rest.course up s
  | ask q next, s => ((next (up q s).1).course up (up q s).2).after [⟨q, (up q s).1⟩]

/-- Every question that the plan may ask, whatever the replies are, has the property. -/
def Asks (P : Q → Prop) : Plan N R α → Prop
  | done _ => True
  | stop _ => True
  | note _ rest => rest.Asks P
  | ask q next => P q ∧ ∀ r, (next r).Asks P

variable {up : Responder R σ}

@[simp] theorem course_done (a : α) (s : σ) : (done a : Plan N R α).course up s = ⟨.ok a, [], s⟩ :=
  rfl

@[simp] theorem course_note (n : N) (rest : Plan N R α) (s : σ) :
    (note n rest).course up s = rest.course up s := rfl

@[simp] theorem course_ask (q : Q) (next : R q → Plan N R α) (s : σ) :
    (ask q next).course up s =
      ((next (up q s).1).course up (up q s).2).after [⟨q, (up q s).1⟩] := rfl

/-- **One plan after the other** takes the first course and then the second. -/
theorem course_bind (p : Plan N R α) (f : α → Plan N R β) (s : σ) :
    (p >>= f).course up s = (p.course up s).andThen fun a s' => (f a).course up s' := by
  induction p generalizing s with
  | done a => rfl
  | stop why => rfl
  | note n rest ih => exact ih s
  | ask q next ih => rw [ask_bind, course_ask, course_ask, ih, Course.andThen_after]

/-- Work on the result asks nothing more. -/
theorem exchanges_bind_done (up : Responder R σ) (p : Plan N R α) (f : α → β) (s : σ) :
    ((p >>= fun a => done (f a)).course up s).exchanges = (p.course up s).exchanges := by
  rw [course_bind]
  unfold Course.andThen Course.after
  cases (p.course up s).result with
  | ok a => exact List.append_nil _
  | error why => rfl

/-- **The course is what running the plan gives**, in the monad that keeps a log and a state. -/
theorem course_eq_run (up : Responder R σ) (p : Plan N R α) (log : List (Exchange R)) (s : σ) :
    let c := p.course up s
    (p.run (m := StateT (List (Exchange R) × σ) (Except Stop))
      { stop := fun why _ => .error why
        note := fun _ => pure ()
        answer := fun q state => .ok (up.logged q state) }) (log, s) =
      c.result.map fun a => (a, log ++ c.exchanges, c.state) := by
  -- the log grows at its end, so the induction is for any log that is there at first
  induction p generalizing log s with
  | done a =>
    show Except.ok (a, log, s) = Except.ok (a, log ++ [], s)
    rw [List.append_nil]
  | stop why => rfl
  | note n rest ih => exact ih log s
  | ask q next ih =>
    have hrest := ih (up q s).1 (log ++ [⟨q, (up q s).1⟩]) (up q s).2
    simp only [List.append_assoc] at hrest
    exact hrest

/-- **A log of the exchanges** can be kept in the state, and changes nothing else. -/
theorem course_logged (up : Responder R σ) (p : Plan N R α) (log : List (Exchange R)) (s : σ) :
    p.course up.logged (log, s) =
      ⟨(p.course up s).result, (p.course up s).exchanges,
        log ++ (p.course up s).exchanges, (p.course up s).state⟩ := by
  induction p generalizing log s with
  | done a => simp
  | stop why => simp [course]
  | note n rest ih => exact ih log s
  | ask q next ih =>
    have hlog : up.logged q (log, s) =
        ((up q s).1, log ++ [⟨q, (up q s).1⟩], (up q s).2) := rfl
    rw [course_ask, course_ask, hlog, ih]
    simp only [Course.after, List.append_assoc]

/-- A plan may end as it does on any course. -/
theorem yields_of_course {p : Plan N R α} {s : σ} {a : α} (h : (p.course up s).result = .ok a) :
    p.Yields AnyReply a := by
  induction p generalizing s with
  | done b => exact Except.ok.inj h
  | stop why => cases h
  | note n rest ih => exact ih h
  | ask q next ih => exact ⟨_, trivial, ih _ h⟩

/-- A plan may end as it does on a course when no other replies are given than on that course. -/
theorem yields_exchanged {p : Plan N R α} {s : σ} {a : α} (h : (p.course up s).result = .ok a) :
    p.Yields (fun q r => ⟨q, r⟩ ∈ (p.course up s).exchanges) a := by
  induction p generalizing s with
  | done b => exact Except.ok.inj h
  | stop why => cases h
  | note n rest ih => exact ih h
  | ask q next ih =>
    refine ⟨(up q s).1, List.mem_cons_self, ?_⟩
    exact (ih _ h).mono fun _ _ hmem => List.mem_cons_of_mem _ hmem

/-- Other notes make no other course. -/
theorem course_mapNotes {M : Type} (f : N → List M) (p : Plan N R α) (s : σ) :
    (p.mapNotes f).course up s = p.course up s := by
  induction p generalizing s with
  | done a => rfl
  | stop why => rfl
  | note n rest ih =>
    have hnotes (notes : List M) (q : Plan M R α) :
        (notes.foldr note q).course up s = q.course up s := by
      induction notes with
      | nil => rfl
      | cons m more ih => exact ih
    rw [mapNotes, hnotes, ih, course_note]
  | ask q next ih =>
    rw [mapNotes, course_ask, course_ask, ih]

/-! ## Plans that may fail -/

section
variable {ε : Type} {log : List (Exchange R)} {s s' : σ}

/-- What follows a success takes its course from the state that is left. -/
theorem course_bind_of_ok {x : ExceptT ε (Plan N R) α} {a : α}
    (h : x.run.course up s = ⟨.ok (.ok a), log, s'⟩) (f : α → ExceptT ε (Plan N R) β) :
    (x >>= f).run.course up s = ((f a).run.course up s').after log := by
  rw [run_exceptT_bind, course_bind, h]
  rfl

/-- Nothing follows a failure. -/
theorem course_bind_of_error {x : ExceptT ε (Plan N R) α} {e : ε}
    (h : x.run.course up s = ⟨.ok (.error e), log, s'⟩) (f : α → ExceptT ε (Plan N R) β) :
    (x >>= f).run.course up s = ⟨.ok (.error e), log, s'⟩ := by
  rw [run_exceptT_bind, course_bind, h]
  simp [Course.andThen, Course.after]

end

/-! ## Questions that may be asked -/

section
variable {P : Q → Prop}

/-- **Whatever holds of all questions that a plan may ask** holds of those that it asks. -/
theorem Asks.exchanges {p : Plan N R α} (h : p.Asks P) (up : Responder R σ) (s : σ) :
    ∀ x ∈ (p.course up s).exchanges, P x.question := by
  induction p generalizing s with
  | done a => simp
  | stop why => simp [course]
  | note n rest ih => exact ih h s
  | ask q next ih =>
    intro x hx
    rcases List.mem_cons.1 hx with rfl | hx
    · exact h.1
    · exact ih (up q s).1 (h.2 _) (up q s).2 x hx

theorem Asks.bind {p : Plan N R α} (hp : p.Asks P) {f : α → Plan N R β}
    (hf : ∀ a, (f a).Asks P) : (p >>= f).Asks P := by
  induction p with
  | done a => exact hf a
  | stop why => trivial
  | note n rest ih => exact ih hp
  | ask q next ih => exact ⟨hp.1, fun r => ih r (hp.2 r)⟩

variable {ε : Type}

/-- After a failure nothing more is asked. -/
theorem asks_exceptT_bind {x : ExceptT ε (Plan N R) α} (hx : x.run.Asks P)
    {f : α → ExceptT ε (Plan N R) β} (hf : ∀ a, (f a).run.Asks P) : (x >>= f).run.Asks P := by
  rw [run_exceptT_bind]
  refine hx.bind fun r => ?_
  cases r with
  | ok a => exact hf a
  | error e => trivial

/-- The same for plans with a state that outlasts a failure. -/
theorem asks_stateT_bind {τ : Type} {x : ExceptT ε (StateT τ (Plan N R)) α} {state : τ}
    (hx : (x.run state).Asks P) {f : α → ExceptT ε (StateT τ (Plan N R)) β}
    (hf : ∀ a state', ((f a).run state').Asks P) : ((x >>= f).run state).Asks P := by
  rw [run_stateT_bind]
  refine hx.bind fun out => ?_
  obtain ⟨r, state'⟩ := out
  cases r with
  | ok a => exact hf a state'
  | error e => trivial

end

end Plan

/-! ## Operations -/

namespace Operation

variable {α σ : Type} {up : Responder Api.Endpoint.Reply σ}

theorem course_ask (up : Responder Api.Endpoint.Reply σ) (e : Api.Endpoint) (s : σ) :
    (Operation.ask e).run.course up s =
      ⟨.ok ((up e s).1.mapError Fault.failure), [⟨e, (up e s).1⟩], (up e s).2⟩ := rfl

theorem course_ask_of_ok {e : Api.Endpoint} {a : e.Answer} {s s' : σ}
    (h : up e s = (.ok a, s')) :
    (Operation.ask e).run.course up s = ⟨.ok (.ok a), [⟨e, .ok a⟩], s'⟩ := by
  rw [course_ask, h]
  rfl

theorem course_ask_of_error {e : Api.Endpoint} {f : Fault} {s s' : σ}
    (h : up e s = (.error f, s')) :
    (Operation.ask e).run.course up s = ⟨.ok (.error f.failure), [⟨e, .error f⟩], s'⟩ := by
  rw [course_ask, h]
  rfl

theorem course_attempt (up : Responder Api.Endpoint.Reply σ) (e : Api.Endpoint) (s : σ) :
    (Operation.attempt e).run.course up s =
      ⟨.ok (.ok (up e s).1), [⟨e, (up e s).1⟩], (up e s).2⟩ := rfl

theorem course_report (e : Event) (s : σ) :
    (Operation.report e).run.course up s = ⟨.ok (.ok ()), [], s⟩ := rfl

theorem asks_ask {P : Api.Endpoint → Prop} {e : Api.Endpoint} (h : P e) :
    (Operation.ask e).run.Asks P := ⟨h, fun _ => trivial⟩

end Operation

/-! ## Clients as servers -/

namespace Api.Client

variable {N α σ : Type}

/-- The request for an endpoint has what the endpoint tells, and lies where the client knows. -/
theorem request_eq_ok {c : Client} {e : Endpoint} {r : Request} : c.request e = .ok r ↔
    ∃ url, (c.baseOf e.version).extend? e.path = some url ∧
      r = { method := e.method, url, query := e.query, body := e.body } := by
  unfold request place
  dsimp only
  cases (c.baseOf e.version).extend? e.path with
  | none => simp [Except.map]
  | some url => simp [Except.map, eq_comm]

theorem method_of_request {c : Client} {e : Endpoint} {r : Request} (h : c.request e = .ok r) :
    r.method = e.method := by
  obtain ⟨url, -, rfl⟩ := request_eq_ok.1 h
  rfl

theorem query_of_request {c : Client} {e : Endpoint} {r : Request} (h : c.request e = .ok r) :
    r.query = e.query := by
  obtain ⟨url, -, rfl⟩ := request_eq_ok.1 h
  rfl

/-- What a client makes of a server of requests: a request at most for each endpoint. -/
def respond (c : Client) (http : Responder Request.Reply σ) : Responder Endpoint.Reply σ :=
  fun e s =>
    match c.request e with
    | .error f => (.error f, s)
    | .ok r => (reply e (http r s).1, (http r s).2)

theorem respond_of_ok {c : Client} {e : Endpoint} {r : Request} (h : c.request e = .ok r)
    (http : Responder Request.Reply σ) (s : σ) :
    c.respond http e s = (reply e (http r s).1, (http r s).2) := by
  unfold respond
  rw [h]

theorem answer_of_ok {c : Client} {e : Endpoint} {r : Request} (h : c.request e = .ok r) :
    (c.answer e : Plan N Request.Reply e.Reply) = .ask r fun result => .done (reply e result) := by
  unfold answer
  rw [h]

theorem answer_of_error {c : Client} {e : Endpoint} {f : Fault} (h : c.request e = .error f) :
    (c.answer e : Plan N Request.Reply e.Reply) = .done (.error f) := by
  unfold answer
  rw [h]

theorem run_ask_of_ok {c : Client} {e : Endpoint} {r : Request} (h : c.request e = .ok r)
    (next : e.Reply → Plan N Endpoint.Reply α) :
    (Plan.ask e next).run c.handler =
      .ask r fun result => (next (reply e result)).run c.handler := by
  show (c.answer e >>= fun r => (next r).run c.handler) = _
  rw [answer_of_ok h]
  rfl

theorem run_ask_of_error {c : Client} {e : Endpoint} {f : Fault} (h : c.request e = .error f)
    (next : e.Reply → Plan N Endpoint.Reply α) :
    (Plan.ask e next).run c.handler = (next (.error f)).run c.handler := by
  show (c.answer e >>= fun r => (next r).run c.handler) = _
  rw [answer_of_error h]
  rfl

/-- A plan that a client carries out ends as the plan may end. -/
theorem yields_of_run {c : Client} {p : Plan N Endpoint.Reply α} {a : α}
    (h : (p.run c.handler).Yields Plan.AnyReply a) : p.Yields Plan.AnyReply a := by
  induction p with
  | done b => exact h
  | stop why => exact h
  | note n rest ih => exact ih h
  | ask e next ih =>
    cases hr : c.request e with
    | error f =>
      rw [run_ask_of_error hr] at h
      exact ⟨_, trivial, ih _ h⟩
    | ok r =>
      rw [run_ask_of_ok hr] at h
      obtain ⟨result, -, h⟩ := h
      exact ⟨_, trivial, ih _ h⟩

/-- **The requests that may be made for a plan** are those for the endpoints that it may ask. -/
theorem asks_run {c : Client} {P : Endpoint → Prop} {P' : Request → Prop}
    (hP : ∀ e r, P e → c.request e = .ok r → P' r) {p : Plan N Endpoint.Reply α} (h : p.Asks P) :
    (p.run c.handler).Asks P' := by
  induction p with
  | done b => trivial
  | stop why => trivial
  | note n rest ih => exact ih h
  | ask e next ih =>
    cases hr : c.request e with
    | error f =>
      rw [run_ask_of_error hr]
      exact ih _ (h.2 _)
    | ok r =>
      rw [run_ask_of_ok hr]
      exact ⟨hP e r h.1 hr, fun result => ih _ (h.2 _)⟩

/-- **The requests that are made for a plan** are those for the endpoints that it asks. -/
theorem exchanges_run (c : Client) (http : Responder Request.Reply σ)
    (p : Plan N Endpoint.Reply α) (s : σ) :
    ∀ x ∈ ((p.run c.handler).course http s).exchanges,
      ∃ y ∈ (p.course (c.respond http) s).exchanges, c.request y.question = .ok x.question := by
  induction p generalizing s with
  | done b => simp [Plan.run]
  | stop why => simp [Plan.run, Plan.course, handler]
  | note n rest ih => exact ih s
  | ask e next ih =>
    intro x hx
    rw [Plan.course_ask]
    cases hr : c.request e with
    | error f =>
      rw [run_ask_of_error hr] at hx
      obtain ⟨y, hy, hxy⟩ := ih _ s x hx
      have hrespond : c.respond http e s = (.error f, s) := by
        unfold respond
        rw [hr]
      rw [hrespond]
      exact ⟨y, List.mem_cons_of_mem _ hy, hxy⟩
    | ok r =>
      rw [run_ask_of_ok hr, Plan.course_ask] at hx
      rw [respond_of_ok hr]
      rcases List.mem_cons.1 hx with rfl | hx
      · exact ⟨_, List.mem_cons_self, hr⟩
      · obtain ⟨y, hy, hxy⟩ := ih _ _ x hx
        exact ⟨y, List.mem_cons_of_mem _ hy, hxy⟩

/-- **A plan that a client carries out** ends as it does against what the client makes of the
server, and leaves the same state. -/
theorem course_run_handler (c : Client) (http : Responder Request.Reply σ)
    (p : Plan N Endpoint.Reply α) (s : σ) :
    ((p.run c.handler).course http s).result = (p.course (c.respond http) s).result ∧
      ((p.run c.handler).course http s).state = (p.course (c.respond http) s).state := by
  induction p generalizing s with
  | done a => exact ⟨rfl, rfl⟩
  | stop why => exact ⟨rfl, rfl⟩
  | note n rest ih => exact ih s
  | ask e next ih =>
    show ((c.answer e >>= fun r => (next r).run c.handler).course http s).result = _ ∧
      ((c.answer e >>= fun r => (next r).run c.handler).course http s).state = _
    rw [Plan.course_ask]
    unfold answer respond
    -- an endpoint that there is no request for is answered without one
    cases c.request e with
    | error f => exact ih (.error f) s
    | ok r => exact ih (reply e (http r s).1) (http r s).2

/-- **The requests that are made for a plan** are those that a log of the server tells. -/
theorem course_run_handler_logged (c : Client) (http : Responder Request.Reply σ)
    (p : Plan N Endpoint.Reply α) (s : σ) :
    let k := p.course (c.respond http.logged) ([], s)
    (p.run c.handler).course http s = ⟨k.result, k.state.1, k.state.2⟩ := by
  have hlogged := course_run_handler c http.logged p ([], s)
  rw [Plan.course_logged] at hlogged
  dsimp only at hlogged ⊢
  rw [← hlogged.1, ← hlogged.2]
  rfl

end Api.Client

end AccessSync
