import AccessSync.Http.Exchange
import AccessSync.Proofs.Course

/-!
# What a session comes to

A session works with a connection that changes, and hands the kept token on from one step to the
next, after a fault as well.

* `Comes`: what a session ends with, and the token and the connection that it leaves.
* `Comes.bind`, `Comes.bind_of_error`: one session after the other.
* `course_bind_of_result`, `course_bind_of_fault`, `course_bind_of_stop`: the same, with the
  exchanges.
* `Shows`: what a session has done by then, as far as requests go.
-/

namespace AccessSync.Http

variable {σ α β : Type}

/-- From the kept token and the state of the connection, the session ends with the result, and
leaves a token and a state. -/
structure Comes (up : Responder Wire.Reply σ) (x : Session α) (kept : Option Token) (s : σ)
    (r : Except Fault α) (kept' : Option Token) (s' : σ) : Prop where
  result : ((x.run kept).course up s).result = .ok (r, kept')
  state : ((x.run kept).course up s).state = s'

section
variable {up : Responder Wire.Reply σ} {kept kept' kept'' : Option Token} {s s' s'' : σ}

/-- What follows a result begins with the token and the state that are left. -/
theorem Comes.bind {x : Session α} {a : α} (hx : Comes up x kept s (.ok a) kept' s')
    {f : α → Session β} {r : Except Fault β} (hf : Comes up (f a) kept' s' r kept'' s'') :
    Comes up (x >>= f) kept s r kept'' s'' := by
  obtain ⟨hresult, rfl⟩ := hx
  constructor
  all_goals
    rw [Plan.run_stateT_bind, Plan.course_bind]
    unfold Course.andThen
    rw [hresult]
  · exact hf.result
  · exact hf.state

/-- Nothing follows a fault, and the token that was kept by then stays. -/
theorem Comes.bind_of_error {x : Session α} {e : Fault}
    (hx : Comes up x kept s (.error e) kept' s') (f : α → Session β) :
    Comes up (x >>= f) kept s (.error e) kept' s' := by
  obtain ⟨hresult, rfl⟩ := hx
  constructor
  all_goals
    rw [Plan.run_stateT_bind, Plan.course_bind]
    unfold Course.andThen
    rw [hresult]
    rfl

theorem comes_pure (up : Responder Wire.Reply σ) (a : α) (kept : Option Token) (s : σ) :
    Comes up (pure a : Session α) kept s (.ok a) kept s := ⟨rfl, rfl⟩

theorem comes_throw (up : Responder Wire.Reply σ) (e : Fault) (kept : Option Token) (s : σ) :
    Comes up (throw e : Session α) kept s (.error e) kept s := ⟨rfl, rfl⟩

theorem comes_ofExcept (up : Responder Wire.Reply σ) (r : Except Fault α) (kept : Option Token)
    (s : σ) : Comes up (ExceptT.mk (pure r) : Session α) kept s r kept s := ⟨rfl, rfl⟩

theorem comes_ask (up : Responder Wire.Reply σ) (q : Wire) (kept : Option Token) (s : σ) :
    Comes up (Session.ask q) kept s (.ok (up q s).1) kept (up q s).2 := ⟨rfl, rfl⟩

theorem comes_report (up : Responder Wire.Reply σ) (e : Event) (kept : Option Token) (s : σ) :
    Comes up (Session.report e) kept s (.ok ()) kept s := ⟨rfl, rfl⟩

theorem comes_get (up : Responder Wire.Reply σ) (kept : Option Token) (s : σ) :
    Comes up (get : Session (Option Token)) kept s (.ok kept) kept s := ⟨rfl, rfl⟩

theorem comes_set (up : Responder Wire.Reply σ) (token kept : Option Token) (s : σ) :
    Comes up (set token : Session Unit) kept s (.ok ()) token s := ⟨rfl, rfl⟩

end

/-! ## Courses of sessions -/

section
variable {up : Responder Wire.Reply σ} {kept kept' : Option Token} {s s' : σ}
  {log : List (Exchange Wire.Reply)} {x : Session α}

/-- What follows a result takes its course from the token and the state that are left. -/
theorem course_bind_of_result {a : α}
    (h : (x.run kept).course up s = ⟨.ok (.ok a, kept'), log, s'⟩) (f : α → Session β) :
    ((x >>= f).run kept).course up s = (((f a).run kept').course up s').after log := by
  rw [Plan.run_stateT_bind, Plan.course_bind, h]
  rfl

/-- Nothing follows a fault. -/
theorem course_bind_of_fault {e : Fault}
    (h : (x.run kept).course up s = ⟨.ok (.error e, kept'), log, s'⟩) (f : α → Session β) :
    ((x >>= f).run kept).course up s = ⟨.ok (.error e, kept'), log, s'⟩ := by
  rw [Plan.run_stateT_bind, Plan.course_bind, h]
  simp [Course.andThen, Course.after]

/-- Nothing follows a stop. -/
theorem course_bind_of_stop {why : Stop}
    (h : (x.run kept).course up s = ⟨.error why, log, s'⟩) (f : α → Session β) :
    ((x >>= f).run kept).course up s = ⟨.error why, log, s'⟩ := by
  rw [Plan.run_stateT_bind, Plan.course_bind, h]
  rfl

end

/-! ## Deeds -/

/-- What is done for requests: a message is sent, whoever it says that it is from, or time goes
by. -/
inductive Deed
  | sent (m : Message)
  | waited (millis : Nat)
deriving Repr

/-- What a question to a connection does for requests. Only tokens are asked for by posting. -/
def Wire.deed? : Wire → Option Deed
  | .send m => if m.method = .post then none else some (.sent { m with authorization := "" })
  | .pause millis => some (.waited millis)
  | .isCancelled | .now => none

/-- What is done for requests on the course. -/
def deedsOn (c : Course Wire.Reply σ α) : List Deed := c.exchanges.filterMap (·.question.deed?)

/-- The session comes to its end by these deeds. -/
structure Shows (up : Responder Wire.Reply σ) (x : Session α) (kept : Option Token) (s : σ)
    (log : List Deed) (r : Except Fault α) (kept' : Option Token) (s' : σ) : Prop
    extends Comes up x kept s r kept' s' where
  deeds : deedsOn ((x.run kept).course up s) = log

theorem deed?_send {r : Api.Request} (h : r.method ≠ .post) (header : String) :
    (Wire.send (message r header)).deed? = some (.sent (message r "")) := if_neg h

section
variable {up : Responder Wire.Reply σ} {kept kept' kept'' : Option Token} {s s' s'' : σ}
  {log log' : List Deed}

/-- What follows a result adds its deeds. -/
theorem Shows.bind {x : Session α} {a : α} (hx : Shows up x kept s log (.ok a) kept' s')
    {f : α → Session β} {r : Except Fault β} (hf : Shows up (f a) kept' s' log' r kept'' s'') :
    Shows up (x >>= f) kept s (log ++ log') r kept'' s'' where
  toComes := hx.toComes.bind hf.toComes
  deeds := by
    obtain ⟨⟨hresult, rfl⟩, rfl⟩ := hx
    rw [← hf.deeds, Plan.run_stateT_bind, Plan.course_bind]
    unfold Course.andThen
    rw [hresult]
    exact List.filterMap_append

/-- A session that asks for nothing of the kind does nothing for requests. -/
theorem Comes.shows {x : Session α} {r : Except Fault α} (h : Comes up x kept s r kept' s')
    (hasks : (x.run kept).Asks fun q => q.deed? = none) : Shows up x kept s [] r kept' s' where
  toComes := h
  deeds := by
    rw [deedsOn, List.filterMap_eq_nil_iff]
    exact hasks.exchanges up s

theorem shows_pure (up : Responder Wire.Reply σ) (a : α) (kept : Option Token) (s : σ) :
    Shows up (pure a : Session α) kept s [] (.ok a) kept s := ⟨comes_pure up a kept s, rfl⟩

theorem shows_ask (up : Responder Wire.Reply σ) (q : Wire) (kept : Option Token) (s : σ) :
    Shows up (Session.ask q) kept s q.deed?.toList (.ok (up q s).1) kept (up q s).2 where
  toComes := comes_ask up q kept s
  deeds := by
    show [(⟨q, (up q s).1⟩ : Exchange Wire.Reply)].filterMap (·.question.deed?) = q.deed?.toList
    cases hdeed : q.deed? <;> simp [hdeed]

end

/-! ### Who makes requests -/

theorem asks_ask {q : Wire} (h : q.deed? = none) (kept : Option Token) :
    ((Session.ask q).run kept).Asks fun q => q.deed? = none := ⟨h, fun _ => trivial⟩

/-- A kept token is looked at by asking for the time. -/
theorem asks_keptToken (kept : Option Token) :
    (keptToken?.run kept).Asks fun q => q.deed? = none := by
  unfold keptToken?
  refine Plan.asks_stateT_bind ?_ fun found state => ?_
  · trivial
  · cases found with
    | none => trivial
    | some token =>
      refine Plan.asks_stateT_bind ?_ fun _ _ => ?_
      · exact asks_ask rfl state
      · trivial

theorem asks_readToken (r : Response) (kept : Option Token) :
    ((readToken r).run kept).Asks fun q => q.deed? = none := by
  unfold readToken
  cases isSuccess r.status with
  | false => trivial
  | true =>
    cases tokenShape.ofBytes r.body with
    | error e => trivial
    | ok found =>
      refine Plan.asks_stateT_bind (x := Session.ask .now) (asks_ask rfl kept) fun now state => ?_
      cases later? now found.2 <;> trivial

/-- A new token is asked for by posting. -/
theorem asks_requestToken (loginUrl key secret : String) (kept : Option Token) :
    ((requestToken loginUrl key secret).run kept).Asks fun q => q.deed? = none := by
  unfold requestToken
  cases Url.read loginUrl with
  | error e => trivial
  | ok url =>
    dsimp only
    split
    · trivial
    · refine Plan.asks_stateT_bind ?_ fun outcome state => ?_
      · exact asks_ask rfl kept
      · cases outcome with
        | lost => trivial
        | cancelled => trivial
        | response r => exact asks_readToken r state

/-- Whoever shows who it is does nothing for requests by that. -/
theorem asks_authorize (a : Agent) (kept : Option Token) :
    (a.authorize.run kept).Asks fun q => q.deed? = none := by
  unfold Agent.authorize
  cases a.authentication with
  | bearer token => trivial
  | basic username password => trivial
  | oauth2 loginUrl key secret =>
    refine Plan.asks_stateT_bind ?_ fun _ _ => ?_
    · unfold getToken
      refine Plan.asks_stateT_bind ?_ fun found state => ?_
      · exact asks_keptToken kept
      · cases found with
        | some token => trivial
        | none =>
          refine Plan.asks_stateT_bind ?_ fun _ _ => ?_
          · exact asks_requestToken loginUrl key secret state
          · exact ⟨⟩
    · trivial

end AccessSync.Http
