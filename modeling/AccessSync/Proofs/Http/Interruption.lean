import AccessSync.Proofs.Http.Session

/-!
# Interrupted requests

On its way to the server a message may be held up: what lies in between answers in place of the
server and says to come again, and the server may have carried the message out by then. A request is
sent again as often as the agent tries, so that with no more interruptions than that it is answered
by the server in the end. What the server does is then what it does when it gets the message several
times in a row.

* `Net`, `World`: what a connection reaches, and what comes in between.
* `comes_authorize`: whoever can log in can show who it is at any time.
* `ends_perform`: a request carried out.
* `course_carried`: a plan that makes requests, carried out.
-/

namespace AccessSync.Http

open Api (Request)

variable {σ : Type}

/-! ## Interruptions -/

/-- The status says that what keeps the server from an answer will pass: it has been asked too
often, or something on the way to it is out of order. -/
def IsPassing (status : Nat) : Prop := status ∈ [429, 502, 503, 504]

instance (status : Nat) : Decidable (IsPassing status) :=
  inferInstanceAs (Decidable (status ∈ [429, 502, 503, 504]))

theorem isPassing_iff {status : Nat} : IsPassing status ↔ isRateLimit status ∨ isOutage status := by
  simp [IsPassing, isRateLimit, isOutage, or_assoc]

/-- An answer that does not come from the server, and whether the server got the message. -/
structure Interruption where
  response : Response
  /-- It says that the message is to be sent again. -/
  passing : IsPassing response.status
  applied : Bool

/-- What a connection reaches: the server of the interface, which lets in whoever comes, the one
that hands out tokens, and the time. The time is not the same whenever it is asked for, nor are
tokens; the number tells how often it was asked for. -/
structure Net (σ : Type) where
  server : Message → σ → Response × σ
  login : Nat → Message → Response
  clock : Nat → Instant

/-- The state of the server, and what comes in between for each request that is to be carried
out. -/
structure World (σ : Type) where
  state : σ
  due : List (List Interruption)

namespace Net

variable (net : Net σ)

/-- What an interrupted message leaves. -/
def afterInterruption (m : Message) (s : σ) (i : Interruption) : σ :=
  if i.applied then (net.server m s).2 else s

/-- A message sent: an interruption that is due comes first, and the server answers after the last
one. -/
def deliver (m : Message) (w : World σ) : Response × World σ :=
  match w.due with
  | (i :: rest) :: later => (i.response, ⟨net.afterInterruption m w.state i, rest :: later⟩)
  | due => ((net.server m w.state).1, ⟨(net.server m w.state).2, due.tail⟩)

/-- What becomes of a message that is sent until the server answers. -/
def settle (m : Message) (w : World σ) : Response × World σ :=
  let s := (w.due.headD []).foldl (net.afterInterruption m) w.state
  ((net.server m s).1, ⟨(net.server m s).2, w.due.tail⟩)

/-- The connection. It is never given up. Only tokens are asked for by posting, and nothing comes in
between then. -/
def wire : Responder Wire.Reply (World σ × Nat)
  | .send m, (w, n) =>
    if m.method = .post then (.response (net.login n m), w, n)
    else
      let sent := net.deliver { m with authorization := "" } w
      (.response sent.1, sent.2, n)
  | .pause _, s => (true, s)
  | .isCancelled, s => (false, s)
  | .now, (w, n) => (net.clock n, w, n + 1)

/-- The server, as what answers requests. -/
def replies : Responder Request.Reply σ := fun r s =>
  let sent := net.server (message r "") s
  (readResponse sent.1, sent.2)

end Net

section
variable (net : Net σ) {m : Message} {w : World σ}

@[simp] theorem wire_isCancelled (s : World σ × Nat) : net.wire .isCancelled s = (false, s) := rfl

@[simp] theorem wire_pause (millis : Nat) (s : World σ × Nat) :
    net.wire (.pause millis) s = (true, s) := rfl

/-- Who sends a message for a request makes no difference. -/
theorem wire_send {r : Request} (h : r.method ≠ .post) (header : String) (n : Nat) :
    net.wire (.send (message r header)) (w, n) =
      (.response (net.deliver (message r "") w).1, (net.deliver (message r "") w).2, n) :=
  if_neg h

theorem deliver_of_clear (h : w.due.headD [] = []) : net.deliver m w = net.settle m w := by
  obtain ⟨s, due⟩ := w
  cases due with
  | nil => rfl
  | cons first later =>
    obtain rfl : first = [] := h
    rfl

theorem deliver_of_due {i : Interruption} {rest : List Interruption}
    (h : w.due.headD [] = i :: rest) :
    net.deliver m w =
      (i.response, ⟨net.afterInterruption m w.state i, rest :: w.due.tail⟩) := by
  obtain ⟨s, due⟩ := w
  cases due with
  | nil => cases h
  | cons first later =>
    obtain rfl : first = i :: rest := h
    rfl

/-- An interruption is one of those that the server answers after. -/
theorem settle_of_due {i : Interruption} {rest : List Interruption}
    (h : w.due.headD [] = i :: rest) :
    net.settle m ⟨net.afterInterruption m w.state i, rest :: w.due.tail⟩ = net.settle m w := by
  unfold Net.settle
  rw [h]
  rfl

end

/-! ## Responses that are not asked for again -/

/-- The reply is not one that a request is tried again for. -/
def Conclusive : Except Fault Json → Prop
  | .error (.status code _) => isRateLimit code = false ∧ isOutage code = false ∧ code ≠ 401
  | _ => True

/-- What can be asked of the server without being asked for again. -/
structure Settled (net : Net σ) (r : Request) : Prop where
  method : r.method ≠ .post
  reply : ∀ s, Conclusive (net.replies r s).1

/-- A response that no request is tried again for. -/
structure Calm (r : Response) : Prop where
  noCause : Cause.of? r = none
  admitted : r.status ≠ 401

theorem calm_of_status {r : Response} (hrate : isRateLimit r.status = false)
    (houtage : isOutage r.status = false) (h : r.status ≠ 401) : Calm r where
  noCause := by
    unfold Cause.of?
    rw [hrate, houtage]
    rfl
  admitted := h

theorem isSuccess_iff {status : Nat} : isSuccess status ↔ 200 ≤ status ∧ status < 300 := by
  simp [isSuccess]

theorem calm_of_success {r : Response} (h : isSuccess r.status) : Calm r := by
  have hrange := isSuccess_iff.1 h
  refine calm_of_status ?_ ?_ (by omega)
  · simp only [isRateLimit, beq_eq_false_iff_ne]
    omega
  · simp only [isOutage, Bool.or_eq_false_iff, beq_eq_false_iff_ne]
    omega

theorem calm_of_conclusive {r : Response} (h : Conclusive (readResponse r)) : Calm r := by
  by_cases hsuccess : isSuccess r.status
  · exact calm_of_success hsuccess
  · have hread : readResponse r =
        .error (.status r.status (errorText (Text.decodeLossy r.body))) := by
      unfold readResponse
      simp only [hsuccess]
      rfl
    rw [hread] at h
    exact calm_of_status h.1 h.2.1 h.2.2

theorem Interruption.exists_cause (i : Interruption) : ∃ c, Cause.of? i.response = some c := by
  unfold Cause.of?
  by_cases hrate : isRateLimit i.response.status
  · exact ⟨_, if_pos hrate⟩
  · have houtage := (isPassing_iff.1 i.passing).resolve_left hrate
    exact ⟨_, by rw [if_neg hrate, if_pos houtage]⟩

/-! ## Who makes requests -/

/-- The response hands out a token that fits into a header and expires within the calendar. -/
def HandsOut (r : Response) (now : Instant) : Prop :=
  isSuccess r.status ∧ ∃ text lifetime, tokenShape.ofBytes r.body = .ok (text, lifetime) ∧
    isHeaderText (bearerHeader text) ∧ (later? now lifetime).isSome

/-- The address hands out a token at any time. -/
def Net.LogsIn (net : Net σ) (loginUrl key secret : String) : Prop :=
  ∃ url, Url.read loginUrl = .ok url ∧ isReachable url ∧
    ∀ n, HandsOut (net.login n (tokenMessage url key secret)) (net.clock n)

namespace Agent

/-- Where tokens are needed there always is one, and the one that is kept fits into a header. -/
def CanLogIn (a : Agent) (net : Net σ) (kept : Option Token) : Prop :=
  match a.authentication with
  | .bearer _ | .basic .. => True
  | .oauth2 loginUrl key secret =>
    net.LogsIn loginUrl key secret ∧ ∀ token ∈ kept, isHeaderText (bearerHeader token.text)

/-- What proves who makes a request fits into a header. -/
def fits (a : Agent) : Bool :=
  match a.authentication with
  | .bearer token => isHeaderText (bearerHeader token)
  | .basic username password => isHeaderText (basicHeader username password)
  | .oauth2 .. => true

/-- No request is held up more often than the agent tries again. -/
def Outlasts (a : Agent) (w : World σ) : Prop :=
  ∀ interruptions ∈ w.due, interruptions.length ≤ a.retry.maxRetries.toNat

/-- The request can be sent at all. -/
def canSend (a : Agent) (r : Request) : Bool := a.fits && isReachable r.address

/-- What answers requests through the agent. -/
def through (a : Agent) (net : Net σ) : Responder Request.Reply (World σ) := fun r w =>
  if a.canSend r then
    let sent := net.settle (message r "") w
    (readResponse sent.1, sent.2)
  else (.error (.exchange "builder error"), w)

end Agent

section
variable {net : Net σ} {a : Agent} {kept : Option Token}

theorem comes_readToken {r : Response} {n : Nat} (h : HandsOut r (net.clock n))
    (kept : Option Token) (w : World σ) :
    ∃ token, isHeaderText (bearerHeader token.text) ∧
      Comes net.wire (readToken r) kept (w, n) (.ok token) kept (w, n + 1) := by
  obtain ⟨hsuccess, text, lifetime, hshape, hheader, hlater⟩ := h
  obtain ⟨expiry, hexpiry⟩ := Option.isSome_iff_exists.1 hlater
  refine ⟨⟨text, expiry⟩, hheader, ?_⟩
  unfold readToken
  simp only [hsuccess, hshape]
  refine (comes_ask net.wire .now kept (w, n)).bind ?_
  have hnow : later? (net.wire .now (w, n)).1 lifetime = some expiry := hexpiry
  rw [hnow]
  exact comes_pure _ _ _ _

theorem comes_requestToken {loginUrl key secret : String} (h : net.LogsIn loginUrl key secret)
    (kept : Option Token) (w : World σ) (n : Nat) :
    ∃ token, isHeaderText (bearerHeader token.text) ∧
      Comes net.wire (requestToken loginUrl key secret) kept (w, n) (.ok token) kept
        (w, n + 1) := by
  obtain ⟨url, hread, hreachable, hlogin⟩ := h
  obtain ⟨token, hheader, htoken⟩ := comes_readToken (hlogin n) kept w
  refine ⟨token, hheader, ?_⟩
  unfold requestToken
  simp only [hread, hreachable]
  exact (comes_ask net.wire (.send (tokenMessage url key secret)) kept (w, n)).bind htoken

/-- A kept token is looked at by asking for the time. -/
theorem comes_keptToken (net : Net σ) (kept : Option Token) (w : World σ) (n : Nat) :
    ∃ found n', (∀ token ∈ found, token ∈ kept) ∧
      Comes net.wire keptToken? kept (w, n) (.ok found) kept (w, n') := by
  unfold keptToken?
  cases kept with
  | none => exact ⟨none, n, by simp, (comes_get _ _ _).bind (comes_pure _ _ _ _)⟩
  | some token =>
    refine ⟨if token.isFresh (net.clock n) then some token else none, n + 1, ?_, ?_⟩
    · split <;> simp
    · exact (comes_get _ _ _).bind ((comes_ask _ .now _ _).bind (comes_pure _ _ _ _))

theorem comes_getToken {loginUrl key secret : String} (h : net.LogsIn loginUrl key secret)
    (hkept : ∀ token ∈ kept, isHeaderText (bearerHeader token.text)) (w : World σ) (n : Nat) :
    ∃ text kept' n', isHeaderText (bearerHeader text) ∧
      (∀ token ∈ kept', isHeaderText (bearerHeader token.text)) ∧
      Comes net.wire (getToken loginUrl key secret) kept (w, n) (.ok text) kept' (w, n') := by
  obtain ⟨found, n', hfound, hlook⟩ := comes_keptToken net kept w n
  unfold getToken
  cases found with
  | some token =>
    have hheader := hkept token (hfound token rfl)
    exact ⟨token.text, kept, n', hheader, hkept, hlook.bind (comes_pure _ _ _ _)⟩
  | none =>
    obtain ⟨token, hheader, htoken⟩ := comes_requestToken h kept w n'
    refine ⟨token.text, some token, n' + 1, hheader, by simpa using hheader, hlook.bind ?_⟩
    exact htoken.bind ((comes_set _ _ _ _).bind (comes_pure _ _ _ _))

/-- **Whoever can log in** can show who it is at any time. -/
theorem comes_authorize (h : a.CanLogIn net kept) (w : World σ) (n : Nat) :
    ∃ header kept' n', isHeaderText header = a.fits ∧ a.CanLogIn net kept' ∧
      Comes net.wire a.authorize kept (w, n) (.ok header) kept' (w, n') := by
  unfold Agent.authorize Agent.fits
  cases ha : a.authentication with
  | bearer token => exact ⟨_, kept, n, rfl, h, comes_pure _ _ _ _⟩
  | basic username password => exact ⟨_, kept, n, rfl, h, comes_pure _ _ _ _⟩
  | oauth2 loginUrl key secret =>
    unfold Agent.CanLogIn at h ⊢
    rw [ha] at h
    obtain ⟨text, kept', n', hheader, hkept', htoken⟩ := comes_getToken h.1 h.2 w n
    refine ⟨bearerHeader text, kept', n', hheader, ?_, htoken.bind (comes_pure _ _ _ _)⟩
    simp only [ha]
    exact ⟨h.1, hkept'⟩

end

/-! ## Requests -/

/-- Whatever the time is and whatever token is kept, the session ends with the result and leaves the
world. -/
def Ends (net : Net σ) (a : Agent) {α : Type} (x : Session α) (w : World σ) (r : Except Fault α)
    (w' : World σ) : Prop :=
  ∀ kept n, a.CanLogIn net kept →
    ∃ kept' n', a.CanLogIn net kept' ∧ Comes net.wire x kept (w, n) r kept' (w', n')

/-- The same, and these deeds lead there. -/
def Acts (net : Net σ) (a : Agent) {α : Type} (x : Session α) (w : World σ) (log : List Deed)
    (r : Except Fault α) (w' : World σ) : Prop :=
  ∀ kept n, a.CanLogIn net kept →
    ∃ kept' n', a.CanLogIn net kept' ∧ Shows net.wire x kept (w, n) log r kept' (w', n')

section
variable {net : Net σ} {a : Agent} {α β : Type} {w w' w'' : World σ} {log log' : List Deed}

theorem Ends.bind {x : Session α} {b : α} (hx : Ends net a x w (.ok b) w') {f : α → Session β}
    {r : Except Fault β} (hf : Ends net a (f b) w' r w'') : Ends net a (x >>= f) w r w'' := by
  intro kept n hkept
  obtain ⟨kept', n', hkept', hcomes⟩ := hx kept n hkept
  obtain ⟨kept'', n'', hkept'', hcomes'⟩ := hf kept' n' hkept'
  exact ⟨kept'', n'', hkept'', hcomes.bind hcomes'⟩

theorem Ends.bind_of_error {x : Session α} {e : Fault} (hx : Ends net a x w (.error e) w')
    (f : α → Session β) : Ends net a (x >>= f) w (.error e) w' := by
  intro kept n hkept
  obtain ⟨kept', n', hkept', hcomes⟩ := hx kept n hkept
  exact ⟨kept', n', hkept', hcomes.bind_of_error f⟩

theorem Acts.ends {x : Session α} {r : Except Fault α} (h : Acts net a x w log r w') :
    Ends net a x w r w' := by
  intro kept n hkept
  obtain ⟨kept', n', hkept', hshows⟩ := h kept n hkept
  exact ⟨kept', n', hkept', hshows.toComes⟩

theorem Acts.bind {x : Session α} {b : α} (hx : Acts net a x w log (.ok b) w') {f : α → Session β}
    {r : Except Fault β} (hf : Acts net a (f b) w' log' r w'') :
    Acts net a (x >>= f) w (log ++ log') r w'' := by
  intro kept n hkept
  obtain ⟨kept', n', hkept', hshows⟩ := hx kept n hkept
  obtain ⟨kept'', n'', hkept'', hshows'⟩ := hf kept' n' hkept'
  exact ⟨kept'', n'', hkept'', hshows.bind hshows'⟩

variable {r : Request}

/-- A request that can be sent is sent once and delivered. -/
theorem acts_exchange (hsend : a.canSend r) (hpost : r.method ≠ .post) (w : World σ) :
    Acts net a (a.exchange r) w [.sent (message r "")] (.ok (net.deliver (message r "") w).1)
      (net.deliver (message r "") w).2 := by
  obtain ⟨hfits, hreachable⟩ := Bool.and_eq_true_iff.1 hsend
  intro kept n hkept
  obtain ⟨header, kept', n', hheader, hkept', hcomes⟩ := comes_authorize hkept w n
  have hcancel := shows_ask net.wire .isCancelled kept (w, n)
  have hauthorize := hcomes.shows (asks_authorize a kept)
  have hask := shows_ask net.wire (.send (message r header)) kept' (w, n')
  rw [wire_send net hpost, deed?_send hpost] at hask
  -- nobody gives up, so the header is made, and it fits
  refine ⟨kept', n', hkept', hcancel.bind (Shows.bind (by simpa using hauthorize) ?_)⟩
  simp only [hheader, hfits, hreachable]
  exact hask.bind (shows_pure _ _ _ _)

/-- A request that can be sent is delivered. -/
theorem ends_exchange (hsend : a.canSend r) (hpost : r.method ≠ .post) (w : World σ) :
    Ends net a (a.exchange r) w (.ok (net.deliver (message r "") w).1)
      (net.deliver (message r "") w).2 := (acts_exchange hsend hpost w).ends

/-- A request that cannot be sent gets nowhere. -/
theorem ends_exchange_of_unfit (hsend : a.canSend r = false) (w : World σ) :
    Ends net a (a.exchange r) w (.error (.exchange "builder error")) w := by
  intro kept n hkept
  obtain ⟨header, kept', n', hheader, hkept', hcomes⟩ := comes_authorize hkept w n
  refine ⟨kept', n', hkept', (comes_ask net.wire .isCancelled kept (w, n)).bind ?_⟩
  refine Comes.bind (by simpa using hcomes) ?_
  have hunfit : (!isHeaderText header || !isReachable r.address) = true := by
    rw [hheader, ← Bool.not_and]
    exact congrArg not hsend
  simp only [hunfit]
  exact (comes_throw _ _ _ _).bind_of_error _

theorem acts_report (e : Event) (w : World σ) : Acts net a (Session.report e) w [] (.ok ()) w :=
  fun kept n hkept => ⟨kept, n, hkept, comes_report _ _ _ _, rfl⟩

theorem acts_pause (millis : Nat) (w : World σ) :
    Acts net a (Agent.pause millis) w [.waited millis] (.ok ()) w :=
  fun kept n hkept => ⟨kept, n, hkept,
    (shows_ask net.wire (.pause millis) kept (w, n)).bind (shows_pure _ _ _ _)⟩

theorem acts_ofExcept (r : Except Fault α) (w : World σ) :
    Acts net a (ExceptT.mk (pure r) : Session α) w [] r w :=
  fun kept n hkept => ⟨kept, n, hkept, comes_ofExcept _ _ _ _, rfl⟩

/-! ### Attempts -/

variable {number : UInt32} {again renewed : Option (Unit → Session Json)}

/-- Without an interruption the server answers, and an answer that is calm ends the attempt. -/
theorem ends_attempt_of_clear (hsend : a.canSend r) (hpost : r.method ≠ .post)
    (hclear : w.due.headD [] = []) (hcalm : ∀ s, Calm (net.server (message r "") s).1) :
    Ends net a (a.attempt r number again renewed) w
      (readResponse (net.settle (message r "") w).1) (net.settle (message r "") w).2 := by
  have hexchange : Ends net a (a.exchange r) w _ _ := ends_exchange hsend hpost w
  rw [deliver_of_clear net hclear] at hexchange
  have hresponse : Calm (net.settle (message r "") w).1 := hcalm _
  unfold Agent.attempt
  refine hexchange.bind ?_
  rw [hresponse.noCause, beq_false_of_ne hresponse.admitted]
  exact (acts_ofExcept _ _).ends

/-- An interruption makes for another attempt while there are any left. -/
theorem ends_attempt_of_due (hsend : a.canSend r) (hpost : r.method ≠ .post) {i : Interruption}
    {rest : List Interruption} (hdue : w.due.headD [] = i :: rest) {next : Unit → Session Json}
    {result : Except Fault Json}
    (hnext : Ends net a (next ())
      ⟨net.afterInterruption (message r "") w.state i, rest :: w.due.tail⟩ result w') :
    Ends net a (a.attempt r number (some next) renewed) w result w' := by
  obtain ⟨c, hc⟩ := i.exists_cause
  have hexchange : Ends net a (a.exchange r) w _ _ := ends_exchange hsend hpost w
  rw [deliver_of_due net hdue] at hexchange
  unfold Agent.attempt
  refine hexchange.bind ?_
  -- there is a cause for another try and one is left, so it is told, waited for and made
  simp only [hc]
  exact (acts_report _ _).ends.bind ((acts_pause _ _).ends.bind hnext)

/-- **Attempts go on until the server answers**, if there are no more interruptions than retries. -/
theorem ends_attempts (hsend : a.canSend r) (hpost : r.method ≠ .post)
    (hcalm : ∀ s, Calm (net.server (message r "") s).1) (renewed : Option (Nat → Session Json))
    (left : Nat) (w : World σ) (hleft : (w.due.headD []).length ≤ left) :
    Ends net a (a.attempts r renewed left) w (readResponse (net.settle (message r "") w).1)
      (net.settle (message r "") w).2 := by
  -- an interruption takes one retry off and one interruption, and leaves what settles the rest
  induction left generalizing w with
  | zero =>
    have hclear : w.due.headD [] = [] := List.eq_nil_of_length_eq_zero (by omega)
    exact ends_attempt_of_clear hsend hpost hclear hcalm
  | succ left ih =>
    cases hdue : w.due.headD [] with
    | nil => exact ends_attempt_of_clear hsend hpost hdue hcalm
    | cons i rest =>
      rw [hdue, List.length_cons] at hleft
      rw [← settle_of_due net hdue]
      exact ends_attempt_of_due hsend hpost hdue (ih _ (by simpa using hleft))

theorem ends_attempts_of_unfit (hsend : a.canSend r = false)
    (renewed : Option (Nat → Session Json)) (left : Nat) (w : World σ) :
    Ends net a (a.attempts r renewed left) w (.error (.exchange "builder error")) w := by
  cases left with
  | zero => exact (ends_exchange_of_unfit hsend w).bind_of_error _
  | succ left => exact (ends_exchange_of_unfit hsend w).bind_of_error _

/-- **A request carried out** has the reply that the server gives in the end. -/
theorem ends_perform (hr : Settled net r) (hw : a.Outlasts w) :
    Ends net a (a.perform r) w (a.through net r w).1 (a.through net r w).2 := by
  unfold Agent.perform Agent.through
  cases hsend : a.canSend r with
  | false => exact ends_attempts_of_unfit hsend _ _ w
  | true =>
    have hleft : (w.due.headD []).length ≤ a.retry.maxRetries.toNat := by
      cases hdue : w.due with
      | nil => exact Nat.zero_le _
      | cons first later => exact hw first (by rw [hdue]; exact List.mem_cons_self)
    -- a new token is never asked for, whatever would be done with it
    exact ends_attempts hsend hr.method (fun s => calm_of_conclusive (hr.reply s)) _ _ w hleft

end

/-! ## Plans -/

section
variable {net : Net σ} {a : Agent} {w : World σ}

theorem outlasts_through (h : a.Outlasts w) (r : Request) : a.Outlasts (a.through net r w).2 := by
  unfold Agent.through
  split
  · exact fun interruptions hmem => h interruptions (List.mem_of_mem_tail hmem)
  · exact h

/-- **A plan carried out** over a connection with interruptions ends as it does against the server
that each of its requests reaches in the end. -/
theorem course_carried {N α : Type} (embed : Event → N) (p : Plan N Request.Reply α)
    (hp : ∀ x ∈ (p.course (a.through net) w).exchanges, Settled net x.question) (hw : a.Outlasts w)
    {kept : Option Token} (hkept : a.CanLogIn net kept) (n : Nat) :
    let c := (p.run (a.handler embed) kept).course net.wire (w, n)
    c.result.map Prod.fst = (p.course (a.through net) w).result ∧
      c.state.1 = (p.course (a.through net) w).state := by
  induction p generalizing w kept n with
  | done b => exact ⟨rfl, rfl⟩
  | stop why => exact ⟨rfl, rfl⟩
  | note _ rest ih => exact ih hp hw hkept n
  | ask r next ih =>
    -- the rest goes on from the world and the token that the request leaves
    have hr : Settled net r := hp _ List.mem_cons_self
    obtain ⟨kept', n', hkept', hresult, hstate⟩ := ends_perform hr hw kept n hkept
    have hrest := ih (a.through net r w).1 (fun x hx => hp x (List.mem_cons_of_mem _ hx))
      (outlasts_through hw r) hkept' n'
    have hrun : (Plan.ask r next).run (a.handler embed) kept =
        (((a.perform r).run kept).mapNotes fun e => [embed e]) >>= fun out =>
          (next out.1).run (a.handler embed) out.2 := rfl
    rw [hrun, Plan.course_bind, Plan.course_mapNotes]
    unfold Course.andThen
    rw [hresult, hstate]
    exact hrest

end

end AccessSync.Http
