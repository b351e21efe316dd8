import AccessSync.Proofs.Http.Session

/-!
# A token when it is wanted

A token is wanted on an occasion: at some time, with whatever comes of a message that asks for a new
one, and with the time that it is by then. What the kept token and the occasion lead to is told once,
by the cases of `Obtains`; everything else that is said of tokens follows from them.

A new token has to expire within the calendar, and a server can send a lifetime that leads out of
it. Then there is neither a token nor a fault: the work stops.

* `leads_getToken`: what comes of wanting a token.
* `getToken_ends`: what it ends with, and when the work stops.
-/

namespace AccessSync.Http

/-! ## Occasions -/

/-- What a connection does while a token is wanted. -/
structure Occasion where
  /-- The time when the kept token is looked at. -/
  now : Instant
  /-- What comes of a message, if one is sent; there is no response when the connection breaks
  down. -/
  reply : Option Response
  /-- The time after that. -/
  arrival : Instant

/-- The token in a response and its lifetime in seconds, if the response hands one out. -/
def Response.offer? (r : Response) : Option (String × Int) :=
  if isSuccess r.status then (tokenShape.ofBytes r.body).toOption else none

/-- The message of a question, if it sends one. -/
def Wire.message? : Wire → Option Message
  | .send m => some m
  | .pause _ | .isCancelled | .now => none

/-- The messages among the exchanges. -/
def messagesIn (log : List (Exchange Wire.Reply)) : List Message :=
  log.filterMap (·.question.message?)

/-- The message that asks for a token; there is none when the address cannot be reached. -/
def tokenMessages (loginUrl key secret : String) : List Message :=
  match Url.read loginUrl with
  | .ok url => if isReachable url then [tokenMessage url key secret] else []
  | .error _ => []

namespace Occasion

variable (o : Occasion)

/-- What comes of a message. -/
def outcome : Outcome :=
  match o.reply with
  | some r => .response r
  | none => .lost

/-- The connection; its state tells whether a message was sent. -/
def wire : Responder Wire.Reply Bool
  | .send _, _ => (o.outcome, true)
  | .pause _, sent => (true, sent)
  | .isCancelled, sent => (false, sent)
  | .now, sent => (if sent then o.arrival else o.now, sent)

/-- The token that is handed out, and its lifetime. -/
def offer? : Option (String × Int) := o.reply.bind Response.offer?

/-- On this occasion the session sends the messages and comes to this end. -/
def Leads {α : Type} (x : Session α) (kept : Option Token) (sent : List Message)
    (out : Except Stop (Except Fault α × Option Token)) : Prop :=
  ∃ log after, (x.run kept).course o.wire false = ⟨out, log, after⟩ ∧ messagesIn log = sent

end Occasion

/-- No token is kept, or five minutes from now the kept one will have expired. -/
def Due (kept : Option Token) (now : Instant) : Prop :=
  ∀ token ∈ kept, token.expiry ≤ now + gracePeriod

/-- What wanting a token leads to: the messages that are sent, and the token that is told and the one
that is kept then, or a fault or a stop. -/
inductive Obtains (messages : List Message) (o : Occasion) (kept : Option Token) :
    List Message → Except Stop (Except Fault String × Option Token) → Prop
  /-- The kept token can be used. -/
  | fresh {token : Token} (hkept : kept = some token) (hfresh : o.now + gracePeriod < token.expiry) :
      Obtains messages o kept [] (.ok (.ok token.text, kept))
  /-- A new token takes the place of the kept one. -/
  | renewed {text : String} {lifetime : Int} {expiry : Instant} (hdue : Due kept o.now)
      (hreach : messages ≠ []) (hoffer : o.offer? = some (text, lifetime))
      (hlater : later? o.arrival lifetime = some expiry) :
      Obtains messages o kept messages (.ok (.ok text, some ⟨text, expiry⟩))
  /-- There is no new token, and the kept one stays. -/
  | refused (hdue : Due kept o.now) (hnone : messages = [] ∨ o.offer? = none) (why : String) :
      Obtains messages o kept messages (.ok (.error (.authentication why), kept))
  /-- The new token would expire outside the calendar. -/
  | stopped {text : String} {lifetime : Int} (hdue : Due kept o.now) (hreach : messages ≠ [])
      (hoffer : o.offer? = some (text, lifetime)) (hlater : later? o.arrival lifetime = none) :
      Obtains messages o kept messages (.error .calendar)

/-! ## Looking at the kept token -/

section
variable {o : Occasion} {kept : Option Token} {loginUrl key secret : String}

theorem course_keptToken (o : Occasion) (kept : Option Token) :
    (keptToken?.run kept).course o.wire false =
      ⟨.ok (.ok (kept.filter (·.isFresh o.now)), kept),
        kept.toList.map fun _ => ⟨.now, o.now⟩, false⟩ := by
  cases kept <;> rfl

/-- Looking at the time sends no message. -/
theorem messagesIn_look (kept : Option Token) (now : Instant) :
    messagesIn (kept.toList.map fun _ => ⟨.now, now⟩) = [] := by
  cases kept <;> rfl

theorem due_of_filter_eq_none (h : kept.filter (·.isFresh o.now) = none) : Due kept o.now := by
  intro token htoken
  have hstale : ¬ token.isFresh o.now := by
    have hall := Option.filter_eq_none_iff.1 h
    simpa using hall token htoken
  unfold Token.isFresh at hstale
  simpa using hstale

/-! ## Asking for a new token -/

/-- A response without a token is a fault. -/
theorem course_readToken_of_none {r : Response} (h : r.offer? = none) (kept : Option Token) :
    ∃ why, ((readToken r).run kept).course o.wire true =
      ⟨.ok (.error (.authentication why), kept), [], true⟩ := by
  unfold Response.offer? at h
  unfold readToken
  cases hsuccess : isSuccess r.status with
  | false => exact ⟨_, rfl⟩
  | true =>
    rw [hsuccess, if_pos rfl] at h
    cases hshape : tokenShape.ofBytes r.body with
    | error e => exact ⟨_, rfl⟩
    | ok found =>
      rw [hshape] at h
      cases h

/-- A response with a token is looked at once more for the time. -/
theorem course_readToken_of_offer {r : Response} {text : String} {lifetime : Int}
    (h : r.offer? = some (text, lifetime)) (kept : Option Token) :
    ((readToken r).run kept).course o.wire true =
      ⟨match later? o.arrival lifetime with
        | some expiry => .ok (.ok ⟨text, expiry⟩, kept)
        | none => .error .calendar, [⟨.now, o.arrival⟩], true⟩ := by
  unfold Response.offer? at h
  unfold readToken
  cases hsuccess : isSuccess r.status with
  | false =>
    rw [hsuccess] at h
    cases h
  | true =>
    rw [hsuccess, if_pos rfl] at h
    cases hshape : tokenShape.ofBytes r.body with
    | error e =>
      rw [hshape] at h
      cases h
    | ok found =>
      rw [hshape] at h
      cases h
      have hask : ((Session.ask .now).run kept).course o.wire true =
          ⟨.ok (.ok o.arrival, kept), [⟨.now, o.arrival⟩], true⟩ := rfl
      refine (course_bind_of_result hask _).trans ?_
      cases later? o.arrival lifetime <;> rfl

/-- An address that cannot be reached is a fault before anything is sent. -/
theorem course_requestToken_of_unreachable (h : tokenMessages loginUrl key secret = [])
    (kept : Option Token) :
    ∃ why, ((requestToken loginUrl key secret).run kept).course o.wire false =
      ⟨.ok (.error (.authentication why), kept), [], false⟩ := by
  unfold tokenMessages at h
  unfold requestToken
  cases hread : Url.read loginUrl with
  | error e => exact ⟨_, rfl⟩
  | ok url =>
    rw [hread] at h
    cases hreach : isReachable url with
    | false =>
      simp only [hreach]
      exact ⟨_, rfl⟩
    | true =>
      simp only [hreach] at h
      cases h

/-- Any other address is sent one message, and the response to it is read. -/
theorem course_requestToken_of_reachable (h : tokenMessages loginUrl key secret ≠ [])
    (kept : Option Token) :
    ∃ url, tokenMessages loginUrl key secret = [tokenMessage url key secret] ∧
      ((requestToken loginUrl key secret).run kept).course o.wire false =
        (((match o.reply with
          | some r => readToken r
          | none => throw (Fault.authentication s!"Token request failed: {lostText url}")).run
            kept).course o.wire true).after [⟨.send (tokenMessage url key secret), o.outcome⟩] := by
  unfold tokenMessages at h ⊢
  unfold requestToken
  cases hread : Url.read loginUrl with
  | error e =>
    rw [hread] at h
    exact absurd rfl h
  | ok url =>
    rw [hread] at h
    cases hreach : isReachable url with
    | false =>
      simp only [hreach] at h
      exact absurd rfl h
    | true =>
      simp only [hreach]
      refine ⟨url, rfl, ?_⟩
      have hask : ((Session.ask (.send (tokenMessage url key secret))).run kept).course o.wire
          false = ⟨.ok (.ok o.outcome, kept), [⟨.send _, o.outcome⟩], true⟩ := rfl
      refine (course_bind_of_result hask _).trans ?_
      unfold Occasion.outcome
      cases o.reply <;> rfl

/-- Without a token in the end, asking for one is a fault. -/
theorem leads_requestToken_of_none
    (h : tokenMessages loginUrl key secret = [] ∨ o.offer? = none) (kept : Option Token) :
    ∃ why, o.Leads (requestToken loginUrl key secret) kept (tokenMessages loginUrl key secret)
      (.ok (.error (.authentication why), kept)) := by
  by_cases hreach : tokenMessages loginUrl key secret = []
  · obtain ⟨why, hcourse⟩ := course_requestToken_of_unreachable (o := o) hreach kept
    exact ⟨why, _, _, hcourse, hreach.symm⟩
  · have hoffer : o.reply.bind Response.offer? = none := h.resolve_left hreach
    obtain ⟨url, hmessages, hcourse⟩ := course_requestToken_of_reachable (o := o) hreach kept
    rw [hmessages]
    cases hreply : o.reply with
    | none =>
      rw [hreply] at hcourse
      exact ⟨_, _, _, hcourse, rfl⟩
    | some r =>
      rw [hreply] at hoffer hcourse
      obtain ⟨why, hread⟩ := course_readToken_of_none (o := o) hoffer kept
      exact ⟨why, _, _, hcourse.trans (congrArg _ hread), rfl⟩

/-- A token that is handed out is the new one, if it expires within the calendar. -/
theorem leads_requestToken_of_offer (hreach : tokenMessages loginUrl key secret ≠ [])
    {text : String} {lifetime : Int} (hoffer : o.offer? = some (text, lifetime))
    (kept : Option Token) :
    o.Leads (requestToken loginUrl key secret) kept (tokenMessages loginUrl key secret)
      (match later? o.arrival lifetime with
        | some expiry => .ok (.ok ⟨text, expiry⟩, kept)
        | none => .error .calendar) := by
  obtain ⟨url, hmessages, hcourse⟩ := course_requestToken_of_reachable (o := o) hreach kept
  obtain ⟨r, hreply, hr⟩ := Option.bind_eq_some_iff.1 hoffer
  rw [hreply] at hcourse
  rw [hmessages]
  have hread := course_readToken_of_offer (o := o) hr kept
  exact ⟨_, _, hcourse.trans (congrArg _ hread), rfl⟩

/-! ## Wanting a token -/

/-- Looking at the kept token comes before everything else and sends nothing. -/
theorem leads_of_look {α : Type} {f : Option Token → Session α} {sent : List Message}
    {out : Except Stop (Except Fault α × Option Token)}
    (h : o.Leads (f (kept.filter (·.isFresh o.now))) kept sent out) :
    o.Leads (keptToken? >>= f) kept sent out := by
  obtain ⟨log, after, hcourse, hsent⟩ := h
  have hlook := course_bind_of_result (course_keptToken o kept) f
  rw [hcourse] at hlook
  refine ⟨_, _, hlook, ?_⟩
  show messagesIn (_ ++ log) = sent
  unfold messagesIn at hsent ⊢
  rw [List.filterMap_append, hsent]
  exact congrArg (· ++ sent) (messagesIn_look kept o.now)

/-- **What comes of wanting a token.** -/
theorem leads_getToken (loginUrl key secret : String) (o : Occasion) (kept : Option Token) :
    ∃ sent out, o.Leads (getToken loginUrl key secret) kept sent out ∧
      Obtains (tokenMessages loginUrl key secret) o kept sent out := by
  unfold getToken
  -- the kept token first, then whether there is a new one, then whether the calendar has room for it
  cases hfound : kept.filter (·.isFresh o.now) with
  | some token =>
    obtain ⟨hkept, hfresh⟩ := Option.filter_eq_some_iff.1 hfound
    have hlasts : o.now + gracePeriod < token.expiry := by simpa [Token.isFresh] using hfresh
    refine ⟨[], _, leads_of_look ?_, .fresh hkept hlasts⟩
    rw [hfound]
    exact ⟨_, _, rfl, rfl⟩
  | none =>
    have hdue : Due kept o.now := due_of_filter_eq_none hfound
    by_cases hnone : tokenMessages loginUrl key secret = [] ∨ o.offer? = none
    · obtain ⟨why, log, after, hcourse, hsent⟩ := leads_requestToken_of_none hnone kept
      refine ⟨_, _, leads_of_look ?_, .refused hdue hnone why⟩
      rw [hfound]
      exact ⟨log, after, course_bind_of_fault hcourse _, hsent⟩
    · obtain ⟨hreach, hsome⟩ := not_or.1 hnone
      obtain ⟨⟨text, lifetime⟩, hoffer⟩ := Option.ne_none_iff_exists'.1 hsome
      obtain ⟨log, after, hcourse, hsent⟩ := leads_requestToken_of_offer hreach hoffer kept
      cases hlater : later? o.arrival lifetime with
      | none =>
        rw [hlater] at hcourse
        refine ⟨_, _, leads_of_look ?_, .stopped hdue hreach hoffer hlater⟩
        rw [hfound]
        exact ⟨log, after, course_bind_of_stop hcourse _, hsent⟩
      | some expiry =>
        rw [hlater] at hcourse
        refine ⟨_, _, leads_of_look ?_, .renewed hdue hreach hoffer hlater⟩
        rw [hfound]
        -- the new token is kept and told
        have hkeep := course_bind_of_result hcourse fun token : Token => (do
          set (some token)
          return token.text : Session String)
        refine ⟨_, _, hkeep, ?_⟩
        show messagesIn (log ++ []) = _
        rw [List.append_nil]
        exact hsent

end

/-! ## Leaving the calendar -/

/-- The time lies in one of the years. -/
def InYears (first last : Int) (t : Instant) : Prop := yearStart first ≤ t ∧ t < yearStart (last + 1)

theorem inCalendar_iff (t : Int) :
    inCalendar t ↔ -8334601228800 * second ≤ t ∧ t < 8210266876800 * second := by
  have hfirst : yearStart (-262143) = -8334601228800 * second := by decide
  have hlast : yearStart 262143 = 8210266876800 * second := by decide
  unfold inCalendar
  rw [hfirst, hlast]
  simp

section
variable {t lifetime : Int}

theorem bounds_of_inYears (h : InYears 1970 9999 t) :
    0 ≤ t ∧ t < 253402300800 * second := by
  have hfirst : yearStart 1970 = 0 := by decide
  have hlast : yearStart (9999 + 1) = 253402300800 * second := by decide
  unfold InYears at h
  rw [hfirst, hlast] at h
  exact h

/-- In our days a lifetime that is too long to be told leads out of the calendar anyway. -/
theorem later?_eq_none_iff (ht : InYears 1970 9999 t) :
    later? t lifetime = none ↔ ¬ inCalendar (t + lifetime * second) := by
  obtain ⟨hlow, hhigh⟩ := bounds_of_inYears ht
  have hcalendar := inCalendar_iff (t + lifetime * second)
  have hlong : ¬ lifetime.natAbs ≤ longestLifetime.natAbs →
      ¬ inCalendar (t + lifetime * second) := by
    intro hlifetime
    rw [hcalendar]
    unfold longestLifetime at hlifetime
    unfold second at hhigh ⊢
    omega
  unfold later?
  rw [ite_eq_right_iff]
  constructor
  · intro hnone hin
    by_cases hlifetime : lifetime.natAbs ≤ longestLifetime.natAbs
    · exact absurd (hnone ⟨hlifetime, hin⟩) (Option.some_ne_none _)
    · exact hlong hlifetime hin
  · rintro hout ⟨-, hin⟩
    exact absurd hin hout

/-- In our days a lifetime of up to a quarter of a million years stays within the calendar. -/
theorem inCalendar_of_lifetime (ht : InYears 1970 9999 t)
    (hlifetime : lifetime.natAbs ≤ 250000 * 365 * 86400) :
    inCalendar (t + lifetime * second) := by
  obtain ⟨hlow, hhigh⟩ := bounds_of_inYears ht
  rw [inCalendar_iff]
  unfold second at hhigh ⊢
  omega

end

/-- **What can come of wanting a token** between the years 1970 and 9999, whatever the response is:
a token, a fault of authentication, or a stop. It is a stop exactly when a new token is due and
handed out with a lifetime that leads out of the calendar, which no lifetime of up to a quarter of a
million years does. -/
theorem getToken_ends (loginUrl key secret : String) (o : Occasion) (kept : Option Token)
    (hyears : InYears 1970 9999 o.arrival) :
    let c := ((getToken loginUrl key secret).run kept).course o.wire false
    ((∃ text kept', c.result = .ok (.ok text, kept')) ∨
      (∃ why kept', c.result = .ok (.error (.authentication why), kept')) ∨
      c.result = .error .calendar) ∧
    (c.result = .error .calendar ↔
      Due kept o.now ∧ tokenMessages loginUrl key secret ≠ [] ∧
        ∃ text lifetime, o.offer? = some (text, lifetime) ∧
          ¬ inCalendar (o.arrival + lifetime * second)) ∧
    ∀ text lifetime, o.offer? = some (text, lifetime) →
      lifetime.natAbs ≤ 250000 * 365 * 86400 → c.result ≠ .error .calendar := by
  obtain ⟨sent, out, ⟨log, after, hcourse, -⟩, hobtains⟩ := leads_getToken loginUrl key secret o kept
  dsimp only
  rw [hcourse]
  cases hobtains with
  | fresh hkept hfresh =>
    refine ⟨.inl ⟨_, _, rfl⟩, ⟨nofun, ?_⟩, nofun⟩
    rintro ⟨hdue, -, -⟩
    exact absurd hfresh (Int.not_lt.2 (hdue _ hkept))
  | renewed hdue hreach hoffer hlater =>
    refine ⟨.inl ⟨_, _, rfl⟩, ⟨nofun, ?_⟩, nofun⟩
    rintro ⟨-, -, text, lifetime, hother, hout⟩
    cases hoffer.symm.trans hother
    cases ((later?_eq_none_iff hyears).2 hout).symm.trans hlater
  | refused hdue hnone why =>
    refine ⟨.inr (.inl ⟨_, _, rfl⟩), ⟨nofun, ?_⟩, nofun⟩
    rintro ⟨-, hreach, text, lifetime, hoffer, -⟩
    cases (hnone.resolve_left hreach).symm.trans hoffer
  | stopped hdue hreach hoffer hlater =>
    have hout := (later?_eq_none_iff hyears).1 hlater
    refine ⟨.inr (.inr rfl), ⟨fun _ => ⟨hdue, hreach, _, _, hoffer, hout⟩, fun _ => rfl⟩, ?_⟩
    intro text lifetime hother hlifetime
    cases hoffer.symm.trans hother
    exact absurd (inCalendar_of_lifetime hyears hlifetime) hout

/-- A response with a token that lives for so many seconds, in the first moment of 1970. -/
def offerAtStart (lifetime : String) : Occasion where
  now := 0
  reply := some ⟨200, [],
    Text.utf8 ("\x7b\"access_token\": \"t\", \"expires_in\": " ++ lifetime ++ "\x7d")⟩
  arrival := 0

/-- The first lifetime that leads out of the calendar. -/
theorem getToken_ends_sample :
    InYears 1970 9999 (offerAtStart "8210266876800").arrival ∧
      (((getToken "https://h/token" "key" "secret").run none).course
        (offerAtStart "8210266876800").wire false).result = .error .calendar := by
  have hyears : InYears 1970 9999 (offerAtStart "8210266876800").arrival := by
    constructor <;> decide
  obtain ⟨-, hstops, -⟩ := getToken_ends "https://h/token" "key" "secret"
    (offerAtStart "8210266876800") none hyears
  refine ⟨hyears, hstops.2 ⟨nofun, nofun, "t", 8210266876800, rfl, ?_⟩⟩
  rw [inCalendar_iff]
  decide

/-- **A response can stop the work**: a lifetime that a 64-bit number holds and no calendar does. -/
theorem lifetime_stops_work :
    InYears 1970 9999 (offerAtStart "9223372036854775807").arrival ∧
      (((getToken "https://h/token" "key" "secret").run none).course
        (offerAtStart "9223372036854775807").wire false).result = .error .calendar := by
  refine ⟨?_, rfl⟩
  constructor <;> decide

end AccessSync.Http
