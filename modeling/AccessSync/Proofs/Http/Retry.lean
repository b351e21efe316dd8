import AccessSync.Proofs.Http.Interruption
import AccessSync.Proofs.Json.Shape
import AccessSync.Proofs.Text.Natural

/-!
# Requests that are tried again

A request is sent again after each response that says to come again later, while retries are left,
and once after its token was refused. The first response that it does not go on after decides it.
Two budgets are spent on the way, in any order, so what is left of a request is told by the
responses that it went on after.

* `Response.AsksFor`, `Response.Waits`: how long a response is waited for.
* `SaysError`, `Response.Decides`: what a response means for the request that it decides.
* `Agent.Absorbs`: a request goes on after a response.
* `acts_resumed`: what is left of a request after some responses.
* `perform_tried`: how a request goes, from its first message to its result.
-/

namespace AccessSync.Http

open Api (Request)

/-! ## Responses -/

/-- The response says to come again later. -/
def Response.isHoldUp (r : Response) : Bool := decide (IsPassing r.status)

theorem isHoldUp_eq (r : Response) :
    r.isHoldUp = (isRateLimit r.status || isOutage r.status) := by
  rw [Bool.eq_iff_iff, Bool.or_eq_true]
  exact decide_eq_true_iff.trans isPassing_iff

/-- How many of the responses say to come again later. -/
def holdUps (before : List Response) : Nat := before.countP Response.isHoldUp

/-- The wait in milliseconds after a response that says to come again later, when so many responses
have said that before. -/
def Response.wait (retry : Retry) (number : Nat) (r : Response) : Nat :=
  match isRateLimit r.status, requestedWait? r with
  | true, some millis => min millis retry.maxWait.toNat
  | _, _ => (retry.wait (UInt32.ofNat number)).toNat

/-- The response asks not to be sent another request for so many seconds. -/
def Response.AsksFor (r : Response) (seconds : Nat) : Prop :=
  ∃ value, r.header? "Retry-After" = some value ∧ Text.Denotes value seconds ∧
    seconds < UInt64.size

theorem requestedWait?_eq_some_iff {r : Response} {millis : Nat} :
    requestedWait? r = some millis ↔ ∃ seconds, r.AsksFor seconds ∧ millis = seconds * 1000 := by
  unfold requestedWait? Response.AsksFor
  rw [Option.bind_eq_some_iff]
  constructor
  · rintro ⟨value, hvalue, hmillis⟩
    cases hread : Text.readWord64 value with
    | error e => simp [hread] at hmillis
    | ok word =>
      rw [hread] at hmillis
      cases hmillis
      exact ⟨_, ⟨value, hvalue, Text.readWord64_eq_ok_iff.1 hread, word.toNat_lt⟩, rfl⟩
  · rintro ⟨seconds, ⟨value, hvalue, hdenotes, hsize⟩, rfl⟩
    have hword : (UInt64.ofNat seconds).toNat = seconds := UInt64.toNat_ofNat_of_lt' hsize
    have hread : Text.readWord64 value = .ok (UInt64.ofNat seconds) :=
      Text.readWord64_eq_ok_iff.2 (hword.symm ▸ hdenotes)
    exact ⟨value, hvalue, by simp only [hread, hword]⟩

/-- How long a response is waited for when so many have said before it to come again later: for as
long as it asks if it is a rate limit, as far as waits go, and else for the usual time. -/
inductive Response.Waits (retry : Retry) (number : Nat) (r : Response) : Nat → Prop
  | asked {seconds : Nat} (hrate : r.status = 429) (hasks : r.AsksFor seconds) :
      Waits retry number r (min (seconds * 1000) retry.maxWait.toNat)
  | usual (hnone : r.status = 429 → ∀ seconds, ¬ r.AsksFor seconds) :
      Waits retry number r (retry.wait (UInt32.ofNat number)).toNat

/-- **The wait after a response** is the one that it asks for, or the usual one. -/
theorem Response.waits_wait (retry : Retry) (number : Nat) (r : Response) :
    r.Waits retry number (r.wait retry number) := by
  unfold Response.wait
  split
  · rename_i millis hrate hmillis
    obtain ⟨seconds, hasks, rfl⟩ := requestedWait?_eq_some_iff.1 hmillis
    exact .asked (eq_of_beq hrate) hasks
  · rename_i hneither
    refine .usual fun hrate seconds hasks => ?_
    have hmillis := requestedWait?_eq_some_iff.2 ⟨seconds, hasks, rfl⟩
    exact hneither _ (beq_iff_eq.2 hrate) hmillis

/-- The body of a response says what is wrong: it is a record with an error, which is a record with
a message. -/
def SaysError (body message : String) : Prop :=
  ∃ t error, Json.read body = some t ∧ Json.Tree.HasField "error" error t ∧
    Json.Tree.HasField "message" (.text (some message)) error

/-- What is read of a body is what it says. -/
theorem errorShape_ofText_eq_ok_iff {body message : String} :
    errorShape.ofText body = .ok message ↔ SaysError body message := by
  unfold Json.Shape.ofText SaysError
  cases hread : Json.read body with
  | none => simp
  | some t =>
    constructor
    · intro h
      obtain ⟨error, herror, hinner⟩ := Json.Shape.decode_required_iff.1 h
      obtain ⟨said, hsaid, htext⟩ := Json.Shape.decode_required_iff.1 hinner
      cases Json.Shape.eq_of_text htext
      exact ⟨t, error, rfl, herror, hsaid⟩
    · rintro ⟨t', error, ht, herror, hsaid⟩
      cases ht
      exact Json.Shape.decode_required_iff.2
        ⟨error, herror, Json.Shape.decode_required_iff.2 ⟨_, hsaid, rfl⟩⟩

theorem SaysError.unique {body message message' : String} (h : SaysError body message)
    (h' : SaysError body message') : message = message' := by
  have hok := errorShape_ofText_eq_ok_iff.2 h
  cases hok.symm.trans (errorShape_ofText_eq_ok_iff.2 h')
  rfl

/-- The status says that the request was carried out. -/
def Response.Succeeds (r : Response) : Prop := 200 ≤ r.status ∧ r.status < 300

/-- What a response means for the request that it decides. -/
inductive Response.Decides (r : Response) : Except Fault Json → Prop
  | blank (hsuccess : r.Succeeds) (hblank : Text.isBlankText (Text.decodeLossy r.body)) :
      Decides r (.ok .null)
  | value {j : Json} (hsuccess : r.Succeeds)
      (hblank : ¬ Text.isBlankText (Text.decodeLossy r.body))
      (hread : Json.readValue (Text.decodeLossy r.body) = some j) : Decides r (.ok j)
  | garbled (hsuccess : r.Succeeds)
      (hblank : ¬ Text.isBlankText (Text.decodeLossy r.body))
      (hread : Json.readValue (Text.decodeLossy r.body) = none) :
      Decides r (.error (.shape .notJson))
  | explained {message : String} (hfails : ¬ r.Succeeds)
      (hmessage : SaysError (Text.decodeLossy r.body) message) :
      Decides r (.error (.status r.status ("Error: " ++ message)))
  | unexplained (hfails : ¬ r.Succeeds)
      (hmessage : ∀ message, ¬ SaysError (Text.decodeLossy r.body) message) :
      Decides r (.error (.status r.status (Text.decodeLossy r.body)))

/-- The result of a request is what the response means for it. -/
theorem decides_readResponse (r : Response) : r.Decides (readResponse r) := by
  unfold readResponse
  by_cases hsuccess : isSuccess r.status
  · have hsucceeds : r.Succeeds := isSuccess_iff.1 hsuccess
    by_cases hblank : Text.isBlankText (Text.decodeLossy r.body)
    · simp only [hsuccess, hblank]
      exact .blank hsucceeds hblank
    · simp only [hsuccess, hblank]
      cases hread : Json.readValue (Text.decodeLossy r.body) with
      | some j => exact .value hsucceeds hblank hread
      | none => exact .garbled hsucceeds hblank hread
  · have hfails : ¬ r.Succeeds := mt isSuccess_iff.2 hsuccess
    simp only [hsuccess]
    unfold errorText
    cases hmessage : errorShape.ofText (Text.decodeLossy r.body) with
    | ok message => exact .explained hfails (errorShape_ofText_eq_ok_iff.1 hmessage)
    | error e =>
      refine .unexplained hfails fun message hsays => ?_
      cases (errorShape_ofText_eq_ok_iff.2 hsays).symm.trans hmessage

theorem toNat_wait_le (retry : Retry) (number : UInt32) :
    (retry.wait number).toNat ≤ retry.maxWait.toNat := by
  have hmin : retry.wait number ≤ retry.maxWait := Std.min_le_right
  exact UInt64.le_iff_toNat_le.1 hmin

/-- No wait is longer than waits go. -/
theorem Response.wait_le (retry : Retry) (number : Nat) (r : Response) :
    r.wait retry number ≤ retry.maxWait.toNat := by
  unfold Response.wait
  split
  · exact Nat.min_le_right _ _
  · exact toNat_wait_le _ _

section
variable {resp : Response}

/-- A response that says to come again later is a cause for another try, after its wait. -/
theorem exists_cause_of_isHoldUp (h : resp.isHoldUp) : ∃ c, Cause.of? resp = some c ∧
    ∀ retry number, c.wait retry (UInt32.ofNat number) = resp.wait retry number := by
  rw [isHoldUp_eq] at h
  unfold Cause.of? Response.wait
  by_cases hrate : isRateLimit resp.status
  · refine ⟨_, if_pos hrate, fun retry number => ?_⟩
    rw [hrate]
    cases requestedWait? resp <;> rfl
  · have houtage : isOutage resp.status := by simpa [hrate] using h
    refine ⟨_, by rw [if_neg hrate, if_pos houtage], fun retry number => ?_⟩
    rw [Bool.not_eq_true] at hrate
    rw [hrate]
    rfl

theorem cause_of_not_isHoldUp (h : resp.isHoldUp = false) : Cause.of? resp = none := by
  rw [isHoldUp_eq, Bool.or_eq_false_iff] at h
  unfold Cause.of?
  simp only [h.1, h.2, Bool.false_eq_true, if_false]

/-- A refused token is not something to come again for. -/
theorem isHoldUp_of_refused (h : resp.status = 401) : resp.isHoldUp = false := by
  unfold Response.isHoldUp
  rw [h]
  decide

theorem status_ne_of_isHoldUp (h : resp.isHoldUp) : resp.status ≠ 401 := by
  intro hrefused
  rw [isHoldUp_of_refused hrefused] at h
  cases h

end

/-! ## What a request goes on after -/

namespace Agent

/-- The agent has its tokens from somewhere, so that there may be another. -/
def renews (a : Agent) : Bool :=
  match a.authentication with
  | .oauth2 .. => true
  | _ => false

/-- None of the responses refused a token, and there may be another one. -/
def mayRenew (a : Agent) (before : List Response) : Bool :=
  a.renews && before.all fun r => r.status != 401

/-- A request that went on after some responses goes on after this one as well: it says to come
again later and retries are left, or it is the first to refuse a token. -/
def Absorbs (a : Agent) (before : List Response) (r : Response) : Prop :=
  (r.isHoldUp ∧ holdUps before < a.retry.maxRetries.toNat) ∨
    (r.status = 401 ∧ a.mayRenew before)

/-- How often a request can go on after these responses. -/
def triesLeft (a : Agent) (before : List Response) : Nat :=
  a.retry.maxRetries.toNat - holdUps before + (a.mayRenew before).toNat

/-- What is left of a request after these responses. -/
def resumed (a : Agent) (r : Request) (before : List Response) : Session Json :=
  a.attempts r (if a.mayRenew before then some (a.attempts r none) else none)
    (a.retry.maxRetries.toNat - holdUps before)

instance (a : Agent) (before : List Response) (r : Response) : Decidable (a.Absorbs before r) :=
  inferInstanceAs (Decidable (_ ∨ _))

theorem perform_eq_resumed (a : Agent) (r : Request) : a.perform r = a.resumed r [] := by
  unfold perform resumed mayRenew renews
  cases a.authentication <;> rfl

end Agent

section
variable {a : Agent} {before : List Response} {resp : Response}

theorem holdUps_concat : holdUps (before ++ [resp]) = holdUps before + resp.isHoldUp.toNat := by
  unfold holdUps
  rw [List.countP_append, List.countP_singleton]
  cases resp.isHoldUp <;> rfl

theorem mayRenew_concat :
    a.mayRenew (before ++ [resp]) = (a.mayRenew before && resp.status != 401) := by
  unfold Agent.mayRenew
  simp [Bool.and_assoc]

/-- **Going on takes off one of the two budgets.** -/
theorem triesLeft_of_absorbs (h : a.Absorbs before resp) :
    a.triesLeft before = a.triesLeft (before ++ [resp]) + 1 := by
  unfold Agent.triesLeft
  rw [holdUps_concat, mayRenew_concat]
  rcases h with ⟨hheld, hleft⟩ | ⟨hrefused, hrenew⟩
  · have hother : (resp.status != 401) = true := bne_iff_ne.2 (status_ne_of_isHoldUp hheld)
    rw [hheld, hother, Bool.and_true]
    simp only [Bool.toNat_true]
    omega
  · rw [isHoldUp_of_refused hrefused, hrefused, hrenew]
    simp

end

/-! ## Attempts -/

section
variable {σ : Type} {net : Net σ} {a : Agent} {r : Request} {w w' w'' : World σ}
  {resp : Response} {log : List Deed} {result : Except Fault Json} {number : UInt32}
  {again renewed : Option (Unit → Session Json)} {next : Unit → Session Json}

/-- While retries are left, a cause for another try is told, waited for and followed. -/
theorem acts_attempt_of_cause
    (hexchange : Acts net a (a.exchange r) w [.sent (message r "")] (.ok resp) w') {c : Cause}
    (hcause : Cause.of? resp = some c) (hnext : Acts net a (next ()) w' log result w'') :
    Acts net a (a.attempt r number (some next) renewed) w
      (.sent (message r "") :: .waited (c.wait a.retry number) :: log) result w'' := by
  unfold Agent.attempt
  refine hexchange.bind ?_
  simp only [hcause]
  exact (acts_report _ _).bind ((acts_pause _ _).bind hnext)

/-- A token that is refused is forgotten while there may be another one. -/
theorem acts_attempt_of_refused
    (hexchange : Acts net a (a.exchange r) w [.sent (message r "")] (.ok resp) w')
    (hrefused : resp.status = 401) (hnext : Acts net a (next ()) w' log result w'') :
    Acts net a (a.attempt r number again (some next)) w (.sent (message r "") :: log) result
      w'' := by
  have hcause := cause_of_not_isHoldUp (isHoldUp_of_refused hrefused)
  have hforget : Acts net a forgetToken w' [] (.ok ()) w' := by
    intro kept n hkept
    refine ⟨none, n, ?_, comes_set _ _ _ _, rfl⟩
    unfold Agent.CanLogIn at hkept ⊢
    cases ha : a.authentication with
    | bearer token => trivial
    | basic username password => trivial
    | oauth2 loginUrl key secret =>
      rw [ha] at hkept
      exact ⟨hkept.1, nofun⟩
  unfold Agent.attempt
  refine hexchange.bind ?_
  rw [hcause, hrefused]
  exact hforget.bind hnext

/-- What does not call for another try, or cannot have one, ends the attempt. -/
theorem acts_attempt_of_last
    (hexchange : Acts net a (a.exchange r) w [.sent (message r "")] (.ok resp) w')
    (hagain : resp.isHoldUp → again = none) (hrenewed : resp.status = 401 → renewed = none) :
    Acts net a (a.attempt r number again renewed) w [.sent (message r "")] (readResponse resp)
      w' := by
  have hread : Acts net a (ExceptT.mk (pure (readResponse resp))) w' [] _ w' := acts_ofExcept _ _
  unfold Agent.attempt
  refine hexchange.bind (?_ : Acts net a _ w' [] _ w')
  by_cases hheld : resp.isHoldUp
  · obtain ⟨c, hcause, -⟩ := exists_cause_of_isHoldUp hheld
    rw [hcause, hagain hheld, beq_false_of_ne (status_ne_of_isHoldUp hheld)]
    exact hread
  · rw [Bool.not_eq_true] at hheld
    rw [cause_of_not_isHoldUp hheld]
    by_cases hrefused : resp.status = 401
    · rw [hrenewed hrefused]
      cases hstatus : resp.status == 401 <;> exact hread
    · rw [beq_false_of_ne hrefused]
      exact hread

end

/-! ## Requests -/

/-- A connection over which requests have one response after the other. -/
def Net.inTurn (responses : Nat → Response) (login : Nat → Message → Response)
    (clock : Nat → Instant) : Net Nat where
  server _ k := (responses k, k + 1)
  login := login
  clock := clock

/-- The first responses. -/
def first (responses : Nat → Response) (n : Nat) : List Response := (List.range n).map responses

theorem first_succ (responses : Nat → Response) (n : Nat) :
    first responses (n + 1) = first responses n ++ [responses n] := by
  unfold first
  rw [List.range_succ, List.map_append, List.map_singleton]

/-- What is done from one response to the next for a request that goes on after it: the message that
has the response is sent, and then there is a wait if the response says to come again later. -/
def Agent.deedsAt (a : Agent) (r : Request) (responses : Nat → Response) (k : Nat) : List Deed :=
  .sent (message r "") ::
    if (responses k).isHoldUp then
      [.waited ((responses k).wait a.retry (holdUps (first responses k)))]
    else []

section
variable {responses : Nat → Response} {login : Nat → Message → Response} {clock : Nat → Instant}
  {a : Agent} {r : Request} {k : Nat} {log : List Deed} {result : Except Fault Json}
  {w : World Nat}

/-- The retry with this number is told by the retries that are left. -/
theorem number_of_left {retry : Retry} {number left : Nat}
    (h : retry.maxRetries.toNat - number = left + 1) :
    retry.maxRetries - UInt32.ofNat (left + 1) = UInt32.ofNat number := by
  have hsize : retry.maxRetries.toNat < UInt32.size := retry.maxRetries.toNat_lt
  have hleft : (UInt32.ofNat (left + 1)).toNat = left + 1 := UInt32.toNat_ofNat_of_lt' (by omega)
  have hnumber : (UInt32.ofNat number).toNat = number := UInt32.toNat_ofNat_of_lt' (by omega)
  have hle : UInt32.ofNat (left + 1) ≤ retry.maxRetries := by
    rw [UInt32.le_iff_toNat_le, hleft]
    omega
  rw [← UInt32.toNat_inj, UInt32.toNat_sub_of_le _ _ hle, hleft, hnumber]
  omega

/-- However many retries are left, the first attempt is followed by another one only if there are
any, and by one with a new token as `renewed` tells. -/
theorem attempts_eq_attempt (a : Agent) (r : Request) (renewed : Option (Nat → Session Json))
    (left : Nat) : ∃ number again,
      a.attempts r renewed left =
        a.attempt r number again (renewed.map fun next _ => next left) ∧
      (left = 0 → again = none) := by
  cases left with
  | zero => exact ⟨_, _, rfl, fun _ => rfl⟩
  | succ left => exact ⟨_, _, rfl, nofun⟩

/-- **One response that a request goes on after** leaves what is left after it. -/
theorem acts_resumed_of_absorbs (hsend : a.canSend r) (hmethod : r.method ≠ .post)
    (habsorbs : a.Absorbs (first responses k) (responses k))
    (hrest : Acts (.inTurn responses login clock) a (a.resumed r (first responses (k + 1)))
      ⟨k + 1, []⟩ log result w) :
    Acts (.inTurn responses login clock) a (a.resumed r (first responses k)) ⟨k, []⟩
      (a.deedsAt r responses k ++ log) result w := by
  have hexchange : Acts (.inTurn responses login clock) a (a.exchange r) ⟨k, []⟩
      [.sent (message r "")] (.ok (responses k)) ⟨k + 1, []⟩ := acts_exchange hsend hmethod _
  rw [first_succ] at hrest
  unfold Agent.resumed at hrest ⊢
  unfold Agent.deedsAt
  rw [holdUps_concat, mayRenew_concat] at hrest
  rcases habsorbs with ⟨hheld, hleft⟩ | ⟨hrefused, hrenew⟩
  · -- the token stays as it is, and there is one retry less
    have hother : (responses k).status ≠ 401 := status_ne_of_isHoldUp hheld
    obtain ⟨c, hcause, hwait⟩ := exists_cause_of_isHoldUp hheld
    obtain ⟨left, hsucc⟩ : ∃ left,
        a.retry.maxRetries.toNat - holdUps (first responses k) = left + 1 :=
      ⟨_, (Nat.succ_pred_eq_of_pos (by omega)).symm⟩
    have hpred : a.retry.maxRetries.toNat - (holdUps (first responses k) + 1) = left := by omega
    rw [hheld, bne_iff_ne.2 hother, Bool.and_true, Bool.toNat_true, hpred] at hrest
    rw [hsucc, hheld, ← hwait]
    unfold Agent.attempts
    rw [number_of_left hsucc]
    exact acts_attempt_of_cause hexchange hcause hrest
  · -- the retries stay as they are, and there is no other token
    have hfree := isHoldUp_of_refused hrefused
    rw [hfree, hrefused, Bool.toNat_false, Nat.add_zero] at hrest
    rw [hfree, hrenew, if_pos rfl]
    obtain ⟨number, again, heq, -⟩ := attempts_eq_attempt a r (some (a.attempts r none))
      (a.retry.maxRetries.toNat - holdUps (first responses k))
    rw [heq]
    exact acts_attempt_of_refused hexchange hrefused (by simpa using hrest)

/-- **The first response that a request does not go on after** decides it. -/
theorem acts_resumed_of_last (hsend : a.canSend r) (hmethod : r.method ≠ .post)
    (hlast : ¬ a.Absorbs (first responses k) (responses k)) :
    Acts (.inTurn responses login clock) a (a.resumed r (first responses k)) ⟨k, []⟩
      [.sent (message r "")] (readResponse (responses k)) ⟨k + 1, []⟩ := by
  have hexchange : Acts (.inTurn responses login clock) a (a.exchange r) ⟨k, []⟩
      [.sent (message r "")] (.ok (responses k)) ⟨k + 1, []⟩ := acts_exchange hsend hmethod _
  unfold Agent.Absorbs at hlast
  rw [not_or, not_and, not_and] at hlast
  obtain ⟨hretries, htoken⟩ := hlast
  unfold Agent.resumed
  obtain ⟨number, again, heq, hagain⟩ := attempts_eq_attempt a r
    (if a.mayRenew (first responses k) then some (a.attempts r none) else none)
    (a.retry.maxRetries.toNat - holdUps (first responses k))
  rw [heq]
  refine acts_attempt_of_last hexchange (fun hheld => hagain ?_) fun hrefused => ?_
  · have hspent := hretries hheld
    omega
  · rw [if_neg (htoken hrefused)]
    rfl

/-- **What is left of a request** goes on until a response decides it. -/
theorem acts_resumed (responses : Nat → Response) (login : Nat → Message → Response)
    (clock : Nat → Instant) (hsend : a.canSend r) (hmethod : r.method ≠ .post) (k : Nat) :
    ∃ j, j ≤ a.triesLeft (first responses k) ∧
      (∀ i < j, a.Absorbs (first responses (k + i)) (responses (k + i))) ∧
      ¬ a.Absorbs (first responses (k + j)) (responses (k + j)) ∧
      Acts (.inTurn responses login clock) a (a.resumed r (first responses k)) ⟨k, []⟩
        ((List.range' k j).flatMap (a.deedsAt r responses) ++ [.sent (message r "")])
        (readResponse (responses (k + j))) ⟨k + j + 1, []⟩ := by
  -- the tries that are left get fewer with each response that the request goes on after
  induction htries : a.triesLeft (first responses k) generalizing k with
  | zero =>
    have hlast : ¬ a.Absorbs (first responses k) (responses k) := fun h => by
      have hfewer := triesLeft_of_absorbs h
      omega
    exact ⟨0, Nat.le_refl 0, nofun, hlast, acts_resumed_of_last hsend hmethod hlast⟩
  | succ tries ih =>
    by_cases habsorbs : a.Absorbs (first responses k) (responses k)
    · have hfewer := triesLeft_of_absorbs habsorbs
      rw [← first_succ] at hfewer
      obtain ⟨j, hj, hbefore, hlast, hacts⟩ := ih (k + 1) (by omega)
      have hshift (i : Nat) : k + 1 + i = k + (i + 1) := by omega
      refine ⟨j + 1, by omega, fun i hi => ?_, hshift j ▸ hlast, ?_⟩
      · cases i with
        | zero => exact habsorbs
        | succ i => exact hshift i ▸ hbefore i (by omega)
      · rw [← hshift, List.range'_succ, List.flatMap_cons, List.append_assoc]
        exact acts_resumed_of_absorbs hsend hmethod habsorbs hacts
    · exact ⟨0, Nat.zero_le _, nofun, habsorbs, acts_resumed_of_last hsend hmethod habsorbs⟩

/-! ### All that is done -/

/-- The message that is sent. -/
def Deed.message? : Deed → Option Message
  | .sent m => some m
  | .waited _ => none

/-- The milliseconds that go by. -/
def Deed.millis? : Deed → Option Nat
  | .sent _ => none
  | .waited millis => some millis

/-- What is done for a request that so many responses do not decide. -/
def Agent.deedsUpTo (a : Agent) (r : Request) (responses : Nat → Response) (n : Nat) : List Deed :=
  (List.range n).flatMap (a.deedsAt r responses) ++ [.sent (message r "")]

theorem messages_deedsAt (a : Agent) (r : Request) (responses : Nat → Response) (k : Nat) :
    (a.deedsAt r responses k).filterMap Deed.message? = [message r ""] := by
  unfold Agent.deedsAt
  split <;> rfl

theorem waits_deedsAt (a : Agent) (r : Request) (responses : Nat → Response) (k : Nat) :
    (a.deedsAt r responses k).filterMap Deed.millis? =
      if (responses k).isHoldUp then
        [(responses k).wait a.retry (holdUps (first responses k))]
      else [] := by
  unfold Agent.deedsAt
  split <;> rfl

/-- The same message is sent for each response. -/
theorem messages_deedsUpTo (a : Agent) (r : Request) (responses : Nat → Response) (n : Nat) :
    (a.deedsUpTo r responses n).filterMap Deed.message? =
      List.replicate (n + 1) (message r "") := by
  unfold Agent.deedsUpTo
  rw [List.filterMap_append, List.filterMap_flatMap, List.replicate_succ']
  simp only [messages_deedsAt]
  rw [← List.map_eq_flatMap, List.map_const', List.length_range]
  rfl

/-- There is a wait after each response that says to come again later. -/
theorem waits_deedsUpTo (a : Agent) (r : Request) (responses : Nat → Response) (n : Nat) :
    (a.deedsUpTo r responses n).filterMap Deed.millis? =
      ((first responses n).filter Response.isHoldUp).mapIdx (Response.wait a.retry) := by
  have hlast : [Deed.sent (message r "")].filterMap Deed.millis? = [] := rfl
  unfold Agent.deedsUpTo
  rw [List.filterMap_append, List.filterMap_flatMap, hlast, List.append_nil]
  simp only [waits_deedsAt]
  induction n with
  | zero => rfl
  | succ n ih =>
    have hlength : ((first responses n).filter Response.isHoldUp).length =
        holdUps (first responses n) := List.countP_eq_length_filter.symm
    rw [List.range_succ, List.flatMap_append, ih, first_succ, List.filter_append,
      List.mapIdx_append, hlength]
    cases hheld : (responses n).isHoldUp <;> simp [hheld]

/-- A request does not go on after more responses that say to come again later than there are
retries. -/
theorem holdUps_le {n : Nat} (h : ∀ k < n, a.Absorbs (first responses k) (responses k)) :
    holdUps (first responses n) ≤ a.retry.maxRetries.toNat := by
  induction n with
  | zero => exact Nat.zero_le _
  | succ n ih =>
    have hbefore := ih fun k hk => h k (by omega)
    rw [first_succ, holdUps_concat]
    rcases h n (by omega) with ⟨hheld, hleft⟩ | ⟨hrefused, -⟩
    · rw [hheld, Bool.toNat_true]
      exact hleft
    · rw [isHoldUp_of_refused hrefused]
      exact hbefore

/-- A request is decided by the response with this number, from 0 on, after these deeds. -/
structure Tried (a : Agent) (r : Request) (responses : Nat → Response) (n : Nat)
    (log : List Deed) (result : Except Fault Json) : Prop where
  /-- It goes on after all responses before this one. -/
  absorbed : ∀ k < n, a.Absorbs (first responses k) (responses k)
  /-- It does not go on after this one. -/
  decided : ¬ a.Absorbs (first responses n) (responses n)
  /-- The result is what this one means. -/
  result : (responses n).Decides result
  /-- Each response is waited for as it says before the next message is sent. -/
  inOrder : log = a.deedsUpTo r responses n
  /-- The message is sent once for each response. -/
  sent : log.filterMap Deed.message? = List.replicate (n + 1) (message r "")
  /-- It is sent once and then as often as the two budgets allow. -/
  sentAtMost : n + 1 ≤ a.retry.maxRetries.toNat + 1 + a.renews.toNat
  /-- There is one wait for each response that says to come again later. -/
  waited : log.filterMap Deed.millis? =
    ((first responses n).filter Response.isHoldUp).mapIdx (Response.wait a.retry)
  /-- Each of these waits is as long as the response says. -/
  waitedFor : ∀ (k : Nat) (resp : Response),
    ((first responses n).filter Response.isHoldUp)[k]? = some resp →
      ∃ millis, (log.filterMap Deed.millis?)[k]? = some millis ∧ resp.Waits a.retry k millis
  /-- No wait is longer than waits go. -/
  waitedAtMost : ∀ millis ∈ log.filterMap Deed.millis?, millis ≤ a.retry.maxWait.toNat
  /-- The retries are counted no further than they go. -/
  counted : holdUps (first responses n) ≤ a.retry.maxRetries.toNat

/-- **How a request goes** over a connection that is not given up, whatever the responses are: it is
decided by the first response that it does not go on after, and there is one. -/
theorem perform_tried (responses : Nat → Response) (login : Nat → Message → Response)
    (clock : Nat → Instant) (a : Agent) (r : Request) (kept : Option Token) (t : Nat)
    (hkept : a.CanLogIn (.inTurn responses login clock) kept) (hsend : a.canSend r)
    (hmethod : r.method ≠ .post) :
    let c := ((a.perform r).run kept).course
      (Net.inTurn responses login clock).wire (⟨0, []⟩, t)
    ∃ n result kept', c.result = .ok (result, kept') ∧
      Tried a r responses n (deedsOn c) result := by
  obtain ⟨n, hn, habsorbed, hdecided, hacts⟩ :=
    acts_resumed responses login clock hsend hmethod 0
  obtain ⟨kept', t', -, hshows⟩ := hacts kept t hkept
  simp only [Nat.zero_add] at habsorbed hdecided hshows
  rw [← List.range_eq_range'] at hshows
  have hfirst : first responses 0 = [] := rfl
  rw [hfirst, ← Agent.perform_eq_resumed] at hshows
  have hlog : deedsOn _ = a.deedsUpTo r responses n := hshows.deeds
  have hbound : n ≤ a.retry.maxRetries.toNat + a.renews.toNat := by
    rw [hfirst] at hn
    simpa [Agent.triesLeft, Agent.mayRenew, holdUps] using hn
  refine ⟨n, _, kept', hshows.result, ?_⟩
  exact {
    absorbed := habsorbed
    decided := hdecided
    result := decides_readResponse _
    inOrder := hlog
    sent := by rw [hlog, messages_deedsUpTo]
    sentAtMost := by omega
    waited := by rw [hlog, waits_deedsUpTo]
    waitedFor := by
      intro k resp hresp
      refine ⟨_, ?_, resp.waits_wait a.retry k⟩
      rw [hlog, waits_deedsUpTo, List.getElem?_mapIdx, hresp]
      rfl
    waitedAtMost := by
      intro millis hmem
      rw [hlog, waits_deedsUpTo, List.mem_mapIdx] at hmem
      obtain ⟨k, hk, rfl⟩ := hmem
      exact Response.wait_le _ _ _
    counted := holdUps_le habsorbed }

end

/-! ## An outage, a refused token and two rate limits -/

/-- An agent with a key and a secret that tries twice more. -/
def sampleAgent : Agent := ⟨.oauth2 "https://h/token" "key" "secret", .upTo 2⟩

/-- An outage, a refused token, a rate limit that says for how long, and a rate limit from then
on. -/
def sampleResponses : Nat → Response
  | 0 => ⟨503, [], []⟩
  | 1 => ⟨401, [], []⟩
  | 2 => ⟨429, [("retry-after", "7")], []⟩
  | _ => ⟨429, [], Text.utf8 "\x7b\"error\": \x7b\"message\": \"Slow down\"\x7d\x7d"⟩

/-- A removal. -/
def sampleRequest : Request :=
  ⟨.delete, ⟨"https", "", "", some (.name "h"), none, .segments ["2.0", "x"], none, none⟩, .bare,
    none⟩

/-- What hands out the tokens. -/
def sampleLogin (_ : Nat) (_ : Message) : Response :=
  ⟨200, [], Text.utf8 "\x7b\"access_token\": \"t\"\x7d"⟩

theorem canLogIn_sampleAgent :
    sampleAgent.CanLogIn (.inTurn sampleResponses sampleLogin fun _ => 0) none := by
  refine ⟨⟨⟨"https", "", "", some (.name "h"), none, .segments ["token"], none, none⟩, rfl, rfl,
    fun n => ?_⟩, nofun⟩
  have hlater : (later? 0 3600).isSome := by decide
  exact ⟨rfl, "t", 3600, rfl, rfl, hlater⟩

/-- The second rate limit comes when no retry is left. -/
theorem perform_tried_sample :
    let c := ((sampleAgent.perform sampleRequest).run none).course
      (Net.inTurn sampleResponses sampleLogin fun _ => 0).wire (⟨0, []⟩, 0)
    ∃ kept', c.result = .ok (.error (.status 429 "Error: Slow down"), kept') ∧
      deedsOn c = [.sent (message sampleRequest ""), .waited 500, .sent (message sampleRequest ""),
        .sent (message sampleRequest ""), .waited 7000, .sent (message sampleRequest "")] := by
  obtain ⟨n, result, kept', hresult, htried⟩ := perform_tried sampleResponses sampleLogin (fun _ => 0)
    sampleAgent sampleRequest none 0 canLogIn_sampleAgent rfl nofun
  have hbefore : ∀ k < 3, sampleAgent.Absorbs (first sampleResponses k) (sampleResponses k) := by
    decide
  have hlast : ¬ sampleAgent.Absorbs (first sampleResponses 3) (sampleResponses 3) := by decide
  have hn : n = 3 := by
    rcases Nat.lt_trichotomy n 3 with hless | heq | hmore
    · exact absurd (hbefore n hless) htried.decided
    · exact heq
    · exact absurd (htried.absorbed 3 hmore) hlast
  subst hn
  refine ⟨kept', ?_, ?_⟩
  · have hmessage : SaysError (Text.decodeLossy (sampleResponses 3).body) "Slow down" :=
      errorShape_ofText_eq_ok_iff.1 rfl
    rw [hresult]
    cases htried.result with
    | blank hsuccess => exact absurd hsuccess.2 (by decide)
    | value hsuccess => exact absurd hsuccess.2 (by decide)
    | garbled hsuccess => exact absurd hsuccess.2 (by decide)
    | explained _ hexplained =>
      cases SaysError.unique hmessage hexplained
      rfl
    | unexplained _ hunexplained => exact absurd hmessage (hunexplained _)
  · have hfirst : (sampleResponses 0).wait sampleAgent.retry 0 = 500 := by decide
    have hsecond : (sampleResponses 2).wait sampleAgent.retry 1 = 7000 := by decide
    rw [htried.inOrder, ← hfirst, ← hsecond]
    rfl

end AccessSync.Http
