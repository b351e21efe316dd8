import AccessSync.Proofs.Http.Token
import AccessSync.Proofs.Json.Shape

/-!
# The history of a kept token

Between one use of a token and the next only the kept token is handed on. What it is can be told from
what happened: it is the newest one that was handed out since the kept token was last forgotten. So
whether a new token is asked for, and what becomes of the old one, depends on the history alone.

* `Turn.Made`: what a use does, by its cases.
* `made_of_history`: every use in a history, after those before it.
* `tokens_over_uses`: what that means for callers.
-/

namespace AccessSync.Http

/-! ## Uses -/

/-- What is done with the kept token. -/
inductive Use
  /-- A token is wanted. -/
  | want
  /-- The kept token is not used any more. -/
  | forget
deriving DecidableEq, Repr

/-- The session of a use; a token that is wanted is told. -/
def Use.work (loginUrl key secret : String) : Use → Session (Option String)
  | .want => do
    let text ← getToken loginUrl key secret
    return some text
  | .forget => do
    forgetToken
    return none

/-- A use that came to an end: the occasion for it, the messages that were sent, what was told, and
the token that is kept then. -/
structure Turn where
  use : Use
  occasion : Occasion
  sent : List Message
  result : Except Fault (Option String)
  kept : Option Token

/-- One use after the other from a kept token on, up to the first that stops the work. -/
def history (loginUrl key secret : String) : Option Token → List (Use × Occasion) → List Turn
  | _, [] => []
  | kept, (use, o) :: rest =>
    let c := ((use.work loginUrl key secret).run kept).course o.wire false
    match c.result with
    | .ok (result, next) =>
      ⟨use, o, messagesIn c.exchanges, result, next⟩ :: history loginUrl key secret next rest
    | .error _ => []

/-! ## What a history tells -/

/-- The new token of an exchange that succeeded. -/
def Turn.brought? (turn : Turn) : Option Token :=
  if turn.sent.isEmpty then none
  else turn.occasion.offer?.map fun (text, lifetime) =>
    ⟨text, turn.occasion.arrival + lifetime * second⟩

/-- The uses since the kept token was last forgotten, the newest first. -/
def sinceForgotten (turns : List Turn) : List Turn :=
  turns.reverse.takeWhile fun turn => turn.use = .want

/-- The token of the newest exchange that succeeded since the kept token was last forgotten. -/
def latest? (turns : List Turn) : Option Token := (sinceForgotten turns).findSome? Turn.brought?

/-- A new token expires within the calendar. -/
def Occasion.Representable (o : Occasion) : Prop :=
  ∀ offer ∈ o.offer?, (later? o.arrival offer.2).isSome

/-- Time does not run backwards from one look at the clock to the next. -/
def Forward (uses : List (Use × Occasion)) : Prop :=
  (uses.flatMap fun (_, o) => [o.now, o.arrival]).Pairwise (· ≤ ·)

/-- What a use does with a kept token. -/
inductive Turn.Made (messages : List Message) (kept : Option Token) : Turn → Prop
  /-- The kept token is told. -/
  | fresh {o : Occasion} {token : Token} (hkept : kept = some token)
      (hfresh : o.now + gracePeriod < token.expiry) :
      Made messages kept ⟨.want, o, [], .ok (some token.text), kept⟩
  /-- A new token is told and kept. -/
  | renewed {o : Occasion} {text : String} {lifetime : Int} (hdue : Due kept o.now)
      (hreach : messages ≠ []) (hoffer : o.offer? = some (text, lifetime)) :
      Made messages kept
        ⟨.want, o, messages, .ok (some text), some ⟨text, o.arrival + lifetime * second⟩⟩
  /-- An exchange fails and changes nothing. -/
  | refused {o : Occasion} (hdue : Due kept o.now) (hnone : messages = [] ∨ o.offer? = none)
      (why : String) :
      Made messages kept ⟨.want, o, messages, .error (.authentication why), kept⟩
  /-- The kept token is forgotten. -/
  | forgotten {o : Occasion} : Made messages kept ⟨.forget, o, [], .ok none, none⟩

section
variable {loginUrl key secret : String} {kept : Option Token} {o : Occasion}

theorem later?_eq_some {t : Instant} {lifetime : Int} {expiry : Instant}
    (h : later? t lifetime = some expiry) : expiry = t + lifetime * second := by
  unfold later? at h
  split at h
  · exact (Option.some.inj h).symm
  · cases h

/-- A token that was wanted is told as it is, and a fault stays one. -/
theorem history_want {sent : List Message} {told : Except Fault String} {next : Option Token}
    (h : o.Leads (getToken loginUrl key secret) kept sent (.ok (told, next)))
    (rest : List (Use × Occasion)) :
    history loginUrl key secret kept ((.want, o) :: rest) =
      ⟨.want, o, sent, told.map some, next⟩ :: history loginUrl key secret next rest := by
  obtain ⟨log, after, hcourse, hsent⟩ := h
  have hwork : ((Use.work loginUrl key secret .want).run kept).course o.wire false =
      ⟨.ok (told.map some, next), log, after⟩ := by
    cases told with
    | ok text =>
      refine (course_bind_of_result hcourse _).trans ?_
      show Course.after log ⟨_, [], after⟩ = _
      unfold Course.after
      rw [List.append_nil]
      rfl
    | error e => exact course_bind_of_fault hcourse _
  rw [history, hwork, ← hsent]

/-- **One use** of the kept token comes to its end. -/
theorem exists_turn (use : Use) (ho : o.Representable) (kept : Option Token)
    (rest : List (Use × Occasion)) :
    ∃ turn : Turn, (turn.use, turn.occasion) = (use, o) ∧
      turn.Made (tokenMessages loginUrl key secret) kept ∧
      history loginUrl key secret kept ((use, o) :: rest) =
        turn :: history loginUrl key secret turn.kept rest := by
  cases use with
  | forget => exact ⟨_, rfl, .forgotten, rfl⟩
  | want =>
    obtain ⟨sent, out, hleads, hobtains⟩ := leads_getToken loginUrl key secret o kept
    cases hobtains with
    | fresh hkept hfresh => exact ⟨_, rfl, .fresh hkept hfresh, history_want hleads rest⟩
    | renewed hdue hreach hoffer hlater =>
      obtain rfl := later?_eq_some hlater
      exact ⟨_, rfl, .renewed hdue hreach hoffer, history_want hleads rest⟩
    | refused hdue hnone why =>
      exact ⟨_, rfl, .refused hdue hnone why, history_want hleads rest⟩
    | stopped hdue hreach hoffer hlater =>
      have hsome := ho _ hoffer
      rw [hlater] at hsome
      cases hsome

end

/-! ## What is kept -/

section
variable {messages : List Message} {before : List Turn} {turn : Turn}

theorem latest?_concat (before : List Turn) (turn : Turn) :
    latest? (before ++ [turn]) =
      if turn.use = .want then turn.brought?.or (latest? before) else none := by
  unfold latest? sinceForgotten
  rw [List.reverse_append, List.reverse_singleton, List.singleton_append, List.takeWhile_cons]
  by_cases huse : turn.use = .want
  · simp only [huse, decide_true, if_true]
    rw [List.findSome?_cons]
    cases turn.brought? <;> rfl
  · simp [huse]

/-- **What is kept after a use** is the newest token that the history tells of. -/
theorem Turn.Made.kept_eq (h : turn.Made messages (latest? before)) :
    turn.kept = latest? (before ++ [turn]) := by
  rw [latest?_concat]
  unfold Turn.brought?
  cases h with
  | fresh hkept hfresh => rfl
  | renewed hdue hreach hoffer =>
    have hsent : messages.isEmpty = false := by simpa using hreach
    simp [hsent, hoffer]
  | refused hdue hnone why =>
    rcases hnone with rfl | hoffer
    · rfl
    · simp [hoffer]
  | forgotten => rfl

/-- **Every use in a history** is made with the newest token that the uses before it tell of. -/
theorem made_of_history (loginUrl key secret : String) {uses : List (Use × Occasion)}
    (huses : ∀ u ∈ uses, u.2.Representable) (earlier : List Turn) :
    (history loginUrl key secret (latest? earlier) uses).map
        (fun turn => (turn.use, turn.occasion)) = uses ∧
      ∀ before turn after,
        history loginUrl key secret (latest? earlier) uses = before ++ turn :: after →
        turn.Made (tokenMessages loginUrl key secret) (latest? (earlier ++ before)) := by
  -- each use in turn joins those that are told of
  induction uses generalizing earlier with
  | nil => exact ⟨rfl, fun before turn after h => by simp [history] at h⟩
  | cons u rest ih =>
    obtain ⟨use, o⟩ := u
    obtain ⟨first, hfirst, hmade, hhistory⟩ :=
      exists_turn use (huses _ List.mem_cons_self) (latest? earlier) rest
    obtain ⟨hmap, hrest⟩ := ih (fun u hu => huses u (List.mem_cons_of_mem _ hu))
      (earlier ++ [first])
    rw [hhistory, hmade.kept_eq]
    refine ⟨by rw [List.map_cons, hfirst, hmap], fun before turn after h => ?_⟩
    cases before with
    | nil =>
      obtain ⟨rfl, -⟩ := List.cons.inj h
      rw [List.append_nil]
      exact hmade
    | cons first' before =>
      obtain ⟨rfl, htail⟩ := List.cons.inj h
      have hturn := hrest before turn after htail
      rwa [List.append_assoc] at hturn

/-- The newest token was brought by one of the uses. -/
theorem exists_brought {token : Token} (h : latest? before = some token) :
    ∃ earlier ∈ sinceForgotten before, earlier.brought? = some token :=
  List.exists_of_findSome?_eq_some h

theorem mem_of_mem_sinceForgotten (h : turn ∈ sinceForgotten before) : turn ∈ before :=
  List.mem_reverse.1 ((List.takeWhile_sublist _).subset h)

/-- What came before the kept token was forgotten is of no account. -/
theorem mem_of_mem_sinceForgotten_append {forgot : Turn} (hforgot : forgot.use = .forget)
    {after : List Turn} (h : turn ∈ sinceForgotten (before ++ forgot :: after)) :
    turn ∈ after := by
  unfold sinceForgotten at h
  rw [List.reverse_append, List.reverse_cons, List.append_assoc, List.takeWhile_append] at h
  -- read from the newest on, the uses end where the token was forgotten
  have hstop : ([forgot] ++ before.reverse).takeWhile (fun turn => turn.use = .want) = [] := by
    simp [hforgot]
  split at h
  · rw [hstop, List.append_nil] at h
    exact List.mem_reverse.1 h
  · exact List.mem_reverse.1 ((List.takeWhile_sublist _).subset h)

end

/-! ## Lifetimes -/

/-- Where the body of a response tells a lifetime: under its name, or in the second place. -/
def toldLifetime? : Json.Tree → Option Json.Tree
  | .object fields => Json.Fields.find? "expires_in" fields
  | .array items => items[1]?
  | _ => none

/-- The lifetime in seconds is the one that the body tells, or an hour if it tells none. -/
def LivesFor (body : Text.Bytes) (lifetime : Int) : Prop :=
  ∃ t, Json.readBytes body = some t ∧
    (toldLifetime? t = some (.number (.int lifetime)) ∨ toldLifetime? t = none ∧ lifetime = 3600)

theorem told_of_decode {t : Json.Tree} {text : String} {lifetime : Int}
    (h : tokenShape.decode t = .ok (text, lifetime)) :
    toldLifetime? t = some (.number (.int lifetime)) ∨
      toldLifetime? t = none ∧ lifetime = 3600 := by
  rcases Json.Shape.exists_of_decode h with ⟨fields, rfl, hnamed⟩ | ⟨items, rfl, hplaced⟩
  · obtain ⟨-, hlifetime⟩ := Json.Shape.of_named_both hnamed
    rcases Json.Shape.of_named_optional hlifetime with ⟨t, hfind, ht⟩ | ⟨hfind, rfl⟩
    · exact .inl (hfind.trans (congrArg some (Json.Shape.eq_of_integer ht)))
    · exact .inr ⟨hfind, rfl⟩
  · obtain ⟨rest, htext, hlifetime⟩ := Json.Shape.of_placed_both hplaced
    obtain ⟨first, rfl, -⟩ := Json.Shape.of_placed_required htext
    rcases Json.Shape.of_placed_optional hlifetime with ⟨t, rfl, ht⟩ | ⟨rfl, -, rfl⟩
    · exact .inl (congrArg some (Json.Shape.eq_of_integer ht))
    · exact .inr ⟨rfl, rfl⟩

theorem livesFor_of_offer {r : Response} {text : String} {lifetime : Int}
    (h : r.offer? = some (text, lifetime)) : LivesFor r.body lifetime := by
  unfold Response.offer? Json.Shape.ofBytes at h
  split at h
  · cases hread : Json.readBytes r.body with
    | none =>
      rw [hread] at h
      cases h
    | some t =>
      rw [hread] at h
      cases hdecode : tokenShape.decode t with
      | error e =>
        dsimp only at h
        rw [hdecode] at h
        cases h
      | ok found =>
        dsimp only at h
        rw [hdecode] at h
        cases h
        exact ⟨t, hread, told_of_decode hdecode⟩
  · cases h

/-! ## What callers can rely on -/

/-- What a use does after the uses before it, with the messages that an exchange sends. -/
structure Turn.Accords (messages : List Message) (before : List Turn) (turn : Turn) : Prop where
  /-- There is an exchange when none succeeded since the kept token was last forgotten, or the newest
  token will have expired in five minutes. -/
  asked : turn.use = .want → Due (latest? before) turn.occasion.now → turn.sent = messages
  /-- Otherwise there is none: the newest token is told, which lasts for more than five minutes. -/
  served : turn.use = .want → ¬ Due (latest? before) turn.occasion.now →
    turn.sent = [] ∧ ∃ token, latest? before = some token ∧
      turn.occasion.now + gracePeriod < token.expiry ∧
      turn.result = .ok (some token.text) ∧ turn.kept = latest? before
  /-- A token is told again only if it was handed out for more than five minutes. -/
  lasting : turn.use = .want → turn.sent = [] → ∀ text, turn.result = .ok (some text) →
    ∃ earlier ∈ before, ∃ lifetime, earlier.occasion.offer? = some (text, lifetime) ∧ 300 < lifetime
  /-- A new token is told, and kept from the time of the exchange for as long as it lives. -/
  renewed : turn.use = .want → Due (latest? before) turn.occasion.now → messages ≠ [] →
    ∀ r text lifetime, turn.occasion.reply = some r → r.offer? = some (text, lifetime) →
      turn.result = .ok (some text) ∧
        turn.kept = some ⟨text, turn.occasion.arrival + lifetime * second⟩ ∧
        LivesFor r.body lifetime
  /-- An exchange that fails is a fault of authentication and leaves what was kept. -/
  refused : turn.use = .want → Due (latest? before) turn.occasion.now →
    (messages = [] ∨ turn.occasion.offer? = none) →
    (∃ why, turn.result = .error (.authentication why)) ∧ turn.kept = latest? before
  /-- A token that is forgotten is not kept. -/
  forgotten : turn.use = .forget → turn.sent = [] ∧ turn.kept = none
  /-- What is kept from one use to the next is the newest token. -/
  kept : turn.kept = latest? (before ++ [turn])

section
variable {uses : List (Use × Occasion)} {messages : List Message} {before after : List Turn}
  {turn : Turn}

/-- What comes before a use is over when it begins. -/
theorem arrival_le_now (hforward : Forward uses)
    (huses : (before ++ turn :: after).map (fun turn => (turn.use, turn.occasion)) = uses)
    {earlier : Turn} (hearlier : earlier ∈ before) :
    earlier.occasion.arrival ≤ turn.occasion.now := by
  unfold Forward at hforward
  rw [← huses, List.map_append, List.pairwise_flatMap, List.pairwise_append] at hforward
  exact hforward.2.2.2 _ (List.mem_map_of_mem hearlier) _ (List.mem_map_of_mem List.mem_cons_self)
    _ (List.mem_cons_of_mem _ List.mem_cons_self) _ List.mem_cons_self

/-- A token that lasts for more than five minutes from now was handed out for longer than that. -/
theorem exists_lasting {token : Token} {now : Instant} (h : latest? before = some token)
    (hfresh : now + gracePeriod < token.expiry)
    (hpast : ∀ earlier ∈ before, earlier.occasion.arrival ≤ now) :
    ∃ earlier ∈ before, ∃ lifetime,
      earlier.occasion.offer? = some (token.text, lifetime) ∧ 300 < lifetime := by
  obtain ⟨earlier, hsince, hbrought⟩ := exists_brought h
  have hearlier := mem_of_mem_sinceForgotten hsince
  unfold Turn.brought? at hbrought
  split at hbrought
  · cases hbrought
  · obtain ⟨⟨text, lifetime⟩, hoffer, rfl⟩ := Option.map_eq_some_iff.1 hbrought
    refine ⟨earlier, hearlier, lifetime, hoffer, ?_⟩
    have harrival : (earlier.occasion.arrival : Int) ≤ now := hpast earlier hearlier
    have hexpiry : now + 300 * second < earlier.occasion.arrival + lifetime * second := hfresh
    -- time has only gone on since the token was handed out
    have hlonger : 300 * second < lifetime * second := by
      have hsum := Int.lt_of_lt_of_le hexpiry (Int.add_le_add_right harrival (lifetime * second))
      exact Int.lt_of_add_lt_add_left hsum
    exact Int.lt_of_mul_lt_mul_right hlonger (by decide)

/-- A use that was made as told is in accord with the uses before it. -/
theorem Turn.Made.accords (h : turn.Made messages (latest? before))
    (hpast : ∀ earlier ∈ before, earlier.occasion.arrival ≤ turn.occasion.now) :
    turn.Accords messages before := by
  have hnewest := h.kept_eq
  -- whether a new token is due tells which of the fields say something
  cases h with
  | fresh hkept hfresh =>
    have hlasts : ¬ Due (latest? before) _ := fun hdue => Int.not_lt.2 (hdue _ hkept) hfresh
    exact {
      asked := fun _ hdue => absurd hdue hlasts
      served := fun _ _ => ⟨rfl, _, hkept, hfresh, rfl, rfl⟩
      lasting := by
        intro _ _ text htext
        cases htext
        exact exists_lasting hkept hfresh hpast
      renewed := fun _ hdue => absurd hdue hlasts
      refused := fun _ hdue => absurd hdue hlasts
      forgotten := nofun
      kept := hnewest }
  | renewed hdue hreach hoffer =>
    exact {
      asked := fun _ _ => rfl
      served := fun _ hlasts => absurd hdue hlasts
      lasting := fun _ hsent => absurd hsent hreach
      renewed := by
        intro _ _ _ r text lifetime hreply hr
        have hsame := hoffer.symm.trans (Option.bind_eq_some_iff.2 ⟨r, hreply, hr⟩)
        cases hsame
        exact ⟨rfl, rfl, livesFor_of_offer hr⟩
      refused := by
        rintro - - (hnone | hnone)
        · exact absurd hnone hreach
        · cases hoffer.symm.trans hnone
      forgotten := nofun
      kept := hnewest }
  | refused hdue hnone why =>
    exact {
      asked := fun _ _ => rfl
      served := fun _ hlasts => absurd hdue hlasts
      lasting := nofun
      renewed := by
        intro _ _ hreach r text lifetime hreply hr
        have hoffer := Option.bind_eq_some_iff.2 ⟨r, hreply, hr⟩
        cases (hnone.resolve_left hreach).symm.trans hoffer
      refused := fun _ _ _ => ⟨⟨why, rfl⟩, rfl⟩
      forgotten := nofun
      kept := hnewest }
  | forgotten =>
    exact {
      asked := nofun
      served := nofun
      lasting := nofun
      renewed := nofun
      refused := nofun
      forgotten := fun _ => ⟨rfl, rfl⟩
      kept := hnewest }

/-- After the kept token was forgotten, a token that is told was brought since then. -/
theorem exists_renewal {forgot : Turn} {between : List Turn} (hforgot : forgot.use = .forget)
    (h : turn.Made messages (latest? (before ++ forgot :: between))) {text : String}
    (htext : turn.result = .ok (some text)) :
    ∃ renewal ∈ between ++ [turn], renewal.brought?.isSome := by
  cases h with
  | fresh hkept hfresh =>
    -- the kept token is the newest one, and no use before the last forgetting counts for that
    obtain ⟨earlier, hsince, hbrought⟩ := exists_brought hkept
    have hbetween := mem_of_mem_sinceForgotten_append hforgot hsince
    exact ⟨earlier, List.mem_append_left _ hbetween, by rw [hbrought]; rfl⟩
  | renewed hdue hreach hoffer =>
    have hsent : messages.isEmpty = false := by simpa using hreach
    refine ⟨_, List.mem_append_right _ (List.mem_singleton_self _), ?_⟩
    unfold Turn.brought?
    simp [hsent, hoffer]
  | refused hdue hnone why => cases htext
  | forgotten => cases htext

end

/-- **Tokens over uses.** Whatever exchanges bring and however time goes on, every use comes to its
end in accord with the uses before it; and once the kept token was forgotten, no token is told before
an exchange has brought another one. -/
theorem tokens_over_uses (loginUrl key secret : String) (uses : List (Use × Occasion))
    (hforward : Forward uses) (hexpire : ∀ u ∈ uses, u.2.Representable) :
    let turns := history loginUrl key secret none uses
    turns.map (fun turn => (turn.use, turn.occasion)) = uses ∧
    (∀ before turn after, turns = before ++ turn :: after →
      turn.Accords (tokenMessages loginUrl key secret) before) ∧
    ∀ before forgot between turn after, turns = before ++ forgot :: between ++ turn :: after →
      forgot.use = .forget → ∀ text, turn.result = .ok (some text) →
      ∃ renewal ∈ between ++ [turn], renewal.brought?.isSome := by
  obtain ⟨huses, hmade⟩ := made_of_history loginUrl key secret hexpire []
  refine ⟨huses, fun before turn after h => ?_, fun before forgot between turn after h => ?_⟩
  · refine (hmade before turn after h).accords fun earlier hearlier => ?_
    exact arrival_le_now hforward (h ▸ huses) hearlier
  · intro hforgot text htext
    exact exists_renewal hforgot (hmade (before ++ forgot :: between) turn after h) htext

/-! ## A token that is told again, runs out, is forgotten and replaced -/

/-- An occasion this many seconds after the start. -/
def occasionAt (seconds : Int) (reply : Option Response) : Occasion :=
  ⟨seconds * second, reply, (seconds + 1) * second⟩

/-- A token of two hours, of which five minutes are left at the third use; then the connection breaks
down. After the token was forgotten, an exchange is refused and another brings a token without a
lifetime. -/
def sampleUses : List (Use × Occasion) :=
  [(.want, occasionAt 0
      (some ⟨200, [], Text.utf8 "\x7b\"access_token\": \"a\", \"expires_in\": 7200\x7d"⟩)),
    (.want, occasionAt 6900 none),
    (.want, occasionAt 6901 none),
    (.forget, occasionAt 6902 none),
    (.want, occasionAt 6903 (some ⟨401, [], []⟩)),
    (.want, occasionAt 6904 (some ⟨200, [], Text.utf8 "\x7b\"access_token\": \"b\"\x7d"⟩)),
    (.want, occasionAt 10204 none)]

theorem tokens_over_uses_sample :
    Forward sampleUses ∧ (∀ u ∈ sampleUses, u.2.Representable) ∧
      let turns := history "https://h/token" "key" "secret" none sampleUses
      turns.map (fun turn => turn.result.toOption) =
        [some (some "a"), some (some "a"), none, some none, none, some (some "b"), some (some "b")] ∧
      ∃ h : 2 < turns.length, (∃ why, turns[2].result = .error (.authentication why)) ∧
        turns[2].kept = some ⟨"a", 7201 * second⟩ := by
  have hforward : Forward sampleUses := by
    unfold Forward
    decide
  have hexpire : ∀ u ∈ sampleUses, u.2.Representable := by
    unfold Occasion.Representable
    decide
  obtain ⟨-, haccords, -⟩ := tokens_over_uses "https://h/token" "key" "secret" sampleUses hforward
    hexpire
  have hlength : 2 < (history "https://h/token" "key" "secret" none sampleUses).length := by decide
  have hkept : latest? ((history "https://h/token" "key" "secret" none sampleUses).take 2) =
      some ⟨"a", 7201 * second⟩ := rfl
  have hdue : Due (some ⟨"a", 7201 * second⟩) (6901 * second) := by
    unfold Due
    decide
  have hsplit : history "https://h/token" "key" "secret" none sampleUses = _ ++ _ :: _ :=
    (List.take_append_drop 2 _).symm.trans
      (congrArg _ (List.drop_eq_getElem_cons hlength))
  have hthird := haccords _ _ _ hsplit
  refine ⟨hforward, hexpire, rfl, hlength, ?_⟩
  rw [← hkept]
  refine hthird.refused rfl ?_ (.inr rfl)
  rw [hkept]
  exact hdue

end AccessSync.Http
