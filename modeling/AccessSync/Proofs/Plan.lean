import AccessSync.Plan

/-!
# What a plan does

A plan is looked at from outside in two ways. When every question has one reply, the plan has one
result, and asks and notes certain things on the way (`Plan.result`, `Plan.asked`, `Plan.noted`, and
all three in `Plan.Does`).
When a question may have several replies, the plan may end in several ways (`Plan.Yields`).

* `result_bind`, `Does.bind`, `yields_bind`: one plan after the other.
* `result_eq_run`: the result is what running the plan gives.
-/

namespace AccessSync.Plan

variable {N Q : Type} {R : Q → Type} {α β : Type}

/-- How a plan ends when every question has its reply. -/
def result (reply : (q : Q) → R q) : Plan N R α → Except Stop α
  | done a => .ok a
  | stop why => .error why
  | note _ rest => rest.result reply
  | ask q next => (next (reply q)).result reply

/-- The questions that are asked on the way, in order. -/
def asked (reply : (q : Q) → R q) : Plan N R α → List Q
  | done _ => []
  | stop _ => []
  | note _ rest => rest.asked reply
  | ask q next => q :: (next (reply q)).asked reply

/-- The notes that are left on the way, in order. -/
def noted (reply : (q : Q) → R q) : Plan N R α → List N
  | done _ => []
  | stop _ => []
  | note n rest => n :: rest.noted reply
  | ask q next => (next (reply q)).noted reply

/-- The plan ends with `a`, having asked these questions and left these notes. -/
structure Does (reply : (q : Q) → R q) (p : Plan N R α) (a : α) (questions : List Q)
    (notes : List N) : Prop where
  result : p.result reply = .ok a
  asked : p.asked reply = questions
  noted : p.noted reply = notes

/-- The plan may end with `a` when a question may have any of the replies that `may` tells. -/
def Yields (may : (q : Q) → R q → Prop) : Plan N R α → α → Prop
  | done b, a => b = a
  | stop _, _ => False
  | note _ rest, a => rest.Yields may a
  | ask q next, a => ∃ r, may q r ∧ (next r).Yields may a

/-- Any reply to any question. -/
def AnyReply (q : Q) (_ : R q) : Prop := True

/-- The question that a plan asks first, if it asks any. -/
def first? : Plan N R α → Option Q
  | done _ => none
  | stop _ => none
  | note _ rest => rest.first?
  | ask q _ => some q

section
variable {reply : (q : Q) → R q} {may : (q : Q) → R q → Prop}

@[simp] theorem result_done (a : α) : (done a : Plan N R α).result reply = .ok a := rfl

@[simp] theorem result_stop (why : Stop) : (stop why : Plan N R α).result reply = .error why := rfl

@[simp] theorem result_note (n : N) (rest : Plan N R α) :
    (note n rest).result reply = rest.result reply := rfl

@[simp] theorem result_ask (q : Q) (next : R q → Plan N R α) :
    (ask q next).result reply = (next (reply q)).result reply := rfl

@[simp] theorem asked_done (a : α) : (done a : Plan N R α).asked reply = [] := rfl

@[simp] theorem asked_note (n : N) (rest : Plan N R α) :
    (note n rest).asked reply = rest.asked reply := rfl

@[simp] theorem asked_ask (q : Q) (next : R q → Plan N R α) :
    (ask q next).asked reply = q :: (next (reply q)).asked reply := rfl

@[simp] theorem noted_done (a : α) : (done a : Plan N R α).noted reply = [] := rfl

@[simp] theorem noted_note (n : N) (rest : Plan N R α) :
    (note n rest).noted reply = n :: rest.noted reply := rfl

@[simp] theorem noted_ask (q : Q) (next : R q → Plan N R α) :
    (ask q next).noted reply = (next (reply q)).noted reply := rfl

@[simp] theorem yields_done (a b : α) : (done b : Plan N R α).Yields may a ↔ b = a := Iff.rfl

@[simp] theorem yields_ask (q : Q) (next : R q → Plan N R α) (a : α) :
    (ask q next).Yields may a ↔ ∃ r, may q r ∧ (next r).Yields may a := Iff.rfl

/-- The second plan starts from the result of the first. -/
theorem result_bind (p : Plan N R α) (f : α → Plan N R β) :
    (p >>= f).result reply = p.result reply >>= fun a => (f a).result reply := by
  induction p with
  | done a => rfl
  | stop why => rfl
  | note n rest ih => exact ih
  | ask q next ih => exact ih (reply q)

theorem result_bind_of_ok {p : Plan N R α} {a : α} (h : p.result reply = .ok a)
    (f : α → Plan N R β) : (p >>= f).result reply = (f a).result reply := by
  rw [result_bind, h]; rfl

/-- The questions of the second plan come after those of the first. -/
theorem asked_bind {p : Plan N R α} {a : α} (h : p.result reply = .ok a) (f : α → Plan N R β) :
    (p >>= f).asked reply = p.asked reply ++ (f a).asked reply := by
  induction p with
  | done b => obtain rfl : b = a := by simpa using h
              rfl
  | stop why => simp at h
  | note n rest ih => exact ih h
  | ask q next ih => rw [ask_bind, asked_ask, asked_ask, ih (reply q) h, List.cons_append]

/-- The notes of the second plan come after those of the first. -/
theorem noted_bind {p : Plan N R α} {a : α} (h : p.result reply = .ok a) (f : α → Plan N R β) :
    (p >>= f).noted reply = p.noted reply ++ (f a).noted reply := by
  induction p with
  | done b => obtain rfl : b = a := by simpa using h
              rfl
  | stop why => simp at h
  | note n rest ih => rw [note_bind, noted_note, noted_note, ih h, List.cons_append]
  | ask q next ih => exact ih (reply q) h

/-- Work on the result leaves nothing more. -/
theorem noted_bind_done (p : Plan N R α) (f : α → β) :
    (p >>= fun a => done (f a)).noted reply = p.noted reply := by
  induction p with
  | done a => rfl
  | stop why => rfl
  | note n rest ih => exact congrArg (n :: ·) ih
  | ask q next ih => exact ih (reply q)

theorem does_done (a : α) : (done a : Plan N R α).Does reply a [] [] := ⟨rfl, rfl, rfl⟩

theorem does_ask {q : Q} {next : R q → Plan N R α} {a : α} {questions : List Q} {notes : List N}
    (h : (next (reply q)).Does reply a questions notes) :
    (ask q next).Does reply a (q :: questions) notes :=
  ⟨h.result, congrArg (q :: ·) h.asked, h.noted⟩

theorem does_note (n : N) {rest : Plan N R α} {a : α} {questions : List Q} {notes : List N}
    (h : rest.Does reply a questions notes) : (note n rest).Does reply a questions (n :: notes) :=
  ⟨h.result, h.asked, congrArg (n :: ·) h.noted⟩

/-- **One plan after the other** asks and notes what both do. -/
theorem Does.bind {p : Plan N R α} {a : α} {questions more : List Q} {notes further : List N}
    (hp : p.Does reply a questions notes) {f : α → Plan N R β} {b : β}
    (hf : (f a).Does reply b more further) :
    (p >>= f).Does reply b (questions ++ more) (notes ++ further) where
  result := by rw [result_bind_of_ok hp.result, hf.result]
  asked := by rw [asked_bind hp.result, hp.asked, hf.asked]
  noted := by rw [noted_bind hp.result, hp.noted, hf.noted]

/-- Whatever ends both plans ends the first and then the second. -/
theorem yields_bind (p : Plan N R α) (f : α → Plan N R β) (b : β) :
    (p >>= f).Yields may b ↔ ∃ a, p.Yields may a ∧ (f a).Yields may b := by
  induction p with
  | done a => simp
  | stop why => simp [Yields]
  | note n rest ih => exact ih
  | ask q next ih =>
    rw [ask_bind, yields_ask]
    constructor
    · rintro ⟨r, hr, h⟩
      obtain ⟨a, ha, hb⟩ := (ih r).1 h
      exact ⟨a, ⟨r, hr, ha⟩, hb⟩
    · rintro ⟨a, ⟨r, hr, ha⟩, hb⟩
      exact ⟨r, hr, (ih r).2 ⟨a, ha, hb⟩⟩

/-- What a plan does when every question has its reply, it may do when there are others as well. -/
theorem yields_of_result (hmay : ∀ q, may q (reply q)) {p : Plan N R α} {a : α}
    (h : p.result reply = .ok a) : p.Yields may a := by
  induction p with
  | done b => exact Except.ok.inj h
  | stop why => cases h
  | note n rest ih => exact ih h
  | ask q next ih => exact ⟨reply q, hmay q, ih (reply q) h⟩

/-- With more replies to a question, a plan may end in more ways. -/
theorem Yields.mono {may' : (q : Q) → R q → Prop} (hmay : ∀ q r, may q r → may' q r)
    {p : Plan N R α} {a : α} (h : p.Yields may a) : p.Yields may' a := by
  induction p with
  | done b => exact h
  | stop why => exact h
  | note n rest ih => exact ih h
  | ask q next ih =>
    obtain ⟨r, hr, h⟩ := h
    exact ⟨r, hmay q r hr, ih r h⟩

theorem yields_any_of_result {p : Plan N R α} {a : α} (h : p.result reply = .ok a) :
    p.Yields AnyReply a := yields_of_result (fun _ => trivial) h

/-! ## Other notes -/

section
variable {M : Type} (f : N → List M)

theorem result_foldr_note (notes : List M) (p : Plan M R α) :
    (notes.foldr note p).result reply = p.result reply := by
  induction notes with
  | nil => rfl
  | cons n rest ih => exact ih

theorem noted_foldr_note (notes : List M) (p : Plan M R α) :
    (notes.foldr note p).noted reply = notes ++ p.noted reply := by
  induction notes with
  | nil => rfl
  | cons n rest ih => rw [List.foldr_cons, noted_note, ih, List.cons_append]

theorem asked_foldr_note (notes : List M) (p : Plan M R α) :
    (notes.foldr note p).asked reply = p.asked reply := by
  induction notes with
  | nil => rfl
  | cons n rest ih => exact ih

theorem foldr_note_bind (notes : List M) (p : Plan M R α) (g : α → Plan M R β) :
    notes.foldr note p >>= g = notes.foldr note (p >>= g) := by
  induction notes with
  | nil => rfl
  | cons n rest ih => rw [List.foldr_cons, note_bind, ih, List.foldr_cons]

/-- Other notes make no other result. -/
theorem result_mapNotes (p : Plan N R α) : (p.mapNotes f).result reply = p.result reply := by
  induction p with
  | done a => rfl
  | stop why => rfl
  | note n rest ih => rw [mapNotes, result_foldr_note, ih, result_note]
  | ask q next ih => exact ih (reply q)

/-- Other notes make no other questions. -/
theorem asked_mapNotes (p : Plan N R α) : (p.mapNotes f).asked reply = p.asked reply := by
  induction p with
  | done a => rfl
  | stop why => rfl
  | note n rest ih => rw [mapNotes, asked_foldr_note, ih, asked_note]
  | ask q next ih => exact congrArg (q :: ·) (ih (reply q))

/-- Other notes are left by one plan after the other. -/
theorem mapNotes_bind (p : Plan N R α) (g : α → Plan N R β) :
    (p >>= g).mapNotes f = p.mapNotes f >>= fun a => (g a).mapNotes f := by
  induction p with
  | done a => rfl
  | stop why => rfl
  | note n rest ih => rw [note_bind, mapNotes, mapNotes, foldr_note_bind, ih]
  | ask q next ih =>
    rw [ask_bind, mapNotes, mapNotes, ask_bind]
    exact congrArg (Plan.ask q) (funext ih)

theorem noted_mapNotes (p : Plan N R α) :
    (p.mapNotes f).noted reply = (p.noted reply).flatMap f := by
  induction p with
  | done a => rfl
  | stop why => rfl
  | note n rest ih => rw [mapNotes, noted_foldr_note, ih, noted_note, List.flatMap_cons]
  | ask q next ih => exact ih (reply q)

/-- A plan with other notes, of whose result something is made. -/
theorem does_mapNotes_done {p : Plan N R α} {a : α} (h : p.result reply = .ok a) (g : α → β) :
    (p.mapNotes f >>= fun a => done (g a)).Does reply (g a) (p.asked reply)
      ((p.noted reply).flatMap f) := by
  have hmap : (p.mapNotes f).Does reply a (p.asked reply) ((p.noted reply).flatMap f) :=
    ⟨(result_mapNotes f p).trans h, asked_mapNotes f p, noted_mapNotes f p⟩
  rw [← List.append_nil (p.asked reply), ← List.append_nil ((p.noted reply).flatMap f)]
  exact hmap.bind (does_done (g a))

end

/-- **The result is what running the plan gives**, in the monad where a stop is an error. -/
theorem result_eq_run (p : Plan N R α) :
    p.result reply =
      p.run { stop := .error, note := fun _ => .ok (), answer := fun q => .ok (reply q) } := by
  induction p with
  | done a => rfl
  | stop why => rfl
  | note n rest ih => exact ih
  | ask q next ih => exact ih (reply q)

/-! ## Plans that may fail -/

variable {ε : Type}

/-- What follows starts from the result, or does not start at all. -/
theorem run_exceptT_bind (x : ExceptT ε (Plan N R) α) (f : α → ExceptT ε (Plan N R) β) :
    (x >>= f).run = x.run >>= fun r =>
      match r with
      | .ok a => (f a).run
      | .error e => .done (.error e) := by
  rw [ExceptT.run_bind]
  congr 1
  funext r
  cases r <;> rfl

/-- The same for plans with a state that outlasts a failure. -/
theorem run_stateT_bind {σ : Type} (x : ExceptT ε (StateT σ (Plan N R)) α)
    (f : α → ExceptT ε (StateT σ (Plan N R)) β) (state : σ) :
    (x >>= f).run state = x.run state >>= fun out =>
      match out.1 with
      | .ok a => (f a).run out.2
      | .error e => .done (.error e, out.2) := by
  show (x.run state >>= fun out => (ExceptT.bindCont f out.1).run out.2) = _
  congr 1
  funext out
  obtain ⟨r, state'⟩ := out
  cases r <;> rfl

/-- A success of two plans is one of the first and then one of the second. -/
theorem yields_exceptT_bind_ok {x : ExceptT ε (Plan N R) α} {f : α → ExceptT ε (Plan N R) β} {b : β}
    (h : (x >>= f).run.Yields may (.ok b)) :
    ∃ a, x.run.Yields may (.ok a) ∧ (f a).run.Yields may (.ok b) := by
  rw [run_exceptT_bind, yields_bind] at h
  obtain ⟨r, hr, hb⟩ := h
  cases r with
  | error e => cases hb
  | ok a => exact ⟨a, hr, hb⟩

/-- A failure of two plans is one of the first, or one of the second after a success of the first. -/
theorem yields_exceptT_bind_error {x : ExceptT ε (Plan N R) α} {f : α → ExceptT ε (Plan N R) β}
    {e : ε} (h : (x >>= f).run.Yields may (.error e)) :
    x.run.Yields may (.error e) ∨
      ∃ a, x.run.Yields may (.ok a) ∧ (f a).run.Yields may (.error e) := by
  rw [run_exceptT_bind, yields_bind] at h
  obtain ⟨r, hr, he⟩ := h
  cases r with
  | error e' =>
    obtain rfl := Except.error.inj he
    exact .inl hr
  | ok a => exact .inr ⟨a, hr, he⟩

/-- The same when every question has its reply. -/
theorem result_exceptT_bind_ok {x : ExceptT ε (Plan N R) α} {f : α → ExceptT ε (Plan N R) β} {b : β}
    (h : (x >>= f).run.result reply = .ok (.ok b)) :
    ∃ a, x.run.result reply = .ok (.ok a) ∧ (f a).run.result reply = .ok (.ok b) := by
  rw [run_exceptT_bind, result_bind] at h
  cases hx : x.run.result reply with
  | error why => rw [hx] at h; cases h
  | ok r =>
    rw [hx] at h
    cases r with
    | error e => cases h
    | ok a => exact ⟨a, rfl, h⟩

theorem asked_exceptT_bind {x : ExceptT ε (Plan N R) α} {a : α}
    (h : x.run.result reply = .ok (.ok a)) (f : α → ExceptT ε (Plan N R) β) :
    (x >>= f).run.asked reply = x.run.asked reply ++ (f a).run.asked reply := by
  rw [run_exceptT_bind, asked_bind h]

/-- The same for plans with a state that outlasts a failure. -/
theorem result_stateT_bind_ok {σ : Type} {x : ExceptT ε (StateT σ (Plan N R)) α}
    {f : α → ExceptT ε (StateT σ (Plan N R)) β} {b : β} {state state' : σ}
    (h : ((x >>= f).run state).result reply = .ok (.ok b, state')) :
    ∃ a between, (x.run state).result reply = .ok (.ok a, between) ∧
      ((f a).run between).result reply = .ok (.ok b, state') := by
  rw [run_stateT_bind, result_bind] at h
  cases hx : (x.run state).result reply with
  | error why => rw [hx] at h; cases h
  | ok out =>
    rw [hx] at h
    obtain ⟨r, between⟩ := out
    cases r with
    | error e => cases h
    | ok a => exact ⟨a, between, rfl, h⟩

theorem yields_stateT_bind_ok {σ : Type} {x : ExceptT ε (StateT σ (Plan N R)) α}
    {f : α → ExceptT ε (StateT σ (Plan N R)) β} {b : β} {state state' : σ}
    (h : ((x >>= f).run state).Yields may (.ok b, state')) :
    ∃ a between, (x.run state).Yields may (.ok a, between) ∧
      ((f a).run between).Yields may (.ok b, state') := by
  rw [run_stateT_bind, yields_bind] at h
  obtain ⟨⟨r, between⟩, hr, hb⟩ := h
  cases r with
  | error e => cases hb
  | ok a => exact ⟨a, between, hr, hb⟩

theorem yields_stateT_bind_error {σ : Type} {x : ExceptT ε (StateT σ (Plan N R)) α}
    {f : α → ExceptT ε (StateT σ (Plan N R)) β} {e : ε} {state state' : σ}
    (h : ((x >>= f).run state).Yields may (.error e, state')) :
    (∃ between, (x.run state).Yields may (.error e, between)) ∨
      ∃ a between, (x.run state).Yields may (.ok a, between) ∧
        ((f a).run between).Yields may (.error e, state') := by
  rw [run_stateT_bind, yields_bind] at h
  obtain ⟨⟨r, between⟩, hr, he⟩ := h
  cases r with
  | error e' =>
    obtain ⟨rfl, -⟩ : e' = e ∧ between = state' := by simpa using he
    exact .inl ⟨between, hr⟩
  | ok a => exact .inr ⟨a, between, hr, he⟩

section
variable {questions more : List Q} {notes further : List N}

theorem does_pure (a : α) : (pure a : ExceptT ε (Plan N R) α).run.Does reply (.ok a) [] [] :=
  does_done _

theorem does_bind {x : ExceptT ε (Plan N R) α} {a : α}
    (hx : x.run.Does reply (.ok a) questions notes) {f : α → ExceptT ε (Plan N R) β}
    {r : Except ε β} (hf : (f a).run.Does reply r more further) :
    (x >>= f).run.Does reply r (questions ++ more) (notes ++ further) := by
  rw [run_exceptT_bind]
  exact hx.bind hf

/-- Nothing follows a failure. -/
theorem does_bind_of_error {x : ExceptT ε (Plan N R) α} {e : ε}
    (hx : x.run.Does reply (.error e) questions notes) (f : α → ExceptT ε (Plan N R) β) :
    (x >>= f).run.Does reply (.error e) questions notes := by
  rw [run_exceptT_bind, ← List.append_nil questions, ← List.append_nil notes]
  exact hx.bind (does_done (Except.error e))

/-- What follows may decide without asking or noting anything. -/
theorem does_bind_done {x : ExceptT ε (Plan N R) α} {r : Except ε α}
    (hx : x.run.Does reply r questions notes) {f : α → ExceptT ε (Plan N R) β}
    {g : α → Except ε β} (hf : ∀ a, (f a).run = done (g a)) :
    (x >>= f).run.Does reply (r >>= g) questions notes := by
  cases r with
  | error e => exact does_bind_of_error hx _
  | ok a =>
    have hdone : (f a).run.Does reply (g a) [] [] := hf a ▸ does_done (g a)
    rw [← List.append_nil questions, ← List.append_nil notes]
    exact does_bind hx hdone

end

end

end AccessSync.Plan
