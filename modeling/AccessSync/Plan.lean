/-!
# Plans

A plan is work that depends on answers from outside: it asks questions, leaves notes, and ends
with a result or stops without one. What answers a question is up to whoever runs the plan, so a
plan can be run against a server, against a script or inside another plan.

* `Plan.run`: a plan under a handler of its questions.
* `Plan.run_bind`: running does one plan after the other.
* `repeatUpTo`: a step repeated until it yields a result.
-/

namespace AccessSync

/-- Why a plan stops without a result. -/
inductive Stop
  /-- The plan has gone round as often as it may. -/
  | rounds
  /-- An instant lies outside the calendar. -/
  | calendar
deriving DecidableEq, Repr

/-- A plan leaves notes of type `N`, asks questions `q` that are answered by an `R q`, and ends with
a result of type `α`. -/
inductive Plan (N : Type) {Q : Type} (R : Q → Type) (α : Type) : Type
  | done (a : α)
  | stop (why : Stop)
  | note (n : N) (rest : Plan N R α)
  | ask (q : Q) (next : R q → Plan N R α)

/-- What a monad has to offer for running plans in it. -/
structure Handler (N : Type) {Q : Type} (R : Q → Type) (m : Type → Type) where
  stop : {α : Type} → Stop → m α
  note : N → m Unit
  answer : (q : Q) → m (R q)

namespace Plan

variable {N M Q : Type} {R : Q → Type} {α β : Type}

/-- The first plan, then the plan for its result. -/
def bind : Plan N R α → (α → Plan N R β) → Plan N R β
  | done a, f => f a
  | stop why, _ => stop why
  | note n rest, f => note n (bind rest f)
  | ask q next, f => ask q fun r => bind (next r) f

instance : Monad (Plan N R) where
  pure := done
  bind := bind

@[simp] theorem pure_eq (a : α) : (pure a : Plan N R α) = done a := rfl

@[simp] theorem done_bind (a : α) (f : α → Plan N R β) : done a >>= f = f a := rfl

@[simp] theorem stop_bind (why : Stop) (f : α → Plan N R β) :
    (stop why : Plan N R α) >>= f = stop why := rfl

@[simp] theorem note_bind (n : N) (rest : Plan N R α) (f : α → Plan N R β) :
    note n rest >>= f = note n (rest >>= f) := rfl

@[simp] theorem ask_bind (q : Q) (next : R q → Plan N R α) (f : α → Plan N R β) :
    ask q next >>= f = ask q fun r => next r >>= f := rfl

theorem bind_done (p : Plan N R α) : p >>= done = p := by
  induction p with
  | done a => rfl
  | stop why => rfl
  | note n rest ih => simp [ih]
  | ask q next ih => simp [ih]

theorem bind_assoc {γ : Type} (p : Plan N R α) (f : α → Plan N R β) (g : β → Plan N R γ) :
    p >>= f >>= g = p >>= fun a => f a >>= g := by
  induction p with
  | done a => rfl
  | stop why => rfl
  | note n rest ih => simp [ih]
  | ask q next ih => simp [ih]

instance : LawfulMonad (Plan N R) :=
  LawfulMonad.mk' (Plan N R) (fun p => bind_done p) (fun _ _ => rfl) bind_assoc

/-- The note `n` and nothing else. -/
def report (n : N) : Plan N R Unit := note n (done ())

/-- The question `q` and nothing else. -/
def query (q : Q) : Plan N R (R q) := ask q done

/-! ## Running -/

/-- The plan in a monad that handles its questions and notes. -/
def run {m : Type → Type} [Monad m] (h : Handler N R m) : Plan N R α → m α
  | done a => pure a
  | stop why => h.stop why
  | note n rest => do h.note n; run h rest
  | ask q next => do run h (next (← h.answer q))

/-- Running one plan after the other; a stop has to end everything that comes after it. -/
theorem run_bind {m : Type → Type} [Monad m] [LawfulMonad m] (h : Handler N R m)
    (hs : ∀ (why : Stop) (f : α → m β), (h.stop why : m α) >>= f = h.stop why)
    (p : Plan N R α) (f : α → Plan N R β) :
    (p >>= f).run h = p.run h >>= fun a => (f a).run h := by
  induction p with
  | done a => simp [run]
  | stop why => simp [run, hs]
  | note n rest ih => simp [run, ih]
  | ask q next ih => simp [run, ih]

/-- The plan with each note replaced by the notes it stands for. -/
def mapNotes (f : N → List M) : Plan N R α → Plan M R α
  | done a => done a
  | stop why => stop why
  | note n rest => (f n).foldr note (mapNotes f rest)
  | ask q next => ask q fun r => mapNotes f (next r)

end Plan

/-- The step repeated from a state on until it yields a result, at most as often as given;
`endless` takes the place of a result after that. -/
def repeatUpTo {m : Type → Type} [Monad m] {σ α : Type} (endless : m α) (step : σ → m (σ ⊕ α)) :
    Nat → σ → m α
  | 0, _ => endless
  | n + 1, s => do
    match ← step s with
    | .inl next => repeatUpTo endless step n next
    | .inr a => pure a

end AccessSync
