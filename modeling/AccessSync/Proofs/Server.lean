import AccessSync.Api.Client
import AccessSync.Api.Dialogue
import AccessSync.Proofs.Plan

/-!
# Servers

A server that does not change is the reply it has for each endpoint. What an operation does against
it is the result of a plan; against a server that may let requests fail, an operation that asks and
never looks at a fault either fails or does what it does without faults.

* `Chain`: a list in pages, each of which tells the cursor of the next one.
* `Operation.Steady`: faults make the operation fail and change nothing else.
* `result_run_handler`: a client over replies to requests is such a server.
-/

namespace AccessSync

open Api (Endpoint)

/-- What a server replies to each endpoint. -/
abbrev Server : Type := (e : Endpoint) → e.Reply

/-- The replies of a server that may let any request fail. -/
def Server.mayFail (s : Server) (e : Endpoint) (r : e.Reply) : Prop := r = s e ∨ ∃ f, r = .error f

/-! ## Lists in pages -/

/-- The pages of a list that is asked for by cursor, from a cursor on: every page but the last tells
the cursor of the next one. -/
inductive Chain {ε α : Type} (fetch : String → Except ε (Page α)) : String → List (Page α) → Prop
  | last {cursor : String} {page : Page α} (found : fetch cursor = .ok page)
      (ends : page.next = "") : Chain fetch cursor [page]
  | more {cursor : String} {page : Page α} {rest : List (Page α)} (found : fetch cursor = .ok page)
      (goes : page.next ≠ "") (tail : Chain fetch page.next rest) :
      Chain fetch cursor (page :: rest)

/-- The items of pages, one page after the other. -/
def Page.concat {α : Type} (pages : List (Page α)) : List α := pages.flatMap (·.items)

namespace Chain

variable {ε α : Type} {fetch : String → Except ε (Page α)} {cursor : String} {pages : List (Page α)}

theorem ne_nil (h : Chain fetch cursor pages) : pages ≠ [] := by cases h <;> simp

/-- There is one chain from a cursor. -/
theorem unique (h : Chain fetch cursor pages) {others : List (Page α)}
    (h' : Chain fetch cursor others) : pages = others := by
  induction h generalizing others with
  | last found ends =>
    cases h' with
    | last found' ends' => rw [found] at found'; cases found'; rfl
    | more found' goes' tail' => rw [found] at found'; cases found'; exact absurd ends goes'
  | more found goes tail ih =>
    cases h' with
    | last found' ends' => rw [found] at found'; cases found'; exact absurd ends' goes
    | more found' goes' tail' => rw [found] at found'; cases found'; rw [ih tail']

/-- What is made of the pages of a chain, each with the cursor of its page, is a chain. -/
theorem map {ε' β : Type} {fetch' : String → Except ε' (Page β)} (h : Chain fetch cursor pages)
    (hf : ∀ c page, fetch c = .ok page → ∃ page', fetch' c = .ok page' ∧ page'.next = page.next) :
    ∃ pages', Chain fetch' cursor pages' := by
  induction h with
  | last found ends =>
    obtain ⟨page', hfound, hnext⟩ := hf _ _ found
    exact ⟨_, .last hfound (hnext.trans ends)⟩
  | more found goes tail ih =>
    obtain ⟨page', hfound, hnext⟩ := hf _ _ found
    obtain ⟨rest, hrest⟩ := ih
    exact ⟨_, .more hfound (hnext ▸ goes) (hnext ▸ hrest)⟩

/-- The cursors at which the pages of a chain are asked for. -/
def cursors (cursor : String) : List (Page α) → List String
  | [] => []
  | page :: rest => cursor :: cursors page.next rest

theorem length_cursors (cursor : String) (pages : List (Page α)) :
    (cursors cursor pages).length = pages.length := by
  induction pages generalizing cursor with
  | nil => rfl
  | cons page rest ih => simp [cursors, ih]

/-- From each cursor of a chain on there is a chain, no longer than the whole. -/
theorem of_mem_cursors (h : Chain fetch cursor pages) {c : String} (hc : c ∈ cursors cursor pages) :
    ∃ rest, Chain fetch c rest ∧ rest.length ≤ pages.length := by
  induction h with
  | last found ends =>
    obtain rfl : c = _ := by simpa [cursors] using hc
    exact ⟨_, .last found ends, Nat.le_refl _⟩
  | more found goes tail ih =>
    rcases List.mem_cons.1 hc with rfl | hc
    · exact ⟨_, .more found goes tail, Nat.le_refl _⟩
    · obtain ⟨rest, hr, hl⟩ := ih hc
      exact ⟨rest, hr, Nat.le_trans hl (Nat.le_succ _)⟩

/-- **No cursor comes twice in a chain**, or it would never end. -/
theorem nodup_cursors (h : Chain fetch cursor pages) : (cursors cursor pages).Nodup := by
  induction h with
  | last found ends => simp [cursors]
  | more found goes tail ih =>
    rw [cursors, List.nodup_cons]
    refine ⟨fun hc => ?_, ih⟩
    -- from the same cursor there would be a shorter chain, but there is only one
    obtain ⟨rest, hr, hl⟩ := tail.of_mem_cursors hc
    have heq := hr.unique (.more found goes tail)
    rw [heq, List.length_cons] at hl
    omega

end Chain

/-! ## Operations -/

namespace Operation

variable {α β : Type} {s : Server}

@[simp] theorem run_ask (e : Endpoint) :
    (Operation.ask e).run = .ask e fun r => .done (r.mapError Fault.failure) := rfl

@[simp] theorem run_ofExcept (r : Except Failure α) : (Operation.ofExcept r).run = .done r := rfl

theorem result_bind_of_ok {x : Operation α} {a : α} (h : x.run.result s = .ok (.ok a))
    (f : α → Operation β) : (x >>= f).run.result s = (f a).run.result s := by
  rw [Plan.run_exceptT_bind, Plan.result_bind_of_ok h]

theorem result_ask_of_ok {e : Endpoint} {a : e.Answer} (h : s e = .ok a) :
    (Operation.ask e).run.result s = .ok (.ok a) := by
  rw [run_ask, Plan.result_ask, Plan.result_done, h]
  rfl

theorem does_ask (e : Endpoint) :
    (Operation.ask e).run.Does s ((s e).mapError Fault.failure) [e] [] :=
  Plan.does_ask (Plan.does_done _)

theorem does_attempt (e : Endpoint) : (Operation.attempt e).run.Does s (.ok (s e)) [e] [] :=
  Plan.does_ask (Plan.does_done _)

theorem does_report (e : Event) : (Operation.report e).run.Does s (.ok ()) [] [e] :=
  Plan.does_note e (Plan.does_done _)

/-- A server that lets requests fail makes the operation fail or changes nothing. -/
def Steady (s : Server) (x : Operation α) : Prop :=
  ∀ r, x.run.Yields s.mayFail r → (∃ f, r = .error f) ∨ x.run.result s = .ok r

theorem steady_pure (a : α) : Steady s (pure a) := by
  intro r h
  right
  obtain rfl : Except.ok a = r := h
  rfl

theorem steady_ask (e : Endpoint) : Steady s (Operation.ask e) := by
  rintro r ⟨reply, hreply, h⟩
  obtain rfl : reply.mapError Fault.failure = r := h
  rcases hreply with rfl | ⟨f, rfl⟩
  · exact .inr rfl
  · exact .inl ⟨f.failure, rfl⟩

theorem Steady.bind {x : Operation α} (hx : Steady s x) {f : α → Operation β}
    (hf : ∀ a, Steady s (f a)) : Steady s (x >>= f) := by
  intro r h
  rw [Plan.run_exceptT_bind, Plan.yields_bind] at h
  obtain ⟨a, ha, hr⟩ := h
  cases a with
  | error e =>
    obtain rfl : Except.error e = r := hr
    exact .inl ⟨e, rfl⟩
  | ok a =>
    rcases hx _ ha with ⟨e, he⟩ | hok
    · cases he
    · rw [result_bind_of_ok hok]
      exact hf a r hr

end Operation

/-! ## Clients as servers -/

/-- The server that a client makes of the replies to its requests. -/
def Api.Client.server (c : Client) (reply : (r : Request) → r.Reply) : Server := fun e =>
  match c.request e with
  | .error f => .error f
  | .ok r => Client.reply e (reply r)

/-- **A plan that a client carries out does what it does against the client's server.** -/
theorem result_run_handler {N α : Type} (c : Api.Client) (reply : (r : Api.Request) → r.Reply)
    (p : Plan N Endpoint.Reply α) : (p.run c.handler).result reply = p.result (c.server reply) := by
  induction p with
  | done a => rfl
  | stop why => rfl
  | note n rest ih => exact ih
  | ask e next ih =>
    have hanswer : (c.answer e : Plan N Api.Request.Reply e.Reply).result reply =
        .ok (c.server reply e) := by
      unfold Api.Client.answer Api.Client.server
      cases c.request e <;> rfl
    show (c.answer e >>= fun r => (next r).run c.handler).result reply = _
    rw [Plan.result_bind_of_ok hanswer]
    exact ih _

end AccessSync
