import AccessSync.Proofs.Course

/-!
# What a plan leaves on its way

Some notes of a plan may tell things one after the other, a stream among all that is noted. Whether
each thing may come after those before it is a matter of the plan alone: it is told for any replies,
and for a plan that is broken off as well.

* `Plan.notedOn`: the notes that are left on a course.
* `Plan.Leaves`: things are told in an order that is allowed, whatever is replied.
* `Leaves.bind`: one plan after the other.
* `Leaves.told`: what is told on a course.
-/

namespace AccessSync

/-- A stream among notes: what a note says for it, if anything, how each thing is said, and which
things may come after others. -/
structure Stream (N T K : Type) where
  said? : N → Option T
  say : K → T
  mayFollow : List K → K → Prop

namespace Plan

variable {N M Q T K : Type} {R : Q → Type} {σ α β : Type}

/-- The notes that are left on a course, in order. -/
def notedOn (up : Responder R σ) : Plan N R α → σ → List N
  | done _, _ => []
  | stop _, _ => []
  | note n rest, s => n :: rest.notedOn up s
  | ask q next, s => (next (up q s).1).notedOn up (up q s).2

/-- **After the things told before, the plan tells others that may follow**, whatever the replies
are; if it ends with a result, then `post` holds of the result and of all that has been told. -/
def Leaves (stream : Stream N T K) (post : α → List K → Prop) : Plan N R α → List K → Prop
  | done a, before => post a before
  | stop _, _ => True
  | note n rest, before =>
    match stream.said? n with
    | none => rest.Leaves stream post before
    | some t =>
      ∃ k, stream.say k = t ∧ stream.mayFollow before k ∧ rest.Leaves stream post (before ++ [k])
  | ask _ next, before => ∀ r, (next r).Leaves stream post before

section
variable {stream : Stream N T K} {post post' : α → List K → Prop} {before : List K}

theorem leaves_note_of_none {n : N} (h : stream.said? n = none) {rest : Plan N R α} :
    (note n rest).Leaves stream post before ↔ rest.Leaves stream post before := by
  rw [Leaves, h]

theorem leaves_note_of_some {n : N} {t : T} (h : stream.said? n = some t) {rest : Plan N R α} :
    (note n rest).Leaves stream post before ↔
      ∃ k, stream.say k = t ∧ stream.mayFollow before k ∧
        rest.Leaves stream post (before ++ [k]) := by
  rw [Leaves, h]

/-- A note with something else after it tells what it told, if what comes after it goes on from
there. -/
theorem Leaves.note {Q' : Type} {R' : Q' → Type} {n : N} {rest : Plan N R α}
    (h : (Plan.note n rest).Leaves stream post before) {rest' : Plan N R' β}
    {last : β → List K → Prop}
    (hrest : ∀ after, before <+: after → rest.Leaves stream post after →
      rest'.Leaves stream last after) :
    (Plan.note n rest').Leaves stream last before := by
  cases hn : stream.said? n with
  | none =>
    rw [leaves_note_of_none hn] at h ⊢
    exact hrest before List.prefix_rfl h
  | some t =>
    rw [leaves_note_of_some hn] at h ⊢
    obtain ⟨k, hk, hmay, hafter⟩ := h
    exact ⟨k, hk, hmay, hrest _ (List.prefix_append before [k]) hafter⟩

theorem Leaves.mono {p : Plan N R α} (h : p.Leaves stream post before)
    (hpost : ∀ a after, post a after → post' a after) : p.Leaves stream post' before := by
  induction p generalizing before with
  | done a => exact hpost a before h
  | stop why => trivial
  | note n rest ih => exact h.note fun _ _ hrest => ih hrest
  | ask q next ih => exact fun r => ih r (h r)

/-- **One plan after the other**: the second one comes after what the first one has told. -/
theorem Leaves.bind {mid : α → List K → Prop} {p : Plan N R α} (hp : p.Leaves stream mid before)
    {f : α → Plan N R β} {post : β → List K → Prop}
    (hf : ∀ a after, before <+: after → mid a after → (f a).Leaves stream post after) :
    (p >>= f).Leaves stream post before := by
  induction p generalizing before with
  | done a => exact hf a before List.prefix_rfl hp
  | stop why => trivial
  | note n rest ih =>
    refine hp.note fun between hbetween hrest => ih hrest fun a after hafter => ?_
    exact hf a after (hbetween.trans hafter)
  | ask q next ih => exact fun r => ih r (hp r) hf

/-- What was told before stays told. -/
theorem Leaves.after {p : Plan N R α} (h : p.Leaves stream post before) :
    p.Leaves stream (fun a after => before <+: after ∧ post a after) before := by
  have hdone : (p >>= done).Leaves stream (fun a after => before <+: after ∧ post a after) before :=
    h.bind fun a after hafter ha => ⟨hafter, ha⟩
  rwa [bind_done] at hdone

/-- A plan whose notes are taken for notes that say nothing for the stream leaves it as it is. -/
theorem leaves_mapNotes {embed : M → N} (hembed : ∀ m, stream.said? (embed m) = none)
    (p : Plan M R α) (before : List K) :
    (p.mapNotes fun m => [embed m]).Leaves stream
      (fun a after => after = before ∧ p.Yields AnyReply a) before := by
  induction p with
  | done a => exact ⟨rfl, rfl⟩
  | stop why => trivial
  | note m rest ih =>
    show (note (embed m) (rest.mapNotes fun m => [embed m])).Leaves stream _ before
    rw [leaves_note_of_none (hembed m)]
    exact ih
  | ask q next ih =>
    intro r
    exact (ih r).mono fun a after ha => ⟨ha.1, r, trivial, ha.2⟩

/-- **What is told on a course** is one thing after the other, each of which may follow those before
it; so it is with any part of it from the start on. -/
theorem Leaves.told {p : Plan N R α} (h : p.Leaves stream post before) (up : Responder R σ)
    (s : σ) :
    ∃ told, (p.notedOn up s).filterMap stream.said? = told.map stream.say ∧
      ∀ first k rest, told = first ++ k :: rest → stream.mayFollow (before ++ first) k := by
  induction p generalizing before s with
  | done a => exact ⟨[], rfl, fun first k rest htold => by simp at htold⟩
  | stop why => exact ⟨[], rfl, fun first k rest htold => by simp at htold⟩
  | ask q next ih => exact ih (up q s).1 (h (up q s).1) (up q s).2
  | note n rest ih =>
    cases hn : stream.said? n with
    | none =>
      obtain ⟨told, htold, hmay⟩ := ih ((leaves_note_of_none hn).1 h) s
      refine ⟨told, ?_, hmay⟩
      rw [notedOn, List.filterMap_cons_none hn, htold]
    | some t =>
      obtain ⟨k, rfl, hk, hrest⟩ := (leaves_note_of_some hn).1 h
      obtain ⟨told, htold, hmay⟩ := ih hrest s
      refine ⟨k :: told, ?_, ?_⟩
      · rw [notedOn, List.filterMap_cons_some hn, htold, List.map_cons]
      · intro first k' rest' heq
        cases first with
        | nil =>
          obtain ⟨rfl, -⟩ := List.cons.inj heq
          rwa [List.append_nil]
        | cons k'' first =>
          obtain ⟨rfl, rfl⟩ := List.cons.inj heq
          have hlater := hmay first k' rest' rfl
          rwa [List.append_assoc] at hlater

end

end Plan

/-! ## Plans that are carried out -/

section
variable {N T K α : Type} {stream : Stream N T K} {post : α → List K → Prop} {before : List K}

/-- A client leaves the notes of the plan that it carries out. -/
theorem Api.Client.leaves_run (c : Client) {p : Plan N Endpoint.Reply α}
    (h : p.Leaves stream post before) : (p.run c.handler).Leaves stream post before := by
  induction p generalizing before with
  | done a => exact h
  | stop why => trivial
  | note n rest ih =>
    exact h.note fun _ _ hrest => ih hrest
  | ask e next ih =>
    cases hr : c.request e with
    | error f =>
      rw [run_ask_of_error hr]
      exact ih _ (h _)
    | ok r =>
      rw [run_ask_of_ok hr]
      exact fun result => ih _ (h _)

end

end AccessSync
