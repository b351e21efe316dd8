import AccessSync.Access.PageStack
import AccessSync.Proofs.Json.RoundTrip

/-!
# Page tokens as stacks

A token stands for one stack: what was written is read back, whatever texts the frames hold, and
only the empty stack has the empty token. So a stack can be written and read back at any time while
it is worked with.

* `decode_encode`: the stack of the token of a stack is that stack.
* `encode_eq_empty_iff`: the empty token stands for the empty stack alone.
* `decode_nextToken`: a token goes on at its cursor.
* `reloaded_eq_run`: work on a stack that is read back from its token now and then.
-/

namespace AccessSync

open Json

/-! ## Frames -/

theorem Frame.wordless_json (f : Frame) : f.json.wordless := by
  unfold Frame.json
  split <;> split <;> rfl

theorem Frame.decode_json (f : Frame) : Frame.shape.decode f.json.tree = .ok f := by
  obtain ⟨part, resource, cursor⟩ := f
  unfold Frame.json
  by_cases hr : resource = "" <;> by_cases hc : cursor = "" <;>
    simp [hr, hc, Frame.shape, Shape.decode, Shape.map, Shape.both, Shape.required, Shape.optional,
      Shape.check, Shape.failure?, Json.tree, treeFields, Decoder.text, Fields.find?, Except.map,
      List.lookup_cons]

/-! ## Stacks -/

namespace PageStack

theorem wordless_json (s : PageStack) : s.json.wordless := by
  unfold json
  rw [wordless, wordlessFields, wordless, wordlessItems_map _ Frame.wordless_json]
  rfl

theorem decode_json (s : PageStack) : PageStack.shape.decode s.json.tree = .ok s := by
  have hframes : Decoder.list Frame.shape.decode
      (.array (treeItems (s.frames.map Frame.json).reverse)) = .ok s.frames.reverse := by
    -- frames are written from the bottom of the stack up
    rw [← List.map_reverse, treeItems_map]
    exact decodeAll_map _ _ Frame.decode_json _
  simp [json, PageStack.shape, Shape.decode, Shape.map, Shape.required, Shape.check, Shape.failure?,
    Json.tree, treeFields, Fields.find?, Except.map, hframes]

theorem read_empty : Json.read "" = none := by
  simp [Json.read, readChars, Reader.finish, Reader.start, Nest.start]

theorem compact_ne_empty (s : PageStack) : s.json.compact ≠ "" := by
  intro h
  have hread := read_compact s.wordless_json
  rw [h, read_empty] at hread
  exact absurd hread (by simp)

/-- **Only the empty stack has the empty token.** -/
theorem encode_eq_empty_iff (s : PageStack) : s.encode = "" ↔ s.frames = [] := by
  unfold encode
  split
  · rename_i h
    simpa using h
  · rename_i h
    simpa [compact_ne_empty] using h

/-- **A token stands for the stack it was written for.** -/
theorem decode_encode (s : PageStack) : decode s.encode = .ok s := by
  obtain ⟨frames⟩ := s
  cases frames with
  | nil => rfl
  | cons f rest =>
    have hread := read_compact (wordless_json ⟨f :: rest⟩)
    have hne := compact_ne_empty ⟨f :: rest⟩
    unfold decode
    simp [encode, hne, Shape.ofText, hread, decode_json]

/-- A token that stands for no stack is said to be an invalid one. -/
theorem decode_eq_error {token : String} {f : Failure} (h : decode token = .error f) :
    ∃ fault, f = .invalidPageToken fault := by
  unfold decode at h
  split at h
  · cases h
  · split at h
    · cases h
    · cases h
      exact ⟨_, rfl⟩

/-! ## Going on -/

section
variable {s : PageStack} {cursor : String}

theorem advance_of_ne_empty (hs : s.frames ≠ []) (hc : cursor ≠ "") :
    ∃ f rest, s.frames = f :: rest ∧ s.advance cursor = ⟨{ f with cursor } :: rest⟩ := by
  cases hf : s.frames with
  | nil => exact absurd hf hs
  | cons f rest =>
    refine ⟨f, rest, rfl, ?_⟩
    unfold advance
    rw [if_neg hc, hf]

/-- The token after a page of the top frame: the frames below are as they were. -/
theorem nextToken_cons (top : Frame) (below : List Frame) (next : String) :
    (⟨top :: below⟩ : PageStack).nextToken next =
      encode ⟨if next = "" then below else { top with cursor := next } :: below⟩ := by
  unfold nextToken advance
  split <;> rfl

/-- **A token goes on at its cursor**, with the same part. -/
theorem decode_nextToken (hs : s.frames ≠ []) (hc : cursor ≠ "") :
    ∃ s' : PageStack, decode (s.nextToken cursor) = .ok s' ∧ s'.frames ≠ [] ∧
      s'.cursor = cursor ∧ s'.part? = s.part? := by
  obtain ⟨f, rest, hf, hadvance⟩ := advance_of_ne_empty hs hc
  refine ⟨s.advance cursor, decode_encode _, ?_, ?_, ?_⟩
  · simp [hadvance]
  · simp [hadvance, PageStack.cursor, top?]
  · simp [hadvance, part?, top?, hf]

theorem startWith_of_ne_nil (hs : s.frames ≠ []) (part : String) : s.startWith part = s := by
  unfold startWith
  rw [if_neg (by simpa using hs)]

theorem startWith_ne_nil (s : PageStack) (part : String) : (s.startWith part).frames ≠ [] := by
  unfold startWith
  split
  · simp [push]
  · rename_i h
    simpa using h

end

/-! ## Work on a stack -/

/-- What is done with a stack. -/
inductive Act
  | startWith (part : String)
  | push (f : Frame)
  | pop
  | advance (next : String)
  | nextToken (next : String)
deriving DecidableEq, Repr

/-- What is told by what is done: the frame that was taken off, if there was one, a token, or
nothing. -/
inductive Told
  | nothing
  | frame (f : Option Frame)
  | token (t : String)
deriving DecidableEq, Repr

/-- What is told, and the stack that is left. -/
def Act.apply (s : PageStack) : Act → Told × PageStack
  | startWith part => (.nothing, s.startWith part)
  | push f => (.nothing, s.push f)
  | pop => (.frame s.top?, s.pop)
  | advance next => (.nothing, s.advance next)
  | nextToken next => (.token (s.nextToken next), s.advance next)

/-- What is told by one thing after the other, each with the token of the stack after it, and the
stack that is left in the end. -/
def run (s : PageStack) : List Act → List (Told × String) × PageStack
  | [] => ([], s)
  | a :: rest =>
    let next := a.apply s
    let later := next.2.run rest
    ((next.1, next.2.encode) :: later.1, later.2)

/-- A step of work on a stack of which only the token is kept at times. -/
inductive Step
  | act (a : Act)
  /-- The stack is written to its token and read back. -/
  | reload
deriving DecidableEq, Repr

/-- What a step does with the stack, if it is no reload. -/
def Step.act? : Step → Option Act
  | act a => some a
  | reload => none

/-- The same as `run`, with the reloads among the steps. -/
def reloaded (s : PageStack) : List Step → Except Failure (List (Told × String) × PageStack)
  | [] => .ok ([], s)
  | .act a :: rest => do
    let next := a.apply s
    let later ← next.2.reloaded rest
    return ((next.1, next.2.encode) :: later.1, later.2)
  | .reload :: rest => do
    let s' ← decode s.encode
    s'.reloaded rest

/-- **Reloads make no difference**, wherever they stand among the steps. -/
theorem reloaded_eq_run (steps : List Step) (s : PageStack) :
    s.reloaded steps = .ok (s.run (steps.filterMap Step.act?)) := by
  induction steps generalizing s with
  | nil => rfl
  | cons step rest ih =>
    cases step with
    | act a =>
      have hrest := ih (a.apply s).2
      unfold reloaded
      dsimp only
      rw [hrest]
      rfl
    | reload =>
      unfold reloaded
      rw [decode_encode]
      exact ih s

/-- **A token is as good as its stack.** It is read back as the stack that it was written for, and
is empty for the empty stack alone. So what is done with a stack tells the same, and leaves the same
tokens, however often the stack is written and read back on the way. -/
theorem token_faithful :
    (∀ s : PageStack, decode s.encode = .ok s) ∧
    (∀ s : PageStack, s.encode = "" ↔ s.frames = []) ∧
    ∀ (s : PageStack) (steps : List Step),
      s.reloaded steps = .ok (s.run (steps.filterMap Step.act?)) :=
  ⟨decode_encode, encode_eq_empty_iff, fun s steps => reloaded_eq_run steps s⟩

end PageStack

end AccessSync
