import AccessSync.Proofs.PageStack

/-!
# Phases in order

A listing in phases starts from a stack with a frame for each phase, the first one on top. While a
phase has pages left, the top frame moves from cursor to cursor; after its last page it is taken
off, and the phase below is next. Between two pages only the token is kept, and the stack is read
back from it. The empty text is the cursor of a first page, the end of a phase and the token of a
finished listing.

* `PageStack.walk`: a listing that is told the cursor after each page.
* `walks_cons`: one page.
* `walks_phase`: the pages of a phase.
* `phases_in_order`: the pages of all phases.
-/

namespace AccessSync

open PageStack

/-- A phase of a listing, and the cursors of its pages after the first one. -/
structure Phase where
  frame : Frame
  later : List String
  /-- It starts with its first page. -/
  starts : frame.cursor = ""
  /-- Its pages after that are found by a cursor. -/
  goesOn : ∀ cursor ∈ later, cursor ≠ ""

namespace Phase

/-- The frames that stand for the pages of a phase. -/
def pages (p : Phase) : List Frame :=
  p.frame :: p.later.map fun cursor => { p.frame with cursor }

/-- What the pages of a phase say that comes after them. -/
def cursors (p : Phase) : List String := p.later ++ [""]

end Phase

namespace PageStack

/-- The phases put on an empty stack, the last one first. -/
def ofPhases (phases : List Phase) : PageStack :=
  phases.reverse.foldl (fun s p => s.push p.frame) empty

/-- A page on the way: the frame on top of the stack, the cursor that it asks for, and the token
after it. -/
structure Visit where
  frame : Option Frame
  cursor : String
  token : String
deriving DecidableEq, Repr

/-- A listing that is told the cursor after each page. The stack is read back from the token of each
page; what is left is the stack of the last one. -/
def walk (s : PageStack) : List String → Except Failure (List Visit × PageStack)
  | [] => .ok ([], s)
  | next :: rest => do
    let token := s.nextToken next
    let later ← (← decode token).walk rest
    return (⟨s.top?, s.cursor, token⟩ :: later.1, later.2)

/-- The visits are those of the pages, in order, and only the last one leaves the empty token. -/
structure Covers (visits : List Visit) (pages : List Frame) : Prop where
  seen : visits.map (fun v => (v.frame, v.cursor)) = pages.map fun f => (some f, f.cursor)
  ends : ∀ k (hk : k < visits.length), visits[k].token = "" ↔ k + 1 = visits.length

/-- The listing goes through the pages and leaves nothing. -/
def Walks (s : PageStack) (cursors : List String) (pages : List Frame) : Prop :=
  ∃ visits, s.walk cursors = .ok (visits, empty) ∧ Covers visits pages

theorem frames_ofPhases (phases : List Phase) :
    (ofPhases phases).frames = phases.map Phase.frame := by
  unfold ofPhases
  rw [List.foldl_reverse]
  induction phases with
  | nil => rfl
  | cons p rest ih => rw [List.foldr_cons, push, ih, List.map_cons]

/-! ## Pages -/

theorem Covers.length_eq {visits : List Visit} {pages : List Frame} (h : Covers visits pages) :
    visits.length = pages.length := by
  simpa using congrArg List.length h.seen

/-- One more page in front leaves the empty token only if it is the only one. -/
theorem Covers.cons {visits : List Visit} {pages : List Frame} (h : Covers visits pages)
    (f : Frame) {token : String} (htoken : token = "" ↔ pages = []) :
    Covers (⟨some f, f.cursor, token⟩ :: visits) (f :: pages) where
  seen := by rw [List.map_cons, List.map_cons, h.seen]
  ends := by
    intro k hk
    cases k with
    | zero =>
      have hlength := h.length_eq
      rw [List.getElem_cons_zero, htoken, ← List.length_eq_zero_iff, List.length_cons]
      omega
    | succ k =>
      have hrest := h.ends k (by simpa using hk)
      rw [List.getElem_cons_succ, hrest, List.length_cons]
      omega

section
variable {top : Frame} {below : List Frame} {cursors : List String} {pages : List Frame}

/-- **One page**: the top frame moves to the next cursor or is taken off, and the listing goes on
from the stack that is read back. -/
theorem walks_cons {next : String}
    (h : Walks ⟨if next = "" then below else { top with cursor := next } :: below⟩ cursors pages)
    (hend : pages = [] ↔ next = "" ∧ below = []) :
    Walks ⟨top :: below⟩ (next :: cursors) (top :: pages) := by
  obtain ⟨visits, hwalk, hcovers⟩ := h
  have htoken := nextToken_cons top below next
  have hempty : (⟨top :: below⟩ : PageStack).nextToken next = "" ↔ pages = [] := by
    rw [htoken, encode_eq_empty_iff, hend]
    by_cases hnext : next = "" <;> simp [hnext]
  refine ⟨_, ?_, hcovers.cons top hempty⟩
  -- the token is that of the stack that the listing goes on from
  unfold walk
  dsimp only
  rw [htoken, decode_encode]
  change (walk _ cursors >>= _) = _
  rw [hwalk]
  rfl

/-- **The pages of a phase**, from any of them on, and those of the phases below. -/
theorem walks_phase (top : Frame) (later : List String) (hlater : ∀ cursor ∈ later, cursor ≠ "")
    (hbelow : Walks ⟨below⟩ cursors pages) (hend : pages = [] ↔ below = []) :
    Walks ⟨top :: below⟩ (later ++ "" :: cursors)
      (top :: later.map (fun cursor => { top with cursor }) ++ pages) := by
  induction later generalizing top with
  | nil => exact walks_cons (by simpa using hbelow) (by simpa using hend)
  | cons next rest ih =>
    have hnext : next ≠ "" := hlater next List.mem_cons_self
    have hrest := ih { top with cursor := next }
      fun cursor hcursor => hlater cursor (List.mem_cons_of_mem _ hcursor)
    refine walks_cons ?_ ?_
    · rw [if_neg hnext]
      exact hrest
    · simp [hnext]

end

/-! ## Phases -/

/-- The phases one after the other, however many there are. -/
theorem walks_phases (phases : List Phase) :
    Walks ⟨phases.map Phase.frame⟩ (phases.flatMap Phase.cursors)
      (phases.flatMap Phase.pages) := by
  induction phases with
  | nil => exact ⟨[], rfl, rfl, nofun⟩
  | cons p rest ih =>
    have hend : rest.flatMap Phase.pages = [] ↔ rest.map Phase.frame = [] := by
      cases rest <;> simp [Phase.pages]
    have hphase := walks_phase p.frame p.later p.goesOn ih hend
    rw [List.map_cons, List.flatMap_cons, List.flatMap_cons, Phase.cursors, Phase.pages,
      List.append_assoc]
    exact hphase

/-- **Phases are listed in order.** Whatever phases are put on an empty stack, and whatever cursors
the pages of each phase lead to, a listing comes to every page of the first phase, from its first
page on and then cursor by cursor, then to those of the second phase, and so on. Every token on the
way is read back, and it is empty after the last page and after no other. -/
theorem phases_in_order (phases : List Phase) :
    ∃ visits, (ofPhases phases).walk (phases.flatMap Phase.cursors) = .ok (visits, empty) ∧
      visits.map (fun v => (v.frame, v.cursor)) =
        (phases.flatMap Phase.pages).map (fun f => (some f, f.cursor)) ∧
      ∀ k (hk : k < visits.length), visits[k].token = "" ↔ k + 1 = visits.length := by
  have hstack : ofPhases phases = ⟨phases.map Phase.frame⟩ := by
    rw [← frames_ofPhases]
  obtain ⟨visits, hwalk, hcovers⟩ := walks_phases phases
  exact ⟨visits, hstack ▸ hwalk, hcovers.seen, hcovers.ends⟩

/-- Repositories on three pages, then users on two. -/
def samplePhases : List Phase :=
  [⟨⟨"repository", "", ""⟩, ["2", "3"], rfl, by decide⟩,
    ⟨⟨"user", "", ""⟩, ["next"], rfl, by decide⟩]

theorem phases_in_order_sample :
    ∃ visits, (ofPhases samplePhases).walk ["2", "3", "", "next", ""] = .ok (visits, empty) ∧
      visits.map (fun v => (v.frame, v.cursor)) =
        [(some ⟨"repository", "", ""⟩, ""), (some ⟨"repository", "", "2"⟩, "2"),
          (some ⟨"repository", "", "3"⟩, "3"), (some ⟨"user", "", ""⟩, ""),
          (some ⟨"user", "", "next"⟩, "next")] ∧
      ∀ k (hk : k < visits.length), visits[k].token = "" ↔ k = 4 := by
  obtain ⟨visits, hwalk, hseen, hends⟩ := phases_in_order samplePhases
  have hlength : visits.length = 5 := by
    rw [← List.length_map (f := fun v : Visit => (v.frame, v.cursor)), hseen]
    rfl
  refine ⟨visits, hwalk, hseen, fun k hk => ?_⟩
  rw [hends k hk, hlength]
  omega

end PageStack

end AccessSync
