import AccessSync.Access.PageStack

/-!
# Phases of an enumeration

The grants on a project or a repository are listed in phases, each in pages of its own: the
repositories, then the roles of groups, then the roles of users. A frame named after the listed kind
stands for all phases; it is replaced by one frame for each before a page is served.
-/

namespace AccessSync

namespace PageStack

/-- The kind that the top frame names. -/
def kind? (s : PageStack) : Except Failure (Option Kind) :=
  match s.part? with
  | none => .ok none
  | some part =>
    match Kind.read? part with
    | some k => .ok (some k)
    | none => .error (.invalidPageToken (.phase (Kind.unknownMessage part)))

/-- The page that the top frame asks for: its part and its cursor. -/
def position (s : PageStack) : String := s.part?.getD "" ++ "@" ++ s.cursor

end PageStack

namespace Kind

/-- The phases in which the grants on a resource of this kind are listed. -/
def phases : Kind → List Kind
  | .project => [.repository, .userGroup, .user]
  | .repository => [.userGroup, .user]
  | .workspace | .userGroup | .user => []

/-- What is said of a phase that an enumeration does not have. -/
def unexpectedPhase (listed phase : Kind) : Failure :=
  .invalidPageToken (.phase s!"unexpected {phase.name} phase in {listed.name} grants")

/-- The stack with the top frame replaced by a frame for each phase, the first one on top. -/
def unfold (listed : Kind) (s : PageStack) : PageStack :=
  ⟨listed.phases.map (fun k => Frame.start k.name) ++ s.pop.frames⟩

/-- The phase whose page is due, and the stack with that phase on top; `none` when nothing is
left. -/
def currentPhase (listed : Kind) (s : PageStack) : Except Failure (Option (Kind × PageStack)) :=
  match s.kind? with
  | .error e => .error e
  | .ok none => .ok none
  | .ok (some k) =>
    if k = listed then .ok (listed.phases.head?.map (·, listed.unfold s))
    else if k ∈ listed.phases then .ok (some (k, s))
    else .error (listed.unexpectedPhase k)

end Kind

end AccessSync
