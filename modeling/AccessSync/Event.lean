/-!
# Events

What is reported to an operator while work goes on.
-/

namespace AccessSync

/-- How serious an event is. -/
inductive Level
  | warning
  | error
deriving DecidableEq, Repr

/-- Something worth reporting: its message, and the named details that go with it. -/
structure Event where
  level : Level
  message : String
  fields : List (String × String)
deriving DecidableEq, Repr

/-- An event after which the work goes on as asked for. -/
def Event.warn (message : String) (fields : List (String × String)) : Event :=
  ⟨.warning, message, fields⟩

end AccessSync
