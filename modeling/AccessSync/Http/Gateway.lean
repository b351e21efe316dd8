import AccessSync.Http.Message
import AccessSync.Json.Reader
import AccessSync.Json.Writer

/-!
# Gateways

A gateway carries messages for a program that has no connection of its own. Messages go to it and
outcomes come from it as JSON, one object a line. A line that is no outcome means that the message
was lost.
-/

namespace AccessSync.Http

/-- A message as the line for a gateway. -/
def Message.line (m : Message) : String :=
  (Json.object ([("method", .text m.method.name), ("url", .text m.url.text),
    ("authorization", .text m.authorization)] ++
    (m.contentType.map fun s => ("content_type", Json.text s)).toList ++
    [("body", .text m.body)])).compact

/-- The headers in an outcome. -/
def headersOf : Json → List (String × String)
  | .object fields => fields.filterMap fun (name, value) => value.text?.map fun s => (name, s)
  | _ => []

/-- The outcome in a line from a gateway. -/
def Outcome.ofLine (s : String) : Outcome :=
  match Json.readValue s with
  | none => .lost
  | some j =>
    match j.field? "status" with
    | some (.number (.int status)) =>
      .response ⟨status.toNat, headersOf ((j.field? "headers").getD .null),
        Text.utf8 (((j.field? "body").bind Json.text?).getD "")⟩
    | _ => .lost

end AccessSync.Http
