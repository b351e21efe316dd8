import AccessSync.Cli.Run
import AccessSync.Http.Gateway
import Std.Time.DateTime.Timestamp

/-!
# The program

The command line against the world: variables, streams, the clock, and a gateway for messages to the
server. The gateway reads messages from the file that `ACCESS_SYNC_REQUESTS` names and writes their
outcomes to the one that `ACCESS_SYNC_REPLIES` names, usually two named pipes; without a gateway
every message is lost.
-/

namespace AccessSync.Program

/-- How many pages a list may have. -/
def limit : Nat := UInt64.size

/-- The ends of a gateway. -/
structure Ends where
  requests : IO.FS.Handle
  replies : IO.FS.Handle

/-- The variables that describe a configuration. -/
def readEnvironment : IO Config.Environment := do
  let values ← Config.variableNames.mapM fun name => do return (name, ← IO.getEnv name)
  return fun name => (values.lookup name).join

/-- The gateway that the environment names. -/
def openGateway : IO (Option Ends) := do
  match ← IO.getEnv "ACCESS_SYNC_REQUESTS", ← IO.getEnv "ACCESS_SYNC_REPLIES" with
  | some requests, some replies =>
    let requests ← IO.FS.Handle.mk requests .write
    return some ⟨requests, ← IO.FS.Handle.mk replies .read⟩
  | _, _ => return none

/-- The outcome of a message. -/
def send (gateway : Option Ends) (m : Http.Message) : IO Http.Outcome := do
  match gateway with
  | none => return .lost
  | some ends =>
    ends.requests.putStr (m.line ++ "\n")
    ends.requests.flush
    return .ofLine (← ends.replies.getLine)

/-- What the world replies to a question. Nobody gives up; a wait lasts 49 days at most. -/
def answer (gateway : Option Ends) : (q : Http.Wire) → IO (Http.Wire.Reply q)
  | .send m => send gateway m
  | .pause millis => do
    IO.sleep (UInt32.ofNat (min millis (UInt32.size - 1)))
    return true
  | .isCancelled => return false
  | .now => do return (← Std.Time.Timestamp.now).toNanosecondsSinceUnixEpoch.val

/-- An event as a line for an operator. -/
def eventLine (e : Event) : String :=
  let level :=
    match e.level with
    | .warning => "WARN"
    | .error => "ERROR"
  level ++ " " ++ e.message ++ String.join (e.fields.map fun (name, value) => s!" {name}={value}")

/-- What the program gives out. -/
def put (color : Bool) : Cli.Output → IO Unit
  | .line s => do
    IO.println s
    (← IO.getStdout).flush
  | .problem p => IO.eprint (p.text color)
  | .misuse message => IO.eprintln s!"error: {message}\n\n{Cli.usageLine none}"
  | .event e => IO.eprintln (eventLine e)

/-- The program in the world. -/
def handler (color : Bool) (gateway : Option Ends) :
    Handler Cli.Output Http.Wire.Reply (ExceptT Stop IO) where
  stop why := throw why
  note o := ExceptT.lift (put color o)
  answer q := ExceptT.lift (answer gateway q)

/-- What is said when the program breaks off. -/
def stopText : Stop → String
  | .rounds => "a list has too many pages"
  | .calendar => "a token expires outside the calendar"

end AccessSync.Program

open AccessSync in
def main (args : List String) : IO UInt32 := do
  let env ← Program.readEnvironment
  let color := (← IO.getEnv "NO_COLOR").isNone
  let gateway ← Program.openGateway
  let program := Cli.runProgram env Program.limit args
  match ← (program.run (Program.handler color gateway)).run with
  | .ok code => return UInt32.ofNat code
  | .error why =>
    IO.eprintln (Program.stopText why)
    return 101
