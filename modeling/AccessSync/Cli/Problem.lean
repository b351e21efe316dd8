import AccessSync.Access.Failure
import AccessSync.Config.Credentials

/-!
# Problems

Why a command ended without success: what is printed, and the exit code that goes with it.

Exit codes: 1 for anything without a code of its own, 2 for credentials that do not suffice, 3 for a
server that cannot be reached, 4 for input that cannot be used.
-/

namespace AccessSync.Cli

/-- Why a command ended without success. -/
inductive Problem
  | config (e : ConfigError)
  | failure (f : Failure)
  | input (message : String)
  | stream (message : String)
  | json (message : String)
deriving DecidableEq, Repr

namespace Problem

def message : Problem → String
  | .config e => s!"Configuration error: {e.message}"
  | .failure f => f.message
  | .input m => s!"Invalid input: {m}"
  | .stream m => s!"I/O error: {m}"
  | .json m => s!"Serialization error: {m}"

/-- The exit code of a command that failed. -/
def failureCode : Failure → Nat
  | .unauthenticated _ | .permissionDenied _ => 2
  | .transport .. => 3
  | .cancelled | .serialization _ => 1
  | .invalidArgument _ | .unsupportedRole .. | .unsupportedPrincipal .. | .notProvisionable ..
  | .invalidPageToken _ | .alreadyGranted _ | .notCurrentlyGranted _ | .notFound _
  | .invalidConfiguration _ => 4

def exitCode : Problem → Nat
  | .config _ | .input _ => 4
  | .failure f => failureCode f
  | .stream _ | .json _ => 1

/-- What may help. -/
def suggestion? : Problem → Option String
  | .config _ =>
    some ("Set BITBUCKET_TOKEN, or BITBUCKET_USERNAME and BITBUCKET_APP_PASSWORD, or " ++
      "BITBUCKET_CONSUMER_KEY and BITBUCKET_CONSUMER_SECRET.")
  | .failure (.unauthenticated _) =>
    some "Check the credentials and the BITBUCKET_WORKSPACES allow-list."
  | .failure (.transport ..) =>
    some "Bitbucket may be unavailable or rate limiting, try again later."
  | _ => none

/-- A label, in a colour of the terminal if it has any. -/
def label (color : Bool) (code text : String) : String :=
  if color then "\x1b[" ++ code ++ "m" ++ text ++ "\x1b[0m" else text

/-- What is printed: the message, and after an empty line what may help. -/
def text (color : Bool) (p : Problem) : String :=
  label color "31" "Error:" ++ " " ++ p.message ++ "\n" ++
    match p.suggestion? with
    | some s => "\n" ++ label color "33" "Suggestion:" ++ " " ++ s ++ "\n"
    | none => ""

end Problem

end AccessSync.Cli
