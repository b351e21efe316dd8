import AccessSync.Text.Segment

/-!
# Arguments

What the words of a command line ask for. Words are read from left to right, and the first one that
decides ends the reading: a request for help or for the version, or something that does not fit.

* `Invocation.read`: what a list of words asks for.
-/

namespace AccessSync.Cli

/-- A change that a command line asks for. -/
structure Change where
  entitlement : String
  principal : String
deriving DecidableEq, Repr

/-- What a command does. -/
inductive Command
  /-- The scope of the credentials is printed. -/
  | validate (json : Bool)
  /-- Everything in scope is listed. -/
  | sync (json noGrants : Bool)
  | grant (change : Change)
  | revoke (change : Change)
deriving DecidableEq, Repr

/-- The commands by name. -/
inductive Verb
  | validate
  | sync
  | grant
  | revoke
deriving DecidableEq, Repr

/-- What a command line asks for. -/
inductive Invocation
  | run (c : Command)
  | version (program : String)
  | help (verb : Option Verb)
  | misuse (message : String)
deriving DecidableEq, Repr

/-- The name of the program. -/
def programName : String := "xavyo-bitbucket-sync"

def programVersion : String := "0.1.0"

namespace Verb

def name : Verb → String
  | .validate => "validate"
  | .sync => "sync"
  | .grant => "grant"
  | .revoke => "revoke"

def all : List Verb := [.validate, .sync, .grant, .revoke]

def ofName? (s : String) : Option Verb := all.find? fun v => v.name == s

/-- The switches of a command. -/
def switches : Verb → List String
  | .validate => ["json"]
  | .sync => ["json", "no-grants"]
  | .grant | .revoke => []

/-- The options of a command, each of which has to be given with a value. -/
def options : Verb → List String
  | .validate | .sync => []
  | .grant | .revoke => ["entitlement", "principal"]

end Verb

/-! ## Words -/

/-- What a word is. -/
inductive Word
  /-- The mark after which no word is an option. -/
  | mark
  /-- A long option, perhaps with a value attached. -/
  | long (name : String) (value : Option String)
  /-- Short options. -/
  | short (first : Char)
  | plain (s : String)
deriving DecidableEq, Repr

def Word.ofChars : List Char → Word
  | ['-', '-'] => .mark
  | '-' :: '-' :: rest =>
    match Text.cutChars '=' rest with
    | some (name, value) => .long (String.ofList name) (some (String.ofList value))
    | none => .long (String.ofList rest) none
  | '-' :: c :: _ => .short c
  | cs => .plain (String.ofList cs)

def Word.read (s : String) : Word := .ofChars s.toList

/-- What every command line understands: a request for the version or for help. -/
def common? (program : String) (verb : Option Verb) : Word → Option Invocation
  | .long "version" none | .short 'V' => some (.version program)
  | .long "help" none | .short 'h' => some (.help verb)
  | _ => none

/-- What is said of a word that does not fit. -/
def unexpected (s : String) : Invocation := .misuse s!"unexpected argument '{s}' found"

/-! ## Commands -/

/-- The switches and options that have been read. -/
structure Given where
  switches : List String
  options : List (String × String)
deriving DecidableEq, Repr

/-- What is said of an argument that was given before. -/
def repeated (name : String) : Invocation :=
  .misuse s!"the argument '--{name}' cannot be used multiple times"

/-- What is said of an option without a value. -/
def valueless (name : String) : Invocation :=
  .misuse s!"a value is required for '--{name}' but none was supplied"

/-- The command with everything that has been read; every option has to be there. -/
def Given.finish (g : Given) (verb : Verb) : Invocation :=
  let change (make : Change → Command) : Invocation :=
    match g.options.lookup "entitlement", g.options.lookup "principal" with
    | some entitlement, some principal => .run (make ⟨entitlement, principal⟩)
    | _, _ => .misuse "the following required arguments were not provided"
  match verb with
  | .validate => .run (.validate (g.switches.contains "json"))
  | .sync => .run (.sync (g.switches.contains "json") (g.switches.contains "no-grants"))
  | .grant => change .grant
  | .revoke => change .revoke

/-- What has been read with a switch given. -/
def Given.switch (g : Given) (name : String) (value : Option String) : Except Invocation Given :=
  if value.isSome then .error (.misuse s!"unexpected value for '--{name}' found")
  else if g.switches.contains name then .error (repeated name)
  else .ok { g with switches := name :: g.switches }

/-- What has been read with an option given. -/
def Given.option (g : Given) (name value : String) : Except Invocation Given :=
  if (g.options.lookup name).isSome then .error (repeated name)
  else .ok { g with options := (name, value) :: g.options }

/-- The words after the name of a command; `due` is the option whose value is the next word. -/
def readCommand (verb : Verb) (g : Given) (due : Option String) : List String → Invocation
  | [] =>
    match due with
    | some name => valueless name
    | none => g.finish verb
  | s :: rest =>
    match due, Word.read s with
    | some name, .plain value =>
      match g.option name value with
      | .ok g => readCommand verb g none rest
      | .error wrong => wrong
    | some name, _ => valueless name
    | none, word =>
      match common? (programName ++ "-" ++ verb.name) (some verb) word with
      | some asked => asked
      | none =>
        match word with
        | .mark =>
          match rest with
          | [] => g.finish verb
          | other :: _ => unexpected other
        | .long name value =>
          if verb.switches.contains name then
            match g.switch name value with
            | .ok g => readCommand verb g none rest
            | .error wrong => wrong
          else if verb.options.contains name then
            match value with
            | none => readCommand verb g (some name) rest
            | some value =>
              match g.option name value with
              | .ok g => readCommand verb g none rest
              | .error wrong => wrong
          else unexpected s
        | .short _ | .plain _ => unexpected s

/-- The words after a request for help: nothing, or one command. -/
def readHelp : List String → Invocation
  | [] => .help none
  | s :: rest =>
    match Verb.ofName? s, rest with
    | some verb, [] => .help (some verb)
    | _, _ =>
      if s = "help" ∧ rest = [] then .help none else .misuse s!"unrecognized subcommand '{s}'"

/-- What a command line asks for. -/
def Invocation.read : List String → Invocation
  | [] => .misuse "a command is required"
  | s :: rest =>
    let word := Word.read s
    match common? programName none word with
    | some asked => asked
    | none =>
      match word with
      | .plain name =>
        match Verb.ofName? name with
        | some verb => readCommand verb ⟨[], []⟩ none rest
        | none =>
          if name = "help" then readHelp rest else .misuse s!"unrecognized subcommand '{name}'"
      | _ => unexpected s

/-! ## Texts -/

/-- How a command is called. -/
def usageLine : Option Verb → String
  | none => s!"Usage: {programName} <COMMAND>"
  | some verb =>
    let switches := verb.switches.map fun s => s!" [--{s}]"
    let options := verb.options.map fun s => s!" --{s} <{s}>"
    s!"Usage: {programName} {verb.name}" ++ Text.joinWith "" (switches ++ options)

/-- The text that tells the version. -/
def versionLine (program : String) : String := s!"{program} {programVersion}"

end AccessSync.Cli
