import AccessSync.Cli.Run
import AccessSync.Proofs.Sync.Integrity

/-!
# The output of a sync

As JSON, a sync prints a line for each record as soon as it is found, and whatever goes wrong is
told elsewhere. So the lines are those of records, each of which rests on those before it, however
the server, the network and the clock behave and wherever the sync breaks off.

* `leaves_syncJob`, `leaves_run_sync`: what a sync prints for any replies.
* `sync_output`: what it prints on a course.
-/

namespace AccessSync

/-- An agent leaves the notes of the plan that it carries out, and notes of what it does itself. -/
theorem Http.Agent.leaves_run {N T K α : Type} {stream : Stream N T K}
    {post : α → List K → Prop} {before : List K} (a : Agent) {embed : Event → N}
    (hembed : ∀ e, stream.said? (embed e) = none) {p : Plan N Api.Request.Reply α}
    (h : p.Leaves stream post before) (kept : Option Token) :
    (p.run (a.handler embed) kept).Leaves stream (fun out after => post out.1 after) before := by
  induction p generalizing before kept with
  | done a => exact h
  | stop why => trivial
  | note n rest ih =>
    exact h.note fun _ _ hrest => ih hrest kept
  | ask r next ih =>
    show ((((a.perform r).run kept).mapNotes fun e => [embed e]) >>= fun out =>
      (next out.1).run (a.handler embed) out.2).Leaves stream _ before
    refine (Plan.leaves_mapNotes hembed ((a.perform r).run kept) before).bind ?_
    rintro ⟨reply, kept'⟩ after - ⟨rfl, -⟩
    exact ih reply (h reply) kept'

/-- A connection leaves the notes of the plan that it carries out. -/
theorem Connection.leaves_carry {N T K α : Type} {stream : Stream N T K}
    {post : α → List K → Prop} {before : List K} (c : Connection) (embed : Event → N)
    (hembed : ∀ e, stream.said? (embed e) = none) {work : Plan N Api.Endpoint.Reply α}
    (h : work.Leaves stream post before) (kept : Option Http.Token) :
    (c.carry embed work kept).Leaves stream (fun out after => post out.1 after) before :=
  c.agent.leaves_run hembed (c.client.leaves_run h) kept

namespace Cli

open Sync (Note Record Task)

/-- The text of a line of the result. -/
def Output.line? : Output → Option String
  | .line s => some s
  | .problem _ | .misuse _ | .event _ => none

/-- The lines of a result, when each is the line of a record. -/
def lineStream : Stream Output String Record where
  said? := Output.line?
  say := Record.line
  mayFollow := Record.RestsOn

section
variable {α : Type} {before : List Record}

/-- As JSON, the records of a walk are printed as they are found. -/
theorem leaves_mapNotes_ofNote {p : Plan Note Api.Endpoint.Reply α}
    {post : α → List Record → Prop} (h : p.Leaves Sync.recordStream post before) :
    (p.mapNotes (Job.ofNote true)).Leaves lineStream post before := by
  induction p generalizing before with
  | done a => exact h
  | stop why => trivial
  | ask e next ih => exact fun r => ih r (h r)
  | note n rest ih =>
    cases n with
    | event e => exact ih h
    | record r =>
      obtain ⟨_, rfl, hr, hrest⟩ := h
      exact ⟨_, rfl, hr, ih hrest⟩

theorem leaves_ofWalk {work : Sync.Walk α} (h : work.Leaves before fun _ _ => True) :
    (Job.ofWalk true work).run.Leaves lineStream (fun _ _ => True) before := by
  refine (leaves_mapNotes_ofNote (h .empty)).bind ?_
  intro _ _ _ _
  trivial

/-- An operation prints nothing. -/
theorem leaves_ofOperation (work : Operation α) :
    (Job.ofOperation work).run.Leaves lineStream (fun _ after => after = before) before := by
  have hsilent : ∀ e, lineStream.said? (Output.event e) = none := fun _ => rfl
  refine (Plan.leaves_mapNotes hsilent work.run before).bind ?_
  intro _ _ _ hafter
  exact hafter.1

end

/-- **The work of a sync** prints the lines of records that rest on those before them. -/
theorem leaves_syncJob (noGrants : Bool) (limit : Nat) (c : Connector) :
    (syncJob true noGrants limit c).run.Leaves lineStream (fun _ _ => True) [] := by
  unfold syncJob
  rw [Plan.run_exceptT_bind]
  refine (leaves_ofOperation (c.validate limit)).bind ?_
  rintro r _ - rfl
  cases r with
  | error p => trivial
  | ok scope =>
    dsimp only
    rw [Plan.run_exceptT_bind]
    refine (leaves_ofWalk (Task.leaves_walk _)).bind ?_
    intro visits after _ _
    cases visits with
    | error p => trivial
    | ok visits => trivial

/-- The exit code is found without printing a line. -/
theorem leaves_exitCode (result : Except Problem Unit) {before : List Record} :
    (exitCode result).Leaves lineStream (fun _ _ => True) before := by
  cases result with
  | ok u => trivial
  | error p => trivial

theorem leaves_run_sync (env : Config.Environment) (limit : Nat) (noGrants : Bool) :
    ((Command.sync true noGrants).run env limit).Leaves lineStream (fun _ _ => True) [] := by
  have hprepare : (Command.sync true noGrants).prepare env limit =
      (connect env).map fun connection =>
        (connection, syncJob true noGrants limit connection.connector) := by
    unfold Command.prepare
    cases connect env <;> rfl
  unfold Command.run
  rw [hprepare]
  cases connect env with
  | error p => exact leaves_exitCode (.error p)
  | ok connection =>
    have hjob := leaves_syncJob noGrants limit connection.connector
    refine (connection.leaves_carry Output.event (fun _ => rfl) hjob none).bind ?_
    intro out after _ _
    exact leaves_exitCode out.1

/-! ## On a course -/

/-- The lines that a plan prints on a course. -/
def linesOn {R : Http.Wire → Type} {σ α : Type} (up : Responder R σ) (p : Plan Output R α) (s : σ) :
    List String := (p.notedOn up s).filterMap Output.line?

/-- The lines are those of records, one after the other, each of which rests on those before it. -/
def RecordLines (lines : List String) : Prop :=
  ∃ records : List Record, lines = records.map Record.line ∧
    ∀ before r after, records = before ++ r :: after → r.RestsOn before

theorem recordLines_of_leaves {R : Http.Wire → Type} {σ α : Type} {p : Plan Output R α}
    (h : p.Leaves lineStream (fun _ _ => True) []) (up : Responder R σ) (s : σ) :
    RecordLines (linesOn up p s) := h.told up s

/-- **What a sync prints as JSON** are the lines of records, each of which rests on those before it.
So it is with the walk through any scope, on any connection, and with the whole command in any
environment, against whatever answers its messages. A sync that breaks off has printed a part of
such lines, from the first one on. -/
theorem sync_output {σ : Type} (up : Responder Http.Wire.Reply σ) (s : σ) (limit : Nat) :
    (∀ (connection : Connection) (scope : Scope) (withGrants : Bool) (kept : Option Http.Token),
      let task : Task := { connector := connection.connector, scope, withGrants, limit }
      RecordLines (linesOn up (connection.carry .event (Job.ofWalk true task.walk).run kept) s)) ∧
    ∀ (env : Config.Environment) (noGrants : Bool),
      RecordLines (linesOn up ((Command.sync true noGrants).run env limit) s) := by
  constructor
  · intro connection scope withGrants kept task
    have hwalk := leaves_ofWalk task.leaves_walk
    have hcarry := connection.leaves_carry Output.event (fun _ => rfl) hwalk kept
    exact recordLines_of_leaves hcarry up s
  · intro env noGrants
    exact recordLines_of_leaves (leaves_run_sync env limit noGrants) up s

end Cli

end AccessSync
