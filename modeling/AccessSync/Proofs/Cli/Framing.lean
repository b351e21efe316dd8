import AccessSync.Proofs.Cli.SyncOutput
import AccessSync.Proofs.Sync.Record
import AccessSync.Proofs.Sync.Walk
import AccessSync.Proofs.Text.Segment

/-!
# The text of a stream of records

Records go to the standard output one line each. Whatever texts they hold, whoever cuts what was
written at the line breaks has as many lines as there are records, and after the last break nothing;
each line tells its record.

* `written`: what outputs write.
* `segments_written`: the lines of the text.
* `records_framed`: the lines of a stream of records, and what they tell.
-/

namespace AccessSync.Cli

open Sync (Note Record Walk)

/-- What an output writes to the standard output. -/
def Output.text : Output → String
  | .line s => s ++ String.singleton '\n'
  | .problem _ | .misuse _ | .event _ => ""

/-- What outputs write, one after the other. -/
def written : List Output → String
  | [] => ""
  | o :: rest => o.text ++ written rest

/-- **Lines without a line break inside** are found again, and nothing comes after the last break. -/
theorem segments_written {outputs : List Output}
    (h : ∀ line ∈ outputs.filterMap Output.line?, '\n' ∉ line.toList) :
    Text.segments '\n' (written outputs) = outputs.filterMap Output.line? ++ [""] := by
  induction outputs with
  | nil => rfl
  | cons o rest ih =>
    have other (ho : o.line? = none) (htext : o.text = "") :
        Text.segments '\n' (written (o :: rest)) =
          (o :: rest).filterMap Output.line? ++ [""] := by
      rw [List.filterMap_cons_none ho] at h ⊢
      rw [written, htext, String.empty_append]
      exact ih h
    cases o with
    | problem p => exact other rfl rfl
    | misuse message => exact other rfl rfl
    | event e => exact other rfl rfl
    | line s =>
      have hsome : (Output.line s).line? = some s := rfl
      rw [List.filterMap_cons_some hsome] at h ⊢
      have hline : Text.segments '\n' s = [s] :=
        Text.segments_of_not_mem (h s List.mem_cons_self)
      have hrest := ih fun l hl => h l (List.mem_cons_of_mem _ hl)
      rw [written, Output.text, Text.segments_append_separator, hline, hrest]
      rfl

/-! ## Records -/

/-- As JSON, a walk gives out a line for each record, and otherwise no lines. -/
theorem lines_ofNote (json : Bool) (notes : List Note) :
    (notes.flatMap (Job.ofNote json)).filterMap Output.line? =
      if json then (Sync.recordsOf notes).map Record.line else [] := by
  cases json with
  | false =>
    rw [List.filterMap_flatMap, if_neg Bool.false_ne_true, List.flatMap_eq_nil_iff]
    intro n _
    cases n <;> rfl
  | true =>
    rw [if_pos rfl]
    induction notes with
    | nil => rfl
    | cons n rest ih =>
      cases n with
      | event e => exact ih
      | record r => exact congrArg (r.line :: ·) ih

/-- The lines of a walk. -/
theorem lines_ofWalk {α : Type} (json : Bool) (work : Walk α) (s : Server) :
    ((Job.ofWalk json work).run.noted s).filterMap Output.line? =
      if json then (Sync.recordsOf ((work.run .empty).noted s)).map Record.line else [] := by
  have hnoted : (Job.ofWalk json work).run.noted s =
      ((work.run .empty).mapNotes (Job.ofNote json)).noted s :=
    Plan.noted_bind_done _ fun out : Except Failure α × FirstSeen => out.1.mapError Problem.failure
  rw [hnoted, Plan.noted_mapNotes, lines_ofNote]

/-- **A stream of records is well-framed.** When records are told one after the other, the text that
is written has a line for each of them in order, none of them empty, and nothing after the last line
break; and each line is read as an object without a name twice that tells its record. -/
theorem records_framed (records : List Record) (s : Server) :
    let text := written ((Job.ofWalk true (records.forM Walk.emit)).run.noted s)
    Text.segments '\n' text = records.map Record.line ++ [""] ∧
      ∀ r ∈ records, r.line ≠ "" ∧ ∃ t, Json.read r.line = some t ∧ r.Tells t := by
  intro text
  constructor
  · have hrecords := (Walk.leads_forM_emit id records FirstSeen.empty (s := s)).records
    have hlines : ((Job.ofWalk true (records.forM Walk.emit)).run.noted s).filterMap Output.line? =
        records.map Record.line := by
      rw [lines_ofWalk, if_pos rfl]
      exact congrArg (List.map Record.line) (hrecords.trans (List.map_id records))
    have hone : ∀ line ∈ records.map Record.line, '\n' ∉ line.toList := by
      intro line hline
      obtain ⟨r, -, rfl⟩ := List.mem_map.1 hline
      exact r.newline_not_mem_line
    rw [← hlines] at hone ⊢
    exact segments_written hone
  · intro r _
    exact ⟨r.line_ne_empty, r.read_line⟩

end AccessSync.Cli
