import AccessSync.Proofs.Cli.Framing
import AccessSync.Proofs.Sync.Summary

/-!
# The output modes of a sync

A sync prints records or a summary, and with or without grants. On a server that does not change,
all four ways tell the same: what is left out without grants are the records of grants, and the
summary counts the records.

* `Job.Gives`: what work comes to, asks and prints.
* `syncIn`: a sync, once its scope is known.
* `ShowsSummary`: lines that show a scope and the rows of a summary.
* `ModesAgree`, `output_modes_agree`: the four ways, and that they tell the same.
-/

namespace AccessSync.Cli

open Api (Endpoint)
open Sync (Branch Node Record Row ShowsRows Summarizes Task Walk catalogue)

variable {α β : Type} {s : Server}

/-! ## Work that prints -/

/-- The work ends with `a`, having asked the questions and printed the lines. -/
structure Job.Gives (s : Server) (job : Job α) (a : α) (questions : List Endpoint)
    (lines : List String) : Prop where
  result : job.run.result s = .ok (.ok a)
  asked : job.run.asked s = questions
  printed : (job.run.noted s).filterMap Output.line? = lines

namespace Job

section
variable {job : Job α} {f : α → Job β} {a : α} {b : β} {questions further : List Endpoint}
variable {lines more : List String}

/-- **One piece of work after the other.** -/
theorem Gives.bind (hj : job.Gives s a questions lines) (hf : (f a).Gives s b further more) :
    (job >>= f).Gives s b (questions ++ further) (lines ++ more) where
  result := by rw [Plan.run_exceptT_bind, Plan.result_bind_of_ok hj.result, hf.result]
  asked := by rw [Plan.asked_exceptT_bind hj.result, hj.asked, hf.asked]
  printed := by
    rw [Plan.run_exceptT_bind, Plan.noted_bind hj.result, List.filterMap_append, hj.printed]
    exact congrArg (lines ++ ·) hf.printed

theorem gives_pure (a : α) : (pure a : Job α).Gives s a [] [] := ⟨rfl, rfl, rfl⟩

theorem gives_print (line : String) : (Job.print line).Gives s () [] [line] := ⟨rfl, rfl, rfl⟩

theorem gives_forM_print (lines : List String) : (lines.forM Job.print).Gives s () [] lines := by
  induction lines with
  | nil => exact gives_pure ()
  | cons line rest ih => exact (gives_print line).bind ih

/-- An operation prints nothing. -/
theorem gives_ofOperation {work : Operation α} (h : work.outcome s = .ok a) :
    (Job.ofOperation work).Gives s a (work.run.asked s) [] := by
  have hdoes := Plan.does_mapNotes_done (fun e => [Output.event e]) (Operation.outcome_eq_ok.1 h)
    (Except.mapError Problem.failure)
  refine ⟨hdoes.result, hdoes.asked, (congrArg _ hdoes.noted).trans ?_⟩
  rw [List.filterMap_flatMap, List.flatMap_eq_nil_iff]
  intro e _
  rfl

/-- A walk prints the lines of its records, when they are asked for. -/
theorem gives_ofWalk (json : Bool) {work : Walk α} {records : List Record} {seen : FirstSeen}
    (h : work.Leads s .empty a records seen) :
    (Job.ofWalk json work).Gives s a ((work.run .empty).asked s)
      (if json then records.map Record.line else []) := by
  have hdoes := Plan.does_mapNotes_done (Job.ofNote json) h.result
    fun out => out.1.mapError Problem.failure
  exact ⟨hdoes.result, hdoes.asked, by rw [lines_ofWalk, h.records]⟩

/-- What a walk led to when it was printed. -/
theorem exists_leads_of_ofWalk {json : Bool} {work : Walk α}
    (h : (Job.ofWalk json work).run.result s = .ok (.ok a)) :
    ∃ records seen, work.Leads s .empty a records seen := by
  have hrun : (((work.run .empty).mapNotes (Job.ofNote json)) >>= fun out =>
      Plan.done (out.1.mapError Problem.failure)).result s = .ok (.ok a) := h
  rw [Plan.result_bind, Plan.result_mapNotes] at hrun
  cases hwork : (work.run .empty).result s with
  | error why => rw [hwork] at hrun; cases hrun
  | ok out =>
    rw [hwork] at hrun
    obtain ⟨r, seen⟩ := out
    cases r with
    | error e => cases hrun
    | ok b =>
      cases hrun
      exact ⟨_, seen, hwork, rfl⟩

end

end Job

/-! ## The four ways -/

/-- A sync in a scope: its records on the way, or its summary at the end. -/
def syncIn (json noGrants : Bool) (limit : Nat) (c : Connector) (scope : Scope) : Job Unit := do
  let task : Task := { connector := c, scope, withGrants := !noGrants, limit }
  let visits ← Job.ofWalk json task.walk
  if !json then
    Job.print s!"Scope: {scope.text}"
    (Sync.table visits).forM Job.print

/-- A sync finds its scope first. -/
theorem syncJob_eq (json noGrants : Bool) (limit : Nat) (c : Connector) :
    syncJob json noGrants limit c =
      Job.ofOperation (c.validate limit) >>= syncIn json noGrants limit c := rfl

/-- The lines of a summary: the scope, the head of the table, and the rows. -/
def summaryLines (scope : Scope) (rows : List Row) : List String :=
  s!"Scope: {scope.text}" :: Sync.tableLine "TYPE" "RESOURCES" "ENTITLEMENTS" "GRANTS" ::
    rows.map Row.line

/-- The lines show a summary: the scope, and below it the rows. -/
inductive ShowsSummary (scope : Scope) (rows : List Row) : List String → Prop
  | scoped {table : List String} (h : ShowsRows rows table) :
      ShowsSummary scope rows (s!"Scope: {scope.text}" :: table)

theorem showsSummary (scope : Scope) (rows : List Row) :
    ShowsSummary scope rows (summaryLines scope rows) :=
  .scoped (Sync.showsRows_table rows)

/-- A sync whose walk comes to an end prints its records, or a summary of its visits. -/
theorem gives_syncIn (json noGrants : Bool) {limit : Nat} {c : Connector} {scope : Scope}
    {visits : List Sync.Visit} {records : List Record} {seen : FirstSeen}
    (h : (Task.mk c scope (!noGrants) limit).walk.Leads s .empty visits records seen) :
    (syncIn json noGrants limit c scope).Gives s ()
      (((Task.mk c scope (!noGrants) limit).walk.run .empty).asked s)
      (if json then records.map Record.line else summaryLines scope (Sync.rows visits)) := by
  have hwalk := Job.gives_ofWalk json h
  rw [← List.append_nil (((Task.mk c scope (!noGrants) limit).walk.run .empty).asked s)]
  cases json with
  | true =>
    rw [if_pos rfl, ← List.append_nil (records.map Record.line)]
    exact hwalk.bind (Job.gives_pure ())
  | false =>
    have htable := Job.gives_forM_print (s := s) (Sync.table visits)
    exact hwalk.bind ((Job.gives_print s!"Scope: {scope.text}").bind htable)

variable {limit : Nat} {c : Connector} {scope : Scope}

/-- A walk with grants that was printed told of nodes, and a walk without grants tells of the same
nodes. -/
theorem exists_nodes_of_syncIn {json : Bool}
    (h : (syncIn json false limit c scope).run.result s = .ok (.ok ())) :
    ∃ nodes : List Node, (∀ n ∈ nodes, n.OwnsGrants) ∧
      (∃ seen, (Task.mk c scope true limit).walk.Leads s .empty (nodes.map (·.visit true))
        (nodes.flatMap (·.records true)) seen) ∧
      (Task.mk c scope false limit).walk.Retraces s (nodes.map (·.visit false))
        (nodes.flatMap (·.records false))
        ((catalogue c scope limit [(.workspace, none)]).run.asked s) := by
  obtain ⟨visits, hwalk, -⟩ := Plan.result_exceptT_bind_ok h
  obtain ⟨records, seen, hleads⟩ := Job.exists_leads_of_ofWalk hwalk
  obtain ⟨nodes, hcatalogue, hown, rfl, rfl⟩ := Task.nodes_of_drain hleads
  have hbare := Task.retraces_drain (t := Task.mk c scope false limit) rfl hcatalogue
  rw [List.map_map, List.flatMap_map] at hbare
  exact ⟨nodes, hown, ⟨seen, hleads⟩, hbare⟩

/-- The four modes of a sync, as JSON or not and without grants or with them, tell the same records
of a scope. With grants they ask the first questions, and without grants the second ones. -/
structure ModesAgree (s : Server) (sync : Bool → Bool → Job Unit) (scope : Scope)
    (records : List Record) (questions listed : List Endpoint) : Prop where
  /-- As JSON, a line for each record. -/
  json : (sync true false).Gives s () questions (records.map Record.line)
  /-- Without grants, the same lines but for those of grants. -/
  jsonWithoutGrants : (sync true true).Gives s () listed
    ((records.filter fun r => !r.isGrant).map Record.line)
  /-- A summary counts the records and shows the numbers. -/
  summary : ∃ rows, Summarizes records true rows ∧
    ShowsSummary scope rows (summaryLines scope rows) ∧
    (sync false false).Gives s () questions (summaryLines scope rows)
  /-- Without grants, it counts none of them. -/
  summaryWithoutGrants : ∃ rows, Summarizes records false rows ∧
    ShowsSummary scope rows (summaryLines scope rows) ∧
    (sync false true).Gives s () listed (summaryLines scope rows)

/-- What a sync in a scope gives, the whole command gives once it has found the scope. -/
theorem gives_syncJob {json noGrants : Bool} {questions : List Endpoint} {lines : List String}
    (hscope : (c.validate limit).outcome s = .ok scope)
    (h : (syncIn json noGrants limit c scope).Gives s () questions lines) :
    (syncJob json noGrants limit c).Gives s () ((c.validate limit).run.asked s ++ questions)
      lines := by
  rw [syncJob_eq]
  exact (Job.gives_ofOperation hscope).bind h

theorem ModesAgree.of_scope {records : List Record} {questions listed : List Endpoint}
    (h : ModesAgree s (syncIn · · limit c scope) scope records questions listed)
    (hscope : (c.validate limit).outcome s = .ok scope) :
    let first := (c.validate limit).run.asked s
    ModesAgree s (syncJob · · limit c) scope records (first ++ questions) (first ++ listed) where
  json := gives_syncJob hscope h.json
  jsonWithoutGrants := gives_syncJob hscope h.jsonWithoutGrants
  summary := by
    obtain ⟨rows, hcounts, hshows, hgives⟩ := h.summary
    exact ⟨rows, hcounts, hshows, gives_syncJob hscope hgives⟩
  summaryWithoutGrants := by
    obtain ⟨rows, hcounts, hshows, hgives⟩ := h.summaryWithoutGrants
    exact ⟨rows, hcounts, hshows, gives_syncJob hscope hgives⟩

/-- **The output modes agree.** On a server that does not change, let a sync with grants succeed in
a scope. Then all four modes succeed and tell the same records, and without grants nothing is asked
but what listing the resources asks. So it is with the whole commands, when they find this scope. -/
theorem output_modes_agree {json : Bool}
    (h : (syncIn json false limit c scope).run.result s = .ok (.ok ())) :
    let listed := (catalogue c scope limit [(.workspace, none)]).run.asked s
    let first := (c.validate limit).run.asked s
    ∃ (records : List Record) (questions : List Endpoint),
      ModesAgree s (syncIn · · limit c scope) scope records questions listed ∧
      ((c.validate limit).outcome s = .ok scope →
        ModesAgree s (syncJob · · limit c) scope records (first ++ questions)
          (first ++ listed)) := by
  intro listed first
  obtain ⟨nodes, hown, ⟨seen, hfull⟩, hbare⟩ := exists_nodes_of_syncIn h
  have hbareRecords := gives_syncIn true true (hbare.leads .empty)
  have hbareSummary := gives_syncIn false true (hbare.leads .empty)
  have hlisted : ((Task.mk c scope (!true) limit).walk.run .empty).asked s = listed :=
    hbare.asked .empty
  rw [hlisted] at hbareRecords hbareSummary
  rw [if_pos rfl, ← Sync.filter_records] at hbareRecords
  have hagree : ModesAgree s (syncIn · · limit c scope) scope (nodes.flatMap (·.records true)) _
      listed :=
    { json := gives_syncIn true false hfull
      jsonWithoutGrants := hbareRecords
      summary :=
        ⟨_, Sync.summarizes_rows hown true, showsSummary _ _, gives_syncIn false false hfull⟩
      summaryWithoutGrants :=
        ⟨_, Sync.summarizes_rows hown false, showsSummary _ _, hbareSummary⟩ }
  exact ⟨_, _, hagree, hagree.of_scope⟩

/-- A team with one account in it and one group, to which the account belongs. -/
def teamServer : Server
  | .currentUser => .ok ⟨"w", "Work", "work", "team"⟩
  | .workspace _ => .ok ⟨"w", "work", "Work"⟩
  | .members .. => .ok ⟨[⟨"u1", "First User", "first", "user"⟩], ""⟩
  | .groups _ => .ok [⟨"g", "Group", some "read", []⟩]
  | .groupMembers _ => .ok [⟨"u1", "First User", "first", "user"⟩]
  | .projects .. => .ok ⟨[], ""⟩
  | _ => .error (.status 404 "not found")

/-- What lies in the team, with what is granted on it. -/
def teamBranches : List Branch :=
  let team := Api.Workspace.resource ⟨"w", "work", "Work"⟩
  let group := Api.UserGroup.resource team.id ⟨"g", "Group", some "read", []⟩
  let account : Api.User := ⟨"u1", "First User", "first", "user"⟩
  [⟨(.workspace, none), [⟨team, memberGrants team.id memberSlug [account]⟩]⟩,
    ⟨(.user, some team.id), [⟨account.resource team.id, []⟩]⟩,
    ⟨(.userGroup, some team.id), [⟨group, memberGrants group.id memberSlug [account]⟩]⟩,
    ⟨(.project, some team.id), []⟩]

theorem madeBy_team :
    ∀ b ∈ teamBranches, b.MadeBy teamServer ⟨⟨10, []⟩, .workspace "w", true, 2⟩ := by
  refine List.forall_mem_cons.2 ⟨⟨fun seen => ⟨seen, rfl, rfl⟩, ?_⟩, ?_⟩
  · exact List.forall_mem_singleton.2 fun seen => ⟨seen, rfl, rfl⟩
  refine List.forall_mem_cons.2 ⟨⟨fun seen => ⟨seen, rfl, rfl⟩, ?_⟩, ?_⟩
  · exact List.forall_mem_singleton.2 fun seen => ⟨seen, rfl, rfl⟩
  refine List.forall_mem_cons.2 ⟨⟨fun seen => ⟨seen, rfl, rfl⟩, ?_⟩, ?_⟩
  · exact List.forall_mem_singleton.2 fun seen => ⟨seen, rfl, rfl⟩
  exact List.forall_mem_singleton.2 ⟨fun seen => ⟨seen, rfl, rfl⟩, List.forall_mem_nil _⟩

/-- A sync of the team succeeds. -/
theorem result_syncIn_team :
    (syncIn true false 2 ⟨10, []⟩ (.workspace "w")).run.result teamServer = .ok (.ok ()) := by
  obtain ⟨htop, hbelow⟩ := List.forall_mem_cons.1 madeBy_team
  have hnone : (Task.drain ⟨⟨10, []⟩, .workspace "w", true, 2⟩ []).Does teamServer [] [] := by
    rw [Task.drain]
    exact Walk.does_pure []
  have hlists := Task.does_drain_level hbelow hnone
  obtain ⟨seen, hwalk⟩ := Task.does_drain_level (List.forall_mem_singleton.2 htop) hlists .empty
  exact (gives_syncIn true false hwalk).result

/-- The commands find the team; hence they agree on it. -/
theorem output_modes_agree_sample :
    (syncIn true false 2 ⟨10, []⟩ (.workspace "w")).run.result teamServer = .ok (.ok ()) ∧
    let listed := (catalogue ⟨10, []⟩ (.workspace "w") 2 [(.workspace, none)]).run.asked teamServer
    let first : List Endpoint :=
      [.currentUser, .groups "w", .members "w" 1 "", .projects "w" 1 ""]
    ∃ (records : List Record) (questions : List Endpoint),
      ModesAgree teamServer (syncJob · · 2 ⟨10, []⟩) (.workspace "w") records
        (first ++ questions) (first ++ listed) := by
  obtain ⟨records, questions, -, hcommands⟩ := output_modes_agree result_syncIn_team
  exact ⟨result_syncIn_team, records, questions, hcommands rfl⟩

end AccessSync.Cli
