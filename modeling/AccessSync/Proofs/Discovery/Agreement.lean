import AccessSync.Proofs.Catalog.Listing
import AccessSync.Proofs.Discovery
import Mathlib.Data.List.Nodup

/-!
# Discovered workspaces are listed

The workspaces of a caller are read in two ways: all at once by a discovery, which keeps those that
are wanted and pass the probes, and page after page by a listing, which keeps those in scope. Both
keep the same ones, in the order of the list.

* `discovered_of_validate`: the workspaces of a scope are some of those that the caller has.
* `filter_discovered`: picking out what was picked before gives it back.
* `listed_as_discovered`: a listing in the scope that was discovered.
-/

namespace AccessSync

open Api (Workspace)

section
variable {s : Server} {pageSize : UInt32}

/-! ## What was discovered -/

theorem result_moreWorkspaces {cursor : String} {page : Page Workspace}
    (h : s (.workspaces pageSize cursor) = .ok page) (done : List Workspace) :
    (Api.moreWorkspaces pageSize done cursor).run.result s =
      .ok (.ok (if page.next = "" then .inr (done ++ page.items)
        else .inl (done ++ page.items, page.next))) :=
  (does_moreWorkspaces h done).result

/-- Reading that comes to an end has read the whole chain: a limit that is too low stops it. -/
theorem eq_concat_of_result {cursor : String} {pages : List (Page Workspace)}
    (h : Chain (fun c => s (.workspaces pageSize c)) cursor pages) {limit : Nat}
    {done found : List Workspace}
    (hr : (repeatUpTo (m := Inquiry) (ExceptT.lift (.stop .rounds))
      (fun (done, cursor) => Api.moreWorkspaces pageSize done cursor) limit
      (done, cursor)).run.result s = .ok (.ok found)) : found = done ++ Page.concat pages := by
  induction h generalizing limit done with
  | @last cursor page fetched ends =>
    cases limit with
    | zero => cases hr
    | succ n =>
      have hpage := result_moreWorkspaces fetched done
      rw [if_pos ends] at hpage
      unfold repeatUpTo at hr
      rw [Plan.run_exceptT_bind, Plan.result_bind_of_ok hpage] at hr
      cases hr
      simp [Page.concat]
  | @more cursor page rest fetched goes tail ih =>
    cases limit with
    | zero => cases hr
    | succ n =>
      have hpage := result_moreWorkspaces fetched done
      rw [if_neg goes] at hpage
      unfold repeatUpTo at hr
      rw [Plan.run_exceptT_bind, Plan.result_bind_of_ok hpage] at hr
      rw [ih hr]
      simp [Page.concat]

/-- The success of an inquiry in an operation is its own. -/
theorem result_of_operation {α : Type} {work : Inquiry α} {a : α}
    (h : work.operation.run.result s = .ok (.ok a)) : work.run.result s = .ok (.ok a) := by
  have hbind : work.operation.run = work.run >>= fun r => .done (r.mapError Fault.failure) := rfl
  rw [hbind, Plan.result_bind] at h
  cases hw : work.run.result s with
  | error why => rw [hw] at h; cases h
  | ok r =>
    rw [hw] at h
    cases r with
    | error f => cases h
    | ok b => cases h; rfl

theorem eq_of_openAmong {workspaces : List Workspace} {ids : List String}
    (h : openAmong s workspaces = .ok ids) :
    ids = (workspaces.filter fun w => isOpen s w Probe.all).map (·.uuid) := by
  unfold openAmong at h
  split at h <;> cases h
  rfl

/-- **The workspaces of a user scope** are those that are wanted and open among all that the caller
has. -/
theorem discovered_of_validate {c : Connector} {pages : List (Page Workspace)}
    (h : Chain (fun cursor => s (.workspaces c.pageSize cursor)) "" pages) {limit : Nat}
    {user : String} {ids : List String}
    (hv : (c.validate limit).outcome s = .ok (.user user ids)) :
    ids = ((Page.concat pages).filter fun w =>
      isOpen s w Probe.all && isWanted c.wanted w).map (·.uuid) := by
  obtain ⟨identity, -, hscope⟩ := Plan.result_exceptT_bind_ok (Operation.outcome_eq_ok.1 hv)
  unfold scopeFor at hscope
  split at hscope
  · -- credentials of one workspace reach no scope of a user
    obtain ⟨ok, -, hscope⟩ := Plan.result_exceptT_bind_ok hscope
    cases ok <;> cases hscope
  · split at hscope
    · obtain ⟨found, hfound, hscope⟩ := Plan.result_exceptT_bind_ok hscope
      obtain ⟨all, hall, hpassing⟩ := Plan.result_exceptT_bind_ok hfound
      have hids : found = ids := by
        split at hscope <;> cases hscope
        rfl
      have hread : all = Page.concat pages := by
        have hconcat := eq_concat_of_result h (result_of_operation hall)
        rwa [List.nil_append] at hconcat
      rw [(does_passing _).result] at hpassing
      have hopen := eq_of_openAmong (Except.ok.inj hpassing)
      rw [← hids, hopen, hread, List.filter_filter]
    · cases hscope

end

/-! ## What is listed -/

/-- Picking out what was picked before gives it back, when no two have the same name. -/
theorem filter_discovered {workspaces : List Workspace} (hd : (workspaces.map (·.uuid)).Nodup)
    (p : Workspace → Bool) :
    (workspaces.filter fun w => ((workspaces.filter p).map (·.uuid)).contains w.uuid) =
      workspaces.filter p := by
  apply List.filter_congr
  intro w hw
  rw [Bool.eq_iff_iff, List.contains_iff_mem, List.mem_map]
  constructor
  · rintro ⟨other, hother, huuid⟩
    obtain ⟨hmem, hp⟩ := List.mem_filter.1 hother
    obtain rfl : other = w := List.inj_on_of_nodup_map hd hmem hw huuid
    exact hp
  · intro hp
    exact ⟨w, List.mem_filter.2 ⟨hw, hp⟩, rfl⟩

/-- Workspaces are listed alike whatever parent is given, if the scope lets it through. -/
theorem listResources_workspaces (c : Connector) {scope : Scope} {parent : Option ResourceId}
    (h : ∀ p, parent = some p → scope.check p = .ok ()) :
    c.listResources scope .workspace parent = listKind c.pageSize scope .workspace none := by
  cases parent with
  | none => rfl
  | some p =>
    rw [listResources_some c (h p rfl)]
    rfl

/-- **What was discovered is listed.** When the workspaces of a caller are a finite chain of pages
and no two of them have the same identifier, and the credentials reach a scope of a user, then the
calls of a listing of workspaces in that scope, first with the empty token and then with each token
returned, come to the empty token. Together they return the workspaces of the scope, in its order,
each of them once. -/
theorem listed_as_discovered {s : Server} (c : Connector) {pages : List (Page Workspace)}
    (h : Chain (fun cursor => s (.workspaces c.pageSize cursor)) "" pages)
    (hd : ((Page.concat pages).map (·.uuid)).Nodup) {limit : Nat} {user : String}
    {ids : List String} (hv : (c.validate limit).outcome s = .ok (.user user ids))
    {parent : Option ResourceId}
    (hp : ∀ p, parent = some p → (Scope.user user ids).check p = .ok ()) :
    ∃ calls, Chain (fun token =>
        (c.listResources (.user user ids) .workspace parent token).outcome s) "" calls ∧
      (Page.concat calls).map (·.id) =
        (Scope.user user ids).workspaceIds.map (ResourceId.mk .workspace) ∧
      (Scope.user user ids).workspaceIds.Nodup := by
  have hids := discovered_of_validate h hv
  obtain ⟨calls, hcalls, -, hitems⟩ :
      ListsIn s (listKind c.pageSize (.user user ids) .workspace none) pages.length _ :=
    lists_workspaces_user h
  rw [listResources_workspaces c hp]
  refine ⟨calls, hcalls, ?_, ?_⟩
  · have hkept : ((Page.concat pages).filter fun w => (Scope.user user ids).contains w.uuid) =
        (Page.concat pages).filter fun w => isOpen s w Probe.all && isWanted c.wanted w := by
      rw [hids]
      exact filter_discovered hd _
    rw [hitems, hkept]
    show _ = ids.map (ResourceId.mk .workspace)
    rw [hids, List.map_map, List.map_map]
    rfl
  · show ids.Nodup
    rw [hids]
    exact hd.sublist (List.filter_sublist.map _)

/-- Of three workspaces on two pages the first one is discovered, and it is the only one listed; the
second page of the listing is empty. -/
theorem listed_as_discovered_sample :
    let c : Connector := ⟨10, ["one", "two"]⟩
    (c.validate 2).outcome probeServer = .ok (.user "u" ["w1"]) ∧
    ∃ calls, Chain (fun token =>
        (c.listResources (.user "u" ["w1"]) .workspace none token).outcome probeServer) "" calls ∧
      (Page.concat calls).map (·.id) =
        (Scope.user "u" ["w1"]).workspaceIds.map (ResourceId.mk .workspace) ∧
      (Scope.user "u" ["w1"]).workspaceIds.Nodup := by
  intro c
  have h : Chain (fun cursor => probeServer (.workspaces 10 cursor)) ""
      [⟨[⟨"w1", "one", "One"⟩, ⟨"w2", "two", "Two"⟩], "2"⟩, ⟨[⟨"w3", "three", "Three"⟩], ""⟩] :=
    .more rfl (by decide) (.last rfl rfl)
  have hv : (c.validate 2).outcome probeServer = .ok (.user "u" ["w1"]) := rfl
  exact ⟨hv, listed_as_discovered c h (by decide) hv (by simp)⟩

end AccessSync
