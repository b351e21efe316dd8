import AccessSync.Discovery
import AccessSync.Proofs.Server

/-!
# What is discovered

What credentials reach is told by the replies to the probes. A workspace that was listed is reached
when none of its lists is denied; the first failure that is not a denial ends everything, and
nothing is asked after it.

* `Reading`: a list that is read page by page, to its end or to a fault.
* `reach`, `probed`, `told`: the scope, the requests and the events, from the replies of a server.
* `discovery`: they are what a discovery does.
-/

namespace AccessSync

open Api (Endpoint Workspace)

/-! ## Reading a list -/

/-- A list is read from a cursor on, until a page tells no cursor or cannot be had: the cursors that
are asked for, the pages, and the fault that ends the list. -/
inductive Reading {ε α : Type} (fetch : String → Except ε (Page α)) :
    String → List String → List (Page α) → Option ε → Prop
  | last {cursor : String} {page : Page α} (found : fetch cursor = .ok page)
      (ends : page.next = "") : Reading fetch cursor [cursor] [page] none
  | fault {cursor : String} {e : ε} (failed : fetch cursor = .error e) :
      Reading fetch cursor [cursor] [] (some e)
  | more {cursor : String} {page : Page α} {cursors : List String} {pages : List (Page α)}
      {e : Option ε} (found : fetch cursor = .ok page) (goes : page.next ≠ "")
      (tail : Reading fetch page.next cursors pages e) :
      Reading fetch cursor (cursor :: cursors) (page :: pages) e

/-- The items of a list that could be read to its end, or the fault. -/
def readItems {ε α : Type} (pages : List (Page α)) : Option ε → Except ε (List α)
  | none => .ok (Page.concat pages)
  | some e => .error e

/-- The elements up to the first one where `p` holds, that one included. -/
def upTo {α : Type} (p : α → Bool) : List α → List α
  | [] => []
  | a :: rest => if p a then [a] else a :: upTo p rest

/-! ## What the replies tell -/

/-- How a reply fails, if it does. -/
def failed? {α : Type} : Except Fault α → Option Failure
  | .ok _ => none
  | .error f => some f.failure

/-- What a probe asks of a workspace: all of its groups, one of its members, one of its projects. -/
def Probe.question (w : Workspace) : Probe → Endpoint
  | .groups => .groups w.uuid
  | .members => .members w.uuid 1 ""
  | .projects => .projects w.uuid 1 ""

theorem Probe.endpoint_eq (w : Workspace) (p : Probe) : p.endpoint w.uuid = p.question w := by
  cases p <;> rfl

section
variable (s : Server) (w : Workspace)

/-- How a probe of the workspace fails, if it does. -/
def Probe.failure? (p : Probe) : Option Failure := failed? (s (p.question w))

/-- The probe is denied. -/
def Probe.isDenied (p : Probe) : Bool := (p.failure? s w).any Failure.isPermissionDenied

/-- The failure that ends the probes and the whole discovery: of the probes that fail the first one,
unless it is denied. -/
def breach? (probes : List Probe) : Option Failure :=
  match probes.findSome? (Probe.failure? s w) with
  | none => none
  | some f => if f.isPermissionDenied then none else some f

/-- No probe of the workspace is denied. -/
def isOpen (probes : List Probe) : Bool := !probes.any (Probe.isDenied s w)

/-- The probes that are made: nothing is asked of a workspace after a failure. -/
def probesMade (probes : List Probe) : List Probe := upTo (fun p => (p.failure? s w).isSome) probes

end

/-- The workspaces that are probed: nothing is asked after a failure that is not a denial. -/
def workspacesProbed (s : Server) (workspaces : List Workspace) : List Workspace :=
  upTo (fun w => (breach? s w Probe.all).isSome) workspaces

/-- The requests of the probes. -/
def probed (s : Server) (workspaces : List Workspace) : List Endpoint :=
  (workspacesProbed s workspaces).flatMap fun w =>
    (probesMade s w Probe.all).map fun p => p.question w

/-- The events that tell of denied probes. -/
def told (s : Server) (workspaces : List Workspace) : List Event :=
  (workspacesProbed s workspaces).flatMap fun w =>
    ((probesMade s w Probe.all).filter (Probe.isDenied s w)).map (deniedEvent w)

/-- What the probes of workspaces come to: those where no list is denied, or the first failure that
is not a denial. -/
def openAmong (s : Server) (workspaces : List Workspace) : Except Failure (List String) :=
  match workspaces.findSome? fun w => breach? s w Probe.all with
  | some f => .error f
  | none => .ok ((workspaces.filter fun w => isOpen s w Probe.all).map (·.uuid))

/-- The workspaces that a discovery looks into. Credentials of a team belong to the workspace with
the identifier and the names of the team; for a user they are those of the list that are wanted,
which are all of them when nothing is said about it and otherwise those with a slug that is
named. -/
def candidates (wanted : List String) (listed : Except Fault (List Workspace))
    (identity : Api.User) : Except Failure (List Workspace) :=
  if identity.kind = "team" then
    .ok [{ uuid := identity.uuid, slug := identity.nickname, name := identity.displayName }]
  else if identity.kind = "user" then
    (listed.mapError Fault.failure).map (·.filter fun w => wanted = [] ∨ w.slug ∈ wanted)
  else .error (.unauthenticated s!"unsupported identity type: {identity.kind}")

/-- The scope of credentials for which these workspaces are open. -/
def scopeOf (identity : Api.User) (ids : List String) : Except Failure Scope :=
  if ids = [] then .error .noWorkspaces
  else .ok (if identity.kind = "team" then .workspace identity.uuid else .user identity.uuid ids)

section
variable (s : Server) (wanted : List String) (listed : Except Fault (List Workspace))
variable (identity : Api.User)

/-- The scope that the credentials of an identity reach, by what the list of workspaces comes to. -/
def reach : Except Failure Scope :=
  candidates wanted listed identity >>= fun workspaces =>
    openAmong s workspaces >>= scopeOf identity

/-- The workspaces that are looked into, none if the discovery ends before. -/
def lookedInto : List Workspace :=
  match candidates wanted listed identity with
  | .ok workspaces => workspaces
  | .error _ => []

end

/-! ## Probes -/

section
variable {s : Server} {w : Workspace}

theorem Probe.failure?_eq (s : Server) (w : Workspace) (p : Probe) :
    p.failure? s w = failed? (s (p.endpoint w.uuid)) := by
  cases p <;> rfl

theorem Probe.failure?_of_ok {p : Probe} {a : (p.endpoint w.uuid).Answer}
    (h : s (p.endpoint w.uuid) = .ok a) : p.failure? s w = none := by
  rw [failure?_eq, h]
  rfl

theorem Probe.failure?_of_error {p : Probe} {f : Fault} (h : s (p.endpoint w.uuid) = .error f) :
    p.failure? s w = some f.failure := by
  rw [failure?_eq, h]
  rfl

/-- A probe that does not fail leaves everything to those after it. -/
theorem probes_cons_of_none {p : Probe} (h : p.failure? s w = none) (rest : List Probe) :
    breach? s w (p :: rest) = breach? s w rest ∧ isOpen s w (p :: rest) = isOpen s w rest ∧
      probesMade s w (p :: rest) = p :: probesMade s w rest := by
  simp [breach?, isOpen, probesMade, upTo, Probe.isDenied, h]

/-- A probe that fails leaves nothing to those after it. -/
theorem probes_cons_of_some {p : Probe} {f : Failure} (h : p.failure? s w = some f)
    (rest : List Probe) :
    breach? s w (p :: rest) = (if f.isPermissionDenied then none else some f) ∧
      (f.isPermissionDenied → isOpen s w (p :: rest) = false) ∧
      probesMade s w (p :: rest) = [p] ∧ p.isDenied s w = f.isPermissionDenied := by
  have hdenied : p.isDenied s w = f.isPermissionDenied := by simp [Probe.isDenied, h]
  refine ⟨by simp [breach?, h], ?_, by simp [probesMade, upTo, h], hdenied⟩
  intro hf
  simp [isOpen, hdenied, hf]

/-- **The probes of a workspace** are made up to the first failure, which decides. -/
theorem does_passes (probes : List Probe) :
    (passes w probes).run.Does s
      (match breach? s w probes with
        | some f => .error f
        | none => .ok (isOpen s w probes))
      ((probesMade s w probes).map fun p => p.endpoint w.uuid)
      (((probesMade s w probes).filter (Probe.isDenied s w)).map (deniedEvent w)) := by
  induction probes with
  | nil => exact Plan.does_pure true
  | cons p rest ih =>
    unfold passes
    cases hs : s (p.endpoint w.uuid) with
    | ok a =>
      have hnone := Probe.failure?_of_ok hs
      obtain ⟨hbreach, hopen, hmade⟩ := probes_cons_of_none hnone rest
      have hdenied : p.isDenied s w = false := by simp [Probe.isDenied, hnone]
      rw [hbreach, hopen, hmade, List.map_cons, List.filter_cons_of_neg (by simp [hdenied])]
      refine Plan.does_bind (Operation.does_attempt _) ?_
      rw [hs]
      exact ih
    | error fault =>
      obtain ⟨hbreach, hopen, hmade, hdenied⟩ :=
        probes_cons_of_some (Probe.failure?_of_error hs) rest
      rw [hbreach, hmade]
      by_cases hd : fault.failure.isPermissionDenied
      · -- a denied probe is told of, and the workspace is not open
        rw [if_pos hd, hopen hd, List.filter_cons_of_pos (by rw [hdenied, hd])]
        refine Plan.does_bind (Operation.does_attempt _) ?_
        rw [hs]
        show ((if fault.failure.isPermissionDenied then _ else _) : Operation Bool).run.Does s _ _ _
        rw [if_pos hd]
        exact Plan.does_bind (Operation.does_report _) (Plan.does_pure false)
      · -- any other failure ends everything
        rw [if_neg hd, List.filter_cons_of_neg (by rw [hdenied]; exact hd)]
        refine Plan.does_bind (Operation.does_attempt _) ?_
        rw [hs]
        show ((if fault.failure.isPermissionDenied then _ else _) : Operation Bool).run.Does s _ _ _
        rw [if_neg hd]
        exact Plan.does_done _

theorem probed_eq (s : Server) (workspaces : List Workspace) :
    probed s workspaces = (workspacesProbed s workspaces).flatMap fun w =>
      (probesMade s w Probe.all).map fun p => p.endpoint w.uuid := by
  unfold probed
  simp only [Probe.endpoint_eq]

theorem openAmong_cons_of_some {rest : List Workspace} {f : Failure}
    (h : breach? s w Probe.all = some f) : openAmong s (w :: rest) = .error f := by
  simp [openAmong, h]

theorem openAmong_cons_of_none {rest : List Workspace} (h : breach? s w Probe.all = none) :
    openAmong s (w :: rest) = openAmong s rest >>= fun ids =>
      .ok (if isOpen s w Probe.all then w.uuid :: ids else ids) := by
  unfold openAmong
  rw [List.findSome?_cons, h]
  simp only
  cases rest.findSome? fun w => breach? s w Probe.all with
  | some f => rfl
  | none =>
    by_cases ho : isOpen s w Probe.all <;> simp [bind, Except.bind, ho]

/-- **The probes of several workspaces** are made up to the first failure that is not a denial. -/
theorem does_passing (workspaces : List Workspace) :
    (passing workspaces).run.Does s (openAmong s workspaces) (probed s workspaces)
      (told s workspaces) := by
  induction workspaces with
  | nil => exact Plan.does_pure []
  | cons w rest ih =>
    have hpasses := does_passes (s := s) (w := w) Probe.all
    unfold passing
    cases hb : breach? s w Probe.all with
    | some f =>
      have hprobed : workspacesProbed s (w :: rest) = [w] := by simp [workspacesProbed, upTo, hb]
      rw [hb] at hpasses
      rw [openAmong_cons_of_some hb, probed_eq, told, hprobed, List.flatMap_singleton,
        List.flatMap_singleton]
      exact Plan.does_bind_of_error hpasses _
    | none =>
      have hprobed : workspacesProbed s (w :: rest) = w :: workspacesProbed s rest := by
        simp [workspacesProbed, upTo, hb]
      rw [hb] at hpasses
      rw [probed_eq, told] at ih
      rw [openAmong_cons_of_none hb, probed_eq, told, hprobed, List.flatMap_cons,
        List.flatMap_cons]
      exact Plan.does_bind hpasses (Plan.does_bind_done ih fun _ => rfl)

/-! ## Workspaces of the caller -/

variable {pageSize : UInt32} {cursor : String} {cursors : List String}
variable {pages : List (Page Workspace)} {fault : Option Fault}

theorem does_inquire (e : Endpoint) : (Dialogue.inquire e).run.Does s (s e) [e] [] :=
  Plan.does_ask (Plan.does_done _)

theorem does_moreWorkspaces {page : Page Workspace} (h : s (.workspaces pageSize cursor) = .ok page)
    (done : List Workspace) :
    (Api.moreWorkspaces pageSize done cursor).run.Does s
      (.ok (if page.next = "" then .inr (done ++ page.items)
        else .inl (done ++ page.items, page.next))) [.workspaces pageSize cursor] [] := by
  have hpage := does_inquire (s := s) (.workspaces pageSize cursor)
  rw [h] at hpage
  refine Plan.does_bind hpage ?_
  by_cases hn : page.next = ""
  · simp only [if_pos hn]
    exact Plan.does_pure _
  · simp only [if_neg hn]
    exact Plan.does_pure _

/-- The workspaces are read from a cursor on, after those found before. -/
theorem does_workspacesFrom
    (h : Reading (fun c => s (.workspaces pageSize c)) cursor cursors pages fault) {limit : Nat}
    (hl : cursors.length ≤ limit) (done : List Workspace) :
    (repeatUpTo (m := Inquiry) (ExceptT.lift (.stop .rounds))
      (fun (done, cursor) => Api.moreWorkspaces pageSize done cursor) limit
      (done, cursor)).run.Does s ((readItems pages fault).map (done ++ ·))
      (cursors.map (.workspaces pageSize)) [] := by
  induction h generalizing limit done with
  | @last cursor page found ends =>
    obtain ⟨n, rfl⟩ : ∃ n, limit = n + 1 := Nat.exists_eq_add_one.2 hl
    have hpage := does_moreWorkspaces found done
    rw [if_pos ends] at hpage
    have hitems : done ++ Page.concat [page] = done ++ page.items := by simp [Page.concat]
    unfold repeatUpTo readItems
    rw [Except.map, hitems]
    exact Plan.does_bind hpage (Plan.does_pure _)
  | @fault cursor e failed =>
    obtain ⟨n, rfl⟩ : ∃ n, limit = n + 1 := Nat.exists_eq_add_one.2 hl
    have hpage := does_inquire (s := s) (.workspaces pageSize cursor)
    rw [failed] at hpage
    unfold repeatUpTo
    exact Plan.does_bind_of_error (Plan.does_bind_of_error hpage _) _
  | @more cursor page cursors pages e found goes tail ih =>
    obtain ⟨n, rfl⟩ : ∃ n, limit = n + 1 :=
      Nat.exists_eq_add_one.2 (Nat.lt_of_lt_of_le (by simp) hl)
    have hpage := does_moreWorkspaces found done
    rw [if_neg goes] at hpage
    have hrest := ih (Nat.le_of_succ_le_succ hl) (done ++ page.items)
    have hitems : (readItems (page :: pages) e).map (done ++ ·) =
        (readItems pages e).map (done ++ page.items ++ ·) := by
      cases e with
      | some f => rfl
      | none => simp [readItems, Page.concat, Except.map]
    unfold repeatUpTo
    rw [hitems]
    exact Plan.does_bind hpage hrest

/-- **The workspaces are read** page after page, to the end of the list or to a fault. -/
theorem does_allWorkspaces
    (h : Reading (fun c => s (.workspaces pageSize c)) "" cursors pages fault) {limit : Nat}
    (hl : cursors.length ≤ limit) :
    (Api.allWorkspaces pageSize limit).run.Does s (readItems pages fault)
      (cursors.map (.workspaces pageSize)) [] := by
  have hall := does_workspacesFrom h hl []
  have hmap : (readItems pages fault).map ([] ++ ·) = readItems pages fault := by
    cases fault <;> rfl
  rwa [hmap] at hall

/-! ## Discoveries -/

theorem does_operation {α : Type} {work : Inquiry α} {r : Except Fault α}
    {questions : List Endpoint} {notes : List Event} (h : work.run.Does s r questions notes) :
    work.operation.run.Does s (r.mapError Fault.failure) questions notes := by
  rw [← List.append_nil questions, ← List.append_nil notes]
  exact h.bind (Plan.does_done (r.mapError Fault.failure))

/-- The workspace of credentials that belong to one is probed. -/
theorem does_scopeFor_team {identity : Api.User} (ht : identity.kind = "team") (pageSize : UInt32)
    (wanted : List String) (limit : Nat) :
    (scopeFor pageSize wanted limit identity).run.Does s
      (openAmong s [ownWorkspace identity] >>= scopeOf identity)
      (probed s [ownWorkspace identity]) (told s [ownWorkspace identity]) := by
  have hone : workspacesProbed s [ownWorkspace identity] = [ownWorkspace identity] := by
    unfold workspacesProbed upTo
    split <;> rfl
  have hpasses := does_passes (s := s) (w := ownWorkspace identity) Probe.all
  have hwork : ∀ b : Bool, (if b then return .workspace identity.uuid else throw .noWorkspaces :
      Operation Scope).run = .done (if b then .ok (.workspace identity.uuid) else
        .error .noWorkspaces) := by
    intro b
    cases b <;> rfl
  unfold scopeFor
  rw [if_pos ht, probed_eq, told, hone, List.flatMap_singleton, List.flatMap_singleton]
  cases hb : breach? s (ownWorkspace identity) Probe.all with
  | some f =>
    rw [hb] at hpasses
    rw [openAmong_cons_of_some hb]
    exact Plan.does_bind_done hpasses hwork
  | none =>
    rw [hb] at hpasses
    have hscope : openAmong s [ownWorkspace identity] >>= scopeOf identity =
        if isOpen s (ownWorkspace identity) Probe.all then .ok (.workspace identity.uuid)
        else .error .noWorkspaces := by
      rw [openAmong_cons_of_none hb]
      by_cases ho : isOpen s (ownWorkspace identity) Probe.all <;>
        simp [ho, openAmong, scopeOf, ht, bind, Except.bind]
    rw [hscope]
    exact Plan.does_bind_done hpasses hwork

/-- A workspace is wanted when its slug is named, or none is. -/
theorem isWanted_eq (wanted : List String) (w : Workspace) :
    isWanted wanted w = decide (wanted = [] ∨ w.slug ∈ wanted) := by
  rw [Bool.eq_iff_iff]
  simp [isWanted]

theorem candidates_team {identity : Api.User} (ht : identity.kind = "team") (wanted : List String)
    (listed : Except Fault (List Workspace)) :
    candidates wanted listed identity = .ok [ownWorkspace identity] := if_pos ht

theorem candidates_user {identity : Api.User} (hu : identity.kind = "user") (wanted : List String)
    (listed : Except Fault (List Workspace)) :
    candidates wanted listed identity =
      (listed.mapError Fault.failure).map (·.filter (isWanted wanted)) := by
  have hteam : identity.kind ≠ "team" := by simp [hu]
  unfold candidates
  rw [if_neg hteam, if_pos hu, funext (isWanted_eq wanted)]

/-- The workspaces of a user are read, and those that are wanted are probed. -/
theorem does_discoverWorkspaces {identity : Api.User} (hu : identity.kind = "user")
    (wanted : List String)
    (h : Reading (fun c => s (.workspaces pageSize c)) "" cursors pages fault) {limit : Nat}
    (hl : cursors.length ≤ limit) :
    (discoverWorkspaces pageSize wanted limit).run.Does s
      (candidates wanted (readItems pages fault) identity >>= openAmong s)
      (cursors.map (.workspaces pageSize) ++
        probed s (lookedInto wanted (readItems pages fault) identity))
      (told s (lookedInto wanted (readItems pages fault) identity)) := by
  have hlist := does_operation (does_allWorkspaces h hl)
  unfold discoverWorkspaces lookedInto
  rw [candidates_user hu]
  cases fault with
  | some f =>
    have hnone : cursors.map (Endpoint.workspaces pageSize) ++ probed s [] =
        cursors.map (.workspaces pageSize) := List.append_nil _
    have hfail := Plan.does_bind_of_error hlist fun all => passing (all.filter (isWanted wanted))
    rw [← hnone] at hfail
    exact hfail
  | none => exact Plan.does_bind hlist (does_passing _)

/-- A user reaches the workspaces that are open, if there are any. -/
theorem does_scopeFor_user {identity : Api.User} (hu : identity.kind = "user")
    (wanted : List String)
    (h : Reading (fun c => s (.workspaces pageSize c)) "" cursors pages fault) {limit : Nat}
    (hl : cursors.length ≤ limit) :
    (scopeFor pageSize wanted limit identity).run.Does s
      (reach s wanted (readItems pages fault) identity)
      (cursors.map (.workspaces pageSize) ++
        probed s (lookedInto wanted (readItems pages fault) identity))
      (told s (lookedInto wanted (readItems pages fault) identity)) := by
  have hteam : identity.kind ≠ "team" := by simp [hu]
  have hwork : ∀ ids : List String, (if ids.isEmpty then throw .noWorkspaces
      else return .user identity.uuid ids : Operation Scope).run =
        .done (scopeOf identity ids) := by
    intro ids
    unfold scopeOf
    cases ids with
    | nil => rfl
    | cons id rest => rw [if_neg (List.cons_ne_nil _ _), if_neg hteam]; rfl
  have hreach : reach s wanted (readItems pages fault) identity =
      (candidates wanted (readItems pages fault) identity >>= openAmong s) >>=
        scopeOf identity := by
    unfold reach
    rw [bind_assoc]
  unfold scopeFor
  rw [if_neg hteam, if_pos hu, hreach]
  exact Plan.does_bind_done (does_discoverWorkspaces hu wanted h hl) hwork

/-- **A discovery** comes to the scope that the replies tell, asks for no more than it needs, and
tells of every denied probe that it made. -/
theorem discovery (s : Server) (pageSize : UInt32) (wanted : List String) {limit : Nat}
    {cursors : List String} {pages : List (Page Workspace)} {fault : Option Fault}
    (h : Reading (fun c => s (.workspaces pageSize c)) "" cursors pages fault)
    (hl : cursors.length ≤ limit) :
    match s .currentUser with
    | .error f =>
      (discoverScope pageSize wanted limit).run.Does s (.error f.failure) [.currentUser] []
    | .ok identity =>
      let looked := lookedInto wanted (readItems pages fault) identity
      (discoverScope pageSize wanted limit).run.Does s
        (reach s wanted (readItems pages fault) identity)
        (.currentUser ::
          ((if identity.kind = "user" then cursors.map (.workspaces pageSize) else []) ++
            probed s looked))
        (told s looked) := by
  have hask := Operation.does_ask (s := s) .currentUser
  unfold discoverScope
  cases hs : s .currentUser with
  | error f =>
    rw [hs] at hask
    exact Plan.does_bind_of_error hask _
  | ok identity =>
    rw [hs] at hask
    refine Plan.does_bind hask ?_
    -- no page of workspaces is read for a team
    by_cases ht : identity.kind = "team"
    · have hteam := does_scopeFor_team (s := s) ht pageSize wanted limit
      have hkind : identity.kind ≠ "user" := by simp [ht]
      unfold reach lookedInto
      rw [candidates_team ht, if_neg hkind]
      exact hteam
    · by_cases hu : identity.kind = "user"
      · rw [if_pos hu]
        exact does_scopeFor_user hu wanted h hl
      · unfold scopeFor reach lookedInto candidates
        rw [if_neg ht, if_neg hu, if_neg ht, if_neg hu, if_neg hu]
        exact Plan.does_done _

end

/-- A user of three workspaces, the second of which does not show its members. -/
def probeServer : Server
  | .currentUser => .ok ⟨"u", "User", "user", "user"⟩
  | .workspaces _ cursor =>
    if cursor = "" then .ok ⟨[⟨"w1", "one", "One"⟩, ⟨"w2", "two", "Two"⟩], "2"⟩
    else .ok ⟨[⟨"w3", "three", "Three"⟩], ""⟩
  | .groups _ => .ok []
  | .members w _ _ => if w = "w2" then .error (.status 403 "forbidden") else .ok ⟨[], ""⟩
  | .projects .. => .ok ⟨[], ""⟩
  | _ => .error (.status 404 "not found")

/-- The same server, for the credentials of one of the workspaces. -/
def teamProbeServer (team : Workspace) : Server
  | .currentUser => .ok ⟨team.uuid, team.name, team.slug, "team"⟩
  | e => probeServer e

/-- The user reaches the first workspace: the second one is denied, and the third one is not wanted.
A team reaches its own workspace if it is the first one, and nothing if it is the second one. -/
theorem discovery_probeServer :
    (discoverScope 10 ["one", "two"] 2).run.Does probeServer (.ok (.user "u" ["w1"]))
      [.currentUser, .workspaces 10 "", .workspaces 10 "2", .groups "w1", .members "w1" 1 "",
        .projects "w1" 1 "", .groups "w2", .members "w2" 1 ""]
      [deniedEvent ⟨"w2", "two", "Two"⟩ .members] ∧
    (discoverScope 10 ["two"] 2).run.Does (teamProbeServer ⟨"w1", "one", "One"⟩)
      (.ok (.workspace "w1"))
      [.currentUser, .groups "w1", .members "w1" 1 "", .projects "w1" 1 ""] [] ∧
    (discoverScope 10 ["two"] 2).run.Does (teamProbeServer ⟨"w2", "two", "Two"⟩)
      (.error .noWorkspaces) [.currentUser, .groups "w2", .members "w2" 1 ""]
      [deniedEvent ⟨"w2", "two", "Two"⟩ .members] := by
  have h : Reading (fun c => probeServer (.workspaces 10 c)) "" ["", "2"]
      [⟨[⟨"w1", "one", "One"⟩, ⟨"w2", "two", "Two"⟩], "2"⟩, ⟨[⟨"w3", "three", "Three"⟩], ""⟩]
      none :=
    .more rfl (by decide) (.last rfl rfl)
  exact ⟨discovery probeServer 10 ["one", "two"] h (Nat.le_refl 2),
    discovery (teamProbeServer ⟨"w1", "one", "One"⟩) 10 ["two"] h (Nat.le_refl 2),
    discovery (teamProbeServer ⟨"w2", "two", "Two"⟩) 10 ["two"] h (Nat.le_refl 2)⟩

end AccessSync
