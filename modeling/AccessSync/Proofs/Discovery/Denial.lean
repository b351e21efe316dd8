import AccessSync.Proofs.Discovery
import AccessSync.Proofs.Text.Occurrence

/-!
# Which workspaces are left out

A workspace is left out of the scope when one of its lists is denied. A denial is told by the status
403, and where a fault has another status or none, by the words of its text. A text may have been
sent by the server, so a fault of any kind may leave a workspace out.

* `Fault.leavesOut`: the faults that do.
* `isPermissionDenied_failure`: they are the ones that count as a denial.
* `discovery_of_failing_probe`: what a failing probe does to a discovery.
-/

namespace AccessSync

/-- What a fault says besides its kind. -/
def Fault.detail : Fault → String
  | .configuration m | .authentication m | .status _ m | .transport m | .identifier m => m
  | .shape mismatch => mismatch.message
  | .exchange _ | .url _ | .cancelled => ""

/-- The digits of the status begin with those of 403. -/
def beginsForbidden (code : Nat) : Bool := ['4', '0', '3'].isPrefixOf (Nat.toDigits 10 code)

/-- The words that tell of a denial. -/
def forbidden : String := "status 403"

/-- The fault leaves a workspace out: it has the status 403, or its text has the words. -/
def Fault.leavesOut (f : Fault) : Bool :=
  f.status?.any beginsForbidden || Text.contains f.detail forbidden

/-! ## Denials -/

/-- Of the statuses with three digits only 403 begins like that. -/
theorem beginsForbidden_iff {code : Nat} (h : code < 1000) : beginsForbidden code ↔ code = 403 := by
  have hall : ∀ code < 1000, beginsForbidden code = decide (code = 403) := by decide +kernel
  rw [hall code h, decide_eq_true_iff]

/-- The words occur behind a status that begins like that, or in what follows. -/
theorem contains_statusMessage (code : Nat) (m : String) :
    Text.contains (Fault.status code m).message forbidden =
      (beginsForbidden code || Text.contains m forbidden) := by
  have hwords : "request failed with status " = "request failed with " ++ "status " := rfl
  have hmessage : (Fault.status code m).message =
      "request failed with " ++ ("status " ++ toString code ++ ": " ++ m) := by
    unfold Fault.message
    simp only [toString, hwords, String.append_assoc]
  have hchars : ("status " ++ toString code ++ ": " ++ m).toList =
      's' :: ("tatus ".toList ++ (Nat.toDigits 10 code ++ ':' :: ' ' :: m.toList)) := by
    simp only [String.toList_append, List.append_assoc, Nat.toString_eq_repr, Nat.toList_repr]
    rfl
  -- the status is one place where the words may be, and none begins between it and what follows
  have hhere : forbidden.toList.isPrefixOf
      ('s' :: ("tatus ".toList ++ (Nat.toDigits 10 code ++ ':' :: ' ' :: m.toList))) =
        beginsForbidden code := by
    show ['4', '0', '3'].isPrefixOf (Nat.toDigits 10 code ++ ':' :: ' ' :: m.toList) = _
    exact Text.isPrefixOf_append_cons (by decide) _ _
  have hdigits : Text.passesOver forbidden.toList (Nat.toDigits 10 code) :=
    Text.passesOver_of_not_mem fun h =>
      absurd (Nat.isDigit_of_mem_toDigits (by decide) (by decide) h) (by decide)
  have hcolon : Text.passesOver forbidden.toList [':', ' '] := by decide
  have hthere : Text.occursIn forbidden.toList
      ("tatus ".toList ++ (Nat.toDigits 10 code ++ ':' :: ' ' :: m.toList)) =
        Text.occursIn forbidden.toList m.toList := by
    rw [Text.occursIn_append_of_passesOver (by decide),
      Text.occursIn_append_of_passesOver hdigits]
    exact Text.occursIn_append_of_passesOver hcolon m.toList
  rw [hmessage, Text.contains_append "request failed with " (by decide)]
  unfold Text.contains
  rw [hchars, Text.occursIn, hhere, hthere]

/-- Of a status only 403 is a denial by itself; the others are told by their text. -/
theorem isPermissionDenied_ofStatus (code : Nat) (m : String) :
    (Fault.ofStatus code m).isPermissionDenied =
      (decide (code = 403) || Text.contains m forbidden) := by
  unfold Fault.ofStatus
  split
  · rename_i hcode
    subst hcode
    exact Text.contains_append "unauthenticated: " (by decide) m
  split
  · rename_i hcode
    simp only [hcode, decide_true, Bool.true_or]
    rfl
  rename_i hother
  rw [decide_eq_false hother, Bool.false_or]
  split
  · exact Text.contains_append "not found: " (by decide) m
  split
  · exact Text.contains_append "transport error: " (by decide) m
  split
  · exact Text.contains_append "invalid argument: " (by decide) m
  · exact Text.contains_append "transport error: " (by decide) m

/-- **A fault counts as a denial** when it has the status or the words, whatever its kind is. -/
theorem isPermissionDenied_failure (f : Fault) : f.failure.isPermissionDenied = f.leavesOut := by
  cases f with
  | configuration m => exact Text.contains_append "invalid configuration: " (by decide) m
  | authentication m =>
    exact (Text.contains_append "unauthenticated: " (by decide) _).trans
      (Text.contains_append "Authentication error: " (by decide) m)
  | status code m =>
    show (Fault.ofStatus code (Fault.status code m).message).isPermissionDenied =
      (beginsForbidden code || Text.contains m forbidden)
    rw [isPermissionDenied_ofStatus, contains_statusMessage]
    by_cases hcode : code = 403
    · have hbegins : beginsForbidden code := by rw [hcode]; decide
      simp [hbegins]
    · simp [hcode]
  | exchange m =>
    have hnone : Text.contains "transport error: HTTP request failed" forbidden = false := by decide
    exact hnone
  | transport m =>
    exact (Text.contains_append "transport error: " (by decide) _).trans
      (Text.contains_append "Transport error: " (by decide) m)
  | shape mismatch =>
    exact Text.contains_append "serialization error: " (by decide) mismatch.message
  | url e => cases e <;> decide
  | identifier m =>
    exact (Text.contains_append "invalid argument: " (by decide) _).trans
      (Text.contains_append "invalid id: " (by decide) m)
  | cancelled => decide

/-- Among faults without the words, the status 403 alone leaves a workspace out. -/
theorem leavesOut_iff {f : Fault} (hstatus : ∀ code ∈ f.status?, code < 1000) :
    f.leavesOut ↔ f.status? = some 403 ∨ Text.contains f.detail forbidden := by
  unfold Fault.leavesOut
  rw [Bool.or_eq_true]
  cases hcode : f.status? with
  | none => simp
  | some code =>
    have hbegins := beginsForbidden_iff (hstatus code hcode)
    simp [hbegins]

/-! ## Failing probes -/

open Api (Workspace)

section
variable {s : Server} {w : Workspace} {p : Probe} {f : Fault}

/-- Of the probes of a workspace this one is the first to fail, and it fails with the fault. -/
structure FailsAt (s : Server) (w : Workspace) (p : Probe) (f : Fault) : Prop where
  failed : s (p.question w) = .error f
  first : ∃ earlier later, Probe.all = earlier ++ p :: later ∧
    ∀ q ∈ earlier, q.failure? s w = none

/-- **The first probe that fails decides** what becomes of the workspace. -/
theorem probes_of_failing {earlier : List Probe} (hearlier : ∀ q ∈ earlier, q.failure? s w = none)
    (hfailed : p.failure? s w = some f.failure) (later : List Probe) :
    breach? s w (earlier ++ p :: later) = (if f.leavesOut then none else some f.failure) ∧
      (f.leavesOut → isOpen s w (earlier ++ p :: later) = false) := by
  induction earlier with
  | nil =>
    obtain ⟨hbreach, hopen, -, -⟩ := probes_cons_of_some hfailed later
    rw [isPermissionDenied_failure] at hbreach hopen
    exact ⟨hbreach, hopen⟩
  | cons q rest ih =>
    obtain ⟨hbreach, hopen, -⟩ :=
      probes_cons_of_none (hearlier q List.mem_cons_self) (rest ++ p :: later)
    rw [List.cons_append, hbreach, hopen]
    exact ih fun q hq => hearlier q (List.mem_cons_of_mem _ hq)

theorem FailsAt.decides (h : FailsAt s w p f) :
    breach? s w Probe.all = (if f.leavesOut then none else some f.failure) ∧
      (f.leavesOut → isOpen s w Probe.all = false) := by
  obtain ⟨earlier, later, hall, hearlier⟩ := h.first
  rw [hall]
  exact probes_of_failing hearlier (congrArg failed? h.failed) later

variable {before after : List Workspace}

/-- A workspace that is left out is as good as one that is not there. -/
theorem openAmong_of_leavesOut (h : FailsAt s w p f) (hf : f.leavesOut) :
    openAmong s (before ++ w :: after) = openAmong s (before ++ after) := by
  obtain ⟨hbreach, hopen⟩ := h.decides
  rw [if_pos hf] at hbreach
  unfold openAmong
  simp [List.findSome?_append, hbreach, hopen hf]

/-- Any other failure ends everything, unless something else did before. -/
theorem openAmong_of_not_leavesOut (hbefore : ∀ v ∈ before, breach? s v Probe.all = none)
    (h : FailsAt s w p f) (hf : ¬ f.leavesOut) :
    openAmong s (before ++ w :: after) = .error f.failure := by
  obtain ⟨hbreach, -⟩ := h.decides
  rw [if_neg hf] at hbreach
  have hnone : before.findSome? (fun v => breach? s v Probe.all) = none :=
    List.findSome?_eq_none_iff.2 hbefore
  unfold openAmong
  simp [List.findSome?_append, hnone, hbreach]

/-- Whoever the credentials belong to, the workspaces that are looked into decide. -/
theorem does_scopeFor {pageSize : UInt32} {wanted : List String} {limit : Nat}
    {cursors : List String} {pages : List (Page Workspace)} {fault : Option Fault}
    (hread : Reading (fun c => s (.workspaces pageSize c)) "" cursors pages fault)
    (hlimit : cursors.length ≤ limit) {identity : Api.User} {workspaces : List Workspace}
    (hcandidates : candidates wanted (readItems pages fault) identity = .ok workspaces) :
    ∃ questions notes, (scopeFor pageSize wanted limit identity).run.Does s
      (openAmong s workspaces >>= scopeOf identity) questions notes := by
  by_cases hteam : identity.kind = "team"
  · have hown : workspaces = [ownWorkspace identity] := by
      rw [candidates_team hteam] at hcandidates
      exact (Except.ok.inj hcandidates).symm
    rw [hown]
    exact ⟨_, _, does_scopeFor_team hteam pageSize wanted limit⟩
  · by_cases huser : identity.kind = "user"
    · have hreach : reach s wanted (readItems pages fault) identity =
          openAmong s workspaces >>= scopeOf identity := by
        unfold reach
        rw [hcandidates]
        rfl
      rw [← hreach]
      exact ⟨_, _, does_scopeFor_user huser wanted hread hlimit⟩
    · unfold candidates at hcandidates
      rw [if_neg hteam, if_neg huser] at hcandidates
      cases hcandidates

/-- **What a failing probe does to a discovery** that has come as far as its workspace: the workspace
is left out, as if it was not among those that are looked into, or the discovery ends with the
failure. The status of the fault and its text decide. -/
theorem discovery_of_failing_probe (s : Server) (pageSize : UInt32) (wanted : List String)
    {limit : Nat} {cursors : List String} {pages : List (Page Workspace)} {fault : Option Fault}
    (hread : Reading (fun c => s (.workspaces pageSize c)) "" cursors pages fault)
    (hlimit : cursors.length ≤ limit) {identity : Api.User}
    (hidentity : s .currentUser = .ok identity)
    (hcandidates :
      candidates wanted (readItems pages fault) identity = .ok (before ++ w :: after))
    (hbefore : ∀ v ∈ before, breach? s v Probe.all = none) (hfails : FailsAt s w p f) :
    let result := (discoverScope pageSize wanted limit).run.result s
    (f.leavesOut → result = .ok (openAmong s (before ++ after) >>= scopeOf identity)) ∧
      (¬ f.leavesOut → result = .ok (.error f.failure)) := by
  intro result
  obtain ⟨questions, notes, hscope⟩ := does_scopeFor hread hlimit hcandidates
  have hask := Operation.does_ask (s := s) .currentUser
  rw [hidentity] at hask
  have hresult : result = .ok (openAmong s (before ++ w :: after) >>= scopeOf identity) :=
    (Plan.does_bind hask hscope).result
  constructor
  · intro hf
    rw [hresult, openAmong_of_leavesOut hfails hf]
  · intro hf
    rw [hresult, openAmong_of_not_leavesOut hbefore hfails hf]
    rfl

end

/-- A user of two workspaces; the groups of the second one cannot be had. -/
def failingServer (f : Fault) : Server
  | .currentUser => .ok ⟨"u", "User", "user", "user"⟩
  | .workspaces .. => .ok ⟨[⟨"w1", "one", "One"⟩, ⟨"w2", "two", "Two"⟩], ""⟩
  | .groups w => if w = "w2" then .error f else .ok []
  | .members .. => .ok ⟨[], ""⟩
  | .projects .. => .ok ⟨[], ""⟩
  | _ => .error (.status 404 "not found")

/-- A denial leaves the second workspace out, and an outage ends the discovery. -/
theorem discovery_of_failing_probe_sample :
    let result := fun f => (discoverScope 10 [] 1).run.result (failingServer f)
    result (.status 403 "forbidden") = .ok (.ok (.user "u" ["w1"])) ∧
      result (.status 500 "broken") =
        .ok (.error (.transport "request failed with status 500: broken" none)) := by
  intro result
  have hread (f : Fault) : Reading (fun c => failingServer f (.workspaces 10 c)) "" [""]
      [⟨[⟨"w1", "one", "One"⟩, ⟨"w2", "two", "Two"⟩], ""⟩] none := .last rfl rfl
  have hcandidates : candidates [] (readItems
      [⟨[⟨"w1", "one", "One"⟩, ⟨"w2", "two", "Two"⟩], ""⟩] none) ⟨"u", "User", "user", "user"⟩ =
        .ok ([⟨"w1", "one", "One"⟩] ++ ⟨"w2", "two", "Two"⟩ :: []) := rfl
  have hbefore (f : Fault) : ∀ v ∈ [⟨"w1", "one", "One"⟩],
      breach? (failingServer f) v Probe.all = none := by
    intro v hv
    rw [List.mem_singleton.1 hv]
    rfl
  have hfails (f : Fault) : FailsAt (failingServer f) ⟨"w2", "two", "Two"⟩ .groups f :=
    ⟨rfl, [], [.members, .projects], rfl, nofun⟩
  have hdenial := discovery_of_failing_probe _ 10 [] (hread (.status 403 "forbidden"))
    (Nat.le_refl 1) rfl hcandidates (hbefore _) (hfails _)
  have houtage := discovery_of_failing_probe _ 10 [] (hread (.status 500 "broken"))
    (Nat.le_refl 1) rfl hcandidates (hbefore _) (hfails _)
  exact ⟨hdenial.1 (by decide), houtage.2 (by decide)⟩

/-- **An outage leaves a workspace out** when its text has the words, and so does a login that is
refused: neither is an answer of the list with the status 403. -/
theorem outage_leaves_workspace_out :
    let result := fun f => (discoverScope 10 [] 1).run.result (failingServer f)
    let outage : Fault := .status 500 "a server behind this one answered with status 403"
    let login : Fault := .authentication "Token request failed with status 403 Forbidden: no"
    outage.status? ≠ some 403 ∧ result outage = .ok (.ok (.user "u" ["w1"])) ∧
      login.status? ≠ some 403 ∧ result login = .ok (.ok (.user "u" ["w1"])) := by
  refine ⟨by decide, rfl, by decide, rfl⟩

end AccessSync
