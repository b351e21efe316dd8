import AccessSync.Proofs.Provision.Store

/-!
# Changes one after the other

Against a server that keeps entries, what is left after any calls is what the last successful call
on each entry left there.

* `makeAll`: calls one after the other.
* `store_of_changes`: what they do to the entries.
-/

namespace AccessSync.Provision

open Api (Endpoint Target Side)
open Function (update)

variable {σ : Type}

/-- The changes are made one after the other, each from the state that the one before it left. -/
def makeAll (up : Responder Endpoint.Reply σ) : List (Scope × Change) → σ → List (Made σ)
  | [], _ => []
  | (scope, c) :: rest, s => make up scope c s :: makeAll up rest (make up scope c s).after

/-- The state that changes leave. -/
def stateAfter (up : Responder Endpoint.Reply σ) (calls : List (Scope × Change)) (s : σ) : σ :=
  calls.foldl (fun s (scope, c) => (make up scope c s).after) s

section
variable {up : Responder Endpoint.Reply σ} {view : σ → Store} {scope : Scope} {c : Change}

theorem fits_makeAll (h : IsStore up view) (calls : List (Scope × Change)) (s : σ) :
    ∀ m ∈ makeAll up calls s, m.Fits view := by
  induction calls generalizing s with
  | nil => intro m hm; exact absurd hm List.not_mem_nil
  | cons call rest ih =>
    intro m hm
    rcases List.mem_cons.1 hm with rfl | hm
    · exact fits_make h call.1 call.2 s
    · exact ih _ m hm

/-- A call that does not write an entry leaves it as it was. -/
theorem view_of_not_writes {m : Made σ} (hm : m.Fits view) {e : Entry} (he : ¬m.Writes e) :
    view m.after e = view m.before e := by
  obtain ⟨r, hr⟩ := hm.returns
  cases r with
  | error f => rw [hm.failed f hr]
  | ok u =>
    obtain ⟨e', habout, hview⟩ := hm.done hr
    have hne : e ≠ e' := fun heq => he ⟨hr, heq ▸ habout⟩
    rw [hview, Function.update_of_ne hne]

/-- A call that writes an entry leaves there what the change gives. -/
theorem view_of_writes {m : Made σ} (hm : m.Fits view) {e : Entry} (he : m.Writes e) :
    view m.after e = m.change.left := by
  obtain ⟨e', habout, hview⟩ := hm.done he.1
  obtain rfl := habout.unique he.2
  rw [hview, Function.update_self]

/-- An entry that no call writes stays as it was. -/
theorem view_stateAfter_of_unwritten (h : IsStore up view) {calls : List (Scope × Change)} {s : σ}
    {e : Entry} (hno : ∀ m ∈ makeAll up calls s, ¬m.Writes e) :
    view (stateAfter up calls s) e = view s e := by
  induction calls generalizing s with
  | nil => rfl
  | cons call rest ih =>
    have hfirst : view (make up call.1 call.2 s).after e = view s e :=
      view_of_not_writes (fits_make h call.1 call.2 s) (hno _ List.mem_cons_self)
    have hrest := ih fun m hm => hno m (List.mem_cons_of_mem _ hm)
    rw [← hfirst]
    exact hrest

/-- **The last call that writes an entry** decides what is left there. -/
theorem view_stateAfter_of_last (h : IsStore up view) {calls : List (Scope × Change)} {s : σ}
    {e : Entry} {m : Made σ} {earlier later : List (Made σ)}
    (hsplit : makeAll up calls s = earlier ++ m :: later) (hm : m.Writes e)
    (hno : ∀ m' ∈ later, ¬m'.Writes e) : view (stateAfter up calls s) e = m.change.left := by
  induction calls generalizing s earlier with
  | nil => exact absurd hsplit (by simp [makeAll])
  | cons call rest ih =>
    cases earlier with
    | nil =>
      -- the first call is the last one that writes the entry
      obtain ⟨rfl, rfl⟩ := List.cons.inj hsplit
      have hrest := view_stateAfter_of_unwritten h hno
      rw [view_of_writes (fits_make h call.1 call.2 s) hm] at hrest
      exact hrest
    | cons first earlier => exact ih (List.cons.inj hsplit).2

/-- **Taking away twice** succeeds twice, and leaves what taking away once leaves. -/
theorem take_twice (h : IsStore up view) (htake : c.direction = .take)
    (hvalid : c.fault? scope = none) (s : σ) :
    let once := make up scope c s
    let twice := make up scope c once.after
    once.result = .ok (.ok ()) ∧ twice.result = .ok (.ok ()) ∧
      view twice.after = view once.after := by
  obtain ⟨e, hentry⟩ := Change.fault?_eq_none_iff.1 hvalid
  have habout := Change.isAbout_of_entry hentry
  have hfree (store : Store) : ¬(c.direction = .give ∧ e.IsTaken store) := by
    rintro ⟨hgive, -⟩
    rw [htake] at hgive
    cases hgive
  have hok (s : σ) : (make up scope c s).result = .ok (.ok ()) :=
    (fits_make h scope c s).free e hvalid habout (hfree _)
  have hleft (s : σ) : view (make up scope c s).after = update (view s) e none := by
    obtain ⟨e', he', hview⟩ := (fits_make h scope c s).done (hok s)
    obtain rfl := habout.unique he'
    have hnone : c.left = none := by
      unfold Change.left
      rw [htake]
    rw [← hnone]
    exact hview
  refine ⟨hok s, hok _, ?_⟩
  rw [hleft, hleft, Function.update_idem]

/-- **Changes keep the store.** Of any calls, one after the other, each returns. A success has left
its entry as the change says, and all others as they were; a failure has left all entries as they
were, and is what a check found wrong or that the user to be added is a member already. In the end
every entry is as the last successful call on it left it, or as it was at first. Taking away twice
is taking away once. -/
theorem store_of_changes (h : IsStore up view) (calls : List (Scope × Change)) (s : σ) :
    (∀ m ∈ makeAll up calls s, m.Fits view) ∧
    (∀ e earlier m later, makeAll up calls s = earlier ++ m :: later → m.Writes e →
      (∀ m' ∈ later, ¬m'.Writes e) → view (stateAfter up calls s) e = m.change.left) ∧
    (∀ e, (∀ m ∈ makeAll up calls s, ¬m.Writes e) → view (stateAfter up calls s) e = view s e) ∧
    ∀ scope c, c.direction = .take → c.fault? scope = none →
      let once := make up scope c (stateAfter up calls s)
      let twice := make up scope c once.after
      once.result = .ok (.ok ()) ∧ twice.result = .ok (.ok ()) ∧
        view twice.after = view once.after :=
  ⟨fits_makeAll h calls s, fun _ _ _ _ => view_stateAfter_of_last h,
    fun _ => view_stateAfter_of_unwritten h, fun _ _ htake hvalid => take_twice h htake hvalid _⟩

end

/-! ## A ledger -/

/-- A store as a list: what is kept for an entry stands at its first place. -/
abbrev Ledger : Type := List (Entry × String)

namespace Ledger

def view (l : Ledger) : Store := fun e => l.lookup e

def erase (l : Ledger) (e : Entry) : Ledger := l.filter fun kept => kept.1 != e

def put (l : Ledger) (e : Entry) (v : String) : Ledger := (e, v) :: l.erase e

theorem view_cons (kept : Entry × String) (l : Ledger) :
    view (kept :: l) = update (view l) kept.1 (some kept.2) := by
  funext e
  unfold view
  by_cases he : e = kept.1
  · subst he
    rw [Function.update_self, List.lookup_cons_self]
  · rw [Function.update_of_ne he, List.lookup_cons, beq_false_of_ne he]

theorem view_erase (l : Ledger) (e : Entry) : (l.erase e).view = update l.view e none := by
  induction l with
  | nil => exact (Function.update_eq_self e _).symm
  | cons kept rest ih =>
    unfold erase at ih ⊢
    by_cases he : kept.1 = e
    · rw [List.filter_cons_of_neg (by simpa using he), ih, view_cons, he, Function.update_idem]
    · rw [List.filter_cons_of_pos (by simpa using he), view_cons, view_cons, ih,
        Function.update_comm (Ne.symm he)]

theorem view_put (l : Ledger) (e : Entry) (v : String) :
    (l.put e v).view = update l.view e (some v) := by
  unfold put
  rw [view_cons, view_erase, Function.update_idem]

/-- An account or a group of which no more is known than what entries name it by. -/
def holder (name : String) : (side : Side) → side.Holder
  | .groups => (⟨name, ""⟩ : Api.GroupRef)
  | .users => (⟨name, "", "", ""⟩ : Api.User)

/-- The users that entries make members of a group. -/
def members (l : Ledger) (group : GroupId) : List Api.User :=
  l.filterMap fun
    | (.membership g user, _) => if g = group then some ⟨user, "", "", ""⟩ else none
    | (.role .., _) => none

/-- The roles that entries give in one half of a permission table. -/
def held (l : Ledger) (target : Target) (side : Side) : List (Api.Held side.Holder) :=
  l.filterMap fun
    | (.role t s name, _) =>
      if t = target ∧ s = side then
        (l.view (.role target side name)).map fun r => ⟨r, holder name side⟩
      else none
    | (.membership .., _) => none

/-- The reply to taking an entry away. -/
def removal (l : Ledger) (e : Entry) : Except Fault Unit :=
  if (l.view e).isSome then .ok () else .error (.status 404 "no entry")

/-- A server that keeps a ledger, and knows nothing else. -/
def server : Responder Endpoint.Reply Ledger
  | .role target side name, l =>
    (match l.view (.role target side name) with
      | some r => .ok ⟨r, holder name side⟩
      | none => .error (.status 404 "no entry"), l)
  | .groupMembers group, l => (.ok (l.members group), l)
  | .setRole target side name slug, l => (.ok (), l.put (.role target side name) slug)
  | .dropRole target side name, l =>
    (l.removal (.role target side name), l.erase (.role target side name))
  | .addMember group user, l => (.ok (), l.put (.membership group user) memberSlug)
  | .removeMember group user, l =>
    (l.removal (.membership group user), l.erase (.membership group user))
  | .roles target side _ _, l => (.ok ⟨l.held target side, ""⟩, l)
  | .repositories .., l => (.ok ⟨[], ""⟩, l)
  | _, l => (.error (.status 404 "not found"), l)

theorem view_isSome_iff {l : Ledger} {e : Entry} : (l.view e).isSome ↔ ∃ v, (e, v) ∈ l := by
  unfold view
  rw [List.lookup_isSome_iff]
  constructor
  · rintro ⟨⟨e', v⟩, hmem, he⟩
    obtain rfl : e = e' := eq_of_beq he
    exact ⟨v, hmem⟩
  · rintro ⟨v, hmem⟩
    exact ⟨(e, v), hmem, beq_self_eq_true e⟩

theorem mem_members {l : Ledger} {group : GroupId} {user : String} :
    user ∈ (l.members group).map (fun m => m.uuid) ↔
      (l.view (.membership group user)).isSome := by
  rw [view_isSome_iff, List.mem_map]
  constructor
  · rintro ⟨m, hm, rfl⟩
    obtain ⟨⟨e, v⟩, hmem, he⟩ := List.mem_filterMap.1 hm
    cases e with
    | role target side name => cases he
    | membership g user =>
      by_cases hg : g = group
      · subst hg
        obtain rfl : _ = m := by simpa using he
        exact ⟨v, hmem⟩
      · simp [hg] at he
  · rintro ⟨v, hmem⟩
    exact ⟨⟨user, "", "", ""⟩, List.mem_filterMap.2 ⟨_, hmem, if_pos rfl⟩, rfl⟩

theorem removes_removal (l : Ledger) (e : Entry) : Removes (l.view e) (l.removal e) := by
  unfold removal Removes
  cases l.view e with
  | none => exact ⟨_, rfl⟩
  | some r => rfl

/-- **The server of ledgers keeps entries.** -/
theorem isStore_server : IsStore server view where
  get e l he := by
    cases e <;> first | rfl | cases he
  role target side name l r hr := by
    refine ⟨⟨r, holder name side⟩, ?_, rfl⟩
    unfold server
    simp only [hr]
  noRole target side name l hr := by
    refine ⟨"no entry", ?_⟩
    unfold server
    simp only [hr]
  members group l := ⟨l.members group, rfl, fun _ => mem_members⟩
  setRole target side name slug l := ⟨rfl, l.view_put _ _⟩
  dropRole target side name l := ⟨l.removes_removal _, l.view_erase _⟩
  addMember group user l := ⟨rfl, l.view_put _ _⟩
  removeMember group user l := ⟨l.removes_removal _, l.view_erase _⟩

end Ledger

/-- A user becomes a member of a group twice, and gets two roles on a project; the group gets one on
a repository. -/
def sampleCalls : List (Scope × Change) :=
  [(.workspace "w", ⟨.give, ⟨.user, "u1"⟩, ⟨.userGroup, "w:g"⟩, "member"⟩),
    (.workspace "w", ⟨.give, ⟨.user, "u1"⟩, ⟨.userGroup, "w:g"⟩, "member"⟩),
    (.workspace "w", ⟨.give, ⟨.user, "u1"⟩, ⟨.project, "w:p:P"⟩, "write"⟩),
    (.workspace "w", ⟨.give, ⟨.userGroup, "w:g"⟩, ⟨.repository, "w:p:P:r"⟩, "read"⟩),
    (.workspace "w", ⟨.give, ⟨.user, "u1"⟩, ⟨.project, "w:p:P"⟩, "admin"⟩)]

/-- The second membership is refused, the second role is what is left until it is taken away, and the
group has its role on the repository and none on the project. -/
theorem store_of_changes_sample :
    let left := stateAfter Ledger.server sampleCalls []
    let take : Change := ⟨.take, ⟨.user, "u1"⟩, ⟨.project, "w:p:P"⟩, "write"⟩
    let once := make Ledger.server (.workspace "w") take left
    let twice := make Ledger.server (.workspace "w") take once.after
    (makeAll Ledger.server sampleCalls []).map (·.result) =
        [.ok (.ok ()), .ok (.error (.alreadyGranted "user u1 is already a member of group w:g")),
          .ok (.ok ()), .ok (.ok ()), .ok (.ok ())] ∧
      Ledger.view left (.role (.project "w" "P") .users "u1") = some "admin" ∧
      Ledger.view left (.role (.repository "w" "r") .groups "g") = some "read" ∧
      Ledger.view left (.role (.project "w" "P") .groups "g") = none ∧
      once.result = .ok (.ok ()) ∧ twice.result = .ok (.ok ()) ∧
      Ledger.view twice.after = Ledger.view once.after := by
  obtain ⟨-, hlast, hno, htwice⟩ := store_of_changes Ledger.isStore_server sampleCalls []
  have hproject := Change.isAbout_userOnProject .give "admin"
  have hrepository := Change.isAbout_groupOnRepository .give "read"
  refine ⟨rfl, ?_, ?_, ?_, htwice _ _ rfl rfl⟩
  · refine hlast _ (makeAll Ledger.server (sampleCalls.take 4) []) _ [] rfl ⟨rfl, hproject⟩ ?_
    intro m hm
    exact absurd hm List.not_mem_nil
  · refine hlast _ (makeAll Ledger.server (sampleCalls.take 3) []) _ [_] rfl ⟨rfl, hrepository⟩ ?_
    rintro m hm ⟨-, habout⟩
    obtain rfl := List.mem_singleton.1 hm
    cases hproject.unique habout
  · refine hno _ ?_
    rintro m hm ⟨-, habout⟩
    simp only [sampleCalls, makeAll, List.mem_cons, List.not_mem_nil, or_false] at hm
    rcases hm with rfl | rfl | rfl | rfl | rfl
    · cases (Change.isAbout_userOnGroup .give "member").unique habout
    · cases (Change.isAbout_userOnGroup .give "member").unique habout
    · cases (Change.isAbout_userOnProject .give "write").unique habout
    · cases hrepository.unique habout
    · cases hproject.unique habout

end AccessSync.Provision
