import AccessSync.Proofs.Provision.Change
import Mathlib.Logic.Function.Basic

/-!
# Changes of a store

A server that keeps entries is a store: it tells the entry that is there, and a write replaces one
entry. Against such a server every change returns. One that succeeds has written its entry and no
other, and one that fails has written nothing.

* `IsStore`: a server that keeps entries; `Keeps`: one that keeps an entry.
* `Made.Fits`: what a call does to the entries.
* `fits_make`: every call does so.
-/

namespace AccessSync.Provision

open Api (Endpoint Target Side)
open Function (update)

/-- What is kept for each entry: the role of a holder, and for a member the slug of membership. -/
abbrev Store : Type := Entry → Option String

/-- Taking away succeeds when there was something, and is answered by the status 404 otherwise. -/
def Removes (old : Option String) (reply : Except Fault Unit) : Prop :=
  match old with
  | some _ => reply = .ok ()
  | none => ∃ m, reply = .error (.status 404 m)

variable {σ : Type}

/-- The server keeps entries. It tells a role or that there is none, and the members of a group; a
write sets one entry or takes it away. -/
structure IsStore (up : Responder Endpoint.Reply σ) (view : σ → Store) : Prop where
  get : ∀ (e : Endpoint) s, e.method = .get → view (up e s).2 = view s
  role : ∀ target side holder s r, view s (.role target side holder) = some r →
    ∃ held, (up (.role target side holder) s).1 = .ok held ∧ held.role = r
  noRole : ∀ target side holder s, view s (.role target side holder) = none →
    ∃ m, (up (.role target side holder) s).1 = .error (.status 404 m)
  members : ∀ group s, ∃ members : List Api.User, (up (.groupMembers group) s).1 = .ok members ∧
    ∀ user, user ∈ members.map (fun m => m.uuid) ↔ (view s (.membership group user)).isSome
  setRole : ∀ target side holder slug s, (up (.setRole target side holder slug) s).1 = .ok () ∧
    view (up (.setRole target side holder slug) s).2 =
      update (view s) (.role target side holder) (some slug)
  dropRole : ∀ target side holder s,
    Removes (view s (.role target side holder)) (up (.dropRole target side holder) s).1 ∧
    view (up (.dropRole target side holder) s).2 =
      update (view s) (.role target side holder) none
  addMember : ∀ group user s, (up (.addMember group user) s).1 = .ok () ∧
    view (up (.addMember group user) s).2 =
      update (view s) (.membership group user) (some memberSlug)
  removeMember : ∀ group user s,
    Removes (view s (.membership group user)) (up (.removeMember group user) s).1 ∧
    view (up (.removeMember group user) s).2 = update (view s) (.membership group user) none

/-- The server keeps the role of a holder. -/
structure KeepsRole (up : Responder Endpoint.Reply σ) (view : σ → Store) (target : Target)
    (side : Side) (holder : String) : Prop where
  get : ∀ s, view (up (.role target side holder) s).2 = view s
  role : ∀ s r, view s (.role target side holder) = some r →
    ∃ held, (up (.role target side holder) s).1 = .ok held ∧ held.role = r
  noRole : ∀ s, view s (.role target side holder) = none →
    ∃ m, (up (.role target side holder) s).1 = .error (.status 404 m)
  set : ∀ slug s, (up (.setRole target side holder slug) s).1 = .ok () ∧
    view (up (.setRole target side holder slug) s).2 =
      update (view s) (.role target side holder) (some slug)
  drop : ∀ s, Removes (view s (.role target side holder)) (up (.dropRole target side holder) s).1 ∧
    view (up (.dropRole target side holder) s).2 = update (view s) (.role target side holder) none

/-- The server keeps whether a user is a member of a group. -/
structure KeepsMembership (up : Responder Endpoint.Reply σ) (view : σ → Store) (group : GroupId)
    (user : String) : Prop where
  get : ∀ s, view (up (.groupMembers group) s).2 = view s
  members : ∀ s, ∃ members : List Api.User, (up (.groupMembers group) s).1 = .ok members ∧
    (user ∈ members.map (fun m => m.uuid) ↔ (view s (.membership group user)).isSome)
  add : ∀ s, (up (.addMember group user) s).1 = .ok () ∧
    view (up (.addMember group user) s).2 =
      update (view s) (.membership group user) (some memberSlug)
  remove : ∀ s,
    Removes (view s (.membership group user)) (up (.removeMember group user) s).1 ∧
    view (up (.removeMember group user) s).2 = update (view s) (.membership group user) none

/-- The server keeps the entry, whatever it does with others. -/
def Keeps (up : Responder Endpoint.Reply σ) (view : σ → Store) : Entry → Prop
  | .role target side holder => KeepsRole up view target side holder
  | .membership group user => KeepsMembership up view group user

/-- Nothing can be given: the user is a member of the group already. -/
def Entry.IsTaken (store : Store) : Entry → Prop
  | .role .. => False
  | .membership group user => (store (.membership group user)).isSome

/-- What a write of the slug leaves in an entry. -/
def Direction.left (slug : String) : Direction → Entry → Option String
  | .give, .role .. => some slug
  | .give, .membership .. => some memberSlug
  | .take, _ => none

/-- What a change leaves in its entry. -/
def Change.left (c : Change) : Option String :=
  match c.direction with
  | .give => some c.slug
  | .take => none

/-! ## One change -/

/-- The slug of a change of members is that of membership. -/
theorem Change.slug_of_entry {c : Change} {scope : Scope} {group : GroupId} {user : String}
    (h : c.entry scope = .ok (.membership group user)) : c.slug = memberSlug := by
  obtain ⟨what, -, hrequest, hread, hentry⟩ := of_entry_eq_ok h
  cases what with
  | roles target =>
    obtain ⟨holder, -, hholder⟩ := except_map_eq_ok hentry
    cases hholder
  | members found =>
    obtain ⟨-, -, hslug, -⟩ := checkRequest_eq_ok_iff.1 hrequest
    rw [(of_read_members hread).1] at hslug
    exact eq_of_beq hslug

theorem outcome_of_removes {old : Option String} {reply : Except Fault Unit}
    (h : Removes old reply) : Direction.take.outcome reply = .ok () := by
  cases old with
  | some r =>
    obtain rfl : reply = .ok () := h
    rfl
  | none =>
    obtain ⟨m, rfl⟩ : ∃ m, reply = .error (.status 404 m) := h
    rfl

section
variable {up : Responder Endpoint.Reply σ} {view : σ → Store} {s : σ} {e : Entry}

/-- **A server that keeps entries** keeps each of them. -/
theorem IsStore.keeps (h : IsStore up view) (e : Entry) : Keeps up view e := by
  cases e with
  | role target side holder =>
    exact
      { get := fun s => h.get _ s rfl
        role := h.role target side holder
        noRole := h.noRole target side holder
        set := h.setRole target side holder
        drop := h.dropRole target side holder }
  | membership group user =>
    refine
      { get := fun s => h.get _ s rfl
        members := fun s => ?_
        add := h.addMember group user
        remove := h.removeMember group user }
    obtain ⟨members, hmembers, hmem⟩ := h.members group s
    exact ⟨members, hmembers, hmem user⟩

namespace Keeps

theorem view_shown (h : Keeps up view e) (s : σ) : view (up e.shown s).2 = view s := by
  cases e with
  | role target side holder => exact KeepsRole.get h s
  | membership group user => exact KeepsMembership.get h s

/-- What is read lets an entry be written, unless it is taken. -/
theorem verdict_of_free (h : Keeps up view e) {d : Direction}
    (hfree : ¬(d = .give ∧ e.IsTaken (view s))) : d.verdict e (up e.shown s).1 = .ok () := by
  cases e with
  | role target side holder =>
    show d.verdict (.role target side holder) (up (.role target side holder) s).1 = .ok ()
    cases hrole : view s (.role target side holder) with
    | some r =>
      obtain ⟨held, hheld, -⟩ := KeepsRole.role h _ _ hrole
      rw [hheld]
      rfl
    | none =>
      obtain ⟨m, hm⟩ := KeepsRole.noRole h _ hrole
      rw [hm]
      rfl
  | membership group user =>
    show d.verdict (.membership group user) (up (.groupMembers group) s).1 = .ok ()
    obtain ⟨members, hmembers, hmem⟩ := KeepsMembership.members h s
    rw [hmembers]
    exact if_neg fun hgive => hfree ⟨hgive.1, hmem.1 hgive.2⟩

/-- A member is told as one. -/
theorem verdict_of_taken {group : GroupId} {user : String}
    (h : Keeps up view (.membership group user))
    (htaken : (view s (.membership group user)).isSome) :
    Direction.give.verdict (.membership group user) (up (.groupMembers group) s).1 =
      .error (.alreadyGranted s!"user {user} is already a member of group {group.text}") := by
  obtain ⟨members, hmembers, hmem⟩ := KeepsMembership.members h s
  rw [hmembers]
  exact Direction.verdict_of_mem group (hmem.2 htaken)

/-- A write succeeds and leaves its entry and no other. -/
theorem write (h : Keeps up view e) (d : Direction) (slug : String) (s : σ) :
    d.outcome (up (e.changed d slug) s).1 = .ok () ∧
      view (up (e.changed d slug) s).2 = update (view s) e (d.left slug e) := by
  cases d with
  | give =>
    cases e with
    | role target side holder =>
      obtain ⟨hreply, hview⟩ := KeepsRole.set h slug s
      exact ⟨congrArg Direction.give.outcome hreply, hview⟩
    | membership group user =>
      obtain ⟨hreply, hview⟩ := KeepsMembership.add h s
      exact ⟨congrArg Direction.give.outcome hreply, hview⟩
  | take =>
    cases e with
    | role target side holder =>
      obtain ⟨hreply, hview⟩ := KeepsRole.drop h s
      exact ⟨outcome_of_removes hreply, hview⟩
    | membership group user =>
      obtain ⟨hreply, hview⟩ := KeepsMembership.remove h s
      exact ⟨outcome_of_removes hreply, hview⟩

/-- **The change of an entry that is not taken** succeeds and writes this entry. -/
theorem course_of_free (h : Keeps up view e) {d : Direction} (slug : String)
    (hfree : ¬(d = .give ∧ e.IsTaken (view s))) :
    (e.course d slug up s).result = .ok (.ok ()) ∧
      view (e.course d slug up s).state = update (view s) e (d.left slug e) := by
  rw [Entry.course_of_ok e rfl (h.verdict_of_free hfree)]
  obtain ⟨hreply, hview⟩ := h.write d slug (up e.shown s).2
  rw [h.view_shown] at hview
  exact ⟨congrArg Except.ok hreply, hview⟩

/-- **A user who is a member is not added again.** -/
theorem course_of_taken {group : GroupId} {user : String}
    (h : Keeps up view (.membership group user)) (slug : String)
    (htaken : (view s (.membership group user)).isSome) :
    ((Entry.membership group user).course .give slug up s).result =
        .ok (.error (.alreadyGranted s!"user {user} is already a member of group {group.text}")) ∧
      view ((Entry.membership group user).course .give slug up s).state = view s := by
  rw [Entry.course_of_error (.membership group user) rfl (h.verdict_of_taken htaken)]
  exact ⟨rfl, h.view_shown s⟩

end Keeps

end

/-! ## Calls -/

/-- A call that was made: the state that it started from, how it ended, and the state it left. -/
structure Made (σ : Type) where
  scope : Scope
  change : Change
  before : σ
  result : Except Stop (Except Failure Unit)
  after : σ

/-- The change is made from a state. -/
def make (up : Responder Endpoint.Reply σ) (scope : Scope) (c : Change) (s : σ) : Made σ where
  scope
  change := c
  before := s
  result := ((c.perform scope).run.course up s).result
  after := ((c.perform scope).run.course up s).state

namespace Made

/-- The call has succeeded, and the entry is the one that its change is about. -/
def Writes (m : Made σ) (e : Entry) : Prop :=
  m.result = .ok (.ok ()) ∧ m.change.IsAbout e

/-- What a call does to the entries that are kept. -/
structure Fits (view : σ → Store) (m : Made σ) : Prop where
  /-- The call returns. -/
  returns : ∃ r, m.result = .ok r
  /-- A success leaves its entry, and all others as they were. -/
  done : m.result = .ok (.ok ()) → ∃ e, m.change.IsAbout e ∧
    view m.after = update (view m.before) e m.change.left
  /-- A failure leaves all entries as they were. -/
  failed : ∀ f, m.result = .ok (.error f) → view m.after = view m.before
  /-- What a check finds wrong is the failure. -/
  invalid : ∀ f, m.change.fault? m.scope = some f → m.result = .ok (.error f)
  /-- A user who is a member cannot be added. -/
  taken : ∀ group user, m.change.direction = .give → m.change.fault? m.scope = none →
    m.change.IsAbout (.membership group user) →
    (view m.before (.membership group user)).isSome →
    m.result =
      .ok (.error (.alreadyGranted s!"user {user} is already a member of group {group.text}"))
  /-- Anything else succeeds. -/
  free : ∀ e, m.change.fault? m.scope = none → m.change.IsAbout e →
    ¬(m.change.direction = .give ∧ e.IsTaken (view m.before)) → m.result = .ok (.ok ())

/-- A call that succeeds has passed its checks. -/
theorem Fits.fault?_eq_none {view : σ → Store} {m : Made σ} (h : m.Fits view)
    (hok : m.result = .ok (.ok ())) : m.change.fault? m.scope = none := by
  cases hfault : m.change.fault? m.scope with
  | none => rfl
  | some f => cases (h.invalid f hfault).symm.trans hok

end Made

section
variable {up : Responder Endpoint.Reply σ} {view : σ → Store}

theorem Change.left_eq {c : Change} {scope : Scope} {e : Entry} (h : c.entry scope = .ok e) :
    c.direction.left c.slug e = c.left := by
  unfold Change.left
  cases hd : c.direction with
  | take => cases e <;> rfl
  | give =>
    cases e with
    | role target side holder => rfl
    | membership group user => exact congrArg some (slug_of_entry h).symm

variable {scope : Scope} {c : Change} {s : σ} {e : Entry}

theorem make_of_error {f : Failure} (hentry : c.entry scope = .error f) :
    make up scope c s = ⟨scope, c, s, .ok (.error f), s⟩ := by
  unfold make
  rw [Change.run_perform_of_error hentry]
  rfl

theorem make_of_ok (hentry : c.entry scope = .ok e) :
    make up scope c s =
      ⟨scope, c, s, (e.course c.direction c.slug up s).result,
        (e.course c.direction c.slug up s).state⟩ := by
  unfold make
  rw [Change.course_perform hentry]

theorem fits_of_error {f : Failure} (hentry : c.entry scope = .error f) :
    (make up scope c s).Fits view := by
  have hfault := Change.fault?_eq_some_iff.2 hentry
  rw [make_of_error hentry]
  exact
    { returns := ⟨_, rfl⟩
      done := fun hok => by cases hok
      failed := fun _ _ => rfl
      invalid := fun g hg => by cases hfault.symm.trans hg; rfl
      taken := fun _ _ _ hvalid => by cases hfault.symm.trans hvalid
      free := fun _ hvalid => by cases hfault.symm.trans hvalid }

theorem fits_of_taken (h : IsStore up view) (hgive : c.direction = .give) {group : GroupId}
    {user : String} (hentry : c.entry scope = .ok (.membership group user))
    (htaken : (view s (.membership group user)).isSome) : (make up scope c s).Fits view := by
  obtain ⟨hvalid, habout⟩ := Change.entry_eq_ok_iff.1 hentry
  obtain ⟨hresult, hview⟩ := (h.keeps _).course_of_taken c.slug htaken
  rw [make_of_ok hentry, hgive]
  exact
    { returns := ⟨_, hresult⟩
      done := fun hok => by rw [hresult] at hok; cases hok
      failed := fun _ _ => hview
      invalid := fun f hf => by rw [hvalid] at hf; cases hf
      taken := fun g u _ _ he _ => by
        cases habout.unique he
        exact hresult
      free := fun e _ he hfree => by
        cases habout.unique he
        exact absurd ⟨hgive, htaken⟩ hfree }

theorem fits_of_free (h : IsStore up view) (hentry : c.entry scope = .ok e)
    (hfree : ¬(c.direction = .give ∧ e.IsTaken (view s))) : (make up scope c s).Fits view := by
  obtain ⟨hvalid, habout⟩ := Change.entry_eq_ok_iff.1 hentry
  obtain ⟨hresult, hview⟩ := (h.keeps e).course_of_free c.slug hfree
  rw [Change.left_eq hentry] at hview
  rw [make_of_ok hentry]
  exact
    { returns := ⟨_, hresult⟩
      done := fun _ => ⟨e, habout, hview⟩
      failed := fun f hf => by rw [hresult] at hf; cases hf
      invalid := fun f hf => by rw [hvalid] at hf; cases hf
      taken := fun group user hgive _ he hmem => by
        cases habout.unique he
        exact absurd ⟨hgive, hmem⟩ hfree
      free := fun _ _ _ _ => hresult }

/-- **A call fits the store** that it is made against. -/
theorem fits_make (h : IsStore up view) (scope : Scope) (c : Change) (s : σ) :
    (make up scope c s).Fits view := by
  cases hentry : c.entry scope with
  | error f => exact fits_of_error hentry
  | ok e =>
    by_cases htaken : c.direction = .give ∧ e.IsTaken (view s)
    · cases e with
      | role target side holder => exact htaken.2.elim
      | membership group user => exact fits_of_taken h htaken.1 hentry htaken.2
    · exact fits_of_free h hentry htaken

end

end AccessSync.Provision
