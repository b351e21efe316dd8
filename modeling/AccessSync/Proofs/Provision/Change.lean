import AccessSync.Proofs.Course
import AccessSync.Proofs.Provision.Checks

/-!
# What a change does

A change that does not pass its checks asks nothing. One that does reads its entry and, unless the
reply forbids it, writes it.

* `Direction.verdict`, `Direction.outcome`: what the two replies mean.
* `Change.run_perform_of_error`, `Change.course_perform`: what a change does.
-/

namespace AccessSync.Provision

open Api (Endpoint Target)

/-! ## Reading and writing -/

namespace Direction

/-- What the reply to reading an entry means. Of a role nothing has to be there; who is a member
already cannot become one. -/
def verdict (d : Direction) : (e : Entry) → e.shown.Reply → Except Failure Unit
  | .role .., .ok _ => .ok ()
  | .role .., .error f => if f.isNotFound then .ok () else .error f.failure
  | .membership group user, .ok members =>
    if d = .give ∧ user ∈ members.map (fun (m : Api.User) => m.uuid) then
      .error (.alreadyGranted s!"user {user} is already a member of group {group.text}")
    else .ok ()
  | .membership .., .error f => .error f.failure

/-- What the reply to writing an entry means: what is not there is taken away already. -/
def outcome {α : Type} (d : Direction) : Except Fault α → Except Failure Unit
  | .ok _ => .ok ()
  | .error f => if d = .take ∧ f.isNotFound then .ok () else .error f.failure

section
variable {user : String} {members : List Api.User}

theorem verdict_of_mem (group : GroupId) (h : user ∈ members.map fun m => m.uuid) :
    Direction.give.verdict (.membership group user) (.ok members) =
      .error (.alreadyGranted s!"user {user} is already a member of group {group.text}") :=
  if_pos ⟨rfl, h⟩

theorem verdict_of_not_mem (group : GroupId) (h : user ∉ members.map fun m => m.uuid) :
    Direction.give.verdict (.membership group user) (.ok members) = .ok () :=
  if_neg fun hm => h hm.2

theorem verdict_take (group : GroupId) (user : String) (members : List Api.User) :
    Direction.take.verdict (.membership group user) (.ok members) = .ok () :=
  rfl

end

theorem outcome_give (reply : Except Fault Unit) :
    Direction.give.outcome reply = reply.mapError Fault.failure := by
  cases reply <;> rfl

end Direction

/-- **What the change of an entry does**: the entry is read and, unless the reply forbids it,
written. -/
def Entry.course {σ : Type} (e : Entry) (d : Direction) (slug : String)
    (up : Responder Endpoint.Reply σ) (s : σ) : Course Endpoint.Reply σ (Except Failure Unit) :=
  let read := up e.shown s
  let write := up (e.changed d slug) read.2
  match d.verdict e read.1 with
  | .error f => ⟨.ok (.error f), [⟨e.shown, read.1⟩], read.2⟩
  | .ok () =>
    ⟨.ok (d.outcome write.1), [⟨e.shown, read.1⟩, ⟨e.changed d slug, write.1⟩], write.2⟩

section
variable {σ : Type} {up : Responder Endpoint.Reply σ} {s s' : σ} {d : Direction} {slug : String}

namespace Entry

/-- Nothing is written when the reply forbids it. -/
theorem course_of_error (e : Entry) {reply : e.shown.Reply} {f : Failure}
    (hread : up e.shown s = (reply, s')) (hv : d.verdict e reply = .error f) :
    e.course d slug up s = ⟨.ok (.error f), [⟨e.shown, reply⟩], s'⟩ := by
  unfold course
  simp only [hread, hv]

/-- The entry is written unless the reply forbids it. -/
theorem course_of_ok (e : Entry) {reply : e.shown.Reply} (hread : up e.shown s = (reply, s'))
    (hv : d.verdict e reply = .ok ()) :
    e.course d slug up s =
      Course.after [⟨e.shown, reply⟩]
        ⟨.ok (d.outcome (up (e.changed d slug) s').1),
          [⟨e.changed d slug, (up (e.changed d slug) s').1⟩], (up (e.changed d slug) s').2⟩ := by
  unfold course
  simp only [hread, hv]
  rfl

theorem question_of_mem_course {e : Entry} {x : Exchange Endpoint.Reply}
    (h : x ∈ (e.course d slug up s).exchanges) :
    x.question = e.shown ∨ x.question = e.changed d slug := by
  unfold course at h
  cases hv : d.verdict e (up e.shown s).1 with
  | error f =>
    simp only [hv, List.mem_singleton] at h
    exact .inl (congrArg Exchange.question h)
  | ok u =>
    simp only [hv, List.mem_cons, List.not_mem_nil, or_false] at h
    exact h.imp (congrArg Exchange.question) (congrArg Exchange.question)

end Entry

theorem course_tolerateAbsence (what : String) (reply : Except Fault Unit) (s : σ) :
    (tolerateAbsence what reply).run.course up s = ⟨.ok (Direction.take.outcome reply), [], s⟩ := by
  unfold tolerateAbsence Direction.outcome
  cases reply with
  | ok u => rfl
  | error f =>
    by_cases hf : f.isNotFound
    · simp [hf, Operation.course_report]
    · simp [hf]

section
variable {group : GroupId}

theorem course_isMember_of_ok {members : List Api.User}
    (h : up (.groupMembers group) s = (.ok members, s')) (user : String) :
    (isMember group user).run.course up s =
      ⟨.ok (.ok (decide (user ∈ members.map (fun (m : Api.User) => m.uuid)))),
        [⟨.groupMembers group, .ok members⟩], s'⟩ := by
  have hany : (members.any fun (m : Api.User) => m.uuid == user) =
      decide (user ∈ members.map (fun (m : Api.User) => m.uuid)) := by
    rw [Bool.eq_iff_iff]
    simp
  rw [← hany]
  exact Plan.course_bind_of_ok (Operation.course_ask_of_ok h) _

theorem course_isMember_of_error {f : Fault} (h : up (.groupMembers group) s = (.error f, s'))
    (user : String) :
    (isMember group user).run.course up s =
      ⟨.ok (.error f.failure), [⟨.groupMembers group, .error f⟩], s'⟩ :=
  Plan.course_bind_of_error (Operation.course_ask_of_error h) _

end

theorem course_addMember (group : GroupId) (user slug : String) (s : σ) :
    (addMember group user).run.course up s =
      (Entry.membership group user).course .give slug up s := by
  unfold addMember
  rcases hread : up (.groupMembers group) s with ⟨reply, s'⟩
  cases reply with
  | error f =>
    rw [Entry.course_of_error (.membership group user) hread rfl]
    exact Plan.course_bind_of_error (course_isMember_of_error hread user) _
  | ok members =>
    rw [Plan.course_bind_of_ok (course_isMember_of_ok hread user)]
    by_cases hm : user ∈ members.map (fun (m : Api.User) => m.uuid)
    · rw [Entry.course_of_error _ hread (Direction.verdict_of_mem group hm),
        if_pos (decide_eq_true hm)]
      rfl
    · have hwrite := Operation.course_ask up (.addMember group user) s'
      rw [← Direction.outcome_give] at hwrite
      rw [Entry.course_of_ok _ hread (Direction.verdict_of_not_mem group hm),
        if_neg (by simpa using hm)]
      exact congrArg (Course.after _) hwrite

theorem course_removeMember (group : GroupId) (user slug : String) (s : σ) :
    (removeMember group user).run.course up s =
      (Entry.membership group user).course .take slug up s := by
  unfold removeMember
  rcases hread : up (.groupMembers group) s with ⟨reply, s'⟩
  cases reply with
  | error f =>
    rw [Entry.course_of_error (.membership group user) hread rfl]
    exact Plan.course_bind_of_error (course_isMember_of_error hread user) _
  | ok members =>
    have hwrite := Plan.course_bind_of_ok
      (Operation.course_attempt up (.removeMember group user) s')
      (tolerateAbsence "group membership")
    rw [course_tolerateAbsence] at hwrite
    rw [Plan.course_bind_of_ok (course_isMember_of_ok hread user),
      Entry.course_of_ok _ hread (Direction.verdict_take group user members)]
    -- the warning is a note, which the course leaves out
    split <;> exact congrArg (Course.after _) hwrite

/-! ### Roles -/

section
variable {target : Target} {holder : Holder}

theorem verdict_role (d : Direction)
    (reply : (Endpoint.role target holder.side holder.name).Reply) :
    d.verdict (.role target holder.side holder.name) reply = (roleOf reply).map fun _ => () := by
  cases reply with
  | ok held => rfl
  | error f => by_cases hf : f.isNotFound <;> simp [Direction.verdict, roleOf, hf, Except.map]

theorem course_currentRole {reply : (Endpoint.role target holder.side holder.name).Reply}
    (h : up (.role target holder.side holder.name) s = (reply, s')) :
    (currentRole target holder).run.course up s =
      ⟨.ok (roleOf reply), [⟨.role target holder.side holder.name, reply⟩], s'⟩ := by
  have hask := Operation.course_attempt up (.role target holder.side holder.name) s
  rw [h] at hask
  exact Plan.course_bind_of_ok hask _

theorem course_setRole {principal : ResourceId}
    (hh : Holder.read principal target.workspace = .ok holder) (slug : String) (s : σ) :
    (setRole target principal slug).run.course up s =
      (Entry.role target holder.side holder.name).course .give slug up s := by
  unfold setRole
  rw [hh]
  rcases hread : up (.role target holder.side holder.name) s with ⟨reply, s'⟩
  have hverdict := verdict_role .give reply
  have hcurrent := course_currentRole hread
  cases hrole : roleOf reply with
  | error f =>
    rw [hrole] at hverdict hcurrent
    rw [Entry.course_of_error _ hread hverdict]
    exact Plan.course_bind_of_error hcurrent _
  | ok current =>
    rw [hrole] at hverdict hcurrent
    have hwrite := Operation.course_ask up (.setRole target holder.side holder.name slug) s'
    rw [← Direction.outcome_give] at hwrite
    rw [Entry.course_of_ok _ hread hverdict]
    refine (Plan.course_bind_of_ok hcurrent _).trans ?_
    -- a role that is held already is reported and overwritten
    split <;> exact congrArg (Course.after _) hwrite

theorem course_dropRole {principal : ResourceId}
    (hh : Holder.read principal target.workspace = .ok holder) (slug : String) (s : σ) :
    (dropRole target principal slug).run.course up s =
      (Entry.role target holder.side holder.name).course .take slug up s := by
  unfold dropRole
  rw [hh]
  rcases hread : up (.role target holder.side holder.name) s with ⟨reply, s'⟩
  have hverdict := verdict_role .take reply
  have hcurrent := course_currentRole hread
  cases hrole : roleOf reply with
  | error f =>
    rw [hrole] at hverdict hcurrent
    rw [Entry.course_of_error _ hread hverdict]
    exact Plan.course_bind_of_error hcurrent _
  | ok current =>
    rw [hrole] at hverdict hcurrent
    have hwrite := Plan.course_bind_of_ok
      (Operation.course_attempt up (.dropRole target holder.side holder.name) s')
      (tolerateAbsence "permission")
    rw [course_tolerateAbsence] at hwrite
    rw [Entry.course_of_ok _ hread hverdict]
    refine (Plan.course_bind_of_ok hcurrent _).trans ?_
    -- that no role is held, or another one, is only reported
    unfold dropWarning
    split
    · exact congrArg (Course.after _) hwrite
    · split <;> exact congrArg (Course.after _) hwrite

end

/-! ### Changes -/

namespace Change

variable {c : Change} {scope : Scope}

/-- What a change does once it is known what is changed. -/
def act (c : Change) : Changed → Operation Unit
  | .members group =>
    match c.direction with
    | .give => addMember group c.principal.key
    | .take => removeMember group c.principal.key
  | .roles target =>
    match c.direction with
    | .give => setRole target c.principal c.slug
    | .take => dropRole target c.principal c.slug

theorem run_perform (c : Change) (scope : Scope) :
    (c.perform scope).run =
      match c.changed scope with
      | .error f => .done (.error f)
      | .ok what => (c.act what).run := by
  -- the two directions differ only in what is done once all checks have passed
  unfold perform changed act Connector.grant Connector.revoke giveAccess takeAccess
  cases c.direction <;> cases scope.check c.resource <;>
    cases checkRequest c.principal c.resource c.slug <;> try rfl
  all_goals
    cases Changed.read c.resource c.slug with
    | error f => rfl
    | ok what => cases what <;> rfl

/-- **A change that passes its checks** reads its entry and writes it. -/
theorem course_perform {e : Entry} (h : c.entry scope = .ok e) (s : σ) :
    (c.perform scope).run.course up s = e.course c.direction c.slug up s := by
  obtain ⟨what, hwhat, he⟩ := except_bind_eq_ok h
  rw [run_perform, hwhat]
  unfold act
  cases what with
  | members group =>
    obtain rfl : Entry.membership group c.principal.key = e := Except.ok.inj he
    cases c.direction with
    | give => exact course_addMember group c.principal.key c.slug s
    | take => exact course_removeMember group c.principal.key c.slug s
  | roles target =>
    obtain ⟨holder, hholder, rfl⟩ := except_map_eq_ok he
    cases c.direction with
    | give => exact course_setRole hholder c.slug s
    | take => exact course_dropRole hholder c.slug s

theorem run_act_of_error {what : Changed} {f : Failure} (h : c.entryIn what = .error f) :
    (c.act what).run = .done (.error f) := by
  cases what with
  | members group => cases h
  | roles target =>
    have hholder : Holder.read c.principal target.workspace = .error f := except_map_eq_error h
    unfold act setRole dropRole
    simp only [hholder]
    cases c.direction <;> rfl

/-- **A change that does not pass its checks** asks nothing. -/
theorem run_perform_of_error {f : Failure} (h : c.entry scope = .error f) :
    (c.perform scope).run = .done (.error f) := by
  rw [run_perform]
  unfold entry at h
  cases hwhat : c.changed scope with
  | error g => rw [hwhat] at h; cases h; rfl
  | ok what =>
    rw [hwhat] at h
    exact run_act_of_error h

end Change

end

end AccessSync.Provision
