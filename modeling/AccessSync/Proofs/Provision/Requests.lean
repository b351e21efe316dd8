import AccessSync.Proofs.Provision.Change
import AccessSync.Proofs.Url.Base

/-!
# The requests of a change

A client carries a change out by requests. There are none when a check finds something wrong.
Otherwise there is one that reads, and at most one that writes: the write is sent when the reading
does not forbid it, to what was read or to the principal below it.

* `Sends`: the answers after which a write is sent.
* `IsRead`, `IsWrite`: the two requests.
* `requests_of_change`: the requests of a change, and how it ends.
-/

namespace AccessSync.Provision

open Api (Client Endpoint Request Method Side Target)

/-! ## What is sent -/

namespace Entry

/-- Where the entry is read. -/
def place : Entry → List String
  | .role (.project workspace key) .groups slug =>
    ["workspaces", workspace, "projects", key, "permissions-config", "groups", slug]
  | .role (.project workspace key) .users user =>
    ["workspaces", workspace, "projects", key, "permissions-config", "users", user]
  | .role (.repository workspace repository) .groups slug =>
    ["repositories", workspace, repository, "permissions-config", "groups", slug]
  | .role (.repository workspace repository) .users user =>
    ["repositories", workspace, repository, "permissions-config", "users", user]
  | .membership group _ => ["groups", group.workspace, group.slug, "members"]

/-- What the place of the entry is extended by when it is written: a member lies below its group. -/
def below : Entry → List String
  | .role .. => []
  | .membership _ user => [user]

def version : Entry → Api.Version
  | .role .. => .second
  | .membership .. => .first

end Entry

namespace Direction

def method : Direction → Method
  | .give => .put
  | .take => .delete

/-- What is sent along with a write: the slug of a role that is given. -/
def body (slug : String) : Direction → Entry → Option Json
  | .give, .role .. => some (.object [("permission", .text slug)])
  | .give, .membership .. => some (.object [])
  | .take, _ => none

/-- The answer to the reading of an entry lets it be written: it can be read, or there is no such
role, and nobody is to become a member who is one already. -/
def Sends (d : Direction) : Entry → Except Fault Json → Prop
  | .role target side holder, answer =>
    (∃ j held, answer = .ok j ∧ (Endpoint.role target side holder).decode j = .ok held) ∨
      ∃ m, answer = .error (.status 404 m)
  | .membership group user, answer =>
    ∃ j members, answer = .ok j ∧ (Endpoint.groupMembers group).decode j = .ok members ∧
      ¬(d = .give ∧ user ∈ members.map fun (m : Api.User) => m.uuid)

end Direction

/-- What it means when an answer does not let an entry be written: nothing could be read, or the
user is a member already. -/
inductive Refuses : Entry → Except Fault Json → Failure → Prop
  | fault (e : Entry) (f : Fault) : Refuses e (.error f) f.failure
  | shape {e : Entry} {j : Json} {m : Json.Mismatch} (h : e.shown.decode j = .error m) :
      Refuses e (.ok j) (.serialization m.message)
  | member {group : GroupId} {user : String} {j : Json} {members : List Api.User}
      (h : (Endpoint.groupMembers group).decode j = .ok members)
      (hm : user ∈ members.map fun m => m.uuid) :
      Refuses (.membership group user) (.ok j)
        (.alreadyGranted s!"user {user} is already a member of group {group.text}")

/-- The request by which a client reads an entry. -/
structure IsRead (c : Client) (e : Entry) (r : Request) : Prop where
  method : r.method = .get
  url : (c.baseOf e.version).extend? e.place = some r.url
  body : r.body = none

/-- The request by which a client writes an entry. -/
structure IsWrite (c : Client) (d : Direction) (slug : String) (e : Entry) (r : Request) :
    Prop where
  method : r.method = d.method
  url : (c.baseOf e.version).extend? (e.place ++ e.below) = some r.url
  body : r.body = d.body slug e

section
variable {client : Client} {e : Entry} {d : Direction} {slug : String}

theorem path_shown (e : Entry) : e.shown.path = e.place := by
  cases e with
  | role target side holder => cases target <;> cases side <;> rfl
  | membership group user => rfl

theorem path_changed (d : Direction) (slug : String) (e : Entry) :
    (e.changed d slug).path = e.place ++ e.below := by
  rw [← path_shown]
  cases e with
  | role target side holder => cases d <;> exact (List.append_nil _).symm
  | membership group user => cases d <;> rfl

theorem exists_read (h : client.OnWeb) (e : Entry) :
    ∃ r, client.request e.shown = .ok r ∧ IsRead client e r := by
  obtain ⟨url, hurl, hr⟩ := Client.request_of_onWeb h e.shown
  rw [path_shown] at hurl
  refine ⟨_, hr, ?_⟩
  cases e <;> exact ⟨rfl, hurl, rfl⟩

theorem exists_write (h : client.OnWeb) (d : Direction) (slug : String) (e : Entry) :
    ∃ r, client.request (e.changed d slug) = .ok r ∧ IsWrite client d slug e r := by
  obtain ⟨url, hurl, hr⟩ := Client.request_of_onWeb h (e.changed d slug)
  rw [path_changed] at hurl
  refine ⟨_, hr, ?_⟩
  cases e <;> cases d <;> exact ⟨rfl, hurl, rfl⟩

theorem isNotFound_iff {f : Fault} : f.isNotFound ↔ ∃ m, f = .status 404 m := by
  cases f <;> simp [Fault.isNotFound, Fault.status?]

theorem reply_of_ok {e : Endpoint} {j : Json} {a : e.Answer} (h : e.decode j = .ok a) :
    Client.reply e (.ok j) = .ok a := by
  unfold Client.reply
  simp only [h]

theorem reply_of_mismatch {e : Endpoint} {j : Json} {m : Json.Mismatch}
    (h : e.decode j = .error m) : Client.reply e (.ok j) = .error (.shape m) := by
  unfold Client.reply
  simp only [h]

/-- A write is sent after the answers that let the entry be written. -/
theorem verdict_of_sends {answer : Except Fault Json} (h : d.Sends e answer) :
    d.verdict e (Client.reply e.shown answer) = .ok () := by
  cases e with
  | role target side holder =>
    rcases h with ⟨j, held, rfl, hj⟩ | ⟨m, rfl⟩
    · have hreply : Client.reply (Entry.role target side holder).shown (.ok j) = .ok held :=
        reply_of_ok hj
      rw [hreply]
      rfl
    · rfl
  | membership group user =>
    obtain ⟨j, members, rfl, hj, hm⟩ := h
    have hreply : Client.reply (Entry.membership group user).shown (.ok j) = .ok members :=
      reply_of_ok hj
    rw [hreply]
    exact if_neg hm

/-- After any other answer the change fails. -/
theorem refuses_of_not_sends {answer : Except Fault Json} (h : ¬d.Sends e answer) :
    ∃ f, d.verdict e (Client.reply e.shown answer) = .error f ∧ Refuses e answer f := by
  cases answer with
  | error f =>
    refine ⟨f.failure, ?_, .fault e f⟩
    cases e with
    | role target side holder =>
      -- after the status 404 the role would be written
      have hf : ¬f.isNotFound := fun hf => by
        obtain ⟨m, rfl⟩ := isNotFound_iff.1 hf
        exact h (.inr ⟨m, rfl⟩)
      exact if_neg hf
    | membership group user => rfl
  | ok j =>
    cases hj : e.shown.decode j with
    | error m =>
      refine ⟨_, ?_, .shape hj⟩
      rw [reply_of_mismatch hj]
      cases e <;> rfl
    | ok a =>
      rw [reply_of_ok hj]
      cases e with
      | role target side holder => exact absurd (.inl ⟨j, a, rfl, hj⟩) h
      | membership group user =>
        have hm : d = .give ∧ user ∈ List.map (fun (m : Api.User) => m.uuid) a :=
          Decidable.byContradiction fun hm => h ⟨j, a, rfl, hj, hm⟩
        exact ⟨_, if_pos hm, .member hj hm.2⟩

end

/-- The answer to a write is not looked at. -/
theorem outcome_reply (d : Direction) (slug : String) (e : Entry) (written : Except Fault Json) :
    d.outcome (Client.reply (e.changed d slug) written) = d.outcome written := by
  cases written with
  | error f => rfl
  | ok j => cases e <;> cases d <;> rfl

section
variable {σ : Type}

/-- The course of the requests by which a client makes a change. -/
def Change.requests (c : Change) (scope : Scope) (client : Client)
    (http : Responder Request.Reply σ) (s : σ) :
    Course Request.Reply σ (Except Failure Unit) :=
  ((c.perform scope).run.run client.handler).course http s

/-- **The requests of a change.** When a check finds something wrong there is no request, and what
the first such check finds is the failure. Otherwise one request reads the entry that the change is
about. If the answer lets the entry be written, one request writes it and its answer decides; if
not, there is no other request, and the change fails with what the answer means. -/
theorem requests_of_change {client : Client} (hclient : client.OnWeb) (c : Change) (scope : Scope)
    (http : Responder Request.Reply σ) (s : σ) :
    (∀ f, c.fault? scope = some f → c.requests scope client http s = ⟨.ok (.error f), [], s⟩) ∧
    (c.fault? scope = none → ∃ e read write, c.IsAbout e ∧
      IsRead client e read ∧ IsWrite client c.direction c.slug e write ∧
      let answer := (http read s).1
      let s' := (http read s).2
      (c.direction.Sends e answer → c.requests scope client http s =
        ⟨.ok (c.direction.outcome (http write s').1),
          [⟨read, answer⟩, ⟨write, (http write s').1⟩], (http write s').2⟩) ∧
      (¬c.direction.Sends e answer → ∃ f, Refuses e answer f ∧
        c.requests scope client http s = ⟨.ok (.error f), [⟨read, answer⟩], s'⟩)) := by
  constructor
  · intro f hf
    unfold Change.requests
    rw [Change.run_perform_of_error (Change.fault?_eq_some_iff.1 hf)]
    rfl
  · intro hnone
    obtain ⟨e, he⟩ := Change.fault?_eq_none_iff.1 hnone
    obtain ⟨read, hread, isRead⟩ := exists_read hclient e
    obtain ⟨write, hwrite, isWrite⟩ := exists_write hclient c.direction c.slug e
    refine ⟨e, read, write, Change.isAbout_of_entry he, isRead, isWrite, ?_⟩
    -- the requests are read off the log that the course of the change leaves
    have hrequests := Client.course_run_handler_logged client http (c.perform scope).run s
    rw [Change.course_perform he] at hrequests
    have hanswer := Client.respond_of_ok hread http.logged ([], s)
    constructor
    · intro hsends
      have hwritten := Client.respond_of_ok hwrite http.logged
        ([⟨read, (http read s).1⟩], (http read s).2)
      have hstate : Responder.logged http read ([], s) =
          ((http read s).1, [⟨read, (http read s).1⟩], (http read s).2) := rfl
      rw [hstate] at hanswer
      rw [Entry.course_of_ok e hanswer (verdict_of_sends hsends)] at hrequests
      simp only [hwritten, Course.after, outcome_reply] at hrequests
      exact hrequests
    · intro hsends
      obtain ⟨f, hf, hrefuses⟩ := refuses_of_not_sends hsends
      refine ⟨f, hrefuses, ?_⟩
      rw [Entry.course_of_error e hanswer hf] at hrequests
      exact hrequests

end

/-! ## A client -/

/-- A client of the usual servers. -/
def sampleClient : Client where
  base :=
    ⟨"https", "", "", some (.name "api.bitbucket.org"), none, .segments ["2.0", ""], none, none⟩
  firstBase :=
    ⟨"https", "", "", some (.name "api.bitbucket.org"), none, .segments ["1.0", ""], none, none⟩
  pageSize := 100

theorem onWeb_sampleClient : sampleClient.OnWeb where
  base := ⟨⟨"https://api.bitbucket.org/2.0/", rfl⟩, .inr rfl⟩
  firstBase := ⟨⟨"https://api.bitbucket.org/1.0/", rfl⟩, .inr rfl⟩

/-- A server that has nothing to read and takes whatever is written. -/
def blankServer : Responder Request.Reply Unit := fun r s =>
  (if r.method = .get then .error (.status 404 "no entry") else .ok .null, s)

/-- A server that answers everything with an empty list. -/
def listServer : Responder Request.Reply Unit := fun _ s => (.ok (.array []), s)

/-- The user gets a role on a project. -/
def sampleChange (slug : String) : Change := ⟨.give, ⟨.user, "u1"⟩, ⟨.project, "w:p:P"⟩, slug⟩

/-- A group loses its role on a repository. -/
def groupChange : Change := ⟨.take, ⟨.userGroup, "w:g"⟩, ⟨.repository, "w:p:P:r"⟩, "read"⟩

/-- A role that is not there is read and then set or taken away, at the place of its holder. There
is no request for an unknown role, and one alone when its answer is no role. -/
theorem requests_of_change_sample :
    (sampleChange "owner").requests (.workspace "w") sampleClient blankServer () =
        ⟨.ok (.error (.unsupportedRole .project "owner")), [], ()⟩ ∧
      (∃ read write, read.method = .get ∧ write.method = .put ∧ write.url = read.url ∧
        read.url.path = .segments
          ["2.0", "workspaces", "w", "projects", "P", "permissions-config", "users", "u1"] ∧
        write.body = some (.object [("permission", .text "write")]) ∧
        (sampleChange "write").requests (.workspace "w") sampleClient blankServer () =
          ⟨.ok (.ok ()), [⟨read, .error (.status 404 "no entry")⟩, ⟨write, .ok .null⟩], ()⟩) ∧
      (∃ read write, read.method = .get ∧ write.method = .delete ∧ write.url = read.url ∧
        read.url.path = .segments
          ["2.0", "repositories", "w", "r", "permissions-config", "groups", "g"] ∧
        write.body = none ∧
        groupChange.requests (.workspace "w") sampleClient blankServer () =
          ⟨.ok (.ok ()), [⟨read, .error (.status 404 "no entry")⟩, ⟨write, .ok .null⟩], ()⟩) ∧
      ∃ read f, (sampleChange "write").requests (.workspace "w") sampleClient listServer () =
        ⟨.ok (.error f), [⟨read, .ok (.array [])⟩], ()⟩ := by
  -- against the blank server a role is read, which is not there, and written
  have hblank {c : Change} {target : Target} {side : Side} {holder : String}
      (hvalid : c.fault? (.workspace "w") = none) (habout : c.IsAbout (.role target side holder)) :
      ∃ read write, IsRead sampleClient (.role target side holder) read ∧
        IsWrite sampleClient c.direction c.slug (.role target side holder) write ∧
        write.url = read.url ∧ c.requests (.workspace "w") sampleClient blankServer () =
          ⟨.ok (.ok ()), [⟨read, .error (.status 404 "no entry")⟩, ⟨write, .ok .null⟩], ()⟩ := by
    obtain ⟨e, read, write, he, isRead, isWrite, hsent, -⟩ :=
      (requests_of_change onWeb_sampleClient c (.workspace "w") blankServer ()).2 hvalid
    obtain rfl := habout.unique he
    have hget : blankServer read () = (.error (.status 404 "no entry"), ()) := by
      unfold blankServer
      rw [isRead.method]
      rfl
    have hwrite : blankServer write () = (.ok .null, ()) := by
      unfold blankServer
      rw [isWrite.method]
      cases c.direction <;> rfl
    have hplace := isWrite.url
    rw [Entry.below, List.append_nil] at hplace
    rw [hget, hwrite] at hsent
    exact ⟨read, write, isRead, isWrite, Option.some.inj (hplace.symm.trans isRead.url),
      hsent (.inr ⟨_, rfl⟩)⟩
  refine ⟨?_, ?_, ?_, ?_⟩
  · exact (requests_of_change onWeb_sampleClient _ _ blankServer ()).1 _ rfl
  · obtain ⟨read, write, isRead, isWrite, hurl, hdone⟩ := hblank (c := sampleChange "write") rfl
      (Change.isAbout_userOnProject .give "write")
    exact ⟨read, write, isRead.method, isWrite.method, hurl,
      congrArg Url.path (Option.some.inj isRead.url.symm), isWrite.body, hdone⟩
  · obtain ⟨read, write, isRead, isWrite, hurl, hdone⟩ := hblank (c := groupChange) rfl
      (Change.isAbout_groupOnRepository .take "read")
    exact ⟨read, write, isRead.method, isWrite.method, hurl,
      congrArg Url.path (Option.some.inj isRead.url.symm), isWrite.body, hdone⟩
  · obtain ⟨e, read, write, he, -, -, -, hrefused⟩ :=
      (requests_of_change onWeb_sampleClient (sampleChange "write") (.workspace "w") listServer
        ()).2 rfl
    obtain rfl := (Change.isAbout_userOnProject .give "write").unique he
    have hshape :
        ¬Direction.give.Sends (.role (.project "w" "P") .users "u1") (.ok (.array [])) := by
      rintro (⟨j, held, hj, hheld⟩ | ⟨m, hm⟩)
      · cases hj
        cases hheld
      · cases hm
    obtain ⟨f, -, hdone⟩ := hrefused hshape
    exact ⟨read, f, hdone⟩

end AccessSync.Provision
