import AccessSync.Proofs.Course
import AccessSync.Proofs.Url.Form

/-!
# Requests for pages

A list in pages is asked for with a cursor, and each page has a link to the next one. The cursor of
a page comes from the link to it: it is decoded there, and encoded again in the request.

* `Listing.nextCursor_eq_iff`: the cursor that a link leads to.
* `Endpoint.atCursor`, `Client.request_atCursor`: a page of a list, and the request for it.
* `Client.pairs_address`: the pairs that the address of a request holds.
* `Request.SameList`: requests that differ in the cursor at most.
-/

namespace AccessSync

/-! ## Last segments -/

namespace Url

theorem getLast?_trimFront (file : Bool) (done : List String) {s : String} (hs : s ≠ "") :
    (trimFront file (done ++ [s])).getLast? = some s := by
  unfold trimFront
  cases file with
  | false => exact List.getLast?_concat
  | true =>
    -- the segment at the end is not empty, so that much is kept
    have hkept : (done ++ [s]).dropWhile (· == "") = done.dropWhile (· == "") ++ [s] := by
      rw [List.dropWhile_append]
      split
      · rename_i hall
        rw [List.isEmpty_iff.1 hall]
        simp [hs]
      · rfl
    rw [if_pos rfl, hkept]
    cases hd : done.dropWhile (· == "") with
    | nil => rfl
    | cons first rest => exact List.getLast?_concat

/-- A plain segment that is added stands at the end. -/
theorem getLast?_pushSegment (special file : Bool) (parts : List String) (side : Api.Side) :
    (pushSegment special file parts side.segment).getLast? = some side.segment := by
  have hname : side.segment ≠ "." ∧ side.segment ≠ ".." ∧ side.segment ≠ "" := by
    cases side <;> decide
  have hchars : (side.segment.toList.filter fun c => !isDropped c) = side.segment.toList := by
    cases side <;> decide
  have hdots : isDrive side.segment.toList = false ∧ side.segment.toList ≠ ['.', '.'] ∧
      side.segment.toList ≠ ['.'] := by
    cases side <;> decide
  have hplain : percentEncode (inSegmentSet special) side.segment.toList = side.segment.toList := by
    cases special <;> cases side <;> decide
  unfold pushSegment
  simp [hname, hchars, hdots, hplain, getLast?_trimFront]

theorem getLast?_extend? {u url : Url} {added : List String} {side : Api.Side}
    (h : u.extend? (added ++ [side.segment]) = some url) :
    ∃ parts, url.path = .segments parts ∧ parts.getLast? = some side.segment := by
  unfold extend? at h
  split at h
  · cases h
  · cases h
    refine ⟨_, rfl, ?_⟩
    rw [List.foldl_append]
    exact getLast?_pushSegment _ _ _ side

end Url

namespace Api

/-! ## Links -/

/-- The link is a URL, and the first pair of its query that is named `page` has the value `cursor`,
which is not empty. -/
def LeadsTo (link cursor : String) : Prop :=
  cursor ≠ "" ∧ ∃ url, Url.read link = .ok url ∧ url.pairs.lookup "page" = some cursor

namespace Listing

theorem cursorOf_eq_iff {link cursor : String} (hc : cursor ≠ "") :
    cursorOf link = cursor ↔ LeadsTo link cursor := by
  unfold cursorOf LeadsTo
  cases Url.read link with
  | error e => simp [Ne.symm hc]
  | ok url =>
    cases hp : url.pairs.lookup "page" with
    | none => simp [hp, Ne.symm hc]
    | some value => simp [hp, hc]

/-- **The next cursor** is the one that the link leads to. -/
theorem nextCursor_eq_iff {α : Type} {l : Listing α} {cursor : String} (hc : cursor ≠ "") :
    l.nextCursor = cursor ↔ ∃ link, l.next = some link ∧ LeadsTo link cursor := by
  unfold nextCursor
  cases l.next with
  | none => simp [Ne.symm hc]
  | some link => simp [cursorOf_eq_iff hc]

end Listing

/-! ## Lists in pages -/

namespace Endpoint

/-- The endpoint at a cursor of its list; what is no list in pages has no other place. -/
def atCursor (cursor : String) : Endpoint → Endpoint
  | .workspaces length _ => .workspaces length cursor
  | .members w length _ => .members w length cursor
  | .projects w length _ => .projects w length cursor
  | .repositories w p length _ => .repositories w p length cursor
  | .roles target side length _ => .roles target side length cursor
  | e => e

/-- The cursor that an answer goes on at, empty when it is no page or the last one. -/
def next : (e : Endpoint) → e.Answer → String
  | .workspaces .., page => page.next
  | .members .., page => page.next
  | .projects .., page => page.next
  | .repositories .., page => page.next
  | .roles .., page => page.next
  | _, _ => ""

/-- The link to the next page in what the server sends, if it sends a page with one. -/
def link? : Endpoint → Json → Option String
  | .workspaces .., j => ((Listing.shape Workspace.shape).decode j.tree).toOption.bind (·.next)
  | .members .., j => ((Listing.shape memberShape).decode j.tree).toOption.bind (·.next)
  | .projects .., j => ((Listing.shape Project.shape).decode j.tree).toOption.bind (·.next)
  | .repositories .., j => ((Listing.shape Repository.shape).decode j.tree).toOption.bind (·.next)
  | .roles _ side _ _, j => ((Listing.shape side.shape).decode j.tree).toOption.bind (·.next)
  | _, _ => none

theorem atCursor_atCursor (e : Endpoint) (c c' : String) :
    (e.atCursor c').atCursor c = e.atCursor c := by
  cases e <;> rfl

/-- **The answer goes on at the cursor that its link leads to.** -/
theorem next_eq_iff {e : Endpoint} {j : Json} {a : e.Answer} (h : e.decode j = .ok a)
    {cursor : String} (hc : cursor ≠ "") :
    e.next a = cursor ↔ ∃ link, e.link? j = some link ∧ LeadsTo link cursor := by
  have hlisting {α : Type} {found : Except Json.Mismatch (Listing α)} {page : Page α}
      (hfound : found.map Listing.page = .ok page) :
      page.next = cursor ↔ ∃ link, found.toOption.bind (·.next) = some link ∧
        LeadsTo link cursor := by
    cases found with
    | error e => cases hfound
    | ok l =>
      cases hfound
      exact Listing.nextCursor_eq_iff hc
  cases e with
  | workspaces => exact hlisting h
  | members => exact hlisting h
  | projects => exact hlisting h
  | repositories => exact hlisting h
  | roles => exact hlisting h
  | _ => simp [next, link?, Ne.symm hc]

end Endpoint

/-! ## Queries -/

namespace Query

/-- The query with another cursor. -/
def withCursor (q : Query) (cursor : String) : Query := { q with cursor := some cursor }

/-- **A cursor is written as the one pair named `page`**, and no other pair depends on it. -/
theorem pairs_withCursor (q : Query) (cursor : String) :
    (q.withCursor cursor).pairs.filter (·.1 == "page") = [("page", cursor)] ∧
      (q.withCursor cursor).pairs.filter (·.1 != "page") = q.pairs.filter (·.1 != "page") := by
  obtain ⟨length, old, filter, fields⟩ := q
  unfold withCursor pairs
  cases length <;> cases old <;> cases filter <;> cases fields <;> simp

end Query

theorem Endpoint.query_atCursor {e : Endpoint} (hp : e.query.length ≠ none) {cursor : String}
    (hc : cursor ≠ "") : (e.atCursor cursor).query = e.query.withCursor cursor := by
  have hpage (q : Query) (n : UInt32) (old : String) :
      q.page n cursor = (q.page n old).withCursor cursor := by
    unfold Query.page Query.withCursor
    rw [if_neg hc]
  cases e with
  | workspaces n old => exact hpage _ n old
  | members w n old => exact congrArg (Query.without · memberFields) (hpage _ n old)
  | projects w n old => exact congrArg (Query.without · projectFields) (hpage _ n old)
  | repositories w p n old => exact congrArg (Query.only · (inProject p)) (hpage _ n old)
  | roles t s n old => exact congrArg (Query.without · roleFields) (hpage _ n old)
  | _ => exact absurd rfl hp

/-! ## Requests -/

namespace Request

/-- The request with another cursor. -/
def withCursor (r : Request) (cursor : String) : Request :=
  { r with query := r.query.withCursor cursor }

/-- The requests differ in the cursor at most. -/
def SameList (r r' : Request) : Prop :=
  r' = { r with query := { r.query with cursor := r'.query.cursor } }

end Request

namespace Client

variable {c : Client} {e : Endpoint} {r : Request}

theorem decode_of_reply {j : Json} {a : e.Answer} (h : reply e (.ok j) = .ok a) :
    e.decode j = .ok a := by
  unfold reply at h
  dsimp only at h
  split at h
  · rename_i hd
    cases h
    exact hd
  · cases h

/-- **The request for a page at a cursor** is the request for another page with the cursor in place
of its own. -/
theorem request_atCursor (h : c.request e = .ok r) (hp : r.query.length ≠ none) {cursor : String}
    (hc : cursor ≠ "") : c.request (e.atCursor cursor) = .ok (r.withCursor cursor) := by
  obtain ⟨url, hurl, rfl⟩ := request_eq_ok.1 h
  refine request_eq_ok.2 ⟨url, ?_, ?_⟩
  · cases e <;> exact hurl
  · obtain ⟨hmethod, hbody⟩ :
        (e.atCursor cursor).method = e.method ∧ (e.atCursor cursor).body = e.body := by
      cases e <;> exact ⟨rfl, rfl⟩
    rw [hmethod, hbody, Endpoint.query_atCursor hp hc]
    rfl

/-- **The pairs of the address** of a request for a page are the parameters, when the base has no
query of its own. -/
theorem pairs_address (hbase : c.base.query = none) (h : c.request e = .ok r)
    (hp : r.query.length ≠ none) : r.address.pairs = r.query.pairs := by
  obtain ⟨url, hurl, rfl⟩ := request_eq_ok.1 h
  -- lists in pages belong to the second version
  have hversion : c.baseOf e.version = c.base := by
    cases e with
    | groups | groupMembers | addMember | removeMember => exact absurd rfl hp
    | _ => rfl
  have hquery : url.query = none := by
    rw [hversion] at hurl
    unfold Url.extend? at hurl
    split at hurl
    · cases hurl
    · cases hurl
      exact hbase
  unfold Request.address Query.apply
  rw [Url.pairs_append]
  unfold Url.pairs
  rw [hquery]
  rfl

/-! ## Different lists -/

/-- Requests with different filters are for different lists. -/
theorem not_sameList_of_filter {r r' : Request} (h : r.query.filter ≠ r'.query.filter) :
    ¬r.SameList r' :=
  fun hsame => h (congrArg (fun r => r.query.filter) hsame).symm

theorem not_sameList_of_length {r r' : Request} (h : r.query.length ≠ r'.query.length) :
    ¬r.SameList r' :=
  fun hsame => h (congrArg (fun r => r.query.length) hsame).symm

/-- The roles of groups and those of users are different lists. -/
theorem not_sameList_of_side {c : Client} {target target' : Target} {side side' : Side}
    {n n' : UInt32} {cursor cursor' : String} {r r' : Request}
    (hr : c.request (.roles target side n cursor) = .ok r)
    (hr' : c.request (.roles target' side' n' cursor') = .ok r') (hside : side ≠ side') :
    ¬r.SameList r' := by
  obtain ⟨url, hurl, rfl⟩ := request_eq_ok.1 hr
  obtain ⟨url', hurl', rfl⟩ := request_eq_ok.1 hr'
  obtain ⟨parts, hparts, hlast⟩ := Url.getLast?_extend? hurl
  obtain ⟨parts', hparts', hlast'⟩ := Url.getLast?_extend? hurl'
  intro hsame
  obtain rfl : url' = url := congrArg Request.url hsame
  obtain rfl : parts = parts' := by simpa [hparts] using hparts'
  have hsegment : side.segment = side'.segment := by simpa [hlast] using hlast'
  revert hsegment hside
  cases side <;> cases side' <;> decide

end Client

end Api

end AccessSync
