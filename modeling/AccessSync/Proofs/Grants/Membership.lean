import AccessSync.Proofs.Catalog.Listing
import AccessSync.Proofs.Grants.Enumeration

/-!
# Enumerations of members

The grants on a workspace and on a group are one list, and there are none on a user. Nothing of them
is recorded, so an enumeration of them is a listing.

* `enumerates_of_lists`: a listing is an enumeration.
* `enumerates_workspace`, `enumerates_group`, `enumerates_user`: the grants of each.
-/

namespace AccessSync

section
variable {s : Server} {c : Connector} {scope : Scope} {id : ResourceId}

/-- The calls along the pages of a listing are calls straight through. -/
theorem straightThrough_of_chain {list : String → Operation (Page Grant)} {token : String}
    {pages : List (Page Grant)} (h : Chain (fun token => (list token).outcome s) token pages)
    {seen₀ seen : FirstSeen} {calls : List (String × Page Grant)}
    (before : StraightThrough s (fun token => .ofOperation (list token)) seen₀ calls token seen)
    (goes : token = "" → calls = []) :
    StraightThrough s (fun token => .ofOperation (list token)) seen₀
      (calls ++ (Chain.cursors token pages).zip pages) "" seen := by
  have hcall : ∀ {token page}, (list token).outcome s = .ok page →
      ((Enumeration.ofOperation (list token)).run seen).result s = .ok (.ok page, seen) := by
    intro token page hpage
    rw [Enumeration.run_ofOperation, Plan.result_bind_of_ok (Operation.outcome_eq_ok.1 hpage)]
    rfl
  induction h generalizing calls with
  | @last token page found ends =>
    -- the last page tells no token, which is the end of the calls
    have hnext := before.next goes (hcall found)
    rw [ends] at hnext
    exact hnext
  | @more token page rest found more tail ih =>
    have hrest := ih (before.next goes (hcall found)) fun h => absurd h more
    rwa [List.append_assoc] at hrest

/-- **A listing is an enumeration** of which nothing is recorded. -/
theorem enumerates_of_lists {list : String → Operation (Page Grant)} {grants : List Grant}
    (h : Lists s list grants) : Enumerates s (fun token => .ofOperation (list token)) grants := by
  obtain ⟨pages, hchain, hitems⟩ := h
  have hlength := Chain.length_cursors "" pages
  refine ⟨(Chain.cursors "" pages).zip pages, ?_, ?_, ?_⟩
  · intro hnil
    have hzip := congrArg List.length hnil
    rw [List.length_zip, hlength, Nat.min_self] at hzip
    exact hchain.ne_nil (List.eq_nil_of_length_eq_zero hzip)
  · have hpages : ((Chain.cursors "" pages).zip pages).map Prod.snd = pages :=
      List.map_snd_zip (Nat.le_of_eq hlength.symm)
    calc ((Chain.cursors "" pages).zip pages).flatMap (·.2.items)
        = (((Chain.cursors "" pages).zip pages).map Prod.snd).flatMap (·.items) :=
          (List.flatMap_map _ _ _).symm
      _ = grants := by rw [hpages]; exact hitems
  · intro seen
    exact ⟨seen, straightThrough_of_chain hchain .start fun _ => rfl⟩

theorem enumerates_workspace (hk : id.kind = .workspace) (hs : scope.contains id.key)
    {pages : List (Page Api.User)}
    (h : Chain (fun cursor => s (.members id.key c.pageSize cursor)) "" pages) :
    Enumerates s (c.listGrants scope id) (memberGrants id memberSlug (Page.concat pages)) := by
  have hlist := lists_listPage h .user
    (fun cursor => Operation.ask (.members id.key c.pageSize cursor))
    (fun _ _ => Operation.result_ask_of_ok) (memberGrants id memberSlug)
  unfold memberGrants at hlist
  rw [← List.map_flatMap] at hlist
  have henumerates := enumerates_of_lists hlist.lists
  have hworkspace := ResourceId.workspace?_of_workspace hk
  rw [listGrants_of_check c ((Scope.check_eq_ok_iff hworkspace).2 hs)]
  unfold listGrants
  rw [hk]
  exact henumerates

theorem enumerates_group (hk : id.kind = .userGroup) {group : GroupId}
    (hid : GroupId.read id.key = .ok group) (hs : scope.contains group.workspace)
    {members : List Api.User} (h : s (.groupMembers group) = .ok members) :
    Enumerates s (c.listGrants scope id) (memberGrants id memberSlug members) := by
  have hworkspace := ResourceId.workspace?_of_userGroup hk hid
  have hlist : ListsIn s (fun _ => listGroupGrants id) 1 (memberGrants id memberSlug members) := by
    apply lists_of_result
    unfold listGroupGrants
    rw [hid]
    exact Operation.result_bind_of_ok (Operation.result_ask_of_ok h) _
  have henumerates := enumerates_of_lists hlist.lists
  rw [listGrants_of_check c ((Scope.check_eq_ok_iff hworkspace).2 hs)]
  unfold listGrants
  rw [hk]
  exact henumerates

theorem enumerates_user (hk : id.kind = .user) : Enumerates s (c.listGrants scope id) [] := by
  have hcheck : scope.check id = .ok () := by
    unfold Scope.check ResourceId.workspace?
    rw [hk]
  have hlist : ListsIn s (fun _ => return .empty) 1 ([] : List Grant) := lists_of_result rfl
  have henumerates := enumerates_of_lists hlist.lists
  rw [listGrants_of_check c hcheck]
  unfold listGrants
  rw [hk]
  exact henumerates

end

end AccessSync
