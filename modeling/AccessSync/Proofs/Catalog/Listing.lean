import AccessSync.Connector
import AccessSync.Proofs.Grants.Place

/-!
# Complete listings

A list that is asked for page by page, each page with the token that the last one returned, comes to
an end when the list of the server does, and has what the server has.

* `Lists`: what the pages of a listing hold together; `ListsIn` also says how many they are.
* `lists_listPage`: a listing along a list of the server.
* `lists_workspaces`, `lists_users`, `lists_groups`, `lists_projects`, `lists_repositories`: the
  resources of each kind.
-/

namespace AccessSync

open Api (Endpoint)

section
variable {α β : Type} {s : Server}

/-- What an operation comes to against a server. -/
def Operation.outcome (x : Operation α) (s : Server) : Except (Option Failure) α :=
  match x.run.result s with
  | .ok (.ok a) => .ok a
  | .ok (.error e) => .error (some e)
  | .error _ => .error none

theorem Operation.outcome_eq_ok {x : Operation α} {a : α} :
    x.outcome s = .ok a ↔ x.run.result s = .ok (.ok a) := by
  unfold outcome
  cases x.run.result s with
  | error why => simp
  | ok r => cases r <;> simp

/-- The calls of a listing, first with the empty token and then with each token returned, come to
the empty token and return the items. -/
def Lists (s : Server) (list : String → Operation (Page α)) (items : List α) : Prop :=
  ∃ pages, Chain (fun token => (list token).outcome s) "" pages ∧ Page.concat pages = items

/-- The same, with the number of calls. -/
def ListsIn (s : Server) (list : String → Operation (Page α)) (count : Nat) (items : List α) :
    Prop :=
  ∃ pages, Chain (fun token => (list token).outcome s) "" pages ∧ pages.length = count ∧
    Page.concat pages = items

theorem ListsIn.lists {list : String → Operation (Page α)} {count : Nat} {items : List α}
    (h : ListsIn s list count items) : Lists s list items := by
  obtain ⟨pages, hc, -, hitems⟩ := h
  exact ⟨pages, hc, hitems⟩

/-! ## Tokens of a list -/

/-- The token that asks for the page of a list at a cursor. -/
def listToken (kind : Kind) (cursor : String) : String :=
  if cursor = "" then "" else (Place.mk kind cursor []).token

theorem listToken_ne_empty {kind : Kind} {cursor : String} (h : cursor ≠ "") :
    listToken kind cursor ≠ "" := by
  unfold listToken
  rw [if_neg h]
  exact Place.token_ne_empty _

theorem decode_listToken (kind : Kind) (cursor : String) :
    (PageStack.decode (listToken kind cursor)).map (·.startWith kind.name) =
      .ok (Place.mk kind cursor []).stack := by
  unfold listToken
  by_cases h : cursor = ""
  · subst h
    rfl
  · rw [if_neg h, Place.token, PageStack.decode_encode]
    rfl

theorem nextToken_listToken (kind : Kind) (cursor next : String) :
    (Place.mk kind cursor []).stack.nextToken next = listToken kind next := by
  rw [Place.nextToken_stack]
  unfold Place.after listToken
  by_cases h : next = ""
  · rw [if_pos h, if_pos h]
    rfl
  · rw [if_neg h, if_neg h]
    rfl

/-- **A page of a list** is fetched at the cursor that its token stands for. -/
theorem result_listPage (kind : Kind) {cursor : String} (fetch : String → Operation (Page α))
    {page : Page α} (h : (fetch cursor).run.result s = .ok (.ok page)) :
    (listPage kind (listToken kind cursor) fetch).run.result s =
      .ok (.ok ⟨page.items, listToken kind page.next⟩) := by
  have hstack := decode_listToken kind cursor
  -- the empty token starts the stack that a later token decodes to
  cases hdecode : PageStack.decode (listToken kind cursor) with
  | error e => rw [hdecode] at hstack; cases hstack
  | ok stack =>
    rw [hdecode] at hstack
    have hstart : stack.startWith kind.name = (Place.mk kind cursor []).stack :=
      Except.ok.inj hstack
    unfold listPage
    rw [hdecode]
    show (fetch (stack.startWith kind.name).cursor >>= fun page =>
      (return ⟨page.items, (stack.startWith kind.name).nextToken page.next⟩ :
        Operation (Page α))).run.result s = _
    have hcursor : (Place.mk kind cursor []).stack.cursor = cursor := rfl
    rw [hstart, hcursor, Operation.result_bind_of_ok h, nextToken_listToken]
    rfl

/-- **A listing along a list of the server** takes a call for each page, and has the items of the
list as the pages show them. -/
theorem lists_listPage {ε : Type} {reply : String → Except ε (Page β)} {pages : List (Page β)}
    (hc : Chain reply "" pages) (kind : Kind) (ask : String → Operation (Page β))
    (hask : ∀ cursor page, reply cursor = .ok page → (ask cursor).run.result s = .ok (.ok page))
    (f : List β → List α) :
    ListsIn s (fun token => listPage kind token fun cursor => do
      let page ← ask cursor
      return ⟨f page.items, page.next⟩) pages.length (pages.flatMap fun page => f page.items) := by
  have hpage : ∀ {cursor page}, reply cursor = .ok page →
      (listPage kind (listToken kind cursor) fun cursor => do
        let page ← ask cursor
        return ⟨f page.items, page.next⟩).outcome s =
          .ok ⟨f page.items, listToken kind page.next⟩ := by
    intro cursor page h
    have hfetch : (do
        let page ← ask cursor
        return ⟨f page.items, page.next⟩ : Operation (Page α)).run.result s =
          .ok (.ok ⟨f page.items, page.next⟩) := Operation.result_bind_of_ok (hask cursor page h) _
    have hlist := result_listPage kind (fun cursor => do
      let page ← ask cursor
      return ⟨f page.items, page.next⟩) hfetch
    exact Operation.outcome_eq_ok.2 hlist
  -- the tokens of the listing run along the cursors of the list
  have hchain : ∀ {cursor pages}, Chain reply cursor pages →
      Chain (fun token => (listPage kind token fun cursor => do
        let page ← ask cursor
        return ⟨f page.items, page.next⟩).outcome s) (listToken kind cursor)
        (pages.map fun page => ⟨f page.items, listToken kind page.next⟩) := by
    intro cursor pages h
    induction h with
    | last found ends => exact .last (hpage found) (if_pos ends)
    | more found goes tail ih => exact .more (hpage found) (listToken_ne_empty goes) ih
  exact ⟨_, hchain hc, List.length_map _, by simp [Page.concat, List.flatMap_map]⟩

/-- **A page of a list**, whatever the token: its items are those of a page of the server. -/
theorem exists_of_listPage {may : (e : Endpoint) → e.Reply → Prop} {kind : Kind} {token : String}
    {ask : String → Operation (Page β)} {f : List β → List α} {page : Page α}
    (h : (listPage kind token fun cursor => do
      let page ← ask cursor
      return ⟨f page.items, page.next⟩).run.Yields may (.ok page)) :
    ∃ cursor found, (ask cursor).run.Yields may (.ok found) ∧ page.items = f found.items := by
  obtain ⟨stack, -, h⟩ := Plan.yields_exceptT_bind_ok h
  obtain ⟨shown, hshown, h⟩ := Plan.yields_exceptT_bind_ok h
  obtain ⟨found, hfound, hshown⟩ := Plan.yields_exceptT_bind_ok hshown
  cases h
  cases hshown
  exact ⟨_, found, hfound, rfl⟩

/-- A listing that is one page for the empty token. -/
theorem lists_of_result {list : String → Operation (Page α)} {items : List α}
    (h : (list "").run.result s = .ok (.ok ⟨items, ""⟩)) : ListsIn s list 1 items :=
  ⟨[⟨items, ""⟩], .last (Operation.outcome_eq_ok.2 h) rfl, rfl, by simp [Page.concat]⟩

end

/-! ## The kinds -/

section
variable {s : Server} {scope : Scope}

theorem listResources_none (c : Connector) (scope : Scope) (kind : Kind) :
    c.listResources scope kind none = listKind c.pageSize scope kind none := rfl

/-- A listing below a parent in scope gets through. -/
theorem listResources_some (c : Connector) {kind : Kind} {parent : ResourceId}
    (h : scope.check parent = .ok ()) :
    c.listResources scope kind (some parent) = listKind c.pageSize scope kind (some parent) := by
  funext token
  unfold Connector.listResources
  show (do
    Operation.ofExcept (scope.check parent)
    listKind c.pageSize scope kind (some parent) token : Operation (Page Resource)) = _
  rw [h]
  rfl

theorem parentOf_of_kind {kind : Kind} {p : ResourceId} (h : p.kind = kind) :
    parentOf kind (some p) = some p := by
  simp [parentOf, h]

theorem lists_workspaces_user {user : String} {ids : List String} {pageSize : UInt32}
    {pages : List (Page Api.Workspace)}
    (h : Chain (fun cursor => s (.workspaces pageSize cursor)) "" pages) :
    ListsIn s (listKind pageSize (.user user ids) .workspace none) pages.length
      (((Page.concat pages).filter fun w => (Scope.user user ids).contains w.uuid).map
        (·.resource)) := by
  have hlist := lists_listPage h .workspace
    (fun cursor => Operation.ask (.workspaces pageSize cursor))
    (fun _ _ => Operation.result_ask_of_ok)
    fun items => (items.filter fun w => (Scope.user user ids).contains w.uuid).map (·.resource)
  rw [← List.map_flatMap, ← List.filter_flatMap] at hlist
  exact hlist

theorem lists_workspaces_workspace {id : String} {pageSize : UInt32} {w : Api.Workspace}
    (h : s (.workspace id) = .ok w) :
    ListsIn s (listKind pageSize (.workspace id) .workspace none) 1 [w.resource] := by
  apply lists_of_result
  exact Operation.result_bind_of_ok (Operation.result_ask_of_ok h) _

theorem lists_users (scope : Scope) {w : ResourceId} (hw : w.kind = .workspace)
    {pageSize : UInt32} {pages : List (Page Api.User)}
    (h : Chain (fun cursor => s (.members w.key pageSize cursor)) "" pages) :
    ListsIn s (listKind pageSize scope .user (some w)) pages.length
      ((Page.concat pages).map (·.resource w)) := by
  have hlist := lists_listPage h .user
    (fun cursor => Operation.ask (.members w.key pageSize cursor))
    (fun _ _ => Operation.result_ask_of_ok) fun items => items.map (·.resource w)
  rw [← List.map_flatMap] at hlist
  unfold listKind
  simp only [parentOf_of_kind hw]
  exact hlist

theorem lists_groups (pageSize : UInt32) (scope : Scope) {w : ResourceId} (hw : w.kind = .workspace)
    {groups : List Api.UserGroup} (h : s (.groups w.key) = .ok groups) :
    ListsIn s (listKind pageSize scope .userGroup (some w)) 1 (groups.map (·.resource w)) := by
  unfold listKind
  simp only [parentOf_of_kind hw]
  apply lists_of_result
  exact Operation.result_bind_of_ok (Operation.result_ask_of_ok h) _

theorem lists_projects (scope : Scope) {w : ResourceId} (hw : w.kind = .workspace)
    {pageSize : UInt32} {pages : List (Page Api.Project)}
    (h : Chain (fun cursor => s (.projects w.key pageSize cursor)) "" pages) :
    ListsIn s (listKind pageSize scope .project (some w)) pages.length
      ((Page.concat pages).map (·.resource w)) := by
  have hlist := lists_listPage h .project
    (fun cursor => Operation.ask (.projects w.key pageSize cursor))
    (fun _ _ => Operation.result_ask_of_ok) fun items => items.map (·.resource w)
  rw [← List.map_flatMap] at hlist
  unfold listKind
  simp only [parentOf_of_kind hw]
  exact hlist

theorem lists_repositories (scope : Scope) {p : ResourceId} (hp : p.kind = .project)
    {id : ProjectId} (hid : ProjectId.read p.key = .ok id) {pageSize : UInt32}
    {pages : List (Page Api.Repository)}
    (h : Chain (fun cursor => s (.repositories id.workspace id.project pageSize cursor)) "" pages) :
    ListsIn s (listKind pageSize scope .repository (some p)) pages.length
      ((Page.concat pages).map (·.resource p id)) := by
  have hlist := lists_listPage h .repository
    (fun cursor => Operation.ask (.repositories id.workspace id.project pageSize cursor))
    (fun _ _ => Operation.result_ask_of_ok) fun items => items.map (·.resource p id)
  rw [← List.map_flatMap] at hlist
  unfold listKind
  simp only [parentOf_of_kind hp]
  unfold listRepositories
  rw [hid]
  exact hlist

end

end AccessSync
