import AccessSync.Proofs.Access.Id
import AccessSync.Proofs.Api.Pages
import AccessSync.Proofs.Catalog.Listing
import AccessSync.Proofs.Grants.Enumeration

/-!
# Resources and the server's records

The resources of a kind are the server's records of that kind, one by one and in order. How the
server cuts the records into pages makes no difference: it only says how many calls it takes.

* `ResourceList`: the lists of resources in a scope.
* `SentPages`: the pages of a list as the server sends them.
* `resources_exhaustive`: what the calls of a listing return.
-/

namespace AccessSync

open Api (Client Endpoint Listing Request)

/-- The records of the server that resources of a kind stand for. -/
abbrev Kind.Record : Kind → Type
  | .workspace => Api.Workspace
  | .user => Api.User
  | .userGroup => Api.UserGroup
  | .project => Api.Project
  | .repository => Api.Repository

/-- A list of resources in a scope: those of a kind below a parent of the kind that they need. -/
inductive ResourceList : Scope → Kind → Type
  | workspaces (user : String) (ids : List String) : ResourceList (.user user ids) .workspace
  | workspace (id : String) : ResourceList (.workspace id) .workspace
  | users {scope : Scope} (workspace : String) (inScope : workspace ∈ scope.workspaceIds) :
      ResourceList scope .user
  | groups {scope : Scope} (workspace : String) (inScope : workspace ∈ scope.workspaceIds) :
      ResourceList scope .userGroup
  | projects {scope : Scope} (workspace : String) (inScope : workspace ∈ scope.workspaceIds) :
      ResourceList scope .project
  | repositories {scope : Scope} (key : String) (project : ProjectId)
      (read : ProjectId.read key = .ok project) (inScope : project.workspace ∈ scope.workspaceIds) :
      ResourceList scope .repository

/-! ## What the server sends -/

section
variable (client : Client) (reply : (r : Request) → r.Reply)

/-- The server's reply to the request of the endpoint. -/
def Sent (e : Endpoint) (j : Json) : Prop := ∃ r, client.request e = .ok r ∧ reply r = .ok j

/-- The pages of a list as the server sends them, from a cursor on: the last one has no link, and
the link of every other one leads to the cursor of the next one. -/
inductive SentPages {α : Type} (item : Json.Shape α) (list : String → Endpoint) :
    String → List (List α) → Prop
  | last {cursor : String} {j : Json} {records : List α}
      (sent : Sent client reply (list cursor) j)
      (holds : (Listing.shape item).decode j.tree = .ok ⟨records, none⟩) :
      SentPages item list cursor [records]
  | more {cursor : String} {j : Json} {records : List α} {link next : String}
      {rest : List (List α)} (sent : Sent client reply (list cursor) j)
      (holds : (Listing.shape item).decode j.tree = .ok ⟨records, some link⟩)
      (leads : Api.LeadsTo link next) (tail : SentPages item list next rest) :
      SentPages item list cursor (records :: rest)

end

namespace ResourceList

variable {scope : Scope} {kind : Kind}

/-- The parent of all resources in the list. -/
def parent? : ResourceList scope kind → Option ResourceId
  | workspaces .. | workspace _ => none
  | users w _ | groups w _ | projects w _ => some ⟨.workspace, w⟩
  | repositories key .. => some ⟨.project, key⟩

/-- The records that are listed: of the workspaces of a caller, those in scope. -/
def kept : ResourceList scope kind → List kind.Record → List kind.Record
  | workspaces user ids, records => records.filter fun w => (Scope.user user ids).contains w.uuid
  | workspace _, records => records
  | users .., records => records
  | groups .., records => records
  | projects .., records => records
  | repositories .., records => records

/-- The resource of a record. -/
def resource : ResourceList scope kind → kind.Record → Resource
  | workspaces .., record => record.resource
  | workspace _, record => record.resource
  | users w _, record => record.resource ⟨.workspace, w⟩
  | groups w _, record => record.resource ⟨.workspace, w⟩
  | projects w _, record => record.resource ⟨.workspace, w⟩
  | repositories key project .., record => record.resource ⟨.project, key⟩ project

/-- The key of a resource: workspaces and users have one of their own, the others have the key of
their parent and their own after it. -/
def key : ResourceList scope kind → kind.Record → String
  | workspaces .., record => record.uuid
  | workspace _, record => record.uuid
  | users .., record => record.uuid
  | groups w _, record => w ++ ":" ++ record.slug
  | projects w _, record => w ++ ":" ++ record.uuid ++ ":" ++ record.key
  | repositories key .., record => key ++ ":" ++ record.uuid

/-- The server sends the records of the list in these pages; some lists are sent all at once. -/
def SentIn (client : Client) (reply : (r : Request) → r.Reply) (n : UInt32) :
    ResourceList scope kind → List (List kind.Record) → Prop
  | workspaces .., pages => SentPages client reply Api.Workspace.shape (.workspaces n) "" pages
  | workspace id, pages => ∃ j record, Sent client reply (.workspace id) j ∧
      Api.Workspace.shape.decode j.tree = .ok record ∧ pages = [[record]]
  | users w _, pages => SentPages client reply Api.memberShape (.members w n) "" pages
  | groups w _, pages => ∃ j records, Sent client reply (.groups w) j ∧
      Json.Decoder.list Api.UserGroup.shape.decode j.tree = .ok records ∧ pages = [records]
  | projects w _, pages => SentPages client reply Api.Project.shape (.projects w n) "" pages
  | repositories _ project .., pages =>
    SentPages client reply Api.Repository.shape
      (.repositories project.workspace project.project n) "" pages

end ResourceList

/-- What an operation comes to when a client carries it out against replies to its requests. -/
def Api.Client.outcome {α : Type} (client : Client) (reply : (r : Request) → r.Reply)
    (work : Operation α) : Except (Option Failure) α :=
  match (work.run.run client.handler).result reply with
  | .ok (.ok a) => .ok a
  | .ok (.error e) => .error (some e)
  | .error _ => .error none

section
variable {client : Client} {reply : (r : Request) → r.Reply}

theorem Api.Client.outcome_eq {α : Type} (work : Operation α) :
    client.outcome reply work = work.outcome (client.server reply) := by
  have hresult := result_run_handler client reply work.run
  unfold outcome Operation.outcome
  exact hresult ▸ rfl

/-- What the server sends for an endpoint is the answer that the client has. -/
theorem Sent.server {e : Endpoint} {j : Json} {a : e.Answer} (h : Sent client reply e j)
    (ha : e.decode j = .ok a) : client.server reply e = .ok a := by
  obtain ⟨r, hr, hj⟩ := h
  unfold Client.server
  rw [hr]
  dsimp only
  rw [hj]
  unfold Client.reply
  dsimp only
  rw [ha]

/-- **The pages that a server sends** are a chain of pages for its client. -/
theorem SentPages.chain {α : Type} {item : Json.Shape α} {list : String → Endpoint}
    (fetch : String → Except Fault (Page α))
    (hfetch : ∀ {cursor j l}, Sent client reply (list cursor) j →
      (Listing.shape item).decode j.tree = .ok l → fetch cursor = .ok l.page)
    {cursor : String} {pages : List (List α)} (h : SentPages client reply item list cursor pages) :
    ∃ chain, Chain fetch cursor chain ∧ chain.length = pages.length ∧
      Page.concat chain = pages.flatten := by
  induction h with
  | @last cursor j records sent holds =>
    have hflat : Page.concat [(Listing.mk records none).page] = [records].flatten := by
      simp [Page.concat, Listing.page]
    exact ⟨[_], .last (hfetch sent holds) rfl, rfl, hflat⟩
  | @more cursor j records link next rest sent holds leads tail ih =>
    obtain ⟨chain, hchain, hlength, hconcat⟩ := ih
    have hnext : (Listing.mk records (some link)).page.next = next :=
      (Listing.nextCursor_eq_iff (l := ⟨records, some link⟩) leads.1).2 ⟨link, rfl, leads⟩
    refine ⟨(Listing.mk records (some link)).page :: chain, ?_, congrArg (· + 1) hlength, ?_⟩
    · refine .more (hfetch sent holds) ?_ ?_
      · rw [hnext]
        exact leads.1
      · rw [hnext]
        exact hchain
    · rw [List.flatten_cons, ← hconcat]
      rfl

end

/-! ## What is listed -/

section
variable {client : Client} {reply : (r : Request) → r.Reply} {scope : Scope} {kind : Kind}
variable {pages : List (List kind.Record)}

/-- A parent in scope passes the check. -/
theorem ResourceList.listResources (l : ResourceList scope kind) (c : Connector) :
    c.listResources scope kind l.parent? = listKind c.pageSize scope kind l.parent? := by
  have hworkspace {w : String} (hw : w ∈ scope.workspaceIds) :
      scope.check ⟨.workspace, w⟩ = .ok () :=
    (Scope.check_eq_ok_iff rfl).2 (List.contains_iff_mem.2 hw)
  cases l with
  | workspaces | workspace => rfl
  | users w hw | groups w hw | projects w hw => exact listResources_some c (hworkspace hw)
  | repositories key project read hw =>
    have hholding : (⟨.project, key⟩ : ResourceId).IsHolding (.project project) := ⟨rfl, read⟩
    exact listResources_some c
      ((Scope.check_eq_ok_iff hholding.workspace?).2 (List.contains_iff_mem.2 hw))

/-- A list takes a call for each page, and has the resources of the records. -/
theorem ResourceList.listsIn (l : ResourceList scope kind) {n : UInt32}
    (h : l.SentIn client reply n pages) :
    ListsIn (client.server reply) (listKind n scope kind l.parent?) pages.length
      ((l.kept pages.flatten).map l.resource) := by
  have hpage {α : Type} {found : Except Json.Mismatch (Listing α)} {l : Listing α}
      (hl : found = .ok l) : found.map Listing.page = .ok l.page := by
    rw [hl]
    rfl
  cases l with
  | workspaces user ids =>
    obtain ⟨chain, hchain, hlength, hconcat⟩ := h.chain
      (fun cursor => client.server reply (.workspaces n cursor))
      fun hsent hl => hsent.server (hpage hl)
    rw [← hconcat, ← hlength]
    exact lists_workspaces_user hchain
  | workspace id =>
    obtain ⟨j, record, hsent, hrecord, rfl⟩ := h
    exact lists_workspaces_workspace (hsent.server hrecord)
  | users w hw =>
    obtain ⟨chain, hchain, hlength, hconcat⟩ := h.chain
      (fun cursor => client.server reply (.members w n cursor))
      fun hsent hl => hsent.server (hpage hl)
    rw [← hconcat, ← hlength]
    exact lists_users scope rfl hchain
  | groups w hw =>
    obtain ⟨j, records, hsent, hrecords, rfl⟩ := h
    have hflat : [records].flatten = records := List.append_nil records
    rw [hflat]
    exact lists_groups n scope rfl (hsent.server hrecords)
  | projects w hw =>
    obtain ⟨chain, hchain, hlength, hconcat⟩ := h.chain
      (fun cursor => client.server reply (.projects w n cursor))
      fun hsent hl => hsent.server (hpage hl)
    rw [← hconcat, ← hlength]
    exact lists_projects scope rfl hchain
  | repositories key project read hw =>
    obtain ⟨chain, hchain, hlength, hconcat⟩ := h.chain
      (fun cursor =>
        client.server reply (.repositories project.workspace project.project n cursor))
      fun hsent hl => hsent.server (hpage hl)
    rw [← hconcat, ← hlength]
    exact lists_repositories scope rfl read hchain

/-- Every resource has the key of the list, and its parent. -/
theorem ResourceList.resource_spec (l : ResourceList scope kind) (record : kind.Record) :
    (l.resource record).id = ⟨kind, l.key record⟩ ∧ (l.resource record).parent = l.parent? := by
  cases l with
  | repositories key project read hw =>
    refine ⟨?_, rfl⟩
    -- the key of the parent is written as it was read
    show (⟨.repository, project.text ++ ":" ++ record.uuid⟩ : ResourceId) =
      ⟨.repository, key ++ ":" ++ record.uuid⟩
    rw [ProjectId.text_of_read read]
  | _ => exact ⟨rfl, rfl⟩

/-- **Listings are exhaustive, however pages are cut.** When the server sends the records of a list
of resources in pages, the calls of the listing, the first with the empty token and each other one
with the token returned by the one before, come to the empty token after as many calls as there are
pages. Together they return the resources of the records, in order: those of a caller's workspaces
that are in scope, and all records of any other list. Each has the parent of the list, and a key
made from the key of that parent. Whatever other pages the same records are sent in, to whatever
client, the resources are the same. -/
theorem resources_exhaustive (l : ResourceList scope kind) (c : Connector)
    (h : l.SentIn client reply c.pageSize pages) :
    (∃ calls, Chain (fun token =>
        client.outcome reply (c.listResources scope kind l.parent? token)) "" calls ∧
      calls.length = pages.length ∧
      Page.concat calls = (l.kept pages.flatten).map l.resource) ∧
    (∀ record, (l.resource record).id = ⟨kind, l.key record⟩ ∧
      (l.resource record).parent = l.parent?) ∧
    ∀ (c' : Connector) (client' : Client) (reply' : (r : Request) → r.Reply)
      (pages' : List (List kind.Record)), l.SentIn client' reply' c'.pageSize pages' →
      pages'.flatten = pages.flatten → ∀ calls calls',
        Chain (fun token =>
          client.outcome reply (c.listResources scope kind l.parent? token)) "" calls →
        Chain (fun token =>
          client'.outcome reply' (c'.listResources scope kind l.parent? token)) "" calls' →
        Page.concat calls' = Page.concat calls := by
  have hlists {c : Connector} {client : Client} {reply : (r : Request) → r.Reply}
      {pages : List (List kind.Record)} (h : l.SentIn client reply c.pageSize pages) :
      ∃ calls, Chain (fun token =>
          client.outcome reply (c.listResources scope kind l.parent? token)) "" calls ∧
        calls.length = pages.length ∧
        Page.concat calls = (l.kept pages.flatten).map l.resource := by
    simp only [Client.outcome_eq, l.listResources c]
    exact l.listsIn h
  refine ⟨hlists h, l.resource_spec, ?_⟩
  intro c' client' reply' pages' h' hflat calls calls' hc hc'
  obtain ⟨listed, hlisted, -, hitems⟩ := hlists h
  obtain ⟨listed', hlisted', -, hitems'⟩ := hlists h'
  rw [hc.unique hlisted, hc'.unique hlisted', hitems, hitems', hflat]

end

/-! ## Two projects, cut in two ways -/

def cutBase : Url := ⟨"https", "", "", some (.name "h"), none, .segments [""], none, none⟩

def cutClient : Client := ⟨cutBase, cutBase, 100⟩

def cutRecord (uuid key : String) : Json := .object [("uuid", .text uuid), ("key", .text key)]

/-- Both projects on one page. -/
def onePage (_ : Request) : Except Fault Json :=
  .ok (.object [("values", .array [cutRecord "p" "P", cutRecord "q" "Q"])])

/-- A project on each of two pages. -/
def twoPages (r : Request) : Except Fault Json :=
  match r.query.cursor with
  | none =>
    .ok (.object [("values", .array [cutRecord "p" "P"]), ("next", .text "https://h/?page=2")])
  | some _ => .ok (.object [("values", .array [cutRecord "q" "Q"])])

theorem leadsTo_second : Api.LeadsTo "https://h/?page=2" "2" := by
  refine ⟨by decide, { cutBase with query := some "page=2" }, ?_, ?_⟩
  · rfl
  · decide +kernel

/-- The two projects of a workspace, on two pages or on one. -/
theorem resources_exhaustive_sample :
    let calls (reply : (r : Request) → r.Reply) (token : String) :=
      cutClient.outcome reply ((⟨100, []⟩ : Connector).listResources (.workspace "w") .project
        (some ⟨.workspace, "w"⟩) token)
    ∃ two one, Chain (calls twoPages) "" two ∧ two.length = 2 ∧ Chain (calls onePage) "" one ∧
      one.length = 1 ∧ (Page.concat two).map (·.id) = [⟨.project, "w:p:P"⟩, ⟨.project, "w:q:Q"⟩] ∧
      Page.concat one = Page.concat two := by
  intro calls
  let l : ResourceList (.workspace "w") .project := .projects "w" List.mem_cons_self
  have htwo : l.SentIn cutClient twoPages 100 [[⟨"p", "P", ""⟩], [⟨"q", "Q", ""⟩]] :=
    .more ⟨_, rfl, rfl⟩ rfl leadsTo_second (.last ⟨_, rfl, rfl⟩ rfl)
  have hone : l.SentIn cutClient onePage 100 [[⟨"p", "P", ""⟩, ⟨"q", "Q", ""⟩]] :=
    .last ⟨_, rfl, rfl⟩ rfl
  have hexhaustive := resources_exhaustive l ⟨100, []⟩ htwo
  obtain ⟨two, hctwo, hlength, hitems⟩ := hexhaustive.1
  obtain ⟨one, hcone, hlength', -⟩ := (resources_exhaustive l ⟨100, []⟩ hone).1
  refine ⟨two, one, hctwo, hlength, hcone, hlength', ?_, ?_⟩
  · rw [hitems]
    rfl
  · exact hexhaustive.2.2 ⟨100, []⟩ cutClient onePage _ hone rfl two one hctwo hcone

end AccessSync
