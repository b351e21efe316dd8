import AccessSync.Proofs.Course
import AccessSync.Proofs.Url.Base
import AccessSync.Proofs.Url.Segment

/-!
# Where requests lie

A request lies where the arguments of its endpoint tell, between the fixed words of the endpoint,
if all arguments are whole as segments of a path. Requests for different arguments then have
different addresses. An argument that is not whole leads elsewhere.

* `Endpoint.located`: the arguments that tell where an endpoint lies.
* `request_addresses`: the address of a request.
-/

namespace AccessSync

namespace Api

/-- The arguments that tell where a permission table lies. -/
def Target.located : Target → List String
  | .project workspace key => [workspace, key]
  | .repository workspace slug => [workspace, slug]

namespace Endpoint

/-- The arguments that tell where an endpoint lies, in order. -/
def located : Endpoint → List String
  | .currentUser | .workspaces .. => []
  | .workspace w | .members w .. | .projects w .. | .repositories w .. | .groups w => [w]
  | .groupMembers g => [g.workspace, g.slug]
  | .addMember g user | .removeMember g user => [g.workspace, g.slug, user]
  | .roles target .. => target.located
  | .role target _ holder | .setRole target _ holder _ | .dropRole target _ holder =>
    target.located ++ [holder]

/-- The project whose repositories are listed; it is told by a filter. -/
def project? : Endpoint → Option String
  | .repositories _ project .. => some project
  | _ => none

/-- All arguments that tell where the endpoint lies are whole as segments of a path. -/
def IsWhole (e : Endpoint) : Prop := ∀ a ∈ e.located, Url.IsWhole a

instance (e : Endpoint) : Decidable e.IsWhole := inferInstanceAs (Decidable (∀ _ ∈ _, _))

/-- The arguments among the segments of an endpoint, by the places that they have. -/
def argumentsIn : List String → List String
  | "workspaces" :: w :: "projects" :: key :: _ :: _ :: holder => w :: key :: holder
  | "repositories" :: w :: slug :: _ :: _ :: holder => w :: slug :: holder
  | "groups" :: w :: slug :: _ :: user => w :: slug :: user
  | _ :: w :: _ => [w]
  | _ => []

theorem argumentsIn_path (e : Endpoint) : argumentsIn e.path = e.located := by
  cases e with
  | roles target side => cases target <;> rfl
  | role target side => cases target <;> rfl
  | setRole target side => cases target <;> rfl
  | dropRole target side => cases target <;> rfl
  | _ => rfl

/-- The segments begin with a fixed word, and all of them are whole when the arguments are. -/
def Fits (segments arguments : List String) : Prop :=
  ∃ first rest, segments = first :: rest ∧ first ≠ "" ∧ Url.IsWhole first ∧
    ((∀ s ∈ rest, Url.IsWhole s) ↔ ∀ a ∈ arguments, Url.IsWhole a)

/-- The fixed words behind the first are whole. -/
theorem isWhole_words : Url.IsWhole "members" ∧ Url.IsWhole "projects" ∧
    Url.IsWhole "permissions-config" ∧ Url.IsWhole "groups" ∧ Url.IsWhole "users" := by decide

theorem fits_table (target : Target) (side : Side) (holder : List String) :
    Fits (target.path ++ side.segment :: holder) (target.located ++ holder) := by
  have hside : Url.IsWhole side.segment := by cases side <;> decide
  cases target <;>
    exact ⟨_, _, rfl, by decide, by decide, by simp [Target.located, hside, isWhole_words]⟩

/-- **The fixed words of an endpoint** are whole, so that its arguments decide. -/
theorem fits_path (e : Endpoint) : Fits e.path e.located := by
  cases e with
  | roles target side =>
    rw [← List.append_nil (located _)]
    exact fits_table target side []
  | role target side holder => exact fits_table target side [holder]
  | setRole target side holder => exact fits_table target side [holder]
  | dropRole target side holder => exact fits_table target side [holder]
  | _ => exact ⟨_, _, rfl, by decide, by decide, by simp [located, isWhole_words]⟩

/-- **The segments of an endpoint tell its arguments.** -/
theorem located_of_path {e e' : Endpoint} (h : e.path = e'.path) : e.located = e'.located := by
  rw [← argumentsIn_path, ← argumentsIn_path, h]

end Endpoint

namespace Query

/-- The filter is told by the parameters. -/
theorem lookup_pairs (q : Query) : q.pairs.lookup "q" = q.filter := by
  obtain ⟨length, cursor, filter, fields⟩ := q
  unfold pairs
  cases length <;> cases cursor <;> cases filter <;> cases fields <;> rfl

end Query

namespace Endpoint

theorem inProject_injective {project project' : String} (h : inProject project = inProject project') :
    project = project' := by
  unfold inProject at h
  simpa [String.append_left_inj, String.append_right_inj] using h

theorem filter_query (e : Endpoint) : e.query.filter = e.project?.map inProject := by
  cases e <;> rfl

theorem project_of_filter {e e' : Endpoint} (h : e.query.filter = e'.query.filter) :
    e.project? = e'.project? := by
  rw [filter_query, filter_query] at h
  exact Option.map_injective (fun _ _ => inProject_injective) h

end Endpoint

end Api

namespace Url

variable {u : Url}

/-- Segments are added to a URL of the web one after the other. -/
theorem extend?_eq_addedTo (h : u.IsWeb) (added : List String) : ∃ parts,
    u.stem = keptBase parts ∧
      u.extend? added = some { u with path := .segments (addedTo u.isSpecial parts added) } := by
  obtain ⟨parts, hparts⟩ := segments_of_isWeb h
  have hfile : (u.scheme == "file") = false := by
    rcases h.scheme with hscheme | hscheme <;> rw [hscheme] <;> rfl
  refine ⟨dropEmptyEnd parts, ?_, ?_⟩
  · unfold stem
    rw [hparts]
  · unfold extend?
    rw [hparts, hfile]
    rfl

/-- **Segments that were added are told by the path** when they are whole. -/
theorem added_of_extend? (h : u.IsWeb) {s : String} {rest : List String} (hs : IsWhole s)
    (hne : s ≠ "") {url : Url} (hurl : u.extend? (s :: rest) = some url) :
    (∃ parts, url = { u with path := .segments parts }) ∧
      ((∃ last, url.path = .segments (u.stem ++ last) ∧ last.map segmentText = s :: rest) ↔
        ∀ t ∈ rest, IsWhole t) := by
  obtain ⟨parts, hstem, hextend⟩ := extend?_eq_addedTo h (s :: rest)
  obtain rfl := Option.some.inj (hextend.symm.trans hurl)
  refine ⟨⟨_, rfl⟩, ?_⟩
  rw [← addedTo_faithful_iff u.isSpecial parts hs hne, hstem]
  simp only [Path.segments.injEq]

end Url

namespace Api.Client

variable {c : Client} {e e' : Endpoint} {r r' : Request}

/-- The address of a request is that of the version, except for the path and for parameters. -/
theorem address_of_request (h : c.OnWeb) (hr : c.request e = .ok r) :
    (∃ path query, r.address = { c.baseOf e.version with path, query }) ∧
      r.address.pairs = (c.baseOf e.version).pairs ++ e.query.pairs ∧
      ((∃ last, r.address.path = .segments ((c.baseOf e.version).stem ++ last) ∧
        last.map Url.segmentText = e.path) ↔ e.IsWhole) := by
  obtain ⟨first, rest, hpath, hne, hfirst, hrest⟩ := e.fits_path
  obtain ⟨url, hurl, rfl⟩ := request_eq_ok.1 hr
  rw [hpath] at hurl
  obtain ⟨⟨parts, rfl⟩, htold⟩ := Url.added_of_extend? (isWeb_baseOf h e.version) hfirst hne hurl
  have hwhole : (∀ s ∈ rest, Url.IsWhole s) ↔ e.IsWhole := hrest
  rw [hwhole, ← hpath] at htold
  refine ⟨⟨_, _, rfl⟩, Url.pairs_append _ _, ?_⟩
  -- parameters leave a path of segments as it is
  have haddress := Url.path_append_of_segments
    (u := { c.baseOf e.version with path := .segments parts }) rfl e.query.pairs
  unfold Request.address Query.apply
  dsimp only
  rw [haddress]
  exact htold

/-- **Requests of one version with the same address** are for the same arguments, if these are
whole. -/
theorem arguments_of_address (h : c.OnWeb) (hr : c.request e = .ok r) (hr' : c.request e' = .ok r')
    (hwhole : e.IsWhole) (hwhole' : e'.IsWhole) (hversion : e.version = e'.version)
    (haddress : r.address = r'.address) :
    e.path = e'.path ∧ e.located = e'.located ∧ e.project? = e'.project? := by
  obtain ⟨-, hpairs, htold⟩ := address_of_request h hr
  obtain ⟨-, hpairs', htold'⟩ := address_of_request h hr'
  obtain ⟨last, hlast, hpath⟩ := htold.2 hwhole
  obtain ⟨last', hlast', hpath'⟩ := htold'.2 hwhole'
  rw [haddress, hversion] at hlast hpairs
  have hsame : last = last' :=
    List.append_cancel_left (Url.Path.segments.inj (hlast.symm.trans hlast'))
  have hquery : e.query.pairs = e'.query.pairs :=
    List.append_cancel_left (hpairs.symm.trans hpairs')
  have hfilter : e.query.filter = e'.query.filter := by
    rw [← Query.lookup_pairs, ← Query.lookup_pairs, hquery]
  have heq : e.path = e'.path := by rw [← hpath, ← hpath', hsame]
  exact ⟨heq, Endpoint.located_of_path heq, Endpoint.project_of_filter hfilter⟩

/-- **Where a request lies.** A client on the web has a request for every endpoint. Its path is that
of the version and then the segments of the endpoint, with the arguments in order, exactly when the
arguments are whole; it is then not the request for any other whole arguments. -/
theorem request_addresses (h : c.OnWeb) (e : Endpoint) :
    ∃ r, c.request e = .ok r ∧ r.method = e.method ∧
      (∃ path query, r.address = { c.baseOf e.version with path, query }) ∧
      ((∃ last, r.address.path = .segments ((c.baseOf e.version).stem ++ last) ∧
        last.map Url.segmentText = e.path) ↔ e.IsWhole) ∧
      ∀ e' r', c.request e' = .ok r' → e.IsWhole → e'.IsWhole → e'.version = e.version →
        r'.address = r.address →
          e'.path = e.path ∧ e'.located = e.located ∧ e'.project? = e.project? := by
  obtain ⟨url, -, hr⟩ := request_of_onWeb h e
  obtain ⟨hbase, -, htold⟩ := address_of_request h hr
  refine ⟨_, hr, rfl, hbase, htold, ?_⟩
  intro e' r' hr' hwhole hwhole' hversion haddress
  exact arguments_of_address h hr' hr hwhole' hwhole hversion haddress

/-- A client of a server with both versions of the interface. -/
def webClient : Client where
  base := ⟨"https", "", "", some (.name "h"), none, .segments ["2.0"], none, none⟩
  firstBase := ⟨"https", "", "", some (.name "h"), none, .segments ["1.0", ""], none, none⟩
  pageSize := 50

theorem onWeb_webClient : webClient.OnWeb where
  base := ⟨⟨"https://h/2.0", rfl⟩, .inr rfl⟩
  firstBase := ⟨⟨"https://h/1.0/", rfl⟩, .inr rfl⟩

/-- Slashes, percent signs and dots among other characters are kept. -/
theorem request_addresses_sample :
    ∃ r, webClient.request (.removeMember ⟨"w", "%2e%2e"⟩ "../é") = .ok r ∧ r.method = .delete ∧
      ∃ last, r.address.path = .segments (["1.0"] ++ last) ∧
        last.map Url.segmentText = ["groups", "w", "%2e%2e", "members", "../é"] := by
  have hwhole : (Endpoint.removeMember ⟨"w", "%2e%2e"⟩ "../é").IsWhole := by decide
  obtain ⟨r, hr, hmethod, -, htold, -⟩ := request_addresses onWeb_webClient
    (.removeMember ⟨"w", "%2e%2e"⟩ "../é")
  exact ⟨r, hr, hmethod, htold.2 hwhole⟩

/-- **A removal for dots** is sent to the table that holds the entries of all users, and one for a
user whose name has a tab is sent to the entry of another user. -/
theorem removal_addresses_others :
    webClient.request (.dropRole (.project "w" "P") .users "..") =
        .ok ⟨.delete, { webClient.base with path := .segments ["2.0", "workspaces", "w", "projects",
          "P", "permissions-config", "users"] }, .bare, none⟩ ∧
      webClient.request (.dropRole (.project "w" "P") .users "a\tb") =
        webClient.request (.dropRole (.project "w" "P") .users "ab") :=
  ⟨rfl, rfl⟩

end Api.Client

end AccessSync
