import AccessSync.Api.Client

/-!
# URLs that requests can be made from

Requests lie below the two URLs of a client. A URL that was read from a text has segments for its
path, unless its scheme is one without slashes, and segments can be added to segments.

* `extend?_of_isWeb`: any segments can be added to an `http` or `https` URL.
* `Api.Client.request_of_onWeb`: a client on such URLs has a request for every endpoint.
-/

namespace AccessSync

namespace Url

/-- The URL stands for a text, with a scheme of the web. -/
structure IsWeb (u : Url) : Prop where
  read : ∃ s, Url.read s = .ok u
  scheme : u.scheme = "http" ∨ u.scheme = "https"

variable {u : Url} {scheme : String} {cs : List Char}

theorem of_readWithAuthority (h : readWithAuthority scheme cs = .ok u) :
    u.scheme = scheme ∧ (∃ host, u.host = some host) ∧ ∃ parts, u.path = .segments parts := by
  unfold readWithAuthority at h
  dsimp only at h
  split at h
  · cases h
  · cases hauthority : readAuthority scheme
        (cs.takeWhile fun c => !endsAuthority (isSpecialScheme scheme) c) with
    | error e => rw [hauthority] at h; cases h
    | ok authority =>
      rw [hauthority] at h
      cases h
      exact ⟨rfl, ⟨_, rfl⟩, _, rfl⟩

theorem of_readFile (h : readFile cs = .ok u) :
    u.scheme = "file" ∧ (∃ host, u.host = some host) ∧ ∃ parts, u.path = .segments parts := by
  have hat (host : Host) (path : List Char) :
      let url := withPath "file" (some ⟨"", "", host, none, []⟩) path
      let url := if url.path.startsAtDrive then { url with host := some (.name "") } else url
      url.scheme = "file" ∧ (∃ host, url.host = some host) ∧
        ∃ parts, url.path = .segments parts := by
    dsimp only
    split <;> exact ⟨rfl, ⟨_, rfl⟩, _, rfl⟩
  unfold readFile at h
  dsimp only at h
  split at h
  · split at h
    · split at h
      · cases h; exact hat _ _
      · rename_i a b rest hslashes hdrive
        cases hhost : readFileHost (rest.takeWhile fun c => !endsAuthority true c) with
        | error e => rw [hhost] at h; cases h
        | ok host => rw [hhost] at h; cases h; exact hat _ _
    · cases h; exact hat _ _
  · cases h; exact hat _ _

theorem scheme_of_readOther (h : readOther scheme cs = .ok u) : u.scheme = scheme := by
  unfold readOther at h
  split at h
  · exact (of_readWithAuthority h).1
  · cases h; rfl
  · cases h; rfl

/-- **A URL of the web has segments for its path.** -/
theorem segments_of_isWeb (h : u.IsWeb) : ∃ parts, u.path = .segments parts := by
  obtain ⟨⟨s, hread⟩, hscheme⟩ := h
  -- a special scheme other than that of files is always read with an authority
  have hspecial : isSpecialScheme u.scheme = true ∧ u.scheme ≠ "file" := by
    rcases hscheme with hscheme | hscheme <;> rw [hscheme] <;> exact ⟨rfl, by decide⟩
  unfold read at hread
  split at hread
  · cases hread
  · split at hread
    · exact absurd (of_readFile hread).1 hspecial.2
    · split at hread
      · exact (of_readWithAuthority hread).2.2
      · rename_i scheme rest _ _ hother
        rw [scheme_of_readOther hread] at hspecial
        exact absurd hspecial.1 hother

/-- **Any segments can be added** to a URL of the web. -/
theorem extend?_of_isWeb (h : u.IsWeb) (added : List String) :
    ∃ url, u.extend? added = some url := by
  obtain ⟨parts, hparts⟩ := segments_of_isWeb h
  unfold extend?
  rw [hparts]
  exact ⟨_, rfl⟩

end Url

namespace Api.Client

/-- Both versions of the interface lie on the web. -/
structure OnWeb (c : Client) : Prop where
  base : c.base.IsWeb
  firstBase : c.firstBase.IsWeb

theorem isWeb_baseOf {c : Client} (h : c.OnWeb) (v : Version) : (c.baseOf v).IsWeb := by
  cases v with
  | first => exact h.firstBase
  | second => exact h.base

/-- **A client on the web has a request for every endpoint.** -/
theorem request_of_onWeb {c : Client} (h : c.OnWeb) (e : Endpoint) :
    ∃ url, (c.baseOf e.version).extend? e.path = some url ∧
      c.request e = .ok { method := e.method, url, query := e.query, body := e.body } := by
  obtain ⟨url, hurl⟩ := Url.extend?_of_isWeb (isWeb_baseOf h e.version) e.path
  refine ⟨url, hurl, ?_⟩
  unfold request place
  dsimp only
  rw [hurl]
  rfl

end Api.Client

end AccessSync
