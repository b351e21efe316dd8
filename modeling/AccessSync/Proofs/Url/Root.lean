import AccessSync.Proofs.Url.Base

/-!
# URLs that can be a base

A URL can be a base when a slash follows its scheme, as one does for every special scheme. What was
read from a text is laid out in one of three ways, and a slash follows the scheme in those whose
path has segments; these are the ones that segments can be added to.

* `layout_of_read`: the three layouts.
* `isRooted_iff_of_layout`: the URLs that can be a base have segments for their path.
* `extend?_isSome_iff`: segments can be added to these and to no others.
-/

namespace AccessSync.Url

variable {u : Url} {s scheme : String} {cs : List Char}

/-- The URL can be a base: a slash follows its scheme. -/
def IsRooted (u : Url) : Prop := ∃ rest, u.text = u.scheme ++ ":/" ++ rest

/-- How a URL that was read is laid out. -/
inductive Layout (u : Url) : Prop
  | hosted {host : Host} {parts : List String} (hhost : u.host = some host)
      (hpath : u.path = .segments parts)
  | unhosted {first : String} {rest : List String} (hhost : u.host = none)
      (hpath : u.path = .segments (first :: rest))
  | rootless {text : String} (hscheme : u.isSpecial = false) (hhost : u.host = none)
      (hpath : u.path = .rootless text) (hstart : text.toList.head? ≠ some '/')

/-! ## Layouts of what was read -/

theorem splitAtSlashes_ne_nil (sep : Char → Bool) (cs : List Char) :
    splitAtSlashes sep cs ≠ [] := by
  induction cs with
  | nil => simp [splitAtSlashes]
  | cons c cs ih =>
    unfold splitAtSlashes
    split
    · simp
    · split <;> simp

/-- The last segment is always kept, as an empty one if it is dots. -/
theorem addSegments_ne_nil {file : Bool} {set : Char → Bool} {done : List String}
    {segments : List (List Char)} (h : segments ≠ []) :
    addSegments file set done segments ≠ [] := by
  induction segments generalizing done with
  | nil => exact absurd rfl h
  | cons segment rest ih =>
    cases rest with
    | nil =>
      unfold addSegments addSegment
      split
      · simp
      split
      · simp
      split <;> simp
    | cons next more => exact ih (List.cons_ne_nil next more)

theorem trimFront_ne_nil {file : Bool} {parts : List String} (h : parts ≠ []) :
    trimFront file parts ≠ [] := by
  unfold trimFront
  cases file with
  | false => exact h
  | true =>
    rw [if_pos rfl]
    split
    · simp
    · assumption

theorem readSegments_ne_nil (special file : Bool) (cs : List Char) :
    readSegments special file cs ≠ [] :=
  trimFront_ne_nil (addSegments_ne_nil (splitAtSlashes_ne_nil _ cs))

theorem encodeChar_ne_nil (c : Char) : Text.encodeChar c ≠ [] := by
  unfold Text.encodeChar
  dsimp only
  split
  · simp
  split
  · simp
  split <;> simp

/-- No slash is written for anything else. -/
theorem head?_percentEncode {set : Char → Bool}
    (h : (percentEncode set cs).head? = some '/') : cs.head? = some '/' := by
  cases cs with
  | nil => exact h
  | cons c rest =>
    have hcons : percentEncode set (c :: rest) = percentChar set c ++ percentEncode set rest := rfl
    rw [hcons] at h
    unfold percentChar at h
    split at h
    · obtain ⟨b, bytes, hbytes⟩ := List.exists_cons_of_ne_nil (encodeChar_ne_nil c)
      rw [hbytes] at h
      cases h
    · exact h

theorem layout_of_readOther (hscheme : isSpecialScheme scheme = false)
    (h : readOther scheme cs = .ok u) : u.Layout := by
  have hspecial : u.isSpecial = false := by
    unfold isSpecial
    rw [scheme_of_readOther h]
    exact hscheme
  unfold readOther at h
  -- two slashes, one, or none after the scheme
  split at h
  · obtain ⟨-, ⟨host, hhost⟩, parts, hpath⟩ := of_readWithAuthority h
    exact .hosted hhost hpath
  · rename_i tail hslashes
    have hsegments : ∃ first rest, u.path = .segments (first :: rest) := by
      cases h
      obtain ⟨first, rest, hparts⟩ := List.exists_cons_of_ne_nil (readSegments_ne_nil
        (isSpecialScheme scheme) (scheme == "file") (tail.takeWhile fun c => !endsPath c))
      exact ⟨first, rest, congrArg Path.segments hparts⟩
    obtain ⟨first, rest, hpath⟩ := hsegments
    cases h
    exact .unhosted rfl hpath
  · rename_i hslashes hslash
    cases h
    refine .rootless hspecial rfl rfl fun hhead => ?_
    rw [String.toList_ofList] at hhead
    have hstart := head?_percentEncode hhead
    rw [List.head?_takeWhile] at hstart
    obtain ⟨tail, rfl⟩ := List.head?_eq_some_iff.1 (Option.filter_eq_some_iff.1 hstart).1
    exact hslash tail rfl

/-- **What was read is laid out in one of three ways.** -/
theorem layout_of_read (h : read s = .ok u) : u.Layout := by
  unfold read at h
  split at h
  · cases h
  split at h
  · obtain ⟨-, ⟨host, hhost⟩, parts, hpath⟩ := of_readFile h
    exact .hosted hhost hpath
  split at h
  · obtain ⟨-, ⟨host, hhost⟩, parts, hpath⟩ := of_readWithAuthority h
    exact .hosted hhost hpath
  · rename_i hspecial
    exact layout_of_readOther (Bool.eq_false_iff.2 hspecial) h

/-! ## What follows the scheme -/

/-- The text after the colon of the scheme. -/
def afterScheme (u : Url) : String := u.authorityText ++ u.pathText ++ u.queryText ++ u.fragmentText

theorem text_eq_afterScheme (u : Url) : u.text = u.scheme ++ ":" ++ u.afterScheme := by
  unfold text afterScheme
  simp only [String.append_assoc]

theorem isRooted_iff_head? : u.IsRooted ↔ u.afterScheme.toList.head? = some '/' := by
  have hslash : ":/".toList = ":".toList ++ ['/'] := by decide
  unfold IsRooted
  rw [List.head?_eq_some_iff]
  constructor
  · rintro ⟨rest, h⟩
    refine ⟨rest.toList, ?_⟩
    rw [text_eq_afterScheme, ← String.toList_inj] at h
    simpa [String.toList_append, hslash] using h
  · rintro ⟨rest, h⟩
    refine ⟨String.ofList rest, ?_⟩
    rw [text_eq_afterScheme, ← String.toList_inj]
    simp [String.toList_append, hslash, h]

theorem queryText_fragmentText_head? (u : Url) :
    (u.queryText.toList ++ u.fragmentText.toList).head? ≠ some '/' := by
  unfold queryText fragmentText
  cases u.query <;> cases u.fragment <;> simp [String.toList_append]

theorem authorityText_of_no_host (h : u.host = none) :
    u.authorityText = "/." ∨ u.authorityText = "" := by
  unfold authorityText
  rw [h]
  dsimp only
  split
  · exact .inl rfl
  · exact .inr rfl

/-- **The URLs that can be a base** have segments for their path. -/
theorem isRooted_iff_of_layout (h : u.Layout) :
    u.IsRooted ↔ ∃ parts, u.path = .segments parts := by
  rw [isRooted_iff_head?]
  unfold afterScheme pathText
  simp only [String.toList_append, List.append_assoc]
  cases h with
  | hosted hhost hpath =>
    have hauthority : u.authorityText.toList.head? = some '/' := by
      unfold authorityText
      rw [hhost]
      simp [String.toList_append]
    simp [List.head?_append, hauthority, hpath]
  | unhosted hhost hpath =>
    rw [hpath]
    rcases authorityText_of_no_host hhost with hauthority | hauthority <;> rw [hauthority] <;>
      simp [String.toList_append, Path.text, segmentsText]
  | rootless hscheme hhost hpath hstart =>
    rename_i text
    have hauthority : u.authorityText = "" := by
      unfold authorityText
      rw [hhost, hpath]
    have hend := queryText_fragmentText_head? u
    rw [hauthority, hpath]
    cases htext : text.toList with
    | nil => simpa [Path.text, htext] using hend
    | cons c rest => simpa [Path.text, htext] using hstart

/-- A special scheme is followed by a slash. -/
theorem isRooted_of_isSpecial (h : u.Layout) (hspecial : u.isSpecial) : u.IsRooted := by
  rw [isRooted_iff_of_layout h]
  cases h with
  | hosted hhost hpath => exact ⟨_, hpath⟩
  | unhosted hhost hpath => exact ⟨_, hpath⟩
  | rootless hscheme hhost hpath hstart =>
    rw [hscheme] at hspecial
    cases hspecial

/-- **Segments can be added to the URLs that can be a base**, and to no others. -/
theorem extend?_isSome_iff (h : u.Layout) (added : List String) :
    (u.extend? added).isSome ↔ u.IsRooted := by
  rw [isRooted_iff_of_layout h]
  unfold extend?
  cases u.path <;> simp

end AccessSync.Url
