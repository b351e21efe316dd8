import AccessSync.Text.Segment

/-!
# Cutting what was joined

A separator cuts what stands before it from what stands after it, so segments without the separator
are found again when they were joined by it, and a text that was cut is joined again. A part that
holds a separator itself comes apart, and then there are more segments than parts.

* `segments_append_separator`: a separator between two texts.
* `segments_joinWith_separator`: cutting what was joined.
* `joinWith_segments`: joining what was cut.
* `segments_eq_iff`: the segments of a text.
* `cut_eq_some_iff`: a text cut at its first colon.
-/

namespace AccessSync.Text

theorem splitChars_of_not_mem {sep : Char} {cs : List Char} (h : sep ∉ cs) :
    splitChars sep cs = [cs] := by
  induction cs with
  | nil => rfl
  | cons c rest ih =>
    rw [List.mem_cons, not_or] at h
    rw [splitChars, if_neg (Ne.symm h.1), ih h.2]

/-- A separator cuts what stands before it from what stands after it. -/
theorem splitChars_append_cons (sep : Char) (cs rest : List Char) :
    splitChars sep (cs ++ sep :: rest) = splitChars sep cs ++ splitChars sep rest := by
  induction cs with
  | nil => exact if_pos rfl
  | cons c more ih =>
    rw [List.cons_append, splitChars, splitChars, ih]
    by_cases hc : c = sep
    · rw [if_pos hc, if_pos hc, List.cons_append]
    · rw [if_neg hc, if_neg hc]
      -- the character joins the first run, and there is always one
      cases hruns : splitChars sep more with
      | nil => exact absurd hruns (splitChars_ne_nil sep more)
      | cons run runs => rfl

theorem cutChars_append {sep : Char} {cs : List Char} (h : sep ∉ cs) (rest : List Char) :
    cutChars sep (cs ++ sep :: rest) = some (cs, rest) := by
  induction cs with
  | nil => exact if_pos rfl
  | cons c more ih =>
    rw [List.mem_cons, not_or] at h
    rw [List.cons_append, cutChars, if_neg (Ne.symm h.1), ih h.2]
    rfl

/-- A cut tells what stands before the first separator and what stands after it. -/
theorem eq_of_cutChars {sep : Char} {cs before after : List Char}
    (h : cutChars sep cs = some (before, after)) : cs = before ++ sep :: after ∧ sep ∉ before := by
  induction cs generalizing before with
  | nil => cases h
  | cons c rest ih =>
    unfold cutChars at h
    split at h
    · rename_i hc
      cases h
      exact ⟨by rw [hc]; rfl, List.not_mem_nil⟩
    · rename_i hc
      obtain ⟨⟨more, _⟩, hmore, heq⟩ := Option.map_eq_some_iff.1 h
      cases heq
      obtain ⟨rfl, hsep⟩ := ih hmore
      refine ⟨rfl, ?_⟩
      rw [List.mem_cons, not_or]
      exact ⟨Ne.symm hc, hsep⟩

/-! ## Separators -/

theorem toList_separator (sep : Char) (s rest : String) :
    (s ++ String.singleton sep ++ rest).toList = s.toList ++ sep :: rest.toList := by
  rw [String.toList_append, String.toList_append, List.append_assoc]
  simp

theorem segments_of_not_mem {sep : Char} {s : String} (h : sep ∉ s.toList) :
    segments sep s = [s] := by
  unfold segments
  rw [splitChars_of_not_mem h, List.map_singleton, String.ofList_toList]

/-- **A separator** cuts the segments before it from those after it. -/
theorem segments_append_separator (sep : Char) (s rest : String) :
    segments sep (s ++ String.singleton sep ++ rest) = segments sep s ++ segments sep rest := by
  unfold segments
  rw [toList_separator, splitChars_append_cons, List.map_append]

/-- What was joined by a separator is cut at every separator, those inside the parts as well. -/
theorem segments_joinWith_separator_eq_flatMap (sep : Char) {parts : List String}
    (hne : parts ≠ []) :
    segments sep (joinWith (String.singleton sep) parts) = parts.flatMap (segments sep) := by
  induction parts with
  | nil => exact absurd rfl hne
  | cons s rest ih =>
    cases rest with
    | nil => exact (List.flatMap_singleton (segments sep) s).symm
    | cons next more =>
      have hjoin : joinWith (String.singleton sep) (s :: next :: more) =
          s ++ String.singleton sep ++ joinWith (String.singleton sep) (next :: more) := rfl
      rw [hjoin, segments_append_separator, ih (List.cons_ne_nil _ _)]
      rfl

/-- **Cutting what was joined** by a separator gives the parts, if none of them holds one. -/
theorem segments_joinWith_separator {sep : Char} {parts : List String} (hne : parts ≠ [])
    (h : ∀ part ∈ parts, sep ∉ part.toList) :
    segments sep (joinWith (String.singleton sep) parts) = parts := by
  have hwhole : parts.map (segments sep) = parts.map fun part => [part] :=
    List.map_congr_left fun part hpart => segments_of_not_mem (h part hpart)
  rw [segments_joinWith_separator_eq_flatMap sep hne, List.flatMap_def, hwhole, ← List.flatMap_def,
    List.flatMap_singleton']

/-! ## Colons -/

theorem toList_colon (s rest : String) :
    (s ++ ":" ++ rest).toList = s.toList ++ ':' :: rest.toList := toList_separator ':' s rest

theorem segments_append_colon (s rest : String) :
    segments ':' (s ++ ":" ++ rest) = segments ':' s ++ segments ':' rest :=
  segments_append_separator ':' s rest

/-- What stands before the first colon is cut from everything after it. -/
theorem cut_colon {s : String} (h : ':' ∉ s.toList) (rest : String) :
    cut ':' (s ++ ":" ++ rest) = some (s, rest) := by
  unfold cut
  rw [toList_colon, cutChars_append h]
  simp

/-- **A cut** is the one way to make a text of what stands before its first colon and of what stands
after it. -/
theorem cut_eq_some_iff {s before after : String} :
    cut ':' s = some (before, after) ↔ s = before ++ ":" ++ after ∧ ':' ∉ before.toList := by
  constructor
  · intro h
    obtain ⟨⟨chars, more⟩, hcut, heq⟩ := Option.map_eq_some_iff.1 h
    cases heq
    obtain ⟨hs, hbefore⟩ := eq_of_cutChars hcut
    rw [← String.toList_inj, toList_colon, String.toList_ofList, String.toList_ofList]
    exact ⟨hs, hbefore⟩
  · rintro ⟨rfl, h⟩
    exact cut_colon h after

theorem joinWith_eq_intercalate (sep : String) (parts : List String) :
    joinWith sep parts = sep.intercalate parts := by
  induction parts with
  | nil => rfl
  | cons s rest ih =>
    cases rest with
    | nil => exact String.intercalate_singleton.symm
    | cons next more =>
      rw [String.intercalate_cons_cons, ← ih]
      rfl

theorem joinWith_cons_cons (s next : String) (more : List String) :
    joinWith ":" (s :: next :: more) = s ++ ":" ++ joinWith ":" (next :: more) := rfl

theorem joinWith_concat {parts : List String} (hne : parts ≠ []) (last : String) :
    joinWith ":" (parts ++ [last]) = joinWith ":" parts ++ ":" ++ last := by
  induction parts with
  | nil => exact absurd rfl hne
  | cons s rest ih =>
    cases rest with
    | nil => rfl
    | cons next more =>
      rw [List.cons_append, List.cons_append, joinWith_cons_cons, ← List.cons_append,
        ih (List.cons_ne_nil _ _), joinWith_cons_cons]
      simp only [String.append_assoc]

theorem segments_joinWith_eq_flatMap {parts : List String} (hne : parts ≠ []) :
    segments ':' (joinWith ":" parts) = parts.flatMap (segments ':') :=
  segments_joinWith_separator_eq_flatMap ':' hne

theorem segments_joinWith {parts : List String} (hne : parts ≠ [])
    (h : ∀ part ∈ parts, ':' ∉ part.toList) : segments ':' (joinWith ":" parts) = parts :=
  segments_joinWith_separator hne h

/-! ## Joining what was cut -/

theorem intercalate_splitChars (sep : Char) (cs : List Char) :
    List.intercalate [sep] (splitChars sep cs) = cs := by
  induction cs with
  | nil => rfl
  | cons c rest ih =>
    unfold splitChars
    cases hsplit : splitChars sep rest with
    | nil => exact absurd hsplit (splitChars_ne_nil sep rest)
    | cons run runs =>
      rw [hsplit] at ih
      split
      · rename_i hc
        rw [List.intercalate_cons_cons, ih, hc]
        rfl
      · cases runs with
        | nil => simpa using ih
        | cons next more =>
          rw [List.intercalate_cons_cons] at ih ⊢
          simpa using ih

/-- Segments are joined again by what separated them. -/
theorem intercalate_segments (s : String) :
    List.intercalate [':'] ((segments ':' s).map String.toList) = s.toList := by
  have hmap : (segments ':' s).map String.toList = splitChars ':' s.toList := by
    simp [segments, Function.comp_def]
  rw [hmap, intercalate_splitChars]

theorem toList_joinWith (parts : List String) :
    (joinWith ":" parts).toList = List.intercalate [':'] (parts.map String.toList) := by
  induction parts with
  | nil => rfl
  | cons s rest ih =>
    cases rest with
    | nil => simp [joinWith]
    | cons next more =>
      rw [joinWith_cons_cons, toList_colon, ih]
      simp [List.intercalate_cons_cons]

theorem joinWith_segments (s : String) : joinWith ":" (segments ':' s) = s := by
  rw [← String.toList_inj, toList_joinWith, intercalate_segments]

/-- Texts with the same segments are the same. -/
theorem segments_injective {s s' : String} (h : segments ':' s = segments ':' s') : s = s' := by
  rw [← joinWith_segments s, h, joinWith_segments]

/-! ## Segments as such -/

theorem segments_ne_nil (sep : Char) (s : String) : segments sep s ≠ [] := by
  unfold segments
  simp [splitChars_ne_nil]

theorem not_mem_of_mem_splitChars {sep : Char} {cs run : List Char} (h : run ∈ splitChars sep cs) :
    sep ∉ run := by
  induction cs generalizing run with
  | nil =>
    obtain rfl := List.mem_singleton.1 h
    exact List.not_mem_nil
  | cons c rest ih =>
    unfold splitChars at h
    split at h
    · rcases List.mem_cons.1 h with rfl | h
      · exact List.not_mem_nil
      · exact ih h
    · rename_i hc
      cases hsplit : splitChars sep rest with
      | nil => exact absurd hsplit (splitChars_ne_nil sep rest)
      | cons first runs =>
        rw [hsplit] at h ih
        rcases List.mem_cons.1 h with rfl | h
        · have hfirst : sep ∉ first := ih List.mem_cons_self
          simp [Ne.symm hc, hfirst]
        · exact ih (List.mem_cons_of_mem _ h)

/-- No segment holds the separator. -/
theorem not_mem_of_mem_segments {sep : Char} {s part : String} (h : part ∈ segments sep s) :
    sep ∉ part.toList := by
  obtain ⟨run, hrun, rfl⟩ := List.mem_map.1 h
  rw [String.toList_ofList]
  exact not_mem_of_mem_splitChars hrun

/-- **The segments of a text** are the one way to make it of parts without a colon. -/
theorem segments_eq_iff {s : String} {parts : List String} (hne : parts ≠ []) :
    segments ':' s = parts ↔ s = joinWith ":" parts ∧ ∀ part ∈ parts, ':' ∉ part.toList := by
  constructor
  · rintro rfl
    exact ⟨(joinWith_segments s).symm, fun part hpart => not_mem_of_mem_segments hpart⟩
  · rintro ⟨rfl, hparts⟩
    exact segments_joinWith hne hparts

/-- A segment at least comes of each part. -/
theorem length_le_length_flatMap_segments (parts : List String) :
    parts.length ≤ (parts.flatMap (segments ':')).length := by
  induction parts with
  | nil => exact Nat.le_refl _
  | cons s rest ih =>
    have hfirst : 0 < (segments ':' s).length := List.length_pos_iff.2 (segments_ne_nil ':' s)
    rw [List.flatMap_cons, List.length_append, List.length_cons]
    omega

/-- **When no more segments come out than parts went in**, no part has a colon. -/
theorem not_mem_of_length_segments {parts : List String}
    (h : (parts.flatMap (segments ':')).length = parts.length) :
    ∀ part ∈ parts, ':' ∉ part.toList := by
  induction parts with
  | nil => exact fun part hpart => absurd hpart List.not_mem_nil
  | cons s rest ih =>
    have hfirst : 0 < (segments ':' s).length := List.length_pos_iff.2 (segments_ne_nil ':' s)
    have hrest := length_le_length_flatMap_segments rest
    rw [List.flatMap_cons, List.length_append, List.length_cons] at h
    intro part hpart
    rcases List.mem_cons.1 hpart with rfl | hpart
    · -- the only segment of a part is the part itself
      have hone : (segments ':' part).length = 1 := by omega
      obtain ⟨only, honly⟩ := List.length_eq_one_iff.1 hone
      have hpart : part = only := ((segments_eq_iff (List.cons_ne_nil _ _)).1 honly).1
      have hmem : part ∈ segments ':' part := by
        rw [honly, hpart]
        exact List.mem_singleton_self only
      exact not_mem_of_mem_segments hmem
    · exact ih (by omega) part hpart

end AccessSync.Text
