import AccessSync.Config.Basic
import AccessSync.Proofs.Text.Segment
import AccessSync.Proofs.Text.Trim

/-!
# Slugs in a list

A list of slugs is written with commas, and may have blanks around every slug and entries with
nothing in them. Reading it takes all of this away: the slugs are what was written, in order.

* `Spells`: the entries that a list of slugs can be written with.
* `readList_eq_iff`: what is read from a list.
* `readList_joinWith`: reading what was written.
-/

namespace AccessSync.Config

open Text (isBlankText joinWith segments trim)

/-- A slug is something without a comma in it and without blanks around it. -/
structure IsSlug (s : String) : Prop where
  ne_empty : s ≠ ""
  no_comma : ',' ∉ s.toList
  trimmed : trim s = s

/-- Entries that spell slugs: each slug has its entry, with blanks around it, and the other entries
are blank. -/
inductive Spells : List String → List String → Prop
  | nil : Spells [] []
  | slug {before slug after : String} {slugs entries : List String} (hslug : IsSlug slug)
      (hbefore : isBlankText before) (hafter : isBlankText after) (hrest : Spells slugs entries) :
      Spells (slug :: slugs) ((before ++ slug ++ after) :: entries)
  | blank {entry : String} {slugs entries : List String} (hentry : isBlankText entry)
      (hrest : Spells slugs entries) : Spells slugs (entry :: entries)

variable {slugs entries : List String} {s : String}

theorem no_comma_of_blank (h : isBlankText s = true) : ',' ∉ s.toList := by
  intro hmem
  have hcomma : Text.isBlank ',' = true := Text.isBlankText_iff.1 h ',' hmem
  exact absurd hcomma (by decide)

theorem Spells.no_comma (h : Spells slugs entries) : ∀ entry ∈ entries, ',' ∉ entry.toList := by
  induction h with
  | nil => exact fun entry hentry => absurd hentry List.not_mem_nil
  | slug hslug hbefore hafter _ ih =>
    rw [List.forall_mem_cons]
    refine ⟨?_, ih⟩
    rw [String.toList_append, String.toList_append, List.mem_append, List.mem_append]
    rintro ((hmem | hmem) | hmem)
    · exact no_comma_of_blank hbefore hmem
    · exact hslug.no_comma hmem
    · exact no_comma_of_blank hafter hmem
  | blank hentry _ ih =>
    -- a comma is no blank
    rw [List.forall_mem_cons]
    exact ⟨no_comma_of_blank hentry, ih⟩

/-- The entries that are left when blanks are taken away are the slugs. -/
theorem Spells.eq_slugs (h : Spells slugs entries) :
    (entries.map trim).filter (fun entry => entry ≠ "") = slugs := by
  induction h with
  | nil => rfl
  | slug hslug hbefore hafter _ ih =>
    have htrim := (Text.trim_pad hbefore hafter).trans hslug.trimmed
    rw [List.map_cons, htrim, List.filter_cons_of_pos (by simpa using hslug.ne_empty), ih]
  | blank hentry _ ih =>
    have htrim := Text.trim_eq_empty_iff.2 hentry
    rw [List.map_cons, htrim, List.filter_cons_of_neg (by simp), ih]

/-- Entries without commas spell what is left of them. -/
theorem spells_of_no_comma (h : ∀ entry ∈ entries, ',' ∉ entry.toList) :
    Spells ((entries.map trim).filter fun entry => entry ≠ "") entries := by
  induction entries with
  | nil => exact .nil
  | cons entry rest ih =>
    rw [List.forall_mem_cons] at h
    have hrest := ih h.2
    rw [List.map_cons]
    by_cases hblank : trim entry = ""
    · rw [List.filter_cons_of_neg (by simpa using hblank)]
      exact .blank (Text.trim_eq_empty_iff.1 hblank) hrest
    · rw [List.filter_cons_of_pos (by simpa using hblank)]
      obtain ⟨before, after, hbefore, hafter, hentry⟩ := Text.exists_pad entry
      have hslug : IsSlug (trim entry) :=
        ⟨hblank, fun hmem => h.1 (Text.mem_of_mem_trim hmem), Text.trim_trim entry⟩
      have hspells := Spells.slug hslug hbefore hafter hrest
      rwa [← hentry] at hspells

/-- **What is read from a list** are the slugs that its entries spell. -/
theorem readList_eq_iff : readList s = slugs ↔ Spells slugs (segments ',' s) := by
  constructor
  · rintro rfl
    exact spells_of_no_comma fun entry hentry => Text.not_mem_of_mem_segments hentry
  · exact Spells.eq_slugs

/-- **Reading what was written**: the slugs, whatever blanks and blank entries stand between. -/
theorem readList_joinWith (h : Spells slugs entries) : readList (joinWith "," entries) = slugs := by
  cases entries with
  | nil =>
    cases h
    rfl
  | cons entry rest =>
    have hsegments : segments ',' (joinWith "," (entry :: rest)) = entry :: rest :=
      Text.segments_joinWith_separator (List.cons_ne_nil _ _) h.no_comma
    rw [readList_eq_iff, hsegments]
    exact h

example : readList " acme,, my widgets ,\t" = ["acme", "my widgets"] := by decide

/-- Nothing is read from a blank list. -/
theorem readList_of_blank (h : isBlankText s = true) : readList s = [] := by
  rw [readList_eq_iff, Text.segments_of_not_mem (no_comma_of_blank h)]
  exact .blank h .nil

end AccessSync.Config
