import AccessSync.Proofs.Grants.FirstSeen
import AccessSync.Proofs.Grants.Phase
import AccessSync.Proofs.Grants.Place

/-!
# Grants as they are listed

Whatever the server replies, and whatever has been seen before, each grant on a page is a grant on
the resource that was asked about, and its principal can hold the entitlement.

* `Enumeration.mem_of_keepNew`: nothing is added to a page.
* `isListed_of_listGrants`: the grants on a page.
-/

namespace AccessSync

open Plan (AnyReply yields_stateT_bind_ok)

section
variable {pageSize : UInt32} {resource : ResourceId} {seen seen' : FirstSeen}

namespace Enumeration

/-- Nothing is added to a page. -/
theorem mem_of_keepNew {phase : Kind} {position : String} {grants kept : List Grant}
    (h : ((keepNew phase position grants).run seen).Yields AnyReply (.ok kept, seen')) :
    ∀ g ∈ kept, g ∈ grants := by
  intro g hg
  unfold keepNew at h
  split at h
  · cases h
    exact hg
  · have hkept : (seen.retainNew position grants).1 = kept := by
      cases h
      rfl
    rw [← hkept, FirstSeen.retainNew_fst] at hg
    have hfirst : g ∈ firstOf (without [] grants) := by
      rw [without_nil]
      exact (List.mem_filter.1 hg).1
    exact (mem_of_mem_firstOf hfirst).1

theorem yields_of_ofOperation {α : Type} {x : Operation α} {a : α}
    (h : ((Enumeration.ofOperation x).run seen).Yields AnyReply (.ok a, seen')) :
    x.run.Yields AnyReply (.ok a) := by
  rw [run_ofOperation, Plan.yields_bind] at h
  obtain ⟨r, hr, h⟩ := h
  cases h
  exact hr

end Enumeration

theorem isListed_of_duePage {holding : Holding} {due : Option (Kind × PageStack)} {page : Page Grant}
    (h : ((duePage pageSize resource holding due).run seen).Yields AnyReply (.ok page, seen')) :
    ∀ g ∈ page.items, g.IsListed holding.kind resource := by
  cases due with
  | none =>
    cases h
    intro g hg
    exact absurd hg List.not_mem_nil
  | some due =>
    obtain ⟨found, between, hfound, h⟩ := yields_stateT_bind_ok h
    obtain ⟨kept, after, hkept, h⟩ := yields_stateT_bind_ok h
    cases h
    intro g hg
    have hmem : g ∈ found.items := Enumeration.mem_of_keepNew hkept g hg
    have hpage := Enumeration.yields_of_ofOperation hfound
    exact emits_phasePage due.1 due.2.cursor found hpage g hmem

theorem isListed_of_listPhased {holding : Holding} {token : String} {page : Page Grant}
    (h : ((listPhased pageSize resource holding token).run seen).Yields AnyReply
      (.ok page, seen')) :
    ∀ g ∈ page.items, g.IsListed holding.kind resource := by
  have hrest {stack : PageStack} {seen : FirstSeen}
      (h : ((Enumeration.ofExcept (holding.kind.currentPhase stack) >>=
        duePage pageSize resource holding).run seen).Yields AnyReply (.ok page, seen')) :
      ∀ g ∈ page.items, g.IsListed holding.kind resource := by
    obtain ⟨due, between, -, h⟩ := yields_stateT_bind_ok h
    exact isListed_of_duePage h
  unfold listPhased at h
  obtain ⟨stack, between, -, h⟩ := yields_stateT_bind_ok h
  -- a clean record at the start makes no difference here
  split at h
  · obtain ⟨_, cleaned, -, h⟩ := yields_stateT_bind_ok h
    exact hrest h
  · exact hrest h

/-- **The grants of a page** are as they are listed on the resource, whatever the server replies. -/
theorem isListed_of_listGrants {token : String} {page : Page Grant}
    (h : ((listGrants pageSize resource token).run seen).Yields AnyReply (.ok page, seen')) :
    ∀ g ∈ page.items, g.IsListed resource.kind resource := by
  unfold listGrants at h
  cases hk : resource.kind with
  | workspace =>
    rw [hk] at h
    have hwork := Enumeration.yields_of_ofOperation h
    obtain ⟨stack, -, hwork⟩ := Plan.yields_exceptT_bind_ok hwork
    obtain ⟨found, hfound, hwork⟩ := Plan.yields_exceptT_bind_ok hwork
    obtain ⟨members, -, hfound⟩ := Plan.yields_exceptT_bind_ok hfound
    cases hwork
    cases hfound
    have huser : Kind.user ∈ Kind.workspace.grantableTo memberSlug := by decide
    exact fun g hg => isListed_memberGrants huser hg
  | userGroup =>
    rw [hk] at h
    have hwork := Enumeration.yields_of_ofOperation h
    obtain ⟨group, -, hwork⟩ := Plan.yields_exceptT_bind_ok hwork
    obtain ⟨members, -, hwork⟩ := Plan.yields_exceptT_bind_ok hwork
    cases hwork
    have huser : Kind.user ∈ Kind.userGroup.grantableTo memberSlug := by decide
    exact fun g hg => isListed_memberGrants huser hg
  | project =>
    rw [hk] at h
    obtain ⟨id, between, -, h⟩ := yields_stateT_bind_ok h
    exact isListed_of_listPhased h
  | repository =>
    rw [hk] at h
    obtain ⟨id, between, -, h⟩ := yields_stateT_bind_ok h
    exact isListed_of_listPhased h
  | user =>
    rw [hk] at h
    cases h
    intro g hg
    exact absurd hg List.not_mem_nil

end

end AccessSync
