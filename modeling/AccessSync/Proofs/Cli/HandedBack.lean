import AccessSync.Cli.Run
import AccessSync.Proofs.Catalog.Vocabulary
import AccessSync.Proofs.Grants.Enumeration
import AccessSync.Proofs.Grants.Listed

/-!
# Listed grants handed back

A grant that was listed is handed back to the command line as two texts: the identifier of its
entitlement and the reference to its principal. Both are read back, so that the command that revokes
works on the grant that was listed. The repositories of a project are listed as principals too, and
no command takes them as such.

* `readPrincipal_text`: principals read back.
* `listed_grant_handed_back`: such a grant handed back.
-/

namespace AccessSync

open Plan (AnyReply yields_stateT_bind_ok)

/-! ## The principals of listed grants -/

/-- Users, groups and repositories are all that can hold anything. -/
theorem Kind.of_mem_grantableTo {k holder : Kind} {slug : String}
    (h : holder ∈ k.grantableTo slug) :
    holder = .user ∨ holder = .userGroup ∨ holder = .repository := by
  unfold grantableTo at h
  split at h
  · have hholder : holder = .user ∨ holder = .userGroup := by simpa using h
    exact hholder.imp_right Or.inl
  · cases k <;> simp at h <;> simp [h.2]

namespace Cli

/-! ## Reading principals -/

/-- **A reference to a principal** is read back. -/
theorem readPrincipal_text {id : ResourceId} (hkind : id.kind.isPrincipal) (hkey : id.key ≠ "") :
    readPrincipal id.text = .ok id := by
  unfold readPrincipal
  rw [ResourceId.read_text hkey]
  exact if_pos hkind

/-- What is no principal cannot be referred to as one. -/
theorem readPrincipal_of_not_isPrincipal {id : ResourceId} (hkind : id.kind.isPrincipal = false) :
    ∃ p, readPrincipal id.text = .error p := by
  unfold readPrincipal
  by_cases hkey : id.key = ""
  · -- there is nothing after the colon
    have hcut : Text.cut ':' id.text = some (id.kind.name, id.key) :=
      Text.cut_colon id.kind.isSegment_name.2 _
    have hread : ResourceId.read id.text =
        .error (.invalidArgument s!"invalid resource reference: {id.text}") := by
      unfold ResourceId.read
      rw [hcut]
      exact if_pos hkey
    rw [hread]
    exact ⟨_, rfl⟩
  · rw [ResourceId.read_text hkey]
    simp only [hkind]
    exact ⟨_, rfl⟩

/-! ## Handing back -/

/-- **A listed grant can be handed back.** On a well-formed resource, the principal of a grant to a
user or a group is read back from its reference, and resource and slug from the identifier of the
entitlement; they make the grant again, and it is what the command that revokes works on. A grant to
a repository, the only other kind of principal there is, names no principal for a command. -/
theorem listed_grant_handed_back (c : Connector) (scope : Scope) {resource : ResourceId}
    (hr : resource.IsWellFormed) {token : String} {seen seen' : FirstSeen} {page : Page Grant}
    (h : ((c.listGrants scope resource token).run seen).Yields AnyReply (.ok page, seen'))
    {g : Grant} (hg : g ∈ page.items) :
    (g.principal.kind = .user ∨ g.principal.kind = .userGroup →
      g.principal.key ≠ "" →
        readPrincipal g.principal.text = .ok g.principal ∧
        readEntitlementId g.entitlementId = .ok (g.resource, g.slug) ∧
        Grant.of g.resource g.slug g.principal = g ∧
        ∀ limit, (Command.revoke ⟨g.entitlementId, g.principal.text⟩).job limit =
          .ok (revokeJob g limit)) ∧
    (g.principal.kind = .repository → ∃ p, readPrincipal g.principal.text = .error p) ∧
    (g.principal.kind = .user ∨ g.principal.kind = .userGroup ∨
      g.principal.kind = .repository) := by
  have hlisted : g.IsListed resource.kind resource := by
    obtain ⟨_, between, -, h⟩ := yields_stateT_bind_ok h
    exact isListed_of_listGrants h g hg
  have hslug : Text.IsSegment g.slug :=
    Kind.isSegment_of_isKnownSlug (Kind.isKnownSlug_of_mem_grantableTo hlisted.holder)
  have hresource : g.resource = resource := by
    rw [hlisted.made]
    rfl
  have hid : g.entitlementId = entitlementId g.resource g.slug := by
    rw [hlisted.made]
    rfl
  refine ⟨fun hkind hkey => ?_, fun hkind => ?_, Kind.of_mem_grantableTo hlisted.holder⟩
  · have hprincipal : readPrincipal g.principal.text = .ok g.principal := by
      refine readPrincipal_text ?_ hkey
      rcases hkind with hkind | hkind <;> rw [hkind] <;> rfl
    have hentitlement : readEntitlementId g.entitlementId = .ok (g.resource, g.slug) := by
      rw [hid]
      exact readEntitlementId_entitlementId (hresource ▸ hr) hslug
    have hmade : Grant.of g.resource g.slug g.principal = g := by
      rw [hresource]
      exact hlisted.made.symm
    refine ⟨hprincipal, hentitlement, hmade, fun limit => ?_⟩
    unfold Command.job
    dsimp only
    rw [hprincipal, hentitlement]
    exact congrArg (fun g => Except.ok (revokeJob g limit)) hmade
  · refine readPrincipal_of_not_isPrincipal ?_
    rw [hkind]
    rfl

/-- The role of a group on a repository can be handed back; a repository of a project is listed, and
cannot be. -/
theorem listed_grant_handed_back_sample :
    let role := Grant.of ⟨.repository, "w:p:P:r1"⟩ "write" ⟨.userGroup, "w:g"⟩
    let assignment := Grant.of ⟨.project, "w:p:P"⟩ repositorySlug ⟨.repository, "w:p:P:r1"⟩
    (readPrincipal "user_group:w:g" = .ok role.principal ∧
      readEntitlementId "repository:w:p:P:r1:write" = .ok (role.resource, "write") ∧
      Grant.of role.resource "write" role.principal = role ∧
      ∀ limit, (Command.revoke ⟨"repository:w:p:P:r1:write", "user_group:w:g"⟩).job limit =
        .ok (revokeJob role limit)) ∧
    ∃ p, readPrincipal assignment.principal.text = .error p := by
  intro role assignment
  have hrepository : ResourceId.IsWellFormed ⟨.repository, "w:p:P:r1"⟩ :=
    ⟨["w", "p", "P", "r1"], rfl, by decide, rfl⟩
  have hproject : ResourceId.IsWellFormed ⟨.project, "w:p:P"⟩ :=
    ⟨["w", "p", "P"], rfl, by decide, rfl⟩
  have hroles : ∃ page seen, ((Connector.listGrants ⟨100, []⟩ (.workspace "w")
      ⟨.repository, "w:p:P:r1"⟩ "").run .empty).result sampleServer = .ok (.ok page, seen) ∧
      page.items = [role] := ⟨_, _, rfl, rfl⟩
  have hassignments : ∃ page seen, ((Connector.listGrants ⟨100, []⟩ (.workspace "w")
      ⟨.project, "w:p:P"⟩ "").run .empty).result sampleServer = .ok (.ok page, seen) ∧
      page.items = [assignment] := ⟨_, _, rfl, rfl⟩
  constructor
  · obtain ⟨page, seen, hpage, hitems⟩ := hroles
    have hmem : role ∈ page.items := by
      rw [hitems]
      exact List.mem_singleton_self role
    have hyields := Plan.yields_any_of_result hpage
    exact (listed_grant_handed_back ⟨100, []⟩ (.workspace "w") hrepository hyields hmem).1 (.inr rfl)
      (by decide)
  · obtain ⟨page, seen, hpage, hitems⟩ := hassignments
    have hmem : assignment ∈ page.items := by
      rw [hitems]
      exact List.mem_singleton_self assignment
    have hyields := Plan.yields_any_of_result hpage
    exact (listed_grant_handed_back ⟨100, []⟩ (.workspace "w") hproject hyields hmem).2.1 rfl

end Cli

end AccessSync
