import AccessSync.Proofs.Catalog.Listing
import AccessSync.Proofs.Catalog.Vocabulary
import AccessSync.Proofs.Grants.Listed
import AccessSync.Proofs.Notes
import AccessSync.Sync.Walk

/-!
# What records rest on

A record names things that other records tell of: a resource its parent, an entitlement its
resource, a grant both its resource and its entitlement. A walk tells of them first, whatever the
server replies, and however early the walk ends.

* `Record.RestsOn`: what must have been told before a record.
* `listedAs_of_listKind`: the parents of listed resources.
* `Resource.offers_of_grantableTo`: the entitlement of a listed grant.
* `leaves_visit`, `leaves_drain`: one visit, and a queue of lists.
* `leaves_walk`: the whole walk.
-/

namespace AccessSync

open Plan (AnyReply yields_exceptT_bind_ok)

/-! ## Resources as they are listed -/

/-- A resource as it is listed: it is of the kind, and unless it is a workspace it has the parent
that it is listed below. -/
structure Resource.ListedAs (r : Resource) (kind : Kind) (parent : Option ResourceId) : Prop where
  ofKind : r.id.kind = kind
  below : kind ≠ .workspace → ∃ p, parent = some p ∧ r.parent = some p

section
variable {pageSize : UInt32} {scope : Scope} {kind : Kind} {parent : Option ResourceId}

/-- The resources of a page of a list, when each record of the server is made one. -/
theorem forall_of_listPage {α : Type} {P : Resource → Prop} {made : α → Resource}
    (hmade : ∀ record, P (made record)) {token : String} {ask : String → Operation (Page α)}
    {page : Page Resource}
    (h : (listPage kind token fun cursor => do
      let page ← ask cursor
      return ⟨page.items.map made, page.next⟩).run.Yields AnyReply (.ok page)) :
    ∀ r ∈ page.items, P r := by
  intro r hr
  obtain ⟨cursor, found, -, hitems⟩ := exists_of_listPage h
  rw [hitems] at hr
  obtain ⟨record, -, rfl⟩ := List.mem_map.1 hr
  exact hmade record

theorem listedAs_of_listWorkspaces {token : String} {page : Page Resource}
    (h : (listWorkspaces pageSize scope token).run.Yields AnyReply (.ok page)) :
    ∀ r ∈ page.items, r.ListedAs .workspace parent := by
  have hworkspace : ∀ w : Api.Workspace, w.resource.ListedAs .workspace parent :=
    fun w => ⟨rfl, fun h => absurd rfl h⟩
  unfold listWorkspaces at h
  cases scope with
  | workspace id =>
    obtain ⟨w, -, h⟩ := yields_exceptT_bind_ok h
    cases h
    intro r hr
    obtain rfl := List.mem_singleton.1 hr
    exact hworkspace w
  | user user ids =>
    obtain ⟨cursor, found, -, hitems⟩ := exists_of_listPage
      (f := fun items : List Api.Workspace =>
        (items.filter fun w => (Scope.user user ids).contains w.uuid).map (·.resource)) h
    intro r hr
    rw [hitems] at hr
    obtain ⟨w, -, rfl⟩ := List.mem_map.1 hr
    exact hworkspace w

/-- **The resources of a page** are of the kind that was asked for, and lie below the parent that
was named, whatever the server replies. -/
theorem listedAs_of_listKind {token : String} {page : Page Resource}
    (h : (listKind pageSize scope kind parent token).run.Yields AnyReply (.ok page)) :
    ∀ r ∈ page.items, r.ListedAs kind parent := by
  have parentOf_eq {k : Kind} {p : ResourceId} (hp : parentOf k parent = some p) :
      parent = some p := (Option.filter_eq_some_iff.1 hp).1
  have nothing {k : Kind}
      (h : (pure .empty : Operation (Page Resource)).run.Yields AnyReply (.ok page)) :
      ∀ r ∈ page.items, r.ListedAs k parent := by
    cases h
    intro r hr
    exact absurd hr List.not_mem_nil
  unfold listKind at h
  cases kind with
  | workspace => exact listedAs_of_listWorkspaces h
  | user =>
    dsimp only at h
    cases hp : parentOf .workspace parent with
    | none => rw [hp] at h; exact nothing h
    | some p =>
      rw [hp] at h
      exact forall_of_listPage (fun _ => ⟨rfl, fun _ => ⟨p, parentOf_eq hp, rfl⟩⟩) h
  | userGroup =>
    dsimp only at h
    cases hp : parentOf .workspace parent with
    | none => rw [hp] at h; exact nothing h
    | some p =>
      rw [hp] at h
      obtain ⟨groups, -, h⟩ := yields_exceptT_bind_ok h
      cases h
      intro r hr
      obtain ⟨g, -, rfl⟩ := List.mem_map.1 hr
      exact ⟨rfl, fun _ => ⟨p, parentOf_eq hp, rfl⟩⟩
  | project =>
    dsimp only at h
    cases hp : parentOf .workspace parent with
    | none => rw [hp] at h; exact nothing h
    | some p =>
      rw [hp] at h
      exact forall_of_listPage (fun _ => ⟨rfl, fun _ => ⟨p, parentOf_eq hp, rfl⟩⟩) h
  | repository =>
    dsimp only at h
    cases hp : parentOf .project parent with
    | none => rw [hp] at h; exact nothing h
    | some p =>
      rw [hp] at h
      obtain ⟨project, -, h⟩ := yields_exceptT_bind_ok h
      exact forall_of_listPage (fun _ => ⟨rfl, fun _ => ⟨p, parentOf_eq hp, rfl⟩⟩) h

theorem listedAs_of_listResources {c : Connector} {token : String} {page : Page Resource}
    (h : (c.listResources scope kind parent token).run.Yields AnyReply (.ok page)) :
    ∀ r ∈ page.items, r.ListedAs kind parent := by
  unfold Connector.listResources at h
  cases parent with
  | none => exact listedAs_of_listKind h
  | some p =>
    obtain ⟨_, -, h⟩ := yields_exceptT_bind_ok h
    exact listedAs_of_listKind h

end

/-! ## The entitlements of listed grants -/

namespace Resource

/-- The resource offers the entitlement `slug`, and resources of the kind can hold it. -/
def Offers (r : Resource) (slug : String) (holder : Kind) : Prop :=
  ∃ e ∈ r.entitlements, e.resource = r.id ∧ e.id = entitlementId r.id slug ∧ e.slug = slug ∧
    holder ∈ e.grantableTo

/-- **Whatever can be held on a resource**, the resource offers. -/
theorem offers_of_grantableTo {r : Resource} {slug : String} {holder : Kind}
    (h : holder ∈ r.id.kind.grantableTo slug) : r.Offers slug holder := by
  have hknown := Kind.isKnownSlug_of_mem_grantableTo h
  obtain ⟨e, he, rfl⟩ := exists_mem_entitlements_iff.2 hknown
  have hof := isOf_of_mem_entitlements he
  exact ⟨e, he, hof.resource_eq, hof.id_eq, rfl, hof.grantableTo_eq ▸ h⟩

end Resource

namespace Sync

/-! ## Records one after the other -/

/-- There is a record of a resource with this identifier among the records. -/
def HasResource (records : List Record) (id : ResourceId) : Prop :=
  ∃ r, .resource r ∈ records ∧ r.id = id

/-- **What a record rests on** has been told before it: the parent of a resource, unless it is a
workspace; the resource of an entitlement; the resource of a grant, and the entitlement that it is
a grant of, which its principal can hold. -/
def Record.RestsOn (before : List Record) : Record → Prop
  | .resource r => r.id.kind ≠ .workspace → ∃ p, r.parent = some p ∧ HasResource before p
  | .entitlement e => HasResource before e.resource
  | .grant g => HasResource before g.resource ∧
      ∃ e, .entitlement e ∈ before ∧ e.resource = g.resource ∧ e.id = g.entitlementId ∧
        e.slug = g.slug ∧ g.principal.kind ∈ e.grantableTo

/-- The record that a note tells, if it tells one. -/
def Note.record? : Note → Option Record
  | .record r => some r
  | .event _ => none

/-- The records among the notes of a walk. -/
def recordStream : Stream Note Record Record where
  said? := Note.record?
  say := id
  mayFollow := Record.RestsOn

theorem HasResource.mono {records more : List Record} {id : ResourceId}
    (h : HasResource records id) (hmore : records <+: more) : HasResource more id := by
  obtain ⟨r, hr, hid⟩ := h
  exact ⟨r, hmore.subset hr, hid⟩

theorem Record.RestsOn.mono {records more : List Record} {r : Record} (h : r.RestsOn records)
    (hmore : records <+: more) : r.RestsOn more := by
  cases r with
  | resource r =>
    intro hkind
    obtain ⟨p, hp, hparent⟩ := h hkind
    exact ⟨p, hp, hparent.mono hmore⟩
  | entitlement e => exact HasResource.mono h hmore
  | grant g =>
    obtain ⟨hresource, e, he, hgrants⟩ := h
    exact ⟨hresource.mono hmore, e, hmore.subset he, hgrants⟩

namespace Walk

variable {α β : Type} {before : List Record} {post post' : α → List Record → Prop}

/-- After the records before, the work tells others that rest on what was told by then, whatever has
been seen; if it comes to a result, then `post` holds of it and of all records. -/
def Leaves (x : Walk α) (before : List Record) (post : α → List Record → Prop) : Prop :=
  ∀ seen, (x.run seen).Leaves recordStream (fun out after => ∀ a, out.1 = .ok a → post a after)
    before

theorem leaves_pure {a : α} (h : post a before) : (pure a : Walk α).Leaves before post := by
  intro seen b hb
  cases hb
  exact h

theorem Leaves.mono {x : Walk α} (h : x.Leaves before post)
    (hpost : ∀ a after, post a after → post' a after) : x.Leaves before post' :=
  fun seen => (h seen).mono fun _ after hout a ha => hpost a after (hout a ha)

/-- What was told before stays told. -/
theorem Leaves.after {x : Walk α} (h : x.Leaves before post) :
    x.Leaves before fun a after => before <+: after ∧ post a after :=
  fun seen => (h seen).after.mono fun _ _ hout a ha => ⟨hout.1, hout.2 a ha⟩

/-- **One piece of work after the other.** -/
theorem Leaves.bind {x : Walk α} (hx : x.Leaves before post) {f : α → Walk β}
    {last : β → List Record → Prop}
    (hf : ∀ a after, before <+: after → post a after → (f a).Leaves after last) :
    (x >>= f).Leaves before last := by
  intro seen
  rw [Plan.run_stateT_bind]
  refine (hx seen).bind ?_
  rintro ⟨r, seen'⟩ after hafter hpost
  cases r with
  | ok a => exact hf a after hafter (hpost a rfl) seen'
  | error e =>
    intro b hb
    cases hb

theorem leaves_emit {r : Record} (h : r.RestsOn before) :
    (Walk.emit r).Leaves before fun _ after => after = before ++ [r] := by
  intro seen
  show ∃ k, k = r ∧ k.RestsOn before ∧
    ∀ a : Unit, Except.ok () = (Except.ok a : Except Failure Unit) → before ++ [k] = before ++ [r]
  exact ⟨r, rfl, h, fun _ _ => rfl⟩

/-- Records that rest on what was told before them all. -/
theorem leaves_forM_emit (record : α → Record) {items : List α}
    (h : ∀ a ∈ items, ∀ after, before <+: after → (record a).RestsOn after) :
    (items.forM fun a => Walk.emit (record a)).Leaves before
      fun _ after => ∀ a ∈ items, record a ∈ after := by
  induction items generalizing before with
  | nil => exact leaves_pure fun a ha => absurd ha List.not_mem_nil
  | cons a rest ih =>
    refine (leaves_emit (h a List.mem_cons_self before List.prefix_rfl)).bind ?_
    rintro _ after hafter rfl
    have hrest := ih fun b hb later hlater =>
      h b (List.mem_cons_of_mem _ hb) later (hafter.trans hlater)
    refine hrest.after.mono fun _ later hlater b hb => ?_
    rcases List.mem_cons.1 hb with rfl | hb
    · exact hlater.1.subset (List.mem_append_right _ (List.mem_singleton_self _))
    · exact hlater.2 b hb

/-- An enumeration tells no records of its own. -/
theorem leaves_ofEnumeration (work : Enumeration α) (before : List Record) :
    (Walk.ofEnumeration work).Leaves before
      fun a _ => ∃ seen seen', (work.run seen).Yields AnyReply (.ok a, seen') := by
  intro seen
  have hsilent : ∀ e, recordStream.said? (Note.event e) = none := fun _ => rfl
  refine (Plan.leaves_mapNotes hsilent (work.run seen) before).mono ?_
  rintro ⟨r, seen'⟩ after ⟨-, hyields⟩ a rfl
  exact ⟨seen, seen', hyields⟩

theorem leaves_ofOperation (work : Operation α) (before : List Record) :
    (Walk.ofOperation work).Leaves before fun a _ => work.run.Yields AnyReply (.ok a) := by
  refine (leaves_ofEnumeration (.ofOperation work) before).mono ?_
  rintro a - ⟨seen, seen', h⟩
  exact Enumeration.yields_of_ofOperation h

/-- **A step that is repeated** keeps what holds of each state, and ends with what holds of each
result. -/
theorem leaves_repeatUpTo {σ : Type} {step : σ → Walk (σ ⊕ α)} (inv : σ → Prop) {good : α → Prop}
    (h : ∀ state after, before <+: after → inv state →
      (step state).Leaves after fun out _ => out.elim inv good)
    (n : Nat) {state : σ} (hstate : inv state) :
    (repeatUpTo Walk.endless step n state).Leaves before fun a _ => good a := by
  suffices hall : ∀ after, before <+: after →
      (repeatUpTo Walk.endless step n state).Leaves after fun a _ => good a from
    hall before List.prefix_rfl
  induction n generalizing state with
  | zero => exact fun after _ seen => trivial
  | succ n ih =>
    intro after hafter
    refine (h state after hafter hstate).bind ?_
    intro out later hlater hout
    cases out with
    | inl next => exact ih hout later (hafter.trans hlater)
    | inr a => exact leaves_pure hout

end Walk

namespace Task

variable (t : Task) {before : List Record}

/-! ## The walk -/

/-- A list is made without a record. -/
theorem leaves_listAll (kind : Kind) (parent : Option ResourceId) (before : List Record) :
    (t.listAll kind parent).Leaves before fun found _ => ∀ r ∈ found, r.ListedAs kind parent := by
  refine Walk.leaves_repeatUpTo (fun s => ∀ r ∈ s.1, r.ListedAs kind parent) ?_ t.limit ?_
  · rintro ⟨done, token⟩ after - hdone
    refine (Walk.leaves_ofOperation _ after).bind ?_
    intro page later _ hpage
    have hitems := listedAs_of_listResources hpage
    have hfound : ∀ r ∈ done ++ page.items, r.ListedAs kind parent := by
      intro r hr
      rcases List.mem_append.1 hr with hr | hr
      · exact hdone r hr
      · exact hitems r hr
    split
    · exact Walk.leaves_pure hfound
    · exact Walk.leaves_pure hfound
  · intro r hr
    exact absurd hr List.not_mem_nil

/-- The records of grants on a resource rest on the records of the resource and of what it
offers. -/
theorem leaves_emitGrants {r : Resource} (hr : HasResource before r.id)
    (hoffers : ∀ e ∈ r.entitlements, .entitlement e ∈ before) :
    (t.emitGrants r.id).Leaves before fun _ _ => True := by
  refine Walk.leaves_repeatUpTo (fun _ => True) ?_ t.limit trivial
  rintro ⟨count, token⟩ after hafter -
  refine (Walk.leaves_ofEnumeration _ after).bind ?_
  rintro page after' hafter' ⟨seen, seen', hpage⟩
  have hlisted : ∀ g ∈ page.items, g.IsListed r.id.kind r.id := by
    obtain ⟨_, between, -, hlist⟩ := Plan.yields_stateT_bind_ok hpage
    exact isListed_of_listGrants hlist
  have hrests : ∀ g ∈ page.items, ∀ later, after' <+: later → (Record.grant g).RestsOn later := by
    intro g hg later hlater
    have hall : before <+: later := (hafter.trans hafter').trans hlater
    obtain ⟨e, he, hresource, hid, hslug, hholder⟩ :=
      Resource.offers_of_grantableTo (hlisted g hg).holder
    have hmade : g.resource = r.id ∧ g.entitlementId = entitlementId r.id g.slug := by
      rw [(hlisted g hg).made]
      exact ⟨rfl, rfl⟩
    refine ⟨hmade.1 ▸ hr.mono hall, e, hall.subset (hoffers e he), ?_, ?_, hslug, hholder⟩
    · rw [hresource, hmade.1]
    · rw [hid, hmade.2]
  refine (Walk.leaves_forM_emit Record.grant hrests).bind ?_
  intro _ later _ _
  split
  · exact Walk.leaves_pure trivial
  · exact Walk.leaves_pure trivial

/-- **A visit** to a resource that rests on what was told tells of the resource first, then of what
rests on it. -/
theorem leaves_visit {r : Resource} (h : (Record.resource r).RestsOn before) :
    (t.visit r).Leaves before fun _ after => HasResource after r.id := by
  refine (Walk.leaves_emit h).bind ?_
  rintro _ after - rfl
  have hr : HasResource (before ++ [.resource r]) r.id :=
    ⟨r, List.mem_append_right _ (List.mem_singleton_self _), rfl⟩
  have hentitlements : ∀ e ∈ r.entitlements, ∀ later, before ++ [.resource r] <+: later →
      (Record.entitlement e).RestsOn later := by
    intro e he later hlater
    show HasResource later e.resource
    rw [(Resource.isOf_of_mem_entitlements he).resource_eq]
    exact hr.mono hlater
  refine (Walk.leaves_forM_emit Record.entitlement hentitlements).bind ?_
  intro _ after hafter hoffers
  have htold : ∀ later, after <+: later → HasResource later r.id :=
    fun later hlater => hr.mono (hafter.trans hlater)
  split
  · refine (t.leaves_emitGrants (hr.mono hafter) hoffers).bind ?_
    exact fun _ later hlater _ => Walk.leaves_pure (htold later hlater)
  · exact Walk.leaves_pure (htold after List.prefix_rfl)

theorem leaves_visitAll {resources : List Resource}
    (h : ∀ r ∈ resources, (Record.resource r).RestsOn before) :
    (t.visitAll resources).Leaves before fun _ after =>
      ∀ r ∈ resources, HasResource after r.id := by
  induction resources generalizing before with
  | nil => exact Walk.leaves_pure fun r hr => absurd hr List.not_mem_nil
  | cons first rest ih =>
    refine (t.leaves_visit (h first List.mem_cons_self)).bind ?_
    intro _ after hafter hfirst
    have hrest := ih fun r hr => (h r (List.mem_cons_of_mem _ hr)).mono hafter
    refine hrest.after.bind ?_
    rintro _ later - ⟨hlater, hall⟩
    refine Walk.leaves_pure fun r hr => ?_
    rcases List.mem_cons.1 hr with rfl | hr
    · exact hfirst.mono hlater
    · exact hall r hr

/-- **A queue of lists** tells records that rest on what was told before, as long as the parents in
the queue have been told. The lists that are added to the queue lie below what has been told. -/
theorem leaves_drain {entries : List Entry}
    (h : ∀ entry ∈ entries, ∀ p, entry.2 = some p → HasResource before p) :
    (t.drain entries).Leaves before fun _ _ => True := by
  induction entries using Task.drain.induct generalizing before with
  | case1 =>
    rw [drain]
    exact Walk.leaves_pure trivial
  | case2 kind parent rest ih =>
    rw [drain]
    refine (t.leaves_listAll kind parent before).bind ?_
    intro found after hafter hfound
    have hparent : ∀ p, parent = some p → HasResource after p :=
      fun p hp => (h (kind, parent) List.mem_cons_self p hp).mono hafter
    have hrests : ∀ r ∈ found, (Record.resource r).RestsOn after := by
      intro r hr hkind
      obtain ⟨hofKind, hbelow⟩ := hfound r hr
      obtain ⟨p, hp, hrp⟩ := hbelow (hofKind ▸ hkind)
      exact ⟨p, hrp, hparent p hp⟩
    refine (t.leaves_visitAll hrests).bind ?_
    intro visits later hlater hvisited
    have hqueue : ∀ entry ∈ rest ++ found.flatMap (entriesBelow kind), ∀ p, entry.2 = some p →
        HasResource later p := by
      intro entry hentry p hp
      rcases List.mem_append.1 hentry with hentry | hentry
      · exact (h entry (List.mem_cons_of_mem _ hentry) p hp).mono (hafter.trans hlater)
      · obtain ⟨r, hr, hbelow⟩ := List.mem_flatMap.1 hentry
        obtain ⟨child, -, rfl⟩ := List.mem_map.1 hbelow
        obtain rfl := Option.some.inj hp
        exact hvisited r hr
    refine (ih found hqueue).bind ?_
    intro _ _ _ _
    exact Walk.leaves_pure trivial

/-- **The whole walk** tells records each of which rests on those before it. -/
theorem leaves_walk : t.walk.Leaves [] fun _ _ => True := by
  apply leaves_drain
  intro entry hentry p hp
  obtain rfl := List.mem_singleton.1 hentry
  cases hp

end Task

end Sync

end AccessSync
