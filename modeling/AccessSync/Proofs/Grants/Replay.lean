import AccessSync.Proofs.Grants.Enumeration

/-!
# Calls in any order

A caller may ask for a page again, in any order, and requests may fail at any time. As long as every
token was returned by an earlier call, a call that fails leaves no trace, and a call that succeeds
returns the page that its token gives straight through.

* `Attempts`: calls with tokens that earlier ones returned, any of which may fail.
* `replay_after_failures`: what they return.
-/

namespace AccessSync

/-- A call with its token, and how it ended. -/
structure Attempt where
  token : String
  result : Except Failure (Page Grant)

/-- The calls of an enumeration that starts with a success and goes on with tokens returned by
earlier calls, in any order and any number of times, when the server may let any request fail; and
what has been seen then. -/
inductive Attempts (s : Server) (list : String → Enumeration (Page Grant)) (seen₀ : FirstSeen) :
    List Attempt → FirstSeen → Prop
  | start {page : Page Grant} {seen : FirstSeen}
      (call : ((list "").run seen₀).Yields s.mayFail (.ok page, seen)) :
      Attempts s list seen₀ [⟨"", .ok page⟩] seen
  | next {attempts : List Attempt} {seen seen' : FirstSeen} {earlier : String} {page : Page Grant}
      {result : Except Failure (Page Grant)} (before : Attempts s list seen₀ attempts seen)
      (returned : ⟨earlier, .ok page⟩ ∈ attempts) (goes : page.next ≠ "")
      (call : ((list page.next).run seen).Yields s.mayFail (result, seen')) :
      Attempts s list seen₀ (attempts ++ [⟨page.next, result⟩]) seen'

section
variable {s : Server} {pageSize : UInt32} {resource : ResourceId} {holding : Holding}
variable {trail others : List Served} {due due' : Option Place} {seen₀ seen seen' : FirstSeen}

/-! ## There is one trail -/

theorem Trail.due_last {v : Served} (h : Trail s pageSize resource holding trail due)
    (ht : trail = others ++ [v]) : due = v.place.after v.page.next := by
  cases h with
  | start => simp at ht
  | next before found =>
    obtain ⟨-, hv⟩ := List.append_inj' ht rfl
    obtain rfl := (List.cons.inj hv).1
    rfl

/-- An element of a list is its last one, or lies before the last one. -/
theorem append_singleton_split {α : Type} {front before after : List α} {last a : α}
    (h : front ++ [last] = before ++ a :: after) :
    (front = before ∧ last = a ∧ after = []) ∨
      ∃ rest, after = rest ++ [last] ∧ front = before ++ a :: rest := by
  rcases List.eq_nil_or_concat after with rfl | ⟨rest, b, rfl⟩
  · obtain ⟨hfront, hlast⟩ := List.append_inj' h rfl
    exact .inl ⟨hfront, (List.cons.inj hlast).1, rfl⟩
  · rw [List.concat_eq_append, ← List.cons_append, ← List.append_assoc] at h
    obtain ⟨hfront, hlast⟩ := List.append_inj' h rfl
    obtain rfl := (List.cons.inj hlast).1
    exact .inr ⟨rest, List.concat_eq_append, hfront⟩

/-- The trail that leads to a visit, and what the server has there. -/
theorem Trail.split (h : Trail s pageSize resource holding trail due) {before after : List Served}
    {v : Served} (ht : trail = before ++ v :: after) :
    Trail s pageSize resource holding before (some v.place) ∧
      FoundAt s pageSize resource holding v.place v.page := by
  induction h generalizing before v after with
  | start => simp at ht
  | @next trail p page hbefore found ih =>
    rcases append_singleton_split ht with ⟨rfl, rfl, rfl⟩ | ⟨rest, -, hfront⟩
    · exact ⟨hbefore, found⟩
    · exact ih hfront

/-- A visit on a trail follows the one before. -/
theorem Trail.after_eq {before after : List Served} {v u : Served}
    (h : Trail s pageSize resource holding (before ++ v :: u :: after) due) :
    v.place.after v.page.next = some u.place := by
  have hsplit : before ++ v :: u :: after = (before ++ [v]) ++ u :: after := by simp
  exact ((h.split hsplit).1.due_last rfl).symm

theorem FoundAt.unique {p : Place} {page page' : Page Grant}
    (h : FoundAt s pageSize resource holding p page)
    (h' : FoundAt s pageSize resource holding p page') : page = page' := by
  unfold FoundAt at h h'
  rw [h] at h'
  cases h'
  rfl

/-- **There is one trail**, gone more or less far. -/
theorem Trail.comparable (h : Trail s pageSize resource holding trail due)
    (h' : Trail s pageSize resource holding others due') : trail <+: others ∨ others <+: trail := by
  induction h with
  | start => exact .inl List.nil_prefix
  | @next trail p page before found ih =>
    rcases ih with ⟨rest, rfl⟩ | hpre
    · cases rest with
      | nil =>
        rw [List.append_nil]
        exact .inr (List.prefix_append _ _)
      | cons u rest =>
        obtain ⟨htrail, hu⟩ := h'.split rfl
        -- what is due depends on the last visit alone, so both trails go on at the same place
        have hplace : some p = some u.place := by
          rcases List.eq_nil_or_concat trail with rfl | ⟨front, w, rfl⟩
          · rw [before.due_of_nil rfl, htrail.due_of_nil rfl]
          · rw [before.due_last List.concat_eq_append, htrail.due_last List.concat_eq_append]
        obtain rfl := Option.some.inj hplace
        obtain rfl := found.unique hu
        exact .inl ⟨rest, by simp⟩
    · exact .inr (hpre.trans (List.prefix_append _ _))

/-- What a page shows can be told from any trail that it lies on. -/
theorem Served.shown_eq {v : Served} {before after : List Served}
    (ht : trail = before ++ v :: after) :
    v.shown before = ⟨if v.place.phase = .repository then v.page.items
      else (firstOf v.page.items).filter fun g => sighted trail g.key == some v.position,
      Place.tokenOf (v.place.after v.page.next)⟩ := by
  unfold Served.shown
  congr 1
  by_cases hp : v.place.phase = .repository
  · rw [if_pos hp, if_pos hp]
  · rw [if_neg hp, if_neg hp]
    apply List.filter_congr
    intro g hg
    have hkey := (Served.key_mem_keys hp hg).2
    have hsighted : sighted trail g.key = sighted (before ++ [v]) g.key := by
      rw [ht]
      exact sighted_of_mem hkey
    rw [hsighted]

theorem trailCalls_subset {longer : List Served} (h : trail <+: longer) :
    trailCalls trail ⊆ trailCalls longer := by
  obtain ⟨rest, rfl⟩ := h
  unfold trailCalls
  rw [callsFrom_append]
  exact List.subset_append_left _ _

/-- **A token has one page**, even where the lists of the server run in circles. -/
theorem Trail.page_unique (h : Trail s pageSize resource holding trail due) {token : String}
    {page page' : Page Grant} (hp : (token, page) ∈ trailCalls trail)
    (hp' : (token, page') ∈ trailCalls trail) : page = page' := by
  obtain ⟨before, v, after, ht, hv⟩ := mem_trailCalls.1 hp
  obtain ⟨before', v', after', ht', hv'⟩ := mem_trailCalls.1 hp'
  obtain ⟨rfl, rfl⟩ := Prod.mk.inj hv
  obtain ⟨htoken, rfl⟩ := Prod.mk.inj hv'
  -- the empty token asks for the first visit alone, any other token for its place
  have hsame : v = v' := by
    unfold Served.tokenAfter at htoken
    by_cases hb : before = []
    · by_cases hb' : before' = []
      · subst hb hb'
        rw [ht] at ht'
        exact (List.cons.inj ht').1
      · rw [if_pos hb, if_neg hb'] at htoken
        exact absurd htoken.symm v'.place.token_ne_empty
    · by_cases hb' : before' = []
      · rw [if_neg hb, if_pos hb'] at htoken
        exact absurd htoken v.place.token_ne_empty
      · rw [if_neg hb, if_neg hb'] at htoken
        have hplace := Place.token_injective htoken
        have hfound := (h.split ht).2
        rw [hplace] at hfound
        have hpage := hfound.unique (h.split ht').2
        obtain ⟨place, page⟩ := v
        obtain rfl : place = v'.place := hplace
        obtain rfl : page = v'.page := hpage
        rfl
  subst hsame
  rw [Served.shown_eq ht, Served.shown_eq ht']

/-! ## Calls that may fail -/

/-- A call at a place fails and leaves no trace, or ends as it does without faults. -/
theorem yields_servePlace {p : Place} {result : Except Failure (Page Grant)}
    (h : (servePlace pageSize resource holding p seen).Yields s.mayFail (result, seen')) :
    (∃ f, result = .error f ∧ seen' = seen) ∨
      (servePlace pageSize resource holding p seen).result s = .ok (result, seen') := by
  unfold servePlace at h ⊢
  obtain ⟨r, hr, h⟩ := (Plan.yields_bind _ _ _).1 h
  rcases steady_phasePage p.phase p.cursor r hr with ⟨f, rfl⟩ | hok
  · obtain ⟨rfl, rfl⟩ := Prod.mk.inj h
    exact .inl ⟨f, rfl, rfl⟩
  · refine .inr ?_
    rw [Plan.result_bind_of_ok hok]
    cases r with
    | error f => exact congrArg Except.ok h
    | ok page => exact congrArg Except.ok h

/-- A call that succeeds is not the fault of a request. -/
theorem result_of_yields {p : Place} {page : Page Grant}
    (h : (servePlace pageSize resource holding p seen).Yields s.mayFail (.ok page, seen')) :
    (servePlace pageSize resource holding p seen).result s = .ok (.ok page, seen') := by
  rcases yields_servePlace h with ⟨f, hf, -⟩ | hok
  · cases hf
  · exact hok

/-- A place that the server has something at can be visited, whatever has been seen. -/
theorem exists_yields_servePlace {p : Place} {found : Page Grant}
    (hf : FoundAt s pageSize resource holding p found) (seen : FirstSeen) :
    ∃ page seen', (servePlace pageSize resource holding p seen).Yields s.mayFail (.ok page, seen') ∧
      page.next = Place.tokenOf (p.after found.next) :=
  ⟨_, _, Plan.yields_of_result (fun _ => .inl rfl) (result_servePlace.2 ⟨found, hf, rfl, rfl⟩), rfl⟩

/-- What holds after any attempts: the places that were visited are those of a trail, what has been
seen is what that trail shows, and every success is one of its calls. -/
structure Covers (s : Server) (pageSize : UInt32) (resource : ResourceId) (holding : Holding)
    (attempts : List Attempt) (seen : FirstSeen) (trail : List Served) : Prop where
  started : trail ≠ []
  isTrail : ∃ due, Trail s pageSize resource holding trail due
  follows : seen.Follows resource trail
  calls : ∀ token page, ⟨token, .ok page⟩ ∈ attempts → (token, page) ∈ trailCalls trail

/-- The first call is the first visit. -/
theorem covers_start {page : Page Grant}
    (h : ((listPhased pageSize resource holding "").run seen₀).Yields s.mayFail (.ok page, seen)) :
    ∃ trail, Covers s pageSize resource holding [⟨"", .ok page⟩] seen trail := by
  rw [listPhased_empty] at h
  obtain ⟨found, hf, -⟩ := result_servePlace.1 (result_of_yields h)
  have hcall := result_of_yields h
  obtain ⟨seen'', hshown, hfollows⟩ :=
    visit_next hf fun hne : ([] : List Served) ≠ [] => absurd rfl hne
  rw [if_pos rfl, hcall] at hshown
  cases hshown
  refine ⟨[⟨holding.start, found⟩], by simp, ⟨_, Trail.start.next hf⟩, hfollows, ?_⟩
  intro token page' hmem
  obtain ⟨rfl, hpage⟩ := Attempt.mk.inj (List.mem_singleton.1 hmem)
  cases hpage
  exact List.mem_singleton.2 rfl

/-- **A token that was returned asks for a place** that was visited already or is due. -/
theorem Covers.place {attempts : List Attempt}
    (h : Covers s pageSize resource holding attempts seen trail) {earlier : String}
    {page : Page Grant} (returned : ⟨earlier, .ok page⟩ ∈ attempts) (goes : page.next ≠ "") :
    ∃ p : Place, page.next = p.token ∧ p.Within holding.kind.phases ∧
      ((∃ before v after, trail = before ++ v :: after ∧ before ≠ [] ∧ v.place = p) ∨
        Trail s pageSize resource holding trail (some p)) := by
  obtain ⟨due, htrail⟩ := h.isTrail
  obtain ⟨before, v, after, rfl, hcall⟩ := mem_trailCalls.1 (h.calls _ _ returned)
  obtain ⟨-, rfl⟩ := Prod.mk.inj hcall
  have hnext : (v.shown before).next = Place.tokenOf (v.place.after v.page.next) := rfl
  rw [hnext] at goes ⊢
  cases hafter : v.place.after v.page.next with
  | none => rw [hafter] at goes; exact absurd rfl goes
  | some p =>
    refine ⟨p, rfl, ?_, ?_⟩
    · exact Place.within_after ((htrail.split rfl).1.within _ rfl) hafter
    · -- the place after a visit is the next one on the trail, or due when there is none
      cases after with
      | nil =>
        have hdue := htrail.due_last rfl
        rw [hafter] at hdue
        rw [hdue] at htrail
        exact .inr htrail
      | cons u rest =>
        have hu := htrail.after_eq
        rw [hafter] at hu
        exact .inl ⟨before ++ [v], u, rest, by simp, by simp, (Option.some.inj hu).symm⟩

/-- **A later call that fails leaves no trace.** -/
theorem Covers.failed {attempts : List Attempt}
    (h : Covers s pageSize resource holding attempts seen trail) {earlier : String}
    {page : Page Grant} (returned : ⟨earlier, .ok page⟩ ∈ attempts) (goes : page.next ≠ "")
    {f : Failure}
    (call : ((listPhased pageSize resource holding page.next).run seen).Yields s.mayFail
      (.error f, seen')) : seen' = seen := by
  obtain ⟨p, hp, hwithin, -⟩ := h.place returned goes
  rw [hp, listPhased_token pageSize resource hwithin] at call
  rcases yields_servePlace call with ⟨_, -, hseen⟩ | hresult
  · exact hseen
  · -- without faults too, a page that cannot be had is not recorded
    unfold servePlace at hresult
    rw [Plan.result_bind] at hresult
    cases hpage : (phasePage pageSize resource holding p.phase p.cursor).run.result s with
    | error why => rw [hpage] at hresult; cases hresult
    | ok r =>
      rw [hpage] at hresult
      cases r with
      | error e => cases hresult; rfl
      | ok page => cases hresult

/-- **A later call that succeeds** visits a place again, or the one that is due. -/
theorem Covers.succeeded {attempts : List Attempt}
    (h : Covers s pageSize resource holding attempts seen trail) {earlier : String}
    {page page' : Page Grant} (returned : ⟨earlier, .ok page⟩ ∈ attempts) (goes : page.next ≠ "")
    (call : ((listPhased pageSize resource holding page.next).run seen).Yields s.mayFail
      (.ok page', seen')) :
    ∃ longer, trail <+: longer ∧ (∃ due, Trail s pageSize resource holding longer due) ∧
      seen'.Follows resource longer ∧ (page.next, page') ∈ trailCalls longer := by
  obtain ⟨p, hp, hwithin, hplace⟩ := h.place returned goes
  rw [hp, listPhased_token pageSize resource hwithin] at call
  have hresult := result_of_yields call
  rw [hp]
  rcases hplace with ⟨before, v, after, rfl, hne, rfl⟩ | htrail
  · -- the place was visited before: the trail stays as it is
    obtain ⟨due, htrail⟩ := h.isTrail
    have hv := (htrail.split rfl).2
    obtain ⟨found, hf, rfl, rfl⟩ := result_servePlace.1 hresult
    obtain rfl := hf.unique hv
    obtain ⟨hitems, hfollows⟩ := keep_again (grantsOn_phasePage _ _ _ hv) h.follows
    refine ⟨_, List.prefix_rfl, ⟨due, htrail⟩, hfollows, ?_⟩
    refine mem_trailCalls.2 ⟨before, v, after, rfl, ?_⟩
    rw [hitems, Served.tokenAfter, if_neg hne]
    rfl
  · -- the place is due: the trail grows by one visit
    obtain ⟨found, hf, -⟩ := result_servePlace.1 hresult
    obtain ⟨seen'', hshown, hfollows⟩ := visit_next hf fun _ => h.follows
    rw [if_neg h.started, hresult] at hshown
    cases hshown
    refine ⟨_, List.prefix_append _ _, ⟨_, htrail.next hf⟩, hfollows, ?_⟩
    rw [trailCalls_append_singleton, Served.tokenAfter, if_neg h.started]
    exact List.mem_append_right _ List.mem_cons_self

/-- **Any attempts are covered by a trail.** -/
theorem exists_covers {attempts : List Attempt}
    (h : Attempts s (listPhased pageSize resource holding) seen₀ attempts seen) :
    ∃ trail, Covers s pageSize resource holding attempts seen trail := by
  induction h with
  | start call => exact covers_start call
  | @next attempts seen seen' earlier page result before returned goes call ih =>
    obtain ⟨trail, hcovers⟩ := ih
    cases result with
    | error f =>
      obtain rfl := hcovers.failed returned goes call
      refine ⟨trail, hcovers.started, hcovers.isTrail, hcovers.follows, ?_⟩
      intro token page' hmem
      rcases List.mem_append.1 hmem with hmem | hmem
      · exact hcovers.calls token page' hmem
      · cases List.mem_singleton.1 hmem
    | ok page' =>
      obtain ⟨longer, hpre, htrail, hfollows, hcall⟩ := hcovers.succeeded returned goes call
      have hne : longer ≠ [] := by
        rintro rfl
        exact hcovers.started (List.prefix_nil.1 hpre)
      refine ⟨longer, hne, htrail, hfollows, ?_⟩
      intro token page'' hmem
      rcases List.mem_append.1 hmem with hmem | hmem
      · exact trailCalls_subset hpre (hcovers.calls token page'' hmem)
      · cases List.mem_singleton.1 hmem
        exact hcall

/-- An enumeration that starts is one of a project or a repository in scope. -/
theorem exists_holding {c : Connector} {scope : Scope} {token : String} {page : Page Grant}
    (hk : resource.kind = .project ∨ resource.kind = .repository)
    (h : ((c.listGrants scope resource token).run seen).Yields s.mayFail (.ok page, seen')) :
    ∃ holding, resource.IsHolding holding ∧ scope.contains holding.workspace := by
  -- a call that the check of the scope refuses does not succeed
  have hcheck : scope.check resource = .ok () := by
    unfold Connector.listGrants at h
    rw [Plan.run_stateT_bind, Enumeration.run_ofExcept] at h
    cases hcheck : scope.check resource with
    | error e =>
      rw [hcheck] at h
      cases h
    | ok u => rfl
  have hread : ∃ holding, resource.IsHolding holding := by
    have hworkspace : ∃ w, resource.workspace? = .ok w := by
      cases hw : resource.workspace? with
      | error e =>
        unfold Scope.check at hcheck
        rw [hw] at hcheck
        cases hcheck
      | ok w => exact ⟨w, rfl⟩
    unfold ResourceId.workspace? at hworkspace
    rcases hk with hk | hk
    · rw [hk] at hworkspace
      cases hid : ProjectId.read resource.key with
      | error e => simp [hid, Except.map] at hworkspace
      | ok id => exact ⟨.project id, hk, hid⟩
    · rw [hk] at hworkspace
      cases hid : RepositoryId.read resource.key with
      | error e => simp [hid, Except.map] at hworkspace
      | ok id => exact ⟨.repository id, hk, hid⟩
  obtain ⟨holding, hr⟩ := hread
  exact ⟨holding, hr, (Scope.check_eq_ok_iff hr.workspace?).1 hcheck⟩

/-- **Pages can be asked for again, and failures leave no trace.** Of any attempts on a project or a
repository, a later one that fails changes nothing that has been seen. Whatever its token and
however often it was used, one that succeeds returns the page that the token gives straight through:
it does so in some calls straight through, and in any such calls that come by the token. -/
theorem replay_after_failures (c : Connector) {scope : Scope}
    (hk : resource.kind = .project ∨ resource.kind = .repository) {attempts : List Attempt}
    (h : Attempts s (c.listGrants scope resource) seen₀ attempts seen) :
    (∀ earlier page, ⟨earlier, .ok page⟩ ∈ attempts → page.next ≠ "" → ∀ f seen',
        ((c.listGrants scope resource page.next).run seen).Yields s.mayFail (.error f, seen') →
        seen' = seen) ∧
      ∀ token page, ⟨token, .ok page⟩ ∈ attempts → ∀ seen₁,
        (∃ calls due seen', StraightThrough s (c.listGrants scope resource) seen₁ calls due seen' ∧
          (token, page) ∈ calls) ∧
        ∀ calls due seen' page',
          StraightThrough s (c.listGrants scope resource) seen₁ calls due seen' →
          (token, page') ∈ calls → page' = page := by
  have hholding : ∃ holding, resource.IsHolding holding ∧ scope.contains holding.workspace := by
    induction h with
    | start call => exact exists_holding hk call
    | next before returned goes call ih => exact ih
  obtain ⟨holding, hr, hs⟩ := hholding
  rw [listGrants_eq_listPhased c hr hs] at h ⊢
  obtain ⟨trail, hcovers⟩ := exists_covers h
  obtain ⟨due, htrail⟩ := hcovers.isTrail
  constructor
  · intro earlier page returned goes f seen' call
    exact hcovers.failed returned goes call
  · intro token page hmem seen₁
    have hcall := hcovers.calls token page hmem
    constructor
    · obtain ⟨seen', hcalls, -⟩ := straightThrough_of_trail htrail seen₁
      exact ⟨trailCalls trail, _, seen', hcalls, hcall⟩
    · intro calls due' seen' page' hstraight hother
      -- the other calls follow a trail too, and one of the two trails goes on from the other
      obtain ⟨others, _, hothers, rfl, -⟩ := trail_of_straightThrough hstraight
      rcases htrail.comparable hothers with hpre | hpre
      · exact hothers.page_unique hother (trailCalls_subset hpre hcall)
      · exact htrail.page_unique (trailCalls_subset hpre hother) hcall

end

/-- Attempts on the project of the small server: its second page is asked for twice, and the third
fails once, at the members of a group. -/
theorem attempts_sample {list : String → Enumeration (Page Grant)}
    (hlist : list = listPhased 100 ⟨.project, "w:p:P"⟩ (.project ⟨"w", "p", "P"⟩)) :
    ∃ attempts seen, Attempts sampleServer list .empty attempts seen ∧
      attempts.map (fun a => (a.token, a.result.isOk)) =
        [("", true), ((Place.mk .repository "2" [.userGroup, .user]).token, true),
          ((Place.mk .userGroup "" [.user]).token, false),
          ((Place.mk .repository "2" [.userGroup, .user]).token, true),
          ((Place.mk .userGroup "" [.user]).token, true)] := by
  -- what the server has at the places of the calls
  have hrepositories : ∀ cursor, ∃ found,
      FoundAt sampleServer 100 ⟨.project, "w:p:P"⟩ (.project ⟨"w", "p", "P"⟩)
        ⟨.repository, cursor, [.userGroup, .user]⟩ found ∧
      found.next = if cursor = "" then "2" else "" := by
    intro cursor
    by_cases hc : cursor = ""
    · rw [if_pos hc]
      exact ⟨_, result_repositoryPage (if_pos hc), rfl⟩
    · rw [if_neg hc]
      exact ⟨_, result_repositoryPage (if_neg hc), rfl⟩
  have hgroups : ∃ found,
      FoundAt sampleServer 100 ⟨.project, "w:p:P"⟩ (.project ⟨"w", "p", "P"⟩)
        ⟨.userGroup, "", [.user]⟩ found := by
    have hmembers : ∀ g : Api.Held Api.GroupRef, sampleServer (.groupMembers ⟨"w", g.holder.slug⟩) =
        .ok (sampleContents.members g.holder.slug) := fun _ => rfl
    exact ⟨_, result_groupPage_project rfl fun g _ _ => hmembers g⟩
  -- each call for itself, whatever was seen before
  have hfirst : ∃ page seen, ((list "").run .empty).Yields sampleServer.mayFail (.ok page, seen) ∧
      page.next = (Place.mk .repository "2" [.userGroup, .user]).token := by
    obtain ⟨found, hf, hnext⟩ := hrepositories ""
    have hcall := exists_yields_servePlace hf (FirstSeen.empty.reset ⟨.project, "w:p:P"⟩)
    rw [hnext] at hcall
    rw [hlist, listPhased_empty]
    exact hcall
  have hsecond : ∀ seen, ∃ page seen',
      ((list (Place.mk .repository "2" [.userGroup, .user]).token).run seen).Yields
        sampleServer.mayFail (.ok page, seen') ∧
        page.next = (Place.mk .userGroup "" [.user]).token := by
    intro seen
    obtain ⟨found, hf, hnext⟩ := hrepositories "2"
    have hcall := exists_yields_servePlace hf seen
    rw [hnext] at hcall
    rw [hlist, listPhased_token _ _ (by decide)]
    exact hcall
  have hfault : ∀ seen, ((list (Place.mk .userGroup "" [.user]).token).run seen).Yields
      sampleServer.mayFail (.error (Fault.failure .cancelled), seen) := by
    intro seen
    rw [hlist, listPhased_token _ _ (by decide)]
    exact ⟨_, .inl rfl, _, .inr ⟨.cancelled, rfl⟩, rfl⟩
  have hthird : ∀ seen, ∃ page seen',
      ((list (Place.mk .userGroup "" [.user]).token).run seen).Yields
        sampleServer.mayFail (.ok page, seen') := by
    intro seen
    obtain ⟨found, hf⟩ := hgroups
    obtain ⟨page, seen', hcall, -⟩ := exists_yields_servePlace hf seen
    rw [hlist, listPhased_token _ _ (by decide)]
    exact ⟨page, seen', hcall⟩
  -- the calls in their order
  obtain ⟨page₁, seen₁, hcall₁, hnext₁⟩ := hfirst
  obtain ⟨page₂, seen₂, hcall₂, hnext₂⟩ := hsecond seen₁
  obtain ⟨page₃, seen₃, hcall₃, -⟩ := hsecond seen₂
  obtain ⟨page₄, seen₄, hcall₄⟩ := hthird seen₃
  have hcall₅ := hfault seen₂
  have hne₁ : page₁.next ≠ "" := hnext₁ ▸ Place.token_ne_empty _
  have hne₂ : page₂.next ≠ "" := hnext₂ ▸ Place.token_ne_empty _
  rw [← hnext₁] at hcall₂ hcall₃ ⊢
  rw [← hnext₂] at hcall₄ hcall₅ ⊢
  have htwo := (Attempts.start hcall₁).next (.head _) hne₁ hcall₂
  have hthree := htwo.next (.tail _ (.head _)) hne₂ hcall₅
  have hfour := hthree.next (.head _) hne₁ hcall₃
  exact ⟨_, _, hfour.next (.tail _ (.head _)) hne₂ hcall₄, rfl⟩

theorem replay_after_failures_sample :
    let list := Connector.listGrants ⟨100, []⟩ (.workspace "w") ⟨.project, "w:p:P"⟩
    ∃ attempts seen, Attempts sampleServer list .empty attempts seen ∧
      attempts.map (fun a => (a.token, a.result.isOk)) =
        [("", true), ((Place.mk .repository "2" [.userGroup, .user]).token, true),
          ((Place.mk .userGroup "" [.user]).token, false),
          ((Place.mk .repository "2" [.userGroup, .user]).token, true),
          ((Place.mk .userGroup "" [.user]).token, true)] ∧
      (∀ earlier page, ⟨earlier, .ok page⟩ ∈ attempts → page.next ≠ "" → ∀ f seen',
        ((list page.next).run seen).Yields sampleServer.mayFail (.error f, seen') → seen' = seen) ∧
      ∀ token page, ⟨token, .ok page⟩ ∈ attempts → ∀ seen₁,
        (∃ calls due seen', StraightThrough sampleServer list seen₁ calls due seen' ∧
          (token, page) ∈ calls) ∧
        ∀ calls due seen' page', StraightThrough sampleServer list seen₁ calls due seen' →
          (token, page') ∈ calls → page' = page := by
  have hr : ResourceId.IsHolding ⟨.project, "w:p:P"⟩ (.project ⟨"w", "p", "P"⟩) := ⟨rfl, rfl⟩
  have hs : (Scope.workspace "w").contains "w" := rfl
  obtain ⟨attempts, seen, h, hcalls⟩ := attempts_sample (listGrants_eq_listPhased ⟨100, []⟩ hr hs)
  exact ⟨attempts, seen, h, hcalls, replay_after_failures ⟨100, []⟩ (.inl rfl) h⟩

end AccessSync
