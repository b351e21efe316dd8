import AccessSync.Proofs.Config.Environment
import AccessSync.Proofs.Course
import AccessSync.Proofs.Url.Root

/-!
# The requests of a configuration that can be used

A configuration is checked for URLs, and a client needs more of them than that: the segments of an
endpoint can be added to a URL that can be a base. This is found out when a request is made, for
the version of the interface that the endpoint belongs to.

* `request_of_isRooted`, `request_of_not_isRooted`: when an endpoint has a request.
* `requests_of_usable`: the client of a configuration that can be used, and what it can ask.
-/

namespace AccessSync.Api.Client

variable {N : Type} {c : Config} {client : Client} {e : Endpoint}

/-- The client stands for the texts of a configuration. -/
structure IsOf (client : Client) (c : Config) : Prop where
  base : Url.read c.baseUrl = .ok client.base
  firstBase : Url.read c.firstBaseUrl = .ok client.firstBase
  pageSize : client.pageSize = c.pageSize

theorem exists_ofConfig (h : c.IsUsable) :
    ∃ client, ofConfig c = .ok client ∧ client.IsOf c := by
  obtain ⟨base, hbase⟩ := h.baseUrl
  obtain ⟨firstBase, hfirst⟩ := h.firstBaseUrl
  refine ⟨⟨base, firstBase, c.pageSize⟩, ?_, hbase, hfirst, rfl⟩
  unfold ofConfig readBase
  rw [hbase, hfirst]
  rfl

theorem IsOf.layout_baseOf (h : client.IsOf c) (v : Version) : (client.baseOf v).Layout := by
  cases v with
  | first => exact Url.layout_of_read h.firstBase
  | second => exact Url.layout_of_read h.base

/-! ## Requests -/

/-- What is reported of a URL that cannot be a base. -/
def noBase (u : Url) : Fault := .configuration s!"base URL cannot be a base: {u.text}"

/-- An endpoint below a base is asked by its request. -/
theorem request_of_isRooted (hlayout : (client.baseOf e.version).Layout)
    (h : (client.baseOf e.version).IsRooted) :
    ∃ r, client.request e = .ok r ∧ (client.answer e : Plan N Request.Reply e.Reply) =
      .ask r fun result => .done (reply e result) := by
  obtain ⟨url, hurl⟩ := Option.isSome_iff_exists.1 ((Url.extend?_isSome_iff hlayout e.path).2 h)
  have hrequest := request_eq_ok.2 ⟨url, hurl, rfl⟩
  exact ⟨_, hrequest, answer_of_ok hrequest⟩

/-- Without a base nothing is asked. -/
theorem request_of_not_isRooted (hlayout : (client.baseOf e.version).Layout)
    (h : ¬ (client.baseOf e.version).IsRooted) :
    client.request e = .error (noBase (client.baseOf e.version)) ∧
      (client.answer e : Plan N Request.Reply e.Reply) =
        .done (.error (noBase (client.baseOf e.version))) := by
  have hnone : (client.baseOf e.version).extend? e.path = none := by
    rw [← Option.not_isSome_iff_eq_none, Url.extend?_isSome_iff hlayout]
    exact h
  have hrequest : client.request e = .error (noBase (client.baseOf e.version)) := by
    unfold request place
    dsimp only
    rw [hnone]
    rfl
  exact ⟨hrequest, answer_of_error hrequest⟩

/-- **What a configuration that can be used can ask.** It has a client, and an endpoint has a
request exactly when the URL of its version can be a base, as every URL with a special scheme can.
Any other URL is reported, and nothing is asked. -/
theorem requests_of_usable
    (h : c.validate = .ok () ∨ ∃ env, Config.ofEnvironment env = .ok c) :
    ∃ client, ofConfig c = .ok client ∧ client.IsOf c ∧ ∀ e : Endpoint,
      ((client.baseOf e.version).IsRooted →
        ∃ r, client.request e = .ok r ∧ (client.answer e : Plan N Request.Reply e.Reply) =
          .ask r fun result => .done (reply e result)) ∧
      (¬ (client.baseOf e.version).IsRooted →
        client.request e = .error (noBase (client.baseOf e.version)) ∧
          (client.answer e : Plan N Request.Reply e.Reply) =
            .done (.error (noBase (client.baseOf e.version)))) ∧
      ((client.baseOf e.version).isSpecial → (client.baseOf e.version).IsRooted) := by
  have husable : c.IsUsable := by
    rcases h with h | ⟨env, h⟩
    · exact Config.validate_eq_ok_iff.1 h
    · obtain ⟨_, _, _, -, -, -, -, husable⟩ := Config.ofEnvironment_eq_ok_iff.1 h
      exact husable
  obtain ⟨client, hclient, hof⟩ := exists_ofConfig husable
  refine ⟨client, hclient, hof, fun e => ?_⟩
  have hlayout := hof.layout_baseOf e.version
  exact ⟨request_of_isRooted hlayout, request_of_not_isRooted hlayout,
    Url.isRooted_of_isSpecial hlayout⟩

/-! ## A base for mail -/

/-- An address for mail in place of the second version of the interface. -/
def mailEnvironment : Config.Environment
  | "BITBUCKET_TOKEN" => some "t"
  | "BITBUCKET_BASE_URL" => some "mailto:a"
  | _ => none

/-- The configuration with an address for mail. -/
def mailConfig : Config := { Config.usual (.ofToken "t") with baseUrl := "mailto:a/" }

/-- The client with an address for mail. -/
def mailClient : Client where
  base := ⟨"mailto", "", "", none, none, .rootless "a/", none, none⟩
  firstBase :=
    ⟨"https", "", "", some (.name "api.bitbucket.org"), none, .segments ["1.0", ""], none, none⟩
  pageSize := 50

theorem ofEnvironment_mailEnvironment :
    Config.ofEnvironment mailEnvironment = .ok mailConfig := rfl

theorem ofConfig_mailConfig : ofConfig mailConfig = .ok mailClient := rfl

/-- Groups belong to the first version and are asked for; the user belongs to the second one. -/
theorem requests_of_usable_sample :
    Config.ofEnvironment mailEnvironment = .ok mailConfig ∧
      (∃ r, mailClient.request (.groups "w") = .ok r) ∧
      mailClient.request .currentUser = .error (noBase mailClient.base) := by
  obtain ⟨client, hclient, -, hrequests⟩ :=
    requests_of_usable (N := Unit) (.inr ⟨mailEnvironment, ofEnvironment_mailEnvironment⟩)
  obtain rfl : client = mailClient := Except.ok.inj (hclient.symm.trans ofConfig_mailConfig)
  obtain ⟨hrooted, -, hspecial⟩ := hrequests (.groups "w")
  obtain ⟨-, hrootless, -⟩ := hrequests .currentUser
  have hmail : ¬ mailClient.base.IsRooted := by
    rw [Url.isRooted_iff_head?]
    decide
  obtain ⟨r, hr, -⟩ := hrooted (hspecial rfl)
  exact ⟨ofEnvironment_mailEnvironment, ⟨r, hr⟩, (hrootless hmail).1⟩

/-- **A configuration that passes its check, and an endpoint without a request.** -/
theorem mail_base_refused :
    Config.ofEnvironment mailEnvironment = .ok mailConfig ∧ mailConfig.validate = .ok () ∧
      ofConfig mailConfig = .ok mailClient ∧ mailClient.request .currentUser =
        .error (.configuration "base URL cannot be a base: mailto:a/") :=
  ⟨ofEnvironment_mailEnvironment, rfl, ofConfig_mailConfig, rfl⟩

end AccessSync.Api.Client
