import AccessSync.Proofs.Config.Slugs
import AccessSync.Proofs.Text.Natural

/-!
# Environments that describe a configuration

A configuration is read from an environment in one go: three numbers first, then everything is put
together and checked. What has to hold for that is said here of the variables alone, each with
what it holds or with what counts when it holds nothing.

* `Environment.IsValid`: the environments that describe a configuration that can be used.
* `Environment.Describes`: the configuration that an environment describes.
* `validate_eq_ok_iff`: the configurations that can be used.
* `environments_accepted`: exactly the valid environments are read, and what is read.
-/

namespace AccessSync

/-- The text is that of a URL. -/
def IsUrl (s : String) : Prop := ∃ u, Url.read s = .ok u

def EndsInSlash (s : String) : Prop := s.toList.getLast? = some '/'

/-! ## Credentials -/

/-- Each pair is there as a whole or not at all, and something is there. -/
structure Credentials.IsComplete (c : Credentials) : Prop where
  user : c.username.isSome ↔ c.appPassword.isSome
  consumer : c.consumerKey.isSome ↔ c.consumerSecret.isSome
  something : c.token.isSome ∨ (c.username.isSome ∧ c.appPassword.isSome) ∨
    (c.consumerKey.isSome ∧ c.consumerSecret.isSome)

/-- **Complete credentials** give a way of authentication, and no others do. -/
theorem Credentials.exists_authentication_iff {c : Credentials} {loginUrl : String} :
    (∃ a, c.authentication loginUrl = .ok a) ↔ c.IsComplete := by
  obtain ⟨token, username, appPassword, consumerKey, consumerSecret⟩ := c
  unfold authentication
  dsimp only
  constructor
  · rintro ⟨a, h⟩
    split at h
    · cases h
    rename_i huser
    split at h
    · cases h
    rename_i hconsumer
    rw [ne_eq, not_not] at huser hconsumer
    refine ⟨by dsimp only; rw [huser], by dsimp only; rw [hconsumer], ?_⟩
    -- a case for each family, and one for nothing at all
    split at h
    · exact .inl rfl
    · exact .inr (.inl ⟨rfl, rfl⟩)
    · exact .inr (.inr ⟨rfl, rfl⟩)
    · cases h
  · rintro ⟨huser, hconsumer, hsomething⟩
    dsimp only at huser hconsumer hsomething
    rw [if_neg (by simpa using Bool.eq_iff_iff.2 huser),
      if_neg (by simpa using Bool.eq_iff_iff.2 hconsumer)]
    cases token with
    | some token => exact ⟨_, rfl⟩
    | none =>
      rcases hsomething with h | ⟨hname, hpassword⟩ | ⟨hkey, hsecret⟩
      · cases h
      · obtain ⟨name, rfl⟩ := Option.isSome_iff_exists.1 hname
        obtain ⟨password, rfl⟩ := Option.isSome_iff_exists.1 hpassword
        exact ⟨_, rfl⟩
      · obtain ⟨key, rfl⟩ := Option.isSome_iff_exists.1 hkey
        obtain ⟨secret, rfl⟩ := Option.isSome_iff_exists.1 hsecret
        -- a user name with its password goes before the key
        cases username with
        | none => exact ⟨_, rfl⟩
        | some name =>
          obtain ⟨password, rfl⟩ := Option.isSome_iff_exists.1 (huser.1 rfl)
          exact ⟨_, rfl⟩

namespace Config

open Text (Denotes joinWith segments trim)

/-! ## Configurations that can be used -/

/-- The configuration can be used. -/
structure IsUsable (c : Config) : Prop where
  baseUrl : IsUrl c.baseUrl
  firstBaseUrl : IsUrl c.firstBaseUrl
  loginUrl : IsUrl c.loginUrl
  pageSize : c.pageSize ≠ 0
  credentials : c.credentials.IsComplete

theorem checkUrl_eq_ok_iff {name value : String} : checkUrl name value = .ok () ↔ IsUrl value := by
  unfold checkUrl IsUrl
  cases Url.read value with
  | ok u => exact ⟨fun _ => ⟨u, rfl⟩, fun _ => rfl⟩
  | error e =>
    constructor
    · intro h
      cases h
    · rintro ⟨u, h⟩
      cases h

/-- **The configurations that can be used** are those that pass the check. -/
theorem validate_eq_ok_iff {c : Config} : c.validate = .ok () ↔ c.IsUsable := by
  unfold validate
  constructor
  · intro h
    obtain ⟨⟨⟩, hbase, h⟩ := except_bind_eq_ok h
    obtain ⟨⟨⟩, hfirst, h⟩ := except_bind_eq_ok h
    obtain ⟨⟨⟩, hlogin, h⟩ := except_bind_eq_ok h
    split at h
    · cases h
    rename_i hsize
    obtain ⟨a, ha, -⟩ := except_bind_eq_ok h
    exact ⟨checkUrl_eq_ok_iff.1 hbase, checkUrl_eq_ok_iff.1 hfirst, checkUrl_eq_ok_iff.1 hlogin,
      hsize, Credentials.exists_authentication_iff.1 ⟨a, ha⟩⟩
  · rintro ⟨hbase, hfirst, hlogin, hsize, hcredentials⟩
    obtain ⟨a, ha⟩ := Credentials.exists_authentication_iff.2 hcredentials
    have ha : c.authentication = .ok a := ha
    rw [checkUrl_eq_ok_iff.2 hbase, checkUrl_eq_ok_iff.2 hfirst, checkUrl_eq_ok_iff.2 hlogin,
      if_neg hsize, ha]
    rfl

/-- **The usual settings** can be used with any complete credentials. -/
theorem isUsable_usual {credentials : Credentials} (h : credentials.IsComplete) :
    (usual credentials).IsUsable := by
  have hbase : IsUrl usualBaseUrl := ⟨_, rfl⟩
  have hfirst : IsUrl usualFirstBaseUrl := ⟨_, rfl⟩
  have hlogin : IsUrl usualLoginUrl := ⟨_, rfl⟩
  have hsize : (50 : UInt32) ≠ 0 := by decide
  exact ⟨hbase, hfirst, hlogin, hsize, h⟩

theorem endsInSlash_withSlash (s : String) : EndsInSlash (withSlash s) := by
  unfold EndsInSlash withSlash
  split
  · assumption
  · rw [String.toList_append]
    exact List.getLast?_concat

/-! ## Variables -/

/-- The variable can be read, and there is more in it than blanks. -/
def Environment.Holds (env : Environment) (name s : String) : Prop :=
  env name = some s ∧ trim s ≠ ""

def Environment.Has (env : Environment) (name : String) : Prop := ∃ s, env.Holds name s

/-- What a variable gives: what is read from what it holds, or something else if it is absent. -/
def Environment.Gives {α : Type} (env : Environment) (name : String) (absent : α)
    (reads : String → α → Prop) (a : α) : Prop :=
  (¬ env.Has name ∧ a = absent) ∨ ∃ s, env.Holds name s ∧ reads s a

/-- The text that a variable gives: all of it, blanks at the ends as well. -/
def Environment.GivesText (env : Environment) (name usual t : String) : Prop :=
  env.Gives name usual (fun s t => t = s) t

/-- The number that a variable gives: the one that its text stands for, without blanks at the
ends. -/
def Environment.GivesNumber {α : Type} (toNat : α → Nat) (env : Environment) (name : String)
    (usual n : α) : Prop :=
  env.Gives name usual (fun s n => Denotes (trim s) (toNat n)) n

section
variable {α : Type} {env : Environment} {name s : String} {absent a : α}
  {reads : String → α → Prop}

theorem value?_eq_some_iff : env.value? name = some s ↔ env.Holds name s := by
  unfold Environment.value? Environment.Holds
  rw [Option.filter_eq_some_iff, ne_eq, Text.trim_eq_empty_iff, Bool.not_eq_true',
    Bool.not_eq_true]

/-- An option that holds what the variable holds is there when the variable is. -/
theorem isSome_iff_has {o : Option String} (h : ∀ s, o = some s ↔ env.Holds name s) :
    o.isSome ↔ env.Has name := by
  rw [Option.isSome_iff_exists]
  exact exists_congr h

theorem isSome_value?_iff : (env.value? name).isSome ↔ env.Has name :=
  isSome_iff_has fun _ => value?_eq_some_iff

theorem value?_eq_none_iff : env.value? name = none ↔ ¬ env.Has name := by
  rw [← isSome_value?_iff, Option.not_isSome_iff_eq_none]

theorem gives_of_none (h : env.value? name = none) :
    env.Gives name absent reads a ↔ a = absent := by
  have habsent : ¬ env.Has name := value?_eq_none_iff.1 h
  constructor
  · rintro (⟨-, ha⟩ | ⟨s, hs, -⟩)
    · exact ha
    · exact absurd ⟨s, hs⟩ habsent
  · exact fun ha => .inl ⟨habsent, ha⟩

theorem gives_of_some (h : env.value? name = some s) :
    env.Gives name absent reads a ↔ reads s a := by
  have hs : env.Holds name s := value?_eq_some_iff.1 h
  constructor
  · rintro (⟨habsent, -⟩ | ⟨s', hs', ha⟩)
    · exact absurd ⟨s, hs⟩ habsent
    · -- the variable holds one text
      obtain rfl : s = s' := Option.some.inj (hs.1.symm.trans hs'.1)
      exact ha
  · exact fun ha => .inr ⟨s, hs, ha⟩

/-- What is made of the text of a variable. -/
theorem gives_map_iff {f : String → α} :
    env.Gives name absent (fun s a => a = f s) a ↔
      a = ((env.value? name).map f).getD absent := by
  cases h : env.value? name with
  | none => exact gives_of_none h
  | some s => exact gives_of_some h

/-- The text of a variable itself. -/
theorem givesText_iff {usual t : String} :
    env.GivesText name usual t ↔ t = (env.value? name).getD usual := by
  have hmap : env.Gives name usual (fun s t => t = id s) t ↔
      t = ((env.value? name).map id).getD usual := gives_map_iff
  rwa [Option.map_id_fun] at hmap

/-- The number that a variable holds. -/
theorem numberOr_eq_ok_iff {read : String → Except Text.NaturalError α} {toNat : α → Nat}
    (hread : ∀ {s a}, read s = .ok a ↔ Denotes s (toNat a)) :
    numberOr name read absent (env.value? name) = .ok a ↔ env.GivesNumber toNat name absent a := by
  unfold Environment.GivesNumber
  cases h : env.value? name with
  | none =>
    rw [gives_of_none h]
    exact ⟨fun ha => (Except.ok.inj ha).symm, fun ha => congrArg Except.ok ha.symm⟩
  | some s =>
    rw [gives_of_some h, ← hread]
    unfold numberOr
    dsimp only
    cases read (trim s) with
    | ok n => exact ⟨fun ha => congrArg Except.ok (Except.ok.inj ha),
        fun ha => congrArg Except.ok (Except.ok.inj ha)⟩
    | error e =>
      constructor
      · intro ha
        cases ha
      · intro ha
        cases ha

end

/-! ## Environments -/

/-- **The configuration that an environment describes.** -/
structure Environment.Describes (env : Environment) (c : Config) : Prop where
  baseUrl : ∃ url, env.GivesText "BITBUCKET_BASE_URL" usualBaseUrl url ∧ c.baseUrl = withSlash url
  firstBaseUrl : ∃ url, env.GivesText "BITBUCKET_V1_BASE_URL" usualFirstBaseUrl url ∧
    c.firstBaseUrl = withSlash url
  loginUrl : env.GivesText "BITBUCKET_LOGIN_URL" usualLoginUrl c.loginUrl
  /-- The entries between the commas, without the blanks around them and without blank ones. -/
  workspaces : env.Gives "BITBUCKET_WORKSPACES" []
    (fun s slugs => slugs = ((segments ',' s).map trim).filter fun entry => entry ≠ "") c.workspaces
  pageSize : env.GivesNumber UInt32.toNat "BITBUCKET_PAGE_SIZE" 50 c.pageSize
  maxRetries : ∃ count, env.GivesNumber UInt32.toNat "BITBUCKET_MAX_RETRIES" 3 count ∧
    c.retry = .upTo count
  timeout : env.GivesNumber UInt64.toNat "BITBUCKET_REQUEST_TIMEOUT_SECS" 30 c.timeout
  token : ∀ s, c.credentials.token = some s ↔ env.Holds "BITBUCKET_TOKEN" s
  username : ∀ s, c.credentials.username = some s ↔ env.Holds "BITBUCKET_USERNAME" s
  appPassword : ∀ s, c.credentials.appPassword = some s ↔ env.Holds "BITBUCKET_APP_PASSWORD" s
  consumerKey : ∀ s, c.credentials.consumerKey = some s ↔ env.Holds "BITBUCKET_CONSUMER_KEY" s
  consumerSecret : ∀ s,
    c.credentials.consumerSecret = some s ↔ env.Holds "BITBUCKET_CONSUMER_SECRET" s

/-- **The environments that describe a configuration that can be used.** -/
structure Environment.IsValid (env : Environment) : Prop where
  pageSize : ∃ n, env.GivesNumber UInt32.toNat "BITBUCKET_PAGE_SIZE" 50 n ∧ n ≠ 0
  maxRetries : ∃ n, env.GivesNumber UInt32.toNat "BITBUCKET_MAX_RETRIES" 3 n
  timeout : ∃ n, env.GivesNumber UInt64.toNat "BITBUCKET_REQUEST_TIMEOUT_SECS" 30 n
  baseUrl : ∃ url, env.GivesText "BITBUCKET_BASE_URL" usualBaseUrl url ∧ IsUrl (withSlash url)
  firstBaseUrl : ∃ url, env.GivesText "BITBUCKET_V1_BASE_URL" usualFirstBaseUrl url ∧
    IsUrl (withSlash url)
  loginUrl : ∃ url, env.GivesText "BITBUCKET_LOGIN_URL" usualLoginUrl url ∧ IsUrl url
  user : env.Has "BITBUCKET_USERNAME" ↔ env.Has "BITBUCKET_APP_PASSWORD"
  consumer : env.Has "BITBUCKET_CONSUMER_KEY" ↔ env.Has "BITBUCKET_CONSUMER_SECRET"
  something : env.Has "BITBUCKET_TOKEN" ∨
    (env.Has "BITBUCKET_USERNAME" ∧ env.Has "BITBUCKET_APP_PASSWORD") ∨
    (env.Has "BITBUCKET_CONSUMER_KEY" ∧ env.Has "BITBUCKET_CONSUMER_SECRET")

variable {env : Environment} {c : Config}

/-- What is put together of the variables and the numbers read from them. -/
def assemble (env : Environment) (pageSize maxRetries : UInt32) (timeout : UInt64) : Config where
  baseUrl := withSlash ((env.value? "BITBUCKET_BASE_URL").getD usualBaseUrl)
  firstBaseUrl := withSlash ((env.value? "BITBUCKET_V1_BASE_URL").getD usualFirstBaseUrl)
  loginUrl := (env.value? "BITBUCKET_LOGIN_URL").getD usualLoginUrl
  workspaces := ((env.value? "BITBUCKET_WORKSPACES").map readList).getD []
  pageSize := pageSize
  timeout := timeout
  retry := .upTo maxRetries
  credentials :=
    { token := env.value? "BITBUCKET_TOKEN"
      username := env.value? "BITBUCKET_USERNAME"
      appPassword := env.value? "BITBUCKET_APP_PASSWORD"
      consumerKey := env.value? "BITBUCKET_CONSUMER_KEY"
      consumerSecret := env.value? "BITBUCKET_CONSUMER_SECRET" }

/-- **What is read** is put together of numbers that the variables give, and can be used. -/
theorem ofEnvironment_eq_ok_iff : ofEnvironment env = .ok c ↔
    ∃ pageSize maxRetries timeout,
      env.GivesNumber UInt32.toNat "BITBUCKET_PAGE_SIZE" 50 pageSize ∧
      env.GivesNumber UInt32.toNat "BITBUCKET_MAX_RETRIES" 3 maxRetries ∧
      env.GivesNumber UInt64.toNat "BITBUCKET_REQUEST_TIMEOUT_SECS" 30 timeout ∧
      c = assemble env pageSize maxRetries timeout ∧ c.IsUsable := by
  unfold ofEnvironment
  constructor
  · intro h
    obtain ⟨pageSize, hpageSize, h⟩ := except_bind_eq_ok h
    obtain ⟨maxRetries, hmaxRetries, h⟩ := except_bind_eq_ok h
    obtain ⟨timeout, htimeout, h⟩ := except_bind_eq_ok h
    obtain ⟨⟨⟩, hvalid, h⟩ := except_bind_eq_ok h
    obtain rfl := Except.ok.inj h
    exact ⟨pageSize, maxRetries, timeout,
      (numberOr_eq_ok_iff Text.readWord32_eq_ok_iff).1 hpageSize,
      (numberOr_eq_ok_iff Text.readWord32_eq_ok_iff).1 hmaxRetries,
      (numberOr_eq_ok_iff Text.readWord64_eq_ok_iff).1 htimeout, rfl,
      validate_eq_ok_iff.1 hvalid⟩
  · rintro ⟨pageSize, maxRetries, timeout, hpageSize, hmaxRetries, htimeout, rfl, husable⟩
    rw [(numberOr_eq_ok_iff Text.readWord32_eq_ok_iff).2 hpageSize,
      (numberOr_eq_ok_iff Text.readWord32_eq_ok_iff).2 hmaxRetries,
      (numberOr_eq_ok_iff Text.readWord64_eq_ok_iff).2 htimeout]
    have hvalid := validate_eq_ok_iff.2 husable
    -- what is checked is spelled out where it is put together
    unfold assemble at hvalid ⊢
    dsimp only [bind, Except.bind]
    rw [hvalid]
    rfl

/-- What is read is what the environment describes. -/
theorem describes_of_ofEnvironment (h : ofEnvironment env = .ok c) : env.Describes c := by
  obtain ⟨pageSize, maxRetries, timeout, hpageSize, hmaxRetries, htimeout, rfl, -⟩ :=
    ofEnvironment_eq_ok_iff.1 h
  exact {
    baseUrl := ⟨_, givesText_iff.2 rfl, rfl⟩
    firstBaseUrl := ⟨_, givesText_iff.2 rfl, rfl⟩
    loginUrl := givesText_iff.2 rfl
    workspaces := (gives_map_iff (f := readList)).2 rfl
    pageSize := hpageSize
    maxRetries := ⟨maxRetries, hmaxRetries, rfl⟩
    timeout := htimeout
    token := fun _ => value?_eq_some_iff
    username := fun _ => value?_eq_some_iff
    appPassword := fun _ => value?_eq_some_iff
    consumerKey := fun _ => value?_eq_some_iff
    consumerSecret := fun _ => value?_eq_some_iff }

/-- An environment is valid when the configuration it describes can be used. -/
theorem isValid_of_describes (h : env.Describes c) (hc : c.IsUsable) : env.IsValid := by
  obtain ⟨baseUrl, hbase, hbaseUrl⟩ := h.baseUrl
  obtain ⟨firstBaseUrl, hfirst, hfirstBaseUrl⟩ := h.firstBaseUrl
  obtain ⟨maxRetries, hmaxRetries, -⟩ := h.maxRetries
  have huser := hc.credentials.user
  have hconsumer := hc.credentials.consumer
  have hsomething := hc.credentials.something
  rw [isSome_iff_has h.username, isSome_iff_has h.appPassword] at huser
  rw [isSome_iff_has h.consumerKey, isSome_iff_has h.consumerSecret] at hconsumer
  rw [isSome_iff_has h.token, isSome_iff_has h.username, isSome_iff_has h.appPassword,
    isSome_iff_has h.consumerKey, isSome_iff_has h.consumerSecret] at hsomething
  exact {
    pageSize := ⟨c.pageSize, h.pageSize, hc.pageSize⟩
    maxRetries := ⟨maxRetries, hmaxRetries⟩
    timeout := ⟨c.timeout, h.timeout⟩
    baseUrl := ⟨baseUrl, hbase, hbaseUrl ▸ hc.baseUrl⟩
    firstBaseUrl := ⟨firstBaseUrl, hfirst, hfirstBaseUrl ▸ hc.firstBaseUrl⟩
    loginUrl := ⟨c.loginUrl, h.loginUrl, hc.loginUrl⟩
    user := huser
    consumer := hconsumer
    something := hsomething }

/-- **A valid environment is read.** -/
theorem exists_ofEnvironment (h : env.IsValid) : ∃ c, ofEnvironment env = .ok c := by
  obtain ⟨pageSize, hpageSize, hpositive⟩ := h.pageSize
  obtain ⟨maxRetries, hmaxRetries⟩ := h.maxRetries
  obtain ⟨timeout, htimeout⟩ := h.timeout
  obtain ⟨baseUrl, hbase, hbaseUrl⟩ := h.baseUrl
  obtain ⟨firstBaseUrl, hfirst, hfirstBaseUrl⟩ := h.firstBaseUrl
  obtain ⟨loginUrl, hlogin, hloginUrl⟩ := h.loginUrl
  have huser := h.user
  have hconsumer := h.consumer
  have hsomething := h.something
  -- from what the variables hold to what is put together of them
  simp only [← isSome_value?_iff] at huser hconsumer hsomething
  rw [givesText_iff] at hbase hfirst hlogin
  subst hbase hfirst hlogin
  exact ⟨assemble env pageSize maxRetries timeout, ofEnvironment_eq_ok_iff.2
    ⟨pageSize, maxRetries, timeout, hpageSize, hmaxRetries, htimeout, rfl,
      ⟨hbaseUrl, hfirstBaseUrl, hloginUrl, hpositive, ⟨huser, hconsumer, hsomething⟩⟩⟩⟩

/-- What the variable of the workspaces has in it is read as a list, and blanks are an empty one. -/
theorem workspaces_eq_readList (h : env.Describes c) {s : String}
    (hs : env "BITBUCKET_WORKSPACES" = some s) : c.workspaces = readList s := by
  by_cases hblank : trim s = ""
  · have habsent : ¬ env.Has "BITBUCKET_WORKSPACES" := by
      rintro ⟨s', hs', hne⟩
      obtain rfl := Option.some.inj (hs.symm.trans hs')
      exact hne hblank
    rw [readList_of_blank (Text.trim_eq_empty_iff.1 hblank)]
    exact (gives_of_none (value?_eq_none_iff.2 habsent)).1 h.workspaces
  · have hholds : env.Holds "BITBUCKET_WORKSPACES" s := ⟨hs, hblank⟩
    exact (gives_of_some (value?_eq_some_iff.2 hholds)).1 h.workspaces

/-- **Exactly the valid environments are read.** What is read of one is what it describes: it can
be used, both of its base URLs end in a slash, and its workspaces are the slugs that the entries of
the list spell, whatever blanks and blank entries the list has. -/
theorem environments_accepted (env : Environment) :
    ((∃ c, ofEnvironment env = .ok c) ↔ env.IsValid) ∧
    ∀ c, ofEnvironment env = .ok c →
      c.validate = .ok () ∧ EndsInSlash c.baseUrl ∧ EndsInSlash c.firstBaseUrl ∧ env.Describes c ∧
      ∀ slugs entries, Spells slugs entries →
        env "BITBUCKET_WORKSPACES" = some (joinWith "," entries) → c.workspaces = slugs := by
  refine ⟨⟨?_, exists_ofEnvironment⟩, ?_⟩
  · rintro ⟨c, hc⟩
    obtain ⟨-, -, -, -, -, -, -, husable⟩ := ofEnvironment_eq_ok_iff.1 hc
    exact isValid_of_describes (describes_of_ofEnvironment hc) husable
  · intro c hc
    obtain ⟨-, -, -, -, -, -, -, husable⟩ := ofEnvironment_eq_ok_iff.1 hc
    have hdescribes := describes_of_ofEnvironment hc
    obtain ⟨baseUrl, -, hbase⟩ := hdescribes.baseUrl
    obtain ⟨firstBaseUrl, -, hfirst⟩ := hdescribes.firstBaseUrl
    refine ⟨validate_eq_ok_iff.2 husable, hbase ▸ endsInSlash_withSlash baseUrl,
      hfirst ▸ endsInSlash_withSlash firstBaseUrl, hdescribes, ?_⟩
    intro slugs entries hspells hlist
    exact (workspaces_eq_readList hdescribes hlist).trans (readList_joinWith hspells)

example :
    ofEnvironment (fun
      | "BITBUCKET_TOKEN" => some "t"
      | "BITBUCKET_BASE_URL" => some "http://localhost:7990"
      | "BITBUCKET_WORKSPACES" => some " acme,, widgets ,"
      | "BITBUCKET_PAGE_SIZE" => some " +25 "
      | _ => none) =
      .ok { usual (.ofToken "t") with
        baseUrl := "http://localhost:7990/"
        workspaces := ["acme", "widgets"]
        pageSize := 25 } := by rfl

end Config

end AccessSync
