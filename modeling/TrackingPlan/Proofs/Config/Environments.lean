import TrackingPlan.Config.Reader
import TrackingPlan.Proofs.Entries

/-!
# What an environment does to a configuration

Every setting of a configuration, one by one, is either overridden in an environment or as it was
(`setting?_inEnvironment`), and the settings say all there is in a configuration but its
environments (`eq_of_setting?`).  A configuration that was read from a text passed the checks.  Of
what they check, an environment can override the name of the client only, and nothing is checked
again, so a blank name given there stays (`inEnvironment_blank_client`).

§1 settings, one by one · §2 the checks · §3 in an environment
-/

namespace TrackingPlan.Config

/-! ## §1 — Settings, one by one -/

/-- **A setting.** -/
inductive Setting where
  | planPath
  | output
  | fileName
  | clientName
  | platform
  | generatorVersion
  | planId
  | planVersion
  | logLevel
  | logFormat
  deriving DecidableEq, Repr

/-- What a setting is set to. -/
inductive SettingValue where
  | text (s : String)
  | number (n : Int64)
  deriving DecidableEq

/-- **What a configuration sets.**  The metadata of the plan may be left to the plan. -/
def setting? (c : Config) : Setting → Option SettingValue
  | .planPath => some (.text c.planPath)
  | .output => some (.text c.generator.output)
  | .fileName => some (.text c.generator.fileName)
  | .clientName => some (.text c.generator.clientName)
  | .platform => some (.text c.generator.platform)
  | .generatorVersion => some (.text c.generator.generatorVersion)
  | .planId => c.metadata.planId.map .text
  | .planVersion => c.metadata.planVersion.map .number
  | .logLevel => some (.text c.log.level)
  | .logFormat => some (.text c.log.format)

/-- **What an environment overrides**, out of three sections each of which may be missing. -/
def EnvironmentOverride.setting? (o : EnvironmentOverride) : Setting → Option SettingValue
  | .output => (o.generator.bind (·.output)).map .text
  | .clientName => (o.generator.bind (·.clientName)).map .text
  | .planId => (o.metadata.bind (·.planId)).map .text
  | .planVersion => (o.metadata.bind (·.planVersion)).map .number
  | .logLevel => (o.log.bind (·.level)).map .text
  | .logFormat => (o.log.bind (·.format)).map .text
  | .planPath | .fileName | .platform | .generatorVersion => none

/-- What the environment overrides: nothing if it is not declared. -/
def overridesOf (c : Config) (name : String) : EnvironmentOverride :=
  (c.environments.get? name).getD {}

/-- **The settings and the environments are all there is in a configuration.** -/
theorem eq_of_setting? {c d : Config} (h : ∀ k, c.setting? k = d.setting? k)
    (henvironments : c.environments = d.environments) : c = d := by
  obtain ⟨path, ⟨output, file, client, platform, version⟩, ⟨id, planVersion⟩, ⟨level, format⟩,
    environments⟩ := c
  obtain ⟨path', ⟨output', file', client', platform', version'⟩, ⟨id', planVersion'⟩,
    ⟨level', format'⟩, environments'⟩ := d
  have text {s t : String} (h : some (SettingValue.text s) = some (.text t)) : s = t :=
    SettingValue.text.inj (Option.some.inj h)
  obtain rfl := text (h .planPath)
  obtain rfl := text (h .output)
  obtain rfl := text (h .fileName)
  obtain rfl := text (h .clientName)
  obtain rfl := text (h .platform)
  obtain rfl := text (h .generatorVersion)
  obtain rfl := Option.map_injective (fun _ _ => SettingValue.text.inj) (h .planId)
  obtain rfl := Option.map_injective (fun _ _ => SettingValue.number.inj) (h .planVersion)
  obtain rfl := text (h .logLevel)
  obtain rfl := text (h .logFormat)
  obtain rfl : environments = environments' := henvironments
  rfl

/-! ## §2 — The checks -/

theorem check_eq_ok_iff (c : Config) :
    c.check = .ok () ↔ Text.isBlankText c.generator.fileName = false ∧
      isSourceFile c.generator.fileName = true ∧
      Text.isBlankText c.generator.clientName = false := by
  unfold check
  split_ifs <;> simp_all

/-- What a text says was checked. -/
theorem ofText_eq_ok_iff {valueOf : String → Option String} {text : String} {c : Config} :
    ofText valueOf text = .ok c ↔ ofToml? (expand valueOf text) = some c ∧ c.check = .ok () := by
  unfold ofText
  cases ofToml? (expand valueOf text) with
  | none => simp
  | some d =>
      constructor
      · intro h
        cases hd : d.check with
        | error e => simp [hd, bind, Except.bind] at h
        | ok u =>
            obtain rfl : d = c := by simpa [hd, bind, Except.bind, pure, Except.pure] using h
            exact ⟨rfl, hd⟩
      · rintro ⟨hread, hc⟩
        obtain rfl := Option.some.inj hread
        simp [hc, bind, Except.bind, pure, Except.pure]

/-! ## §3 — In an environment -/

/-- The configuration in an environment, declared or not. -/
theorem inEnvironment_eq (c : Config) (name : String) :
    c.inEnvironment name =
      { c with
        generator := c.generator.apply ((c.overridesOf name).generator.getD {})
        metadata := c.metadata.apply ((c.overridesOf name).metadata.getD {})
        log := c.log.apply ((c.overridesOf name).log.getD {})
        environments := c.environments.filter (·.1 != name) } := by
  unfold inEnvironment overridesOf
  cases h : c.environments.get? name with
  | some o => rfl
  | none =>
      have hkept : c.environments.filter (·.1 != name) = c.environments :=
        List.filter_eq_self.2 fun e he => bne_iff_ne.2 fun hname =>
          Entries.get?_eq_none_iff.1 h (hname ▸ List.mem_map_of_mem he)
      rw [hkept]
      rfl

/-- **A setting in an environment** is what the environment overrides it with, else as it was. -/
theorem setting?_inEnvironment (c : Config) (name : String) (k : Setting) :
    (c.inEnvironment name).setting? k =
      ((c.overridesOf name).setting? k).or (c.setting? k) := by
  rw [inEnvironment_eq]
  obtain ⟨generator, metadata, log⟩ := c.overridesOf name
  -- a section that is missing overrides what one that leaves the setting out does: nothing
  cases k with
  | planPath | fileName | platform | generatorVersion => rfl
  | output => obtain _ | ⟨_ | _, _⟩ := generator <;> rfl
  | clientName => obtain _ | ⟨_, _ | _⟩ := generator <;> rfl
  | planId => obtain _ | ⟨_ | _, _⟩ := metadata <;> rfl
  | planVersion => obtain _ | ⟨_, _ | _⟩ := metadata <;> rfl
  | logLevel => obtain _ | ⟨_ | _, _⟩ := log <;> rfl
  | logFormat => obtain _ | ⟨_, _ | _⟩ := log <;> rfl

theorem clientName_inEnvironment (c : Config) (name : String) :
    (c.inEnvironment name).generator.clientName =
      ((c.overridesOf name).generator.bind (·.clientName)).getD c.generator.clientName := by
  rw [inEnvironment_eq]
  obtain ⟨_ | ⟨_, _ | _⟩, _, _⟩ := c.overridesOf name <;> rfl

/-- No environment overrides the name of the file. -/
theorem fileName_inEnvironment (c : Config) (name : String) :
    (c.inEnvironment name).generator.fileName = c.generator.fileName := by
  rw [inEnvironment_eq]
  rfl

/-- The plan is asked last, and only about what neither the environment nor the rest of the
configuration says. -/
theorem resolveMetadata_inEnvironment (c : Config) (name : String) (plan : PlanMetadata) :
    (c.inEnvironment name).resolveMetadata plan =
      { planId := (((c.overridesOf name).metadata.bind (·.planId)).or
          c.metadata.planId).getD plan.planId
        planVersion := (((c.overridesOf name).metadata.bind (·.planVersion)).or
          c.metadata.planVersion).getD plan.planVersion
        url := plan.url } := by
  rw [inEnvironment_eq]
  obtain ⟨_, _ | ⟨_, _⟩, _⟩ := c.overridesOf name <;> rfl

/-- **The checks in an environment**: a configuration that passed them passes them there exactly
when the environment gives the client no blank name, and fails no other check. -/
theorem check_inEnvironment {c : Config} (h : c.check = .ok ()) (name : String) :
    (c.inEnvironment name).check =
      if ((c.overridesOf name).generator.bind (·.clientName)).any Text.isBlankText then
        .error (.config .emptyClientName)
      else .ok () := by
  obtain ⟨hfile, hsource, hclient⟩ := (check_eq_ok_iff c).1 h
  unfold check
  rw [clientName_inEnvironment, fileName_inEnvironment, hfile, hsource]
  cases (c.overridesOf name).generator.bind (·.clientName) with
  | none => simp [hclient]
  | some n => simp

/-- **A configuration in an environment.**  Whatever text it was read from and whatever the
environment, declared or not: each setting is what the environment overrides it with, and else as
it was; only the environment itself is no longer declared; and this is all there is in the
configuration.  The metadata is what the environment says, else the configuration, else the plan.
The file still passes its checks, and the client does exactly when the environment gives it no
blank name. -/
theorem inEnvironment_overrides {valueOf : String → Option String} {text : String} {c : Config}
    (h : ofText valueOf text = .ok c) (name : String) :
    (∀ d : Config, d = c.inEnvironment name ↔
      (∀ k, d.setting? k = ((c.overridesOf name).setting? k).or (c.setting? k)) ∧
        d.environments = c.environments.filter (·.1 != name)) ∧
    (∀ plan, (c.inEnvironment name).resolveMetadata plan =
      { planId := (((c.overridesOf name).metadata.bind (·.planId)).or
          c.metadata.planId).getD plan.planId
        planVersion := (((c.overridesOf name).metadata.bind (·.planVersion)).or
          c.metadata.planVersion).getD plan.planVersion
        url := plan.url }) ∧
    (Text.isBlankText (c.inEnvironment name).generator.fileName = false ∧
      isSourceFile (c.inEnvironment name).generator.fileName = true) ∧
    ((c.inEnvironment name).check = .ok () ↔
      ∀ client, (c.overridesOf name).setting? .clientName = some (.text client) →
        Text.isBlankText client = false) ∧
    ((c.inEnvironment name).check ≠ .ok () →
      (c.inEnvironment name).check = .error (.config .emptyClientName)) := by
  have hcheck := (ofText_eq_ok_iff.1 h).2
  obtain ⟨hfile, hsource, -⟩ := (check_eq_ok_iff c).1 hcheck
  refine ⟨fun d => ⟨?_, fun ⟨hsettings, henvironments⟩ => eq_of_setting? ?_ ?_⟩,
    resolveMetadata_inEnvironment c name, ?_, ?_, ?_⟩
  · rintro rfl
    exact ⟨setting?_inEnvironment c name, by rw [inEnvironment_eq]⟩
  · exact fun k => (hsettings k).trans (setting?_inEnvironment c name k).symm
  · rw [henvironments, inEnvironment_eq]
  · rw [fileName_inEnvironment]
    exact ⟨hfile, hsource⟩
  · rw [check_inEnvironment hcheck]
    simp only [EnvironmentOverride.setting?]
    cases (c.overridesOf name).generator.bind (·.clientName) with
    | none => simp
    | some client => simp
  · rw [check_inEnvironment hcheck]
    split_ifs with hblank
    · exact fun _ => rfl
    · exact fun hne => absurd rfl hne

/-- A configuration that gives the version of the plan, and an environment that gives its id. -/
def stagingText : String :=
  "metadata.tracking_plan_version = 2\n[environments.staging]\n" ++
    "metadata.tracking_plan_id = \"tp\"\n"

/-- What `stagingText` says. -/
def staging : Config :=
  { metadata := { planVersion := some 2 }
    environments := [("staging", { metadata := some { planId := some "tp" } })] }

/-- The environment gives the id, the configuration the version, and the client stays. -/
theorem inEnvironment_overrides_staging :
    ofText (fun _ => none) stagingText = .ok staging ∧
      (staging.inEnvironment "staging").check = .ok () ∧
      (staging.inEnvironment "staging").setting? .planId = some (.text "tp") ∧
      (staging.inEnvironment "staging").setting? .clientName = some (.text "TypedAnalytics") ∧
      (staging.inEnvironment "staging").resolveMetadata ⟨"plan", 1, none⟩ = ⟨"tp", 2, none⟩ := by
  have hread : ofText (fun _ => none) stagingText = .ok staging :=
    ofText_eq_ok_iff.2 ⟨by decide +kernel, rfl⟩
  obtain ⟨hsettings, hmetadata, -, hcheck, -⟩ := inEnvironment_overrides hread "staging"
  have hvalues := ((hsettings _).1 rfl).1
  have hclient : (staging.overridesOf "staging").setting? .clientName = none := rfl
  refine ⟨hread, hcheck.2 ?_, hvalues .planId, hvalues .clientName, hmetadata _⟩
  simp [hclient]

/-- **Nothing checks an environment**: the text is accepted, and the client has no name in the
environment it declares. -/
theorem inEnvironment_blank_client :
    ∃ c, ofText (fun _ => none) "[environments.dev.generator]\nclient_name = \"\"\n" = .ok c ∧
      (c.inEnvironment "dev").check = .error (.config .emptyClientName) :=
  ⟨{ environments := [("dev", { generator := some { clientName := some "" } })] },
    ofText_eq_ok_iff.2 ⟨by decide +kernel, rfl⟩, rfl⟩

end TrackingPlan.Config
