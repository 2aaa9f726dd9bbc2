import RosMcp.Contracts.RootConfig
import RosMcp.Lib.PyFloat
import RosMcp.Lib.Run

/-!
# The configuration provider (`config/provider.py`)

`_load` reads the file, has pydantic validate it and lets two environment variables override the logging section.
`reload` loads without the lock and then replaces the root under it, so reloads of several threads interleave, and one
that fails replaces nothing.

The conversions of `model_validate` are pydantic's own: of the configuration that it returns all that is used is that
its models have checked it (`ConfigLoader.Validates`).  In every run the root in effect is one that a single load has
returned, it passes all its checks, and whatever the environment holds at each load changes the logging section alone
(`settings_ignore_environment`).
-/

namespace RosMcp

variable {N : Type}

/-! ### Loading -/

/-- What `yaml.safe_load` returns; `other` is a value of another type (a date, binary data, a set). -/
inductive YamlValue (N : Type)
  | null
  | bool (b : Bool)
  | int (n : ℤ)
  | float (x : N)
  | str (s : String)
  | list (items : List (YamlValue N))
  | dict (fields : List (YamlValue N × YamlValue N))
  | other (truthy : Bool)

/-- What `_load` finds at its path: no file, an `OSError` of `read_text`, another exception of it, text that is no YAML,
or a value. -/
inductive FileContent (N : Type)
  | missing
  | unreadable (message : String)
  | undecodable (exc : PyException)
  | invalidYaml (message : String)
  | parsed (raw : YamlValue N)

/-- `ROS_MCP_LOG_LEVEL` and `ROS_MCP_LOG_FORMAT`. -/
structure LoggingEnv where
  logLevel : Option String
  logFormat : Option String

inductive LoadError
  | configLoadError (message : String)
  | raised (exc : PyException)
  deriving DecidableEq, Repr

/-- The truth value of a variable that may not be set. -/
def isSet : Option String → Bool
  | some value => value ≠ ""
  | none => false

/-- The overrides of `_load`, which are not validated. -/
def overrideLogging (env : LoggingEnv) (root : RootConfig N) : RootConfig N :=
  if isSet env.logLevel || isSet env.logFormat then
    { root with
      logging :=
        { level := if isSet env.logLevel then env.logLevel.getD "" else root.logging.level
          format :=
            if env.logFormat = some "json" then .json
            else if env.logFormat = some "text" then .text
            else root.logging.format } }
  else root

/-- The truth value of what `yaml.safe_load` returns. -/
def YamlValue.truthy [Zero N] [DecidableEq N] : YamlValue N → Bool
  | .null => false
  | .bool b => b
  | .int n => n ≠ 0
  | .float x => x ≠ 0
  | .str s => s ≠ ""
  | .list items => !items.isEmpty
  | .dict fields => !fields.isEmpty
  | .other truthy => truthy

/-- The loader: its path, and `RootConfig.model_validate` of pydantic, with the text of its `ValidationError`. -/
structure ConfigLoader (N : Type) where
  path : String
  modelValidate : YamlValue N → Except String (RootConfig N)

/-- What `model_validate` returns has passed the bounds of its fields and its validators. -/
def ConfigLoader.Validates [LT N] [LE N] [Zero N] (loader : ConfigLoader N) : Prop :=
  ∀ raw root, loader.modelValidate raw = .ok root → root.Accepted

section Load

variable [Zero N] [DecidableEq N] (loader : ConfigLoader N)

/-- `_load` up to the overrides. -/
def ConfigLoader.validate : FileContent N → Except LoadError (RootConfig N)
  | .missing => .error (.configLoadError ("config file not found: " ++ loader.path))
  | .unreadable message =>
    .error (.configLoadError ("could not read config file " ++ loader.path ++ ": " ++ message))
  | .undecodable exc => .error (.raised exc)
  | .invalidYaml message => .error (.configLoadError ("invalid YAML in " ++ loader.path ++ ": " ++ message))
  | .parsed raw =>
    match loader.modelValidate (if raw.truthy then raw else .dict []) with
    | .error message => .error (.configLoadError ("invalid config in " ++ loader.path ++ ":\n" ++ message))
    | .ok root => .ok root

/-- `_load` -/
def ConfigLoader.load (file : FileContent N) (env : LoggingEnv) : Except LoadError (RootConfig N) :=
  (loader.validate file).map (overrideLogging env)

end Load

/-! ### The provider -/

abbrev ReloadId := Nat

/-- `_root`, and `new_root` of the reloads that have not taken the lock yet. -/
structure ConfigProvider (N : Type) where
  root : RootConfig N
  loaded : ReloadId → Option (RootConfig N)

inductive ProviderAction (N : Type)
  | load (r : ReloadId) (file : FileContent N) (env : LoggingEnv)
  | replace (r : ReloadId)

namespace ConfigProvider

section Source

variable [Zero N] [DecidableEq N] (loader : ConfigLoader N)

/-- The constructor. -/
def construct (file : FileContent N) (env : LoggingEnv) : Except LoadError (ConfigProvider N) :=
  (loader.load file env).map fun root => ⟨root, fun _ => none⟩

def step (s : ConfigProvider N) : ProviderAction N → Option (ConfigProvider N)
  | .load r file env =>
    if (s.loaded r).isSome then none
    else
      match loader.load file env with
      | .ok root => some { s with loaded := Function.update s.loaded r (some root) }
      -- `reload` raises
      | .error _ => some s
  | .replace r =>
    (s.loaded r).map fun root => ⟨root, Function.update s.loaded r none⟩

end Source

/-- What the load of a step has found. -/
def found (_ : ConfigProvider N) : ProviderAction N → List (FileContent N × LoggingEnv)
  | .load _ file env => [(file, env)]
  | .replace _ => []

/-- The same action with another environment. -/
inductive SameFile : ProviderAction N → ProviderAction N → Prop
  | load (r : ReloadId) (file : FileContent N) (env env' : LoggingEnv) :
      SameFile (.load r file env) (.load r file env')
  | replace (r : ReloadId) : SameFile (.replace r) (.replace r)

end ConfigProvider

/-! ### The logging section -/

/-- The same configuration, but for the logging section. -/
def RootConfig.Alike (root root' : RootConfig N) : Prop := { root' with logging := root.logging } = root

private theorem overrideLogging_eq (env : LoggingEnv) (root : RootConfig N) :
    ∃ logging, overrideLogging env root = { root with logging } := by
  unfold overrideLogging
  split
  · exact ⟨_, rfl⟩
  · exact ⟨root.logging, rfl⟩

private theorem overrideLogging_alike (env env' : LoggingEnv) (root : RootConfig N) :
    (overrideLogging env root).Alike (overrideLogging env' root) := by
  obtain ⟨logging, h⟩ := overrideLogging_eq env root
  obtain ⟨logging', h'⟩ := overrideLogging_eq env' root
  rw [h, h']
  rfl

/-! ### One load -/

section Load

variable [Zero N] [DecidableEq N] {loader : ConfigLoader N} {file : FileContent N} {env : LoggingEnv}
  {root : RootConfig N}

private theorem load_accepted [LT N] [LE N] (hvalidates : loader.Validates) (h : loader.load file env = .ok root) :
    root.Accepted := by
  unfold ConfigLoader.load at h
  cases hvalidate : loader.validate file with
  | error e =>
    rw [hvalidate] at h
    cases h
  | ok validated =>
    rw [hvalidate] at h
    obtain rfl : overrideLogging env validated = root := Except.ok.inj h
    have haccepted : validated.Accepted := by
      cases file with
      | missing | unreadable | undecodable | invalidYaml => cases hvalidate
      | parsed raw =>
        simp only [ConfigLoader.validate] at hvalidate
        split at hvalidate
        · cases hvalidate
        · next hroot =>
          obtain rfl := Except.ok.inj hvalidate
          exact hvalidates _ _ hroot
    obtain ⟨logging, heq⟩ := overrideLogging_eq env validated
    rw [heq]
    exact haccepted.withLogging logging

/-- The environment decides nothing but the logging section of a load. -/
private theorem load_alike (h : loader.load file env = .ok root) (env' : LoggingEnv) :
    ∃ root', loader.load file env' = .ok root' ∧ root.Alike root' := by
  unfold ConfigLoader.load at h ⊢
  cases hvalidate : loader.validate file with
  | error e =>
    rw [hvalidate] at h
    cases h
  | ok validated =>
    rw [hvalidate] at h
    obtain rfl : overrideLogging env validated = root := Except.ok.inj h
    exact ⟨_, rfl, overrideLogging_alike env env' validated⟩

private theorem load_error {e : LoadError} (h : loader.load file env = .error e) (env' : LoggingEnv) :
    loader.load file env' = .error e := by
  unfold ConfigLoader.load at h ⊢
  cases hvalidate : loader.validate file with
  | error e' =>
    rw [hvalidate] at h
    exact h
  | ok validated =>
    rw [hvalidate] at h
    cases h

end Load

/-! ### Runs -/

namespace ConfigProvider

section Runs

variable [Zero N] [DecidableEq N] {loader : ConfigLoader N}
  {s s' t : ConfigProvider N} {a a' : ProviderAction N} {seen : List (FileContent N × LoggingEnv)}

/-- Two providers that differ in logging sections only. -/
structure Alike (s s' : ConfigProvider N) : Prop where
  root : s.root.Alike s'.root
  loaded : ∀ r, Option.Rel RootConfig.Alike (s.loaded r) (s'.loaded r)

/-- A step is matched by the step with another environment. -/
theorem Alike.step (h : s.Alike s') (ha : SameFile a a') (hstep : s.step loader a = some t) :
    ∃ t', s'.step loader a' = some t' ∧ t.Alike t' := by
  cases ha with
  | load r file env env' =>
    have hloaded := h.loaded r
    simp only [ConfigProvider.step] at hstep
    split at hstep
    · cases hstep
    · next hnone =>
      rw [Bool.not_eq_true, Option.isSome_eq_false_iff, Option.isNone_iff_eq_none] at hnone
      have hnone' : s'.loaded r = none := by
        rw [hnone] at hloaded
        cases h' : s'.loaded r with
        | none => rfl
        | some root =>
          rw [h'] at hloaded
          cases hloaded
      cases hload : loader.load file env with
      | error e =>
        rw [hload] at hstep
        obtain rfl := Option.some.inj hstep
        refine ⟨s', ?_, h⟩
        simp [ConfigProvider.step, hnone', load_error hload env']
      | ok root =>
        rw [hload] at hstep
        obtain rfl := Option.some.inj hstep
        obtain ⟨root', hload', halike⟩ := load_alike hload env'
        refine ⟨{ s' with loaded := Function.update s'.loaded r (some root') }, ?_, h.root, ?_⟩
        · simp [ConfigProvider.step, hnone', hload']
        · intro r'
          by_cases hr : r' = r
          · subst hr
            simpa using Option.Rel.some halike
          · simpa [hr] using h.loaded r'
  | replace r =>
    have hloaded := h.loaded r
    obtain ⟨root, hroot, rfl⟩ := Option.map_eq_some_iff.1 hstep
    rw [hroot] at hloaded
    cases hroot' : s'.loaded r with
    | none =>
      rw [hroot'] at hloaded
      cases hloaded
    | some root' =>
      rw [hroot'] at hloaded
      cases hloaded with
      | some halike =>
        refine ⟨⟨root', Function.update s'.loaded r none⟩, by simp [ConfigProvider.step, hroot'], halike, ?_⟩
        intro r'
        by_cases hr : r' = r
        · subst hr
          simp
        · simpa [hr] using h.loaded r'

/-- The root in effect and those on their way were each returned by one load. -/
structure FromLoads (loader : ConfigLoader N) (s : ConfigProvider N) (seen : List (FileContent N × LoggingEnv)) :
    Prop where
  root : ∃ source ∈ seen, loader.load source.1 source.2 = .ok s.root
  loaded : ∀ r root, s.loaded r = some root → ∃ source ∈ seen, loader.load source.1 source.2 = .ok root

private theorem FromLoads.step (h : s.FromLoads loader seen) (hstep : s.step loader a = some t) :
    t.FromLoads loader (seen ++ s.found a) := by
  have hmono : ∀ root, (∃ source ∈ seen, loader.load source.1 source.2 = .ok root) →
      ∃ source ∈ seen ++ s.found a, loader.load source.1 source.2 = .ok root := by
    rintro root ⟨source, hmem, hload⟩
    exact ⟨source, List.mem_append_left _ hmem, hload⟩
  cases a with
  | load r file env =>
    simp only [ConfigProvider.step] at hstep
    split at hstep
    · cases hstep
    · split at hstep
      · next root hload =>
        obtain rfl := Option.some.inj hstep
        refine ⟨hmono _ h.root, ?_⟩
        intro r' root' hroot'
        by_cases hr : r' = r
        · subst hr
          obtain rfl : root = root' := by simpa using hroot'
          exact ⟨(file, env), by simp [found], hload⟩
        · exact hmono _ (h.loaded r' root' (by simpa [hr] using hroot'))
      · obtain rfl := Option.some.inj hstep
        exact ⟨hmono _ h.root, fun r' root' hroot' => hmono _ (h.loaded r' root' hroot')⟩
  | replace r =>
    obtain ⟨root, hroot, rfl⟩ := Option.map_eq_some_iff.1 hstep
    refine ⟨hmono _ (h.loaded r root hroot), ?_⟩
    intro r' root' hroot'
    by_cases hr : r' = r
    · subst hr
      simp at hroot'
    · exact hmono _ (h.loaded r' root' (by simpa [hr] using hroot'))

/-- In every run, whatever the environment holds at each of its loads: the same settings outside the logging section,
which one load has returned, and which pass all checks. -/
theorem settings_ignore_environment [LT N] [LE N] (hvalidates : loader.Validates) {file : FileContent N}
    {env : LoggingEnv} {as bs : List (ProviderAction N)} (hconstruct : construct loader file env = .ok s)
    (env' : LoggingEnv) (hfiles : List.Forall₂ SameFile as bs) (hrun : StepSystem.run (step loader) s as = some t) :
    t.root.Accepted ∧
      (∃ source ∈ (file, env) :: StepSystem.outputs (step loader) found s as,
        loader.load source.1 source.2 = .ok t.root) ∧
      ∃ s' t', construct loader file env' = .ok s' ∧ StepSystem.run (step loader) s' bs = some t' ∧
        { t'.root with logging := t.root.logging } = t.root := by
  unfold construct at hconstruct
  cases hload : loader.load file env with
  | error e =>
    rw [hload] at hconstruct
    cases hconstruct
  | ok root =>
    rw [hload] at hconstruct
    obtain rfl := Except.ok.inj hconstruct
    have hloads : t.FromLoads loader ((file, env) :: StepSystem.outputs (step loader) found ⟨root, fun _ => none⟩ as) :=
      StepSystem.outputs_invariant (P := fun s seen => s.FromLoads loader ((file, env) :: seen))
        (fun _ _ _ _ h hstep => h.step hstep) ⟨⟨(file, env), by simp, hload⟩, by rintro r root ⟨⟩⟩ hrun
    obtain ⟨source, hsource, hroot⟩ := hloads.root
    obtain ⟨root', hload', halike⟩ := load_alike hload env'
    have hstart : Alike ⟨root, fun _ => none⟩ ⟨root', fun _ => none⟩ := ⟨halike, fun _ => .none⟩
    obtain ⟨t', hrun', halike'⟩ : ∃ t', StepSystem.run (step loader) ⟨root', fun _ => none⟩ bs = some t' ∧ Alike t t' :=
      StepSystem.run_simulates (fun _ _ _ _ _ h ha hstep => h.step ha hstep) hstart hfiles hrun
    refine ⟨load_accepted hvalidates hroot, ⟨source, hsource, hroot⟩, ⟨root', fun _ => none⟩, t', ?_, hrun',
      halike'.root⟩
    unfold construct
    rw [hload']
    rfl

end Runs

/-- The file that has the robot alone, so that everything else is a default. -/
def sampleFile (robot : RobotConfig) : YamlValue ℚ :=
  .dict [(.str "robot", .dict [(.str "id", .str robot.id), (.str "name", .str robot.name)])]

/-- `model_validate` on such a file, and on any other a failure. -/
def sampleLoader : ConfigLoader ℚ where
  path := "config/robot.yaml"
  modelValidate
    | .dict [(.str "robot", .dict [(.str "id", .str id), (.str "name", .str name)])] =>
      .ok (.defaults (fun q => q) ⟨id, name⟩)
    | _ => .error "1 validation error for RootConfig"

private theorem sampleLoader_validates : sampleLoader.Validates := by
  intro raw root h
  simp only [sampleLoader] at h
  split at h
  · obtain rfl := Except.ok.inj h
    exact RootConfig.defaults_accepted (fun _ _ => Iff.rfl) (fun _ _ => Iff.rfl) rfl _
  · cases h

/-- A reload that finds no file, and one that finds another robot. -/
def sampleReloads (env : LoggingEnv) : List (ProviderAction ℚ) :=
  [.load 0 .missing env, .load 1 (.parsed (sampleFile ⟨"bot2", "n2"⟩)) env, .replace 1]

theorem settings_sample :
    ∃ s' t', construct sampleLoader (.parsed (sampleFile ⟨"bot1", "n1"⟩)) ⟨some "DEBUG", some "text"⟩ = .ok s' ∧
      StepSystem.run (step sampleLoader) s' (sampleReloads ⟨some "DEBUG", some "text"⟩) = some t' ∧
      t'.root.robot = ⟨"bot2", "n2"⟩ := by
  obtain ⟨s, t, hconstruct, hrun, hroot⟩ : ∃ s t,
      construct sampleLoader (.parsed (sampleFile ⟨"bot1", "n1"⟩)) ⟨none, none⟩ = .ok s ∧
        StepSystem.run (step sampleLoader) s (sampleReloads ⟨none, none⟩) = some t ∧
        t.root.robot = ⟨"bot2", "n2"⟩ := ⟨_, _, rfl, rfl, rfl⟩
  have hfiles : List.Forall₂ SameFile (sampleReloads ⟨none, none⟩) (sampleReloads ⟨some "DEBUG", some "text"⟩) :=
    .cons (.load _ _ _ _) (.cons (.load _ _ _ _) (.cons (.replace _) .nil))
  obtain ⟨-, -, s', t', hconstruct', hrun', halike⟩ :=
    settings_ignore_environment sampleLoader_validates hconstruct ⟨some "DEBUG", some "text"⟩ hfiles hrun
  refine ⟨s', t', hconstruct', hrun', ?_⟩
  have hrobot : t.root.robot = t'.root.robot := by rw [← halike]
  rw [← hrobot, hroot]

end ConfigProvider

end RosMcp
