import RosMcp.Capabilities.Candidates

/-!
# Which graphs inference tells apart

A rule with a configured topic makes four things of its candidates: nothing, the configured topic, the only topic, or an
ambiguous entry (`Candidacy.Gives`).  Two walks over graphs with the same actions and frames therefore give the same
entries exactly when they show candidates that every rule treats alike (`infer_collect_eq_iff`).
-/

namespace RosMcp

variable {N : Type}

/-- What a rule asks about its candidates. -/
structure Candidacy (α : Type) where
  missing : Prop
  configured : Prop
  sole : α → Prop

/-- The rule treats the two alike: only a configured topic makes it overlook the others. -/
structure Candidacy.Alike {α : Type} (c c' : Candidacy α) : Prop where
  configured : c.configured ↔ c'.configured
  missing : ¬ c.configured → (c.missing ↔ c'.missing)
  sole : ¬ c.configured → ∀ a, c.sole a ↔ c'.sole a

/-- What is configured decides the entry. -/
theorem Candidacy.Alike.of_configured {α : Type} {c c' : Candidacy α} (h : c.configured) (h' : c'.configured) :
    c.Alike c' :=
  ⟨iff_of_true h h', fun hno => absurd h hno, fun hno => absurd h hno⟩

/-- The entry that a rule makes of its candidates. -/
inductive Candidacy.Gives {α E : Type} (c : Candidacy α) (confirmed : E) (likely : α → E) (ambiguous : E) :
    Option E → Prop
  | configured (h : c.configured) : c.Gives confirmed likely ambiguous (some confirmed)
  | missing (h : ¬ c.configured) (hmissing : c.missing) (hsole : ∀ a, ¬ c.sole a) :
    c.Gives confirmed likely ambiguous none
  | sole (a : α) (h : ¬ c.configured) (hmissing : ¬ c.missing) (hsole : ∀ b, c.sole b ↔ b = a) :
    c.Gives confirmed likely ambiguous (some (likely a))
  | several (h : ¬ c.configured) (hmissing : ¬ c.missing) (hsole : ∀ a, ¬ c.sole a) :
    c.Gives confirmed likely ambiguous (some ambiguous)

/-- A rule whose entries differ gives the same entry exactly to what it treats alike. -/
theorem Candidacy.Gives.eq_iff {α E : Type} {c c' : Candidacy α} {confirmed ambiguous : E} {likely : α → E}
    {entry entry' : Option E} (h : c.Gives confirmed likely ambiguous entry)
    (h' : c'.Gives confirmed likely ambiguous entry') (hlikely : ∀ a b, likely a = likely b → a = b)
    (hconfirmed : ∀ a, confirmed ≠ likely a) (hambiguous : ∀ a, ambiguous ≠ likely a) (hne : confirmed ≠ ambiguous) :
    entry = entry' ↔ c.Alike c' := by
  constructor
  · intro heq
    cases h with
    | configured h =>
      cases h' with
      | configured h' => exact .of_configured h h'
      | missing => cases heq
      | sole a => exact absurd (Option.some.inj heq) (hconfirmed a)
      | several => exact absurd (Option.some.inj heq) hne
    | missing h hmissing hsole =>
      cases h' with
      | missing h' hmissing' hsole' =>
        exact ⟨iff_of_false h h', fun _ => iff_of_true hmissing hmissing', fun _ a => iff_of_false (hsole a) (hsole' a)⟩
      | configured | sole | several => cases heq
    | sole a h hmissing hsole =>
      cases h' with
      | configured => exact absurd (Option.some.inj heq).symm (hconfirmed a)
      | missing => cases heq
      | sole b h' hmissing' hsole' =>
        obtain rfl := hlikely a b (Option.some.inj heq)
        exact ⟨iff_of_false h h', fun _ => iff_of_false hmissing hmissing', fun _ b => (hsole b).trans (hsole' b).symm⟩
      | several => exact absurd (Option.some.inj heq).symm (hambiguous a)
    | several h hmissing hsole =>
      cases h' with
      | configured => exact absurd (Option.some.inj heq).symm hne
      | missing => cases heq
      | sole a => exact absurd (Option.some.inj heq) (hambiguous a)
      | several h' hmissing' hsole' =>
        exact ⟨iff_of_false h h', fun _ => iff_of_false hmissing hmissing',
          fun _ a => iff_of_false (hsole a) (hsole' a)⟩
  · intro halike
    cases h with
    | configured h =>
      cases h' with
      | configured => rfl
      | missing h' | sole _ h' | several h' => exact absurd (halike.configured.1 h) h'
    | missing h hmissing _ =>
      cases h' with
      | configured h' => exact absurd (halike.configured.2 h') h
      | missing => rfl
      | sole _ _ hmissing' | several _ hmissing' => exact absurd ((halike.missing h).1 hmissing) hmissing'
    | sole a h hmissing hsole =>
      have hsole' := (halike.sole h a).1 ((hsole a).2 rfl)
      cases h' with
      | configured h' => exact absurd (halike.configured.2 h') h
      | missing _ _ hno | several _ _ hno => exact absurd hsole' (hno a)
      | sole b _ _ hb => rw [(hb a).1 hsole']
    | several h hmissing hsole =>
      cases h' with
      | configured h' => exact absurd (halike.configured.2 h') h
      | missing _ hmissing' => exact absurd ((halike.missing h).2 hmissing') hmissing
      | sole b _ _ hb => exact absurd ((halike.sole h b).2 ((hb b).2 rfl)) (hsole b)
      | several => rfl

/-! ### The rules -/

/-- What the rules with one configured topic ask. -/
def topicCandidacy (configured : String) (shown : Set String) : Candidacy String where
  missing := shown = ∅
  configured := configured ∈ shown
  sole only := shown = {only}

/-- What the rule for the motion capability asks. -/
def motionCandidacy (cfg : MotionCapabilityConfig) (twists odoms : Set String) : Candidacy (String × String) where
  missing := twists = ∅ ∨ odoms = ∅
  configured := cfg.cmdVelTopic ∈ twists ∧ cfg.odomTopic ∈ odoms
  sole pair := twists = {pair.1} ∧ odoms = {pair.2}

section Rules

private theorem singleton_eq_iff {a b : String} : ({n | n ∈ [a]} : Set String) = {b} ↔ b = a := by
  constructor
  · intro h
    have hb : b ∈ ({n | n ∈ [a]} : Set String) := by
      rw [h]
      exact Set.mem_singleton b
    simpa using hb
  · rintro rfl
    ext n
    simp

private theorem nil_ne_singleton {a : String} : ({n | n ∈ []} : Set String) ≠ {a} := by
  intro h
  have ha : a ∈ ({n | n ∈ []} : Set String) := by
    rw [h]
    exact Set.mem_singleton a
  simp at ha

/-- Two different names are no singleton. -/
private theorem pair_ne_singleton {a b : String} {names : List String} (hne : a ≠ b) (only : String) :
    ({n | n ∈ a :: b :: names} : Set String) ≠ {only} := by
  intro h
  have ha : a ∈ ({only} : Set String) := by
    rw [← h]
    simp
  have hb : b ∈ ({only} : Set String) := by
    rw [← h]
    simp
  exact hne (ha.trans hb.symm)

private theorem cons_ne_empty (a : String) (names : List String) : ({n | n ∈ a :: names} : Set String) ≠ ∅ := by
  intro h
  have ha : a ∈ ({n | n ∈ a :: names} : Set String) := by simp
  rw [h] at ha
  exact ha

/-- The rule with one configured topic. -/
private theorem singleTopicEntry_gives (capabilityId backendId configuredName resolvedKey : String)
    {names : List String}
    (hnodup : names.Nodup) :
    (topicCandidacy configuredName {n | n ∈ names}).Gives
      (⟨capabilityId, .confirmed, some backendId, [(resolvedKey, configuredName)], []⟩ : CapabilityEntry N)
      (fun only => ⟨capabilityId, .likely, some backendId, [(resolvedKey, only)], []⟩)
      ⟨capabilityId, .ambiguous, some backendId, [], []⟩
      (singleTopicEntry capabilityId backendId configuredName resolvedKey names) := by
  unfold singleTopicEntry
  by_cases hconfigured : configuredName ∈ names
  · rw [if_pos hconfigured]
    exact .configured hconfigured
  · rw [if_neg hconfigured]
    rcases names with _ | ⟨first, _ | ⟨second, rest⟩⟩
    · exact .missing hconfigured (by simp [topicCandidacy]) fun a => nil_ne_singleton
    · exact .sole first hconfigured (cons_ne_empty _ _) fun b => singleton_eq_iff
    · have hne : first ≠ second := by
        rw [List.nodup_cons, List.mem_cons, not_or] at hnodup
        exact hnodup.1.1
      exact .several hconfigured (cons_ne_empty _ _) (pair_ne_singleton hne)

/-- The rule with two configured topics. -/
private theorem motionTopicsEntry_gives (cfg : MotionCapabilityConfig) (safety : SafetyConfig N)
    {twists odoms : List String}
    (htwists : twists.Nodup) (hodoms : odoms.Nodup) :
    (motionCandidacy cfg {n | n ∈ twists} {n | n ∈ odoms}).Gives
      (motionEntry safety .confirmed [("cmd_vel", cfg.cmdVelTopic), ("odom", cfg.odomTopic)])
      (fun pair => motionEntry safety .likely [("cmd_vel", pair.1), ("odom", pair.2)])
      (motionEntry safety .ambiguous []) (motionTopicsEntry cfg safety twists odoms) := by
  unfold motionTopicsEntry
  by_cases hconfigured : cfg.cmdVelTopic ∈ twists ∧ cfg.odomTopic ∈ odoms
  · rw [if_pos hconfigured]
    exact .configured hconfigured
  · rw [if_neg hconfigured]
    rcases twists with _ | ⟨twist, twists⟩
    · exact .missing hconfigured (Or.inl (by simp)) fun _ h => nil_ne_singleton h.1
    rcases odoms with _ | ⟨odom, odoms⟩
    · exact .missing hconfigured (Or.inr (by simp)) fun _ h => nil_ne_singleton h.2
    have hshown : ¬ (({n | n ∈ twist :: twists} : Set String) = ∅ ∨ ({n | n ∈ odom :: odoms} : Set String) = ∅) := by
      rintro (h | h)
      · exact cons_ne_empty _ _ h
      · exact cons_ne_empty _ _ h
    rcases twists with _ | ⟨second, twists⟩
    · rcases odoms with _ | ⟨second, odoms⟩
      · refine .sole (twist, odom) hconfigured hshown ?_
        intro pair
        rw [Prod.ext_iff]
        exact and_congr singleton_eq_iff singleton_eq_iff
      · have hne : odom ≠ second := by
          rw [List.nodup_cons, List.mem_cons, not_or] at hodoms
          exact hodoms.1.1
        exact .several hconfigured hshown fun _ h => pair_ne_singleton hne _ h.2
    · have hne : twist ≠ second := by
        rw [List.nodup_cons, List.mem_cons, not_or] at htwists
        exact htwists.1.1
      rcases odoms with _ | ⟨second', odoms⟩
      · exact .several hconfigured hshown fun _ h => pair_ne_singleton hne _ h.1
      · exact .several hconfigured hshown fun _ h => pair_ne_singleton hne _ h.1

private theorem singleTopicEntry_eq_iff {capabilityId backendId configuredName resolvedKey : String}
    {names names' : List String} (hnames : names.Nodup) (hnames' : names'.Nodup) :
    singleTopicEntry (N := N) capabilityId backendId configuredName resolvedKey names =
        singleTopicEntry capabilityId backendId configuredName resolvedKey names' ↔
      (topicCandidacy configuredName {n | n ∈ names}).Alike (topicCandidacy configuredName {n | n ∈ names'}) :=
  (singleTopicEntry_gives _ _ _ _ hnames).eq_iff (singleTopicEntry_gives _ _ _ _ hnames') (by simp) (by simp) (by simp)
    (by simp)

private theorem motionTopicsEntry_eq_iff {cfg : MotionCapabilityConfig} {safety : SafetyConfig N}
    {twists twists' odoms odoms' : List String} (htwists : twists.Nodup) (hodoms : odoms.Nodup)
    (htwists' : twists'.Nodup) (hodoms' : odoms'.Nodup) :
    motionTopicsEntry cfg safety twists odoms = motionTopicsEntry cfg safety twists' odoms' ↔
      (motionCandidacy cfg {n | n ∈ twists} {n | n ∈ odoms}).Alike
        (motionCandidacy cfg {n | n ∈ twists'} {n | n ∈ odoms'}) := by
  have hgives := motionTopicsEntry_gives cfg safety htwists hodoms
  have hgives' := motionTopicsEntry_gives cfg safety htwists' hodoms'
  refine hgives.eq_iff hgives' ?_ (by simp [motionEntry]) (by simp [motionEntry]) (by simp [motionEntry])
  rintro ⟨t, o⟩ ⟨t', o'⟩ h
  simpa [motionEntry] using h

end Rules

/-! ### The entries of two graphs -/

/-- The topics that the walk shows under some types. -/
def shown (nodes : List GraphNode) (typeNames : List String) : Set String := {topic | Shows nodes typeNames topic}

/-- Every rule that looks at the topics treats those of the two graphs alike. -/
structure AlikeTopics (overrides : CapabilityConfig) (nodes nodes' : List GraphNode) : Prop where
  motion : overrides.motion.enabled = true →
    (motionCandidacy overrides.motion (shown nodes twistTypes) (shown nodes [odomType])).Alike
      (motionCandidacy overrides.motion (shown nodes' twistTypes) (shown nodes' [odomType]))
  scan : (topicCandidacy overrides.lidarTopic (shown nodes [laserScanType])).Alike
    (topicCandidacy overrides.lidarTopic (shown nodes' [laserScanType]))
  image : (topicCandidacy overrides.cameraImageTopic (shown nodes imageTypes)).Alike
    (topicCandidacy overrides.cameraImageTopic (shown nodes' imageTypes))
  pose : "/amcl_pose" ∈ shown nodes [poseWithCovType] ↔ "/amcl_pose" ∈ shown nodes' [poseWithCovType]

section Collect

variable {graph graph' : RosGraph} {version version' : Nat} {overrides : CapabilityConfig} {safety : SafetyConfig N}

private theorem candidates_collect_nodup {typeNames : List String} :
    (candidates (collectGraphSnapshot graph version) typeNames).Nodup :=
  (pairwise_candidates_collect).imp fun h => h.ne

private theorem mem_candidates_eq_shown {typeNames : List String} :
    {n | n ∈ candidates (collectGraphSnapshot graph version) typeNames} = shown graph.nodes typeNames := by
  ext topic
  exact mem_candidates_collect

private theorem inferDifferentialDriveMotion_collect_eq_iff :
    inferDifferentialDriveMotion (collectGraphSnapshot graph' version') overrides safety =
        inferDifferentialDriveMotion (collectGraphSnapshot graph version) overrides safety ↔
      (overrides.motion.enabled = true →
        (motionCandidacy overrides.motion (shown graph'.nodes twistTypes) (shown graph'.nodes [odomType])).Alike
          (motionCandidacy overrides.motion (shown graph.nodes twistTypes) (shown graph.nodes [odomType]))) := by
  by_cases henabled : overrides.motion.enabled = true
  · rw [inferDifferentialDriveMotion_candidates _ safety henabled,
      inferDifferentialDriveMotion_candidates _ safety henabled,
      motionTopicsEntry_eq_iff candidates_collect_nodup candidates_collect_nodup candidates_collect_nodup
        candidates_collect_nodup]
    simp only [mem_candidates_eq_shown, henabled, true_imp_iff]
  · rw [inferDifferentialDriveMotion_disabled _ safety henabled,
      inferDifferentialDriveMotion_disabled _ safety henabled]
    simp [henabled]

private theorem inferRangeSensing_collect_eq_iff :
    inferRangeSensing (N := N) (collectGraphSnapshot graph' version') overrides =
        inferRangeSensing (collectGraphSnapshot graph version) overrides ↔
      (topicCandidacy overrides.lidarTopic (shown graph'.nodes [laserScanType])).Alike
        (topicCandidacy overrides.lidarTopic (shown graph.nodes [laserScanType])) := by
  rw [inferRangeSensing_candidates, inferRangeSensing_candidates,
    singleTopicEntry_eq_iff candidates_collect_nodup candidates_collect_nodup, mem_candidates_eq_shown,
    mem_candidates_eq_shown]

private theorem inferVisualObservation_collect_eq_iff :
    inferVisualObservation (N := N) (collectGraphSnapshot graph' version') overrides =
        inferVisualObservation (collectGraphSnapshot graph version) overrides ↔
      (topicCandidacy overrides.cameraImageTopic (shown graph'.nodes imageTypes)).Alike
        (topicCandidacy overrides.cameraImageTopic (shown graph.nodes imageTypes)) := by
  rw [inferVisualObservation_candidates, inferVisualObservation_candidates,
    singleTopicEntry_eq_iff candidates_collect_nodup candidates_collect_nodup, mem_candidates_eq_shown,
    mem_candidates_eq_shown]

private theorem inferLocalization_collect_eq_iff (hframes : graph'.frames = graph.frames) :
    inferLocalization (N := N) (collectGraphSnapshot graph' version') =
        inferLocalization (collectGraphSnapshot graph version) ↔
      ("/amcl_pose" ∈ shown graph'.nodes [poseWithCovType] ↔ "/amcl_pose" ∈ shown graph.nodes [poseWithCovType]) := by
  rw [← @mem_candidates_eq_shown graph version, ← @mem_candidates_eq_shown graph' version']
  constructor
  · intro h
    have hconfirmed := iff_of_eq (congrArg Confirmed h)
    rwa [confirmed_localization_iff, confirmed_localization_iff] at hconfirmed
  · intro h
    refine inferLocalization_congr h ?_
    simp only [collectGraphSnapshot, tfFrames, hframes]

/-- Two walks over graphs with the same actions and frames give the same entries exactly when the rules treat their
topics alike. -/
theorem infer_collect_eq_iff (hactions : graph'.actions = graph.actions) (hframes : graph'.frames = graph.frames) :
    infer (collectGraphSnapshot graph' version') overrides safety =
        infer (collectGraphSnapshot graph version) overrides safety ↔
      AlikeTopics overrides graph'.nodes graph.nodes := by
  have hnavigation : inferAutonomousNavigation (collectGraphSnapshot graph' version') overrides safety =
      inferAutonomousNavigation (collectGraphSnapshot graph version) overrides safety := by
    refine inferAutonomousNavigation_perm overrides safety (.of_eq ?_)
    simp only [collectGraphSnapshot, hactions]
  rw [infer_eq_iff]
  constructor
  · rintro ⟨hmotion, -, hlocalization, hscan, himage⟩
    exact ⟨inferDifferentialDriveMotion_collect_eq_iff.1 hmotion, inferRangeSensing_collect_eq_iff.1 hscan,
      inferVisualObservation_collect_eq_iff.1 himage, (inferLocalization_collect_eq_iff hframes).1 hlocalization⟩
  · rintro ⟨hmotion, hscan, himage, hpose⟩
    exact ⟨inferDifferentialDriveMotion_collect_eq_iff.2 hmotion, hnavigation,
      (inferLocalization_collect_eq_iff hframes).2 hpose, inferRangeSensing_collect_eq_iff.2 hscan,
      inferVisualObservation_collect_eq_iff.2 himage⟩

end Collect

end RosMcp
