import RosMcp.Lib.Run
import RosMcp.Motion.CmdVel

/-!
# The freshness of a pose

`_current_pose` takes the cached odometry with one locked read, and asks `is_fresh` with another, while the callback on
the ROS thread replaces the entry between any two locked accesses.  So the freshness may be that of a newer message
than the pose is computed from.  Every pose that is called fresh comes from a fresh message throughout a run exactly
when no message that is stored between the two reads follows a gap: the one before it is not older than
`odom_stale_s` at the test, if the last one stored is not (`honest_iff`).
-/

namespace RosMcp

/-- A `CachedMessage` with its `received_at`. -/
structure CacheEntry where
  message : CachedMessage ℝ
  receivedAt : ℝ

/-- How far `_current_pose` has got. -/
inductive PoseRead
  | idle
  /-- `odom_stale_s` has been read. -/
  | begun (odomStaleS : ℝ)
  /-- `get_latest` has given an entry. -/
  | holding (odomStaleS : ℝ) (cached : CacheEntry)
  /-- The locked read of `is_fresh` has been made, but not the test. -/
  | testing (odomStaleS : ℝ) (cached : CacheEntry) (seen : Option CacheEntry)

/-- What `_current_pose` has returned, with the entry that it has taken and the time of its freshness test. -/
structure PoseReading where
  odomStaleS : ℝ
  testedAt : ℝ
  cached : Option CacheEntry
  result : Except PyException (Option (Pose2D ℝ) × Bool)

/-- The clock, the cache entry of the odometry topic, the entry that the callback is about to store, and the asyncio
side. -/
structure PoseCache where
  now : ℝ
  entry : Option CacheEntry
  arriving : Option CacheEntry
  reader : PoseRead
  readings : List PoseReading

inductive PoseAction
  | tick (now : ℝ)
  /-- `_on_message` up to the lock. -/
  | onMessage (message : CachedMessage ℝ)
  | store
  | begin (odomStaleS : ℝ)
  | getLatest
  | isFresh
  /-- The freshness test, and the return of the pose. -/
  | returnPose

namespace PoseCache

def initial : PoseCache := ⟨0, none, none, .idle, []⟩

/-- `is_fresh` after its locked read. -/
noncomputable def freshAt (now odomStaleS : ℝ) : Option CacheEntry → Bool
  | none => false
  | some seen => decide (now - seen.receivedAt ≤ odomStaleS)

noncomputable def step (s : PoseCache) : PoseAction → Option PoseCache
  | .tick now => some { s with now }
  -- the executor runs one callback at a time
  | .onMessage message => if s.arriving.isSome then none else some { s with arriving := some ⟨message, s.now⟩ }
  | .store => s.arriving.map fun entry => { s with entry := some entry, arriving := none }
  | .begin odomStaleS =>
    match s.reader with
    | .idle => some { s with reader := .begun odomStaleS }
    | _ => none
  | .getLatest =>
    match s.reader, s.entry with
    | .begun odomStaleS, none =>
      some { s with reader := .idle, readings := s.readings ++ [⟨odomStaleS, s.now, none, currentPose (.ok none)⟩] }
    | .begun odomStaleS, some cached => some { s with reader := .holding odomStaleS cached }
    | _, _ => none
  | .isFresh =>
    match s.reader with
    | .holding odomStaleS cached => some { s with reader := .testing odomStaleS cached s.entry }
    | _ => none
  | .returnPose =>
    match s.reader with
    | .testing odomStaleS cached seen =>
      some { s with
        reader := .idle
        readings := s.readings ++ [⟨odomStaleS, s.now, some cached,
          currentPose (.ok (some (cached.message, freshAt s.now odomStaleS seen)))⟩] }
    | _ => none

/-! ### What is promised -/

/-- A pose that was called fresh was computed from a message that was received at most `odom_stale_s` before the
test. -/
def Honest (s : PoseCache) : Prop :=
  ∀ r ∈ s.readings, ∀ pose, r.result = .ok (some pose, true) → ∃ cached, r.cached = some cached ∧
    motionPoseFromOdometry cached.message = .ok pose ∧ r.testedAt - cached.receivedAt ≤ r.odomStaleS

/-- One complete read of `_current_pose` along the run `as`, with the steps between its two locked reads, the states
in which these are made, and the state in which the freshness is tested. -/
def IsRead (as : List PoseAction) (odomStaleS : ℝ) (first : PoseCache) (between : List PoseAction)
    (second test : PoseCache) : Prop :=
  ∃ before after rest, as = before ++ .getLatest :: (between ++ .isFresh :: (after ++ .returnPose :: rest)) ∧
    .isFresh ∉ between ∧ .returnPose ∉ after ∧
    StepSystem.run step initial before = some first ∧ first.reader = .begun odomStaleS ∧
    StepSystem.run step initial (before ++ .getLatest :: between) = some second ∧
    StepSystem.run step initial (before ++ .getLatest :: (between ++ .isFresh :: after)) = some test

/-- A message that is stored between the two locked reads does not follow a gap: when the last one stored is at most
`odom_stale_s` old at the test, the one that the cache held before is so too, or no pose can be computed from it. -/
def NoGap (odomStaleS : ℝ) (first : PoseCache) (between : List PoseAction) (second test : PoseCache) : Prop :=
  .store ∈ between → ∀ old new, first.entry = some old → second.entry = some new →
    test.now - new.receivedAt ≤ odomStaleS → (∃ pose, motionPoseFromOdometry old.message = .ok pose) →
      test.now - old.receivedAt ≤ odomStaleS

variable {s t : PoseCache} {a : PoseAction}

/-! ### The steps -/

/-- The steps, each with what it is guarded by. -/
inductive Transition (s : PoseCache) : PoseAction → PoseCache → Prop
  | ticked (now : ℝ) : s.Transition (.tick now) { s with now }
  | arrived (message : CachedMessage ℝ) : s.Transition (.onMessage message) { s with arriving := some ⟨message, s.now⟩ }
  | stored (entry : CacheEntry) (harriving : s.arriving = some entry) :
      s.Transition .store { s with entry := some entry, arriving := none }
  | begun (odomStaleS : ℝ) (hreader : s.reader = .idle) :
      s.Transition (.begin odomStaleS) { s with reader := .begun odomStaleS }
  | unreceived (odomStaleS : ℝ) (hreader : s.reader = .begun odomStaleS) :
      s.Transition .getLatest
        { s with
          reader := .idle
          readings := s.readings ++ [⟨odomStaleS, s.now, none, currentPose (.ok none)⟩] }
  | taken (odomStaleS : ℝ) (cached : CacheEntry) (hreader : s.reader = .begun odomStaleS)
      (hentry : s.entry = some cached) :
      s.Transition .getLatest { s with reader := .holding odomStaleS cached }
  | looked (odomStaleS : ℝ) (cached : CacheEntry) (hreader : s.reader = .holding odomStaleS cached) :
      s.Transition .isFresh { s with reader := .testing odomStaleS cached s.entry }
  | returned (odomStaleS : ℝ) (cached : CacheEntry) (seen : Option CacheEntry)
      (hreader : s.reader = .testing odomStaleS cached seen) :
      s.Transition .returnPose
        { s with
          reader := .idle
          readings := s.readings ++ [⟨odomStaleS, s.now, some cached,
            currentPose (.ok (some (cached.message, freshAt s.now odomStaleS seen)))⟩] }

private theorem step_transition (h : s.step a = some t) : s.Transition a t := by
  cases a with
  | tick now =>
    cases h
    exact .ticked now
  | onMessage message =>
    simp only [step] at h
    split at h
    · cases h
    · cases h
      exact .arrived message
  | store =>
    obtain ⟨entry, harriving, rfl⟩ := Option.map_eq_some_iff.1 h
    exact .stored entry harriving
  | begin odomStaleS =>
    simp only [step] at h
    split at h
    · next hreader =>
      cases h
      exact .begun odomStaleS hreader
    · cases h
  | getLatest =>
    simp only [step] at h
    split at h
    · next hreader hentry =>
      cases h
      exact .unreceived _ hreader
    · next hreader hentry =>
      cases h
      exact .taken _ _ hreader hentry
    · cases h
  | isFresh =>
    simp only [step] at h
    split at h
    · next hreader =>
      cases h
      exact .looked _ _ hreader
    · cases h
  | returnPose =>
    simp only [step] at h
    split at h
    · next hreader =>
      cases h
      exact .returned _ _ _ hreader
    · cases h

/-- The pose of a read that is called fresh. -/
private theorem currentPose_eq_fresh {message : CachedMessage ℝ} {fresh : Bool} {pose : Pose2D ℝ} :
    currentPose (.ok (some (message, fresh))) = .ok (some pose, true) ↔
      motionPoseFromOdometry message = .ok pose ∧ fresh = true := by
  unfold currentPose
  dsimp only
  cases motionPoseFromOdometry message with
  | error exc => simp [Except.map]
  | ok pose' => simp [Except.map]

/-- A read that is added keeps the readings honest exactly when it is honest. -/
private theorem honest_concat (hs : s.Honest) {r : PoseReading} (hreadings : t.readings = s.readings ++ [r]) :
    t.Honest ↔ ∀ pose, r.result = .ok (some pose, true) → ∃ cached, r.cached = some cached ∧
      motionPoseFromOdometry cached.message = .ok pose ∧ r.testedAt - cached.receivedAt ≤ r.odomStaleS := by
  unfold Honest
  rw [hreadings]
  constructor
  · intro ht
    exact ht r (List.mem_append_right _ List.mem_cons_self)
  · intro hr r' hr'
    rcases List.mem_append.1 hr' with hold | hnew
    · exact hs r' hold
    · obtain rfl := List.mem_singleton.1 hnew
      exact hr

/-- The pose that a read is about to return comes from a fresh message, if it is about to be called fresh. -/
private def WillBeHonest (s : PoseCache) : PoseAction → Prop
  | .returnPose => ∀ odomStaleS cached seen, s.reader = .testing odomStaleS cached seen →
      (∃ pose, motionPoseFromOdometry cached.message = .ok pose) → freshAt s.now odomStaleS seen = true →
        s.now - cached.receivedAt ≤ odomStaleS
  | _ => True

private theorem honest_step (hs : s.Honest) (h : s.step a = some t) : t.Honest ↔ s.WillBeHonest a := by
  cases step_transition h with
  | ticked | arrived | stored | begun | taken | looked => exact iff_of_true hs trivial
  | unreceived odomStaleS =>
    rw [honest_concat hs rfl]
    refine iff_of_true ?_ trivial
    intro pose hpose
    cases hpose
  | returned odomStaleS cached seen hreader =>
    rw [honest_concat hs rfl]
    simp only [currentPose_eq_fresh]
    unfold WillBeHonest
    rw [hreader]
    constructor
    · rintro ht _ _ _ ⟨⟩ ⟨pose, hpose⟩ hfresh
      obtain ⟨cached', hcached, -, hage⟩ := ht pose ⟨hpose, hfresh⟩
      cases hcached
      exact hage
    · rintro hguard pose ⟨hpose, hfresh⟩
      exact ⟨cached, rfl, hpose, hguard odomStaleS cached seen rfl ⟨pose, hpose⟩ hfresh⟩

private theorem honest_along {as : List PoseAction} (h : StepSystem.run step initial as = some s) :
    (∀ as₁ as₂ s₁, as = as₁ ++ as₂ → StepSystem.run step initial as₁ = some s₁ → s₁.Honest) ↔
      StepSystem.Along step WillBeHonest initial as :=
  StepSystem.throughout_iff_along (P := fun _ => True) (fun _ _ _ _ _ => trivial)
    (fun _ _ _ _ hs hstep => honest_step hs hstep) trivial (by simp [Honest, initial]) h

/-! ### Where a read stands in a run -/

/-- A read that holds an entry has taken it from the cache. -/
private theorem holding_split {as : List PoseAction} {odomStaleS : ℝ} {cached : CacheEntry}
    (h : StepSystem.run step initial as = some s) (hreader : s.reader = .holding odomStaleS cached) :
    ∃ before between first, as = before ++ .getLatest :: between ∧ .isFresh ∉ between ∧
      StepSystem.run step initial before = some first ∧ first.reader = .begun odomStaleS ∧
      first.entry = some cached := by
  induction as using List.reverseRecOn generalizing s with
  | nil =>
    obtain rfl : initial = s := by simpa using h
    cases hreader
  | append_singleton as a ih =>
    obtain ⟨s₀, h₀, hstep⟩ := StepSystem.run_concat.1 h
    -- a step of the clock or of the callback
    have goes : a ≠ .isFresh → s.reader = s₀.reader → ∃ before between first,
        as ++ [a] = before ++ .getLatest :: between ∧ .isFresh ∉ between ∧
        StepSystem.run step initial before = some first ∧ first.reader = .begun odomStaleS ∧
        first.entry = some cached := by
      intro ha hsame
      obtain ⟨before, between, first, rfl, hnot, hfirst⟩ := ih h₀ (hsame.symm.trans hreader)
      refine ⟨before, between ++ [a], first, by simp, ?_, hfirst⟩
      simpa [hnot] using ha.symm
    cases step_transition hstep with
    | ticked | arrived | stored => exact goes (by rintro ⟨⟩) rfl
    | taken odomStaleS' cached' hbegun hentry =>
      cases hreader
      exact ⟨as, [], s₀, rfl, by simp, h₀, hbegun, hentry⟩
    | _ => cases hreader

/-- A read that is about to be tested has made its two locked reads. -/
private theorem testing_split {as : List PoseAction} {odomStaleS : ℝ} {cached : CacheEntry} {seen : Option CacheEntry}
    (h : StepSystem.run step initial as = some s) (hreader : s.reader = .testing odomStaleS cached seen) :
    ∃ before between after first second, as = before ++ .getLatest :: (between ++ .isFresh :: after) ∧
      .isFresh ∉ between ∧ .returnPose ∉ after ∧
      StepSystem.run step initial before = some first ∧ first.reader = .begun odomStaleS ∧
      first.entry = some cached ∧
      StepSystem.run step initial (before ++ .getLatest :: between) = some second ∧ second.entry = seen := by
  induction as using List.reverseRecOn generalizing s with
  | nil =>
    obtain rfl : initial = s := by simpa using h
    cases hreader
  | append_singleton as a ih =>
    obtain ⟨s₀, h₀, hstep⟩ := StepSystem.run_concat.1 h
    have goes : a ≠ .returnPose → s.reader = s₀.reader → ∃ before between after first second,
        as ++ [a] = before ++ .getLatest :: (between ++ .isFresh :: after) ∧
        .isFresh ∉ between ∧ .returnPose ∉ after ∧
        StepSystem.run step initial before = some first ∧ first.reader = .begun odomStaleS ∧
        first.entry = some cached ∧
        StepSystem.run step initial (before ++ .getLatest :: between) = some second ∧ second.entry = seen := by
      intro ha hsame
      obtain ⟨before, between, after, first, second, rfl, hnot, hafter, hreads⟩ := ih h₀ (hsame.symm.trans hreader)
      refine ⟨before, between, after ++ [a], first, second, by simp, hnot, ?_, hreads⟩
      simpa [hafter] using ha.symm
    cases step_transition hstep with
    | ticked | arrived | stored => exact goes (by rintro ⟨⟩) rfl
    | looked odomStaleS' cached' hholding =>
      cases hreader
      obtain ⟨before, between, first, rfl, hnot, hfirst, hbegun, hentry⟩ := holding_split h₀ hholding
      exact ⟨before, between, [], first, s₀, by simp, hnot, by simp, hfirst, hbegun, hentry, h₀, rfl⟩
    | _ => cases hreader

/-- What a read holds stays until `is_fresh` is asked. -/
private theorem holding_run {as : List PoseAction} {odomStaleS : ℝ} {cached : CacheEntry} (hnot : .isFresh ∉ as)
    (hreader : s.reader = .holding odomStaleS cached) (h : StepSystem.run step s as = some t) :
    t.reader = .holding odomStaleS cached := by
  refine StepSystem.run_invariant_along (G := fun _ a => a ≠ .isFresh)
    (P := fun s => s.reader = .holding odomStaleS cached) ?_ hreader
    (.of_forall fun _ _ ha => ne_of_mem_of_not_mem ha hnot) h
  intro s a t hs ha hstep
  cases step_transition hstep with
  | ticked | arrived | stored => exact hs
  | looked => exact absurd rfl ha
  | begun _ hother | unreceived _ hother | taken _ _ hother | returned _ _ _ hother => cases hs.symm.trans hother

/-- What a read has seen stays until the test. -/
private theorem testing_run {as : List PoseAction} {odomStaleS : ℝ} {cached : CacheEntry} {seen : Option CacheEntry}
    (hnot : .returnPose ∉ as) (hreader : s.reader = .testing odomStaleS cached seen)
    (h : StepSystem.run step s as = some t) : t.reader = .testing odomStaleS cached seen := by
  refine StepSystem.run_invariant_along (G := fun _ a => a ≠ .returnPose)
    (P := fun s => s.reader = .testing odomStaleS cached seen) ?_ hreader
    (.of_forall fun _ _ ha => ne_of_mem_of_not_mem ha hnot) h
  intro s a t hs ha hstep
  cases step_transition hstep with
  | ticked | arrived | stored => exact hs
  | returned => exact absurd rfl ha
  | begun _ hother | unreceived _ hother | taken _ _ hother | looked _ _ hother => cases hs.symm.trans hother

/-- A read tests the entry that the cache holds at the second locked access, and returns the pose of the first. -/
private theorem IsRead.reader {as between : List PoseAction} {odomStaleS : ℝ} {first second test : PoseCache}
    (h : IsRead as odomStaleS first between second test) {cached : CacheEntry} (hentry : first.entry = some cached) :
    test.reader = .testing odomStaleS cached second.entry := by
  obtain ⟨before, after, rest, -, hnot, hafter, hfirst, hbegun, hsecond, htest⟩ := h
  obtain ⟨u, hu, hbetween⟩ := StepSystem.run_append.1 hsecond
  obtain rfl : first = u := Option.some.inj (hfirst.symm.trans hu)
  obtain ⟨v, hv, hbetween⟩ := StepSystem.run_cons.1 hbetween
  have hholding : v.reader = .holding odomStaleS cached := by
    simp only [step, hbegun, hentry] at hv
    cases hv
    rfl
  have hheld := holding_run hnot hholding hbetween
  have htail : StepSystem.run step second (.isFresh :: after) = some test := by
    have hall := StepSystem.run_append.1 (show StepSystem.run step initial
      ((before ++ .getLatest :: between) ++ .isFresh :: after) = some test by simpa using htest)
    obtain ⟨u, hu, hrest⟩ := hall
    obtain rfl : second = u := Option.some.inj (hsecond.symm.trans hu)
    exact hrest
  obtain ⟨w, hw, hrest⟩ := StepSystem.run_cons.1 htail
  refine testing_run hafter ?_ hrest
  simp only [step, hheld] at hw
  cases hw
  rfl

/-- Without a message in between, both accesses find the same entry. -/
private theorem entry_run {as : List PoseAction} (hnot : .store ∉ as) (h : StepSystem.run step s as = some t) :
    t.entry = s.entry := by
  refine StepSystem.run_invariant_along (G := fun _ a => a ≠ .store) (P := fun t => t.entry = s.entry) ?_ rfl
    (.of_forall fun _ _ ha => ne_of_mem_of_not_mem ha hnot) h
  intro u a u' hu ha hstep
  cases step_transition hstep with
  | stored => exact absurd rfl ha
  | _ => exact hu

/-- Every pose that is called fresh comes from a fresh message throughout a run exactly when no message that is stored
between the two locked reads of the run follows a gap. -/
theorem honest_iff {as : List PoseAction} (h : StepSystem.run step initial as = some s) :
    (∀ as₁ as₂ s₁, as = as₁ ++ as₂ → StepSystem.run step initial as₁ = some s₁ → s₁.Honest) ↔
      ∀ odomStaleS first between second test, IsRead as odomStaleS first between second test →
        NoGap odomStaleS first between second test := by
  rw [honest_along h]
  constructor
  · intro halong odomStaleS first between second test hread _ old new hold hnew hfresh hpose
    have hreader := hread.reader hold
    obtain ⟨before, after, rest, has, -, -, -, -, -, htest⟩ := hread
    refine halong _ .returnPose rest test (by simp [has]) htest odomStaleS old second.entry hreader hpose ?_
    rw [hnew]
    exact decide_eq_true hfresh
  · intro hreads as₁ a as₂ s₁ has hrun
    cases a with
    | returnPose =>
      intro odomStaleS old seen hreader hpose hfresh
      obtain ⟨before, between, after, first, second, rfl, hnot, hafter, hfirst, hbegun, hold, hsecond, rfl⟩ :=
        testing_split hrun hreader
      cases hnew : second.entry with
      | none =>
        rw [hnew] at hfresh
        cases hfresh
      | some new =>
        rw [hnew] at hfresh
        by_cases hstore : .store ∈ between
        · exact hreads odomStaleS first between second s₁
            ⟨before, after, as₂, by simp [has], hnot, hafter, hfirst, hbegun, hsecond, hrun⟩ hstore old new hold hnew
            (of_decide_eq_true hfresh) hpose
        · obtain ⟨u, hu, hbetween⟩ := StepSystem.run_append.1 hsecond
          obtain rfl : first = u := Option.some.inj (hfirst.symm.trans hu)
          obtain ⟨v, hv, hbetween⟩ := StepSystem.run_cons.1 hbetween
          have hsame : v.entry = first.entry := by
            cases step_transition hv <;> rfl
          have hunchanged := (entry_run hstore hbetween).trans hsame
          rw [hnew, hold] at hunchanged
          obtain rfl := Option.some.inj hunchanged
          exact of_decide_eq_true hfresh
    | _ => trivial

/-! ### A gap in the odometry -/

/-- Odometry at the origin. -/
def originMessage : CachedMessage ℝ := ⟨.ok ⟨0, 0, ⟨0, 0, 0, 1⟩⟩, 0⟩

/-- The entry of this message. -/
def originEntry (receivedAt : ℤ) : CacheEntry := ⟨originMessage, receivedAt⟩

/-- The default of `odom_stale_s`. -/
noncomputable def halfSecond : ℝ := (1 / 2 : ℚ)

/-- The second message comes ten seconds after the first, between the two reads. -/
noncomputable def gapRun : List PoseAction :=
  [.tick (0 : ℤ), .onMessage originMessage, .store, .tick (10 : ℤ), .onMessage originMessage, .begin halfSecond,
    .getLatest, .store, .isFresh, .returnPose]

/-- The state after it. -/
noncomputable def gapState : PoseCache where
  now := (10 : ℤ)
  entry := some (originEntry 10)
  arriving := none
  reader := .idle
  readings := [⟨halfSecond, (10 : ℤ), some (originEntry 0), currentPose (.ok (some (originMessage, true)))⟩]

private theorem gapRun_eq : StepSystem.run step initial gapRun = some gapState := by
  have hfresh : freshAt (10 : ℤ) halfSecond (some (originEntry 10)) = true := by
    norm_num [freshAt, originEntry, halfSecond]
  have hstate : StepSystem.run step initial gapRun = some { gapState with
      readings := [⟨halfSecond, (10 : ℤ), some (originEntry 0),
        currentPose (.ok (some (originMessage, freshAt (10 : ℤ) halfSecond (some (originEntry 10)))))⟩] } := rfl
  rw [hstate, hfresh]
  rfl

/-- The pose of the first message is called fresh ten seconds after it was received. -/
theorem honest_overtaken : StepSystem.run step initial gapRun = some gapState ∧ ¬ gapState.Honest := by
  refine ⟨gapRun_eq, ?_⟩
  intro hhonest
  have hresult : currentPose (.ok (some (originMessage, true))) =
      .ok (some ⟨0, 0, quaternionToYaw ⟨0, 0, 0, 1⟩, "odom", 0⟩, true) := rfl
  obtain ⟨cached, hcached, -, hage⟩ := hhonest _ List.mem_cons_self _ hresult
  cases hcached
  norm_num [originEntry, halfSecond] at hage

/-! ### Odometry without a gap -/

/-- The clock has not gone past `span`, and every read allows that age. -/
private structure Brief (span : ℝ) (s : PoseCache) : Prop where
  now : 0 ≤ s.now ∧ s.now ≤ span
  entry : ∀ entry, s.entry = some entry → 0 ≤ entry.receivedAt
  arriving : ∀ entry, s.arriving = some entry → 0 ≤ entry.receivedAt
  reader : ∀ odomStaleS, s.reader = .begun odomStaleS → span ≤ odomStaleS

private theorem Brief.step {span : ℝ} (hs : Brief span s) (hclock : ∀ now, a = .tick now → 0 ≤ now ∧ now ≤ span)
    (hbegin : ∀ odomStaleS, a = .begin odomStaleS → span ≤ odomStaleS) (h : s.step a = some t) : Brief span t := by
  cases step_transition h with
  | ticked now => exact { hs with now := hclock now rfl }
  | arrived message =>
    refine { hs with arriving := ?_ }
    rintro entry ⟨⟩
    exact hs.now.1
  | stored entry harriving =>
    refine { hs with entry := ?_, arriving := ?_ }
    · rintro entry' ⟨⟩
      exact hs.arriving _ harriving
    · rintro entry' ⟨⟩
  | begun odomStaleS =>
    refine { hs with reader := ?_ }
    rintro odomStaleS' ⟨⟩
    exact hbegin odomStaleS rfl
  | unreceived | taken | looked | returned =>
    refine { hs with reader := ?_ }
    rintro odomStaleS' ⟨⟩

/-- In a run that is shorter than every `odom_stale_s` of its reads there is no gap. -/
private theorem noGap_of_brief {as : List PoseAction} {span : ℝ} (hspan : 0 ≤ span)
    (hclock : ∀ now, .tick now ∈ as → 0 ≤ now ∧ now ≤ span)
    (hbegin : ∀ odomStaleS, .begin odomStaleS ∈ as → span ≤ odomStaleS) {odomStaleS : ℝ}
    {first second test : PoseCache} {between : List PoseAction}
    (hread : IsRead as odomStaleS first between second test) : NoGap odomStaleS first between second test := by
  have hbrief : ∀ {bs cs u}, as = bs ++ cs → StepSystem.run step initial bs = some u → Brief span u := by
    intro bs cs u has hu
    refine StepSystem.run_invariant_along (G := fun _ a => a ∈ as) (P := Brief span) ?_ ?_
      (.of_forall fun _ a ha => has ▸ List.mem_append_left cs ha) hu
    · intro s a t hs ha hstep
      exact hs.step (fun now hnow => hclock now (hnow ▸ ha)) (fun odomStaleS hb => hbegin odomStaleS (hb ▸ ha)) hstep
    · exact ⟨⟨le_rfl, hspan⟩, by rintro entry ⟨⟩, by rintro entry ⟨⟩, by rintro odomStaleS ⟨⟩⟩
  obtain ⟨before, after, rest, has, -, -, hfirst, hbegun, -, htest⟩ := hread
  intro _ old _ hold _ _ _
  have hfirst' := hbrief has hfirst
  have hsplit : as = (before ++ .getLatest :: (between ++ .isFresh :: after)) ++ .returnPose :: rest := by simp [has]
  have htest' := hbrief hsplit htest
  have hstale := hfirst'.reader odomStaleS hbegun
  have hreceived := hfirst'.entry old hold
  linarith [htest'.now.2]

/-- The second message comes a fifth of a second after the first, between the two reads. -/
noncomputable def steadyRun : List PoseAction :=
  [.tick (0 : ℤ), .onMessage originMessage, .store, .tick (1 / 5 : ℚ), .onMessage originMessage, .begin halfSecond,
    .getLatest, .store, .isFresh, .returnPose]

/-- The state after it. -/
noncomputable def steadyState : PoseCache where
  now := (1 / 5 : ℚ)
  entry := some ⟨originMessage, (1 / 5 : ℚ)⟩
  arriving := none
  reader := .idle
  readings := [⟨halfSecond, (1 / 5 : ℚ), some (originEntry 0), currentPose (.ok (some (originMessage, true)))⟩]

private theorem steadyRun_eq : StepSystem.run step initial steadyRun = some steadyState := by
  have hfresh : freshAt (1 / 5 : ℚ) halfSecond (some ⟨originMessage, (1 / 5 : ℚ)⟩) = true := by
    norm_num [freshAt, halfSecond]
  have hstate : StepSystem.run step initial steadyRun = some { steadyState with
      readings := [⟨halfSecond, (1 / 5 : ℚ), some (originEntry 0), currentPose
        (.ok (some (originMessage, freshAt (1 / 5 : ℚ) halfSecond (some ⟨originMessage, (1 / 5 : ℚ)⟩))))⟩] } := rfl
  rw [hstate, hfresh]
  rfl

/-- A pose is called fresh while the message that it is computed from has been replaced, and rightly so. -/
theorem honest_sample : StepSystem.run step initial steadyRun = some steadyState ∧
    (∃ r ∈ steadyState.readings, ∃ pose, r.result = .ok (some pose, true)) ∧ steadyState.Honest := by
  refine ⟨steadyRun_eq, ⟨_, List.mem_cons_self, _, rfl⟩, ?_⟩
  refine (honest_iff steadyRun_eq).2 ?_ _ [] _ (List.append_nil _).symm steadyRun_eq
  intro odomStaleS first between second test hread
  refine noGap_of_brief ((by norm_num) : (0 : ℝ) ≤ (1 / 5 : ℚ)) ?_ ?_ hread
  · intro now hnow
    simp [steadyRun] at hnow
    rcases hnow with rfl | rfl <;> norm_num
  · intro odomStaleS' hb
    simp [steadyRun] at hb
    rw [hb, halfSecond]
    norm_num

end PoseCache

end RosMcp
