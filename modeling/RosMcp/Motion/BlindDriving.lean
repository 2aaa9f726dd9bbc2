import RosMcp.Motion.ExitOrder
import RosMcp.Motion.Odometer

/-!
# Driving without a scan

`_obstacle_ahead` takes the latest scan in the cache whatever its age, and finds no obstacle when there is none.  So a
move whose scan is missing or stale goes on, unless something else stops it (`Tick.StopsAnyway`); it never drives blind
exactly when, at every tick without a fresh scan, something else does (`blind_driving_iff`).
-/

namespace RosMcp

/-! ### The age of a scan -/

/-- The scan in the cache and its age. -/
abbrev TimedScan := Except PyException (Option (LaserScan × ℝ))

/-- What `get_latest` gives of it. -/
def TimedScan.read (s : TimedScan) : ScanRead := s.map (Option.map Prod.fst)

/-- The scan was received at most `sensorStaleS` ago. -/
def TimedScan.Fresh (sensorStaleS : ℝ) (s : TimedScan) : Prop :=
  ∃ raw age, s = .ok (some (raw, age)) ∧ age ≤ sensorStaleS

/-- No scan was received, or it is stale. -/
def TimedScan.Blind (sensorStaleS : ℝ) (s : TimedScan) : Prop :=
  s = .ok none ∨ ∃ raw age, s = .ok (some (raw, age)) ∧ sensorStaleS < age

/-- An answer to an await, and the scan in the cache when the call goes on. -/
structure SensedReply where
  reply : MoveReply
  scan : TimedScan

/-- The answer as the call sees it. -/
def SensedReply.answer (r : SensedReply) : MoveReply :=
  match r.reply with
  | .start now odometry o ready => .start now odometry { o with scan := r.scan.read } ready
  | .slept (.ok o) ready => .slept (.ok { o with scan := r.scan.read }) ready
  | reply => reply

/-- A tick, and the scan in the cache when it ran. -/
structure SensedTick where
  tick : Tick
  scan : TimedScan

/-- The ticks of a run with their scans. -/
noncomputable def sensedTicks (p : CmdVelMotionPlugin) (command : SemanticCommand ℝ) (m : MoveCall)
    (replies : List SensedReply) : List SensedTick :=
  StepSystem.outputs (fun m (r : SensedReply) => moveStep p command m r.answer)
    (fun m r => (m.tick command r.answer).toList.map fun t => ⟨t, r.scan⟩) m replies

/-! ### Seeing ahead -/

/-- Something else than the scan's age stops the move: the token, a deadline, the odometry, or an obstacle on the
scan. -/
def Tick.StopsAnyway (p : CmdVelMotionPlugin) (t : Tick) : Prop :=
  t.observation.isCancelled = true ∨ t.TimedOut ∨ t.StaleOdometry ∨ ¬ t.OdometryRaises ∧ t.ObstacleAhead p

/-- A tick publishes a linear velocity only with a fresh scan, a tick without one leaves the loop with a zero twist and
a failure, and so does the call. -/
structure SeesAhead (p : CmdVelMotionPlugin) (sensorStaleS : ℝ) (m : MoveCall) (ts : List SensedTick) : Prop where
  velocity : ∀ t ∈ ts, ∀ twist l, t.tick.outcome p = .publish twist l → twist.linearX ≠ 0 → t.scan.Fresh sensorStaleS
  stops : ∀ t ∈ ts, t.scan.Blind sensorStaleS → ∃ e, t.tick.outcome p = .exit e ∧ e.status = .failed
  fails : (∃ t ∈ ts, t.scan.Blind sensorStaleS) → ∀ result, m.point = .ended (.returned result) →
    result.status = .failed

section Blind

variable {p : CmdVelMotionPlugin} {command : SemanticCommand ℝ} {m m' : MoveCall} {t : Tick} {ts : List Tick}

/-- The exits that fail are those that are not at the target. -/
theorem Tick.failed_iff {e : Exit} (h : t.outcome p = .exit e) :
    e.status = .failed ↔ e.stopReason ≠ .targetReached := by
  have hiterated := t.iterated p
  rw [h] at hiterated
  cases hiterated <;> simp [Exit.cancelled, Exit.timedOut, Exit.stale, Exit.obstacle, Exit.reached, Exit.fail]

/-- A tick fails exactly when something stops it. -/
theorem Tick.fails_iff : (∃ e, t.outcome p = .exit e ∧ e.status = .failed) ↔ t.StopsAnyway p := by
  have hreason : (∃ e, t.outcome p = .exit e ∧ e.status = .failed) ↔
      ∃ reason, (t.outcome p).stopReason = some reason ∧ reason ≠ .targetReached := by
    constructor
    · rintro ⟨e, he, hstatus⟩
      rw [he]
      exact ⟨e.stopReason, rfl, (Tick.failed_iff he).1 hstatus⟩
    · rintro ⟨reason, hsome, hne⟩
      cases he : t.outcome p with
      | exit e =>
        rw [he] at hsome
        obtain rfl := Option.some.inj hsome
        exact ⟨e, rfl, (Tick.failed_iff he).2 hne⟩
      | raised exc | sleep l | publish twist l =>
        rw [he] at hsome
        cases hsome
  rw [hreason, Tick.stopReason_eq]
  unfold Tick.StopsAnyway
  by_cases hc : t.observation.isCancelled = true
  · simp [hc]
  by_cases ht : t.TimedOut
  · simp [hc, ht]
  by_cases hs : t.StaleOdometry
  · simp [hc, ht, hs]
  by_cases hr : t.OdometryRaises
  · simp [hc, ht, hs, hr]
  by_cases ho : t.ObstacleAhead p
  · simp [hc, ht, hs, hr, ho]
  · by_cases hscan : t.ScanRaises p
    · simp [hc, ht, hs, hr, ho, hscan]
    · simp [hc, ht, hs, hr, ho, hscan]

/-- A tick that publishes a linear velocity has read the scan. -/
private theorem Tick.scan_of_publish {twist : Twist} {l : Locals} (htopic : p.laserScanTopic = true)
    (h : t.outcome p = .publish twist l) (hne : twist.linearX ≠ 0) : ∃ scan, t.observation.scan = .ok scan := by
  cases ha : t.accepted with
  | none =>
    have hrefused := Tick.outcome_of_none (p := p) ha
    rw [h] at hrefused
    cases hrefused
  | some pose =>
    have hsteered := Tick.outcome_of_some (p := p) ha
    rw [h] at hsteered
    cases hsteered with
    | turned => exact absurd rfl hne
    | driven hphase hscan =>
      unfold obstacleAhead at hscan
      rw [if_neg (by simp [htopic])] at hscan
      cases hread : t.observation.scan with
      | error exc =>
        rw [hread] at hscan
        cases hscan
      | ok scan => exact ⟨scan, rfl⟩

/-! ### A run -/

/-- A scan that can be read is fresh, or it is missing or stale. -/
private theorem TimedScan.fresh_or_blind (sensorStaleS : ℝ) {s : TimedScan} {scan : Option LaserScan}
    (h : s.read = .ok scan) :
    s.Fresh sensorStaleS ∨ s.Blind sensorStaleS := by
  rcases s with exc | ⟨_ | ⟨raw, age⟩⟩
  case error => cases h
  case ok.none => exact .inr (.inl rfl)
  case ok.some =>
    rcases le_or_gt age sensorStaleS with hle | hlt
    · exact .inl ⟨raw, age, rfl, hle⟩
    · exact .inr (.inr ⟨raw, age, rfl, hlt⟩)

/-- The tick of an answer reads the scan that comes with it. -/
private theorem MoveCall.tick_scan {r : SensedReply} (ht : m.tick command r.answer = some t) :
    t.observation.scan = r.scan.read := by
  obtain ⟨reply, scan⟩ := r
  unfold MoveCall.tick SensedReply.answer at ht
  cases reply with
  | start now odometry o ready =>
    dsimp only at ht
    split at ht
    · next heq =>
      cases heq
      split at ht
      · split at ht
        · obtain ⟨l, -, rfl⟩ := Option.map_eq_some_iff.1 ht
          rfl
        · cases ht
      · cases ht
    · next heq => cases heq
    · cases ht
  | slept reply ready =>
    cases reply with
    | error exc =>
      dsimp only at ht
      split at ht
      · next heq => cases heq
      · next heq => cases heq
      · cases ht
    | ok o =>
      dsimp only at ht
      split at ht
      · next heq => cases heq
      · next heq =>
        cases heq
        obtain rfl := Option.some.inj ht
        rfl
      · cases ht
  | publisher | published | cancelled =>
    dsimp only at ht
    split at ht
    · next heq => cases heq
    · next heq => cases heq
    · cases ht

/-- The sensed ticks are the ticks of the run. -/
private theorem sensedTicks_map (p : CmdVelMotionPlugin) (command : SemanticCommand ℝ) (m : MoveCall)
    (replies : List SensedReply) :
    (sensedTicks p command m replies).map SensedTick.tick = ticks p command m (replies.map SensedReply.answer) :=
  StepSystem.outputs_map SensedReply.answer SensedTick.tick
    (fun m r => by cases m.tick command r.answer <;> rfl) m replies

private theorem sensedTicks_scan (p : CmdVelMotionPlugin) (command : SemanticCommand ℝ) (m : MoveCall)
    (replies : List SensedReply) : ∀ t ∈ sensedTicks p command m replies, t.tick.observation.scan = t.scan.read := by
  refine StepSystem.forall_outputs ?_ m replies
  intro m r t ht
  obtain ⟨t, htick, rfl⟩ := List.mem_map.1 ht
  exact MoveCall.tick_scan (Option.mem_toList.1 htick)

/-- A call whose tick has failed returns that it failed. -/
private theorem Looped.failed_of_tick (hm : Looped p command m ts) (ht : t ∈ ts) {e : Exit} (he : t.outcome p = .exit e)
    (hstatus : e.status = .failed) {result : ToolResult ℝ} (hp : m.point = .ended (.returned result)) :
    result.status = .failed := by
  obtain ⟨last, e', elapsed, hlast, he', rfl⟩ := hm.last_exit (List.ne_nil_of_mem ht) hp
  have hsplit : ts.dropLast ++ [last] = ts := List.dropLast_append_getLast? last hlast
  rw [← hsplit, List.mem_append, List.mem_singleton] at ht
  rcases ht with hbefore | rfl
  · -- only the last tick leaves the loop
    obtain ⟨l, hlocals⟩ := hm.goes_on hbefore
    rw [he] at hlocals
    cases hlocals
  · obtain rfl := Iteration.exit.inj (he.symm.trans he')
    exact hstatus

/-- A move with a scanner never drives blind exactly when something else stops it at every tick without a fresh
scan. -/
theorem blind_driving_iff (htopic : p.laserScanTopic = true) (sensorStaleS : ℝ) {replies : List SensedReply}
    (h : StepSystem.run (moveStep p command) .initial (replies.map SensedReply.answer) = some m) :
    SeesAhead p sensorStaleS m (sensedTicks p command .initial replies) ↔
      ∀ t ∈ sensedTicks p command .initial replies, t.scan.Blind sensorStaleS → t.tick.StopsAnyway p := by
  have hm := looped_run h
  rw [← sensedTicks_map] at hm
  have hscan := sensedTicks_scan p command .initial replies
  generalize sensedTicks p command .initial replies = ts at hm hscan
  constructor
  · intro hsees t ht hblind
    exact Tick.fails_iff.1 (hsees.stops t ht hblind)
  · intro hstops
    have hfails : ∀ t ∈ ts, t.scan.Blind sensorStaleS → ∃ e, t.tick.outcome p = .exit e ∧ e.status = .failed :=
      fun t ht hblind => Tick.fails_iff.2 (hstops t ht hblind)
    refine ⟨?_, hfails, ?_⟩
    · intro t ht twist l hpublish hne
      obtain ⟨scan, hread⟩ := Tick.scan_of_publish htopic hpublish hne
      rw [hscan t ht] at hread
      rcases TimedScan.fresh_or_blind sensorStaleS hread with hfresh | hblind
      · exact hfresh
      · obtain ⟨e, he, -⟩ := hfails t ht hblind
        cases hpublish.symm.trans he
    · rintro ⟨t, ht, hblind⟩ result hp
      obtain ⟨e, he, hstatus⟩ := hfails t ht hblind
      exact hm.failed_of_tick (List.mem_map_of_mem ht) he hstatus hp

end Blind

/-! ### A move whose scan topic is silent -/

/-- The first iteration of the sample move with a scanner, and with the scan `scan`. -/
noncomputable def sensedStart (o : Observation) (scan : TimedScan) : SensedReply :=
  ⟨.start 0 sampleOdometry o true, scan⟩

private theorem sensedStart_ticks (o : Observation) (scan : TimedScan) :
    sensedTicks sampleScanner ((sampleWiring ℝ).command 0) .initial [sensedStart o scan] =
      [⟨⟨sampleLocals, { o with scan := scan.read }⟩, scan⟩] := rfl

private theorem sensedStart_run (o : Observation) (scan : TimedScan) :
    StepSystem.run (moveStep sampleScanner ((sampleWiring ℝ).command 0)) .initial
        ([sensedStart o scan].map SensedReply.answer) =
      some (MoveCall.iterate sampleScanner .initial sampleLocals { o with scan := scan.read } true) :=
  sampleMove_run sampleScanner _

/-- The token of the sample move is cancelled. -/
def cancelledObservation : Observation := { sampleObservation with isCancelled := true }

/-- A move whose token is cancelled stops without a scan, too. -/
theorem blind_driving_sample : SeesAhead sampleScanner 1
    (MoveCall.iterate sampleScanner .initial sampleLocals { cancelledObservation with scan := .ok none } true)
    [⟨⟨sampleLocals, { cancelledObservation with scan := .ok none }⟩, .ok none⟩] := by
  have hrun := sensedStart_run cancelledObservation (.ok none)
  have hiff := blind_driving_iff rfl 1 hrun
  rw [sensedStart_ticks] at hiff
  refine hiff.2 ?_
  intro t ht _
  obtain rfl := List.mem_singleton.1 ht
  exact .inl rfl

/-- The sample move drives off although no scan was ever received. -/
theorem blind_driving_silent : ∃ m,
    StepSystem.run (moveStep sampleScanner ((sampleWiring ℝ).command 0)) .initial
        ([sensedStart sampleObservation (.ok none)].map SensedReply.answer) = some m ∧
      m.handed = [⟨sampleTwist, some .driving⟩] ∧ sampleTwist.linearX ≠ 0 ∧
      ∀ sensorStaleS, ¬ SeesAhead sampleScanner sensorStaleS m (sensedTicks sampleScanner
        ((sampleWiring ℝ).command 0) .initial [sensedStart sampleObservation (.ok none)]) := by
  have hpublish : iterate sampleScanner sampleLocals sampleObservation = .publish sampleTwist sampleDriving :=
    sample_iterate
  have hne : sampleTwist.linearX ≠ 0 := by norm_num [sampleTwist]
  refine ⟨_, sensedStart_run sampleObservation (.ok none), ?_, hne, ?_⟩
  · show (MoveCall.iterate sampleScanner .initial sampleLocals sampleObservation true).handed = _
    unfold MoveCall.iterate
    rw [hpublish]
    rfl
  · intro sensorStaleS hsees
    rw [sensedStart_ticks] at hsees
    obtain ⟨raw, age, hscan, -⟩ := hsees.velocity _ List.mem_cons_self _ _ hpublish hne
    cases hscan

end RosMcp
