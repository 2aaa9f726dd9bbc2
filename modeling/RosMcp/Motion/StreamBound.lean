import Mathlib.Algebra.Order.BigOperators.Group.List
import Mathlib.Algebra.Order.Floor.Semiring
import RosMcp.Motion.Odometer

/-!
# The length of the velocity stream

A tick that goes on reads the clock before the deadline.  When the clock advances by the period at every tick, only
`⌈timeout / tick⌉` ticks can do so (`goes_on_lt`), and no other tick hands over a velocity.  So the ticks and the way
that the twists of a call command are bounded by the timeout (`stream_bounded`).
-/

namespace RosMcp

/-- The clock begins at or after `start` and advances by the tick period, at least, from each tick to the next. -/
structure Clocked (p : CmdVelMotionPlugin) (start : ℝ) (ts : List Tick) : Prop where
  begins : ∀ t ∈ ts.head?, start ≤ t.observation.now
  advances : ts.IsChain fun t t' => t.observation.now + p.tickPeriodS ≤ t'.observation.now

/-- The way that a twist commands in one tick. -/
noncomputable def Handed.travel (p : CmdVelMotionPlugin) (h : Handed) : ℝ := |h.twist.linearX| * p.tickPeriodS

section Stream

variable {p : CmdVelMotionPlugin} {command : SemanticCommand ℝ} {k : SafetyConstraints ℝ} {d : Direction}
  {m : MoveCall} {t : Tick} {ts : List Tick} {start : ℝ}

/-! ### The clock -/

private theorem Clocked.le_now (hclock : Clocked p start ts) {i : ℕ} (ht : ts[i]? = some t) :
    start + i * p.tickPeriodS ≤ t.observation.now := by
  induction ts generalizing start i with
  | nil => cases ht
  | cons u ts ih =>
    have hfirst : start ≤ u.observation.now := hclock.begins u rfl
    cases i with
    | zero =>
      obtain rfl : u = t := by simpa using ht
      simpa using hfirst
    | succ i =>
      have hrest : Clocked p (start + p.tickPeriodS) ts := by
        constructor
        · intro v hv
          have hadvance := (List.isChain_cons.1 hclock.advances).1 v hv
          linarith
        · exact hclock.advances.tail
      have hlater := ih hrest (by simpa using ht)
      push_cast
      linarith

/-- A tick that goes on has read the clock before the deadline. -/
private theorem Tick.now_lt_deadline {l : Locals} (h : (t.outcome p).locals = some l) :
    t.observation.now < t.locals.deadline := by
  by_contra hlate
  unfold Tick.outcome iterate at h
  by_cases hc : t.observation.isCancelled = true
  · rw [if_pos hc] at h
    cases h
  · rw [if_neg hc, if_pos (.inr (not_lt.1 hlate))] at h
    cases h

/-- Every tick has the deadline of the plan. -/
theorem Looped.deadline_eq (hm : Looped p command m ts) :
    ∀ t ∈ ts, t.locals.deadline = m.startMonotonic + command.timeoutS := by
  refine hm.locals_invariant (K := fun l => l.deadline = m.startMonotonic + command.timeoutS) ?_ ?_
  · intro target k startPose l ht hk hplan
    obtain ⟨-, -, -, -, hdeadline, -⟩ := planMove_start hplan
    exact hdeadline
  · intro t l hl hlocals
    have hiterated := t.iterated p
    generalize t.outcome p = it at hlocals hiterated
    cases hiterated with
    | cancelled | timedOut | unread | stale | reached | unscanned | obstacle => cases hlocals
    | aligned | turned | driven =>
      cases hlocals
      exact hl

/-- A tick that goes on is one of the first `⌈timeout / tick⌉`. -/
private theorem Looped.goes_on_lt (hm : Looped p command m ts) (hclock : Clocked p m.startMonotonic ts)
    (htick : 0 < p.tickPeriodS) {i : ℕ} (ht : ts[i]? = some t) {l : Locals} (hl : (t.outcome p).locals = some l) :
    i < ⌈command.timeoutS / p.tickPeriodS⌉₊ := by
  have hnow := hclock.le_now ht
  have hlate := Tick.now_lt_deadline hl
  rw [hm.deadline_eq t (List.mem_of_getElem? ht)] at hlate
  rw [Nat.lt_ceil, lt_div_iff₀ htick]
  linarith

/-- The number of ticks. -/
private theorem Looped.length_le (hm : Looped p command m ts) (hclock : Clocked p m.startMonotonic ts)
    (htick : 0 < p.tickPeriodS) : ts.dropLast.length ≤ ⌈command.timeoutS / p.tickPeriodS⌉₊ := by
  cases hinit : ts.dropLast.length with
  | zero => exact Nat.zero_le _
  | succ n =>
    have hn : n < ts.dropLast.length := by omega
    obtain ⟨l, hl⟩ := hm.goes_on (List.getElem_mem hn)
    have ht : ts[n]? = some ts.dropLast[n] := by
      rw [List.getElem_dropLast]
      exact List.getElem?_eq_getElem _
    exact hm.goes_on_lt hclock htick ht hl

/-! ### The way -/

/-- The locals of every tick are within the limits. -/
private theorem Looped.limited {target : MoveTarget ℝ} (hm : Looped p command m ts) (ht : command.target = .move target)
    (hk : command.safetyConstraints = some k) (hlin : 0 ≤ k.maxLinearMps) (hang : 0 ≤ k.maxAngularRps) :
    ∀ t ∈ ts, t.locals.Limited k target.direction := by
  refine hm.locals_invariant ?_ ?_
  · intro target' k' startPose l ht' hk' hplan
    obtain rfl : target' = target := Target.move.inj (ht'.symm.trans ht)
    obtain rfl : k' = k := Option.some.inj (hk'.symm.trans hk)
    exact planMove_limited hplan hlin hang
  · intro t l hl hlocals
    have hiterated := (t.iterated p).limited hl hlin hang
    generalize t.outcome p = it at hlocals hiterated
    cases it with
    | raised exc | exit e => cases hlocals
    | sleep l' =>
      obtain rfl := Option.some.inj hlocals
      exact hiterated
    | publish twist l' =>
      obtain rfl := Option.some.inj hlocals
      exact hiterated.2

/-- The twist of a tick is within the limit. -/
private theorem Looped.travel_le {target : MoveTarget ℝ} (hm : Looped p command m ts)
    (ht : command.target = .move target)
    (hk : command.safetyConstraints = some k) (hlin : 0 ≤ k.maxLinearMps) (hang : 0 ≤ k.maxAngularRps)
    (htick : 0 ≤ p.tickPeriodS) : ∀ t ∈ ts, ∀ h ∈ t.handed p, h.travel p ≤ k.maxLinearMps * p.tickPeriodS := by
  have hlimited := hm.limited ht hk hlin hang
  intro t ht h hh
  have hiterated := (t.iterated p).limited (hlimited t ht) hlin hang
  unfold Tick.handed at hh
  generalize t.outcome p = it at hh hiterated
  have hspeed : |h.twist.linearX| ≤ k.maxLinearMps := by
    cases it with
    | raised exc | sleep l => cases hh
    | exit e =>
      obtain rfl := Option.some.inj hh
      simpa [Twist.zero] using hlin
    | publish twist l =>
      obtain rfl := Option.some.inj hh
      exact abs_le_of_linearRange hlin hiterated.1.linear
  exact mul_le_mul_of_nonneg_right hspeed htick

/-- A tick that leaves the loop hands over no velocity. -/
private theorem Tick.travel_of_leaves (h : (t.outcome p).locals = none) : ∀ h ∈ t.handed p, h.travel p = 0 := by
  intro h' hh
  unfold Tick.handed at hh
  cases he : t.outcome p with
  | raised exc =>
    rw [he] at hh
    cases hh
  | exit e =>
    rw [he] at hh
    obtain rfl := Option.some.inj hh
    simp [Handed.travel, Twist.zero]
  | sleep l | publish twist l =>
    rw [he] at h
    cases h

/-- The way that the twists of the ticks command. -/
private theorem Looped.travel_sum_le {target : MoveTarget ℝ} (hm : Looped p command m ts)
    (ht : command.target = .move target)
    (hk : command.safetyConstraints = some k) (hlin : 0 ≤ k.maxLinearMps) (hang : 0 ≤ k.maxAngularRps)
    (hclock : Clocked p m.startMonotonic ts) (htick : 0 < p.tickPeriodS) :
    ((ts.filterMap (Tick.handed p)).map (Handed.travel p)).sum ≤
      ⌈command.timeoutS / p.tickPeriodS⌉₊ * (k.maxLinearMps * p.tickPeriodS) := by
  have hmax : 0 ≤ k.maxLinearMps * p.tickPeriodS := mul_nonneg hlin htick.le
  have htravel := hm.travel_le ht hk hlin hang htick.le
  -- the ticks of a part of the run command at most one tick at full speed each
  have part : ∀ part : List Tick, part ⊆ ts → ((part.filterMap (Tick.handed p)).map (Handed.travel p)).sum ≤
      part.length * (k.maxLinearMps * p.tickPeriodS) := by
    intro part hpart
    have hsum := List.sum_le_card_nsmul ((part.filterMap (Tick.handed p)).map (Handed.travel p))
      (k.maxLinearMps * p.tickPeriodS) (by
        intro x hx
        obtain ⟨h, hh, rfl⟩ := List.mem_map.1 hx
        obtain ⟨t, htmem, hh'⟩ := List.mem_filterMap.1 hh
        exact htravel t (hpart htmem) h hh')
    rw [List.length_map, nsmul_eq_mul] at hsum
    have hlength : ((part.filterMap (Tick.handed p)).length : ℝ) ≤ part.length := by
      exact_mod_cast List.length_filterMap_le _ part
    exact hsum.trans (mul_le_mul_of_nonneg_right hlength hmax)
  cases hlast : ts.getLast? with
  | none =>
    obtain rfl : ts = [] := List.getLast?_eq_none_iff.1 hlast
    simpa using mul_nonneg (Nat.cast_nonneg _) hmax
  | some last =>
    have hsplit : ts.dropLast ++ [last] = ts := List.dropLast_append_getLast? last hlast
    cases hlocals : (last.outcome p).locals with
    | some l =>
      have hindex : ts[ts.dropLast.length]? = some last := by
        rw [← hsplit]
        simp
      have hlength : ts.length ≤ ⌈command.timeoutS / p.tickPeriodS⌉₊ := by
        have hlt := hm.goes_on_lt hclock htick hindex hlocals
        rw [List.length_dropLast] at hlt
        omega
      have hlength' : (ts.length : ℝ) ≤ ⌈command.timeoutS / p.tickPeriodS⌉₊ := by exact_mod_cast hlength
      exact (part ts (List.Subset.refl ts)).trans (mul_le_mul_of_nonneg_right hlength' hmax)
    | none =>
      have hzero : (([last].filterMap (Tick.handed p)).map (Handed.travel p)).sum = 0 := by
        have hleaves := Tick.travel_of_leaves hlocals
        cases hh : last.handed p with
        | none => simp [hh]
        | some h => simp [hh, hleaves h hh]
      have hlength : (ts.dropLast.length : ℝ) ≤ ⌈command.timeoutS / p.tickPeriodS⌉₊ := by
        exact_mod_cast hm.length_le hclock htick
      have hinit := part ts.dropLast (List.dropLast_subset ts)
      have hsum : ((ts.filterMap (Tick.handed p)).map (Handed.travel p)).sum =
          ((ts.dropLast.filterMap (Tick.handed p)).map (Handed.travel p)).sum := by
        rw [← hsplit, List.filterMap_append, List.map_append, List.sum_append, hzero, add_zero, hsplit]
      rw [hsum]
      exact hinit.trans (mul_le_mul_of_nonneg_right hlength hmax)

/-- The loop ends after `⌈timeout / tick⌉ + 1` ticks at most, and the twists of the call command at most the way of the
timeout and one tick at full speed. -/
theorem stream_bounded {target : MoveTarget ℝ} (ht : command.target = .move target)
    (hk : command.safetyConstraints = some k) (hlin : 0 ≤ k.maxLinearMps) (hang : 0 ≤ k.maxAngularRps)
    (htimeout : 0 < command.timeoutS) (hrate : 0 < p.controlRateHz) {replies : List MoveReply}
    (h : StepSystem.run (moveStep p command) .initial replies = some m)
    (hclock : Clocked p m.startMonotonic (ticks p command .initial replies)) :
    (ticks p command .initial replies).length ≤ ⌈command.timeoutS / p.tickPeriodS⌉₊ + 1 ∧
      (∀ t, (ticks p command .initial replies)[⌈command.timeoutS / p.tickPeriodS⌉₊]? = some t →
        (t.outcome p).locals = none) ∧
      (m.handed.map (Handed.travel p)).sum ≤ k.maxLinearMps * (command.timeoutS + p.tickPeriodS) := by
  have hm := looped_run h
  generalize ticks p command .initial replies = ts at hm hclock ⊢
  have htick : 0 < p.tickPeriodS := one_div_pos.2 hrate
  refine ⟨?_, ?_, ?_⟩
  · have hlength := hm.length_le hclock htick
    rw [List.length_dropLast] at hlength
    omega
  · intro t hindex
    cases hlocals : (t.outcome p).locals with
    | none => rfl
    | some l => exact absurd (hm.goes_on_lt hclock htick hindex hlocals) (lt_irrefl _)
  · have hpos : ∀ h : Handed, 0 ≤ h.travel p := fun h => mul_nonneg (abs_nonneg _) htick.le
    have hsum : (m.handed.map (Handed.travel p)).sum ≤
        ⌈command.timeoutS / p.tickPeriodS⌉₊ * (k.maxLinearMps * p.tickPeriodS) := by
      by_cases hne : ts = []
      · have hzero : (m.handed.map (Handed.travel p)).sum = 0 := by
          refine List.sum_eq_zero ?_
          intro x hx
          obtain ⟨h, hh, rfl⟩ := List.mem_map.1 hx
          have htwist := hm.unticked hne h (List.mem_append_left _ hh)
          simp [Handed.travel, htwist, Twist.zero]
        rw [hzero]
        positivity
      · obtain ⟨after, hafter⟩ := hm.handed hne
        have hwhole := hm.travel_sum_le ht hk hlin hang hclock htick
        rw [← hafter, List.map_append, List.sum_append] at hwhole
        have hrest : 0 ≤ (after.map (Handed.travel p)).sum := by
          refine List.sum_nonneg ?_
          intro x hx
          obtain ⟨h, -, rfl⟩ := List.mem_map.1 hx
          exact hpos h
        linarith
    have hceil : (⌈command.timeoutS / p.tickPeriodS⌉₊ : ℝ) * p.tickPeriodS ≤ command.timeoutS + p.tickPeriodS := by
      have hlt := Nat.ceil_lt_add_one (div_pos htimeout htick).le
      have hscaled := mul_le_mul_of_nonneg_right hlt.le htick.le
      rwa [add_mul, one_mul, div_mul_cancel₀ _ htick.ne'] at hscaled
    calc (m.handed.map (Handed.travel p)).sum
        ≤ k.maxLinearMps * (⌈command.timeoutS / p.tickPeriodS⌉₊ * p.tickPeriodS) := by linarith
      _ ≤ k.maxLinearMps * (command.timeoutS + p.tickPeriodS) := mul_le_mul_of_nonneg_left hceil hlin

end Stream

/-! ### A move of three ticks -/

/-- The clock of the move that reaches its target advances by one period a tick. -/
private theorem arriving_clocked : Clocked samplePlugin 0 arrivingTicks := by
  have hperiod : samplePlugin.tickPeriodS = samplePeriod := by
    norm_num [samplePlugin, CmdVelMotionPlugin.tickPeriodS, samplePeriod]
  constructor
  · rintro t ⟨⟩
    exact le_refl 0
  · unfold arrivingTicks
    rw [hperiod, List.isChain_cons_cons, List.isChain_cons_cons]
    refine ⟨?_, le_refl _, List.isChain_singleton _⟩
    exact (zero_add samplePeriod).le

theorem stream_bounded_sample : ∃ m,
    StepSystem.run (moveStep samplePlugin ((sampleWiring ℝ).command 0)) .initial arrivingReplies = some m ∧
      Clocked samplePlugin m.startMonotonic arrivingTicks ∧
      (m.handed.map (Handed.travel samplePlugin)).sum ≤
        (sampleConstraints ℝ).maxLinearMps * (((sampleWiring ℝ).command 0).timeoutS + samplePlugin.tickPeriodS) := by
  obtain ⟨m, result, hrun, hstart, -, -, -, hticks⟩ := arriving_run
  have hclock : Clocked samplePlugin m.startMonotonic
      (ticks samplePlugin ((sampleWiring ℝ).command 0) .initial arrivingReplies) := by
    rw [hstart, hticks]
    exact arriving_clocked
  have htimeout : 0 < ((sampleWiring ℝ).command 0).timeoutS := by norm_num [sampleWiring, sampleCommand]
  obtain ⟨-, -, htravel⟩ := stream_bounded rfl rfl (by norm_num [sampleConstraints]) (by norm_num [sampleConstraints])
    htimeout (by norm_num [samplePlugin]) hrun hclock
  rw [hticks] at hclock
  exact ⟨m, hrun, hclock, htravel⟩

end RosMcp
