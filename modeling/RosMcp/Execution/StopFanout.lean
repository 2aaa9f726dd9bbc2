import RosMcp.Execution.StopPreempt
import RosMcp.Safety.PolicyEngine

/-!
# The fan-out of a STOP

A STOP asks for the pose and for the policy's ALLOW before it does anything, and then cancels the token of the active
command, awaits `motion_backend.stop()` and only then calls `navigation_backend.cancel_all()`.  So it cancels the
command and calls both backends exactly when the pose provider returns, the command is still in the slot when the
check has answered, and `stop()` returns a result (`stop_fanout_iff`); an exception of the pose provider keeps all
three from happening, and an exception of `stop()` the last (`stop_fanout_blocked`).
-/

namespace RosMcp

variable {N : Type}

section Conditions

variable [IntCast N] [Add N] [Sub N]

/-- The replies of the safety check are those of the policy engine, for some history and clock. -/
def ShippedPolicy [Mul N] [PyMath N] [LT N] [DecidableLT N] [LE N] [DecidableLE N] (w : Wiring N)
    (safety : SafetyConfig N) (s : State N) (a : Action N) : Prop :=
  ∀ e now reply selected x q, a = .resume e now (.check reply selected) → s.execs e = some x →
    x.point = .check q → ∃ history now', (check history safety now' (w.command x.command) q).1 = reply

/-- The pose provider returns a pose, or no pose, to the execution `e`. -/
def PoseReturns (e : ExecId) (as : List (Action N)) : Prop := ∃ now q, .resume e now (.pose (.ok q)) ∈ as

/-- `motion_backend.stop()` returns a result to the execution `e`. -/
def StopReturns (e : ExecId) (as : List (Action N)) : Prop :=
  ∃ now finalPose, .resume e now (.stop (.result finalPose)) ∈ as

/-- The command `a` is in the slot of the robot `r` when the check answers to the execution `e`. -/
def SlotHeld (w : Wiring N) (s : State N) (as : List (Action N)) (e : ExecId) (r : String) (a : CommandRef) : Prop :=
  ∃ as₁ as₂ now outcome selected t, as = as₁ ++ .resume e now (.check (.ok outcome) selected) :: as₂ ∧
    StepSystem.run (step w) s as₁ = some t ∧ t.activeCommands r = some a

end Conditions

/-- The execution `e` of the STOP `c` has cancelled the token of an execution of `a` and called both backends. -/
structure StopReaches (s : State N) (e : ExecId) (c a : CommandRef) : Prop where
  token : ∃ t y, Event.looked e (some a) (some t) ∈ s.log ∧ s.execs t = some y ∧ y.command = a ∧ Cancelled s t
  stop : Event.called e c .stop ∈ s.log
  cancelAll : Event.called e c .cancelAll ∈ s.log

section Lemmas

variable {w : Wiring N} {s s' : State N} {e : ExecId} {c : CommandRef} {p p' : Point N} {events : List (Event N)}
  {eff : RegistryEffect N}

/-- With a navigation backend, what follows the result of `stop()` is `cancel_all()`. -/
private theorem Moves.stopReturned (hm : Moves w s e c p p' events eff) (hn : w.navigationBackend = true)
    (hmem : .stopReturned e ∈ events) : .called e c .cancelAll ∈ events := by
  cases hm with
  | stopped cid fp hn' => simp
  | stoppedLast cid o hn' => rw [hn] at hn'; cases hn'
  | _ => simp at hmem

/-- With a motion backend, `cancel_all()` follows the result of `stop()`. -/
private theorem Moves.cancelAll (hm : Moves w s e c p p' events eff) (hb : w.motionBackend = true) {e' : ExecId}
    {c' : CommandRef} (hmem : Event.called e' c' .cancelAll ∈ events) : .stopReturned e ∈ events := by
  cases hm with
  | stopped cid fp hn' => simp
  | dispatched q b token call hop hnew =>
    have hcall : call = .cancelAll := by
      simp only [List.mem_cons, reduceCtorEq, Event.called.injEq, List.not_mem_nil, or_false, false_or] at hmem
      exact hmem.2.2.symm
    subst hcall
    exact absurd hop.starts (by simp [BackendCall.Starts])
  | stopNavigationCalled q cid fp hop hm' => rw [hb] at hm'; cases hm'
  | _ => simp at hmem

/-- With a motion backend, the lookup is followed by the call of `stop()`. -/
private theorem Moves.stopCalled_of_looks (hm : Moves w s e c p p' events eff) (hb : w.motionBackend = true)
    (hk : eff.kind = .looks) :
    Event.looked e (s.activeCommands (w.command c).robotId) (stopToken w s (w.command c)) ∈ events ∧
      .called e c .stop ∈ events ∧ eff = .cancelToken (stopToken w s (w.command c)) ∧ p ≠ .backend := by
  cases hm with
  | stopCalled q cid hop hm' => exact ⟨by simp, by simp, rfl, by simp⟩
  | stopNavigationCalled q cid fp hop hm' => rw [hb] at hm'; cases hm'
  | stopNoBackend q o hop hm' => rw [hb] at hm'; cases hm'
  | _ => cases hk

end Lemmas

/-! ### The condition -/

section Runs

variable [IntCast N] [Add N] [Sub N] {w : Wiring N}

omit [Add N] [Sub N] in
/-- The execution that a STOP starts. -/
private theorem submit_started {s : State N} {c : CommandRef} (hfresh : s.inFlight (w.command c).commandId = none) :
    ∃ x, (submit w s c).execs s.nextExec = some x ∧ x.command = c := by
  unfold submit
  dsimp only
  rw [hfresh]
  exact ⟨_, Function.update_self _ _ _, rfl⟩

/-- A step of a run whose reply is known. -/
private theorem run_reply {s s' : State N} {as : List (Action N)} {e : ExecId} {now : N} {reply : Reply N}
    (h : StepSystem.run (step w) s as = some s') (hmem : .resume e now reply ∈ as) :
    ∃ as₁ as₂ t t' x x' events eff, as = as₁ ++ .resume e now reply :: as₂ ∧
      StepSystem.run (step w) s as₁ = some t ∧ StepSystem.run (step w) t' as₂ = some s' ∧
      step w t (.resume e now reply) = some t' ∧ Resumed w t t' e x x' events eff ∧ Answers w e x reply events eff := by
  obtain ⟨as₁, as₂, rfl⟩ := List.append_of_mem hmem
  obtain ⟨t, h₁, h₂⟩ := StepSystem.run_append.1 h
  obtain ⟨t', hstep, hrest⟩ := StepSystem.run_cons.1 h₂
  obtain ⟨x, x', events, eff, hr, hans⟩ := resume_moves hstep
  exact ⟨as₁, as₂, t, t', x, x', events, eff, rfl, h₁, hrest, hstep, hr, hans⟩

variable [Mul N] [PyMath N] [LT N] [DecidableLT N] [LE N] [DecidableLE N] {safety : SafetyConfig N}

/-- What is known of the steps after the submit of a STOP. -/
private structure Setting (w : Wiring N) (c : CommandRef) (s : State N) (e : ExecId) : Prop where
  consistent : Consistent w s
  histories : Histories w s
  started : ∃ x, s.execs e = some x ∧ x.command = c
  quiet : ∀ ev ∈ s.log, ev.execution ≠ e
  stop : IsStop (w.command c)
  motionBackend : w.motionBackend = true
  navigationBackend : w.navigationBackend = true

omit [Mul N] [PyMath N] [LT N] [DecidableLT N] [LE N] [DecidableLE N] in
private theorem setting_of_submit {as : List (Action N)} {s : State N} {c : CommandRef}
    (h : StepSystem.run (step w) State.initial as = some s) (hstop : IsStop (w.command c))
    (hfresh : s.inFlight (w.command c).commandId = none) (hm : w.motionBackend = true)
    (hn : w.navigationBackend = true) : Setting w c (submit w s c) s.nextExec := by
  have hrun : StepSystem.run (step w) State.initial (as ++ [.submit c]) = some (submit w s c) :=
    StepSystem.run_concat.2 ⟨s, h, rfl⟩
  constructor
  case consistent => exact consistent_run hrun
  case histories => exact trace_run hrun
  case started => exact submit_started hfresh
  case quiet =>
    intro ev hev heq
    rw [(submit_beside (consistent_run h).1 c).log] at hev
    obtain ⟨x, hx⟩ := (trace_run h).owned ev hev
    have hlt := (consistent_run h).1.execFresh _ x hx
    rw [heq] at hlt
    exact absurd hlt (Nat.lt_irrefl _)
  case stop => exact hstop
  case motionBackend => exact hm
  case navigationBackend => exact hn

omit [Mul N] [PyMath N] [LT N] [DecidableLT N] [LE N] [DecidableLE N] in
/-- The STOP's execution keeps its command. -/
private theorem Setting.command_eq {s t : State N} {c : CommandRef} {e : ExecId} (h : Setting w c s e)
    {as : List (Action N)} (hrun : StepSystem.run (step w) s as = some t) {x : Execution N}
    (hx : t.execs e = some x) : x.command = c := by
  obtain ⟨x₀, hx₀, hc₀⟩ := h.started
  obtain ⟨x₁, hx₁, hc₁, -⟩ := (later_run h.consistent hrun).execs e x₀ hx₀
  rw [hx, Option.some.injEq] at hx₁
  rw [hx₁, hc₁, hc₀]

omit [Mul N] [PyMath N] [LT N] [DecidableLT N] [LE N] [DecidableLE N] in
/-- An event of the STOP comes from one of its steps. -/
private theorem Setting.origin {s s' : State N} {c : CommandRef} {e : ExecId} (h : Setting w c s e)
    {as : List (Action N)} (hrun : StepSystem.run (step w) s as = some s') {ev : Event N} (hev : ev ∈ s'.log)
    (he : ev.execution = e) :
    ∃ as₁ as₂ now reply t t' x x' events eff, as = as₁ ++ .resume e now reply :: as₂ ∧
      StepSystem.run (step w) s as₁ = some t ∧ Resumed w t t' e x x' events eff ∧ x.command = c ∧
      Answers w e x reply events eff ∧ ev ∈ events := by
  rcases event_origin h.consistent.1 hrun hev with hold | ⟨as₁, as₂, e', now, reply, t, t', x, x', events, eff, has,
    h₁, -, -, hr, hans, hmem⟩
  · exact absurd he (h.quiet ev hold)
  · obtain rfl : e' = e := by rw [← he, hr.moves.execution_eq ev hmem]
    exact ⟨as₁, as₂, now, reply, t, t', x, x', events, eff, has, h₁, hr, h.command_eq h₁ hr.execs_eq, hans, hmem⟩

omit [Mul N] [PyMath N] [LT N] [DecidableLT N] [LE N] [DecidableLE N] in
/-- What a STOP that reaches everything was given. -/
private theorem Setting.of_reaches {s s' : State N} {c a : CommandRef} {e : ExecId} (h : Setting w c s e)
    {as : List (Action N)} (hrun : StepSystem.run (step w) s as = some s') (hreach : StopReaches s' e c a) :
    PoseReturns e as ∧ SlotHeld w s as e (w.command c).robotId a ∧ StopReturns e as := by
  obtain ⟨tok, y, hlooked, -⟩ := hreach.token
  obtain ⟨as₁, as₂, now, reply, t, t', x, x', events, eff, rfl, h₁, hr, hcx, hans, hmem⟩ := h.origin hrun hlooked rfl
  obtain ⟨-, rfl, hactive, -, ⟨q, hq⟩, -⟩ := hr.moves.looked hmem
  have hreply : ∃ outcome selected, reply = .check (.ok outcome) selected := by
    have hk := hans.kind
    cases reply with
    | check outcome selected =>
      cases outcome with
      | ok outcome => exact ⟨outcome, selected, rfl⟩
      | error exc => cases hk
    | _ => cases hk
  obtain ⟨outcome, selected, rfl⟩ := hreply
  refine ⟨?_, ?_, ?_⟩
  · -- an execution at its check has been given a pose
    have hhist := StepSystem.run_invariant (P := fun s => InFlight w s ∧ Histories w s)
      (fun _ _ _ hs ha => ⟨hs.1.step ha, hs.2.step hs.1 ha⟩) ⟨h.consistent.1, h.histories⟩ h₁
    have htrace := hhist.2.trace e x hr.execs_eq
    rw [hq] at htrace
    have hposed : Event.poseReturned e q ∈ eventsOf t e := by
      cases htrace' : eventsOf t e <;> rw [htrace'] at htrace <;> cases htrace
      simp
    obtain ⟨bs₁, bs₂, now', reply', u, u', z, z', events', eff', has', -, -, -, hans', hmem'⟩ :=
      h.origin h₁ (List.mem_filter.1 hposed).1 rfl
    have hreply' := (hans'.posed q).1 hmem'
    subst hreply'
    exact ⟨now', q, by rw [has']; simp⟩
  · exact ⟨as₁, as₂, now, outcome, selected, t, rfl, h₁, by rw [← hcx, ← hactive]⟩
  · obtain ⟨bs₁, bs₂, now', reply', u, u', z, z', events', eff', has', -, hr', -, hans', hmem'⟩ :=
      h.origin hrun hreach.cancelAll rfl
    obtain ⟨finalPose, rfl⟩ := hans'.stopped.1 (hr'.moves.cancelAll h.motionBackend hmem')
    exact ⟨now', finalPose, by rw [has']; simp⟩

/-- A STOP whose lookup finds `a` in the slot, and whose `stop()` returns, reaches everything. -/
private theorem Setting.reaches {s s' : State N} {c a : CommandRef} {e : ExecId} (h : Setting w c s e)
    {as : List (Action N)} (hrun : StepSystem.run (step w) s as = some s')
    (hpolicy : StepSystem.Along (step w) (ShippedPolicy w safety) s as)
    (hheld : SlotHeld w s as e (w.command c).robotId a) (hreturns : StopReturns e as) : StopReaches s' e c a := by
  obtain ⟨as₁, as₂, now, outcome, selected, t, rfl, h₁, hslot⟩ := hheld
  obtain ⟨t₁, ht₁, h₂⟩ := StepSystem.run_append.1 hrun
  rw [h₁, Option.some.injEq] at ht₁
  subst ht₁
  obtain ⟨t', hstep, hrest⟩ := StepSystem.run_cons.1 h₂
  obtain ⟨x, x', events, eff, hr, hans⟩ := resume_moves hstep
  have hcx := h.command_eq h₁ hr.execs_eq
  have hcons : Consistent w t := StepSystem.run_invariant (fun _ _ _ hs ha => hs.step ha) h.consistent h₁
  -- the policy allows a STOP, so the check leads to the lookup
  obtain ⟨q, hq⟩ := resume_check_point hstep hr.execs_eq
  have hstop : (w.command x.command).operation = .stop := by rw [hcx]; exact h.stop.1
  have hlooks : eff.kind = .looks := by
    obtain ⟨history, now', hcheck⟩ := hpolicy as₁ _ as₂ t rfl h₁ e now _ selected x q rfl hr.execs_eq hq
    rw [check_stop history safety now' q hstop, Except.ok.injEq] at hcheck
    rw [hans.kind, ← hcheck]
    simp [Reply.kind, hstop]
  obtain ⟨hlooked, hcalled, rfl, hpb⟩ := hr.moves.stopCalled_of_looks h.motionBackend hlooks
  rw [← hcx] at hslot
  obtain ⟨tok, hin, htok, hcancelled⟩ := hr.cancels_active hcons hpb hslot
  rw [hslot, htok] at hlooked
  have hcons' := hcons.step hstep
  have hlater := later_run hcons' hrest
  constructor
  case token =>
    obtain ⟨y, hy, hcy, -⟩ := hin
    obtain ⟨y', hy', hcy'⟩ := hr.exec_kept hy
    obtain ⟨y'', hy'', hcy'', -⟩ := hlater.execs tok y' hy'
    refine ⟨tok, y'', hlater.log.subset ?_, hy'', by rw [hcy'', hcy', hcy], hlater.cancelled_of hcancelled⟩
    rw [hr.log]
    exact List.mem_append_right _ hlooked
  case stop =>
    refine hlater.log.subset ?_
    rw [hr.log, ← hcx]
    exact List.mem_append_right _ hcalled
  case cancelAll =>
    obtain ⟨now', finalPose, hmem⟩ := hreturns
    obtain ⟨bs₁, bs₂, u, u', z, z', events', eff', hbs, hu, hu', hustep, hr', hans'⟩ := run_reply hrun hmem
    have hcz := h.command_eq hu hr'.execs_eq
    have hreturned := hr'.moves.stopReturned h.navigationBackend (hans'.stopped.2 ⟨finalPose, rfl⟩)
    have hcons₁ : Consistent w u := StepSystem.run_invariant (fun _ _ _ hs ha => hs.step ha) h.consistent hu
    refine (later_run (hcons₁.step hustep) hu').log.subset ?_
    rw [hr'.log, ← hcz]
    exact List.mem_append_right _ hreturned

/-- A STOP submitted under a fresh id cancels the token of the command `a` and calls both backends exactly when the
pose provider returns, `a` is in the slot of the robot when the policy engine has answered, and the motion backend's
`stop()` returns a result. -/
theorem stop_fanout_iff {as bs : List (Action N)} {s s' : State N} {c a : CommandRef}
    (h : StepSystem.run (step w) State.initial as = some s) (hstop : IsStop (w.command c))
    (hfresh : s.inFlight (w.command c).commandId = none) (hm : w.motionBackend = true)
    (hn : w.navigationBackend = true) (h' : StepSystem.run (step w) (submit w s c) bs = some s')
    (hpolicy : StepSystem.Along (step w) (ShippedPolicy w safety) (submit w s c) bs) :
    StopReaches s' s.nextExec c a ↔
      PoseReturns s.nextExec bs ∧ SlotHeld w (submit w s c) bs s.nextExec (w.command c).robotId a ∧
        StopReturns s.nextExec bs := by
  have hset := setting_of_submit h hstop hfresh hm hn
  constructor
  · exact hset.of_reaches h'
  · rintro ⟨-, hheld, hreturns⟩
    exact hset.reaches h' hpolicy hheld hreturns

end Runs

/-! ### Runs of the small system -/

/-- The replies that the small system gets from the safety check of a STOP are the policy engine's. -/
private theorem sampleStop_policy : StepSystem.Along (step (sampleWiring ℝ))
    (ShippedPolicy (sampleWiring ℝ) (sampleSafety ℝ)) (submit (sampleWiring ℝ) (sampleDispatched ℝ) 2)
    (sampleStop ℝ 1 1) := by
  refine .cons ?_ rfl (.cons ?_ rfl (.cons ?_ rfl (.cons ?_ rfl (.cons ?_ rfl (.cons ?_ rfl .nil)))))
  case refine_3 =>
    intro e now reply selected x q ha hx hq
    cases ha
    obtain rfl := Option.some.inj hx
    refine ⟨fun _ => [], 0, ?_⟩
    rw [check_stop _ _ _ _ rfl]
    rfl
  all_goals
    intro e now reply selected x q ha
    cases ha

/-- The manager after a STOP whose collaborators all return. -/
noncomputable def sampleFanout : State ℝ :=
  (StepSystem.run (step (sampleWiring ℝ)) (submit (sampleWiring ℝ) (sampleDispatched ℝ) 2) (sampleStop ℝ 1 1)).getD
    State.initial

theorem stop_fanout_sample : StopReaches sampleFanout 1 2 0 := by
  have h : StepSystem.run (step (sampleWiring ℝ)) State.initial (.submit 0 :: sampleDispatch ℝ 0) =
    some (sampleDispatched ℝ) := rfl
  have h' : StepSystem.run (step (sampleWiring ℝ)) (submit (sampleWiring ℝ) (sampleDispatched ℝ) 2)
    (sampleStop ℝ 1 1) = some sampleFanout := rfl
  refine (stop_fanout_iff h ⟨rfl, by decide⟩ rfl rfl rfl h' sampleStop_policy).2 ⟨?_, ?_, ?_⟩
  · exact ⟨_, none, List.mem_cons_of_mem _ List.mem_cons_self⟩
  · exact ⟨[_, _], _, _, _, _, _, rfl, rfl, rfl⟩
  · exact ⟨_, none, List.mem_cons_of_mem _ (List.mem_cons_of_mem _ (List.mem_cons_of_mem _ List.mem_cons_self))⟩

/-- The manager after a STOP whose pose provider raised. -/
def samplePoseRaised : State ℤ :=
  (StepSystem.run (step (sampleWiring ℤ)) (submit (sampleWiring ℤ) (sampleDispatched ℤ) 2)
    [.resume 1 1 .start, .resume 1 1 (.pose (.error ⟨.runtimeError, "pose lookup failed"⟩))]).getD State.initial

/-- The manager after a STOP whose motion backend raised. -/
def sampleStopRaised : State ℤ :=
  (StepSystem.run (step (sampleWiring ℤ)) (submit (sampleWiring ℤ) (sampleDispatched ℤ) 2)
    [.resume 1 1 .start, .resume 1 1 (.pose (.ok none)), .resume 1 1 (sampleAllow ℤ),
      .resume 1 1 (.stop (.raised ⟨.runtimeError, "publish failed"⟩))]).getD State.initial

/-- With a move driving, a STOP whose pose provider raises ends without cancelling the move and without calling
either backend, and one whose motion backend raises ends without calling the navigation backend. -/
theorem stop_fanout_blocked :
    (StepSystem.run (step (sampleWiring ℤ)) (submit (sampleWiring ℤ) (sampleDispatched ℤ) 2)
        [.resume 1 1 .start, .resume 1 1 (.pose (.error ⟨.runtimeError, "pose lookup failed"⟩))] =
          some samplePoseRaised ∧
      (sampleDispatched ℤ).activeCommand "robot" = some 0 ∧
      (∃ x o, samplePoseRaised.execs 1 = some x ∧ x.command = 2 ∧ x.point = .done o) ∧
      InProgress samplePoseRaised 0 0 ∧ ¬ Cancelled samplePoseRaised 0 ∧ ∀ a, ¬ StopReaches samplePoseRaised 1 2 a) ∧
    StepSystem.run (step (sampleWiring ℤ)) (submit (sampleWiring ℤ) (sampleDispatched ℤ) 2)
        [.resume 1 1 .start, .resume 1 1 (.pose (.ok none)), .resume 1 1 (sampleAllow ℤ),
          .resume 1 1 (.stop (.raised ⟨.runtimeError, "publish failed"⟩))] = some sampleStopRaised ∧
      (∃ x o, sampleStopRaised.execs 1 = some x ∧ x.command = 2 ∧ x.point = .done o) ∧
      ∀ a, ¬ StopReaches sampleStopRaised 1 2 a := by
  refine ⟨⟨rfl, rfl, ⟨_, _, rfl, rfl, rfl⟩, ⟨_, rfl, rfl, rfl⟩, ?_, ?_⟩, rfl, ⟨_, _, rfl, rfl, rfl⟩, ?_⟩
  · rintro ⟨t, ht, hc⟩
    obtain rfl := Option.some.inj ht
    cases hc
  · intro a hreach
    have hmem : Event.called 1 2 .stop ∈ [_, _, _, _] := hreach.stop
    simp at hmem
  · intro a hreach
    have hmem : Event.called 1 2 .cancelAll ∈ [_, _, _, _, _, _, _, _] := hreach.cancelAll
    simp at hmem

end RosMcp
