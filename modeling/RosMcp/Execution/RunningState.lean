import RosMcp.Execution.Conclusion

/-!
# The state of a running command

Wherever an execution waits, `execution_state` of its command is the one that belongs to that await
(`Point.state`): no other task writes to the command in the meantime, although submits of the same object join in, end
and are cancelled.  So the active command that `robot.get_state` and `robot://state` report is always `EXECUTING`, and
is a MOVE or a NAVIGATE of its robot whose token can be found (`reported_command`).
-/

namespace RosMcp

variable {N : Type}

/-- The state that an execution has assigned to its command when it waits; a task that has not run yet and one that has
ended leave it open. -/
def Point.state : Point N → Option ExecutionState
  | .handler | .backend => some .executing
  | .pose | .check _ => some .safetyCheck
  | .stopMotion _ | .stopNavigation _ _ => some .planning
  | .created | .done _ => none

/-- The command of every execution that waits is in the state of the await. -/
def InState (s : State N) : Prop :=
  ∀ e x st, s.execs e = some x → x.point.state = some st → s.executionState x.command = st

/-- The `CommandSummary` of the active command of a robot, in `handle_get_state` and `_read_state`. -/
def activeSummary (w : Wiring N) (s : State N) (robotId : String) : Option CommandSummary :=
  (s.activeCommand robotId).map fun c => ⟨(w.command c).commandId, (w.command c).operation, s.executionState c⟩

section Steps

variable {w : Wiring N} {s s' : State N}

private theorem Point.live_of_state {p : Point N} {st : ExecutionState} (h : p.state = some st) : p.Live := by
  cases p with
  | done o => cases h
  | _ => trivial

private theorem Proceeds.live {c : CommandRef} {p p' : Point N} {reply : Reply N} {states : List ExecutionState}
    (h : Proceeds w c p reply states p') : p.Live := by
  cases h with
  | stopFinished _ _ _ _ hlive | refused _ _ _ _ _ hlive | cancelled _ hlive => exact hlive
  | _ => trivial

/-- A transition assigns the state of the await that it leads to, or leads to one with the same state. -/
private theorem Proceeds.state {c : CommandRef} {p p' : Point N} {reply : Reply N} {states : List ExecutionState}
    (h : Proceeds w c p reply states p') {st before : ExecutionState} (hp' : p'.state = some st)
    (hp : ∀ st, p.state = some st → before = st) : states.getLast?.getD before = st := by
  cases h with
  | read | begin | dispatched => exact Option.some.inj hp'
  | posed q => exact (hp _ rfl).trans (Option.some.inj hp')
  | stopping q outcome selected p hop hstopping =>
    cases p' with
    | stopMotion | stopNavigation => exact Option.some.inj hp'
    | _ => cases hstopping
  | stopped => exact (hp _ rfl).trans (Option.some.inj hp')
  | stopFinished | handled | released | refused | deniedBare | cancelled => cases hp'

variable [IntCast N] [Add N] [Sub N] {a : Action N}

private theorem InState.step (h : InState s) (hi : InFlight w s) (ha : step w s a = some s') : InState s' := by
  intro e x' st hx' hst
  rcases step_exec_cases hi ha hx' with ⟨x, hx, hc, hp⟩ | ⟨-, -, hcreated⟩ | ⟨now, reply, x, states, -, hx, hadv⟩
  · rw [hp] at hst
    have hold := h e x st hx hst
    rw [hc]
    rcases step_assigned ha with ⟨-, hstate⟩ | ⟨e', now, reply, y, y', states, -, hy, hadv⟩
    · rw [hstate]
      exact hold
    by_cases hcommand : x.command = y.command
    · -- two executions of one command cannot both run
      have hlive : y.point.Live := hadv.proceeds.live
      have he : e = e' := hi.unique hx hy (Point.live_of_state hst) hlive (by rw [hcommand])
      subst he
      obtain rfl : x = y := Option.some.inj (hx.symm.trans hy)
      obtain rfl : x' = y' := Option.some.inj (hx'.symm.trans hadv.execs)
      rw [hadv.assigns.executionState_self]
      refine hadv.proceeds.state (by rw [hp, hst]) fun st' hst' => ?_
      exact h e x st' hx hst'
    · rw [hadv.assigns.executionState_of_ne hcommand]
      exact hold
  · rw [hcreated] at hst
    cases hst
  · rw [hadv.command_eq, hadv.assigns.executionState_self]
    exact hadv.proceeds.state hst fun st' hst' => h e x st' hx hst'

end Steps

section Runs

variable [IntCast N] [Add N] [Sub N] {w : Wiring N} {s : State N} {as : List (Action N)}

private theorem inState_run (h : StepSystem.run (step w) State.initial as = some s) : InState s := by
  have hboth : InFlight w s ∧ InState s :=
    StepSystem.run_invariant (P := fun s => InFlight w s ∧ InState s)
      (fun _ _ _ hs ha => ⟨hs.1.step ha, hs.2.step hs.1 ha⟩) ⟨InFlight.initial, by rintro e x st ⟨⟩⟩ h
  exact hboth.2

/-- In every reachable state the command of every execution that waits is in the state of its await, and the active
command that is reported of a robot is executing: it is a MOVE or a NAVIGATE of the robot that was allowed and has not
come back from its backend, and its id leads to its token. -/
theorem reported_command (h : StepSystem.run (step w) State.initial as = some s) :
    (∀ e x st, s.execs e = some x → x.point.state = some st → s.executionState x.command = st) ∧
    ∀ robotId summary, activeSummary w s robotId = some summary →
      summary.executionState = .executing ∧ ∃ e x call q, s.execs e = some x ∧ x.point = .backend ∧
        summary.commandId = (w.command x.command).commandId ∧ summary.operation = (w.command x.command).operation ∧
        (w.command x.command).robotId = robotId ∧ Dispatches summary.operation call ∧
        .checked e x.command q .allow ∈ s.log ∧ s.tokens summary.commandId = some e := by
  have hstate := inState_run h
  refine ⟨hstate, fun robotId summary hsummary => ?_⟩
  obtain ⟨c, hc, rfl⟩ := Option.map_eq_some_iff.1 hsummary
  obtain ⟨hi, hregistered⟩ := consistent_run h
  obtain ⟨hrobot, e, hprogress⟩ := hregistered.active robotId c hc
  have htoken := (hregistered.tokens (w.command c).commandId e).2 ⟨c, hprogress, rfl⟩
  obtain ⟨x, hx, rfl, hp⟩ := hprogress
  have htrace := (trace_run h).trace e x hx
  rw [hp] at htrace
  generalize hevents : eventsOf s e = events at htrace
  cases htrace with
  | backend q b call hclass hop =>
    have hchecked : .checked e x.command q .allow ∈ eventsOf s e := by
      rw [hevents]
      simp
    exact ⟨hstate e x .executing hx (by rw [hp]; rfl), e, x, call, q, hx, hp, rfl, rfl, hrobot, hop,
      List.mem_of_mem_filter hchecked, htoken⟩

end Runs

/-- What is reported while the first sample move is driving. -/
theorem reported_command_sample : ∃ e x, (sampleDispatched ℤ).execs e = some x ∧ x.point = .backend ∧
    activeSummary (sampleWiring ℤ) (sampleDispatched ℤ) "robot" = some ⟨"A", .move, .executing⟩ ∧
    (sampleDispatched ℤ).tokens "A" = some e := by
  have hrun : StepSystem.run (step (sampleWiring ℤ)) State.initial (.submit 0 :: sampleDispatch ℤ 0) =
    some (sampleDispatched ℤ) := rfl
  obtain ⟨-, e, x, -, -, hx, hp, -, -, -, -, -, htoken⟩ :=
    (reported_command hrun).2 "robot" ⟨"A", .move, .executing⟩ rfl
  exact ⟨e, x, hx, hp, rfl, htoken⟩

end RosMcp
