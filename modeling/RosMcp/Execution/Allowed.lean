import RosMcp.Execution.StopFanout

/-!
# Dispatched commands have been allowed

With the policy engine as the safety check of the manager, a command that has been dispatched to a backend was allowed
by the engine, for the pose that its execution was given (`dispatched_allowed`).
-/

namespace RosMcp

section Checked

variable {N : Type} {w : Wiring N} {s : State N} {e : ExecId} {c : CommandRef} {p p' : Point N}
  {events : List (Event N)} {eff : RegistryEffect N}

/-- What is checked is the command of the execution, with the pose it waits with. -/
private theorem Moves.checked (hm : Moves w s e c p p' events eff) {e' : ExecId} {c' : CommandRef}
    {q : Option (Pose2D N)} {d : SafetyDecision} (hmem : Event.checked e' c' q d ∈ events) :
    c' = c ∧ p = .check q := by
  cases hm <;> simp at hmem
  all_goals
    obtain ⟨-, rfl, rfl, -⟩ := hmem
    exact ⟨rfl, rfl⟩

end Checked

section Runs

variable {N : Type} [IntCast N] [Add N] [Sub N] [Mul N] [PyMath N] [LT N] [DecidableLT N] [LE N] [DecidableLE N]
  {w : Wiring N} {safety : SafetyConfig N} {s : State N} {as : List (Action N)} {e : ExecId} {c : CommandRef}

/-- A dispatched command was allowed by the policy engine for the pose that its execution was given, by a method that
serves its operation. -/
theorem dispatched_allowed (h : StepSystem.run (step w) State.initial as = some s)
    (hpolicy : StepSystem.Along (step w) (ShippedPolicy w safety) State.initial as) {call : BackendCall}
    (hdispatch : Event.called e c call ∈ s.log) (hstarts : call.Starts) {currentPose : Option (Pose2D N)}
    (hpose : Event.poseReturned e currentPose ∈ s.log) :
    Dispatches (w.command c).operation call ∧
      ∃ history now, Decides .allow history safety now (w.command c) currentPose := by
  have hhist := trace_run h
  obtain ⟨x, hx⟩ := hhist.owned _ hdispatch
  have hmem : ∀ ev ∈ s.log, ev.execution = e → ev ∈ eventsOf s e :=
    fun ev hev he => List.mem_filter.2 ⟨hev, decide_eq_true he⟩
  obtain ⟨q, b, hevents, -, rfl, hop⟩ := (hhist.trace e x hx).dispatched (hmem _ hdispatch rfl) hstarts
  -- the execution was given one pose, with which it was checked
  obtain rfl : currentPose = q := by
    have hposed := hmem _ hpose rfl
    rw [hevents] at hposed
    simpa using hposed
  have hchecked : Event.checked e x.command currentPose .allow ∈ s.log := by
    refine (List.mem_filter.1 (?_ : _ ∈ eventsOf s e)).1
    rw [hevents]
    simp
  rcases event_origin InFlight.initial h hchecked with hold | ⟨as₁, as₂, e', now, reply, t, t', y, y', events, eff, has,
    h₁, -, -, hr, hans, hev⟩
  · simp [State.initial] at hold
  · obtain rfl : e' = e := (hr.moves.execution_eq _ hev).symm
    obtain ⟨hcommand, hpoint⟩ := hr.moves.checked hev
    obtain ⟨outcome, selected, rfl, hallow⟩ := hans.decision _ _ _ hev
    obtain ⟨history, now', hcheck⟩ :=
      hpolicy as₁ _ as₂ t has h₁ e' now _ selected y currentPose rfl hr.execs_eq hpoint
    refine ⟨hop, history, now', outcome, ?_, hallow⟩
    rw [hcommand]
    exact hcheck

end Runs

end RosMcp
