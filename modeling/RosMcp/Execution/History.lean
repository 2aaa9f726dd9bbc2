import RosMcp.Execution.Registry

/-!
# The exchanges of one execution

`Trace w e c p events` lists what an execution `e` of the command object `c` has exchanged with its collaborators
when it is at the await `p`.  It holds of every execution in every reachable state, however the executions are
interleaved (`trace_run`).  Two consequences concern single executions: a dispatch is preceded by
the answer of the pose provider, the ALLOW and the selected backend (`Trace.dispatched`), and a barred execution calls
no backend and touches no table (`Trace.barred`).
-/

namespace RosMcp

variable {N : Type}

/-- The exchanges of the execution `e`, in order. -/
def eventsOf (s : State N) (e : ExecId) : List (Event N) := s.log.filter fun ev => decide (ev.execution = e)

/-- What an execution has exchanged at each await; an ended execution keeps what it had exchanged. -/
inductive Trace (w : Wiring N) (e : ExecId) (c : CommandRef) : Point N → List (Event N) → Prop
  | created : Trace w e c .created []
  | handler (hclass : (w.command c).commandClass = .read) : Trace w e c .handler []
  | pose (hclass : (w.command c).commandClass ≠ .read) : Trace w e c .pose []
  | check (p : Option (Pose2D N)) (hclass : (w.command c).commandClass ≠ .read) :
      Trace w e c (.check p) [.poseReturned e p]
  | backend (p : Option (Pose2D N)) (b : Backend) (call : BackendCall)
      (hclass : (w.command c).commandClass ≠ .read) (hop : Dispatches (w.command c).operation call) :
      Trace w e c .backend
        [.poseReturned e p, .checked e c p .allow, .selected e (some b), .called e c call]
  | stopMotion (p : Option (Pose2D N)) (active : Option CommandRef) (token : Option ExecId)
      (cancelledId : Option String) (hclass : (w.command c).commandClass ≠ .read)
      (hop : (w.command c).operation = .stop) :
      Trace w e c (.stopMotion cancelledId)
        [.poseReturned e p, .checked e c p .allow, .looked e active token, .called e c .stop]
  | stopNavigationOnly (p : Option (Pose2D N)) (active : Option CommandRef) (token : Option ExecId)
      (cancelledId : Option String) (finalPose : Option (Pose2D N))
      (hclass : (w.command c).commandClass ≠ .read) (hop : (w.command c).operation = .stop)
      (hm : w.motionBackend = false) :
      Trace w e c (.stopNavigation cancelledId finalPose)
        [.poseReturned e p, .checked e c p .allow, .looked e active token, .called e c .cancelAll]
  | stopNavigation (p : Option (Pose2D N)) (active : Option CommandRef) (token : Option ExecId)
      (cancelledId : Option String) (finalPose : Option (Pose2D N))
      (hclass : (w.command c).commandClass ≠ .read) (hop : (w.command c).operation = .stop) :
      Trace w e c (.stopNavigation cancelledId finalPose)
        [.poseReturned e p, .checked e c p .allow, .looked e active token, .called e c .stop, .stopReturned e,
          .called e c .cancelAll]
  | ended (p : Point N) (o : Outcome N) (events : List (Event N)) (h : Trace w e c p events) (ho : o.Unsuccessful) :
      Trace w e c (.done o) events
  | handled (o : Outcome N) (hclass : (w.command c).commandClass = .read) : Trace w e c (.done o) []
  | released (o : Outcome N) (events : List (Event N)) (h : Trace w e c .backend events) :
      Trace w e c (.done o) events
  | refused (p : Option (Pose2D N)) (d : SafetyDecision) (o : Outcome N)
      (hclass : (w.command c).commandClass ≠ .read) (hd : d ≠ .allow) (ho : o.Unsuccessful) :
      Trace w e c (.done o) [.poseReturned e p, .checked e c p d]
  | plannerRaised (p : Option (Pose2D N)) (o : Outcome N) (hclass : (w.command c).commandClass ≠ .read)
      (hop : (w.command c).operation ≠ .stop) :
      Trace w e c (.done o) [.poseReturned e p, .checked e c p .allow]
  | unavailable (p : Option (Pose2D N)) (o : Outcome N) (hclass : (w.command c).commandClass ≠ .read)
      (hop : (w.command c).operation ≠ .stop) :
      Trace w e c (.done o) [.poseReturned e p, .checked e c p .allow, .selected e none]
  | undispatched (p : Option (Pose2D N)) (b : Backend) (o : Outcome N)
      (hclass : (w.command c).commandClass ≠ .read) (hop : (w.command c).operation ≠ .stop) :
      Trace w e c (.done o) [.poseReturned e p, .checked e c p .allow, .selected e (some b)]
  | stopNoBackend (p : Option (Pose2D N)) (active : Option CommandRef) (token : Option ExecId) (o : Outcome N)
      (hclass : (w.command c).commandClass ≠ .read) (hop : (w.command c).operation = .stop)
      (hn : w.navigationBackend = false) :
      Trace w e c (.done o) [.poseReturned e p, .checked e c p .allow, .looked e active token]
  | stoppedLast (p : Option (Pose2D N)) (active : Option CommandRef) (token : Option ExecId) (o : Outcome N)
      (hclass : (w.command c).commandClass ≠ .read) (hop : (w.command c).operation = .stop)
      (hn : w.navigationBackend = false) :
      Trace w e c (.done o)
        [.poseReturned e p, .checked e c p .allow, .looked e active token, .called e c .stop, .stopReturned e]
  | cancelledAll (cancelledId : Option String) (finalPose : Option (Pose2D N)) (o : Outcome N)
      (events : List (Event N)) (h : Trace w e c (.stopNavigation cancelledId finalPose) events) :
      Trace w e c (.done o) events

section Steps

variable {w : Wiring N} {s s' : State N} {e : ExecId} {c : CommandRef} {p p' : Point N}
  {events events' : List (Event N)} {eff : RegistryEffect N}

/-- A transition extends the trace. -/
theorem Trace.step (h : Trace w e c p events) (hm : Moves w s e c p p' events' eff) :
    Trace w e c p' (events ++ events') := by
  cases hm with
  | read hclass => cases h; exact .handler hclass
  | readMissing o hclass => cases h; exact .handled o hclass
  | begin hclass => cases h; exact .pose hclass
  | handled o => cases h with | handler hclass => exact .handled o hclass
  | posed q => cases h with | pose hclass => exact .check q hclass
  | raised p o hp hb ho =>
    rw [List.append_nil]
    exact .ended p o events h ho
  | refused q d o hd ho => cases h with | check q hclass => exact .refused q d o hclass hd ho
  | plannerRaised q o hop => cases h with | check q hclass => exact .plannerRaised q o hclass hop
  | unavailable q o hop => cases h with | check q hclass => exact .unavailable q o hclass hop
  | undispatched q b token o hop => cases h with | check q hclass => exact .undispatched q b o hclass hop
  | dispatched q b token call hop hnew => cases h with | check q hclass => exact .backend q b call hclass hop
  | stopCalled q cid hop hm => cases h with | check q hclass => exact .stopMotion q _ _ cid hclass hop
  | stopNavigationCalled q cid fp hop hm hn =>
    cases h with | check q hclass => exact .stopNavigationOnly q _ _ cid fp hclass hop hm
  | stopNoBackend q o hop hm hn => cases h with | check q hclass => exact .stopNoBackend q _ _ o hclass hop hn
  | stopped cid fp hn =>
    cases h with | stopMotion q active token cid hclass hop => exact .stopNavigation q active token cid fp hclass hop
  | stoppedLast cid o hn =>
    cases h with | stopMotion q active token cid hclass hop => exact .stoppedLast q active token o hclass hop hn
  | cancelledAll cid fp o =>
    rw [List.append_nil]
    exact .cancelledAll cid fp o events h
  | released o =>
    rw [List.append_nil]
    exact .released o events h

/-- The exchanges of a transition are those of its execution. -/
theorem Moves.execution_eq (hm : Moves w s e c p p' events eff) : ∀ ev ∈ events, ev.execution = e := by
  cases hm <;> simp [Event.execution]

/-- A dispatch is the last exchange of its execution, after the pose, the ALLOW and the selection. -/
theorem Trace.dispatched (h : Trace w e c p events) {e' : ExecId} {c' : CommandRef} {call : BackendCall}
    (hmem : Event.called e' c' call ∈ events) (hcall : call = .move ∨ call = .navigate) :
    ∃ q b, events = [.poseReturned e q, .checked e c q .allow, .selected e (some b), .called e c call] ∧ e' = e ∧
      c' = c ∧ Dispatches (w.command c).operation call := by
  induction h with
  | backend q b call' hclass hop =>
    simp only [List.mem_cons, reduceCtorEq, Event.called.injEq, List.not_mem_nil, or_false, false_or] at hmem
    obtain ⟨rfl, rfl, rfl⟩ := hmem
    exact ⟨q, b, rfl, rfl, rfl, hop⟩
  | ended p o events h ho ih => exact ih hmem
  | released o events h ih => exact ih hmem
  | cancelledAll cid fp o events h ih => exact ih hmem
  | _ => rcases hcall with rfl | rfl <;> simp at hmem

/-- Only a STOP calls `stop()` of the motion backend. -/
theorem Trace.ne_move_of_stop (h : Trace w e c p events) {e' : ExecId} {c' : CommandRef}
    (hmem : Event.called e' c' .stop ∈ events) : (w.command c).operation ≠ .move := by
  induction h with
  | backend q b call hclass hop =>
    simp only [List.mem_cons, reduceCtorEq, Event.called.injEq, List.not_mem_nil, or_false, false_or] at hmem
    obtain ⟨-, -, rfl⟩ := hmem
    intro hmove
    rw [hmove] at hop
    cases hop
  | stopMotion q active token cid hclass hop | stopNavigation q active token cid fp hclass hop
  | stoppedLast q active token o hclass hop hn => simp [hop]
  | ended p o events h ho ih => exact ih hmem
  | released o events h ih => exact ih hmem
  | cancelledAll cid fp o events h ih => exact ih hmem
  | _ => simp at hmem

/-- READ-class, refused by the safety check, or without a backend. -/
def Barred (w : Wiring N) (e : ExecId) (c : CommandRef) (events : List (Event N)) : Prop :=
  (w.command c).commandClass = .read ∨ (∃ q d, Event.checked e c q d ∈ events ∧ d ≠ .allow) ∨
    Event.selected e none ∈ events

/-- The exchanges that come with a call of a backend or with a change of the tables. -/
def Event.Engages : Event N → Prop
  | .selected _ (some _) | .looked .. | .called .. => True
  | _ => False

/-- A barred execution neither calls a backend nor gets as far as the tables. -/
theorem Trace.barred (h : Trace w e c p events) (hb : Barred w e c events) : ∀ ev ∈ events, ¬ ev.Engages := by
  induction h with
  | ended p o events h ho ih => exact ih hb
  | released o events h ih => exact ih hb
  | cancelledAll cid fp o events h ih => exact ih hb
  | created | handler | pose | handled => simp
  | check | refused | plannerRaised | unavailable => simp [Event.Engages]
  | backend q b call hclass | stopMotion q a t cid hclass | stopNavigationOnly q a t cid fp hclass
  | stopNavigation q a t cid fp hclass | undispatched q b o hclass | stopNoBackend q a t o hclass
  | stoppedLast q a t o hclass =>
    rcases hb with hb | ⟨q', d, hmem, hd⟩ | hmem
    · exact absurd hb hclass
    · simp only [List.mem_cons, reduceCtorEq, Event.checked.injEq, List.not_mem_nil, or_false, false_or] at hmem
      exact absurd hmem.2.2.2 hd
    · simp at hmem

/-- A transition that changes the tables follows an engagement. -/
theorem Trace.engages_of_ne (h : Trace w e c p events) (hm : Moves w s e c p p' events' eff)
    (heff : eff ≠ .quiet) : ∃ ev ∈ events ++ events', ev.Engages := by
  cases hm with
  | undispatched q b token o hop => exact ⟨.selected e (some b), by simp, trivial⟩
  | dispatched q b token call hop hnew => exact ⟨.selected e (some b), by simp, trivial⟩
  | stopCalled | stopNavigationCalled | stopNoBackend =>
    exact ⟨.looked e (s.activeCommands (w.command c).robotId) (stopToken w s (w.command c)), by simp, trivial⟩
  | released o => cases h with | backend q b call hclass hop => exact ⟨.selected e (some b), by simp, trivial⟩
  | _ => exact absurd rfl heff

end Steps

/-! ### In every reachable state -/

/-- Every execution follows the order of `Trace`, and every event belongs to an execution. -/
structure Histories (w : Wiring N) (s : State N) : Prop where
  trace : ∀ e x, s.execs e = some x → Trace w e x.command x.point (eventsOf s e)
  owned : ∀ ev ∈ s.log, ∃ x, s.execs ev.execution = some x

section Runs

variable {w : Wiring N} {s s' : State N}

theorem Histories.initial : Histories w (State.initial : State N) := by
  constructor <;> simp [State.initial]

/-- A step beside the executions exchanges nothing. -/
private theorem Histories.beside (h : Histories w s) (hb : Beside s s') : Histories w s' := by
  constructor
  · intro e x' hx'
    have hev : eventsOf s' e = eventsOf s e := by rw [eventsOf, hb.log]; rfl
    rw [hev]
    rcases hb.new e x' hx' with ⟨x, hx₀, hc, hp⟩ | ⟨-, hn, hp⟩
    · rw [hc, hp]
      exact h.trace e x hx₀
    · have hnil : eventsOf s e = [] := by
        rw [eventsOf, List.filter_eq_nil_iff]
        intro ev hev heq
        obtain ⟨x, hx⟩ := h.owned ev hev
        rw [of_decide_eq_true heq, hn] at hx
        cases hx
      rw [hnil, hp]
      exact .created
  · intro ev hev
    rw [hb.log] at hev
    obtain ⟨x, hx₀⟩ := h.owned ev hev
    obtain ⟨x', hx', -⟩ := hb.kept _ x hx₀
    exact ⟨x', hx'⟩

theorem Resumed.eventsOf_self {e : ExecId} {x x' : Execution N} {events : List (Event N)} {eff : RegistryEffect N}
    (hr : Resumed w s s' e x x' events eff) : eventsOf s' e = eventsOf s e ++ events := by
  have hall : events.filter (fun ev => decide (ev.execution = e)) = events := by
    rw [List.filter_eq_self]
    intro ev hev
    exact decide_eq_true (hr.moves.execution_eq ev hev)
  rw [eventsOf, hr.log, List.filter_append, hall]
  rfl

private theorem Resumed.eventsOf_of_ne {e : ExecId} {x x' : Execution N} {events : List (Event N)}
    {eff : RegistryEffect N}
    (hr : Resumed w s s' e x x' events eff) {e' : ExecId} (hne : e' ≠ e) : eventsOf s' e' = eventsOf s e' := by
  have hnone : events.filter (fun ev => decide (ev.execution = e')) = [] := by
    rw [List.filter_eq_nil_iff]
    intro ev hev heq
    rw [decide_eq_true_eq, hr.moves.execution_eq ev hev] at heq
    exact hne heq.symm
  rw [eventsOf, hr.log, List.filter_append, hnone, List.append_nil]
  rfl

private theorem Histories.resume {e : ExecId} {x x' : Execution N} {events : List (Event N)} {eff : RegistryEffect N}
    (h : Histories w s) (hr : Resumed w s s' e x x' events eff) : Histories w s' := by
  constructor
  · intro e' y hy
    rcases hr.exec_cases hy with ⟨rfl, rfl⟩ | ⟨hne, hy⟩
    · rw [hr.eventsOf_self, hr.command_eq]
      exact (h.trace e' x hr.execs_eq).step hr.moves
    · rw [hr.eventsOf_of_ne hne]
      exact h.trace e' y hy
  · intro ev hev
    rw [hr.log, List.mem_append] at hev
    rcases hev with hev | hev
    · obtain ⟨y, hy⟩ := h.owned ev hev
      obtain ⟨y', hy', -⟩ := hr.exec_kept hy
      exact ⟨y', hy'⟩
    · rw [hr.moves.execution_eq ev hev]
      exact ⟨x', hr.execs_self⟩

theorem Histories.step [IntCast N] [Add N] [Sub N] {a : Action N} (h : Histories w s) (hi : InFlight w s)
    (ha : step w s a = some s') : Histories w s' := by
  rcases step_split hi ha with ⟨-, hb⟩ | ⟨e, now, reply, x, x', events, eff, rfl, hr, -⟩
  · exact h.beside hb
  · exact h.resume hr

/-- In every run the exchanges of every execution are in the order of `Trace`. -/
theorem trace_run [IntCast N] [Add N] [Sub N] {as : List (Action N)}
    (h : StepSystem.run (step w) State.initial as = some s) : Histories w s :=
  (StepSystem.run_invariant (P := fun s => InFlight w s ∧ Histories w s)
    (fun _ _ _ hs ha => ⟨hs.1.step ha, hs.2.step hs.1 ha⟩) ⟨InFlight.initial, Histories.initial⟩ h).2

/-- Every event of a run comes from a step of its execution. -/
theorem event_origin [IntCast N] [Add N] [Sub N] {as : List (Action N)} (hi : InFlight w s)
    (h : StepSystem.run (step w) s as = some s') {ev : Event N} (hev : ev ∈ s'.log) :
    ev ∈ s.log ∨ ∃ as₁ as₂ e now reply t t' x x' events eff, as = as₁ ++ .resume e now reply :: as₂ ∧
      StepSystem.run (step w) s as₁ = some t ∧ StepSystem.run (step w) t' as₂ = some s' ∧
      step w t (.resume e now reply) = some t' ∧ Resumed w t t' e x x' events eff ∧
      Answers w e x reply events eff ∧ ev ∈ events := by
  induction as generalizing s with
  | nil =>
    obtain rfl := Option.some.inj h
    exact Or.inl hev
  | cons a as ih =>
    obtain ⟨s₁, h₁, h₂⟩ := StepSystem.run_cons.1 h
    rcases ih (hi.step h₁) h₂ with hev₁ | ⟨as₁, as₂, e, now, reply, t, t', x, x', events, eff, has, hrun, hrest⟩
    · rcases step_split hi h₁ with ⟨-, hb⟩ | ⟨e, now, reply, x, x', events, eff, rfl, hr, hans⟩
      · rw [hb.log] at hev₁
        exact Or.inl hev₁
      · rw [hr.log, List.mem_append] at hev₁
        rcases hev₁ with hev₁ | hev₁
        · exact Or.inl hev₁
        · exact Or.inr ⟨[], as, e, now, reply, s, s₁, x, x', events, eff, rfl, rfl, h₂, h₁, hr, hans, hev₁⟩
    · exact Or.inr ⟨a :: as₁, as₂, e, now, reply, t, t', x, x', events, eff, by rw [has]; rfl,
        StepSystem.run_cons.2 ⟨s₁, h₁, hrun⟩, hrest⟩

end Runs

end RosMcp
