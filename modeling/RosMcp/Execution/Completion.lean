import RosMcp.Execution.Dedup

/-!
# Every call of `submit` comes to a result

`_execute` has a handler for every exception of a collaborator, so an execution that nobody cancels ends with a
result, and with it every call of `submit` that waits for it.  An execution awaits at most five times, and each of
these awaits can go on with any value and any exception: `completes_run` says that from every reachable state, whatever
the collaborators answer from there on, the call returns a `ToolResult`.
-/

namespace RosMcp

variable {N : Type}

/-- An answer to an await: any value or exception of the collaborator, but no `CancelledError`. -/
inductive Point.Accepts : Point N → Reply N → Prop
  | created : Accepts .created .start
  | handler (reply : Except PyException (ToolResult N)) : Accepts .handler (.handler reply)
  | pose (reply : Except PyException (Option (Pose2D N))) : Accepts .pose (.pose reply)
  | check (currentPose : Option (Pose2D N)) (reply : Except PyException (SafetyOutcome N))
      (selected : Except PyException (Option Backend)) : Accepts (.check currentPose) (.check reply selected)
  | backend (reply : BackendReply N) : Accepts .backend (.backend reply)
  | stopMotion (cancelledId : Option String) (reply : StopReply N) : Accepts (.stopMotion cancelledId) (.stop reply)
  | stopNavigation (cancelledId : Option String) (finalPose : Option (Pose2D N)) (reply : Except PyException Unit) :
      Accepts (.stopNavigation cancelledId finalPose) (.cancelAll reply)

/-- A step that cancels no task that works for `commandId`. -/
def Spares (w : Wiring N) (commandId : String) (s : State N) : Action N → Prop
  | .cancelTask i => ∀ b, s.submits i = some b → (w.command b.command).commandId ≠ commandId
  | .resume e _ .cancelled => ∀ x, s.execs e = some x → (w.command x.command).commandId ≠ commandId
  | _ => True

private theorem Point.Accepts.spares {w : Wiring N} {commandId : String} {s : State N} {e : ExecId} {now : N}
    {p : Point N}
    {reply : Reply N} (h : p.Accepts reply) : Spares w commandId s (.resume e now reply) := by
  cases h <;> trivial

/-- Whatever the collaborators answer from here on, and whatever else happens in between, the call `i` of `submit`
returns a result, as long as no task that works for `commandId` is cancelled. -/
inductive Completes [IntCast N] [Add N] [Sub N] (w : Wiring N) (commandId : String) (i : SubmitId) : State N → Prop
  | ended {s : State N} {b : Submit N} {result : ToolResult N} (hb : s.submits i = some b)
      (hend : b.ended = some (.returned result)) : Completes w commandId i s
  | wakes {s s' : State N} (hw : wake w s i = some s') (h : Completes w commandId i s') : Completes w commandId i s
  | awaits {s : State N} {b : Submit N} {x : Execution N} (hb : s.submits i = some b)
      (hx : s.execs b.execution = some x) (hlive : x.point.Live)
      (haccepts : ∀ now reply, x.point.Accepts reply → ∃ s', resume w s b.execution now reply = some s')
      (h : ∀ now reply s' as s'', x.point.Accepts reply → resume w s b.execution now reply = some s' →
        StepSystem.run (step w) s' as = some s'' → StepSystem.Along (step w) (Spares w commandId) s' as →
        Completes w commandId i s'') : Completes w commandId i s

/-- No task that works for `commandId` has been cancelled. -/
structure Uncancelled (w : Wiring N) (commandId : String) (s : State N) : Prop where
  execs : ∀ e x, s.execs e = some x → (w.command x.command).commandId = commandId →
    x.cancelRequested = false ∧ x.point ≠ .done .cancelled
  submits : ∀ i b, s.submits i = some b → (w.command b.command).commandId = commandId →
    b.cancelRequested = false ∧ b.ended ≠ some .cancelled

/-! ### What an answer leads to -/

/-- The execution `e` has not been cancelled, and nobody has newly asked for that. -/
def Settled (s : State N) (e : ExecId) (x : Execution N) : Prop :=
  ∃ x', s.execs e = some x' ∧ x'.cancelRequested = x.cancelRequested ∧ x'.point ≠ .done .cancelled

section Settled

variable {s : State N} {e : ExecId} {x : Execution N}

private theorem suspend_settled {p : Point N} (hp : p ≠ .done .cancelled) : Settled (s.suspend e x p) e x :=
  ⟨{ x with point := p }, Function.update_self _ _ _, rfl, hp⟩

private theorem finish_settled {st : ExecutionState} {result : ToolResult N} : Settled (s.finish e x st result) e x :=
  suspend_settled (by simp)

variable {w : Wiring N} {now : N}

section Functions

variable [IntCast N] [Sub N]

private theorem unhandled_settled {exc : PyException} : Settled (unhandled w s e x now exc) e x := finish_settled

private theorem execute_settled : Settled (execute w s e x now) e x := by
  unfold execute executeRead
  dsimp only
  split
  · split
    · exact suspend_settled (x := { x with start := now }) (by simp)
    · exact finish_settled (x := { x with start := now })
  · exact suspend_settled (x := { x with start := now }) (by simp)

end Functions

private theorem stopNavigation_settled [Sub N] {cancelledId : Option String} {finalPose : Option (Pose2D N)} :
    Settled (stopNavigation w s e x now cancelledId finalPose) e x := by
  unfold stopNavigation
  split
  · exact suspend_settled (by simp)
  · exact finish_settled

variable [IntCast N] [Add N] [Sub N]

private theorem dispatch_settled : Settled (dispatch w s e x now) e x := by
  unfold dispatch
  dsimp only
  split
  · split
    · exact suspend_settled (by simp)
    · exact unhandled_settled
  · split
    · exact suspend_settled (by simp)
    · exact unhandled_settled
  · exact finish_settled

private theorem executeChecked_settled {currentPose : Option (Pose2D N)} {outcome : SafetyOutcome N}
    {selected : Except PyException (Option Backend)} :
    Settled (executeChecked w s e x now currentPose outcome selected) e x := by
  unfold executeChecked
  dsimp only
  split
  · split
    · exact suspend_settled (by simp)
    · exact unhandled_settled
  · exact finish_settled
  · split
    · unfold handleStop
      dsimp only
      split
      · exact suspend_settled (by simp)
      · exact stopNavigation_settled
    · split
      · exact unhandled_settled
      · exact finish_settled
      · exact dispatch_settled

/-- An answer is accepted, and it leaves the execution uncancelled. -/
private theorem resume_settled (hx : s.execs e = some x) {reply : Reply N} (h : x.point.Accepts reply) :
    ∃ s', resume w s e now reply = some s' ∧ Settled s' e x := by
  obtain ⟨c, t, p, r⟩ := x
  unfold resume
  rw [hx]
  dsimp only at h ⊢
  cases h with
  | created => exact ⟨_, rfl, execute_settled⟩
  | handler reply =>
    cases reply with
    | error exc => exact ⟨_, rfl, unhandled_settled⟩
    | ok result => exact ⟨_, rfl, finish_settled⟩
  | pose reply =>
    cases reply with
    | error exc => exact ⟨_, rfl, unhandled_settled⟩
    | ok currentPose => exact ⟨_, rfl, suspend_settled (by simp)⟩
  | check currentPose reply selected =>
    cases reply with
    | error exc => exact ⟨_, rfl, unhandled_settled⟩
    | ok outcome => exact ⟨_, rfl, executeChecked_settled⟩
  | backend reply =>
    cases reply with
    | returned result => exact ⟨_, rfl, finish_settled⟩
    | raised exc => exact ⟨_, rfl, unhandled_settled⟩
    | timedOut => exact ⟨_, rfl, finish_settled⟩
  | stopMotion cancelledId reply =>
    cases reply with
    | result finalPose => exact ⟨_, rfl, stopNavigation_settled⟩
    | foreign => exact ⟨_, rfl, unhandled_settled⟩
    | raised exc => exact ⟨_, rfl, unhandled_settled⟩
  | stopNavigation cancelledId finalPose reply =>
    cases reply with
    | error exc => exact ⟨_, rfl, unhandled_settled⟩
    | ok u => exact ⟨_, rfl, finish_settled⟩

/-- What an execution goes on with is an answer to its await or a cancellation. -/
private theorem resume_accepts {s' : State N} {reply : Reply N} (hx : s.execs e = some x)
    (h : resume w s e now reply = some s') : x.point.Accepts reply ∨ reply = .cancelled := by
  obtain ⟨c, t, p, r⟩ := x
  unfold resume at h
  rw [hx] at h
  dsimp only [Option.bind_some] at h
  split at h
  all_goals first
    | exact Or.inl (by constructor)
    | exact Or.inr rfl
    | cases h

end Settled

/-! ### The invariant -/

section Steps

variable [IntCast N] [Add N] [Sub N] {w : Wiring N} {s s' : State N} {commandId : String}

omit [IntCast N] [Add N] [Sub N] in
private theorem uncancelled_initial : Uncancelled w commandId (State.initial : State N) := by
  constructor
  · intro e x hx
    cases hx
  · intro i b hb
    cases hb

omit [Add N] [Sub N] in
private theorem Uncancelled.submit (h : Uncancelled w commandId s) (hs : Consistent w s) (c : CommandRef) :
    Uncancelled w commandId (submit w s c) := by
  constructor
  · intro e x hx hid
    rcases hold : s.execs e with _ | y
    · -- a task that has just been created
      have hnew : x = ⟨c, ((0 : ℤ) : N), .created, false⟩ := by
        unfold RosMcp.submit at hx
        dsimp only at hx
        split at hx
        · rw [hold] at hx
          cases hx
        · rcases update_eq_some.1 hx with ⟨-, hx⟩ | ⟨-, hx⟩
          · exact hx
          · rw [hold] at hx
            cases hx
      subst hnew
      exact ⟨rfl, by simp⟩
    · have hkept : (RosMcp.submit w s c).execs e = some y := by
        unfold RosMcp.submit
        dsimp only
        split
        · exact hold
        · exact update_eq_some.2 (Or.inr ⟨Nat.ne_of_lt (hs.1.execFresh e y hold), hold⟩)
      obtain rfl : y = x := Option.some.inj (hkept.symm.trans hx)
      exact h.execs e y hold hid
  · intro i b hb hid
    unfold RosMcp.submit at hb
    dsimp only at hb
    split at hb <;> rcases update_eq_some.1 hb with ⟨-, rfl⟩ | ⟨-, hb⟩
    · exact ⟨rfl, by simp⟩
    · exact h.submits i b hb hid
    · exact ⟨rfl, by simp⟩
    · exact h.submits i b hb hid

omit [IntCast N] [Add N] [Sub N] in
private theorem Uncancelled.wake {i : SubmitId} (h : Uncancelled w commandId s) (hs : Consistent w s)
    (hw : wake w s i = some s') : Uncancelled w commandId s' := by
  obtain ⟨b, x, o, hb, hend, hx, hp, rfl⟩ := wake_eq_some hw
  refine ⟨h.execs, ?_⟩
  intro j b' hb' hid
  rcases update_eq_some.1 hb' with ⟨-, rfl⟩ | ⟨-, hb'⟩
  · obtain ⟨hrequest, -⟩ := h.submits i b hb hid
    obtain ⟨y, hy, hcommand, -⟩ := hs.1.awaited i b hb
    obtain rfl : x = y := Option.some.inj (hx.symm.trans hy)
    have hpoint := (h.execs _ x hx (hcommand.trans hid)).2
    refine ⟨hrequest, ?_⟩
    simp only [hrequest, Bool.false_eq_true, if_false]
    rintro hcancelled
    apply hpoint
    rw [hp, Option.some.inj hcancelled]
  · exact h.submits j b' hb' hid

omit [IntCast N] [Add N] [Sub N] in
private theorem Uncancelled.cancelTask {i : SubmitId} (h : Uncancelled w commandId s) (hs : Consistent w s)
    (hother : ∀ b, s.submits i = some b → (w.command b.command).commandId ≠ commandId)
    (hw : cancelTask s i = some s') : Uncancelled w commandId s' := by
  obtain ⟨b, x, hb, hend, hx, hcases⟩ := cancelTask_eq_some hw
  rcases hcases with ⟨-, rfl⟩ | ⟨-, rfl⟩
  · refine ⟨h.execs, ?_⟩
    intro j b' hb' hid
    rcases update_eq_some.1 hb' with ⟨-, rfl⟩ | ⟨-, hb'⟩
    · exact absurd hid (hother b hb)
    · exact h.submits j b' hb' hid
  · refine ⟨?_, h.submits⟩
    intro e y hy hid
    rcases update_eq_some.1 hy with ⟨-, rfl⟩ | ⟨-, hy⟩
    · obtain ⟨z, hz, hcommand, -⟩ := hs.1.awaited i b hb
      obtain rfl : x = z := Option.some.inj (hx.symm.trans hz)
      exact absurd (hcommand.symm.trans hid) (hother b hb)
    · exact h.execs e y hy hid

omit [IntCast N] [Add N] [Sub N] in
private theorem Uncancelled.cancel (h : Uncancelled w commandId s) (id : String) : Uncancelled w commandId
    (cancel s id) := by
  have hsubmits : (RosMcp.cancel s id).submits = s.submits := by
    unfold RosMcp.cancel
    cases s.tokens id <;> rfl
  constructor
  · intro e x hx
    rw [RosMcp.cancel, cancelToken_execs] at hx
    exact h.execs e x hx
  · intro i b hb
    exact h.submits i b (by rw [← hsubmits, hb])

private theorem Uncancelled.step {a : Action N} (h : Uncancelled w commandId s) (hs : Consistent w s)
    (hspares : Spares w commandId s a) (ha : step w s a = some s') : Uncancelled w commandId s' := by
  rcases step_cases ha with ⟨c, rfl, rfl⟩ | ⟨i, rfl, hw⟩ | ⟨i, rfl, hw⟩ | ⟨id, rfl, rfl⟩ |
    ⟨e, now, reply, x, x', events, eff, rfl, hr, -⟩
  · exact h.submit hs c
  · exact h.wake hs hw
  · exact h.cancelTask hs hspares hw
  · exact h.cancel id
  · constructor
    · intro e' y hy hid
      rcases hr.exec_cases hy with ⟨rfl, rfl⟩ | ⟨-, hy⟩
      · have hid' : (w.command x.command).commandId = commandId := by rw [← hr.command_eq, hid]
        rcases resume_accepts hr.execs_eq ha with haccepts | rfl
        · have hsettled : ∃ s₁, resume w s e' now reply = some s₁ ∧ Settled s₁ e' x :=
            resume_settled hr.execs_eq haccepts
          obtain ⟨s₁, hs₁, z, hz, hrequest, hpoint⟩ := hsettled
          obtain rfl : s₁ = s' := Option.some.inj (hs₁.symm.trans ha)
          obtain rfl : z = y := Option.some.inj (hz.symm.trans hy)
          exact ⟨by rw [hrequest, (h.execs _ x hr.execs_eq hid').1], hpoint⟩
        · exact absurd hid' (hspares x hr.execs_eq)
      · exact h.execs e' y hy hid
    · intro i b hb
      rw [hr.submits] at hb
      exact h.submits i b hb

/-- The number of answers that an execution may still wait for. -/
def Point.awaitsLeft : Point N → Nat
  | .created => 5
  | .pose => 4
  | .check _ => 3
  | .stopMotion _ => 2
  | .handler | .backend | .stopNavigation .. => 1
  | .done _ => 0

omit [IntCast N] [Add N] [Sub N] in
private theorem Moves.awaitsLeft_lt {e : ExecId} {c : CommandRef} {p p' : Point N} {events : List (Event N)}
    {eff : RegistryEffect N} (h : Moves w s e c p p' events eff) : p'.awaitsLeft < p.awaitsLeft := by
  cases h with
  | raised p o hp hb ho =>
    cases p with
    | done o' => exact absurd hp (not_live_done o')
    | _ => simp [Point.awaitsLeft]
  | _ => simp [Point.awaitsLeft]

/-- An execution never waits for more answers than before. -/
theorem awaitsLeft_run {as : List (Action N)} (hs : Consistent w s)
    (h : StepSystem.run (RosMcp.step w) s as = some s') {e : ExecId} {x x' : Execution N} (hx : s.execs e = some x)
    (hx' : s'.execs e = some x') : x'.point.awaitsLeft ≤ x.point.awaitsLeft := by
  induction as generalizing s x with
  | nil =>
    obtain rfl : s = s' := Option.some.inj h
    obtain rfl : x = x' := Option.some.inj (hx.symm.trans hx')
    exact Nat.le_refl _
  | cons a as ih =>
    obtain ⟨s₁, h₁, h₂⟩ := StepSystem.run_cons.1 h
    rcases step_split hs.1 h₁ with ⟨-, hb⟩ | ⟨e', now, reply, y, y', events, eff, rfl, hr, -⟩
    · obtain ⟨x₁, hx₁, -, hpoint⟩ := hb.kept e x hx
      rw [← hpoint]
      exact ih (hs.step h₁) h₂ hx₁
    · by_cases hne : e = e'
      · subst hne
        obtain rfl : x = y := Option.some.inj (hx.symm.trans hr.execs_eq)
        have hle := ih (hs.step h₁) h₂ hr.execs_self
        have hlt := hr.moves.awaitsLeft_lt
        omega
      · exact ih (hs.step h₁) h₂ (by rw [hr.execs_of_ne hne, hx])

private theorem uncancelled_run {as : List (Action N)} (hs : Consistent w s) (hu : Uncancelled w commandId s)
    (h : StepSystem.run (RosMcp.step w) s as = some s')
    (hspares : StepSystem.Along (RosMcp.step w) (Spares w commandId) s as) :
    Consistent w s' ∧ Uncancelled w commandId s' :=
  StepSystem.run_invariant_along (P := fun s => Consistent w s ∧ Uncancelled w commandId s)
    (fun _ _ _ hs hspares ha => ⟨hs.1.step ha, hs.2.step hs.1 hspares ha⟩) ⟨hs, hu⟩ hspares h

/-- From a consistent state without cancellations every call comes to a result; the induction is on the answers that
its execution may still wait for. -/
private theorem completes_of_uncancelled (n : Nat) {i : SubmitId} {b : Submit N} {x : Execution N}
    (hs : Consistent w s) (hu : Uncancelled w commandId s) (hb : s.submits i = some b)
    (hid : (w.command b.command).commandId = commandId) (hx : s.execs b.execution = some x)
    (hn : x.point.awaitsLeft ≤ n) : Completes w commandId i s := by
  induction n using Nat.strong_induction_on generalizing s b x with
  | _ n ih =>
    obtain ⟨hrequest, hended⟩ := hu.submits i b hb hid
    cases hend : b.ended with
    | some o =>
      cases o with
      | cancelled => exact absurd hend hended
      | returned result => exact .ended hb hend
    | none =>
      by_cases hlive : x.point.Live
      · refine .awaits hb hx hlive ?_ ?_
        · intro now reply haccepts
          have hsettled : ∃ s', resume w s b.execution now reply = some s' ∧ Settled s' b.execution x :=
            resume_settled hx haccepts
          obtain ⟨s', hr, -⟩ := hsettled
          exact ⟨s', hr⟩
        · intro now reply s' as s'' haccepts hr hrun hspares
          have hstep : RosMcp.step w s (.resume b.execution now reply) = some s' := hr
          have hfree : Spares w commandId s (.resume b.execution now reply) := haccepts.spares
          have hs' := hs.step hstep
          obtain ⟨hs'', hu''⟩ := uncancelled_run hs' (hu.step hs hfree hstep) hrun hspares
          have hlater := (step_later hs.1 hs.2 hstep).trans (later_run hs' hrun)
          obtain ⟨b'', hb'', hcommand, hexecution, -⟩ := hlater.submits i b hb
          obtain ⟨x'', hx'', -⟩ := hs''.1.awaited i b'' hb''
          obtain ⟨x₀, x', events, eff, hresumed, -⟩ := resume_moves hr
          obtain rfl : x = x₀ := Option.some.inj (hx.symm.trans hresumed.execs_eq)
          have hless := hresumed.moves.awaitsLeft_lt
          have hle := awaitsLeft_run hs' hrun hresumed.execs_self (by rw [← hexecution]; exact hx'')
          exact ih x''.point.awaitsLeft (by omega) hs'' hu'' hb'' (by rw [hcommand, hid]) hx'' (Nat.le_refl _)
      · obtain ⟨o, hp⟩ := not_live_iff.1 hlive
        obtain ⟨y, hy, hcommand, -⟩ := hs.1.awaited i b hb
        obtain rfl : x = y := Option.some.inj (hx.symm.trans hy)
        have hpoint := (hu.execs _ x hx (hcommand.trans hid)).2
        obtain ⟨s', b', hw, hb', -, hend'⟩ := wake_enabled hb hend hx hp
        rw [hrequest] at hend'
        cases o with
        | cancelled => exact absurd hp hpoint
        | returned result => exact .wakes hw (.ended hb' hend')

/-- In every run in which nobody cancels it, whatever the collaborators answer, a call of `submit` comes to a result. -/
theorem completes_run {as : List (Action N)} {i : SubmitId} {b : Submit N}
    (h : StepSystem.run (RosMcp.step w) State.initial as = some s)
    (hspares : StepSystem.Along (RosMcp.step w) (Spares w commandId) State.initial as) (hb : s.submits i = some b)
    (hid : (w.command b.command).commandId = commandId) : Completes w commandId i s := by
  obtain ⟨hs, hu⟩ := uncancelled_run consistent_initial uncancelled_initial h hspares
  obtain ⟨x, hx, -⟩ := hs.1.awaited i b hb
  exact completes_of_uncancelled x.point.awaitsLeft hs hu hb hid hx (Nat.le_refl _)

end Steps

end RosMcp
