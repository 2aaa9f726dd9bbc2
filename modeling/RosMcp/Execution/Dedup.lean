import RosMcp.Execution.NonBypass

/-!
# In-flight deduplication

A call of `submit` under an id that is in flight joins the execution of that id.  So two executions of one id never
overlap, while one is unfinished no other is started and no other calls a backend, and a call whose own task has not
been cancelled ends with what its execution ended with (`submit_deduped`).

An entry of `_in_flight` is made when an execution starts and removed by its owner after the execution has ended,
however the execution and the tasks of the joined calls are cancelled (`InFlight`).
-/

namespace RosMcp

variable {N : Type}

/-- From `s` to `s'` the execution `e` is the only one of its command id that starts or calls a backend, and it starts
at most one motion. -/
structure Exclusive (w : Wiring N) (s s' : State N) (e : ExecId) (commandId : String) : Prop where
  started : ∀ e' x', s.execs e' = none → s'.execs e' = some x' → (w.command x'.command).commandId ≠ commandId
  called : ∀ e' c call, .called e' c call ∈ s'.log.drop s.log.length → (w.command c).commandId = commandId → e' = e
  once : ∀ log₁ log₂ c call, s'.log = log₁ ++ .called e c call :: log₂ → call.Starts →
    ∀ c' call', call'.Starts → .called e c' call' ∉ log₁ ++ log₂

/-- What an ended call of `submit` returns or raises. -/
def Delivered (s : State N) : Prop :=
  ∀ i b o, s.submits i = some b → b.ended = some o →
    ∃ x o', s.execs b.execution = some x ∧ x.point = .done o' ∧ o = if b.cancelRequested then .cancelled else o'

section Lemmas

variable {w : Wiring N} {s s' : State N}

/-- The backend calls of a transition are those of its execution and its command. -/
theorem Moves.called_eq {e e' : ExecId} {c c' : CommandRef} {p p' : Point N} {events : List (Event N)}
    {eff : RegistryEffect N} {call : BackendCall} (hm : Moves w s e c p p' events eff)
    (hmem : .called e' c' call ∈ events) : e' = e ∧ c' = c := by
  cases hm <;> simp at hmem <;> exact ⟨hmem.1, hmem.2.1⟩

/-- A task that is still running has been running before. -/
private theorem Later.live (h : Later s s') {e : ExecId} {x x' : Execution N} (hx : s.execs e = some x)
    (hx' : s'.execs e = some x') (hl : x'.point.Live) : x.point.Live ∧ x'.command = x.command := by
  obtain ⟨y, hy, hc, hd⟩ := h.execs e x hx
  obtain rfl : y = x' := Option.some.inj (hy.symm.trans hx')
  refine ⟨?_, hc⟩
  by_contra hn
  obtain ⟨o, ho⟩ := not_live_iff.1 hn
  rw [hd o ho] at hl
  exact not_live_done o hl

/-- A call joins the execution in flight under its id, and starts one only when there is none. -/
theorem submit_execs [IntCast N] {c : CommandRef} {e : ExecId} {x : Execution N} (hn : s.execs e = none)
    (hx : (submit w s c).execs e = some x) :
    x.command = c ∧ s.inFlight (w.command c).commandId = none := by
  unfold submit at hx
  dsimp only at hx
  split at hx
  · rw [hn] at hx
    cases hx
  · next hnone =>
    rcases update_eq_some.1 hx with ⟨-, rfl⟩ | ⟨-, hx⟩
    · exact ⟨rfl, hnone⟩
    · rw [hn] at hx
      cases hx

section Steps

variable [IntCast N] [Add N] [Sub N] {a : Action N}

/-- An execution that starts has an id that is not in flight. -/
private theorem step_started (ha : step w s a = some s') {e : ExecId} {x : Execution N}
    (hn : s.execs e = none) (hx : s'.execs e = some x) : s.inFlight (w.command x.command).commandId = none := by
  rcases step_cases ha with ⟨c, rfl, rfl⟩ | ⟨i, rfl, hw⟩ | ⟨i, rfl, hw⟩ | ⟨id, rfl, rfl⟩ |
    ⟨e', now, reply, y, y', events, eff, rfl, hr, -⟩
  · obtain ⟨hc, hnone⟩ := submit_execs hn hx
    rw [hc]
    exact hnone
  · obtain ⟨b, y, o, -, -, -, -, rfl⟩ := wake_eq_some hw
    rw [hn] at hx
    cases hx
  · obtain ⟨b, y, -, -, hy, ⟨-, rfl⟩ | ⟨-, rfl⟩⟩ := cancelTask_eq_some hw
    · rw [hn] at hx
      cases hx
    · rcases update_eq_some.1 hx with ⟨rfl, -⟩ | ⟨-, hx⟩
      · rw [hn] at hy
        cases hy
      · rw [hn] at hx
        cases hx
  · rw [cancel, cancelToken_execs, hn] at hx
    cases hx
  · rcases hr.exec_cases hx with ⟨rfl, -⟩ | ⟨-, hx⟩
    · rw [hr.execs_eq] at hn
      cases hn
    · rw [hn] at hx
      cases hx

/-- What happens in one step while the execution `e` is unfinished. -/
private theorem step_exclusive (hs : Consistent w s) (ha : step w s a = some s') {e : ExecId} {x : Execution N}
    (hx : s.execs e = some x) (hl : x.point.Live) :
    (∀ e' x', s.execs e' = none → s'.execs e' = some x' →
      (w.command x'.command).commandId ≠ (w.command x.command).commandId) ∧
    ∃ log, s'.log = s.log ++ log ∧ ∀ e' c call, .called e' c call ∈ log →
      (w.command c).commandId = (w.command x.command).commandId → e' = e := by
  refine ⟨?_, ?_⟩
  · intro e' x' hn hx' hid
    have hnone := step_started ha hn hx'
    have hfly := hs.1.flying e x hx hl
    rw [← hid, hnone] at hfly
    cases hfly
  · rcases step_split hs.1 ha with ⟨-, hb⟩ | ⟨e', now, reply, y, y', events, eff, rfl, hr, -⟩
    · exact ⟨[], by rw [hb.log, List.append_nil], by simp⟩
    · refine ⟨events, hr.log, ?_⟩
      intro e'' c call hmem hid
      obtain ⟨rfl, rfl⟩ := hr.moves.called_eq hmem
      exact hs.1.unique hr.execs_eq hx hr.moves.live hl hid

/-- What happens in a run while the execution `e` is unfinished. -/
private theorem run_exclusive {bs : List (Action N)} (hs : Consistent w s) (h : StepSystem.run (step w) s bs = some s')
    {e : ExecId} {x x' : Execution N} (hx : s.execs e = some x) (hx' : s'.execs e = some x') (hl : x'.point.Live) :
    (∀ e' y, s.execs e' = none → s'.execs e' = some y →
      (w.command y.command).commandId ≠ (w.command x.command).commandId) ∧
    ∃ log, s'.log = s.log ++ log ∧ ∀ e' c call, .called e' c call ∈ log →
      (w.command c).commandId = (w.command x.command).commandId → e' = e := by
  induction bs generalizing s x with
  | nil =>
    obtain rfl : s = s' := Option.some.inj h
    refine ⟨?_, [], by rw [List.append_nil], by simp⟩
    intro e' y hn hy
    rw [hn] at hy
    cases hy
  | cons a bs ih =>
    obtain ⟨s₁, h₁, h₂⟩ := StepSystem.run_cons.1 h
    have hs₁ := hs.step h₁
    obtain ⟨x₁, hx₁, hc₁, -⟩ := (step_later hs.1 hs.2 h₁).execs e x hx
    have hl₁ := ((later_run hs₁ h₂).live hx₁ hx' hl).1
    have hl₀ := ((step_later hs.1 hs.2 h₁).live hx hx₁ hl₁).1
    obtain ⟨hstart, log, hlog, hcall⟩ := step_exclusive hs h₁ hx hl₀
    obtain ⟨hstart', log', hlog', hcall'⟩ := ih hs₁ h₂ hx₁
    rw [hc₁] at hstart' hcall'
    refine ⟨?_, log ++ log', by rw [hlog', hlog, List.append_assoc], ?_⟩
    · intro e' y hn hy
      rcases hn₁ : s₁.execs e' with _ | y₁
      · exact hstart' e' y hn₁ hy
      · -- started by the first step, and the same command since
        obtain ⟨y', hy', hcy, -⟩ := (later_run hs₁ h₂).execs e' y₁ hn₁
        obtain rfl : y' = y := Option.some.inj (hy'.symm.trans hy)
        rw [hcy]
        exact hstart e' y₁ hn hn₁
    · intro e' c call hmem hid
      rcases List.mem_append.1 hmem with hmem | hmem
      · exact hcall e' c call hmem hid
      · exact hcall' e' c call hmem hid

private theorem Delivered.step (hd : Delivered s) (hs : Consistent w s) (ha : step w s a = some s') : Delivered s' := by
  have hlater := step_later hs.1 hs.2 ha
  -- what has been delivered before stays as it is
  have old : ∀ i b o, s.submits i = some b → b.ended = some o →
      ∃ x o', s'.execs b.execution = some x ∧ x.point = .done o' ∧
        o = if b.cancelRequested then .cancelled else o' := by
    intro i b o hb ho
    obtain ⟨x, o', hx, hp, hoo⟩ := hd i b o hb ho
    obtain ⟨x', hx', -, hdone⟩ := hlater.execs _ x hx
    exact ⟨x', o', hx', hdone o' hp, hoo⟩
  rcases step_cases ha with ⟨c, rfl, rfl⟩ | ⟨i, rfl, hw⟩ | ⟨i, rfl, hw⟩ | ⟨id, rfl, rfl⟩ |
    ⟨e, now, reply, x, x', events, eff, rfl, hr, -⟩
  · intro i b o hb ho
    have hb' : s.submits i = some b := by
      unfold submit at hb
      dsimp only at hb
      split at hb <;> rcases update_eq_some.1 hb with ⟨-, rfl⟩ | ⟨-, hb⟩
      · cases ho
      · exact hb
      · cases ho
      · exact hb
    exact old i b o hb' ho
  · obtain ⟨b, x, o, hb, hend, hx, hp, rfl⟩ := wake_eq_some hw
    intro j b' o' hb' ho'
    rcases update_eq_some.1 hb' with ⟨rfl, rfl⟩ | ⟨-, hb'⟩
    · exact ⟨x, o, hx, hp, (Option.some.inj ho').symm⟩
    · exact old j b' o' hb' ho'
  · obtain ⟨b, x, hb, hend, hx, ⟨-, rfl⟩ | ⟨-, rfl⟩⟩ := cancelTask_eq_some hw
    · intro j b' o' hb' ho'
      rcases update_eq_some.1 hb' with ⟨rfl, rfl⟩ | ⟨-, hb'⟩
      · rw [hend] at ho'
        cases ho'
      · exact old j b' o' hb' ho'
    · exact old
  · intro i b o hb ho
    have hsub : (cancel s id).submits = s.submits := by
      unfold cancel
      cases s.tokens id <;> rfl
    exact old i b o (by rw [← hsub, hb]) ho
  · intro i b o hb ho
    exact old i b o (by rw [← hr.submits, hb]) ho

end Steps

end Lemmas

section Runs

variable [IntCast N] [Add N] [Sub N] {w : Wiring N} {s : State N} {as : List (Action N)}

theorem delivered_run (h : StepSystem.run (step w) State.initial as = some s) : Delivered s :=
  (StepSystem.run_invariant (P := fun s => Consistent w s ∧ Delivered s)
    (fun _ _ _ hs ha => ⟨hs.1.step ha, hs.2.step hs.1 ha⟩)
    ⟨consistent_initial, by intro i b o hb; cases hb⟩ h).2

/-- A call whose execution has ended can go on, and ends with the outcome of the execution. -/
theorem wake_enabled {i : SubmitId} {b : Submit N} {x : Execution N} {o : Outcome N} (hb : s.submits i = some b)
    (hend : b.ended = none) (hx : s.execs b.execution = some x) (hp : x.point = .done o) :
    ∃ s' b', step w s (.wake i) = some s' ∧ s'.submits i = some b' ∧ b'.execution = b.execution ∧
      b'.ended = some (if b.cancelRequested then .cancelled else o) := by
  obtain ⟨s', hw⟩ : ∃ s', wake w s i = some s' := by simp [wake, hb, hend, hx, hp]
  obtain ⟨b', y, o', hb', -, hy, hp', rfl⟩ := wake_eq_some hw
  obtain rfl : b = b' := Option.some.inj (hb.symm.trans hb')
  obtain rfl : x = y := Option.some.inj (hx.symm.trans hy)
  obtain rfl : o = o' := by
    rw [hp] at hp'
    exact Point.done.inj hp'
  exact ⟨_, _, hw, Function.update_self _ _ _, rfl, rfl⟩

/-- Deduplication by command id, for every run of the manager. -/
theorem submit_deduped (h : StepSystem.run (step w) State.initial as = some s) :
    (∀ e e' x x', s.execs e = some x → s.execs e' = some x' → x.point.Live → x'.point.Live →
      (w.command x.command).commandId = (w.command x'.command).commandId → e = e') ∧
    (∀ bs s' e x x', StepSystem.run (step w) s bs = some s' → s.execs e = some x → s'.execs e = some x' →
      x'.point.Live → Exclusive w s s' e (w.command x.command).commandId) ∧
    ∀ i b, s.submits i = some b →
      ∃ x, s.execs b.execution = some x ∧ (w.command x.command).commandId = (w.command b.command).commandId ∧
        (∀ o, b.ended = some o → b.cancelRequested = false → x.point = .done o) ∧
        ∀ o, b.ended = none → x.point = .done o →
          ∃ s' b', step w s (.wake i) = some s' ∧ s'.submits i = some b' ∧ b'.execution = b.execution ∧
            b'.ended = some (if b.cancelRequested then .cancelled else o) := by
  have hs := consistent_run h
  refine ⟨?_, ?_, ?_⟩
  · intro e e' x x' hx hx' hl hl' hid
    exact hs.1.unique hx hx' hl hl' hid
  · intro bs s' e x x' hrun hx hx' hl
    obtain ⟨hstart, log, hlog, hcall⟩ := run_exclusive hs hrun hx hx' hl
    have hrun' : StepSystem.run (step w) State.initial (as ++ bs) = some s' := StepSystem.run_append.2 ⟨s, h, hrun⟩
    refine ⟨hstart, ?_, ?_⟩
    · intro e' c call hmem
      rw [hlog, List.drop_left] at hmem
      exact hcall e' c call hmem
    · intro log₁ log₂ c call hsplit hcall'
      exact ((trace_run hrun').guarded hsplit hcall').once
  · intro i b hb
    obtain ⟨x, hx, hid, -⟩ := hs.1.awaited i b hb
    refine ⟨x, hx, hid, ?_, ?_⟩
    · intro o ho hc
      obtain ⟨y, o', hy, hp, rfl⟩ := delivered_run h i b o hb ho
      obtain rfl : y = x := Option.some.inj (hy.symm.trans hx)
      rw [hc]
      exact hp
    · intro o hend hp
      exact wake_enabled hb hend hx hp

end Runs

/-! ### Two objects with one id -/

/-- The sample commands, with a second object for the first one. -/
def twinWiring : Wiring ℤ :=
  { sampleWiring ℤ with command := fun c => (sampleWiring ℤ).command (if c = 3 then 0 else c) }

/-- The manager after the first object has been submitted. -/
def twinSubmitted : State ℤ := submit twinWiring State.initial 0

/-- The manager after the first object has been dispatched and the second one submitted. -/
def twinJoined : State ℤ :=
  (StepSystem.run (step twinWiring) twinSubmitted (sampleDispatch ℤ 0 ++ [.submit 3])).getD State.initial

/-- The second object joins the execution of the first. -/
theorem submit_deduped_sample :
    Exclusive twinWiring twinSubmitted twinJoined 0 "A" ∧
      (twinJoined.submits 1).map Submit.execution = some 0 := by
  have hfirst : StepSystem.run (step twinWiring) State.initial [.submit 0] = some twinSubmitted := rfl
  have hrest : StepSystem.run (step twinWiring) twinSubmitted (sampleDispatch ℤ 0 ++ [.submit 3]) =
    some twinJoined := rfl
  exact ⟨(submit_deduped hfirst).2.1 _ _ 0 _ _ hrest rfl rfl live_backend, rfl⟩

end RosMcp
