import RosMcp.Execution.Conclusion

/-!
# Terminal states

A state of `TERMINAL_STATES` is the last that is assigned to a command: an execution assigns one only when it ends, and
only one.  Two things break the rule.  A call of `submit` for a command that has ended starts a new execution, which
begins with a state that is not terminal and calls the backend again.  And a DENY without an error fails its assertion,
so SAFETY_REJECTED is followed by FAILED.  A run has neither exactly when it is absorbing (`absorbing_iff`).
-/

namespace RosMcp

variable {N : Type}

/-- The calls of a backend for the command object `c`. -/
def Event.isCallOf (c : CommandRef) : Event N → Bool
  | .called _ c' _ => decide (c' = c)
  | _ => false

def callsOf (s : State N) (c : CommandRef) : List (Event N) := s.log.filter (Event.isCallOf c)

/-- Nothing has been assigned to a command after a terminal state. -/
def TerminalLast (s : State N) : Prop := ∀ c, ∀ st ∈ (statesOf s c).dropLast, st.terminal = false

/-- In every state of the run nothing has been assigned to a command after a terminal state, and once the state of a
command is terminal no later step changes it or calls a backend for the command. -/
structure Absorbing [IntCast N] [Add N] [Sub N] (w : Wiring N) (as : List (Action N)) : Prop where
  last : ∀ as₁ as₂ s₁, as = as₁ ++ as₂ → StepSystem.run (step w) State.initial as₁ = some s₁ → TerminalLast s₁
  kept : ∀ as₁ as₂ as₃ s₁ s₂ c, as = as₁ ++ as₂ ++ as₃ → StepSystem.run (step w) State.initial as₁ = some s₁ →
    StepSystem.run (step w) s₁ as₂ = some s₂ → (s₁.executionState c).terminal = true →
    s₂.executionState c = s₁.executionState c ∧ callsOf s₂ c = callsOf s₁ c

/-- No execution starts on a command whose state is terminal, and every DENY has an error. -/
def StartsOnce (s : State N) : Action N → Prop
  | .resume e _ .start => ∀ x, s.execs e = some x → (s.executionState x.command).terminal = false
  | .resume _ _ (.check (.ok outcome) _) => outcome.decision = .deny → outcome.error ≠ none
  | _ => True

/-- The state of a command with a running execution is not terminal. -/
def RunningOpen (s : State N) : Prop :=
  ∀ e x, s.execs e = some x → x.point.Live → x.point ≠ .created → (s.executionState x.command).terminal = false

/-! ### The states of one transition -/

section Transitions

variable {w : Wiring N} {c : CommandRef} {p p' : Point N} {reply : Reply N} {states : List ExecutionState}

/-- A running execution assigns no terminal state. -/
private theorem Proceeds.open_of_live (h : Proceeds w c p reply states p') (hlive : p'.Live) :
    ∀ st ∈ states, st.terminal = false := by
  cases h with
  | read | begin | posed | dispatched | stopping | stopped => simp [ExecutionState.terminal]
  | stopFinished | handled | released | refused | deniedBare | cancelled => cases hlive

/-- A terminal state is the last of its transition, unless a DENY has no error. -/
private theorem Proceeds.terminal_last (h : Proceeds w c p reply states p')
    (hdeny : ∀ outcome selected, reply = .check (.ok outcome) selected → outcome.decision = .deny →
      outcome.error ≠ none) : ∀ st ∈ states.dropLast, st.terminal = false := by
  cases h with
  | read | begin | posed | stopping | stopped | handled | released | cancelled => simp
  | dispatched => simp [ExecutionState.terminal]
  | stopFinished p reply states r hlive hop hstates =>
    rw [List.dropLast_concat]
    rcases hstates with rfl | rfl <;> simp [ExecutionState.terminal]
  | refused p reply states final r hlive hstates =>
    rw [List.dropLast_concat]
    exact hstates
  | deniedBare q outcome selected r hdecision herror => exact absurd herror (hdeny outcome selected rfl hdecision)

/-- An execution that starts assigns a state. -/
private theorem Proceeds.start_ne_nil (h : Proceeds w c p reply states p') (hreply : reply = .start) : states ≠ [] := by
  subst hreply
  cases h <;> simp

end Transitions

section Lists

/-- What comes after an open list decides. -/
private theorem dropLast_append_open {l l' : List ExecutionState} (hne : l' ≠ []) :
    (∀ st ∈ (l ++ l').dropLast, st.terminal = false) ↔
      (∀ st ∈ l, st.terminal = false) ∧ ∀ st ∈ l'.dropLast, st.terminal = false := by
  rw [List.dropLast_append_of_ne_nil hne]
  simp only [List.mem_append, or_imp, forall_and]

/-- A list that is open but for its last state is open when that state is. -/
private theorem open_iff_getLast {l : List ExecutionState} (h : ∀ st ∈ l.dropLast, st.terminal = false) :
    (∀ st ∈ l, st.terminal = false) ↔ (l.getLast?.getD .received).terminal = false := by
  rcases List.eq_nil_or_concat l with rfl | ⟨l', st, rfl⟩
  · simp [ExecutionState.terminal]
  · rw [List.concat_eq_append] at h ⊢
    rw [List.dropLast_concat] at h
    simp only [List.mem_append, List.mem_singleton, or_imp, forall_and, forall_eq, List.getLast?_concat,
      Option.getD_some]
    exact and_iff_right h

end Lists

/-! ### One step -/

section Steps

variable [IntCast N] [Add N] [Sub N] {w : Wiring N} {s s' : State N} {a : Action N}

/-- An execution that goes on is alive. -/
private theorem resume_live {e : ExecId} {x : Execution N} {now : N} {reply : Reply N}
    (h : resume w s e now reply = some s') (hx : s.execs e = some x) : x.point.Live := by
  obtain ⟨x', events, eff, hr, -⟩ := resume_moves_of h hx
  exact hr.moves.live

/-- An execution that has not run yet is started or cancelled. -/
private theorem resume_created {e : ExecId} {x : Execution N} {now : N} {reply : Reply N} (hx : s.execs e = some x)
    (hp : x.point = .created) (h : resume w s e now reply = some s') : reply = .start ∨ reply = .cancelled := by
  simp only [resume, hx, Option.bind_some, hp] at h
  cases reply with
  | start => exact Or.inl rfl
  | cancelled => exact Or.inr rfl
  | _ => cases h

/-- A cancellation assigns nothing and ends the execution. -/
private theorem resume_cancelled {e : ExecId} {now : N} (h : resume w s e now .cancelled = some s') :
    s'.assigned = s.assigned ∧ ∀ x', s'.execs e = some x' → ¬ x'.point.Live := by
  obtain ⟨x, hx, hgoes⟩ := resume_goes h
  have hended : ∀ t : State N, (t.suspend e x (.done .cancelled)).assigned = t.assigned ∧
      ∀ x', (t.suspend e x (.done .cancelled)).execs e = some x' → ¬ x'.point.Live := by
    intro t
    refine ⟨rfl, ?_⟩
    intro x' hx'
    simp only [State.suspend, Function.update_self, Option.some.injEq] at hx'
    subst hx'
    exact not_live_done _
  cases hgoes with
  | backendCancelled => exact hended _
  | cancelled => exact hended _
  | raised hraises => cases hraises

/-- A DENY without an error assigns two states. -/
private theorem resume_denied_bare {e : ExecId} {x : Execution N} {now : N} {outcome : SafetyOutcome N}
    {selected : Except PyException (Option Backend)} (hx : s.execs e = some x)
    (h : resume w s e now (.check (.ok outcome) selected) = some s') (hdecision : outcome.decision = .deny)
    (herror : outcome.error = none) : statesOf s' x.command = statesOf s x.command ++ [.safetyRejected, .failed] := by
  cases resume_goes_of h hx with
  | checked q outcome selected hp =>
    have hset : Assigns s (((s.emit [.checked e x.command q .deny]).setExecutionState x.command
        .safetyRejected).setExecutionState x.command .failed) x.command [.safetyRejected, .failed] :=
      ((Assigns.refl.emit _).set .safetyRejected).set .failed
    simp only [executeChecked, hdecision, herror, unhandled, State.finish]
    exact Assigns.statesOf_self ⟨hset.assigned, hset.executionState⟩
  | raised hraises => cases hraises

/-- The states of a command only grow. -/
private theorem statesOf_step (ha : step w s a = some s') (c : CommandRef) : statesOf s c <+: statesOf s' c := by
  rcases step_assigned ha with ⟨hassigned, -⟩ | ⟨e, now, reply, x, x', states, -, -, hadv⟩
  · rw [statesOf, statesOf, hassigned]
  · by_cases hc : c = x.command
    · rw [hc, hadv.assigns.statesOf_self]
      exact List.prefix_append _ _
    · rw [hadv.assigns.statesOf_of_ne hc]

/-- A running execution keeps the state of its command open. -/
theorem RunningOpen.step (h : RunningOpen s) (hi : InFlight w s) (ha : step w s a = some s') : RunningOpen s' := by
  intro e x' hx' hlive hcreated
  rcases step_exec_cases hi ha hx' with ⟨x, hx, hcommand, hpoint⟩ | ⟨-, -, hpoint⟩ |
    ⟨now, reply, x, states, hresume, hx, hadv⟩
  · rw [hpoint] at hlive hcreated
    have hopen := h e x hx hlive hcreated
    rw [hcommand]
    rcases step_assigned ha with ⟨-, hstate⟩ | ⟨e₀, now, reply, x₀, x₀', states, hresume, hx₀, hadv⟩
    · rw [hstate]
      exact hopen
    · -- another execution belongs to another command
      by_cases he : e = e₀
      · subst he
        obtain rfl : x₀ = x := Option.some.inj (hx₀.symm.trans hx)
        obtain rfl : x₀' = x' := Option.some.inj (hadv.execs.symm.trans hx')
        have hstates := hadv.proceeds.open_of_live (by rw [hpoint]; exact hlive)
        rw [hadv.assigns.executionState_self]
        cases hlast : states.getLast? with
        | none => exact hopen
        | some st => exact hstates st (List.mem_of_getLast? hlast)
      · have hlive₀ : x₀.point.Live := by
          subst hresume
          exact resume_live ha hx₀
        have hne : x.command ≠ x₀.command := by
          intro heq
          exact he (hi.unique hx hx₀ hlive hlive₀ (by rw [heq]))
        rw [hadv.assigns.executionState_of_ne hne]
        exact hopen
  · exact absurd hpoint hcreated
  · have hstates := hadv.proceeds.open_of_live hlive
    rw [hadv.command_eq, hadv.assigns.executionState_self]
    cases hlast : states.getLast? with
    | some st => exact hstates st (List.mem_of_getLast? hlast)
    | none =>
      -- nothing was assigned, so the execution had been running
      subst hresume
      refine h e x hx (resume_live ha hx) ?_
      intro hp
      rcases resume_created hx hp ha with rfl | rfl
      · exact hadv.proceeds.start_ne_nil rfl (List.getLast?_eq_none_iff.1 hlast)
      · exact (resume_cancelled ha).2 x' hx' hlive

omit [IntCast N] [Add N] [Sub N] in
/-- Only the command of the execution that goes on matters. -/
private theorem TerminalLast.iff_own (h : TerminalLast s) {e : ExecId} {x x' : Execution N} {reply : Reply N}
    {states : List ExecutionState} (hadv : Advances w s s' e x x' reply states) :
    TerminalLast s' ↔ ∀ st ∈ (statesOf s x.command ++ states).dropLast, st.terminal = false := by
  rw [← hadv.assigns.statesOf_self]
  constructor
  · intro hlast
    exact hlast x.command
  · intro hlast c
    by_cases hc : c = x.command
    · rw [hc]
      exact hlast
    · rw [hadv.assigns.statesOf_of_ne hc]
      exact h c

omit [IntCast N] [Add N] [Sub N] in
private theorem TerminalLast.open_iff (h : TerminalLast s) (hr : Recorded s) (c : CommandRef) :
    (∀ st ∈ statesOf s c, st.terminal = false) ↔ (s.executionState c).terminal = false := by
  rw [hr c]
  exact open_iff_getLast (h c)

/-- An execution that starts must not find a terminal state. -/
private theorem TerminalLast.start (h : TerminalLast s) (hr : Recorded s) {e : ExecId} {x : Execution N} {now : N}
    (hx : s.execs e = some x) (ha : resume w s e now .start = some s') :
    TerminalLast s' ↔ (s.executionState x.command).terminal = false := by
  obtain ⟨x', states, hadv⟩ := resume_advances ha hx
  rw [h.iff_own hadv, dropLast_append_open (hadv.proceeds.start_ne_nil rfl), h.open_iff hr]
  exact and_iff_left (hadv.proceeds.terminal_last (by rintro _ _ ⟨⟩))

/-- An execution that has been running keeps within the rule, unless its DENY has no error. -/
private theorem TerminalLast.running (h : TerminalLast s) (hr : Recorded s) (hopen : RunningOpen s) {e : ExecId}
    {x : Execution N} {now : N} {reply : Reply N} (hx : s.execs e = some x) (hcreated : x.point ≠ .created)
    (ha : resume w s e now reply = some s')
    (hdeny : ∀ outcome selected, reply = .check (.ok outcome) selected → outcome.decision = .deny →
      outcome.error ≠ none) : TerminalLast s' := by
  obtain ⟨x', states, hadv⟩ := resume_advances ha hx
  rw [h.iff_own hadv]
  by_cases hne : states = []
  · rw [hne, List.append_nil]
    exact h x.command
  · rw [dropLast_append_open hne, h.open_iff hr]
    exact ⟨hopen e x hx (resume_live ha hx) hcreated, hadv.proceeds.terminal_last hdeny⟩

/-- A step appends to the states of a command what stays within the rule, exactly if it starts no execution on a
terminal state and denies nothing without an error. -/
private theorem terminalLast_step (hr : Recorded s) (hopen : RunningOpen s) (h : TerminalLast s)
    (ha : step w s a = some s') : TerminalLast s' ↔ StartsOnce s a := by
  have hsame : s'.assigned = s.assigned → TerminalLast s' := by
    intro hassigned c
    rw [statesOf, hassigned]
    exact h c
  cases a with
  | submit | wake | cancelTask | cancel =>
    refine iff_of_true (hsame ?_) trivial
    rcases step_assigned ha with ⟨hassigned, -⟩ | ⟨e, now, reply, x, x', states, hresume, -⟩
    · exact hassigned
    · cases hresume
  | resume e now reply =>
    obtain ⟨x, hx, hgoes⟩ := resume_goes ha
    by_cases hcreated : x.point = .created
    · rcases resume_created hx hcreated ha with rfl | rfl
      · rw [h.start hr hx ha]
        constructor
        · intro hterminal y hy
          obtain rfl : x = y := Option.some.inj (hx.symm.trans hy)
          exact hterminal
        · intro hstarts
          exact hstarts x hx
      · exact iff_of_true (hsame (resume_cancelled ha).1) trivial
    · have hrunning := h.running hr hopen hx hcreated ha
      cases reply with
      | start =>
        cases hgoes with
        | started hp => exact absurd hp hcreated
        | raised hraises => cases hraises
      | check checked selected =>
        cases checked with
        | error exc => exact iff_of_true (hrunning (by rintro _ _ ⟨⟩)) trivial
        | ok outcome =>
          constructor
          · intro hlast hdecision herror
            have hterminal := hlast x.command
            rw [resume_denied_bare hx ha hdecision herror] at hterminal
            have hrejected := hterminal .safetyRejected (by simp [List.dropLast_append_of_ne_nil])
            cases hrejected
          · intro hdeny
            refine hrunning ?_
            rintro outcome' selected' heq
            obtain ⟨rfl, rfl⟩ : outcome = outcome' ∧ selected = selected' := by simpa using heq
            exact hdeny
      | handler | pose | backend | stop | cancelAll | cancelled =>
        exact iff_of_true (hrunning (by rintro _ _ ⟨⟩)) trivial

omit [IntCast N] [Add N] [Sub N] in
/-- An execution that has not run yet calls no backend. -/
private theorem Moves.not_called_of_created {e e' : ExecId} {c c' : CommandRef} {p p' : Point N}
    {events : List (Event N)}
    {eff : RegistryEffect N} {call : BackendCall} (hm : Moves w s e c p p' events eff) (hp : p = .created) :
    .called e' c' call ∉ events := by
  subst hp
  cases hm <;> simp

/-- No step calls a backend for a command whose state is terminal. -/
private theorem callsOf_step (hi : InFlight w s) (hopen : RunningOpen s) (ha : step w s a = some s') {c : CommandRef}
    (hterminal : (s.executionState c).terminal = true) : callsOf s' c = callsOf s c := by
  rcases step_split hi ha with ⟨-, hb⟩ | ⟨e, now, reply, x, x', events, eff, rfl, hr, -⟩
  · rw [callsOf, callsOf, hb.log]
  · have hnone : events.filter (Event.isCallOf c) = [] := by
      rw [List.filter_eq_nil_iff]
      intro ev hev hcall
      cases ev with
      | called e' c' call =>
        obtain ⟨-, hcommand⟩ := hr.moves.called_eq hev
        obtain rfl : c' = c := of_decide_eq_true hcall
        have hcreated : x.point ≠ .created := by
          intro hp
          exact hr.moves.not_called_of_created hp hev
        rw [hcommand, hopen e x hr.execs_eq hr.moves.live hcreated] at hterminal
        cases hterminal
      | _ => cases hcall
    rw [callsOf, callsOf, hr.log, List.filter_append, hnone, List.append_nil]

omit [IntCast N] [Add N] [Sub N] in
/-- With nothing after a terminal state, a command in a terminal state keeps it. -/
private theorem executionState_kept (hr : Recorded s) (hr' : Recorded s') (hlast : TerminalLast s') {c : CommandRef}
    (hgrow : statesOf s c <+: statesOf s' c) (hterminal : (s.executionState c).terminal = true) :
    s'.executionState c = s.executionState c := by
  obtain ⟨states, hstates⟩ := hgrow
  by_cases hne : states = []
  · rw [hr c, hr' c, ← hstates, hne, List.append_nil]
  · have hlastc := hlast c
    rw [← hstates, dropLast_append_open hne] at hlastc
    have hopen := (open_iff_getLast fun st hst => hlastc.1 st (List.mem_of_mem_dropLast hst)).1 hlastc.1
    rw [← hr c, hterminal] at hopen
    cases hopen

end Steps

/-! ### Every run -/

section Runs

variable [IntCast N] [Add N] [Sub N] {w : Wiring N} {s s' : State N} {as : List (Action N)}

/-- What holds in every run, absorbing or not. -/
structure Ordered (w : Wiring N) (s : State N) : Prop where
  inFlight : InFlight w s
  recorded : Recorded s
  running : RunningOpen s

private theorem Ordered.step {a : Action N} (h : Ordered w s) (ha : step w s a = some s') : Ordered w s' :=
  ⟨h.inFlight.step ha, h.recorded.step ha, h.running.step h.inFlight ha⟩

omit [Add N] [Sub N] [IntCast N] in
private theorem Ordered.initial : Ordered w (State.initial : State N) where
  inFlight := InFlight.initial
  recorded := fun _ => rfl
  running := by rintro e x ⟨⟩

private theorem ordered_run (h : StepSystem.run (step w) State.initial as = some s) : Ordered w s :=
  StepSystem.run_invariant (fun _ _ _ hs ha => Ordered.step hs ha) Ordered.initial h

/-- A command in a terminal state keeps it along a run that starts no execution on it, and no backend is called for
it. -/
theorem kept_run (hs : Ordered w s) (hlast : TerminalLast s) (hstarts : StepSystem.Along (step w) StartsOnce s as)
    (h : StepSystem.run (step w) s as = some s') {c : CommandRef} (hterminal : (s.executionState c).terminal = true) :
    s'.executionState c = s.executionState c ∧ callsOf s' c = callsOf s c := by
  induction as generalizing s with
  | nil =>
    obtain rfl : s = s' := Option.some.inj h
    exact ⟨rfl, rfl⟩
  | cons a as ih =>
    obtain ⟨s₁, h₁, h₂⟩ := StepSystem.run_cons.1 h
    have hs₁ := hs.step h₁
    have hlast₁ := (terminalLast_step hs.recorded hs.running hlast h₁).2 hstarts.head
    have hstate := executionState_kept hs.recorded hs₁.recorded hlast₁ (statesOf_step h₁ c) hterminal
    have hcalls := callsOf_step hs.inFlight hs.running h₁ hterminal
    obtain ⟨hstate', hcalls'⟩ := ih hs₁ hlast₁ (hstarts.tail h₁) h₂ (by rw [hstate]; exact hterminal)
    exact ⟨hstate'.trans hstate, hcalls'.trans hcalls⟩

/-- A run is absorbing exactly when it starts no execution on a terminal state and denies nothing without an error. -/
theorem absorbing_iff (h : StepSystem.run (step w) State.initial as = some s) :
    Absorbing w as ↔ StepSystem.Along (step w) StartsOnce State.initial as := by
  have hinitial : TerminalLast (State.initial : State N) := by
    rintro c st hst
    cases hst
  have hiff := StepSystem.throughout_iff_along (G := StartsOnce) (P := Ordered w) (Q := TerminalLast)
    (fun _ _ _ hs ha => Ordered.step hs ha)
    (fun _ _ _ hs hlast ha => terminalLast_step hs.recorded hs.running hlast ha) Ordered.initial hinitial h
  constructor
  · intro habsorbing
    exact hiff.1 habsorbing.last
  · intro hstarts
    refine ⟨hiff.2 hstarts, ?_⟩
    intro as₁ as₂ as₃ s₁ s₂ c has h₁ h₂ hterminal
    have hlast₁ := hiff.2 hstarts as₁ (as₂ ++ as₃) s₁ (by rw [has, List.append_assoc]) h₁
    refine kept_run (ordered_run h₁) hlast₁ ?_ h₂ hterminal
    intro bs₁ a bs₂ t hbs hrun
    refine hstarts (as₁ ++ bs₁) a (bs₂ ++ as₃) t ?_ (StepSystem.run_append.2 ⟨s₁, h₁, hrun⟩)
    rw [has, hbs]
    simp

end Runs

/-! ### A command that is submitted again -/

/-- A move that has been driven to its end. -/
def sampleFinish : List (Action ℤ) :=
  .submit 0 :: sampleDispatch ℤ 0 ++
    [.resume 0 0 (.backend (.returned ⟨.succeeded, "A", "robot", 0, none, .motion 1 none none⟩)), .wake 0]

/-- The same move, dispatched once more. -/
def sampleRerun : List (Action ℤ) := .submit 0 :: sampleDispatch ℤ 1

theorem absorbing_sample : Absorbing (sampleWiring ℤ) sampleFinish := by
  obtain ⟨s, hrun⟩ : ∃ s, StepSystem.run (step (sampleWiring ℤ)) State.initial sampleFinish = some s := ⟨_, rfl⟩
  refine (absorbing_iff hrun).2 ?_
  refine .cons trivial rfl (.cons ?_ rfl (.cons trivial rfl (.cons ?_ rfl (.cons trivial rfl
    (.cons trivial rfl .nil)))))
  · rintro x ⟨⟩
    rfl
  · rintro ⟨⟩

/-- A move that is submitted again after it has succeeded is driven once more. -/
theorem rerun_after_succeeded :
    ¬ ∀ (w : Wiring ℤ) as s, StepSystem.run (step w) State.initial as = some s → Absorbing w as := by
  intro h
  obtain ⟨s₁, hfinish, hsucceeded⟩ : ∃ s₁, StepSystem.run (step (sampleWiring ℤ)) State.initial sampleFinish = some s₁ ∧
      s₁.executionState 0 = .succeeded := ⟨_, rfl, rfl⟩
  obtain ⟨s₂, hall, hexecuting⟩ : ∃ s₂, StepSystem.run (step (sampleWiring ℤ)) State.initial
      (sampleFinish ++ sampleRerun) = some s₂ ∧ s₂.executionState 0 = .executing := ⟨_, rfl, rfl⟩
  obtain ⟨s₁', hfinish', hrerun⟩ := StepSystem.run_append.1 hall
  obtain rfl : s₁ = s₁' := Option.some.inj (hfinish.symm.trans hfinish')
  have hkept := ((h _ _ s₂ hall).kept sampleFinish sampleRerun [] s₁ s₂ 0 (by simp) hfinish hrerun
    (by rw [hsucceeded]; rfl)).1
  rw [hexecuting, hsucceeded] at hkept
  cases hkept

end RosMcp
