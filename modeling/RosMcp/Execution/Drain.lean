import RosMcp.Execution.NonBypass

/-!
# Every submit comes to an end

Whatever the collaborators reply, an execution has at most five steps, and a call of `submit` ends in one.  When none of
them can take a step any more, every call has ended and no table has an entry left (`manager_drains`): no order of
submits, cancellations and STOPs makes the manager wait for something that is not a collaborator, and nothing of a
command stays behind.
-/

namespace RosMcp

variable {N : Type}

/-! ### Steps of one execution and of one call -/

/-- How many steps an execution takes, at most, from an await on; a STOP takes the most. -/
def Point.stepsLeft : Point N → ℕ
  | .created => 5
  | .pose => 4
  | .check _ => 3
  | .stopMotion _ => 2
  | .handler | .backend | .stopNavigation _ _ => 1
  | .done _ => 0

/-- The action is a step of the execution `e`. -/
def Action.resumes (e : ExecId) : Action N → Bool
  | .resume e' _ _ => e' == e
  | _ => false

/-- The action ends the call `i`. -/
def Action.wakes (i : SubmitId) : Action N → Bool
  | .wake i' => i' == i
  | _ => false

/-- How many steps the execution `e` has before it. -/
def State.stepsLeft (e : ExecId) (s : State N) : ℕ := (s.execs e).elim 5 fun x => x.point.stepsLeft

/-- How often the call `i` can still end. -/
def State.wakesLeft (i : SubmitId) (s : State N) : ℕ :=
  (s.submits i).elim 1 fun b => if b.ended.isNone then 1 else 0

/-- Every call has ended, and no table has an entry. -/
structure Drained (s : State N) : Prop where
  ended : ∀ i b, s.submits i = some b → b.ended ≠ none
  idle : ∀ e x, s.execs e = some x → ¬ x.point.Live
  inFlight : ∀ id, s.inFlight id = none
  tokens : ∀ id, s.tokens id = none
  activeCommands : ∀ r, s.activeCommands r = none

section Steps

variable {w : Wiring N} {s s' : State N}

private theorem Point.Live.stepsLeft_pos {p : Point N} (h : p.Live) : 0 < p.stepsLeft := by
  cases p with
  | done o => exact absurd h (not_live_done o)
  | _ => exact Nat.succ_pos _

/-- A transition takes an execution nearer to its end. -/
private theorem Moves.stepsLeft_lt {e : ExecId} {c : CommandRef} {p p' : Point N} {events : List (Event N)}
    {eff : RegistryEffect N} (h : Moves w s e c p p' events eff) : p'.stepsLeft < p.stepsLeft := by
  cases h with
  | raised p o hp hb ho => exact hp.stepsLeft_pos
  | _ => simp [Point.stepsLeft]

/-- The call that started an execution is open as long as its command is in flight. -/
structure OwnersOpen (w : Wiring N) (s : State N) : Prop where
  owner : ∀ id e, s.inFlight id = some e → ∃ i b, s.submits i = some b ∧ b.owner = true ∧ b.execution = e ∧
    b.ended = none ∧ (w.command b.command).commandId = id

private theorem OwnersOpen.initial : OwnersOpen w (State.initial : State N) := ⟨by rintro id e ⟨⟩⟩

/-- A step that neither ends a call nor changes what is in flight. -/
private theorem OwnersOpen.of_kept (h : OwnersOpen w s) (hinFlight : s'.inFlight = s.inFlight)
    (hkept : ∀ i b, s.submits i = some b → b.ended = none → ∃ b', s'.submits i = some b' ∧ b'.owner = b.owner ∧
      b'.execution = b.execution ∧ b'.ended = none ∧ b'.command = b.command) : OwnersOpen w s' := by
  refine ⟨fun id e he => ?_⟩
  rw [hinFlight] at he
  obtain ⟨i, b, hb, howner, hexecution, hopen, hid⟩ := h.owner id e he
  obtain ⟨b', hb', howner', hexecution', hopen', hcommand'⟩ := hkept i b hb hopen
  refine ⟨i, b', hb', howner'.trans howner, hexecution'.trans hexecution, hopen', ?_⟩
  rw [hcommand', hid]

private theorem OwnersOpen.submit [IntCast N] (h : OwnersOpen w s) (hi : InFlight w s) (c : CommandRef) :
    OwnersOpen w (submit w s c) := by
  have hne : ∀ i b, s.submits i = some b → i ≠ s.nextSubmit := fun i b hb => Nat.ne_of_lt (hi.submitFresh i b hb)
  unfold RosMcp.submit
  dsimp only
  split
  · refine h.of_kept rfl fun i b hb hopen => ⟨b, ?_, rfl, rfl, hopen, rfl⟩
    exact (Function.update_of_ne (hne i b hb) ..).trans hb
  · refine ⟨fun id e he => ?_⟩
    rcases update_eq_some.1 he with ⟨rfl, rfl⟩ | ⟨-, he⟩
    · exact ⟨s.nextSubmit, _, Function.update_self .., rfl, rfl, rfl, rfl⟩
    · obtain ⟨i, b, hb, hrest⟩ := h.owner id e he
      exact ⟨i, b, (Function.update_of_ne (hne i b hb) ..).trans hb, hrest⟩

/-- The end of a call takes its own entry with it. -/
private theorem OwnersOpen.wake (h : OwnersOpen w s) {i : SubmitId} (hw : wake w s i = some s') : OwnersOpen w s' := by
  obtain ⟨b₀, x, o, hb₀, -, -, -, rfl⟩ := wake_eq_some hw
  refine ⟨fun id e he => ?_⟩
  have hbefore : s.inFlight id = some e ∧ ¬ (b₀.owner = true ∧ (w.command b₀.command).commandId = id) := by
    dsimp only at he
    split at he
    · next howner =>
      obtain ⟨hne, he⟩ := update_none_eq_some.1 he
      exact ⟨he, fun hc => hne hc.2.symm⟩
    · next howner => exact ⟨he, fun hc => howner hc.1⟩
  obtain ⟨j, b, hb, howner, hexecution, hopen, hid⟩ := h.owner id e hbefore.1
  have hne : j ≠ i := by
    rintro rfl
    obtain rfl : b = b₀ := Option.some.inj (hb.symm.trans hb₀)
    exact hbefore.2 ⟨howner, hid⟩
  exact ⟨j, b, (Function.update_of_ne hne ..).trans hb, howner, hexecution, hopen, hid⟩

private theorem OwnersOpen.cancelTask (h : OwnersOpen w s) {i : SubmitId} (hw : cancelTask s i = some s') :
    OwnersOpen w s' := by
  obtain ⟨b₀, x, hb₀, hopen₀, -, ⟨-, rfl⟩ | ⟨-, rfl⟩⟩ := cancelTask_eq_some hw
  · refine h.of_kept rfl fun j b hb hopen => ?_
    by_cases hij : j = i
    · subst hij
      obtain rfl : b = b₀ := Option.some.inj (hb.symm.trans hb₀)
      exact ⟨_, Function.update_self .., rfl, rfl, hopen, rfl⟩
    · exact ⟨b, (Function.update_of_ne hij ..).trans hb, rfl, rfl, hopen, rfl⟩
  · exact h.of_kept rfl fun j b hb hopen => ⟨b, hb, rfl, rfl, hopen, rfl⟩

variable [IntCast N] [Add N] [Sub N] {a : Action N}

private theorem OwnersOpen.step (h : OwnersOpen w s) (hi : InFlight w s)
    (ha : step w s a = some s') : OwnersOpen w s' := by
  rcases step_cases ha with ⟨c, -, rfl⟩ | ⟨i, -, hw⟩ | ⟨i, -, hw⟩ | ⟨id, -, rfl⟩ |
    ⟨e, now, reply, x, x', events, eff, -, hr, -⟩
  · exact h.submit hi c
  · exact h.wake hw
  · exact h.cancelTask hw
  · have hsame : (cancel s id).inFlight = s.inFlight ∧ (cancel s id).submits = s.submits := by
      unfold cancel
      cases s.tokens id <;> exact ⟨rfl, rfl⟩
    exact h.of_kept hsame.1 fun i b hb hopen => ⟨b, by rw [hsame.2, hb], rfl, rfl, hopen, rfl⟩
  · exact h.of_kept hr.inFlight fun i b hb hopen => ⟨b, by rw [hr.submits, hb], rfl, rfl, hopen, rfl⟩

/-! ### What a step takes off -/

/-- A step of an execution is one of the few that it has; no other step changes their number. -/
private theorem step_stepsLeft (hi : InFlight w s) (ha : step w s a = some s') (e : ExecId) :
    (a.resumes e).toNat + s'.stepsLeft e ≤ s.stepsLeft e := by
  rcases step_split hi ha with ⟨hother, hbeside⟩ | ⟨e', now, reply, x, x', events, eff, rfl, hr, -⟩
  · have hnone : a.resumes e = false := by
      cases a with
      | resume e' now reply => exact absurd rfl (hother e' now reply)
      | _ => rfl
    rw [hnone, Bool.toNat_false, Nat.zero_add]
    unfold State.stepsLeft
    cases hx' : s'.execs e with
    | none =>
      cases hx : s.execs e with
      | none => exact le_rfl
      | some x =>
        obtain ⟨x', hx'', -⟩ := hbeside.kept e x hx
        cases hx'.symm.trans hx''
    | some x' =>
      rcases hbeside.new e x' hx' with ⟨x, hx, -, hpoint⟩ | ⟨-, hnew, hpoint⟩
      · rw [hx, Option.elim_some, Option.elim_some, hpoint]
      · rw [hnew, Option.elim_some, Option.elim_none, hpoint]
        exact le_rfl
  · unfold State.stepsLeft
    by_cases hne : e = e'
    · subst hne
      have hself : (Action.resume e now reply).resumes e = true := beq_self_eq_true e
      rw [hself, hr.execs_self, hr.execs_eq, Option.elim_some, Option.elim_some, Bool.toNat_true]
      exact Nat.one_add_le_iff.2 hr.moves.stepsLeft_lt
    · have hother : (Action.resume e' now reply).resumes e = false := beq_false_of_ne (Ne.symm hne)
      rw [hother, hr.execs_of_ne hne, Bool.toNat_false, Nat.zero_add]

/-- A call ends once. -/
private theorem step_wakesLeft (hi : InFlight w s) (ha : step w s a = some s') (i : SubmitId) :
    (a.wakes i).toNat + s'.wakesLeft i ≤ s.wakesLeft i := by
  have same : a.wakes i = false → s'.submits i = s.submits i → (a.wakes i).toNat + s'.wakesLeft i ≤ s.wakesLeft i := by
    intro hwakes hsubmits
    rw [hwakes, State.wakesLeft, State.wakesLeft, hsubmits, Bool.toNat_false, Nat.zero_add]
  rcases step_cases ha with ⟨c, rfl, rfl⟩ | ⟨j, rfl, hw⟩ | ⟨j, rfl, hw⟩ | ⟨id, rfl, rfl⟩ |
    ⟨e, now, reply, x, x', events, eff, rfl, hr, -⟩
  · by_cases hij : i = s.nextSubmit
    · subst hij
      have hfresh : s.submits s.nextSubmit = none := by
        by_contra hne
        obtain ⟨b, hb⟩ := Option.ne_none_iff_exists'.1 hne
        exact absurd (hi.submitFresh _ b hb) (lt_irrefl _)
      have hopen : (submit w s c).wakesLeft s.nextSubmit = 1 := by
        unfold submit State.wakesLeft
        dsimp only
        split <;> simp
      rw [hopen, State.wakesLeft, hfresh]
      exact le_rfl
    · refine same rfl ?_
      unfold submit
      dsimp only
      split <;> exact Function.update_of_ne hij ..
  · obtain ⟨b, x, o, hb, hopen, -, -, rfl⟩ := wake_eq_some hw
    by_cases hij : i = j
    · subst hij
      have hself : (Action.wake i : Action N).wakes i = true := beq_self_eq_true i
      simp [State.wakesLeft, hself, hb, hopen]
    · exact same (beq_false_of_ne (Ne.symm hij)) (Function.update_of_ne hij ..)
  · obtain ⟨b, x, hb, hopen, -, ⟨-, rfl⟩ | ⟨-, rfl⟩⟩ := cancelTask_eq_some hw
    · by_cases hij : i = j
      · subst hij
        simp [State.wakesLeft, Action.wakes, hb]
      · exact same rfl (Function.update_of_ne hij ..)
    · exact same rfl rfl
  · refine same rfl ?_
    unfold cancel
    cases s.tokens id <;> rfl
  · exact same rfl (by rw [hr.submits])

end Steps

/-! ### Whole runs -/

section Runs

variable [IntCast N] [Add N] [Sub N] {w : Wiring N} {s : State N} {as : List (Action N)}

private theorem ownersOpen_run (h : StepSystem.run (step w) State.initial as = some s) : OwnersOpen w s := by
  have hboth : InFlight w s ∧ OwnersOpen w s :=
    StepSystem.run_invariant (P := fun s => InFlight w s ∧ OwnersOpen w s)
      (fun _ _ _ hs hstep => ⟨hs.1.step hstep, hs.2.step hs.1 hstep⟩) ⟨InFlight.initial, OwnersOpen.initial⟩ h
  exact hboth.2

/-- A reply of the collaborator that an execution waits for. -/
def Point.someReply : Point N → Reply N
  | .created => .start
  | .handler => .handler (.error ⟨.valueError, ""⟩)
  | .pose => .pose (.ok none)
  | .check _ => .check (.error ⟨.valueError, ""⟩) (.ok none)
  | .backend => .backend .timedOut
  | .stopMotion _ => .stop (.result none)
  | .stopNavigation _ _ => .cancelAll (.ok ())
  | .done _ => .cancelled

/-- An execution that runs goes on with a reply. -/
private theorem step_someReply {e : ExecId} {x : Execution N} (hx : s.execs e = some x) (hlive : x.point.Live)
    (now : N) :
    x.point.someReply ≠ .cancelled ∧ step w s (.resume e now x.point.someReply) ≠ none := by
  have hstep : ∀ reply, step w s (.resume e now reply) = resume w s e now reply := fun _ => rfl
  rw [hstep, resume, hx, Option.bind_some]
  cases hp : x.point with
  | done o => exact absurd (hp ▸ hlive) (not_live_done o)
  | _ => exact ⟨by rintro ⟨⟩, Option.some_ne_none _⟩

/-- When no step is left, everything has ended. -/
private theorem drained_of_stuck (h : StepSystem.run (step w) State.initial as = some s) (now : N)
    (hresume : ∀ e reply, reply ≠ .cancelled → step w s (.resume e now reply) = none)
    (hwake : ∀ i, step w s (.wake i) = none) :
    Drained s := by
  obtain ⟨hi, hregistered⟩ := consistent_run h
  have hidle : ∀ e x, s.execs e = some x → ¬ x.point.Live := by
    intro e x hx hlive
    obtain ⟨hreply, hgoes⟩ := step_someReply (w := w) hx hlive now
    exact hgoes (hresume e _ hreply)
  have hended : ∀ i b, s.submits i = some b → b.ended ≠ none := by
    intro i b hb hopen
    obtain ⟨x, hx, -⟩ := hi.awaited i b hb
    obtain ⟨o, ho⟩ := not_live_iff.1 (hidle b.execution x hx)
    have hstuck := hwake i
    simp [step, wake, hb, hopen, hx, ho] at hstuck
  have hnone : ∀ e c, ¬ InProgress s e c := by
    intro e c hc
    obtain ⟨x, hx, -, hlive⟩ := hc.live
    exact hidle e x hx hlive
  constructor
  case ended => exact hended
  case idle => exact hidle
  case inFlight =>
    intro id
    by_contra hne
    obtain ⟨e, he⟩ := Option.ne_none_iff_exists'.1 hne
    obtain ⟨i, b, hb, -, -, hopen, -⟩ := (ownersOpen_run h).owner id e he
    exact hended i b hb hopen
  case tokens =>
    intro id
    by_contra hne
    obtain ⟨e, he⟩ := Option.ne_none_iff_exists'.1 hne
    obtain ⟨c, hc, -⟩ := (hregistered.tokens id e).1 he
    exact hnone e c hc
  case activeCommands =>
    intro r
    by_contra hne
    obtain ⟨c, hc⟩ := Option.ne_none_iff_exists'.1 hne
    obtain ⟨-, e, he⟩ := hregistered.active r c hc
    exact hnone e c he

/-- In every run an execution takes at most five steps and a call ends at most once; and where neither is left to do,
every call has ended and the tables are empty. -/
theorem manager_drains (h : StepSystem.run (step w) State.initial as = some s) :
    (∀ e, as.countP (Action.resumes e) ≤ 5) ∧ (∀ i, as.countP (Action.wakes i) ≤ 1) ∧
    ∀ now, (∀ e reply, reply ≠ .cancelled → step w s (.resume e now reply) = none) →
      (∀ i, step w s (.wake i) = none) → Drained s := by
  refine ⟨?_, ?_, ?_⟩
  · intro e
    have hcount := StepSystem.run_countP_le (P := InFlight w) (μ := State.stepsLeft e) (p := Action.resumes e)
      (fun _ _ _ hs hstep => ⟨hs.step hstep, step_stepsLeft hs hstep e⟩) InFlight.initial h
    exact (Nat.le_add_right _ _).trans hcount
  · intro i
    have hcount := StepSystem.run_countP_le (P := InFlight w) (μ := State.wakesLeft i) (p := Action.wakes i)
      (fun _ _ _ hs hstep => ⟨hs.step hstep, step_wakesLeft hs hstep i⟩) InFlight.initial h
    exact (Nat.le_add_right _ _).trans hcount
  · intro now hresume hwake
    exact drained_of_stuck h now hresume hwake

end Runs

/-- A move whose backend does not answer in time, up to the end of its call. -/
def sampleTimedOut : List (Action ℤ) := .submit 0 :: sampleDispatch ℤ 0 ++ [.resume 0 0 (.backend .timedOut), .wake 0]

theorem manager_drains_sample : ∃ s, StepSystem.run (step (sampleWiring ℤ)) State.initial sampleTimedOut = some s ∧
    sampleTimedOut.countP (Action.resumes 0) ≤ 5 ∧ Drained s := by
  obtain ⟨s, hrun, ⟨x, o, hx, hp⟩, ⟨b, o', hb, ho⟩, hnextExec, hnextSubmit⟩ : ∃ s,
      StepSystem.run (step (sampleWiring ℤ)) State.initial sampleTimedOut = some s ∧
      (∃ x o, s.execs 0 = some x ∧ x.point = .done o) ∧ (∃ b o, s.submits 0 = some b ∧ b.ended = some o) ∧
      s.nextExec = 1 ∧ s.nextSubmit = 1 := ⟨_, rfl, ⟨_, _, rfl, rfl⟩, ⟨_, _, rfl, rfl⟩, rfl, rfl⟩
  have hi := (consistent_run hrun).1
  have hbounds := manager_drains hrun
  refine ⟨s, hrun, hbounds.1 0, hbounds.2.2 0 ?_ ?_⟩
  · intro e reply _
    cases hy : s.execs e with
    | none => simp [step, resume, hy]
    | some y =>
      obtain rfl : e = 0 := Nat.lt_one_iff.1 (hnextExec ▸ hi.execFresh e y hy)
      simp [step, resume, hx, hp]
  · intro i
    cases hy : s.submits i with
    | none => simp [step, wake, hy]
    | some y =>
      obtain rfl : i = 0 := Nat.lt_one_iff.1 (hnextSubmit ▸ hi.submitFresh i y hy)
      simp [step, wake, hb, ho]

end RosMcp
