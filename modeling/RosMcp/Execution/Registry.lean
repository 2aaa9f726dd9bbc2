import RosMcp.Execution.Moves

/-!
# The in-flight, token and active-command tables

`InFlight` relates `_in_flight` to the executions and the calls of `submit`; in particular two executions that still
run have different command ids.  `Registered` relates `_tokens` and `_active_commands` to the executions that are on
a backend: the tokens are exactly those of these executions, and the active command of a robot is one of them.  Both
hold in every reachable state (`inFlight_run`, `registered_run`).  `Later` is what no step takes back.
-/

namespace RosMcp

variable {N : Type}

/-- An execution of the command object `c` is in progress on a backend. -/
def InProgress (s : State N) (e : ExecId) (c : CommandRef) : Prop :=
  ∃ x, s.execs e = some x ∧ x.command = c ∧ x.point = .backend

/-- A table after one entry has been set. -/
theorem update_eq_some {α β : Type*} [DecidableEq α] {f : α → Option β} {a i : α} {v b : β} :
    Function.update f a (some v) i = some b ↔ (i = a ∧ b = v) ∨ (i ≠ a ∧ f i = some b) := by
  by_cases h : i = a
  · subst h
    simp [eq_comm]
  · simp [h]

/-- A table after one entry has been removed. -/
theorem update_none_eq_some {α β : Type*} [DecidableEq α] {f : α → Option β} {a i : α} {b : β} :
    Function.update f a none i = some b ↔ i ≠ a ∧ f i = some b := by
  by_cases h : i = a
  · subst h
    simp
  · simp [h]

/-! ### Transitions and points -/

section Points

variable {w : Wiring N} {s s' : State N} {e : ExecId} {c : CommandRef} {p p' : Point N} {events : List (Event N)}
  {eff : RegistryEffect N} {x x' : Execution N}

@[simp] theorem live_created : (Point.created : Point N).Live := trivial
@[simp] theorem live_handler : (Point.handler : Point N).Live := trivial
@[simp] theorem live_pose : (Point.pose : Point N).Live := trivial
@[simp] theorem live_check (q : Option (Pose2D N)) : (Point.check q).Live := trivial
@[simp] theorem live_backend : (Point.backend : Point N).Live := trivial
@[simp] theorem live_stopMotion (cid : Option String) : (Point.stopMotion cid : Point N).Live := trivial
@[simp] theorem live_stopNavigation (cid : Option String) (q : Option (Pose2D N)) :
    (Point.stopNavigation cid q).Live := trivial
@[simp] theorem not_live_done (o : Outcome N) : ¬ (Point.done o).Live := not_false

theorem not_live_iff : ¬ p.Live ↔ ∃ o, p = .done o := by
  cases p <;> simp

theorem Moves.live (h : Moves w s e c p p' events eff) : p.Live := by
  cases h <;> first | assumption | trivial

/-- The effect of a transition on the tables goes with its effect on the backend. -/
theorem Moves.registry (h : Moves w s e c p p' events eff) :
    (∃ token, eff = .register token ∧ p ≠ .backend ∧ p' = .backend) ∨
      (eff = .release ∧ p = .backend ∧ ¬ p'.Live) ∨
      (p ≠ .backend ∧ p' ≠ .backend ∧ ((eff = .quiet) ∨ (∃ token, eff = .transient token ∧ ¬ p'.Live) ∨
        ∃ t, eff = .cancelToken t)) := by
  cases h with
  | dispatched p b token call hop hnew => exact Or.inl ⟨token, rfl, by simp, rfl⟩
  | released o => exact Or.inr (Or.inl ⟨rfl, rfl, by simp⟩)
  | undispatched p b token o hop => exact Or.inr (Or.inr ⟨by simp, by simp, Or.inr (Or.inl ⟨token, rfl, by simp⟩)⟩)
  | stopCalled | stopNavigationCalled | stopNoBackend =>
    exact Or.inr (Or.inr ⟨by simp, by simp, Or.inr (Or.inr ⟨_, rfl⟩)⟩)
  | raised p o hp hb ho => exact Or.inr (Or.inr ⟨hb, by simp, Or.inl rfl⟩)
  | _ => exact Or.inr (Or.inr ⟨by simp, by simp, Or.inl rfl⟩)

namespace Resumed

variable (h : Resumed w s s' e x x' events eff)
include h

theorem execs_self : s'.execs e = some x' := by
  rw [h.execs, Function.update_self]

theorem execs_of_ne {e' : ExecId} (hne : e' ≠ e) : s'.execs e' = s.execs e' := by
  rw [h.execs, Function.update_of_ne hne]

theorem exec_cases {e' : ExecId} {y : Execution N} (hy : s'.execs e' = some y) :
    (e' = e ∧ y = x') ∨ (e' ≠ e ∧ s.execs e' = some y) := by
  rw [h.execs] at hy
  exact update_eq_some.1 hy

/-- Every execution is still there, with its command. -/
theorem exec_kept {e' : ExecId} {y : Execution N} (hy : s.execs e' = some y) :
    ∃ y', s'.execs e' = some y' ∧ y'.command = y.command := by
  by_cases hne : e' = e
  · subst hne
    rw [h.execs_eq, Option.some.injEq] at hy
    subst hy
    exact ⟨x', h.execs_self, h.command_eq⟩
  · exact ⟨y, by rw [h.execs_of_ne hne, hy], rfl⟩

end Resumed

end Points

/-! ### The other steps -/

section OtherSteps

variable {w : Wiring N} {s s' : State N} {i : SubmitId}

/-- `wake` ends a call of `submit` whose execution has ended. -/
theorem wake_eq_some (h : wake w s i = some s') :
    ∃ b x o, s.submits i = some b ∧ b.ended = none ∧ s.execs b.execution = some x ∧ x.point = .done o ∧
      s' = { s with
        submits := Function.update s.submits i
          (some { b with ended := some (if b.cancelRequested then .cancelled else o) })
        inFlight :=
          if b.owner then Function.update s.inFlight (w.command b.command).commandId none else s.inFlight } := by
  unfold wake at h
  obtain ⟨b, hb, h⟩ := Option.bind_eq_some_iff.1 h
  split at h
  · next o he hx =>
    obtain ⟨x, hx, hp⟩ := Option.map_eq_some_iff.1 hx
    exact ⟨b, x, o, hb, he, hx, hp, (Option.some.inj h).symm⟩
  · cases h

/-- `cancelTask` only sets a request for cancellation. -/
theorem cancelTask_eq_some (h : cancelTask s i = some s') :
    ∃ b x, s.submits i = some b ∧ b.ended = none ∧ s.execs b.execution = some x ∧
      ((¬ x.point.Live ∧
        s' = { s with submits := Function.update s.submits i (some { b with cancelRequested := true }) }) ∨
      (x.point.Live ∧
        s' = { s with execs := Function.update s.execs b.execution (some { x with cancelRequested := true }) })) := by
  unfold cancelTask at h
  obtain ⟨b, hb, h⟩ := Option.bind_eq_some_iff.1 h
  split at h
  · next x he hx =>
    refine ⟨b, x, hb, he, hx, ?_⟩
    split at h
    · next o hp => exact Or.inl ⟨by simp [hp], (Option.some.inj h).symm⟩
    · next hp =>
      refine Or.inr ⟨?_, (Option.some.inj h).symm⟩
      by_contra hl
      obtain ⟨o, ho⟩ := not_live_iff.1 hl
      exact hp o ho
  · cases h

/-- The steps of the manager. -/
theorem step_cases [IntCast N] [Add N] [Sub N] {a : Action N} (h : step w s a = some s') :
    (∃ c, a = .submit c ∧ s' = submit w s c) ∨ (∃ i, a = .wake i ∧ wake w s i = some s') ∨
      (∃ i, a = .cancelTask i ∧ cancelTask s i = some s') ∨ (∃ id, a = .cancel id ∧ s' = cancel s id) ∨
      ∃ e now reply x x' events eff, a = .resume e now reply ∧ Resumed w s s' e x x' events eff ∧
        Answers w e x reply events eff := by
  cases a with
  | submit c => exact Or.inl ⟨c, rfl, (Option.some.inj h).symm⟩
  | wake i => exact Or.inr (Or.inl ⟨i, rfl, h⟩)
  | cancelTask i => exact Or.inr (Or.inr (Or.inl ⟨i, rfl, h⟩))
  | cancel id => exact Or.inr (Or.inr (Or.inr (Or.inl ⟨id, rfl, (Option.some.inj h).symm⟩)))
  | resume e now reply =>
    obtain ⟨x, x', events, eff, hr, ha⟩ := resume_moves h
    exact Or.inr (Or.inr (Or.inr (Or.inr ⟨e, now, reply, x, x', events, eff, rfl, hr, ha⟩)))

end OtherSteps

/-! ### `_in_flight` -/

/-- `_in_flight`, the executions and the calls of `submit` agree. -/
structure InFlight (w : Wiring N) (s : State N) : Prop where
  execFresh : ∀ e x, s.execs e = some x → e < s.nextExec
  submitFresh : ∀ i b, s.submits i = some b → i < s.nextSubmit
  entry : ∀ id e, s.inFlight id = some e → ∃ x, s.execs e = some x ∧ (w.command x.command).commandId = id
  flying : ∀ e x, s.execs e = some x → x.point.Live → s.inFlight (w.command x.command).commandId = some e
  awaited : ∀ i b, s.submits i = some b → ∃ x, s.execs b.execution = some x ∧
    (w.command x.command).commandId = (w.command b.command).commandId ∧ (b.owner = true → x.command = b.command)
  ordered : ∀ i j b b', s.submits i = some b → s.submits j = some b' → b'.owner = true → i < j →
    b.execution < b'.execution
  owned : ∀ i b, s.submits i = some b → b.owner = true → b.ended = none →
    s.inFlight (w.command b.command).commandId = some b.execution
  ended : ∀ i b o, s.submits i = some b → b.ended = some o →
    ∃ x o', s.execs b.execution = some x ∧ x.point = .done o' ∧ (o = o' ∨ o = .cancelled)

section InFlightSteps

variable {w : Wiring N} {s s' : State N}

theorem InFlight.initial : InFlight w (State.initial : State N) := by
  constructor <;> simp [State.initial]

/-- Two running executions with one command id are the same execution. -/
theorem InFlight.unique (h : InFlight w s) {e e' : ExecId} {x x' : Execution N} (hx : s.execs e = some x)
    (hx' : s.execs e' = some x') (hl : x.point.Live) (hl' : x'.point.Live)
    (hid : (w.command x.command).commandId = (w.command x'.command).commandId) : e = e' := by
  have h₁ := h.flying e x hx hl
  have h₂ := h.flying e' x' hx' hl'
  rw [hid, h₂, Option.some.injEq] at h₁
  exact h₁.symm

/-- A running execution is replaced by a later state of itself. -/
private theorem InFlight.exec_step (h : InFlight w s) {e : ExecId} {x x' : Execution N} (hx : s.execs e = some x)
    (hl : x.point.Live) (hc : x'.command = x.command) (he : s'.execs = Function.update s.execs e (some x'))
    (hi : s'.inFlight = s.inFlight) (hn : s'.nextExec = s.nextExec) (hs : s'.submits = s.submits)
    (hns : s'.nextSubmit = s.nextSubmit) : InFlight w s' := by
  have hself : s'.execs e = some x' := by rw [he, Function.update_self]
  have hother : ∀ e', e' ≠ e → s'.execs e' = s.execs e' := by
    intro e' hne
    rw [he, Function.update_of_ne hne]
  have kept : ∀ e' y, s.execs e' = some y → ∃ y', s'.execs e' = some y' ∧ y'.command = y.command := by
    intro e' y hy
    by_cases hne : e' = e
    · subst hne
      obtain rfl : x = y := by rw [hx, Option.some.injEq] at hy; exact hy
      exact ⟨x', hself, hc⟩
    · exact ⟨y, by rw [hother e' hne, hy], rfl⟩
  constructor
  case execFresh =>
    intro e' y hy
    rw [hn]
    by_cases hne : e' = e
    · rw [hne]
      exact h.execFresh e x hx
    · exact h.execFresh e' y (by rw [← hother e' hne, hy])
  case submitFresh =>
    rw [hs, hns]
    exact h.submitFresh
  case entry =>
    intro id e' hid
    rw [hi] at hid
    obtain ⟨y, hy, hyid⟩ := h.entry id e' hid
    obtain ⟨y', hy', hcy⟩ := kept e' y hy
    exact ⟨y', hy', by rw [hcy, hyid]⟩
  case flying =>
    intro e' y hy hly
    rw [hi]
    by_cases hne : e' = e
    · subst hne
      obtain rfl : x' = y := by rw [hself, Option.some.injEq] at hy; exact hy
      rw [hc]
      exact h.flying e' x hx hl
    · exact h.flying e' y (by rw [← hother e' hne, hy]) hly
  case awaited =>
    intro i b hb
    rw [hs] at hb
    obtain ⟨y, hy, hid, ho⟩ := h.awaited i b hb
    obtain ⟨y', hy', hcy⟩ := kept _ y hy
    exact ⟨y', hy', by rw [hcy, hid], fun hb => by rw [hcy, ho hb]⟩
  case ordered =>
    rw [hs]
    exact h.ordered
  case owned =>
    rw [hs, hi]
    exact h.owned
  case ended =>
    intro i b o hb ho
    rw [hs] at hb
    obtain ⟨y, o', hy, hp, hoo⟩ := h.ended i b o hb ho
    by_cases hne : b.execution = e
    · rw [hne, hx, Option.some.injEq] at hy
      subst hy
      rw [hp] at hl
      exact absurd hl (not_live_done o')
    · exact ⟨y, o', by rw [hother _ hne, hy], hp, hoo⟩

/-- A new call has a fresh number. -/
private theorem InFlight.submitFresh_new (h : InFlight w s) {new : Submit N} (i : SubmitId) (b : Submit N)
    (hb : Function.update s.submits s.nextSubmit (some new) i = some b) : i < s.nextSubmit + 1 := by
  rcases update_eq_some.1 hb with ⟨rfl, -⟩ | ⟨-, hb⟩
  · exact Nat.lt_succ_self _
  · exact Nat.lt_succ_of_lt (h.submitFresh i b hb)

/-- A call before one that is not new is not new either. -/
private theorem InFlight.submit_before (h : InFlight w s) {new : Submit N} {i j : SubmitId} {b b' : Submit N}
    (hb : Function.update s.submits s.nextSubmit (some new) i = some b) (hb' : s.submits j = some b') (hij : i < j) :
    s.submits i = some b := by
  have hj := h.submitFresh j b' hb'
  rcases update_eq_some.1 hb with ⟨rfl, -⟩ | ⟨-, hb⟩
  · exact absurd hij (Nat.lt_asymm hj)
  · exact hb

/-- A further call joins the execution in flight. -/
private theorem InFlight.join (h : InFlight w s) {c : CommandRef} {e : ExecId}
    (he : s.inFlight (w.command c).commandId = some e) :
    InFlight w { s with
      submits := Function.update s.submits s.nextSubmit (some ⟨c, e, false, false, none⟩)
      nextSubmit := s.nextSubmit + 1 } := by
  obtain ⟨x, hx, hid⟩ := h.entry _ e he
  refine { h with
    submitFresh := ?submitFresh, awaited := ?awaited, ordered := ?ordered, owned := ?owned, ended := ?ended }
  case submitFresh => exact h.submitFresh_new
  case awaited =>
    intro i b hb
    rcases update_eq_some.1 hb with ⟨-, rfl⟩ | ⟨-, hb⟩
    · exact ⟨x, hx, hid, by simp⟩
    · exact h.awaited i b hb
  case ordered =>
    intro i j b b' hb hb' ho hij
    rcases update_eq_some.1 hb' with ⟨-, rfl⟩ | ⟨-, hb'⟩
    · cases ho
    · exact h.ordered i j b b' (h.submit_before hb hb' hij) hb' ho hij
  case owned =>
    intro i b hb ho hn
    rcases update_eq_some.1 hb with ⟨-, rfl⟩ | ⟨-, hb⟩
    · cases ho
    · exact h.owned i b hb ho hn
  case ended =>
    intro i b o hb ho
    rcases update_eq_some.1 hb with ⟨-, rfl⟩ | ⟨-, hb⟩
    · cases ho
    · exact h.ended i b o hb ho

/-- A call under an id that is not in flight starts an execution. -/
private theorem InFlight.begin (h : InFlight w s) {c : CommandRef} {x : Execution N} (hx : x.command = c)
    (he : s.inFlight (w.command c).commandId = none) :
    InFlight w { s with
      inFlight := Function.update s.inFlight (w.command c).commandId (some s.nextExec)
      execs := Function.update s.execs s.nextExec (some x)
      nextExec := s.nextExec + 1
      submits := Function.update s.submits s.nextSubmit (some ⟨c, s.nextExec, true, false, none⟩)
      nextSubmit := s.nextSubmit + 1 } := by
  have old : ∀ e y, s.execs e = some y → Function.update s.execs s.nextExec (some x) e = some y := by
    intro e y hy
    exact update_eq_some.2 (Or.inr ⟨Nat.ne_of_lt (h.execFresh e y hy), hy⟩)
  constructor
  case execFresh =>
    intro e y hy
    rcases update_eq_some.1 hy with ⟨rfl, -⟩ | ⟨-, hy⟩
    · exact Nat.lt_succ_self _
    · exact Nat.lt_succ_of_lt (h.execFresh e y hy)
  case submitFresh => exact h.submitFresh_new
  case entry =>
    intro id e hid
    rcases update_eq_some.1 hid with ⟨rfl, rfl⟩ | ⟨-, hid⟩
    · exact ⟨x, Function.update_self _ _ _, by rw [hx]⟩
    · obtain ⟨y, hy, hyid⟩ := h.entry id e hid
      exact ⟨y, old e y hy, hyid⟩
  case flying =>
    intro e y hy hl
    rcases update_eq_some.1 hy with ⟨rfl, rfl⟩ | ⟨-, hy⟩
    · rw [hx]
      exact Function.update_self _ _ _
    · have hfly := h.flying e y hy hl
      refine update_eq_some.2 (Or.inr ⟨?_, hfly⟩)
      intro hid
      rw [hid, he] at hfly
      cases hfly
  case awaited =>
    intro i b hb
    rcases update_eq_some.1 hb with ⟨-, rfl⟩ | ⟨-, hb⟩
    · exact ⟨x, Function.update_self _ _ _, by rw [hx], fun _ => hx⟩
    · obtain ⟨y, hy, hid, ho⟩ := h.awaited i b hb
      exact ⟨y, old _ y hy, hid, ho⟩
  case ordered =>
    intro i j b b' hb hb' ho hij
    rcases update_eq_some.1 hb' with ⟨rfl, rfl⟩ | ⟨-, hb'⟩
    · rcases update_eq_some.1 hb with ⟨rfl, -⟩ | ⟨-, hb⟩
      · exact absurd hij (Nat.lt_irrefl _)
      · obtain ⟨y, hy, -⟩ := h.awaited i b hb
        exact h.execFresh _ y hy
    · exact h.ordered i j b b' (h.submit_before hb hb' hij) hb' ho hij
  case owned =>
    intro i b hb ho hn
    rcases update_eq_some.1 hb with ⟨-, rfl⟩ | ⟨-, hb⟩
    · exact Function.update_self _ _ _
    · have hown := h.owned i b hb ho hn
      refine update_eq_some.2 (Or.inr ⟨?_, hown⟩)
      intro hid
      rw [hid, he] at hown
      cases hown
  case ended =>
    intro i b o hb ho
    rcases update_eq_some.1 hb with ⟨-, rfl⟩ | ⟨-, hb⟩
    · cases ho
    · obtain ⟨y, o', hy, hp, hoo⟩ := h.ended i b o hb ho
      exact ⟨y, o', old _ y hy, hp, hoo⟩

private theorem InFlight.submit [IntCast N] (h : InFlight w s) (c : CommandRef) : InFlight w (submit w s c) := by
  unfold RosMcp.submit
  dsimp only
  split
  · next e he => exact h.join he
  · next he => exact h.begin rfl he

/-- The calls in `f'` are calls in `f`, with the same command, execution and owner. -/
def SameCalls (f f' : SubmitId → Option (Submit N)) : Prop :=
  ∀ i b', f' i = some b' → ∃ b, f i = some b ∧ b'.command = b.command ∧ b'.execution = b.execution ∧
    b'.owner = b.owner

private theorem SameCalls.update {f : SubmitId → Option (Submit N)} {i : SubmitId} {b : Submit N} (b' : Submit N)
    (hb : f i = some b) (hcommand : b'.command = b.command) (hexecution : b'.execution = b.execution)
    (howner : b'.owner = b.owner) : SameCalls f (Function.update f i (some b')) := by
  intro j b'' hj
  rcases update_eq_some.1 hj with ⟨rfl, rfl⟩ | ⟨-, hj⟩
  · exact ⟨b, hb, hcommand, hexecution, howner⟩
  · exact ⟨b'', hj, rfl, rfl, rfl⟩

private theorem wake_sameCalls {i : SubmitId} (hw : RosMcp.wake w s i = some s') : SameCalls s.submits s'.submits := by
  obtain ⟨b, x, o, hb, -, -, -, rfl⟩ := wake_eq_some hw
  exact SameCalls.update { b with ended := some (if b.cancelRequested then .cancelled else o) } hb rfl rfl rfl

private theorem cancelTask_sameCalls {i : SubmitId} (hw : RosMcp.cancelTask s i = some s') :
    SameCalls s.submits s'.submits := by
  obtain ⟨b, x, hb, -, -, ⟨-, rfl⟩ | ⟨-, rfl⟩⟩ := cancelTask_eq_some hw
  · exact SameCalls.update { b with cancelRequested := true } hb rfl rfl rfl
  · exact fun j b' hb' => ⟨b', hb', rfl, rfl, rfl⟩

/-- Only `submit` adds a call. -/
theorem step_calls [IntCast N] [Add N] [Sub N] {a : Action N} (ha : step w s a = some s') :
    (∃ c, a = .submit c ∧ s' = RosMcp.submit w s c) ∨ SameCalls s.submits s'.submits := by
  rcases step_cases ha with hsubmit | ⟨i, -, hw⟩ | ⟨i, -, hw⟩ | ⟨id, -, rfl⟩ |
    ⟨e, now, reply, x, x', events, eff, -, hr, -⟩
  · exact Or.inl hsubmit
  · exact Or.inr (wake_sameCalls hw)
  · exact Or.inr (cancelTask_sameCalls hw)
  · have hsub : (cancel s id).submits = s.submits := by
      unfold cancel
      cases s.tokens id <;> rfl
    rw [hsub]
    exact Or.inr fun i b hb => ⟨b, hb, rfl, rfl, rfl⟩
  · rw [hr.submits]
    exact Or.inr fun i b hb => ⟨b, hb, rfl, rfl, rfl⟩

/-- What does not depend on how far the calls have got. -/
private theorem InFlight.sameCalls (h : InFlight w s) {f : SubmitId → Option (Submit N)} (hf : SameCalls s.submits f) :
    (∀ i b, f i = some b → i < s.nextSubmit) ∧
    (∀ i b, f i = some b → ∃ x, s.execs b.execution = some x ∧
      (w.command x.command).commandId = (w.command b.command).commandId ∧ (b.owner = true → x.command = b.command)) ∧
    ∀ i j b b', f i = some b → f j = some b' → b'.owner = true → i < j → b.execution < b'.execution := by
  refine ⟨?_, ?_, ?_⟩
  · intro i b hb
    obtain ⟨b₀, hb₀, -⟩ := hf i b hb
    exact h.submitFresh i b₀ hb₀
  · intro i b hb
    obtain ⟨b₀, hb₀, hc, he, ho⟩ := hf i b hb
    rw [hc, he, ho]
    exact h.awaited i b₀ hb₀
  · intro i j b b' hb hb' ho hij
    obtain ⟨b₀, hb₀, -, he, -⟩ := hf i b hb
    obtain ⟨b₁, hb₁, -, he₁, ho₁⟩ := hf j b' hb'
    rw [he, he₁]
    exact h.ordered i j b₀ b₁ hb₀ hb₁ (by rw [← ho₁, ho]) hij

private theorem InFlight.wake {i : SubmitId} (h : InFlight w s) (hw : wake w s i = some s') : InFlight w s' := by
  obtain ⟨hfresh, hawaited, hordered⟩ := h.sameCalls (wake_sameCalls hw)
  obtain ⟨b, x, o, hb, hend, hx, hp, rfl⟩ := wake_eq_some hw
  -- an entry that the owner removes belongs to the execution that has just ended
  have removed : ∀ id e, s.inFlight id = some e → (∀ y, s.execs e = some y → y.point.Live) →
      (if b.owner then Function.update s.inFlight (w.command b.command).commandId none else s.inFlight) id =
        some e := by
    intro id e hid hl
    split
    · next ho =>
      refine update_none_eq_some.2 ⟨?_, hid⟩
      rintro rfl
      rw [h.owned i b hb ho hend, Option.some.injEq] at hid
      subst hid
      have hlive := hl x hx
      rw [hp] at hlive
      exact not_live_done o hlive
    · exact hid
  refine { h with
    submitFresh := hfresh, entry := ?entry, flying := ?flying, awaited := hawaited, ordered := hordered
    owned := ?owned, ended := ?ended }
  case entry =>
    intro id e hid
    dsimp only at hid
    split at hid
    · exact h.entry id e (update_none_eq_some.1 hid).2
    · exact h.entry id e hid
  case flying =>
    intro e y hy hl
    refine removed _ e (h.flying e y hy hl) ?_
    intro y' hy'
    rw [hy, Option.some.injEq] at hy'
    rwa [← hy']
  case owned =>
    intro j b' hb' ho hn
    rcases update_eq_some.1 hb' with ⟨rfl, rfl⟩ | ⟨hne, hb'⟩
    · cases hn
    · have hown := h.owned j b' hb' ho hn
      dsimp only
      split
      · next hbo =>
        refine update_none_eq_some.2 ⟨?_, hown⟩
        intro hid
        -- two owners of one entry await one execution, so they are the same call
        rw [hid, h.owned i b hb hbo hend, Option.some.injEq] at hown
        rcases Nat.lt_or_gt_of_ne hne with hlt | hlt
        · exact absurd hown (Nat.ne_of_gt (h.ordered j i b' b hb' hb hbo hlt))
        · exact absurd hown (Nat.ne_of_lt (h.ordered i j b b' hb hb' ho hlt))
      · exact hown
  case ended =>
    intro j b' o' hb' ho'
    rcases update_eq_some.1 hb' with ⟨rfl, rfl⟩ | ⟨-, hb'⟩
    · refine ⟨x, o, hx, hp, ?_⟩
      rw [Option.some.injEq] at ho'
      subst ho'
      by_cases hr : b.cancelRequested = true
      · exact Or.inr (if_pos hr)
      · exact Or.inl (if_neg hr)
    · exact h.ended j b' o' hb' ho'

private theorem InFlight.cancelTask {i : SubmitId} (h : InFlight w s)
    (hw : cancelTask s i = some s') : InFlight w s' := by
  obtain ⟨hfresh, hawaited, hordered⟩ := h.sameCalls (cancelTask_sameCalls hw)
  obtain ⟨b, x, hb, hend, hx, ⟨-, rfl⟩ | ⟨hl, rfl⟩⟩ := cancelTask_eq_some hw
  · refine { h with
      submitFresh := hfresh, awaited := hawaited, ordered := hordered, owned := ?owned, ended := ?ended }
    case owned =>
      intro j b' hb' ho hn
      rcases update_eq_some.1 hb' with ⟨rfl, rfl⟩ | ⟨-, hb'⟩
      · exact h.owned _ b hb ho hn
      · exact h.owned j b' hb' ho hn
    case ended =>
      intro j b' o hb' ho
      rcases update_eq_some.1 hb' with ⟨rfl, rfl⟩ | ⟨-, hb'⟩
      · exact h.ended _ b o hb ho
      · exact h.ended j b' o hb' ho
  · have hc : ({ x with cancelRequested := true } : Execution N).command = x.command := rfl
    exact h.exec_step hx hl hc rfl rfl rfl rfl rfl

private theorem InFlight.cancelToken (h : InFlight w s) (token : Option ExecId) : InFlight w (s.cancelToken token) := by
  cases token with
  | none => exact h
  | some t => exact { h with }

theorem InFlight.step [IntCast N] [Add N] [Sub N] {a : Action N} (h : InFlight w s) (ha : step w s a = some s') :
    InFlight w s' := by
  rcases step_cases ha with ⟨c, rfl, rfl⟩ | ⟨i, rfl, hw⟩ | ⟨i, rfl, hw⟩ | ⟨id, rfl, rfl⟩ |
    ⟨e, now, reply, x, x', events, eff, rfl, hr, -⟩
  · exact h.submit c
  · exact h.wake hw
  · exact h.cancelTask hw
  · exact h.cancelToken _
  · exact h.exec_step hr.execs_eq hr.moves.live hr.command_eq hr.execs hr.inFlight hr.nextExec hr.submits hr.nextSubmit

end InFlightSteps

/-! ### The steps beside the executions -/

/-- A step that is not one of an execution: it may start an execution, cancel a token or ask a task to stop. -/
structure Beside (s s' : State N) : Prop where
  tokens : s'.tokens = s.tokens
  activeCommands : s'.activeCommands = s.activeCommands
  log : s'.log = s.log
  tokenObject : ∀ e, (s'.tokenObject e).isSome = (s.tokenObject e).isSome
  kept : ∀ e x, s.execs e = some x → ∃ x', s'.execs e = some x' ∧ x'.command = x.command ∧ x'.point = x.point
  new : ∀ e x', s'.execs e = some x' →
    (∃ x, s.execs e = some x ∧ x'.command = x.command ∧ x'.point = x.point) ∨
      (e = s.nextExec ∧ s.execs e = none ∧ x'.point = .created)

section BesideSteps

variable {w : Wiring N} {s s' : State N}

private theorem cancelToken_isSome (s : State N) (token : Option ExecId) (e : ExecId) :
    ((s.cancelToken token).tokenObject e).isSome = (s.tokenObject e).isSome := by
  cases token with
  | none => rfl
  | some t =>
    by_cases h : e = t
    · subst h
      simp [State.cancelToken]
    · simp [State.cancelToken, h]

/-- A step that leaves the executions and the token objects alone. -/
private theorem Beside.of_execs (ht : s'.tokens = s.tokens) (ha : s'.activeCommands = s.activeCommands)
    (hl : s'.log = s.log) (ho : ∀ e, (s'.tokenObject e).isSome = (s.tokenObject e).isSome)
    (hx : s'.execs = s.execs) : Beside s s' where
  tokens := ht
  activeCommands := ha
  log := hl
  tokenObject := ho
  kept e x h := ⟨x, by rw [hx, h], rfl, rfl⟩
  new e x h := Or.inl ⟨x, by rw [← hx, h], rfl, rfl⟩

theorem Beside.inProgress_iff (h : Beside s s') {e : ExecId} {c : CommandRef} :
    InProgress s' e c ↔ InProgress s e c := by
  constructor
  · rintro ⟨x', hx', hc, hp⟩
    rcases h.new e x' hx' with ⟨x, hx, hcx, hpx⟩ | ⟨-, -, hcr⟩
    · exact ⟨x, hx, by rw [← hcx, hc], by rw [← hpx, hp]⟩
    · rw [hp] at hcr
      cases hcr
  · rintro ⟨x, hx, hc, hp⟩
    obtain ⟨x', hx', hcx, hpx⟩ := h.kept e x hx
    exact ⟨x', hx', by rw [hcx, hc], by rw [hpx, hp]⟩

theorem submit_beside [IntCast N] (hi : InFlight w s) (c : CommandRef) : Beside s (submit w s c) := by
  unfold submit
  dsimp only
  split
  · exact Beside.of_execs rfl rfl rfl (fun _ => rfl) rfl
  · have hfresh : ∀ e y, s.execs e = some y → e ≠ s.nextExec := fun e y hy => Nat.ne_of_lt (hi.execFresh e y hy)
    refine ⟨rfl, rfl, rfl, fun _ => rfl, ?_, ?_⟩
    · intro e y hy
      exact ⟨y, update_eq_some.2 (Or.inr ⟨hfresh e y hy, hy⟩), rfl, rfl⟩
    · intro e y hy
      rcases update_eq_some.1 hy with ⟨rfl, rfl⟩ | ⟨-, hy⟩
      · refine Or.inr ⟨rfl, ?_, rfl⟩
        by_contra hne
        obtain ⟨y, hy⟩ := Option.ne_none_iff_exists'.1 hne
        exact hfresh _ y hy rfl
      · exact Or.inl ⟨y, hy, rfl, rfl⟩

private theorem cancelTask_beside {i : SubmitId} (h : cancelTask s i = some s') : Beside s s' := by
  obtain ⟨b, x, -, -, hx, ⟨-, rfl⟩ | ⟨-, rfl⟩⟩ := cancelTask_eq_some h
  · exact Beside.of_execs rfl rfl rfl (fun _ => rfl) rfl
  · refine ⟨rfl, rfl, rfl, fun _ => rfl, ?_, ?_⟩
    · intro e y hy
      by_cases hne : e = b.execution
      · subst hne
        rw [hx, Option.some.injEq] at hy
        subst hy
        exact ⟨_, Function.update_self _ _ _, rfl, rfl⟩
      · exact ⟨y, update_eq_some.2 (Or.inr ⟨hne, hy⟩), rfl, rfl⟩
    · intro e y hy
      rcases update_eq_some.1 hy with ⟨rfl, rfl⟩ | ⟨-, hy⟩
      · exact Or.inl ⟨x, hx, rfl, rfl⟩
      · exact Or.inl ⟨y, hy, rfl, rfl⟩

/-- A step of the manager is one of an execution or one beside the executions. -/
theorem step_split [IntCast N] [Add N] [Sub N] {a : Action N} (hi : InFlight w s) (h : step w s a = some s') :
    ((∀ e now reply, a ≠ .resume e now reply) ∧ Beside s s') ∨
      ∃ e now reply x x' events eff, a = .resume e now reply ∧ Resumed w s s' e x x' events eff ∧
        Answers w e x reply events eff := by
  rcases step_cases h with ⟨c, rfl, rfl⟩ | ⟨i, rfl, hw⟩ | ⟨i, rfl, hw⟩ | ⟨id, rfl, rfl⟩ | hr
  · exact Or.inl ⟨by simp, submit_beside hi c⟩
  · obtain ⟨b, x, o, -, -, -, -, rfl⟩ := wake_eq_some hw
    exact Or.inl ⟨by simp, Beside.of_execs rfl rfl rfl (fun _ => rfl) rfl⟩
  · exact Or.inl ⟨by simp, cancelTask_beside hw⟩
  · refine Or.inl ⟨by simp, ?_⟩
    have htab : (cancel s id).tokens = s.tokens ∧ (cancel s id).activeCommands = s.activeCommands ∧
        (cancel s id).log = s.log := by
      unfold cancel
      cases s.tokens id <;> exact ⟨rfl, rfl, rfl⟩
    exact Beside.of_execs htab.1 htab.2.1 htab.2.2 (cancelToken_isSome s _) (cancelToken_execs s _)
  · exact Or.inr hr

/-- An execution is left at its await by every step but its own. -/
theorem step_other [IntCast N] [Add N] [Sub N] {a : Action N} (hi : InFlight w s) (h : step w s a = some s')
    {e : ExecId} (ha : ∀ now reply, a ≠ .resume e now reply) {x : Execution N} (hx : s.execs e = some x) :
    ∃ x', s'.execs e = some x' ∧ x'.command = x.command ∧ x'.point = x.point := by
  rcases step_split hi h with ⟨-, hb⟩ | ⟨e', now, reply, y, y', events, eff, rfl, hr, -⟩
  · exact hb.kept e x hx
  · have hne : e ≠ e' := by
      rintro rfl
      exact ha now reply rfl
    exact ⟨x, by rw [hr.execs_of_ne hne, hx], rfl, rfl⟩

end BesideSteps

/-! ### `_tokens` and `_active_commands` -/

/-- The tokens are those of the executions on a backend, and the active command of a robot is one of these. -/
structure Registered (w : Wiring N) (s : State N) : Prop where
  tokens : ∀ id e, s.tokens id = some e ↔ ∃ c, InProgress s e c ∧ (w.command c).commandId = id
  tokenObject : ∀ e c, InProgress s e c → ∃ t, s.tokenObject e = some t
  unregistered : ∀ e x, s.execs e = some x → x.point.Live → x.point ≠ .backend → s.tokenObject e = none
  created : ∀ e t, s.tokenObject e = some t → ∃ x, s.execs e = some x
  active : ∀ r c, s.activeCommands r = some c → (w.command c).robotId = r ∧ ∃ e, InProgress s e c

section RegisteredSteps

variable {w : Wiring N} {s s' : State N}

theorem InProgress.live {e : ExecId} {c : CommandRef} (h : InProgress s e c) :
    ∃ x, s.execs e = some x ∧ x.command = c ∧ x.point.Live := by
  obtain ⟨x, hx, hc, hp⟩ := h
  exact ⟨x, hx, hc, by rw [hp]; exact live_backend⟩

/-- Commands in progress under one id are one execution. -/
theorem InProgress.unique (h : InFlight w s) {e e' : ExecId} {c c' : CommandRef} (hc : InProgress s e c)
    (hc' : InProgress s e' c') (hid : (w.command c).commandId = (w.command c').commandId) : e = e' ∧ c = c' := by
  obtain ⟨x, hx, rfl, hl⟩ := hc.live
  obtain ⟨x', hx', rfl, hl'⟩ := hc'.live
  obtain rfl := h.unique hx hx' hl hl' hid
  rw [hx, Option.some.injEq] at hx'
  exact ⟨rfl, by rw [hx']⟩

private theorem Registered.initial : Registered w (State.initial : State N) := by
  constructor <;> simp [State.initial, InProgress]

/-- A step that leaves the tables alone, and every execution on or off its backend. -/
private theorem Registered.of_same (h : Registered w s) (ht : s'.tokens = s.tokens)
    (ha : s'.activeCommands = s.activeCommands) (hp : ∀ e c, InProgress s' e c ↔ InProgress s e c)
    (ho : ∀ e, (s'.tokenObject e).isSome = (s.tokenObject e).isSome)
    (hx : ∀ e y, s.execs e = some y → ∃ y', s'.execs e = some y')
    (hl : ∀ e y', s'.execs e = some y' → y'.point.Live → y'.point ≠ .backend →
      (∃ y, s.execs e = some y ∧ y.point.Live ∧ y.point ≠ .backend) ∨ s.execs e = none) : Registered w s' := by
  constructor
  case tokens =>
    intro id e
    rw [ht]
    simp only [hp]
    exact h.tokens id e
  case tokenObject =>
    intro e c hc
    obtain ⟨t, ht⟩ := h.tokenObject e c ((hp e c).1 hc)
    exact Option.isSome_iff_exists.1 (by rw [ho, ht]; rfl)
  case unregistered =>
    intro e y' hy' hlive hne
    have hnone : s.tokenObject e = none := by
      rcases hl e y' hy' hlive hne with ⟨y, hy, hyl, hyn⟩ | hnew
      · exact h.unregistered e y hy hyl hyn
      · by_contra hsome
        obtain ⟨t, ht⟩ := Option.ne_none_iff_exists'.1 hsome
        obtain ⟨x, hx⟩ := h.created e t ht
        rw [hnew] at hx
        cases hx
    have hsame := ho e
    rw [hnone] at hsame
    simpa using hsame
  case created =>
    intro e t ht
    have hsame := ho e
    rw [ht] at hsame
    obtain ⟨t', ht'⟩ := Option.isSome_iff_exists.1 hsame.symm
    obtain ⟨y, hy⟩ := h.created e t' ht'
    exact hx e y hy
  case active =>
    intro r c hc
    rw [ha] at hc
    obtain ⟨hr, e, he⟩ := h.active r c hc
    exact ⟨hr, e, (hp e c).2 he⟩

private theorem Registered.beside (h : Registered w s) (hb : Beside s s') : Registered w s' := by
  refine h.of_same hb.tokens hb.activeCommands (fun _ _ => hb.inProgress_iff) hb.tokenObject ?_ ?_
  · intro e y hy
    obtain ⟨y', hy', -⟩ := hb.kept e y hy
    exact ⟨y', hy'⟩
  · intro e y' hy' hl hn
    rcases hb.new e y' hy' with ⟨y, hy, -, hpt⟩ | ⟨-, hnone, -⟩
    · exact Or.inl ⟨y, hy, by rw [← hpt]; exact hl, by rw [← hpt]; exact hn⟩
    · exact Or.inr hnone

/-- Who is in progress after a transition that neither enters nor leaves the backend. -/
theorem Resumed.inProgress_iff {e : ExecId} {x x' : Execution N} {events : List (Event N)} {eff : RegistryEffect N}
    (h : Resumed w s s' e x x' events eff) {e' : ExecId} {c : CommandRef} :
    InProgress s' e' c ↔ (e' = e ∧ x.command = c ∧ x'.point = .backend) ∨ (e' ≠ e ∧ InProgress s e' c) := by
  constructor
  · rintro ⟨y, hy, hc, hp⟩
    rcases h.exec_cases hy with ⟨rfl, rfl⟩ | ⟨hne, hy⟩
    · exact Or.inl ⟨rfl, by rw [← h.command_eq, hc], hp⟩
    · exact Or.inr ⟨hne, y, hy, hc, hp⟩
  · rintro (⟨rfl, hc, hp⟩ | ⟨hne, y, hy, hc, hp⟩)
    · exact ⟨x', h.execs_self, by rw [h.command_eq, hc], hp⟩
    · exact ⟨y, by rw [h.execs_of_ne hne, hy], hc, hp⟩

section Resume

variable {e : ExecId} {x x' : Execution N} {events : List (Event N)}

/-- An execution that still runs but is not on its backend shares its id with none that is. -/
theorem Resumed.not_inProgress {eff : RegistryEffect N} (hr : Resumed w s s' e x x' events eff) (hi : InFlight w s)
    (hp : x.point ≠ .backend) {e' : ExecId} {c : CommandRef} (hc : InProgress s e' c) :
    e' ≠ e ∧ (w.command c).commandId ≠ (w.command x.command).commandId := by
  obtain ⟨y, hy, rfl, hyp⟩ := hc
  have hne : e' ≠ e := by
    rintro rfl
    rw [hr.execs_eq, Option.some.injEq] at hy
    subst hy
    exact hp hyp
  refine ⟨hne, fun hid => hne ?_⟩
  exact hi.unique hy hr.execs_eq (by rw [hyp]; exact live_backend) hr.moves.live hid

private theorem Registered.resume_register {token : Token N} (h : Registered w s) (hi : InFlight w s)
    (hr : Resumed w s s' e x x' events (.register token)) (hp : x.point ≠ .backend) (hp' : x'.point = .backend) :
    Registered w s' := by
  have hin : ∀ e' c, InProgress s' e' c ↔ (e' = e ∧ x.command = c) ∨ (e' ≠ e ∧ InProgress s e' c) := by
    intro e' c
    rw [hr.inProgress_iff]
    simp [hp']
  constructor
  case tokens =>
    intro id e'
    rw [hr.tokens]
    simp only [hin, RegistryEffect.tokens]
    constructor
    · intro ht
      rcases update_eq_some.1 ht with ⟨rfl, rfl⟩ | ⟨hid, ht⟩
      · exact ⟨x.command, Or.inl ⟨rfl, rfl⟩, rfl⟩
      · obtain ⟨c, hc, hcid⟩ := (h.tokens id e').1 ht
        exact ⟨c, Or.inr ⟨(hr.not_inProgress hi hp hc).1, hc⟩, hcid⟩
    · rintro ⟨c, ⟨rfl, rfl⟩ | ⟨-, hc⟩, rfl⟩
      · exact Function.update_self _ _ _
      · exact update_eq_some.2 (Or.inr ⟨(hr.not_inProgress hi hp hc).2, (h.tokens _ e').2 ⟨c, hc, rfl⟩⟩)
  case tokenObject =>
    intro e' c hc
    rw [hr.tokenObject]
    rcases (hin e' c).1 hc with ⟨rfl, -⟩ | ⟨hne, hc⟩
    · exact ⟨token, Function.update_self _ _ _⟩
    · obtain ⟨t, ht⟩ := h.tokenObject e' c hc
      exact ⟨t, update_eq_some.2 (Or.inr ⟨hne, ht⟩)⟩
  case unregistered =>
    intro e' y hy hl hn
    rcases hr.exec_cases hy with ⟨rfl, rfl⟩ | ⟨hne, hy⟩
    · exact absurd hp' hn
    · rw [hr.tokenObject]
      exact (Function.update_of_ne hne _ _).trans (h.unregistered e' y hy hl hn)
  case created =>
    intro e' t ht
    rw [hr.tokenObject] at ht
    rcases update_eq_some.1 ht with ⟨rfl, -⟩ | ⟨hne, ht⟩
    · exact ⟨x', hr.execs_self⟩
    · obtain ⟨y, hy⟩ := h.created e' t ht
      exact ⟨y, by rw [hr.execs_of_ne hne, hy]⟩
  case active =>
    intro r c hc
    rw [hr.activeCommands] at hc
    rcases update_eq_some.1 hc with ⟨rfl, rfl⟩ | ⟨-, hc⟩
    · exact ⟨rfl, e, (hin e _).2 (Or.inl ⟨rfl, rfl⟩)⟩
    · obtain ⟨hrob, e', he'⟩ := h.active r c hc
      exact ⟨hrob, e', (hin e' c).2 (Or.inr ⟨(hr.not_inProgress hi hp he').1, he'⟩)⟩

private theorem Registered.resume_release (h : Registered w s) (hi : InFlight w s)
    (hr : Resumed w s s' e x x' events .release) (hp : x.point = .backend) (hp' : ¬ x'.point.Live) :
    Registered w s' := by
  have hself : InProgress s e x.command := ⟨x, hr.execs_eq, rfl, hp⟩
  have hin : ∀ e' c, InProgress s' e' c ↔ e' ≠ e ∧ InProgress s e' c := by
    intro e' c
    rw [hr.inProgress_iff]
    constructor
    · rintro (⟨-, -, hb⟩ | hc)
      · exact absurd (by rw [hb]; exact live_backend) hp'
      · exact hc
    · exact Or.inr
  constructor
  case tokens =>
    intro id e'
    rw [hr.tokens]
    simp only [hin, RegistryEffect.tokens]
    rw [update_none_eq_some]
    constructor
    · rintro ⟨hid, ht⟩
      obtain ⟨c, hc, hcid⟩ := (h.tokens id e').1 ht
      refine ⟨c, ⟨?_, hc⟩, hcid⟩
      rintro rfl
      obtain ⟨y, hy, rfl, -⟩ := hc
      rw [hr.execs_eq, Option.some.injEq] at hy
      subst hy
      exact hid hcid.symm
    · rintro ⟨c, ⟨hne, hc⟩, rfl⟩
      exact ⟨fun hid => hne (hc.unique hi hself hid).1, (h.tokens _ e').2 ⟨c, hc, rfl⟩⟩
  case tokenObject =>
    intro e' c hc
    rw [hr.tokenObject]
    exact h.tokenObject e' c ((hin e' c).1 hc).2
  case unregistered =>
    intro e' y hy hl hn
    rcases hr.exec_cases hy with ⟨rfl, rfl⟩ | ⟨-, hy⟩
    · exact absurd hl hp'
    · rw [hr.tokenObject]
      exact h.unregistered e' y hy hl hn
  case created =>
    intro e' t ht
    rw [hr.tokenObject] at ht
    obtain ⟨y, hy⟩ := h.created e' t ht
    obtain ⟨y', hy', -⟩ := hr.exec_kept hy
    exact ⟨y', hy'⟩
  case active =>
    intro r c hc
    -- what remains in the table is another command than the one released
    have hold : s.activeCommands r = some c ∧ c ≠ x.command := by
      rw [hr.activeCommands] at hc
      simp only [RegistryEffect.activeCommands] at hc
      split at hc
      · obtain ⟨hrob, hc⟩ := update_none_eq_some.1 hc
        refine ⟨hc, ?_⟩
        rintro rfl
        exact hrob (h.active r _ hc).1.symm
      · next hne =>
        refine ⟨hc, ?_⟩
        rintro rfl
        rw [(h.active r _ hc).1] at hne
        exact hne hc
    obtain ⟨hrob, e', he'⟩ := h.active r c hold.1
    refine ⟨hrob, e', (hin e' c).2 ⟨?_, he'⟩⟩
    rintro rfl
    obtain ⟨y, hy, rfl, -⟩ := he'
    rw [hr.execs_eq, Option.some.injEq] at hy
    exact hold.2 (by rw [hy])

/-- Away from the backend, a transition leaves alone who is in progress. -/
private theorem Resumed.inProgress_other {eff : RegistryEffect N} (hr : Resumed w s s' e x x' events eff)
    (hi : InFlight w s)
    (hp : x.point ≠ .backend) (hp' : x'.point ≠ .backend) {e' : ExecId} {c : CommandRef} :
    InProgress s' e' c ↔ InProgress s e' c := by
  rw [hr.inProgress_iff]
  constructor
  · rintro (⟨-, -, hb⟩ | ⟨-, hc⟩)
    · exact absurd hb hp'
    · exact hc
  · intro hc
    exact Or.inr ⟨(hr.not_inProgress hi hp hc).1, hc⟩

private theorem Resumed.live_before {eff : RegistryEffect N} (hr : Resumed w s s' e x x' events eff)
    (hp : x.point ≠ .backend)
    {e' : ExecId} {y' : Execution N} (hy' : s'.execs e' = some y') (hlive : y'.point.Live) (hn : y'.point ≠ .backend) :
    ∃ y, s.execs e' = some y ∧ y.point.Live ∧ y.point ≠ .backend := by
  rcases hr.exec_cases hy' with ⟨rfl, rfl⟩ | ⟨-, hy⟩
  · exact ⟨x, hr.execs_eq, hr.moves.live, hp⟩
  · exact ⟨y', hy, hlive, hn⟩

/-- A command that was only in the tables for a moment leaves them. -/
private theorem Registered.resume_transient {token : Token N} (h : Registered w s) (hi : InFlight w s)
    (hr : Resumed w s s' e x x' events (.transient token)) (hp : x.point ≠ .backend) (hp' : x'.point ≠ .backend)
    (hdone : ¬ x'.point.Live) : Registered w s' := by
  have hin : ∀ e' c, InProgress s' e' c ↔ InProgress s e' c := fun _ _ => hr.inProgress_other hi hp hp'
  constructor
  case tokens =>
    intro id e'
    rw [hr.tokens]
    simp only [hin, RegistryEffect.tokens]
    rw [update_none_eq_some, h.tokens]
    constructor
    · exact fun hc => hc.2
    · rintro ⟨c, hc, rfl⟩
      exact ⟨(hr.not_inProgress hi hp hc).2, c, hc, rfl⟩
  case tokenObject =>
    intro e' c hc
    rw [hr.tokenObject]
    have hc' := (hin e' c).1 hc
    obtain ⟨t, ht⟩ := h.tokenObject e' c hc'
    exact ⟨t, update_eq_some.2 (Or.inr ⟨(hr.not_inProgress hi hp hc').1, ht⟩)⟩
  case unregistered =>
    intro e' y' hy' hlive hn
    obtain ⟨y, hy, hyl, hyn⟩ := hr.live_before hp hy' hlive hn
    rw [hr.tokenObject]
    rcases hr.exec_cases hy' with ⟨rfl, rfl⟩ | ⟨hne, -⟩
    · exact absurd hlive hdone
    · exact (Function.update_of_ne hne _ _).trans (h.unregistered e' y hy hyl hyn)
  case created =>
    intro e' t ht
    rw [hr.tokenObject] at ht
    rcases update_eq_some.1 ht with ⟨rfl, -⟩ | ⟨-, ht⟩
    · exact ⟨x', hr.execs_self⟩
    · obtain ⟨y, hy⟩ := h.created e' t ht
      obtain ⟨y', hy', -⟩ := hr.exec_kept hy
      exact ⟨y', hy'⟩
  case active =>
    intro r c hc
    rw [hr.activeCommands] at hc
    obtain ⟨hrob, e', he'⟩ := h.active r c (update_none_eq_some.1 hc).2
    exact ⟨hrob, e', (hin e' c).2 he'⟩

private theorem Registered.resume_other {eff : RegistryEffect N} (h : Registered w s) (hi : InFlight w s)
    (hr : Resumed w s s' e x x' events eff) (hp : x.point ≠ .backend) (hp' : x'.point ≠ .backend)
    (heff : eff = .quiet ∨ (∃ token, eff = .transient token ∧ ¬ x'.point.Live) ∨ ∃ t, eff = .cancelToken t) :
    Registered w s' := by
  have hin : ∀ e' c, InProgress s' e' c ↔ InProgress s e' c := fun _ _ => hr.inProgress_other hi hp hp'
  have hl : ∀ e' y', s'.execs e' = some y' → y'.point.Live → y'.point ≠ .backend →
      (∃ y, s.execs e' = some y ∧ y.point.Live ∧ y.point ≠ .backend) ∨ s.execs e' = none :=
    fun _ _ hy' hlive hn => Or.inl (hr.live_before hp hy' hlive hn)
  have hx : ∀ e' y, s.execs e' = some y → ∃ y', s'.execs e' = some y' := by
    intro e' y hy
    obtain ⟨y', hy', -⟩ := hr.exec_kept hy
    exact ⟨y', hy'⟩
  rcases heff with rfl | ⟨token, rfl, hdone⟩ | ⟨t, rfl⟩
  · exact h.of_same hr.tokens hr.activeCommands hin (fun e' => by rw [hr.tokenObject]; rfl) hx hl
  · exact h.resume_transient hi hr hp hp' hdone
  · refine h.of_same hr.tokens hr.activeCommands hin ?_ hx hl
    intro e'
    have hsome := cancelToken_isSome s t e'
    rw [hr.tokenObject]
    cases t with
    | none => rfl
    | some t => exact hsome

private theorem Registered.resume {eff : RegistryEffect N} (h : Registered w s) (hi : InFlight w s)
    (hr : Resumed w s s' e x x' events eff) : Registered w s' := by
  rcases hr.moves.registry with ⟨token, rfl, hp, hp'⟩ | ⟨rfl, hp, hp'⟩ | ⟨hp, hp', heff⟩
  · exact h.resume_register hi hr hp hp'
  · exact h.resume_release hi hr hp hp'
  · exact h.resume_other hi hr hp hp' heff

end Resume

private theorem Registered.step [IntCast N] [Add N] [Sub N] {a : Action N} (h : Registered w s) (hi : InFlight w s)
    (ha : step w s a = some s') : Registered w s' := by
  rcases step_split hi ha with ⟨-, hb⟩ | ⟨e, now, reply, x, x', events, eff, rfl, hr, -⟩
  · exact h.beside hb
  · exact h.resume hi hr

end RegisteredSteps

/-! ### What no step takes back -/

/-- Executions, calls and events stay, an ended execution or call keeps its outcome, and a cancelled token stays
cancelled. -/
structure Later (s s' : State N) : Prop where
  execs : ∀ e x, s.execs e = some x →
    ∃ x', s'.execs e = some x' ∧ x'.command = x.command ∧ ∀ o, x.point = .done o → x'.point = .done o
  submits : ∀ i b, s.submits i = some b →
    ∃ b', s'.submits i = some b' ∧ b'.command = b.command ∧ b'.execution = b.execution ∧ b'.owner = b.owner ∧
      ∀ o, b.ended = some o → b'.ended = some o
  cancelled : ∀ e t, s.tokenObject e = some t → t.cancelled = true →
    ∃ t', s'.tokenObject e = some t' ∧ t'.cancelled = true
  log : s.log <+: s'.log

section LaterSteps

variable {w : Wiring N} {s s' s'' : State N}

private theorem Later.refl (s : State N) : Later s s where
  execs _ x hx := ⟨x, hx, rfl, fun _ h => h⟩
  submits _ b hb := ⟨b, hb, rfl, rfl, rfl, fun _ h => h⟩
  cancelled _ t ht hc := ⟨t, ht, hc⟩
  log := List.prefix_rfl

theorem Later.trans (h : Later s s') (h' : Later s' s'') : Later s s'' where
  execs e x hx := by
    obtain ⟨x₁, hx₁, hc₁, hd₁⟩ := h.execs e x hx
    obtain ⟨x₂, hx₂, hc₂, hd₂⟩ := h'.execs e x₁ hx₁
    exact ⟨x₂, hx₂, by rw [hc₂, hc₁], fun o ho => hd₂ o (hd₁ o ho)⟩
  submits i b hb := by
    obtain ⟨b₁, hb₁, hc₁, he₁, ho₁, hd₁⟩ := h.submits i b hb
    obtain ⟨b₂, hb₂, hc₂, he₂, ho₂, hd₂⟩ := h'.submits i b₁ hb₁
    exact ⟨b₂, hb₂, by rw [hc₂, hc₁], by rw [he₂, he₁], by rw [ho₂, ho₁], fun o ho => hd₂ o (hd₁ o ho)⟩
  cancelled e t ht hc := by
    obtain ⟨t₁, ht₁, hc₁⟩ := h.cancelled e t ht hc
    exact h'.cancelled e t₁ ht₁ hc₁
  log := h.log.trans h'.log

/-- `token.cancel()` takes no cancellation back. -/
private theorem cancelToken_later (s : State N) (token : Option ExecId) : Later s (s.cancelToken token) := by
  cases token with
  | none => exact Later.refl s
  | some t =>
    refine { Later.refl s with cancelled := ?_ }
    intro e t' ht hc
    by_cases hne : e = t
    · subst hne
      refine ⟨{ t' with cancelled := true }, ?_, rfl⟩
      simp [State.cancelToken, ht]
    · exact ⟨t', by simp [State.cancelToken, hne, ht], hc⟩

theorem Resumed.later {e : ExecId} {x x' : Execution N} {events : List (Event N)} {eff : RegistryEffect N}
    (hr : Resumed w s s' e x x' events eff) (h : Registered w s) : Later s s' where
  execs e' y hy := by
    by_cases hne : e' = e
    · subst hne
      rw [hr.execs_eq, Option.some.injEq] at hy
      subst hy
      refine ⟨x', hr.execs_self, hr.command_eq, fun o ho => ?_⟩
      have hl := hr.moves.live
      rw [ho] at hl
      exact absurd hl (not_live_done o)
    · exact ⟨y, by rw [hr.execs_of_ne hne, hy], rfl, fun _ ho => ho⟩
  submits i b hb := ⟨b, by rw [hr.submits, hb], rfl, rfl, rfl, fun _ ho => ho⟩
  cancelled e' t ht hc := by
    -- only an execution without a token registers one
    have hnew : x.point ≠ .backend → e' ≠ e := by
      rintro hp rfl
      rw [h.unregistered e' x hr.execs_eq hr.moves.live hp] at ht
      cases ht
    rw [hr.tokenObject]
    rcases hr.moves.registry with ⟨token, rfl, hp, -⟩ | ⟨rfl, -⟩ | ⟨hp, -, rfl | ⟨token, rfl, -⟩ | ⟨t', rfl⟩⟩
    · exact ⟨t, update_eq_some.2 (Or.inr ⟨hnew hp, ht⟩), hc⟩
    · exact ⟨t, ht, hc⟩
    · exact ⟨t, ht, hc⟩
    · exact ⟨t, update_eq_some.2 (Or.inr ⟨hnew hp, ht⟩), hc⟩
    · have hlater := (cancelToken_later s t').cancelled e' t ht hc
      cases t' <;> exact hlater
  log := by
    rw [hr.log]
    exact List.prefix_append _ _

/-- A call that has not ended is replaced by a later state of itself. -/
private theorem Later.of_submit {i : SubmitId} {b : Submit N} (b' : Submit N) (hb : s.submits i = some b)
    (hend : b.ended = none) (hcommand : b'.command = b.command) (hexecution : b'.execution = b.execution)
    (howner : b'.owner = b.owner) {f : String → Option ExecId} :
    Later s { s with submits := Function.update s.submits i (some b'), inFlight := f } := by
  refine { Later.refl s with submits := ?_ }
  intro j b₀ hb₀
  by_cases hne : j = i
  · subst hne
    rw [hb, Option.some.injEq] at hb₀
    subst hb₀
    exact ⟨b', Function.update_self _ _ _, hcommand, hexecution, howner, fun o ho => by rw [hend] at ho; cases ho⟩
  · exact ⟨b₀, update_eq_some.2 (Or.inr ⟨hne, hb₀⟩), rfl, rfl, rfl, fun _ ho => ho⟩

theorem step_later [IntCast N] [Add N] [Sub N] {a : Action N} (hi : InFlight w s) (h : Registered w s)
    (ha : step w s a = some s') : Later s s' := by
  rcases step_cases ha with ⟨c, rfl, rfl⟩ | ⟨i, rfl, hw⟩ | ⟨i, rfl, hw⟩ | ⟨id, rfl, rfl⟩ |
    ⟨e, now, reply, x, x', events, eff, rfl, hr, -⟩
  · have hsub : ∀ b', ∀ i b, s.submits i = some b →
        Function.update s.submits s.nextSubmit (some b') i = some b := by
      intro b' i b hb
      exact update_eq_some.2 (Or.inr ⟨Nat.ne_of_lt (hi.submitFresh i b hb), hb⟩)
    unfold submit
    dsimp only
    split
    · refine { Later.refl s with submits := ?_ }
      intro i b hb
      exact ⟨b, hsub _ i b hb, rfl, rfl, rfl, fun _ ho => ho⟩
    · refine { Later.refl s with execs := ?_, submits := ?_ }
      · intro e x hx
        exact ⟨x, update_eq_some.2 (Or.inr ⟨Nat.ne_of_lt (hi.execFresh e x hx), hx⟩), rfl, fun _ ho => ho⟩
      · intro i b hb
        exact ⟨b, hsub _ i b hb, rfl, rfl, rfl, fun _ ho => ho⟩
  · obtain ⟨b, x, o, hb, hend, -, -, rfl⟩ := wake_eq_some hw
    exact Later.of_submit { b with ended := some (if b.cancelRequested then .cancelled else o) } hb hend rfl rfl rfl
  · obtain ⟨b, x, hb, hend, hx, ⟨-, rfl⟩ | ⟨hl, rfl⟩⟩ := cancelTask_eq_some hw
    · exact Later.of_submit { b with cancelRequested := true } hb hend rfl rfl rfl
    · refine { Later.refl s with execs := ?_ }
      intro e y hy
      by_cases hne : e = b.execution
      · rw [hne, hx, Option.some.injEq] at hy
        subst hy hne
        exact ⟨_, Function.update_self _ _ _, rfl, fun _ ho => ho⟩
      · exact ⟨y, update_eq_some.2 (Or.inr ⟨hne, hy⟩), rfl, fun _ ho => ho⟩
  · exact cancelToken_later s _
  · exact hr.later h

end LaterSteps

/-! ### Runs -/

section Runs

variable [IntCast N] [Add N] [Sub N] {w : Wiring N} {s s' : State N} {as : List (Action N)}

/-- The invariants of the tables. -/
def Consistent (w : Wiring N) (s : State N) : Prop := InFlight w s ∧ Registered w s

omit [IntCast N] [Add N] [Sub N] in
theorem consistent_initial : Consistent w (State.initial : State N) := ⟨InFlight.initial, Registered.initial⟩

theorem Consistent.step {a : Action N} (h : Consistent w s) (ha : step w s a = some s') : Consistent w s' :=
  ⟨h.1.step ha, h.2.step h.1 ha⟩

/-- The tables agree in every reachable state. -/
theorem consistent_run (h : StepSystem.run (step w) State.initial as = some s) : Consistent w s :=
  StepSystem.run_invariant (fun _ _ _ hs ha => hs.step ha) consistent_initial h

theorem later_run (hs : Consistent w s) (h : StepSystem.run (step w) s as = some s') : Later s s' :=
  StepSystem.run_rel (P := Consistent w) (fun _ _ _ hs ha => hs.step ha) Later.refl
    (fun _ _ _ h h' => h.trans h') (fun _ _ _ hs ha => step_later hs.1 hs.2 ha) hs h

end Runs

end RosMcp
