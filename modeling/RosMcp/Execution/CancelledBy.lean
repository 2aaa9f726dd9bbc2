import RosMcp.Execution.StopPreempt

/-!
# Who cancels a command

`SimpleCancellationToken.cancel` has two callers: `cancel` of the manager, and a STOP that looks up the active command
of its robot.  Both find the token in `_tokens`, so they reach an execution only while it is on its backend.  Here are
all the ways in which a token gets cancelled in a run: somebody has asked for it (`AsksFor`) while its command was in
progress (`cancelled_iff_asked`).  In particular neither the end of a command nor the cancellation of a task, nor a STOP
of another robot, nor anything that happens to another command cancels a token.
-/

namespace RosMcp

variable {N : Type}

/-- The action asks for the command `c` to be cancelled: it is `cancel` with its id, or a STOP of its robot, with an id
of its own, that has been allowed while `c` is the active command. -/
inductive AsksFor (w : Wiring N) (s : State N) (c : CommandRef) : Action N → Prop
  | cancel : AsksFor w s c (.cancel (w.command c).commandId)
  | stop (e : ExecId) (x : Execution N) (now : N) (q : Option (Pose2D N)) (outcome : SafetyOutcome N)
      (selected : Except PyException (Option Backend)) (hx : s.execs e = some x) (hp : x.point = .check q)
      (hop : (w.command x.command).operation = .stop) (hallow : outcome.decision = .allow)
      (hrobot : (w.command x.command).robotId = (w.command c).robotId)
      (hid : (w.command x.command).commandId ≠ (w.command c).commandId)
      (hactive : s.activeCommands (w.command c).robotId = some c) :
      AsksFor w s c (.resume e now (.check (.ok outcome) selected))

section Steps

variable {w : Wiring N} {s s' : State N} {e : ExecId} {x x' : Execution N} {events : List (Event N)}
  {eff : RegistryEffect N} {now : N}

private theorem cancelled_congr (h : s'.tokenObject = s.tokenObject) (e : ExecId) : Cancelled s' e ↔ Cancelled s e := by
  unfold Cancelled
  rw [h]

/-- A new token is not cancelled. -/
private theorem cancelled_update_fresh {t : ExecId} {deadlineMonotonic : N}
    (h : s'.tokenObject = Function.update s.tokenObject t (some ⟨deadlineMonotonic, false⟩)) (hc : Cancelled s' e) :
    Cancelled s e := by
  obtain ⟨tk, htk, hc⟩ := hc
  rw [h] at htk
  rcases update_eq_some.1 htk with ⟨-, rfl⟩ | ⟨-, hold⟩
  · cases hc
  · exact ⟨tk, hold, hc⟩

/-- `token.cancel()` cancels the token it is called on, and no other. -/
private theorem cancelled_update_cancel {t : ExecId}
    (h : s'.tokenObject = Function.update s.tokenObject t ((s.tokenObject t).map ({ · with cancelled := true }))) :
    Cancelled s' e ↔ Cancelled s e ∨ e = t ∧ ∃ tk, s.tokenObject t = some tk := by
  unfold Cancelled
  rw [h]
  by_cases he : e = t
  · subst he
    rw [Function.update_self]
    cases s.tokenObject e with
    | none => simp
    | some tk => simp
  · rw [Function.update_of_ne he]
    simp [he]

/-- What a STOP finds is the execution of the active command. -/
theorem stopToken_eq_some (hs : Consistent w s) {command : SemanticCommand N}
    (h : stopToken w s command = some e) :
    ∃ c, InProgress s e c ∧ s.activeCommands command.robotId = some c ∧ (w.command c).robotId = command.robotId ∧
      (w.command c).commandId ≠ command.commandId := by
  obtain ⟨c, htarget, htoken⟩ := Option.bind_eq_some_iff.1 h
  obtain ⟨hslot, hid⟩ := Option.filter_eq_some_iff.1 htarget
  obtain ⟨hrobot, e', hin⟩ := hs.2.active _ c hslot
  obtain ⟨c', hin', hc'⟩ := (hs.2.tokens _ e).1 htoken
  obtain ⟨rfl, rfl⟩ := hin.unique hs.1 hin' hc'.symm
  exact ⟨c, hin, hslot, hrobot, of_decide_eq_true hid⟩

/-- What the lookup of a STOP is. -/
private theorem Moves.lookup {c : CommandRef} {p p' : Point N} (hm : Moves w s e c p p' events eff)
    (hkind : eff.kind = .looks) :
    ∃ q, p = .check q ∧ (w.command c).operation = .stop ∧ eff = .cancelToken (stopToken w s (w.command c)) ∧
      .checked e c q .allow ∈ events := by
  cases hm with
  | stopCalled q cid hop | stopNavigationCalled q cid fp hop | stopNoBackend q o hop =>
    exact ⟨q, rfl, hop, rfl, List.mem_cons_self ..⟩
  | _ => cases hkind

/-- A lookup cancels the execution of the active command. -/
private theorem resume_cancelled_of_looks (hs : Consistent w s) (hr : Resumed w s s' e x x' events eff)
    {reply : Reply N}
    (hans : Answers w e x reply events eff) (hkind : eff.kind = .looks) (t : ExecId) :
    Cancelled s' t ↔ Cancelled s t ∨ ∃ c, InProgress s t c ∧ AsksFor w s c (.resume e now reply) := by
  obtain ⟨q, hp, hop, rfl, hchecked⟩ := hr.moves.lookup hkind
  obtain ⟨outcome, selected, rfl, hallow⟩ := hans.decision _ _ _ hchecked
  have hlive : x.point.Live := hr.moves.live
  have hoff : x.point ≠ .backend := by rw [hp]; simp
  have htoken : Cancelled s' t ↔ Cancelled s t ∨ stopToken w s (w.command x.command) = some t := by
    have htable := hr.tokenObject
    cases hfound : stopToken w s (w.command x.command) with
    | none =>
      rw [hfound] at htable
      simpa using cancelled_congr htable t
    | some t' =>
      rw [hfound] at htable
      obtain ⟨c, hin, -⟩ := stopToken_eq_some hs hfound
      rw [cancelled_update_cancel htable, Option.some.injEq, eq_comm (a := t'),
        and_iff_left (hs.2.tokenObject t' c hin)]
  rw [htoken]
  refine or_congr_right ⟨?_, ?_⟩
  · intro hfound
    obtain ⟨c, hin, hslot, hrobot, hid⟩ := stopToken_eq_some hs hfound
    rw [← hrobot] at hslot
    exact ⟨c, hin, .stop e x now q outcome selected hr.execs_eq hp hop hallow hrobot.symm hid.symm hslot⟩
  · rintro ⟨c, hin, hasks⟩
    cases hasks with
    | stop _ y _ q' _ _ hy hp' hop' hallow' hrobot hid hslot =>
      obtain rfl : x = y := Option.some.inj (hr.execs_eq.symm.trans hy)
      rw [← hrobot] at hslot
      obtain ⟨t', hin', hfound⟩ := stopToken_of_active hs hr.execs_eq hlive hoff hslot
      obtain ⟨rfl, -⟩ := hin'.unique hs.1 hin rfl
      exact hfound

/-- `cancel` cancels the execution in progress under the id. -/
private theorem cancel_cancelled (hs : Consistent w s) (commandId : String) (t : ExecId) :
    Cancelled (cancel s commandId) t ↔
      Cancelled s t ∨ ∃ c, InProgress s t c ∧ AsksFor w s c (.cancel commandId) := by
  have hfound : s.tokens commandId = some t ↔ ∃ c, InProgress s t c ∧ AsksFor w s c (.cancel commandId) := by
    rw [hs.2.tokens]
    refine exists_congr fun c => and_congr_right fun _ => ⟨?_, ?_⟩
    · rintro rfl
      exact .cancel
    · intro hasks
      cases hasks with
      | cancel => rfl
  rw [← hfound]
  unfold cancel
  cases htoken : s.tokens commandId with
  | none =>
    have htable : (s.cancelToken none).tokenObject = s.tokenObject := rfl
    simpa using cancelled_congr htable t
  | some t' =>
    obtain ⟨c, hin, -⟩ := (hs.2.tokens _ t').1 htoken
    have htable : (s.cancelToken (some t')).tokenObject =
      Function.update s.tokenObject t' ((s.tokenObject t').map ({ · with cancelled := true })) := rfl
    rw [cancelled_update_cancel htable, Option.some.injEq, eq_comm (a := t'),
      and_iff_left (hs.2.tokenObject t' c hin)]

variable [IntCast N] [Add N] [Sub N]

/-- A command that is no STOP cancels nothing when it is dispatched. -/
private theorem dispatch_tokenObject (s : State N) (e : ExecId) (x : Execution N) (now : N) :
    (dispatch w s e x now).tokenObject =
      Function.update s.tokenObject e (some ⟨now + (w.command x.command).timeoutS, false⟩) := by
  unfold dispatch
  dsimp only
  split
  · split <;> rfl
  · split <;> rfl
  · rfl

private theorem executeChecked_tokenObject {q : Option (Pose2D N)} {outcome : SafetyOutcome N}
    {selected : Except PyException (Option Backend)}
    (hkind : (Reply.check (.ok outcome) selected).kind w x = .registers) :
    (executeChecked w s e x now q outcome selected).tokenObject =
      Function.update s.tokenObject e (some ⟨now + (w.command x.command).timeoutS, false⟩) := by
  unfold Reply.kind at hkind
  dsimp only at hkind
  split at hkind
  · next hallow =>
    split at hkind
    · cases hkind
    · next hop =>
      split at hkind
      · next b =>
        unfold executeChecked
        rw [hallow]
        dsimp only
        rw [if_neg hop, dispatch_tokenObject]
        rfl
      · cases hkind
  · cases hkind

/-- A registration leaves what is cancelled alone. -/
private theorem resume_cancelled_of_registers {reply : Reply N} (h : resume w s e now reply = some s')
    (hx : s.execs e = some x) (hkind : reply.kind w x = .registers) {t : ExecId} (hc : Cancelled s' t) :
    Cancelled s t := by
  cases resume_goes_of h hx with
  | checked q outcome selected hp => exact cancelled_update_fresh (executeChecked_tokenObject hkind) hc
  | cancelled | started | handled | posed | returned | backendRaised | timedOut | backendCancelled | stopped
    | cancelledAll => cases hkind
  | raised hraises => cases hraises <;> cases hkind

/-- What one step cancels: an execution in progress, for whose command it asks. -/
private theorem step_cancelled (hs : Consistent w s) {a : Action N} (ha : step w s a = some s') (t : ExecId) :
    Cancelled s' t ↔ Cancelled s t ∨ ∃ c, InProgress s t c ∧ AsksFor w s c a := by
  have hlater := step_later hs.1 hs.2 ha
  have quiet (h : ∀ c, ¬ AsksFor w s c a) (hold : Cancelled s' t → Cancelled s t) :
      Cancelled s' t ↔ Cancelled s t ∨ ∃ c, InProgress s t c ∧ AsksFor w s c a := by
    refine ⟨fun hc => .inl (hold hc), ?_⟩
    rintro (hc | ⟨c, -, hasks⟩)
    · exact hlater.cancelled_of hc
    · exact absurd hasks (h c)
  rcases step_cases ha with ⟨c, rfl, rfl⟩ | ⟨i, rfl, hw⟩ | ⟨i, rfl, hw⟩ | ⟨id, rfl, rfl⟩ |
    ⟨e, now, reply, x, x', events, eff, rfl, hr, hans⟩
  · refine quiet (fun c hasks => by cases hasks) (cancelled_congr ?_ t).1
    unfold submit
    dsimp only
    split <;> rfl
  · obtain ⟨b, x, o, -, -, -, -, rfl⟩ := wake_eq_some hw
    exact quiet (fun c hasks => by cases hasks) (cancelled_congr rfl t).1
  · obtain ⟨b, x, -, -, -, ⟨-, rfl⟩ | ⟨-, rfl⟩⟩ := cancelTask_eq_some hw <;>
      exact quiet (fun c hasks => by cases hasks) (cancelled_congr rfl t).1
  · exact cancel_cancelled hs id t
  · by_cases hlooks : eff.kind = .looks
    · exact resume_cancelled_of_looks hs hr hans hlooks t
    · refine quiet ?_ ?_
      · intro c hasks
        cases hasks with
        | stop _ y _ q outcome selected hy hp hop hallow =>
          obtain rfl : x = y := Option.some.inj (hr.execs_eq.symm.trans hy)
          exact hlooks (by simp [hans.kind, Reply.kind, hallow, hop])
      · cases eff with
        | quiet | release => exact (cancelled_congr hr.tokenObject t).1
        | register | transient => exact resume_cancelled_of_registers ha hr.execs_eq hans.kind.symm
        | cancelToken => exact absurd rfl hlooks

end Steps

section Runs

variable [IntCast N] [Add N] [Sub N] {w : Wiring N} {s : State N} {as : List (Action N)}

/-- In every run, the token of an execution is cancelled exactly when some step has asked for its command, at a time
when that was in progress on its backend. -/
theorem cancelled_iff_asked (h : StepSystem.run (step w) State.initial as = some s) (e : ExecId) :
    Cancelled s e ↔ ∃ as₁ a as₂ s₁ c, as = as₁ ++ a :: as₂ ∧ StepSystem.run (step w) State.initial as₁ = some s₁ ∧
      InProgress s₁ e c ∧ AsksFor w s₁ c a := by
  constructor
  · intro hc
    have hnew : ¬ Cancelled (State.initial : State N) e := by
      rintro ⟨t, ht, -⟩
      cases ht
    obtain ⟨as₁, a, as₂, s₁, s₂, rfl, hr₁, ha, hold, hcancelled⟩ :=
      StepSystem.run_begins (R := fun s => Cancelled s e) hnew h hc
    rcases (step_cancelled (consistent_run hr₁) ha e).1 hcancelled with hbefore | ⟨c, hin, hasks⟩
    · exact absurd hbefore hold
    · exact ⟨as₁, a, as₂, s₁, c, rfl, hr₁, hin, hasks⟩
  · rintro ⟨as₁, a, as₂, s₁, c, rfl, hr₁, hin, hasks⟩
    obtain ⟨t₁, ht₁, hrest⟩ := StepSystem.run_append.1 h
    obtain rfl : s₁ = t₁ := Option.some.inj (hr₁.symm.trans ht₁)
    obtain ⟨s₂, ha, hr₂⟩ := StepSystem.run_cons.1 hrest
    have hs := consistent_run hr₁
    exact (later_run (hs.step ha) hr₂).cancelled_of ((step_cancelled hs ha e).2 (.inr ⟨c, hin, hasks⟩))

end Runs

/-- The STOP of the sample has asked for the first move. -/
theorem cancelled_iff_asked_sample : ∃ as₁ a as₂ s₁ c,
    (.submit 0 :: sampleDispatch ℤ 0) ++ .submit 2 :: sampleStop ℤ 1 1 = as₁ ++ a :: as₂ ∧
      StepSystem.run (step (sampleWiring ℤ)) State.initial as₁ = some s₁ ∧ InProgress s₁ 0 c ∧
      AsksFor (sampleWiring ℤ) s₁ c a := by
  have hrun : StepSystem.run (step (sampleWiring ℤ)) State.initial
      ((.submit 0 :: sampleDispatch ℤ 0) ++ .submit 2 :: sampleStop ℤ 1 1) = some sampleStopped := rfl
  exact (cancelled_iff_asked hrun 0).1 ⟨_, rfl, rfl⟩

end RosMcp
