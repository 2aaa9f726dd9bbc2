import RosMcp.Lib.Spaced
import RosMcp.Navigation.CancelAll

/-!
# How long a call of `navigate` goes on

The only loop of `navigate` polls the result task.  A poll that goes on has found the token neither cancelled nor past a
deadline; every other turn of the coroutine brings it nearer to its end (`NavCall.resume_advances`).  A turn takes as
many resumptions as there are awaits behind it (`NavCall.resumptions`): two in `_bridge_rclpy_future`, and one more in
`wait_for` as it is up to Python 3.11.  So once the token is cancelled, or a deadline has passed, a call is resumed at
most eleven times more, and with sleeps of at least the poll interval it is resumed a bounded number of times in all
(`navigate_turns_bounded`), whatever the action server and the ROS thread do.
-/

namespace RosMcp

/-! ### Turns of the coroutine -/

section Stages

variable {N : Type}

/-- The events that resume the coroutine; the others belong to its result task and to the caller of its token. -/
def NavEvent.isTurn : NavEvent N → Bool
  | .tokenCancelled | .resultTaskStarted | .resultTaskEnded => false
  | _ => true

/-- How many awaits a turn leaves behind, at most, on Python 3.10 to 3.12. -/
def NavCall.resumptions (call : NavCall N) : NavEvent N → ℕ
  | .tokenCancelled | .resultTaskStarted | .resultTaskEnded => 0
  -- `_bridge_rclpy_future` awaits the bridged call, and then the future of rclpy
  | .goalAnswered => 2
  -- up to 3.11 `wait_for` also awaits a result task that is done
  | .cancelAnswered => if call.resultTask.isDone then 3 else 2
  -- up to 3.11 `wait_for` also awaits the result task that it has cancelled
  | .resultWaitExpired => 2
  | .taskCancelled =>
    match call.point with
    | .sending | .cancelling _ | .awaitingResult _ => 2
    | _ => 1
  | _ => 1

/-- How often a call is still resumed after an await, at most, apart from polls that go on. -/
def NavPoint.stage : NavPoint N → ℕ
  | .ensuringClient => 11
  | .waitingForServer => 10
  | .localizing => 9
  | .sending => 8
  | .sleeping => 6
  | .cancelling _ => 5
  | .awaitingResult _ => 3
  | .resolvingFinalPose _ => 1
  | .ended _ => 0

/-- What no step changes in a call, and a token that stays cancelled. -/
structure NavCall.Follows (call call' : NavCall N) : Prop where
  command : call'.command = call.command
  startMonotonic : call'.startMonotonic = call.startMonotonic
  tokenDeadline : call'.tokenDeadline = call.tokenDeadline
  tokenCancelled : call.tokenCancelled = true → call'.tokenCancelled = true

private theorem NavCall.Follows.refl (call : NavCall N) : call.Follows call := ⟨rfl, rfl, rfl, id⟩

private theorem NavCall.resumptions_of_task {call : NavCall N} {e : NavEvent N} (he : e.isTurn = false) :
    call.resumptions e = 0 := by
  cases e <;> first | rfl | cases he

variable [IntCast N] [Add N] [Sub N] [Mul N] [PyMath N] [LE N] [DecidableLE N]

/-- A poll at the time `now` goes on. -/
def NavCall.goesOn (call : NavCall N) (now : N) : Bool :=
  match call.point with
  | .sleeping => !call.resultTask.isDone && (call.earlyExit now).isNone
  | _ => false

/-- The token is cancelled, or a deadline has passed. -/
def NavCall.Expired (call : NavCall N) (now : N) : Prop := call.earlyExit now ≠ none

/-- What a turn does to the stage. -/
structure NavCall.Advances (call : NavCall N) (now : N) (e : NavEvent N) (call' : NavCall N) : Prop where
  follows : call.Follows call'
  stage : call'.point.stage + call.resumptions e ≤ call.point.stage ∨
    e = .slept ∧ call.goesOn now = true ∧ call'.point.stage = call.point.stage

variable {baseFrame : String} {call : NavCall N} {now : N} {tn : NavTurn N}

omit [IntCast N] [Sub N] [Mul N] [PyMath N] in
/-- The head of the loop, from the first time on. -/
private theorem NavCall.loopHead_stage (call : NavCall N) (now : N) :
    call.Follows (call.loopHead now).call ∧ ((call.loopHead now).call.point.stage ≤ 5 ∨
      (call.loopHead now).call.point.stage = 6 ∧ call.resultTask.isDone = false ∧ call.earlyExit now = none) := by
  unfold NavCall.loopHead
  by_cases hdone : call.resultTask.isDone = true
  · rw [if_pos hdone]
    exact ⟨⟨rfl, rfl, rfl, id⟩, .inl (by simp [NavCall.leaveLoop, NavPoint.stage])⟩
  · rw [if_neg hdone]
    cases hexit : call.earlyExit now with
    | some outcome => exact ⟨⟨rfl, rfl, rfl, id⟩, .inl (by simp [NavCall.submit, NavPoint.stage])⟩
    | none => exact ⟨⟨rfl, rfl, rfl, id⟩, .inr ⟨rfl, by simpa using hdone, rfl⟩⟩

omit [IntCast N] [Add N] [Sub N] [Mul N] [PyMath N] [LE N] [DecidableLE N] in
private theorem NavCall.resultReady_stage {outcome : EarlyExit} (h : call.resultReady outcome = some tn) :
    call.Follows tn.call ∧ tn.call.point.stage ≤ 1 ∧ call.resultTask.isDone = true := by
  unfold NavCall.resultReady at h
  split at h
  · next htask =>
    cases h
    exact ⟨⟨rfl, rfl, rfl, id⟩, le_rfl, by rw [htask]; rfl⟩
  · next htask =>
    cases h
    exact ⟨⟨rfl, rfl, rfl, id⟩, Nat.zero_le 1, by rw [htask]; rfl⟩
  · next htask =>
    cases h
    exact ⟨⟨rfl, rfl, rfl, id⟩, Nat.zero_le 1, by rw [htask]; rfl⟩
  · cases h

/-! #### One lemma for each await -/

omit [IntCast N] [Sub N] [Mul N] [PyMath N] in
/-- A turn that moves on. -/
private theorem NavCall.advances_of_le {e : NavEvent N} {call' : NavCall N} (hfollows : call.Follows call')
    (hle : call'.point.stage + call.resumptions e ≤ call.point.stage) : call.Advances now e call' :=
  ⟨hfollows, .inl hle⟩

omit [IntCast N] [Sub N] [Mul N] [PyMath N] in
/-- A turn with which the call ends. -/
private theorem NavCall.endWith_advances {e : NavEvent N} (o : NavOutcome N)
    (hle : call.resumptions e ≤ call.point.stage) : call.Advances now e (call.endWith o).call :=
  NavCall.advances_of_le ⟨rfl, rfl, rfl, id⟩ (by simpa [NavCall.endWith, NavPoint.stage] using hle)

private theorem NavCall.clientCreated_advances (h : call.resume baseFrame now .clientCreated = some tn) :
    call.Advances now .clientCreated tn.call := by
  simp only [NavCall.resume] at h
  split at h
  · next hpoint hreply =>
    cases h
    refine NavCall.advances_of_le ⟨rfl, rfl, rfl, id⟩ ?_
    rw [hpoint]
    exact le_rfl
  · next hpoint hreply =>
    cases h
    exact NavCall.endWith_advances _ (by rw [hpoint]; exact Nat.le_add_left 1 10)
  · cases h

private theorem NavCall.serverWaited_advances {localization : Bool}
    (h : call.resume baseFrame now (.serverWaited localization) = some tn) :
    call.Advances now (.serverWaited localization) tn.call := by
  have ends : ∀ o, call.point = .waitingForServer →
      call.Advances now (.serverWaited localization) (call.endWith o).call := fun o hpoint =>
    NavCall.endWith_advances o (by rw [hpoint]; exact Nat.le_add_left 1 9)
  simp only [NavCall.resume] at h
  split at h
  · next ready hpoint hreply =>
    split at h
    · cases h
      exact ends _ hpoint
    split at h
    · cases h
      exact ends _ hpoint
    · cases h
      refine NavCall.advances_of_le ⟨rfl, rfl, rfl, id⟩ ?_
      rw [hpoint]
      exact le_rfl
  · next hpoint hreply =>
    cases h
    exact ends _ hpoint
  · cases h

private theorem NavCall.localized_advances {r : Except PyException (TransformResult N)}
    {goalMessage : Except PyException Unit} (h : call.resume baseFrame now (.localized r goalMessage) = some tn) :
    call.Advances now (.localized r goalMessage) tn.call := by
  have ends : ∀ o, call.point = .localizing →
      call.Advances now (.localized r goalMessage) (call.endWith o).call := fun o hpoint =>
    NavCall.endWith_advances o (by rw [hpoint]; exact Nat.le_add_left 1 8)
  simp only [NavCall.resume] at h
  split at h
  · next hpoint =>
    cases h
    exact ends _ hpoint
  · next hpoint =>
    split at h
    · cases h
      exact ends _ hpoint
    split at h
    · cases h
      exact ends _ hpoint
    · cases h
      refine NavCall.advances_of_le ⟨rfl, rfl, rfl, id⟩ ?_
      rw [hpoint]
      exact le_rfl
  · cases h

/-- The two awaits of the goal, and the first time that the head of the loop is reached. -/
private theorem NavCall.goalAnswered_advances (h : call.resume baseFrame now .goalAnswered = some tn) :
    call.Advances now .goalAnswered tn.call := by
  simp only [NavCall.resume] at h
  split at h
  · next accepted hpoint hreply =>
    split at h
    · cases h
      exact NavCall.endWith_advances _ (by rw [hpoint]; exact Nat.le_add_left 2 6)
    · cases h
      obtain ⟨hfollows, hstage⟩ := NavCall.loopHead_stage ({ call with resultTask := .scheduled } : NavCall N) now
      refine NavCall.advances_of_le
        ⟨hfollows.command, hfollows.startMonotonic, hfollows.tokenDeadline, hfollows.tokenCancelled⟩ ?_
      rw [hpoint]
      refine Nat.add_le_add_right (m := 6) ?_ 2
      rcases hstage with hle | ⟨heq, -⟩
      · exact hle.trans (Nat.le_succ 5)
      · exact heq.le
  · next hpoint hreply =>
    cases h
    exact NavCall.endWith_advances _ (by rw [hpoint]; exact Nat.le_add_left 2 6)
  · cases h

/-- A poll moves on, or it goes on. -/
private theorem NavCall.slept_advances (h : call.resume baseFrame now .slept = some tn) :
    call.Advances now .slept tn.call := by
  simp only [NavCall.resume] at h
  split at h
  · next hpoint =>
    cases h
    obtain ⟨hfollows, hstage⟩ := call.loopHead_stage now
    refine ⟨hfollows, ?_⟩
    rw [hpoint]
    rcases hstage with hle | ⟨heq, hrunning, hexit⟩
    · exact .inl (Nat.add_le_add_right hle 1)
    · refine .inr ⟨rfl, ?_, heq⟩
      simp [NavCall.goesOn, hpoint, hrunning, hexit]
  · cases h

private theorem NavCall.cancelAnswered_advances (h : call.resume baseFrame now .cancelAnswered = some tn) :
    call.Advances now .cancelAnswered tn.call := by
  simp only [NavCall.resume] at h
  split at h
  · next outcome reply hpoint hreply =>
    split at h
    · obtain ⟨hfollows, hstage, hdone⟩ := NavCall.resultReady_stage h
      refine NavCall.advances_of_le hfollows ?_
      have hresumptions : call.resumptions .cancelAnswered = 3 := if_pos hdone
      rw [hpoint, hresumptions]
      exact (Nat.add_le_add_right hstage 3).trans (Nat.le_succ 4)
    · next hdone =>
      cases h
      refine NavCall.advances_of_le ⟨rfl, rfl, rfl, id⟩ ?_
      have hresumptions : call.resumptions .cancelAnswered = 2 := if_neg hdone
      rw [hpoint, hresumptions]
      exact le_rfl
  · cases h

private theorem NavCall.resultAwaited_advances (h : call.resume baseFrame now .resultAwaited = some tn) :
    call.Advances now .resultAwaited tn.call := by
  simp only [NavCall.resume] at h
  split at h
  · next outcome hpoint =>
    obtain ⟨hfollows, hstage, -⟩ := NavCall.resultReady_stage h
    refine NavCall.advances_of_le hfollows ?_
    rw [hpoint]
    exact (Nat.add_le_add_right hstage 1).trans (Nat.le_succ 2)
  · cases h

private theorem NavCall.resultWaitExpired_advances (h : call.resume baseFrame now .resultWaitExpired = some tn) :
    call.Advances now .resultWaitExpired tn.call := by
  simp only [NavCall.resume] at h
  split at h
  · next outcome hpoint =>
    split at h
    · cases h
    · cases h
      refine NavCall.advances_of_le ⟨rfl, rfl, rfl, id⟩ ?_
      rw [hpoint]
      exact le_rfl
  · cases h

private theorem NavCall.finalPoseRead_advances {r : Except PyException (TransformResult N)} {stamp : N}
    (h : call.resume baseFrame now (.finalPoseRead r stamp) = some tn) :
    call.Advances now (.finalPoseRead r stamp) tn.call := by
  have ends : ∀ o outcome, call.point = .resolvingFinalPose outcome →
      call.Advances now (.finalPoseRead r stamp) (call.endWith o).call := fun o outcome hpoint =>
    NavCall.endWith_advances o (by rw [hpoint]; exact le_rfl)
  simp only [NavCall.resume] at h
  split at h
  · next outcome hpoint =>
    cases h
    exact ends _ _ hpoint
  · next outcome result hpoint =>
    split at h
    · cases h
      exact ends _ _ hpoint
    · cases h
      exact ends _ _ hpoint
  · cases h

private theorem NavCall.taskCancelled_advances (h : call.resume baseFrame now .taskCancelled = some tn) :
    call.Advances now .taskCancelled tn.call := by
  have hle : call.point.isEnded = false → call.resumptions .taskCancelled ≤ call.point.stage := by
    intro hlive
    unfold NavCall.resumptions
    cases hpoint : call.point with
    | ended o =>
      rw [hpoint] at hlive
      cases hlive
    | _ => simp [NavPoint.stage]
  simp only [NavCall.resume] at h
  split at h
  · cases h
  · next outcome hpoint =>
    cases h
    refine NavCall.advances_of_le ⟨rfl, rfl, rfl, id⟩ ?_
    simpa [NavCall.endWith, NavPoint.stage] using hle (by rw [hpoint]; rfl)
  · next hlive _ =>
    cases h
    refine NavCall.endWith_advances _ (hle ?_)
    cases hp : call.point <;> first | rfl | exact absurd hp (hlive _)

/-- Every turn of the coroutine brings the call nearer to its end by the resumptions that it takes, but for a poll that
goes on. -/
private theorem NavCall.resume_advances {e : NavEvent N} (he : e.isTurn = true)
    (h : call.resume baseFrame now e = some tn) : call.Advances now e tn.call := by
  cases e with
  | tokenCancelled | resultTaskStarted | resultTaskEnded => cases he
  | clientCreated => exact NavCall.clientCreated_advances h
  | serverWaited => exact NavCall.serverWaited_advances h
  | localized => exact NavCall.localized_advances h
  | goalAnswered => exact NavCall.goalAnswered_advances h
  | slept => exact NavCall.slept_advances h
  | cancelAnswered => exact NavCall.cancelAnswered_advances h
  | resultAwaited => exact NavCall.resultAwaited_advances h
  | resultWaitExpired => exact NavCall.resultWaitExpired_advances h
  | finalPoseRead => exact NavCall.finalPoseRead_advances h
  | taskCancelled => exact NavCall.taskCancelled_advances h

/-- The other events leave the call at its await. -/
private theorem NavCall.resume_task {baseFrame : String} {e : NavEvent N} (he : e.isTurn = false)
    (h : call.resume baseFrame now e = some tn) : call.Follows tn.call ∧ tn.call.point = call.point := by
  cases e with
  | tokenCancelled =>
    cases h
    exact ⟨⟨rfl, rfl, rfl, fun _ => rfl⟩, rfl⟩
  | resultTaskStarted =>
    simp only [NavCall.resume] at h
    split at h
    · cases h
      exact ⟨⟨rfl, rfl, rfl, id⟩, rfl⟩
    · cases h
  | resultTaskEnded =>
    simp only [NavCall.resume] at h
    split at h
    · cases h
      exact ⟨⟨rfl, rfl, rfl, id⟩, rfl⟩
    · cases h
  | _ => cases he

end Stages

/-! ### The steps of the plugin -/

namespace Nav2

variable {N : Type}

/-- The times of the turns of the call `c`, each as often as the coroutine is resumed for it. -/
def turnTimes (c : NavId) (s : Nav2 N) : Nav2Action N → List N
  | .resume c' e =>
    if c' = c then
      match s.calls c with
      | some call => List.replicate (call.resumptions e) s.now
      | none => []
    else []
  | _ => []

/-- The call `c` is the same, apart from what arrives from the ROS thread and from the tasks around it. -/
def KeepsWaiting (c : NavId) (call : NavCall N) (t : Nav2 N) : Prop :=
  ∃ call', t.calls c = some call' ∧ call.Follows call' ∧ call'.point = call.point

section Records

variable {s : Nav2 N} {c : NavId} {call : NavCall N}

private theorem turnTimes_resume (hcall : s.calls c = some call) (e : NavEvent N) :
    turnTimes c s (.resume c e) = List.replicate (call.resumptions e) s.now := by
  simp only [turnTimes, if_true, hcall]

private theorem keepsWaiting_of_eq {t : Nav2 N} (hcall : s.calls c = some call) (h : t.calls c = s.calls c) :
    KeepsWaiting c call t := ⟨call, h.trans hcall, .refl call, rfl⟩

private theorem keepsWaiting_modifyCall (hcall : s.calls c = some call) (c' : NavId) {f : NavCall N → NavCall N}
    (hf : ∀ call, call.Follows (f call) ∧ (f call).point = call.point) : KeepsWaiting c call (s.modifyCall c' f) := by
  by_cases hc : c = c'
  · subst hc
    refine ⟨f call, ?_, (hf call).1, (hf call).2⟩
    rw [modifyCall_calls_self, hcall]
    rfl
  · exact keepsWaiting_of_eq hcall (modifyCall_calls_ne s f hc)

private theorem keepsWaiting_answer (hcall : s.calls c = some call) (c' : NavId) (r : Except PyException Bool) :
    KeepsWaiting c call (s.answer c' r) :=
  keepsWaiting_modifyCall hcall c' fun _ => ⟨⟨rfl, rfl, rfl, id⟩, rfl⟩

/-- The ROS thread does not move a call. -/
private theorem keepsWaiting_execute (hcall : s.calls c = some call) (outcome : Except PyException Bool)
    (item : RosItem) :
    KeepsWaiting c call (s.execute outcome item) := by
  cases item with
  | cancelActive k =>
    refine keepsWaiting_of_eq hcall ?_
    unfold execute
    dsimp only
    split <;> rfl
  | job c' job =>
    cases job with
    | createClient | waitForServer => exact keepsWaiting_answer hcall c' outcome
    | getResult => exact keepsWaiting_modifyCall hcall c' fun _ => ⟨⟨rfl, rfl, rfl, id⟩, rfl⟩
    | sendGoal | cancelGoal =>
      cases outcome with
      | ok b => exact keepsWaiting_of_eq hcall rfl
      | error exc => exact keepsWaiting_answer hcall c' _

end Records

variable [IntCast N] [Add N] [Sub N] [Mul N] [PyMath N] [LE N] [DecidableLE N]

/-- The times of the polls of the call `c` that go on. -/
def pollTimes (c : NavId) (s : Nav2 N) : Nav2Action N → List N
  | .resume c' .slept => if c' = c ∧ (s.calls c).any (·.goesOn s.now) = true then [s.now] else []
  | _ => []

section Steps

variable {s t : Nav2 N} {a : Nav2Action N} {c : NavId} {call : NavCall N}

omit [IntCast N] [Sub N] [Mul N] [PyMath N] in
private theorem pollTimes_of_turnTimes (h : turnTimes c s a = []) : pollTimes c s a = [] := by
  cases a with
  | resume c' e =>
    cases e with
    | slept =>
      refine if_neg ?_
      rintro ⟨rfl, hgoes⟩
      obtain ⟨call, hcall, -⟩ := (Option.any_eq_true _ _).1 hgoes
      rw [turnTimes_resume hcall] at h
      cases h
    | _ => rfl
  | _ => rfl

/-- A step leaves a call at its await, or it is a turn of the call. -/
private theorem step_call (h : s.step a = some t) (hcall : s.calls c = some call) :
    turnTimes c s a = [] ∧ KeepsWaiting c call t ∨
      ∃ e call', a = .resume c e ∧ t.calls c = some call' ∧ call.Advances s.now e call' := by
  cases step_transition h with
  | ticked | cancelAllReturned | cancelAllCancelled | cancelAllAnswered | decided | finished =>
    exact .inl ⟨rfl, keepsWaiting_of_eq hcall rfl⟩
  | navigated c' command tokenDeadline knownFrames hnone =>
    refine .inl ⟨rfl, keepsWaiting_of_eq hcall (turn_calls_ne s _ ?_)⟩
    rintro rfl
    cases hcall.symm.trans hnone
  | @resumed c' e call' tn hcall' hturn =>
    by_cases hc : c = c'
    · subst hc
      obtain rfl : call = call' := Option.some.inj (hcall.symm.trans hcall')
      have hnext : (s.turn c tn).calls c = some tn.call := turn_calls_self s c tn
      cases he : e.isTurn with
      | true => exact .inr ⟨e, tn.call, rfl, hnext, NavCall.resume_advances he hturn⟩
      | false =>
        obtain ⟨hfollows, hpoint⟩ := NavCall.resume_task he hturn
        refine .inl ⟨?_, tn.call, hnext, hfollows, hpoint⟩
        rw [turnTimes_resume hcall, NavCall.resumptions_of_task he]
        rfl
    · exact .inl ⟨if_neg (Ne.symm hc), keepsWaiting_of_eq hcall (turn_calls_ne s _ hc)⟩
  | cancelAllBegun k hnone =>
    refine .inl ⟨rfl, keepsWaiting_of_eq hcall ?_⟩
    unfold beginCancelAll
    split <;> rfl
  | @ran outcome item rest _ =>
    have hcall' : ({ s with workQueue := rest } : Nav2 N).calls c = some call := hcall
    exact .inl ⟨rfl, keepsWaiting_execute hcall' outcome item⟩
  | goalFailed | goalAnswered | cancelAnswered => exact .inl ⟨rfl, keepsWaiting_answer hcall _ _⟩
  | reported | fed => exact .inl ⟨rfl, keepsWaiting_modifyCall hcall _ fun _ => ⟨⟨rfl, rfl, rfl, id⟩, rfl⟩⟩

/-- Time does not run backwards. -/
private theorem step_now {s t : Nav2 ℝ} {a : Nav2Action ℝ} (h : s.step a = some t) : s.now ≤ t.now := by
  cases step_transition h with
  | ticked now hnow => exact hnow
  | cancelAllBegun k hnone =>
    unfold beginCancelAll
    split <;> exact le_rfl
  | @ran outcome item rest _ =>
    refine le_of_eq ?_
    cases item with
    | cancelActive k =>
      unfold execute
      dsimp only
      split <;> rfl
    | job c job => cases job <;> first | rfl | cases outcome <;> rfl
  | _ => exact le_rfl

end Steps

end Nav2

/-! ### The two deadlines -/

section Deadlines

variable {call call' : NavCall ℝ} {now now' : ℝ}

private theorem NavCall.expired_iff : call.Expired now ↔
    call.tokenCancelled = true ∨ call.tokenDeadline ≤ now ∨ call.startMonotonic + call.command.timeoutS ≤ now := by
  unfold NavCall.Expired NavCall.earlyExit
  by_cases hcancelled : call.tokenCancelled = true
  · simp [hcancelled]
  · by_cases hlate : call.tokenDeadline ≤ now ∨ call.startMonotonic + call.command.timeoutS ≤ now <;>
      simp [hcancelled, hlate]

/-- A call that has expired stays expired. -/
private theorem NavCall.Expired.mono (h : call.Expired now) (hfollows : call.Follows call') (hnow : now ≤ now') :
    call'.Expired now' := by
  rw [NavCall.expired_iff] at h ⊢
  rw [hfollows.tokenDeadline, hfollows.startMonotonic, hfollows.command]
  exact h.imp hfollows.tokenCancelled (Or.imp hnow.trans' hnow.trans')

private theorem NavCall.not_expired_of_goesOn (h : call.goesOn now = true) : ¬ call.Expired now := by
  unfold NavCall.goesOn at h
  split at h
  · simp only [Bool.and_eq_true, Option.isNone_iff_eq_none] at h
    exact not_not.2 h.2
  · cases h

end Deadlines

namespace Nav2

variable {s t : Nav2 ℝ} {a : Nav2Action ℝ} {c : NavId} {turns polls : List ℝ}

private theorem mem_pollTimes {time : ℝ} (h : time ∈ pollTimes c s a) :
    time = s.now ∧ ∃ call, s.calls c = some call ∧ call.goesOn s.now = true := by
  unfold pollTimes at h
  split at h
  · split at h
    · next hgoes => exact ⟨List.mem_singleton.1 h, (Option.any_eq_true _ _).1 hgoes.2⟩
    · cases h
  · cases h

/-! ### The turns of an expired call -/

/-- What is left to an expired call that has had its turns at these times. -/
structure Leaving (c : NavId) (limit : ℕ) (s : Nav2 ℝ) (turns : List ℝ) : Prop where
  expired : ∃ call, s.calls c = some call ∧ call.Expired s.now ∧ turns.length + call.point.stage ≤ limit

private theorem Leaving.step {limit : ℕ} (h : Leaving c limit s turns) (hstep : s.step a = some t) :
    Leaving c limit t (turns ++ turnTimes c s a) := by
  obtain ⟨call, hcall, hexpired, hlimit⟩ := h.expired
  rcases step_call hstep hcall with ⟨hnone, call', hcall', hfollows, hpoint⟩ | ⟨e, call', rfl, hcall', hadvances⟩
  · refine ⟨call', hcall', hexpired.mono hfollows (step_now hstep), ?_⟩
    rwa [hnone, List.append_nil, hpoint]
  · refine ⟨call', hcall', hexpired.mono hadvances.follows (step_now hstep), ?_⟩
    rw [turnTimes_resume hcall, List.length_append, List.length_replicate]
    rcases hadvances.stage with hle | ⟨-, hgoes, -⟩
    · omega
    · exact absurd hexpired (NavCall.not_expired_of_goesOn hgoes)

/-! ### The turns of a call -/

/-- The turns of the call `c` are few, apart from its polls; its polls are before its timeout. -/
structure Budget (c : NavId) (s : Nav2 ℝ) (turns polls : List ℝ) : Prop where
  uncalled : s.calls c = none → turns = [] ∧ polls = []
  spent : ∀ call, s.calls c = some call → turns.length + call.point.stage ≤ 11 + polls.length
  started : ∀ call, s.calls c = some call → call.startMonotonic ≤ s.now
  polls : ∀ call, s.calls c = some call →
    ∀ time ∈ polls, call.startMonotonic ≤ time ∧ time < call.startMonotonic + call.command.timeoutS

private theorem initial_budget (baseFrame : String) (now : ℝ) (c : NavId) : Budget c (Nav2.initial baseFrame now) []
    [] where
  uncalled := fun _ => ⟨rfl, rfl⟩
  spent := by rintro call ⟨⟩
  started := by rintro call ⟨⟩
  polls := by rintro call ⟨⟩

/-- A poll that goes on is before the timeout of its call. -/
private theorem Budget.poll_mem (h : Budget c s turns polls) {call : NavCall ℝ} (hcall : s.calls c = some call)
    {time : ℝ}
    (hmem : time ∈ polls ++ pollTimes c s a) :
    call.startMonotonic ≤ time ∧ time < call.startMonotonic + call.command.timeoutS := by
  rcases List.mem_append.1 hmem with hbefore | hnow
  · exact h.polls call hcall time hbefore
  · obtain ⟨rfl, call', hcall', hgoes⟩ := mem_pollTimes hnow
    obtain rfl : call = call' := Option.some.inj (hcall.symm.trans hcall')
    have hlive := NavCall.not_expired_of_goesOn hgoes
    rw [NavCall.expired_iff, not_or, not_or, not_le, not_le] at hlive
    exact ⟨h.started call hcall, hlive.2.2⟩

/-- A step of a call that there is. -/
private theorem Budget.step_called (h : Budget c s turns polls) {call : NavCall ℝ} (hcall : s.calls c = some call)
    (hstep : s.step a = some t) : Budget c t (turns ++ turnTimes c s a) (polls ++ pollTimes c s a) := by
  obtain ⟨call', hcall', hfollows, hspent⟩ : ∃ call', t.calls c = some call' ∧ call.Follows call' ∧
      (turns ++ turnTimes c s a).length + call'.point.stage ≤ 11 + (polls ++ pollTimes c s a).length := by
    have hbefore := h.spent call hcall
    rcases step_call hstep hcall with ⟨hnone, call', hcall', hfollows, hpoint⟩ | ⟨e, call', rfl, hcall', hadvances⟩
    · refine ⟨call', hcall', hfollows, ?_⟩
      rwa [hnone, pollTimes_of_turnTimes hnone, List.append_nil, List.append_nil, hpoint]
    · refine ⟨call', hcall', hadvances.follows, ?_⟩
      rw [turnTimes_resume hcall, List.length_append, List.length_append, List.length_replicate]
      rcases hadvances.stage with hle | ⟨rfl, hgoes, heq⟩
      · omega
      · have hpoll : pollTimes c s (.resume c .slept) = [s.now] := if_pos ⟨rfl, by rw [hcall]; exact hgoes⟩
        have hone : call.resumptions .slept = 1 := rfl
        rw [hpoll, hone, List.length_singleton]
        omega
  have only : ∀ call'', t.calls c = some call'' → call'' = call' := fun call'' hcall'' =>
    Option.some.inj (hcall''.symm.trans hcall')
  constructor
  case uncalled =>
    intro hnone
    rw [hcall'] at hnone
    cases hnone
  case spent =>
    intro call'' hcall''
    rw [only call'' hcall'']
    exact hspent
  case started =>
    intro call'' hcall''
    rw [only call'' hcall'', hfollows.startMonotonic]
    exact (h.started call hcall).trans (step_now hstep)
  case polls =>
    intro call'' hcall''
    rw [only call'' hcall'', hfollows.startMonotonic, hfollows.command]
    exact fun time => h.poll_mem hcall

/-- A call has all of its turns before it when it begins. -/
private theorem begin_stage (command : SemanticCommand ℝ) (tokenDeadline now : ℝ) (knownFrames : List String)
    (client : Bool) :
    (NavCall.begin command tokenDeadline now knownFrames client).call.startMonotonic = now ∧
      (NavCall.begin command tokenDeadline now knownFrames client).call.point.stage ≤ 11 := by
  unfold NavCall.begin
  dsimp only
  split
  · split
    · exact ⟨rfl, Nat.zero_le 11⟩
    split
    · exact ⟨rfl, Nat.le_succ 10⟩
    · exact ⟨rfl, le_rfl⟩
  · exact ⟨rfl, Nat.zero_le 11⟩

/-- A step of a call that there is not yet: at most, the call begins. -/
private theorem step_uncalled (h : s.step a = some t) (hnone : s.calls c = none) :
    turnTimes c s a = [] ∧ ∀ call, t.calls c = some call → call.startMonotonic = s.now ∧ call.point.stage ≤ 11 := by
  have kept : ∀ {t : Nav2 ℝ}, t.calls c = s.calls c →
      ∀ call, t.calls c = some call → call.startMonotonic = s.now ∧ call.point.stage ≤ 11 := by
    intro t hsame call hcall
    rw [hsame, hnone] at hcall
    cases hcall
  have modified : ∀ {s' : Nav2 ℝ} (c' : NavId) (f : NavCall ℝ → NavCall ℝ), s'.calls c = none →
      (s'.modifyCall c' f).calls c = none := by
    intro s' c' f hnone'
    by_cases hc : c = c'
    · subst hc
      rw [modifyCall_calls_self, hnone']
      rfl
    · rw [modifyCall_calls_ne s' f hc, hnone']
  cases step_transition h with
  | ticked | cancelAllReturned | cancelAllCancelled | cancelAllAnswered | decided | finished => exact ⟨rfl, kept rfl⟩
  | navigated c' command tokenDeadline knownFrames =>
    refine ⟨rfl, ?_⟩
    by_cases hc : c = c'
    · subst hc
      intro call hcall
      rw [← eq_of_turn hcall]
      exact begin_stage command tokenDeadline s.now knownFrames s.actionClient
    · exact kept (turn_calls_ne s _ hc)
  | @resumed c' e call tn hcall hturn =>
    have hc : c ≠ c' := by
      rintro rfl
      cases hcall.symm.trans hnone
    exact ⟨if_neg (Ne.symm hc), kept (turn_calls_ne s tn hc)⟩
  | cancelAllBegun k =>
    refine ⟨rfl, kept ?_⟩
    unfold beginCancelAll
    split <;> rfl
  | @ran outcome item rest _ =>
    refine ⟨rfl, kept ?_⟩
    cases item with
    | cancelActive k =>
      unfold execute
      dsimp only
      split <;> rfl
    | job c' job =>
      have hnone' : ({ s with workQueue := rest } : Nav2 ℝ).calls c = none := hnone
      have same : ∀ f, (({ s with workQueue := rest } : Nav2 ℝ).modifyCall c' f).calls c = s.calls c := fun f =>
        (modified c' f hnone').trans hnone.symm
      cases job <;> first | exact same _ | cases outcome <;> first | rfl | exact same _
  | goalFailed c' | goalAnswered c' | cancelAnswered c' | reported c' | fed c' =>
    exact ⟨rfl, kept ((modified c' _ hnone).trans hnone.symm)⟩

private theorem Budget.step (h : Budget c s turns polls) (hstep : s.step a = some t) :
    Budget c t (turns ++ turnTimes c s a) (polls ++ pollTimes c s a) := by
  cases hcall : s.calls c with
  | some call => exact h.step_called hcall hstep
  | none =>
    obtain ⟨hturns, hbegins⟩ := step_uncalled hstep hcall
    obtain ⟨rfl, rfl⟩ := h.uncalled hcall
    rw [hturns, pollTimes_of_turnTimes hturns, List.append_nil]
    constructor
    case uncalled => exact fun _ => ⟨rfl, rfl⟩
    case spent =>
      intro call hcall'
      simpa using (hbegins call hcall').2
    case started =>
      intro call hcall'
      exact (hbegins call hcall').1.le.trans (step_now hstep)
    case polls =>
      intro call _ time hmem
      cases hmem

private theorem budget_run {baseFrame : String} {now : ℝ} {as : List (Nav2Action ℝ)}
    (h : StepSystem.run Nav2.step (Nav2.initial baseFrame now) as = some s) (c : NavId) :
    Budget c s (StepSystem.outputs Nav2.step (turnTimes c) (Nav2.initial baseFrame now) as)
      (StepSystem.outputs Nav2.step (pollTimes c) (Nav2.initial baseFrame now) as) :=
  StepSystem.outputs_invariant₂ (fun _ _ _ _ _ hs hstep => hs.step hstep) (initial_budget baseFrame now c) h

/-! ### The bound -/

/-- With sleeps of at least `interval` between the polls that go on, a call is resumed at most eleven times more than
there are intervals in its timeout; once its token is cancelled, or a deadline has passed, at most as often as its await
has before it.  What the await that it has reached has before it counts in both. -/
theorem navigate_turns_bounded {baseFrame : String} {now : ℝ} {as : List (Nav2Action ℝ)}
    (h : StepSystem.run Nav2.step (Nav2.initial baseFrame now) as = some s) {call : NavCall ℝ}
    (hcall : s.calls c = some call) :
    (∀ interval > 0, Spaced interval (StepSystem.outputs Nav2.step (pollTimes c) (Nav2.initial baseFrame now) as) →
      (StepSystem.outputs Nav2.step (turnTimes c) (Nav2.initial baseFrame now) as).length + call.point.stage ≤
        11 + ⌈call.command.timeoutS / interval⌉₊) ∧
    (call.Expired s.now → ∀ {bs : List (Nav2Action ℝ)} {t : Nav2 ℝ}, StepSystem.run Nav2.step s bs = some t →
      ∃ call', t.calls c = some call' ∧
        (StepSystem.outputs Nav2.step (turnTimes c) s bs).length + call'.point.stage ≤ call.point.stage) := by
  constructor
  · intro interval hinterval hspaced
    have hbudget := budget_run h c
    have hspent := hbudget.spent call hcall
    have hpolls := hspaced.length_le hinterval (fun time ht => (hbudget.polls call hcall time (List.mem_of_head? ht)).1)
      fun time ht => (hbudget.polls call hcall time ht).2
    rw [add_sub_cancel_left] at hpolls
    omega
  · intro hexpired bs t hrest
    have hinitial : Leaving c call.point.stage s [] := ⟨call, hcall, hexpired, by simp⟩
    obtain ⟨call', hcall', -, hlimit⟩ :=
      (StepSystem.outputs_invariant (fun _ _ _ _ hs hstep => hs.step hstep) hinitial hrest).expired
    exact ⟨call', hcall', hlimit⟩

/-! ### A call that is polled twice and cancelled -/

/-- A poll of the first call that goes on. -/
noncomputable def samplePolled (s : Nav2 ℝ) : Nav2 ℝ :=
  s.turn 0 { call := sampleDriving (some (.ok true)) .sleeping .scheduled }

private theorem samplePolled_step (hcall : s.calls 0 = some (sampleDriving (some (.ok true)) .sleeping .scheduled))
    (hnow : s.now < 120) :
    s.step (.resume 0 .slept) = some (samplePolled s) ∧ pollTimes 0 s (.resume 0 .slept) = [s.now] := by
  have hlive : (sampleDriving (some (.ok true)) .sleeping .scheduled).earlyExit s.now = none := by
    simp [NavCall.earlyExit, sampleDriving, sampleNavigate, hnow]
  constructor
  · have hhead : (sampleDriving (some (.ok true)) .sleeping .scheduled).loopHead s.now =
        { call := sampleDriving (some (.ok true)) .sleeping .scheduled } := by
      unfold NavCall.loopHead
      rw [if_neg (by simp [sampleDriving, ResultTask.isDone]), hlive]
      rfl
    rw [Nav2.step, hcall]
    exact congrArg (fun tn => some (s.turn 0 tn)) hhead
  · refine if_pos ⟨rfl, ?_⟩
    rw [hcall]
    change (!ResultTask.scheduled.isDone && ((sampleDriving _ _ _).earlyExit s.now).isNone) = true
    rw [hlive]
    rfl

/-- A poll at each of two times; then the token is cancelled. -/
def samplePolls (first second : ℝ) : List (Nav2Action ℝ) :=
  [.tick first, .resume 0 .slept, .tick second, .resume 0 .slept, .resume 0 .tokenCancelled]

private theorem samplePolls_run : ∃ s, StepSystem.run Nav2.step sampleOne (samplePolls 1 2) = some s ∧
    s.calls 0 = some { sampleDriving (some (.ok true)) .sleeping .scheduled with tokenCancelled := true } ∧
    StepSystem.outputs Nav2.step (pollTimes 0) sampleOne (samplePolls 1 2) = [1, 2] := by
  have hfirst : sampleOne.step (.tick 1) = some { sampleOne with now := 1 } := if_pos (zero_le_one (α := ℝ))
  obtain ⟨hpoll, htime⟩ := samplePolled_step (s := { sampleOne with now := 1 }) rfl (by norm_num)
  have hsecond : (samplePolled { sampleOne with now := 1 }).step (.tick 2) =
      some { samplePolled { sampleOne with now := 1 } with now := 2 } := if_pos (one_le_two (α := ℝ))
  obtain ⟨hpoll', htime'⟩ :=
    samplePolled_step (s := { samplePolled { sampleOne with now := 1 } with now := 2 }) rfl (by norm_num)
  refine ⟨_, StepSystem.run_cons.2 ⟨_, hfirst, StepSystem.run_cons.2 ⟨_, hpoll, StepSystem.run_cons.2
    ⟨_, hsecond, StepSystem.run_cons.2 ⟨_, hpoll', rfl⟩⟩⟩⟩, rfl, ?_⟩
  rw [samplePolls, StepSystem.outputs_cons hfirst, StepSystem.outputs_cons hpoll, htime,
    StepSystem.outputs_cons hsecond, StepSystem.outputs_cons hpoll', htime']
  rfl

theorem navigate_turns_bounded_sample : ∃ (as : List (Nav2Action ℝ)) (s : Nav2 ℝ),
    StepSystem.run Nav2.step (Nav2.initial "base_link" 0) as = some s ∧
    StepSystem.outputs Nav2.step (pollTimes 0) (Nav2.initial "base_link" 0) as = [1, 2] ∧
    (StepSystem.outputs Nav2.step (turnTimes 0) (Nav2.initial "base_link" 0) as).length + 6 ≤ 131 ∧
    ∀ {bs : List (Nav2Action ℝ)} {t : Nav2 ℝ}, StepSystem.run Nav2.step s bs = some t →
      ∃ call, t.calls 0 = some call ∧
        (StepSystem.outputs Nav2.step (turnTimes 0) s bs).length + call.point.stage ≤ 6 := by
  obtain ⟨s, hrun, hcall, htimes⟩ := samplePolls_run
  have hall := StepSystem.run_append.2 ⟨sampleOne, sampleOne_run, hrun⟩
  have hpolls :=
    (StepSystem.outputs_append (f := pollTimes 0) sampleOne_run (samplePolls 1 2)).trans (congrArg _ htimes)
  have hbounds := navigate_turns_bounded hall hcall
  refine ⟨_, s, hall, hpolls, ?_, ?_⟩
  · have hspaced : Spaced 1 ([1, 2] : List ℝ) := by
      simp [Spaced]
      norm_num
    have hceil : ⌈(120 : ℝ) / 1⌉₊ ≤ 120 := Nat.ceil_le.2 (by norm_num)
    exact (hbounds.1 1 one_pos (hpolls.symm ▸ hspaced)).trans (Nat.add_le_add_left hceil 11)
  · exact hbounds.2 (NavCall.expired_iff.2 (.inl rfl))

end Nav2

end RosMcp
