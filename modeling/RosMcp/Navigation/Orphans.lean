import RosMcp.Navigation.SlotHistory

/-!
# Goals whose call has ended

The lines of `navigate` that look after a goal, the cancel request of the loop and the assignment that clears the
slot, are straight-line code: a `CancelledError` or an exception at one of the awaits in between skips them.  A call
that ends then leaves its goal as it was, and what becomes of it depends on the await at which the call ends, on the
server, on the ROS thread and on the other calls (`LookedAfter`, `noOrphan_iff`).
-/

namespace RosMcp

variable {N : Type}

namespace Nav2

/-- The goal was rejected, has reached a terminal status, or a cancel request was issued for it. -/
def Settled (s : Nav2 N) (c : NavId) : Prop :=
  s.goals c = .rejected ∨ (∃ status, s.goals c = .ended status) ∨ ∃ who, (who, c) ∈ s.cancelRequests

/-- The goal of `c` is settled and its handle is not in the slot. -/
def NoOrphan (s : Nav2 N) (c : NavId) : Prop := s.Settled c ∧ s.activeGoalHandle ≠ some c

/-- The call has handed its goal to the ROS thread, which may have sent it already. -/
def HandedOver (s : Nav2 N) (c : NavId) : Prop := s.goals c ≠ .unsent ∨ .sendGoal ∈ s.jobs c

/-- The call has ended. -/
def Ended (s : Nav2 N) (c : NavId) : Prop := ∃ call, s.calls c = some call ∧ call.point.isEnded = true

section Runs

variable [IntCast N] [Add N] [Sub N] [Mul N] [PyMath N] [LE N] [DecidableLE N]

/-- Along `as`, another call than `c` has written the slot last. -/
def TakenOver (s : Nav2 N) (as : List (Nav2Action N)) (c : NavId) : Prop :=
  ∃ write, (StepSystem.outputs Nav2.step slotWrites s as).getLast? = some write ∧ write.1 ≠ c

/-- What has to happen to the goal of `c` along the run `as` for a call that ends at an await to leave no orphan. -/
def LookedAfter (s : Nav2 N) (as : List (Nav2Action N)) (c : NavId) : NavPoint N → Prop
  -- there is no goal yet, or the call has ended before
  | .ensuringClient | .waitingForServer | .localizing | .ended _ => False
  -- nobody has the handle of the goal yet
  | .sending => ServerDone as c
  -- the slot is not cleared, and the call has not asked for the cancellation
  | .sleeping => TakenOver s as c ∧ (ServerDone as c ∨ ∃ k, CancelAllRuns s as k c)
  -- the slot is not cleared
  | .cancelling _ | .awaitingResult _ =>
    TakenOver s as c ∧ (ServerDone as c ∨ CancelJobRuns s as c ∨ ∃ k, CancelAllRuns s as k c)
  | .resolvingFinalPose _ => ServerDone as c ∨ CancelJobRuns s as c ∨ ∃ k, CancelAllRuns s as k c

variable {s t : Nav2 N} {c : NavId}

/-- A call is ended by a turn of its own, which does nothing else. -/
private theorem turn_of_ended {a : Nav2Action N} (h : s.step a = some t) {call : NavCall N}
    (hcall : s.calls c = some call)
    (hlive : call.point.isEnded = false) (hended : t.Ended c) :
    ∃ tn : NavTurn N, t = s.turn c tn ∧ tn.slot = .keep ∧ tn.job = none := by
  obtain ⟨call', hcall', hend⟩ := hended
  cases step_moves c h with
  | stays hpoint =>
    rw [hcall, hcall', Option.map_some, Option.map_some, Option.some.injEq] at hpoint
    rw [hpoint, hlive] at hend
    cases hend
  | begins hnone => cases hcall.symm.trans hnone
  | @turns call₀ tn hcall₀ hturn ht =>
    subst ht
    obtain rfl : call = call₀ := Option.some.inj (hcall.symm.trans hcall₀)
    obtain rfl := eq_of_turn hcall'
    refine ⟨tn, rfl, ?_⟩
    cases hturn with
    | ends o hpoint => exact ⟨rfl, rfl⟩
    | cancelled outcome hpoint => exact ⟨rfl, rfl⟩
    | tokenCancelled | resultTaskStarted | resultTaskEnded =>
      rw [hlive] at hend
      cases hend
    | _ => cases hend

omit [IntCast N] [Add N] [Sub N] [Mul N] [PyMath N] [LE N] [DecidableLE N] in
/-- A call that has handed over its goal is past the awaits before it. -/
private theorem HandedOver.point (hover : s.HandedOver c) (h : Tracked s c) {call : NavCall N}
    (hcall : s.calls c = some call) (hlive : call.point.isEnded = false) : call.point.beforeGoal = false := by
  by_contra hbefore
  rw [Bool.not_eq_false] at hbefore
  rcases hover with hsent | hmem
  · exact hsent (h.before call hcall hbefore)
  · rcases h.awaited hcall (by decide) hmem with hended | ⟨hawaits, -⟩
    · rw [hlive] at hended
      cases hended
    · cases hp : call.point <;> simp [hp, NavPoint.beforeGoal, NavPoint.awaits] at hbefore hawaits

/-- How a goal has come to be settled. -/
theorem settled_run {baseFrame : String} {now : N} {as : List (Nav2Action N)}
    (h : StepSystem.run Nav2.step (Nav2.initial baseFrame now) as = some s) (c : NavId) :
    s.Settled c ↔ ServerDone as c ∨ CancelJobRuns (Nav2.initial baseFrame now) as c ∨
      ∃ k, CancelAllRuns (Nav2.initial baseFrame now) as k c := by
  have hown : s.Requested c ↔ CancelJobRuns (Nav2.initial baseFrame now) as c := by
    rw [requested_run h, or_iff_right]
    rintro ⟨⟩
  have hall : ∀ k, (.cancelAll k, c) ∈ s.cancelRequests ↔ CancelAllRuns (Nav2.initial baseFrame now) as k c := by
    intro k
    rw [cancelAllRequested_run h, or_iff_right]
    rintro ⟨⟩
  rw [Settled, ← or_assoc, requester_run h, hown, exists_congr hall]
  exact or_congr_left (closed_run h c)

/-- When a call that has handed over its goal ends, in any way, no orphan is left behind if and only if the server, the
ROS thread and the other calls have done for the goal what the await at which the call ends leaves undone. -/
theorem noOrphan_iff {baseFrame : String} {now : N} {as : List (Nav2Action N)} {a : Nav2Action N} {call : NavCall N}
    (hrun : StepSystem.run Nav2.step (Nav2.initial baseFrame now) as = some s) (hstep : s.step a = some t)
    (hcall : s.calls c = some call) (hlive : call.point.isEnded = false) (hended : t.Ended c)
    (hover : t.HandedOver c) :
    t.NoOrphan c ↔ LookedAfter (Nav2.initial baseFrame now) as c call.point := by
  have htracked := tracked_run hrun c
  obtain ⟨tn, rfl, hkeep, hjob⟩ := turn_of_ended hstep hcall hlive hended
  have hsame : (s.turn c tn).NoOrphan c ↔ s.Settled c ∧ s.activeGoalHandle ≠ some c := by
    unfold NoOrphan
    rw [turn_slot, hkeep]
    rfl
  have hover' : s.HandedOver c := by
    unfold HandedOver at hover
    rwa [turn_jobs_self, hjob, Option.toList_none, List.append_nil] at hover
  rw [hsame]
  -- outside the loop the handle of the goal is not in the slot
  have hout : call.point.inLoop = false → s.activeGoalHandle ≠ some c := by
    intro hloop hs
    have hp := htracked.point_of_slot hcall hs
    simp [hloop, hlive] at hp
  have hlost : call.point.inLoop = true →
      (s.activeGoalHandle ≠ some c ↔ TakenOver (Nav2.initial baseFrame now) as c) :=
    slot_lost_iff hrun hcall
  have hsettled := settled_run hrun c
  have hbefore := hover'.point htracked hcall hlive
  cases hp : call.point with
  | ensuringClient | waitingForServer | localizing =>
    rw [hp] at hbefore
    cases hbefore
  | ended o =>
    rw [hp] at hlive
    cases hlive
  | sending =>
    have hunasked : ¬ ∃ who, (who, c) ∈ s.cancelRequests := by
      intro hwho
      obtain ⟨call', hcall', hafter⟩ := afterSending_run hrun c hwho
      obtain rfl : call = call' := Option.some.inj (hcall.symm.trans hcall')
      rw [hp] at hafter
      cases hafter
    rw [and_iff_left (hout (by rw [hp]; rfl)), Settled, ← or_assoc, or_iff_left hunasked]
    exact closed_run hrun c
  | sleeping =>
    have hunasked : ¬ CancelJobRuns (Nav2.initial baseFrame now) as c := by
      intro hruns
      obtain ⟨-, call', hcall', hafter⟩ := htracked.requested ((requested_run hrun c).2 (.inr hruns))
      obtain rfl : call = call' := Option.some.inj (hcall.symm.trans hcall')
      rw [hp] at hafter
      cases hafter
    rw [hlost (by rw [hp]; rfl), hsettled, or_iff_right hunasked, and_comm]
    rfl
  | cancelling outcome | awaitingResult outcome =>
    rw [hlost (by rw [hp]; rfl), hsettled, and_comm]
    rfl
  | resolvingFinalPose outcome =>
    rw [and_iff_left (hout (by rw [hp]; rfl)), hsettled]
    rfl

end Runs

/-! ### Runs that leave an orphan -/

/-- `robot.navigate` to a point of the map. -/
noncomputable def sampleNavigate : SemanticCommand ℝ where
  commandId := "A"
  sessionId := "session"
  robotId := "robot"
  operation := .navigate
  commandClass := .motion
  target := .navigate ⟨1, 0, none⟩
  frame := none
  timeoutS := 120
  priority := .normal
  safetyConstraints := none
  provenance := ⟨"robot.navigate", [("x", .float 1), ("y", .float 0)], "session"⟩
  confidence := none
  createdAt := 0
  expectedResultType := .navigate

/-- The call `c` up to the action server's decision on its goal. -/
noncomputable def sampleSend (c : NavId) (accepted : Bool) : List (Nav2Action ℝ) :=
  [.resume c (.serverWaited true), .resume c (.localized (.ok ⟨true, some 0, some 0, some 0, none⟩) (.ok ())),
    .runItem (.ok true), .decide c accepted]

/-- The first call of a plugin, which also creates the action client. -/
noncomputable def sampleFirst (accepted : Bool) : List (Nav2Action ℝ) :=
  [.navigate 0 sampleNavigate 120 ["map"], .runItem (.ok true), .resume 0 .clientCreated, .runItem (.ok true)] ++
    sampleSend 0 accepted

/-- The goal was accepted; its call still awaits the answer. -/
noncomputable def sampleAccepted : Nav2 ℝ :=
  (StepSystem.run Nav2.step (Nav2.initial "base_link" 0) (sampleFirst true)).getD (Nav2.initial "base_link" 0)

/-- The steps from there to the wait for the result of a cancelled goal. -/
def sampleCancel : List (Nav2Action ℝ) :=
  [.goalResponse 0 (.ok ()), .resume 0 .tokenCancelled, .resume 0 .goalAnswered, .runItem (.ok true),
    .cancelResponse 0 (.ok ()), .resume 0 .cancelAnswered]

/-- The cancellation was requested, and the call waits for the result, at most five seconds. -/
noncomputable def sampleCancelling : Nav2 ℝ :=
  (StepSystem.run Nav2.step sampleAccepted sampleCancel).getD sampleAccepted

/-- The state after the task of the first call was cancelled. -/
noncomputable def interrupted (s : Nav2 ℝ) : Nav2 ℝ := (s.step (.resume 0 .taskCancelled)).getD s

/-- A client that disconnects while the goal is being answered leaves an accepted goal without a cancel request; the
backstop of the manager, when it cuts the wait for the cancelled goal short, leaves its handle in the slot. -/
theorem noOrphan_open :
    (StepSystem.run Nav2.step (Nav2.initial "base_link" 0) (sampleFirst true) = some sampleAccepted ∧
      sampleAccepted.step (.resume 0 .taskCancelled) = some (interrupted sampleAccepted) ∧
      (interrupted sampleAccepted).Ended 0 ∧ (interrupted sampleAccepted).goals 0 = .accepted ∧
      ¬ (interrupted sampleAccepted).Settled 0) ∧
    StepSystem.run Nav2.step sampleAccepted sampleCancel = some sampleCancelling ∧
      sampleCancelling.step (.resume 0 .taskCancelled) = some (interrupted sampleCancelling) ∧
      (interrupted sampleCancelling).Ended 0 ∧ (interrupted sampleCancelling).activeGoalHandle = some 0 := by
  have haccepted : (interrupted sampleAccepted).goals 0 = .accepted := rfl
  have hrequests : (interrupted sampleAccepted).cancelRequests = [] := rfl
  refine ⟨⟨rfl, rfl, ⟨_, rfl, rfl⟩, haccepted, ?_⟩, rfl, rfl, ⟨_, rfl, rfl⟩, rfl⟩
  rintro (hrejected | ⟨status, hended⟩ | ⟨who, hwho⟩)
  · rw [haccepted] at hrejected
    cases hrejected
  · rw [haccepted] at hended
    cases hended
  · rw [hrequests] at hwho
    cases hwho

/-- The goal was rejected, and its call has been told so. -/
noncomputable def sampleRejected : Nav2 ℝ :=
  (StepSystem.run Nav2.step (Nav2.initial "base_link" 0) (sampleFirst false ++ [.goalResponse 0 (.ok ())])).getD
    (Nav2.initial "base_link" 0)

/-- A call that returns because its goal was rejected leaves no orphan. -/
theorem noOrphan_sample :
    ∃ t, sampleRejected.step (.resume 0 .goalAnswered) = some t ∧ t.Ended 0 ∧ t.NoOrphan 0 := by
  have hrun : StepSystem.run Nav2.step (Nav2.initial "base_link" 0) (sampleFirst false ++ [.goalResponse 0 (.ok ())]) =
      some sampleRejected := rfl
  obtain ⟨call, hcall, hpoint⟩ : ∃ call, sampleRejected.calls 0 = some call ∧ call.point = .sending := ⟨_, rfl, rfl⟩
  obtain ⟨t, hstep, hended, hsent⟩ : ∃ t, sampleRejected.step (.resume 0 .goalAnswered) = some t ∧ t.Ended 0 ∧
      t.goals 0 = .rejected := ⟨_, rfl, ⟨_, rfl, rfl⟩, rfl⟩
  refine ⟨t, hstep, hended, ?_⟩
  refine (noOrphan_iff hrun hstep hcall (by rw [hpoint]; rfl) hended (.inl ?_)).2 ?_
  · rw [hsent]
    rintro ⟨⟩
  · rw [hpoint]
    exact .inl (by simp [sampleFirst, sampleSend])

end Nav2

end RosMcp
