import RosMcp.Navigation.Nav2

/-!
# What a step does to one call and its goal

`step_transition` is the inversion of `step`.  `Affects c s t` says what a step of the plugin, of the ROS thread or of
the action server can do to the call `c`, its jobs, its goal and the slot: nothing, or one of eight things
(`step_affects`).
-/

namespace RosMcp

variable {N : Type}

/-! ### The jobs of a call -/

/-- The job of an item, when it is one of the call `c`. -/
def RosItem.jobOf (c : NavId) : RosItem → Option NavJob
  | .job c' j => if c' = c then some j else none
  | .cancelActive _ => none

namespace Nav2

/-- The jobs of the call `c` that wait for the ROS thread. -/
def jobs (s : Nav2 N) (c : NavId) : List NavJob := s.workQueue.filterMap (RosItem.jobOf c)

section Fields

variable (s : Nav2 N) (c c' : NavId) (t : NavTurn N) (f : NavCall N → NavCall N) (r : Except PyException Bool)

@[simp] theorem turn_goals : (s.turn c t).goals = s.goals := rfl
@[simp] theorem turn_slot : (s.turn c t).activeGoalHandle = SlotWrite.apply c s.activeGoalHandle t.slot := rfl
@[simp] theorem turn_cancelRequests : (s.turn c t).cancelRequests = s.cancelRequests := rfl
@[simp] theorem turn_calls_self : (s.turn c t).calls c = some t.call := Function.update_self ..

@[simp] theorem modifyCall_goals : (s.modifyCall c f).goals = s.goals := rfl
@[simp] theorem modifyCall_slot : (s.modifyCall c f).activeGoalHandle = s.activeGoalHandle := rfl
@[simp] theorem modifyCall_cancelRequests : (s.modifyCall c f).cancelRequests = s.cancelRequests := rfl
@[simp] theorem modifyCall_jobs : (s.modifyCall c f).jobs c' = s.jobs c' := rfl
@[simp] theorem modifyCall_calls_self : (s.modifyCall c f).calls c = (s.calls c).map f := Function.update_self ..

variable {c c'} in
theorem turn_calls_ne (h : c ≠ c') : (s.turn c' t).calls c = s.calls c := Function.update_of_ne h ..

variable {c c'} in
theorem modifyCall_calls_ne (h : c ≠ c') : (s.modifyCall c' f).calls c = s.calls c := Function.update_of_ne h ..

variable {s c t} in
theorem eq_of_turn {call : NavCall N} (h : (s.turn c t).calls c = some call) : t.call = call := by
  rw [turn_calls_self] at h
  exact Option.some.inj h

variable {s c f} in
theorem exists_of_modifyCall {call' : NavCall N} (h : (s.modifyCall c f).calls c = some call') :
    ∃ call, s.calls c = some call ∧ f call = call' := by
  rw [modifyCall_calls_self] at h
  exact Option.map_eq_some_iff.1 h

theorem turn_jobs_self : (s.turn c t).jobs c = s.jobs c ++ t.job.toList := by
  unfold jobs turn
  cases t.job <;> simp [RosItem.jobOf]

variable {c c'} in
theorem turn_jobs_ne (h : c ≠ c') : (s.turn c' t).jobs c = s.jobs c := by
  unfold jobs turn
  cases t.job <;> simp [RosItem.jobOf, h.symm]

end Fields

/-! ### The steps -/

/-- The call `c` has issued a cancel request for its goal. -/
def Requested (s : Nav2 N) (c : NavId) : Prop := (.navigate c, c) ∈ s.cancelRequests

private theorem apply_slot_ne {c c' : NavId} (h : c ≠ c') {slot : Option NavId} {w : SlotWrite}
    (hw : SlotWrite.apply c' slot w = some c) : slot = some c := by
  cases w with
  | keep => exact hw
  | own => exact absurd (Option.some.inj hw).symm h
  | clear => cases hw

/-- The item of another call, or the request of a call of `cancel_all`. -/
theorem execute_frame {c : NavId} {item : RosItem} (hitem : RosItem.jobOf c item = none) (s : Nav2 N)
    (outcome : Except PyException Bool) :
    (s.execute outcome item).calls c = s.calls c ∧ (s.execute outcome item).goals c = s.goals c ∧
      (s.execute outcome item).activeGoalHandle = s.activeGoalHandle ∧
      (s.execute outcome item).workQueue = s.workQueue ∧ ((s.execute outcome item).Requested c → s.Requested c) := by
  cases item with
  | cancelActive k =>
    simp only [execute]
    split
    · exact ⟨rfl, rfl, rfl, rfl, id⟩
    · exact ⟨rfl, rfl, rfl, rfl, fun hr => by simpa [Requested, requestCancel] using hr⟩
    · exact ⟨rfl, rfl, rfl, rfl, id⟩
  | job c' job =>
    have hne : c ≠ c' := by
      rintro rfl
      simp [RosItem.jobOf] at hitem
    cases job with
    | createClient => exact ⟨modifyCall_calls_ne s _ hne, rfl, rfl, rfl, id⟩
    | waitForServer => exact ⟨modifyCall_calls_ne s _ hne, rfl, rfl, rfl, id⟩
    | getResult => exact ⟨modifyCall_calls_ne s _ hne, rfl, rfl, rfl, id⟩
    | sendGoal =>
      cases outcome with
      | ok b => exact ⟨rfl, Function.update_of_ne hne .., rfl, rfl, id⟩
      | error exc => exact ⟨modifyCall_calls_ne s _ hne, rfl, rfl, rfl, id⟩
    | cancelGoal =>
      cases outcome with
      | ok b => exact ⟨rfl, rfl, rfl, rfl, fun hr => by simpa [Requested, execute, requestCancel, hne] using hr⟩
      | error exc => exact ⟨modifyCall_calls_ne s _ hne, rfl, rfl, rfl, id⟩

section Step

variable [IntCast N] [Add N] [Sub N] [Mul N] [PyMath N] [LE N] [DecidableLE N]

/-- The steps of the plugin, each with what it is guarded by. -/
inductive Transition (s : Nav2 N) : Nav2Action N → Nav2 N → Prop
  | ticked (now : N) (hnow : s.now ≤ now) : s.Transition (.tick now) { s with now }
  | navigated (c : NavId) (command : SemanticCommand N) (tokenDeadline : N) (knownFrames : List String)
      (hnone : s.calls c = none) :
      s.Transition (.navigate c command tokenDeadline knownFrames)
        (s.turn c (NavCall.begin command tokenDeadline s.now knownFrames s.actionClient))
  | resumed (c : NavId) (e : NavEvent N) {call : NavCall N} {turn : NavTurn N} (hcall : s.calls c = some call)
      (hturn : call.resume s.baseFrame s.now e = some turn) : s.Transition (.resume c e) (s.turn c turn)
  | cancelAllBegun (k : CancelId) (hnone : s.cancels k = none) : s.Transition (.cancelAll k) (s.beginCancelAll k)
  | cancelAllReturned (k : CancelId) {r : Except PyException Unit} (hcall : s.cancels k = some (.waiting (some r))) :
      s.Transition (.cancelAllResumed k) { s with cancels := Function.update s.cancels k (some .returned) }
  | cancelAllCancelled (k : CancelId) {reply : Option (Except PyException Unit)}
      (hcall : s.cancels k = some (.waiting reply)) :
      s.Transition (.cancelAllCancelled k) { s with cancels := Function.update s.cancels k (some .cancelled) }
  | ran (outcome : Except PyException Bool) {item : RosItem} {rest : List RosItem}
      (hqueue : s.workQueue = item :: rest) :
      s.Transition (.runItem outcome) ({ s with workQueue := rest }.execute outcome item)
  | decided (c : NavId) (accepted : Bool) (hgoal : s.goals c = .sent) :
      s.Transition (.decide c accepted)
        { s with goals := Function.update s.goals c (if accepted then .accepted else .rejected) }
  | finished (c : NavId) (status : ℤ) (hgoal : s.goals c = .accepted) (hstatus : isTerminalStatus status = true) :
      s.Transition (.finish c status) { s with goals := Function.update s.goals c (.ended status) }
  | goalFailed (c : NavId) (exc : PyException) {call : NavCall N} (hcall : s.calls c = some call)
      (hpoint : call.point = .sending) (hreply : call.reply = none) (hsent : s.goals c ≠ .unsent) :
      s.Transition (.goalResponse c (.error exc)) (s.answer c (.error exc))
  | goalAnswered (c : NavId) {accepted : Bool} {call : NavCall N} (hcall : s.calls c = some call)
      (hpoint : call.point = .sending) (hreply : call.reply = none) (haccepted : s.goalReply c = some accepted) :
      s.Transition (.goalResponse c (.ok ())) (s.answer c (.ok accepted))
  | cancelAnswered (c : NavId) (r : Except PyException Unit) {call : NavCall N} {outcome : EarlyExit}
      (hcall : s.calls c = some call) (hpoint : call.point = .cancelling outcome) (hreply : call.reply = none)
      (hrequested : s.Requested c) : s.Transition (.cancelResponse c r) (s.answer c (r.map fun _ => true))
  | reported (c : NavId) (r : Except PyException ℤ) {call : NavCall N} (hcall : s.calls c = some call)
      (htask : call.resultTask = .pending) (hreportable : s.reportable c r = true) :
      s.Transition (.resultResponse c r) (s.modifyCall c fun call => { call with resultTask := .replied r })
  | cancelAllAnswered (k : CancelId) (r : Except PyException Unit)
      (hrequested : s.cancelRequests.any (fun request => request.1 == .cancelAll k) = true) :
      s.Transition (.cancelAllResponse k r) (s.answerCancel k r)
  | fed (c : NavId) (f : Feedback N) (hsent : s.goals c ≠ .unsent) :
      s.Transition (.feedback c f) (s.modifyCall c fun call => { call with feedback := some f })

theorem step_transition {s t : Nav2 N} {a : Nav2Action N} (h : s.step a = some t) : s.Transition a t := by
  cases a with
  | tick now =>
    simp only [step] at h
    split at h
    · next hnow =>
      cases h
      exact .ticked now hnow
    · cases h
  | navigate c command tokenDeadline knownFrames =>
    simp only [step] at h
    split at h
    · next hnone =>
      cases h
      exact .navigated c command tokenDeadline knownFrames hnone
    · cases h
  | resume c e =>
    simp only [step] at h
    split at h
    · cases h
    · next call hcall =>
      obtain ⟨turn, hturn, rfl⟩ := Option.map_eq_some_iff.1 h
      exact .resumed c e hcall hturn
  | cancelAll k =>
    simp only [step] at h
    split at h
    · next hnone =>
      cases h
      exact .cancelAllBegun k hnone
    · cases h
  | cancelAllResumed k =>
    simp only [step] at h
    split at h
    · next hcall =>
      cases h
      exact .cancelAllReturned k hcall
    · cases h
  | cancelAllCancelled k =>
    simp only [step] at h
    split at h
    · next hcall =>
      cases h
      exact .cancelAllCancelled k hcall
    · cases h
  | runItem outcome =>
    simp only [step] at h
    split at h
    · cases h
    · next item rest hqueue =>
      cases h
      exact .ran outcome hqueue
  | decide c accepted =>
    simp only [step] at h
    split at h
    · next hgoal =>
      cases h
      exact .decided c accepted hgoal
    · cases h
  | finish c status =>
    simp only [step] at h
    split at h
    · next hgoal =>
      cases h
      exact .finished c status hgoal.1 hgoal.2
    · cases h
  | goalResponse c r =>
    simp only [step] at h
    split at h
    · cases h
    · next call hcall =>
      split at h
      · next exc hpoint hreply =>
        split at h
        · cases h
        · next hsent =>
          cases h
          exact .goalFailed c exc hcall hpoint hreply hsent
      · next hpoint hreply =>
        obtain ⟨accepted, haccepted, rfl⟩ := Option.map_eq_some_iff.1 h
        exact .goalAnswered c hcall hpoint hreply haccepted
      · cases h
  | cancelResponse c r =>
    simp only [step] at h
    split at h
    · cases h
    · next call hcall =>
      split at h
      · next outcome hpoint hreply =>
        split at h
        · next hrequested =>
          cases h
          exact .cancelAnswered c r hcall hpoint hreply hrequested
        · cases h
      · cases h
  | resultResponse c r =>
    simp only [step] at h
    split at h
    · cases h
    · next call hcall =>
      split at h
      · next htask =>
        split at h
        · next hreportable =>
          cases h
          exact .reported c r hcall htask hreportable
        · cases h
      · cases h
  | cancelAllResponse k r =>
    simp only [step] at h
    split at h
    · next hrequested =>
      cases h
      exact .cancelAllAnswered k r hrequested
    · cases h
  | feedback c f =>
    simp only [step] at h
    split at h
    · cases h
    · next hsent =>
      cases h
      exact .fed c f hsent

/-! ### One call -/

/-- What a step from `s` to `t` does to the call `c`. -/
inductive Affects (c : NavId) (s t : Nav2 N) : Prop
  | frame (hcalls : t.calls c = s.calls c) (hgoal : t.goals c = s.goals c)
      (hslot : t.activeGoalHandle = some c → s.activeGoalHandle = some c) (hjobs : t.jobs c = s.jobs c)
      (hrequested : t.Requested c → s.Requested c)
  | begins (command : SemanticCommand N) (tokenDeadline : N) (knownFrames : List String) (hnone : s.calls c = none)
      (ht : t = s.turn c (NavCall.begin command tokenDeadline s.now knownFrames s.actionClient))
  | turns {call : NavCall N} {turn : NavTurn N} (hcall : s.calls c = some call) (hturn : call.Turns turn)
      (ht : t = s.turn c turn)
  | runs {job : NavJob} {rest : List RosItem} (outcome : Except PyException Bool)
      (hqueue : s.workQueue = .job c job :: rest)
      (ht : t = { s with workQueue := rest }.execute outcome (.job c job))
  | decides (accepted : Bool) (hgoal : s.goals c = .sent)
      (ht : t = { s with goals := Function.update s.goals c (if accepted then .accepted else .rejected) })
  | finishes (status : ℤ) (hgoal : s.goals c = .accepted)
      (ht : t = { s with goals := Function.update s.goals c (.ended status) })
  | answered {call : NavCall N} (r : Except PyException Bool) (hcall : s.calls c = some call)
      (hreply : call.reply = none)
      (hpoint : (∃ outcome, call.point = .cancelling outcome) ∧ s.Requested c ∨
        call.point = .sending ∧ s.goals c ≠ .unsent ∧ ∀ b, r = .ok b → s.goalReply c = some b)
      (ht : t = s.answer c r)
  | reported {call : NavCall N} (r : Except PyException ℤ) (hcall : s.calls c = some call)
      (hreportable : s.reportable c r = true)
      (ht : t = s.modifyCall c fun call => { call with resultTask := .replied r })
  | fed (f : Feedback N) (ht : t = s.modifyCall c fun call => { call with feedback := some f })

theorem step_affects {s t : Nav2 N} {a : Nav2Action N} (c : NavId) (h : s.step a = some t) : Affects c s t := by
  -- a turn, or a change of the record, of a call other than `c`
  have turnFrame : ∀ {c'} (tn : NavTurn N), c ≠ c' → Affects c s (s.turn c' tn) := fun tn hne =>
    .frame (turn_calls_ne s tn hne) rfl (apply_slot_ne hne) (turn_jobs_ne s tn hne) id
  have modifyFrame : ∀ {c'} (f : NavCall N → NavCall N), c ≠ c' → Affects c s (s.modifyCall c' f) := fun f hne =>
    .frame (modifyCall_calls_ne s f hne) rfl id rfl id
  cases step_transition h with
  | ticked | cancelAllReturned | cancelAllCancelled | cancelAllAnswered => exact .frame rfl rfl id rfl id
  | navigated c' command tokenDeadline knownFrames hnone =>
    by_cases hc : c = c'
    · subst hc
      exact .begins command tokenDeadline knownFrames hnone rfl
    · exact turnFrame _ hc
  | resumed c' e hcall hturn =>
    by_cases hc : c = c'
    · subst hc
      exact .turns hcall (NavCall.resume_turns hturn) rfl
    · exact turnFrame _ hc
  | cancelAllBegun k hnone =>
    unfold beginCancelAll
    split
    · exact .frame rfl rfl id rfl id
    · exact .frame rfl rfl id (by simp [jobs, RosItem.jobOf]) id
  | @ran outcome item rest hqueue =>
    cases hitem : RosItem.jobOf c item with
    | none =>
      obtain ⟨hcalls, hgoals, hslot, hrest, hrequested⟩ := execute_frame hitem { s with workQueue := rest } outcome
      refine .frame hcalls hgoals (fun hs => hslot ▸ hs) ?_ hrequested
      rw [jobs, jobs, hrest, hqueue, List.filterMap_cons_none hitem]
    | some job =>
      cases item with
      | cancelActive k => cases hitem
      | job c' job' =>
        simp only [RosItem.jobOf] at hitem
        split at hitem
        · next hc =>
          subst hc
          exact .runs outcome hqueue rfl
        · cases hitem
  | decided c' accepted hgoal =>
    by_cases hc : c = c'
    · subst hc
      exact .decides accepted hgoal rfl
    · exact .frame rfl (Function.update_of_ne hc ..) id rfl id
  | finished c' status hgoal =>
    by_cases hc : c = c'
    · subst hc
      exact .finishes status hgoal rfl
    · exact .frame rfl (Function.update_of_ne hc ..) id rfl id
  | goalFailed c' exc hcall hpoint hreply hsent =>
    by_cases hc : c = c'
    · subst hc
      exact .answered _ hcall hreply (.inr ⟨hpoint, hsent, fun b hb => by cases hb⟩) rfl
    · exact modifyFrame _ hc
  | goalAnswered c' hcall hpoint hreply haccepted =>
    by_cases hc : c = c'
    · subst hc
      refine .answered _ hcall hreply (.inr ⟨hpoint, ?_, ?_⟩) rfl
      · intro hunsent
        simp [goalReply, hunsent] at haccepted
      · intro b hb
        cases hb
        exact haccepted
    · exact modifyFrame _ hc
  | cancelAnswered c' r hcall hpoint hreply hrequested =>
    by_cases hc : c = c'
    · subst hc
      exact .answered _ hcall hreply (.inl ⟨⟨_, hpoint⟩, hrequested⟩) rfl
    · exact modifyFrame _ hc
  | reported c' r hcall htask hreportable =>
    by_cases hc : c = c'
    · subst hc
      exact .reported r hcall hreportable rfl
    · exact modifyFrame _ hc
  | fed c' f hsent =>
    by_cases hc : c = c'
    · subst hc
      exact .fed f rfl
    · exact modifyFrame _ hc

end Step

end Nav2

end RosMcp
