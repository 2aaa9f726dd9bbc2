import RosMcp.Navigation.Orphans

/-!
# A token that expires before the goal is sent

`navigate` looks at its token for the first time in the loop, after the goal was accepted.  So an expired token does not
keep the goal back: unless the call has ended or the reply that it awaits already refuses it (`Barred`), some
continuation of the run sends the goal (`canSend`), and `noGoalAfterExpiry_iff` gives the exact condition.
-/

namespace RosMcp

variable {N : Type}

/-- The call has ended, or the reply that it awaits ends it before its goal is sent. -/
def NavCall.Refused (call : NavCall N) : Prop :=
  match call.point, call.reply with
  | .ended _, _ => True
  | .ensuringClient, some (.error _) => True
  | .waitingForServer, some (.error _) => True
  | .waitingForServer, some (.ok ready) => ready = false
  | .sending, some (.error _) => True
  | _, _ => False

/-- A refused call that has not ended has its reply. -/
private theorem NavCall.Refused.reply_ne_none {call : NavCall N} (h : call.Refused)
    (hlive : call.point.isEnded = false) :
    call.reply ≠ none := by
  intro hnone
  unfold NavCall.Refused at h
  cases hp : call.point <;> simp [hp, hnone, NavPoint.isEnded] at h hlive

namespace Nav2

/-- The goal was sent. -/
def Sent (s : Nav2 N) (c : NavId) : Prop := s.goals c ≠ .unsent

/-- The goal has not been handed over and will not be. -/
def Barred (s : Nav2 N) (c : NavId) : Prop :=
  s.goals c = .unsent ∧ .sendGoal ∉ s.jobs c ∧ ∃ call, s.calls c = some call ∧ call.Refused

/-- What a call awaits is on its way: its job is in the queue, and in the loop its goal was sent. -/
structure Underway (s : Nav2 N) (c : NavId) : Prop where
  job : ∀ call job, s.calls c = some call → call.reply = none → call.point.awaits = some job → job ≠ .cancelGoal →
    s.goals c = .unsent → job ∈ s.jobs c
  sent : ∀ call, s.calls c = some call → call.point.inLoop = true ∨ (∃ o, call.point = .resolvingFinalPose o) →
    s.goals c ≠ .unsent

variable {s t : Nav2 N} {c : NavId}

/-! ### A barred call stays barred -/

private theorem Barred.turn {call : NavCall N} (h : Barred s c) (hcall : s.calls c = some call) {tn : NavTurn N}
    (hturn : call.Turns tn) : Barred (s.turn c tn) c := by
  obtain ⟨hunsent, hjob, call', hcall', hrefused⟩ := h
  obtain rfl : call = call' := Option.some.inj (hcall.symm.trans hcall')
  -- a refused call only ends; the tasks around it do not touch its await
  have kept : tn.call.Refused ∧ tn.job ≠ some .sendGoal := by
    unfold NavCall.Refused at hrefused ⊢
    cases hturn with
    | waits hpoint hreply =>
      rw [hpoint, hreply] at hrefused
      exact hrefused.elim
    | localizes hpoint hreply =>
      rw [hpoint, hreply] at hrefused
      cases hrefused
    | sends hpoint =>
      rw [hpoint] at hrefused
      cases hr : call.reply <;> rw [hr] at hrefused <;> exact hrefused.elim
    | accepted hpoint hreply =>
      rw [hpoint, hreply] at hrefused
      exact hrefused.elim
    | acceptedLate outcome hpoint hreply =>
      rw [hpoint, hreply] at hrefused
      exact hrefused.elim
    | sleeps hpoint =>
      rw [hpoint] at hrefused
      cases hr : call.reply <;> rw [hr] at hrefused <;> exact hrefused.elim
    | cancels outcome hpoint =>
      rw [hpoint] at hrefused
      cases hr : call.reply <;> rw [hr] at hrefused <;> exact hrefused.elim
    | awaits outcome hpoint =>
      rw [hpoint] at hrefused
      cases hr : call.reply <;> rw [hr] at hrefused <;> exact hrefused.elim
    | leaves outcome hpoint =>
      cases hp : call.point <;> simp [hp, NavPoint.inLoop] at hpoint hrefused
    | expires outcome hpoint =>
      rw [hpoint] at hrefused
      cases hr : call.reply <;> rw [hr] at hrefused <;> exact hrefused.elim
    | ends o hpoint => exact ⟨trivial, by rintro ⟨⟩⟩
    | cancelled outcome hpoint => exact ⟨trivial, by rintro ⟨⟩⟩
    | tokenCancelled => exact ⟨hrefused, by rintro ⟨⟩⟩
    | resultTaskStarted htask => exact ⟨hrefused, by rintro ⟨⟩⟩
    | resultTaskEnded r htask => exact ⟨hrefused, by rintro ⟨⟩⟩
  refine ⟨hunsent, ?_, tn.call, turn_calls_self .., kept.1⟩
  rw [turn_jobs_self, List.mem_append]
  rintro (hmem | hmem)
  · exact hjob hmem
  · exact kept.2 (by simpa using hmem)

/-- A change of the record of a call that keeps its point and its reply. -/
private theorem Barred.modify (h : Barred s c) (f : NavCall N → NavCall N)
    (hpoint : ∀ call, (f call).point = call.point)
    (hreply : ∀ call, s.calls c = some call → call.Refused → call.point.isEnded = true ∨ (f call).reply = call.reply) :
    Barred (s.modifyCall c f) c := by
  obtain ⟨hunsent, hjob, call, hcall, hrefused⟩ := h
  refine ⟨hunsent, hjob, f call, by rw [modifyCall_calls_self, hcall]; rfl, ?_⟩
  rcases hreply call hcall hrefused with hended | hsame
  · unfold NavCall.Refused
    rw [hpoint]
    cases hp : call.point <;> simp [hp, NavPoint.isEnded] at hended
    trivial
  · unfold NavCall.Refused at hrefused ⊢
    rw [hpoint, hsame]
    exact hrefused

private theorem Barred.step [Sub N] (h : Barred s c) (hs : Tracked s c) (ht : Affects c s t) : Barred t c := by
  have h₀ := h
  obtain ⟨hunsent, hjob, call, hcall, hrefused⟩ := h
  cases ht with
  | frame hcalls hgoal hslot hjobs hrequested =>
    exact ⟨hgoal.trans hunsent, by rw [hjobs]; exact hjob, call, hcalls.trans hcall, hrefused⟩
  | begins command tokenDeadline knownFrames hnone ht =>
    rw [hnone] at hcall
    cases hcall
  | turns hcall' hturn ht =>
    subst ht
    exact h₀.turn hcall' hturn
  | @runs job rest outcome hqueue ht =>
    subst ht
    obtain ⟨-, hjobs⟩ := hs.pop hqueue
    have hpop : Barred { s with workQueue := rest } c :=
      ⟨hunsent, fun hmem => hjob (by rw [hjobs]; exact List.mem_cons_of_mem _ hmem), call, hcall, hrefused⟩
    -- the job that is run was awaited, so its call had no reply
    have answers : ∀ r, job ≠ .getResult → Barred (({ s with workQueue := rest } : Nav2 N).answer c r) c := by
      intro r hown
      refine hpop.modify _ (fun _ => rfl) ?_
      intro call' hcall' hrefused'
      rcases hs.awaited hcall' hown (by rw [hjobs]; exact List.mem_cons_self) with hended | ⟨-, hnone⟩
      · exact .inl hended
      · by_cases hended : call'.point.isEnded = true
        · exact .inl hended
        · exact absurd hnone (hrefused'.reply_ne_none (by simpa using hended))
    cases job with
    | createClient => exact answers outcome (by decide)
    | waitForServer => exact answers outcome (by decide)
    | getResult => exact hpop.modify _ (fun _ => rfl) (fun _ _ _ => .inr rfl)
    | sendGoal => exact absurd (by rw [hjobs]; exact List.mem_cons_self) hjob
    | cancelGoal =>
      cases outcome with
      | ok b => exact hpop
      | error exc => exact answers _ (by decide)
  | decides accepted hgoal ht =>
    rw [hunsent] at hgoal
    cases hgoal
  | finishes status hgoal ht =>
    rw [hunsent] at hgoal
    cases hgoal
  | @answered call' r hcall' hreply hpoint ht =>
    obtain rfl : call = call' := Option.some.inj (hcall.symm.trans hcall')
    rcases hpoint with ⟨⟨outcome, hp⟩, -⟩ | ⟨-, hsent, -⟩
    · simp [NavCall.Refused, hp, hreply] at hrefused
    · exact absurd hunsent hsent
  | reported r hcall' hreportable ht =>
    subst ht
    exact h₀.modify _ (fun _ => rfl) (fun _ _ _ => .inr rfl)
  | fed f ht =>
    subst ht
    exact h₀.modify _ (fun _ => rfl) (fun _ _ _ => .inr rfl)

/-! ### A call that is not barred is on its way -/

private theorem initial_underway (baseFrame : String) (now : N) (c : NavId) : Underway
    (Nav2.initial baseFrame now) c where
  job := by rintro call job ⟨⟩
  sent := by rintro call ⟨⟩

private theorem Underway.turn (h : Underway s c) (hs : Tracked s c) {call : NavCall N} (hcall : s.calls c = some call)
    {tn : NavTurn N} (hturn : call.Turns tn) : Underway (s.turn c tn) c := by
  have hold : ∀ job, call.reply = none → call.point.awaits = some job → job ≠ .cancelGoal → s.goals c = .unsent →
      job ∈ (s.turn c tn).jobs c := by
    intro job hreply hawaits hcancel hunsent
    rw [turn_jobs_self]
    exact List.mem_append_left _ (h.job call job hcall hreply hawaits hcancel hunsent)
  have hnew : ∀ job, tn.job = some job → job ∈ (s.turn c tn).jobs c := by
    intro job hjob
    rw [turn_jobs_self, hjob]
    exact List.mem_append_right _ (List.mem_singleton_self _)
  -- what the loop needs: the goal of a call that was told that it is accepted was sent
  have haccepted : call.point = .sending → call.reply = some (.ok true) → s.goals c ≠ .unsent := by
    intro hpoint hreply hunsent
    have hr := hs.answered call true hcall hpoint hreply
    simp [goalReply, hunsent] at hr
  have hloop : call.point.inLoop = true → s.goals c ≠ .unsent := fun hp => h.sent call hcall (.inl hp)
  constructor
  case job =>
    intro call' job hcall' hreply hawaits hcancel hunsent
    obtain rfl := eq_of_turn hcall'
    cases hturn with
    | waits hpoint hr => exact hnew job hawaits
    | sends hpoint => exact hnew job hawaits
    | acceptedLate outcome hpoint hr => exact hnew job hawaits
    | cancels outcome hpoint => exact hnew job hawaits
    | localizes | accepted | sleeps | awaits | leaves | expires | ends | cancelled => cases hawaits
    | tokenCancelled => exact hold job hreply hawaits hcancel hunsent
    | resultTaskStarted htask => exact hold job hreply hawaits hcancel hunsent
    | resultTaskEnded r htask => exact hold job hreply hawaits hcancel hunsent
  case sent =>
    intro call' hcall' hpoint'
    obtain rfl := eq_of_turn hcall'
    cases hturn with
    | waits | localizes | sends | ends | cancelled => rcases hpoint' with hp | ⟨o, hp⟩ <;> cases hp
    | accepted hpoint hr => exact haccepted hpoint hr
    | acceptedLate outcome hpoint hr => exact haccepted hpoint hr
    | sleeps hpoint => exact hloop (by rw [hpoint]; rfl)
    | cancels outcome hpoint => exact hloop (by rw [hpoint]; rfl)
    | awaits outcome hpoint => exact hloop (by rw [hpoint]; rfl)
    | leaves outcome hpoint => exact hloop hpoint
    | expires outcome hpoint => exact hloop (by rw [hpoint]; rfl)
    | tokenCancelled => exact h.sent call hcall hpoint'
    | resultTaskStarted htask => exact h.sent call hcall hpoint'
    | resultTaskEnded r htask => exact h.sent call hcall hpoint'

/-- What arrives from the ROS thread does not take a reply back. -/
private theorem Underway.modify (h : Underway s c) (f : NavCall N → NavCall N)
    (hpoint : ∀ call, (f call).point = call.point)
    (hreply : ∀ call, (f call).reply = none → call.reply = none) : Underway (s.modifyCall c f) c := by
  constructor
  case job =>
    intro call' job hcall' hr hawaits hcancel hunsent
    obtain ⟨call, hcall, rfl⟩ := exists_of_modifyCall hcall'
    rw [hpoint] at hawaits
    exact h.job call job hcall (hreply call hr) hawaits hcancel hunsent
  case sent =>
    intro call' hcall' hp
    obtain ⟨call, hcall, rfl⟩ := exists_of_modifyCall hcall'
    rw [hpoint] at hp
    exact h.sent call hcall hp

private theorem Underway.run (h : Underway s c) (hs : Tracked s c) {job : NavJob} {rest : List RosItem}
    (outcome : Except PyException Bool) (hqueue : s.workQueue = .job c job :: rest) :
    Underway ({ s with workQueue := rest }.execute outcome (.job c job)) c := by
  obtain ⟨-, hjobs⟩ := hs.pop hqueue
  have hhead : job ∈ s.jobs c := by
    rw [hjobs]
    exact List.mem_cons_self
  -- a call that awaits another job still finds it in the queue
  have hother : ∀ call job', s.calls c = some call → call.reply = none → call.point.awaits = some job' →
      job' ≠ .cancelGoal → s.goals c = .unsent → job' ≠ job →
      job' ∈ ({ s with workQueue := rest } : Nav2 N).jobs c := by
    intro call job' hcall hreply hawaits hcancel hunsent hne
    have hmem := h.job call job' hcall hreply hawaits hcancel hunsent
    rw [hjobs] at hmem
    exact (List.mem_cons.1 hmem).resolve_left hne
  -- the reply to the job is there
  have answers : ∀ r, Underway (({ s with workQueue := rest } : Nav2 N).answer c r) c := by
    intro r
    constructor
    case job =>
      intro call' job' hcall' hreply
      obtain ⟨call, hcall, rfl⟩ := exists_of_modifyCall hcall'
      cases hreply
    case sent =>
      intro call' hcall' hp
      obtain ⟨call, hcall, rfl⟩ := exists_of_modifyCall hcall'
      exact h.sent call hcall hp
  cases job with
  | createClient => exact answers outcome
  | waitForServer => exact answers outcome
  | getResult =>
    constructor
    case job =>
      intro call' job' hcall' hreply hawaits hcancel hunsent
      obtain ⟨call, hcall, rfl⟩ := exists_of_modifyCall hcall'
      refine hother call job' hcall hreply hawaits hcancel hunsent ?_
      rintro rfl
      have hp : call.point.awaits = some .getResult := hawaits
      cases hpoint : call.point <;> simp [hpoint, NavPoint.awaits] at hp
    case sent =>
      intro call' hcall' hp
      obtain ⟨call, hcall, rfl⟩ := exists_of_modifyCall hcall'
      exact h.sent call hcall hp
  | sendGoal =>
    cases outcome with
    | error exc => exact answers _
    | ok b =>
      have hsent : (({ s with workQueue := rest } : Nav2 N).execute (.ok b) (.job c .sendGoal)).goals c ≠ .unsent := by
        simp [execute]
      exact ⟨fun call job' _ _ _ _ hunsent => absurd hunsent hsent, fun _ _ _ => hsent⟩
  | cancelGoal =>
    cases outcome with
    | error exc => exact answers _
    | ok b =>
      exact ⟨fun call job' hcall hreply hawaits hcancel hunsent =>
        hother call job' hcall hreply hawaits hcancel hunsent hcancel, h.sent⟩

private theorem Underway.step [Sub N] (h : Underway s c) (hs : Tracked s c) (ht : Affects c s t) : Underway t c := by
  cases ht with
  | frame hcalls hgoal hslot hjobs hrequested =>
    constructor
    case job =>
      rw [hcalls, hgoal, hjobs]
      exact h.job
    case sent =>
      rw [hcalls, hgoal]
      exact h.sent
  | begins command tokenDeadline knownFrames hnone ht =>
    subst ht
    obtain ⟨call, -, -, ⟨o, hb⟩ | ⟨point, job, hb, hbefore, hawaits⟩⟩ :=
      begin_cases command tokenDeadline s.now knownFrames s.actionClient
    · rw [hb]
      constructor
      case job =>
        intro call' job hcall' _ hawaits
        obtain rfl := eq_of_turn hcall'
        cases hawaits
      case sent =>
        intro call' hcall' hp
        obtain rfl := eq_of_turn hcall'
        rcases hp with hp | ⟨o', hp⟩ <;> cases hp
    · rw [hb]
      constructor
      case job =>
        intro call' job' hcall' _ hawaits' _ _
        obtain rfl := eq_of_turn hcall'
        obtain rfl : job = job' := Option.some.inj (hawaits.symm.trans hawaits')
        rw [turn_jobs_self]
        exact List.mem_append_right _ (List.mem_singleton_self _)
      case sent =>
        intro call' hcall' hp
        obtain rfl := eq_of_turn hcall'
        have hp' : point.inLoop = true ∨ ∃ o, point = .resolvingFinalPose o := hp
        cases point <;> simp [NavPoint.inLoop, NavPoint.beforeGoal] at hp' hbefore
  | turns hcall hturn ht =>
    subst ht
    exact h.turn hs hcall hturn
  | runs outcome hqueue ht =>
    subst ht
    exact h.run hs outcome hqueue
  | decides accepted hgoal ht =>
    subst ht
    have hsent : (Function.update s.goals c (if accepted then GoalState.accepted else .rejected)) c ≠ .unsent := by
      rw [Function.update_self]
      cases accepted <;> simp
    exact ⟨fun _ _ _ _ _ _ hunsent => absurd hunsent hsent, fun _ _ _ => hsent⟩
  | finishes status hgoal ht =>
    subst ht
    have hsent : (Function.update s.goals c (GoalState.ended status)) c ≠ .unsent := by simp
    exact ⟨fun _ _ _ _ _ _ hunsent => absurd hunsent hsent, fun _ _ _ => hsent⟩
  | answered r hcall hreply hpoint ht =>
    subst ht
    exact h.modify _ (fun _ => rfl) (by rintro call ⟨⟩)
  | reported r hcall hreportable ht =>
    subst ht
    exact h.modify _ (fun _ => rfl) (fun _ => id)
  | fed f ht =>
    subst ht
    exact h.modify _ (fun _ => rfl) (fun _ => id)

/-! ### The goal can still be sent -/

section Send

variable [IntCast N] [Add N] [Sub N] [Mul N] [PyMath N] [LE N] [DecidableLE N]

/-- The invariants of a call in the states of a run. -/
structure Good (s : Nav2 N) (c : NavId) : Prop where
  tracked : Tracked s c
  underway : Underway s c

private theorem Good.step (h : Good s c) {a : Nav2Action N} (hstep : s.step a = some t) : Good t c :=
  ⟨h.tracked.step (step_affects c hstep), h.underway.step h.tracked (step_affects c hstep)⟩

private theorem good_run {baseFrame : String} {now : N} {as : List (Nav2Action N)}
    (h : StepSystem.run Nav2.step (Nav2.initial baseFrame now) as = some s) (c : NavId) : Good s c :=
  StepSystem.run_invariant (P := fun s => Good s c) (fun _ _ _ hs hstep => hs.step hstep)
    ⟨initial_tracked baseFrame now c, initial_underway baseFrame now c⟩ h

/-- Some continuation sends the goal. -/
def CanSend (s : Nav2 N) (c : NavId) : Prop := ∃ bs t, StepSystem.run Nav2.step s bs = some t ∧ t.Sent c

private theorem CanSend.of_step {a : Nav2Action N} (hstep : s.step a = some t) (h : CanSend t c) : CanSend s c := by
  obtain ⟨bs, u, hrun, hsent⟩ := h
  exact ⟨a :: bs, u, StepSystem.run_cons.2 ⟨t, hstep, hrun⟩, hsent⟩

private theorem CanSend.of_run {as : List (Nav2Action N)} (hrun : StepSystem.run Nav2.step s as = some t)
    (h : CanSend t c) : CanSend s c := by
  obtain ⟨bs, u, hrun', hsent⟩ := h
  exact ⟨as ++ bs, u, StepSystem.run_append.2 ⟨t, hrun, hrun'⟩, hsent⟩

/-- The ROS thread gets to every job that is waiting; by then the call has not moved. -/
private theorem reach_job {job : NavJob} (hown : job ≠ .getResult) (n : ℕ) :
    ∀ s : Nav2 N, s.workQueue.length = n → Tracked s c → job ∈ s.jobs c → ∀ call, s.calls c = some call →
      ∃ as u rest call', StepSystem.run Nav2.step s as = some u ∧ u.workQueue = .job c job :: rest ∧
        u.calls c = some call' ∧ call'.point = call.point ∧ call'.reply = call.reply ∧ u.goals c = s.goals c := by
  induction n with
  | zero =>
    intro s hlength hs hmem
    have hnil : s.workQueue = [] := List.length_eq_zero_iff.1 hlength
    simp [jobs, hnil] at hmem
  | succ n ih =>
    intro s hlength hs hmem call hcall
    cases hqueue : s.workQueue with
    | nil => simp [hqueue] at hlength
    | cons item rest =>
      have hrest : rest.length = n := by
        rw [hqueue, List.length_cons] at hlength
        omega
      have hstep : s.step (.runItem (.ok true)) = some ({ s with workQueue := rest }.execute (.ok true) item) := by
        simp only [Nav2.step, hqueue]
      have htracked := hs.step (step_affects c hstep)
      -- running the item leaves the await of the call alone, or the item is the job itself
      have next : ∀ call₁, ({ s with workQueue := rest }.execute (.ok true) item).calls c = some call₁ →
          call₁.point = call.point → call₁.reply = call.reply →
          ({ s with workQueue := rest }.execute (.ok true) item).goals c = s.goals c →
          ({ s with workQueue := rest }.execute (.ok true) item).workQueue = rest →
          job ∈ ({ s with workQueue := rest }.execute (.ok true) item).jobs c →
          ∃ as u rest call', StepSystem.run Nav2.step s as = some u ∧ u.workQueue = .job c job :: rest ∧
            u.calls c = some call' ∧ call'.point = call.point ∧ call'.reply = call.reply ∧ u.goals c = s.goals c := by
        intro call₁ hcall₁ hpoint hreply hgoal hqueue' hmem'
        obtain ⟨as, u, rest', call', hrun, hhead, hcall', hpoint', hreply', hgoal'⟩ :=
          ih _ (by rw [hqueue']; exact hrest) htracked hmem' call₁ hcall₁
        exact ⟨.runItem (.ok true) :: as, u, rest', call', StepSystem.run_cons.2 ⟨_, hstep, hrun⟩, hhead, hcall',
          hpoint'.trans hpoint, hreply'.trans hreply, hgoal'.trans hgoal⟩
      cases hitem : RosItem.jobOf c item with
      | none =>
        obtain ⟨hcalls, hgoals, -, hsame, -⟩ := execute_frame hitem { s with workQueue := rest } (.ok true)
        refine next call (hcalls.trans hcall) rfl rfl hgoals hsame ?_
        have hjobs : s.jobs c = rest.filterMap (RosItem.jobOf c) := by
          rw [jobs, hqueue, List.filterMap_cons_none hitem]
        rw [jobs, hsame, ← hjobs]
        exact hmem
      | some job' =>
        obtain rfl : item = .job c job' := by
          cases item with
          | cancelActive k => cases hitem
          | job c' j =>
            simp only [RosItem.jobOf] at hitem
            split at hitem
            · next hc => rw [hc, Option.some.inj hitem]
            · cases hitem
        by_cases hsame : job' = job
        · subst hsame
          exact ⟨[], s, rest, call, rfl, hqueue, hcall, rfl, rfl, rfl⟩
        · obtain ⟨-, hjobs⟩ := hs.pop hqueue
          have hmem' : job ∈ ({ s with workQueue := rest } : Nav2 N).jobs c := by
            rw [hjobs] at hmem
            exact (List.mem_cons.1 hmem).resolve_left (Ne.symm hsame)
          -- besides the awaited job, only that of the result task can wait
          obtain rfl : job' = .getResult := by
            by_contra hother
            exact notMem_jobs (s := { s with workQueue := rest }) (hs.popped hqueue hother).1 hown hmem'
          have hcall₁ : ({ s with workQueue := rest }.execute (.ok true) (.job c .getResult)).calls c =
              some { call with resultTask := ResultTask.requested (.ok true) call.resultTask } := by
            simp [execute, modifyCall, hcall]
          exact next _ hcall₁ rfl rfl rfl rfl hmem'

/-- A goal that was handed over is sent when the ROS thread gets to it. -/
private theorem canSend_of_job (hs : Tracked s c) {call : NavCall N} (hcall : s.calls c = some call)
    (hjob : .sendGoal ∈ s.jobs c) : CanSend s c := by
  obtain ⟨as, u, rest, call', hrun, hqueue, -⟩ := reach_job (by decide) _ s rfl hs hjob call hcall
  have hstep : u.step (.runItem (.ok true)) =
      some (({ u with workQueue := rest } : Nav2 N).execute (.ok true) (.job c .sendGoal)) := by
    simp only [Nav2.step, hqueue]
  refine .of_run hrun (.of_step hstep ⟨[], _, rfl, ?_⟩)
  simp [Sent, execute]

/-- The ROS thread answers the job that a call awaits. -/
private theorem reach_reply (job : NavJob) (h : Good s c) {call : NavCall N} (hcall : s.calls c = some call)
    (hreply : call.reply = none) (hawaits : call.point.awaits = some job)
    (hjob : job = .createClient ∨ job = .waitForServer) (hunsent : s.goals c = .unsent) :
    ∃ as u call', StepSystem.run Nav2.step s as = some u ∧ u.calls c = some call' ∧ call'.point = call.point ∧
      call'.reply = some (.ok true) ∧ u.goals c = .unsent := by
  have hmem : job ∈ s.jobs c :=
    h.underway.job call job hcall hreply hawaits (by rcases hjob with rfl | rfl <;> decide) hunsent
  obtain ⟨as, u, rest, call', hrun, hqueue, hcall', hpoint, -, hgoal⟩ :=
    reach_job (by rcases hjob with rfl | rfl <;> decide) _ s rfl h.tracked hmem call hcall
  have hstep : u.step (.runItem (.ok true)) = some (({ u with workQueue := rest } : Nav2 N).answer c (.ok true)) := by
    rcases hjob with rfl | rfl <;> simp only [Nav2.step, hqueue, execute]
  refine ⟨as ++ [.runItem (.ok true)], ({ u with workQueue := rest } : Nav2 N).answer c (.ok true),
    { call' with reply := some (.ok true) }, StepSystem.run_concat.2 ⟨u, hrun, hstep⟩, ?_, hpoint, rfl,
    hgoal.trans hunsent⟩
  simp [answer, modifyCall, hcall']

private theorem canSend_localizing (h : Good s c) {call : NavCall N} (hcall : s.calls c = some call)
    (hpoint : call.point = .localizing) : CanSend s c := by
  have hstep : s.step (.resume c (.localized (.ok ⟨true, none, none, none, none⟩) (.ok ()))) =
      some (s.turn c (call.submit .sending .sendGoal)) := by
    simp [Nav2.step, hcall, NavCall.resume, hpoint]
  refine .of_step hstep (canSend_of_job (h.step hstep).tracked (turn_calls_self ..) ?_)
  rw [turn_jobs_self]
  exact List.mem_append_right _ (List.mem_singleton_self _)

private theorem canSend_replied (h : Good s c) {call : NavCall N} (hcall : s.calls c = some call)
    (hpoint : call.point = .waitingForServer) (hreply : call.reply = some (.ok true)) : CanSend s c := by
  have hstep : s.step (.resume c (.serverWaited true)) =
      some (s.turn c { call := { call with point := .localizing, reply := none } }) := by
    simp [Nav2.step, hcall, NavCall.resume, hpoint, hreply]
  exact .of_step hstep (canSend_localizing (h.step hstep) (turn_calls_self ..) rfl)

private theorem canSend_waiting (h : Good s c) {call : NavCall N} (hcall : s.calls c = some call)
    (hpoint : call.point = .waitingForServer) (hreply : call.reply = none) (hunsent : s.goals c = .unsent) :
    CanSend s c := by
  obtain ⟨as, u, call', hrun, hcall', hpoint', hreply', -⟩ :=
    reach_reply .waitForServer h hcall hreply (by rw [hpoint]; rfl) (.inr rfl) hunsent
  have hu : Good u c := StepSystem.run_invariant (P := fun s => Good s c) (fun _ _ _ hs hstep => hs.step hstep) h hrun
  exact .of_run hrun (canSend_replied hu hcall' (hpoint'.trans hpoint) hreply')

private theorem canSend_created (h : Good s c) {call : NavCall N} (hcall : s.calls c = some call)
    (hpoint : call.point = .ensuringClient) {b : Bool} (hreply : call.reply = some (.ok b))
    (hunsent : s.goals c = .unsent) : CanSend s c := by
  have hstep : s.step (.resume c .clientCreated) = some (s.turn c { call.waitForServer with client := true }) := by
    simp [Nav2.step, hcall, NavCall.resume, hpoint, hreply]
  exact .of_step hstep (canSend_waiting (h.step hstep) (turn_calls_self ..) rfl rfl hunsent)

/-- Whatever its token says, a call that is not barred can send its goal. -/
private theorem canSend (h : Good s c) {call : NavCall N} (hcall : s.calls c = some call)
    (hunsent : s.goals c = .unsent)
    (hbarred : ¬ s.Barred c) : CanSend s c := by
  by_cases hjob : .sendGoal ∈ s.jobs c
  · exact canSend_of_job h.tracked hcall hjob
  have hrefused : ¬ call.Refused := fun hr => hbarred ⟨hunsent, hjob, call, hcall, hr⟩
  unfold NavCall.Refused at hrefused
  cases hpoint : call.point with
  | ensuringClient =>
    cases hreply : call.reply with
    | none =>
      obtain ⟨as, u, call', hrun, hcall', hpoint', hreply', hunsent'⟩ :=
        reach_reply .createClient h hcall hreply (by rw [hpoint]; rfl) (.inl rfl) hunsent
      have hu : Good u c :=
        StepSystem.run_invariant (P := fun s => Good s c) (fun _ _ _ hs hstep => hs.step hstep) h hrun
      exact .of_run hrun (canSend_created hu hcall' (hpoint'.trans hpoint) hreply' hunsent')
    | some r =>
      cases r with
      | ok b => exact canSend_created h hcall hpoint hreply hunsent
      | error exc =>
        rw [hpoint, hreply] at hrefused
        exact absurd trivial hrefused
  | waitingForServer =>
    cases hreply : call.reply with
    | none => exact canSend_waiting h hcall hpoint hreply hunsent
    | some r =>
      rw [hpoint, hreply] at hrefused
      cases r with
      | ok ready =>
        obtain rfl : ready = true := by simpa using hrefused
        exact canSend_replied h hcall hpoint hreply
      | error exc => exact absurd trivial hrefused
  | localizing => exact canSend_localizing h hcall hpoint
  | sending =>
    cases hreply : call.reply with
    | none => exact absurd (h.underway.job call _ hcall hreply (by rw [hpoint]; rfl) (by decide) hunsent) hjob
    | some r =>
      rw [hpoint, hreply] at hrefused
      cases r with
      | ok b =>
        have hr := h.tracked.answered call b hcall hpoint hreply
        simp [goalReply, hunsent] at hr
      | error exc => exact absurd trivial hrefused
  | sleeping | cancelling outcome | awaitingResult outcome =>
    exact absurd hunsent (h.underway.sent call hcall (.inl (by rw [hpoint]; rfl)))
  | resolvingFinalPose outcome => exact absurd hunsent (h.underway.sent call hcall (.inr ⟨outcome, hpoint⟩))
  | ended o =>
    rw [hpoint] at hrefused
    exact absurd trivial hrefused

/-! ### The exact condition -/

/-- The token of the call is cancelled, or the deadline of its command has passed. -/
def Expired (s : Nav2 N) (c : NavId) : Prop :=
  ∃ call, s.calls c = some call ∧
    (call.tokenCancelled = true ∨ call.tokenDeadline ≤ s.now ∨ call.startMonotonic + call.command.timeoutS ≤ s.now)

/-- When the token expires before the goal is sent, the goal is never sent. -/
def NoGoalAfterExpiry (s : Nav2 N) (c : NavId) : Prop :=
  s.Expired c → ¬ s.Sent c → ∀ bs t, StepSystem.run Nav2.step s bs = some t → ¬ t.Sent c

/-- In every reachable state, an expired token keeps the goal back in every continuation if and only if the goal was
sent before or the call is barred. -/
theorem noGoalAfterExpiry_iff {baseFrame : String} {now : N} {as : List (Nav2Action N)}
    (hrun : StepSystem.run Nav2.step (Nav2.initial baseFrame now) as = some s) (c : NavId) :
    s.NoGoalAfterExpiry c ↔ (s.Expired c → s.Sent c ∨ s.Barred c) := by
  have hs := good_run hrun c
  constructor
  · intro h hexpired
    by_cases hsent : s.Sent c
    · exact .inl hsent
    right
    by_contra hbarred
    obtain ⟨call, hcall, htoken⟩ := hexpired
    obtain ⟨bs, t, hbs, ht⟩ := canSend hs hcall (not_not.1 hsent) hbarred
    exact h ⟨call, hcall, htoken⟩ hsent bs t hbs ht
  · intro h hexpired hsent bs t hbs
    have hbarred : s.Barred c := (h hexpired).resolve_left hsent
    have hkept : t.Barred c ∧ Good t c :=
      StepSystem.run_invariant (P := fun s => Barred s c ∧ Good s c)
        (fun u a v hu hstep => ⟨hu.1.step hu.2.tracked (step_affects c hstep), hu.2.step hstep⟩) ⟨hbarred, hs⟩ hbs
    exact fun hsent' => hsent' hkept.1.1

end Send

/-! ### A goal that is sent for a cancelled token -/

/-- The token is cancelled while the call waits for the action server. -/
noncomputable def sampleRevoked : Nav2 ℝ :=
  (StepSystem.run Nav2.step (Nav2.initial "base_link" 0)
    [.navigate 0 sampleNavigate sampleNavigate.timeoutS ["map"], .runItem (.ok true), .resume 0 .clientCreated,
      .resume 0 .tokenCancelled]).getD (Nav2.initial "base_link" 0)

theorem noGoalAfterExpiry_open :
    StepSystem.run Nav2.step (Nav2.initial "base_link" 0)
        [.navigate 0 sampleNavigate 120 ["map"], .runItem (.ok true), .resume 0 .clientCreated,
          .resume 0 .tokenCancelled] = some sampleRevoked ∧
      sampleRevoked.Expired 0 ∧ ¬ sampleRevoked.Sent 0 ∧
      ∃ t, StepSystem.run Nav2.step sampleRevoked (.runItem (.ok true) :: sampleSend 0 true) = some t ∧ t.Sent 0 := by
  have hunsent : sampleRevoked.goals 0 = .unsent := rfl
  obtain ⟨t, hrun, haccepted⟩ : ∃ t, StepSystem.run Nav2.step sampleRevoked
      (.runItem (.ok true) :: sampleSend 0 true) = some t ∧ t.goals 0 = .accepted := ⟨_, rfl, rfl⟩
  refine ⟨rfl, ⟨_, rfl, .inl rfl⟩, fun hsent => hsent hunsent, t, hrun, ?_⟩
  rw [Sent, haccepted]
  rintro ⟨⟩

/-- The action server has not answered in time, and the token is cancelled before the call goes on with this reply. -/
noncomputable def sampleRefused : Nav2 ℝ :=
  (StepSystem.run Nav2.step (Nav2.initial "base_link" 0)
    [.navigate 0 sampleNavigate sampleNavigate.timeoutS ["map"], .runItem (.ok true), .resume 0 .clientCreated,
      .runItem (.ok false), .resume 0 .tokenCancelled]).getD (Nav2.initial "base_link" 0)

theorem noGoalAfterExpiry_sample : sampleRefused.Expired 0 ∧ sampleRefused.NoGoalAfterExpiry 0 := by
  have hrun : StepSystem.run Nav2.step (Nav2.initial "base_link" 0)
      [.navigate 0 sampleNavigate 120 ["map"], .runItem (.ok true), .resume 0 .clientCreated,
        .runItem (.ok false), .resume 0 .tokenCancelled] = some sampleRefused := rfl
  obtain ⟨call, hcall, hpoint, hreply⟩ : ∃ call, sampleRefused.calls 0 = some call ∧
      call.point = .waitingForServer ∧ call.reply = some (.ok false) := ⟨_, rfl, rfl, rfl⟩
  refine ⟨⟨_, rfl, .inl rfl⟩, (noGoalAfterExpiry_iff hrun 0).2 fun _ => .inr ⟨rfl, ?_, call, hcall, ?_⟩⟩
  · have hjobs : sampleRefused.jobs 0 = [] := rfl
    rw [hjobs]
    exact List.not_mem_nil
  · rw [NavCall.Refused, hpoint, hreply]

end Nav2

end RosMcp
