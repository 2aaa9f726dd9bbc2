import RosMcp.Navigation.Affects

/-!
# A call of `navigate`, its goal and the slot

The invariant `Tracked` relates the point of a call to the state of its goal, to its jobs in the queue and to the slot:
the handle of a goal is in the slot only while its call is in the loop, or after a call that left the loop without
clearing it; a goal is not sent before its job was run; what the call has been told about its goal is true.  Every step
keeps it (`Tracked.step`), by the cases of `Affects`.
-/

namespace RosMcp

variable {N : Type}

namespace Nav2

/-! ### The invariant -/

/-- The waiting jobs of a call, without the one of its result task. -/
def ownJobs (s : Nav2 N) (c : NavId) : List NavJob := (s.jobs c).filter (· ≠ .getResult)

/-- The call `c` fits its goal, its jobs and the slot. -/
structure Tracked (s : Nav2 N) (c : NavId) : Prop where
  slot : s.activeGoalHandle = some c →
    ∃ call, s.calls c = some call ∧ (call.point.inLoop = true ∨ call.point.isEnded = true)
  uncalled : s.calls c = none → s.goals c = .unsent ∧ s.jobs c = []
  before : ∀ call, s.calls c = some call → call.point.beforeGoal = true → s.goals c = .unsent
  requested : s.Requested c → .cancelGoal ∉ s.jobs c ∧
    ∃ call, s.calls c = some call ∧ call.point.afterCancel = true
  jobs : s.ownJobs c = [] ∨ ∃ job, s.ownJobs c = [job] ∧ ∃ call, s.calls c = some call ∧
    (call.point.isEnded = true ∨ call.point.awaits = some job ∧ call.reply = none)
  queued : .sendGoal ∈ s.jobs c → s.goals c = .unsent
  answered : ∀ call b, s.calls c = some call → call.point = .sending → call.reply = some (.ok b) →
    s.goalReply c = some b
  reported : ∀ call status, s.calls c = some call →
    (call.resultTask = .replied (.ok status) ∨ call.resultTask = .done (.ok status)) →
    isTerminalStatus status = true → s.goals c = .ended status

/-! ### The invariant is kept -/

variable {s t : Nav2 N} {c : NavId}

theorem initial_tracked (baseFrame : String) (now : N) (c : NavId) : Tracked (Nav2.initial baseFrame now) c where
  slot := by rintro ⟨⟩
  uncalled := fun _ => ⟨rfl, rfl⟩
  before := by rintro call ⟨⟩
  requested := fun hr => absurd hr (List.not_mem_nil)
  jobs := .inl rfl
  queued := fun hj => absurd hj (List.not_mem_nil)
  answered := by rintro call b ⟨⟩
  reported := by rintro call status ⟨⟩

private theorem mem_ownJobs {job : NavJob} (hjob : job ≠ .getResult) (hmem : job ∈ s.jobs c) : job ∈ s.ownJobs c :=
  List.mem_filter.2 ⟨hmem, by simpa using hjob⟩

theorem notMem_jobs {job : NavJob} (hnil : s.ownJobs c = []) (hjob : job ≠ .getResult) : job ∉ s.jobs c := by
  intro hmem
  have hown := mem_ownJobs hjob hmem
  rw [hnil] at hown
  cases hown

/-- The call whose goal is in the slot is in its loop, or has ended. -/
theorem Tracked.point_of_slot (h : Tracked s c) {call : NavCall N} (hcall : s.calls c = some call)
    (hs : s.activeGoalHandle = some c) : call.point.inLoop = true ∨ call.point.isEnded = true := by
  obtain ⟨call', hcall', hp⟩ := h.slot hs
  obtain rfl : call = call' := Option.some.inj (hcall.symm.trans hcall')
  exact hp

/-- The call that a waiting job belongs to awaits it, or has ended. -/
theorem Tracked.awaited (h : Tracked s c) {call : NavCall N} (hcall : s.calls c = some call) {job : NavJob}
    (hjob : job ≠ .getResult) (hmem : job ∈ s.jobs c) :
    call.point.isEnded = true ∨ call.point.awaits = some job ∧ call.reply = none := by
  have hown := mem_ownJobs hjob hmem
  rcases h.jobs with hnil | ⟨job', hjobs, call', hcall', hawaits⟩
  · rw [hnil] at hown
    cases hown
  · obtain rfl : call = call' := Option.some.inj (hcall.symm.trans hcall')
    rw [hjobs, List.mem_singleton] at hown
    rw [hown]
    exact hawaits

/-- A call that goes on has none of its jobs waiting. -/
theorem Tracked.no_jobs (h : Tracked s c) {call : NavCall N} (hcall : s.calls c = some call)
    (hlive : call.point.isEnded = false) (hreplied : call.Replied) : s.ownJobs c = [] := by
  rcases h.jobs with hnil | ⟨job, -, call', hcall', hawaits⟩
  · exact hnil
  · obtain rfl : call = call' := Option.some.inj (hcall.symm.trans hcall')
    rcases hawaits with hended | ⟨hawaits, hreply⟩
    · rw [hlive] at hended
      cases hended
    · rcases hreplied with hnone | hsome
      · rw [hnone] at hawaits
        cases hawaits
      · exact absurd hreply hsome

/-- A call none of whose jobs is the one that it awaits has none waiting. -/
private theorem Tracked.no_jobs_of_awaits (h : Tracked s c) {call : NavCall N} (hcall : s.calls c = some call)
    (hlive : call.point.isEnded = false) {job : NavJob} (hawaits : call.point.awaits = some job)
    (hjob : job ∉ s.jobs c) : s.ownJobs c = [] := by
  rcases h.jobs with hnil | ⟨job', hjobs, call', hcall', hawaits'⟩
  · exact hnil
  · obtain rfl : call = call' := Option.some.inj (hcall.symm.trans hcall')
    rcases hawaits' with hended | ⟨hawaits', -⟩
    · rw [hlive] at hended
      cases hended
    · obtain rfl : job' = job := Option.some.inj (hawaits'.symm.trans hawaits)
      have hmem : job' ∈ s.ownJobs c := by
        rw [hjobs]
        exact List.mem_cons_self
      exact absurd (List.mem_of_mem_filter hmem) hjob

/-- A step that leaves the call, its goal and its jobs alone. -/
private theorem Tracked.frame (h : Tracked s c) (hcalls : t.calls c = s.calls c) (hgoal : t.goals c = s.goals c)
    (hslot : t.activeGoalHandle = some c → s.activeGoalHandle = some c) (hjobs : t.jobs c = s.jobs c)
    (hrequested : t.Requested c → s.Requested c) : Tracked t c := by
  have hreply : t.goalReply c = s.goalReply c := by simp only [goalReply, hgoal]
  have hown : t.ownJobs c = s.ownJobs c := by simp only [ownJobs, hjobs]
  constructor
  case slot =>
    intro hs
    rw [hcalls]
    exact h.slot (hslot hs)
  case uncalled =>
    rw [hcalls, hgoal, hjobs]
    exact h.uncalled
  case before =>
    rw [hcalls, hgoal]
    exact h.before
  case requested =>
    intro hr
    rw [hcalls, hjobs]
    exact h.requested (hrequested hr)
  case jobs =>
    rw [hcalls, hown]
    exact h.jobs
  case queued =>
    rw [hjobs, hgoal]
    exact h.queued
  case answered =>
    rw [hcalls, hreply]
    exact h.answered
  case reported =>
    rw [hcalls, hgoal]
    exact h.reported

/-- A turn keeps the invariant when it moves on in the order of the points, hands over only the job that it then
awaits, and takes the result from its result task. -/
private theorem Tracked.turn_of (h : Tracked s c) {call : NavCall N} (hcall : s.calls c = some call) (tn : NavTurn N)
    (hslot : SlotWrite.apply c s.activeGoalHandle tn.slot = some c →
      tn.call.point.inLoop = true ∨ tn.call.point.isEnded = true)
    (hbefore : tn.call.point.beforeGoal = true → call.point.beforeGoal = true)
    (hafter : call.point.afterCancel = true → tn.call.point.afterCancel = true ∧ tn.job ≠ some .cancelGoal)
    (hjobs : (s.ownJobs c = [] ∧ ∀ job, tn.job = some job → tn.call.point.awaits = some job ∧ tn.call.reply = none) ∨
      (tn.job = none ∨ tn.job = some .getResult) ∧
        (tn.call.point.isEnded = true ∨ tn.call.point = call.point ∧ tn.call.reply = call.reply))
    (hqueued : tn.job = some .sendGoal → s.goals c = .unsent)
    (hanswered : ∀ b, tn.call.point = .sending → tn.call.reply = some (.ok b) →
      call.point = .sending ∧ call.reply = some (.ok b))
    (hreported : ∀ status, tn.call.resultTask = .replied (.ok status) ∨ tn.call.resultTask = .done (.ok status) →
      call.resultTask = .replied (.ok status) ∨ call.resultTask = .done (.ok status)) :
    Tracked (s.turn c tn) c := by
  constructor
  case slot =>
    intro hs
    exact ⟨tn.call, turn_calls_self .., hslot hs⟩
  case uncalled =>
    intro hnone
    rw [turn_calls_self] at hnone
    cases hnone
  case before =>
    intro call' hcall' hpoint
    obtain rfl := eq_of_turn hcall'
    exact h.before call hcall (hbefore hpoint)
  case requested =>
    intro hr
    obtain ⟨hnot, call', hcall', hpoint⟩ := h.requested hr
    obtain rfl : call = call' := Option.some.inj (hcall.symm.trans hcall')
    obtain ⟨hpoint', hjob⟩ := hafter hpoint
    refine ⟨?_, tn.call, turn_calls_self .., hpoint'⟩
    rw [turn_jobs_self, List.mem_append]
    rintro (hmem | hmem)
    · exact hnot hmem
    · exact hjob (by simpa using hmem)
  case jobs =>
    have hown : (s.turn c tn).ownJobs c = s.ownJobs c ++ tn.job.toList.filter (· ≠ .getResult) := by
      simp only [ownJobs, turn_jobs_self, List.filter_append]
    rcases hjobs with ⟨hnil, hawaits⟩ | ⟨hjob, hpoint⟩
    · rw [hown, hnil]
      cases hj : tn.job with
      | none => exact .inl rfl
      | some job =>
        obtain ⟨ha, hr⟩ := hawaits job hj
        by_cases hg : job = .getResult
        · subst hg
          exact .inl rfl
        · right
          refine ⟨job, ?_, tn.call, turn_calls_self .., .inr ⟨ha, hr⟩⟩
          simp [hg]
    · have hsame : (s.turn c tn).ownJobs c = s.ownJobs c := by
        rw [hown]
        rcases hjob with hj | hj <;> simp [hj]
      rw [hsame]
      rcases h.jobs with hnil | ⟨job, hjobs, call', hcall', hawaits⟩
      · exact .inl hnil
      · obtain rfl : call = call' := Option.some.inj (hcall.symm.trans hcall')
        refine .inr ⟨job, hjobs, tn.call, turn_calls_self .., ?_⟩
        rcases hpoint with hended | ⟨hp, hr⟩
        · exact .inl hended
        · rw [hp, hr]
          exact hawaits
  case queued =>
    intro hmem
    rw [turn_jobs_self, List.mem_append] at hmem
    rcases hmem with hmem | hmem
    · exact h.queued hmem
    · exact hqueued (by simpa using hmem)
  case answered =>
    intro call' b hcall' hpoint hreply
    obtain rfl := eq_of_turn hcall'
    obtain ⟨hpoint', hreply'⟩ := hanswered b hpoint hreply
    exact h.answered call b hcall hpoint' hreply'
  case reported =>
    intro call' status hcall' htask hterminal
    obtain rfl := eq_of_turn hcall'
    exact h.reported call status hcall (hreported status htask) hterminal

/-! #### One lemma for each await -/

section Turns

variable {call : NavCall N}

/-- Outside the loop the handle of the goal is not in the slot. -/
private theorem Tracked.slot_ne (h : Tracked s c) (hcall : s.calls c = some call) (hloop : call.point.inLoop = false)
    (hended : call.point.isEnded = false) : s.activeGoalHandle ≠ some c := by
  intro hs
  have hp := h.point_of_slot hcall hs
  simp [hloop, hended] at hp

private theorem Tracked.slot_keep (h : Tracked s c) (hcall : s.calls c = some call)
    (hs : SlotWrite.apply c s.activeGoalHandle .keep = some c) :
    call.point.inLoop = true ∨ call.point.isEnded = true := h.point_of_slot hcall hs

private theorem Tracked.turn_waits (h : Tracked s c) (hcall : s.calls c = some call) {b : Bool}
    (hpoint : call.point = .ensuringClient) (hreply : call.reply = some (.ok b)) :
    Tracked (s.turn c { call.waitForServer with client := true }) c := by
  refine h.turn_of hcall _ (fun hs => absurd hs (h.slot_ne hcall (by rw [hpoint]; rfl) (by rw [hpoint]; rfl))) ?_ ?_
    (.inl ⟨h.no_jobs hcall (by rw [hpoint]; rfl) (.inr (by rw [hreply]; simp)), ?_⟩) ?_ ?_ (fun _ => id)
  · intro _
    rw [hpoint]
    rfl
  · rw [hpoint]
    rintro ⟨⟩
  · rintro job ⟨⟩
    exact ⟨rfl, rfl⟩
  · rintro ⟨⟩
  · rintro b ⟨⟩

private theorem Tracked.turn_localizes (h : Tracked s c) (hcall : s.calls c = some call)
    (hpoint : call.point = .waitingForServer) (hreply : call.reply = some (.ok true)) :
    Tracked (s.turn c { call := { call with point := .localizing, reply := none } }) c := by
  refine h.turn_of hcall _ (fun hs => absurd hs (h.slot_ne hcall (by rw [hpoint]; rfl) (by rw [hpoint]; rfl))) ?_ ?_
    (.inl ⟨h.no_jobs hcall (by rw [hpoint]; rfl) (.inr (by rw [hreply]; simp)), ?_⟩) ?_ ?_ (fun _ => id)
  · intro _
    rw [hpoint]
    rfl
  · rw [hpoint]
    rintro ⟨⟩
  · rintro job ⟨⟩
  · rintro ⟨⟩
  · rintro b ⟨⟩

private theorem Tracked.turn_sends (h : Tracked s c) (hcall : s.calls c = some call)
    (hpoint : call.point = .localizing) : Tracked (s.turn c (call.submit .sending .sendGoal)) c := by
  refine h.turn_of hcall _ (fun hs => absurd hs (h.slot_ne hcall (by rw [hpoint]; rfl) (by rw [hpoint]; rfl))) ?_ ?_
    (.inl ⟨h.no_jobs hcall (by rw [hpoint]; rfl) (.inl (by rw [hpoint]; rfl)), ?_⟩) ?_ ?_ (fun _ => id)
  · rintro ⟨⟩
  · rw [hpoint]
    rintro ⟨⟩
  · rintro job ⟨⟩
    exact ⟨rfl, rfl⟩
  · intro _
    exact h.before call hcall (by rw [hpoint]; rfl)
  · rintro b - ⟨⟩

private theorem Tracked.turn_accepted (h : Tracked s c) (hcall : s.calls c = some call)
    (hpoint : call.point = .sending) (hreply : call.reply = some (.ok true)) :
    Tracked (s.turn c { call := { call with resultTask := .scheduled, point := .sleeping }, slot := .own }) c := by
  refine h.turn_of hcall _ (fun _ => .inl rfl) ?_ ?_
    (.inl ⟨h.no_jobs hcall (by rw [hpoint]; rfl) (.inr (by rw [hreply]; simp)), ?_⟩) ?_ ?_ ?_
  · rintro ⟨⟩
  · rw [hpoint]
    rintro ⟨⟩
  · rintro job ⟨⟩
  · rintro ⟨⟩
  · rintro b ⟨⟩
  · rintro status (⟨⟨⟩⟩ | ⟨⟨⟩⟩)

private theorem Tracked.turn_acceptedLate (h : Tracked s c) (hcall : s.calls c = some call) (outcome : EarlyExit)
    (hpoint : call.point = .sending) (hreply : call.reply = some (.ok true)) :
    Tracked (s.turn c { ({ call with resultTask := .scheduled } : NavCall N).submit (.cancelling outcome) .cancelGoal
      with slot := .own }) c := by
  refine h.turn_of hcall _ (fun _ => .inl rfl) ?_ ?_
    (.inl ⟨h.no_jobs hcall (by rw [hpoint]; rfl) (.inr (by rw [hreply]; simp)), ?_⟩) ?_ ?_ ?_
  · rintro ⟨⟩
  · rw [hpoint]
    rintro ⟨⟩
  · rintro job ⟨⟩
    exact ⟨rfl, rfl⟩
  · rintro ⟨⟩
  · rintro b ⟨⟩
  · rintro status (⟨⟨⟩⟩ | ⟨⟨⟩⟩)

private theorem Tracked.turn_sleeps (h : Tracked s c) (hcall : s.calls c = some call)
    (hpoint : call.point = .sleeping) : Tracked (s.turn c { call := { call with point := .sleeping } }) c := by
  refine h.turn_of hcall _ (fun _ => .inl rfl) ?_ ?_ (.inr ⟨.inl rfl, .inr ⟨hpoint.symm, rfl⟩⟩) ?_ ?_ (fun _ => id)
  · rintro ⟨⟩
  · rw [hpoint]
    rintro ⟨⟩
  · rintro ⟨⟩
  · rintro b ⟨⟩

private theorem Tracked.turn_cancels (h : Tracked s c) (hcall : s.calls c = some call) (outcome : EarlyExit)
    (hpoint : call.point = .sleeping) : Tracked (s.turn c (call.submit (.cancelling outcome) .cancelGoal)) c := by
  refine h.turn_of hcall _ (fun _ => .inl rfl) ?_ ?_
    (.inl ⟨h.no_jobs hcall (by rw [hpoint]; rfl) (.inl (by rw [hpoint]; rfl)), ?_⟩) ?_ ?_ (fun _ => id)
  · rintro ⟨⟩
  · rw [hpoint]
    rintro ⟨⟩
  · rintro job ⟨⟩
    exact ⟨rfl, rfl⟩
  · rintro ⟨⟩
  · rintro b ⟨⟩

private theorem Tracked.turn_awaits (h : Tracked s c) (hcall : s.calls c = some call) (outcome : EarlyExit)
    (hpoint : call.point = .cancelling outcome) (hreplied : call.Replied) :
    Tracked (s.turn c { call := { call with point := .awaitingResult outcome, reply := none } }) c := by
  refine h.turn_of hcall _ (fun _ => .inl rfl) ?_ (fun _ => ⟨rfl, by rintro ⟨⟩⟩)
    (.inl ⟨h.no_jobs hcall (by rw [hpoint]; rfl) hreplied, ?_⟩) ?_ ?_ (fun _ => id)
  · rintro ⟨⟩
  · rintro job ⟨⟩
  · rintro ⟨⟩
  · rintro b ⟨⟩

private theorem Tracked.turn_leaves (h : Tracked s c) (hcall : s.calls c = some call) (outcome : Option EarlyExit)
    (hpoint : call.point.inLoop = true) (hreplied : call.Replied) :
    Tracked (s.turn c (call.leaveLoop outcome)) c := by
  have hlive : call.point.isEnded = false := NavPoint.isEnded_of_inLoop hpoint
  refine h.turn_of hcall _ (by rintro ⟨⟩) ?_ (fun _ => ⟨rfl, by rintro ⟨⟩⟩)
    (.inl ⟨h.no_jobs hcall hlive hreplied, ?_⟩) ?_ ?_ (fun _ => id)
  · rintro ⟨⟩
  · rintro job ⟨⟩
  · rintro ⟨⟩
  · rintro b ⟨⟩

private theorem Tracked.turn_expires (h : Tracked s c) (hcall : s.calls c = some call) (outcome : EarlyExit)
    (hpoint : call.point = .awaitingResult outcome) :
    Tracked (s.turn c (({ call with resultTask := .cancelled } : NavCall N).leaveLoop (some outcome))) c := by
  refine h.turn_of hcall _ (by rintro ⟨⟩) ?_ (fun _ => ⟨rfl, by rintro ⟨⟩⟩)
    (.inl ⟨h.no_jobs hcall (by rw [hpoint]; rfl) (.inl (by rw [hpoint]; rfl)), ?_⟩) ?_ ?_ ?_
  · rintro ⟨⟩
  · rintro job ⟨⟩
  · rintro ⟨⟩
  · rintro b ⟨⟩
  · rintro status (⟨⟨⟩⟩ | ⟨⟨⟩⟩)

private theorem Tracked.turn_ends (h : Tracked s c) (hcall : s.calls c = some call) (o : NavOutcome N) :
    Tracked (s.turn c (call.endWith o)) c := by
  refine h.turn_of hcall _ (fun _ => .inr rfl) ?_ (fun _ => ⟨rfl, by rintro ⟨⟩⟩) (.inr ⟨.inl rfl, .inl rfl⟩) ?_ ?_
    (fun _ => id)
  · rintro ⟨⟩
  · rintro ⟨⟩
  · rintro b ⟨⟩

private theorem Tracked.turn_cancelled (h : Tracked s c) (hcall : s.calls c = some call) :
    Tracked (s.turn c (({ call with resultTask := .cancelled } : NavCall N).endWith .cancelled)) c := by
  refine h.turn_of hcall _ (fun _ => .inr rfl) ?_ (fun _ => ⟨rfl, by rintro ⟨⟩⟩) (.inr ⟨.inl rfl, .inl rfl⟩) ?_ ?_ ?_
  · rintro ⟨⟩
  · rintro ⟨⟩
  · rintro b ⟨⟩
  · rintro status (⟨⟨⟩⟩ | ⟨⟨⟩⟩)

private theorem Tracked.turn_tokenCancelled (h : Tracked s c) (hcall : s.calls c = some call) :
    Tracked (s.turn c { call := { call with tokenCancelled := true } }) c := by
  have hslot := h.slot_keep hcall
  refine h.turn_of hcall _ hslot id (fun hp => ⟨hp, by rintro ⟨⟩⟩) (.inr ⟨.inl rfl, .inr ⟨rfl, rfl⟩⟩) ?_
    (fun b hp hr => ⟨hp, hr⟩) (fun _ => id)
  rintro ⟨⟩

private theorem Tracked.turn_resultTaskStarted (h : Tracked s c) (hcall : s.calls c = some call) :
    Tracked (s.turn c { call := { call with resultTask := .queued }, job := some .getResult }) c := by
  have hslot := h.slot_keep hcall
  refine h.turn_of hcall _ hslot id (fun hp => ⟨hp, by rintro ⟨⟩⟩) (.inr ⟨.inr rfl, .inr ⟨rfl, rfl⟩⟩) ?_
    (fun b hp hr => ⟨hp, hr⟩) ?_
  · rintro ⟨⟩
  · rintro status (⟨⟨⟩⟩ | ⟨⟨⟩⟩)

private theorem Tracked.turn_resultTaskEnded (h : Tracked s c) (hcall : s.calls c = some call)
    (r : Except PyException ℤ) (htask : call.resultTask = .replied r) :
    Tracked (s.turn c { call := { call with resultTask := .done r } }) c := by
  have hslot := h.slot_keep hcall
  refine h.turn_of hcall _ hslot id (fun hp => ⟨hp, by rintro ⟨⟩⟩) (.inr ⟨.inl rfl, .inr ⟨rfl, rfl⟩⟩) ?_
    (fun b hp hr => ⟨hp, hr⟩) ?_
  · rintro ⟨⟩
  · rintro status (⟨⟨⟩⟩ | ⟨⟨⟩⟩)
    exact .inl htask

/-- Every turn keeps the invariant. -/
private theorem Tracked.turn (h : Tracked s c) (hcall : s.calls c = some call) {tn : NavTurn N}
    (hturn : call.Turns tn) :
    Tracked (s.turn c tn) c := by
  cases hturn with
  | waits hpoint hreply => exact h.turn_waits hcall hpoint hreply
  | localizes hpoint hreply => exact h.turn_localizes hcall hpoint hreply
  | sends hpoint => exact h.turn_sends hcall hpoint
  | accepted hpoint hreply => exact h.turn_accepted hcall hpoint hreply
  | acceptedLate outcome hpoint hreply => exact h.turn_acceptedLate hcall outcome hpoint hreply
  | sleeps hpoint => exact h.turn_sleeps hcall hpoint
  | cancels outcome hpoint => exact h.turn_cancels hcall outcome hpoint
  | awaits outcome hpoint hreplied => exact h.turn_awaits hcall outcome hpoint hreplied
  | leaves outcome hpoint hreplied => exact h.turn_leaves hcall outcome hpoint hreplied
  | expires outcome hpoint => exact h.turn_expires hcall outcome hpoint
  | ends o => exact h.turn_ends hcall o
  | cancelled => exact h.turn_cancelled hcall
  | tokenCancelled => exact h.turn_tokenCancelled hcall
  | resultTaskStarted => exact h.turn_resultTaskStarted hcall
  | resultTaskEnded r htask => exact h.turn_resultTaskEnded hcall r htask

end Turns

/-- What arrives from the ROS thread changes neither the goal nor the jobs of the call. -/
private theorem Tracked.modify (h : Tracked s c) (f : NavCall N → NavCall N)
    (hpoint : ∀ call, (f call).point = call.point)
    (hreply : ∀ call, s.calls c = some call → (f call).reply = call.reply ∨
      s.ownJobs c = [] ∧ ∀ b, call.point = .sending → (f call).reply = some (.ok b) → s.goalReply c = some b)
    (hreported : ∀ call status, s.calls c = some call →
      ((f call).resultTask = .replied (.ok status) ∨ (f call).resultTask = .done (.ok status)) →
      (call.resultTask = .replied (.ok status) ∨ call.resultTask = .done (.ok status)) ∨
        (isTerminalStatus status = true → s.goals c = .ended status)) :
    Tracked (s.modifyCall c f) c := by
  have modified : ∀ call, s.calls c = some call → (s.modifyCall c f).calls c = some (f call) := by
    intro call hcall
    rw [modifyCall_calls_self, hcall]
    rfl
  constructor
  case slot =>
    intro hs
    obtain ⟨call, hcall, hp⟩ := h.slot hs
    exact ⟨f call, modified call hcall, by rw [hpoint]; exact hp⟩
  case uncalled =>
    intro hnone
    rw [modifyCall_calls_self, Option.map_eq_none_iff] at hnone
    exact h.uncalled hnone
  case before =>
    intro call' hcall' hp
    obtain ⟨call, hcall, rfl⟩ := exists_of_modifyCall hcall'
    rw [hpoint] at hp
    exact h.before call hcall hp
  case requested =>
    intro hr
    obtain ⟨hnot, call, hcall, hp⟩ := h.requested hr
    exact ⟨hnot, f call, modified call hcall, by rw [hpoint]; exact hp⟩
  case jobs =>
    rcases h.jobs with hnil | ⟨job, hjobs, call, hcall, hawaits⟩
    · exact .inl hnil
    · rcases hreply call hcall with hsame | ⟨hnil, -⟩
      · exact .inr ⟨job, hjobs, f call, modified call hcall, by rw [hpoint, hsame]; exact hawaits⟩
      · exact .inl hnil
  case queued => exact h.queued
  case answered =>
    intro call' b hcall' hp hr
    obtain ⟨call, hcall, rfl⟩ := exists_of_modifyCall hcall'
    rw [hpoint] at hp
    rcases hreply call hcall with hsame | ⟨-, hgoal⟩
    · rw [hsame] at hr
      exact h.answered call b hcall hp hr
    · exact hgoal b hp hr
  case reported =>
    intro call' status hcall' htask hterminal
    obtain ⟨call, hcall, rfl⟩ := exists_of_modifyCall hcall'
    rcases hreported call status hcall htask with htask' | hgoal
    · exact h.reported call status hcall htask' hterminal
    · exact hgoal hterminal

/-- The first job of the call leaves the queue. -/
theorem Tracked.pop (h : Tracked s c) {job : NavJob} {rest : List RosItem}
    (hqueue : s.workQueue = .job c job :: rest) :
    Tracked { s with workQueue := rest } c ∧ s.jobs c = job :: ({ s with workQueue := rest } : Nav2 N).jobs c := by
  have hjobs : s.jobs c = job :: ({ s with workQueue := rest } : Nav2 N).jobs c := by
    simp [Nav2.jobs, hqueue, RosItem.jobOf]
  have hsub : ∀ job', job' ∈ ({ s with workQueue := rest } : Nav2 N).jobs c → job' ∈ s.jobs c := by
    intro job' hmem
    rw [hjobs]
    exact List.mem_cons_of_mem _ hmem
  refine ⟨?_, hjobs⟩
  constructor
  case slot => exact h.slot
  case uncalled =>
    intro hnone
    have hnil := (h.uncalled hnone).2
    rw [hjobs] at hnil
    cases hnil
  case before => exact h.before
  case requested =>
    intro hr
    obtain ⟨hnot, hcall⟩ := h.requested hr
    exact ⟨fun hmem => hnot (hsub _ hmem), hcall⟩
  case jobs =>
    have hown : s.ownJobs c = if job = .getResult then ({ s with workQueue := rest } : Nav2 N).ownJobs c
        else job :: ({ s with workQueue := rest } : Nav2 N).ownJobs c := by
      unfold ownJobs
      rw [hjobs, List.filter_cons]
      split <;> simp_all
    rcases h.jobs with hnil | ⟨job', hsingle, hcall⟩
    · left
      rw [hown] at hnil
      split at hnil
      · exact hnil
      · cases hnil
    · rw [hown] at hsingle
      split at hsingle
      · exact .inr ⟨job', hsingle, hcall⟩
      · left
        exact (List.cons.inj hsingle).2
  case queued => exact fun hmem => h.queued (hsub _ hmem)
  case answered => exact h.answered
  case reported => exact h.reported

/-- The job that is run was the only one that the call awaits. -/
theorem Tracked.popped (h : Tracked s c) {job : NavJob} {rest : List RosItem}
    (hqueue : s.workQueue = .job c job :: rest) (hjob : job ≠ .getResult) :
    ({ s with workQueue := rest } : Nav2 N).ownJobs c = [] ∧ ∃ call, s.calls c = some call ∧
      (call.point.isEnded = true ∨ call.point.awaits = some job ∧ call.reply = none) := by
  have hown : s.ownJobs c = job :: ({ s with workQueue := rest } : Nav2 N).ownJobs c := by
    unfold ownJobs
    rw [(h.pop hqueue).2, List.filter_cons_of_pos (by simpa using hjob)]
  rcases h.jobs with hnil | ⟨job', hsingle, call, hcall, hawaits⟩
  · rw [hown] at hnil
    cases hnil
  · rw [hown] at hsingle
    obtain ⟨rfl, hnil⟩ := List.cons.inj hsingle
    exact ⟨hnil, call, hcall, hawaits⟩

private theorem Tracked.run (h : Tracked s c) {job : NavJob} {rest : List RosItem} (outcome : Except PyException Bool)
    (hqueue : s.workQueue = .job c job :: rest) :
    Tracked ({ s with workQueue := rest }.execute outcome (.job c job)) c := by
  obtain ⟨hpop, hjobs⟩ := h.pop hqueue
  -- the reply to a job that is not the one of the goal
  have answers : ∀ r, job ≠ .getResult → (∀ b, r = .ok b → job ≠ .sendGoal) →
      Tracked (({ s with workQueue := rest } : Nav2 N).answer c r) c := by
    intro r hjob hsend
    obtain ⟨hnil, call₀, hcall₀, hawaits⟩ := h.popped hqueue hjob
    refine hpop.modify _ (fun _ => rfl) ?_ (fun _ _ _ => .inl)
    intro call hcall
    refine .inr ⟨hnil, ?_⟩
    intro b hp hr
    obtain rfl : call₀ = call := Option.some.inj (hcall₀.symm.trans hcall)
    rw [hp] at hawaits
    rcases hawaits with ⟨⟨⟩⟩ | ⟨ha, -⟩
    exact absurd (Option.some.inj ha).symm (hsend b (Option.some.inj hr))
  cases job with
  | createClient => exact answers outcome (by decide) (fun _ _ => by decide)
  | waitForServer => exact answers outcome (by decide) (fun _ _ => by decide)
  | getResult =>
    refine hpop.modify _ (fun _ => rfl) (fun _ _ => .inl rfl) ?_
    intro call status hcall htask
    left
    unfold ResultTask.requested at htask
    cases hr : call.resultTask <;> simp only [hr] at htask <;> try exact htask
    cases outcome <;> simp at htask
  | cancelGoal =>
    obtain ⟨hnil, call, hcall, hawaits⟩ := h.popped hqueue (by decide)
    cases outcome with
    | error exc => exact answers (.error exc) (by decide) (fun _ _ => by decide)
    | ok b =>
      constructor
      case slot => exact hpop.slot
      case uncalled => exact hpop.uncalled
      case before => exact hpop.before
      case requested =>
        intro _
        refine ⟨?_, call, hcall, ?_⟩
        · exact notMem_jobs (s := { s with workQueue := rest }) hnil (by decide)
        · rcases hawaits with hended | ⟨ha, -⟩
          · cases hp : call.point <;> simp [hp, NavPoint.isEnded] at hended
            rfl
          · cases hp : call.point <;> simp [hp, NavPoint.awaits] at ha
            rfl
      case jobs => exact hpop.jobs
      case queued => exact hpop.queued
      case answered => exact hpop.answered
      case reported => exact hpop.reported
  | sendGoal =>
    obtain ⟨hnil, call, hcall, hawaits⟩ := h.popped hqueue (by decide)
    cases outcome with
    | error exc => exact answers (.error exc) (by decide) (fun b hb => by cases hb)
    | ok b =>
      have hunsent : s.goals c = .unsent := h.queued (by rw [hjobs]; exact List.mem_cons_self)
      have hgone : .sendGoal ∉ ({ s with workQueue := rest } : Nav2 N).jobs c := notMem_jobs hnil (by decide)
      constructor
      case slot => exact hpop.slot
      case uncalled =>
        intro hnone
        exact absurd (hcall.symm.trans hnone) (by simp)
      case before =>
        intro call' hcall' hp
        obtain rfl : call = call' := Option.some.inj (hcall.symm.trans hcall')
        rcases hawaits with hended | ⟨ha, -⟩
        · cases hp' : call.point <;> simp [hp', NavPoint.isEnded, NavPoint.beforeGoal] at hended hp
        · cases hp' : call.point <;> simp [hp', NavPoint.awaits, NavPoint.beforeGoal] at ha hp
      case requested => exact hpop.requested
      case jobs => exact hpop.jobs
      case queued => exact fun hmem => absurd hmem hgone
      case answered =>
        intro call' b' hcall' hp hr
        obtain rfl : call = call' := Option.some.inj (hcall.symm.trans hcall')
        rw [hp] at hawaits
        rcases hawaits with ⟨⟨⟩⟩ | ⟨-, hnone⟩
        rw [hnone] at hr
        cases hr
      case reported =>
        intro call' status hcall' htask hterminal
        have hgoal := h.reported call' status hcall' htask hterminal
        rw [hunsent] at hgoal
        cases hgoal

/-- The action server decides on the goal or ends it. -/
private theorem Tracked.goal (h : Tracked s c) (g : GoalState)
    (hgoal : s.goals c = .sent ∨ s.goals c = .accepted ∧ ∃ status, g = .ended status) :
    Tracked { s with goals := Function.update s.goals c g } c := by
  have hsent : s.goals c ≠ .unsent := by
    rcases hgoal with hg | ⟨hg, -⟩ <;> rw [hg] <;> rintro ⟨⟩
  constructor
  case slot => exact h.slot
  case uncalled => exact fun hnone => absurd (h.uncalled hnone).1 hsent
  case before => exact fun call hcall hp => absurd (h.before call hcall hp) hsent
  case requested => exact h.requested
  case jobs => exact h.jobs
  case queued => exact fun hmem => absurd (h.queued hmem) hsent
  case answered =>
    intro call b hcall hp hr
    have hreply := h.answered call b hcall hp hr
    rcases hgoal with hg | ⟨hg, status, rfl⟩
    · simp [goalReply, hg] at hreply
    · simpa [goalReply, hg] using hreply
  case reported =>
    intro call status hcall htask hterminal
    have hended := h.reported call status hcall htask hterminal
    rcases hgoal with hg | ⟨hg, -⟩ <;> rw [hg] at hended <;> cases hended

section Run

variable [IntCast N] [Add N] [Sub N] [Mul N] [PyMath N] [LE N] [DecidableLE N]

omit [IntCast N] [Add N] [Mul N] [PyMath N] [LE N] [DecidableLE N] in
/-- `navigate` begins with its first job in the queue, or has ended at once. -/
theorem begin_cases (command : SemanticCommand N) (tokenDeadline now : N) (knownFrames : List String)
    (client : Bool) :
    ∃ call : NavCall N, call.reply = none ∧ call.resultTask = .absent ∧
      ((∃ o, NavCall.begin command tokenDeadline now knownFrames client = call.endWith o) ∨
        ∃ point job, NavCall.begin command tokenDeadline now knownFrames client = call.submit point job ∧
          point.beforeGoal = true ∧ point.awaits = some job) := by
  refine ⟨⟨command, false, tokenDeadline, now, none, .ensuringClient, none, .absent⟩, rfl, rfl, ?_⟩
  unfold NavCall.begin
  cases command.target with
  | move target => exact .inl ⟨_, rfl⟩
  | none => exact .inl ⟨_, rfl⟩
  | navigate target =>
    by_cases hframe : command.goalFrame ∉ knownFrames
    · exact .inl ⟨_, if_pos hframe⟩
    · right
      dsimp only
      rw [if_neg hframe]
      cases client with
      | true => exact ⟨.waitingForServer, .waitForServer, rfl, rfl, rfl⟩
      | false => exact ⟨.ensuringClient, .createClient, rfl, rfl, rfl⟩

omit [IntCast N] [Add N] [Mul N] [PyMath N] [LE N] [DecidableLE N] in
private theorem Tracked.begins (h : Tracked s c) (hnone : s.calls c = none) (command : SemanticCommand N)
    (tokenDeadline : N) (knownFrames : List String) :
    Tracked (s.turn c (NavCall.begin command tokenDeadline s.now knownFrames s.actionClient)) c := by
  obtain ⟨hunsent, hjobs⟩ := h.uncalled hnone
  have hslot : s.activeGoalHandle ≠ some c := by
    intro hs
    obtain ⟨call, hcall, -⟩ := h.slot hs
    rw [hnone] at hcall
    cases hcall
  have hrequested : ¬ s.Requested c := by
    intro hr
    obtain ⟨-, call, hcall, -⟩ := h.requested hr
    rw [hnone] at hcall
    cases hcall
  generalize hb : NavCall.begin command tokenDeadline s.now knownFrames s.actionClient = tn
  obtain ⟨call, hreply, htask, hcases⟩ := begin_cases command tokenDeadline s.now knownFrames s.actionClient
  rw [hb] at hcases
  have hnew : tn.call.reply = none ∧ tn.call.resultTask = .absent := by
    rcases hcases with ⟨o, rfl⟩ | ⟨point, job, rfl, -, -⟩
    · exact ⟨hreply, htask⟩
    · exact ⟨rfl, htask⟩
  have hown : (s.turn c tn).ownJobs c = [] ∨
      ∃ job, (s.turn c tn).ownJobs c = [job] ∧ tn.call.point.awaits = some job := by
    rw [ownJobs, turn_jobs_self, hjobs]
    rcases hcases with ⟨o, rfl⟩ | ⟨point, job, rfl, hbefore, hawaits⟩
    · exact .inl rfl
    · have hjob : job ≠ .getResult := by
        cases point <;> simp [NavPoint.awaits, NavPoint.beforeGoal] at hawaits hbefore <;> subst hawaits <;> decide
      exact .inr ⟨job, List.filter_cons_of_pos (by simpa using hjob), hawaits⟩
  constructor
  case slot =>
    have hkeep : tn.slot = .keep := by rcases hcases with ⟨o, rfl⟩ | ⟨point, job, rfl, -, -⟩ <;> rfl
    intro hs
    rw [turn_slot, hkeep] at hs
    exact absurd hs hslot
  case uncalled => exact fun hn => absurd ((turn_calls_self ..).symm.trans hn) (by simp)
  case before => exact fun _ _ _ => hunsent
  case requested => exact fun hr => absurd hr hrequested
  case jobs =>
    rcases hown with hnil | ⟨job, hone, hawaits⟩
    · exact .inl hnil
    · exact .inr ⟨job, hone, tn.call, turn_calls_self .., .inr ⟨hawaits, hnew.1⟩⟩
  case queued => exact fun _ => hunsent
  case answered =>
    intro call' b hcall' hp hr
    obtain rfl := eq_of_turn hcall'
    rw [hnew.1] at hr
    cases hr
  case reported =>
    intro call' status hcall' hr
    obtain rfl := eq_of_turn hcall'
    rw [hnew.2] at hr
    rcases hr with ⟨⟨⟩⟩ | ⟨⟨⟩⟩

omit [IntCast N] [Add N] [Mul N] [PyMath N] [LE N] [DecidableLE N] in
/-- One step keeps the invariant. -/
theorem Tracked.step (h : Tracked s c) (ht : Affects c s t) : Tracked t c := by
  cases ht with
  | frame hcalls hgoal hslot hjobs hrequested => exact h.frame hcalls hgoal hslot hjobs hrequested
  | begins command tokenDeadline knownFrames hnone ht =>
    subst ht
    exact h.begins hnone command tokenDeadline knownFrames
  | turns hcall hturn ht =>
    subst ht
    exact h.turn hcall hturn
  | runs outcome hqueue ht =>
    subst ht
    exact h.run outcome hqueue
  | decides accepted hgoal ht =>
    subst ht
    exact h.goal _ (.inl hgoal)
  | finishes status hgoal ht =>
    subst ht
    exact h.goal _ (.inr ⟨hgoal, status, rfl⟩)
  | @answered call r hcall hreply hpoint ht =>
    subst ht
    refine h.modify _ (fun _ => rfl) ?_ (fun _ _ _ => .inl)
    intro call' hcall'
    obtain rfl : call = call' := Option.some.inj (hcall.symm.trans hcall')
    right
    rcases hpoint with ⟨⟨outcome, hp⟩, hrequested⟩ | ⟨hp, hsent, hgoal⟩
    · refine ⟨?_, fun b hp' => by rw [hp] at hp'; cases hp'⟩
      exact h.no_jobs_of_awaits hcall (by rw [hp]; rfl) (by rw [hp]; rfl) (h.requested hrequested).1
    · refine ⟨?_, fun b _ hr => hgoal b (Option.some.inj hr)⟩
      exact h.no_jobs_of_awaits hcall (by rw [hp]; rfl) (by rw [hp]; rfl) fun hmem => hsent (h.queued hmem)
  | @reported call r hcall hreportable ht =>
    subst ht
    refine h.modify _ (fun _ => rfl) (fun _ _ => .inl rfl) ?_
    intro call' status hcall' htask
    right
    intro hterminal
    rcases htask with htask | htask
    · obtain rfl := ResultTask.replied.inj htask
      simpa [reportable, hterminal] using hreportable
    · cases htask
  | fed f ht =>
    subst ht
    exact h.modify _ (fun _ => rfl) (fun _ _ => .inl rfl) (fun _ _ _ => .inl)

/-- The invariant holds in every state of a run. -/
theorem tracked_run {baseFrame : String} {now : N} {as : List (Nav2Action N)}
    (h : StepSystem.run Nav2.step (Nav2.initial baseFrame now) as = some s) (c : NavId) : Tracked s c :=
  StepSystem.run_invariant (P := fun s => Tracked s c) (fun _ _ _ hs hstep => hs.step (step_affects c hstep))
    (initial_tracked baseFrame now c) h

end Run

end Nav2

end RosMcp
