import RosMcp.Navigation.CallNotes
import RosMcp.Navigation.Orphans

/-!
# What a result of `navigate` says

What a call has handed to the ROS thread was either run by it or waits in its queue, so the notes of the call count the
jobs that the ROS thread has run (`Accounted`).  Every step keeps the account, and with `Tracked` a result is justified
by the notes of its call and by its goal (`navigate_sound`).
-/

namespace RosMcp

open NavNote (submitted submission)

namespace Nav2

/-! ### The account -/

variable {N : Type}

/-- The job of the call `c` that the ROS thread runs in a step. -/
def ranJobs (c : NavId) (s : Nav2 N) : Nav2Action N → List NavJob
  | .runItem _ => (s.workQueue.head?.bind (RosItem.jobOf c)).toList
  | _ => []

/-- The call `c` has returned the result. -/
def Returned (s : Nav2 N) (c : NavId) (result : ToolResult N) : Prop :=
  ∃ call, s.calls c = some call ∧ call.point = .ended (.returned result)

/-- The notes of the call `c` fit its point, and count its jobs: those that the ROS thread has run and those that
wait. -/
structure Accounted (s : Nav2 N) (c : NavId) (notes : List NavNote) (ran : List NavJob) : Prop where
  uncalled : s.calls c = none → notes = []
  follows : ∀ call, s.calls c = some call → call.point.Follows notes call.resultTask
  jobs : ∀ note job, note.job = some job → notes.count note = ran.count job + (s.jobs c).count job
  returned : ∀ result, s.Returned c result → s.ownJobs c = []

variable {s t : Nav2 N} {c : NavId} {notes : List NavNote} {ran : List NavJob}

private theorem initial_accounted (baseFrame : String) (now : N) (c : NavId) :
    (Nav2.initial baseFrame now).Accounted c [] [] where
  uncalled := fun _ => rfl
  follows := by rintro call ⟨⟩
  jobs := fun _ _ _ => rfl
  returned := by rintro result ⟨call, ⟨⟩, -⟩

/-- A step that leaves the call and its jobs alone. -/
private theorem Accounted.frame (h : s.Accounted c notes ran) (hcalls : t.calls c = s.calls c)
    (hjobs : t.jobs c = s.jobs c) :
    t.Accounted c notes ran where
  uncalled := fun hnone => h.uncalled (hcalls ▸ hnone)
  follows := fun call hcall => h.follows call (hcalls ▸ hcall)
  jobs := by
    rw [hjobs]
    exact h.jobs
  returned := by
    rintro result ⟨call, hcall, hpoint⟩
    rw [ownJobs, hjobs]
    exact h.returned result ⟨call, hcalls ▸ hcall, hpoint⟩

/-- What arrives from the ROS thread leaves the notes as they are. -/
private theorem Accounted.modify (h : s.Accounted c notes ran) (c' : NavId) (f : NavCall N → NavCall N)
    (hpoint : ∀ call, (f call).point = call.point)
    (htask : ∀ call r, s.calls c' = some call → call.resultTask = .done r → (f call).resultTask = .done r) :
    (s.modifyCall c' f).Accounted c notes ran := by
  by_cases hc : c = c'
  · subst hc
    constructor
    case uncalled =>
      intro hnone
      rw [modifyCall_calls_self, Option.map_eq_none_iff] at hnone
      exact h.uncalled hnone
    case follows =>
      intro call' hcall'
      obtain ⟨call, hcall, rfl⟩ := exists_of_modifyCall hcall'
      rw [hpoint]
      exact (h.follows call hcall).mono fun r => htask call r hcall
    case jobs => exact h.jobs
    case returned =>
      rintro result ⟨call', hcall', hreturned⟩
      obtain ⟨call, hcall, rfl⟩ := exists_of_modifyCall hcall'
      rw [hpoint] at hreturned
      exact h.returned result ⟨call, hcall, hreturned⟩
  · exact h.frame (modifyCall_calls_ne s f hc) (modifyCall_jobs s c' c f)

/-- The first item of the queue is taken by the ROS thread. -/
private theorem Accounted.pop (h : s.Accounted c notes ran) {item : RosItem} {rest : List RosItem}
    (hqueue : s.workQueue = item :: rest) :
    ({ s with workQueue := rest } : Nav2 N).Accounted c notes (ran ++ (RosItem.jobOf c item).toList) := by
  have hjobs : s.jobs c = (RosItem.jobOf c item).toList ++ ({ s with workQueue := rest } : Nav2 N).jobs c := by
    unfold Nav2.jobs
    rw [hqueue, List.filterMap_cons]
    cases RosItem.jobOf c item <;> rfl
  constructor
  case uncalled => exact h.uncalled
  case follows => exact h.follows
  case jobs =>
    intro note job hnote
    rw [h.jobs note job hnote, hjobs, List.count_append, List.count_append, Nat.add_assoc]
  case returned =>
    intro result hreturned
    have hnil := h.returned result hreturned
    rw [ownJobs, hjobs, List.filter_append] at hnil
    exact (List.append_eq_nil_iff.1 hnil).2

/-- The ROS thread runs an item that it has taken. -/
private theorem Accounted.execute (h : s.Accounted c notes ran) (outcome : Except PyException Bool) (item : RosItem) :
    (s.execute outcome item).Accounted c notes ran := by
  have hanswer : ∀ c' r, (s.answer c' r).Accounted c notes ran := fun c' r =>
    h.modify c' (fun call => { call with reply := some r }) (fun _ => rfl) (fun _ _ _ => id)
  cases item with
  | cancelActive k =>
    simp only [Nav2.execute]
    split
    · exact h.frame rfl rfl
    · exact h.frame rfl rfl
    · exact h.frame rfl rfl
  | job c' job =>
    cases job with
    | createClient => exact hanswer c' outcome
    | waitForServer => exact hanswer c' outcome
    | getResult =>
      refine h.modify c' _ (fun _ => rfl) ?_
      intro call r _ hdone
      show ResultTask.requested outcome call.resultTask = .done r
      rw [hdone]
      rfl
    | sendGoal =>
      cases outcome with
      | ok b => exact h.frame rfl rfl
      | error exc => exact hanswer c' (.error exc)
    | cancelGoal =>
      cases outcome with
      | ok b => exact h.frame rfl rfl
      | error exc => exact hanswer c' (.error exc)

section Plugin

variable [IntCast N] [Add N] [Sub N] [Mul N] [PyMath N] [LE N] [DecidableLE N]

/-- What the call `c` notes in a step. -/
def callNotes (c : NavId) (s : Nav2 N) : Nav2Action N → List NavNote
  | .navigate c' command _ knownFrames => if c' = c then NavCall.beginNotes command knownFrames else []
  | .resume c' e => if c' = c then (s.calls c).elim [] fun call => call.notes s.now e else []
  | _ => []

omit [Add N] [Mul N] [PyMath N] [LE N] [DecidableLE N] in
/-- A turn of the call `c`. -/
private theorem Accounted.turn (h : s.Accounted c notes ran) (hs : Tracked s c) {call : NavCall N}
    (hcall : s.calls c = some call) {tn : NavTurn N} {new : List NavNote} (hturn : call.Noted s.now tn new) :
    (s.turn c tn).Accounted c (notes ++ new) ran := by
  constructor
  case uncalled =>
    intro hnone
    rw [turn_calls_self] at hnone
    cases hnone
  case follows =>
    intro call' hcall'
    obtain rfl := eq_of_turn hcall'
    exact hturn.follows (h.follows call hcall)
  case jobs =>
    intro note job hnote
    rw [turn_jobs_self, List.count_append, List.count_append, h.jobs note job hnote, hturn.count hnote]
    omega
  case returned =>
    rintro result ⟨call', hcall', hreturned⟩
    obtain rfl := eq_of_turn hcall'
    obtain ⟨hjob, hpoint⟩ := hturn.returned hreturned
    have hown : (s.turn c tn).ownJobs c = s.ownJobs c := by
      rw [ownJobs, turn_jobs_self, List.filter_append]
      rcases hjob with hj | hj <;> rw [hj] <;> exact List.append_nil _
    rw [hown]
    rcases hpoint with hsame | ⟨hlive, hreplied⟩
    · exact h.returned result ⟨call, hcall, hsame⟩
    · exact hs.no_jobs hcall hlive hreplied

omit [IntCast N] [Add N] [Mul N] [PyMath N] [LE N] [DecidableLE N] in
/-- What `navigate` does first, with what it notes. -/
private theorem begin_noted (command : SemanticCommand N) (tokenDeadline now : N) (knownFrames : List String)
    (client : Bool)
    {tn : NavTurn N} (htn : NavCall.begin command tokenDeadline now knownFrames client = tn) :
    tn.call.point.Follows (NavCall.beginNotes command knownFrames) tn.call.resultTask ∧
      (tn.call.point.isEnded = true → tn.job = none) ∧ ∀ note job, note.job = some job →
        (NavCall.beginNotes command knownFrames).count note = 0 ∧ tn.job.toList.count job = 0 := by
  have hnone : ∀ known note job, NavNote.job note = some job → List.count note [NavNote.frame known] = 0 := by
    intro known note job hnote
    rcases NavNote.job_eq_some hnote with ⟨rfl, -⟩ | ⟨rfl, -⟩ <;> rfl
  unfold NavCall.begin at htn
  unfold NavCall.beginNotes
  cases htarget : command.target with
  | move target =>
    rw [htarget] at htn
    subst htn
    exact ⟨⟨.inl (by simp), by simp⟩, fun _ => rfl, fun _ _ _ => ⟨rfl, rfl⟩⟩
  | none =>
    rw [htarget] at htn
    subst htn
    exact ⟨⟨.inl (by simp), by simp⟩, fun _ => rfl, fun _ _ _ => ⟨rfl, rfl⟩⟩
  | navigate target =>
    rw [htarget] at htn
    dsimp only at htn ⊢
    by_cases hframe : command.goalFrame ∈ knownFrames
    · rw [if_neg (not_not.2 hframe)] at htn
      rw [decide_eq_true hframe]
      have hcounts : ∀ note job, NavNote.job note = some job →
          List.count note [NavNote.frame true] = 0 ∧ tn.job.toList.count job = 0 := by
        intro note job hnote
        refine ⟨hnone true note job hnote, ?_⟩
        rw [← htn]
        cases client <;> rcases NavNote.job_eq_some hnote with ⟨-, rfl⟩ | ⟨-, rfl⟩ <;> rfl
      refine ⟨?_, ?_, hcounts⟩
      · rw [← htn]
        cases client <;> rfl
      · rw [← htn]
        cases client <;> rintro ⟨⟩
    · rw [if_pos hframe] at htn
      rw [decide_eq_false hframe]
      subst htn
      refine ⟨⟨.inl (by simp), ?_⟩, fun _ => rfl, fun note job hnote => ⟨hnone false note job hnote, rfl⟩⟩
      rintro result ⟨⟩
      exact ToolResult.Refusal.justify ⟨rfl, by rintro _ ⟨⟩; simp⟩ _ _

omit [IntCast N] [Add N] [Mul N] [PyMath N] [LE N] [DecidableLE N] in
/-- The call `c` begins. -/
private theorem Accounted.begins (h : s.Accounted c notes ran) (hs : Tracked s c) (hnone : s.calls c = none)
    (command : SemanticCommand N) (tokenDeadline : N) (knownFrames : List String) :
    (s.turn c (NavCall.begin command tokenDeadline s.now knownFrames s.actionClient)).Accounted c
      (notes ++ NavCall.beginNotes command knownFrames) ran := by
  obtain rfl := h.uncalled hnone
  obtain ⟨-, hjobs⟩ := hs.uncalled hnone
  generalize htn : NavCall.begin command tokenDeadline s.now knownFrames s.actionClient = tn
  obtain ⟨hfollows, hended, hcounts⟩ := begin_noted command tokenDeadline s.now knownFrames s.actionClient htn
  rw [List.nil_append]
  constructor
  case uncalled =>
    intro hnone
    rw [turn_calls_self] at hnone
    cases hnone
  case follows =>
    intro call hcall
    obtain rfl := eq_of_turn hcall
    exact hfollows
  case jobs =>
    intro note job hnote
    obtain ⟨hnote', hjob⟩ := hcounts note job hnote
    have hran : 0 = ran.count job + (s.jobs c).count job := h.jobs note job hnote
    rw [hnote', turn_jobs_self, List.count_append, hjob]
    omega
  case returned =>
    rintro result ⟨call, hcall, hreturned⟩
    obtain rfl := eq_of_turn hcall
    rw [ownJobs, turn_jobs_self, hjobs, hended (by rw [hreturned]; rfl)]
    rfl

/-- Every step keeps the account. -/
theorem Accounted.step (h : s.Accounted c notes ran) (hs : Tracked s c) {a : Nav2Action N} (hstep : s.step a = some t) :
    t.Accounted c (notes ++ callNotes c s a) (ran ++ ranJobs c s a) := by
  have quiet : t.Accounted c notes ran → callNotes c s a = [] → ranJobs c s a = [] →
      t.Accounted c (notes ++ callNotes c s a) (ran ++ ranJobs c s a) := by
    intro ht hnotes hran
    rw [hnotes, hran, List.append_nil, List.append_nil]
    exact ht
  cases step_transition hstep with
  | ticked | cancelAllReturned | cancelAllCancelled | cancelAllAnswered | decided | finished =>
    exact quiet (h.frame rfl rfl) rfl rfl
  | navigated c' command tokenDeadline knownFrames hnone =>
    by_cases hc : c' = c
    · subst hc
      have hnotes : callNotes c' s (.navigate c' command tokenDeadline knownFrames) =
          NavCall.beginNotes command knownFrames := if_pos rfl
      have hran : ranJobs c' s (.navigate c' command tokenDeadline knownFrames) = [] := rfl
      rw [hnotes, hran, List.append_nil]
      exact h.begins hs hnone command tokenDeadline knownFrames
    · exact quiet (h.frame (turn_calls_ne s _ (Ne.symm hc)) (turn_jobs_ne s _ (Ne.symm hc))) (if_neg hc) rfl
  | @resumed c' e call tn hcall hturn =>
    by_cases hc : c' = c
    · subst hc
      have hnotes : callNotes c' s (.resume c' e) = call.notes s.now e := by
        rw [callNotes, if_pos rfl, hcall]
        rfl
      have hran : ranJobs c' s (.resume c' e) = [] := rfl
      rw [hnotes, hran, List.append_nil]
      exact h.turn hs hcall (NavCall.resume_noted hturn)
    · exact quiet (h.frame (turn_calls_ne s _ (Ne.symm hc)) (turn_jobs_ne s _ (Ne.symm hc))) (if_neg hc) rfl
  | cancelAllBegun k hnone =>
    refine quiet ?_ rfl rfl
    unfold beginCancelAll
    split
    · exact h.frame rfl rfl
    · exact h.frame rfl (by simp [Nav2.jobs, RosItem.jobOf])
  | @ran outcome item rest hqueue =>
    have hran : ranJobs c s (.runItem outcome) = (RosItem.jobOf c item).toList := by
      rw [ranJobs, hqueue]
      rfl
    have hnotes : callNotes c s (.runItem outcome) = [] := rfl
    rw [hnotes, hran, List.append_nil]
    exact (h.pop hqueue).execute outcome item
  | goalFailed c' | goalAnswered c' | cancelAnswered c' =>
    refine quiet (h.modify c' _ (fun _ => rfl) fun _ _ _ => id) rfl rfl
  | @reported c' r call hcall htask hreportable =>
    refine quiet (h.modify c' _ (fun _ => rfl) ?_) rfl rfl
    intro call' r' hcall' hdone
    obtain rfl : call = call' := Option.some.inj (hcall.symm.trans hcall')
    rw [htask] at hdone
    cases hdone
  | fed c' f hsent => exact quiet (h.modify c' _ (fun _ => rfl) fun _ _ _ => id) rfl rfl

/-- The account of a run. -/
theorem accounted_run {baseFrame : String} {now : N} {as : List (Nav2Action N)}
    (h : StepSystem.run Nav2.step (Nav2.initial baseFrame now) as = some s) (c : NavId) :
    s.Accounted c (StepSystem.outputs Nav2.step (callNotes c) (Nav2.initial baseFrame now) as)
      (StepSystem.outputs Nav2.step (ranJobs c) (Nav2.initial baseFrame now) as) := by
  have hboth := StepSystem.outputs_invariant₂ (f := callNotes c) (g := ranJobs c)
    (P := fun s notes ran => s.Accounted c notes ran ∧ Tracked s c) ?_
    ⟨initial_accounted baseFrame now c, initial_tracked baseFrame now c⟩ h
  · exact hboth.1
  · rintro s a t notes ran ⟨hs, htracked⟩ hstep
    exact ⟨hs.step htracked hstep, htracked.step (step_affects c hstep)⟩

/-! ### Soundness -/

omit [IntCast N] [Add N] [Sub N] [Mul N] [PyMath N] [LE N] [DecidableLE N] in
private theorem Accounted.complete (h : s.Accounted c notes ran) : NavNote.Complete notes := by
  cases hcall : s.calls c with
  | none =>
    obtain rfl := h.uncalled hcall
    exact .inl ⟨by simp, by simp⟩
  | some call => exact (h.follows call hcall).complete

omit [IntCast N] [Add N] [Sub N] [Mul N] [PyMath N] [LE N] [DecidableLE N] in
/-- The ROS thread has run every request of a call that has returned a result. -/
private theorem Accounted.ran_all (h : s.Accounted c notes ran) {result : ToolResult N}
    (hreturned : s.Returned c result)
    {note : NavNote} {job : NavJob} (hnote : note.job = some job) : ran.count job = notes.count note := by
  have hjob : job ≠ .getResult := by
    rcases NavNote.job_eq_some hnote with ⟨-, rfl⟩ | ⟨-, rfl⟩ <;> decide
  have hnone : (s.jobs c).count job = 0 := List.count_eq_zero.2 (notMem_jobs (h.returned result hreturned) hjob)
  rw [h.jobs note job hnote, hnone, Nat.add_zero]

/-- What is promised of the call `c` of `navigate`, when it has made the notes and the ROS thread has run its jobs:
it sends at most one goal, after the four checks, and what it returns is true. -/
structure Sound (s : Nav2 N) (c : NavId) (notes : List NavNote) (ran : List NavJob) : Prop where
  once : notes.count .goal ≤ 1 ∧ ran.count .sendGoal ≤ notes.count .goal
  checked : .goal ∈ notes → submission <+: notes
  succeeded : ∀ result, s.Returned c result → result.status = .succeeded →
    s.goals c = .ended statusSucceeded ∧ .cancel ∉ notes ∧ .cancelGoal ∉ ran
  cancelled : ∀ result error, s.Returned c result → result.error = some error → error.code = .cancelled →
    .token true ∈ notes ∧ notes.count .cancel = 1 ∧ ran.count .cancelGoal = 1 ∨
      s.goals c = .ended statusCanceled ∧ .token true ∉ notes ∧ .cancel ∉ notes
  timedOut : ∀ result error, s.Returned c result → result.error = some error → error.code = .actionTimeout →
    .deadline true ∈ notes ∧ .token true ∉ notes ∧ notes.count .cancel = 1 ∧ ran.count .cancelGoal = 1

/-- In every run of the plugin, every call of `navigate` is sound. -/
theorem navigate_sound {baseFrame : String} {now : N} {as : List (Nav2Action N)}
    (hrun : StepSystem.run Nav2.step (Nav2.initial baseFrame now) as = some s) (c : NavId) :
    s.Sound c (StepSystem.outputs Nav2.step (callNotes c) (Nav2.initial baseFrame now) as)
      (StepSystem.outputs Nav2.step (ranJobs c) (Nav2.initial baseFrame now) as) := by
  have haccount := accounted_run hrun c
  have htracked := tracked_run hrun c
  generalize StepSystem.outputs Nav2.step (callNotes c) (Nav2.initial baseFrame now) as = notes at haccount ⊢
  generalize StepSystem.outputs Nav2.step (ranJobs c) (Nav2.initial baseFrame now) as = ran at haccount ⊢
  have justify : ∀ result, s.Returned c result → ∃ call, s.calls c = some call ∧
      NavNote.Justify notes call.resultTask result := by
    rintro result ⟨call, hcall, hpoint⟩
    have hfollows := haccount.follows call hcall
    rw [hpoint] at hfollows
    exact ⟨call, hcall, hfollows.2 result rfl⟩
  constructor
  case once =>
    constructor
    · rcases haccount.complete with ⟨hgoal, -⟩ | ⟨n, exit, rfl⟩
      · rw [List.count_eq_zero.2 hgoal]
        exact Nat.zero_le 1
      · rw [NavNote.count_submitted (by simp) (by simp)]
        rcases exit with _ | _ | _ <;> decide
    · rw [haccount.jobs .goal .sendGoal rfl]
      exact Nat.le_add_right _ _
  case checked =>
    intro hgoal
    rcases haccount.complete with ⟨hnone, -⟩ | ⟨n, exit, rfl⟩
    · exact absurd hgoal hnone
    · exact NavNote.submission_prefix n exit
  case succeeded =>
    intro result hreturned hstatus
    obtain ⟨call, hcall, hjustify⟩ := justify result hreturned
    obtain ⟨htask, hcancel⟩ := hjustify.succeeded hstatus
    have hran : ran.count .cancelGoal = notes.count .cancel := haccount.ran_all hreturned rfl
    refine ⟨htracked.reported call _ hcall (.inr htask) rfl, hcancel, ?_⟩
    rw [← List.count_eq_zero, hran, List.count_eq_zero]
    exact hcancel
  case cancelled =>
    intro result error hreturned herror hcode
    obtain ⟨call, hcall, hjustify⟩ := justify result hreturned
    rcases hjustify.cancelled error herror hcode with ⟨htoken, hcount⟩ | ⟨htask, htoken, hcancel⟩
    · left
      refine ⟨htoken, hcount, ?_⟩
      rw [← hcount]
      exact haccount.ran_all hreturned rfl
    · right
      exact ⟨htracked.reported call _ hcall (.inr htask) rfl, htoken, hcancel⟩
  case timedOut =>
    intro result error hreturned herror hcode
    obtain ⟨call, hcall, hjustify⟩ := justify result hreturned
    obtain ⟨hdeadline, htoken, hcount⟩ := hjustify.timedOut error herror hcode
    refine ⟨hdeadline, htoken, hcount, ?_⟩
    rw [← hcount]
    exact haccount.ran_all hreturned rfl

end Plugin

/-! ### A cancelled call -/

/-- The cancellation of the goal is not answered with a result in time, and the call returns. -/
noncomputable def sampleReturn : List (Nav2Action ℝ) :=
  sampleFirst true ++ sampleCancel ++
    [.resume 0 .resultWaitExpired, .resume 0 (.finalPoseRead (.ok ⟨false, none, none, none, some .timeout⟩) 0)]

theorem navigate_sound_sample : ∃ s, StepSystem.run Nav2.step (Nav2.initial "base_link" 0) sampleReturn = some s ∧
    (∃ result, s.Returned 0 result) ∧
      s.Sound 0 (StepSystem.outputs Nav2.step (callNotes 0) (Nav2.initial "base_link" 0) sampleReturn)
        (StepSystem.outputs Nav2.step (ranJobs 0) (Nav2.initial "base_link" 0) sampleReturn) := by
  obtain ⟨s, hrun, hreturned⟩ : ∃ s, StepSystem.run Nav2.step (Nav2.initial "base_link" 0) sampleReturn = some s ∧
      ∃ result, s.Returned 0 result := ⟨_, rfl, _, _, rfl, rfl⟩
  exact ⟨s, hrun, hreturned, navigate_sound hrun 0⟩

end Nav2

end RosMcp
