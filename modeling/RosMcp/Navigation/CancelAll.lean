import RosMcp.Navigation.Orphans

/-!
# What `cancel_all` reaches

A call of `cancel_all` that finds a handle in the slot puts one item behind those that wait for the ROS thread; the
handle is read again when the thread gets to it.  So it issues at most one cancel request: for the goal whose handle
the calls of `navigate` have left in the slot by then.  It reaches every outstanding goal exactly when there is none,
or when that goal is the only one (`cancelAll_reaches_iff`).
-/

namespace RosMcp

variable {N : Type}

/-- The ROS thread runs an item. -/
def Nav2Action.runsItem : Nav2Action N → Bool
  | .runItem _ => true
  | _ => false

namespace Nav2

/-- Nav2 has accepted the goal and has not ended it. -/
def Outstanding (s : Nav2 N) (g : NavId) : Prop := s.goals g = .accepted

/-- The goals for which the call `k` of `cancel_all` has issued a cancel request. -/
def requestsOf (s : Nav2 N) (k : CancelId) : List NavId :=
  s.cancelRequests.filterMap fun request => if request.1 = .cancelAll k then some request.2 else none

/-- How often the request of `k` is in the queue. -/
def waitingOf (s : Nav2 N) (k : CancelId) : ℕ := s.workQueue.count (.cancelActive k)

variable {s t : Nav2 N} {k : CancelId}

private theorem mem_requestsOf {g : NavId} : g ∈ s.requestsOf k ↔ (.cancelAll k, g) ∈ s.cancelRequests := by
  simp only [requestsOf, List.mem_filterMap]
  constructor
  · rintro ⟨⟨who, g'⟩, hmem, hwho⟩
    split at hwho
    · next h =>
      obtain rfl := Option.some.inj hwho
      obtain rfl : who = .cancelAll k := h
      exact hmem
    · cases hwho
  · intro hmem
    exact ⟨_, hmem, if_pos rfl⟩

/-! ### One step -/

/-- What a step from `s` to `t` does to the call `k` of `cancel_all`. -/
inductive CancelAffects (k : CancelId) (s t : Nav2 N) : Nav2Action N → Prop
  | frame {a : Nav2Action N} (hcancels : t.cancels k = none → s.cancels k = none)
      (hwaiting : t.waitingOf k = s.waitingOf k) (hrequests : t.requestsOf k = s.requestsOf k) : CancelAffects k s t a
  | begins (hnone : s.cancels k = none) (ht : t = s.beginCancelAll k) : CancelAffects k s t (.cancelAll k)
  | runs {rest : List RosItem} (outcome : Except PyException Bool) (hqueue : s.workQueue = .cancelActive k :: rest)
      (ht : t = { s with workQueue := rest }.execute outcome (.cancelActive k)) :
      CancelAffects k s t (.runItem outcome)

private theorem turn_waitingOf (c : NavId) (tn : NavTurn N) : (s.turn c tn).waitingOf k = s.waitingOf k := by
  unfold waitingOf turn
  cases tn.job <;> simp

/-- A reply does not make a call of `cancel_all` begin. -/
private theorem answerCancel_none {k' : CancelId} {r : Except PyException Unit}
    (h : (s.answerCancel k' r).cancels k = none) : s.cancels k = none := by
  simp only [answerCancel] at h
  by_cases hk : k = k'
  · subst hk
    rwa [Function.update_self, Option.map_eq_none_iff] at h
  · rwa [Function.update_of_ne hk] at h

/-- The job of a call of `navigate`, or the request of another call of `cancel_all`. -/
private theorem execute_cancel_frame {item : RosItem} (hitem : item ≠ .cancelActive k) (s : Nav2 N)
    (outcome : Except PyException Bool) :
    ((s.execute outcome item).cancels k = none → s.cancels k = none) ∧
      (s.execute outcome item).workQueue = s.workQueue ∧ (s.execute outcome item).requestsOf k = s.requestsOf k := by
  cases item with
  | cancelActive k' =>
    have hne : k' ≠ k := by
      rintro rfl
      exact hitem rfl
    simp only [execute]
    split
    · exact ⟨answerCancel_none, rfl, rfl⟩
    · refine ⟨id, rfl, ?_⟩
      simp [requestsOf, requestCancel, hne]
    · exact ⟨answerCancel_none, rfl, rfl⟩
  | job c job =>
    cases job with
    | createClient => exact ⟨id, rfl, rfl⟩
    | waitForServer => exact ⟨id, rfl, rfl⟩
    | getResult => exact ⟨id, rfl, rfl⟩
    | sendGoal => cases outcome <;> exact ⟨id, rfl, rfl⟩
    | cancelGoal =>
      cases outcome with
      | error exc => exact ⟨id, rfl, rfl⟩
      | ok b =>
        refine ⟨id, rfl, ?_⟩
        simp [execute, requestsOf, requestCancel]

section Step

variable [IntCast N] [Add N] [Sub N] [Mul N] [PyMath N] [LE N] [DecidableLE N]

private theorem step_cancelAffects {a : Nav2Action N} (k : CancelId)
    (h : s.step a = some t) : CancelAffects k s t a := by
  have other : ∀ {k' : CancelId} {v : Option CancelCall}, k ≠ k' →
      (Function.update s.cancels k' v) k = none → s.cancels k = none := by
    intro k' v hk hnone
    rwa [Function.update_of_ne hk] at hnone
  -- a call of `cancel_all` that exists is replaced by another value
  have updated : ∀ {k' : CancelId} {call call' : CancelCall}, s.cancels k' = some call →
      (Function.update s.cancels k' (some call')) k = none → s.cancels k = none := by
    intro k' call call' hcall hnone
    by_cases hk : k = k'
    · subst hk
      rw [Function.update_self] at hnone
      cases hnone
    · rwa [Function.update_of_ne hk] at hnone
  cases step_transition h with
  | ticked | decided | finished | goalFailed | goalAnswered | cancelAnswered | reported | fed =>
    exact .frame id rfl rfl
  | navigated | resumed => exact .frame id (turn_waitingOf ..) rfl
  | cancelAllBegun k' hnone =>
    by_cases hk : k = k'
    · subst hk
      exact .begins hnone rfl
    · have hne : k' ≠ k := Ne.symm hk
      unfold beginCancelAll
      split
      · exact .frame (other hk) rfl rfl
      · refine .frame (other hk) ?_ rfl
        simp [waitingOf, hne]
  | cancelAllReturned k' hcall => exact .frame (updated hcall) rfl rfl
  | cancelAllCancelled k' hcall => exact .frame (updated hcall) rfl rfl
  | cancelAllAnswered => exact .frame answerCancel_none rfl rfl
  | @ran outcome item rest hqueue =>
    by_cases hitem : item = .cancelActive k
    · subst hitem
      exact .runs outcome hqueue rfl
    · obtain ⟨hcancels, hrest, hrequests⟩ := execute_cancel_frame hitem { s with workQueue := rest } outcome
      refine .frame hcancels ?_ hrequests
      have hne : (item == RosItem.cancelActive k) = false := by simpa using hitem
      rw [waitingOf, waitingOf, hrest, hqueue, List.count_cons, hne]
      rfl

end Step

/-! ### At most one request -/

/-- A call of `cancel_all` that has not begun has no request, and one that has begun has at most one, which is waiting
or was issued. -/
structure OneRequest (s : Nav2 N) (k : CancelId) : Prop where
  unbegun : s.cancels k = none → s.waitingOf k = 0 ∧ s.requestsOf k = []
  atMostOne : s.waitingOf k + (s.requestsOf k).length ≤ 1

private theorem initial_oneRequest (baseFrame : String) (now : N) (k : CancelId) :
    OneRequest (Nav2.initial baseFrame now) k where
  unbegun := fun _ => ⟨rfl, rfl⟩
  atMostOne := Nat.zero_le _

/-- The request of `k` is run: it is issued for the goal in the slot, or it raises. -/
private theorem execute_cancelActive (s : Nav2 N) (k : CancelId) (outcome : Except PyException Bool) :
    (s.execute outcome (.cancelActive k)).workQueue = s.workQueue ∧
      ((s.execute outcome (.cancelActive k)).cancels k = none → s.cancels k = none) ∧
      ((∃ g b, s.activeGoalHandle = some g ∧ outcome = .ok b ∧
          (s.execute outcome (.cancelActive k)).requestsOf k = s.requestsOf k ++ [g]) ∨
        (∀ g b, ¬ (s.activeGoalHandle = some g ∧ outcome = .ok b)) ∧
          (s.execute outcome (.cancelActive k)).requestsOf k = s.requestsOf k) := by
  simp only [execute]
  split
  · next hslot =>
    refine ⟨rfl, answerCancel_none, .inr ⟨?_, rfl⟩⟩
    rintro g b ⟨hg, -⟩
    rw [hslot] at hg
    cases hg
  · next g b hslot =>
    refine ⟨rfl, id, .inl ⟨g, b, hslot, rfl, ?_⟩⟩
    simp [requestsOf, requestCancel]
  · refine ⟨rfl, answerCancel_none, .inr ⟨?_, rfl⟩⟩
    rintro g b ⟨-, ⟨⟩⟩

private theorem OneRequest.step (h : OneRequest s k) {a : Nav2Action N}
    (ht : CancelAffects k s t a) : OneRequest t k := by
  cases ht with
  | frame hcancels hwaiting hrequests =>
    constructor
    · intro hnone
      rw [hwaiting, hrequests]
      exact h.unbegun (hcancels hnone)
    · rw [hwaiting, hrequests]
      exact h.atMostOne
  | begins hnone ht =>
    subst ht
    obtain ⟨hwaiting, hrequests⟩ := h.unbegun hnone
    unfold beginCancelAll
    split
    · constructor
      · intro hn
        simp at hn
      · exact h.atMostOne
    · constructor
      · intro hn
        simp at hn
      · have hcount : (s.workQueue ++ [RosItem.cancelActive k]).count (.cancelActive k) = s.waitingOf k + 1 := by
          simp [waitingOf]
        have hsame : (s.cancelRequests.filterMap fun request =>
            if request.1 = .cancelAll k then some request.2 else none) = [] := hrequests
        simp only [waitingOf, requestsOf, hcount, hsame, List.length_nil]
        have hzero : s.workQueue.count (.cancelActive k) = 0 := hwaiting
        omega
  | @runs rest outcome hqueue ht =>
    subst ht
    have hcount : s.waitingOf k = ({ s with workQueue := rest } : Nav2 N).waitingOf k + 1 := by
      simp [waitingOf, hqueue]
    obtain ⟨hrest, hcancels, hrequests⟩ := execute_cancelActive { s with workQueue := rest } k outcome
    have hmost : s.waitingOf k + (({ s with workQueue := rest } : Nav2 N).requestsOf k).length ≤ 1 := h.atMostOne
    constructor
    · intro hnone
      have hzero := (h.unbegun (hcancels hnone)).1
      omega
    · have hsame : (({ s with workQueue := rest } : Nav2 N).execute outcome (.cancelActive k)).waitingOf k =
          ({ s with workQueue := rest } : Nav2 N).waitingOf k := by rw [waitingOf, waitingOf, hrest]
      rw [hsame]
      rcases hrequests with ⟨g, b, -, -, hr⟩ | ⟨-, hr⟩
      · rw [hr, List.length_append, List.length_singleton]
        omega
      · rw [hr]
        omega

section Runs

variable [IntCast N] [Add N] [Sub N] [Mul N] [PyMath N] [LE N] [DecidableLE N]

private theorem oneRequest_run {baseFrame : String} {now : N} {as : List (Nav2Action N)}
    (h : StepSystem.run Nav2.step (Nav2.initial baseFrame now) as = some s) (k : CancelId) : OneRequest s k :=
  StepSystem.run_invariant (P := fun s => OneRequest s k)
    (fun _ _ _ hs hstep => hs.step (step_cancelAffects k hstep)) (initial_oneRequest baseFrame now k) h

/-- A call of `cancel_all` that has begun stays so. -/
private theorem begun_step {a : Nav2Action N} (hstep : s.step a = some t) (hbegun : s.cancels k ≠ none) :
    t.cancels k ≠ none := by
  intro hnone
  cases step_cancelAffects k hstep with
  | frame hcancels => exact hbegun (hcancels hnone)
  | begins hnone' ht => exact hbegun hnone'
  | @runs rest outcome hqueue ht =>
    subst ht
    exact hbegun ((execute_cancelActive { s with workQueue := rest } k outcome).2.1 hnone)

/-! ### The turn of the request -/

omit [IntCast N] [Add N] [Sub N] [Mul N] [PyMath N] [LE N] [DecidableLE N] in
/-- An item that is run puts nothing in the queue. -/
private theorem execute_workQueue (s : Nav2 N) (outcome : Except PyException Bool) (item : RosItem) :
    (s.execute outcome item).workQueue = s.workQueue := by
  cases item with
  | cancelActive k' => exact (execute_cancelActive s k' outcome).1
  | job c job => cases job <;> first | rfl | cases outcome <;> rfl

/-- A step takes the first item from the queue when the ROS thread runs it, and may append others. -/
private theorem step_queue {a : Nav2Action N} (hbegun : s.cancels k ≠ none) (hstep : s.step a = some t) :
    t.cancels k ≠ none ∧ ∃ served added, served.length = a.runsItem.toNat ∧
      (∀ item ∈ added, item ≠ .cancelActive k) ∧ s.workQueue ++ added = served ++ t.workQueue := by
  refine ⟨begun_step hstep hbegun, ?_⟩
  have nothing : ∀ item ∈ ([] : List RosItem), item ≠ .cancelActive k := by simp
  -- the job of a turn is not the request
  have job : ∀ (c : NavId) (job : Option NavJob), ∀ item ∈ (job.map (RosItem.job c)).toList,
      item ≠ .cancelActive k := by
    intro c job item hitem
    cases job with
    | none => cases hitem
    | some job =>
      obtain rfl := List.mem_singleton.1 hitem
      rintro ⟨⟩
  cases step_transition hstep with
  | navigated c | resumed c => exact ⟨[], _, rfl, job c _, rfl⟩
  | cancelAllBegun k' hnone =>
    have hne : k' ≠ k := by
      rintro rfl
      exact hbegun hnone
    unfold beginCancelAll
    split
    · exact ⟨[], [], rfl, nothing, List.append_nil _⟩
    · exact ⟨[], [.cancelActive k'], rfl, by simpa using hne, rfl⟩
  | @ran outcome item rest hqueue =>
    refine ⟨[item], [], rfl, nothing, ?_⟩
    rw [execute_workQueue, hqueue, List.append_nil]
    rfl
  | _ => exact ⟨[], [], rfl, nothing, List.append_nil _⟩

/-- Where the call `k` has put its request behind the items of `queue`, the ROS thread comes to it after as many items
as there are in `queue`. -/
private theorem head_iff {queue : List RosItem} {as : List (Nav2Action N)} (hbegun : s.cancels k ≠ none)
    (hqueue : s.workQueue = queue ++ [.cancelActive k]) (hfirst : .cancelActive k ∉ queue)
    (h : StepSystem.run Nav2.step s as = some t) :
    t.workQueue.head? = some (.cancelActive k) ↔ as.countP Nav2Action.runsItem = queue.length := by
  obtain ⟨served, added, hlength, hadded, heq⟩ := StepSystem.run_fifo (fun _ _ _ => step_queue) hbegun h
  have hlast : .cancelActive k ∉ added := fun hmem => hadded _ hmem rfl
  rw [hqueue, List.append_assoc, List.singleton_append] at heq
  rw [← hlength]
  constructor
  · intro hhead
    obtain ⟨rest, hrest⟩ := List.head?_eq_some_iff.1 hhead
    rw [hrest] at heq
    rw [((List.append_cons_inj_of_notMem hfirst hlast).1 heq).1]
  · intro hserved
    rw [← (List.append_inj heq hserved.symm).2]
    rfl

/-- A request that was not put in the queue is not run. -/
private theorem head_ne {as : List (Nav2Action N)} (hbegun : s.cancels k ≠ none)
    (hnone : .cancelActive k ∉ s.workQueue) (h : StepSystem.run Nav2.step s as = some t) :
    t.workQueue.head? ≠ some (.cancelActive k) := by
  obtain ⟨served, added, -, hadded, heq⟩ := StepSystem.run_fifo (fun _ _ _ => step_queue) hbegun h
  intro hhead
  have hmem : .cancelActive k ∈ s.workQueue ++ added := by
    rw [heq]
    exact List.mem_append_right _ (List.mem_of_mem_head? hhead)
  rcases List.mem_append.1 hmem with hmem | hmem
  · exact hnone hmem
  · exact hadded _ hmem rfl

/-- Along the run `bs` from `s₁`, the ROS thread runs as many items as wait in `s` and then one that does not raise;
by then the calls of `navigate` have left the handle of the goal `g` in the slot. -/
def TurnFinds (s s₁ : Nav2 N) (bs : List (Nav2Action N)) (g : NavId) : Prop :=
  ∃ bs₁ b bs₂, bs = bs₁ ++ .runItem (.ok b) :: bs₂ ∧ bs₁.countP Nav2Action.runsItem = s.workQueue.length ∧
    slotAfter s.activeGoalHandle (StepSystem.outputs Nav2.step slotWrites s₁ bs₁) = some g

/-- The request of a call of `cancel_all` is run after the items that waited when the call began, for the goal whose
handle was written last. -/
theorem cancelAllRuns_iff {s₁ : Nav2 N} {bs : List (Nav2Action N)} (hs₁ : s₁ = s.beginCancelAll k)
    (hfirst : .cancelActive k ∉ s.workQueue) (h : StepSystem.run Nav2.step s₁ bs = some t) (g : NavId) :
    CancelAllRuns s₁ bs k g ↔ s.activeGoalHandle ≠ none ∧ TurnFinds s s₁ bs g := by
  have hbegun : s₁.cancels k ≠ none := by
    rw [hs₁]
    unfold beginCancelAll
    split <;> simp
  cases hslot : s.activeGoalHandle with
  | none =>
    have hnever : .cancelActive k ∉ s₁.workQueue := by
      rw [hs₁, beginCancelAll, hslot]
      exact hfirst
    constructor
    · rintro ⟨bs₁, b, bs₂, u, -, hu, hhead, -⟩
      exact absurd hhead (head_ne hbegun hnever hu)
    · rintro ⟨hsome, -⟩
      exact absurd rfl hsome
  | some g₀ =>
    have hqueue : s₁.workQueue = s.workQueue ++ [.cancelActive k] ∧ s₁.activeGoalHandle = s.activeGoalHandle := by
      rw [hs₁, beginCancelAll, hslot]
      exact ⟨rfl, rfl⟩
    rw [and_iff_right (Option.some_ne_none g₀)]
    constructor
    · rintro ⟨bs₁, b, bs₂, u, hbs, hu, hhead, hhandle⟩
      refine ⟨bs₁, b, bs₂, hbs, (head_iff hbegun hqueue.1 hfirst hu).1 hhead, ?_⟩
      rw [← hqueue.2, ← slot_run hu]
      exact hhandle
    · rintro ⟨bs₁, b, bs₂, hbs, hcount, hhandle⟩
      rw [hbs] at h
      obtain ⟨u, hu, -⟩ := StepSystem.run_append.1 h
      refine ⟨bs₁, b, bs₂, u, hbs, hu, (head_iff hbegun hqueue.1 hfirst hu).2 hcount, ?_⟩
      rw [slot_run hu, hqueue.2]
      exact hhandle

/-- A call of `cancel_all`, from any reachable state, has issued a cancel request for every goal that was outstanding
when it began if and only if there was none, or the slot was not empty and the calls of `navigate` have left in it the
handle of the only outstanding goal by the time the ROS thread has come to the item of the call, which has not
raised. -/
theorem cancelAll_reaches_iff {baseFrame : String} {now : N} {as bs : List (Nav2Action N)} {s₁ : Nav2 N}
    (hrun : StepSystem.run Nav2.step (Nav2.initial baseFrame now) as = some s)
    (hbegin : s.step (.cancelAll k) = some s₁) (hrest : StepSystem.run Nav2.step s₁ bs = some t) :
    (∀ g, s.Outstanding g → (.cancelAll k, g) ∈ t.cancelRequests) ↔ (∀ g, ¬ s.Outstanding g) ∨
      s.activeGoalHandle ≠ none ∧ ∃ g, TurnFinds s s₁ bs g ∧ ∀ g', s.Outstanding g' → g' = g := by
  have hnone : s.cancels k = none := by
    simp only [Nav2.step] at hbegin
    split at hbegin
    · next hnone => exact hnone
    · cases hbegin
  have hs₁ : s₁ = s.beginCancelAll k := by
    simp only [Nav2.step, hnone] at hbegin
    exact (Option.some.inj hbegin).symm
  obtain ⟨hwaiting, hnil⟩ := (oneRequest_run hrun k).unbegun hnone
  have hempty : ∀ g, (.cancelAll k, g) ∉ s₁.cancelRequests := by
    intro g hmem
    have hsame : s₁.cancelRequests = s.cancelRequests := by
      rw [hs₁]
      unfold beginCancelAll
      split <;> rfl
    rw [hsame, ← mem_requestsOf, hnil] at hmem
    cases hmem
  have issued : ∀ g, (.cancelAll k, g) ∈ t.cancelRequests ↔ s.activeGoalHandle ≠ none ∧ TurnFinds s s₁ bs g := by
    intro g
    rw [cancelAllRequested_run hrest, or_iff_right (hempty g)]
    exact cancelAllRuns_iff hs₁ (List.count_eq_zero.1 hwaiting) hrest g
  -- at most one request is ever issued
  have honly : (t.requestsOf k).length ≤ 1 := by
    have hall := StepSystem.run_append.2 ⟨s, hrun, StepSystem.run_cons.2 ⟨s₁, hbegin, hrest⟩⟩
    have hone := (oneRequest_run hall k).atMostOne
    omega
  constructor
  · intro hall
    by_cases hany : ∀ g, ¬ s.Outstanding g
    · exact .inl hany
    right
    obtain ⟨g, hg⟩ : ∃ g, s.Outstanding g := by
      by_contra hno
      exact hany fun g hg => hno ⟨g, hg⟩
    obtain ⟨hslot, hfinds⟩ := (issued g).1 (hall g hg)
    refine ⟨hslot, g, hfinds, ?_⟩
    intro g' hg'
    have hmem := mem_requestsOf.2 (hall g hg)
    have hmem' := mem_requestsOf.2 (hall g' hg')
    cases hlist : t.requestsOf k with
    | nil =>
      rw [hlist] at hmem
      cases hmem
    | cons x rest =>
      rw [hlist] at hmem hmem' honly
      obtain rfl : rest = [] := by
        rw [List.length_cons] at honly
        exact List.length_eq_zero_iff.1 (by omega)
      rw [List.mem_singleton] at hmem hmem'
      rw [hmem, hmem']
  · rintro (hnone' | ⟨hslot, g, hfinds, hunique⟩) g' hg'
    · exact absurd hg' (hnone' g')
    · rw [hunique g' hg', issued]
      exact ⟨hslot, hfinds⟩

end Runs

/-! ### Two overlapping calls -/

/-- The answer that the goal of `c` was accepted, for a live token. -/
private theorem step_goalAnswered {s : Nav2 ℝ} {c : NavId} {call : NavCall ℝ} (hcall : s.calls c = some call)
    (hpoint : call.point = .sending) (hreply : call.reply = some (.ok true)) (hlive : call.earlyExit s.now = none) :
    s.step (.resume c .goalAnswered) =
      some (s.turn c { call := { call with resultTask := .scheduled, point := .sleeping }, slot := .own }) := by
  obtain ⟨command, tokenCancelled, tokenDeadline, startMonotonic, feedback, point, reply, resultTask⟩ := call
  obtain rfl : point = .sending := hpoint
  obtain rfl : reply = some (.ok true) := hreply
  have hexit : (⟨command, tokenCancelled, tokenDeadline, startMonotonic, feedback, .sending, some (.ok true),
      .scheduled⟩ : NavCall ℝ).earlyExit s.now = none := hlive
  simp [step, hcall, NavCall.resume, NavCall.loopHead, ResultTask.isDone, hexit]

/-- A call in the loop, with its result task scheduled. -/
noncomputable def sampleDriving (reply : Option (Except PyException Bool)) (point : NavPoint ℝ) (task : ResultTask) :
    NavCall ℝ :=
  ⟨sampleNavigate, false, sampleNavigate.timeoutS, 0, none, point, reply, task⟩

/-- The state after the goal of the call `c` was accepted, with its answer delivered. -/
noncomputable def sampleAnswered (s : Nav2 ℝ) (c : NavId) : Nav2 ℝ :=
  (s.step (.goalResponse c (.ok ()))).getD s

/-- The call `c` goes on into the loop. -/
noncomputable def sampleInLoop (s : Nav2 ℝ) (c : NavId) : Nav2 ℝ :=
  s.turn c { call := sampleDriving (some (.ok true)) .sleeping .scheduled, slot := .own }

private theorem sampleDriving_live {point : NavPoint ℝ} {reply : Option (Except PyException Bool)} {task : ResultTask} :
    (sampleDriving reply point task).earlyExit 0 = none := by
  simp [NavCall.earlyExit, sampleDriving, sampleNavigate]

/-- The first call in the loop. -/
noncomputable def sampleOne : Nav2 ℝ := sampleInLoop (sampleAnswered sampleAccepted 0) 0

/-- The second call up to the acceptance of its goal. -/
noncomputable def sampleSecond : List (Nav2Action ℝ) :=
  .navigate 1 sampleNavigate sampleNavigate.timeoutS ["map"] :: .runItem (.ok true) :: sampleSend 1 true

/-- Both calls in the loop. -/
noncomputable def sampleTwo : Nav2 ℝ :=
  sampleInLoop (sampleAnswered ((StepSystem.run Nav2.step sampleOne sampleSecond).getD sampleOne) 1) 1

theorem sampleOne_run : StepSystem.run Nav2.step (Nav2.initial "base_link" 0)
    (sampleFirst true ++ [.goalResponse 0 (.ok ()), .resume 0 .goalAnswered]) = some sampleOne := by
  refine StepSystem.run_append.2 ⟨sampleAccepted, rfl, ?_⟩
  refine StepSystem.run_cons.2 ⟨sampleAnswered sampleAccepted 0, rfl, ?_⟩
  have hcall : (sampleAnswered sampleAccepted 0).calls 0 =
      some (sampleDriving (some (.ok true)) .sending .absent) := rfl
  exact StepSystem.run_cons.2 ⟨sampleOne, step_goalAnswered hcall rfl rfl sampleDriving_live, rfl⟩

private theorem sampleTwo_run : StepSystem.run Nav2.step sampleOne
    (sampleSecond ++ [.goalResponse 1 (.ok ()), .resume 1 .goalAnswered]) = some sampleTwo := by
  refine StepSystem.run_append.2 ⟨(StepSystem.run Nav2.step sampleOne sampleSecond).getD sampleOne, rfl, ?_⟩
  refine StepSystem.run_cons.2
    ⟨sampleAnswered ((StepSystem.run Nav2.step sampleOne sampleSecond).getD sampleOne) 1, rfl, ?_⟩
  have hcall : (sampleAnswered ((StepSystem.run Nav2.step sampleOne sampleSecond).getD sampleOne) 1).calls 1 =
      some (sampleDriving (some (.ok true)) .sending .absent) := rfl
  exact StepSystem.run_cons.2 ⟨sampleTwo, step_goalAnswered hcall rfl rfl sampleDriving_live, rfl⟩

/-- The steps of a call of `cancel_all` after it has begun. -/
def sampleCancelAll : List (Nav2Action ℝ) := [.runItem (.ok true), .cancelAllResponse 0 (.ok ()), .cancelAllResumed 0]

/-- With two goals outstanding, a call of `cancel_all` that raises nothing and returns has cancelled the goal that was
accepted last, and only that one. -/
theorem cancelAll_open :
    StepSystem.run Nav2.step (Nav2.initial "base_link" 0)
        (sampleFirst true ++ [.goalResponse 0 (.ok ()), .resume 0 .goalAnswered] ++
          (sampleSecond ++ [.goalResponse 1 (.ok ()), .resume 1 .goalAnswered])) = some sampleTwo ∧
      sampleTwo.Outstanding 0 ∧ sampleTwo.Outstanding 1 ∧
      ∃ s₁ t, sampleTwo.step (.cancelAll 0) = some s₁ ∧ StepSystem.run Nav2.step s₁ sampleCancelAll = some t ∧
        t.cancels 0 = some .returned ∧ t.cancelRequests = [(.cancelAll 0, 1)] :=
  ⟨StepSystem.run_append.2 ⟨sampleOne, sampleOne_run, sampleTwo_run⟩, rfl, rfl, _, _, rfl, rfl, rfl, rfl⟩

/-- The first call in the loop; the job of its result task waits for the ROS thread. -/
noncomputable def sampleAwaited : Nav2 ℝ := (sampleOne.step (.resume 0 .resultTaskStarted)).getD sampleOne

/-- With one goal outstanding, it is reached after the job of its result task. -/
theorem cancelAll_reaches_sample :
    ∃ s₁ t, sampleAwaited.step (.cancelAll 0) = some s₁ ∧
      StepSystem.run Nav2.step s₁ (.runItem (.ok true) :: sampleCancelAll) = some t ∧
      sampleAwaited.Outstanding 0 ∧ ∀ g, sampleAwaited.Outstanding g → (.cancelAll 0, g) ∈ t.cancelRequests := by
  have hstarted : sampleOne.step (.resume 0 .resultTaskStarted) = some sampleAwaited := rfl
  have hrun := StepSystem.run_concat.2 ⟨sampleOne, sampleOne_run, hstarted⟩
  obtain ⟨s₁, t, hbegin, hrest, hslot, hqueue⟩ : ∃ s₁ t, sampleAwaited.step (.cancelAll 0) = some s₁ ∧
      StepSystem.run Nav2.step s₁ (.runItem (.ok true) :: sampleCancelAll) = some t ∧
      sampleAwaited.activeGoalHandle = some 0 ∧ sampleAwaited.workQueue = [.job 0 .getResult] :=
    ⟨_, _, rfl, rfl, rfl, rfl⟩
  refine ⟨s₁, t, hbegin, hrest, rfl, (cancelAll_reaches_iff hrun hbegin hrest).2 (.inr ⟨?_, 0, ?_, ?_⟩)⟩
  · rw [hslot]
    exact Option.some_ne_none 0
  · refine ⟨[.runItem (.ok true)], true, _, rfl, by rw [hqueue]; rfl, ?_⟩
    rw [hslot, StepSystem.outputs]
    cases s₁.step (.runItem (.ok true)) <;> rfl
  · intro g hg
    by_contra hne
    have hgoals : sampleAwaited.goals = Function.update (Function.update (fun _ => .unsent) 0 .sent) 0 .accepted := rfl
    rw [Outstanding, hgoals, Function.update_of_ne hne, Function.update_of_ne hne] at hg
    cases hg

end Nav2

end RosMcp
