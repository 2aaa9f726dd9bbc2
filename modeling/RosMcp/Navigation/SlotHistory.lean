import RosMcp.Navigation.Tracked

/-!
# What a run has written to the slot, and what it has asked of the action server

A call stores the handle of its goal in the slot when it enters the loop, and clears the slot when it leaves it,
whoever's handle is there: the slot holds what was written last (`slotAfter`).  A cancel request is issued where the
ROS thread runs an item that asks for it: the job of a call, for the goal of this call, or the request of a call of
`cancel_all`, for the goal whose handle is in the slot at that moment (`cancelRequests_run`).
-/

namespace RosMcp

variable {N : Type}

/-- The points after the answer to the goal. -/
def NavPoint.afterSending : NavPoint N → Bool
  | .ensuringClient | .waitingForServer | .localizing | .sending => false
  | .sleeping | .cancelling _ | .awaitingResult _ | .resolvingFinalPose _ | .ended _ => true

namespace Nav2

/-! ### What a step writes -/

/-- The slot after some writes, each with the call that makes it. -/
def slotAfter (slot : Option NavId) (writes : List (NavId × SlotWrite)) : Option NavId :=
  writes.foldl (fun slot write => write.2.apply write.1 slot) slot

private theorem slotAfter_append (slot : Option NavId) (writes writes' : List (NavId × SlotWrite)) :
    slotAfter slot (writes ++ writes') = slotAfter (slotAfter slot writes) writes' := List.foldl_append

private theorem slotAfter_concat (slot : Option NavId) (writes : List (NavId × SlotWrite)) (write : NavId × SlotWrite) :
    slotAfter slot (writes ++ [write]) = write.2.apply write.1 (slotAfter slot writes) := by
  rw [slotAfter_append]
  rfl

/-- The write of a turn of the call `c`, if it makes one. -/
def turnWrites (c : NavId) (tn : NavTurn N) : List (NavId × SlotWrite) :=
  if tn.slot = .keep then [] else [(c, tn.slot)]

private theorem slotAfter_turnWrites (slot : Option NavId) (c : NavId) (tn : NavTurn N) :
    slotAfter slot (turnWrites c tn) = tn.slot.apply c slot := by
  unfold turnWrites
  split
  · next hkeep =>
    rw [hkeep]
    rfl
  · rfl

/-- The ROS thread does not write the slot. -/
private theorem execute_slot (s : Nav2 N) (outcome : Except PyException Bool) (item : RosItem) :
    (s.execute outcome item).activeGoalHandle = s.activeGoalHandle := by
  cases item with
  | cancelActive k =>
    unfold execute
    dsimp only
    split <;> rfl
  | job c job => cases job <;> first | rfl | cases outcome <;> rfl

section Step

variable [IntCast N] [Add N] [Sub N] [Mul N] [PyMath N] [LE N] [DecidableLE N]

/-- What a step writes to the slot; only the turns of calls do. -/
def slotWrites (s : Nav2 N) : Nav2Action N → List (NavId × SlotWrite)
  | .resume c e => ((s.calls c).bind fun call => call.resume s.baseFrame s.now e).elim [] (turnWrites c)
  | _ => []

variable {s t : Nav2 N} {a : Nav2Action N} {c : NavId}

private theorem slotWrites_resume {e : NavEvent N} {call : NavCall N} {tn : NavTurn N} (hcall : s.calls c = some call)
    (hturn : call.resume s.baseFrame s.now e = some tn) : slotWrites s (.resume c e) = turnWrites c tn := by
  simp only [slotWrites, hcall, Option.bind_some, hturn, Option.elim_some]

omit [IntCast N] [Add N] [Mul N] [PyMath N] [LE N] [DecidableLE N] in
private theorem begin_slot (command : SemanticCommand N) (tokenDeadline now : N) (knownFrames : List String)
    (client : Bool) : (NavCall.begin command tokenDeadline now knownFrames client).slot = .keep := by
  obtain ⟨call, -, -, ⟨o, h⟩ | ⟨point, job, h, -⟩⟩ := begin_cases command tokenDeadline now knownFrames client
  · rw [h]
    rfl
  · rw [h]
    rfl

private theorem slot_step (h : s.step a = some t) :
    t.activeGoalHandle = slotAfter s.activeGoalHandle (slotWrites s a) := by
  cases step_transition h with
  | navigated c command tokenDeadline knownFrames =>
    rw [turn_slot, begin_slot]
    rfl
  | resumed c e hcall hturn =>
    rw [slotWrites_resume hcall hturn, slotAfter_turnWrites]
    rfl
  | cancelAllBegun k =>
    unfold beginCancelAll
    split <;> rfl
  | @ran outcome item rest => exact execute_slot { s with workQueue := rest } outcome item
  | _ => rfl

/-- The slot holds what was written last. -/
theorem slot_run {as : List (Nav2Action N)} (h : StepSystem.run Nav2.step s as = some t) :
    t.activeGoalHandle = slotAfter s.activeGoalHandle (StepSystem.outputs Nav2.step slotWrites s as) := by
  refine StepSystem.outputs_invariant (P := fun t ws => t.activeGoalHandle = slotAfter s.activeGoalHandle ws) ?_ rfl h
  intro u a u' ws hu hstep
  rw [slot_step hstep, hu, slotAfter_append]

/-! ### The await of a call -/

/-- What a step does to the await of the call `c`, and whether it is the call that writes the slot. -/
inductive Moves (c : NavId) (s t : Nav2 N) (writes : List (NavId × SlotWrite)) : Prop
  | stays (hpoint : (t.calls c).map NavCall.point = (s.calls c).map NavCall.point)
      (hwrites : ∀ write ∈ writes, write.1 ≠ c)
  | begins {tn : NavTurn N} (hnone : s.calls c = none) (hcall : t.calls c = some tn.call)
      (hloop : tn.call.point.inLoop = false)
  | turns {call : NavCall N} {tn : NavTurn N} (hcall : s.calls c = some call) (hturn : call.Turns tn)
      (ht : t = s.turn c tn) (hwrites : writes = turnWrites c tn)

omit [IntCast N] [Add N] [Sub N] [Mul N] [PyMath N] [LE N] [DecidableLE N] in
private theorem modifyCall_point (s : Nav2 N) (c' : NavId) {f : NavCall N → NavCall N}
    (hf : ∀ call, (f call).point = call.point) :
    ((s.modifyCall c' f).calls c).map NavCall.point = (s.calls c).map NavCall.point := by
  by_cases hc : c = c'
  · subst hc
    rw [modifyCall_calls_self, Option.map_map]
    exact congrArg (fun g => (s.calls c).map g) (funext hf)
  · rw [modifyCall_calls_ne s f hc]

omit [IntCast N] [Add N] [Sub N] [Mul N] [PyMath N] [LE N] [DecidableLE N] in
/-- The ROS thread does not move a call. -/
private theorem execute_point (s : Nav2 N) (outcome : Except PyException Bool) (item : RosItem) :
    ((s.execute outcome item).calls c).map NavCall.point = (s.calls c).map NavCall.point := by
  cases item with
  | cancelActive k =>
    unfold execute
    dsimp only
    split <;> rfl
  | job c' job =>
    cases job with
    | createClient | waitForServer | getResult => exact modifyCall_point s c' fun _ => rfl
    | sendGoal | cancelGoal =>
      cases outcome with
      | ok b => rfl
      | error exc => exact modifyCall_point s c' fun _ => rfl

theorem step_moves (c : NavId) (h : s.step a = some t) : Moves c s t (slotWrites s a) := by
  have silent : ∀ write ∈ ([] : List (NavId × SlotWrite)), write.1 ≠ c := by simp
  cases step_transition h with
  | ticked | decided | finished | cancelAllReturned | cancelAllCancelled | cancelAllAnswered => exact .stays rfl silent
  | navigated c' command tokenDeadline knownFrames hnone =>
    by_cases hc : c = c'
    · subst hc
      refine .begins hnone (turn_calls_self ..) ?_
      obtain ⟨call, -, -, ⟨o, hb⟩ | ⟨point, job, hb, hbefore, -⟩⟩ :=
        begin_cases command tokenDeadline s.now knownFrames s.actionClient
      · rw [hb]
        rfl
      · rw [hb]
        change point.inLoop = false
        cases point <;> first | rfl | cases hbefore
    · exact .stays (congrArg _ (turn_calls_ne s _ hc)) silent
  | @resumed c' e call tn hcall hturn =>
    rw [slotWrites_resume hcall hturn]
    by_cases hc : c = c'
    · subst hc
      exact .turns hcall (NavCall.resume_turns hturn) rfl rfl
    · refine .stays (congrArg _ (turn_calls_ne s _ hc)) ?_
      intro write hwrite
      unfold turnWrites at hwrite
      split at hwrite
      · cases hwrite
      · obtain rfl := List.mem_singleton.1 hwrite
        exact Ne.symm hc
  | cancelAllBegun k =>
    refine .stays (congrArg _ ?_) silent
    unfold beginCancelAll
    split <;> rfl
  | @ran outcome item rest => exact .stays (execute_point { s with workQueue := rest } outcome item) silent
  | goalFailed c' | goalAnswered c' | cancelAnswered c' | reported c' | fed c' =>
    exact .stays (modifyCall_point s c' fun _ => rfl) silent

/-! ### The last write -/

omit [IntCast N] [Add N] [Sub N] [Mul N] [PyMath N] [LE N] [DecidableLE N] in
/-- A turn that ends in the loop has stored the handle, or it began in the loop and wrote nothing. -/
private theorem turns_loop {call : NavCall N} {tn : NavTurn N} (h : call.Turns tn)
    (hloop : tn.call.point.inLoop = true) : tn.slot = .own ∨ tn.slot = .keep ∧ call.point.inLoop = true := by
  cases h with
  | accepted | acceptedLate => exact .inl rfl
  | sleeps hpoint | cancels _ hpoint | awaits _ hpoint =>
    right
    rw [hpoint]
    exact ⟨rfl, rfl⟩
  | tokenCancelled | resultTaskStarted | resultTaskEnded => exact .inr ⟨rfl, hloop⟩
  | _ => cases hloop

/-- A call in the loop is not the one that has cleared the slot. -/
def Stored (c : NavId) (s : Nav2 N) (writes : List (NavId × SlotWrite)) : Prop :=
  ∀ call, s.calls c = some call → call.point.inLoop = true → (c, .own) ∈ writes ∧ writes.getLast? ≠ some (c, .clear)

omit [IntCast N] [Add N] [Sub N] [Mul N] [PyMath N] [LE N] [DecidableLE N] in
private theorem Stored.step {writes new : List (NavId × SlotWrite)} (h : Stored c s writes) (hmoves : Moves c s t new)
    : Stored c t (writes ++ new) := by
  -- a step that adds only writes of others
  have others : ∀ call, s.calls c = some call → call.point.inLoop = true → (∀ write ∈ new, write.1 ≠ c) →
      (c, .own) ∈ writes ++ new ∧ (writes ++ new).getLast? ≠ some (c, .clear) := by
    intro call hcall hloop hnew
    obtain ⟨hown, hlast⟩ := h call hcall hloop
    refine ⟨List.mem_append_left _ hown, ?_⟩
    rw [List.getLast?_append]
    cases hn : new.getLast? with
    | none => exact hlast
    | some write =>
      rintro heq
      obtain rfl : write = (c, .clear) := Option.some.inj heq
      exact hnew _ (List.mem_of_getLast? hn) rfl
  intro call' hcall' hloop
  cases hmoves with
  | stays hpoint hwrites =>
    rw [hcall'] at hpoint
    obtain ⟨call, hcall, hsame⟩ := Option.map_eq_some_iff.1 hpoint.symm
    exact others call hcall (hsame ▸ hloop) hwrites
  | begins hnone hcall hout =>
    obtain rfl := Option.some.inj (hcall.symm.trans hcall')
    rw [hout] at hloop
    cases hloop
  | @turns call tn hcall hturn ht hwrites =>
    subst ht
    obtain rfl := eq_of_turn hcall'
    rcases turns_loop hturn hloop with hown | ⟨hkeep, hloop'⟩
    · rw [hwrites, turnWrites, hown, if_neg (by decide)]
      simp
    · have hnil : new = [] := hwrites.trans (if_pos hkeep)
      exact others call hcall hloop' (by simp [hnil])

private theorem stored_run {baseFrame : String} {now : N} {as : List (Nav2Action N)}
    (h : StepSystem.run Nav2.step (Nav2.initial baseFrame now) as = some s) (c : NavId) :
    Stored c s (StepSystem.outputs Nav2.step slotWrites (Nav2.initial baseFrame now) as) :=
  StepSystem.outputs_invariant (P := fun s writes => Stored c s writes)
    (fun _ _ _ _ hs hstep => hs.step (step_moves c hstep)) (by rintro call ⟨⟩) h

private theorem slotWrites_ne_keep (s : Nav2 N) (a : Nav2Action N) : ∀ write ∈ slotWrites s a, write.2 ≠ .keep := by
  intro write hwrite
  cases a with
  | resume c e =>
    simp only [slotWrites] at hwrite
    cases hturn : (s.calls c).bind fun call => call.resume s.baseFrame s.now e with
    | none =>
      rw [hturn] at hwrite
      cases hwrite
    | some tn =>
      rw [hturn, Option.elim_some, turnWrites] at hwrite
      split at hwrite
      · cases hwrite
      · next hne =>
        obtain rfl := List.mem_singleton.1 hwrite
        exact hne
  | _ => cases hwrite

/-- A call in the loop has lost the slot exactly if another call has written it last. -/
theorem slot_lost_iff {baseFrame : String} {now : N} {as : List (Nav2Action N)}
    (h : StepSystem.run Nav2.step (Nav2.initial baseFrame now) as = some s) {call : NavCall N}
    (hcall : s.calls c = some call) (hloop : call.point.inLoop = true) :
    s.activeGoalHandle ≠ some c ↔ ∃ write,
      (StepSystem.outputs Nav2.step slotWrites (Nav2.initial baseFrame now) as).getLast? = some write ∧
        write.1 ≠ c := by
  have hslot := slot_run h
  obtain ⟨hown, hlast⟩ := stored_run h c call hcall hloop
  have hkeep : ∀ write ∈ StepSystem.outputs Nav2.step slotWrites (Nav2.initial baseFrame now) as, write.2 ≠ .keep :=
    StepSystem.forall_outputs slotWrites_ne_keep _ as
  generalize StepSystem.outputs Nav2.step slotWrites (Nav2.initial baseFrame now) as = writes at *
  rcases List.eq_nil_or_concat' writes with rfl | ⟨before, ⟨c', w⟩, rfl⟩
  · cases hown
  have hw : w ≠ .keep := hkeep (c', w) (by simp)
  rw [slotAfter_concat] at hslot
  rw [List.getLast?_concat] at hlast ⊢
  rw [hslot]
  cases w with
  | keep => exact absurd rfl hw
  | own => simp [SlotWrite.apply]
  | clear =>
    have hne : c' ≠ c := by
      rintro rfl
      exact hlast rfl
    simp [SlotWrite.apply, hne]

/-! ### Cancel requests -/

/-- The first item in the queue is one by which `who` asks for the cancellation of the goal `g`. -/
def Asks (s : Nav2 N) (g : NavId) : Canceller → Prop
  | .navigate c => c = g ∧ s.workQueue.head? = some (.job c .cancelGoal)
  | .cancelAll k => s.workQueue.head? = some (.cancelActive k) ∧ s.activeGoalHandle = some g

omit [IntCast N] [Add N] [Sub N] [Mul N] [PyMath N] [LE N] [DecidableLE N] in
private theorem execute_requests {item : RosItem} {rest : List RosItem} (hqueue : s.workQueue = item :: rest)
    (outcome : Except PyException Bool) (who : Canceller) (g : NavId) :
    (who, g) ∈ (({ s with workQueue := rest } : Nav2 N).execute outcome item).cancelRequests ↔
      (who, g) ∈ s.cancelRequests ∨ (∃ b, outcome = .ok b) ∧ s.Asks g who := by
  have hhead : s.workQueue.head? = some item := by rw [hqueue]; rfl
  cases item with
  | cancelActive k =>
    cases hslot : s.activeGoalHandle with
    | none => cases who <;> simp [execute, Asks, hhead, hslot, answerCancel]
    | some c =>
      cases outcome with
      | error exc => cases who <;> simp [execute, Asks, hslot, answerCancel]
      | ok b => cases who <;> simp [execute, Asks, hhead, hslot, requestCancel, eq_comm]
  | job c job =>
    cases job with
    | createClient | waitForServer | getResult => cases who <;> simp [execute, Asks, hhead, answer, modifyCall]
    | sendGoal => cases outcome <;> cases who <;> simp [execute, Asks, hhead, answer, modifyCall]
    | cancelGoal =>
      cases outcome with
      | error exc => cases who <;> simp [execute, Asks, answer, modifyCall]
      | ok b =>
        cases who with
        | cancelAll k => simp [execute, Asks, hhead, requestCancel]
        | navigate c' =>
          have hsame : (c' = c ∧ g = c) ↔ (c' = g ∧ c = c') := by
            constructor
            · rintro ⟨rfl, rfl⟩
              exact ⟨rfl, rfl⟩
            · rintro ⟨rfl, rfl⟩
              exact ⟨rfl, rfl⟩
          simpa [execute, Asks, hhead, requestCancel] using or_congr_right hsame

/-- A step issues a cancel request exactly where it runs an item that asks for it, which does not raise. -/
private theorem cancelRequests_step (h : s.step a = some t) (who : Canceller) (g : NavId) :
    (who, g) ∈ t.cancelRequests ↔
      (who, g) ∈ s.cancelRequests ∨ (∃ b, a = .runItem (.ok b)) ∧ s.Asks g who := by
  cases step_transition h with
  | @ran outcome item rest hqueue =>
    rw [execute_requests hqueue]
    simp
  | cancelAllBegun k =>
    unfold beginCancelAll
    split <;> simp
  | _ => simp [answer, answerCancel]

/-- The cancel requests that a run issues. -/
theorem cancelRequests_run {as : List (Nav2Action N)} (h : StepSystem.run Nav2.step s as = some t) (who : Canceller)
    (g : NavId) :
    (who, g) ∈ t.cancelRequests ↔ (who, g) ∈ s.cancelRequests ∨ ∃ as₁ b as₂ u, as = as₁ ++ .runItem (.ok b) :: as₂ ∧
      StepSystem.run Nav2.step s as₁ = some u ∧ u.Asks g who := by
  rw [StepSystem.run_records (P := fun _ => True) (R := fun s => (who, g) ∈ s.cancelRequests) (fun _ _ _ _ _ => trivial)
    (fun _ _ _ _ hstep => cancelRequests_step hstep who g) trivial h]
  refine or_congr_right ⟨?_, ?_⟩
  · rintro ⟨as₁, a, as₂, u, has, hu, ⟨b, rfl⟩, hasks⟩
    exact ⟨as₁, b, as₂, u, has, hu, hasks⟩
  · rintro ⟨as₁, b, as₂, u, has, hu, hasks⟩
    exact ⟨as₁, _, as₂, u, has, hu, ⟨b, rfl⟩, hasks⟩

/-- Along the run `as` from `s`, the ROS thread runs the cancel job of the call `c`, and `cancel_goal_async` does not
raise. -/
def CancelJobRuns (s : Nav2 N) (as : List (Nav2Action N)) (c : NavId) : Prop :=
  ∃ as₁ b as₂ u, as = as₁ ++ .runItem (.ok b) :: as₂ ∧ StepSystem.run Nav2.step s as₁ = some u ∧
    u.workQueue.head? = some (.job c .cancelGoal)

/-- Along the run `as` from `s`, the ROS thread runs the request of a call `k` of `cancel_all` while the slot holds the
handle of the goal `g`, and `cancel_goal_async` does not raise. -/
def CancelAllRuns (s : Nav2 N) (as : List (Nav2Action N)) (k : CancelId) (g : NavId) : Prop :=
  ∃ as₁ b as₂ u, as = as₁ ++ .runItem (.ok b) :: as₂ ∧ StepSystem.run Nav2.step s as₁ = some u ∧
    u.workQueue.head? = some (.cancelActive k) ∧ u.activeGoalHandle = some g

/-- The cancel request of the loop. -/
theorem requested_run {as : List (Nav2Action N)} (h : StepSystem.run Nav2.step s as = some t) (c : NavId) :
    t.Requested c ↔ s.Requested c ∨ CancelJobRuns s as c := by
  refine (cancelRequests_run h (.navigate c) c).trans (or_congr_right ⟨?_, ?_⟩)
  · rintro ⟨as₁, b, as₂, u, has, hu, -, hhead⟩
    exact ⟨as₁, b, as₂, u, has, hu, hhead⟩
  · rintro ⟨as₁, b, as₂, u, has, hu, hhead⟩
    exact ⟨as₁, b, as₂, u, has, hu, rfl, hhead⟩

/-- The request of a call of `cancel_all`. -/
theorem cancelAllRequested_run {as : List (Nav2Action N)} (h : StepSystem.run Nav2.step s as = some t)
    (k : CancelId) (g : NavId) :
    (.cancelAll k, g) ∈ t.cancelRequests ↔ (.cancelAll k, g) ∈ s.cancelRequests ∨ CancelAllRuns s as k g :=
  cancelRequests_run h (.cancelAll k) g

/-- Only the call of a goal and the calls of `cancel_all` ask for its cancellation. -/
theorem requester_run {baseFrame : String} {now : N} {as : List (Nav2Action N)}
    (h : StepSystem.run Nav2.step (Nav2.initial baseFrame now) as = some s) (g : NavId) :
    (∃ who, (who, g) ∈ s.cancelRequests) ↔ s.Requested g ∨ ∃ k, (.cancelAll k, g) ∈ s.cancelRequests := by
  constructor
  · rintro ⟨who, hwho⟩
    cases who with
    | cancelAll k => exact .inr ⟨k, hwho⟩
    | navigate c =>
      rcases (cancelRequests_run h (.navigate c) g).1 hwho with ⟨⟨⟩⟩ | ⟨-, -, -, -, -, -, rfl, -⟩
      exact .inl hwho
  · rintro (hown | ⟨k, hk⟩)
    · exact ⟨_, hown⟩
    · exact ⟨_, hk⟩

omit [IntCast N] [Add N] [Sub N] [Mul N] [PyMath N] [LE N] [DecidableLE N] in
private theorem turns_afterSending {call : NavCall N} {tn : NavTurn N} (h : call.Turns tn)
    (hafter : call.point.afterSending = true) : tn.call.point.afterSending = true := by
  cases h with
  | waits hpoint | localizes hpoint | sends hpoint =>
    rw [hpoint] at hafter
    cases hafter
  | tokenCancelled | resultTaskStarted | resultTaskEnded => exact hafter
  | _ => rfl

omit [IntCast N] [Add N] [Sub N] [Mul N] [PyMath N] [LE N] [DecidableLE N] in
private theorem Moves.afterSending {writes : List (NavId × SlotWrite)} (h : Moves c s t writes)
    (hs : ∃ call, s.calls c = some call ∧ call.point.afterSending = true) :
    ∃ call, t.calls c = some call ∧ call.point.afterSending = true := by
  obtain ⟨call, hcall, hafter⟩ := hs
  cases h with
  | stays hpoint =>
    rw [hcall] at hpoint
    obtain ⟨call', hcall', hsame⟩ := Option.map_eq_some_iff.1 hpoint
    exact ⟨call', hcall', by rw [hsame]; exact hafter⟩
  | begins hnone => cases hcall.symm.trans hnone
  | @turns call₀ tn hcall₀ hturn ht =>
    subst ht
    obtain rfl : call = call₀ := Option.some.inj (hcall.symm.trans hcall₀)
    exact ⟨tn.call, turn_calls_self .., turns_afterSending hturn hafter⟩

/-- No cancel request is issued for a goal before its call was told that it is accepted. -/
theorem afterSending_run {baseFrame : String} {now : N} {as : List (Nav2Action N)}
    (h : StepSystem.run Nav2.step (Nav2.initial baseFrame now) as = some s) (c : NavId) :
    (∃ who, (who, c) ∈ s.cancelRequests) → ∃ call, s.calls c = some call ∧ call.point.afterSending = true := by
  refine (StepSystem.run_invariant (P := fun s => Tracked s c ∧ ((∃ who, (who, c) ∈ s.cancelRequests) →
    ∃ call, s.calls c = some call ∧ call.point.afterSending = true)) ?_ ⟨initial_tracked baseFrame now c, ?_⟩ h).2
  · rintro s a t ⟨hs, hafter⟩ hstep
    have htracked : Tracked t c := hs.step (step_affects c hstep)
    refine ⟨htracked, ?_⟩
    rintro ⟨who, hwho⟩
    rcases (cancelRequests_step hstep who c).1 hwho with hbefore | ⟨-, hasks⟩
    · exact (step_moves c hstep).afterSending (hafter ⟨who, hbefore⟩)
    cases who with
    | navigate c' =>
      obtain ⟨rfl, -⟩ := hasks
      obtain ⟨-, call, hcall, hpoint⟩ := htracked.requested hwho
      refine ⟨call, hcall, ?_⟩
      cases hp : call.point <;> simp [hp, NavPoint.afterCancel] at hpoint <;> rfl
    | cancelAll k =>
      -- the slot holds the handle of a call in the loop, or of one that has ended there
      obtain ⟨call, hcall, hpoint⟩ := hs.slot hasks.2
      refine (step_moves c hstep).afterSending ⟨call, hcall, ?_⟩
      cases hp : call.point <;> simp [hp, NavPoint.inLoop, NavPoint.isEnded] at hpoint <;> rfl
  · rintro ⟨who, ⟨⟩⟩

/-! ### The decisions of the server -/

/-- Along `as`, the action server rejects the goal of `c`, or ends it. -/
def ServerDone (as : List (Nav2Action N)) (c : NavId) : Prop :=
  .decide c false ∈ as ∨ ∃ status, .finish c status ∈ as

/-- The goal was rejected or has ended. -/
def Closed (s : Nav2 N) (c : NavId) : Prop := s.goals c = .rejected ∨ ∃ status, s.goals c = .ended status

omit [IntCast N] [Add N] [Sub N] [Mul N] [PyMath N] [LE N] [DecidableLE N] in
/-- The ROS thread only sends a goal that was not sent before. -/
private theorem execute_closed {item : RosItem} {rest : List RosItem} (hs : Tracked s c)
    (hqueue : s.workQueue = item :: rest) (outcome : Except PyException Bool) :
    (({ s with workQueue := rest } : Nav2 N).execute outcome item).Closed c ↔ s.Closed c := by
  cases item with
  | cancelActive k =>
    unfold execute
    dsimp only
    split <;> rfl
  | job c' job =>
    cases job with
    | createClient | waitForServer | getResult => rfl
    | cancelGoal => cases outcome <;> rfl
    | sendGoal =>
      cases outcome with
      | error exc => rfl
      | ok b =>
        by_cases hc : c = c'
        · subst hc
          have hmem : .sendGoal ∈ s.jobs c := by simp [Nav2.jobs, hqueue, RosItem.jobOf]
          simp [Closed, execute, hs.queued hmem]
        · simp [Closed, execute, Function.update_of_ne hc]

private theorem closed_step (hs : Tracked s c) (h : s.step a = some t) :
    t.Closed c ↔ s.Closed c ∨ (a = .decide c false ∨ ∃ status, a = .finish c status) := by
  cases step_transition h with
  | @ran outcome item rest hqueue =>
    rw [execute_closed hs hqueue]
    simp
  | decided c' accepted hgoal =>
    by_cases hc : c = c'
    · subst hc
      cases accepted <;> simp [Closed, hgoal]
    · simp [Closed, Function.update_of_ne hc, Ne.symm hc]
  | finished c' status hgoal =>
    by_cases hc : c = c'
    · subst hc
      simp [Closed]
    · simp [Closed, Function.update_of_ne hc, Ne.symm hc]
  | cancelAllBegun k =>
    have hsame : (s.beginCancelAll k).goals = s.goals := by
      unfold beginCancelAll
      split <;> rfl
    simp [Closed, hsame]
  | _ => simp [Closed, answer, answerCancel]

/-- A goal is closed exactly if the server has closed it. -/
theorem closed_run {baseFrame : String} {now : N} {as : List (Nav2Action N)}
    (h : StepSystem.run Nav2.step (Nav2.initial baseFrame now) as = some s) (c : NavId) :
    s.Closed c ↔ ServerDone as c := by
  have hkept := fun (u : Nav2 N) b u' (hu : Tracked u c) (hstep : u.step b = some u') =>
    hu.step (step_affects c hstep)
  rw [StepSystem.run_records_label (L := fun a => a = .decide c false ∨ ∃ status, a = .finish c status) hkept
    (fun _ _ _ hu hstep => closed_step hu hstep) (initial_tracked baseFrame now c) h]
  have hinitial : ¬ (Nav2.initial baseFrame now).Closed c := by
    rintro (⟨⟨⟩⟩ | ⟨status, ⟨⟨⟩⟩⟩)
  rw [or_iff_right hinitial]
  constructor
  · rintro ⟨a, ha, rfl | ⟨status, rfl⟩⟩
    · exact .inl ha
    · exact .inr ⟨status, ha⟩
  · rintro (ha | ⟨status, ha⟩)
    · exact ⟨_, ha, .inl rfl⟩
    · exact ⟨_, ha, .inr ⟨status, rfl⟩⟩

end Step

end Nav2

end RosMcp
