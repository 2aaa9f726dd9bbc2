import RosMcp.Navigation.NavCall

/-!
# What a call of `navigate` notes

`notes` collects what a call reads on its way, and its two requests.  `Noted` lists the turns of a call with their
notes, and `Follows` says which notes a call has made when it is at a point: the four checks and the goal, one pair of
reads for each turn of the loop, and at its early exit the cancellation.  A turn keeps `Follows` (`Noted.follows`), and
hands over the jobs of the requests that it notes (`Noted.count`).
-/

namespace RosMcp

/-! ### Notes -/

/-- What a call of `navigate` reads, and its two requests. -/
inductive NavNote
  | frame (known : Bool)
  | server (ready : Bool)
  | localization (there : Bool)
  | transform (ok : Bool)
  /-- `send_goal_async` -/
  | goal
  | token (cancelled : Bool)
  | deadline (passed : Bool)
  /-- `cancel_goal_async` -/
  | cancel
  deriving DecidableEq, Repr

namespace NavNote

/-- The job of the ROS thread that makes a request. -/
def job : NavNote → Option NavJob
  | .goal => some .sendGoal
  | .cancel => some .cancelGoal
  | _ => none

/-- The four checks, and the goal. -/
def submission : List NavNote := [.frame true, .server true, .localization true, .transform true, .goal]

/-- The reads of `n` turns of the loop that go on. -/
def polls (n : ℕ) : List NavNote := (List.replicate n [.token false, .deadline false]).flatten

/-- The reads of the turn that leaves the loop early, and the cancellation. -/
def leaving : Option EarlyExit → List NavNote
  | none => []
  | some .cancelled => [.token true, .cancel]
  | some .timeout => [.token false, .deadline true, .cancel]

/-- The notes of a call that has submitted its goal. -/
def submitted (n : ℕ) (exit : Option EarlyExit) : List NavNote := submission ++ polls n ++ leaving exit

private theorem polls_succ (n : ℕ) : polls (n + 1) = polls n ++ [.token false, .deadline false] := by
  unfold polls
  rw [List.replicate_succ', List.flatten_append]
  rfl

private theorem mem_polls {n : ℕ} {note : NavNote}
    (h : note ∈ polls n) : note = .token false ∨ note = .deadline false := by
  obtain ⟨reads, hreads, hnote⟩ := List.mem_flatten.1 h
  obtain rfl := List.eq_of_mem_replicate hreads
  simpa using hnote

/-- The reads of the loop are no other notes. -/
private theorem count_polls {n : ℕ} {note : NavNote} (htoken : note ≠ .token false)
    (hdeadline : note ≠ .deadline false) :
    (polls n).count note = 0 := by
  refine List.count_eq_zero.2 ?_
  intro hmem
  rcases mem_polls hmem with h | h
  · exact htoken h
  · exact hdeadline h

private theorem submitted_succ (n : ℕ) :
    submitted (n + 1) none = submitted n none ++ [.token false, .deadline false] := by
  simp [submitted, polls_succ, leaving]

private theorem submitted_leaving (n : ℕ) (outcome : EarlyExit) :
    submitted n (some outcome) = submitted n none ++ leaving (some outcome) := by
  simp [submitted, leaving]

theorem submission_prefix (n : ℕ) (exit : Option EarlyExit) : submission <+: submitted n exit :=
  ⟨polls n ++ leaving exit, by rw [submitted, List.append_assoc]⟩

theorem count_submitted {n : ℕ} {exit : Option EarlyExit} {note : NavNote} (htoken : note ≠ .token false)
    (hdeadline : note ≠ .deadline false) :
    (submitted n exit).count note = submission.count note + (leaving exit).count note := by
  rw [submitted, List.count_append, List.count_append, count_polls htoken hdeadline, Nat.add_zero]

private theorem count_cancel_submitted {n : ℕ} {exit : Option EarlyExit} :
    (submitted n exit).count .cancel = (leaving exit).count .cancel := by
  rw [count_submitted (by simp) (by simp)]
  exact Nat.zero_add _

/-- The token is read as cancelled only when the loop is left. -/
private theorem token_mem_submitted {n : ℕ} {exit : Option EarlyExit} :
    .token true ∈ submitted n exit ↔ .token true ∈ leaving exit := by
  rw [← List.count_pos_iff, ← List.count_pos_iff, count_submitted (by simp) (by simp)]
  exact iff_of_eq (congrArg (0 < ·) (Nat.zero_add _))

theorem job_eq_some {note : NavNote} {job : NavJob} (h : note.job = some job) :
    note = .goal ∧ job = .sendGoal ∨ note = .cancel ∧ job = .cancelGoal := by
  cases note with
  | goal =>
    cases h
    exact .inl ⟨rfl, rfl⟩
  | cancel =>
    cases h
    exact .inr ⟨rfl, rfl⟩
  | _ => cases h

end NavNote

open NavNote (submitted submission)

/-! ### The notes of a point -/

section Point

variable {N : Type}

/-- A call has submitted a goal, or has made neither of its requests. -/
def NavNote.Complete (notes : List NavNote) : Prop :=
  (.goal ∉ notes ∧ .cancel ∉ notes) ∨ ∃ n exit, notes = submitted n exit

/-- A returned result says what the notes and the result task say. -/
structure NavNote.Justify (notes : List NavNote) (task : ResultTask) (result : ToolResult N) : Prop where
  succeeded : result.status = .succeeded → task = .done (.ok statusSucceeded) ∧ .cancel ∉ notes
  cancelled : ∀ error, result.error = some error → error.code = .cancelled →
    .token true ∈ notes ∧ notes.count .cancel = 1 ∨
      task = .done (.ok statusCanceled) ∧ .token true ∉ notes ∧ .cancel ∉ notes
  timedOut : ∀ error, result.error = some error → error.code = .actionTimeout →
    .deadline true ∈ notes ∧ .token true ∉ notes ∧ notes.count .cancel = 1

/-- A failure that is neither a cancellation nor a timeout. -/
def ToolResult.Refusal (result : ToolResult N) : Prop :=
  result.status = .failed ∧
    ∀ error, result.error = some error → error.code ≠ .cancelled ∧ error.code ≠ .actionTimeout

/-- Notes with which a call can end: none, or those of a check. -/
def NavPoint.Ends (point : NavPoint N) (new : List NavNote) : Prop :=
  new = [] ∨ point.beforeGoal = true ∧ .goal ∉ new ∧ .cancel ∉ new

/-- The notes that a call has made when it is at a point. -/
def NavPoint.Follows (notes : List NavNote) (task : ResultTask) : NavPoint N → Prop
  | .ensuringClient | .waitingForServer => notes = [.frame true]
  | .localizing => notes = [.frame true, .server true, .localization true]
  | .sending => notes = submitted 0 none
  | .sleeping => ∃ n, notes = submitted n none
  | .cancelling outcome | .awaitingResult outcome => ∃ n, notes = submitted n (some outcome)
  | .resolvingFinalPose exit => ∃ n, notes = submitted n exit
  | .ended o => NavNote.Complete notes ∧ ∀ result, o = .returned result → NavNote.Justify notes task result

/-- Before the goal there is neither request. -/
private theorem NavPoint.Follows.no_request {point : NavPoint N} {notes : List NavNote} {task : ResultTask}
    (h : point.Follows notes task) (hbefore : point.beforeGoal = true) : .goal ∉ notes ∧ .cancel ∉ notes := by
  cases point with
  | ensuringClient | waitingForServer | localizing =>
    obtain rfl : notes = _ := h
    decide
  | _ => cases hbefore

/-- At every point the notes are complete. -/
theorem NavPoint.Follows.complete {point : NavPoint N} {notes : List NavNote} {task : ResultTask}
    (h : point.Follows notes task) : NavNote.Complete notes := by
  cases hpoint : point with
  | ensuringClient | waitingForServer | localizing => exact .inl (h.no_request (by rw [hpoint]; rfl))
  | sending =>
    rw [hpoint] at h
    exact .inr ⟨0, none, h⟩
  | sleeping | cancelling | awaitingResult | resolvingFinalPose =>
    rw [hpoint] at h
    obtain ⟨n, hn⟩ := h
    exact .inr ⟨n, _, hn⟩
  | ended o =>
    rw [hpoint] at h
    exact h.1

/-- Notes with which a call ends are complete. -/
private theorem NavPoint.Follows.complete_ends {point : NavPoint N} {notes new : List NavNote} {task : ResultTask}
    (h : point.Follows notes task) (hnew : point.Ends new) : NavNote.Complete (notes ++ new) := by
  rcases hnew with rfl | ⟨hbefore, hgoal, hcancel⟩
  · rw [List.append_nil]
    exact h.complete
  · obtain ⟨hgoal', hcancel'⟩ := h.no_request hbefore
    left
    constructor
    · rw [List.mem_append]
      exact fun hmem => hmem.elim hgoal' hgoal
    · rw [List.mem_append]
      exact fun hmem => hmem.elim hcancel' hcancel

/-- The notes of a call stay those of its point while its result task does not lose what it has. -/
theorem NavPoint.Follows.mono {point : NavPoint N} {notes : List NavNote} {task task' : ResultTask}
    (h : point.Follows notes task) (htask : ∀ r, task = .done r → task' = .done r) : point.Follows notes task' := by
  cases point with
  | ended o =>
    refine ⟨h.1, ?_⟩
    intro result ho
    have hjustify := h.2 result ho
    constructor
    case succeeded =>
      intro hstatus
      obtain ⟨hdone, hcancel⟩ := hjustify.succeeded hstatus
      exact ⟨htask _ hdone, hcancel⟩
    case cancelled =>
      intro error herror hcode
      rcases hjustify.cancelled error herror hcode with hasked | ⟨hdone, htoken, hcancel⟩
      · exact .inl hasked
      · exact .inr ⟨htask _ hdone, htoken, hcancel⟩
    case timedOut => exact hjustify.timedOut
  | _ => exact h

theorem ToolResult.Refusal.justify {result : ToolResult N} (h : result.Refusal) (notes : List NavNote)
    (task : ResultTask) : NavNote.Justify notes task result where
  succeeded := by
    intro hstatus
    rw [h.1] at hstatus
    cases hstatus
  cancelled := fun error herror hcode => absurd hcode (h.2 error herror).1
  timedOut := fun error herror hcode => absurd hcode (h.2 error herror).2

private theorem NavPoint.Follows.polled {point : NavPoint N} {notes : List NavNote} {task : ResultTask}
    (h : point.Follows notes task) (hpoint : point = .sending ∨ point = .sleeping) :
    ∃ n, notes = submitted n none := by
  rcases hpoint with rfl | rfl
  · exact ⟨0, h⟩
  · exact h

end Point

/-! ### The turns -/

section Call

variable {N : Type} [IntCast N] [Add N] [Sub N] [Mul N] [PyMath N] [LE N] [DecidableLE N]

/-- The call reads whether its frame is known, when its target is one of `navigate`. -/
def NavCall.beginNotes (command : SemanticCommand N) (knownFrames : List String) : List NavNote :=
  match command.target with
  | .navigate _ => [.frame (decide (command.goalFrame ∈ knownFrames))]
  | _ => []

/-- The head of the loop reads the token, and the deadlines only when it is not cancelled. -/
def NavCall.headNotes (call : NavCall N) (now : N) : List NavNote :=
  if call.resultTask.isDone then []
  else if call.tokenCancelled then [.token true, .cancel]
  else if call.tokenDeadline ≤ now ∨ call.startMonotonic + call.command.timeoutS ≤ now then
    [.token false, .deadline true, .cancel]
  else [.token false, .deadline false]

/-- What a call notes in a turn. -/
def NavCall.notes (call : NavCall N) (now : N) : NavEvent N → List NavNote
  | .serverWaited localization =>
    match call.reply with
    | some (.ok ready) => .server ready :: if ready then [.localization localization] else []
    | _ => []
  | .localized (.ok result) goalMessage =>
    match result.ok, goalMessage with
    | true, .ok () => [.transform true, .goal]
    | ok, _ => [.transform ok]
  | .goalAnswered =>
    match call.reply with
    | some (.ok true) => ({ call with resultTask := .scheduled } : NavCall N).headNotes now
    | _ => []
  | .slept => call.headNotes now
  | _ => []

/-- What the turns of a call can do, each with what it notes. -/
inductive NavCall.Noted (call : NavCall N) (now : N) : NavTurn N → List NavNote → Prop
  | keeps {tn : NavTurn N} (hpoint : tn.call.point = call.point) (hjob : tn.job = none ∨ tn.job = some .getResult)
      (htask : ∀ r, call.resultTask = .done r → tn.call.resultTask = .done r) : call.Noted now tn []
  | waits {tn : NavTurn N} (hpoint : call.point = .ensuringClient) (hnext : tn.call.point = .waitingForServer)
      (hjob : tn.job = some .waitForServer) : call.Noted now tn []
  | localizes {tn : NavTurn N} (hpoint : call.point = .waitingForServer) (hnext : tn.call.point = .localizing)
      (hjob : tn.job = none) : call.Noted now tn [.server true, .localization true]
  | sends {tn : NavTurn N} (hpoint : call.point = .localizing) (hnext : tn.call.point = .sending)
      (hjob : tn.job = some .sendGoal) : call.Noted now tn [.transform true, .goal]
  | polls {tn : NavTurn N} (hpoint : call.point = .sending ∨ call.point = .sleeping)
      (hnext : tn.call.point = .sleeping) (hjob : tn.job = none) :
      call.Noted now tn [.token false, .deadline false]
  | leaves {tn : NavTurn N} (outcome : EarlyExit) (hpoint : call.point = .sending ∨ call.point = .sleeping)
      (hnext : tn.call.point = .cancelling outcome) (hjob : tn.job = some .cancelGoal) :
      call.Noted now tn (NavNote.leaving (some outcome))
  | finishes {tn : NavTurn N} (hpoint : call.point = .sleeping) (hnext : tn.call.point = .resolvingFinalPose none)
      (hjob : tn.job = none) : call.Noted now tn []
  | awaits {tn : NavTurn N} (outcome : EarlyExit) (hpoint : call.point = .cancelling outcome)
      (hnext : tn.call.point = .awaitingResult outcome) (hjob : tn.job = none) : call.Noted now tn []
  | resolves {tn : NavTurn N} (outcome : EarlyExit)
      (hpoint : call.point = .cancelling outcome ∨ call.point = .awaitingResult outcome)
      (hnext : tn.call.point = .resolvingFinalPose (some outcome)) (hjob : tn.job = none) : call.Noted now tn []
  | concludes (outcome : Option EarlyExit) (finalPose : Option (Pose2D N))
      (hpoint : call.point = .resolvingFinalPose outcome) :
      call.Noted now (call.endWith (call.conclude now outcome finalPose)) []
  | fails {result : ToolResult N} {new : List NavNote} (hlive : call.point.isEnded = false) (hreplied : call.Replied)
      (hresult : result.Refusal) (hnew : call.point.Ends new) : call.Noted now (call.endWith (.returned result)) new
  | aborts {tn : NavTurn N} {o : NavOutcome N} {new : List NavNote} (hlive : call.point.isEnded = false)
      (hnext : tn.call.point = .ended o) (hjob : tn.job = none) (ho : ∀ result, o ≠ .returned result)
      (hnew : call.point.Ends new) : call.Noted now tn new

omit [Add N] [Mul N] [PyMath N] [LE N] [DecidableLE N] in
/-- The failures of the checks and of a rejected goal. -/
private theorem NavCall.Noted.fail {call : NavCall N} {now : N} {error : ToolError N} {failReason : Option FailReason}
    {new : List NavNote} (hlive : call.point.isEnded = false) (hreplied : call.Replied)
    (hcode : error.code ≠ .cancelled ∧ error.code ≠ .actionTimeout) (hnew : call.point.Ends new) :
    call.Noted now (call.endWith (call.fail now error failReason none none)) new := by
  refine .fails hlive hreplied ⟨rfl, ?_⟩ hnew
  rintro error' ⟨⟩
  exact hcode

omit [IntCast N] [Sub N] [Mul N] [PyMath N] in
/-- The head of the loop with what it notes. -/
private theorem NavCall.loopHead_notes (call : NavCall N) (now : N) :
    call.resultTask.isDone = true ∧ call.loopHead now = call.leaveLoop none ∧ call.headNotes now = [] ∨
      (∃ outcome, call.loopHead now = call.submit (.cancelling outcome) .cancelGoal ∧
        call.headNotes now = NavNote.leaving (some outcome)) ∨
      call.loopHead now = { call := { call with point := .sleeping } } ∧
        call.headNotes now = [.token false, .deadline false] := by
  unfold NavCall.loopHead NavCall.headNotes NavCall.earlyExit
  by_cases hdone : call.resultTask.isDone = true
  · rw [if_pos hdone, if_pos hdone]
    exact .inl ⟨hdone, rfl, rfl⟩
  · rw [if_neg hdone, if_neg hdone]
    right
    by_cases htoken : call.tokenCancelled = true
    · rw [if_pos htoken, if_pos htoken]
      exact .inl ⟨.cancelled, rfl, rfl⟩
    · rw [if_neg htoken, if_neg htoken]
      by_cases hdeadline : call.tokenDeadline ≤ now ∨ call.startMonotonic + call.command.timeoutS ≤ now
      · rw [if_pos hdeadline, if_pos hdeadline]
        exact .inl ⟨.timeout, rfl, rfl⟩
      · rw [if_neg hdeadline, if_neg hdeadline]
        exact .inr ⟨rfl, rfl⟩

omit [Add N] [Mul N] [PyMath N] [LE N] [DecidableLE N] in
private theorem NavCall.resultReady_noted {call : NavCall N} {now : N} {outcome : EarlyExit} {tn : NavTurn N}
    (hpoint : call.point = .cancelling outcome ∨ call.point = .awaitingResult outcome)
    (h : call.resultReady outcome = some tn) : call.Noted now tn [] := by
  have hlive : call.point.isEnded = false := by rcases hpoint with hp | hp <;> rw [hp] <;> rfl
  unfold NavCall.resultReady at h
  split at h
  · cases h
    exact .resolves outcome hpoint rfl rfl
  · cases h
    exact .aborts hlive rfl rfl (by simp) (.inl rfl)
  · cases h
    exact .aborts hlive rfl rfl (by simp) (.inl rfl)
  · cases h

/-- The answer of the server, and the look for a localization. -/
private theorem NavCall.serverWaited_noted {baseFrame : String} {call : NavCall N} {now : N} {localization : Bool}
    {tn : NavTurn N} (h : call.resume baseFrame now (.serverWaited localization) = some tn) :
    call.Noted now tn (call.notes now (.serverWaited localization)) := by
  simp only [NavCall.resume] at h
  split at h
  · next ready hpoint hreply =>
    have hlive : call.point.isEnded = false := by rw [hpoint]; rfl
    have hbefore : call.point.beforeGoal = true := by rw [hpoint]; rfl
    have hreplied : call.Replied := .inr (by rw [hreply]; exact Option.some_ne_none _)
    have hnotes : call.notes now (.serverWaited localization) =
        .server ready :: if ready then [.localization localization] else [] := by
      simp only [NavCall.notes, hreply]
    rw [hnotes]
    cases ready with
    | false =>
      cases h
      exact .fail hlive hreplied (by simp [capabilityError]) (.inr ⟨hbefore, by simp, by simp⟩)
    | true =>
      cases localization with
      | false =>
        cases h
        exact .fail hlive hreplied (by simp [capabilityError]) (.inr ⟨hbefore, by simp, by simp⟩)
      | true =>
        cases h
        exact .localizes hpoint rfl rfl
  · next hpoint hreply =>
    have hnotes : call.notes now (.serverWaited localization) = [] := by simp only [NavCall.notes, hreply]
    rw [hnotes]
    cases h
    exact .aborts (by rw [hpoint]; rfl) rfl rfl (by simp) (.inl rfl)
  · cases h

/-- The transform, and the goal. -/
private theorem NavCall.localized_noted {baseFrame : String} {call : NavCall N} {now : N}
    {r : Except PyException (TransformResult N)} {goalMessage : Except PyException Unit} {tn : NavTurn N}
    (h : call.resume baseFrame now (.localized r goalMessage) = some tn) :
    call.Noted now tn (call.notes now (.localized r goalMessage)) := by
  simp only [NavCall.resume] at h
  split at h
  · next hpoint =>
    cases h
    exact .aborts (by rw [hpoint]; rfl) rfl rfl (by simp) (.inl rfl)
  · next result hpoint =>
    have hlive : call.point.isEnded = false := by rw [hpoint]; rfl
    have hbefore : call.point.beforeGoal = true := by rw [hpoint]; rfl
    have hreplied : call.Replied := .inl (by rw [hpoint]; rfl)
    cases hok : result.ok with
    | false =>
      rw [hok] at h
      have hnotes : call.notes now (.localized (.ok result) goalMessage) = [.transform false] := by
        simp only [NavCall.notes, hok]
      rw [hnotes]
      cases h
      exact .fail hlive hreplied (by simp) (.inr ⟨hbefore, by simp, by simp⟩)
    | true =>
      rw [hok] at h
      cases goalMessage with
      | error exc =>
        have hnotes : call.notes now (.localized (.ok result) (.error exc)) = [.transform true] := by
          simp only [NavCall.notes, hok]
        rw [hnotes]
        cases h
        exact .aborts hlive rfl rfl (by simp) (.inr ⟨hbefore, by simp, by simp⟩)
      | ok u =>
        have hnotes : call.notes now (.localized (.ok result) (.ok u)) = [.transform true, .goal] := by
          simp only [NavCall.notes, hok]
        rw [hnotes]
        cases h
        exact .sends hpoint rfl rfl
  · cases h

omit [Mul N] [PyMath N] in
/-- A turn that goes to the head of the loop. -/
private theorem NavCall.loopHead_noted {call call' : NavCall N} {now : N} {tn : NavTurn N}
    (hpoint : call.point = .sleeping ∨ call.point = .sending ∧ call'.resultTask.isDone = false)
    (hcall : tn.call = (call'.loopHead now).call) (hjob : tn.job = (call'.loopHead now).job) :
    call.Noted now tn (call'.headNotes now) := by
  have hfrom : call.point = .sending ∨ call.point = .sleeping := by
    rcases hpoint with hp | ⟨hp, -⟩
    · exact .inr hp
    · exact .inl hp
  rcases call'.loopHead_notes now with ⟨hdone, hl, hnotes⟩ | ⟨outcome, hl, hnotes⟩ | ⟨hl, hnotes⟩
  · have hsleeping : call.point = .sleeping := by
      rcases hpoint with hp | ⟨-, hpending⟩
      · exact hp
      · rw [hdone] at hpending
        cases hpending
    rw [hnotes]
    rw [hl] at hcall hjob
    exact .finishes hsleeping (by rw [hcall]; rfl) hjob
  · rw [hnotes]
    rw [hl] at hcall hjob
    exact .leaves outcome hfrom (by rw [hcall]; rfl) hjob
  · rw [hnotes]
    rw [hl] at hcall hjob
    exact .polls hfrom (by rw [hcall]) hjob

/-- The answer to the goal. -/
private theorem NavCall.goalAnswered_noted {baseFrame : String} {call : NavCall N} {now : N}
    {tn : NavTurn N} (h : call.resume baseFrame now .goalAnswered = some tn) :
    call.Noted now tn (call.notes now .goalAnswered) := by
  simp only [NavCall.resume] at h
  split at h
  · next accepted hpoint hreply =>
    cases accepted with
    | false =>
      have hnotes : call.notes now .goalAnswered = [] := by simp only [NavCall.notes, hreply]
      rw [hnotes]
      cases h
      refine .fail (by rw [hpoint]; rfl) (.inr ?_) (by simp) (.inl rfl)
      rw [hreply]
      exact Option.some_ne_none _
    | true =>
      have hnotes : call.notes now .goalAnswered =
          ({ call with resultTask := .scheduled } : NavCall N).headNotes now := by
        simp only [NavCall.notes, hreply]
      rw [hnotes]
      cases h
      exact NavCall.loopHead_noted (.inr ⟨hpoint, rfl⟩) rfl rfl
  · next hpoint hreply =>
    have hnotes : call.notes now .goalAnswered = [] := by simp only [NavCall.notes, hreply]
    rw [hnotes]
    cases h
    exact .aborts (by rw [hpoint]; rfl) rfl rfl (by simp) (.inl rfl)
  · cases h

/-- The action client. -/
private theorem NavCall.clientCreated_noted {baseFrame : String} {call : NavCall N} {now : N}
    {tn : NavTurn N} (h : call.resume baseFrame now .clientCreated = some tn) :
    call.Noted now tn (call.notes now .clientCreated) := by
  simp only [NavCall.resume] at h
  split at h
  · next hpoint hreply =>
    cases h
    exact .waits hpoint rfl rfl
  · next hpoint hreply =>
    cases h
    exact .aborts (by rw [hpoint]; rfl) rfl rfl (by simp) (.inl rfl)
  · cases h

/-- The poll sleep. -/
private theorem NavCall.slept_noted {baseFrame : String} {call : NavCall N} {now : N}
    {tn : NavTurn N} (h : call.resume baseFrame now .slept = some tn) :
    call.Noted now tn (call.notes now .slept) := by
  simp only [NavCall.resume] at h
  split at h
  · next hpoint =>
    cases h
    exact NavCall.loopHead_noted (.inl hpoint) rfl rfl
  · cases h

/-- The answer to the cancel request. -/
private theorem NavCall.cancelAnswered_noted {baseFrame : String} {call : NavCall N} {now : N}
    {tn : NavTurn N} (h : call.resume baseFrame now .cancelAnswered = some tn) :
    call.Noted now tn (call.notes now .cancelAnswered) := by
  simp only [NavCall.resume] at h
  split at h
  · next outcome reply hpoint hreply =>
    split at h
    · exact NavCall.resultReady_noted (.inl hpoint) h
    · cases h
      exact .awaits outcome hpoint rfl rfl
  · cases h

/-- The result task, within its five seconds. -/
private theorem NavCall.resultAwaited_noted {baseFrame : String} {call : NavCall N} {now : N}
    {tn : NavTurn N} (h : call.resume baseFrame now .resultAwaited = some tn) :
    call.Noted now tn (call.notes now .resultAwaited) := by
  simp only [NavCall.resume] at h
  split at h
  · next outcome hpoint => exact NavCall.resultReady_noted (.inr hpoint) h
  · cases h

/-- The result task, when the five seconds have passed. -/
private theorem NavCall.resultWaitExpired_noted {baseFrame : String} {call : NavCall N} {now : N}
    {tn : NavTurn N} (h : call.resume baseFrame now .resultWaitExpired = some tn) :
    call.Noted now tn (call.notes now .resultWaitExpired) := by
  simp only [NavCall.resume] at h
  split at h
  · next outcome hpoint =>
    split at h
    · cases h
    · cases h
      exact .resolves outcome (.inr hpoint) rfl rfl
  · cases h

/-- The final pose. -/
private theorem NavCall.finalPoseRead_noted {baseFrame : String} {call : NavCall N} {now : N}
    {r : Except PyException (TransformResult N)} {stamp : N} {tn : NavTurn N}
    (h : call.resume baseFrame now (.finalPoseRead r stamp) = some tn) :
    call.Noted now tn (call.notes now (.finalPoseRead r stamp)) := by
  simp only [NavCall.resume] at h
  split at h
  · next outcome hpoint =>
    cases h
    exact .aborts (by rw [hpoint]; rfl) rfl rfl (by simp) (.inl rfl)
  · next outcome result hpoint =>
    split at h
    · cases h
      exact .aborts (by rw [hpoint]; rfl) rfl rfl (by simp) (.inl rfl)
    · cases h
      exact .concludes outcome _ hpoint
  · cases h

/-- The cancellation of the task. -/
private theorem NavCall.taskCancelled_noted {baseFrame : String} {call : NavCall N} {now : N}
    {tn : NavTurn N} (h : call.resume baseFrame now .taskCancelled = some tn) :
    call.Noted now tn (call.notes now .taskCancelled) := by
  simp only [NavCall.resume] at h
  split at h
  · cases h
  · next outcome hpoint =>
    cases h
    exact .aborts (by rw [hpoint]; rfl) rfl rfl (by simp) (.inl rfl)
  · next hlive _ =>
    cases h
    refine .aborts ?_ rfl rfl (by simp) (.inl rfl)
    cases hp : call.point <;> first | rfl | exact absurd hp (hlive _)

/-- The result task asks for the result. -/
private theorem NavCall.resultTaskStarted_noted {baseFrame : String} {call : NavCall N} {now : N}
    {tn : NavTurn N} (h : call.resume baseFrame now .resultTaskStarted = some tn) :
    call.Noted now tn (call.notes now .resultTaskStarted) := by
  simp only [NavCall.resume] at h
  split at h
  · next htask =>
    cases h
    refine .keeps rfl (.inr rfl) ?_
    intro r hdone
    rw [htask] at hdone
    cases hdone
  · cases h

/-- The result task ends. -/
private theorem NavCall.resultTaskEnded_noted {baseFrame : String} {call : NavCall N} {now : N}
    {tn : NavTurn N} (h : call.resume baseFrame now .resultTaskEnded = some tn) :
    call.Noted now tn (call.notes now .resultTaskEnded) := by
  simp only [NavCall.resume] at h
  split at h
  · next r htask =>
    cases h
    refine .keeps rfl (.inl rfl) ?_
    intro r hdone
    rw [htask] at hdone
    cases hdone
  · cases h

/-- What a turn notes, await by await. -/
theorem NavCall.resume_noted {baseFrame : String} {call : NavCall N} {now : N} {e : NavEvent N} {tn : NavTurn N}
    (h : call.resume baseFrame now e = some tn) : call.Noted now tn (call.notes now e) := by
  cases e with
  | clientCreated => exact NavCall.clientCreated_noted h
  | serverWaited localization => exact NavCall.serverWaited_noted h
  | localized r goalMessage => exact NavCall.localized_noted h
  | goalAnswered => exact NavCall.goalAnswered_noted h
  | slept => exact NavCall.slept_noted h
  | cancelAnswered => exact NavCall.cancelAnswered_noted h
  | resultAwaited => exact NavCall.resultAwaited_noted h
  | resultWaitExpired => exact NavCall.resultWaitExpired_noted h
  | finalPoseRead r stamp => exact NavCall.finalPoseRead_noted h
  | taskCancelled => exact NavCall.taskCancelled_noted h
  | tokenCancelled =>
    cases h
    exact .keeps rfl (.inl rfl) fun _ => id
  | resultTaskStarted => exact NavCall.resultTaskStarted_noted h
  | resultTaskEnded => exact NavCall.resultTaskEnded_noted h

omit [Add N] [Mul N] [PyMath N] [LE N] [DecidableLE N] in
/-- The result of a loop that was left early. -/
private theorem NavCall.conclude_early_justified {call : NavCall N} {now : N} {outcome : EarlyExit}
    {finalPose : Option (Pose2D N)} {n : ℕ} {result : ToolResult N}
    (h : call.conclude now (some outcome) finalPose = .returned result) :
    NavNote.Justify (submitted n (some outcome)) call.resultTask result := by
  have hcount : (submitted n (some outcome)).count .cancel = (NavNote.leaving (some outcome)).count .cancel :=
    NavNote.count_cancel_submitted
  cases outcome with
  | cancelled =>
    cases h
    constructor
    case succeeded => rintro ⟨⟩
    case cancelled => exact fun _ _ _ => .inl ⟨NavNote.token_mem_submitted.2 (by decide), hcount⟩
    case timedOut => rintro _ ⟨⟩ ⟨⟩
  | timeout =>
    cases h
    constructor
    case succeeded => rintro ⟨⟩
    case cancelled => rintro _ ⟨⟩ ⟨⟩
    case timedOut =>
      intro _ _ _
      refine ⟨List.mem_append_right _ (by decide), ?_, hcount⟩
      rw [NavNote.token_mem_submitted]
      decide

omit [Add N] [Mul N] [PyMath N] [LE N] [DecidableLE N] in
/-- The result of a loop that has waited for the result task. -/
private theorem NavCall.conclude_done_justified {call : NavCall N} {now : N} {finalPose : Option (Pose2D N)} {n : ℕ}
    {result : ToolResult N} (h : call.conclude now none finalPose = .returned result) :
    NavNote.Justify (submitted n none) call.resultTask result := by
  have hcancel : .cancel ∉ submitted n none := List.count_eq_zero.1 NavNote.count_cancel_submitted
  have htoken : .token true ∉ submitted n none := by
    rw [NavNote.token_mem_submitted]
    decide
  unfold NavCall.conclude at h
  dsimp only at h
  split at h
  · cases h
  · cases h
  · next status htask =>
    split at h
    · next hsucceeded =>
      cases h
      rw [hsucceeded] at htask
      constructor
      case succeeded => exact fun _ => ⟨htask, hcancel⟩
      case cancelled => rintro _ ⟨⟩
      case timedOut => rintro _ ⟨⟩
    split at h
    · next hcanceled =>
      cases h
      rw [hcanceled] at htask
      constructor
      case succeeded => rintro ⟨⟩
      case cancelled => exact fun _ _ _ => .inr ⟨htask, htoken, hcancel⟩
      case timedOut => rintro _ ⟨⟩ ⟨⟩
    · cases h
      exact ToolResult.Refusal.justify ⟨rfl, by rintro _ ⟨⟩; simp⟩ _ _
  · cases h
    exact ToolResult.Refusal.justify ⟨rfl, by rintro _ ⟨⟩; simp⟩ _ _

omit [Add N] [Mul N] [PyMath N] [LE N] [DecidableLE N] in
/-- What `navigate` returns in the end is justified. -/
private theorem NavCall.conclude_justified {call : NavCall N} {now : N} {exit : Option EarlyExit}
    {finalPose : Option (Pose2D N)} {n : ℕ} {result : ToolResult N}
    (h : call.conclude now exit finalPose = .returned result) :
    NavNote.Justify (submitted n exit) call.resultTask result := by
  cases exit with
  | some outcome => exact NavCall.conclude_early_justified h
  | none => exact NavCall.conclude_done_justified h

omit [Add N] [Mul N] [PyMath N] [LE N] [DecidableLE N] in
/-- A turn adds its notes to those of the point that it leaves. -/
theorem NavCall.Noted.follows {call : NavCall N} {now : N} {tn : NavTurn N} {notes new : List NavNote}
    (h : call.Noted now tn new) (hnotes : call.point.Follows notes call.resultTask) :
    tn.call.point.Follows (notes ++ new) tn.call.resultTask := by
  cases h with
  | keeps hpoint hjob htask =>
    rw [hpoint, List.append_nil]
    exact hnotes.mono htask
  | waits hpoint hnext hjob =>
    rw [hnext, List.append_nil]
    rw [hpoint] at hnotes
    exact hnotes
  | localizes hpoint hnext hjob =>
    rw [hpoint] at hnotes
    obtain rfl : notes = _ := hnotes
    rw [hnext]
    rfl
  | sends hpoint hnext hjob =>
    rw [hpoint] at hnotes
    obtain rfl : notes = _ := hnotes
    rw [hnext]
    rfl
  | polls hpoint hnext hjob =>
    obtain ⟨n, rfl⟩ := hnotes.polled hpoint
    rw [hnext]
    exact ⟨n + 1, (NavNote.submitted_succ n).symm⟩
  | leaves outcome hpoint hnext hjob =>
    obtain ⟨n, rfl⟩ := hnotes.polled hpoint
    rw [hnext]
    exact ⟨n, (NavNote.submitted_leaving n outcome).symm⟩
  | finishes hpoint hnext hjob =>
    rw [hnext, List.append_nil]
    exact hnotes.polled (.inr hpoint)
  | awaits outcome hpoint hnext hjob =>
    rw [hnext, List.append_nil]
    rw [hpoint] at hnotes
    exact hnotes
  | resolves outcome hpoint hnext hjob =>
    rw [hnext, List.append_nil]
    rcases hpoint with hp | hp <;> rw [hp] at hnotes <;> exact hnotes
  | concludes exit finalPose hpoint =>
    rw [List.append_nil]
    refine ⟨hnotes.complete, ?_⟩
    intro result ho
    rw [hpoint] at hnotes
    obtain ⟨n, rfl⟩ := hnotes
    exact NavCall.conclude_justified ho
  | fails hlive hreplied hresult hnew =>
    refine ⟨hnotes.complete_ends hnew, ?_⟩
    rintro result ⟨⟩
    exact hresult.justify _ _
  | aborts hlive hnext hjob ho hnew =>
    rw [hnext]
    exact ⟨hnotes.complete_ends hnew, fun result h => absurd h (ho result)⟩

omit [Add N] [Mul N] [PyMath N] [LE N] [DecidableLE N] in
/-- A turn hands over the jobs of the requests that it notes. -/
theorem NavCall.Noted.count {call : NavCall N} {now : N} {tn : NavTurn N} {new : List NavNote}
    (h : call.Noted now tn new) {note : NavNote} {job : NavJob} (hnote : note.job = some job) :
    new.count note = tn.job.toList.count job := by
  have hends : call.point.Ends new → new.count note = 0 := by
    rintro (rfl | ⟨-, hgoal, hcancel⟩)
    · exact List.count_nil
    · refine List.count_eq_zero.2 ?_
      rcases NavNote.job_eq_some hnote with ⟨rfl, -⟩ | ⟨rfl, -⟩
      · exact hgoal
      · exact hcancel
  rcases NavNote.job_eq_some hnote with ⟨rfl, rfl⟩ | ⟨rfl, rfl⟩
  all_goals
    cases h with
    | keeps hpoint hjob htask => rcases hjob with hj | hj <;> rw [hj] <;> rfl
    | waits hpoint hnext hjob | localizes hpoint hnext hjob | sends hpoint hnext hjob | polls hpoint hnext hjob
    | finishes hpoint hnext hjob | awaits outcome hpoint hnext hjob | resolves outcome hpoint hnext hjob =>
      rw [hjob]
      rfl
    | leaves outcome hpoint hnext hjob =>
      rw [hjob]
      cases outcome <;> rfl
    | concludes exit finalPose hpoint => rfl
    | fails hlive hreplied hresult hnew => exact hends hnew
    | aborts hlive hnext hjob ho hnew =>
      rw [hjob]
      exact hends hnew

omit [Add N] [Mul N] [PyMath N] [LE N] [DecidableLE N] in
/-- A call that has returned a result was not waiting for the ROS thread. -/
theorem NavCall.Noted.returned {call : NavCall N} {now : N} {tn : NavTurn N} {new : List NavNote}
    (h : call.Noted now tn new) {result : ToolResult N} (hreturned : tn.call.point = .ended (.returned result)) :
    (tn.job = none ∨ tn.job = some .getResult) ∧
      (call.point = .ended (.returned result) ∨ call.point.isEnded = false ∧ call.Replied) := by
  cases h with
  | keeps hpoint hjob htask => exact ⟨hjob, .inl (hpoint ▸ hreturned)⟩
  | concludes exit finalPose hpoint => exact ⟨.inl rfl, .inr ⟨by rw [hpoint]; rfl, .inl (by rw [hpoint]; rfl)⟩⟩
  | fails hlive hreplied hresult hnew => exact ⟨.inl rfl, .inr ⟨hlive, hreplied⟩⟩
  | aborts hlive hnext hjob ho hnew =>
    rw [hnext] at hreturned
    exact absurd (NavPoint.ended.inj hreturned) (ho result)
  | waits hpoint hnext hjob | localizes hpoint hnext hjob | sends hpoint hnext hjob | polls hpoint hnext hjob
  | leaves outcome hpoint hnext hjob | finishes hpoint hnext hjob | awaits outcome hpoint hnext hjob
  | resolves outcome hpoint hnext hjob =>
    rw [hnext] at hreturned
    cases hreturned

end Call

end RosMcp
