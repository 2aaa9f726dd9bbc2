import RosMcp.Execution.NonBypass

/-!
# What a STOP pre-empts

`_handle_stop` cancels the token of the command in the active slot of its robot, and nothing else.  A command that
overlapped another one has lost the slot, and a command that is still in its safety check has never been in it; a STOP
does not reach either of them (`stop_misses_overlapped`).  In a run in which every STOP sees all earlier commands of
its robot, that is, each of them is in the slot or has been cancelled before, a STOP that returns succeeded has
pre-empted everything submitted before it (`stop_preempts`).
-/

namespace RosMcp

variable {N : Type}

/-- `robot.stop` -/
def IsStop (command : SemanticCommand N) : Prop := command.operation = .stop ∧ command.commandClass ≠ .read

/-- `robot.move` and `robot.navigate` -/
def IsMotion (command : SemanticCommand N) : Prop := command.operation = .move ∨ command.operation = .navigate

/-- The cancellation token of the execution has been cancelled. -/
def Cancelled (s : State N) (e : ExecId) : Prop := ∃ t, s.tokenObject e = some t ∧ t.cancelled = true

/-- The execution `e'` started before the execution `e` of a STOP, for a motion of the same robot. -/
structure Earlier (w : Wiring N) (s : State N) (e : ExecId) (x : Execution N) (e' : ExecId) (x' : Execution N) :
    Prop where
  lt : e' < e
  exec : s.execs e' = some x'
  motion : IsMotion (w.command x'.command)
  class_ne : (w.command x'.command).commandClass ≠ .read
  robot : (w.command x'.command).robotId = (w.command x.command).robotId

/-- A STOP is submitted under an id that is not in flight, and when it looks up the active command, every earlier
motion of its robot that still runs is in the active slot or has been cancelled. -/
structure StopSees (w : Wiring N) (s : State N) (a : Action N) : Prop where
  fresh : ∀ c, a = .submit c → IsStop (w.command c) → s.inFlight (w.command c).commandId = none
  sees : ∀ e now reply x, a = .resume e now reply → s.execs e = some x → reply.kind w x = .looks →
    ∀ e' x', Earlier w s e x e' x' → x'.point.Live →
      s.activeCommands (w.command x.command).robotId = some x'.command ∨ Cancelled s e'

/-! ### The lookup -/

section Lookup

variable {w : Wiring N} {s s' : State N} {e : ExecId} {c : CommandRef} {p p' : Point N} {events : List (Event N)}
  {eff : RegistryEffect N} {x x' : Execution N}

/-- The active command of a robot is in progress under the token that a STOP finds. -/
theorem stopToken_of_active (hs : Consistent w s) (hx : s.execs e = some x) (hl : x.point.Live)
    (hp : x.point ≠ .backend) {c : CommandRef} (hc : s.activeCommands (w.command x.command).robotId = some c) :
    ∃ e', InProgress s e' c ∧ stopToken w s (w.command x.command) = some e' := by
  obtain ⟨-, e', hin⟩ := hs.2.active _ c hc
  have hid : (w.command c).commandId ≠ (w.command x.command).commandId := by
    intro hid
    obtain ⟨y, hy, rfl, hyp⟩ := hin
    obtain rfl := hs.1.unique hy hx (by rw [hyp]; exact live_backend) hl hid
    rw [hx, Option.some.injEq] at hy
    exact hp (by rw [hy, hyp])
  refine ⟨e', hin, ?_⟩
  rw [stopToken, stopTarget, hc, Option.filter_some, if_pos (decide_eq_true hid), Option.bind_some]
  exact (hs.2.tokens _ e').2 ⟨c, hin, rfl⟩

/-- A lookup reads the active slot and cancels the token it finds. -/
theorem Moves.looked (hm : Moves w s e c p p' events eff) {e' : ExecId} {active : Option CommandRef}
    {token : Option ExecId} (hmem : Event.looked e' active token ∈ events) :
    e' = e ∧ eff = .cancelToken token ∧ active = s.activeCommands (w.command c).robotId ∧
      token = stopToken w s (w.command c) ∧ (∃ q, p = .check q) ∧ (w.command c).operation = .stop := by
  cases hm with
  | stopCalled q cid hop | stopNavigationCalled q cid fp hop | stopNoBackend q o hop =>
    simp only [List.mem_cons, reduceCtorEq, Event.looked.injEq, List.not_mem_nil, or_false, false_or] at hmem
    obtain ⟨rfl, rfl, rfl⟩ := hmem
    exact ⟨rfl, rfl, rfl, rfl, ⟨q, rfl⟩, hop⟩
  | _ => simp at hmem

/-- The token that a lookup finds is cancelled afterwards. -/
private theorem Resumed.cancelled {t : ExecId} {tk : Token N}
    (hr : Resumed w s s' e x x' events (.cancelToken (some t)))
    (ht : s.tokenObject t = some tk) : Cancelled s' t := by
  refine ⟨{ tk with cancelled := true }, ?_, rfl⟩
  rw [hr.tokenObject]
  simp [RegistryEffect.tokenObject, ht]

/-- A lookup that finds a command in the slot cancels the token of that command's execution on the backend. -/
theorem Resumed.cancels_active (hs : Consistent w s)
    (hr : Resumed w s s' e x x' events (.cancelToken (stopToken w s (w.command x.command)))) (hp : x.point ≠ .backend)
    {c : CommandRef} (hc : s.activeCommands (w.command x.command).robotId = some c) :
    ∃ e', InProgress s e' c ∧ stopToken w s (w.command x.command) = some e' ∧ Cancelled s' e' := by
  obtain ⟨e', hin, htok⟩ := stopToken_of_active hs hr.execs_eq hr.moves.live hp hc
  obtain ⟨tk, htk⟩ := hs.2.tokenObject e' c hin
  rw [htok] at hr
  exact ⟨e', hin, htok, hr.cancelled htk⟩

/-- A STOP that succeeds has looked up the active command. -/
private theorem Trace.looked_of_succeeded {r : ToolResult N} (h : Trace w e c p events) (hp : p = .done (.returned r))
    (hstop : IsStop (w.command c)) (hr : r.status = .succeeded) :
    ∃ active token, Event.looked e active token ∈ events := by
  cases h with
  | ended q o events h ho =>
    obtain rfl := Point.done.inj hp
    exact absurd hr ho
  | refused q d o hclass hd ho =>
    obtain rfl := Point.done.inj hp
    exact absurd hr ho
  | handled o hclass => exact absurd hclass hstop.2
  | released o events h => cases h with | backend q b call hclass hop => exact absurd hstop.1 hop.ne_stop
  | plannerRaised q o hclass hop | unavailable q o hclass hop | undispatched q b o hclass hop =>
    exact absurd hstop.1 hop
  | stopNoBackend q active token => exact ⟨active, token, by simp⟩
  | stoppedLast q active token => exact ⟨active, token, by simp⟩
  | cancelledAll cid fp o events h =>
    cases h with
    | stopNavigationOnly q active token => exact ⟨active, token, by simp⟩
    | stopNavigation q active token => exact ⟨active, token, by simp⟩
  | _ => cases hp

end Lookup

/-! ### The invariant -/

/-- Every STOP that has looked up the active command has pre-empted the earlier motions of its robot. -/
def Preempted (w : Wiring N) (s : State N) : Prop :=
  ∀ e x active token, s.execs e = some x → Event.looked e active token ∈ s.log → ∀ e' x', Earlier w s e x e' x' →
    x'.point.Live → Cancelled s e'

section Steps

variable {w : Wiring N} {s s' : State N}

theorem Later.cancelled_of (h : Later s s') {e : ExecId} (hc : Cancelled s e) : Cancelled s' e := by
  obtain ⟨t, ht, hc⟩ := hc
  exact h.cancelled e t ht hc

private theorem Preempted.beside (h : Preempted w s) (hi : InFlight w s) (ho : Histories w s) (hb : Beside s s')
    (hl : Later s s') : Preempted w s' := by
  intro e x' active token hx' hmem e' y' hearlier hlive
  rw [hb.log] at hmem
  obtain ⟨x, hx⟩ := ho.owned _ hmem
  obtain ⟨x₁, hx₁, hcx, -⟩ := hb.kept _ x hx
  obtain rfl : x₁ = x' := by
    have hx₁' : s'.execs e = some x₁ := hx₁
    rw [hx', Option.some.injEq] at hx₁'
    exact hx₁'.symm
  have hlt := hi.execFresh e x hx
  rcases hb.new e' y' hearlier.exec with ⟨y, hy, hcy, hpy⟩ | ⟨rfl, -⟩
  · refine hl.cancelled_of (h e x active token hx hmem e' y ?_ (by rw [← hpy]; exact hlive))
    exact ⟨hearlier.lt, hy, by rw [← hcy]; exact hearlier.motion, by rw [← hcy]; exact hearlier.class_ne,
      by rw [← hcy, ← hcx]; exact hearlier.robot⟩
  · exact absurd hearlier.lt (Nat.lt_asymm hlt)

private theorem Preempted.resume {e : ExecId} {x x' : Execution N} {events : List (Event N)} {eff : RegistryEffect N}
    (h : Preempted w s) (hs : Consistent w s) (hr : Resumed w s s' e x x' events eff)
    (hsees : eff.kind = .looks → ∀ e' y', Earlier w s e x e' y' → y'.point.Live →
      s.activeCommands (w.command x.command).robotId = some y'.command ∨ Cancelled s e') : Preempted w s' := by
  have hl := hr.later hs.2
  intro e₁ x₁ active token hx₁ hmem e' y' hearlier hlive
  -- the earlier motion as it was before the step
  obtain ⟨y, hy, hcy, hly⟩ : ∃ y, s.execs e' = some y ∧ y.command = y'.command ∧ y.point.Live := by
    rcases hr.exec_cases hearlier.exec with ⟨rfl, rfl⟩ | ⟨-, hy⟩
    · exact ⟨x, hr.execs_eq, hr.command_eq.symm, hr.moves.live⟩
    · exact ⟨y', hy, rfl, hlive⟩
  -- the STOP as it was before the step
  obtain ⟨x₀, hx₀, hcx⟩ : ∃ x₀, s.execs e₁ = some x₀ ∧ x₀.command = x₁.command := by
    rcases hr.exec_cases hx₁ with ⟨rfl, rfl⟩ | ⟨-, hx⟩
    · exact ⟨x, hr.execs_eq, hr.command_eq.symm⟩
    · exact ⟨x₁, hx, rfl⟩
  have hbefore : Earlier w s e₁ x₀ e' y :=
    ⟨hearlier.lt, hy, by rw [hcy]; exact hearlier.motion, by rw [hcy]; exact hearlier.class_ne,
      by rw [hcy, hcx]; exact hearlier.robot⟩
  rw [hr.log, List.mem_append] at hmem
  rcases hmem with hmem | hmem
  · exact hl.cancelled_of (h e₁ x₀ active token hx₀ hmem e' y hbefore hly)
  · obtain ⟨rfl, rfl, -, rfl, ⟨q, hq⟩, -⟩ := hr.moves.looked hmem
    obtain rfl : x = x₀ := by
      have hx := hr.execs_eq
      rw [hx₀, Option.some.injEq] at hx
      exact hx.symm
    rcases hsees rfl e' y hbefore hly with hactive | hc
    · obtain ⟨t, hin, -, hcancelled⟩ := hr.cancels_active hs (by rw [hq]; simp) hactive
      -- the command in the slot is the earlier motion itself
      obtain ⟨z, hz, hcz, hlz⟩ := hin.live
      obtain rfl := hs.1.unique hz hy hlz hly (by rw [hcz])
      exact hcancelled
    · exact hl.cancelled_of hc

end Steps

section Runs

variable [IntCast N] [Add N] [Sub N] {w : Wiring N} {s : State N} {as : List (Action N)}

/-- What a run keeps when its STOPs see all earlier motions. -/
structure Seen (w : Wiring N) (s : State N) : Prop where
  consistent : Consistent w s
  histories : Histories w s
  preempted : Preempted w s
  owner : ∀ i b, s.submits i = some b → IsStop (w.command b.command) → b.owner = true

/-- A STOP submitted under a fresh id owns its execution. -/
private theorem stop_owner_step {a : Action N} {s' : State N} (hG : StopSees w s a) (ha : step w s a = some s')
    (howner : ∀ i b, s.submits i = some b → IsStop (w.command b.command) → b.owner = true) :
    ∀ i b, s'.submits i = some b → IsStop (w.command b.command) → b.owner = true := by
  intro i b hb hstop
  rcases step_calls ha with ⟨c, rfl, rfl⟩ | hsame
  · unfold submit at hb
    dsimp only at hb
    split at hb
    · next e he =>
      rcases update_eq_some.1 hb with ⟨-, rfl⟩ | ⟨-, hb⟩
      · rw [hG.fresh c rfl hstop] at he
        cases he
      · exact howner i b hb hstop
    · rcases update_eq_some.1 hb with ⟨-, rfl⟩ | ⟨-, hb⟩
      · rfl
      · exact howner i b hb hstop
  · obtain ⟨b₀, hb₀, hc, -, ho⟩ := hsame i b hb
    rw [ho]
    rw [hc] at hstop
    exact howner i b₀ hb₀ hstop

private theorem Seen.step {a : Action N} {s' : State N} (h : Seen w s) (hG : StopSees w s a)
    (ha : step w s a = some s') :
    Seen w s' where
  consistent := h.consistent.step ha
  histories := h.histories.step h.consistent.1 ha
  preempted := by
    rcases step_split h.consistent.1 ha with ⟨-, hb⟩ | ⟨e, now, reply, x, x', events, eff, rfl, hr, hans⟩
    · have hlater := step_later h.consistent.1 h.consistent.2 ha
      exact h.preempted.beside h.consistent.1 h.histories hb hlater
    · refine h.preempted.resume h.consistent hr ?_
      intro hk
      rw [hans.kind] at hk
      exact hG.sees e now reply x rfl hr.execs_eq hk
  owner := stop_owner_step hG ha h.owner

omit [IntCast N] [Add N] [Sub N] in
private theorem seen_initial : Seen w (State.initial : State N) where
  consistent := consistent_initial
  histories := Histories.initial
  preempted := by
    intro e x active token hx
    cases hx
  owner := by
    intro i b hb
    cases hb

/-- In a run in which every STOP sees the earlier motions of its robot, a STOP that has returned succeeded has
cancelled the token of every motion of its robot that was submitted before it and still runs, unless that motion is
never dispatched. -/
theorem stop_preempts (h : StepSystem.run (step w) State.initial as = some s)
    (hG : StepSystem.Along (step w) (StopSees w) State.initial as) {i j : SubmitId} {b b' : Submit N}
    {r : ToolResult N} {x' : Execution N} (hb : s.submits i = some b) (hstop : IsStop (w.command b.command))
    (hend : b.ended = some (.returned r)) (hr : r.status = .succeeded) (hb' : s.submits j = some b') (hji : j < i)
    (hmotion : IsMotion (w.command b'.command))
    (hrobot : (w.command b'.command).robotId = (w.command b.command).robotId)
    (hx' : s.execs b'.execution = some x') (hlive : x'.point.Live) :
    Cancelled s b'.execution ∨ ∀ bs s', StepSystem.run (step w) s bs = some s' → ∀ call, call.Starts →
      Event.called b'.execution b'.command call ∉ s'.log := by
  have hseen : Seen w s := StepSystem.run_invariant_along (fun _ _ _ hs hG ha => hs.step hG ha) seen_initial hG h
  have hi := hseen.consistent.1
  by_cases hown : x'.command = b'.command ∧ (w.command b'.command).commandClass ≠ .read
  · left
    -- the execution of the STOP has ended with the success, so it has looked
    have hbo := hseen.owner i b hb hstop
    obtain ⟨x, o', hx, hp, ho⟩ := hi.ended i b _ hb hend
    obtain ⟨y, hy, -, hcy⟩ := hi.awaited i b hb
    rw [hx, Option.some.injEq] at hy
    subst hy
    have hcx := hcy hbo
    have ho' : o' = .returned r := by
      rcases ho with ho | ho
      · exact ho.symm
      · cases ho
    rw [ho'] at hp
    obtain ⟨active, token, hmem⟩ := (hseen.histories.trace _ x hx).looked_of_succeeded hp (by rw [hcx]; exact hstop) hr
    have hlt := hi.ordered j i b' b hb' hb hbo hji
    refine hseen.preempted _ x active token hx (List.mem_filter.1 hmem).1 _ x' ⟨hlt, hx', ?_, ?_, ?_⟩ hlive
    · rw [hown.1]
      exact hmotion
    · rw [hown.1]
      exact hown.2
    · rw [hown.1, hcx]
      exact hrobot
  · right
    intro bs s' hrun call hcall hmem
    have hrun' : StepSystem.run (step w) State.initial (as ++ bs) = some s' := StepSystem.run_append.2 ⟨s, h, hrun⟩
    obtain ⟨y, hy⟩ := (trace_run hrun').owned _ hmem
    have hev : Event.called b'.execution b'.command call ∈ eventsOf s' b'.execution :=
      List.mem_filter.2 ⟨hmem, decide_eq_true rfl⟩
    have htrace := (trace_run hrun').trace _ y hy
    obtain ⟨q, k, -, -, hc, -⟩ := htrace.dispatched hev hcall
    obtain ⟨y', hy', hcy, -⟩ := (later_run hseen.consistent hrun).execs _ x' hx'
    rw [show s'.execs b'.execution = some y from hy, Option.some.injEq] at hy'
    subst hy'
    have hclass : (w.command b'.command).commandClass = .read := by
      by_contra hne
      exact hown ⟨by rw [← hcy, hc], hne⟩
    exact htrace.barred (Or.inl (by rw [← hc, hclass])) _ hev trivial

end Runs

/-! ### Runs of the small system -/

/-- The steps of a STOP, submitted as the `i`-th call, whose execution is `e`. -/
def sampleStop (N : Type) [IntCast N] (e : ExecId) (i : SubmitId) : List (Action N) :=
  [.resume e ((1 : ℤ) : N) .start, .resume e ((1 : ℤ) : N) (.pose (.ok none)), .resume e ((1 : ℤ) : N) (sampleAllow N),
    .resume e ((1 : ℤ) : N) (.stop (.result none)), .resume e ((1 : ℤ) : N) (.cancelAll (.ok ())), .wake i]

/-- The manager after a STOP that found the one move in the slot. -/
def sampleStopped : State ℤ :=
  (StepSystem.run (step (sampleWiring ℤ)) (sampleDispatched ℤ) (.submit 2 :: sampleStop ℤ 1 1)).getD State.initial

/-- The manager after a STOP that was submitted while two moves overlapped. -/
def sampleOverlapStopped : State ℤ :=
  (StepSystem.run (step (sampleWiring ℤ)) State.initial
    (.submit 0 :: sampleDispatch ℤ 0 ++ .submit 1 :: sampleDispatch ℤ 1 ++ .submit 2 :: sampleStop ℤ 2 2)).getD
      State.initial

/-- The manager after a STOP that was submitted while a move waited for its pose, and the move has gone on. -/
def sampleLateDispatch : State ℤ :=
  (StepSystem.run (step (sampleWiring ℤ)) State.initial
    ([.submit 0, .resume 0 0 .start, .submit 2] ++ sampleStop ℤ 1 1 ++ [.resume 0 2 (.pose (.ok none)),
      .resume 0 2 (sampleAllow ℤ)])).getD State.initial

/-- The call `i` is a STOP that has returned succeeded. -/
def StopSucceeded (w : Wiring N) (s : State N) (i : SubmitId) : Prop :=
  ∃ b r, s.submits i = some b ∧ IsStop (w.command b.command) ∧ b.ended = some (.returned r) ∧ r.status = .succeeded

/-- A STOP that has returned succeeded leaves the token of an overlapped move alone, and a move that waited for its
pose is dispatched after it, under a token that is not cancelled either. -/
theorem stop_misses_overlapped :
    (StepSystem.run (step (sampleWiring ℤ)) State.initial
        (.submit 0 :: sampleDispatch ℤ 0 ++ .submit 1 :: sampleDispatch ℤ 1 ++ .submit 2 :: sampleStop ℤ 2 2) =
          some sampleOverlapStopped ∧
      StopSucceeded (sampleWiring ℤ) sampleOverlapStopped 2 ∧ InProgress sampleOverlapStopped 0 0 ∧
      Event.called 0 0 .move ∈ sampleOverlapStopped.log ∧ ¬ Cancelled sampleOverlapStopped 0) ∧
    StepSystem.run (step (sampleWiring ℤ)) State.initial
        ([.submit 0, .resume 0 0 .start, .submit 2] ++ sampleStop ℤ 1 1 ++ [.resume 0 2 (.pose (.ok none)),
          .resume 0 2 (sampleAllow ℤ)]) = some sampleLateDispatch ∧
      StopSucceeded (sampleWiring ℤ) sampleLateDispatch 1 ∧ InProgress sampleLateDispatch 0 0 ∧
      ¬ Cancelled sampleLateDispatch 0 := by
  refine ⟨⟨rfl, ⟨_, _, rfl, ⟨rfl, by decide⟩, rfl, rfl⟩, ⟨_, rfl, rfl, rfl⟩, ?_, ?_⟩, rfl,
    ⟨_, _, rfl, ⟨rfl, by decide⟩, rfl, rfl⟩, ⟨_, rfl, rfl, rfl⟩, ?_⟩
  · show _ ∈ [_, _, _, _, _, _, _, _, _, _, _, _, _, _]
    simp
  · rintro ⟨t, ht, hc⟩
    obtain rfl := Option.some.inj ht
    cases hc
  · rintro ⟨t, ht, hc⟩
    obtain rfl := Option.some.inj ht
    cases hc

/-- A reply that never leads to a lookup. -/
private theorem stopSees_of_plain {w : Wiring ℤ} {s : State ℤ} {e : ExecId} {now : ℤ} {reply : Reply ℤ}
    (h : ∀ x, reply.kind w x ≠ .looks) : StopSees w s (.resume e now reply) where
  fresh c hc := by cases hc
  sees e' now' reply' x ha _ hk := by
    cases ha
    exact absurd hk (h x)

/-- In the run of one move and one STOP, the STOP sees the move. -/
private theorem sampleStop_sees : StepSystem.Along (step (sampleWiring ℤ)) (StopSees (sampleWiring ℤ)) State.initial
    (.submit 0 :: sampleDispatch ℤ 0 ++ .submit 2 :: sampleStop ℤ 1 1) := by
  have submitted : ∀ s, StopSees (sampleWiring ℤ) s (.submit 0) := by
    intro s
    refine ⟨?_, by intro e now reply x ha; cases ha⟩
    rintro c ⟨⟩ hstop
    exact absurd hstop.1 (by decide)
  refine .cons (submitted _) rfl (.cons (stopSees_of_plain (by simp [Reply.kind])) rfl
    (.cons (stopSees_of_plain (by simp [Reply.kind])) rfl (.cons ?_ rfl (.cons ?_ rfl
    (.cons (stopSees_of_plain (by simp [Reply.kind])) rfl (.cons (stopSees_of_plain (by simp [Reply.kind])) rfl
    (.cons ?_ rfl (.cons (stopSees_of_plain (by simp [Reply.kind])) rfl
    (.cons (stopSees_of_plain (by simp [Reply.kind])) rfl (.cons ?_ rfl .nil))))))))))
  · -- the ALLOW of the move
    refine ⟨(by intro c hc; cases hc), ?_⟩
    intro e now reply x ha hx hk
    cases ha
    obtain rfl := Option.some.inj hx
    exact absurd hk (by decide)
  · -- the STOP is submitted under an id of its own
    refine ⟨?_, by intro e now reply x ha; cases ha⟩
    rintro c ⟨⟩ -
    rfl
  · -- the lookup finds the move in the slot
    refine ⟨(by intro c hc; cases hc), ?_⟩
    intro e now reply x ha hx hk e' x' hearlier hlive
    cases ha
    obtain rfl := Option.some.inj hx
    obtain rfl := Nat.lt_one_iff.1 hearlier.lt
    obtain rfl := Option.some.inj hearlier.exec
    exact Or.inl rfl
  · exact ⟨(by intro c hc; cases hc), by intro e now reply x ha; cases ha⟩

theorem stop_preempts_sample :
    Cancelled sampleStopped 0 ∨ ∀ bs s', StepSystem.run (step (sampleWiring ℤ)) sampleStopped bs = some s' →
      ∀ call, call.Starts → Event.called 0 0 call ∉ s'.log := by
  have hrun : StepSystem.run (step (sampleWiring ℤ)) State.initial
    (.submit 0 :: sampleDispatch ℤ 0 ++ .submit 2 :: sampleStop ℤ 1 1) = some sampleStopped := rfl
  have hmove : sampleStopped.submits 0 = some ⟨0, 0, true, false, none⟩ := rfl
  have hstop : ∃ b, sampleStopped.submits 1 = some b ∧ IsStop ((sampleWiring ℤ).command b.command) ∧
      ((sampleWiring ℤ).command b.command).robotId = "robot" ∧
      ∃ r, b.ended = some (.returned r) ∧ r.status = .succeeded :=
    ⟨_, rfl, ⟨rfl, by decide⟩, rfl, _, rfl, rfl⟩
  obtain ⟨b, hb, hstop, hrobot, r, hend, hr⟩ := hstop
  exact stop_preempts hrun sampleStop_sees hb hstop hend hr hmove Nat.one_pos (Or.inl rfl) hrobot.symm rfl trivial

end RosMcp
