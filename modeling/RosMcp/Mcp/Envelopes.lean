import RosMcp.Execution.BackendReturns
import RosMcp.Execution.Conclusion
import RosMcp.Mcp.FiniteArguments
import RosMcp.Mcp.ReadHandlers

/-!
# The result of a command and its final state

The manager, the two backends, the read handlers and the resolvers build results in about twenty places, and
`execution_state` is assigned separately from them.  `Settles` says what has been assigned at each await of an
execution and, once it has ended with a result, that the result agrees with the last assignment.  It is kept by every
transition of the execution, as long as the collaborators are the shipped ones (`Settles.proceeds`), so the result that
`submit` returns for a command of its own id agrees with the state of the command (`envelope_run`).
-/

namespace RosMcp

/-! ### The shipped collaborators -/

/-- The replies of the shipped read handlers, policy engine and backends to an execution of the command; any of them may
raise instead. -/
structure ShippedReply (wiring : ReadWiring) (command : SemanticCommand (PyFloat ℝ)) (reply : Reply (PyFloat ℝ)) :
    Prop where
  handled : ∀ r, reply = .handler (.ok r) → ∃ inputs, readHandler wiring inputs command = some (.ok r)
  checked : ∀ outcome selected, reply = .check (.ok outcome) selected →
    ∃ history safety now currentPose, (check history safety now command currentPose).1 = .ok outcome
  moved : ∀ r, command.operation = .move → reply = .backend (.returned r) → MoveReturns command r
  navigated : ∀ r, command.operation = .navigate → reply = .backend (.returned r) → NavigateReturns command r

/-- The executions of the command object `c` are answered by the shipped collaborators. -/
def ShippedReplies (w : Wiring (PyFloat ℝ)) (wiring : ReadWiring) (c : CommandRef) (s : State (PyFloat ℝ))
    (a : Action (PyFloat ℝ)) : Prop :=
  ∀ e now reply x, a = .resume e now reply → s.execs e = some x → x.command = c →
    ShippedReply wiring (w.command c) reply

/-! ### One execution -/

/-- What has been assigned to the command when its execution is at an await or has ended. -/
inductive Settles {N : Type} (command : SemanticCommand N) : Point N → List ExecutionState → Prop
  | live (p : Point N) (states : List ExecutionState) (hlive : p.Live)
      (hstates : ∀ st ∈ states, st.terminal = false)
      (hbackend : p = .backend → ∃ call, Dispatches command.operation call)
      (hstopping : p.Stopping → command.operation = .stop) : Settles command p states
  | returned (states : List ExecutionState) (final : ExecutionState) (r : ToolResult N)
      (hstates : ∀ st ∈ states, st.terminal = false) (hr : Envelope command final r) :
      Settles command (.done (.returned r)) (states ++ [final])
  | cancelled (states : List ExecutionState) (hstates : ∀ st ∈ states, st.terminal = false) :
      Settles command (.done .cancelled) states

section Executions

variable {w : Wiring (PyFloat ℝ)} {wiring : ReadWiring} {c : CommandRef} {p p' : Point (PyFloat ℝ)}
  {reply : Reply (PyFloat ℝ)} {states new : List ExecutionState}

/-- Before its last step an execution has been assigned nothing terminal. -/
private theorem Settles.of_live (h : Settles (w.command c) p states) (hlive : p.Live) :
    (∀ st ∈ states, st.terminal = false) ∧ (p = .backend → ∃ call, Dispatches (w.command c).operation call) ∧
      (p.Stopping → (w.command c).operation = .stop) := by
  cases h with
  | live _ _ _ hstates hbackend hstopping => exact ⟨hstates, hbackend, hstopping⟩
  | returned => exact absurd hlive (not_live_done _)
  | cancelled => exact absurd hlive (not_live_done _)

/-- What a backend returns for the operation that was dispatched to it. -/
private theorem ShippedReply.released_completed {r : ToolResult (PyFloat ℝ)} {call : BackendCall}
    (h : ShippedReply wiring (w.command c) (.backend (.returned r)))
    (hop : Dispatches (w.command c).operation call)
    (htype : resultTypeByOperation (w.command c).operation = some (w.command c).expectedResultType) :
    r.Completed (w.command c).expectedResultType (w.command c).commandId (w.command c).robotId := by
  cases hoperation : (w.command c).operation with
  | move =>
    rw [hoperation] at htype
    rw [← Option.some.inj htype]
    exact (h.moved r hoperation rfl).completed
  | navigate =>
    rw [hoperation] at htype
    rw [← Option.some.inj htype]
    exact (h.navigated r hoperation rfl).completed
  | _ => rw [hoperation] at hop; cases hop

/-- Every transition that the shipped collaborators answer keeps the states and the result in step. -/
private theorem Settles.proceeds (h : Settles (w.command c) p states) (hm : Proceeds w c p reply new p')
    (hreply : ShippedReply wiring (w.command c) reply)
    (hrobot : wiring.adapter.robotId = (w.command c).robotId)
    (htype : resultTypeByOperation (w.command c).operation = some (w.command c).expectedResultType) :
    Settles (w.command c) p' (states ++ new) := by
  have open_append {states' : List ExecutionState} (hlive : p.Live)
      (hnew : ∀ st ∈ states', st.terminal = false) : ∀ st ∈ states ++ states', st.terminal = false := by
    intro st hst
    rcases List.mem_append.1 hst with hst | hst
    · exact (h.of_live hlive).1 st hst
    · exact hnew st hst
  have ends {states' : List ExecutionState} {final : ExecutionState} {r : ToolResult (PyFloat ℝ)} (hlive : p.Live)
      (hnew : ∀ st ∈ states', st.terminal = false) (hr : Envelope (w.command c) final r) :
      Settles (w.command c) (.done (.returned r)) (states ++ (states' ++ [final])) := by
    rw [← List.append_assoc]
    exact .returned _ final r (open_append hlive hnew) hr
  have hnone : ∀ st ∈ ([] : List ExecutionState), st.terminal = false := by simp
  cases hm with
  | read | begin =>
    exact .live _ _ trivial (open_append trivial (by simp [ExecutionState.terminal])) (by simp) False.elim
  | posed q => exact .live _ _ trivial (open_append trivial (by simp)) (by simp) False.elim
  | dispatched q outcome b call hop =>
    exact .live _ _ trivial (open_append trivial (by simp [ExecutionState.terminal])) (fun _ => ⟨call, hop⟩) False.elim
  | stopping q outcome selected p' hop hp' =>
    obtain ⟨hlive', hbackend⟩ := hp'.live
    exact .live _ _ hlive' (open_append trivial (by simp [ExecutionState.terminal])) (fun h => absurd h hbackend)
      fun _ => hop
  | stopped cancelledId finalPose =>
    exact .live _ _ trivial (open_append trivial (by simp)) (by simp) fun _ => (h.of_live trivial).2.2 trivial
  | stopFinished p reply states' r hlive hop hstates hr hstatus =>
    have hoperation : (w.command c).operation = .stop := hop.elim (h.of_live hlive).2.2 id
    have hfinal : finalState r = .succeeded := if_pos hstatus
    rw [hoperation] at htype
    rw [Option.some.inj htype] at hr
    rw [← hfinal]
    exact ends hlive (by rcases hstates with rfl | rfl <;> simp [ExecutionState.terminal]) hr.envelope
  | handled r =>
    obtain ⟨inputs, hr⟩ := hreply.handled _ rfl
    exact ends trivial hnone (readHandler_completed hrobot htype hr).envelope
  | released r =>
    obtain ⟨call, hop⟩ := (h.of_live trivial).2.1 rfl
    exact ends trivial hnone (hreply.released_completed hop htype).envelope
  | refused p reply states' final r hlive hstates hfinal hr => exact ends hlive hstates hr
  | deniedBare q outcome selected r hdecision herror hr =>
    -- the policy engine gives every denial an error
    obtain ⟨history, safety, now, currentPose, hcheck⟩ := hreply.checked _ _ rfl
    exact absurd herror (check_deny_error hcheck hdecision)
  | cancelled p hlive =>
    rw [List.append_nil]
    exact .cancelled states (h.of_live hlive).1

end Executions

/-! ### In every run -/

section Runs

variable {w : Wiring (PyFloat ℝ)} {wiring : ReadWiring} {c : CommandRef} {e : ExecId} {s s' : State (PyFloat ℝ)}

/-- The execution `e` is the only one of the command object `c`, and it settles. -/
structure Settling (w : Wiring (PyFloat ℝ)) (c : CommandRef) (e : ExecId) (s : State (PyFloat ℝ)) : Prop where
  only : ∀ e' x, s.execs e' = some x → x.command = c → e' = e
  settles : ∃ x, s.execs e = some x ∧ x.command = c ∧ Settles (w.command c) x.point (statesOf s c)

private theorem Settling.step {a : Action (PyFloat ℝ)} (h : Settling w c e s) (hi : InFlight w s)
    (hsubmit : a ≠ .submit c)
    (hreplies : ShippedReplies w wiring c s a) (hrobot : wiring.adapter.robotId = (w.command c).robotId)
    (htype : resultTypeByOperation (w.command c).operation = some (w.command c).expectedResultType)
    (ha : RosMcp.step w s a = some s') : Settling w c e s' := by
  have honly : ∀ e' x', s'.execs e' = some x' → x'.command = c → e' = e := by
    intro e' x' hx' hc
    rcases step_exec_cases hi ha hx' with ⟨x, hx, hcx, -⟩ | ⟨rfl, -, -⟩ | ⟨now, reply, x, states, -, hx, hadv⟩
    · exact h.only e' x hx (by rw [← hcx, hc])
    · exact absurd (by rw [hc]) hsubmit
    · exact h.only e' x hx (by rw [← hadv.command_eq, hc])
  refine ⟨honly, ?_⟩
  obtain ⟨x, hx, hcx, hsettles⟩ := h.settles
  by_cases hown : ∃ now reply, a = .resume e now reply
  · obtain ⟨now, reply, rfl⟩ := hown
    obtain ⟨x', states, hadv⟩ := resume_advances ha hx
    have hreply := hreplies e now reply x rfl hx hcx
    have hproceeds := hadv.proceeds
    have hassigns := hadv.assigns
    rw [hcx] at hproceeds hassigns
    refine ⟨x', hadv.execs, by rw [hadv.command_eq, hcx], ?_⟩
    rw [hassigns.statesOf_self]
    exact hsettles.proceeds hproceeds hreply hrobot htype
  · have hother : ∀ now reply, a ≠ .resume e now reply := fun now reply heq => hown ⟨now, reply, heq⟩
    obtain ⟨x', hx', hcx', hpx'⟩ := step_other hi ha hother hx
    have hstates : statesOf s' c = statesOf s c := by
      rcases step_assigned ha with ⟨hassigned, -⟩ | ⟨e', now, reply, y, y', states, rfl, hy, hadv⟩
      · rw [statesOf, hassigned]
        rfl
      · refine hadv.assigns.statesOf_of_ne ?_
        rintro rfl
        exact hother now reply (by rw [h.only e' y hy rfl])
    refine ⟨x', hx', by rw [hcx', hcx], ?_⟩
    rw [hpx', hstates]
    exact hsettles

/-- A command under an id of its own that has been submitted once has one execution, and it settles. -/
theorem settling_run {as₁ as₂ : List (Action (PyFloat ℝ))}
    (h : StepSystem.run (step w) State.initial (as₁ ++ .submit c :: as₂) = some s)
    (hfresh : ∀ c', .submit c' ∈ as₁ ++ as₂ → (w.command c').commandId ≠ (w.command c).commandId)
    (hreplies : StepSystem.Along (step w) (ShippedReplies w wiring c) State.initial (as₁ ++ .submit c :: as₂))
    (hrobot : wiring.adapter.robotId = (w.command c).robotId)
    (htype : resultTypeByOperation (w.command c).operation = some (w.command c).expectedResultType) :
    ∃ e, Settling w c e s := by
  obtain ⟨s₁, h₁, h₂⟩ := StepSystem.run_append.1 h
  obtain ⟨s₂, hsubmit, hrest⟩ := StepSystem.run_cons.1 h₂
  have hi := (consistent_run h₁).1
  -- before the submit nothing runs under the id of the command
  have hunused : ∀ e x, s₁.execs e = some x → (w.command x.command).commandId ≠ (w.command c).commandId := by
    intro e x hx
    rcases execs_submitted InFlight.initial h₁ hx with ⟨y, hy, -⟩ | hmem
    · cases hy
    · exact hfresh _ (List.mem_append_left _ hmem)
  have hnone : s₁.inFlight (w.command c).commandId = none := by
    by_contra hne
    obtain ⟨e, he⟩ := Option.ne_none_iff_exists'.1 hne
    obtain ⟨x, hx, hid⟩ := hi.entry _ e he
    exact hunused e x hx hid
  have hstates : statesOf s₁ c = [] := by
    refine statesOf_unsubmitted h₁ fun hmem => ?_
    exact hfresh c (List.mem_append_left _ hmem) rfl
  have hstart : Settling w c s₁.nextExec s₂ := by
    obtain rfl : submit w s₁ c = s₂ := Option.some.inj hsubmit
    unfold submit
    dsimp only
    rw [hnone]
    constructor
    case only =>
      intro e x hx hc
      rcases update_eq_some.1 hx with ⟨rfl, -⟩ | ⟨-, hx⟩
      · rfl
      · exact absurd (by rw [hc]) (hunused e x hx)
    case settles =>
      refine ⟨_, Function.update_self _ _ _, rfl, ?_⟩
      have hlive : Settles (w.command c) .created (statesOf s₁ c) := by
        rw [hstates]
        exact .live _ _ trivial (by simp) (by simp) False.elim
      exact hlive
  have hguard : StepSystem.Along (step w) (fun s a => ShippedReplies w wiring c s a ∧ a ≠ .submit c) s₂ as₂ := by
    intro bs₁ a bs₂ t hbs ht
    refine ⟨hreplies (as₁ ++ .submit c :: bs₁) a bs₂ t (by rw [hbs]; simp) ?_, ?_⟩
    · exact StepSystem.run_append.2 ⟨s₁, h₁, StepSystem.run_cons.2 ⟨s₂, hsubmit, ht⟩⟩
    · rintro rfl
      exact hfresh c (by rw [hbs]; simp) rfl
  have hrun := StepSystem.run_invariant_along (P := fun s => InFlight w s ∧ Settling w c s₁.nextExec s)
    (fun _ _ _ hs hG ha => ⟨hs.1.step ha, hs.2.step hs.1 hG.2 hG.1 hrobot htype ha⟩)
    ⟨hi.step hsubmit, hstart⟩ hguard hrest
  exact ⟨_, hrun.2⟩

/-- The result that `submit` returns for a command of the command factory, submitted once and under an id of its own,
has the class and the ids that the command asks for and agrees with the final state of the command, which is the only
terminal one that it has been assigned. -/
theorem envelope_run {as₁ as₂ : List (Action (PyFloat ℝ))} {robotId commandId toolName sessionId : String}
    {createdAt : PyFloat ℝ} {operation : Operation} {commandClass : CommandClass}
    {arguments : List (String × Json (PyFloat ℝ))} {safetyConfig : SafetyConfig (PyFloat ℝ)}
    {timeoutConfig : TimeoutConfig (PyFloat ℝ)} {confidence : Option (PyFloat ℝ)}
    (hbuilt : create robotId commandId createdAt toolName operation commandClass arguments sessionId safetyConfig
      timeoutConfig confidence = .ok (w.command c))
    (hrobot : wiring.adapter.robotId = robotId)
    (hfresh : ∀ c', .submit c' ∈ as₁ ++ as₂ → (w.command c').commandId ≠ (w.command c).commandId)
    (h : StepSystem.run (step w) State.initial (as₁ ++ .submit c :: as₂) = some s)
    (hreplies : StepSystem.Along (step w) (ShippedReplies w wiring c) State.initial (as₁ ++ .submit c :: as₂))
    {i : SubmitId} {b : Submit (PyFloat ℝ)} {r : ToolResult (PyFloat ℝ)} (hb : s.submits i = some b)
    (hc : b.command = c) (hended : b.ended = some (.returned r)) :
    Envelope (w.command c) (s.executionState c) r ∧
      ∃ states, statesOf s c = states ++ [s.executionState c] ∧ ∀ st ∈ states, st.terminal = false := by
  obtain ⟨-, -, hrobotId, hoperation, -, -, -, htype, -⟩ := create_eq_ok hbuilt
  rw [← hoperation] at htype
  rw [← hrobotId] at hrobot
  obtain ⟨e, honly, x, hx, hcx, hsettles⟩ := settling_run h hfresh hreplies hrobot htype
  subst hc
  have honly' : ∀ c', .submit c' ∈ as₁ ++ .submit b.command :: as₂ →
      (w.command c').commandId = (w.command b.command).commandId → c' = b.command := by
    intro c' hmem hid
    rcases List.mem_append.1 hmem with hmem | hmem
    · exact absurd hid (hfresh c' (List.mem_append_left _ hmem))
    · rcases List.mem_cons.1 hmem with heq | hmem
      · exact Action.submit.inj heq
      · exact absurd hid (hfresh c' (List.mem_append_right _ hmem))
  -- the call awaits that execution
  obtain ⟨y, hy, hyc, hp⟩ := submit_returned h hb hended honly'
  obtain rfl : y = x := by
    rw [honly _ y hy hyc, hx, Option.some.injEq] at hy
    exact hy.symm
  rw [hp] at hsettles
  have hlast := recorded_run h b.command
  generalize hstates : statesOf s b.command = assigned at hsettles hlast
  cases hsettles with
  | live p states hlive => exact absurd hlive (not_live_done _)
  | returned states final r hopen hr =>
    rw [List.getLast?_concat] at hlast
    have hfinal : s.executionState b.command = final := hlast
    rw [hfinal]
    exact ⟨hr, states, rfl, hopen⟩

end Runs

/-! ### A forward move that arrives -/

section Sample

open PyFloat

/-- The result of a forward move of one metre. -/
noncomputable def arrivedResult : ToolResult (PyFloat ℝ) where
  status := .succeeded
  commandId := "A"
  robotId := "robot"
  durationSec := fin 1
  error := none
  fields := .motion (fin 1) (some ⟨fin 1, fin 0, fin 0, "odom", fin 0⟩) (some .targetReached)

/-- The move is submitted and dispatched, arrives, and the call of `submit` goes on. -/
noncomputable def arrivedRun : List (Action (PyFloat ℝ)) :=
  sampleDispatch (PyFloat ℝ) 0 ++ [.resume 0 (fin 1) (.backend (.returned arrivedResult)), .wake 0]

/-- The manager after that. -/
noncomputable def arrivedState : State (PyFloat ℝ) :=
  (StepSystem.run (step (forwardWiring (fin 1) (fin 30))) State.initial (.submit 0 :: arrivedRun)).getD State.initial

theorem envelope_run_sample :
    Envelope ((forwardWiring (fin 1) (fin 30)).command 0) (arrivedState.executionState 0) arrivedResult ∧
      ∃ states, statesOf arrivedState 0 = states ++ [arrivedState.executionState 0] ∧
        ∀ st ∈ states, st.terminal = false := by
  have hmax : ¬ (sampleSafety (PyFloat ℝ)).maxMoveDistanceM < fin 1 := by
    simp [sampleSafety, sampleConstraints]
  have hlow : ¬ (fin 30 : PyFloat ℝ) < fin ((0.1 : ℚ) : ℝ) := by norm_num
  have hsubmitted : handleCall sampleProvider "A" ((0 : ℤ) : PyFloat ℝ) "robot.move"
      (forwardArguments (fin 1) (fin 30)) "session" = .ok (.submitted (forwardCommand (fin 1) (fin 30))) :=
    forward_submitted (by simp) hlow
  obtain ⟨definition, -, -, -, hbuilt⟩ := handleCall_submitted_iff.1 hsubmitted
  have hrun : StepSystem.run (step (forwardWiring (fin 1) (fin 30))) State.initial ([] ++ .submit 0 :: arrivedRun) =
    some arrivedState := rfl
  have hreplies : StepSystem.Along (step (forwardWiring (fin 1) (fin 30)))
      (ShippedReplies (forwardWiring (fin 1) (fin 30)) sampleReadWiring 0) State.initial
      ([] ++ .submit 0 :: arrivedRun) := by
    refine StepSystem.Along.of_forall ?_
    intro s a ha e now reply x hresume _ _
    subst hresume
    simp only [arrivedRun, sampleDispatch, List.nil_append, List.cons_append, List.mem_cons, reduceCtorEq,
      List.not_mem_nil, or_false, false_or, Action.resume.injEq] at ha
    rcases ha with ⟨-, -, rfl⟩ | ⟨-, -, rfl⟩ | ⟨-, -, rfl⟩ | ⟨-, -, rfl⟩
    · exact ⟨by simp, by simp, by simp, by simp⟩
    · exact ⟨by simp, by simp, by simp, by simp⟩
    · refine ⟨by simp [sampleAllow], ?_, by simp [sampleAllow], by simp [sampleAllow]⟩
      intro outcome selected hreply
      obtain ⟨houtcome, -⟩ := Reply.check.inj hreply
      obtain rfl := Except.ok.inj houtcome
      exact ⟨fun _ => [], sampleSafety (PyFloat ℝ), fin 0, none, forward_allowed hmax⟩
    · refine ⟨by simp, by simp, ?_, ?_⟩
      · intro r _ hreply
        obtain rfl := BackendReply.returned.inj (Reply.backend.inj hreply)
        exact .reached _ _ _
      · intro r hop
        cases hop
  have hfresh : ∀ c', .submit c' ∈ [] ++ arrivedRun → ((forwardWiring (fin 1) (fin 30)).command c').commandId ≠
      ((forwardWiring (fin 1) (fin 30)).command 0).commandId := by
    simp [arrivedRun, sampleDispatch]
  have hended : arrivedState.submits 0 = some ⟨0, 0, true, false, some (.returned arrivedResult)⟩ := rfl
  exact envelope_run hbuilt rfl hfresh hrun hreplies hended rfl rfl

end Sample

end RosMcp
