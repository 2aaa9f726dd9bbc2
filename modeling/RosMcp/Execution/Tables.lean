import RosMcp.Execution.NonBypass

/-!
# The tables between any two steps

The keys of `_tokens` are the ids of the commands in progress on a backend, `_active_commands` names commands in
progress with their tokens, a command whose submit has ended is in none of the tables, and the end or the cancellation
of a command leaves the entries of the others alone (`tables_agree`).  The first two are `Registered`; the last two
follow from what one step can do (`Moves.registry`, `wake_eq_some`).
-/

namespace RosMcp

variable {N : Type}

/-- The entries of other commands than `c` are in `s'` as they are in `s`. -/
structure KeepsOthers (w : Wiring N) (c : CommandRef) (s s' : State N) : Prop where
  inFlight : ∀ id, id ≠ (w.command c).commandId → s'.inFlight id = s.inFlight id
  tokens : ∀ id, id ≠ (w.command c).commandId → s'.tokens id = s.tokens id
  activeCommands : ∀ r c', c' ≠ c → (s'.activeCommands r = some c' ↔ s.activeCommands r = some c')

/-- No table refers to the command `c`. -/
structure Forgotten (w : Wiring N) (s : State N) (c : CommandRef) : Prop where
  inFlight : s.inFlight (w.command c).commandId = none
  tokens : s.tokens (w.command c).commandId = none
  activeCommands : ∀ r c', s.activeCommands r = some c' → (w.command c').commandId ≠ (w.command c).commandId

/-- `t` is `s`, or `s` with the registration that the step of `e` makes before it ends. -/
def Entered (w : Wiring N) (s t : State N) (e : ExecId) (x : Execution N) (kind : EffectKind) : Prop :=
  t = s ∨ kind = .registers ∧ ∃ token, t = s.register e x.command (w.command x.command) token

/-- The actions that cancel something: `cancel`, `Task.cancel` and the lookup of a STOP. -/
def Cancels (w : Wiring N) (s : State N) (a : Action N) : Prop :=
  (∃ id, a = .cancel id) ∨ (∃ i, a = .cancelTask i) ∨
    ∃ e now reply x, a = .resume e now reply ∧ s.execs e = some x ∧ reply.kind w x = .looks

section Lemmas

variable {w : Wiring N} {s s' : State N} {e : ExecId} {x x' : Execution N} {events : List (Event N)}
  {eff : RegistryEffect N}

/-- The `finally` of `_execute_motion` removes the entries of its own command only. -/
private theorem release_keepsOthers (s : State N) (c : CommandRef) : KeepsOthers w c s (s.release c (w.command c)) := by
  refine ⟨fun _ _ => rfl, ?_, ?_⟩
  · intro id hid
    exact Function.update_of_ne hid _ _
  · intro r c' hne
    simp only [State.release]
    split
    · next hslot =>
      rw [update_none_eq_some]
      refine ⟨And.right, fun hc => ⟨?_, hc⟩⟩
      rintro rfl
      rw [hslot, Option.some.injEq] at hc
      exact hne hc.symm
    · rfl

/-- States with equal tables. -/
private theorem KeepsOthers.congr {c : CommandRef} {t t' : State N} (h : KeepsOthers w c s t)
    (hi : t'.inFlight = t.inFlight)
    (ht : t'.tokens = t.tokens) (ha : t'.activeCommands = t.activeCommands) : KeepsOthers w c s t' :=
  ⟨by rw [hi]; exact h.inFlight, by rw [ht]; exact h.tokens, by rw [ha]; exact h.activeCommands⟩

private theorem KeepsOthers.refl (c : CommandRef) : KeepsOthers w c s s :=
  ⟨fun _ _ => rfl, fun _ _ => rfl, fun _ _ _ => Iff.rfl⟩

/-- The end of an execution. -/
private theorem Resumed.keepsOthers (hr : Resumed w s s' e x x' events eff) (hdone : ¬ x'.point.Live) :
    ∃ t, Entered w s t e x eff.kind ∧ KeepsOthers w x.command t s' := by
  rcases hr.moves.registry with ⟨token, rfl, -, hp'⟩ | ⟨rfl, -⟩ | ⟨-, -, rfl | ⟨token, rfl, -⟩ | ⟨t, rfl⟩⟩
  · rw [hp'] at hdone
    exact absurd live_backend hdone
  · exact ⟨s, Or.inl rfl, (release_keepsOthers s x.command).congr hr.inFlight hr.tokens hr.activeCommands⟩
  · exact ⟨s, Or.inl rfl, (KeepsOthers.refl _).congr hr.inFlight hr.tokens hr.activeCommands⟩
  · -- the registration and its `finally` are in one step
    refine ⟨s.register e x.command (w.command x.command) token, Or.inr ⟨rfl, token, rfl⟩, ?_⟩
    refine (release_keepsOthers _ x.command).congr hr.inFlight ?_ ?_
    · rw [hr.tokens]
      exact (Function.update_idem _ _ _).symm
    · rw [hr.activeCommands]
      simp only [State.release, State.register, Function.update_self, if_true]
      exact (Function.update_idem _ _ _).symm
  · exact ⟨s, Or.inl rfl, (KeepsOthers.refl _).congr hr.inFlight hr.tokens hr.activeCommands⟩

variable [IntCast N] [Add N] [Sub N] {a : Action N}

/-- A call of `submit` ends in `wake`. -/
private theorem step_ended (ha : step w s a = some s') {i : SubmitId} {b b' : Submit N} (hb : s.submits i = some b)
    (hb' : s'.submits i = some b') (hopen : b.ended = none) (hend : b'.ended ≠ none) (hi : InFlight w s) :
    a = .wake i ∧ wake w s i = some s' := by
  have same : s'.submits i = s.submits i → False := by
    intro h
    rw [h, hb, Option.some.injEq] at hb'
    rw [← hb', hopen] at hend
    exact hend rfl
  rcases step_cases ha with ⟨c, rfl, rfl⟩ | ⟨j, rfl, hw⟩ | ⟨j, rfl, hw⟩ | ⟨id, rfl, rfl⟩ |
    ⟨e, now, reply, x, x', events, eff, rfl, hr, -⟩
  · have hne : i ≠ s.nextSubmit := Nat.ne_of_lt (hi.submitFresh i b hb)
    refine (same ?_).elim
    unfold submit
    dsimp only
    split <;> exact Function.update_of_ne hne _ _
  · by_cases hij : i = j
    · subst hij
      exact ⟨rfl, hw⟩
    · obtain ⟨b₀, x, o, -, -, -, -, rfl⟩ := wake_eq_some hw
      exact (same (Function.update_of_ne hij _ _)).elim
  · obtain ⟨b₀, x, hb₀, -, -, ⟨-, rfl⟩ | ⟨-, rfl⟩⟩ := cancelTask_eq_some hw
    · rcases update_eq_some.1 hb' with ⟨rfl, rfl⟩ | ⟨hij, -⟩
      · obtain rfl : b = b₀ := Option.some.inj (hb.symm.trans hb₀)
        exact absurd hopen hend
      · exact (same (Function.update_of_ne hij _ _)).elim
    · exact (same rfl).elim
  · have hsub : (cancel s id).submits = s.submits := by
      unfold cancel
      cases s.tokens id <;> rfl
    exact (same (by rw [hsub])).elim
  · exact (same (by rw [hr.submits])).elim

omit [IntCast N] [Add N] [Sub N] in
/-- The end of the call that started an execution leaves no entry behind. -/
private theorem wake_forgotten (hs : Consistent w s) {i : SubmitId} {b : Submit N} (hb : s.submits i = some b)
    (howner : b.owner = true) (hw : wake w s i = some s') : Forgotten w s' b.command := by
  obtain ⟨b₀, x, o, hb₀, hend, hx, hp, rfl⟩ := wake_eq_some hw
  obtain rfl : b = b₀ := Option.some.inj (hb.symm.trans hb₀)
  have hown := hs.1.owned i b hb howner hend
  -- a command in progress under this id would be in flight as another execution
  have hidle : ∀ e c, InProgress s e c → (w.command c).commandId ≠ (w.command b.command).commandId := by
    intro e c hc hid
    obtain ⟨y, hy, rfl, hl⟩ := hc.live
    have hfly := hs.1.flying e y hy hl
    rw [hid, hown, Option.some.injEq] at hfly
    subst hfly
    obtain rfl : x = y := Option.some.inj (hx.symm.trans hy)
    rw [hp] at hl
    exact not_live_done o hl
  refine ⟨?_, ?_, ?_⟩
  · simp [howner]
  · rcases ht : s.tokens (w.command b.command).commandId with _ | e
    · rfl
    · obtain ⟨c, hc, hid⟩ := (hs.2.tokens _ e).1 ht
      exact absurd hid (hidle e c hc)
  · intro r c hc
    obtain ⟨-, e, he⟩ := hs.2.active r c hc
    exact hidle e c he

/-- What one step does to the entries of the commands that it does not register. -/
private theorem step_keepsOthers (hs : Consistent w s) (ha : step w s a = some s') :
    (∀ e x x', s.execs e = some x → s'.execs e = some x' → x.point.Live → ¬ x'.point.Live →
      ∃ now reply t, a = .resume e now reply ∧ Entered w s t e x (reply.kind w x) ∧ KeepsOthers w x.command t s') ∧
    (∀ i b b', s.submits i = some b → s'.submits i = some b' → b.ended = none → b'.ended ≠ none →
      KeepsOthers w b.command s s' ∧ (b.owner = true → Forgotten w s' b.command)) ∧
    (Cancels w s a → s'.inFlight = s.inFlight ∧ s'.tokens = s.tokens ∧ s'.activeCommands = s.activeCommands) := by
  refine ⟨?_, ?_, ?_⟩
  · intro e x x' hx hx' hl hdone
    rcases step_split hs.1 ha with ⟨-, hb⟩ | ⟨e', now, reply, y, y', events, eff, rfl, hr, hans⟩
    · obtain ⟨z, hz, -, hp⟩ := hb.kept e x hx
      obtain rfl : z = x' := Option.some.inj (hz.symm.trans hx')
      rw [hp] at hdone
      exact absurd hl hdone
    · by_cases hne : e = e'
      · subst hne
        obtain rfl : y = x := Option.some.inj (hr.execs_eq.symm.trans hx)
        obtain rfl : y' = x' := Option.some.inj (hr.execs_self.symm.trans hx')
        obtain ⟨t, ht, hkeep⟩ := hr.keepsOthers hdone
        rw [hans.kind] at ht
        exact ⟨now, reply, t, rfl, ht, hkeep⟩
      · rw [hr.execs_of_ne hne, hx, Option.some.injEq] at hx'
        subst hx'
        exact absurd hl hdone
  · intro i b b' hb hb' hopen hend
    obtain ⟨rfl, hw⟩ := step_ended ha hb hb' hopen hend hs.1
    refine ⟨?_, fun howner => wake_forgotten hs hb howner hw⟩
    obtain ⟨b₀, x, o, hb₀, -, -, -, rfl⟩ := wake_eq_some hw
    obtain rfl : b = b₀ := Option.some.inj (hb.symm.trans hb₀)
    refine ⟨?_, fun _ _ => rfl, fun _ _ _ => Iff.rfl⟩
    intro id hid
    dsimp only
    split
    · exact Function.update_of_ne hid _ _
    · rfl
  · rintro (⟨id, rfl⟩ | ⟨i, rfl⟩ | ⟨e, now, reply, x, rfl, hx, hk⟩)
    · obtain rfl := Option.some.inj ha
      unfold cancel
      cases s.tokens id <;> exact ⟨rfl, rfl, rfl⟩
    · obtain ⟨b, x, -, -, -, ⟨-, rfl⟩ | ⟨-, rfl⟩⟩ := cancelTask_eq_some ha <;> exact ⟨rfl, rfl, rfl⟩
    · obtain ⟨x', events, eff, hr, hans⟩ := resume_moves_of ha hx
      rw [← hans.kind] at hk
      rw [hr.inFlight, hr.tokens, hr.activeCommands]
      cases eff <;> first | exact ⟨rfl, rfl, rfl⟩ | cases hk

end Lemmas

section Runs

variable [IntCast N] [Add N] [Sub N] {w : Wiring N} {s : State N} {as : List (Action N)}

/-- The tables agree with the commands in progress in every reachable state, and every step keeps the entries of the
commands that it is not about. -/
theorem tables_agree (h : StepSystem.run (step w) State.initial as = some s) :
    (∀ id, (∃ e, s.tokens id = some e) ↔ ∃ e c, InProgress s e c ∧ (w.command c).commandId = id) ∧
    (∀ r c, s.activeCommands r = some c →
      (w.command c).robotId = r ∧ ∃ e, InProgress s e c ∧ s.tokens (w.command c).commandId = some e) ∧
    ∀ a s', step w s a = some s' →
      (∀ e x x', s.execs e = some x → s'.execs e = some x' → x.point.Live → ¬ x'.point.Live →
        ∃ now reply t, a = .resume e now reply ∧ Entered w s t e x (reply.kind w x) ∧
          KeepsOthers w x.command t s') ∧
      (∀ i b b', s.submits i = some b → s'.submits i = some b' → b.ended = none → b'.ended ≠ none →
        KeepsOthers w b.command s s' ∧ (b.owner = true → Forgotten w s' b.command)) ∧
      (Cancels w s a → s'.inFlight = s.inFlight ∧ s'.tokens = s.tokens ∧ s'.activeCommands = s.activeCommands) := by
  have hs := consistent_run h
  refine ⟨?_, ?_, ?_⟩
  · intro id
    constructor
    · rintro ⟨e, he⟩
      obtain ⟨c, hc, hid⟩ := (hs.2.tokens id e).1 he
      exact ⟨e, c, hc, hid⟩
    · rintro ⟨e, c, hc, hid⟩
      exact ⟨e, (hs.2.tokens id e).2 ⟨c, hc, hid⟩⟩
  · intro r c hc
    obtain ⟨hrob, e, he⟩ := hs.2.active r c hc
    exact ⟨hrob, e, he, (hs.2.tokens _ e).2 ⟨c, he, rfl⟩⟩
  · intro a s' ha
    exact step_keepsOthers hs ha

end Runs

/-- The tables while the first sample move is driving. -/
theorem tables_agree_sample :
    ∃ e, InProgress (sampleDispatched ℤ) e 0 ∧ (sampleDispatched ℤ).tokens "A" = some e := by
  have hrun : StepSystem.run (step (sampleWiring ℤ)) State.initial (.submit 0 :: sampleDispatch ℤ 0) =
    some (sampleDispatched ℤ) := rfl
  exact ((tables_agree hrun).2.1 "robot" 0 rfl).2

end RosMcp
