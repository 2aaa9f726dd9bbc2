import RosMcp.Execution.NonBypass

/-!
# One motion at a time

Two executions of one robot are related by the single slot of `_active_commands` only, and a registration overwrites
the slot.  So at most one MOVE or NAVIGATE of a robot is in progress, and the slot names it, in every state of a run
exactly when every registration of the run finds the slot of its robot empty (`oneMotion_iff`).  A second move
submitted while the first is driving is registered all the same (`oneMotion_overlap`).
-/

namespace RosMcp

variable {N : Type}

/-- At most one command of a robot is in progress on a backend, and `active_command` names it. -/
structure OneMotion (w : Wiring N) (s : State N) : Prop where
  unique : ∀ e e' c c', InProgress s e c → InProgress s e' c' →
    (w.command c).robotId = (w.command c').robotId → e = e'
  active : ∀ r c, s.activeCommand r = some c ↔ (w.command c).robotId = r ∧ ∃ e, InProgress s e c

/-- A step that registers a command finds the slot of its robot empty. -/
def SlotFree (w : Wiring N) (s : State N) (a : Action N) : Prop :=
  ∀ e now reply x, a = .resume e now reply → s.execs e = some x → reply.kind w x = .registers →
    s.activeCommands (w.command x.command).robotId = none

section Lemmas

variable {w : Wiring N} {s s' : State N}

/-- The slot names every command in progress. -/
def Named (w : Wiring N) (s : State N) : Prop :=
  ∀ e c, InProgress s e c → s.activeCommands (w.command c).robotId = some c

/-- With one slot for each robot, naming every command in progress leaves room for one. -/
private theorem oneMotion_iff_named (hs : Consistent w s) : OneMotion w s ↔ Named w s := by
  constructor
  · intro h e c hc
    exact (h.active _ c).2 ⟨rfl, e, hc⟩
  · intro h
    refine ⟨?_, ?_⟩
    · intro e e' c c' hc hc' hr
      have h₁ := h e c hc
      rw [hr, h e' c' hc', Option.some.injEq] at h₁
      exact (hc.unique hs.1 hc' (by rw [h₁])).1
    · intro r c
      constructor
      · exact hs.2.active r c
      · rintro ⟨rfl, e, hc⟩
        exact h e c hc

private theorem Named.beside (h : Named w s) (hb : Beside s s') : Named w s' := by
  intro e c hc
  rw [hb.activeCommands]
  exact h e c (hb.inProgress_iff.1 hc)

/-- A transition that finds the slot empty whenever it registers keeps the slot accurate. -/
private theorem Named.resume {e : ExecId} {x x' : Execution N} {events : List (Event N)} {eff : RegistryEffect N}
    (h : Named w s) (hs : Consistent w s) (hr : Resumed w s s' e x x' events eff)
    (hfree : eff.kind = .registers → s.activeCommands (w.command x.command).robotId = none) : Named w s' := by
  intro e' c hc
  rcases hr.moves.registry with ⟨token, rfl, hp, hp'⟩ | ⟨rfl, hp, hp'⟩ | ⟨hp, hp', heff⟩
  · -- the slot was empty, so the new command shares its robot with none in progress
    have hempty := hfree rfl
    rw [hr.activeCommands]
    rcases hr.inProgress_iff.1 hc with ⟨rfl, rfl, -⟩ | ⟨-, hc⟩
    · exact Function.update_self _ _ _
    · refine update_eq_some.2 (Or.inr ⟨?_, h e' c hc⟩)
      intro hrob
      have hactive := h e' c hc
      rw [hrob, hempty] at hactive
      cases hactive
  · have hself : InProgress s e x.command := ⟨x, hr.execs_eq, rfl, hp⟩
    have hc' : e' ≠ e ∧ InProgress s e' c := by
      rcases hr.inProgress_iff.1 hc with ⟨-, -, hb⟩ | hc
      · exact absurd (by rw [hb]; exact live_backend) hp'
      · exact hc
    -- the command that leaves is in the slot of its own robot only
    have hrob : (w.command c).robotId ≠ (w.command x.command).robotId := by
      intro hrob
      have h₁ := h e' c hc'.2
      rw [hrob, h e _ hself, Option.some.injEq] at h₁
      exact hc'.1 (hc'.2.unique hs.1 hself (by rw [h₁])).1
    rw [hr.activeCommands]
    simp only [RegistryEffect.activeCommands]
    rw [if_pos (h e _ hself)]
    exact update_none_eq_some.2 ⟨hrob, h e' c hc'.2⟩
  · have hc' : InProgress s e' c := by
      rcases hr.inProgress_iff.1 hc with ⟨-, -, hb⟩ | ⟨-, hc⟩
      · exact absurd hb hp'
      · exact hc
    rw [hr.activeCommands]
    rcases heff with rfl | ⟨token, rfl, -⟩ | ⟨t, rfl⟩
    · exact h e' c hc'
    · refine update_none_eq_some.2 ⟨?_, h e' c hc'⟩
      intro hrob
      have hactive := h e' c hc'
      rw [hrob, hfree rfl] at hactive
      cases hactive
    · exact h e' c hc'

/-- A registration that overwrites the slot leaves it wrong. -/
private theorem not_named_of_registers {e : ExecId} {x x' : Execution N} {events : List (Event N)}
    {eff : RegistryEffect N}
    (hs : Consistent w s) (hr : Resumed w s s' e x x' events eff) (hk : eff.kind = .registers) {c : CommandRef}
    (hslot : s.activeCommands (w.command x.command).robotId = some c) : ¬ Named w s' := by
  intro hn
  obtain ⟨hrob, e', hc⟩ := hs.2.active _ c hslot
  rcases hr.moves.registry with ⟨token, rfl, hp, hp'⟩ | ⟨rfl, -⟩ | ⟨hp, hp', rfl | ⟨token, rfl, -⟩ | ⟨t, rfl⟩⟩
  · -- both commands are in progress afterwards, under one slot
    have hne := hr.not_inProgress hs.1 hp hc
    have hc' : InProgress s' e' c := hr.inProgress_iff.2 (Or.inr ⟨hne.1, hc⟩)
    have h₁ := hn e' c hc'
    have h₂ := hn e x.command (hr.inProgress_iff.2 (Or.inl ⟨rfl, rfl, hp'⟩))
    rw [hrob, h₂, Option.some.injEq] at h₁
    exact hne.2 (by rw [h₁])
  · cases hk
  · cases hk
  · have hne := hr.not_inProgress hs.1 hp hc
    have h₁ := hn e' c (hr.inProgress_iff.2 (Or.inr ⟨hne.1, hc⟩))
    rw [hrob, hr.activeCommands] at h₁
    simp [RegistryEffect.activeCommands] at h₁
  · cases hk

end Lemmas

section Runs

variable [IntCast N] [Add N] [Sub N] {w : Wiring N} {s : State N} {as : List (Action N)}

/-- A step keeps the slots right exactly if a registration finds its slot empty. -/
theorem named_step_iff {a : Action N} {s' : State N} (hs : Consistent w s) (h : Named w s) (ha : step w s a = some s') :
    Named w s' ↔ SlotFree w s a := by
  constructor
  · intro hnamed e now reply x hresume hx hk
    subst hresume
    obtain ⟨y, x', events, eff, hr, hans⟩ := resume_moves ha
    obtain rfl : x = y := by
      have hy := hr.execs_eq
      rw [hx, Option.some.injEq] at hy
      exact hy
    by_contra hne
    obtain ⟨c, hc⟩ := Option.ne_none_iff_exists'.1 hne
    exact not_named_of_registers hs hr (by rw [hans.kind, hk]) hc hnamed
  · intro hfree
    rcases step_split hs.1 ha with ⟨-, hb⟩ | ⟨e, now, reply, x, x', events, eff, rfl, hr, hans⟩
    · exact h.beside hb
    · refine h.resume hs hr ?_
      intro hk
      exact hfree e now reply x rfl hr.execs_eq (by rw [← hans.kind, hk])

/-- In every state of a run at most one command of a robot is in progress, and the slot names it, exactly when
every registration of the run finds the slot of its robot empty. -/
theorem oneMotion_iff (h : StepSystem.run (step w) State.initial as = some s) :
    (∀ as₁ as₂ s₁, as = as₁ ++ as₂ → StepSystem.run (step w) State.initial as₁ = some s₁ → OneMotion w s₁) ↔
      StepSystem.Along (step w) (SlotFree w) State.initial as := by
  have hinit : Named w (State.initial : State N) := by
    rintro e c ⟨x, hx, -⟩
    cases hx
  rw [← StepSystem.throughout_iff_along (fun _ _ _ hs ha => hs.step ha) (fun _ _ _ => named_step_iff)
    consistent_initial hinit h]
  constructor
  · intro hone as₁ as₂ s₁ has h₁
    exact (oneMotion_iff_named (consistent_run h₁)).1 (hone as₁ as₂ s₁ has h₁)
  · intro hnamed as₁ as₂ s₁ has h₁
    exact (oneMotion_iff_named (consistent_run h₁)).2 (hnamed as₁ as₂ s₁ has h₁)

end Runs

/-- The instance of one dispatched move. -/
theorem oneMotion_sample :
    (∀ as₁ as₂ s₁, .submit 0 :: sampleDispatch ℤ 0 = as₁ ++ as₂ →
      StepSystem.run (step (sampleWiring ℤ)) State.initial as₁ = some s₁ → OneMotion (sampleWiring ℤ) s₁) ↔
    StepSystem.Along (step (sampleWiring ℤ)) (SlotFree (sampleWiring ℤ)) State.initial
      (.submit 0 :: sampleDispatch ℤ 0) := by
  have hrun : StepSystem.run (step (sampleWiring ℤ)) State.initial (.submit 0 :: sampleDispatch ℤ 0) =
    some (sampleDispatched ℤ) := rfl
  exact oneMotion_iff hrun

/-- The manager after a second move of the same robot has been dispatched while the first is driving. -/
def sampleOverlap : State ℤ :=
  (StepSystem.run (step (sampleWiring ℤ)) (sampleDispatched ℤ) (.submit 1 :: sampleDispatch ℤ 1)).getD State.initial

/-- Two identical moves are driven against each other, and the slot names the second only. -/
theorem oneMotion_overlap :
    StepSystem.run (step (sampleWiring ℤ)) State.initial
      (.submit 0 :: sampleDispatch ℤ 0 ++ .submit 1 :: sampleDispatch ℤ 1) = some sampleOverlap ∧
    sampleOverlap.activeCommand "robot" = some 1 ∧ InProgress sampleOverlap 0 0 ∧ InProgress sampleOverlap 1 1 ∧
    ¬ OneMotion (sampleWiring ℤ) sampleOverlap := by
  have h₀ : InProgress sampleOverlap 0 0 := ⟨_, rfl, rfl, rfl⟩
  have h₁ : InProgress sampleOverlap 1 1 := ⟨_, rfl, rfl, rfl⟩
  refine ⟨rfl, rfl, h₀, h₁, ?_⟩
  intro h
  exact absurd (h.unique 0 1 0 1 h₀ h₁ rfl) (by decide)

end RosMcp
