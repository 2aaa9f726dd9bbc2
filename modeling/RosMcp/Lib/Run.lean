import Mathlib.Data.List.Basic

/-!
# Runs of a partial step function

A system is given by `step : σ → α → Option σ`, where `none` says that the label is not enabled.  `run` folds a list
of labels, `Reachable` forgets the labels, and `Along` says that a guard on (state, label) is met at every step of a
run.  The rules used elsewhere: a property kept by every step is kept by every run (`run_invariant`, with a guard
`run_invariant_along`); a guard that is also needed holds along the runs that keep the property
(`throughout_iff_along`); what holds after a run has begun with one of its steps (`run_begins`), and what every step
records is what a step of the run has recorded (`run_records`); a reflexive transitive relation that contains every step
contains every run (`run_rel`); a simulation of the steps is one of the runs (`run_simulates`); and a queue is served in
its order (`run_fifo`).  A measure that the steps decrease bounds the length of a run (`run_length_le`), and with
progress it leads to a final state (`run_completes`).  `outputs` collects what the steps of a run put out,
`outputs_invariant` relates it to the state that the run leads to (`outputs_invariant₂`: two kinds of outputs;
`outputs_invariant_along`: with a guard), and `outputs_map` to the outputs of a system with more in its labels.
-/

namespace StepSystem

variable {σ α : Type*} (step : σ → α → Option σ)

/-- The state after the labels `as`, when each of them is enabled in turn. -/
def run : σ → List α → Option σ
  | s, [] => some s
  | s, a :: as => (step s a).bind fun s' => run s' as

/-- `s'` can be reached from `s`. -/
def Reachable (s s' : σ) : Prop := ∃ as, run step s as = some s'

/-- The guard `G` holds of every step taken along `as` from `s`. -/
def Along (G : σ → α → Prop) (s : σ) (as : List α) : Prop :=
  ∀ as₁ a as₂ s₁, as = as₁ ++ a :: as₂ → run step s as₁ = some s₁ → G s₁ a

variable {step}

@[simp] theorem run_nil (s : σ) : run step s [] = some s := rfl

theorem run_cons {s s'' : σ} {a : α} {as : List α} :
    run step s (a :: as) = some s'' ↔ ∃ s', step s a = some s' ∧ run step s' as = some s'' := by
  simp [run, Option.bind_eq_some_iff]

theorem run_append {s s'' : σ} {as bs : List α} :
    run step s (as ++ bs) = some s'' ↔ ∃ s', run step s as = some s' ∧ run step s' bs = some s'' := by
  induction as generalizing s with
  | nil => simp
  | cons a as ih =>
    simp only [List.cons_append, run_cons, ih]
    constructor
    · rintro ⟨s₁, h₁, s₂, h₂, h₃⟩
      exact ⟨s₂, ⟨s₁, h₁, h₂⟩, h₃⟩
    · rintro ⟨s₂, ⟨s₁, h₁, h₂⟩, h₃⟩
      exact ⟨s₁, h₁, s₂, h₂, h₃⟩

theorem run_concat {s s'' : σ} {a : α} {as : List α} :
    run step s (as ++ [a]) = some s'' ↔ ∃ s', run step s as = some s' ∧ step s' a = some s'' := by
  rw [run_append]
  constructor
  · rintro ⟨s', h, h'⟩
    obtain ⟨s₁, h₁, h₂⟩ := run_cons.1 h'
    obtain rfl : s₁ = s'' := by simpa using h₂
    exact ⟨s', h, h₁⟩
  · rintro ⟨s', h, h'⟩
    exact ⟨s', h, run_cons.2 ⟨s'', h', rfl⟩⟩

theorem Reachable.refl (s : σ) : Reachable step s s := ⟨[], rfl⟩

theorem Reachable.tail {s s' s'' : σ} {a : α} (h : Reachable step s s') (h' : step s' a = some s'') :
    Reachable step s s'' := by
  obtain ⟨as, has⟩ := h
  exact ⟨as ++ [a], run_concat.2 ⟨s', has, h'⟩⟩

theorem Reachable.trans {s s' s'' : σ} {as : List α} (h : Reachable step s s')
    (h' : run step s' as = some s'') : Reachable step s s'' := by
  obtain ⟨bs, hbs⟩ := h
  exact ⟨bs ++ as, run_append.2 ⟨s', hbs, h'⟩⟩

theorem Along.nil {G : σ → α → Prop} {s : σ} : Along step G s [] := by
  intro as₁ a as₂ s₁ he _
  exact absurd he (by simp)

/-- A guard on the labels alone. -/
theorem Along.of_forall {G : σ → α → Prop} {s : σ} {as : List α} (h : ∀ s, ∀ a ∈ as, G s a) : Along step G s as := by
  intro as₁ a as₂ s₁ he _
  exact h s₁ a (by rw [he]; simp)

theorem Along.cons {G : σ → α → Prop} {s s' : σ} {a : α} {as : List α} (ha : G s a) (hstep : step s a = some s')
    (h : Along step G s' as) : Along step G s (a :: as) := by
  intro as₁ b as₂ s₁ he hr
  cases as₁ with
  | nil =>
    obtain ⟨rfl, -⟩ := List.cons.inj he
    obtain rfl : s = s₁ := by simpa using hr
    exact ha
  | cons c as₁ =>
    obtain ⟨rfl, he'⟩ := List.cons.inj he
    obtain ⟨s'', h₁, h₂⟩ := run_cons.1 hr
    rw [hstep, Option.some.injEq] at h₁
    subst h₁
    exact h as₁ b as₂ s₁ he' h₂

theorem Along.head {G : σ → α → Prop} {s : σ} {a : α} {as : List α} (h : Along step G s (a :: as)) : G s a :=
  h [] a as s rfl rfl

theorem Along.tail {G : σ → α → Prop} {s s' : σ} {a : α} {as : List α} (h : Along step G s (a :: as))
    (ha : step s a = some s') : Along step G s' as := by
  intro as₁ b as₂ s₁ he hr
  exact h (a :: as₁) b as₂ s₁ (by rw [he]; rfl) (run_cons.2 ⟨s', ha, hr⟩)

theorem Along.left {G : σ → α → Prop} {s : σ} {as bs : List α} (h : Along step G s (as ++ bs)) :
    Along step G s as := by
  intro as₁ a as₂ s₁ he hr
  exact h as₁ a (as₂ ++ bs) s₁ (by rw [he, List.append_assoc]; rfl) hr

theorem Along.append {G : σ → α → Prop} {s : σ} {as bs : List α} (h : Along step G s as)
    (h' : ∀ s', run step s as = some s' → Along step G s' bs) : Along step G s (as ++ bs) := by
  induction as generalizing s with
  | nil => exact h' s rfl
  | cons a as ih =>
    cases hstep : step s a with
    | some s' =>
      exact .cons h.head hstep (ih (h.tail hstep) fun t ht => h' t (run_cons.2 ⟨s', hstep, ht⟩))
    | none =>
      intro as₁ b as₂ s₁ he hr
      cases as₁ with
      | nil =>
        obtain ⟨rfl, -⟩ := List.cons.inj he
        obtain rfl : s = s₁ := by simpa using hr
        exact h.head
      | cons c as₁ =>
        obtain ⟨rfl, -⟩ := List.cons.inj he
        obtain ⟨t, ht, -⟩ := run_cons.1 hr
        rw [hstep] at ht
        cases ht

/-- A property kept by every guarded step is kept by every run whose steps meet the guard. -/
theorem run_invariant_along {G : σ → α → Prop} {P : σ → Prop}
    (hP : ∀ s a s', P s → G s a → step s a = some s' → P s') {s s' : σ} {as : List α}
    (hs : P s) (hG : Along step G s as) (h : run step s as = some s') : P s' := by
  induction as generalizing s with
  | nil =>
    obtain rfl : s = s' := by simpa using h
    exact hs
  | cons a as ih =>
    obtain ⟨s₁, h₁, h₂⟩ := run_cons.1 h
    exact ih (hP s a s₁ hs hG.head h₁) (hG.tail h₁) h₂

/-- A property kept by every step is kept by every run. -/
theorem run_invariant {P : σ → Prop} (hP : ∀ s a s', P s → step s a = some s' → P s') {s s' : σ}
    {as : List α} (hs : P s) (h : run step s as = some s') : P s' :=
  run_invariant_along (G := fun _ _ => True) (fun s a s' hs _ h => hP s a s' hs h) hs
    (fun _ _ _ _ _ _ => trivial) h

/-- Where a step keeps `Q` exactly if it meets the guard, `Q` holds throughout a run exactly if every step of it meets
the guard. -/
theorem throughout_iff_along {G : σ → α → Prop} {P Q : σ → Prop} (hP : ∀ s a s', P s → step s a = some s' → P s')
    (hQ : ∀ s a s', P s → Q s → step s a = some s' → (Q s' ↔ G s a)) {s s' : σ} {as : List α} (hs : P s) (hq : Q s)
    (h : run step s as = some s') :
    (∀ as₁ as₂ s₁, as = as₁ ++ as₂ → run step s as₁ = some s₁ → Q s₁) ↔ Along step G s as := by
  induction as generalizing s with
  | nil =>
    refine ⟨fun _ => .nil, ?_⟩
    intro _ as₁ as₂ s₁ he hr
    obtain ⟨rfl, -⟩ := List.append_eq_nil_iff.1 he.symm
    obtain rfl : s = s₁ := by simpa using hr
    exact hq
  | cons a as ih =>
    obtain ⟨t, ht, hrest⟩ := run_cons.1 h
    constructor
    · intro hall
      have hqt : Q t := hall [a] as t rfl (run_cons.2 ⟨t, ht, rfl⟩)
      refine .cons ((hQ s a t hs hq ht).1 hqt) ht ((ih (hP s a t hs ht) hqt hrest).1 ?_)
      intro as₁ as₂ s₁ he hr
      exact hall (a :: as₁) as₂ s₁ (by rw [he]; rfl) (run_cons.2 ⟨t, ht, hr⟩)
    · intro hG as₁ as₂ s₁ he hr
      have hqt : Q t := (hQ s a t hs hq ht).2 hG.head
      cases as₁ with
      | nil =>
        obtain rfl : s = s₁ := by simpa using hr
        exact hq
      | cons b as₁ =>
        obtain ⟨rfl, he'⟩ := List.cons.inj he
        obtain ⟨t', ht', hr'⟩ := run_cons.1 hr
        obtain rfl : t = t' := Option.some.inj (ht.symm.trans ht')
        exact (ih (hP s a t hs ht) hqt hrest).2 (hG.tail ht) as₁ as₂ s₁ he' hr'

/-- What holds after a run, and did not before it, has begun with a step of the run. -/
theorem run_begins {R : σ → Prop} {s s' : σ} {as : List α} (hs : ¬ R s) (h : run step s as = some s') (hR : R s') :
    ∃ as₁ a as₂ s₁ s₂, as = as₁ ++ a :: as₂ ∧ run step s as₁ = some s₁ ∧ step s₁ a = some s₂ ∧ ¬ R s₁ ∧ R s₂ := by
  induction as generalizing s with
  | nil =>
    obtain rfl : s = s' := by simpa using h
    exact absurd hR hs
  | cons a as ih =>
    obtain ⟨t, ht, hrest⟩ := run_cons.1 h
    by_cases hRt : R t
    · exact ⟨[], a, as, s, t, rfl, rfl, ht, hs, hRt⟩
    · obtain ⟨as₁, b, as₂, s₁, s₂, rfl, h₁, h₂⟩ := ih hRt hrest
      exact ⟨a :: as₁, b, as₂, s₁, s₂, rfl, run_cons.2 ⟨t, ht, h₁⟩, h₂⟩

/-- What a step records holds after a run if it held before it or one of its steps has recorded it. -/
theorem run_records {P R : σ → Prop} {G : σ → α → Prop} (hP : ∀ s a s', P s → step s a = some s' → P s')
    (hR : ∀ s a s', P s → step s a = some s' → (R s' ↔ R s ∨ G s a)) {s s' : σ} {as : List α} (hs : P s)
    (h : run step s as = some s') :
    R s' ↔ R s ∨ ∃ as₁ a as₂ u, as = as₁ ++ a :: as₂ ∧ run step s as₁ = some u ∧ G u a := by
  induction as generalizing s with
  | nil =>
    obtain rfl : s = s' := by simpa using h
    simp
  | cons a as ih =>
    obtain ⟨t, ht, hrest⟩ := run_cons.1 h
    rw [ih (hP s a t hs ht) hrest, hR s a t hs ht]
    constructor
    · rintro ((hold | hG) | ⟨as₁, b, as₂, u, rfl, hu, hG⟩)
      · exact .inl hold
      · exact .inr ⟨[], a, as, s, rfl, rfl, hG⟩
      · exact .inr ⟨a :: as₁, b, as₂, u, rfl, run_cons.2 ⟨t, ht, hu⟩, hG⟩
    · rintro (hold | ⟨as₁, b, as₂, u, he, hu, hG⟩)
      · exact .inl (.inl hold)
      · cases as₁ with
        | nil =>
          obtain ⟨rfl, -⟩ := List.cons.inj he
          obtain rfl : s = u := by simpa using hu
          exact .inl (.inr hG)
        | cons c as₁ =>
          obtain ⟨rfl, he'⟩ := List.cons.inj he
          obtain ⟨t', ht', hu'⟩ := run_cons.1 hu
          obtain rfl : t = t' := Option.some.inj (ht.symm.trans ht')
          exact .inr ⟨as₁, b, as₂, u, he', hu', hG⟩

/-- The same, of what a label records. -/
theorem run_records_label {P R : σ → Prop} {L : α → Prop} (hP : ∀ s a s', P s → step s a = some s' → P s')
    (hR : ∀ s a s', P s → step s a = some s' → (R s' ↔ R s ∨ L a)) {s s' : σ} {as : List α} (hs : P s)
    (h : run step s as = some s') : R s' ↔ R s ∨ ∃ a ∈ as, L a := by
  induction as generalizing s with
  | nil =>
    obtain rfl : s = s' := by simpa using h
    simp
  | cons a as ih =>
    obtain ⟨t, ht, hrest⟩ := run_cons.1 h
    rw [ih (hP s a t hs ht) hrest, hR s a t hs ht, List.exists_mem_cons_iff, or_assoc]

/-- Where the labels with `serves` take the first item from a queue and every step may append items, the items that a
run has taken are the first ones of what waited before it and of what it has appended. -/
theorem run_fifo {ι : Type*} {queue : σ → List ι} {serves : α → Bool} {P : σ → Prop} {Q : ι → Prop}
    (hP : ∀ s a s', P s → step s a = some s' → P s' ∧ ∃ served added, served.length = (serves a).toNat ∧
      (∀ x ∈ added, Q x) ∧ queue s ++ added = served ++ queue s') {s s' : σ} {as : List α} (hs : P s)
    (h : run step s as = some s') :
    ∃ served added, served.length = as.countP serves ∧ (∀ x ∈ added, Q x) ∧
      queue s ++ added = served ++ queue s' := by
  induction as generalizing s with
  | nil =>
    obtain rfl : s = s' := by simpa using h
    exact ⟨[], [], rfl, by simp, by simp⟩
  | cons a as ih =>
    obtain ⟨t, ht, hrest⟩ := run_cons.1 h
    obtain ⟨hPt, served, added, hlength, hadded, hqueue⟩ := hP s a t hs ht
    obtain ⟨served', added', hlength', hadded', hqueue'⟩ := ih hPt hrest
    refine ⟨served ++ served', added ++ added', ?_, ?_, ?_⟩
    · rw [List.length_append, hlength, hlength', List.countP_cons]
      cases serves a <;> simp [Nat.add_comm]
    · intro x hx
      exact (List.mem_append.1 hx).elim (hadded x) (hadded' x)
    · rw [← List.append_assoc, hqueue, List.append_assoc, hqueue', List.append_assoc]

/-- A reflexive transitive relation that contains the steps taken from states with the invariant `P` contains
the runs from such states. -/
theorem run_rel {P : σ → Prop} {R : σ → σ → Prop} (hP : ∀ s a s', P s → step s a = some s' → P s')
    (hrefl : ∀ s, R s s) (htrans : ∀ s₁ s₂ s₃, R s₁ s₂ → R s₂ s₃ → R s₁ s₃)
    (hR : ∀ s a s', P s → step s a = some s' → R s s') {s s' : σ} {as : List α} (hs : P s)
    (h : run step s as = some s') : R s s' := by
  induction as generalizing s with
  | nil =>
    obtain rfl : s = s' := by simpa using h
    exact hrefl s
  | cons a as ih =>
    obtain ⟨s₁, h₁, h₂⟩ := run_cons.1 h
    exact htrans s s₁ s' (hR s a s₁ hs h₁) (ih (hP s a s₁ hs h₁) h₂)

/-- Where each step of a system is matched by a step of another, each run of it is matched by a run. -/
theorem run_simulates {σ' α' : Type*} {step' : σ' → α' → Option σ'} {R : σ → σ' → Prop} {L : α → α' → Prop}
    (hR : ∀ s s' a a' t, R s s' → L a a' → step s a = some t → ∃ t', step' s' a' = some t' ∧ R t t') {s t : σ} {s' : σ'}
    {as : List α} {bs : List α'} (hs : R s s') (hlabels : List.Forall₂ L as bs) (h : run step s as = some t) :
    ∃ t', run step' s' bs = some t' ∧ R t t' := by
  induction hlabels generalizing s s' with
  | nil =>
    obtain rfl : s = t := by simpa using h
    exact ⟨s', rfl, hs⟩
  | cons hlabel _ ih =>
    obtain ⟨s₁, h₁, h₂⟩ := run_cons.1 h
    obtain ⟨s₁', h₁', hR₁⟩ := hR s s' _ _ s₁ hs hlabel h₁
    obtain ⟨t', h₂', hRt⟩ := ih hR₁ h₂
    exact ⟨t', run_cons.2 ⟨s₁', h₁', h₂'⟩, hRt⟩

/-! ### Termination -/

section Termination

variable {G : σ → α → Prop} {P : σ → Prop} {μ : σ → ℕ}

/-- A measure that every guarded step decreases bounds the length of a run. -/
theorem run_length_le (hμ : ∀ s a s', P s → G s a → step s a = some s' → P s' ∧ μ s' < μ s) {s s' : σ} {as : List α}
    (hs : P s) (hG : Along step G s as) (h : run step s as = some s') : as.length + μ s' ≤ μ s := by
  induction as generalizing s with
  | nil =>
    obtain rfl : s = s' := by simpa using h
    simp
  | cons a as ih =>
    obtain ⟨t, ht, hrest⟩ := run_cons.1 h
    obtain ⟨hPt, hlt⟩ := hμ s a t hs hG.head ht
    have hlength := ih hPt (hG.tail ht) hrest
    rw [List.length_cons]
    omega

/-- A measure that no step increases, and that the steps with some labels decrease, bounds the number of these. -/
theorem run_countP_le {p : α → Bool} (hμ : ∀ s a s', P s → step s a = some s' → P s' ∧ (p a).toNat + μ s' ≤ μ s)
    {s s' : σ} {as : List α} (hs : P s) (h : run step s as = some s') : as.countP p + μ s' ≤ μ s := by
  induction as generalizing s with
  | nil =>
    obtain rfl : s = s' := by simpa using h
    simp
  | cons a as ih =>
    obtain ⟨t, ht, hrest⟩ := run_cons.1 h
    obtain ⟨hPt, hle⟩ := hμ s a t hs ht
    have hcount := ih hPt hrest
    rw [List.countP_cons]
    cases hp : p a with
    | true =>
      rw [hp, Bool.toNat_true] at hle
      simp only [if_true]
      omega
    | false =>
      rw [hp, Bool.toNat_false] at hle
      simp only [Bool.false_eq_true, if_false]
      omega

/-- With a measure that every guarded step decreases, and a guarded step wherever the run is not final, some run is
final. -/
theorem run_completes {Final : σ → Prop} (hμ : ∀ s a s', P s → G s a → step s a = some s' → P s' ∧ μ s' < μ s)
    (hprogress : ∀ s, P s → ¬ Final s → ∃ a s', G s a ∧ step s a = some s') {s : σ} (hs : P s) :
    ∃ as s', Along step G s as ∧ run step s as = some s' ∧ Final s' := by
  induction hn : μ s using Nat.strongRecOn generalizing s with
  | ind n ih =>
    by_cases hfinal : Final s
    · exact ⟨[], s, .nil, rfl, hfinal⟩
    · obtain ⟨a, t, hGa, ht⟩ := hprogress s hs hfinal
      obtain ⟨hPt, hlt⟩ := hμ s a t hs hGa ht
      obtain ⟨as, s', hG, hrun, hend⟩ := ih (μ t) (hn ▸ hlt) hPt rfl
      exact ⟨a :: as, s', .cons hGa ht hG, run_cons.2 ⟨t, ht, hrun⟩, hend⟩

end Termination

/-! ### The outputs of a run -/

section Outputs

variable {β : Type*} {f : σ → α → List β}

/-- What the steps of a run put out, where the step with the label `a` from `s` puts out `f s a`. -/
def outputs (step : σ → α → Option σ) (f : σ → α → List β) : σ → List α → List β
  | _, [] => []
  | s, a :: as => f s a ++ (step s a).elim [] fun s' => outputs step f s' as

@[simp] theorem outputs_nil (s : σ) : outputs step f s [] = [] := rfl

theorem outputs_cons {s s' : σ} {a : α} (h : step s a = some s') (as : List α) :
    outputs step f s (a :: as) = f s a ++ outputs step f s' as := by
  rw [outputs, h]
  rfl

theorem outputs_append {s s' : σ} {as : List α} (h : run step s as = some s') (bs : List α) :
    outputs step f s (as ++ bs) = outputs step f s as ++ outputs step f s' bs := by
  induction as generalizing s with
  | nil =>
    obtain rfl : s = s' := by simpa using h
    rfl
  | cons a as ih =>
    obtain ⟨s₁, h₁, h₂⟩ := run_cons.1 h
    rw [List.cons_append, outputs_cons h₁, outputs_cons h₁, ih h₂, List.append_assoc]

/-- What holds of everything that a step puts out holds of everything that a run does. -/
theorem forall_outputs {Q : β → Prop} (hQ : ∀ s a, ∀ b ∈ f s a, Q b) (s : σ) (as : List α) :
    ∀ b ∈ outputs step f s as, Q b := by
  induction as generalizing s with
  | nil => simp
  | cons a as ih =>
    intro b hb
    rcases List.mem_append.1 hb with hfirst | hrest
    · exact hQ s a b hfirst
    · cases h : step s a with
      | none =>
        rw [h] at hrest
        cases hrest
      | some s' =>
        rw [h] at hrest
        exact ih s' b hrest

/-- The outputs of a system with more in its labels, projected to those of the system. -/
theorem outputs_map {α' β' : Type*} {f' : σ → α' → List β'} (g : α' → α) (k : β' → β)
    (hf : ∀ s a, (f' s a).map k = f s (g a)) (s : σ) (as : List α') :
    (outputs (fun s a => step s (g a)) f' s as).map k = outputs step f s (as.map g) := by
  induction as generalizing s with
  | nil => rfl
  | cons a as ih =>
    rw [outputs, List.map_cons, outputs, List.map_append, hf]
    cases h : step s (g a) with
    | none => rfl
    | some s' => exact congrArg (f s (g a) ++ ·) (ih s')

/-- A relation between the state and two kinds of outputs that every step keeps holds after every run. -/
theorem outputs_invariant₂ {γ : Type*} {g : σ → α → List γ} {P : σ → List β → List γ → Prop}
    (hP : ∀ s a s' bs cs, P s bs cs → step s a = some s' → P s' (bs ++ f s a) (cs ++ g s a)) {s s' : σ} {as : List α}
    (hs : P s [] []) (h : run step s as = some s') : P s' (outputs step f s as) (outputs step g s as) := by
  have along : ∀ (as : List α) (s : σ) (bs : List β) (cs : List γ), P s bs cs → run step s as = some s' →
      P s' (bs ++ outputs step f s as) (cs ++ outputs step g s as) := by
    intro as
    induction as with
    | nil =>
      intro s bs cs hs h
      obtain rfl : s = s' := by simpa using h
      simpa using hs
    | cons a as ih =>
      intro s bs cs hs h
      obtain ⟨s₁, h₁, h₂⟩ := run_cons.1 h
      rw [outputs_cons h₁, outputs_cons h₁, ← List.append_assoc, ← List.append_assoc]
      exact ih s₁ (bs ++ f s a) (cs ++ g s a) (hP s a s₁ bs cs hs h₁) h₂
  simpa using along as s [] [] hs h

/-- A relation between the state and what was put out that every step keeps holds after every run. -/
theorem outputs_invariant {P : σ → List β → Prop} (hP : ∀ s a s' bs, P s bs → step s a = some s' → P s' (bs ++ f s a))
    {s s' : σ} {as : List α} (hs : P s []) (h : run step s as = some s') : P s' (outputs step f s as) :=
  outputs_invariant₂ (g := f) (P := fun s bs _ => P s bs) (fun s a s' bs _ hbs hstep => hP s a s' bs hbs hstep) hs h

/-- The same, of a run whose steps meet a guard. -/
theorem outputs_invariant_along {G : σ → α → Prop} {P : σ → List β → Prop}
    (hP : ∀ s a s' bs, P s bs → G s a → step s a = some s' → P s' (bs ++ f s a)) {s s' : σ} {as : List α}
    (hs : P s []) (hG : Along step G s as) (h : run step s as = some s') : P s' (outputs step f s as) := by
  have along : ∀ (as : List α) (s : σ) (bs : List β), P s bs → Along step G s as → run step s as = some s' →
      P s' (bs ++ outputs step f s as) := by
    intro as
    induction as with
    | nil =>
      intro s bs hs _ h
      obtain rfl : s = s' := by simpa using h
      simpa using hs
    | cons a as ih =>
      intro s bs hs hG h
      obtain ⟨s₁, h₁, h₂⟩ := run_cons.1 h
      rw [outputs_cons h₁, ← List.append_assoc]
      exact ih s₁ (bs ++ f s a) (hP s a s₁ bs hs hG.head h₁) (hG.tail h₁) h₂
  simpa using along as s [] hs hG h

end Outputs

end StepSystem
