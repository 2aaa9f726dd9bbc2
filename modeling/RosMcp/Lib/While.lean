import Mathlib.Data.Nat.Notation

/-!
# While loops

`Ends cond body s t` says that the loop `while cond: body` comes to an end in `t` when it is started in `s`.  A loop
whose passes decrease a measure ends (`exists_ends`), and then a function with the equation of the loop is what it
computes (`ends_iff`).
-/

namespace WhileLoop

variable {σ : Type*} (cond : σ → Prop) (body : σ → σ)

/-- The loop ends in its second state when it is started in the first. -/
inductive Ends : σ → σ → Prop
  | stop {s : σ} (h : ¬ cond s) : Ends s s
  | pass {s t : σ} (h : cond s) (rest : Ends (body s) t) : Ends s t

variable {cond body} {s t : σ}

/-- A loop whose passes decrease a measure ends. -/
theorem exists_ends {μ : σ → ℕ} (hμ : ∀ s, cond s → μ (body s) < μ s) (s : σ) : ∃ t, Ends cond body s t := by
  induction hn : μ s using Nat.strongRecOn generalizing s with
  | ind n ih =>
    by_cases h : cond s
    · obtain ⟨t, ht⟩ := ih (μ (body s)) (hn ▸ hμ s h) (body s) rfl
      exact ⟨t, .pass h ht⟩
    · exact ⟨s, .stop h⟩

/-- The equation of a loop determines its value wherever the loop ends. -/
theorem Ends.eq_of_equation [DecidablePred cond] {f : σ → σ} (hf : ∀ s, f s = if cond s then f (body s) else s)
    (h : Ends cond body s t) : f s = t := by
  induction h with
  | stop h => rw [hf, if_neg h]
  | pass h _ ih => rw [hf, if_pos h, ih]

/-- A loop that always ends computes the only function with its equation. -/
theorem ends_iff [DecidablePred cond] {f : σ → σ} (hf : ∀ s, f s = if cond s then f (body s) else s)
    (hends : ∀ s, ∃ t, Ends cond body s t) : Ends cond body s t ↔ t = f s := by
  constructor
  · intro h
    exact (h.eq_of_equation hf).symm
  · rintro rfl
    obtain ⟨t, ht⟩ := hends s
    rwa [ht.eq_of_equation hf]

end WhileLoop
