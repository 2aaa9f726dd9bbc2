import Mathlib.Analysis.SpecialFunctions.Trigonometric.Basic

/-!
# Steps within a cone

A way is made of steps whose directions all lie between that of a target and an angle `τ` beside it.  So its sum does
(`InCone.add_step`): with the part `a` along the target and the part `b` beside it, the sum is at least `cos τ` of its
length along the target (`InCone.cos_mul_le`).  By the law of cosines this bounds how far from the target the way ends.
-/

open Real

/-- The vector with the part `a` along the target and the part `b` beside it lies within the angle `τ`. -/
structure InCone (τ a b : ℝ) : Prop where
  nonneg : 0 ≤ b
  within : b * cos τ ≤ a * sin τ

variable {τ a b w ψ : ℝ}

theorem inCone_zero (τ : ℝ) : InCone τ 0 0 where
  nonneg := le_refl 0
  within := by rw [zero_mul, zero_mul]

/-- A step in a direction within the angle. -/
theorem InCone.add_step (h : InCone τ a b) (hw : 0 ≤ w) (hψ : 0 ≤ ψ) (hle : ψ ≤ τ) (hτ : τ < π / 2) :
    InCone τ (a + w * cos ψ) (b + w * sin ψ) where
  nonneg := add_nonneg h.nonneg (mul_nonneg hw (sin_nonneg_of_nonneg_of_le_pi hψ (by linarith [pi_pos])))
  within := by
    have hsin : 0 ≤ sin (τ - ψ) := sin_nonneg_of_nonneg_of_le_pi (by linarith) (by linarith [pi_pos])
    rw [sin_sub] at hsin
    calc (b + w * sin ψ) * cos τ = b * cos τ + w * (sin ψ * cos τ) := by ring
      _ ≤ a * sin τ + w * (cos ψ * sin τ) :=
        add_le_add h.within (mul_le_mul_of_nonneg_left (by linarith) hw)
      _ = (a + w * cos ψ) * sin τ := by ring

theorem InCone.along_nonneg (h : InCone τ a b) (hτ : 0 < τ) (hlt : τ < π / 2) : 0 ≤ a := by
  have hsin : 0 < sin τ := sin_pos_of_pos_of_lt_pi hτ (by linarith [pi_pos])
  have hcos : 0 < cos τ := cos_pos_of_mem_Ioo ⟨by linarith, hlt⟩
  exact nonneg_of_mul_nonneg_left ((mul_nonneg h.nonneg hcos.le).trans h.within) hsin

/-- Most of the length is along the target. -/
theorem InCone.cos_mul_le (h : InCone τ a b) (hτ : 0 < τ) (hlt : τ < π / 2) : cos τ * √(a ^ 2 + b ^ 2) ≤ a := by
  have hcos : 0 < cos τ := cos_pos_of_mem_Ioo ⟨by linarith, hlt⟩
  have hsquare : (b * cos τ) ^ 2 ≤ (a * sin τ) ^ 2 := pow_le_pow_left₀ (mul_nonneg h.nonneg hcos.le) h.within 2
  refine le_of_sq_le_sq ?_ (h.along_nonneg hτ hlt)
  rw [mul_pow, sq_sqrt (by positivity)]
  have hone := sin_sq_add_cos_sq τ
  nlinarith

/-- A step makes the way longer by at most its own length. -/
theorem sqrt_add_step_le (a b ψ : ℝ) (hw : 0 ≤ w) :
    √((a + w * cos ψ) ^ 2 + (b + w * sin ψ) ^ 2) ≤ √(a ^ 2 + b ^ 2) + w := by
  have hroot : 0 ≤ √(a ^ 2 + b ^ 2) := sqrt_nonneg _
  have hdot : a * cos ψ + b * sin ψ ≤ √(a ^ 2 + b ^ 2) := by
    refine le_sqrt_of_sq_le ?_
    have hone := sin_sq_add_cos_sq ψ
    nlinarith [sq_nonneg (a * sin ψ - b * cos ψ)]
  refine sqrt_le_iff.2 ⟨add_nonneg hroot hw, ?_⟩
  have hone := sin_sq_add_cos_sq ψ
  calc (a + w * cos ψ) ^ 2 + (b + w * sin ψ) ^ 2
      = a ^ 2 + b ^ 2 + 2 * w * (a * cos ψ + b * sin ψ) + w ^ 2 * (sin ψ ^ 2 + cos ψ ^ 2) := by ring
    _ ≤ a ^ 2 + b ^ 2 + 2 * w * √(a ^ 2 + b ^ 2) + w ^ 2 * 1 := by
      rw [hone]
      linarith [mul_le_mul_of_nonneg_left hdot (by linarith : 0 ≤ 2 * w)]
    _ = (√(a ^ 2 + b ^ 2) + w) ^ 2 := by
      rw [add_sq, sq_sqrt (by positivity)]
      ring

/-- The law of cosines: how far the end of the way is from the point at the distance `d` along the target. -/
theorem InCone.distance_sq_le (h : InCone τ a b) (hτ : 0 < τ) (hlt : τ < π / 2) {d : ℝ} (hd : 0 ≤ d) :
    (a - d) ^ 2 + b ^ 2 ≤
      (√(a ^ 2 + b ^ 2) - d) ^ 2 + 2 * √(a ^ 2 + b ^ 2) * d * (1 - cos τ) := by
  have hlength : √(a ^ 2 + b ^ 2) ^ 2 = a ^ 2 + b ^ 2 := sq_sqrt (by positivity)
  have halong := mul_le_mul_of_nonneg_left (h.cos_mul_le hτ hlt) hd
  calc (a - d) ^ 2 + b ^ 2 = a ^ 2 + b ^ 2 - 2 * (d * a) + d ^ 2 := by ring
    _ ≤ √(a ^ 2 + b ^ 2) ^ 2 - 2 * (d * (cos τ * √(a ^ 2 + b ^ 2))) + d ^ 2 := by
      rw [hlength]
      linarith
    _ = (√(a ^ 2 + b ^ 2) - d) ^ 2 + 2 * √(a ^ 2 + b ^ 2) * d * (1 - cos τ) := by ring
