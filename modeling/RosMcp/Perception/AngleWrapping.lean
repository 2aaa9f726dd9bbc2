import RosMcp.Lib.While
import RosMcp.Perception.Detection

/-!
# Angle wrapping (`normalize_angle`, `angular_difference`, `_angular_delta`)

Both functions run the same two loops: the first takes off full turns while the angle is above `π`, the second adds
full turns while it is not above `-π`.  Each loop ends, since a pass brings the angle a full turn closer to its bound,
and they end with the value of `normalizeAngle` (`wrapLoops_iff`).  That is the only representative of the angle in
`(-π, π]` (`normalizeAngle_eq_iff`), and no angle of the same direction is smaller (`abs_le_of_modEq`).
-/

namespace RosMcp

open Real WhileLoop

/-! ### The loops -/

/-- The two loops, one after the other, started with `a` end with `b`. -/
def WrapLoops (a b : ℝ) : Prop :=
  ∃ m, Ends (fun angleRad => π < angleRad) (fun angleRad => angleRad - ((2 : ℤ) : ℝ) * π) a m ∧
    Ends (fun angleRad => angleRad ≤ -π) (fun angleRad => angleRad + ((2 : ℤ) : ℝ) * π) m b

open Classical in
/-- `subTurns` is what the first loop computes. -/
theorem subLoop_iff {a b : ℝ} :
    Ends (fun angleRad => π < angleRad) (fun angleRad => angleRad - 2 * π) a b ↔ b = subTurns a := by
  apply ends_iff
  · intro angleRad
    rw [subTurns]
  · -- the measure counts the full turns above `π`
    apply exists_ends (μ := fun angleRad => ⌈(angleRad - π) / (2 * π)⌉₊)
    intro angleRad h
    have hlt := turns_lt (a := angleRad - π) (by linarith)
    rwa [show angleRad - 2 * π - π = angleRad - π - 2 * π by ring]

open Classical in
/-- `addTurns` is what the second loop computes. -/
theorem addLoop_iff {a b : ℝ} :
    Ends (fun angleRad => angleRad ≤ -π) (fun angleRad => angleRad + 2 * π) a b ↔ b = addTurns a := by
  apply ends_iff
  · intro angleRad
    rw [addTurns]
  · apply exists_ends (μ := fun angleRad => ⌈(π - angleRad) / (2 * π)⌉₊)
    intro angleRad h
    have hπ := pi_pos
    have hlt := turns_lt (a := π - angleRad) (by linarith)
    rwa [show π - (angleRad + 2 * π) = π - angleRad - 2 * π by ring]

private theorem wrapLoops_iff {a b : ℝ} : WrapLoops a b ↔ b = normalizeAngle a := by
  unfold WrapLoops
  simp only [Int.cast_ofNat]
  constructor
  · rintro ⟨m, hsub, hadd⟩
    obtain rfl := subLoop_iff.1 hsub
    exact addLoop_iff.1 hadd
  · rintro rfl
    exact ⟨subTurns a, subLoop_iff.2 rfl, addLoop_iff.2 rfl⟩

/-! ### The representative -/

/-- `normalizeAngle` gives the only representative of an angle in `(-π, π]`. -/
theorem normalizeAngle_eq_iff {a b : ℝ} :
    normalizeAngle a = b ↔ b ∈ Set.Ioc (-π) π ∧ b ≡ a [PMOD 2 * π] := by
  rw [normalizeAngle_eq_toIocMod, toIocMod_eq_iff, show -π + 2 * π = π by ring, AddCommGroup.modEq_iff_eq_add_zsmul]

theorem normalizeAngle_modEq (a : ℝ) : normalizeAngle a ≡ a [PMOD 2 * π] := (normalizeAngle_eq_iff.1 rfl).2

/-- An angle in `(-π, π]` is the smallest one of its direction. -/
private theorem abs_le_of_modEq {a b : ℝ} (ha : a ∈ Set.Ioc (-π) π) (h : a ≡ b [PMOD 2 * π]) : |a| ≤ |b| := by
  obtain ⟨n, rfl⟩ := AddCommGroup.modEq_iff_eq_add_zsmul.1 h
  obtain ⟨hlow, hhigh⟩ := ha
  have hπ := pi_pos
  have hle : |a| ≤ π := abs_le.2 ⟨hlow.le, hhigh⟩
  rcases lt_trichotomy n 0 with hn | rfl | hn
  · have hturn : (n : ℝ) ≤ -1 := by exact_mod_cast Int.le_sub_one_of_lt hn
    have hfar : a + n • (2 * π) ≤ -π := by
      rw [zsmul_eq_mul]
      nlinarith
    calc |a| ≤ π := hle
      _ ≤ -(a + n • (2 * π)) := by linarith
      _ ≤ |a + n • (2 * π)| := neg_le_abs _
  · rw [zero_smul, add_zero]
  · have hturn : (1 : ℝ) ≤ n := by exact_mod_cast hn
    have hfar : π ≤ a + n • (2 * π) := by
      rw [zsmul_eq_mul]
      nlinarith
    calc |a| ≤ π := hle
      _ ≤ a + n • (2 * π) := hfar
      _ ≤ |a + n • (2 * π)| := le_abs_self _

/-- The difference of two angles is the smallest one of its direction. -/
private theorem abs_angularDifference_le {t c x : ℝ} (h : x ≡ t - c [PMOD 2 * π]) : |angularDifference t c| ≤ |x| := by
  have hmod : angularDifference t c ≡ x [PMOD 2 * π] := (normalizeAngle_modEq (t - c)).trans h.symm
  exact abs_le_of_modEq (normalizeAngle_mem (t - c)) hmod

/-- A difference of less than half a turn is found again behind any number of full turns. -/
private theorem angularDifference_add_turns {d : ℝ} (c : ℝ) (hd : |d| < π) (n : ℤ) :
    angularDifference (c + d + 2 * π * n) c = d := by
  obtain ⟨hlow, hhigh⟩ := abs_lt.1 hd
  rw [angularDifference, show c + d + 2 * π * n - c = d + n * (2 * π) by ring, normalizeAngle_add_turns]
  exact normalizeAngle_of_mem hlow hhigh.le

/-- The loops end with the same value in both functions: the representative of the angle in `(-π, π]`.  So a difference
of angles is the smallest one of its direction, and one of less than half a turn is exact. -/
theorem angles_wrap :
    (∀ a : ℝ, (∃ b, WrapLoops a b) ∧
      ∀ b, WrapLoops a b → normalizeAngle a = b ∧ angularDelta (.fin a) (.fin 0) = .fin b ∧
        ∀ x, x ∈ Set.Ioc (-π) π ∧ x ≡ a [PMOD 2 * π] ↔ x = b) ∧
    (∀ t c : ℝ, angularDifference t c ≡ t - c [PMOD 2 * π] ∧
      ∀ x, x ≡ t - c [PMOD 2 * π] → |angularDifference t c| ≤ |x|) ∧
    ∀ c d : ℝ, |d| < π → ∀ n : ℤ, angularDifference (c + d + 2 * π * n) c = d := by
  refine ⟨fun a => ⟨⟨normalizeAngle a, wrapLoops_iff.2 rfl⟩, ?_⟩, ?_, ?_⟩
  · intro b hb
    obtain rfl := wrapLoops_iff.1 hb
    refine ⟨rfl, ?_, fun x => ?_⟩
    · rw [angularDelta_fin, sub_zero]
    · rw [← normalizeAngle_eq_iff]
      exact eq_comm
  · intro t c
    exact ⟨normalizeAngle_modEq (t - c), fun x hx => abs_angularDifference_le hx⟩
  · intro c d hd n
    exact angularDifference_add_turns c hd n

/-- A difference of `1` behind three full turns. -/
theorem angles_wrap_three_turns : angularDifference (0 + 1 + 2 * π * (3 : ℤ)) 0 = 1 :=
  angles_wrap.2.2 0 1 (by rw [abs_one]; linarith [two_le_pi]) 3

end RosMcp
