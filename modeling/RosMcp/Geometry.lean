import Mathlib.Algebra.Order.ToIntervalMod
import RosMcp.Lib.PyFloat
import RosMcp.Contracts.Core

/-!
# Geometry helpers (`geometry.py`)

`euclideanDistance`, `quaternionToYaw` and `projectTranslation` are written for any number type with the functions
of `math`, since the policy engine sees Python floats and the motion controller is read in exact arithmetic.
`normalizeAngle` is the pair of `while` loops of the source over the reals; each loop is a recursion that ends
because the angle is moved by a full turn towards the half-open interval `(-π, π]`.
-/

namespace RosMcp

variable {N : Type} [IntCast N] [Add N] [Sub N] [Mul N] [PyMath N]

structure Quaternion (N : Type) where
  x : N
  y : N
  z : N
  w : N

/-- `quaternion_to_yaw` -/
def quaternionToYaw (q : Quaternion N) : N :=
  let sinyCosp := ((2 : ℤ) : N) * (q.w * q.z + q.x * q.y)
  let cosyCosp := ((1 : ℤ) : N) - ((2 : ℤ) : N) * (q.y * q.y + q.z * q.z)
  PyMath.atan2 sinyCosp cosyCosp

/-- `euclidean_distance` -/
def euclideanDistance (x₁ y₁ x₂ y₂ : N) : N := PyMath.hypot (x₂ - x₁) (y₂ - y₁)

/-- `_TRANSLATION_LOCAL_DELTA`: the (forward, lateral) unit displacement in the robot's own frame. -/
def translationLocalDelta : Direction → Option (ℤ × ℤ)
  | .forward => some (1, 0)
  | .backward => some (-1, 0)
  | .left => some (0, 1)
  | .right => some (0, -1)
  | .rotateLeft => none
  | .rotateRight => none

/-- `project_translation`; a direction that is not in the table is a `KeyError`. -/
def projectTranslation (direction : Direction) (distanceM x y yaw : N) : Except PyException (N × N) :=
  match translationLocalDelta direction with
  | none => .error ⟨.keyError, "direction"⟩
  | some (forward, lateral) => do
    let dxLocal := (forward : N) * distanceM
    let dyLocal := (lateral : N) * distanceM
    let c ← PyMath.cos yaw
    let s ← PyMath.sin yaw
    let dxWorld := dxLocal * c - dyLocal * s
    let dyWorld := dxLocal * s + dyLocal * c
    return (x + dxWorld, y + dyWorld)

/-! ### Angles -/

open Real

/-- How many full turns above `π` the angle is, rounded up. -/
theorem turns_lt {a : ℝ} (h : 0 < a) : ⌈(a - 2 * π) / (2 * π)⌉₊ < ⌈a / (2 * π)⌉₊ := by
  have hπ : 0 < 2 * π := by positivity
  have hq : 0 < a / (2 * π) := div_pos h hπ
  have e : (a - 2 * π) / (2 * π) = a / (2 * π) - 1 := by field_simp
  rw [e, Nat.ceil_sub_one]
  have := Nat.ceil_pos.2 hq
  omega

/-- `while angle_rad > math.pi: angle_rad -= 2.0 * math.pi` -/
noncomputable def subTurns (angleRad : ℝ) : ℝ :=
  if π < angleRad then subTurns (angleRad - 2 * π) else angleRad
termination_by ⌈(angleRad - π) / (2 * π)⌉₊
decreasing_by
  have h := turns_lt (a := angleRad - π) (by linarith)
  rwa [show angleRad - 2 * π - π = angleRad - π - 2 * π by ring]

/-- `while angle_rad <= -math.pi: angle_rad += 2.0 * math.pi` -/
noncomputable def addTurns (angleRad : ℝ) : ℝ :=
  if angleRad ≤ -π then addTurns (angleRad + 2 * π) else angleRad
termination_by ⌈(π - angleRad) / (2 * π)⌉₊
decreasing_by
  have h := turns_lt (a := π - angleRad) (by have := pi_pos; linarith)
  rwa [show π - (angleRad + 2 * π) = π - angleRad - 2 * π by ring]

/-- `math.radians` -/
noncomputable def radians (deg : ℝ) : ℝ := deg * (π / 180)

/-- `math.pi / 2` -/
noncomputable def quarterTurn : ℝ := π / 2

/-- `normalize_angle` -/
noncomputable def normalizeAngle (angleRad : ℝ) : ℝ := addTurns (subTurns angleRad)

/-- `angular_difference` -/
noncomputable def angularDifference (targetRad currentRad : ℝ) : ℝ := normalizeAngle (targetRad - currentRad)

/-- An angle in `(-π, π]` is left alone. -/
theorem normalizeAngle_of_mem {a : ℝ} (h₁ : -π < a) (h₂ : a ≤ π) : normalizeAngle a = a := by
  have hs : subTurns a = a := by
    rw [subTurns]
    exact if_neg (not_lt.2 h₂)
  rw [normalizeAngle, hs, addTurns]
  exact if_neg (not_le.2 h₁)

theorem angularDifference_self (a : ℝ) : angularDifference a a = 0 := by
  have := pi_pos
  rw [angularDifference, sub_self]
  exact normalizeAngle_of_mem (by linarith) (by linarith)

/-- The loops take the angle to `(-π, π]` by full turns. -/
theorem subTurns_spec (a : ℝ) : subTurns a ≤ π ∧ ∃ n : ℤ, a = subTurns a + n • (2 * π) := by
  induction a using subTurns.induct with
  | case1 a h ih =>
    obtain ⟨hle, n, hn⟩ := ih
    rw [subTurns, if_pos h]
    refine ⟨hle, n + 1, ?_⟩
    rw [add_smul, one_smul, ← add_assoc, ← hn, sub_add_cancel]
  | case2 a h =>
    rw [subTurns, if_neg h]
    exact ⟨not_lt.1 h, 0, by simp⟩

private theorem addTurns_spec (a : ℝ) (ha : a ≤ π) : addTurns a ∈ Set.Ioc (-π) π ∧ ∃ n : ℤ, a = addTurns a + n •
    (2 * π) := by
  induction a using addTurns.induct with
  | case1 a h ih =>
    obtain ⟨hmem, n, hn⟩ := ih (by linarith)
    rw [addTurns, if_pos h]
    refine ⟨hmem, n - 1, ?_⟩
    rw [sub_smul, one_smul, add_sub_assoc', ← hn, add_sub_cancel_right]
  | case2 a h =>
    rw [addTurns, if_neg h]
    exact ⟨⟨not_le.1 h, ha⟩, 0, by simp⟩

theorem normalizeAngle_eq_toIocMod (a : ℝ) : normalizeAngle a = toIocMod two_pi_pos (-π) a := by
  obtain ⟨hle, n, hn⟩ := subTurns_spec a
  obtain ⟨hmem, k, hk⟩ := addTurns_spec _ hle
  symm
  rw [toIocMod_eq_iff]
  refine ⟨?_, k + n, ?_⟩
  · rw [show -π + 2 * π = π by ring]
    exact hmem
  · rw [add_smul, ← add_assoc, normalizeAngle, ← hk, ← hn]

/-- How many full turns `normalizeAngle` takes off. -/
noncomputable def fullTurns (a : ℝ) : ℤ := toIocDiv two_pi_pos (-π) a

theorem normalizeAngle_eq_sub (a : ℝ) : normalizeAngle a = a - fullTurns a * (2 * π) := by
  rw [normalizeAngle_eq_toIocMod, fullTurns, ← zsmul_eq_mul]
  rfl

theorem normalizeAngle_mem (a : ℝ) : normalizeAngle a ∈ Set.Ioc (-π) π := by
  have := toIocMod_mem_Ioc two_pi_pos (-π) a
  rwa [← normalizeAngle_eq_toIocMod, show -π + 2 * π = π by ring] at this

theorem fullTurns_eq_zero_iff {a : ℝ} : fullTurns a = 0 ↔ a ∈ Set.Ioc (-π) π := by
  constructor
  · intro h
    have hmem := normalizeAngle_mem a
    rw [normalizeAngle_eq_sub, h] at hmem
    simpa using hmem
  · intro h
    refine toIocDiv_eq_of_sub_zsmul_mem_Ioc two_pi_pos ?_
    rw [zero_smul, sub_zero, show -π + 2 * π = π by ring]
    exact h

/-- `normalizeAngle` depends only on the angle up to full turns. -/
theorem normalizeAngle_add_turns (a : ℝ) (n : ℤ) : normalizeAngle (a + n * (2 * π)) = normalizeAngle a := by
  rw [normalizeAngle_eq_toIocMod, normalizeAngle_eq_toIocMod, ← zsmul_eq_mul, toIocMod_add_zsmul]

theorem fullTurns_add_turns (a : ℝ) (n : ℤ) : fullTurns (a + n * (2 * π)) = fullTurns a + n := by
  unfold fullTurns
  rw [← zsmul_eq_mul, toIocDiv_add_zsmul]

/-! ### Rotations -/

/-- A rotation keeps lengths. -/
theorem sqrt_rotate (x y θ : ℝ) :
    √((x * Real.cos θ - y * Real.sin θ) ^ 2 + (x * Real.sin θ + y * Real.cos θ) ^ 2) = √(x ^ 2 + y ^ 2) := by
  congr 1
  linear_combination (x ^ 2 + y ^ 2) * Real.sin_sq_add_cos_sq θ

/-- The length of a vector that is given by its direction. -/
theorem sqrt_polar {d : ℝ} (h : 0 ≤ d) (θ : ℝ) : √((d * Real.cos θ) ^ 2 + (d * Real.sin θ) ^ 2) = d := by
  have hsq : (d * Real.cos θ) ^ 2 + (d * Real.sin θ) ^ 2 = d ^ 2 := by
    linear_combination d ^ 2 * Real.sin_sq_add_cos_sq θ
  rw [hsq, Real.sqrt_sq h]

/-! ### Headings -/

/-- `yaw_to_quaternion` -/
noncomputable def yawToQuaternion (yaw : ℝ) : Quaternion ℝ := ⟨0, 0, Real.sin (yaw / 2), Real.cos (yaw / 2)⟩

/-- The yaw of a quaternion that was made from an angle in `(-π, π]`. -/
theorem quaternionToYaw_yawToQuaternion {a : ℝ} (h : a ∈ Set.Ioc (-π) π) :
    quaternionToYaw (yawToQuaternion a) = a := by
  have hsin : Real.sin a = 2 * (Real.cos (a / 2) * Real.sin (a / 2)) := by
    have hdouble := Real.sin_two_mul (a / 2)
    rw [mul_div_cancel₀ a two_ne_zero] at hdouble
    rw [hdouble]
    ring
  have hcos : Real.cos a = 1 - 2 * (Real.sin (a / 2) * Real.sin (a / 2)) := by
    have hdouble := Real.cos_two_mul_eq_one_sub (a / 2)
    rw [mul_div_cancel₀ a two_ne_zero] at hdouble
    rw [hdouble]
    ring
  have hyaw : quaternionToYaw (yawToQuaternion a) = realAtan2 (Real.sin a) (Real.cos a) := by
    rw [hsin, hcos]
    simp [quaternionToYaw, yawToQuaternion, PyMath.atan2]
  have hpoint : (⟨Real.cos a, Real.sin a⟩ : ℂ) = Complex.cos a + Complex.sin a * Complex.I := by
    apply Complex.ext <;> simp [← Complex.ofReal_cos, ← Complex.ofReal_sin]
  rw [hyaw, realAtan2, hpoint, Complex.arg_cos_add_sin_mul_I h]

end RosMcp
