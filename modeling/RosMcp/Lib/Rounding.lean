import Mathlib.Algebra.Order.Floor.Ring
import Mathlib.Data.Rat.Floor
import Mathlib.Tactic.FieldSimp
import Mathlib.Tactic.Linarith

/-!
# Rounding to integers and to floats

`roundHalfEven` is the nearest integer, and the even one of two; it is at most half away (`abs_roundHalfEven_sub_le`),
and it does not cross an integer (`roundHalfEven_le`).

`Binary64 fl` is what is used of rounding to a double: it is monotone, exact on the integers that a double holds, and
has a relative error of at most `unitRoundoff` away from underflow and overflow.  A product with a rounded quotient
below one is then at most the other factor (`mul_div_le`), and has twice the relative error (`mul_div_error`).
-/

/-! ### To integers -/

/-- `round(x)` -/
def roundHalfEven (x : ℚ) : ℤ :=
  let k := ⌊x⌋
  if x - k < k + 1 - x then k
  else if k + 1 - x < x - k then k + 1
  else if k % 2 = 0 then k else k + 1

theorem abs_roundHalfEven_sub_le (x : ℚ) : |(roundHalfEven x : ℚ) - x| ≤ 1 / 2 := by
  have hfloor := Int.floor_le x
  have hnext := Int.lt_floor_add_one x
  rw [abs_le]
  unfold roundHalfEven
  dsimp only
  split
  · constructor <;> linarith
  · split
    · push_cast
      constructor <;> linarith
    · split
      · constructor <;> linarith
      · push_cast
        constructor <;> linarith

theorem roundHalfEven_intCast (n : ℤ) : roundHalfEven n = n := by
  unfold roundHalfEven
  rw [Int.floor_intCast]
  exact if_pos (by linarith)

/-- A number that is at most an integer is rounded to at most this integer. -/
theorem roundHalfEven_le {x : ℚ} {n : ℤ} (h : x ≤ n) : roundHalfEven x ≤ n := by
  rcases h.lt_or_eq with hlt | rfl
  · have hfloor : ⌊x⌋ < n := Int.floor_lt.2 hlt
    unfold roundHalfEven
    dsimp only
    split
    · omega
    · split
      · omega
      · split <;> omega
  · rw [roundHalfEven_intCast]

/-! ### To floats -/

def unitRoundoff : ℚ := 1 / ((2 ^ 53 : ℕ) : ℚ)

structure Binary64 (fl : ℚ → ℚ) : Prop where
  mono : Monotone fl
  intCast : ∀ n : ℤ, |n| ≤ 2 ^ 53 → fl n = n
  error : ∀ x, 1 / 2 ^ 64 ≤ |x| → |x| ≤ 2 ^ 64 → |fl x - x| ≤ unitRoundoff * |x|

theorem unitRoundoff_pos : 0 < unitRoundoff := by norm_num [unitRoundoff]

/-- Exact arithmetic rounds nothing. -/
theorem binary64_id : Binary64 id where
  mono := monotone_id
  intCast _ _ := rfl
  error x _ _ := by
    rw [id_eq, sub_self, abs_zero]
    exact mul_nonneg unitRoundoff_pos.le (abs_nonneg x)

namespace Binary64

variable {fl : ℚ → ℚ} {m n k : ℤ}

/-- A number times a rounded quotient below one is at most the number. -/
theorem mul_div_le (h : Binary64 fl) (hk : 0 ≤ k) (hk' : k ≤ 2 ^ 53) (hmn : m ≤ n) (hn : 0 < n) :
    fl (k * fl (m / n)) ≤ k := by
  have hn' : (0 : ℚ) < n := by exact_mod_cast hn
  have hquotient : fl ((m : ℚ) / n) ≤ 1 := by
    have hle : (m : ℚ) / n ≤ ((1 : ℤ) : ℚ) := by
      rw [div_le_iff₀ hn']
      push_cast
      rw [one_mul]
      exact_mod_cast hmn
    have hone := h.intCast 1 (by norm_num)
    have hmono := h.mono hle
    rw [hone] at hmono
    exact_mod_cast hmono
  calc fl (k * fl (m / n)) ≤ fl k := by
        refine h.mono ?_
        have hk0 : (0 : ℚ) ≤ k := by exact_mod_cast hk
        exact mul_le_of_le_one_right hk0 hquotient
    _ = k := h.intCast k (by rwa [abs_of_nonneg hk])

/-- The relative error of a number times a rounded quotient. -/
theorem mul_div_error (h : Binary64 fl) (hk : 0 < k) (hk' : k ≤ 2 ^ 32) (hm : 0 < m) (hmn : m ≤ n) (hn : n ≤ 2 ^ 32) :
    |fl (k * fl (m / n)) - k * (m / n)| ≤ (2 * unitRoundoff + unitRoundoff ^ 2) * (k * (m / n)) := by
  have hm' : (1 : ℚ) ≤ m := by exact_mod_cast hm
  have hn' : (0 : ℚ) < n := by exact_mod_cast hm.trans_le hmn
  have hk1 : (1 : ℚ) ≤ k := by exact_mod_cast hk
  have hk2 : (k : ℚ) ≤ 2 ^ 32 := by exact_mod_cast hk'
  have hn2 : (n : ℚ) ≤ 2 ^ 32 := by exact_mod_cast hn
  set q : ℚ := m / n with hq
  have hq0 : 1 / 2 ^ 32 ≤ q := by
    rw [hq, div_le_div_iff₀ (by norm_num) hn']
    nlinarith
  have hq1 : q ≤ 1 := by
    rw [hq, div_le_one hn']
    exact_mod_cast hmn
  have hqabs : |q| = q := abs_of_pos (lt_of_lt_of_le (by norm_num) hq0)
  have hquotient := h.error q (by rw [hqabs]; exact le_trans (by norm_num) hq0) (by rw [hqabs]; linarith)
  rw [hqabs] at hquotient
  have hu0 := unitRoundoff_pos
  have hu1 : unitRoundoff ≤ 1 / 2 := by norm_num [unitRoundoff]
  obtain ⟨hlow, hhigh⟩ := abs_le.1 hquotient
  -- the rounded quotient is not far from the quotient, so neither is the product
  have hr0 : q / 2 ≤ fl q := by nlinarith
  have hr1 : fl q ≤ 2 := by nlinarith
  have hproduct0 : 1 / 2 ^ 64 ≤ k * fl q := by
    calc (1 : ℚ) / 2 ^ 64 ≤ 1 * (q / 2) := by linarith
      _ ≤ k * fl q := mul_le_mul hk1 hr0 (by linarith) (by linarith)
  have hproduct1 : k * fl q ≤ 2 ^ 64 := by
    calc k * fl q ≤ 2 ^ 32 * 2 := mul_le_mul hk2 hr1 (by linarith) (by norm_num)
      _ ≤ 2 ^ 64 := by norm_num
  have hpabs : |k * fl q| = k * fl q := abs_of_pos (lt_of_lt_of_le (by norm_num) hproduct0)
  have hround := h.error (k * fl q) (by rwa [hpabs]) (by rwa [hpabs])
  rw [hpabs] at hround
  calc |fl (k * fl q) - k * q| = |(fl (k * fl q) - k * fl q) + k * (fl q - q)| := by ring_nf
    _ ≤ |fl (k * fl q) - k * fl q| + |k * (fl q - q)| := abs_add_le _ _
    _ ≤ unitRoundoff * (k * fl q) + k * (unitRoundoff * q) := by
        refine add_le_add hround ?_
        rw [abs_mul, abs_of_pos (lt_of_lt_of_le one_pos hk1)]
        exact mul_le_mul_of_nonneg_left hquotient (by linarith)
    _ ≤ unitRoundoff * (k * (q + unitRoundoff * q)) + k * (unitRoundoff * q) := by
        refine add_le_add ?_ le_rfl
        refine mul_le_mul_of_nonneg_left (mul_le_mul_of_nonneg_left (by linarith) (by linarith)) hu0.le
    _ = (2 * unitRoundoff + unitRoundoff ^ 2) * (k * q) := by ring

end Binary64
