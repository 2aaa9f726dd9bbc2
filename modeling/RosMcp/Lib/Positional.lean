import Mathlib.Data.List.Lex
import Mathlib.Order.Fin.Basic
import Mathlib.Data.Nat.Digits.Defs

/-!
# Fixed-width positional notation

A number is written to the base `b` as a list of digits, the most significant first.  The digits are elements of
`Fin b`, so a list of digits has no invalid entry, and its lexicographic order is the one of its entries.

Between lists of one length the lexicographic order is the order of the values (`value_lt_value_iff`), and strictly
monotone letters for the digits do not change it (`map_lt_map_iff`).  `divisions w n` are the digits that `w` divisions
of `n` by the base leave over, the least significant first; they write `n` when `w` digits suffice
(`value_divisions`).
-/

namespace Positional

variable {b : ℕ}

/-- The value of the digits `ds`, the most significant first. -/
def value (ds : List (Fin b)) : ℕ := ds.foldl (fun v d => v * b + d.val) 0

/-- The remainders of `w` divisions of `n` by `b`. -/
def divisions (b : ℕ) [NeZero b] : ℕ → ℕ → List (Fin b)
  | 0, _ => []
  | w + 1, n => Fin.ofNat b n :: divisions b w (n / b)

section Value

variable (ds es : List (Fin b))

theorem value_eq_ofDigits : value ds = Nat.ofDigits b (ds.map Fin.val).reverse := by
  rw [Nat.ofDigits_eq_foldr, List.foldr_reverse, List.foldl_map]
  unfold value
  congr 1
  funext v d
  rw [Nat.cast_id, Nat.add_comm, Nat.mul_comm]

theorem value_append : value (ds ++ es) = value ds * b ^ es.length + value es := by
  simp only [value_eq_ofDigits, List.map_append, List.reverse_append, Nat.ofDigits_append, List.length_reverse,
    List.length_map]
  rw [Nat.add_comm, Nat.mul_comm]

theorem value_cons (d : Fin b) : value (d :: ds) = d * b ^ ds.length + value ds := by
  have h := value_append [d] ds
  simpa [value] using h

theorem value_lt : value ds < b ^ ds.length := by
  induction ds with
  | nil => simp [value]
  | cons d ds ih =>
    rw [value_cons, List.length_cons]
    calc d * b ^ ds.length + value ds < d * b ^ ds.length + b ^ ds.length := Nat.add_lt_add_left ih _
      _ = (d + 1) * b ^ ds.length := by rw [Nat.add_mul, Nat.one_mul]
      _ ≤ b * b ^ ds.length := Nat.mul_le_mul_right _ d.isLt
      _ = b ^ (ds.length + 1) := by rw [Nat.pow_succ, Nat.mul_comm]

variable {ds es}

/-- A larger leading part outweighs all the digits behind it. -/
theorem value_append_lt_value_append {ds' es' : List (Fin b)} (hlen : ds'.length = es'.length)
    (h : value ds < value es) : value (ds ++ ds') < value (es ++ es') := by
  have hds : value ds' < b ^ es'.length := hlen ▸ value_lt ds'
  calc value (ds ++ ds') = value ds * b ^ es'.length + value ds' := by rw [value_append, hlen]
    _ < value ds * b ^ es'.length + b ^ es'.length := Nat.add_lt_add_left hds _
    _ = (value ds + 1) * b ^ es'.length := by rw [Nat.add_mul, Nat.one_mul]
    _ ≤ value es * b ^ es'.length := Nat.mul_le_mul_right _ h
    _ ≤ value (es ++ es') := by
      rw [value_append]
      exact Nat.le_add_right _ _

theorem value_cons_lt_value_cons {d e : Fin b} (h : ds.length = es.length) (hde : d < e) :
    value (d :: ds) < value (e :: es) := by
  have hhead : value [d] < value [e] := by simpa [value] using hde
  exact value_append_lt_value_append h hhead

/-- Lists of one length are ordered as their values. -/
theorem value_lt_value_iff (h : ds.length = es.length) : value ds < value es ↔ ds < es := by
  induction ds generalizing es with
  | nil =>
    have hes : es = [] := List.length_eq_zero_iff.mp h.symm
    simp [hes]
  | cons d ds ih =>
    cases es with
    | nil => simp at h
    | cons e es =>
      have hlen : ds.length = es.length := by simpa using h
      rw [List.cons_lt_cons_iff]
      rcases lt_trichotomy d e with hde | rfl | hde
      · exact iff_of_true (value_cons_lt_value_cons hlen hde) (Or.inl hde)
      · have hcons : value (d :: ds) < value (d :: es) ↔ value ds < value es := by
          rw [value_cons, value_cons, hlen]
          omega
        simp [hcons, ih hlen]
      · apply iff_of_false
        · exact (value_cons_lt_value_cons hlen.symm hde).asymm
        · rintro (hlt | ⟨heq, _⟩)
          · exact hde.asymm hlt
          · exact hde.ne heq.symm

theorem value_injective (h : ds.length = es.length) (heq : value ds = value es) : ds = es := by
  have hds : ¬ ds < es := fun hlt => heq.not_lt ((value_lt_value_iff h).mpr hlt)
  have hes : ¬ es < ds := fun hlt => heq.not_gt ((value_lt_value_iff h.symm).mpr hlt)
  exact le_antisymm (not_lt.mp hes) (not_lt.mp hds)

end Value

section Letters

variable {α β : Type*} [LinearOrder α] [LinearOrder β] {f : α → β}

/-- Writing entries with strictly monotone letters keeps the lexicographic order. -/
theorem map_lt_map_iff (hf : StrictMono f) {xs ys : List α} : xs.map f < ys.map f ↔ xs < ys := by
  induction xs generalizing ys with
  | nil => cases ys <;> simp
  | cons x xs ih =>
    cases ys with
    | nil => simp
    | cons y ys => simp [List.cons_lt_cons_iff, hf.lt_iff_lt, hf.injective.eq_iff, ih]

end Letters

section Divisions

variable [NeZero b] (w n : ℕ)

@[simp] theorem length_divisions : (divisions b w n).length = w := by
  induction w generalizing n with
  | zero => rfl
  | succ w ih => simp [divisions, ih]

/-- `w` divisions keep `n` up to the `w`-th power of the base. -/
theorem value_divisions : value (divisions b w n).reverse = n % b ^ w := by
  induction w generalizing n with
  | zero => simp [divisions, value, Nat.mod_one]
  | succ w ih =>
    rw [divisions, List.reverse_cons, value_append, ih]
    have hlast : value [Fin.ofNat b n] = n % b := by simp [value]
    rw [hlast, List.length_singleton, Nat.pow_one, Nat.mul_comm, Nat.pow_succ, Nat.mul_comm (b ^ w), Nat.mod_mul,
      Nat.add_comm]

end Divisions

end Positional
