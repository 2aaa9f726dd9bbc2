import Mathlib.Analysis.SpecialFunctions.Complex.Arg

/-!
# Python numbers

`PyFloat α` is a Python float whose finite values are the elements of an ordered field `α` (no rounding and no
overflow), together with `inf`, `-inf` and `nan`.  Every ordering comparison with `nan` is false, `min` keeps its first
argument unless the second is strictly smaller, and arithmetic follows IEEE 754 on the special values.

`PyMath N` collects the functions of Python's `math` module used on a number type `N`; it has an instance for exact
real arithmetic and one for Python floats with real finite values.  `math.cos` and `math.sin` raise on infinities.
-/

/-- The classes of exceptions that the modelled code tells apart by name. -/
inductive ExceptionKind
  | assertionError | attributeError | keyError | overflowError | typeError | valueError | runtimeError
  deriving DecidableEq, Repr

/-- A Python exception (a subclass of `Exception`), with `str(exc)`. -/
structure PyException where
  kind : ExceptionKind
  message : String
  deriving DecidableEq, Repr

/-- A computation that goes on after another has succeeded. -/
theorem bind_returns_iff {ε α β : Type} {x : Except ε α} {f : α → Except ε β} {b : β} :
    (x >>= f) = .ok b ↔ ∃ a, x = .ok a ∧ f a = .ok b := by
  cases x with
  | error e => simp [bind, Except.bind]
  | ok a => simp [bind, Except.bind]

/-- A Python float with finite values in `α`. -/
inductive PyFloat (α : Type*)
  | fin (x : α)
  | posInf
  | negInf
  | nan
  deriving DecidableEq, Repr

namespace PyFloat

variable {α : Type*}

/-! ### Comparisons -/

/-- `a < b` -/
protected def Lt [LT α] : PyFloat α → PyFloat α → Prop
  | fin x, fin y => x < y
  | fin _, posInf => True
  | negInf, fin _ => True
  | negInf, posInf => True
  | _, _ => False

/-- `a <= b` -/
protected def Le [LE α] : PyFloat α → PyFloat α → Prop
  | fin x, fin y => x ≤ y
  | fin _, posInf => True
  | negInf, fin _ => True
  | negInf, posInf => True
  | negInf, negInf => True
  | posInf, posInf => True
  | _, _ => False

instance [LT α] : LT (PyFloat α) := ⟨PyFloat.Lt⟩
instance [LE α] : LE (PyFloat α) := ⟨PyFloat.Le⟩

section Lt

variable [LT α] {x y : α} {a : PyFloat α}

@[simp] theorem fin_lt_fin : fin x < fin y ↔ x < y := Iff.rfl
@[simp] theorem fin_lt_posInf : fin x < posInf := trivial
@[simp] theorem negInf_lt_fin : negInf < fin x := trivial
@[simp] theorem negInf_lt_posInf : (negInf : PyFloat α) < posInf := trivial
@[simp] theorem not_posInf_lt : ¬ posInf < a := by cases a <;> exact not_false
@[simp] theorem not_lt_negInf : ¬ a < negInf := by cases a <;> exact not_false
@[simp] theorem not_nan_lt : ¬ nan < a := by cases a <;> exact not_false
@[simp] theorem not_lt_nan : ¬ a < nan := by cases a <;> exact not_false

end Lt

section Le

variable [LE α] {x y : α} {a : PyFloat α}

@[simp] theorem fin_le_fin : fin x ≤ fin y ↔ x ≤ y := Iff.rfl
@[simp] theorem fin_le_posInf : fin x ≤ posInf := trivial
@[simp] theorem negInf_le_fin : negInf ≤ fin x := trivial
@[simp] theorem negInf_le_posInf : (negInf : PyFloat α) ≤ posInf := trivial
@[simp] theorem negInf_le_negInf : (negInf : PyFloat α) ≤ negInf := trivial
@[simp] theorem posInf_le_posInf : (posInf : PyFloat α) ≤ posInf := trivial
@[simp] theorem not_posInf_le_fin : ¬ posInf ≤ fin x := not_false
@[simp] theorem not_posInf_le_negInf : ¬ (posInf : PyFloat α) ≤ negInf := not_false
@[simp] theorem not_fin_le_negInf : ¬ fin x ≤ negInf := not_false
@[simp] theorem not_nan_le : ¬ nan ≤ a := by cases a <;> exact not_false
@[simp] theorem not_le_nan : ¬ a ≤ nan := by cases a <;> exact not_false

end Le

instance [LT α] [DecidableLT α] : DecidableLT (PyFloat α)
  | fin x, fin y => inferInstanceAs (Decidable (x < y))
  | fin _, posInf => isTrue trivial
  | fin _, negInf => isFalse not_false
  | fin _, nan => isFalse not_false
  | posInf, fin _ => isFalse not_false
  | posInf, posInf => isFalse not_false
  | posInf, negInf => isFalse not_false
  | posInf, nan => isFalse not_false
  | negInf, fin _ => isTrue trivial
  | negInf, posInf => isTrue trivial
  | negInf, negInf => isFalse not_false
  | negInf, nan => isFalse not_false
  | nan, fin _ => isFalse not_false
  | nan, posInf => isFalse not_false
  | nan, negInf => isFalse not_false
  | nan, nan => isFalse not_false

instance [LE α] [DecidableLE α] : DecidableLE (PyFloat α)
  | fin x, fin y => inferInstanceAs (Decidable (x ≤ y))
  | fin _, posInf => isTrue trivial
  | fin _, negInf => isFalse not_false
  | fin _, nan => isFalse not_false
  | posInf, fin _ => isFalse not_false
  | posInf, posInf => isTrue trivial
  | posInf, negInf => isFalse not_false
  | posInf, nan => isFalse not_false
  | negInf, fin _ => isTrue trivial
  | negInf, posInf => isTrue trivial
  | negInf, negInf => isTrue trivial
  | negInf, nan => isFalse not_false
  | nan, fin _ => isFalse not_false
  | nan, posInf => isFalse not_false
  | nan, negInf => isFalse not_false
  | nan, nan => isFalse not_false

/-- `math.isnan` -/
def isNan : PyFloat α → Bool
  | nan => true
  | _ => false

/-- `math.isinf` -/
def isInf : PyFloat α → Bool
  | posInf | negInf => true
  | _ => false

/-- `math.isfinite` -/
def IsFinite (a : PyFloat α) : Prop := ∃ x, a = fin x

@[simp] theorem isFinite_fin (x : α) : (fin x).IsFinite := ⟨x, rfl⟩
@[simp] theorem not_isFinite_posInf : ¬ (posInf : PyFloat α).IsFinite := by rintro ⟨x, ⟨⟩⟩
@[simp] theorem not_isFinite_negInf : ¬ (negInf : PyFloat α).IsFinite := by rintro ⟨x, ⟨⟩⟩
@[simp] theorem not_isFinite_nan : ¬ (nan : PyFloat α).IsFinite := by rintro ⟨x, ⟨⟩⟩

theorem isNan_iff {a : PyFloat α} : a.isNan = true ↔ a = nan := by
  cases a <;> simp [isNan]

/-- What is neither `nan` nor infinite is finite. -/
theorem isFinite_of_not {a : PyFloat α} (hn : ¬ a.isNan = true) (hi : ¬ a.isInf = true) : a.IsFinite := by
  cases a with
  | fin x => exact isFinite_fin x
  | posInf | negInf => exact absurd rfl hi
  | nan => exact absurd rfl hn

/-- Outside `nan`, the two comparisons are complementary, as for the numbers themselves. -/
theorem not_lt_iff_le [LinearOrder α] {a b : PyFloat α} (ha : a ≠ nan) (hb : b ≠ nan) :
    ¬ a < b ↔ b ≤ a := by
  cases a <;> cases b <;> simp_all

/-- The comparisons exclude each other, also with `nan`. -/
theorem not_lt_of_le [Preorder α] {a b : PyFloat α} (h : a ≤ b) : ¬ b < a := by
  cases a <;> cases b <;> simp_all
  exact not_lt_of_ge h

/-- The comparisons are transitive; no comparison with `nan` holds, so none can be an intermediate link. -/
protected theorem le_trans [Preorder α] {a b c : PyFloat α} (hab : a ≤ b) (hbc : b ≤ c) : a ≤ c := by
  cases a <;> cases b <;> cases c <;> simp_all
  exact le_trans hab hbc

protected theorem lt_of_le_of_lt [Preorder α] {a b c : PyFloat α} (hab : a ≤ b) (hbc : b < c) : a < c := by
  cases a <;> cases b <;> cases c <;> simp_all
  exact lt_of_le_of_lt hab hbc

protected theorem le_of_lt [Preorder α] {a b : PyFloat α} (h : a < b) : a ≤ b := by
  cases a <;> cases b <;> simp_all
  exact h.le

protected theorem lt_of_lt_of_le [Preorder α] {a b c : PyFloat α} (hab : a < b) (hbc : b ≤ c) : a < c := by
  cases a <;> cases b <;> cases c <;> simp_all
  exact lt_of_lt_of_le hab hbc

/-! ### Arithmetic -/

section Arithmetic

instance [IntCast α] : IntCast (PyFloat α) := ⟨fun n => fin n⟩
instance [RatCast α] : RatCast (PyFloat α) := ⟨fun q => fin q⟩
instance [Zero α] : Zero (PyFloat α) := ⟨fin 0⟩

@[simp] theorem zero_eq_fin [Zero α] : (0 : PyFloat α) = fin 0 := rfl
@[simp] theorem intCast_eq_fin [IntCast α] (n : ℤ) : (n : PyFloat α) = fin (n : α) := rfl
@[simp] theorem ratCast_eq_fin [RatCast α] (q : ℚ) : (q : PyFloat α) = fin (q : α) := rfl

instance [Neg α] : Neg (PyFloat α) where
  neg
    | fin x => fin (-x)
    | posInf => negInf
    | negInf => posInf
    | nan => nan

instance [Add α] : Add (PyFloat α) where
  add
    | nan, _ => nan
    | _, nan => nan
    | posInf, negInf => nan
    | negInf, posInf => nan
    | posInf, _ => posInf
    | _, posInf => posInf
    | negInf, _ => negInf
    | _, negInf => negInf
    | fin x, fin y => fin (x + y)

instance [Neg α] [Add α] : Sub (PyFloat α) := ⟨fun a b => a + -b⟩

/-- The product of an infinity with the finite number `x`; `pos` is the infinity of the result's sign for `x > 0`. -/
protected def infMul [Zero α] [LT α] [DecidableLT α] (pos neg : PyFloat α) (x : α) : PyFloat α :=
  if 0 < x then pos else if x < 0 then neg else nan

instance [Zero α] [LT α] [DecidableLT α] [Mul α] : Mul (PyFloat α) where
  mul
    | nan, _ => nan
    | _, nan => nan
    | fin x, fin y => fin (x * y)
    | fin x, posInf => PyFloat.infMul posInf negInf x
    | fin x, negInf => PyFloat.infMul negInf posInf x
    | posInf, fin y => PyFloat.infMul posInf negInf y
    | negInf, fin y => PyFloat.infMul negInf posInf y
    | posInf, posInf => posInf
    | negInf, negInf => posInf
    | posInf, negInf => negInf
    | negInf, posInf => negInf

@[simp] theorem neg_fin [Neg α] (x : α) : -fin x = fin (-x) := rfl
@[simp] theorem neg_posInf [Neg α] : -(posInf : PyFloat α) = negInf := rfl
@[simp] theorem neg_negInf [Neg α] : -(negInf : PyFloat α) = posInf := rfl
@[simp] theorem neg_nan [Neg α] : -(nan : PyFloat α) = nan := rfl
@[simp] theorem fin_add_fin [Add α] (x y : α) : fin x + fin y = fin (x + y) := rfl
@[simp] theorem nan_add [Add α] (a : PyFloat α) : nan + a = nan := by cases a <;> rfl
@[simp] theorem add_nan [Add α] (a : PyFloat α) : a + nan = nan := by cases a <;> rfl
@[simp] theorem posInf_add_fin [Add α] (x : α) : posInf + fin x = posInf := rfl
@[simp] theorem negInf_add_fin [Add α] (x : α) : negInf + fin x = negInf := rfl
@[simp] theorem fin_add_posInf [Add α] (x : α) : fin x + posInf = posInf := rfl
@[simp] theorem fin_add_negInf [Add α] (x : α) : fin x + negInf = negInf := rfl
@[simp] theorem fin_sub_fin [AddGroup α] (x y : α) : fin x - fin y = fin (x - y) := by
  rw [sub_eq_add_neg x y]; rfl
@[simp] theorem fin_mul_fin [Zero α] [LT α] [DecidableLT α] [Mul α] (x y : α) : fin x * fin y = fin (x * y) := rfl
@[simp] theorem nan_mul [Zero α] [LT α] [DecidableLT α] [Mul α] (a : PyFloat α) : nan * a = nan := by
  cases a <;> rfl
@[simp] theorem mul_nan [Zero α] [LT α] [DecidableLT α] [Mul α] (a : PyFloat α) : a * nan = nan := by
  cases a <;> rfl

/-- A finite sum has finite terms. -/
theorem isFinite_of_add [Add α] {a b : PyFloat α} (h : (a + b).IsFinite) : a.IsFinite ∧ b.IsFinite := by
  obtain ⟨c, hc⟩ := h
  cases a <;> cases b <;> first | exact ⟨isFinite_fin _, isFinite_fin _⟩ | cases hc

/-- The product of an infinity with a number is not finite. -/
theorem not_isFinite_infMul [Zero α] [LT α] [DecidableLT α] {pos neg : PyFloat α} (hpos : ¬ pos.IsFinite)
    (hneg : ¬ neg.IsFinite) (x : α) : ¬ (PyFloat.infMul pos neg x).IsFinite := by
  unfold PyFloat.infMul
  split
  · exact hpos
  · split
    · exact hneg
    · exact not_isFinite_nan

/-- What gives a finite product with a number is finite. -/
theorem isFinite_of_fin_mul [Zero α] [LT α] [DecidableLT α] [Mul α] {x : α} {b : PyFloat α}
    (h : (fin x * b).IsFinite) : b.IsFinite := by
  cases b with
  | fin y => exact isFinite_fin y
  | nan => exact absurd h (by simp)
  | posInf => exact absurd h (not_isFinite_infMul not_isFinite_posInf not_isFinite_negInf x)
  | negInf => exact absurd h (not_isFinite_infMul not_isFinite_negInf not_isFinite_posInf x)

end Arithmetic

end PyFloat

/-- Python's `min(a, b)`: the first argument unless the second is strictly smaller. -/
def pyMin {N : Type*} [LT N] [DecidableLT N] (a b : N) : N := if b < a then b else a

/-! ### The `math` module -/

/-- The functions of Python's `math` module on the number type `N`. -/
class PyMath (N : Type*) where
  hypot : N → N → N
  cos : N → Except PyException N
  sin : N → Except PyException N
  atan2 : N → N → N

/-- `math.atan2(y, x)` in exact arithmetic: the argument of the point `(x, y)`. -/
noncomputable def realAtan2 (y x : ℝ) : ℝ := Complex.arg ⟨x, y⟩

noncomputable instance : PyMath ℝ where
  hypot x y := √(x ^ 2 + y ^ 2)
  cos x := .ok (Real.cos x)
  sin x := .ok (Real.sin x)
  atan2 := realAtan2

namespace PyFloat

/-- `math.hypot`: an infinite argument wins over `nan`. -/
protected noncomputable def hypot : PyFloat ℝ → PyFloat ℝ → PyFloat ℝ
  | fin x, fin y => fin (√(x ^ 2 + y ^ 2))
  | posInf, _ => posInf
  | negInf, _ => posInf
  | _, posInf => posInf
  | _, negInf => posInf
  | nan, _ => nan
  | _, nan => nan

/-- `abs` -/
protected noncomputable def abs : PyFloat ℝ → PyFloat ℝ
  | fin x => fin |x|
  | posInf => posInf
  | negInf => posInf
  | nan => nan

/-- `math.cos` and `math.sin` of an infinity raise this. -/
def mathDomainError : PyException := ⟨.valueError, "math domain error"⟩

/-- A function of the `math` module that is not defined at infinities. -/
protected def lift (f : ℝ → ℝ) : PyFloat ℝ → Except PyException (PyFloat ℝ)
  | fin x => .ok (fin (f x))
  | nan => .ok nan
  | posInf => .error mathDomainError
  | negInf => .error mathDomainError

/-- `math.atan2(y, x)` with the IEEE 754 values at infinities. -/
protected noncomputable def atan2 : PyFloat ℝ → PyFloat ℝ → PyFloat ℝ
  | nan, _ => nan
  | _, nan => nan
  | fin y, fin x => fin (realAtan2 y x)
  | fin _, posInf => fin 0
  | fin y, negInf => fin (if 0 ≤ y then Real.pi else -Real.pi)
  | posInf, fin _ => fin (Real.pi / 2)
  | negInf, fin _ => fin (-(Real.pi / 2))
  | posInf, posInf => fin (Real.pi / 4)
  | negInf, posInf => fin (-(Real.pi / 4))
  | posInf, negInf => fin (3 * Real.pi / 4)
  | negInf, negInf => fin (-(3 * Real.pi / 4))

noncomputable instance : PyMath (PyFloat ℝ) where
  hypot := PyFloat.hypot
  cos := PyFloat.lift Real.cos
  sin := PyFloat.lift Real.sin
  atan2 := PyFloat.atan2

@[simp] theorem hypot_fin (x y : ℝ) : PyMath.hypot (fin x) (fin y) = fin (√(x ^ 2 + y ^ 2)) := rfl
@[simp] theorem cos_fin (x : ℝ) : PyMath.cos (fin x) = .ok (fin (Real.cos x)) := rfl
@[simp] theorem sin_fin (x : ℝ) : PyMath.sin (fin x) = .ok (fin (Real.sin x)) := rfl

end PyFloat

@[simp] theorem PyMath.hypot_real (x y : ℝ) : PyMath.hypot x y = √(x ^ 2 + y ^ 2) := rfl
