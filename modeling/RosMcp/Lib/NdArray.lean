import Mathlib.Algebra.BigOperators.Group.List.Basic
import Mathlib.Data.List.Forall2
import Mathlib.Data.List.GetD
import Mathlib.Tactic.Ring

/-!
# Arrays of several dimensions in a flat buffer

An item of an array lies in a flat buffer at the `position` that the strides of the array give to its index.  In
`rowMajor` order the stride of an axis is the number of items behind one of its indices, and the items fill the buffer
without a gap (`position_rowMajor_lt`); the rows may also lie further apart than their items need
(`position_padded_lt`).

`NdArray α` has a shape and an item for each index.  A flat array is reshaped in row-major order (`get?_reshape`), and
`select` and `reduce` work along one axis.
-/

namespace NdArray

/-! ### Positions -/

/-- The index lies in the shape. -/
def InRange (shape index : List ℕ) : Prop := List.Forall₂ (· < ·) index shape

instance (shape index : List ℕ) : Decidable (InRange shape index) :=
  inferInstanceAs (Decidable (List.Forall₂ _ _ _))

/-- Where the item of an index lies in the buffer. -/
def position : List ℕ → List ℕ → ℕ
  | stride :: strides, i :: index => i * stride + position strides index
  | _, _ => 0

/-- The strides of an array whose items follow each other, the last index first. -/
def rowMajor : List ℕ → List ℕ
  | [] => []
  | _ :: shape => shape.prod :: rowMajor shape

/-- The index of the item at a position in row-major order. -/
def unravel : List ℕ → ℕ → List ℕ
  | [], _ => []
  | _ :: shape, p => p / shape.prod :: unravel shape (p % shape.prod)

section Positions

variable {shape index : List ℕ} {stride n i : ℕ}

@[simp] theorem inRange_nil : InRange [] index ↔ index = [] := List.forall₂_nil_right_iff

@[simp] theorem inRange_cons : InRange (n :: shape) (i :: index) ↔ i < n ∧ InRange shape index :=
  List.forall₂_cons

@[simp] theorem position_nil : position [] index = 0 := by cases index <;> rfl

@[simp] theorem position_cons {strides : List ℕ} :
    position (stride :: strides) (i :: index) = i * stride + position strides index := rfl

@[simp] theorem rowMajor_nil : rowMajor [] = [] := rfl

@[simp] theorem rowMajor_cons : rowMajor (n :: shape) = shape.prod :: rowMajor shape := rfl

@[simp] theorem unravel_flat (p : ℕ) : unravel [n] p = [p] := by simp [unravel]

/-- Rows that are long enough hold the items that they begin with. -/
theorem position_padded_lt (hpad : shape.prod ≤ stride) (hi : i < n)
    (hposition : position (rowMajor shape) index < shape.prod) :
    position (stride :: rowMajor shape) (i :: index) < n * stride := by
  calc i * stride + position (rowMajor shape) index
      < i * stride + stride := by omega
    _ = (i + 1) * stride := by ring
    _ ≤ n * stride := Nat.mul_le_mul_right stride hi

theorem position_rowMajor_lt (h : InRange shape index) : position (rowMajor shape) index < shape.prod := by
  induction h with
  | nil => simp
  | cons hi _ ih =>
    rw [List.prod_cons]
    exact position_padded_lt le_rfl hi ih

end Positions

end NdArray

/-! ### Arrays -/

/-- An array: its shape, and what it holds at each index of the shape. -/
structure NdArray (α : Type*) where
  shape : List ℕ
  item : List ℕ → Option α

namespace NdArray

variable {α β : Type*}

/-- The item at an index; there is none outside the shape. -/
def get? (a : NdArray α) (index : List ℕ) : Option α := if InRange a.shape index then a.item index else none

def ofList (data : List α) : NdArray α := ⟨[data.length], fun index => data[position [1] index]?⟩

/-- The same items in row-major order under another shape. -/
def reshape (a : NdArray α) (shape : List ℕ) : Option (NdArray α) :=
  if shape.prod = a.shape.prod then
    some ⟨shape, fun index => a.item (unravel a.shape (position (rowMajor shape) index))⟩
  else none

/-- The first `n` items along the first axis. -/
def head (a : NdArray α) (n : ℕ) : NdArray α := ⟨a.shape.modifyHead (min n), a.item⟩

/-- The items at the places `places` of an axis. -/
def select (a : NdArray α) (axis : ℕ) (places : List ℕ) : NdArray α :=
  ⟨a.shape.set axis places.length, fun index => a.item (index.modify axis (places.getD · 0))⟩

def map (f : α → β) (a : NdArray α) : NdArray β := ⟨a.shape, fun index => (a.item index).map f⟩

/-- `f` of the items along an axis of the length `n`. -/
def reduce (f : List α → β) (axis n : ℕ) (a : NdArray α) : NdArray β :=
  ⟨a.shape.eraseIdx axis, fun index => ((List.range n).mapM fun k => a.item (index.insertIdx axis k)).map f⟩

section Items

variable {a b : NdArray α} {index : List ℕ} {n : ℕ}

theorem get?_eq (h : InRange a.shape index) : a.get? index = a.item index := if_pos h

theorem get?_ofList (data : List α) (i : ℕ) : (ofList data).get? [i] = data[i]? := by
  by_cases hi : i < data.length
  · rw [get?_eq (by simp [ofList, hi])]
    simp [ofList]
  · rw [get?, if_neg (by simp [ofList, hi]), List.getElem?_eq_none (Nat.le_of_not_lt hi)]

/-- A flat array is read in row-major order. -/
theorem get?_reshape {shape : List ℕ} (hflat : a.shape = [n]) (hn : shape.prod = n) :
    ∃ b, a.reshape shape = some b ∧ b.shape = shape ∧
      ∀ index, InRange shape index → b.get? index = a.get? [position (rowMajor shape) index] := by
  refine ⟨_, if_pos (by simp [hflat, hn]), rfl, fun index hindex => ?_⟩
  have hlt := position_rowMajor_lt hindex
  rw [get?_eq hindex, get?_eq (by simp [hflat, ← hn, hlt])]
  show a.item (unravel a.shape _) = _
  rw [hflat, unravel_flat]

theorem get?_map (f : α → β) (index : List ℕ) : (a.map f).get? index = (a.get? index).map f := by
  unfold get?
  by_cases hindex : InRange a.shape index <;> simp [map, hindex]

/-- Along the last of three axes, `select` permutes or drops items. -/
theorem get?_select {h w n r c k : ℕ} {places : List ℕ} (hshape : a.shape = [h, w, n])
    (hplaces : ∀ p ∈ places, p < n) (hr : r < h) (hc : c < w) (hk : k < places.length) :
    (a.select 2 places).get? [r, c, k] = a.get? [r, c, places.getD k 0] := by
  have hplace : places.getD k 0 < n := by
    rw [List.getD_eq_getElem _ _ hk]
    exact hplaces _ (List.getElem_mem hk)
  rw [get?_eq (by simp [select, hshape, hr, hc, hk]), get?_eq (by simpa [hshape, hr, hc] using hplace)]
  rfl

/-- The items of an axis, read one after the other. -/
theorem mapM_range_getElem {f : ℕ → Option α} (l : List α) (h : ∀ k < l.length, f k = l[k]?) :
    (List.range l.length).mapM f = some l := by
  induction l generalizing f with
  | nil => rfl
  | cons a l ih =>
    have hhead : f 0 = some a := h 0 (by simp)
    have htail := @ih (f ∘ Nat.succ) fun k hk => h (k + 1) (by simpa using hk)
    rw [List.length_cons, List.range_succ_eq_map, List.mapM_cons, List.mapM_map, hhead]
    show ((List.range l.length).mapM (f ∘ Nat.succ) >>= _) = _
    rw [htail]
    rfl

/-- Along the last of three axes, `reduce` applies its function to the items of a pixel. -/
theorem get?_reduce {h w r c : ℕ} (f : List α → β) {l : List α} (hshape : a.shape = [h, w, l.length]) (hr : r < h)
    (hc : c < w) (hl : ∀ k < l.length, a.get? [r, c, k] = l[k]?) :
    (a.reduce f 2 l.length).get? [r, c] = some (f l) := by
  rw [get?_eq (by simp [reduce, hshape, hr, hc])]
  show ((List.range l.length).mapM fun k => a.item [r, c, k]).map f = _
  rw [mapM_range_getElem l fun k hk => ?_]
  · rfl
  · rw [← hl k hk, get?_eq (by simp [hshape, hr, hc, hk])]

end Items

end NdArray
