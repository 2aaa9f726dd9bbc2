import Mathlib.Algebra.Order.Field.Basic
import Mathlib.Algebra.Order.Floor.Semiring
import Mathlib.Data.List.Chain
import Mathlib.Tactic.Linarith

/-!
# Times that are apart

Times in an interval of length `b - a`, each at least `gap` after the one before, are at most `⌈(b - a) / gap⌉` many.
-/

variable {K : Type*} [Field K] [LinearOrder K] [IsStrictOrderedRing K]

/-- Every time is at least `gap` after the one before. -/
def Spaced (gap : K) (ts : List K) : Prop := ts.IsChain fun t t' => t + gap ≤ t'

theorem Spaced.length_le [FloorSemiring K] {gap a b : K} {ts : List K} (h : Spaced gap ts) (hgap : 0 < gap)
    (hfirst : ∀ t ∈ ts.head?, a ≤ t) (hlast : ∀ t ∈ ts, t < b) : ts.length ≤ ⌈(b - a) / gap⌉₊ := by
  induction ts generalizing a with
  | nil => exact Nat.zero_le _
  | cons t ts ih =>
    obtain ⟨hnext, hrest⟩ := List.isChain_cons.1 h
    have hfrom : a ≤ t := hfirst t rfl
    have htail : ts.length ≤ ⌈(b - (a + gap)) / gap⌉₊ := by
      refine ih hrest (fun t' ht' => ?_) fun t' ht' => hlast t' (List.mem_cons_of_mem _ ht')
      exact (add_le_add_left hfrom gap).trans (hnext t' ht')
    have hpos : 0 < ⌈(b - a) / gap⌉₊ := by
      refine Nat.ceil_pos.2 (div_pos ?_ hgap)
      linarith [hlast t (List.mem_cons_self ..)]
    rw [← sub_sub, sub_div, div_self hgap.ne', Nat.ceil_sub_one] at htail
    rw [List.length_cons]
    omega
