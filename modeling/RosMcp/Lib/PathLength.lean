import Mathlib.Topology.MetricSpace.Pseudo.Defs

/-!
# The length of a path

`pathLength a l` is the length of the path from `a` through the points of `l`; the path ends in `l.getLastD a`.  It is
at least the distance of its ends (`dist_le_pathLength`).
-/

variable {α : Type*} [PseudoMetricSpace α]

/-- The sum of the distances of consecutive points. -/
noncomputable def pathLength : α → List α → ℝ
  | _, [] => 0
  | a, b :: l => dist a b + pathLength b l

@[simp] theorem pathLength_nil (a : α) : pathLength a [] = 0 := rfl

@[simp] theorem pathLength_cons (a b : α) (l : List α) : pathLength a (b :: l) = dist a b + pathLength b l := rfl

/-- A path is at least as long as the distance of its ends. -/
theorem dist_le_pathLength (a : α) (l : List α) : dist a (l.getLastD a) ≤ pathLength a l := by
  induction l generalizing a with
  | nil => simp
  | cons b l ih =>
    have htriangle := dist_triangle a b (l.getLastD b)
    have hrest := ih b
    rw [List.getLastD_cons, pathLength_cons]
    linarith
