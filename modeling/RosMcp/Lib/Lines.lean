import Mathlib.Data.List.Basic

/-!
# Texts of lines

A text of lines ends each of them with a separator.  The lines are read back from it when none of them contains the
separator (`lines_unlines`), so such a text determines its lines.
-/

variable {α : Type*}

/-- The lines, each with the separator after it. -/
def unlines (sep : α) (ls : List (List α)) : List α := ls.flatMap (· ++ [sep])

@[simp] theorem unlines_nil (sep : α) : unlines sep [] = [] := rfl

@[simp] theorem unlines_append (sep : α) (ls ls' : List (List α)) :
    unlines sep (ls ++ ls') = unlines sep ls ++ unlines sep ls' :=
  List.flatMap_append ..

theorem unlines_eq_intercalate (sep : α) (ls : List (List α)) : unlines sep ls = [sep].intercalate (ls ++ [[]]) := by
  induction ls with
  | nil => rfl
  | cons l ls ih =>
    have hne : ls ++ [[]] ≠ [] := List.append_ne_nil_of_right_ne_nil _ (List.cons_ne_nil _ _)
    rw [List.cons_append, List.intercalate_cons_of_ne_nil hne, ← ih]
    rfl

variable [DecidableEq α]

/-- The lines of a text; what stands after the last separator is no line. -/
def lines (sep : α) (text : List α) : List (List α) := (text.splitOn sep).dropLast

theorem lines_unlines (sep : α) {ls : List (List α)} (h : ∀ l ∈ ls, sep ∉ l) : lines sep (unlines sep ls) = ls := by
  have hall : ∀ l ∈ ls ++ [[]], sep ∉ l := by
    intro l hl
    rcases List.mem_append.1 hl with hl | hl
    · exact h l hl
    · rw [List.mem_singleton.1 hl]
      exact List.not_mem_nil
  rw [lines, unlines_eq_intercalate,
    List.splitOn_intercalate sep hall (List.append_ne_nil_of_right_ne_nil _ (List.cons_ne_nil _ _)),
    List.dropLast_concat]
