import Mathlib.Algebra.Order.Group.Defs
import Mathlib.Data.List.Basic
import Mathlib.Data.List.Induction

/-!
# Sliding-window limiters

A limiter keeps the times of the requests that it has admitted.  A request first drops the entries that are older than
the width of the window, and is admitted unless their number uses up the budget (`full`).

Dropping entries loses nothing: at any later time the window over the kept history is the window over all requests that
were ever admitted (`window_requests`).  So no window of that width, wherever it starts, holds more admitted requests
than one above a number that does not use up the budget (`length_admitted_le`), and a refused request changes no later
window (`window_request_of_not_admits`).
-/

variable {α : Type*} [AddCommGroup α] [LinearOrder α] [IsOrderedAddMonoid α]

/-- The entries that are not older than `width` at the time `now`. -/
def window (width : α) (times : List α) (now : α) : List α := times.filter fun t => decide (now - width ≤ t)

section Window

variable {width : α} {times times' : List α} {now later : α}

omit [IsOrderedAddMonoid α] in
theorem window_append : window width (times ++ times') now = window width times now ++ window width times' now :=
  List.filter_append _ _

/-- What an earlier window drops is not in a later one. -/
theorem window_window (h : now ≤ later) : window width (window width times now) later = window width times later := by
  unfold window
  rw [List.filter_filter]
  apply List.filter_congr
  intro t _
  have hmono : now - width ≤ later - width := sub_le_sub_right h width
  by_cases ht : later - width ≤ t
  · simp [ht, hmono.trans ht]
  · simp [ht]

end Window

section Limiter

variable (width : α) (full : ℕ → Prop)

/-- A request at `now` is admitted. -/
def Admits (kept : List α) (now : α) : Prop := ¬ full (window width kept now).length

variable [DecidablePred full]

instance (kept : List α) (now : α) : Decidable (Admits width full kept now) := inferInstanceAs (Decidable (¬ _))

/-- The history that a request at `now` leaves behind. -/
def request (kept : List α) (now : α) : List α :=
  window width kept now ++ if Admits width full kept now then [now] else []

/-- The history that requests at the given times leave behind. -/
def requests (kept : List α) : List α → List α
  | [] => kept
  | now :: nows => requests (request width full kept now) nows

/-- The times of the requests that are admitted. -/
def admitted (kept : List α) : List α → List α
  | [] => []
  | now :: nows =>
    (if Admits width full kept now then [now] else []) ++ admitted (request width full kept now) nows

variable {width full} {kept nows : List α} {now later : α}

omit [IsOrderedAddMonoid α] in
theorem requests_concat :
    requests width full kept (nows ++ [now]) = request width full (requests width full kept nows) now := by
  induction nows generalizing kept with
  | nil => rfl
  | cons m nows ih => exact ih

omit [IsOrderedAddMonoid α] in
theorem admitted_concat : admitted width full kept (nows ++ [now]) =
    admitted width full kept nows ++ if Admits width full (requests width full kept nows) now then [now] else [] := by
  induction nows generalizing kept with
  | nil => exact List.append_nil _
  | cons m nows ih =>
    have hrest := @ih (request width full kept m)
    rw [List.cons_append, admitted, hrest, admitted, requests, List.append_assoc]

/-- At a later time the window sees of a request only whether it was admitted. -/
theorem window_request (h : now ≤ later) : window width (request width full kept now) later =
    window width (kept ++ if Admits width full kept now then [now] else []) later := by
  rw [request, window_append, window_window h, ← window_append]

/-- A refused request uses up no budget. -/
theorem window_request_of_not_admits (h : now ≤ later) (hrefused : ¬ Admits width full kept now) :
    window width (request width full kept now) later = window width kept later := by
  rw [window_request h, if_neg hrefused, List.append_nil]

/-- The kept history counts at a later time exactly the admitted requests. -/
theorem window_requests (hnows : (nows ++ [later]).Pairwise (· ≤ ·)) :
    window width (requests width full kept nows) later =
      window width (kept ++ admitted width full kept nows) later := by
  induction nows generalizing kept with
  | nil => simp [requests, admitted]
  | cons now nows ih =>
    rw [List.cons_append, List.pairwise_cons] at hnows
    have hlater : now ≤ later := hnows.1 later (by simp)
    rw [requests, ih hnows.2, window_append, window_request hlater, ← window_append, admitted, List.append_assoc]

/-- No window holds more admitted requests than the budget. -/
theorem length_admitted_le {budget : ℕ} (hbudget : ∀ n, ¬ full n → n + 1 ≤ budget) (hnows : nows.Pairwise (· ≤ ·))
    (start : α) :
    ((admitted width full [] nows).filter fun t => decide (start ≤ t ∧ t ≤ start + width)).length ≤ budget := by
  induction nows using List.reverseRecOn with
  | nil => exact Nat.zero_le budget
  | append_singleton nows now ih =>
    have hbefore := ih (List.pairwise_append.1 hnows).1
    rw [admitted_concat]
    by_cases hadmits : Admits width full (requests width full [] nows) now
    · rw [if_pos hadmits, List.filter_append, List.length_append]
      by_cases hin : start ≤ now ∧ now ≤ start + width
      · -- the admitted requests of the window are still counted when this one is admitted
        have hcounted : ((admitted width full [] nows).filter fun t => decide (start ≤ t ∧ t ≤ start + width)).length ≤
            (window width (requests width full [] nows) now).length := by
          rw [window_requests hnows, List.nil_append]
          apply List.Sublist.length_le
          apply List.monotone_filter_right
          intro t ht
          simp only [decide_eq_true_eq] at ht ⊢
          exact (sub_le_iff_le_add.2 hin.2).trans ht.1
        have hlast : ([now].filter fun t => decide (start ≤ t ∧ t ≤ start + width)).length = 1 := by simp [hin]
        rw [hlast]
        exact (Nat.succ_le_succ hcounted).trans (hbudget _ hadmits)
      · have hlast : ([now].filter fun t => decide (start ≤ t ∧ t ≤ start + width)).length = 0 := by
          rw [List.length_eq_zero_iff, List.filter_eq_nil_iff]
          simpa using fun h => not_le.1 fun h' => hin ⟨h, h'⟩
        rw [hlast]
        exact hbefore
    · rw [if_neg hadmits, List.append_nil]
      exact hbefore

/-- Requests at one instant are admitted while their number leaves budget. -/
theorem admitted_replicate {n : ℕ} (hwidth : 0 ≤ width) (hn : ∀ i < n, ¬ full i) (now : α) :
    admitted width full [] (List.replicate n now) = List.replicate n now ∧
      requests width full [] (List.replicate n now) = List.replicate n now := by
  induction n with
  | zero => exact ⟨rfl, rfl⟩
  | succ n ih =>
    obtain ⟨hadmitted, hkept⟩ := ih fun i hi => hn i (Nat.lt_succ_of_lt hi)
    have hwindow : window width (List.replicate n now) now = List.replicate n now := by
      apply List.filter_eq_self.2
      intro t ht
      rw [List.eq_of_mem_replicate ht]
      exact decide_eq_true (sub_le_self now hwidth)
    have hadmits : Admits width full (List.replicate n now) now := by
      unfold Admits
      rw [hwindow, List.length_replicate]
      exact hn n (Nat.lt_succ_self n)
    rw [List.replicate_succ', admitted_concat, requests_concat, hkept, request, if_pos hadmits, hadmitted, hwindow]
    exact ⟨rfl, rfl⟩

end Limiter
