import Mathlib.Algebra.Ring.Nat
import Mathlib.Data.List.Nodup

/-!
# Counting with a dictionary

A dictionary in the order of its insertions, as a list of entries.  The loop `d[k] = d.get(k, 0) + 1` leaves every key
with the number of its occurrences, once each, and the numbers add up to the number of turns (`tallies_foldl_tick`).
-/

variable {κ : Type*} [DecidableEq κ]

/-- `d[k] = d.get(k, 0) + 1`; a new key goes to the end. -/
def tick : List (κ × ℕ) → κ → List (κ × ℕ)
  | [], k => [(k, 1)]
  | (k', n) :: d, k => if k' = k then (k', n + 1) :: d else (k', n) :: tick d k

/-- The dictionary counts the occurrences in `ks`. -/
structure Tallies (d : List (κ × ℕ)) (ks : List κ) : Prop where
  nodup : (d.map Prod.fst).Nodup
  mem : ∀ k n, (k, n) ∈ d ↔ n ≠ 0 ∧ ks.count k = n
  sum : (d.map Prod.snd).sum = ks.length

theorem keys_tick (d : List (κ × ℕ)) (k : κ) :
    (tick d k).map Prod.fst = if k ∈ d.map Prod.fst then d.map Prod.fst else d.map Prod.fst ++ [k] := by
  induction d with
  | nil => rfl
  | cons e d ih =>
    obtain ⟨k', n⟩ := e
    unfold tick
    by_cases hk : k' = k
    · simp [hk]
    · rw [if_neg hk, List.map_cons, ih]
      by_cases hmem : k ∈ d.map Prod.fst
      · rw [if_pos hmem, if_pos (by simp [hmem])]
        rfl
      · rw [if_neg hmem, if_neg (by simp [hmem, Ne.symm hk])]
        rfl

theorem sum_tick (d : List (κ × ℕ)) (k : κ) : ((tick d k).map Prod.snd).sum = (d.map Prod.snd).sum + 1 := by
  induction d with
  | nil => rfl
  | cons e d ih =>
    obtain ⟨k', n⟩ := e
    unfold tick
    by_cases hk : k' = k
    · simp only [if_pos hk, List.map_cons, List.sum_cons]
      omega
    · simp only [if_neg hk, List.map_cons, List.sum_cons, ih]
      omega

/-- The other keys keep their entries. -/
theorem mem_tick_of_ne {d : List (κ × ℕ)} {k k' : κ} (h : k' ≠ k) (n : ℕ) : (k', n) ∈ tick d k ↔ (k', n) ∈ d := by
  induction d with
  | nil => simp [tick, h]
  | cons e d ih =>
    obtain ⟨k₀, m⟩ := e
    unfold tick
    by_cases hk : k₀ = k
    · simp [hk, h]
    · simp [hk, ih]

/-- The key itself has one more than before. -/
theorem mem_tick_self {d : List (κ × ℕ)} (hd : (d.map Prod.fst).Nodup) (k : κ) (n : ℕ) :
    (k, n) ∈ tick d k ↔ (k ∉ d.map Prod.fst ∧ n = 1) ∨ ∃ m, (k, m) ∈ d ∧ n = m + 1 := by
  induction d with
  | nil => simp [tick]
  | cons e d ih =>
    obtain ⟨k', m⟩ := e
    obtain ⟨hfresh, hrest⟩ := List.nodup_cons.1 hd
    unfold tick
    by_cases hk : k' = k
    · subst hk
      have hnone : ∀ m, (k', m) ∉ d := fun m hm => hfresh (List.mem_map.2 ⟨_, hm, rfl⟩)
      simp [hnone]
    · simp [hk, Ne.symm hk, ih hrest]

theorem Tallies.nil : Tallies ([] : List (κ × ℕ)) [] where
  nodup := List.nodup_nil
  mem := fun k n => by simp [eq_comm]
  sum := rfl

theorem Tallies.snoc {d : List (κ × ℕ)} {ks : List κ} (h : Tallies d ks) (k : κ) : Tallies (tick d k) (ks ++ [k]) := by
  have hkeys : k ∈ d.map Prod.fst ↔ ks.count k ≠ 0 := by
    constructor
    · intro hk
      obtain ⟨⟨k', n⟩, hn, rfl⟩ := List.mem_map.1 hk
      obtain ⟨hne, hcount⟩ := (h.mem k' n).1 hn
      rw [hcount]
      exact hne
    · intro hk
      exact List.mem_map.2 ⟨(k, ks.count k), (h.mem k _).2 ⟨hk, rfl⟩, rfl⟩
  constructor
  case nodup =>
    rw [keys_tick]
    split
    · exact h.nodup
    · next hfresh => exact List.nodup_append.2 ⟨h.nodup, List.nodup_singleton k, by
        rintro a ha b hb rfl
        rw [List.mem_singleton.1 hb] at ha
        exact hfresh ha⟩
  case mem =>
    intro k' n
    by_cases hk : k' = k
    · subst hk
      rw [mem_tick_self h.nodup, hkeys, not_not, List.count_append, List.count_singleton_self]
      constructor
      · rintro (⟨hzero, rfl⟩ | ⟨m, hm, rfl⟩)
        · exact ⟨Nat.one_ne_zero, by rw [hzero]⟩
        · exact ⟨Nat.succ_ne_zero m, by rw [((h.mem k' m).1 hm).2]⟩
      · rintro ⟨-, rfl⟩
        by_cases hzero : ks.count k' = 0
        · exact .inl ⟨hzero, by rw [hzero]⟩
        · exact .inr ⟨ks.count k', (h.mem k' _).2 ⟨hzero, rfl⟩, rfl⟩
    · rw [mem_tick_of_ne hk, h.mem, List.count_append, List.count_singleton, if_neg (by simpa using Ne.symm hk),
        Nat.add_zero]
  case sum => rw [sum_tick, h.sum, List.length_append, List.length_singleton]

theorem tallies_foldl_tick (ks : List κ) : Tallies (ks.foldl tick []) ks := by
  have along : ∀ (d : List (κ × ℕ)) (before ks : List κ), Tallies d before →
      Tallies (ks.foldl tick d) (before ++ ks) := by
    intro d before ks
    induction ks generalizing d before with
    | nil => simp
    | cons k ks ih =>
      intro h
      have hrest := ih _ _ (h.snoc k)
      rwa [List.append_assoc] at hrest
  exact along [] [] ks .nil
