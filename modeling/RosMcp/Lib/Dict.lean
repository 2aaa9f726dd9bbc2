import Mathlib.Data.List.AList
import Mathlib.Data.List.Sort
import Mathlib.Data.String.Basic

/-!
# Dictionaries that are filled by `setdefault` and read out sorted

`Dict κ β` is an association list without repeated keys.  `setdefaultThen` is `d.setdefault(k, default)` followed by a
change of the value that is there then, so the first default of a key stays (`lookup_foldl_setdefaultThen`).
`sortedItems` is `sorted(d.items())`: the items in strictly increasing order of the keys (`pairwise_sortedItems`), which
their members determine (`eq_of_pairwise_lt`).
-/

abbrev Dict (κ β : Type*) := AList fun _ : κ => β

/-- Two strictly increasing lists with the same members are equal. -/
theorem eq_of_pairwise_lt {α : Type*} [LinearOrder α] {l l' : List α} (h : l.Pairwise (· < ·))
    (h' : l'.Pairwise (· < ·)) (hmem : ∀ a, a ∈ l ↔ a ∈ l') : l = l' := by
  have hperm : l.Perm l' := (List.perm_ext_iff_of_nodup h.nodup h'.nodup).2 hmem
  exact hperm.eq_of_pairwise (fun a b _ _ hab hba => absurd hab (lt_asymm hba)) h h'

namespace Dict

variable {κ β γ : Type*} [LinearOrder κ]

/-- `d.setdefault(k, default)`, with `f` applied to the value in place. -/
def setdefaultThen (d : Dict κ β) (k : κ) (default : β) (f : β → β) : Dict κ β :=
  d.insert k (f ((d.lookup k).getD default))

@[simp] theorem lookup_setdefaultThen_self (d : Dict κ β) (k : κ) (default : β) (f : β → β) :
    (d.setdefaultThen k default f).lookup k = some (f ((d.lookup k).getD default)) :=
  AList.lookup_insert d

theorem lookup_setdefaultThen_ne (d : Dict κ β) {k k' : κ} (default : β) (f : β → β) (h : k' ≠ k) :
    (d.setdefaultThen k default f).lookup k' = d.lookup k' :=
  AList.lookup_insert_ne h

/-- In a loop of such calls, what `p` reads of a value is that of the first default of its key, when the changes leave
it alone. -/
theorem lookup_foldl_setdefaultThen {ε : Type*} {add : Dict κ β → ε → Dict κ β} {key : ε → κ} {default : ε → β}
    {p : β → γ}
    (hadd : ∀ d e, ∃ f, add d e = d.setdefaultThen (key e) (default e) f ∧ ∀ b, p (f b) = p b)
    (es : List ε) (d : Dict κ β) (k : κ) :
    ((es.foldl add d).lookup k).map p =
      ((d.lookup k).map p).or ((es.find? fun e => key e == k).map fun e => p (default e)) := by
  induction es generalizing d with
  | nil => simp
  | cons e es ih =>
    obtain ⟨f, hf, hp⟩ := hadd d e
    rw [List.foldl_cons, ih, hf]
    by_cases hk : key e = k
    · subst hk
      rw [List.find?_cons_of_pos (by simp), lookup_setdefaultThen_self]
      cases d.lookup (key e) <;> simp [hp]
    · rw [List.find?_cons_of_neg (by simpa using hk), lookup_setdefaultThen_ne d _ _ (Ne.symm hk)]

/-- `sorted(d.items())`; no two keys are equal, so the values are not compared. -/
def sortedItems (d : Dict κ β) : List (κ × β) :=
  (d.entries.map fun e => (e.1, e.2)).mergeSort fun a b => decide (a.1 ≤ b.1)

theorem mem_sortedItems {d : Dict κ β} {k : κ} {b : β} : (k, b) ∈ d.sortedItems ↔ d.lookup k = some b := by
  rw [sortedItems, List.mem_mergeSort, ← Option.mem_def, AList.mem_lookup_iff, List.mem_map]
  constructor
  · rintro ⟨e, he, heq⟩
    obtain ⟨rfl, rfl⟩ := Prod.mk.inj heq
    exact he
  · intro h
    exact ⟨⟨k, b⟩, h, rfl⟩

/-- The keys are read out in strictly increasing order. -/
theorem pairwise_sortedItems (d : Dict κ β) : (d.sortedItems.map Prod.fst).Pairwise (· < ·) := by
  have hsorted : d.sortedItems.Pairwise fun a b => decide (a.1 ≤ b.1) = true := by
    refine List.pairwise_mergeSort ?_ ?_ _
    · intro a b c hab hbc
      rw [decide_eq_true_eq] at hab hbc ⊢
      exact hab.trans hbc
    · intro a b
      simpa using le_total a.1 b.1
  have hnodup : (d.sortedItems.map Prod.fst).Nodup := by
    have hperm := (List.mergeSort_perm (d.entries.map fun e => (e.1, e.2))
      fun a b => decide (a.1 ≤ b.1)).map Prod.fst
    refine hperm.nodup_iff.2 ?_
    rw [List.map_map]
    exact d.nodupKeys
  rw [List.pairwise_map]
  refine (hsorted.and (List.pairwise_map.1 hnodup)).imp ?_
  rintro a b ⟨hle, hne⟩
  rw [decide_eq_true_eq] at hle
  exact lt_of_le_of_ne hle hne

end Dict
