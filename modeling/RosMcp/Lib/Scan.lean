import Mathlib.Data.List.Basic

/-!
# Scanning a list from the left

The pieces of an anchored pattern without alternatives: `expect` takes a given word off the text, and `oneOrMore` takes
the longest nonempty part whose entries all satisfy a predicate.  Each piece leaves the rest of the text for the next
one.  Where the entry behind a part does not satisfy its predicate, no shorter part can match what follows, so scanning
without backtracking decides the pattern.
-/

namespace Scan

variable {α : Type*}

/-- The text behind `word`, when it starts with it. -/
def expect [DecidableEq α] (word text : List α) : Option (List α) :=
  if word <+: text then some (text.drop word.length) else none

/-- The longest part of the text whose entries satisfy `p`, when it is not empty, and the text behind it. -/
def oneOrMore (p : α → Bool) (text : List α) : Option (List α × List α) :=
  if text.takeWhile p = [] then none else some (text.takeWhile p, text.dropWhile p)

section Expect

variable [DecidableEq α] {word text rest : List α} {a b : α}

@[simp] theorem expect_append : expect word (word ++ rest) = some rest := by simp [expect]

theorem expect_eq_some_iff : expect word text = some rest ↔ text = word ++ rest := by
  constructor
  · intro h
    unfold expect at h
    split at h
    · rename_i hprefix
      obtain ⟨rest', rfl⟩ := hprefix
      simpa using h
    · exact absurd h (by simp)
  · rintro rfl
    exact expect_append

/-- A word with an entry that the text does not have. -/
theorem expect_eq_none (ha : a ∈ word) (htext : a ∉ text) : expect word text = none := by
  rw [Option.eq_none_iff_forall_ne_some]
  intro rest h
  rw [expect_eq_some_iff] at h
  apply htext
  rw [h]
  exact List.mem_append_left _ ha

@[simp] theorem expect_singleton_self : expect [a] (a :: rest) = some rest := by simp [expect]

theorem expect_singleton_ne (h : a ≠ b) : expect [a] (b :: rest) = none := by simp [expect, h]

end Expect

section OneOrMore

variable {p : α → Bool} {part rest : List α}

/-- A part is taken whole when the entry behind it, if there is one, does not satisfy the predicate. -/
theorem oneOrMore_append (hne : part ≠ []) (hpart : ∀ a ∈ part, p a = true) (hrest : ∀ a ∈ rest.head?, p a = false) :
    oneOrMore p (part ++ rest) = some (part, rest) := by
  have hstop : rest.takeWhile p = [] ∧ rest.dropWhile p = rest := by
    cases rest with
    | nil => simp
    | cons a rest => simp [hrest a rfl]
  have htake : (part ++ rest).takeWhile p = part := by
    rw [List.takeWhile_append_of_pos hpart, hstop.1, List.append_nil]
  have hdrop : (part ++ rest).dropWhile p = rest := by
    rw [List.dropWhile_append_of_pos hpart, hstop.2]
  simp [oneOrMore, htake, hdrop, hne]

end OneOrMore

end Scan
