import Mathlib.Data.List.Induction
import Mathlib.Logic.Function.Basic

/-!
# Logs of writes

A log is a list of keyed writes in their order.  `lastWrite log k` is the value that a map holds at `k` after them: a
write to one key is `Function.update` (`lastWrite_concat`).  Where the values of each key only grow along the log, a
property that passes to greater values holds of the last write of a key exactly if it holds of one of its writes
(`exists_lastWrite_iff`).
-/

namespace WriteLog

variable {κ β : Type*} [DecidableEq κ] {log : List (κ × β)} {k : κ}

/-- The value of the last write to `k`. -/
def lastWrite (log : List (κ × β)) (k : κ) : Option β :=
  ((log.filter fun w => w.1 = k).getLast?).map Prod.snd

@[simp] theorem lastWrite_nil : lastWrite ([] : List (κ × β)) = fun _ => none := rfl

theorem lastWrite_concat (log : List (κ × β)) (k : κ) (b : β) :
    lastWrite (log ++ [(k, b)]) = Function.update (lastWrite log) k (some b) := by
  funext k'
  unfold lastWrite
  rw [List.filter_append]
  by_cases hk : k' = k
  · subst hk
    simp
  · rw [Function.update_of_ne hk, List.filter_cons_of_neg (by simpa using Ne.symm hk), List.filter_nil,
      List.append_nil]

/-- Where the values of a key grow along the log, what passes to greater values holds of the last one exactly if it
holds of one of them. -/
theorem exists_lastWrite_iff {r : β → β → Prop} {p : β → Prop} (hp : ∀ b b', r b b' → p b → p b')
    (hlog : log.Pairwise fun w w' => w.1 = w'.1 → r w.2 w'.2) :
    (∃ b, lastWrite log k = some b ∧ p b) ↔ ∃ b, (k, b) ∈ log ∧ p b := by
  induction log using List.reverseRecOn with
  | nil => simp
  | append_singleton log w ih =>
    obtain ⟨k', last⟩ := w
    obtain ⟨hbefore, -, hlast⟩ := List.pairwise_append.1 hlog
    rw [lastWrite_concat]
    by_cases hk : k = k'
    · subst hk
      rw [Function.update_self]
      constructor
      · rintro ⟨b, heq, hb⟩
        obtain rfl := Option.some.inj heq
        exact ⟨last, by simp, hb⟩
      · rintro ⟨b, hmem, hb⟩
        refine ⟨last, rfl, ?_⟩
        rcases List.mem_append.1 hmem with hmem | hmem
        · exact hp b last (hlast _ hmem _ (List.mem_singleton_self _) rfl) hb
        · obtain rfl : b = last := by simpa using hmem
          exact hb
    · rw [Function.update_of_ne hk, ih hbefore]
      simp [hk]

end WriteLog
