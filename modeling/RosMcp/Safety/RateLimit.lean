import RosMcp.Execution.NonBypass
import RosMcp.Lib.SlidingWindow
import RosMcp.Safety.PolicyEngine

/-!
# The rate limit over runs

A run is a list of calls of `check` at non-decreasing times, of any sessions, each with its own configuration.  The
history of a session is that of a sliding-window limiter on the session's own commands other than STOP
(`historyAfter_eq`), so STOPs and other sessions do not matter to it.

The limiter compares the limit with the number of the earlier commands, so it lets one command through while any part
of the budget is left.  The limit is kept in every window of one second exactly when it is a whole number or infinite
(`rateLimit_iff`).
-/

namespace RosMcp

open PyFloat

/-- A call of `check`, at the time `now`. -/
structure CheckCall where
  now : ℝ
  safety : SafetyConfig (PyFloat ℝ)
  command : SemanticCommand (PyFloat ℝ)
  currentPose : Option (Pose2D (PyFloat ℝ))

/-- `_rate_limit_history` of a new engine. -/
def RateLimitHistory.initial : RateLimitHistory (PyFloat ℝ) := fun _ => []

namespace CheckCall

/-- The call is for a command of the session that is not a STOP. -/
def Counts (sessionId : String) (c : CheckCall) : Prop :=
  c.command.operation ≠ .stop ∧ c.command.sessionId = sessionId

instance (sessionId : String) (c : CheckCall) : Decidable (c.Counts sessionId) := inferInstanceAs (Decidable (_ ∧ _))

/-- The rate limiter refuses the command. -/
noncomputable def refused (history : RateLimitHistory (PyFloat ℝ)) (c : CheckCall) : Bool :=
  (checkRateLimit history c.command.sessionId c.safety.rateLimitRps (.fin c.now)).1.isSome

/-- The history that the call leaves behind. -/
noncomputable def after (history : RateLimitHistory (PyFloat ℝ)) (c : CheckCall) : RateLimitHistory (PyFloat ℝ) :=
  (check history c.safety (.fin c.now) c.command c.currentPose).2

end CheckCall

/-- The history after a run. -/
noncomputable def historyAfter (history : RateLimitHistory (PyFloat ℝ)) (calls : List CheckCall) :
    RateLimitHistory (PyFloat ℝ) :=
  calls.foldl CheckCall.after history

/-- The times at which commands of the session other than STOPs get past the rate limiter. -/
noncomputable def passes (sessionId : String) (history : RateLimitHistory (PyFloat ℝ)) : List CheckCall → List ℝ
  | [] => []
  | c :: cs =>
    (if c.Counts sessionId ∧ c.refused history = false then [c.now] else []) ++ passes sessionId (c.after history) cs

/-- The rate limit for a session, in a run from a new engine. -/
structure KeepsRate (rate : PyFloat ℝ) (sessionId : String) (calls : List CheckCall) : Prop where
  window : ∀ start : ℝ, (((passes sessionId .initial calls).filter fun t => decide (start ≤ t ∧ t ≤ start + 1)).length :
    ℤ) ≤ rate
  refused : ∀ before c rest, calls = before ++ c :: rest → c.Counts sessionId →
    c.refused (historyAfter .initial before) = true → ∀ later, c.now ≤ later →
      rateWindow (historyAfter .initial (before ++ [c]) sessionId) (.fin later) =
        rateWindow (historyAfter .initial before sessionId) (.fin later)
  others : ∀ before c rest, calls = before ++ c :: rest → ¬ c.Counts sessionId →
    historyAfter .initial (before ++ [c]) sessionId = historyAfter .initial before sessionId

/-! ### One call -/

/-- The limit of the configuration as a budget: `len(history) >= rate_limit_rps`. -/
def usedUp (rate : PyFloat ℝ) (n : ℕ) : Prop := rate ≤ ((n : ℤ) : PyFloat ℝ)

noncomputable instance (rate : PyFloat ℝ) : DecidablePred (usedUp rate) := fun n =>
  inferInstanceAs (Decidable (rate ≤ ((n : ℤ) : PyFloat ℝ)))

private theorem rateWindow_map (times : List ℝ) (now : ℝ) :
    rateWindow (times.map PyFloat.fin) (.fin now) = (window 1 times now).map PyFloat.fin := by
  unfold rateWindow window
  rw [List.filter_map]
  congr 1
  apply List.filter_congr
  intro t _
  simp

section Call

variable {history : RateLimitHistory (PyFloat ℝ)} {c : CheckCall} {kept : List ℝ} {rate : PyFloat ℝ}
  {sessionId : String}

private theorem check_snd (h : c.command.operation ≠ .stop) :
    c.after history = (checkRateLimit history c.command.sessionId c.safety.rateLimitRps (.fin c.now)).2 := by
  unfold CheckCall.after check
  rw [if_neg h]
  rcases checkRateLimit history c.command.sessionId c.safety.rateLimitRps (.fin c.now) with
    ⟨_ | error, history'⟩ <;> rfl

/-- The session has used up its budget when its limiter does not admit the command. -/
theorem rateLimited_iff (hrate : c.safety.rateLimitRps = rate)
    (hkept : history c.command.sessionId = kept.map PyFloat.fin) :
    RateLimited history c.command.sessionId c.safety.rateLimitRps (.fin c.now) ↔
      ¬ Admits 1 (usedUp rate) kept c.now := by
  rw [RateLimited, hkept, rateWindow_map, List.length_map, hrate, Admits, not_not, usedUp]

private theorem refused_eq_false_iff (hrate : c.safety.rateLimitRps = rate)
    (hkept : history c.command.sessionId = kept.map PyFloat.fin) :
    c.refused history = false ↔ Admits 1 (usedUp rate) kept c.now := by
  have hnone : c.refused history = false ↔
      (checkRateLimit history c.command.sessionId c.safety.rateLimitRps (.fin c.now)).1 = none := by
    rw [CheckCall.refused, Option.isSome_eq_false_iff, Option.isNone_iff_eq_none]
  rw [hnone, checkRateLimit_fst, rateLimited_iff hrate hkept, not_not]

/-- A command that is not a STOP is a request to the limiter of its session. -/
private theorem after_self (hstop : c.command.operation ≠ .stop) (hrate : c.safety.rateLimitRps = rate)
    (hkept : history c.command.sessionId = kept.map PyFloat.fin) :
    c.after history c.command.sessionId = (request 1 (usedUp rate) kept c.now).map PyFloat.fin := by
  have hlimited := rateLimited_iff hrate hkept
  rw [check_snd hstop]
  unfold checkRateLimit request
  by_cases hadmits : Admits 1 (usedUp rate) kept c.now
  · rw [if_neg (mt hlimited.1 (not_not.2 hadmits)), if_pos hadmits]
    simp [hkept, rateWindow_map]
  · rw [if_pos (hlimited.2 hadmits), if_neg hadmits]
    simp [hkept, rateWindow_map]

/-- A STOP and a command of another session leave the history of the session alone. -/
private theorem after_of_not_counts (h : ¬ c.Counts sessionId) : c.after history sessionId = history sessionId := by
  by_cases hstop : c.command.operation = .stop
  · unfold CheckCall.after
    rw [check_stop history c.safety (.fin c.now) c.currentPose hstop]
  · have hsession : sessionId ≠ c.command.sessionId := fun he => h ⟨hstop, he.symm⟩
    rw [check_snd hstop]
    unfold checkRateLimit
    split <;> exact Function.update_of_ne hsession _ _

end Call

/-! ### Runs -/

/-- The times of the session's commands other than STOP. -/
def requestTimes (sessionId : String) (calls : List CheckCall) : List ℝ :=
  (calls.filter fun c => decide (c.Counts sessionId)).map CheckCall.now

section Run

variable {history : RateLimitHistory (PyFloat ℝ)} {kept : List ℝ} {rate : PyFloat ℝ} {sessionId : String}
  {calls : List CheckCall}

private theorem historyAfter_concat (calls : List CheckCall) (c : CheckCall) :
    historyAfter history (calls ++ [c]) = c.after (historyAfter history calls) := by
  simp [historyAfter]

private theorem requestTimes_pairwise (h : calls.Pairwise fun c c' => c.now ≤ c'.now) :
    (requestTimes sessionId calls).Pairwise (· ≤ ·) :=
  List.pairwise_map.2 (h.filter _)

/-- The history of a session, and the commands that get past, are those of a limiter on the session's own requests. -/
theorem historyAfter_eq (hrate : ∀ c ∈ calls, c.safety.rateLimitRps = rate)
    (hkept : history sessionId = kept.map PyFloat.fin) :
    historyAfter history calls sessionId =
        (requests 1 (usedUp rate) kept (requestTimes sessionId calls)).map PyFloat.fin ∧
      passes sessionId history calls = admitted 1 (usedUp rate) kept (requestTimes sessionId calls) := by
  induction calls generalizing history kept with
  | nil => exact ⟨hkept, rfl⟩
  | cons c cs ih =>
    have hrate' := fun c' hc' => hrate c' (List.mem_cons_of_mem c hc')
    by_cases hcounts : c.Counts sessionId
    · have hsession := hcounts.2
      subst hsession
      have hc := hrate c List.mem_cons_self
      have htimes : requestTimes c.command.sessionId (c :: cs) = c.now :: requestTimes c.command.sessionId cs := by
        simp [requestTimes, hcounts]
      have hpass : (c.Counts c.command.sessionId ∧ c.refused history = false) ↔ Admits 1 (usedUp rate) kept c.now :=
        (and_iff_right hcounts).trans (refused_eq_false_iff hc hkept)
      obtain ⟨hhistory, hpasses⟩ := ih hrate' (after_self hcounts.1 hc hkept)
      rw [htimes]
      refine ⟨hhistory, ?_⟩
      rw [passes, hpasses, admitted]
      simp only [hpass]
    · have htimes : requestTimes sessionId (c :: cs) = requestTimes sessionId cs := by
        simp [requestTimes, hcounts]
      obtain ⟨hhistory, hpasses⟩ := ih hrate' ((after_of_not_counts hcounts).trans hkept)
      rw [htimes]
      refine ⟨hhistory, ?_⟩
      rw [passes, if_neg fun h => hcounts h.1]
      exact hpasses

/-- A refused command uses up no budget. -/
private theorem rateWindow_refused {c : CheckCall} (hrate : c.safety.rateLimitRps = rate)
    (hkept : history sessionId = kept.map PyFloat.fin) (hcounts : c.Counts sessionId)
    (hrefused : c.refused history = true) {later : ℝ} (h : c.now ≤ later) :
    rateWindow (c.after history sessionId) (.fin later) = rateWindow (history sessionId) (.fin later) := by
  have hsession := hcounts.2
  subst hsession
  have hnot : ¬ Admits 1 (usedUp rate) kept c.now := by
    rw [← refused_eq_false_iff hrate hkept, hrefused]
    exact Bool.noConfusion
  rw [after_self hcounts.1 hrate hkept, hkept, rateWindow_map, rateWindow_map, window_request_of_not_admits h hnot]

/-- The budget parts hold for every limit. -/
theorem keepsRate_iff (hrate : ∀ c ∈ calls, c.safety.rateLimitRps = rate) :
    KeepsRate rate sessionId calls ↔ ∀ start : ℝ, ((((admitted 1 (usedUp rate) [] (requestTimes sessionId calls)).filter
      fun t => decide (start ≤ t ∧ t ≤ start + 1)).length : ℕ) : ℤ) ≤ rate := by
  have hpasses := (@historyAfter_eq .initial [] rate sessionId calls hrate rfl).2
  constructor
  · intro h start
    rw [← hpasses]
    exact h.window start
  · intro h
    constructor
    case window =>
      rw [hpasses]
      exact h
    case refused =>
      rintro before c rest rfl hcounts hrefused later hlater
      have hbefore := @historyAfter_eq .initial [] rate sessionId before
        (fun c' hc' => hrate c' (List.mem_append_left _ hc')) rfl
      rw [historyAfter_concat]
      exact rateWindow_refused (hrate c (by simp)) hbefore.1 hcounts hrefused hlater
    case others =>
      rintro before c rest rfl hcounts
      rw [historyAfter_concat]
      exact after_of_not_counts hcounts

end Run

/-! ### The limits that are kept -/

/-- A whole number of commands is a budget that is used up before it is exceeded. -/
private theorem not_usedUp_natCast {n k : ℕ} : ¬ usedUp (.fin n) k ↔ k + 1 ≤ n := by
  unfold usedUp
  simp

/-- A move in a new session at the time `now`. -/
noncomputable def sampleCall (rate : PyFloat ℝ) (now : ℝ) : CheckCall where
  now := now
  safety := { sampleSafety (PyFloat ℝ) with rateLimitRps := rate }
  command := sampleCommand (PyFloat ℝ) "A" .move (.move ⟨.forward, some ((1 : ℤ) : PyFloat ℝ), none⟩)
  currentPose := none

/-- The limiter keeps the limit in every second of every run exactly when the limit is a whole number or infinite. -/
theorem rateLimit_iff {rate : PyFloat ℝ} (hpos : 0 < rate) :
    (∀ calls : List CheckCall, (∀ c ∈ calls, c.safety.rateLimitRps = rate) →
      (calls.Pairwise fun c c' => c.now ≤ c'.now) → ∀ sessionId, KeepsRate rate sessionId calls) ↔
    rate = .posInf ∨ ∃ n : ℕ, rate = .fin n := by
  constructor
  · intro h
    cases rate with
    | posInf => exact Or.inl rfl
    | negInf => cases hpos
    | nan => cases hpos
    | fin r =>
      right
      -- as many moves at one instant as get past
      have hcalls : ∀ c ∈ List.replicate ⌈r⌉₊ (sampleCall (.fin r) 0), c.safety.rateLimitRps = .fin r := by
        intro c hc
        rw [List.eq_of_mem_replicate hc]
        rfl
      have htimes : requestTimes "session" (List.replicate ⌈r⌉₊ (sampleCall (.fin r) 0)) = List.replicate ⌈r⌉₊ 0 := by
        have hcounts : (sampleCall (.fin r) 0).Counts "session" := ⟨fun h => Operation.noConfusion h, rfl⟩
        rw [requestTimes, List.filter_replicate_of_pos (by simpa using hcounts), List.map_replicate]
        rfl
      have hbudget : ∀ i < ⌈r⌉₊, ¬ usedUp (.fin r) i := by
        intro i hi
        have hlt : (i : ℝ) < r := Nat.lt_ceil.1 hi
        simpa [usedUp] using hlt
      have hsorted : (List.replicate ⌈r⌉₊ (sampleCall (.fin r) 0)).Pairwise fun c c' => c.now ≤ c'.now :=
        List.pairwise_replicate.2 (Or.inr (le_refl _))
      have hkeeps := (keepsRate_iff hcalls).1 (h _ hcalls hsorted "session") 0
      rw [htimes, (admitted_replicate zero_le_one hbudget 0).1] at hkeeps
      have hle : (⌈r⌉₊ : ℝ) ≤ r := by simpa using hkeeps
      exact ⟨⌈r⌉₊, congrArg PyFloat.fin (le_antisymm (Nat.le_ceil r) hle)⟩
  · rintro (rfl | ⟨n, rfl⟩) calls hrate hsorted sessionId
    · exact (keepsRate_iff hrate).2 fun start => fin_le_posInf
    · rw [keepsRate_iff hrate]
      intro start
      have hbudget : ∀ k, ¬ usedUp (.fin n) k → k + 1 ≤ n := fun k => not_usedUp_natCast.1
      simpa using length_admitted_le hbudget (requestTimes_pairwise hsorted) start

/-- Three moves, one every `gap` seconds. -/
noncomputable def sampleBurst (rate : PyFloat ℝ) (gap : ℝ) : List CheckCall :=
  [sampleCall rate 0, sampleCall rate gap, sampleCall rate (gap + gap)]

/-- Of three moves within a second, the third is refused. -/
theorem rateLimit_two : KeepsRate (.fin 2) "session" (sampleBurst (.fin 2) (2 / 5)) ∧
    admitted (1 : ℝ) (usedUp (.fin 2)) [] (requestTimes "session" (sampleBurst (.fin 2) (2 / 5))) = [0, 2 / 5] := by
  have hpos : (0 : PyFloat ℝ) < .fin 2 := fin_lt_fin.2 two_pos
  constructor
  · refine (rateLimit_iff hpos).2 (Or.inr ⟨2, by norm_num⟩) _ ?_ ?_ "session"
    · simp [sampleBurst, sampleCall]
    · norm_num [sampleBurst, sampleCall]
  · have htimes : requestTimes "session" (sampleBurst (.fin 2) (2 / 5)) = [0, 2 / 5, 2 / 5 + 2 / 5] := by
      simp [sampleBurst, requestTimes, CheckCall.Counts, sampleCall, sampleCommand]
    rw [htimes]
    norm_num [admitted, Admits, request, window, usedUp]

/-- Two moves within half a second get past a limit of 1.5 commands per second. -/
theorem rateLimit_exceeded :
    ¬ KeepsRate (.fin (3 / 2)) "session" [sampleCall (.fin (3 / 2)) 0, sampleCall (.fin (3 / 2)) (1 / 2)] := by
  rw [keepsRate_iff (by simp [sampleCall])]
  intro h
  have htimes : requestTimes "session" [sampleCall (.fin (3 / 2)) 0, sampleCall (.fin (3 / 2)) (1 / 2)] =
      [0, 1 / 2] := by
    simp [requestTimes, CheckCall.Counts, sampleCall, sampleCommand]
  have hadmitted : admitted (1 : ℝ) (usedUp (.fin (3 / 2))) [] [0, 1 / 2] = [0, 1 / 2] := by
    norm_num [admitted, Admits, request, window, usedUp]
  have hcount := h 0
  rw [htimes, hadmitted] at hcount
  norm_num at hcount

end RosMcp
