import Mathlib.Data.List.Pairwise

/-!
# The bridge between the event loop and the ROS thread (`ros/bridge.py`, `ros/executor_thread.py`)

`call_ros_from_asyncio` puts a callable on the work queue of the executor thread and awaits a future.  The executor
thread runs the callables in turn and posts the outcome of each to the ready queue of the event loop
(`call_soon_threadsafe`); the loop runs that callback, which completes the future and schedules the wake-up of the task
that awaits it.  `α` is the type of the callables and `ρ` that of their outcomes; a future is identified by the number
of calls before it.

The two FIFO queues in series behave like one: `pending` lists the calls that have not been answered, and the call that
is answered next is always its head (`runReady_some`), so calls are answered in the order in which they were made.
-/

namespace RosMcp

structure BridgedCall (α : Type) where
  future : Nat
  job : α

/-- A callback of the event loop: `_set_result_if_pending` or `_set_exception_if_pending`, or the wake-up of the task
that awaits the future. -/
inductive LoopCallback (α ρ : Type)
  | setFuture (call : BridgedCall α) (outcome : ρ)
  | wakeup (call : BridgedCall α) (outcome : ρ)

structure Bridge (α ρ : Type) where
  workQueue : List (BridgedCall α)
  ready : List (LoopCallback α ρ)
  nextFuture : Nat

namespace Bridge

variable {α ρ : Type}

def initial : Bridge α ρ := ⟨[], [], 0⟩

/-- `submit` of the executor thread, from `call_ros_from_asyncio`. -/
def submit (b : Bridge α ρ) (job : α) : Bridge α ρ :=
  { b with workQueue := b.workQueue ++ [⟨b.nextFuture, job⟩], nextFuture := b.nextFuture + 1 }

/-- One turn of `_drain_work_queue`; `outcome` is what the callable returns or raises. -/
def drain (b : Bridge α ρ) (outcome : ρ) : Option (BridgedCall α × Bridge α ρ) :=
  match b.workQueue with
  | [] => none
  | call :: rest => some (call, { b with workQueue := rest, ready := b.ready ++ [.setFuture call outcome] })

/-- The event loop runs its next callback; a wake-up hands the call and its outcome to the awaiting task. -/
def runReady (b : Bridge α ρ) : Option (Option (BridgedCall α × ρ) × Bridge α ρ) :=
  match b.ready with
  | [] => none
  | .setFuture call outcome :: rest => some (none, { b with ready := rest ++ [.wakeup call outcome] })
  | .wakeup call outcome :: rest => some (some (call, outcome), { b with ready := rest })

/-! ### One queue -/

/-- The future whose task a callback wakes up. -/
def wakes : LoopCallback α ρ → Option Nat
  | .wakeup call _ => some call.future
  | .setFuture _ _ => none

/-- The future that a callback completes. -/
def completes : LoopCallback α ρ → Option Nat
  | .setFuture call _ => some call.future
  | .wakeup _ _ => none

/-- The futures of the calls that have not been answered, the next to be answered first. -/
def pending (b : Bridge α ρ) : List Nat :=
  b.ready.filterMap wakes ++ (b.ready.filterMap completes ++ b.workQueue.map BridgedCall.future)

/-- The pending calls are in the order in which they were made. -/
structure InOrder (b : Bridge α ρ) : Prop where
  sorted : b.pending.Pairwise (· < ·)
  fresh : ∀ t ∈ b.pending, t < b.nextFuture

variable {b b' : Bridge α ρ}

theorem initial_inOrder : (initial : Bridge α ρ).InOrder := by
  constructor <;> simp [initial, pending]

theorem submit_pending (b : Bridge α ρ) (job : α) : (b.submit job).pending = b.pending ++ [b.nextFuture] := by
  simp [submit, pending]

theorem InOrder.submit (h : b.InOrder) (job : α) : (b.submit job).InOrder := by
  constructor
  · rw [submit_pending, List.pairwise_append]
    refine ⟨h.sorted, List.pairwise_singleton _ _, ?_⟩
    intro t ht t' ht'
    rw [List.mem_singleton.1 ht']
    exact h.fresh t ht
  · intro t ht
    have hnext : (b.submit job).nextFuture = b.nextFuture + 1 := rfl
    rw [submit_pending, List.mem_append, List.mem_singleton] at ht
    rcases ht with ht | rfl
    · have := h.fresh t ht
      omega
    · omega

/-- A callable that is run stays pending until its task is woken up. -/
theorem drain_pending {outcome : ρ} {call : BridgedCall α} (h : b.drain outcome = some (call, b')) :
    b'.pending = b.pending := by
  unfold drain at h
  split at h
  · cases h
  · next c rest hw =>
    obtain ⟨rfl, rfl⟩ := Prod.mk.inj (Option.some.inj h)
    simp [pending, hw, wakes, completes]

theorem drain_eq {outcome : ρ} {call : BridgedCall α} (h : b.drain outcome = some (call, b')) :
    b.workQueue = call :: b'.workQueue ∧ b'.nextFuture = b.nextFuture := by
  unfold drain at h
  split at h
  · cases h
  · next c rest hw =>
    obtain ⟨rfl, rfl⟩ := Prod.mk.inj (Option.some.inj h)
    exact ⟨hw, rfl⟩

theorem InOrder.drain {outcome : ρ} {call : BridgedCall α} (h : b.InOrder) (hd : b.drain outcome = some (call, b')) :
    b'.InOrder := by
  constructor
  · rw [drain_pending hd]
    exact h.sorted
  · rw [drain_pending hd, (drain_eq hd).2]
    exact h.fresh

theorem runReady_eq {woken : Option (BridgedCall α × ρ)} (h : b.runReady = some (woken, b')) :
    b'.workQueue = b.workQueue ∧ b'.nextFuture = b.nextFuture := by
  unfold runReady at h
  split at h
  · cases h
  · obtain ⟨-, rfl⟩ := Prod.mk.inj (Option.some.inj h)
    exact ⟨rfl, rfl⟩
  · obtain ⟨-, rfl⟩ := Prod.mk.inj (Option.some.inj h)
    exact ⟨rfl, rfl⟩

/-- The completion of a future answers no call. -/
theorem runReady_none (hr : b.runReady = some (none, b')) : b'.pending = b.pending := by
  unfold runReady at hr
  split at hr
  · cases hr
  · next c o rest hready =>
    obtain ⟨-, rfl⟩ := Prod.mk.inj (Option.some.inj hr)
    simp [pending, hready, List.filterMap_cons, wakes, completes]
  · cases hr

/-- The call that is answered is the first of the pending ones. -/
theorem runReady_some {call : BridgedCall α} {outcome : ρ} (hr : b.runReady = some (some (call, outcome), b')) :
    b.pending = call.future :: b'.pending := by
  unfold runReady at hr
  split at hr
  · cases hr
  · cases hr
  · next c o rest hready =>
    obtain ⟨hc, rfl⟩ := Prod.mk.inj (Option.some.inj hr)
    obtain ⟨rfl, rfl⟩ := Prod.mk.inj (Option.some.inj hc)
    simp [pending, hready, List.filterMap_cons, wakes, completes]

/-- No call is answered before one that was made earlier. -/
theorem InOrder.runReady_some (h : b.InOrder) {call : BridgedCall α} {outcome : ρ}
    (hr : b.runReady = some (some (call, outcome), b')) :
    b'.InOrder ∧ call.future ∉ b'.pending ∧ ∀ t ∈ b.pending, call.future ≤ t := by
  have hp := Bridge.runReady_some hr
  have hsorted := h.sorted
  rw [hp, List.pairwise_cons] at hsorted
  refine ⟨⟨hsorted.2, ?_⟩, ?_, ?_⟩
  · intro t ht
    rw [(runReady_eq hr).2]
    exact h.fresh t (by rw [hp]; exact List.mem_cons_of_mem _ ht)
  · intro hmem
    exact absurd (hsorted.1 _ hmem) (Nat.lt_irrefl _)
  · intro t ht
    rw [hp, List.mem_cons] at ht
    rcases ht with rfl | ht
    · exact Nat.le_refl _
    · exact Nat.le_of_lt (hsorted.1 t ht)

theorem InOrder.runReady_none (h : b.InOrder) (hr : b.runReady = some (none, b')) : b'.InOrder := by
  constructor
  · rw [Bridge.runReady_none hr]
    exact h.sorted
  · rw [Bridge.runReady_none hr, (runReady_eq hr).2]
    exact h.fresh

end Bridge

end RosMcp
