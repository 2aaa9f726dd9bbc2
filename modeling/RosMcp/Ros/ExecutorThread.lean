import Mathlib.Data.List.Range
import RosMcp.Lib.PyFloat
import RosMcp.Lib.Run

/-!
# The executor thread and the calls that are bridged to it (`ros/executor_thread.py`, `ros/bridge.py`)

The thread alternates `spin_once` with draining its work queue, and drains the queue once more after the stop event.
An exception that leaves `spin_once`, or that leaves a work item (one that is not an `Exception`, or the
`RuntimeError` of a closed event loop), ends the thread.  A call of `call_ros_from_asyncio` creates a future and puts
its item on the queue; the item posts what its callable returned or raised to the event loop, which completes the
future unless the caller has cancelled it.  A future is identified by the number of calls before it.

Order, at-most-once and own results hold in every run (`Consistent`).  A call is lost exactly when it is submitted to a
thread that has ended, or when the thread dies with the call in its queue or its hands (`bridgedCalls_iff`).
-/

namespace RosMcp

abbrev FutureId := Nat

/-- Where the thread is in `_run` and `_drain_work_queue`; `crashed` keeps the item that an exception has left. -/
inductive ThreadPoint
  | loopTest
  | spinning
  | draining
  | running (f : FutureId)
  | finalDraining
  | finalRunning (f : FutureId)
  | exited
  | crashed (item : Option FutureId)
  deriving DecidableEq, Repr

inductive FutureState (ρ : Type)
  | pending
  | done (o : Except PyException ρ)
  | cancelled

/-- `begun` lists the items that the thread has taken from the queue and `outcomes` what they returned or raised; no
step reads them. -/
structure ExecutorThread (ρ : Type) where
  point : ThreadPoint
  stopEvent : Bool
  workQueue : List FutureId
  nextFuture : FutureId
  futures : FutureId → FutureState ρ
  posted : List (FutureId × Except PyException ρ)
  begun : List FutureId
  outcomes : List (FutureId × Except PyException ρ)

inductive ThreadAction (ρ : Type)
  | submit
  | cancelFuture (f : FutureId)
  | stop
  | test
  | spun (raised : Bool)
  | take
  | finish (o : Except PyException ρ)
  | escape
  | deliver

/-- The item that the thread has taken and not completed. -/
def ThreadPoint.item : ThreadPoint → List FutureId
  | .running f | .finalRunning f | .crashed (some f) => [f]
  | _ => []

/-- The thread has not ended. -/
def ThreadPoint.live : ThreadPoint → Bool
  | .exited | .crashed _ => false
  | _ => true

/-- A step of the thread in which nothing is raised out of it. -/
def ThreadAction.ofThread {ρ : Type} : ThreadAction ρ → Bool
  | .test | .spun false | .take | .finish _ => true
  | _ => false

namespace ExecutorThread

variable {ρ : Type}

/-- A thread that has just been started. -/
def initial : ExecutorThread ρ where
  point := .loopTest
  stopEvent := false
  workQueue := []
  nextFuture := 0
  futures _ := .pending
  posted := []
  begun := []
  outcomes := []

/-- `_set_result_if_pending` and `_set_exception_if_pending` -/
def setIfPending (s : ExecutorThread ρ) (f : FutureId) (o : Except PyException ρ) : ExecutorThread ρ :=
  match s.futures f with
  | .pending => { s with futures := Function.update s.futures f (.done o) }
  | _ => s

def step (s : ExecutorThread ρ) : ThreadAction ρ → Option (ExecutorThread ρ)
  -- `call_ros_from_asyncio` up to its await
  | .submit => some { s with workQueue := s.workQueue ++ [s.nextFuture], nextFuture := s.nextFuture + 1 }
  -- the task that awaits the future is cancelled
  | .cancelFuture f =>
    match s.futures f with
    | .pending =>
      if f < s.nextFuture then some { s with futures := Function.update s.futures f .cancelled } else none
    | _ => none
  | .stop => some { s with stopEvent := true }
  | .test =>
    match s.point with
    | .loopTest => some { s with point := if s.stopEvent then .finalDraining else .spinning }
    | _ => none
  | .spun raised =>
    match s.point with
    | .spinning => some { s with point := if raised then .crashed none else .draining }
    | _ => none
  -- `get_nowait`
  | .take =>
    match s.point, s.workQueue with
    | .draining, [] => some { s with point := .loopTest }
    | .draining, f :: rest => some { s with point := .running f, workQueue := rest, begun := s.begun ++ [f] }
    | .finalDraining, [] => some { s with point := .exited }
    | .finalDraining, f :: rest =>
      some { s with point := .finalRunning f, workQueue := rest, begun := s.begun ++ [f] }
    | _, _ => none
  | .finish o =>
    match s.point with
    | .running f =>
      some { s with point := .draining, posted := s.posted ++ [(f, o)], outcomes := s.outcomes ++ [(f, o)] }
    | .finalRunning f =>
      some { s with point := .finalDraining, posted := s.posted ++ [(f, o)], outcomes := s.outcomes ++ [(f, o)] }
    | _ => none
  | .escape =>
    match s.point with
    | .running f | .finalRunning f => some { s with point := .crashed (some f) }
    | _ => none
  -- the event loop runs the callback that was posted first
  | .deliver =>
    match s.posted with
    | [] => none
    | (f, o) :: rest => some ({ s with posted := rest }.setIfPending f o)

/-- An outcome completes a future that is pending and is dropped otherwise. -/
theorem setIfPending_cases (s : ExecutorThread ρ) (f : FutureId) (o : Except PyException ρ) :
    s.futures f = .pending ∧ s.setIfPending f o = { s with futures := Function.update s.futures f (.done o) } ∨
      s.futures f ≠ .pending ∧ s.setIfPending f o = s := by
  unfold setIfPending
  cases s.futures f with
  | pending => exact .inl ⟨rfl, rfl⟩
  | done o' => exact .inr ⟨by simp, rfl⟩
  | cancelled => exact .inr ⟨by simp, rfl⟩

/-- The steps, by what they do to the thread, its queue and the futures. -/
inductive Transition (s : ExecutorThread ρ) : ThreadAction ρ → ExecutorThread ρ → Prop
  | submitted :
      s.Transition .submit { s with workQueue := s.workQueue ++ [s.nextFuture], nextFuture := s.nextFuture + 1 }
  | futureCancelled (f : FutureId) (hpending : s.futures f = .pending) (hlt : f < s.nextFuture) :
      s.Transition (.cancelFuture f) { s with futures := Function.update s.futures f .cancelled }
  | stopped : s.Transition .stop { s with stopEvent := true }
  | moved {a : ThreadAction ρ} (p : ThreadPoint) (ha : a.ofThread = true) (hlive : s.point.live = true)
      (hitem : p.item = s.point.item) (hp : p.live = true ∨ s.workQueue = [] ∧ p.item = []) :
      s.Transition a { s with point := p }
  | died {a : ThreadAction ρ} (p : ThreadPoint) (ha : a = .spun true ∨ a = .escape) (hitem : p.item = s.point.item)
      (hp : p.live = false) : s.Transition a { s with point := p }
  | began (p : ThreadPoint) {f : FutureId} {rest : List FutureId} (hqueue : s.workQueue = f :: rest)
      (hlive : s.point.live = true) (hold : s.point.item = []) (hitem : p.item = [f]) (hp : p.live = true) :
      s.Transition .take { s with point := p, workQueue := rest, begun := s.begun ++ [f] }
  | completed (p : ThreadPoint) (o : Except PyException ρ) {f : FutureId} (hlive : s.point.live = true)
      (hold : s.point.item = [f]) (hitem : p.item = []) (hp : p.live = true) :
      s.Transition (.finish o)
        { s with point := p, posted := s.posted ++ [(f, o)], outcomes := s.outcomes ++ [(f, o)] }
  | delivered {f : FutureId} {o : Except PyException ρ} {rest : List (FutureId × Except PyException ρ)}
      (hposted : s.posted = (f, o) :: rest) : s.Transition .deliver ({ s with posted := rest }.setIfPending f o)

private theorem step_transition {s t : ExecutorThread ρ} {a : ThreadAction ρ} (hstep : s.step a = some t) :
    s.Transition a t := by
  cases a with
  | submit =>
    cases hstep
    exact .submitted
  | cancelFuture f =>
    simp only [step] at hstep
    split at hstep
    · next hpending =>
      split at hstep
      · next hlt =>
        cases hstep
        exact .futureCancelled f hpending hlt
      · cases hstep
    · cases hstep
  | stop =>
    cases hstep
    exact .stopped
  | test =>
    simp only [step] at hstep
    split at hstep
    · next hp =>
      cases hstep
      refine .moved _ rfl (by rw [hp]; rfl) ?_ (.inl ?_)
      · rw [hp]
        cases s.stopEvent <;> rfl
      · cases s.stopEvent <;> rfl
    · cases hstep
  | spun raised =>
    simp only [step] at hstep
    split at hstep
    · next hp =>
      cases hstep
      cases raised with
      | false => exact .moved _ rfl (by rw [hp]; rfl) (by rw [hp]; rfl) (.inl rfl)
      | true => exact .died _ (.inl rfl) (by rw [hp]; rfl) rfl
    · cases hstep
  | take =>
    simp only [step] at hstep
    split at hstep
    · next hp hqueue =>
      cases hstep
      exact .moved _ rfl (by rw [hp]; rfl) (by rw [hp]; rfl) (.inl rfl)
    · next f rest hp hqueue =>
      cases hstep
      exact .began _ hqueue (by rw [hp]; rfl) (by rw [hp]; rfl) rfl rfl
    · next hp hqueue =>
      cases hstep
      exact .moved _ rfl (by rw [hp]; rfl) (by rw [hp]; rfl) (.inr ⟨hqueue, rfl⟩)
    · next f rest hp hqueue =>
      cases hstep
      exact .began _ hqueue (by rw [hp]; rfl) (by rw [hp]; rfl) rfl rfl
    · cases hstep
  | finish o =>
    simp only [step] at hstep
    split at hstep
    · next f hp =>
      cases hstep
      exact .completed _ o (by rw [hp]; rfl) (by rw [hp]; rfl) rfl rfl
    · next f hp =>
      cases hstep
      exact .completed _ o (by rw [hp]; rfl) (by rw [hp]; rfl) rfl rfl
    · cases hstep
  | escape =>
    simp only [step] at hstep
    split at hstep
    · next f hp =>
      cases hstep
      exact .died _ (.inr rfl) (by rw [hp]; rfl) rfl
    · next f hp =>
      cases hstep
      exact .died _ (.inr rfl) (by rw [hp]; rfl) rfl
    · cases hstep
  | deliver =>
    simp only [step] at hstep
    split at hstep
    · cases hstep
    · next f o rest hposted =>
      cases hstep
      exact .delivered hposted

/-! ### The guarantees -/

/-- Items are begun in the order of their submission, each at most once, and completed in that order. -/
def InSubmissionOrder (s : ExecutorThread ρ) : Prop :=
  s.begun.Pairwise (· < ·) ∧ s.outcomes.map Prod.fst <+: s.begun

/-- An item that was completed completes its own future with its own outcome, unless the caller has cancelled it, and a
future is completed in no other way. -/
def OwnOutcomes (s : ExecutorThread ρ) : Prop :=
  (∀ f o, (f, o) ∈ s.outcomes → (f, o) ∈ s.posted ∨ s.futures f = .done o ∨ s.futures f = .cancelled) ∧
    ∀ f o, s.futures f = .done o → (f, o) ∈ s.outcomes

/-- The future was created, it is pending, and no outcome for it is on its way to the event loop. -/
def Unresolved (s : ExecutorThread ρ) (f : FutureId) : Prop :=
  f < s.nextFuture ∧ s.futures f = .pending ∧ ∀ o, (f, o) ∉ s.posted

/-- The item is being executed. -/
def Running (s : ExecutorThread ρ) (f : FutureId) : Prop := s.point = .running f ∨ s.point = .finalRunning f

/-- The thread is still going to take the item from its queue: it does so by steps of its own. -/
def WillDrain (s : ExecutorThread ρ) (f : FutureId) : Prop :=
  ∃ as t, (∀ a ∈ as, a.ofThread = true) ∧ StepSystem.run step s as = some t ∧ f ∈ t.begun

/-- No call is lost. -/
def NoneLost (s : ExecutorThread ρ) : Prop :=
  ∀ f, s.Unresolved f → s.Running f ∨ f ∈ s.workQueue ∧ s.WillDrain f

/-- What is promised about every state. -/
structure Consistent (s : ExecutorThread ρ) : Prop where
  order : s.InSubmissionOrder
  outcomes : s.OwnOutcomes
  noneLost : s.NoneLost

/-! ### The invariant -/

/-- Every item is completed, in the hands of the thread or in its queue, in the order of the submissions, and every
completed item has its outcome on its way. -/
structure Inv (s : ExecutorThread ρ) : Prop where
  order : s.begun ++ s.workQueue = List.range s.nextFuture
  item : s.begun = s.outcomes.map Prod.fst ++ s.point.item
  own : ∀ f o, (f, o) ∈ s.outcomes → (f, o) ∈ s.posted ∨ s.futures f = .done o ∨ s.futures f = .cancelled
  posted : ∀ f o, (f, o) ∈ s.posted → (f, o) ∈ s.outcomes
  done : ∀ f o, s.futures f = .done o → (f, o) ∈ s.outcomes
  fresh : ∀ f, s.nextFuture ≤ f → s.futures f = .pending

variable {s t : ExecutorThread ρ}

private theorem initial_inv : (initial : ExecutorThread ρ).Inv where
  order := rfl
  item := rfl
  own := fun f o h => absurd h List.not_mem_nil
  posted := fun f o h => absurd h List.not_mem_nil
  done := by rintro f o ⟨⟩
  fresh := fun _ _ => rfl

/-- A step that moves the thread without an item. -/
private theorem Inv.move (h : s.Inv) (p : ThreadPoint) (b : Bool) (hp : p.item = s.point.item) :
    Inv { s with point := p, stopEvent := b } := by
  have hitem := h.item
  rw [← hp] at hitem
  exact ⟨h.order, hitem, h.own, h.posted, h.done, h.fresh⟩

/-- The thread takes the first item of the queue. -/
private theorem Inv.begins (h : s.Inv) {f : FutureId} {rest : List FutureId} (hqueue : s.workQueue = f :: rest)
    (p : ThreadPoint) (hold : s.point.item = []) (hp : p.item = [f]) :
    Inv { s with point := p, workQueue := rest, begun := s.begun ++ [f] } := by
  have horder := h.order
  have hitem := h.item
  rw [hqueue] at horder
  rw [hold, List.append_nil] at hitem
  refine ⟨?_, ?_, h.own, h.posted, h.done, h.fresh⟩
  · simp [horder]
  · simp only [hp]
    rw [hitem]

/-- The item in the hands of the thread is completed. -/
private theorem Inv.finishes (h : s.Inv) {f : FutureId} (o : Except PyException ρ) (p : ThreadPoint)
    (hold : s.point.item = [f])
    (hp : p.item = []) :
    Inv { s with point := p, posted := s.posted ++ [(f, o)], outcomes := s.outcomes ++ [(f, o)] } := by
  have hitem := h.item
  rw [hold] at hitem
  refine ⟨h.order, ?_, ?_, ?_, ?_, h.fresh⟩
  · simp [hp, hitem]
  · intro g o' hmem
    rcases List.mem_append.1 hmem with hmem | hmem
    · rcases h.own g o' hmem with hposted | hfuture
      · exact .inl (List.mem_append_left _ hposted)
      · exact .inr hfuture
    · exact .inl (List.mem_append_right _ hmem)
  · intro g o' hmem
    rcases List.mem_append.1 hmem with hmem | hmem
    · exact List.mem_append_left _ (h.posted g o' hmem)
    · exact List.mem_append_right _ hmem
  · intro g o' hdone
    exact List.mem_append_left _ (h.done g o' hdone)

/-- An item has one outcome. -/
private theorem Inv.outcome_unique (h : s.Inv) {f : FutureId} {o o' : Except PyException ρ} (ho : (f, o) ∈ s.outcomes)
    (ho' : (f, o') ∈ s.outcomes) : o = o' := by
  have hnodup : (s.outcomes.map Prod.fst).Nodup := by
    have hrange : (s.begun ++ s.workQueue).Nodup := by
      rw [h.order]
      exact List.nodup_range
    rw [h.item] at hrange
    exact (List.nodup_append.1 (List.nodup_append.1 hrange).1).1
  have hinj := List.inj_on_of_nodup_map hnodup ho ho' rfl
  exact (Prod.mk.inj hinj).2

private theorem Inv.delivers (h : s.Inv) {f : FutureId} {o : Except PyException ρ}
    {rest : List (FutureId × Except PyException ρ)} (hposted : s.posted = (f, o) :: rest) :
    Inv ({ s with posted := rest }.setIfPending f o) := by
  have hmem : (f, o) ∈ s.outcomes := h.posted f o (by rw [hposted]; exact List.mem_cons_self)
  have hrest : ∀ g o', (g, o') ∈ rest → (g, o') ∈ s.outcomes := by
    intro g o' hr
    exact h.posted g o' (by rw [hposted]; exact List.mem_cons_of_mem _ hr)
  -- an outcome that was posted is still posted, or it is the one that is delivered
  have hown : ∀ g o', (g, o') ∈ s.outcomes →
      g = f ∧ o' = o ∨ (g, o') ∈ rest ∨ s.futures g = .done o' ∨ s.futures g = .cancelled := by
    intro g o' ho'
    rcases h.own g o' ho' with hp | hfuture
    · rw [hposted, List.mem_cons] at hp
      rcases hp with heq | hp
      · exact .inl (Prod.mk.inj heq)
      · exact .inr (.inl hp)
    · exact .inr (.inr hfuture)
  rcases setIfPending_cases { s with posted := rest } f o with ⟨-, hset⟩ | ⟨hf, hset⟩
  · rw [hset]
    have hlt : f < s.nextFuture := by
      rw [← List.mem_range, ← h.order, h.item, List.append_assoc]
      exact List.mem_append_left _ (List.mem_map.2 ⟨_, hmem, rfl⟩)
    refine ⟨h.order, h.item, ?_, hrest, ?_, ?_⟩
    · intro g o' ho'
      by_cases hg : g = f
      · subst hg
        right; left
        rw [h.outcome_unique ho' hmem]
        exact Function.update_self ..
      · rcases hown g o' ho' with ⟨hgf, -⟩ | hr | hfuture
        · exact absurd hgf hg
        · exact .inl hr
        · right
          simpa [Function.update_of_ne hg] using hfuture
    · intro g o' hdone
      by_cases hg : g = f
      · subst hg
        have hdone' : FutureState.done o = .done o' := by simpa using hdone
        rw [← FutureState.done.inj hdone']
        exact hmem
      · exact h.done g o' (by simpa [Function.update_of_ne hg] using hdone)
    · intro g hg
      have hne : g ≠ f := by
        rintro rfl
        exact absurd hlt (Nat.not_lt.2 hg)
      simpa [Function.update_of_ne hne] using h.fresh g hg
  · rw [hset]
    refine ⟨h.order, h.item, ?_, hrest, h.done, h.fresh⟩
    intro g o' ho'
    rcases hown g o' ho' with ⟨rfl, rfl⟩ | hr | hfuture
    · right
      cases hg : s.futures g with
      | pending => exact absurd hg hf
      | done o₁ => exact .inl (by rw [h.outcome_unique ho' (h.done g o₁ hg)])
      | cancelled => exact .inr rfl
    · exact .inl hr
    · exact .inr hfuture

/-- The caller of an item cancels its future. -/
private theorem Inv.cancels (h : s.Inv) {f : FutureId} (hlt : f < s.nextFuture) :
    Inv { s with futures := Function.update s.futures f .cancelled } := by
  refine ⟨h.order, h.item, ?_, h.posted, ?_, ?_⟩
  · intro g o ho
    by_cases hg : g = f
    · subst hg
      exact .inr (.inr (Function.update_self ..))
    · rcases h.own g o ho with hp | hfuture
      · exact .inl hp
      · right
        simpa [Function.update_of_ne hg] using hfuture
  · intro g o hdone
    by_cases hg : g = f
    · subst hg
      simp at hdone
    · exact h.done g o (by simpa [Function.update_of_ne hg] using hdone)
  · intro g hg
    have hne : g ≠ f := by
      rintro rfl
      exact absurd hlt (Nat.not_lt.2 hg)
    simpa [Function.update_of_ne hne] using h.fresh g hg

/-- One step keeps the invariant. -/
theorem Inv.step {a : ThreadAction ρ} (h : s.Inv) (hstep : s.step a = some t) : t.Inv := by
  cases step_transition hstep with
  | submitted =>
    refine ⟨?_, h.item, h.own, h.posted, h.done, fun f hf => h.fresh f (Nat.le_of_succ_le hf)⟩
    rw [← List.append_assoc, h.order, List.range_succ]
  | futureCancelled f hpending hlt => exact h.cancels hlt
  | stopped => exact h.move s.point true rfl
  | moved p ha hlive hitem hp => exact h.move p s.stopEvent hitem
  | died p ha hitem hp => exact h.move p s.stopEvent hitem
  | began p hqueue hlive hold hitem hp => exact h.begins hqueue p hold hitem
  | completed p o hlive hold hitem hp => exact h.finishes o p hold hitem
  | delivered hposted => exact h.delivers hposted

private theorem Inv.inSubmissionOrder (h : s.Inv) : s.InSubmissionOrder := by
  constructor
  · have hrange : (s.begun ++ s.workQueue).Pairwise (· < ·) := by
      rw [h.order]
      exact List.pairwise_lt_range
    exact (List.pairwise_append.1 hrange).1
  · exact ⟨s.point.item, h.item.symm⟩

/-- A future without an outcome belongs to an item in the queue or in the hands of the thread. -/
private theorem Inv.unresolved (h : s.Inv) {f : FutureId}
    (hf : s.Unresolved f) : f ∈ s.workQueue ∨ f ∈ s.point.item := by
  obtain ⟨hlt, hpending, hposted⟩ := hf
  have hmem : f ∈ s.begun ++ s.workQueue := by
    rw [h.order]
    exact List.mem_range.2 hlt
  rcases List.mem_append.1 hmem with hbegun | hqueue
  · right
    rw [h.item] at hbegun
    rcases List.mem_append.1 hbegun with hout | hitem
    · obtain ⟨⟨g, o⟩, ho, rfl⟩ := List.mem_map.1 hout
      rcases h.own g o ho with hp | hdone | hcancelled
      · exact absurd hp (hposted o)
      · rw [hpending] at hdone
        cases hdone
      · rw [hpending] at hcancelled
        cases hcancelled
    · exact hitem
  · exact .inl hqueue

/-- What is waiting or in the hands of the thread has no outcome. -/
private theorem Inv.not_posted (h : s.Inv) {f : FutureId} (hf : f ∈ s.workQueue ∨ f ∈ s.point.item) :
    f < s.nextFuture ∧ ∀ o, (f, o) ∉ s.posted := by
  have hrange : (s.begun ++ s.workQueue).Nodup := by
    rw [h.order]
    exact List.nodup_range
  rw [h.item, List.append_assoc] at hrange
  have hmem : f ∈ s.point.item ++ s.workQueue := by
    rcases hf with hq | hi
    · exact List.mem_append_right _ hq
    · exact List.mem_append_left _ hi
  constructor
  · rw [← List.mem_range, ← h.order, h.item, List.append_assoc]
    exact List.mem_append_right _ hmem
  · intro o ho
    have hout : f ∈ s.outcomes.map Prod.fst := List.mem_map.2 ⟨_, h.posted f o ho, rfl⟩
    exact (List.nodup_append.1 hrange).2.2 f hout f hmem rfl

/-! ### What the thread is going to drain -/

private theorem WillDrain.of_step {a : ThreadAction ρ} {f : FutureId} (ha : a.ofThread = true)
    (hstep : s.step a = some t)
    (h : t.WillDrain f) : s.WillDrain f := by
  obtain ⟨as, u, has, hrun, hmem⟩ := h
  refine ⟨a :: as, u, ?_, StepSystem.run_cons.2 ⟨t, hstep, hrun⟩, hmem⟩
  intro b hb
  rcases List.mem_cons.1 hb with rfl | hb
  · exact ha
  · exact has b hb

/-- What an item raises in the thread's way to the items behind it does not matter. -/
def someExc : PyException := ⟨.runtimeError, ""⟩

/-- A thread that drains its queue gets to every item in it, one after the other. -/
private theorem willDrain_of_draining {f : FutureId} {post : List FutureId} (pre : List FutureId) :
    ∀ s : ExecutorThread ρ, s.point = .draining ∨ s.point = .finalDraining → s.workQueue = pre ++ f :: post →
      s.WillDrain f := by
  induction pre with
  | nil =>
    intro s hpoint hqueue
    rw [List.nil_append] at hqueue
    rcases hpoint with hp | hp
    · have hstep : s.step .take =
          some { s with point := .running f, workQueue := post, begun := s.begun ++ [f] } := by
        simp only [ExecutorThread.step, hp, hqueue]
      exact .of_step rfl hstep ⟨[], _, by simp, rfl, by simp⟩
    · have hstep : s.step .take =
          some { s with point := .finalRunning f, workQueue := post, begun := s.begun ++ [f] } := by
        simp only [ExecutorThread.step, hp, hqueue]
      exact .of_step rfl hstep ⟨[], _, by simp, rfl, by simp⟩
  | cons g pre ih =>
    intro s hpoint hqueue
    rw [List.cons_append] at hqueue
    rcases hpoint with hp | hp
    · have hstep : s.step .take =
          some { s with point := .running g, workQueue := pre ++ f :: post, begun := s.begun ++ [g] } := by
        simp only [ExecutorThread.step, hp, hqueue]
      refine .of_step rfl hstep ?_
      exact .of_step (a := .finish (.error someExc)) rfl rfl (ih _ (.inl rfl) rfl)
    · have hstep : s.step .take =
          some { s with point := .finalRunning g, workQueue := pre ++ f :: post, begun := s.begun ++ [g] } := by
        simp only [ExecutorThread.step, hp, hqueue]
      refine .of_step rfl hstep ?_
      exact .of_step (a := .finish (.error someExc)) rfl rfl (ih _ (.inr rfl) rfl)

/-- A thread that has not ended is going to drain every item in its queue. -/
private theorem willDrain_of_live (hlive : s.point.live = true) {f : FutureId}
    (hf : f ∈ s.workQueue) : s.WillDrain f := by
  obtain ⟨pre, post, hqueue⟩ := List.append_of_mem hf
  have spinning : ∀ u : ExecutorThread ρ, u.point = .spinning → u.workQueue = s.workQueue → u.WillDrain f := by
    intro u hp hq
    have hstep : u.step (.spun false) = some { u with point := .draining } := by
      simp [ExecutorThread.step, hp]
    exact .of_step rfl hstep (willDrain_of_draining pre _ (.inl rfl) (hq.trans hqueue))
  cases hp : s.point with
  | loopTest =>
    cases hstop : s.stopEvent with
    | true =>
      have hstep : s.step .test = some { s with point := .finalDraining } := by
        simp [ExecutorThread.step, hp, hstop]
      exact .of_step rfl hstep (willDrain_of_draining pre _ (.inr rfl) hqueue)
    | false =>
      have hstep : s.step .test = some { s with point := .spinning } := by
        simp [ExecutorThread.step, hp, hstop]
      exact .of_step rfl hstep (spinning _ rfl rfl)
  | spinning => exact spinning s hp rfl
  | draining => exact willDrain_of_draining pre s (.inl hp) hqueue
  | finalDraining => exact willDrain_of_draining pre s (.inr hp) hqueue
  | running g =>
    have hstep : s.step (.finish (.error someExc)) = some { s with
        point := .draining
        posted := s.posted ++ [(g, .error someExc)]
        outcomes := s.outcomes ++ [(g, .error someExc)] } := by
      simp only [ExecutorThread.step, hp]
    exact .of_step rfl hstep (willDrain_of_draining pre _ (.inl rfl) hqueue)
  | finalRunning g =>
    have hstep : s.step (.finish (.error someExc)) = some { s with
        point := .finalDraining
        posted := s.posted ++ [(g, .error someExc)]
        outcomes := s.outcomes ++ [(g, .error someExc)] } := by
      simp only [ExecutorThread.step, hp]
    exact .of_step rfl hstep (willDrain_of_draining pre _ (.inr rfl) hqueue)
  | exited | crashed item =>
    rw [hp] at hlive
    cases hlive

/-- A thread that has ended takes no item any more. -/
private theorem not_willDrain_of_dead (h : s.Inv) (hdead : s.point.live = false) {f : FutureId} (hf : f ∈ s.workQueue) :
    ¬ s.WillDrain f := by
  rintro ⟨as, t, has, hrun, hmem⟩
  cases as with
  | nil =>
    obtain rfl : s = t := by simpa using hrun
    have hrange : (s.begun ++ s.workQueue).Nodup := by
      rw [h.order]
      exact List.nodup_range
    exact (List.nodup_append.1 hrange).2.2 f hmem f hf rfl
  | cons a as =>
    obtain ⟨u, hstep, -⟩ := StepSystem.run_cons.1 hrun
    have ha := has a List.mem_cons_self
    cases step_transition hstep with
    | moved p ha' hlive | began p hqueue hlive | completed p o hlive =>
      rw [hdead] at hlive
      cases hlive
    | died p ha' => rcases ha' with rfl | rfl <;> cases ha
    | submitted | futureCancelled | stopped | delivered => cases ha

/-- No call is lost exactly when the thread lives, or nobody awaits what it has left. -/
theorem Inv.noneLost_iff (h : s.Inv) :
    s.NoneLost ↔ s.point.live = true ∨ ∀ f, f ∈ s.workQueue ∨ f ∈ s.point.item → s.futures f ≠ .pending := by
  have unresolved : ∀ f, f ∈ s.workQueue ∨ f ∈ s.point.item → s.futures f = .pending → s.Unresolved f := by
    intro f hf hpending
    obtain ⟨hlt, hposted⟩ := h.not_posted hf
    exact ⟨hlt, hpending, hposted⟩
  constructor
  · intro hnone
    by_cases hlive : s.point.live = true
    · exact .inl hlive
    right
    rw [Bool.not_eq_true] at hlive
    intro f hf hpending
    rcases hnone f (unresolved f hf hpending) with hrunning | ⟨hqueue, hdrain⟩
    · rcases hrunning with hp | hp <;> rw [hp] at hlive <;> cases hlive
    · exact not_willDrain_of_dead h hlive hqueue hdrain
  · rintro (hlive | hnobody) f hf
    · rcases h.unresolved hf with hqueue | hitem
      · exact .inr ⟨hqueue, willDrain_of_live hlive hqueue⟩
      · left
        cases hp : s.point with
        | running g =>
          rw [hp] at hitem
          exact .inl (by rw [hp, List.mem_singleton.1 hitem])
        | finalRunning g =>
          rw [hp] at hitem
          exact .inr (by rw [hp, List.mem_singleton.1 hitem])
        | crashed item =>
          rw [hp] at hlive
          cases hlive
        | loopTest | spinning | draining | finalDraining | exited =>
          rw [hp] at hitem
          cases hitem
    · exact absurd hf.2.1 (hnobody f (h.unresolved hf))

/-! ### When no call is lost -/

/-- Nothing awaited is in the queue or in the hands of the thread. -/
def Idle (s : ExecutorThread ρ) : Prop := ∀ f, f ∈ s.workQueue ∨ f ∈ s.point.item → s.futures f ≠ .pending

/-- Calls are submitted while the thread lives, and an exception leaves `spin_once` or an item only when nobody awaits
what the thread leaves behind. -/
def Careful (s : ExecutorThread ρ) : ThreadAction ρ → Prop
  | .submit => s.point.live = true
  | .spun true => s.Idle
  | .escape => s.Idle
  | _ => True

/-- What the thread does itself is careful. -/
private theorem careful_of_thread {a : ThreadAction ρ} (ha : a.ofThread = true) : s.Careful a := by
  cases a with
  | spun raised =>
    cases raised with
    | false => trivial
    | true => cases ha
  | submit | escape => cases ha
  | _ => trivial

/-- A step that completes or cancels futures and leaves the thread where it is. -/
private theorem NoneLost.of_futures (h : s.Inv) (ht : t.Inv) (hnone : s.NoneLost) (hpoint : t.point = s.point)
    (hqueue : t.workQueue = s.workQueue) (hfutures : ∀ f, t.futures f = .pending → s.futures f = .pending) :
    t.NoneLost := by
  rw [h.noneLost_iff] at hnone
  rw [ht.noneLost_iff, hpoint, hqueue]
  rcases hnone with hlive | hidle
  · exact .inl hlive
  · exact .inr fun f hf hpending => hidle f hf (hfutures f hpending)

/-- A future that is pending after another was completed or cancelled was pending before. -/
private theorem pending_of_update {futures : FutureId → FutureState ρ} {f g : FutureId} {v : FutureState ρ}
    (hv : v ≠ .pending) (hg : Function.update futures f v g = .pending) : futures g = .pending := by
  by_cases hne : g = f
  · subst hne
    rw [Function.update_self] at hg
    exact absurd hg hv
  · rwa [Function.update_of_ne hne] at hg

/-- From a state in which no call is lost, a step loses none exactly when it is careful. -/
private theorem noneLost_step {a : ThreadAction ρ} (h : s.Inv) (hnone : s.NoneLost) (hstep : s.step a = some t) :
    t.NoneLost ↔ s.Careful a := by
  have ht := h.step hstep
  have lives : t.point.live = true → t.NoneLost := fun hlive => ht.noneLost_iff.2 (.inl hlive)
  -- the thread dies with the queue and the item that it had
  have dies : t.point.live = false → t.point.item = s.point.item → t.workQueue = s.workQueue → t.futures = s.futures →
      (t.NoneLost ↔ s.Idle) := by
    intro hdead hitem hqueue hfutures
    rw [ht.noneLost_iff, hdead, hitem, hqueue, hfutures]
    constructor
    · rintro (⟨⟨⟩⟩ | hidle)
      exact hidle
    · exact .inr
  cases step_transition hstep with
  | submitted =>
    rw [ht.noneLost_iff]
    constructor
    · rintro (hlive | hidle)
      · exact hlive
      · exact absurd (h.fresh _ (Nat.le_refl _))
          (hidle s.nextFuture (.inl (List.mem_append_right _ (List.mem_singleton_self _))))
    · exact .inl
  | futureCancelled f hpending hlt =>
    refine ⟨fun _ => trivial, fun _ => NoneLost.of_futures h ht hnone rfl rfl ?_⟩
    exact fun g => pending_of_update (by simp)
  | stopped => exact ⟨fun _ => trivial, fun _ => NoneLost.of_futures h ht hnone rfl rfl (fun _ => id)⟩
  | moved p ha hlive hitem hp =>
    refine ⟨fun _ => careful_of_thread ha, fun _ => ?_⟩
    rcases hp with hp | ⟨hqueue, hnoItem⟩
    · exact lives hp
    · -- the thread leaves with an empty queue
      refine ht.noneLost_iff.2 (.inr ?_)
      rintro f (hf | hf)
      · rw [hqueue] at hf
        cases hf
      · rw [hnoItem] at hf
        cases hf
  | died p ha hitem hp => rcases ha with rfl | rfl <;> exact dies hp hitem rfl rfl
  | began p hqueue hlive hold hitem hp => exact ⟨fun _ => trivial, fun _ => lives hp⟩
  | completed p o hlive hold hitem hp => exact ⟨fun _ => trivial, fun _ => lives hp⟩
  | @delivered f o rest hposted =>
    refine ⟨fun _ => trivial, fun _ => ?_⟩
    rcases setIfPending_cases { s with posted := rest } f o with ⟨-, hset⟩ | ⟨-, hset⟩
    · rw [hset] at ht ⊢
      exact NoneLost.of_futures h ht hnone rfl rfl fun g => pending_of_update (by simp)
    · rw [hset] at ht ⊢
      exact NoneLost.of_futures h ht hnone rfl rfl (fun _ => id)

private theorem inv_run {as : List (ThreadAction ρ)} (h : StepSystem.run step initial as = some s) : s.Inv :=
  StepSystem.run_invariant (fun _ _ _ hs hstep => Inv.step hs hstep) initial_inv h

private theorem initial_noneLost : (initial : ExecutorThread ρ).NoneLost :=
  initial_inv.noneLost_iff.2 (.inl rfl)

/-- In every run, items are executed in the order of their submission, each at most once, and complete their own futures
with their own outcomes; and no state of the run has lost a call if and only if every step was careful. -/
theorem bridgedCalls_iff {as : List (ThreadAction ρ)} (hrun : StepSystem.run step initial as = some s) :
    (∀ as₁ as₂ u, as = as₁ ++ as₂ → StepSystem.run step initial as₁ = some u → u.Consistent) ↔
      StepSystem.Along step Careful initial as := by
  rw [← StepSystem.throughout_iff_along (fun _ _ _ hs hstep => Inv.step hs hstep)
    (fun _ _ _ hs hnone hstep => noneLost_step hs hnone hstep) initial_inv initial_noneLost hrun]
  constructor
  · intro hall as₁ as₂ u has hu
    exact (hall as₁ as₂ u has hu).noneLost
  · intro hnone as₁ as₂ u has hu
    have hinv := inv_run hu
    exact ⟨hinv.inSubmissionOrder, ⟨hinv.own, hinv.done⟩, hnone as₁ as₂ u has hu⟩

/-! ### A callback that raises, and a late call -/

/-- `spin_once` raises while a call is waiting, and a call is submitted after the final drain. -/
theorem bridgedCalls_open :
    (∃ s : ExecutorThread Unit, StepSystem.run step initial [.test, .submit, .spun true] = some s ∧
      s.Unresolved 0 ∧ ¬ s.Running 0 ∧ ¬ s.WillDrain 0) ∧
    ∃ s : ExecutorThread Unit, StepSystem.run step initial [.stop, .test, .take, .submit] = some s ∧
      s.Unresolved 0 ∧ ¬ s.Running 0 ∧ ¬ s.WillDrain 0 := by
  constructor
  · obtain ⟨s, hrun, hnext, hfuture, hposted, hpoint, hqueue⟩ : ∃ s : ExecutorThread Unit,
        StepSystem.run step initial [.test, .submit, .spun true] = some s ∧ s.nextFuture = 1 ∧
          s.futures 0 = .pending ∧ s.posted = [] ∧ s.point = .crashed none ∧ s.workQueue = [0] :=
      ⟨_, rfl, rfl, rfl, rfl, rfl, rfl⟩
    refine ⟨s, hrun, ⟨by rw [hnext]; decide, hfuture, by simp [hposted]⟩, ?_, ?_⟩
    · simp [Running, hpoint]
    · exact not_willDrain_of_dead (inv_run hrun) (by rw [hpoint]; rfl) (by simp [hqueue])
  · obtain ⟨s, hrun, hnext, hfuture, hposted, hpoint, hqueue⟩ : ∃ s : ExecutorThread Unit,
        StepSystem.run step initial [.stop, .test, .take, .submit] = some s ∧ s.nextFuture = 1 ∧
          s.futures 0 = .pending ∧ s.posted = [] ∧ s.point = .exited ∧ s.workQueue = [0] :=
      ⟨_, rfl, rfl, rfl, rfl, rfl, rfl⟩
    refine ⟨s, hrun, ⟨by rw [hnext]; decide, hfuture, by simp [hposted]⟩, ?_, ?_⟩
    · simp [Running, hpoint]
    · exact not_willDrain_of_dead (inv_run hrun) (by rw [hpoint]; rfl) (by simp [hqueue])

/-- Two calls, the second of which raises, and a callback that raises when both have been answered. -/
def sampleCalls : List (ThreadAction Unit) :=
  [.submit, .test, .submit, .spun false, .take, .finish (.ok ()), .take, .deliver, .finish (.error someExc), .take,
    .test, .deliver, .spun true]

theorem bridgedCalls_sample :
    (∃ s, StepSystem.run step initial sampleCalls = some s ∧ s.workQueue = []) ∧
      ∀ as₁ as₂ u, sampleCalls = as₁ ++ as₂ → StepSystem.run step initial as₁ = some u → u.Consistent := by
  obtain ⟨s, hrun, hqueue⟩ : ∃ s, StepSystem.run step initial sampleCalls = some s ∧ s.workQueue = [] :=
    ⟨_, rfl, rfl⟩
  refine ⟨⟨s, hrun, hqueue⟩, (bridgedCalls_iff hrun).2 ?_⟩
  refine .cons rfl rfl (.cons trivial rfl (.cons rfl rfl (.cons trivial rfl (.cons trivial rfl (.cons trivial rfl
    (.cons trivial rfl (.cons trivial rfl (.cons trivial rfl (.cons trivial rfl (.cons trivial rfl
    (.cons trivial rfl (.cons ?_ rfl .nil))))))))))))
  rintro f (hf | hf) <;> cases hf

end ExecutorThread

end RosMcp
