import Mathlib.Data.Finset.Basic
import RosMcp.Lib.PyFloat
import RosMcp.Lib.Run

/-!
# The claims of the subscription manager (`subscriptions/manager.py`)

`ensure_subscribed` claims its topic under the lock, then asks for the running event loop and schedules a task, which
has the ROS thread create the subscription and gives the claim back when that raises.  A claim excludes every other
call, so a topic is subscribed at most once in every run.  But the claim is given back in no other case: it is lost with
a call outside an event loop, which raises after the claim, and with a task that is cancelled before its creation has
succeeded.  The claims are exact throughout a run exactly when no step of it is of this kind (`claims_exact_iff`).
-/

namespace RosMcp

abbrev CreationId := Nat

/-- How far a call that has claimed its topic has got. -/
inductive CreationStage
  /-- The call is before `get_running_loop`, inside an event loop or not. -/
  | claimed (loopRunning : Bool)
  /-- The task is in `_pending_tasks` and has not run yet. -/
  | scheduled
  /-- The task awaits `_create_subscription_sync`, which waits for the ROS thread. -/
  | awaiting
  /-- The subscription exists, and the task has not been resumed yet. -/
  | created
  /-- The creation has raised, and the task has not been resumed yet. -/
  | failed (exc : PyException)
  /-- The task was cancelled while `_create_subscription_sync` waits for the ROS thread. -/
  | abandoned
  | ended
  deriving DecidableEq, Repr

structure Creation where
  topic : String
  typeName : String
  stage : CreationStage

/-- `_claimed_topics`, the calls that have claimed a topic, and the subscriptions that the node was asked for. -/
structure SubscriptionManager where
  claimedTopics : Finset String
  creations : CreationId → Option Creation
  nextCreation : CreationId
  subscriptions : List (String × String)

inductive SubscriptionAction
  | ensureSubscribed (topic typeName : String) (loopRunning : Bool)
  | getRunningLoop (c : CreationId)
  | start (c : CreationId)
  | createSubscription (c : CreationId) (raised : Option PyException)
  | resume (c : CreationId)
  | cancel (c : CreationId)

/-- The call or its task has not ended. -/
def CreationStage.live : CreationStage → Bool
  | .ended => false
  | _ => true

/-- The creation is going to be attempted, or its outcome is on its way. -/
def CreationStage.pending : CreationStage → Bool
  | .claimed loopRunning => loopRunning
  | .ended => false
  | _ => true

namespace SubscriptionManager

def initial : SubscriptionManager := ⟨∅, fun _ => none, 0, []⟩

/-- The first step of `ensure_subscribed` for a topic that is not claimed. -/
def claim (s : SubscriptionManager) (topic typeName : String) (loopRunning : Bool) : SubscriptionManager :=
  { s with
    claimedTopics := insert topic s.claimedTopics
    creations := Function.update s.creations s.nextCreation (some ⟨topic, typeName, .claimed loopRunning⟩)
    nextCreation := s.nextCreation + 1 }

def setStage (s : SubscriptionManager) (c : CreationId) (x : Creation) (stage : CreationStage) : SubscriptionManager :=
  { s with creations := Function.update s.creations c (some { x with stage }) }

def step (s : SubscriptionManager) : SubscriptionAction → Option SubscriptionManager
  | .ensureSubscribed topic typeName loopRunning =>
    if topic ∈ s.claimedTopics then some s else some (s.claim topic typeName loopRunning)
  | .getRunningLoop c =>
    (s.creations c).bind fun x =>
      match x.stage with
      | .claimed true => some (s.setStage c x .scheduled)
      -- `RuntimeError: no running event loop`
      | .claimed false => some (s.setStage c x .ended)
      | _ => none
  | .start c =>
    (s.creations c).bind fun x =>
      match x.stage with
      | .scheduled => some (s.setStage c x .awaiting)
      | _ => none
  | .createSubscription c raised =>
    (s.creations c).bind fun x =>
      match x.stage, raised with
      | .awaiting, none =>
        some { s.setStage c x .created with subscriptions := s.subscriptions ++ [(x.topic, x.typeName)] }
      | .awaiting, some exc => some (s.setStage c x (.failed exc))
      | .abandoned, none =>
        some { s.setStage c x .ended with subscriptions := s.subscriptions ++ [(x.topic, x.typeName)] }
      | .abandoned, some _ => some (s.setStage c x .ended)
      | _, _ => none
  | .resume c =>
    (s.creations c).bind fun x =>
      match x.stage with
      | .created => some (s.setStage c x .ended)
      -- `except Exception`
      | .failed _ => some { s.setStage c x .ended with claimedTopics := s.claimedTopics.erase x.topic }
      | _ => none
  -- `CancelledError` in the task is no `Exception`
  | .cancel c =>
    (s.creations c).bind fun x =>
      match x.stage with
      | .scheduled | .created | .failed _ => some (s.setStage c x .ended)
      | .awaiting => some (s.setStage c x .abandoned)
      | _ => none

/-! ### What is promised -/

/-- At most one subscription is ever created for a topic. -/
def SubscribedOnce (s : SubscriptionManager) : Prop := (s.subscriptions.map Prod.fst).Nodup

/-- A claimed topic is subscribed, or its creation is pending. -/
def ClaimsExact (s : SubscriptionManager) : Prop :=
  ∀ topic ∈ s.claimedTopics, topic ∈ s.subscriptions.map Prod.fst ∨
    ∃ c x, s.creations c = some x ∧ x.topic = topic ∧ x.stage.pending = true

/-- The step loses no claim: a call that claims its topic is inside an event loop, a task is not cancelled before its
creation is in the hands of the ROS thread or after it has failed, and the creation of a cancelled task succeeds. -/
def Harmless (s : SubscriptionManager) : SubscriptionAction → Prop
  | .ensureSubscribed topic _ loopRunning => topic ∈ s.claimedTopics ∨ loopRunning = true
  | .createSubscription c (some _) => ∀ x, s.creations c = some x → x.stage ≠ .abandoned
  | .cancel c => ∀ x, s.creations c = some x → x.stage = .awaiting ∨ x.stage = .created
  | _ => True

/-! ### The steps -/

/-- The steps, by what becomes of the claim. -/
inductive Transition (s : SubscriptionManager) : SubscriptionAction → SubscriptionManager → Prop
  | ignored {topic typeName : String} {loopRunning : Bool} (htopic : topic ∈ s.claimedTopics) :
      s.Transition (.ensureSubscribed topic typeName loopRunning) s
  | claimed {topic typeName : String} {loopRunning : Bool} (htopic : topic ∉ s.claimedTopics) :
      s.Transition (.ensureSubscribed topic typeName loopRunning) (s.claim topic typeName loopRunning)
  | advanced {a : SubscriptionAction} {c : CreationId} {x : Creation} (stage : CreationStage)
      (hx : s.creations c = some x) (hold : x.stage.live = true) (hnotCreated : x.stage ≠ .created)
      (hnew : stage.pending = true) (hnewNotCreated : stage ≠ .created) (ha : s.Harmless a) :
      s.Transition a (s.setStage c x stage)
  | created {a : SubscriptionAction} {c : CreationId} {x : Creation} (stage : CreationStage)
      (hx : s.creations c = some x) (hold : x.stage.live = true) (hnotCreated : x.stage ≠ .created)
      (hstage : stage = .created ∨ stage = .ended) (ha : s.Harmless a) :
      s.Transition a { s.setStage c x stage with subscriptions := s.subscriptions ++ [(x.topic, x.typeName)] }
  | settled {a : SubscriptionAction} {c : CreationId} {x : Creation} (hx : s.creations c = some x)
      (hstage : x.stage = .created) (ha : s.Harmless a) : s.Transition a (s.setStage c x .ended)
  | lost {a : SubscriptionAction} {c : CreationId} {x : Creation} (hx : s.creations c = some x)
      (hold : x.stage.live = true) (hnotCreated : x.stage ≠ .created)
      (ha : x.stage.pending = true → ¬ s.Harmless a) : s.Transition a (s.setStage c x .ended)
  | freed {c : CreationId} {x : Creation} (exc : PyException) (hx : s.creations c = some x)
      (hstage : x.stage = .failed exc) :
      s.Transition (.resume c) { s.setStage c x .ended with claimedTopics := s.claimedTopics.erase x.topic }

variable {s t : SubscriptionManager} {a : SubscriptionAction}

theorem step_transition (hstep : s.step a = some t) : s.Transition a t := by
  cases a with
  | ensureSubscribed topic typeName loopRunning =>
    simp only [step] at hstep
    split at hstep
    · next htopic =>
      cases hstep
      exact .ignored htopic
    · next htopic =>
      cases hstep
      exact .claimed htopic
  | getRunningLoop c =>
    obtain ⟨x, hx, hstep⟩ := Option.bind_eq_some_iff.1 hstep
    split at hstep
    · next hstage =>
      cases hstep
      exact .advanced _ hx (by rw [hstage]; rfl) (by simp [hstage]) rfl (by simp) trivial
    · next hstage =>
      cases hstep
      refine .lost hx (by rw [hstage]; rfl) (by simp [hstage]) ?_
      rw [hstage]
      rintro ⟨⟩
    · cases hstep
  | start c =>
    obtain ⟨x, hx, hstep⟩ := Option.bind_eq_some_iff.1 hstep
    split at hstep
    · next hstage =>
      cases hstep
      exact .advanced _ hx (by rw [hstage]; rfl) (by simp [hstage]) rfl (by simp) trivial
    · cases hstep
  | createSubscription c raised =>
    obtain ⟨x, hx, hstep⟩ := Option.bind_eq_some_iff.1 hstep
    split at hstep
    · next hstage _ =>
      cases hstep
      exact .created _ hx (by rw [hstage]; rfl) (by simp [hstage]) (.inl rfl) trivial
    · next hstage _ =>
      cases hstep
      refine .advanced _ hx (by rw [hstage]; rfl) (by simp [hstage]) rfl (by simp) ?_
      intro y hy
      obtain rfl := Option.some.inj (hx.symm.trans hy)
      simp [hstage]
    · next hstage _ =>
      cases hstep
      exact .created _ hx (by rw [hstage]; rfl) (by simp [hstage]) (.inr rfl) trivial
    · next hstage _ =>
      cases hstep
      refine .lost hx (by rw [hstage]; rfl) (by simp [hstage]) ?_
      intro _ hharmless
      exact hharmless x hx hstage
    · cases hstep
  | resume c =>
    obtain ⟨x, hx, hstep⟩ := Option.bind_eq_some_iff.1 hstep
    split at hstep
    · next hstage =>
      cases hstep
      exact .settled hx hstage trivial
    · next exc hstage =>
      cases hstep
      exact .freed exc hx hstage
    · cases hstep
  | cancel c =>
    obtain ⟨x, hx, hstep⟩ := Option.bind_eq_some_iff.1 hstep
    split at hstep
    · next hstage =>
      cases hstep
      refine .lost hx (by rw [hstage]; rfl) (by simp [hstage]) ?_
      intro _ hharmless
      simpa [hstage] using hharmless x hx
    · next hstage =>
      cases hstep
      refine .settled hx hstage ?_
      intro y hy
      obtain rfl := Option.some.inj (hx.symm.trans hy)
      exact .inr hstage
    · next exc hstage =>
      cases hstep
      refine .lost hx (by rw [hstage]; rfl) (by simp [hstage]) ?_
      intro _ hharmless
      simpa [hstage] using hharmless x hx
    · next hstage =>
      cases hstep
      refine .advanced _ hx (by rw [hstage]; rfl) (by simp [hstage]) rfl (by simp) ?_
      intro y hy
      obtain rfl := Option.some.inj (hx.symm.trans hy)
      exact .inl hstage
    · cases hstep

/-! ### The invariant -/

/-- A live call holds the claim of its topic, alone, and the topic is not subscribed before its creation succeeds. -/
structure Inv (s : SubscriptionManager) : Prop where
  claims : ∀ c x, s.creations c = some x → x.stage.live = true → x.topic ∈ s.claimedTopics
  alone : ∀ c x c' x', s.creations c = some x → s.creations c' = some x' → x.stage.live = true →
    x'.stage.live = true → x.topic = x'.topic → c = c'
  subscribed : ∀ topic ∈ s.subscriptions.map Prod.fst, topic ∈ s.claimedTopics
  created : ∀ c x, s.creations c = some x → x.stage = .created → x.topic ∈ s.subscriptions.map Prod.fst
  notCreated : ∀ c x, s.creations c = some x → x.stage.live = true → x.stage ≠ .created →
    x.topic ∉ s.subscriptions.map Prod.fst
  once : s.SubscribedOnce
  fresh : ∀ c, s.nextCreation ≤ c → s.creations c = none

theorem initial_inv : initial.Inv where
  claims := by rintro c x ⟨⟩
  alone := by rintro c x c' x' ⟨⟩
  subscribed := by simp [initial]
  created := by rintro c x ⟨⟩
  notCreated := by rintro c x ⟨⟩
  once := List.nodup_nil
  fresh := fun _ _ => rfl

private theorem live_of_pending {stage : CreationStage} (h : stage.pending = true) :
    stage.live = true := by
  cases stage with
  | ended => cases h
  | _ => rfl

/-- A state in which the creation `c` has another stage, with other claims and subscriptions. -/
def withStage (s : SubscriptionManager) (c : CreationId) (x : Creation) (stage : CreationStage)
    (claimedTopics : Finset String) (subscriptions : List (String × String)) : SubscriptionManager :=
  { s.setStage c x stage with claimedTopics, subscriptions }

section SetStage

variable {c : CreationId} {x : Creation} {stage : CreationStage} {claimedTopics : Finset String}
  {subscriptions : List (String × String)}

private theorem creations_withStage {c' : CreationId} {x' : Creation} :
    (s.withStage c x stage claimedTopics subscriptions).creations c' = some x' ↔
      c' = c ∧ x' = { x with stage } ∨ c' ≠ c ∧ s.creations c' = some x' := by
  simp only [withStage, setStage]
  by_cases hc : c' = c
  · subst hc
    simp [eq_comm]
  · simp [hc]

/-- The invariant after a step of a live call, which touches the claim and the subscription of its own topic only. -/
private theorem Inv.withStage (h : s.Inv) (hx : s.creations c = some x) (hlive : x.stage.live = true)
    (hclaims : ∀ topic ∈ s.claimedTopics, topic ≠ x.topic → topic ∈ claimedTopics)
    (hclaim : stage.live = true ∨ x.topic ∈ subscriptions.map Prod.fst → x.topic ∈ claimedTopics)
    (hsubscriptions : ∀ topic, topic ≠ x.topic →
      (topic ∈ subscriptions.map Prod.fst ↔ topic ∈ s.subscriptions.map Prod.fst))
    (hcreated : stage = .created → x.topic ∈ subscriptions.map Prod.fst)
    (hnotCreated : stage.live = true → stage ≠ .created → x.topic ∉ subscriptions.map Prod.fst)
    (honce : (subscriptions.map Prod.fst).Nodup) :
    (s.withStage c x stage claimedTopics subscriptions).Inv := by
  -- another live call is about another topic
  have hother : ∀ c' x', c' ≠ c → s.creations c' = some x' → x'.stage.live = true → x'.topic ≠ x.topic := by
    intro c' x' hne hx' hlive' htopic
    exact hne (h.alone c' x' c x hx' hx hlive' hlive htopic)
  constructor
  case claims =>
    intro c' x' hx' hlive'
    rcases creations_withStage.1 hx' with ⟨rfl, rfl⟩ | ⟨hne, hx'⟩
    · exact hclaim (Or.inl hlive')
    · exact hclaims _ (h.claims c' x' hx' hlive') (hother c' x' hne hx' hlive')
  case alone =>
    intro c₁ x₁ c₂ x₂ hx₁ hx₂ hlive₁ hlive₂ htopic
    rcases creations_withStage.1 hx₁ with ⟨rfl, rfl⟩ | ⟨hne₁, hx₁⟩
    · rcases creations_withStage.1 hx₂ with ⟨rfl, rfl⟩ | ⟨hne₂, hx₂⟩
      · rfl
      · exact absurd htopic.symm (hother c₂ x₂ hne₂ hx₂ hlive₂)
    · have hother₁ := hother c₁ x₁ hne₁ hx₁ hlive₁
      rcases creations_withStage.1 hx₂ with ⟨rfl, rfl⟩ | ⟨hne₂, hx₂⟩
      · exact absurd htopic hother₁
      · exact h.alone c₁ x₁ c₂ x₂ hx₁ hx₂ hlive₁ hlive₂ htopic
  case subscribed =>
    intro topic htopic
    by_cases heq : topic = x.topic
    · subst heq
      exact hclaim (Or.inr htopic)
    · exact hclaims topic (h.subscribed topic ((hsubscriptions topic heq).1 htopic)) heq
  case created =>
    intro c' x' hx' hstage
    rcases creations_withStage.1 hx' with ⟨rfl, rfl⟩ | ⟨hne, hx'⟩
    · exact hcreated hstage
    · have hlive' : x'.stage.live = true := by rw [hstage]; rfl
      exact (hsubscriptions _ (hother c' x' hne hx' hlive')).2 (h.created c' x' hx' hstage)
  case notCreated =>
    intro c' x' hx' hlive' hstage
    rcases creations_withStage.1 hx' with ⟨rfl, rfl⟩ | ⟨hne, hx'⟩
    · exact hnotCreated hlive' hstage
    · exact mt (hsubscriptions _ (hother c' x' hne hx' hlive')).1 (h.notCreated c' x' hx' hlive' hstage)
  case once => exact honce
  case fresh =>
    intro c' hc'
    have hne : c' ≠ c := by
      rintro rfl
      rw [h.fresh c' hc'] at hx
      cases hx
    simpa [SubscriptionManager.withStage, setStage, hne] using h.fresh c' hc'

/-- The claims stay exact when that of the own topic is. -/
private theorem claimsExact_withStage (h : s.Inv) (hexact : s.ClaimsExact) (hx : s.creations c = some x)
    (hlive : x.stage.live = true) (hclaims : ∀ topic ∈ claimedTopics, topic ∈ s.claimedTopics)
    (hsubscriptions : ∀ topic ∈ s.subscriptions.map Prod.fst, topic ∈ subscriptions.map Prod.fst) :
    (s.withStage c x stage claimedTopics subscriptions).ClaimsExact ↔
      (x.topic ∈ claimedTopics → x.topic ∈ subscriptions.map Prod.fst ∨ stage.pending = true) := by
  constructor
  · intro hexact' hclaim
    rcases hexact' x.topic hclaim with hsubscribed | ⟨c', x', hx', htopic, hpending⟩
    · exact Or.inl hsubscribed
    · rcases creations_withStage.1 hx' with ⟨rfl, rfl⟩ | ⟨hne, hx'⟩
      · exact Or.inr hpending
      · exact absurd (h.alone c' x' c x hx' hx (live_of_pending hpending) hlive htopic) hne
  · intro hown topic hclaim
    by_cases heq : topic = x.topic
    · subst heq
      rcases hown hclaim with hsubscribed | hpending
      · exact Or.inl hsubscribed
      · exact Or.inr ⟨c, { x with stage }, creations_withStage.2 (Or.inl ⟨rfl, rfl⟩), rfl, hpending⟩
    · rcases hexact topic (hclaims topic hclaim) with hsubscribed | ⟨c', x', hx', htopic, hpending⟩
      · exact Or.inl (hsubscriptions topic hsubscribed)
      · have hne : c' ≠ c := by
          rintro rfl
          obtain rfl := Option.some.inj (hx.symm.trans hx')
          exact heq htopic.symm
        exact Or.inr ⟨c', x', creations_withStage.2 (Or.inr ⟨hne, hx'⟩), htopic, hpending⟩

end SetStage

section Claim

variable {topic typeName : String} {loopRunning : Bool}

private theorem creations_claim {c' : CreationId} {x' : Creation} :
    (s.claim topic typeName loopRunning).creations c' = some x' ↔
      c' = s.nextCreation ∧ x' = ⟨topic, typeName, .claimed loopRunning⟩ ∨
        c' ≠ s.nextCreation ∧ s.creations c' = some x' := by
  simp only [claim]
  by_cases hc : c' = s.nextCreation
  · subst hc
    simp [eq_comm]
  · simp [hc]

private theorem Inv.claim (h : s.Inv) (htopic : topic ∉ s.claimedTopics) :
    (s.claim topic typeName loopRunning).Inv := by
  have hother : ∀ c' x', s.creations c' = some x' → x'.stage.live = true → x'.topic ≠ topic := by
    rintro c' x' hx' hlive rfl
    exact htopic (h.claims c' x' hx' hlive)
  constructor
  case claims =>
    intro c' x' hx' hlive
    rcases creations_claim.1 hx' with ⟨rfl, rfl⟩ | ⟨-, hx'⟩
    · exact Finset.mem_insert_self _ _
    · exact Finset.mem_insert_of_mem (h.claims c' x' hx' hlive)
  case alone =>
    intro c₁ x₁ c₂ x₂ hx₁ hx₂ hlive₁ hlive₂ heq
    rcases creations_claim.1 hx₁ with ⟨rfl, rfl⟩ | ⟨-, hx₁⟩
    · rcases creations_claim.1 hx₂ with ⟨rfl, rfl⟩ | ⟨-, hx₂⟩
      · rfl
      · exact absurd heq.symm (hother c₂ x₂ hx₂ hlive₂)
    · rcases creations_claim.1 hx₂ with ⟨rfl, rfl⟩ | ⟨-, hx₂⟩
      · exact absurd heq (hother c₁ x₁ hx₁ hlive₁)
      · exact h.alone c₁ x₁ c₂ x₂ hx₁ hx₂ hlive₁ hlive₂ heq
  case subscribed =>
    intro t ht
    exact Finset.mem_insert_of_mem (h.subscribed t ht)
  case created =>
    intro c' x' hx' hstage
    rcases creations_claim.1 hx' with ⟨rfl, rfl⟩ | ⟨-, hx'⟩
    · cases hstage
    · exact h.created c' x' hx' hstage
  case notCreated =>
    intro c' x' hx' hlive hstage
    rcases creations_claim.1 hx' with ⟨rfl, rfl⟩ | ⟨-, hx'⟩
    · exact fun hsubscribed => htopic (h.subscribed topic hsubscribed)
    · exact h.notCreated c' x' hx' hlive hstage
  case once => exact h.once
  case fresh =>
    intro c' hc'
    have hlt : s.nextCreation < c' := hc'
    simpa [SubscriptionManager.claim, Nat.ne_of_gt hlt] using h.fresh c' (Nat.le_of_lt hlt)

/-- A claim is exact when its call is going to schedule the creation. -/
private theorem claimsExact_claim (h : s.Inv) (hexact : s.ClaimsExact) (htopic : topic ∉ s.claimedTopics) :
    (s.claim topic typeName loopRunning).ClaimsExact ↔ loopRunning = true := by
  constructor
  · intro hexact'
    rcases hexact' topic (Finset.mem_insert_self _ _) with hsubscribed | ⟨c', x', hx', heq, hpending⟩
    · exact absurd (h.subscribed topic hsubscribed) htopic
    · rcases creations_claim.1 hx' with ⟨rfl, rfl⟩ | ⟨-, hx'⟩
      · exact hpending
      · rw [← heq] at htopic
        exact absurd (h.claims c' x' hx' (live_of_pending hpending)) htopic
  · intro hrunning t ht
    rcases Finset.mem_insert.1 ht with rfl | ht
    · exact Or.inr ⟨s.nextCreation, _, creations_claim.2 (Or.inl ⟨rfl, rfl⟩), rfl, hrunning⟩
    · rcases hexact t ht with hsubscribed | ⟨c', x', hx', heq, hpending⟩
      · exact Or.inl hsubscribed
      · have hne : c' ≠ s.nextCreation := by
          rintro rfl
          rw [h.fresh _ (Nat.le_refl _)] at hx'
          cases hx'
        exact Or.inr ⟨c', x', creations_claim.2 (Or.inr ⟨hne, hx'⟩), heq, hpending⟩

end Claim

/-- One step keeps the invariant. -/
theorem Inv.step (h : s.Inv) (hstep : s.step a = some t) : t.Inv := by
  cases step_transition hstep with
  | ignored => exact h
  | claimed htopic => exact h.claim htopic
  | advanced stage hx hold hnotCreated hnew hnewNotCreated ha =>
    exact h.withStage hx hold (fun _ ht _ => ht) (fun _ => h.claims _ _ hx hold) (fun _ _ => Iff.rfl)
      (fun hcreated => absurd hcreated hnewNotCreated) (fun _ _ => h.notCreated _ _ hx hold hnotCreated) h.once
  | created stage hx hold hnotCreated hstage ha =>
    refine h.withStage hx hold (fun _ ht _ => ht) (fun _ => h.claims _ _ hx hold) ?_ (by simp) ?_ ?_
    · intro topic hne
      simp [hne]
    · rcases hstage with rfl | rfl
      · exact fun _ hne => absurd rfl hne
      · rintro ⟨⟩
    · rw [List.map_append, List.nodup_append]
      refine ⟨h.once, by simp, ?_⟩
      rintro topic htopic topic' htopic' rfl
      have hown : topic = _ := List.mem_singleton.1 htopic'
      rw [hown] at htopic
      exact h.notCreated _ _ hx hold hnotCreated htopic
  | @settled _ c x hx hstage ha =>
    have hold : x.stage.live = true := by rw [hstage]; rfl
    exact h.withStage hx hold (fun _ ht _ => ht) (fun _ => h.claims _ _ hx hold) (fun _ _ => Iff.rfl)
      (by rintro ⟨⟩) (by rintro ⟨⟩) h.once
  | lost hx hold hnotCreated ha =>
    exact h.withStage hx hold (fun _ ht _ => ht) (fun _ => h.claims _ _ hx hold) (fun _ _ => Iff.rfl)
      (by rintro ⟨⟩) (by rintro ⟨⟩) h.once
  | @freed c x exc hx hstage =>
    have hold : x.stage.live = true := by rw [hstage]; rfl
    have hnot := h.notCreated c x hx hold (by simp [hstage])
    refine h.withStage hx hold ?_ ?_ (fun _ _ => Iff.rfl) (by rintro ⟨⟩) (by rintro ⟨⟩) h.once
    · intro topic ht hne
      exact Finset.mem_erase.2 ⟨hne, ht⟩
    · rintro (hlive | hsubscribed)
      · cases hlive
      · exact absurd hsubscribed hnot

/-- A step keeps the claims exact exactly if it is harmless. -/
private theorem claimsExact_step (h : s.Inv) (hexact : s.ClaimsExact) (hstep : s.step a = some t) :
    t.ClaimsExact ↔ s.Harmless a := by
  cases step_transition hstep with
  | ignored htopic => exact iff_of_true hexact (Or.inl htopic)
  | claimed htopic =>
    rw [claimsExact_claim h hexact htopic]
    exact ⟨Or.inr, fun hharmless => hharmless.resolve_left htopic⟩
  | advanced stage hx hold hnotCreated hnew hnewNotCreated ha =>
    refine iff_of_true ?_ ha
    exact (claimsExact_withStage h hexact hx hold (fun _ => id) (fun _ => id)).2 fun _ => Or.inr hnew
  | created stage hx hold hnotCreated hstage ha =>
    refine iff_of_true ?_ ha
    refine (claimsExact_withStage h hexact hx hold (fun _ => id) ?_).2 fun _ => Or.inl (by simp)
    intro topic htopic
    rw [List.map_append]
    exact List.mem_append_left _ htopic
  | settled hx hstage ha =>
    refine iff_of_true ?_ ha
    refine (claimsExact_withStage h hexact hx (by rw [hstage]; rfl) (fun _ => id) (fun _ => id)).2 fun _ => ?_
    exact Or.inl (h.created _ _ hx hstage)
  | @lost _ c x hx hold hnotCreated ha =>
    have hclaim := h.claims c x hx hold
    have hnot := h.notCreated c x hx hold hnotCreated
    refine iff_of_false ?_ ?_
    · intro hexact'
      rcases (claimsExact_withStage h hexact hx hold (fun _ => id) (fun _ => id)).1 hexact' hclaim with hs | hp
      · exact hnot hs
      · cases hp
    · rcases hexact x.topic hclaim with hs | ⟨c', x', hx', htopic, hpending⟩
      · exact absurd hs hnot
      · -- the creation that is pending is this one
        obtain rfl := h.alone c' x' c x hx' hx (live_of_pending hpending) hold htopic
        obtain rfl := Option.some.inj (hx.symm.trans hx')
        exact ha hpending
  | freed exc hx hstage =>
    refine iff_of_true ?_ trivial
    refine (claimsExact_withStage h hexact hx (by rw [hstage]; rfl) ?_ (fun _ => id)).2 ?_
    · exact fun topic ht => Finset.mem_of_mem_erase ht
    · exact fun hclaim => absurd rfl (Finset.ne_of_mem_erase hclaim)

private theorem initial_claimsExact : initial.ClaimsExact := by
  intro topic htopic
  simp [initial] at htopic

/-- The claim of a creation that has failed is given back. -/
private theorem not_mem_claimedTopics_of_failed {c : CreationId} {x : Creation} {exc : PyException}
    (hx : s.creations c = some x) (hstage : x.stage = .failed exc) (hstep : s.step (.resume c) = some t) :
    x.topic ∉ t.claimedTopics := by
  simp only [step, hx, Option.bind_some, hstage] at hstep
  obtain rfl := Option.some.inj hstep
  exact Finset.notMem_erase _ _

/-- In every run a topic is subscribed at most once, a creation that fails gives its claim back, and the claims are
exact throughout if and only if every step is harmless. -/
theorem claims_exact_iff {as : List SubscriptionAction} (hrun : StepSystem.run step initial as = some s) :
    s.SubscribedOnce ∧
      (∀ c x exc t, s.creations c = some x → x.stage = .failed exc → s.step (.resume c) = some t →
        x.topic ∉ t.claimedTopics) ∧
      ((∀ as₁ as₂ u, as = as₁ ++ as₂ → StepSystem.run step initial as₁ = some u → u.ClaimsExact) ↔
        StepSystem.Along step Harmless initial as) := by
  have hinv : s.Inv := StepSystem.run_invariant (fun _ _ _ hs hstep => Inv.step hs hstep) initial_inv hrun
  refine ⟨hinv.once, ?_, ?_⟩
  · intro c x exc t hx hstage hstep
    exact not_mem_claimedTopics_of_failed hx hstage hstep
  · exact StepSystem.throughout_iff_along (fun _ _ _ hs hstep => Inv.step hs hstep)
      (fun _ _ _ hs hexact hstep => claimsExact_step hs hexact hstep) initial_inv initial_claimsExact hrun

/-- A creation that fails, and one that succeeds after it. -/
def sampleSubscribe : List SubscriptionAction :=
  [.ensureSubscribed "/scan" "sensor_msgs/msg/LaserScan" true, .getRunningLoop 0, .start 0,
    .createSubscription 0 (some ⟨.runtimeError, "no such type"⟩), .resume 0,
    .ensureSubscribed "/scan" "sensor_msgs/msg/LaserScan" true, .getRunningLoop 1, .start 1,
    .ensureSubscribed "/scan" "sensor_msgs/msg/LaserScan" false, .createSubscription 1 none, .resume 1]

theorem claims_exact_sample :
    (∃ s, StepSystem.run step initial sampleSubscribe = some s ∧ s.SubscribedOnce ∧
      s.subscriptions = [("/scan", "sensor_msgs/msg/LaserScan")]) ∧
    ∀ as₁ as₂ u, sampleSubscribe = as₁ ++ as₂ → StepSystem.run step initial as₁ = some u → u.ClaimsExact := by
  obtain ⟨s, hrun, hsubscriptions⟩ : ∃ s, StepSystem.run step initial sampleSubscribe = some s ∧
      s.subscriptions = [("/scan", "sensor_msgs/msg/LaserScan")] := ⟨_, rfl, rfl⟩
  have hclaims := claims_exact_iff hrun
  refine ⟨⟨s, hrun, hclaims.1, hsubscriptions⟩, hclaims.2.2.2 ?_⟩
  refine .cons (.inr rfl) rfl (.cons trivial rfl (.cons trivial rfl (.cons ?_ rfl (.cons trivial rfl
    (.cons (.inr rfl) rfl (.cons trivial rfl (.cons trivial rfl (.cons (.inl ?_) rfl (.cons trivial rfl
    (.cons trivial rfl .nil))))))))))
  · rintro x ⟨⟩ ⟨⟩
  · decide

/-- A call outside an event loop raises and keeps its claim. -/
theorem claim_lost :
    ¬ ∀ as s, StepSystem.run step initial as = some s → s.SubscribedOnce ∧ s.ClaimsExact := by
  intro h
  obtain ⟨s, hrun, hclaimed, hsubscriptions, hstages⟩ : ∃ s,
      StepSystem.run step initial
        [.ensureSubscribed "/scan" "sensor_msgs/msg/LaserScan" false, .getRunningLoop 0] = some s ∧
      "/scan" ∈ s.claimedTopics ∧ s.subscriptions = [] ∧
      s.creations = Function.update (Function.update (fun _ => none) 0
        (some ⟨"/scan", "sensor_msgs/msg/LaserScan", .claimed false⟩)) 0
        (some ⟨"/scan", "sensor_msgs/msg/LaserScan", .ended⟩) := ⟨_, rfl, by decide, rfl, rfl⟩
  rcases (h _ s hrun).2 "/scan" hclaimed with hsubscribed | ⟨c, x, hx, -, hpending⟩
  · simp [hsubscriptions] at hsubscribed
  · rw [hstages, Function.update_idem] at hx
    by_cases hc : c = 0
    · subst hc
      obtain rfl : _ = x := by simpa using hx
      cases hpending
    · simp [Function.update_of_ne hc] at hx

end SubscriptionManager

end RosMcp
