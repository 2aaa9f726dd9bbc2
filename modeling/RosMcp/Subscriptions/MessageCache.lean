import Mathlib.Algebra.Order.Field.Basic
import Mathlib.Tactic.NormNum
import RosMcp.Lib.LastWrite
import RosMcp.Lib.Rounding
import RosMcp.Subscriptions.Claims

/-!
# The message cache of the subscription manager (`subscriptions/manager.py`)

A subscription that the ROS thread has created calls `_on_message` for each message of its topic: it converts the
message, takes the time in its header, which a double and a `datetime` round, or else that of the clock, reads the clock
again, and stores the entry under the lock.  The steps of these callbacks interleave with those of `ensure_subscribed`
and its tasks.  The cache is the last-write map of the stored entries, and what has been stored is what has arrived and
converts, in the order of arrival (`getLatest_eq_lastWrite`): a message that raises leaves the one before it in place,
and is the last that arrives, since the exception leaves `spin_once` and ends the ROS thread.  While the clock does not
run backwards, a topic is fresh exactly when one of its messages was received recently enough (`isFresh_iff`).
-/

namespace RosMcp

variable {K V P : Type}

/-- `msg.header.stamp`, as `getattr` reads it. -/
structure StampFields where
  sec : Option Int
  nanosec : Option Int

/-- A message, with `msg.header.stamp`, which is `none` where an attribute is missing or is `None`. -/
structure TopicMessage (P : Type) where
  payload : P
  stamp : Option StampFields

/-- `CachedMessage` of `contracts/subscriptions.py`. -/
structure PooledMessage (K V P : Type) where
  value : V
  raw : TopicMessage P
  stamp : K
  receivedAt : K
  ageS : K

/-- How far `_on_message` of a topic has got. -/
inductive MessageCallback (K V P : Type)
  | received (topic : String) (msg : TopicMessage P)
  | converted (topic : String) (msg : TopicMessage P) (value : V)
  | stamped (topic : String) (msg : TopicMessage P) (value : V) (stamp : K)
  /-- The entry is complete, and the lock has not been taken yet. -/
  | storing (topic : String) (cached : PooledMessage K V P)

/-- The claims and the cache of the manager, the clock, and the ROS thread with the callback on it. -/
structure MessageCache (K V P : Type) where
  manager : SubscriptionManager
  cache : String → Option (PooledMessage K V P)
  now : K
  callback : Option (MessageCallback K V P)
  /-- No callback has raised: the loop of the executor thread goes on. -/
  spinning : Bool

inductive CacheAction (K P : Type)
  | tick (now : K)
  | claims (action : SubscriptionAction)
  | receive (topic : String) (msg : TopicMessage P)
  | convert
  | readStamp
  | readReceivedAt
  | store

/-- The time that a step sets the clock to. -/
def CacheAction.time : CacheAction K P → Option K
  | .tick now => some now
  | _ => none

/-- The step runs on the ROS thread. -/
def SubscriptionAction.onRosThread : SubscriptionAction → Bool
  | .createSubscription _ _ => true
  | _ => false

/-- The topic and the message that a callback is about. -/
def MessageCallback.arrival : MessageCallback K V P → String × TopicMessage P
  | .received topic msg | .converted topic msg _ | .stamped topic msg _ _ => (topic, msg)
  | .storing topic cached => (topic, cached.raw)

/-- A subscription that was created stays. -/
private theorem SubscriptionManager.subscribed_of_step {s t : SubscriptionManager} {a : SubscriptionAction}
    {topic : String}
    (hstep : s.step a = some t) (h : topic ∈ s.subscriptions.map Prod.fst) :
    topic ∈ t.subscriptions.map Prod.fst := by
  cases step_transition hstep with
  | ignored | claimed | advanced | settled | lost | freed => exact h
  | created =>
    rw [List.map_append]
    exact List.mem_append_left _ h

namespace MessageCache

section Source

/-- `datetime.fromtimestamp(timestamp, tz=timezone.utc)`, in microseconds since the epoch; `fl` rounds to a double.
`none`: it raises, since no year from 1 to 9999 is that of the timestamp. -/
def fromTimestamp (fl : ℚ → ℚ) (timestamp : ℚ) : Option ℤ :=
  let whole := if timestamp < 0 then ⌈timestamp⌉ else ⌊timestamp⌋
  let microseconds := whole * 10 ^ 6 + roundHalfEven (fl ((timestamp - whole) * ((10 ^ 6 : ℕ) : ℚ)))
  if -62135596800 * 10 ^ 6 ≤ microseconds ∧ microseconds < 253402300800 * 10 ^ 6 then some microseconds else none

/-- `_extract_stamp`, in microseconds.  The outer `none`: it raises. -/
def extractStamp (fl : ℚ → ℚ) (msg : TopicMessage P) : Option (Option ℤ) :=
  match msg.stamp with
  | none => some none
  | some stamp =>
    match stamp.sec, stamp.nanosec with
    | some sec, some nanosec => (fromTimestamp fl (fl (fl sec + fl (fl nanosec / ((10 ^ 9 : ℕ) : ℚ))))).map some
    | _, _ => some none

variable [Field K] (fl : ℚ → ℚ) (toDict : TopicMessage P → Except PyException V)

/-- The reading of the clock that a number of microseconds is. -/
def ofMicroseconds (microseconds : ℤ) : K := (microseconds : K) / ((10 ^ 6 : ℕ) : K)

def initial (now : K) : MessageCache K V P := ⟨.initial, fun _ => none, now, none, true⟩

def step (s : MessageCache K V P) : CacheAction K P → Option (MessageCache K V P)
  | .tick now => some { s with now }
  | .claims action =>
    -- the ROS thread creates subscriptions between its callbacks
    if action.onRosThread ∧ (s.callback.isSome ∨ ¬ s.spinning) then none
    else (s.manager.step action).map fun manager => { s with manager }
  | .receive topic msg =>
    if topic ∈ s.manager.subscriptions.map Prod.fst ∧ s.callback.isNone ∧ s.spinning then
      some { s with callback := some (.received topic msg) }
    else none
  | .convert =>
    match s.callback with
    | some (.received topic msg) =>
      match toDict msg with
      | .ok value => some { s with callback := some (.converted topic msg value) }
      -- nothing around the callback catches: the executor thread ends
      | .error _ => some { s with callback := none, spinning := false }
    | _ => none
  | .readStamp =>
    match s.callback with
    | some (.converted topic msg value) =>
      match extractStamp fl msg with
      | some stamp =>
        some { s with callback := some (.stamped topic msg value ((stamp.map ofMicroseconds).getD s.now)) }
      | none => some { s with callback := none, spinning := false }
    | _ => none
  | .readReceivedAt =>
    match s.callback with
    | some (.stamped topic msg value stamp) =>
      some { s with
        callback := some (.storing topic { value, raw := msg, stamp, receivedAt := s.now, ageS := 0 }) }
    | _ => none
  | .store =>
    match s.callback with
    | some (.storing topic cached) =>
      some { s with cache := Function.update s.cache topic (some cached), callback := none }
    | _ => none

/-- `get_latest`, where `later` is the clock after the locked read; the age is the exact difference. -/
def getLatest (s : MessageCache K V P) (topic : String) (later : K) : Option (PooledMessage K V P) :=
  (s.cache topic).map fun cached => { cached with ageS := later - cached.receivedAt }

/-- `is_fresh` -/
def isFresh [LE K] [DecidableLE K] (s : MessageCache K V P) (topic : String) (maxAgeS later : K) : Bool :=
  match s.getLatest topic later with
  | none => false
  | some cached => cached.ageS ≤ maxAgeS

end Source

/-! ### What a run shows -/

/-- The message that a step has the callback of its topic called with. -/
def arrivals (_ : MessageCache K V P) : CacheAction K P → List (String × TopicMessage P)
  | .receive topic msg => [(topic, msg)]
  | _ => []

/-- The entry that a step stores. -/
def stores (s : MessageCache K V P) : CacheAction K P → List (String × PooledMessage K V P)
  | .store =>
    match s.callback with
    | some (.storing topic cached) => [(topic, cached)]
    | _ => []
  | _ => []

/-- Neither `to_dict` of the codec nor `_extract_stamp` raises on the message. -/
def Converts (fl : ℚ → ℚ) (toDict : TopicMessage P → Except PyException V) (arrival : String × TopicMessage P) :
    Bool :=
  match toDict arrival.2 with
  | .ok _ => (extractStamp fl arrival.2).isSome
  | .error _ => false

/-- The arrival that the callback on the ROS thread is going to store. -/
def inHand (fl : ℚ → ℚ) (toDict : TopicMessage P → Except PyException V) (s : MessageCache K V P) :
    List (String × TopicMessage P) :=
  (s.callback.toList.map MessageCallback.arrival).filter (Converts fl toDict)

/-- The clock does not run backwards. -/
def Clocked [LE K] (s : MessageCache K V P) : CacheAction K P → Prop
  | .tick now => s.now ≤ now
  | _ => True

/-! ### The steps -/

section Steps

variable [Field K] {fl : ℚ → ℚ} {toDict : TopicMessage P → Except PyException V} {s t : MessageCache K V P}
  {a : CacheAction K P}

/-- The steps, each with what it is guarded by. -/
inductive Transition (fl : ℚ → ℚ) (toDict : TopicMessage P → Except PyException V) (s : MessageCache K V P) :
    CacheAction K P → MessageCache K V P → Prop
  | tick (now : K) : Transition fl toDict s (.tick now) { s with now }
  | claims {action : SubscriptionAction} {manager : SubscriptionManager}
      (hstep : s.manager.step action = some manager) :
      Transition fl toDict s (.claims action) { s with manager }
  | received {topic : String} {msg : TopicMessage P} (htopic : topic ∈ s.manager.subscriptions.map Prod.fst)
      (hidle : s.callback = none) (hspinning : s.spinning = true) :
      Transition fl toDict s (.receive topic msg) { s with callback := some (.received topic msg) }
  | converted {topic : String} {msg : TopicMessage P} {value : V} (hcallback : s.callback = some (.received topic msg))
      (hvalue : toDict msg = .ok value) :
      Transition fl toDict s .convert { s with callback := some (.converted topic msg value) }
  | raised {a : CacheAction K P} {callback : MessageCallback K V P} (ha : a = .convert ∨ a = .readStamp)
      (hcallback : s.callback = some callback) (hraised : Converts fl toDict callback.arrival = false) :
      Transition fl toDict s a { s with callback := none, spinning := false }
  | stamped {topic : String} {msg : TopicMessage P} {value : V} {stamp : Option ℤ}
      (hcallback : s.callback = some (.converted topic msg value)) (hstamp : extractStamp fl msg = some stamp) :
      Transition fl toDict s .readStamp
        { s with callback := some (.stamped topic msg value ((stamp.map ofMicroseconds).getD s.now)) }
  | completed {topic : String} {msg : TopicMessage P} {value : V} {stamp : K}
      (hcallback : s.callback = some (.stamped topic msg value stamp)) :
      Transition fl toDict s .readReceivedAt
        { s with callback := some (.storing topic { value, raw := msg, stamp, receivedAt := s.now, ageS := 0 }) }
  | stored {topic : String} {cached : PooledMessage K V P} (hcallback : s.callback = some (.storing topic cached)) :
      Transition fl toDict s .store
        { s with cache := Function.update s.cache topic (some cached), callback := none }

private theorem step_transition (hstep : s.step fl toDict a = some t) : Transition fl toDict s a t := by
  cases a with
  | tick now =>
    obtain rfl := Option.some.inj hstep
    exact .tick now
  | claims action =>
    simp only [step] at hstep
    split at hstep
    · cases hstep
    · obtain ⟨manager, hmanager, rfl⟩ := Option.map_eq_some_iff.1 hstep
      exact .claims hmanager
  | receive topic msg =>
    simp only [step] at hstep
    split at hstep
    · next h =>
      obtain rfl := Option.some.inj hstep
      exact .received h.1 (Option.isNone_iff_eq_none.1 h.2.1) h.2.2
    · cases hstep
  | convert =>
    simp only [step] at hstep
    split at hstep
    · next topic msg hcallback =>
      split at hstep
      · next value hvalue =>
        obtain rfl := Option.some.inj hstep
        exact .converted hcallback hvalue
      · next exc hraised =>
        obtain rfl := Option.some.inj hstep
        exact .raised (.inl rfl) hcallback (by simp [Converts, MessageCallback.arrival, hraised])
    · cases hstep
  | readStamp =>
    simp only [step] at hstep
    split at hstep
    · next topic msg value hcallback =>
      split at hstep
      · next stamp hstamp =>
        obtain rfl := Option.some.inj hstep
        exact .stamped hcallback hstamp
      · next hraised =>
        obtain rfl := Option.some.inj hstep
        refine .raised (.inr rfl) hcallback ?_
        simp only [Converts, MessageCallback.arrival, hraised, Option.isSome_none]
        split <;> rfl
    · cases hstep
  | readReceivedAt =>
    simp only [step] at hstep
    split at hstep
    · next topic msg value stamp hcallback =>
      obtain rfl := Option.some.inj hstep
      exact .completed hcallback
    · cases hstep
  | store =>
    simp only [step] at hstep
    split at hstep
    · next topic cached hcallback =>
      obtain rfl := Option.some.inj hstep
      exact .stored hcallback
    · cases hstep

end Steps

/-! ### What the cache holds -/

section Holds

variable [Field K] {fl : ℚ → ℚ} {toDict : TopicMessage P → Except PyException V} {s t : MessageCache K V P}
  {a : CacheAction K P} {arrived : List (String × TopicMessage P)} {stored : List (String × PooledMessage K V P)}

/-- What `toDict` and the header of a message give; without a time in the header the stamp is one of the clock. -/
def MadeFrom (fl : ℚ → ℚ) (toDict : TopicMessage P → Except PyException V) (msg : TopicMessage P) (value : V)
    (stamp : K) : Prop :=
  toDict msg = .ok value ∧ ∃ extracted, extractStamp fl msg = some extracted ∧
    ∀ microseconds, extracted = some microseconds → stamp = ofMicroseconds microseconds

/-- The entry is made of its message. -/
def MadeOf (fl : ℚ → ℚ) (toDict : TopicMessage P → Except PyException V) (cached : PooledMessage K V P) : Prop :=
  MadeFrom fl toDict cached.raw cached.value cached.stamp

/-- The callback holds what it has computed from its message. -/
def CallbackMade (fl : ℚ → ℚ) (toDict : TopicMessage P → Except PyException V) : MessageCallback K V P → Prop
  | .received _ _ => True
  | .converted _ msg value => toDict msg = .ok value
  | .stamped _ msg value stamp => MadeFrom fl toDict msg value stamp
  | .storing _ cached => MadeOf fl toDict cached

private theorem MadeOf.converts {cached : PooledMessage K V P} (h : MadeOf fl toDict cached) (topic : String) :
    Converts fl toDict (topic, cached.raw) = true := by
  obtain ⟨hvalue, extracted, hextracted, -⟩ := h
  simp [Converts, hvalue, hextracted]

/-- What a run relates: the cache is the last-write map of the entries, which are those of the arrivals that convert,
in their order, up to the one in hand; and none comes after one that does not convert. -/
structure Kept (fl : ℚ → ℚ) (toDict : TopicMessage P → Except PyException V) (s : MessageCache K V P)
    (arrived : List (String × TopicMessage P)) (stored : List (String × PooledMessage K V P)) : Prop where
  manager : s.manager.Inv
  cache : s.cache = WriteLog.lastWrite stored
  order : arrived.filter (Converts fl toDict) = (stored.map fun w => (w.1, w.2.raw)) ++ s.inHand fl toDict
  subscribed : ∀ arrival ∈ arrived, arrival.1 ∈ s.manager.subscriptions.map Prod.fst
  made : ∀ w ∈ stored, MadeOf fl toDict w.2
  callback : ∀ callback, s.callback = some callback → CallbackMade fl toDict callback
  earlier : ∀ arrival ∈ arrived.dropLast, Converts fl toDict arrival = true
  spinning : s.spinning = true → ∀ arrival ∈ arrived,
    Converts fl toDict arrival = true ∨ s.callback.map MessageCallback.arrival = some arrival

private theorem kept_initial (now : K) : Kept fl toDict (initial now : MessageCache K V P) [] [] where
  manager := SubscriptionManager.initial_inv
  cache := rfl
  order := rfl
  subscribed := by simp
  made := by simp
  callback := by rintro callback ⟨⟩
  earlier := by simp
  spinning := by simp

/-- The callback goes on with the arrival that it is about. -/
private theorem Kept.of_callback (h : Kept fl toDict s arrived stored) {callback next : MessageCallback K V P}
    (hcallback : s.callback = some callback) (harrival : next.arrival = callback.arrival)
    (hmade : CallbackMade fl toDict next) :
    Kept fl toDict { s with callback := some next } arrived stored := by
  refine { h with order := ?_, callback := ?_, spinning := ?_ }
  · rw [h.order]
    simp [inHand, hcallback, harrival]
  · rintro callback' ⟨⟩
    exact hmade
  · intro hspinning arrival hmem
    have := h.spinning hspinning arrival hmem
    rw [hcallback] at this
    simpa [harrival] using this

/-- One step keeps what is kept. -/
theorem Kept.step (h : Kept fl toDict s arrived stored) (hstep : s.step fl toDict a = some t) :
    Kept fl toDict t (arrived ++ s.arrivals a) (stored ++ s.stores a) := by
  cases step_transition hstep with
  | tick =>
    simp only [arrivals, stores, List.append_nil]
    exact { h with }
  | claims hclaims =>
    simp only [arrivals, stores, List.append_nil]
    refine { h with manager := h.manager.step hclaims, subscribed := ?_ }
    intro arrival harrival
    exact SubscriptionManager.subscribed_of_step hclaims (h.subscribed arrival harrival)
  | @received topic msg htopic hidle hspinning =>
    have hconverted : ∀ arrival ∈ arrived, Converts fl toDict arrival = true := by
      intro arrival harrival
      have := h.spinning hspinning arrival harrival
      simpa [hidle] using this
    simp only [arrivals, stores, List.append_nil]
    refine { h with order := ?_, subscribed := ?_, callback := ?_, earlier := ?_, spinning := ?_ }
    · have hnone : s.inHand fl toDict = [] := by simp [inHand, hidle]
      rw [List.filter_append, h.order, hnone, List.append_nil]
      rfl
    · intro arrival harrival
      rcases List.mem_append.1 harrival with harrival | harrival
      · exact h.subscribed arrival harrival
      · obtain rfl := List.mem_singleton.1 harrival
        exact htopic
    · rintro callback ⟨⟩
      trivial
    · rwa [List.dropLast_concat]
    · intro _ arrival harrival
      rcases List.mem_append.1 harrival with harrival | harrival
      · exact .inl (hconverted arrival harrival)
      · obtain rfl := List.mem_singleton.1 harrival
        exact .inr rfl
  | @converted topic msg value hcallback hvalue =>
    simp only [arrivals, stores, List.append_nil]
    exact h.of_callback hcallback rfl hvalue
  | @raised _ callback ha hcallback hraised =>
    have hnothing : s.arrivals a = [] ∧ s.stores a = [] := by
      rcases ha with rfl | rfl <;> exact ⟨rfl, rfl⟩
    rw [hnothing.1, hnothing.2, List.append_nil, List.append_nil]
    refine { h with order := ?_, callback := by rintro callback ⟨⟩, spinning := by rintro ⟨⟩ }
    -- the message in hand is none that converts
    rw [h.order]
    simp [inHand, hcallback, hraised]
  | @stamped topic msg value stamp hcallback hstamp =>
    simp only [arrivals, stores, List.append_nil]
    refine h.of_callback hcallback rfl ⟨h.callback _ hcallback, stamp, hstamp, ?_⟩
    rintro microseconds rfl
    rfl
  | @completed topic msg value stamp hcallback =>
    have hmade : MadeFrom fl toDict msg value stamp := h.callback _ hcallback
    simp only [arrivals, stores, List.append_nil]
    exact h.of_callback hcallback rfl hmade
  | @stored topic cached hcallback =>
    have hstores : s.stores .store = [(topic, cached)] := by simp [stores, hcallback]
    have hmadeOf : MadeOf fl toDict cached := h.callback _ hcallback
    have hconverts : Converts fl toDict (topic, cached.raw) = true := hmadeOf.converts topic
    rw [hstores]
    simp only [arrivals, List.append_nil]
    refine { h with cache := ?_, order := ?_, made := ?_, callback := by rintro callback ⟨⟩, spinning := ?_ }
    · rw [WriteLog.lastWrite_concat, ← h.cache]
    · rw [h.order]
      simp [inHand, hcallback, MessageCallback.arrival, hconverts]
    · intro w hw
      rcases List.mem_append.1 hw with hw | hw
      · exact h.made w hw
      · obtain rfl := List.mem_singleton.1 hw
        exact hmadeOf
    · intro hspinning arrival harrival
      left
      rcases h.spinning hspinning arrival harrival with hconverted | harrival
      · exact hconverted
      · rw [hcallback] at harrival
        obtain rfl := Option.some.inj harrival
        exact hconverts

private theorem kept_of_run {start : K} {as : List (CacheAction K P)}
    (hrun : StepSystem.run (step fl toDict) (initial start) as = some s) :
    Kept fl toDict s (StepSystem.outputs (step fl toDict) arrivals (initial start) as)
      (StepSystem.outputs (step fl toDict) stores (initial start) as) :=
  StepSystem.outputs_invariant₂ (P := Kept fl toDict) (fun _ _ _ _ _ hkept hstep => hkept.step hstep)
    (kept_initial start) hrun

/-- After every run `get_latest` answers with the last entry that was stored for the topic, and its age; the entries
are those of the messages that have arrived and convert, in the order of arrival, up to the one in hand; no message
arrives after one that does not convert; and messages arrive on topics that are subscribed, and so claimed. -/
theorem getLatest_eq_lastWrite {start : K} {as : List (CacheAction K P)}
    (hrun : StepSystem.run (step fl toDict) (initial start) as = some s) :
    (∀ topic later, s.getLatest topic later =
      (WriteLog.lastWrite (StepSystem.outputs (step fl toDict) stores (initial start) as) topic).map fun cached =>
        { cached with ageS := later - cached.receivedAt }) ∧
      (StepSystem.outputs (step fl toDict) arrivals (initial start) as).filter (Converts fl toDict) =
        ((StepSystem.outputs (step fl toDict) stores (initial start) as).map fun w => (w.1, w.2.raw)) ++
          s.inHand fl toDict ∧
      (∀ w ∈ StepSystem.outputs (step fl toDict) stores (initial start) as, MadeOf fl toDict w.2) ∧
      (∀ arrival ∈ (StepSystem.outputs (step fl toDict) arrivals (initial start) as).dropLast,
        Converts fl toDict arrival = true) ∧
      ∀ arrival ∈ StepSystem.outputs (step fl toDict) arrivals (initial start) as,
        arrival.1 ∈ s.manager.subscriptions.map Prod.fst ∧ arrival.1 ∈ s.manager.claimedTopics := by
  have h := kept_of_run hrun
  refine ⟨?_, h.order, h.made, h.earlier, ?_⟩
  · intro topic later
    unfold getLatest
    rw [h.cache]
  · intro arrival harrival
    have hsubscribed := h.subscribed arrival harrival
    exact ⟨hsubscribed, h.manager.subscribed _ hsubscribed⟩

/-- The payload 0 does not convert. -/
def sampleToDict (msg : TopicMessage ℕ) : Except PyException ℕ :=
  if msg.payload = 0 then .error ⟨.typeError, "no such field"⟩ else .ok msg.payload

/-- Three messages of one topic, with a time in the header of the first: the last one raises.  The doubles of the
first hold its time exactly. -/
def sampleMessages : List (CacheAction ℚ ℕ) :=
  [.claims (.ensureSubscribed "/odom" "nav_msgs/msg/Odometry" true), .claims (.getRunningLoop 0), .claims (.start 0),
    .claims (.createSubscription 0 none), .tick 1, .receive "/odom" ⟨7, some ⟨some 1, some 500000000⟩⟩, .convert,
    .readStamp, .tick 2, .readReceivedAt, .store, .claims (.resume 0), .tick 3, .receive "/odom" ⟨8, none⟩, .convert,
    .readStamp, .tick 4, .readReceivedAt, .store, .receive "/odom" ⟨0, none⟩, .convert]

private theorem sampleMessages_run :
    (StepSystem.run (step id sampleToDict) (initial 0) sampleMessages).isSome = true := by
  decide +kernel

theorem getLatest_sample :
    ∃ s cached, StepSystem.run (step id sampleToDict) (initial 0) sampleMessages = some s ∧
      s.getLatest "/odom" 5 = some cached ∧ cached.value = 8 ∧ cached.ageS = 1 ∧
      ((StepSystem.outputs (step id sampleToDict) arrivals (initial 0) sampleMessages).filter
        (Converts id sampleToDict)).map (fun arrival => arrival.2.payload) = [7, 8] := by
  obtain ⟨s, hrun⟩ := Option.isSome_iff_exists.1 sampleMessages_run
  have hlast : (WriteLog.lastWrite (StepSystem.outputs (step id sampleToDict) stores (initial 0) sampleMessages)
      "/odom").map (fun cached => (cached.value, cached.receivedAt)) = some (8, 4) := by decide +kernel
  obtain ⟨last, hlast, hentry⟩ := Option.map_eq_some_iff.1 hlast
  obtain ⟨hvalue, hreceived⟩ := Prod.mk.inj hentry
  have h := getLatest_eq_lastWrite hrun
  refine ⟨s, { last with ageS := 5 - last.receivedAt }, hrun, ?_, hvalue, ?_, ?_⟩
  · rw [h.1, hlast]
    rfl
  · show 5 - last.receivedAt = 1
    rw [hreceived]
    norm_num
  · decide +kernel

end Holds

/-! ### Freshness -/

section Fresh

variable [Field K] [LinearOrder K] [IsStrictOrderedRing K] {fl : ℚ → ℚ}
  {toDict : TopicMessage P → Except PyException V} {s t : MessageCache K V P} {a : CacheAction K P}
  {stored : List (String × PooledMessage K V P)}

/-- The entries were received in the order in which they are stored, and not after the present. -/
structure InTime (s : MessageCache K V P) (stored : List (String × PooledMessage K V P)) : Prop where
  ordered : stored.Pairwise fun w w' => w.2.receivedAt ≤ w'.2.receivedAt
  past : ∀ w ∈ stored, w.2.receivedAt ≤ s.now
  callback : ∀ topic cached, s.callback = some (.storing topic cached) →
    cached.receivedAt ≤ s.now ∧ ∀ w ∈ stored, w.2.receivedAt ≤ cached.receivedAt

omit [Field K] [IsStrictOrderedRing K] in
/-- A step that stores nothing, after which the clock is not earlier, and which completes no entry. -/
private theorem InTime.of_stores_nil (h : s.InTime stored) (hnow : s.now ≤ t.now)
    (hcallback : ∀ topic cached, t.callback = some (.storing topic cached) →
      s.callback = some (.storing topic cached)) : t.InTime stored where
  ordered := h.ordered
  past := fun w hw => (h.past w hw).trans hnow
  callback := by
    intro topic cached htopic
    obtain ⟨hpast, hlast⟩ := h.callback topic cached (hcallback topic cached htopic)
    exact ⟨hpast.trans hnow, hlast⟩

omit [IsStrictOrderedRing K] in
private theorem InTime.step (h : s.InTime stored) (hclock : s.Clocked a) (hstep : s.step fl toDict a = some t) :
    t.InTime (stored ++ s.stores a) := by
  cases step_transition hstep with
  | tick now =>
    simp only [stores, List.append_nil]
    exact h.of_stores_nil hclock fun _ _ => id
  | claims =>
    simp only [stores, List.append_nil]
    exact h.of_stores_nil le_rfl fun _ _ => id
  | received | converted | stamped =>
    simp only [stores, List.append_nil]
    exact h.of_stores_nil le_rfl (by rintro topic cached ⟨⟩)
  | raised ha =>
    have hnothing : s.stores a = [] := by rcases ha with rfl | rfl <;> rfl
    rw [hnothing, List.append_nil]
    exact h.of_stores_nil le_rfl (by rintro topic cached ⟨⟩)
  | completed =>
    simp only [stores, List.append_nil]
    refine ⟨h.ordered, h.past, ?_⟩
    rintro topic cached ⟨⟩
    exact ⟨le_rfl, h.past⟩
  | @stored topic cached hcallback =>
    obtain ⟨hpast, hlast⟩ := h.callback topic cached hcallback
    have hstores : s.stores .store = [(topic, cached)] := by simp [stores, hcallback]
    rw [hstores]
    refine ⟨?_, ?_, by rintro topic' cached' ⟨⟩⟩
    · rw [List.pairwise_append]
      refine ⟨h.ordered, List.pairwise_singleton _ _, ?_⟩
      intro w hw w' hw'
      obtain rfl := List.mem_singleton.1 hw'
      exact hlast w hw
    · intro w hw
      rcases List.mem_append.1 hw with hw | hw
      · exact h.past w hw
      · obtain rfl := List.mem_singleton.1 hw
        exact hpast

/-- In every run of a clock that does not run backwards, a topic is fresh exactly when some entry of it was received at
most `max_age_s` ago. -/
theorem isFresh_iff {start : K} {as : List (CacheAction K P)}
    (hclock : StepSystem.Along (step fl toDict) Clocked (initial start) as)
    (hrun : StepSystem.run (step fl toDict) (initial start) as = some s) (topic : String) (maxAgeS later : K) :
    s.isFresh topic maxAgeS later = true ↔
      ∃ cached, (topic, cached) ∈ StepSystem.outputs (step fl toDict) stores (initial start) as ∧
        later - cached.receivedAt ≤ maxAgeS := by
  have hkept := kept_of_run hrun
  have htime : s.InTime (StepSystem.outputs (step fl toDict) stores (initial start) as) :=
    StepSystem.outputs_invariant_along (P := InTime) (fun _ _ _ _ htime hclock hstep => htime.step hclock hstep)
      ⟨.nil, by simp, by rintro topic cached ⟨⟩⟩ hclock hrun
  have hordered : (StepSystem.outputs (step fl toDict) stores (initial start) as).Pairwise fun w w' =>
      w.1 = w'.1 → w.2.receivedAt ≤ w'.2.receivedAt := by
    refine htime.ordered.imp ?_
    intro w w' hle _
    exact hle
  have hlast := WriteLog.exists_lastWrite_iff (k := topic)
    (p := fun cached : PooledMessage K V P => later - cached.receivedAt ≤ maxAgeS)
    (fun b b' hle hb => (sub_le_sub_left hle later).trans hb) hordered
  rw [← hlast, ← hkept.cache]
  unfold isFresh getLatest
  cases s.cache topic with
  | none => simp
  | some cached => simp

omit [LinearOrder K] [IsStrictOrderedRing K] in
/-- The clock of a run is the one it began with, or one of those it was set to. -/
theorem now_of_run {as : List (CacheAction K P)} (hrun : StepSystem.run (step fl toDict) s as = some t) :
    t.now ∈ s.now :: as.filterMap CacheAction.time := by
  induction as generalizing s with
  | nil =>
    obtain rfl := Option.some.inj hrun
    exact List.mem_cons_self
  | cons a as ih =>
    obtain ⟨s', hstep, hrun⟩ := StepSystem.run_cons.1 hrun
    have hnow := ih hrun
    cases step_transition hstep with
    | tick now => exact List.mem_cons_of_mem _ hnow
    | raised ha => rcases ha with rfl | rfl <;> exact hnow
    | claims | received | converted | stamped | completed | stored => exact hnow

omit [IsStrictOrderedRing K] in
/-- A clock whose times go up does not run backwards. -/
private theorem clocked_of_times {as : List (CacheAction K P)}
    (h : (s.now :: as.filterMap CacheAction.time).Pairwise (· ≤ ·)) :
    StepSystem.Along (step fl toDict) Clocked s as := by
  rintro as₁ (now | _ | _ | _ | _ | _ | _) as₂ s₁ rfl hrun
  · rw [List.filterMap_append, ← List.cons_append, List.pairwise_append] at h
    exact h.2.2 _ (now_of_run hrun) now List.mem_cons_self
  all_goals trivial

/-- The entries are from the times 2 and 4: fresh for a bound of three seconds, and not for one of one. -/
theorem isFresh_sample :
    ∃ s, StepSystem.run (step id sampleToDict) (initial 0) sampleMessages = some s ∧
      s.isFresh "/odom" 3 6 = true ∧ s.isFresh "/odom" 1 6 = false := by
  have hclock : StepSystem.Along (step id sampleToDict) Clocked (initial 0) sampleMessages :=
    clocked_of_times (by decide +kernel)
  have htimes : (StepSystem.outputs (step id sampleToDict) stores (initial 0) sampleMessages).map
      (fun w => (w.1, w.2.receivedAt)) = [("/odom", 2), ("/odom", 4)] := by decide +kernel
  obtain ⟨s, hrun⟩ := Option.isSome_iff_exists.1 sampleMessages_run
  have hfresh := isFresh_iff hclock hrun "/odom"
  have hentries : ∀ maxAgeS : ℚ, s.isFresh "/odom" maxAgeS 6 = true ↔
      ∃ w ∈ [("/odom", (2 : ℚ)), ("/odom", 4)], w.1 = "/odom" ∧ 6 - w.2 ≤ maxAgeS := by
    intro maxAgeS
    rw [hfresh, ← htimes]
    constructor
    · rintro ⟨cached, hcached, hage⟩
      exact ⟨_, List.mem_map_of_mem hcached, rfl, hage⟩
    · rintro ⟨w, hw, htopic, hage⟩
      obtain ⟨⟨topic, cached⟩, hcached, rfl⟩ := List.mem_map.1 hw
      obtain rfl : topic = "/odom" := htopic
      exact ⟨cached, hcached, hage⟩
  refine ⟨s, hrun, (hentries 3).2 (by norm_num), ?_⟩
  rw [← Bool.not_eq_true, hentries 1]
  norm_num

end Fresh

end MessageCache

end RosMcp
