import RosMcp.Capabilities.Alike
import RosMcp.Server

/-!
# The server in its own graph

The walk over the graph also finds the node of the server, and takes its endpoints for those of a robot: the
subscriptions to the configured odometry, scan and image topics and the publisher of the velocity topic.  A topic of the
server that no node before it names gets the type of the server's endpoint.  The entries stay the same with and without
that node when the rest of the graph confirms by itself what the endpoints of the server confirm, and the topics that
these endpoints hide from another rule do not matter to it (`entries_without_server`).  With no robot at all it does
not: the server finds its own endpoints.
-/

namespace RosMcp

variable {N : Type}

/-- The subscriptions that a series of calls of `ensure_subscribed` creates: the first call of a topic creates one. -/
def createdSubscriptions (calls : List (String × String)) : List (String × String) :=
  calls.foldl (fun created call => if created.any fun c => c.1 == call.1 then created else created ++ [call]) []

/-- The node of the server as the walk finds it; what it has besides the endpoints of `_amain` is that of `base`. -/
def ownNode (overrides : CapabilityConfig) (base : GraphNode) : GraphNode :=
  { base with
    publishers := [((serverPublisher overrides).1, [(serverPublisher overrides).2])]
    subscribers := (createdSubscriptions (serverSubscriptions overrides)).map fun s => (s.1, [s.2]) }

/-- The entries are the same with the node of the server, wherever it is enumerated. -/
def EntriesWithoutServer (graph : RosGraph) (overrides : CapabilityConfig) (safety : SafetyConfig N) : Prop :=
  ∀ base before after version version', graph.nodes = before ++ after →
    infer (collectGraphSnapshot { graph with nodes := before ++ ownNode overrides base :: after } version')
        overrides safety =
      infer (collectGraphSnapshot graph version) overrides safety

/-! ### When they are -/

/-- The topics of the server. -/
def ownTopics (overrides : CapabilityConfig) : Set String :=
  {overrides.motion.cmdVelTopic, overrides.motion.odomTopic, overrides.lidarTopic, overrides.cameraImageTopic}

/-- The type that a topic has at the node of the server. -/
def ownType (overrides : CapabilityConfig) (topic : String) : Option String :=
  if topic = overrides.motion.cmdVelTopic then some "geometry_msgs/msg/Twist"
  else if topic = overrides.motion.odomTopic then some odomType
  else if topic = overrides.lidarTopic then some laserScanType
  else if topic = overrides.cameraImageTopic then some "sensor_msgs/msg/Image" else none

/-- The server has the topic under one of the types. -/
def OwnShows (overrides : CapabilityConfig) (typeNames : List String) (topic : String) : Prop :=
  ∃ typeName ∈ typeNames, ownType overrides topic = some typeName

/-- The topics of the server that no node before it names. -/
def hidden (overrides : CapabilityConfig) (before : List GraphNode) : Set String :=
  {topic ∈ ownTopics overrides | topicType before topic = none}

/-- A rule with one configured topic: where the server has the topic under the types of the rule, the other nodes show
it too; where it does not, they show none of its topics under these types, or two others. -/
structure ShownTopic (overrides : CapabilityConfig) (nodes : List GraphNode) (typeNames : List String)
    (configured : String) : Prop where
  used : OwnShows overrides typeNames configured → Shows nodes typeNames configured
  unused : ¬ OwnShows overrides typeNames configured → ¬ Shows nodes typeNames configured ∧
    ((∀ topic ∈ ownTopics overrides, ¬ Shows nodes typeNames topic) ∨
      (shown nodes typeNames \ ownTopics overrides).Nontrivial)

/-- The topics shown under some types with the server after `before`, when it has those of `own` under these types. -/
def shownAround (overrides : CapabilityConfig) (nodes before : List GraphNode) (typeNames : List String)
    (own : Set String) : Set String :=
  shown nodes typeNames \ hidden overrides before ∪ own ∩ hidden overrides before

/-- The rule for the motion, where one topic is configured for both and the server has it for velocities: with the
server after `before` there are velocity and odometry topics exactly if there are without it, and the same only ones. -/
structure ShownOnOneTopic (overrides : CapabilityConfig) (nodes before : List GraphNode) : Prop where
  missing :
    (shownAround overrides nodes before twistTypes {overrides.motion.cmdVelTopic} = ∅ ∨
        shownAround overrides nodes before [odomType] ∅ = ∅) ↔
      shown nodes twistTypes = ∅ ∨ shown nodes [odomType] = ∅
  sole : ∀ twist odom,
    (shownAround overrides nodes before twistTypes {overrides.motion.cmdVelTopic} = {twist} ∧
        shownAround overrides nodes before [odomType] ∅ = {odom}) ↔
      shown nodes twistTypes = {twist} ∧ shown nodes [odomType] = {odom}

/-- The graph shows by itself what the server would show, and loses nothing that matters to topics of the server. -/
structure ShownAnyway (graph : RosGraph) (overrides : CapabilityConfig) : Prop where
  motion : overrides.motion.enabled = true → overrides.motion.cmdVelTopic ≠ overrides.motion.odomTopic →
    Shows graph.nodes twistTypes overrides.motion.cmdVelTopic ∧
      Shows graph.nodes [odomType] overrides.motion.odomTopic
  oneTopic : overrides.motion.enabled = true → overrides.motion.cmdVelTopic = overrides.motion.odomTopic →
    ∀ before after, graph.nodes = before ++ after → ShownOnOneTopic overrides graph.nodes before
  scan : ShownTopic overrides graph.nodes [laserScanType] overrides.lidarTopic
  image : ShownTopic overrides graph.nodes imageTypes overrides.cameraImageTopic
  pose : "/amcl_pose" ∈ ownTopics overrides → ¬ Shows graph.nodes [poseWithCovType] "/amcl_pose"

/-- No two endpoints of the server are on one topic. -/
def DistinctTopics (overrides : CapabilityConfig) : Prop :=
  [overrides.motion.cmdVelTopic, overrides.motion.odomTopic, overrides.lidarTopic, overrides.cameraImageTopic].Nodup

/-- The graph shows by itself what the endpoints of the server would show, and they hide no AMCL pose. -/
structure ShownByRobot (graph : RosGraph) (overrides : CapabilityConfig) : Prop where
  motion : overrides.motion.enabled = true → Shows graph.nodes twistTypes overrides.motion.cmdVelTopic ∧
    Shows graph.nodes [odomType] overrides.motion.odomTopic
  scan : Shows graph.nodes [laserScanType] overrides.lidarTopic
  image : Shows graph.nodes imageTypes overrides.cameraImageTopic
  pose : "/amcl_pose" = overrides.motion.cmdVelTopic ∨ "/amcl_pose" = overrides.motion.odomTopic →
    ¬ Shows graph.nodes [poseWithCovType] "/amcl_pose"

/-! ### The endpoints of the server -/

section OwnNode

variable {overrides : CapabilityConfig} {base : GraphNode} {before after : List GraphNode} {typeNames : List String}
  {topic : String}

/-- The subscription of a topic is that of its first call. -/
private theorem find?_createdSubscriptions (calls : List (String × String)) (topic : String) :
    ((createdSubscriptions calls).find? fun c => c.1 == topic) = calls.find? fun c => c.1 == topic := by
  have h : ∀ created : List (String × String),
      ((calls.foldl (fun created call => if created.any fun c => c.1 == call.1 then created else created ++ [call])
        created).find? fun c => c.1 == topic) = (created ++ calls).find? fun c => c.1 == topic := by
    induction calls with
    | nil => simp
    | cons call calls ih =>
      intro created
      rw [List.foldl_cons, ih]
      split
      · next hany =>
        obtain ⟨c, hc, heq⟩ := List.any_eq_true.1 hany
        rw [List.find?_append, List.find?_append, List.find?_cons]
        by_cases htopic : (call.1 == topic) = true
        · -- an earlier call of the same topic is found first
          have hfound : (created.find? fun c => c.1 == topic).isSome := by
            rw [List.find?_isSome]
            exact ⟨c, hc, by rwa [eq_of_beq heq]⟩
          obtain ⟨found, hfound⟩ := Option.isSome_iff_exists.1 hfound
          rw [hfound, Option.some_or, Option.some_or]
        · rw [Bool.not_eq_true] at htopic
          rw [htopic]
      · rw [List.append_assoc, List.singleton_append]
  simpa [createdSubscriptions] using h []

/-- The walk finds the publisher of a topic first, and then its subscription. -/
private theorem topicType_ownNode (topic : String) : topicType
    [ownNode overrides base] topic = ownType overrides topic := by
  have hsubscriber : ∀ created : List (String × String),
      ((created.map fun s => (s.1, [s.2])).find? fun endpoint => endpoint.1 == topic).map
        (fun endpoint => firstType endpoint.2) = (created.find? fun c => c.1 == topic).map Prod.snd := by
    intro created
    rw [List.find?_map, Option.map_map]
    rfl
  simp only [topicType, List.flatMap_cons, List.flatMap_nil, List.append_nil, GraphNode.endpoints, ownNode,
    List.find?_append, Option.map_or, hsubscriber, find?_createdSubscriptions]
  simp only [serverPublisher, motionPublisher, serverSubscriptions, motionSubscriptions, perceptionSubscriptions,
    Option.toList_some, List.map_cons, List.map_nil, List.cons_append, List.nil_append, List.find?_cons,
    List.find?_nil, ownType, odomType, laserScanType]
  have hmiss : ∀ name, topic ≠ name → (name == topic) = false := fun name hne => beq_false_of_ne (Ne.symm hne)
  have hhit : ∀ name, topic = name → (name == topic) = true := fun name heq => beq_iff_eq.2 heq.symm
  by_cases hcmdVel : topic = overrides.motion.cmdVelTopic
  · simp only [hhit _ hcmdVel, if_pos hcmdVel]
    rfl
  by_cases hodom : topic = overrides.motion.odomTopic
  · simp only [hmiss _ hcmdVel, hhit _ hodom, if_neg hcmdVel, if_pos hodom]
    rfl
  by_cases hscan : topic = overrides.lidarTopic
  · simp only [hmiss _ hcmdVel, hmiss _ hodom, hhit _ hscan, if_neg hcmdVel, if_neg hodom, if_pos hscan]
    rfl
  by_cases himage : topic = overrides.cameraImageTopic
  · simp only [hmiss _ hcmdVel, hmiss _ hodom, hmiss _ hscan, hhit _ himage, if_neg hcmdVel, if_neg hodom,
      if_neg hscan, if_pos himage]
    rfl
  · simp only [hmiss _ hcmdVel, hmiss _ hodom, hmiss _ hscan, hmiss _ himage, if_neg hcmdVel, if_neg hodom,
      if_neg hscan, if_neg himage]
    rfl

/-- The server has a type for its own topics only. -/
theorem ownType_eq_none : ownType overrides topic = none ↔ topic ∉ ownTopics overrides := by
  unfold ownType ownTopics
  split_ifs with hcmdVel hodom hscan himage <;> simp [*]

private theorem ownShows_twist : OwnShows overrides twistTypes topic ↔ topic = overrides.motion.cmdVelTopic := by
  unfold OwnShows ownType
  by_cases hcmdVel : topic = overrides.motion.cmdVelTopic
  · simp [hcmdVel, twistTypes]
  · rw [iff_false_right hcmdVel, if_neg hcmdVel]
    split_ifs <;> simp [twistTypes, odomType, laserScanType]

private theorem ownShows_odom :
    OwnShows overrides [odomType] topic ↔
      topic = overrides.motion.odomTopic ∧ topic ≠ overrides.motion.cmdVelTopic := by
  unfold OwnShows ownType
  by_cases hcmdVel : topic = overrides.motion.cmdVelTopic
  · simp [hcmdVel, odomType]
  by_cases hodom : topic = overrides.motion.odomTopic
  · rw [if_neg hcmdVel, if_pos hodom]
    simp [hodom, hodom ▸ hcmdVel]
  · rw [iff_false_right fun h => hodom h.1, if_neg hcmdVel, if_neg hodom]
    split_ifs <;> simp [odomType, laserScanType]

private theorem OwnShows.eq_lidarTopic
    (h : OwnShows overrides [laserScanType] topic) : topic = overrides.lidarTopic := by
  unfold OwnShows ownType at h
  split_ifs at h with hcmdVel hodom hscan himage <;> simp [odomType, laserScanType] at h
  exact hscan

private theorem OwnShows.eq_cameraImageTopic (h : OwnShows overrides imageTypes topic) :
    topic = overrides.cameraImageTopic := by
  unfold OwnShows ownType at h
  split_ifs at h with hcmdVel hodom hscan himage <;> simp [odomType, laserScanType, imageTypes] at h
  exact himage

private theorem not_ownShows_pose : ¬ OwnShows overrides [poseWithCovType] topic := by
  unfold OwnShows ownType
  split_ifs <;> simp [odomType, laserScanType, poseWithCovType]

/-- With the server, its hidden topics are shown under its own types, and all others as before. -/
private theorem mem_shown_insert :
    topic ∈ shown (before ++ ownNode overrides base :: after) typeNames ↔
      topic ∈ hidden overrides before ∧ OwnShows overrides typeNames topic ∨
        topic ∈ shown (before ++ after) typeNames \ hidden overrides before := by
  have hown := @ownType_eq_none overrides topic
  simp only [shown, Shows, Set.mem_ofPred_eq, Set.mem_sdiff, hidden, OwnShows]
  rw [topicType_append, topicType_cons (ownNode overrides base), topicType_append, topicType_ownNode]
  cases hbefore : topicType before topic with
  | some typeName => simp
  | none =>
    cases htype : ownType overrides topic with
    | none => simp [hown.1 htype]
    | some typeName =>
      have hmem : topic ∈ ownTopics overrides := by
        by_contra hno
        rw [hown.2 hno] at htype
        cases htype
      simp [hmem]

/-- Enumerated first, the server has its own way with its topics. -/
private theorem hidden_nil : hidden overrides [] = ownTopics overrides := by
  ext topic
  simp [hidden, topicType]

private theorem hidden_subset : hidden overrides before ⊆ ownTopics overrides := fun _ h => h.1

/-- A topic is shown under one type only. -/
private theorem Shows.disjoint {nodes : List GraphNode} {typeNames' : List String} (h : Shows nodes typeNames topic)
    (hdisjoint : List.Disjoint typeNames typeNames') : ¬ Shows nodes typeNames' topic := by
  rintro ⟨typeName', hmem', htype'⟩
  obtain ⟨typeName, hmem, htype⟩ := h
  obtain rfl := Option.some.inj (htype.symm.trans htype')
  exact hdisjoint hmem hmem'

end OwnNode

/-- A node without endpoints. -/
def GraphNode.bare (name : String) : GraphNode := ⟨name, "/", [], [], [], [], some []⟩

/-! ### Rule by rule -/

section Rules

variable {overrides : CapabilityConfig} {nodes : List GraphNode} {typeNames : List String} {configured : String}

/-- A rule that the server has at most one topic for. -/
theorem alike_topic_iff (hown : configured ∈ ownTopics overrides)
    (honly : ∀ topic, OwnShows overrides typeNames topic → topic = configured) :
    (∀ base before after, nodes = before ++ after →
      (topicCandidacy configured (shown (before ++ ownNode overrides base :: after) typeNames)).Alike
        (topicCandidacy configured (shown nodes typeNames))) ↔
      ShownTopic overrides nodes typeNames configured := by
  have hunused : ¬ OwnShows overrides typeNames configured → ∀ {base : GraphNode} {before after : List GraphNode},
      nodes = before ++ after → shown (before ++ ownNode overrides base :: after) typeNames =
        shown nodes typeNames \ hidden overrides before := by
    intro hno base before after hnodes
    ext topic
    rw [mem_shown_insert, ← hnodes, or_iff_right]
    rintro ⟨-, hshows⟩
    exact hno (honly topic hshows ▸ hshows)
  constructor
  · intro halike
    have hfirst := halike (.bare "ros2_mcp_server") [] nodes rfl
    constructor
    · intro hused
      refine hfirst.configured.1 (mem_shown_insert.2 (Or.inl ⟨?_, hused⟩))
      rwa [hidden_nil]
    · intro hno
      rw [hunused hno (List.nil_append nodes).symm, hidden_nil] at hfirst
      have hout : configured ∉ shown nodes typeNames \ ownTopics overrides := fun h => h.2 hown
      refine ⟨fun hshows => hout (hfirst.configured.2 hshows), ?_⟩
      rcases (shown nodes typeNames \ ownTopics overrides).eq_empty_or_nonempty with hempty | hnonempty
      · have hnone : shown nodes typeNames = ∅ := (hfirst.missing hout).1 hempty
        exact Or.inl fun topic _ hshows => Set.notMem_empty topic (hnone ▸ hshows)
      · rcases hnonempty.exists_eq_singleton_or_nontrivial with ⟨only, honly⟩ | hmany
        · have hsole : shown nodes typeNames = {only} := (hfirst.sole hout only).1 honly
          rw [← honly] at hsole
          refine Or.inl fun topic hmem hshows => ?_
          have hleft : topic ∈ shown nodes typeNames \ ownTopics overrides := hsole ▸ hshows
          exact hleft.2 hmem
        · exact Or.inr hmany
  · intro hshown base before after hnodes
    by_cases hused : OwnShows overrides typeNames configured
    · have hshows := hshown.used hused
      refine .of_configured (mem_shown_insert.2 ?_) hshows
      by_cases hhidden : configured ∈ hidden overrides before
      · exact Or.inl ⟨hhidden, hused⟩
      · exact Or.inr ⟨hnodes ▸ hshows, hhidden⟩
    · obtain ⟨hno, hother⟩ := hshown.unused hused
      rw [hunused hused hnodes]
      rcases hother with hnone | hmany
      · have hsame : shown nodes typeNames \ hidden overrides before = shown nodes typeNames :=
          sdiff_eq_left.2 (Set.disjoint_left.2 fun topic hshows hhidden => hnone topic (hidden_subset hhidden) hshows)
        rw [hsame]
        exact ⟨Iff.rfl, fun _ => Iff.rfl, fun _ _ => Iff.rfl⟩
      · -- two topics remain whatever the server hides
        have hleast := hmany.mono (Set.sdiff_subset_sdiff_right (@hidden_subset overrides before))
        have hall := hleast.mono Set.sdiff_subset
        refine ⟨iff_of_false (fun h => hno h.1) hno, fun _ => ?_, fun _ only => ?_⟩
        · exact iff_of_false hleast.nonempty.ne_empty hall.nonempty.ne_empty
        · exact iff_of_false hleast.ne_singleton hall.ne_singleton

/-- The velocity and the odometry on two topics. -/
theorem alike_motion_iff (hne : overrides.motion.cmdVelTopic ≠ overrides.motion.odomTopic) :
    (∀ base before after, nodes = before ++ after →
      (motionCandidacy overrides.motion (shown (before ++ ownNode overrides base :: after) twistTypes)
          (shown (before ++ ownNode overrides base :: after) [odomType])).Alike
        (motionCandidacy overrides.motion (shown nodes twistTypes) (shown nodes [odomType]))) ↔
      Shows nodes twistTypes overrides.motion.cmdVelTopic ∧ Shows nodes [odomType] overrides.motion.odomTopic := by
  have hcmdVel : OwnShows overrides twistTypes overrides.motion.cmdVelTopic := ownShows_twist.2 rfl
  have hodom : OwnShows overrides [odomType] overrides.motion.odomTopic := ownShows_odom.2 ⟨rfl, hne.symm⟩
  constructor
  · intro halike
    refine (halike (.bare "ros2_mcp_server") [] nodes rfl).configured.1 ⟨?_, ?_⟩
    · exact mem_shown_insert.2 (Or.inl ⟨by simp [hidden_nil, ownTopics], hcmdVel⟩)
    · exact mem_shown_insert.2 (Or.inl ⟨by simp [hidden_nil, ownTopics], hodom⟩)
  · rintro ⟨htwist, hodometry⟩ base before after hnodes
    have hkeep : ∀ {typeNames : List String} {topic : String}, OwnShows overrides typeNames topic →
        Shows nodes typeNames topic → topic ∈ shown (before ++ ownNode overrides base :: after) typeNames := by
      intro typeNames topic hown hshows
      refine mem_shown_insert.2 ?_
      by_cases hhidden : topic ∈ hidden overrides before
      · exact Or.inl ⟨hhidden, hown⟩
      · exact Or.inr ⟨hnodes ▸ hshows, hhidden⟩
    exact .of_configured ⟨hkeep hcmdVel htwist, hkeep hodom hodometry⟩ ⟨htwist, hodometry⟩

/-- The velocity and the odometry on one topic: no topic has both types, so it is never confirmed. -/
theorem alike_oneTopic_iff (heq : overrides.motion.cmdVelTopic = overrides.motion.odomTopic) {base : GraphNode}
    {before after : List GraphNode} (hnodes : nodes = before ++ after) :
    (motionCandidacy overrides.motion (shown (before ++ ownNode overrides base :: after) twistTypes)
        (shown (before ++ ownNode overrides base :: after) [odomType])).Alike
      (motionCandidacy overrides.motion (shown nodes twistTypes) (shown nodes [odomType])) ↔
      ShownOnOneTopic overrides nodes before := by
  have hconfigured : ∀ nodes, ¬ (overrides.motion.cmdVelTopic ∈ shown nodes twistTypes ∧
      overrides.motion.odomTopic ∈ shown nodes [odomType]) := by
    rintro nodes ⟨htwist, hodom⟩
    rw [← heq] at hodom
    exact Shows.disjoint htwist (by simp [twistTypes, odomType]) hodom
  have htwists : shown (before ++ ownNode overrides base :: after) twistTypes =
      shownAround overrides nodes before twistTypes {overrides.motion.cmdVelTopic} := by
    ext topic
    rw [shownAround, mem_shown_insert, ← hnodes, ownShows_twist, Set.mem_union, Set.mem_inter_iff,
      Set.mem_singleton_iff, or_comm, and_comm (a := topic = _)]
  have hodoms : shown (before ++ ownNode overrides base :: after) [odomType] =
      shownAround overrides nodes before [odomType] ∅ := by
    ext topic
    rw [shownAround, Set.empty_inter, Set.union_empty, mem_shown_insert, ← hnodes, ownShows_odom, heq, or_iff_right]
    rintro ⟨-, hyes, hno⟩
    exact hno hyes
  rw [htwists, hodoms]
  have hbefore := hconfigured nodes
  have hafter := hconfigured (before ++ ownNode overrides base :: after)
  rw [htwists, hodoms] at hafter
  constructor
  · intro halike
    exact ⟨halike.missing hafter, fun twist odom => halike.sole hafter (twist, odom)⟩
  · intro hshown
    exact ⟨iff_of_false hafter hbefore, fun _ => hshown.missing, fun _ pair => hshown.sole pair.1 pair.2⟩

/-- The rule for the localization looks for one topic, which the server never has under its type. -/
theorem alike_pose_iff :
    (∀ base before after, nodes = before ++ after →
      ("/amcl_pose" ∈ shown (before ++ ownNode overrides base :: after) [poseWithCovType] ↔
        "/amcl_pose" ∈ shown nodes [poseWithCovType])) ↔
      ("/amcl_pose" ∈ ownTopics overrides → ¬ Shows nodes [poseWithCovType] "/amcl_pose") := by
  constructor
  · intro halike hown hshows
    rcases mem_shown_insert.1 ((halike (.bare "ros2_mcp_server") [] nodes rfl).2 hshows) with ⟨-, hpose⟩ | ⟨-, hno⟩
    · exact not_ownShows_pose hpose
    · rw [hidden_nil] at hno
      exact hno hown
  · intro hpose base before after hnodes
    rw [mem_shown_insert, ← hnodes]
    constructor
    · rintro (⟨-, hown⟩ | ⟨hshows, -⟩)
      · exact absurd hown not_ownShows_pose
      · exact hshows
    · intro hshows
      exact Or.inr ⟨hshows, fun hhidden => hpose (hidden_subset hhidden) hshows⟩

end Rules

/-! ### All entries -/

section Compare

variable {graph : RosGraph} {overrides : CapabilityConfig} {safety : SafetyConfig N}

/-- The entries compared at every place of the enumeration. -/
private theorem entriesWithoutServer_iff_alike :
    EntriesWithoutServer graph overrides safety ↔
      ∀ base before after, graph.nodes = before ++ after →
        AlikeTopics overrides (before ++ ownNode overrides base :: after) graph.nodes := by
  have hcompare : ∀ (base : GraphNode) (before after : List GraphNode) (version version' : Nat),
      infer (collectGraphSnapshot { graph with nodes := before ++ ownNode overrides base :: after } version') overrides
          safety = infer (collectGraphSnapshot graph version) overrides safety ↔
        AlikeTopics overrides (before ++ ownNode overrides base :: after) graph.nodes :=
    fun base before after version version' => infer_collect_eq_iff rfl rfl
  constructor
  · intro h base before after hnodes
    exact (hcompare base before after 0 0).1 (h base before after 0 0 hnodes)
  · intro h base before after version version' hnodes
    exact (hcompare base before after version version').2 (h base before after hnodes)

private theorem entriesWithoutServer_iff_shown :
    EntriesWithoutServer graph overrides safety ↔ ShownAnyway graph overrides := by
  have hscan := @alike_topic_iff overrides graph.nodes [laserScanType] overrides.lidarTopic (by simp [ownTopics])
    fun _ h => h.eq_lidarTopic
  have himage := @alike_topic_iff overrides graph.nodes imageTypes overrides.cameraImageTopic (by simp [ownTopics])
    fun _ h => h.eq_cameraImageTopic
  have hpose := @alike_pose_iff overrides graph.nodes
  rw [entriesWithoutServer_iff_alike]
  constructor
  · intro halike
    constructor
    case motion =>
      intro henabled hne
      exact (alike_motion_iff hne).1 fun base before after hnodes => (halike base before after hnodes).motion henabled
    case oneTopic =>
      intro henabled heq before after hnodes
      exact (alike_oneTopic_iff heq hnodes).1 ((halike (.bare "ros2_mcp_server") before after hnodes).motion henabled)
    case scan => exact hscan.1 fun base before after hnodes => (halike base before after hnodes).scan
    case image => exact himage.1 fun base before after hnodes => (halike base before after hnodes).image
    case pose => exact hpose.1 fun base before after hnodes => (halike base before after hnodes).pose
  · intro hshown base before after hnodes
    constructor
    case motion =>
      intro henabled
      by_cases heq : overrides.motion.cmdVelTopic = overrides.motion.odomTopic
      · exact (alike_oneTopic_iff heq hnodes).2 (hshown.oneTopic henabled heq before after hnodes)
      · exact (alike_motion_iff heq).2 (hshown.motion henabled heq) base before after hnodes
    case scan => exact hscan.2 hshown.scan base before after hnodes
    case image => exact himage.2 hshown.image base before after hnodes
    case pose => exact hpose.2 hshown.pose base before after hnodes

/-- With distinct topics the server shows each of them under its type. -/
private theorem DistinctTopics.ownShows (h : DistinctTopics overrides) :
    OwnShows overrides [laserScanType] overrides.lidarTopic ∧
      OwnShows overrides imageTypes overrides.cameraImageTopic := by
  simp only [DistinctTopics, List.nodup_cons, List.mem_cons, List.not_mem_nil, or_false, not_or] at h
  obtain ⟨⟨-, hscan, himage⟩, ⟨hodomScan, hodomImage⟩, hscanImage, -⟩ := h
  unfold OwnShows ownType
  simp [imageTypes, Ne.symm hscan, Ne.symm himage, Ne.symm hodomScan, Ne.symm hodomImage, Ne.symm hscanImage]

/-- With distinct topics it is enough that the robot shows them, and needed. -/
private theorem shownAnyway_iff_shownByRobot (h : DistinctTopics overrides) :
    ShownAnyway graph overrides ↔ ShownByRobot graph overrides := by
  obtain ⟨hscan, himage⟩ := h.ownShows
  have hne : overrides.motion.cmdVelTopic ≠ overrides.motion.odomTopic := by
    simp only [DistinctTopics, List.nodup_cons, List.mem_cons, not_or] at h
    exact h.1.1
  constructor
  · intro hshown
    constructor
    case motion => exact fun henabled => hshown.motion henabled hne
    case scan => exact hshown.scan.used hscan
    case image => exact hshown.image.used himage
    case pose =>
      rintro (hamcl | hamcl)
      · exact hshown.pose (by simp [ownTopics, hamcl])
      · exact hshown.pose (by simp [ownTopics, hamcl])
  · intro hrobot
    constructor
    case motion => exact fun henabled _ => hrobot.motion henabled
    case oneTopic => exact fun _ heq => absurd heq hne
    case scan => exact ⟨fun _ => hrobot.scan, fun hno => absurd hscan hno⟩
    case image => exact ⟨fun _ => hrobot.image, fun hno => absurd himage hno⟩
    case pose =>
      -- a scan or image topic is shown under that type, so not as a pose
      rintro (hamcl | hamcl | hamcl | hamcl)
      · exact hrobot.pose (Or.inl hamcl)
      · exact hrobot.pose (Or.inr hamcl)
      · rw [hamcl]
        exact hrobot.scan.disjoint (by simp [laserScanType, poseWithCovType])
      · rw [hamcl]
        exact hrobot.image.disjoint (by simp [imageTypes, poseWithCovType])

end Compare

/-- The server does not discover itself exactly when the rest of the graph shows what the server would show, and loses
nothing that matters to topics of the server; for distinct topics this means that the robot shows by itself what the
server shows. -/
theorem entries_without_server (graph : RosGraph) (overrides : CapabilityConfig) (safety : SafetyConfig N) :
    (EntriesWithoutServer graph overrides safety ↔ ShownAnyway graph overrides) ∧
    (DistinctTopics overrides → (EntriesWithoutServer graph overrides safety ↔ ShownByRobot graph overrides)) :=
  ⟨entriesWithoutServer_iff_shown, fun h => entriesWithoutServer_iff_shown.trans (shownAnyway_iff_shownByRobot h)⟩

/-- A graph without nodes. -/
def emptyGraph : RosGraph where
  nodes := []
  actions := some []
  publishersInfo _ := none
  frames := none

/-- With no robot the server discovers itself. -/
theorem server_discovers_itself :
    ¬ ∀ (graph : RosGraph) (overrides : CapabilityConfig) (safety : SafetyConfig ℚ),
      EntriesWithoutServer graph overrides safety := by
  intro h
  have hdistinct : DistinctTopics .defaults := by simp [DistinctTopics, CapabilityConfig.defaults]
  have hshown := (shownAnyway_iff_shownByRobot hdistinct).1
    (entriesWithoutServer_iff_shown.1 (h emptyGraph .defaults (.defaults id)))
  obtain ⟨typeName, -, htype⟩ := hshown.scan
  cases htype

end RosMcp
