import Mathlib.Data.List.Forall2
import Mathlib.Data.Option.Basic
import RosMcp.Capabilities.Candidates
import RosMcp.Capabilities.Registry

/-!
# The order of discovery

The ROS graph enumerates its nodes, the endpoints of a node and the actions in no particular order.  `topic_acc` keeps
for a topic the type of the first endpoint that names it, so a topic that two nodes use under different types gets a
different type in another enumeration of the same graph.  The entries do not depend on the order exactly when inference
cannot tell these types apart (`orderIndependent_iff`).
-/

namespace RosMcp

variable {N : Type}

/-! ### Enumerations of one graph -/

/-- The same node, with its endpoints enumerated in another order. -/
structure GraphNode.Reordered (node node' : GraphNode) : Prop where
  name : node'.name = node.name
  nodeNamespace : node'.nodeNamespace = node.nodeNamespace
  publishers : node.publishers.Perm node'.publishers
  subscribers : node.subscribers.Perm node'.subscribers
  services : node.services.Perm node'.services
  clients : node.clients.Perm node'.clients
  actionServers : Option.Rel List.Perm node.actionServers node'.actionServers

/-- The same graph, with its nodes, their endpoints and its actions enumerated in another order. -/
structure RosGraph.Reordered (graph graph' : RosGraph) : Prop where
  nodes : ∃ nodes, graph.nodes.Perm nodes ∧ List.Forall₂ GraphNode.Reordered nodes graph'.nodes
  actions : Option.Rel List.Perm graph.actions graph'.actions
  publishersInfo : graph'.publishersInfo = graph.publishersInfo
  frames : graph'.frames = graph.frames

/-- In some enumeration of its endpoints the node names the topic first under this type: it publishes it so, or it does
not publish it at all and subscribes to it so. -/
def GraphNode.FirstUse (node : GraphNode) (topic typeName : String) : Prop :=
  (∃ types, (topic, types) ∈ node.publishers ∧ firstType types = typeName) ∨
    ((∀ endpoint ∈ node.publishers, endpoint.1 ≠ topic) ∧
      ∃ types, (topic, types) ∈ node.subscribers ∧ firstType types = typeName)

private theorem GraphNode.Reordered.refl (node : GraphNode) : node.Reordered node where
  name := rfl
  nodeNamespace := rfl
  publishers := .refl _
  subscribers := .refl _
  services := .refl _
  clients := .refl _
  actionServers := by cases node.actionServers <;> constructor; exact .refl _

private theorem GraphNode.Reordered.firstUse_iff {node node' : GraphNode} (h : node.Reordered node')
    {topic typeName : String} :
    node'.FirstUse topic typeName ↔ node.FirstUse topic typeName := by
  simp only [GraphNode.FirstUse, h.publishers.mem_iff, h.subscribers.mem_iff]

/-- What the walk sees of a topic at one node is a first use. -/
private theorem firstUse_of_topicType {node : GraphNode} {topic typeName : String}
    (h : topicType [node] topic = some typeName) : node.FirstUse topic typeName := by
  simp only [topicType, List.flatMap_cons, List.flatMap_nil, List.append_nil, GraphNode.endpoints,
    Option.map_eq_some_iff, List.find?_append] at h
  obtain ⟨⟨name, types⟩, hfind, rfl⟩ := h
  cases hpub : node.publishers.find? fun endpoint => endpoint.1 == topic with
  | some endpoint =>
    rw [hpub, Option.some_or] at hfind
    obtain rfl := Option.some.inj hfind
    obtain rfl : name = topic := by simpa using List.find?_some hpub
    exact Or.inl ⟨types, List.mem_of_find?_eq_some hpub, rfl⟩
  | none =>
    rw [hpub, Option.none_or] at hfind
    obtain rfl : name = topic := by simpa using List.find?_some hfind
    refine Or.inr ⟨?_, types, List.mem_of_find?_eq_some hfind, rfl⟩
    simpa using List.find?_eq_none.1 hpub

/-- Every first use is what the walk sees in some enumeration of the endpoints. -/
private theorem GraphNode.FirstUse.exists_reordered {node : GraphNode} {topic typeName : String}
    (h : node.FirstUse topic typeName) :
    ∃ node', node.Reordered node' ∧ topicType [node'] topic = some typeName := by
  rcases h with ⟨types, hmem, rfl⟩ | ⟨hpub, types, hmem, rfl⟩
  · refine ⟨{ node with publishers := (topic, types) :: node.publishers.erase (topic, types) },
      { GraphNode.Reordered.refl node with publishers := List.perm_cons_erase hmem }, ?_⟩
    simp [topicType, GraphNode.endpoints]
  · refine ⟨{ node with subscribers := (topic, types) :: node.subscribers.erase (topic, types) },
      { GraphNode.Reordered.refl node with subscribers := List.perm_cons_erase hmem }, ?_⟩
    have hnone : (node.publishers.find? fun endpoint => endpoint.1 == topic) = none := by
      simpa [List.find?_eq_none] using hpub
    simp [topicType, GraphNode.endpoints, List.find?_append, hnone]

/-- A topic has a type as soon as one node has a first use of it. -/
private theorem topicType_of_firstUse {nodes : List GraphNode} {node : GraphNode} {topic typeName : String}
    (hnode : node ∈ nodes) (h : node.FirstUse topic typeName) :
    ∃ typeName', topicType nodes topic = some typeName' := by
  have hendpoint : ∃ types, (topic, types) ∈ nodes.flatMap GraphNode.endpoints := by
    rcases h with ⟨types, hmem, -⟩ | ⟨-, types, hmem, -⟩
    · exact ⟨types, List.mem_flatMap.2 ⟨node, hnode, List.mem_append_left _ hmem⟩⟩
    · exact ⟨types, List.mem_flatMap.2 ⟨node, hnode, List.mem_append_right _ hmem⟩⟩
  obtain ⟨types, hmem⟩ := hendpoint
  unfold topicType
  cases hfind : (nodes.flatMap GraphNode.endpoints).find? fun endpoint => endpoint.1 == topic with
  | none => simpa using List.find?_eq_none.1 hfind _ hmem
  | some endpoint => exact ⟨firstType endpoint.2, rfl⟩

/-- The type of a topic is that of a first use at some node. -/
private theorem firstUse_of_topicType_nodes {nodes : List GraphNode} {topic typeName : String}
    (h : topicType nodes topic = some typeName) : ∃ node ∈ nodes, node.FirstUse topic typeName := by
  induction nodes with
  | nil => cases h
  | cons node nodes ih =>
    rw [topicType_cons, Option.or_eq_some_iff] at h
    rcases h with h | ⟨-, h⟩
    · exact ⟨node, List.mem_cons_self, firstUse_of_topicType h⟩
    · obtain ⟨other, hother, huse⟩ := ih h
      exact ⟨other, List.mem_cons_of_mem _ hother, huse⟩

/-- The two lists of nodes have the same first uses. -/
private theorem forall₂_firstUse {nodes nodes' : List GraphNode} (h : List.Forall₂ GraphNode.Reordered nodes nodes')
    {topic typeName : String} :
    (∃ node ∈ nodes', node.FirstUse topic typeName) ↔ ∃ node ∈ nodes, node.FirstUse topic typeName := by
  induction h with
  | nil => simp
  | cons hnode _ ih => simp only [List.exists_mem_cons_iff, ih, hnode.firstUse_iff]

section Reordered

variable {graph graph' : RosGraph}

private theorem RosGraph.Reordered.firstUse_iff (h : graph.Reordered graph') {topic typeName : String} :
    (∃ node ∈ graph'.nodes, node.FirstUse topic typeName) ↔ ∃ node ∈ graph.nodes, node.FirstUse topic typeName := by
  obtain ⟨nodes, hperm, hnodes⟩ := h.nodes
  rw [forall₂_firstUse hnodes]
  simp only [hperm.mem_iff]

private theorem RosGraph.Reordered.refl (graph : RosGraph) : graph.Reordered graph where
  nodes := ⟨graph.nodes, .refl _, List.forall₂_same.2 fun node _ => GraphNode.Reordered.refl node⟩
  actions := by cases graph.actions <;> constructor; exact .refl _
  publishersInfo := rfl
  frames := rfl

/-- Every first use gives the topic its type in some enumeration of the graph. -/
private theorem exists_reordered_of_firstUse {node : GraphNode} {topic typeName : String} (hnode : node ∈ graph.nodes)
    (h : node.FirstUse topic typeName) :
    ∃ graph', graph.Reordered graph' ∧ topicType graph'.nodes topic = some typeName := by
  obtain ⟨node', hreordered, htype⟩ := h.exists_reordered
  refine ⟨{ graph with nodes := node' :: graph.nodes.erase node },
    { RosGraph.Reordered.refl graph with nodes := ?_ }, ?_⟩
  · refine ⟨node :: graph.nodes.erase node, List.perm_cons_erase hnode, .cons hreordered ?_⟩
    exact List.forall₂_same.2 fun other _ => GraphNode.Reordered.refl other
  · dsimp only
    rw [topicType_cons, htype, Option.some_or]

end Reordered

/-! ### Topics of one kind -/

/-- All first uses of the topic agree on whether its type is one of these. -/
def RosGraph.Agree (graph : RosGraph) (typeNames : List String) (topic : String) : Prop :=
  ∀ node ∈ graph.nodes, ∀ node' ∈ graph.nodes, ∀ typeName typeName', node.FirstUse topic typeName →
    node'.FirstUse topic typeName' → (typeName ∈ typeNames ↔ typeName' ∈ typeNames)

/-- When they agree, every enumeration shows the topic as the first uses have it. -/
theorem RosGraph.Reordered.shows_iff {graph graph' : RosGraph} (h : graph.Reordered graph') {typeNames : List String}
    {topic : String} (hagree : graph.Agree typeNames topic) :
    Shows graph'.nodes typeNames topic ↔
      ∃ typeName ∈ typeNames, ∃ node ∈ graph.nodes, node.FirstUse topic typeName := by
  constructor
  · rintro ⟨typeName, hmem, htype⟩
    exact ⟨typeName, hmem, h.firstUse_iff.1 (firstUse_of_topicType_nodes htype)⟩
  · rintro ⟨typeName, hmem, huse⟩
    obtain ⟨node', hnode', huse'⟩ := h.firstUse_iff.2 huse
    obtain ⟨other, htype⟩ := topicType_of_firstUse hnode' huse'
    obtain ⟨first, hfirst, hfirstUse⟩ := h.firstUse_iff.1 (firstUse_of_topicType_nodes htype)
    obtain ⟨node, hnode, huse⟩ := huse
    exact ⟨other, (hagree node hnode first hfirst typeName other huse hfirstUse).1 hmem, htype⟩

/-- The first uses agree exactly when all enumerations show the same. -/
theorem agree_iff {graph : RosGraph} {typeNames : List String} {topic : String} :
    graph.Agree typeNames topic ↔
      ∀ graph', graph.Reordered graph' → (Shows graph'.nodes typeNames topic ↔ Shows graph.nodes typeNames topic) := by
  constructor
  · intro hagree graph' h
    rw [h.shows_iff hagree, (RosGraph.Reordered.refl graph).shows_iff hagree]
  · intro hshows node hnode node' hnode' typeName typeName' huse huse'
    obtain ⟨graph₁, hreordered₁, htype₁⟩ := exists_reordered_of_firstUse hnode huse
    obtain ⟨graph₂, hreordered₂, htype₂⟩ := exists_reordered_of_firstUse hnode' huse'
    have hsame := (hshows graph₁ hreordered₁).trans (hshows graph₂ hreordered₂).symm
    simpa [Shows, htype₁, htype₂] using hsame

/-! ### The entries -/

/-- Every enumeration of the graph gives the same entries, for every configuration, so a poll that finds the graph in
another order leaves the version of the registry. -/
structure OrderIndependent [DecidableEq N] (graph : RosGraph) (safety : SafetyConfig N) : Prop where
  entries : ∀ overrides graph' version version', graph.Reordered graph' →
    infer (collectGraphSnapshot graph' version') overrides safety =
      infer (collectGraphSnapshot graph version) overrides safety
  version : ∀ overrides graph' version version' (registry : CapabilityRegistry N), graph.Reordered graph' →
    registry.entries = infer (collectGraphSnapshot graph version) overrides safety →
      (registry.update (infer (collectGraphSnapshot graph' version') overrides safety)).version = registry.version

/-- No topic is first used under types that inference tells apart; for the two kinds of motion topics it is enough that
no enumeration of the graph shows both kinds. -/
structure OrderSafe (graph : RosGraph) : Prop where
  scan : ∀ topic, graph.Agree [laserScanType] topic
  image : ∀ topic, graph.Agree imageTypes topic
  pose : graph.Agree [poseWithCovType] "/amcl_pose"
  motion : (∀ topic, graph.Agree twistTypes topic ∧ graph.Agree [odomType] topic) ∨
    ∀ graph', graph.Reordered graph' → ∀ twist odom,
      ¬ (Shows graph'.nodes twistTypes twist ∧ Shows graph'.nodes [odomType] odom)

section OrderIndependent

variable {graph graph' : RosGraph} {safety : SafetyConfig N} {version version' : Nat}

/-- Without a velocity topic or without an odometry topic there is no motion capability. -/
theorem inferDifferentialDriveMotion_eq_none {overrides : CapabilityConfig}
    (h : ∀ twist odom, ¬ (Shows graph.nodes twistTypes twist ∧ Shows graph.nodes [odomType] odom)) :
    inferDifferentialDriveMotion (collectGraphSnapshot graph version) overrides safety = none := by
  have hempty : (topicsOfTypes (collectGraphSnapshot graph version) twistTypes).isEmpty ∨
      (topicsOfType (collectGraphSnapshot graph version) odomType).isEmpty := by
    rw [topicsOfType_eq]
    cases htwist : topicsOfTypes (collectGraphSnapshot graph version) twistTypes with
    | nil => exact Or.inl rfl
    | cons twist twists =>
      cases hodom : topicsOfTypes (collectGraphSnapshot graph version) [odomType] with
      | nil => exact Or.inr rfl
      | cons odom odoms =>
        refine absurd ⟨?_, ?_⟩ (h twist.name odom.name)
        · rw [← @mem_candidates_collect graph version]
          simp [candidates, htwist]
        · rw [← @mem_candidates_collect graph version]
          simp [candidates, hodom]
  unfold inferDifferentialDriveMotion
  dsimp only
  rw [if_pos hempty]
  split <;> rfl

private theorem RosGraph.Reordered.actions_perm (h : graph.Reordered graph') :
    (collectGraphSnapshot graph version).actions.Perm (collectGraphSnapshot graph' version').actions := by
  have hactions := h.actions
  unfold collectGraphSnapshot
  dsimp only
  generalize graph.actions = actions at hactions ⊢
  generalize graph'.actions = actions' at hactions ⊢
  cases hactions with
  | none => exact .refl _
  | some hperm => exact hperm.map _

/-- The entries of a graph whose topics are safe do not depend on the order. -/
theorem OrderSafe.infer_eq (hsafe : OrderSafe graph) (h : graph.Reordered graph') (overrides : CapabilityConfig) :
    infer (collectGraphSnapshot graph' version') overrides safety =
      infer (collectGraphSnapshot graph version) overrides safety := by
  rw [infer_eq_iff]
  have hscan := fun topic => agree_iff.1 (hsafe.scan topic) graph' h
  have himage := fun topic => agree_iff.1 (hsafe.image topic) graph' h
  constructor
  case navigation => exact (inferAutonomousNavigation_perm overrides safety h.actions_perm).symm
  case scan => exact inferRangeSensing_congr overrides (candidates_collect_congr hscan)
  case image => exact inferVisualObservation_congr overrides (candidates_collect_congr himage)
  case localization =>
    refine inferLocalization_congr ?_ ?_
    · rw [mem_candidates_collect, mem_candidates_collect]
      exact agree_iff.1 hsafe.pose graph' h
    · simp only [collectGraphSnapshot, tfFrames, h.frames]
  case motion =>
    rcases hsafe.motion with hagree | hnone
    · exact inferDifferentialDriveMotion_congr overrides safety
        (candidates_collect_congr fun topic => agree_iff.1 (hagree topic).1 graph' h)
        (candidates_collect_congr fun topic => agree_iff.1 (hagree topic).2 graph' h)
    · rw [inferDifferentialDriveMotion_eq_none (hnone graph' h),
        inferDifferentialDriveMotion_eq_none (hnone graph (RosGraph.Reordered.refl graph))]

/-- Entries that do not depend on the order come from safe topics. -/
private theorem OrderIndependent.safe [DecidableEq N] (h : OrderIndependent graph safety) : OrderSafe graph := by
  -- the topic in question is made the configured one
  have hsame : ∀ overrides graph', graph.Reordered graph' →
      SameInferences (collectGraphSnapshot graph' 0) (collectGraphSnapshot graph 0) overrides safety :=
    fun overrides graph' hg => infer_eq_iff.1 (h.entries overrides graph' 0 0 hg)
  constructor
  case scan =>
    intro topic
    rw [agree_iff]
    intro graph' hg
    have hscan := (hsame { CapabilityConfig.defaults with lidarTopic := topic } graph' hg).scan
    have hconfirmed := iff_of_eq (congrArg Confirmed hscan)
    rw [confirmed_scan_iff, confirmed_scan_iff, mem_candidates_collect, mem_candidates_collect] at hconfirmed
    exact hconfirmed
  case image =>
    intro topic
    rw [agree_iff]
    intro graph' hg
    have himage := (hsame { CapabilityConfig.defaults with cameraImageTopic := topic } graph' hg).image
    have hconfirmed := iff_of_eq (congrArg Confirmed himage)
    rw [confirmed_image_iff, confirmed_image_iff, mem_candidates_collect, mem_candidates_collect] at hconfirmed
    exact hconfirmed
  case pose =>
    rw [agree_iff]
    intro graph' hg
    have hpose := (hsame .defaults graph' hg).localization
    have hconfirmed := iff_of_eq (congrArg Confirmed hpose)
    rw [confirmed_localization_iff, confirmed_localization_iff, mem_candidates_collect,
      mem_candidates_collect] at hconfirmed
    exact hconfirmed
  case motion =>
    have hboth : ∀ graph', graph.Reordered graph' → ∀ twist odom,
        (Shows graph'.nodes twistTypes twist ∧ Shows graph'.nodes [odomType] odom ↔
          Shows graph.nodes twistTypes twist ∧ Shows graph.nodes [odomType] odom) := by
      intro graph' hg twist odom
      have hmotion := (hsame { CapabilityConfig.defaults with motion := ⟨true, twist, odom⟩ } graph' hg).motion
      have hconfirmed := iff_of_eq (congrArg Confirmed hmotion)
      rw [confirmed_motion_iff, confirmed_motion_iff, mem_candidates_collect, mem_candidates_collect,
        mem_candidates_collect, mem_candidates_collect] at hconfirmed
      simpa using hconfirmed
    by_cases hnone : ∀ graph', graph.Reordered graph' → ∀ twist odom,
        ¬ (Shows graph'.nodes twistTypes twist ∧ Shows graph'.nodes [odomType] odom)
    · exact Or.inr hnone
    · left
      push Not at hnone
      obtain ⟨graph₀, hg₀, twist, odom, hshows⟩ := hnone
      have hgraph := (hboth graph₀ hg₀ twist odom).1 hshows
      intro topic
      rw [agree_iff, agree_iff]
      constructor
      · intro graph' hg
        have hodom := ((hboth graph' hg twist odom).2 hgraph).2
        simpa [hodom, hgraph.2] using hboth graph' hg topic odom
      · intro graph' hg
        have htwist := ((hboth graph' hg twist odom).2 hgraph).1
        simpa [htwist, hgraph.1] using hboth graph' hg twist topic

end OrderIndependent

/-- The order of discovery does not matter exactly for the graphs whose topics are safe. -/
theorem orderIndependent_iff [DecidableEq N] (graph : RosGraph) (safety : SafetyConfig N) :
    OrderIndependent graph safety ↔ OrderSafe graph := by
  constructor
  · exact OrderIndependent.safe
  · intro hsafe
    constructor
    case entries =>
      intro overrides graph' version version' h
      exact hsafe.infer_eq h overrides
    case version =>
      intro overrides graph' version version' registry h hregistry
      have heq : infer (collectGraphSnapshot graph' version') overrides safety = registry.entries := by
        rw [hregistry]
        exact hsafe.infer_eq h overrides
      rw [registry.update_version, if_neg (not_not.2 heq), Nat.add_zero]

/-- A node that publishes laser scans on `/scan`. -/
def lidarNode : GraphNode := ⟨"lidar", "/", [("/scan", [laserScanType])], [], [], [], some []⟩

/-- A node that subscribes to strings on the same topic. -/
def scanTextNode : GraphNode := ⟨"text_viewer", "/", [], [("/scan", ["std_msgs/msg/String"])], [], [], some []⟩

/-- A graph in which two nodes use one topic under two types. -/
def twoTypesGraph : RosGraph where
  nodes := [lidarNode, scanTextNode]
  actions := some []
  publishersInfo _ := none
  frames := none

/-- Whether the robot has a range sensor depends on which of the two nodes comes first. -/
theorem twoTypes_orderDependent : ¬ ∀ (graph : RosGraph) (safety : SafetyConfig ℚ), OrderIndependent graph safety := by
  intro h
  have hscan := (h twoTypesGraph (.defaults id)).safe.scan "/scan"
  have hlidar : lidarNode.FirstUse "/scan" laserScanType := Or.inl ⟨[laserScanType], by simp [lidarNode], rfl⟩
  have htext : scanTextNode.FirstUse "/scan" "std_msgs/msg/String" :=
    Or.inr ⟨by simp [scanTextNode], ["std_msgs/msg/String"], by simp [scanTextNode], rfl⟩
  have hagree := hscan lidarNode (by simp [twoTypesGraph]) scanTextNode (by simp [twoTypesGraph]) _ _ hlidar htext
  simp [laserScanType] at hagree

end RosMcp
