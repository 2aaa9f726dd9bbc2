import Mathlib.Data.Finset.Sort
import RosMcp.Lib.Dict
import RosMcp.Contracts.Discovery

/-!
# Graph snapshots (`discovery/snapshot.py`)

`collectGraphSnapshot` turns the answers of one walk over the ROS graph into a snapshot.  The walk reports the endpoints
node by node; a topic is entered when an endpoint first names it, and keeps the type that this endpoint has
(`topicType`).  The topics of the snapshot are therefore the strictly sorted list of the topics that some endpoint
names, each under its first type (`mem_collect_topics`, `pairwise_collect_topics`).
-/

namespace RosMcp

/-- The answer of a graph query: names, each with its types. -/
abbrev NamesAndTypes := List (String × List String)

/-- A node as the walk finds it: the answers of the queries `get_..._names_and_types_by_node`; that for the action
servers is `none` when it raises. -/
structure GraphNode where
  name : String
  nodeNamespace : String
  publishers : NamesAndTypes
  subscribers : NamesAndTypes
  services : NamesAndTypes
  clients : NamesAndTypes
  actionServers : Option NamesAndTypes
  deriving DecidableEq, Repr

/-- The answers of a walk in which no query raises that `collect_graph_snapshot` does not catch.  `actions` is `none`
when the action query raises; `publishersInfo` holds the QoS profiles of the publishers of a topic, if they have one,
and `none` when the node offers no such query or it raises; `frames` holds the parsed frames of the TF buffer with
their parents, and `none` without a buffer or when reading it raises. -/
structure RosGraph where
  nodes : List GraphNode
  actions : Option NamesAndTypes
  publishersInfo : String → Option (List (Option QosProfile))
  frames : Option (List (String × Option String))

/-- `namespace.rstrip("/")` -/
def rstripSlash (ns : String) : String := String.ofList (ns.toList.reverse.dropWhile (· == '/')).reverse

/-- `_full_node_name` -/
def fullNodeName (name ns : String) : String :=
  if rstripSlash ns = "" then "/" ++ name else rstripSlash ns ++ "/" ++ name

/-- `_first_type` -/
def firstType (types : List String) : String := types.headD ""

/-- `_qos_profiles_for_topic` -/
def qosProfilesForTopic (graph : RosGraph) (topicName : String) : List QosProfile :=
  ((graph.publishersInfo topicName).getD []).reduceOption

/-- `_tf_frames` -/
def tfFrames (graph : RosGraph) : List String :=
  let frames := (graph.frames.getD []).flatMap fun frame =>
    frame.1 :: frame.2.toList.filter fun parent => parent ≠ ""
  frames.toFinset.sort (· ≤ ·)

/-- A value of `topic_acc`. -/
structure TopicData where
  typeName : String
  pubs : Finset String
  subs : Finset String

/-- The entry that `setdefault` makes for an endpoint. -/
def TopicData.new (endpoint : String × List String) : TopicData := ⟨firstType endpoint.2, ∅, ∅⟩

/-- The body of the loop over the publishers of a node. -/
def addPublisher (fullName : String) (acc : Dict String TopicData) (endpoint : String × List String) :
    Dict String TopicData :=
  acc.setdefaultThen endpoint.1 (.new endpoint) fun data => { data with pubs := insert fullName data.pubs }

/-- The body of the loop over the subscribers of a node. -/
def addSubscriber (fullName : String) (acc : Dict String TopicData) (endpoint : String × List String) :
    Dict String TopicData :=
  acc.setdefaultThen endpoint.1 (.new endpoint) fun data => { data with subs := insert fullName data.subs }

/-- `topic_acc` after a node. -/
def addNodeTopics (acc : Dict String TopicData) (node : GraphNode) : Dict String TopicData :=
  let fullName := fullNodeName node.name node.nodeNamespace
  node.subscribers.foldl (addSubscriber fullName) (node.publishers.foldl (addPublisher fullName) acc)

/-- `service_acc` after a node. -/
def addNodeServices (acc : Dict String String) (node : GraphNode) : Dict String String :=
  node.services.foldl (fun acc service => acc.insert service.1 (firstType service.2)) acc

/-- The `NodeInfo` of a node. -/
def GraphNode.info (node : GraphNode) : NodeInfo where
  name := node.name
  nodeNamespace := node.nodeNamespace
  publishers := node.publishers.map Prod.fst
  subscribers := node.subscribers.map Prod.fst
  services := node.services.map Prod.fst
  clients := node.clients.map Prod.fst
  actions := (node.actionServers.getD []).map Prod.fst

/-- The `TopicInfo` of an item of `topic_acc`. -/
def topicInfo (graph : RosGraph) (item : String × TopicData) : TopicInfo where
  name := item.1
  typeName := item.2.typeName
  publishers := item.2.pubs.sort (· ≤ ·)
  subscribers := item.2.subs.sort (· ≤ ·)
  qosProfiles := qosProfilesForTopic graph item.1

/-- `collect_graph_snapshot` -/
def collectGraphSnapshot (graph : RosGraph) (prevVersion : Nat) : GraphSnapshot where
  snapshotVersion := prevVersion + 1
  nodes := graph.nodes.map GraphNode.info
  topics := (Dict.sortedItems (graph.nodes.foldl addNodeTopics ∅)).map (topicInfo graph)
  services := (Dict.sortedItems (graph.nodes.foldl addNodeServices ∅)).map fun item => ⟨item.1, item.2⟩
  actions := (graph.actions.getD []).map fun action => ⟨action.1, firstType action.2⟩
  tfFrames := tfFrames graph

/-! ### The topics of a snapshot -/

/-- The endpoints of a node that `topic_acc` sees, in their order. -/
def GraphNode.endpoints (node : GraphNode) : NamesAndTypes := node.publishers ++ node.subscribers

/-- The type that the topic gets: that of the first endpoint that names it. -/
def topicType (nodes : List GraphNode) (topic : String) : Option String :=
  ((nodes.flatMap GraphNode.endpoints).find? fun endpoint => endpoint.1 == topic).map fun endpoint =>
    firstType endpoint.2

theorem topicType_cons (node : GraphNode) (nodes : List GraphNode) (topic : String) :
    topicType (node :: nodes) topic = (topicType [node] topic).or (topicType nodes topic) := by
  simp only [topicType, List.flatMap_cons, List.flatMap_nil, List.append_nil, List.find?_append]
  cases node.endpoints.find? fun endpoint => endpoint.1 == topic <;> rfl

theorem topicType_append (nodes nodes' : List GraphNode) (topic : String) :
    topicType (nodes ++ nodes') topic = (topicType nodes topic).or (topicType nodes' topic) := by
  induction nodes with
  | nil => rfl
  | cons node nodes ih => rw [List.cons_append, topicType_cons, ih, topicType_cons node nodes, Option.or_assoc]

/-- Neither loop changes the type of an entry that is there. -/
theorem addPublisher_eq (fullName : String) (acc : Dict String TopicData) (endpoint : String × List String) :
    ∃ f, addPublisher fullName acc endpoint = acc.setdefaultThen endpoint.1 (.new endpoint) f ∧
      ∀ data : TopicData, (f data).typeName = data.typeName :=
  ⟨_, rfl, fun _ => rfl⟩

private theorem addSubscriber_eq (fullName : String) (acc : Dict String TopicData) (endpoint : String × List String) :
    ∃ f, addSubscriber fullName acc endpoint = acc.setdefaultThen endpoint.1 (.new endpoint) f ∧
      ∀ data : TopicData, (f data).typeName = data.typeName :=
  ⟨_, rfl, fun _ => rfl⟩

/-- A node enters the topics that it names and that have no entry yet. -/
private theorem lookup_addNodeTopics (acc : Dict String TopicData) (node : GraphNode) (topic : String) :
    ((addNodeTopics acc node).lookup topic).map TopicData.typeName =
      ((acc.lookup topic).map TopicData.typeName).or (topicType [node] topic) := by
  unfold addNodeTopics
  dsimp only
  rw [Dict.lookup_foldl_setdefaultThen (addSubscriber_eq _), Dict.lookup_foldl_setdefaultThen (addPublisher_eq _),
    Option.or_assoc]
  congr 1
  simp only [topicType, List.flatMap_cons, List.flatMap_nil, List.append_nil, GraphNode.endpoints, List.find?_append]
  cases node.publishers.find? fun endpoint => endpoint.1 == topic <;> rfl

/-- The type of a topic in `topic_acc` is the first one. -/
private theorem lookup_foldl_addNodeTopics (nodes : List GraphNode) (acc : Dict String TopicData) (topic : String) :
    ((nodes.foldl addNodeTopics acc).lookup topic).map TopicData.typeName =
      ((acc.lookup topic).map TopicData.typeName).or (topicType nodes topic) := by
  induction nodes generalizing acc with
  | nil => simp [topicType]
  | cons node nodes ih => rw [List.foldl_cons, ih, lookup_addNodeTopics, Option.or_assoc, ← topicType_cons]

section Collect

variable {graph : RosGraph} {version : Nat}

/-- A snapshot has the topics that some endpoint names, each under its first type. -/
theorem mem_collect_topics {topic typeName : String} :
    (∃ t ∈ (collectGraphSnapshot graph version).topics, t.name = topic ∧ t.typeName = typeName) ↔
      topicType graph.nodes topic = some typeName := by
  have hlookup := lookup_foldl_addNodeTopics graph.nodes ∅ topic
  rw [AList.lookup_empty, Option.map_none, Option.none_or] at hlookup
  rw [← hlookup, Option.map_eq_some_iff]
  constructor
  · rintro ⟨t, ht, rfl, rfl⟩
    obtain ⟨⟨name, data⟩, hitem, rfl⟩ := List.mem_map.1 ht
    exact ⟨data, Dict.mem_sortedItems.1 hitem, rfl⟩
  · rintro ⟨data, hdata, rfl⟩
    exact ⟨topicInfo graph (topic, data), List.mem_map_of_mem (Dict.mem_sortedItems.2 hdata), rfl, rfl⟩

/-- The topics come in strictly increasing order of their names. -/
theorem pairwise_collect_topics :
    ((collectGraphSnapshot graph version).topics.map TopicInfo.name).Pairwise (· < ·) := by
  have hnames : (collectGraphSnapshot graph version).topics.map TopicInfo.name =
      (Dict.sortedItems (graph.nodes.foldl addNodeTopics ∅)).map Prod.fst := by
    simp [collectGraphSnapshot, Function.comp_def, topicInfo]
  rw [hnames]
  exact Dict.pairwise_sortedItems _

end Collect

end RosMcp
