import Mathlib.Data.String.Basic
import RosMcp.Contracts.Discovery
import RosMcp.Lib.Tally
import RosMcp.Mcp.Serialization

/-!
# Resources (`mcp/resource_provider.py`)

`robot://state` and `robot://capabilities` show the results of the resolvers, and `robot://graph-summary` a condensed
view of the latest snapshot.  `onReadResource` writes what is read as one text.

The graph summary is always a JSON document, and it accounts for the whole graph: every topic is in one category, and
the actions and the frames are all there, in order.  The other two are documents exactly when their floats are finite
(`resource_documents`).
-/

namespace RosMcp

open PyFloat

def resourceUris : List String := ["robot://state", "robot://capabilities", "robot://graph-summary"]

/-! ### The graph summary -/

inductive TopicCategory
  | sensor | tf | diagnostic | control | other
  deriving DecidableEq, Repr

def TopicCategory.value : TopicCategory → String
  | .sensor => "sensor"
  | .tf => "tf"
  | .diagnostic => "diagnostic"
  | .control => "control"
  | .other => "other"

/-- `_categorize_topic` -/
def categorizeTopic (typeName : String) : TopicCategory :=
  if "sensor_msgs/".toList <+: typeName.toList then .sensor
  else if "tf2_msgs/".toList <+: typeName.toList then .tf
  else if "diagnostic_msgs/".toList <+: typeName.toList then .diagnostic
  else if typeName ∈ ["geometry_msgs/msg/Twist", "geometry_msgs/msg/TwistStamped"] then .control
  else .other

/-- `topic_counts` -/
def topicCounts (topics : List TopicInfo) : List (TopicCategory × ℕ) :=
  topics.foldl (fun counts topic => tick counts (categorizeTopic topic.typeName)) []

/-- `sorted`, of strings -/
def sortedNames (names : List String) : List String := names.mergeSort fun a b => decide (a ≤ b)

section Summary

variable {N : Type}

/-- The dictionary of a graph summary. -/
def summaryFields (snapshot : GraphSnapshot) (takenAt : String) (counts : List (TopicCategory × ℕ))
    (actionServers tfFrames : List String) : List (String × Json N) :=
  [("snapshot_version", .int snapshot.snapshotVersion),
    ("taken_at", .str takenAt),
    ("node_count", .int snapshot.nodes.length),
    ("topic_count", .int snapshot.topics.length),
    ("topic_count_by_category", .obj (counts.map fun c => (c.1.value, .int c.2))),
    ("service_count", .int snapshot.services.length),
    ("action_servers", .arr (actionServers.map .str)),
    ("tf_frame_count", .int snapshot.tfFrames.length),
    ("tf_frames", .arr (tfFrames.map .str))]

/-- `_read_graph_summary` -/
def readGraphSummary (F : TextFormat N) (takenAt : N) (snapshot : GraphSnapshot) : Json N :=
  .obj (summaryFields snapshot (F.isoformat takenAt) (topicCounts snapshot.topics)
    (sortedNames (snapshot.actions.map ActionInfo.name)) (sortedNames snapshot.tfFrames))

end Summary

/-! ### Reading a resource -/

/-- What `read` finds: the configured robot, the id that `new_ulid` draws, the active command, the registry with the
messages, and the latest snapshot with the time of its poll. -/
structure ResourceInputs where
  robotId : String
  commandId : String
  activeCommand : Option CommandSummary
  state : StateInputs
  registryVersion : Nat
  takenAt : PyFloat ℝ
  snapshot : GraphSnapshot

/-- `_read_state` -/
noncomputable def ResourceInputs.readState (inputs : ResourceInputs) : Except PyException (ToolResult (PyFloat ℝ)) :=
  resolveRobotState inputs.robotId inputs.commandId (.fin 0) inputs.state none inputs.activeCommand

/-- `_read_capabilities` -/
def ResourceInputs.readCapabilities (inputs : ResourceInputs) : ToolResult (PyFloat ℝ) :=
  resolveCapabilities inputs.robotId inputs.commandId (.fin 0) inputs.state.pose.registry inputs.registryVersion

variable (T : FloatText ℝ) (F : TextFormat (PyFloat ℝ))

/-- `read` -/
noncomputable def readResource (inputs : ResourceInputs) (uri : String) : Except PyException (Json (PyFloat ℝ)) :=
  if uri = "robot://state" then inputs.readState.map fun r => toJsonSafe F (r.toPy F)
  else if uri = "robot://capabilities" then .ok (toJsonSafe F (inputs.readCapabilities.toPy F))
  else if uri = "robot://graph-summary" then .ok (readGraphSummary F inputs.takenAt inputs.snapshot)
  else .error ⟨.valueError, F.message [.text "unknown resource URI: ", .repr (.str uri)]⟩

/-- `on_read_resource` of the server: the text of the contents. -/
noncomputable def onReadResource (inputs : ResourceInputs) (uri : String) : Except PyException String :=
  (readResource F inputs uri).bind (dumps T)

/-! ### What a document says -/

section Documents

variable {T : FloatText ℝ} {F : TextFormat (PyFloat ℝ)} {inputs : ResourceInputs} {uri text : String}

private theorem topicCounts_tallies (topics : List TopicInfo) :
    Tallies (topicCounts topics) (topics.map fun topic => categorizeTopic topic.typeName) := by
  have h := tallies_foldl_tick (topics.map fun topic => categorizeTopic topic.typeName)
  rwa [List.foldl_map] at h

private theorem sortedNames_perm (names : List String) : (sortedNames names).Perm names := List.mergeSort_perm names _

private theorem sortedNames_sorted (names : List String) : (sortedNames names).Pairwise (· ≤ ·) :=
  List.pairwise_mergeSort' (· ≤ ·) names

/-- Integers and strings are read as they are written. -/
private theorem rereadItems_strings (names : List String) :
    Json.rereadItems T (names.map .str) = some (names.map .str) := by
  induction names with
  | nil => rfl
  | cons name names ih => simp [Json.rereadItems, Json.reread, ih]

private theorem rereadFields_counts {κ : Type} (key : κ → String) (counts : List (κ × ℕ)) :
    Json.rereadFields T (counts.map fun c => (key c.1, .int c.2)) =
      some (counts.map fun c => (key c.1, .int c.2)) := by
  induction counts with
  | nil => rfl
  | cons c counts ih => simp [Json.rereadFields, Json.reread, ih]

private theorem reread_readGraphSummary (takenAt : PyFloat ℝ) (snapshot : GraphSnapshot) :
    (readGraphSummary F takenAt snapshot).reread T =
      some (.obj (summaryFields snapshot (F.isoformat takenAt) (topicCounts snapshot.topics)
        (sortedNames (snapshot.actions.map ActionInfo.name)) (sortedNames snapshot.tfFrames))) := by
  simp [readGraphSummary, summaryFields, Json.reread, Json.rereadFields, rereadItems_strings, rereadFields_counts]

/-- What can be printed is written. -/
theorem onReadResource_eq_ok (T : FloatText ℝ) {value : Json (PyFloat ℝ)} (h : readResource F inputs uri = .ok value)
    (hprint : value.printable = true) : onReadResource T F inputs uri = .ok (String.ofList (value.text T)) := by
  have hrepr : pyRepr value = .ok (.repr value) := if_pos hprint
  unfold onReadResource
  rw [h, Except.bind, dumps, hrepr]
  rfl

/-- What is read of the text of a resource. -/
private theorem decode_onReadResource (h : onReadResource T F inputs uri = .ok text) :
    ∃ value, readResource F inputs uri = .ok value ∧ decode T text = value.reread T := by
  obtain ⟨value, hvalue, htext⟩ := bind_returns_iff.1 h
  refine ⟨value, hvalue, ?_⟩
  unfold dumps at htext
  cases hrepr : pyRepr value with
  | error exc =>
    rw [hrepr] at htext
    cases htext
  | ok repr =>
    rw [hrepr] at htext
    obtain rfl := Except.ok.inj htext
    exact decode_text T value

private theorem PyValue.mem_itemsFloats {N : Type} {x : N} {items : List (PyValue N)} :
    x ∈ PyValue.itemsFloats items ↔ ∃ value ∈ items, x ∈ value.floats := by
  induction items with
  | nil => simp [PyValue.itemsFloats]
  | cons value items ih => simp [PyValue.itemsFloats, ih]

private theorem PyValue.mem_fieldsFloats {N : Type} {x : N} {fields : List (String × PyValue N)} :
    x ∈ PyValue.fieldsFloats fields ↔ ∃ field ∈ fields, x ∈ field.2.floats := by
  induction fields with
  | nil => simp [PyValue.fieldsFloats]
  | cons field fields ih =>
    obtain ⟨key, value⟩ := field
    simp [PyValue.fieldsFloats, ih]

/-- The floats of an entry are its limits. -/
private theorem CapabilityEntry.mem_floats {N : Type} {x : N} {e : CapabilityEntry N} :
    x ∈ e.toPy.floats ↔ ∃ l ∈ e.limits, x = l.2 := by
  have hbackend : (optional .str e.backendId : PyValue N).floats = [] := by cases e.backendId <;> rfl
  have htopics : PyValue.fieldsFloats (e.resolvedTopics.map fun t => (t.1, (.str t.2 : PyValue N))) = [] := by
    rw [List.eq_nil_iff_forall_not_mem]
    intro x hx
    obtain ⟨field, hfield, hx⟩ := PyValue.mem_fieldsFloats.1 hx
    obtain ⟨t, -, rfl⟩ := List.mem_map.1 hfield
    cases hx
  simp only [CapabilityEntry.toPy, PyValue.floats, PyValue.fieldsFloats, hbackend, htopics, List.nil_append,
    List.append_nil, PyValue.mem_fieldsFloats, List.mem_map, exists_exists_and_eq_and, List.mem_singleton]

/-- The floats of a capabilities result are the limits in the registry, and its duration. -/
private theorem readCapabilities_finite :
    (∀ x ∈ (inputs.readCapabilities.toPy F).floats, x.IsFinite) ↔
      ∀ e ∈ inputs.state.pose.registry, ∀ l ∈ e.limits, l.2.IsFinite := by
  have hmem : ∀ x, x ∈ (inputs.readCapabilities.toPy F).floats ↔
      x = .fin 0 ∨ ∃ e ∈ inputs.state.pose.registry, ∃ l ∈ e.limits, x = l.2 := by
    intro x
    simp only [ResourceInputs.readCapabilities, resolveCapabilities, ToolResult.toPy, ResultFields.toPy, PyValue.floats,
      PyValue.fieldsFloats, optional, List.cons_append, List.nil_append, List.append_nil, List.mem_cons,
      PyValue.mem_itemsFloats, List.mem_map, exists_exists_and_eq_and, CapabilityEntry.mem_floats]
  simp only [hmem]
  constructor
  · intro h e he l hl
    exact h l.2 (.inr ⟨e, he, l, hl, rfl⟩)
  · rintro h x (rfl | ⟨e, he, l, hl, rfl⟩)
    · exact isFinite_fin 0
    · exact h e he l hl

/-- Only the three resources are read.  The state and the capabilities are JSON documents exactly when their floats are
finite; the graph summary always is one, and it accounts for every topic, action and frame of the snapshot. -/
theorem resource_documents (h : onReadResource T F inputs uri = .ok text) :
    uri ∈ resourceUris ∧
    (uri = "robot://state" → ∃ r, inputs.readState = .ok r ∧
      ((∃ d, decode T text = some d) ↔ ∀ x ∈ (r.toPy F).floats, x.IsFinite)) ∧
    (uri = "robot://capabilities" →
      ((∃ d, decode T text = some d) ↔ ∀ e ∈ inputs.state.pose.registry, ∀ l ∈ e.limits, l.2.IsFinite)) ∧
    (uri = "robot://graph-summary" → ∃ counts actionServers tfFrames,
      decode T text = some (.obj (summaryFields inputs.snapshot (F.isoformat inputs.takenAt) counts actionServers
        tfFrames)) ∧
      Tallies counts (inputs.snapshot.topics.map fun topic => categorizeTopic topic.typeName) ∧
      actionServers.Perm (inputs.snapshot.actions.map ActionInfo.name) ∧ actionServers.Pairwise (· ≤ ·) ∧
      tfFrames.Perm inputs.snapshot.tfFrames ∧ tfFrames.Pairwise (· ≤ ·)) := by
  obtain ⟨value, hvalue, hdecode⟩ := decode_onReadResource h
  rw [hdecode]
  unfold readResource at hvalue
  split_ifs at hvalue with hstate hcapabilities hsummary
  · subst hstate
    refine ⟨by decide, fun _ => ?_, fun hne => absurd hne (by decide), fun hne => absurd hne (by decide)⟩
    cases hr : inputs.readState with
    | error exc =>
      rw [hr] at hvalue
      cases hvalue
    | ok r =>
      rw [hr] at hvalue
      obtain rfl := Except.ok.inj hvalue
      exact ⟨r, rfl, reread_isSome_iff _⟩
  · subst hcapabilities
    refine ⟨by decide, fun hne => absurd hne (by decide), fun _ => ?_, fun hne => absurd hne (by decide)⟩
    obtain rfl := Except.ok.inj hvalue
    rw [reread_isSome_iff, readCapabilities_finite]
  · subst hsummary
    refine ⟨by decide, fun hne => absurd hne (by decide), fun hne => absurd hne (by decide), fun _ => ?_⟩
    obtain rfl := Except.ok.inj hvalue
    exact ⟨_, _, _, reread_readGraphSummary inputs.takenAt inputs.snapshot, topicCounts_tallies _,
      sortedNames_perm _, sortedNames_sorted _, sortedNames_perm _, sortedNames_sorted _⟩

/-! ### A sample -/

private theorem printableItems_strings {N : Type} (names : List String) :
    Json.printableItems (names.map (.str : String → Json N)) = true := by
  induction names with
  | nil => rfl
  | cons name names ih => simp [Json.printableItems, Json.printable, ih]

/-- A graph with a scanner, a camera and a velocity topic, an action and two frames. -/
def sampleSnapshot : GraphSnapshot where
  snapshotVersion := 3
  nodes := [⟨"driver", "/", [], [], [], [], []⟩]
  topics := [⟨"/scan", "sensor_msgs/msg/LaserScan", [], [], []⟩, ⟨"/cmd_vel", "geometry_msgs/msg/Twist", [], [], []⟩,
    ⟨"/image", "sensor_msgs/msg/Image", [], [], []⟩]
  services := []
  actions := [⟨"/navigate_to_pose", "nav2_msgs/action/NavigateToPose"⟩]
  tfFrames := ["odom", "base_link"]

/-- The floats do not matter for a graph summary. -/
def zeroFloatText : FloatText ℝ where
  repr _ := JsonText.intNumber 0
  float _ := 0

noncomputable def epochFormat : TextFormat (PyFloat ℝ) := ⟨fun _ => "", fun _ => "1970-01-01T00:00:00+00:00"⟩

noncomputable def sampleResources : ResourceInputs where
  robotId := "robot"
  commandId := "c"
  activeCommand := none
  state := ⟨⟨[], fun _ => none, none, .fin 0⟩, fun _ => none⟩
  registryVersion := 3
  takenAt := .fin 0
  snapshot := sampleSnapshot

theorem resource_documents_sample : ∃ text counts actionServers tfFrames,
    onReadResource zeroFloatText epochFormat sampleResources "robot://graph-summary" = .ok text ∧
      decode zeroFloatText text = some (.obj (summaryFields sampleSnapshot "1970-01-01T00:00:00+00:00" counts
        actionServers tfFrames)) ∧
      (.sensor, 2) ∈ counts ∧ tfFrames.Perm ["odom", "base_link"] ∧ tfFrames.Pairwise (· ≤ ·) := by
  have hshort : ∀ n : ℕ, n < 10 → (Json.int n : Json (PyFloat ℝ)).printable = true :=
    fun n hn => printable_int (by rw [Int.natAbs_natCast]; omega)
  have hprint : (readGraphSummary epochFormat (.fin 0) sampleSnapshot).printable = true := by
    have hstr : ∀ s, (Json.str s : Json (PyFloat ℝ)).printable = true := fun _ => rfl
    have harr : ∀ items : List (Json (PyFloat ℝ)), (Json.arr items).printable = Json.printableItems items :=
      fun _ => rfl
    have hobj : ∀ fields : List (String × Json (PyFloat ℝ)),
        (Json.obj fields).printable = Json.printableFields fields := fun _ => rfl
    have hcounts : topicCounts sampleSnapshot.topics = [(.sensor, 2), (.control, 1)] := by decide
    simp (disch := decide) only [readGraphSummary, summaryFields, hcounts, hobj, hstr, harr, Json.printableFields,
      printableItems_strings, List.map_cons, List.map_nil, hshort, Bool.and_self]
  have hvalue : readResource epochFormat sampleResources "robot://graph-summary" =
      .ok (readGraphSummary epochFormat (.fin 0) sampleSnapshot) := by
    unfold readResource
    rw [if_neg (by decide), if_neg (by decide), if_pos rfl]
    rfl
  have hread := onReadResource_eq_ok zeroFloatText hvalue hprint
  obtain ⟨-, -, -, hsummary⟩ := resource_documents hread
  obtain ⟨counts, actionServers, tfFrames, hdecode, hcounts, -, -, hframes, hsorted⟩ := hsummary rfl
  refine ⟨_, counts, actionServers, tfFrames, hread, hdecode, (hcounts.mem _ _).2 ⟨by decide, ?_⟩, hframes, hsorted⟩
  decide

end Documents

end RosMcp
