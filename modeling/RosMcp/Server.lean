import RosMcp.Contracts.Discovery

/-!
# The wiring of the server (`server.py`)

The endpoints that the components of `_amain` open under the names of the configuration: the calls of
`ensure_subscribed` in the constructors of the motion plugin and of the perception adapter, and the publisher of the
motion plugin.  Left out are the endpoints under names that no configuration sets: those of the transform listener on
`/tf` and `/tf_static`, and those that the node opens by itself.
-/

namespace RosMcp

/-- The calls of `ensure_subscribed` in `CmdVelMotionPlugin.__init__`. -/
def motionSubscriptions (odomTopic : String) (laserScanTopic : Option String) : List (String × String) :=
  (odomTopic, "nav_msgs/msg/Odometry") :: laserScanTopic.toList.map fun topic => (topic, "sensor_msgs/msg/LaserScan")

/-- The calls of `ensure_subscribed` in `DefaultPerceptionAdapter.__init__`. -/
def perceptionSubscriptions (imageTopic scanTopic : Option String) : List (String × String) :=
  (imageTopic.toList.map fun topic => (topic, "sensor_msgs/msg/Image")) ++
    scanTopic.toList.map fun topic => (topic, "sensor_msgs/msg/LaserScan")

/-- The topic and the message type of `_ensure_publisher`. -/
def motionPublisher (cmdVelTopic : String) : String × String := (cmdVelTopic, "geometry_msgs/msg/Twist")

/-- The calls of `ensure_subscribed` in `_amain`, in their order. -/
def serverSubscriptions (overrides : CapabilityConfig) : List (String × String) :=
  motionSubscriptions overrides.motion.odomTopic (some overrides.lidarTopic) ++
    perceptionSubscriptions (some overrides.cameraImageTopic) (some overrides.lidarTopic)

/-- The publisher of the motion plugin of `_amain`. -/
def serverPublisher (overrides : CapabilityConfig) : String × String := motionPublisher overrides.motion.cmdVelTopic

/-- The server subscribes to three topics of the configuration, each with one type. -/
theorem mem_serverSubscriptions {overrides : CapabilityConfig} {topic typeName : String} :
    (topic, typeName) ∈ serverSubscriptions overrides ↔
      (topic = overrides.motion.odomTopic ∧ typeName = "nav_msgs/msg/Odometry") ∨
        (topic = overrides.lidarTopic ∧ typeName = "sensor_msgs/msg/LaserScan") ∨
        (topic = overrides.cameraImageTopic ∧ typeName = "sensor_msgs/msg/Image") := by
  simp only [serverSubscriptions, motionSubscriptions, perceptionSubscriptions, Option.toList_some, List.map_cons,
    List.map_nil, List.cons_append, List.nil_append, List.mem_cons, List.not_mem_nil, or_false, Prod.mk.injEq]
  tauto

end RosMcp
