import RosMcp.Contracts.Config

/-!
# Discovery contracts (`contracts/discovery.py`) and the capability settings (`contracts/config.py`)

What a poll of the ROS graph returns, without the fields of a topic that are always `None` and without the time of the
poll, and the settings that inference reads.
-/

namespace RosMcp

/-- One dictionary of `qos_profiles`. -/
structure QosProfile where
  reliability : Option String
  durability : Option String
  depth : Option ℤ
  history : Option String
  deriving DecidableEq, Repr

structure TopicInfo where
  name : String
  typeName : String
  publishers : List String
  subscribers : List String
  qosProfiles : List QosProfile
  deriving DecidableEq, Repr

structure ServiceInfo where
  name : String
  typeName : String
  deriving DecidableEq, Repr

structure ActionInfo where
  name : String
  typeName : String
  deriving DecidableEq, Repr

structure NodeInfo where
  name : String
  nodeNamespace : String
  publishers : List String
  subscribers : List String
  services : List String
  clients : List String
  actions : List String
  deriving DecidableEq, Repr

structure GraphSnapshot where
  snapshotVersion : Nat
  nodes : List NodeInfo
  topics : List TopicInfo
  services : List ServiceInfo
  actions : List ActionInfo
  tfFrames : List String
  deriving DecidableEq, Repr

structure MotionCapabilityConfig where
  enabled : Bool
  cmdVelTopic : String
  odomTopic : String

structure NavigationCapabilityConfig where
  enabled : Bool
  actionName : String

/-- `CapabilityConfig`; `lidarTopic`, `cameraImageTopic` and `objectDetectionBackend` are `lidar.topic`,
`camera.image_topic` and `object_detection.backend`. -/
structure CapabilityConfig where
  motion : MotionCapabilityConfig
  navigation : NavigationCapabilityConfig
  lidarTopic : String
  cameraImageTopic : String
  objectDetectionBackend : String

/-- The defaults of `CapabilityConfig`. -/
def CapabilityConfig.defaults : CapabilityConfig where
  motion := ⟨true, "/cmd_vel", "/odom"⟩
  navigation := ⟨true, "/navigate_to_pose"⟩
  lidarTopic := "/scan"
  cameraImageTopic := "/camera/image_raw"
  objectDetectionBackend := "stub_detector"

end RosMcp
