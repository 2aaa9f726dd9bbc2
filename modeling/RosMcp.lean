import RosMcp.Lib.Run
import RosMcp.Lib.PyFloat
import RosMcp.Contracts.Config
import RosMcp.Contracts.Results
import RosMcp.Geometry
import RosMcp.Safety.PolicyEngine
import RosMcp.Safety.NavigationDistance
import RosMcp.Mcp.FiniteArguments
import RosMcp.Commands.Factory
import RosMcp.Execution.OneMotion
import RosMcp.Execution.Allowed
import RosMcp.Perception.LaserScan
import RosMcp.Motion.CmdVel
import RosMcp.Motion.VelocityBounds
import RosMcp.Motion.ZeroExit
import RosMcp.Ros.Bridge
import RosMcp.Motion.StopRace
import RosMcp.Execution.Dedup
import RosMcp.Execution.Tables
import RosMcp.Safety.Monotone
import RosMcp.Navigation.Tracked
import RosMcp.Navigation.SlotHistory
import RosMcp.Navigation.Orphans
import RosMcp.Navigation.CancelAll
import RosMcp.Navigation.Expiry
import RosMcp.Ros.ExecutorThread
import RosMcp.Validation.Unprintable
import RosMcp.Execution.Completion
import RosMcp.Mcp.NeverRaises
import RosMcp.Capabilities.Ontology
import RosMcp.Perception.Detection
import RosMcp.Mcp.Resolvers
import RosMcp.Mcp.ReadHandlers
import RosMcp.Execution.Conclusion
import RosMcp.Mcp.HiddenTools
import RosMcp.Execution.BackendReturns
import RosMcp.Mcp.Envelopes
import RosMcp.Mcp.Servable
import RosMcp.Capabilities.InUse
import RosMcp.Discovery.Snapshot
import RosMcp.Capabilities.Candidates
import RosMcp.Capabilities.Registry
import RosMcp.Discovery.Order
import RosMcp.Discovery.OwnNode
import RosMcp.Capabilities.Alike
import RosMcp.Discovery.Engine
import RosMcp.Subscriptions.Claims
import RosMcp.Execution.Terminal
import RosMcp.Safety.Reload
import RosMcp.Perception.Sectors
import RosMcp.Motion.ObstacleGate
import RosMcp.Lib.JsonText
import RosMcp.Mcp.JsonDocument
import RosMcp.Mcp.Serialization
import RosMcp.Motion.Iterations
import RosMcp.Motion.ExitOrder
import RosMcp.Lib.PathLength
import RosMcp.Motion.Odometer
import RosMcp.Motion.Acceleration
import RosMcp.Motion.Rotation
import RosMcp.Motion.StreamBound
import RosMcp.Motion.Convergence
import RosMcp.Motion.BlindDriving
import RosMcp.Motion.PoseFreshness
import RosMcp.Navigation.ResultSoundness
import RosMcp.Lib.SlidingWindow
import RosMcp.Safety.RateLimit
import RosMcp.Perception.Correlation
import RosMcp.Perception.Placement
import RosMcp.Perception.Bearings
import RosMcp.Codec.Truncation
import RosMcp.Motion.Endpoint
import RosMcp.Validation.Subset
import RosMcp.Commands.Ulid
import RosMcp.Codec.TypeGrammar
import RosMcp.Codec.MessageSchema
import RosMcp.Lib.NdArray
import RosMcp.Perception.Decoding
import RosMcp.Perception.RowPadding
import RosMcp.Lib.While
import RosMcp.Perception.AngleWrapping
import RosMcp.Lib.LastWrite
import RosMcp.Subscriptions.MessageCache
import RosMcp.Config.Provider
import RosMcp.Perception.StubDetector
import RosMcp.Lib.Rounding
import RosMcp.Mcp.CameraImage
import RosMcp.Discovery.Polling
import RosMcp.Lib.Approach
import RosMcp.Motion.ClosedLoop
import RosMcp.Motion.RotationConvergence
import RosMcp.Validation.Located
import RosMcp.Execution.CancelledBy
import RosMcp.Motion.Turning
import RosMcp.Lib.Cone
import RosMcp.Motion.SidewaysConvergence
import RosMcp.Lib.Spaced
import RosMcp.Navigation.BoundedWait
import RosMcp.Execution.Drain
import RosMcp.Lib.Lines
import RosMcp.Telemetry.LogStream
import RosMcp.Execution.RunningState
import RosMcp.Lib.Tally
import RosMcp.Mcp.Resources
import RosMcp.Lib.Heading
import RosMcp.Orientation
