import RobotFleet.Theory.Run
import RobotFleet.Theory.Table
import RobotFleet.Theory.Transaction
import RobotFleet.Theory.Calls
import RobotFleet.Pki.Certificates
import RobotFleet.Device.Store
import RobotFleet.Device.Growth
import RobotFleet.Device.Manifest
import RobotFleet.Device.Connection
import RobotFleet.Device.Service
import RobotFleet.Device.Admission
import RobotFleet.Device.Identity
import RobotFleet.Ota.Store
import RobotFleet.Ota.Server
import RobotFleet.Ota.Agent
import RobotFleet.Ota.Fleet
import RobotFleet.Ota.Jobs
import RobotFleet.Ota.Applied
import RobotFleet.Device.Claims
import RobotFleet.Device.Failure
import RobotFleet.Device.Isolation
import RobotFleet.Artifact.Registry
import RobotFleet.Artifact.Server
import RobotFleet.Robot.Telemetry
import RobotFleet.Device.Server
import RobotFleet.Device.Ports
import RobotFleet.Robot.Restart
import RobotFleet.Ota.Delivery
import RobotFleet.Ota.Dispatch
import RobotFleet.Ota.Failure
import RobotFleet.Ota.History
import RobotFleet.Device.Listing
import RobotFleet.Device.Heartbeat
import RobotFleet.Device.LastSeen
import RobotFleet.Artifact.Releases
import RobotFleet.Robot.FrameFormat
import RobotFleet.Device.FactorySeed
import RobotFleet.Robot.Usage
import RobotFleet.Onboarding.Fleet
import RobotFleet.Onboarding.Enrolled
import RobotFleet.Onboarding.Recovery
import RobotFleet.Ota.Wedged
import RobotFleet.Ota.Unresolved
import RobotFleet.Ota.Lagging
import RobotFleet.Telemetry.Server
import RobotFleet.Telemetry.Pipeline
import RobotFleet.Telemetry.Drain
import RobotFleet.Device.Durability
import RobotFleet.Robot.Session
import RobotFleet.Onboarding.Annotations
import RobotFleet.Device.Histories
import RobotFleet.Onboarding.Heartbeats
import RobotFleet.Artifact.Listing
import RobotFleet.Ota.Sessions
