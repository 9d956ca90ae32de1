/-
# Onboarding.Fleet -- the agents and the device-management service as one system

Any number of robots, each running the start-up of `Robot.Startup` over its own
data directory, and the service of `Device.Service`.  A robot that reaches an RPC
opens a call with its own request; the handler runs as in `Device.Service`, one
move at a time; and what it returns reaches the robot, or is lost.  The process may
have died while it waited, the service may restart, and other clients call it.

`Action.send` and `Action.advance` are the only places where the two sides touch.
Call numbers are not used twice, so an answer cannot reach a later call.  `Steps`
lists what an action can do.  `world_step` and `agent_step` are the two
projections: the service's side of a run is a run of the service, and each robot's
side is a run of its agent.
-/
import RobotFleet.Device.Admission
import RobotFleet.Robot.Provenance

namespace RobotFleet.Onboarding

open RobotFleet.Theory
open RobotFleet.Theory.Run
open RobotFleet.Theory.Calls (World Machine Outcome)
open RobotFleet.Pki (Crypto certsFromPem)
open RobotFleet.Device (Db Config DirectOp Move InFlight Event service Advances advance_spec)
open RobotFleet.Robot (Agent Keys Process Disk)

set_option autoImplicit false

/-- `DEVICE_SERIAL`, `PROVISION_TOKEN` and `FIRMWARE_VERSION` of a robot. -/
structure Setup where
  serial : String
  token : String
  firmware : String

/-- A robot, with the call that its process waits for. -/
structure Client where
  agent : Agent
  waiting : Option Nat

structure State (C : Crypto) where
  world : World Db (InFlight C) (Event C)
  clients : Nat → Client
  /-- The first call number that was not used. -/
  next : Nat

/-- What an agent does by itself; the answers of RPCs come from the service. -/
def isOwn {C : Crypto} : Robot.Action C → Bool
  | .provisioned _ | .enrolled _ => false
  | _ => true

/-- `other` opens a call of somebody else.  An `advance` names the robot that the
answer reaches, if there is one and it reaches anybody. -/
inductive Action (C : Crypto) where
  | direct (op : DirectOp)
  | restart
  | other (move : Move C)
  | own (robot : Nat) (a : { a : Robot.Action C // isOwn a = true })
  | send (robot : Nat) (now : Int) (answered : Bool)
  | advance (call : Nat) (move : Move C) (answered : Option Nat)

/-- The RPC returned `Ok` with these fields, or `?` ends the process. -/
def reply {C : Crypto} : Event C → Robot.Action C
  | .provisioned _ (.ok cert) => .provisioned cert
  | .enrolled _ (.ok r) => .enrolled ⟨r.operationalCertPem, r.fleetCaChainPem, r.deviceId⟩
  | _ => .fail

/-- The request of a process that stands at an RPC.  `enroll` goes over a channel
whose identity is `device.pem`, which no step between the read and the call writes. -/
def request {C : Crypto} (setup : Setup) (agent : Agent) (now : Int) : Option (Move C) :=
  match agent.process with
  | .provisionCall csrPem => some (.provisionClaim ⟨setup.serial, csrPem, setup.token⟩ now)
  | .enrollCall csrPem =>
    match (agent.disk .devicePem).map (certsFromPem C) with
    | some (.ok certs) => some (.enrollClaim ⟨setup.serial, csrPem, setup.firmware, certs⟩)
    | _ => none
  | _ => none

section System

variable {C : Crypto} (keys : Keys C) (cfg : Config) (setups : Nat → Setup)

/-- The agent takes an action; a process that ended waits for nothing. -/
def Client.act (serial : String) (client : Client) (a : Robot.Action C) : Client :=
  let agent := Robot.step keys serial client.agent a
  ⟨agent, if agent.process = .stopped then none else client.waiting⟩

/-- The answer of its call reaches the agent. -/
def Client.receive (serial : String) (client : Client) (event : Event C) : Client :=
  ⟨Robot.step keys serial client.agent (reply event), none⟩

/-- What the call returns with this move. -/
def eventOf (w : World Db (InFlight C) (Event C)) (call : Nat) (move : Move C) : Option (Event C) :=
  ((service C cfg).advance (w.calls call) w.state move).event

/-- An answer is delivered to the robot it is meant for, or lost. -/
def deliver (clients : Nat → Client) (call : Nat) (event : Option (Event C)) (answered : Option Nat) :
    Nat → Client :=
  match event, answered with
  | some event, some robot =>
    if (clients robot).waiting = some call then
      Function.update clients robot ((clients robot).receive keys (setups robot).serial event)
    else clients
  | _, _ => clients

def step (s : State C) : Action C → State C
  | .direct op => { s with world := (service C cfg).step s.world (.direct op) }
  | .restart => { s with world := (service C cfg).step s.world .restart }
  | .other move =>
    { s with world := (service C cfg).step s.world (.call s.next move), next := s.next + 1 }
  | .own robot a =>
    { s with clients :=
        Function.update s.clients robot ((s.clients robot).act keys (setups robot).serial a.1) }
  | .send robot now answered =>
    match (s.clients robot).waiting, request (setups robot) (s.clients robot).agent now with
    | none, some move =>
      { world := (service C cfg).step s.world (.call s.next move)
        clients := deliver keys setups
          (Function.update s.clients robot ⟨(s.clients robot).agent, some s.next⟩) s.next
          (eventOf cfg s.world s.next move) (if answered then some robot else none)
        next := s.next + 1 }
    | _, _ => s
  | .advance call move answered =>
    if (s.world.calls call).isSome then
      { s with
        world := (service C cfg).step s.world (.call call move)
        clients := deliver keys setups s.clients call (eventOf cfg s.world call move) answered }
    else s

/-- Empty tables, and factory-fresh robots that nobody has switched on. -/
def State.init : State C := ⟨.init .empty, fun _ => ⟨⟨.empty, .stopped⟩, none⟩, 0⟩

/-- The system after a run. -/
def operate (actions : List (Action C)) : State C := run (step keys cfg setups) .init actions

theorem operate_append (before after : List (Action C)) :
    operate keys cfg setups (before ++ after) =
      run (step keys cfg setups) (operate keys cfg setups before) after :=
  run_append _ _ before after

/-! ## What an action can do -/

/-- `refused` is a `send` whose first move already answered. -/
inductive Steps (s : State C) : Action C → State C → Prop
  | idle (a : Action C) : Steps s a s
  | direct (op : DirectOp) :
      Steps s (.direct op) { s with world := (service C cfg).step s.world (.direct op) }
  | restarted : Steps s .restart { s with world := (service C cfg).step s.world .restart }
  | opened (move : Move C) :
      Steps s (.other move)
        ⟨(service C cfg).step s.world (.call s.next move), s.clients, s.next + 1⟩
  | own (robot : Nat) (a : { a : Robot.Action C // isOwn a = true }) :
      Steps s (.own robot a)
        { s with clients :=
            Function.update s.clients robot ((s.clients robot).act keys (setups robot).serial a.1) }
  | sent (robot : Nat) (now : Int) (answered : Bool) (move : Move C) :
      (s.clients robot).waiting = none →
      request (setups robot) (s.clients robot).agent now = some move →
      Steps s (.send robot now answered)
        ⟨(service C cfg).step s.world (.call s.next move),
          Function.update s.clients robot ⟨(s.clients robot).agent, some s.next⟩, s.next + 1⟩
  | refused (robot : Nat) (now : Int) (answered : Bool) (move : Move C) (event : Event C) :
      (s.clients robot).waiting = none →
      request (setups robot) (s.clients robot).agent now = some move →
      eventOf cfg s.world s.next move = some event →
      Steps s (.send robot now answered)
        ⟨(service C cfg).step s.world (.call s.next move),
          Function.update s.clients robot
            ((s.clients robot).receive keys (setups robot).serial event), s.next + 1⟩
  | advanced (call : Nat) (move : Move C) (answered : Option Nat) (p : InFlight C) :
      s.world.calls call = some p →
      Steps s (.advance call move answered)
        { s with world := (service C cfg).step s.world (.call call move) }
  | answered (robot call : Nat) (move : Move C) (p : InFlight C) (event : Event C) :
      s.world.calls call = some p → eventOf cfg s.world call move = some event →
      (s.clients robot).waiting = some call →
      Steps s (.advance call move (some robot))
        { s with
          world := (service C cfg).step s.world (.call call move)
          clients := Function.update s.clients robot
            ((s.clients robot).receive keys (setups robot).serial event) }

theorem step_spec (s : State C) (a : Action C) : Steps keys cfg setups s a (step keys cfg setups s a) := by
  cases a with
  | direct op => exact .direct op
  | restart => exact .restarted
  | other move => exact .opened move
  | own robot a => exact .own robot a
  | send robot now answered =>
      unfold step
      dsimp only
      split
      · rename_i move free wants
        unfold deliver
        split
        · rename_i event robot' returned told
          cases answered with
          | false => cases told
          | true =>
              cases told
              rw [if_pos (by simp), Function.update_idem, Function.update_self]
              exact .refused robot now true move event free wants returned
        · exact .sent robot now answered move free wants
      · exact .idle _
  | advance call move answered =>
      unfold step
      dsimp only
      split
      · rename_i flying
        obtain ⟨p, flying⟩ := Option.isSome_iff_exists.1 flying
        unfold deliver
        split
        · rename_i event robot returned
          split
          · rename_i waits
            exact .answered robot call move p event flying returned waits
          · exact .advanced call move _ p flying
        · exact .advanced call move _ p flying
      · exact .idle _

/-! ## The two sides of a run -/

/-- The service's side of an action is at most one action of the service, and one
that uses `register_serial` only when the system's does. -/
theorem world_step (s : State C) (a : Action C) :
    (step keys cfg setups s a).world = s.world ∨
      ∃ b, (step keys cfg setups s a).world = (service C cfg).step s.world b ∧
        ∀ op, b = .direct op → a = .direct op := by
  have moved := step_spec keys cfg setups s a
  generalize step keys cfg setups s a = after at moved
  cases moved with
  | idle | own => exact Or.inl rfl
  | direct op => exact Or.inr ⟨.direct op, rfl, by rintro op' ⟨⟩; rfl⟩
  | restarted => exact Or.inr ⟨.restart, rfl, nofun⟩
  | opened move | sent robot now told move | refused robot now told move =>
      exact Or.inr ⟨.call s.next move, rfl, nofun⟩
  | advanced call move | answered robot call move => exact Or.inr ⟨.call call move, rfl, nofun⟩

/-- A robot's side of an action is at most one action of its agent. -/
theorem agent_step (s : State C) (a : Action C) (robot : Nat) :
    ((step keys cfg setups s a).clients robot).agent = (s.clients robot).agent ∨
      ∃ b, ((step keys cfg setups s a).clients robot).agent =
        Robot.step keys (setups robot).serial (s.clients robot).agent b := by
  have moved := step_spec keys cfg setups s a
  generalize step keys cfg setups s a = after at moved
  have elsewhere : ∀ (other : Nat) (client : Client),
      (client.agent = (s.clients other).agent ∨
        ∃ b, client.agent = Robot.step keys (setups other).serial (s.clients other).agent b) →
      (Function.update s.clients other client robot).agent = (s.clients robot).agent ∨
        ∃ b, (Function.update s.clients other client robot).agent =
          Robot.step keys (setups robot).serial (s.clients robot).agent b := by
    intro other client how
    by_cases same : robot = other
    · subst same
      simpa using how
    · exact Or.inl (by simp [same])
  cases moved with
  | idle | direct | restarted | opened | advanced => exact Or.inl rfl
  | own other a => exact elsewhere other _ (Or.inr ⟨a.1, rfl⟩)
  | sent other => exact elsewhere other _ (Or.inl rfl)
  | refused other _ _ _ event | answered other _ _ _ event =>
      exact elsewhere other _ (Or.inr ⟨reply event, rfl⟩)

end System

end RobotFleet.Onboarding
