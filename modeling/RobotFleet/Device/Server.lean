/-
# Device.Server -- the servers behind the three listeners of `main`

`server/mod.rs`, `heartbeat/mod.rs`, `telemetry.rs` and the listeners of
`main.rs`.  `main` opens three ports, each with its own trust anchor for client
certificates, and mounts services on them; the same device-management service is
mounted on two.  A handler sees the peer certificates of its connection but only
`bootstrap_enroll` looks at them.

`listeners` is the machine of `Theory.Calls` for all of them: every call carries
the connection it came in on, and so does every response in the log.  What rustls
decides about a client's certificates under a trust anchor is the parameter
`verifies`; a connection it does not accept opens no call.  The three handlers
that issue certificates run as in `Device.Service`.
-/
import RobotFleet.Device.Service

namespace RobotFleet.Device

open RobotFleet.Theory
open RobotFleet.Theory.Run
open RobotFleet.Theory.Calls (World Action Outcome Machine Status Timestamp)
open RobotFleet.Pki (Crypto extractSerial)

set_option autoImplicit false

/-! ## Messages -/

structure BootstrapEnrollRequest where
  csrPem : String
  firmware : String
  serial : String
  deriving DecidableEq

structure BootstrapEnrollResponse where
  deviceId : String
  operationalCertPem : String
  fleetCaChainPem : String
  certExpiresAt : Option Timestamp
  deriving DecidableEq

structure RenewCertResponse where
  operationalCertPem : String
  certExpiresAt : Option Timestamp
  deriving DecidableEq

structure DeviceInfo where
  deviceId : String
  serial : String
  model : String
  firmware : String
  status : String
  enrolledAt : Option Timestamp
  lastSeenAt : Option Timestamp
  labels : List (String × String)
  deriving DecidableEq

structure ListDevicesRequest where
  model : String
  status : String
  limit : Int32
  cursor : String
  deriving DecidableEq

structure ListDevicesResponse where
  devices : List DeviceInfo
  nextCursor : String
  deriving DecidableEq

structure UpdateDeviceStatusRequest where
  deviceId : String
  status : String
  reason : String
  deriving DecidableEq

structure HeartbeatResponse where
  throttle : Bool
  directive : String
  deriving DecidableEq

structure TelemetryAck where
  framesReceived : UInt64
  throttle : Bool
  deriving DecidableEq

inductive Rpc where
  | provisionDevice
  | bootstrapEnroll
  | renewCert
  | getDevice
  | listDevices
  | updateDeviceStatus
  | streamHeartbeat
  | streamTelemetry
  deriving DecidableEq, Repr

/-- What a handler answers; `opened` is the `Ok` with which a stream begins. -/
inductive Response where
  | provisioned (deviceCertPem : String)
  | enrolled (response : BootstrapEnrollResponse)
  | renewed (response : RenewCertResponse)
  | device (info : DeviceInfo)
  | statusUpdated (device : Option DeviceInfo)
  | devices (response : ListDevicesResponse)
  | opened
  | heartbeat (response : HeartbeatResponse)
  | ack (response : TelemetryAck)
  deriving DecidableEq

/-- A request that opens a call, with the clock reading it makes. -/
inductive Request where
  | provisionDevice (req : ProvisionDeviceRequest) (now : Int)
  | bootstrapEnroll (req : BootstrapEnrollRequest)
  | renewCert (req : RenewCertRequest)
  | getDevice (deviceId : String)
  | listDevices (req : ListDevicesRequest)
  | updateDeviceStatus (req : UpdateDeviceStatusRequest)
  | streamHeartbeat
  | streamTelemetry
  deriving DecidableEq

/-! ## Handlers -/

/-- `server/mod.rs`, `map_err`. -/
def mapErr (e : Error) : Status :=
  match e with
  | .notFound m => ⟨.notFound, m⟩
  | .alreadyEnrolled m => ⟨.alreadyExists, m⟩
  | .serialAlreadyClaimed m => ⟨.alreadyExists, m⟩
  | .notPreEnrolled m => ⟨.failedPrecondition, m⟩
  | .serialMismatch _ _ => ⟨.invalidArgument, e.toString⟩
  | .deviceNotActive _ => ⟨.failedPrecondition, e.toString⟩
  | .certVerification m => ⟨.unauthenticated, m⟩
  | _ => ⟨.internal, e.toString⟩

def timestamp (seconds : Int) : Option Timestamp := some { seconds := Int64.ofInt seconds, nanos := 0 }

def recordToProto (r : DeviceRecord) : DeviceInfo where
  deviceId := r.id
  serial := r.serial
  model := r.model
  firmware := r.firmware
  status := r.status
  enrolledAt := timestamp r.enrolledAt
  lastSeenAt := timestamp r.lastSeenAt
  labels := []

/-- `get_device`, and the second half of `update_device_status`. -/
def getDeviceInfo (deviceId : String) (db : Db) : Except Status DeviceInfo :=
  match getDevice deviceId db with
  | .error e => .error (mapErr e)
  | .ok record => .ok (recordToProto record)

/-- `list_devices`: empty texts are absent filters, a limit below 1 is 50. -/
def listDeviceInfos (req : ListDevicesRequest) (db : Db) : Except Status Response :=
  let limit := if req.limit > 0 then req.limit.toInt else 50
  let given := fun text : String => if text.isEmpty then none else some text
  let (records, nextCursor) := listDevices (given req.model) (given req.status) limit (given req.cursor) db
  .ok (.devices { devices := records.map recordToProto, nextCursor := nextCursor.getD "" })

variable (C : Crypto) (cfg : Config)

/-- What the handlers of `Device.Service` return, as the servers wrap it. -/
def respond : Event C → Rpc × Except Status Response
  | .provisioned _ result => (.provisionDevice, result.map .provisioned)
  | .enrolled _ result =>
    (.bootstrapEnroll, (result.mapError mapErr).map fun r =>
      .enrolled ⟨r.deviceId, r.operationalCertPem, r.fleetCaChainPem, timestamp r.expiresAt⟩)
  | .renewed _ _ result =>
    (.renewCert, (result.mapError mapErr).map fun r => .renewed ⟨r.1, timestamp r.2⟩)

/-! ## Listeners -/

/-- The ports that `main` opens. -/
inductive Port where
  | fleet
  | bootstrap
  | provisioning
  deriving DecidableEq, Repr

inductive Mounted where
  | deviceManagement
  | telemetry
  | provisioning
  deriving DecidableEq, Repr

/-- The `client_ca_root` of the listener's `ServerTlsConfig`. -/
def Port.clientCaRoot : Port → Option String
  | .fleet => some cfg.fleetCaCertPem
  | .bootstrap => some cfg.deviceCaCertPem
  | .provisioning => none

/-- The services added to the listener. -/
def Port.services : Port → List Mounted
  | .fleet => [.deviceManagement, .telemetry]
  | .bootstrap => [.deviceManagement]
  | .provisioning => [.provisioning]

def Request.service : Request → Mounted
  | .provisionDevice .. => .provisioning
  | .streamTelemetry => .telemetry
  | _ => .deviceManagement

structure Connection where
  port : Port
  peerCerts : Option (List C.CertificateDer)

variable (verifies : String → List C.CertificateDer → Bool)

/-- The handshake: a listener with a trust anchor wants certificates that verify
under it, the other asks for none. -/
def accepts (conn : Connection C) : Bool :=
  match conn.port.clientCaRoot cfg, conn.peerCerts with
  | none, certs => certs.isNone
  | some _, none => false
  | some root, some certs => verifies root certs

/-- The client presented certificates that verify under the Fleet CA. -/
def fleetVerified (conn : Connection C) : Bool :=
  match conn.peerCerts with
  | none => false
  | some certs => verifies cfg.fleetCaCertPem certs

/-! ## Calls -/

/-- What a call keeps across an await. -/
inductive Stage where
  | issuing (call : InFlight C)
  | statusUpdated (req : UpdateDeviceStatusRequest)
  | heartbeat (deviceId : Option String)
  | telemetry (framesReceived : UInt64)

structure PortCall where
  conn : Connection C
  stage : Stage C

/-- A response and the connection it went to. -/
structure PortEvent where
  conn : Connection C
  rpc : Rpc
  result : Except Status Response

/-- `close` is the end of a call that does not answer: the client went away, or
its stream ended. -/
inductive PortMove where
  | start (conn : Connection C) (request : Request)
  | issue (move : Move C)
  | readBack
  | heartbeat (item : Except String String) (now : Int)
  | telemetryFrame (item : Except String Unit)
  | close

abbrev Answer := Rpc × Except Status Response

def relay (o : Outcome Db (InFlight C) (Event C)) : Outcome Db (Stage C) Answer where
  call := o.call.map .issuing
  event := o.event.map (respond C)
  state := o.state

/-- A handler up to its first await. -/
def startCall (conn : Connection C) (request : Request) (db : Db) : Outcome Db (Stage C) Answer :=
  match request with
  | .provisionDevice req now => relay C (advance C cfg none db (.provisionClaim req now))
  | .bootstrapEnroll req =>
    match conn.peerCerts with
    | none => ⟨none, some (.bootstrapEnroll, .error ⟨.unauthenticated, "no peer certificate"⟩), db⟩
    | some certs =>
      relay C (advance C cfg none db (.enrollClaim ⟨req.serial, req.csrPem, req.firmware, certs⟩))
  | .renewCert req => relay C (advance C cfg none db (.renewCheck req))
  | .getDevice deviceId => ⟨none, some (.getDevice, (getDeviceInfo deviceId db).map .device), db⟩
  | .listDevices req => ⟨none, some (.listDevices, listDeviceInfos req db), db⟩
  | .updateDeviceStatus req =>
    match updateStatus req.deviceId req.status req.reason db with
    | (.error e, db') => ⟨none, some (.updateDeviceStatus, .error (mapErr e)), db'⟩
    | (.ok (), db') => ⟨some (.statusUpdated req), none, db'⟩
  | .streamHeartbeat => ⟨some (.heartbeat none), some (.streamHeartbeat, .ok .opened), db⟩
  | .streamTelemetry => ⟨some (.telemetry 0), some (.streamTelemetry, .ok .opened), db⟩

/-- One message of a heartbeat stream whose first message named `deviceId`. -/
def beat (deviceId : String) (now : Int) (db : Db) : Outcome Db (Stage C) Answer :=
  match touchLastSeen deviceId now db with
  | (.error (.notFound _), db') =>
    ⟨none, some (.streamHeartbeat, .error ⟨.notFound, "device " ++ deviceId ++ " not found"⟩), db'⟩
  | (_, db') =>
    ⟨some (.heartbeat (some deviceId)), some (.streamHeartbeat, .ok (.heartbeat ⟨false, ""⟩)), db'⟩

/-- A handler after an await.  A heartbeat item is its `device_id` or the error of
the stream. -/
def resumeCall (stage : Stage C) (move : PortMove C) (db : Db) : Outcome Db (Stage C) Answer :=
  match stage, move with
  | .issuing call, .issue move => relay C (advance C cfg (some call) db move)
  | .statusUpdated req, .readBack =>
    ⟨none, some (.updateDeviceStatus,
      (getDeviceInfo req.deviceId db).map fun info => .statusUpdated (some info)), db⟩
  | .heartbeat none, .heartbeat (.error e) _ =>
    ⟨none, some (.streamHeartbeat, .error ⟨.internal, e⟩), db⟩
  | .heartbeat none, .heartbeat (.ok deviceId) now => beat C deviceId now db
  | .heartbeat (some _), .heartbeat (.error _) _ => ⟨none, none, db⟩
  | .heartbeat (some deviceId), .heartbeat (.ok _) now => beat C deviceId now db
  | .telemetry received, .telemetryFrame (.ok ()) =>
    ⟨some (.telemetry (received + 1)), some (.streamTelemetry, .ok (.ack ⟨received + 1, false⟩)), db⟩
  | .telemetry _, .telemetryFrame (.error e) =>
    ⟨none, some (.streamTelemetry, .error ⟨.internal, e⟩), db⟩
  | _, .close => ⟨none, none, db⟩
  | stage, _ => ⟨some stage, none, db⟩

/-- The call and its answers belong to the connection it came in on. -/
def onConnection (conn : Connection C) (o : Outcome Db (Stage C) Answer) :
    Outcome Db (PortCall C) (PortEvent C) where
  call := o.call.map fun stage => ⟨conn, stage⟩
  event := o.event.map fun answer => ⟨conn, answer.1, answer.2⟩
  state := o.state

/-- The request gets through the handshake to a service that is mounted. -/
def admits (conn : Connection C) (request : Request) : Bool :=
  accepts C cfg verifies conn && decide (request.service ∈ conn.port.services)

def portAdvance (call : Option (PortCall C)) (db : Db) (move : PortMove C) :
    Outcome Db (PortCall C) (PortEvent C) :=
  match call, move with
  | none, .start conn request =>
    if admits C cfg verifies conn request then onConnection C conn (startCall C cfg conn request db)
    else ⟨none, none, db⟩
  | none, _ => ⟨none, none, db⟩
  | some call, .start _ _ => ⟨some call, none, db⟩
  | some call, move => onConnection C call.conn (resumeCall C cfg call.stage move db)

/-- An entry of `FACTORY_MANIFEST`, seeded by `main`. -/
structure Seed where
  serial : String
  model : String
  token : String

/-- The running process: Phase 0, and the three listeners. -/
def listeners : Machine Db Seed (PortMove C) (PortCall C) (PortEvent C) where
  direct db entry := (seedManifest entry.serial entry.model entry.token db).2
  advance := portAdvance C cfg verifies

def listen (actions : List (Action Seed (PortMove C))) : World Db (PortCall C) (PortEvent C) :=
  run (listeners C cfg verifies).step (.init .empty) actions

end RobotFleet.Device
