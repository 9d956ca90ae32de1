/-
# Device.Ports -- who can do what through which listener

The auth model of `proto/fleet.proto` and the port layout of the README reserve
port 8444 for `BootstrapEnroll` and every other device-management RPC for clients
with an operational certificate.  The listeners do not enforce this: the whole
service is mounted on 8444, where a factory certificate is enough.

* `port_authorisation`: in every run in which the clients of 8444 keep to
  `BootstrapEnroll`, whatever else succeeds and whatever changes a `devices` row
  comes from a client of the Fleet CA, and a client of 8444 touches nothing but
  its own serial.
* `factory_cert_suspends_device`: a client of 8444 that does not keep to it
  suspends another device and is issued an operational certificate for it.

`Permitted` is what a move may do on behalf of a connection; it is proved once per
handler, and every part of the result is read off it.
-/
import RobotFleet.Device.Server

namespace RobotFleet.Device

open RobotFleet.Theory
open RobotFleet.Theory.Run
open RobotFleet.Theory.Calls
open RobotFleet.Pki (Crypto extractSerial verifySignedBy)

set_option autoImplicit false

/-- The RPCs that the auth model opens to clients without an operational certificate. -/
def Rpc.beforePhase3 : Rpc → Bool
  | .provisionDevice | .bootstrapEnroll => true
  | _ => false

section Permissions

variable {C : Crypto} {cfg : Config} {verifies : String → List C.CertificateDer → Bool}
  {conn : Connection C} {db : Db}

/-- The move claims the serial of the peer certificate or creates its row, if it
writes at all. -/
def OwnSerialOnly (conn : Connection C) (db db' : Db) : Prop :=
  db' = db ∨ ∃ certs serial, conn.peerCerts = some certs ∧ extractSerial C certs = .ok serial ∧
    (db' = setClaimed serial 1 db ∨
      ∃ d id now, d.serial = serial ∧ db' = (createDevice d id now db).2)

/-- What a call may be doing on its connection: enrolling the serial it presents,
provisioning on the port for it, or anything else on the fleet port. -/
def Authorised (conn : Connection C) : Stage C → Prop
  | .issuing (.provisioning _ _) => conn.port = .provisioning
  | .issuing (.claimed req certSerial _) | .issuing (.signed req certSerial _ _ _) =>
    conn.peerCerts = some req.peerCerts ∧ extractSerial C req.peerCerts = .ok certSerial
  | _ => conn.port = .fleet

/-- What a move may leave behind on behalf of a connection. -/
structure Permitted (conn : Connection C) (db : Db) (o : Outcome Db (Stage C) Answer) : Prop where
  call : ∀ stage, o.call = some stage → Authorised conn stage
  event : ∀ rpc response, o.event = some (rpc, .ok response) →
    rpc.beforePhase3 = true ∨ conn.port = .fleet
  rows : conn.port = .fleet ∨ ∀ r ∈ db.devices.rows, r ∈ o.state.devices.rows
  own : conn.port = .bootstrap → OwnSerialOnly conn db o.state

/-- A move that writes nothing only has to answer for its call and its answer. -/
theorem Permitted.of_unchanged {o : Outcome Db (Stage C) Answer} (same : o.state = db)
    (call : ∀ stage, o.call = some stage → Authorised conn stage)
    (event : ∀ rpc response, o.event = some (rpc, .ok response) →
      rpc.beforePhase3 = true ∨ conn.port = .fleet) : Permitted conn db o where
  call := call
  event := event
  rows := Or.inr fun r stored => by rwa [same]
  own _ := Or.inl same

/-- A call that ends without writing, with no answer or with an error. -/
theorem Permitted.ended : Permitted conn db ⟨none, none, db⟩ := by
  refine .of_unchanged rfl ?_ ?_
  · intro stage kept
    cases kept
  · intro rpc response answered
    cases answered

theorem Permitted.refused (rpc : Rpc) (status : Status) :
    Permitted conn db ⟨none, some (rpc, .error status), db⟩ := by
  refine .of_unchanged rfl ?_ ?_
  · intro stage kept
    cases kept
  · intro rpc' response answered
    cases answered

/-- An answer that the auth model lets anyone have. -/
theorem Permitted.early {rpc : Rpc} (early : rpc.beforePhase3 = true) (result : Except Status Response) :
    Permitted conn db ⟨none, some (rpc, result), db⟩ := by
  refine .of_unchanged rfl ?_ ?_
  · intro stage kept
    cases kept
  · intro rpc' response answered
    cases answered
    exact Or.inl early

/-- A call that goes on, after it wrote what its connection may write. -/
theorem Permitted.goesOn {stage : Stage C} {db' : Db} (authorised : Authorised conn stage)
    (rows : ∀ r ∈ db.devices.rows, r ∈ db'.devices.rows)
    (own : conn.port = .bootstrap → OwnSerialOnly conn db db') :
    Permitted conn db ⟨some stage, none, db'⟩ where
  call stage' kept := by
    cases kept
    exact authorised
  event _ _ answered := by cases answered
  rows := Or.inr rows
  own := own

/-- On the fleet port everything is permitted that stays on it. -/
theorem Permitted.of_fleet {o : Outcome Db (Stage C) Answer} (fleet : conn.port = .fleet)
    (call : ∀ stage, o.call = some stage → Authorised conn stage) : Permitted conn db o where
  call := call
  event _ _ _ := Or.inr fleet
  rows := Or.inl fleet
  own bootstrap := by
    rw [fleet] at bootstrap
    cases bootstrap

theorem Permitted.answered {db' : Db} (fleet : conn.port = .fleet) (answer : Option Answer) :
    Permitted conn db ⟨none, answer, db'⟩ := by
  refine .of_fleet fleet ?_
  intro stage kept
  cases kept

/-- The first move of an issuing handler comes in on the port for it. -/
def Opens (conn : Connection C) : Move C → Prop
  | .provisionClaim _ _ => conn.port = .provisioning
  | .enrollClaim req => conn.peerCerts = some req.peerCerts
  | .renewCheck _ => conn.port = .fleet
  | _ => True

/-- The handlers that issue certificates, one case per behaviour. -/
theorem Advances.permitted {call : Option (InFlight C)} {move : Move C}
    {o : Outcome Db (InFlight C) (Event C)} (moved : Advances C cfg db call move o)
    (own : ∀ p, call = some p → Authorised conn (.issuing p))
    (opens : call = none → Opens conn move) : Permitted conn db (relay C o) := by
  cases moved with
  | idle call move =>
      refine .of_unchanged rfl ?_ ?_
      · intro stage kept
        obtain ⟨p, held, rfl⟩ := Option.map_eq_some_iff.1 kept
        exact own p held
      · intro rpc response answered
        cases answered
  | abandoned call => exact .ended
  | provisionRefused req now status => exact .refused _ _
  | provisionClaimed req now model db' claimed =>
      have port : conn.port = .provisioning := opens rfl
      obtain ⟨entry, -, -, -, -, after⟩ := claimManifestEntry_ok (provisionClaim_ok claimed)
      refine .goesOn port ?_ ?_
      · intro r stored
        rw [after]
        exact stored
      · intro bootstrap
        rw [port] at bootstrap
        cases bootstrap
  | provisionSigned req model now entropy => exact .early rfl _
  | enrollRefused req e => exact .refused _ _
  | enrollClaimed req certSerial pre db' claimed =>
      have peer : conn.peerCerts = some req.peerCerts := opens rfl
      obtain ⟨passed, ran⟩ := enrollClaim_ok claimed
      obtain ⟨row, -, -, -, after⟩ := lookupAndClaim_ok ran
      have named := (checkPeer_ok passed).1
      refine .goesOn ⟨peer, named⟩ ?_ ?_
      · intro r stored
        rw [after]
        exact stored
      · intro _
        exact Or.inr ⟨req.peerCerts, certSerial, peer, named, Or.inl after⟩
  | enrollUnsigned req certSerial pre now later entropy e => exact .refused _ _
  | enrollSigned req certSerial pre now later entropy cert expiresAt issued =>
      exact .goesOn (own (.claimed req certSerial pre) rfl) (fun _ stored => stored) fun _ => Or.inl rfl
  | enrollConflict req certSerial pre cert expiresAt id now e => exact .refused _ _
  | enrollCreated req certSerial pre cert expiresAt id now result db' created =>
      obtain ⟨peer, named⟩ : conn.peerCerts = some req.peerCerts ∧
        extractSerial C req.peerCerts = .ok certSerial := own _ rfl
      obtain ⟨record, ran, -⟩ := enrollCreate_ok created
      obtain ⟨devices, -, inserted, after⟩ := createDevice_ok ran
      refine ⟨?_, ?_, Or.inr ?_, ?_⟩
      · intro stage kept
        cases kept
      · intro rpc response answered
        cases answered
        exact Or.inl rfl
      · intro r stored
        show r ∈ db'.devices.rows
        rw [after]
        show r ∈ devices.rows
        rw [Table.insert_rows inserted]
        exact List.mem_append_left _ stored
      · intro _
        exact Or.inr ⟨req.peerCerts, certSerial, peer, named, Or.inr
          ⟨⟨certSerial, pre.model, req.firmware, cert⟩, id, now, rfl, (congrArg Prod.snd ran).symm⟩⟩
  | renewRefused req e => exact .refused _ _
  | renewChecked req device checked =>
      refine .of_fleet (opens rfl) ?_
      intro stage kept
      cases kept
      exact opens rfl
  | renewSigned req device readAt now later entropy => exact .answered (own _ rfl) _

/-- The port on which a request may come in, as the auth model has it. -/
def Lane (conn : Connection C) : Request → Prop
  | .provisionDevice _ _ => conn.port = .provisioning
  | .bootstrapEnroll _ => True
  | _ => conn.port = .fleet

theorem startCall_permitted {request : Request} (lane : Lane conn request) :
    Permitted conn db (startCall C cfg conn request db) := by
  cases request with
  | provisionDevice req now =>
      refine (advance_spec C cfg none db (.provisionClaim req now)).permitted ?_ fun _ => lane
      intro p held
      cases held
  | bootstrapEnroll req =>
      unfold startCall
      cases peer : conn.peerCerts with
      | none => exact .refused _ _
      | some certs =>
          refine (advance_spec C cfg none db _).permitted ?_ fun _ => peer
          intro p held
          cases held
  | renewCert req =>
      refine (advance_spec C cfg none db (.renewCheck req)).permitted ?_ fun _ => lane
      intro p held
      cases held
  | getDevice deviceId => exact .answered lane _
  | listDevices req => exact .answered lane _
  | updateDeviceStatus req =>
      have fleet : conn.port = .fleet := lane
      refine .of_fleet fleet ?_
      intro stage kept
      simp only [startCall] at kept
      split at kept <;> cases kept
      exact fleet
  | streamHeartbeat =>
      refine .of_fleet lane ?_
      intro stage kept
      cases kept
      exact lane
  | streamTelemetry =>
      refine .of_fleet lane ?_
      intro stage kept
      cases kept
      exact lane

theorem beat_permitted (fleet : conn.port = .fleet) (deviceId : String) (now : Int) :
    Permitted conn db (beat C deviceId now db) := by
  refine .of_fleet fleet ?_
  intro stage kept
  unfold beat at kept
  split at kept <;> cases kept
  exact fleet

theorem resumeCall_permitted {stage : Stage C} (authorised : Authorised conn stage)
    (move : PortMove C) : Permitted conn db (resumeCall C cfg stage move db) := by
  unfold resumeCall
  split
  · rename_i call move
    refine (advance_spec C cfg (some call) db move).permitted ?_ ?_
    · intro p held
      cases held
      exact authorised
    · intro free
      cases free
  · exact .answered authorised _
  · exact .refused _ _
  · exact beat_permitted authorised _ _
  · exact .ended
  · exact beat_permitted authorised _ _
  · refine .of_fleet authorised ?_
    intro stage kept
    cases kept
    exact authorised
  · exact .refused _ _
  · exact .ended
  · exact .goesOn authorised (fun _ stored => stored) fun _ => Or.inl rfl

end Permissions

/-! ## Runs -/

section Runs

variable {C : Crypto} {cfg : Config} {verifies : String → List C.CertificateDer → Bool}

/-- Clients of port 8444 ask for nothing but enrollment. -/
def EnrollOnly : Action Seed (PortMove C) → Prop
  | .call _ (.start conn request) => conn.port = .bootstrap → ∃ req, request = .bootstrapEnroll req
  | _ => True

/-- The handshake and the mounted services leave each request its lane. -/
theorem lane_of_admits {conn : Connection C} {request : Request}
    (admitted : admits C cfg verifies conn request = true)
    (enroll : conn.port = .bootstrap → ∃ req, request = .bootstrapEnroll req) :
    Lane conn request := by
  have mounted : request.service ∈ conn.port.services := by
    have both := admitted
    simp only [admits, Bool.and_eq_true, decide_eq_true_eq] at both
    exact both.2
  cases port : conn.port with
  | bootstrap =>
      obtain ⟨req, rfl⟩ := enroll port
      trivial
  | fleet =>
      rw [port] at mounted
      cases request with
      | provisionDevice req now => simp [Request.service, Port.services] at mounted
      | bootstrapEnroll req => trivial
      | renewCert | getDevice | listDevices | updateDeviceStatus | streamHeartbeat
      | streamTelemetry => exact port
  | provisioning =>
      rw [port] at mounted
      cases request with
      | provisionDevice req now => exact port
      | bootstrapEnroll | renewCert | getDevice | listDevices | updateDeviceStatus | streamHeartbeat
      | streamTelemetry => simp [Request.service, Port.services] at mounted

/-- A client of the fleet port has certificates of the Fleet CA. -/
theorem fleetVerified_of_accepts {conn : Connection C} (accepted : accepts C cfg verifies conn = true)
    (fleet : conn.port = .fleet) : fleetVerified C cfg verifies conn = true := by
  unfold accepts at accepted
  rw [fleet] at accepted
  unfold fleetVerified
  cases peer : conn.peerCerts with
  | none => simp [peer, Port.clientCaRoot] at accepted
  | some certs => simpa [peer, Port.clientCaRoot] using accepted

/-- A call in flight came through the handshake and does what its port is for. -/
def CallAuthorised (cfg : Config) (verifies : String → List C.CertificateDer → Bool)
    (call : PortCall C) : Prop :=
  accepts C cfg verifies call.conn = true ∧ Authorised call.conn call.stage

/-- A logged success beyond phases 1 and 2 went to a client of the Fleet CA. -/
def EventAuthorised (cfg : Config) (verifies : String → List C.CertificateDer → Bool)
    (ev : PortEvent C) : Prop :=
  ev.rpc.beforePhase3 = false → (∃ response, ev.result = .ok response) →
    fleetVerified C cfg verifies ev.conn = true

/-- Everything a move does, on behalf of one accepted connection. -/
theorem portAdvance_spec {call : Option (PortCall C)} {move : PortMove C} (db : Db)
    (authorised : ∀ c, call = some c → CallAuthorised cfg verifies c)
    (enroll : ∀ conn request, move = .start conn request → conn.port = .bootstrap →
      ∃ req, request = .bootstrapEnroll req) :
    portAdvance C cfg verifies call db move = ⟨call, none, db⟩ ∨
    ∃ conn o, (call = none ∧ (∃ request, move = .start conn request) ∨
        ∃ c, call = some c ∧ c.conn = conn) ∧
      accepts C cfg verifies conn = true ∧ Permitted conn db o ∧
      portAdvance C cfg verifies call db move = onConnection C conn o := by
  cases call with
  | none =>
      cases move with
      | start conn request =>
          by_cases admitted : admits C cfg verifies conn request = true
          · have accepted : accepts C cfg verifies conn = true := by
              have both := admitted
              simp only [admits, Bool.and_eq_true] at both
              exact both.1
            have lane := lane_of_admits admitted (enroll conn request rfl)
            refine Or.inr ⟨conn, startCall C cfg conn request db, Or.inl ⟨rfl, request, rfl⟩, accepted,
              startCall_permitted lane, ?_⟩
            simp [portAdvance, admitted]
          · exact Or.inl (by simp [portAdvance, admitted])
      | issue | readBack | heartbeat | telemetryFrame | close => exact Or.inl rfl
  | some c =>
      obtain ⟨accepted, stage⟩ := authorised c rfl
      cases move with
      | start conn request => exact Or.inl rfl
      | issue | readBack | heartbeat | telemetryFrame | close =>
          exact Or.inr ⟨c.conn, _, Or.inr ⟨c, rfl, rfl⟩, accepted, resumeCall_permitted stage _, rfl⟩

theorem enroll_of_start {id : Nat} {move : PortMove C} (enroll : EnrollOnly (.call id move))
    (conn : Connection C) (request : Request) (starts : move = .start conn request) :
    conn.port = .bootstrap → ∃ req, request = .bootstrapEnroll req := by
  subst starts
  exact enroll

/-- The invariant of the listeners. -/
def PortInvariant (cfg : Config) (verifies : String → List C.CertificateDer → Bool) :
    World Db (PortCall C) (PortEvent C) → Prop :=
  Holds (fun _ log => ∀ ev ∈ log, EventAuthorised cfg verifies ev)
    (fun _ _ call => CallAuthorised cfg verifies call)

theorem portInvariant_step (w : World Db (PortCall C) (PortEvent C)) (a : Action Seed (PortMove C))
    (inv : PortInvariant cfg verifies w) (enroll : EnrollOnly a) :
    PortInvariant cfg verifies ((listeners C cfg verifies).step w a) := by
  refine holds_step (R := fun _ _ _ _ => True) _ (fun _ held => held) ?_ ?_ inv
  · intro op _
    exact ⟨inv.shared, trivial⟩
  · intro id move o isCall ran
    subst isCall
    have own : ∀ c, w.calls id = some c → CallAuthorised cfg verifies c := inv.inFlight id
    rcases portAdvance_spec w.state own (enroll_of_start enroll) with
      idle | ⟨conn, o', -, accepted, permitted, acted⟩
    · have same : o = ⟨w.calls id, none, w.state⟩ := ran.symm.trans idle
      subst same
      refine ⟨by simpa using inv.shared, trivial, own⟩
    · have same : o = onConnection C conn o' := ran.symm.trans acted
      subst same
      refine ⟨?_, trivial, ?_⟩
      · intro ev member
        rcases List.mem_append.1 member with old | new
        · exact inv.shared ev old
        · obtain ⟨⟨rpc, result⟩, answered, rfl⟩ := Option.map_eq_some_iff.1 (Option.mem_toList.1 new)
          rintro late ⟨response, succeeded⟩
          have success : o'.event = some (rpc, .ok response) := by
            rw [answered]
            exact congrArg some (Prod.ext rfl succeeded)
          rcases permitted.event rpc response success with early | fleet
          · rw [early] at late
            cases late
          · exact fleetVerified_of_accepts accepted fleet
      · intro c kept
        obtain ⟨stage, held, rfl⟩ := Option.map_eq_some_iff.1 kept
        exact ⟨accepted, permitted.call stage held⟩

/-- The connection on whose behalf an action moves. -/
def actor (w : World Db (PortCall C) (PortEvent C)) : Action Seed (PortMove C) → Option (Connection C)
  | .call id move =>
    match w.calls id, move with
    | some call, _ => some call.conn
    | none, .start conn _ => some conn
    | none, _ => none
  | _ => none

theorem portInvariant_run (actions : List (Action Seed (PortMove C)))
    (enroll : ∀ a ∈ actions, EnrollOnly a) :
    PortInvariant cfg verifies (listen C cfg verifies actions) :=
  run_invariant_of_forall _ portInvariant_step (holds_init (by simp)) enroll

/-- One action from a state of such a run. -/
theorem step_authorised {w : World Db (PortCall C) (PortEvent C)} {a : Action Seed (PortMove C)}
    (inv : PortInvariant cfg verifies w) (enroll : EnrollOnly a) :
    (∀ r ∈ w.state.devices.rows, r ∉ ((listeners C cfg verifies).step w a).state.devices.rows →
      ∃ conn, actor w a = some conn ∧ fleetVerified C cfg verifies conn = true) ∧
    (∀ conn, actor w a = some conn → conn.port = .bootstrap →
      OwnSerialOnly conn w.state ((listeners C cfg verifies).step w a).state) := by
  cases a with
  | direct entry =>
      refine ⟨fun r stored gone => absurd stored gone, fun conn acts => ?_⟩
      cases acts
  | restart =>
      refine ⟨fun r stored gone => absurd stored gone, fun conn acts => ?_⟩
      cases acts
  | call id move =>
      have own : ∀ c, w.calls id = some c → CallAuthorised cfg verifies c := inv.inFlight id
      rcases portAdvance_spec w.state own (enroll_of_start enroll) with
        idle | ⟨conn, o, who, accepted, permitted, acted⟩
      · have same : ((listeners C cfg verifies).step w (.call id move)).state = w.state :=
          congrArg Outcome.state idle
        rw [same]
        exact ⟨fun r stored gone => absurd stored gone, fun _ _ _ => Or.inl rfl⟩
      · have after : ((listeners C cfg verifies).step w (.call id move)).state = o.state :=
          congrArg Outcome.state acted
        have acts : actor w (.call id move) = some conn := by
          rcases who with ⟨free, request, rfl⟩ | ⟨c, held, rfl⟩
          · simp [actor, free]
          · simp [actor, held]
        rw [after]
        constructor
        · intro r stored gone
          rcases permitted.rows with fleet | kept
          · exact ⟨conn, acts, fleetVerified_of_accepts accepted fleet⟩
          · exact absurd (kept r stored) gone
        · intro conn' acts' bootstrap
          obtain rfl : conn = conn' := Option.some.inj (acts.symm.trans acts')
          exact permitted.own bootstrap

/-- **Port authorisation, as long as clients of 8444 only enroll.**  Every other
RPC that succeeds, and every change of a `devices` row, is of a client of the Fleet
CA; a client of 8444 writes nothing but its own serial's claim and row. -/
theorem port_authorisation (actions : List (Action Seed (PortMove C)))
    (enrollOnly : ∀ a ∈ actions, EnrollOnly a) :
    (∀ ev ∈ (listen C cfg verifies actions).log, ev.rpc.beforePhase3 = false →
      (∃ response, ev.result = .ok response) → fleetVerified C cfg verifies ev.conn = true) ∧
    ∀ before a after, actions = before ++ a :: after →
      let w := listen C cfg verifies before
      let w' := (listeners C cfg verifies).step w a
      (∀ r ∈ w.state.devices.rows, r ∉ w'.state.devices.rows →
        ∃ conn, actor w a = some conn ∧ fleetVerified C cfg verifies conn = true) ∧
      (∀ conn, actor w a = some conn → conn.port = .bootstrap →
        OwnSerialOnly conn w.state w'.state) := by
  refine ⟨fun ev member => (portInvariant_run actions enrollOnly).shared ev member, ?_⟩
  intro before a after split
  subst split
  have earlier : ∀ b ∈ before, EnrollOnly b := fun b member =>
    enrollOnly b (List.mem_append_left _ member)
  exact step_authorised (portInvariant_run before earlier) (enrollOnly a (by simp))

end Runs

namespace Toy

/-- The TLS layer of the symbolic library: the leaf is signed by the trust anchor. -/
def verifies (root : String) (certs : List String) : Bool :=
  match verifySignedBy Pki.Toy.crypto certs root with
  | .ok _ => true
  | .error _ => false

def factory : Connection Pki.Toy.crypto := ⟨.provisioning, none⟩

def device (serial : String) : Connection Pki.Toy.crypto := ⟨.bootstrap, some ["device-ca|" ++ serial]⟩

def robot (serial : String) : Connection Pki.Toy.crypto := ⟨.fleet, some ["fleet-ca|" ++ serial]⟩

/-- `SN-1` is provisioned and enrolled. -/
def onboarding : List (Action Seed (PortMove Pki.Toy.crypto)) :=
  [.direct ⟨"SN-1", "humanoid-v2", "token-1"⟩,
   .call 0 (.start factory (.provisionDevice ⟨"SN-1", "SN-1", "token-1"⟩ 100)),
   .call 0 (.issue (.provisionSign 100 0)),
   .call 1 (.start (device "SN-1") (.bootstrapEnroll ⟨"SN-1", "1.0.0", "SN-1"⟩)),
   .call 1 (.issue (.enrollSign 200 200 0)),
   .call 1 (.issue (.enrollCreate "id-1" 200))]

/-- Then it renews its certificate on the fleet port. -/
def operation : List (Action Seed (PortMove Pki.Toy.crypto)) :=
  onboarding ++
    [.call 2 (.start (robot "SN-1") (.renewCert ⟨"id-1", "SN-1"⟩)),
     .call 2 (.issue (.renewSign 300 300 0))]

/-- Or a client with another factory certificate comes to the bootstrap port. -/
def intrusion : List (Action Seed (PortMove Pki.Toy.crypto)) :=
  onboarding ++
    [.call 2 (.start (device "SN-2") (.renewCert ⟨"id-1", "SN-1"⟩)),
     .call 2 (.issue (.renewSign 300 300 0)),
     .call 3 (.start (device "SN-2") (.updateDeviceStatus ⟨"id-1", "suspended", ""⟩)),
     .call 3 .readBack]

end Toy

theorem port_authorisation_operation :
    (∀ a ∈ Toy.operation, EnrollOnly a) ∧
    ((listen Pki.Toy.crypto Toy.config Toy.verifies Toy.operation).log.map fun ev =>
      (ev.rpc, ev.result.toOption.isSome)) =
        [(.provisionDevice, true), (.bootstrapEnroll, true), (.renewCert, true)] ∧
    (∀ ev ∈ (listen Pki.Toy.crypto Toy.config Toy.verifies Toy.operation).log,
      ev.rpc.beforePhase3 = false → (∃ response, ev.result = .ok response) →
        fleetVerified Pki.Toy.crypto Toy.config Toy.verifies ev.conn = true) := by
  have enrollOnly : ∀ a ∈ Toy.operation, EnrollOnly a := by
    intro a member
    simp only [Toy.operation, Toy.onboarding, List.cons_append, List.nil_append, List.mem_cons,
      List.not_mem_nil, or_false] at member
    rcases member with rfl | rfl | rfl | rfl | rfl | rfl | rfl | rfl
    · trivial
    · intro port
      cases port
    · trivial
    · exact fun _ => ⟨_, rfl⟩
    · trivial
    · trivial
    · intro port
      cases port
    · trivial
  exact ⟨enrollOnly, by decide, (port_authorisation Toy.operation enrollOnly).1⟩

/-- A client that presents the factory certificate of `SN-2` on 8444, which does not
verify under the Fleet CA, is given an operational certificate for `SN-1` and
suspends it. -/
theorem factory_cert_suspends_device :
    fleetVerified Pki.Toy.crypto Toy.config Toy.verifies (Toy.device "SN-2") = false ∧
    ((listen Pki.Toy.crypto Toy.config Toy.verifies Toy.intrusion).log.map fun ev =>
      (ev.rpc, ev.result.toOption.isSome,
        fleetVerified Pki.Toy.crypto Toy.config Toy.verifies ev.conn)) =
      [(.provisionDevice, true, false), (.bootstrapEnroll, true, false), (.renewCert, true, false),
        (.updateDeviceStatus, true, false)] ∧
    ((listen Pki.Toy.crypto Toy.config Toy.verifies Toy.onboarding).state.devices.rows.map fun r =>
      (r.serial, r.status)) = [("SN-1", "active")] ∧
    ((listen Pki.Toy.crypto Toy.config Toy.verifies Toy.intrusion).state.devices.rows.map fun r =>
      (r.serial, r.status)) = [("SN-1", "suspended")] := by
  decide

end RobotFleet.Device
