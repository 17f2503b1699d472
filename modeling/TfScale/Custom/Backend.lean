/-
  TfScale.Custom.Backend

  `CustomBackend` as a `NetworkBackend`: the state file, the runtime behind its
  mutex, the worker threads, and every operation of the trait as a program of
  the calling thread.

  An operation takes the answers of the operating system as an `Env`.  The state
  file holds a state (JSON encoding is taken as faithful), or text that does not
  parse.  `Machine.running` lists the stop flags of started workers that nobody
  has set.
-/

import TfScale.Lib.Mutex
import TfScale.Custom.DataPath

namespace TfScale.Custom

inductive StateFile where
  | absent
  | unparsable (message : String)
  | stored (state : CustomBackendState)
deriving DecidableEq

/-- What the backend touches outside its mutex. -/
structure Machine where
  file : StateFile
  /-- the next stop flag to be allocated -/
  nextFlag : Nat
  /-- stop flags of started workers that are not set -/
  running : List Nat
deriving DecidableEq

/-- Programs of a thread that uses the backend. -/
abbrev BackendM := ThreadM Machine RuntimeState BackendError

abbrev World := Shared Machine RuntimeState

structure TunConfig where
  interfaceName : String
  overlayIp : Ipv4Addr
  listenPort : UInt16
  overlayCidr : String
deriving DecidableEq, Repr

/-- `TunConfig::from_local_config` -/
def TunConfig.fromLocalConfig (config : LocalBackendConfig) : TunConfig :=
  ⟨config.interfaceName, config.overlayIp, config.listenPort, "100.64.0.0/10"⟩

/-- How `save_state` ends; a failure to set the permissions comes after the file
    is in place. -/
inductive SaveOutcome where
  | written
  | failed (message : String)
  | unprotected (message : String)
deriving DecidableEq

/-- The answers of the operating system to one operation. -/
structure Env where
  /-- the error of the n-th `fs::read` -/
  readError : Nat → Option String
  save : SaveOutcome
  salts : Salts
  /-- `StaticSecret::random` -/
  secret : ByteArr 32
  /-- `Uuid::now_v7().simple()` -/
  keyUuid : String
  clock : Nat → SystemTime
  configureTun : TunConfig → Result TunDevice
  shutdownTun : Result Unit
  /-- the port that binding a listen port gives -/
  socket : UInt16 → Except String UInt16
  lan : Option Ipv4Addr
  sendTo : SendTo
  /-- the instant at which a public probe starts, and what it then receives -/
  probeStart : Nat
  probeAnswers : List (Received × Nat)

/-- The constants of a backend value. -/
structure CustomBackend where
  interfaceName : String
  tunSetupEnabled : Bool
deriving DecidableEq, Repr

def poisonError : BackendError := .commandFailed "poisoned lock: another task failed inside"

/-- `self.state.lock().map_err(..)?` for the length of one statement or block. -/
def locked {α : Type} (f : RuntimeState → Result α × RuntimeState) : BackendM α :=
  ThreadM.withLock poisonError f

/-- `now_unix_seconds` -/
def unixSeconds (now : SystemTime) : UInt64 := UInt64.ofNat (now.toNat / 1000000000)

-- ============================================================================
-- State file
-- ============================================================================

/-- `validate_state_version` -/
def validateStateVersion (state : CustomBackendState) : Result Unit :=
  if state.version ≠ stateVersion then
    commandFailed ("unsupported custom backend state version: " ++ toString state.version)
  else .ok ()

/-- What `load_state` makes of the file. -/
def readState (readError : Option String) : StateFile → Result CustomBackendState
  | .absent => .ok .default
  | .unparsable message =>
      match readError with
      | some error => commandFailed error
      | none => commandFailed message
  | .stored state =>
      match readError with
      | some error => commandFailed error
      | none => do
          validateStateVersion state
          return state

/-- `load_state`, the n-th of the operation. -/
def loadState (env : Env) (n : Nat) : BackendM CustomBackendState :=
  .other fun machine => (readState (env.readError n) machine.file, machine)

/-- `save_state` -/
def saveState (env : Env) (state : CustomBackendState) : BackendM Unit :=
  .other fun machine =>
    match env.save with
    | .written => (.ok (), { machine with file := .stored state })
    | .failed message => (commandFailed message, machine)
    | .unprotected message => (commandFailed message, { machine with file := .stored state })

variable (X : Externals)

/-- The runtime after `replace_state`: built anew, but for the four fields that
    are taken over. -/
def RuntimeState.rebuilt (rt : RuntimeState) (salts : Salts) (state : CustomBackendState) :
    RuntimeState :=
  { RuntimeState.fromPersisted X salts state with
    tunStatus := rt.tunStatus
    tunDevice := rt.tunDevice
    transport := rt.transport
    transportTasks := rt.transportTasks }

/-- `replace_state` -/
def replaceState (env : Env) (state : CustomBackendState) : BackendM Unit := do
  saveState env state
  locked fun rt => (.ok (), rt.rebuilt X env.salts state)

section Replace

open ThreadM

theorem locked_poisoned {α : Type} (f : RuntimeState → Result α × RuntimeState) {w : World}
    (hfree : w.mutex.held = false) (hpoisoned : w.mutex.poisoned = true) :
    (locked f).run w = .ok (.error poisonError, w) := by
  rw [locked, withLock, withGuard_poisoned hfree hpoisoned]

/-- A critical section that returns found the lock free; it has acted, unless the lock
    is poisoned. -/
theorem locked_returned {α : Type} {f : RuntimeState → Result α × RuntimeState} {w w' : World}
    {r : Result α} (h : (locked f).run w = .ok (r, w')) :
    w.mutex.held = false ∧
      ((w.mutex.poisoned = true ∧ r = .error poisonError ∧ w' = w) ∨
        (w.mutex.poisoned = false ∧ r = (f w.mutex.value).1 ∧
          w' = setValue w (f w.mutex.value).2)) := by
  have hguard : (withGuard poisonError (protect f)).run w = .ok (r, w') := h
  have hfree : w.mutex.held = false := (withGuard_returned hguard).1
  refine ⟨hfree, ?_⟩
  cases hpoisoned : w.mutex.poisoned with
  | true =>
      rw [locked_poisoned f hfree hpoisoned] at h
      obtain ⟨rfl, rfl⟩ := Prod.mk.inj (Except.ok.inj h)
      exact Or.inl ⟨rfl, rfl, rfl⟩
  | false =>
      rw [locked, withLock_ready ⟨hfree, hpoisoned⟩] at h
      obtain ⟨rfl, rfl⟩ := Prod.mk.inj (Except.ok.inj h)
      exact Or.inr ⟨rfl, rfl, rfl⟩

theorem loadState_run (env : Env) (n : Nat) (w : World) :
    (loadState env n).run w = .ok (readState (env.readError n) w.other.file, w) := rfl

/-- A state that was loaded has the supported version. -/
theorem readState_version {readError : Option String} {file : StateFile} {state : CustomBackendState}
    (h : readState readError file = .ok state) : state.version = stateVersion := by
  cases file with
  | absent =>
      obtain rfl := Except.ok.inj h
      rfl
  | unparsable message => cases readError <;> cases h
  | stored stored =>
      cases readError with
      | some error => cases h
      | none =>
          obtain ⟨_, hvalid, hstored⟩ := Result.bind_eq_ok.mp h
          obtain rfl := Except.ok.inj hstored
          by_contra hne
          rw [validateStateVersion, if_pos hne] at hvalid
          cases hvalid

/-- What was saved is loaded again, unless reading fails. -/
theorem readState_stored {readError : Option String} {state : CustomBackendState}
    (hversion : state.version = stateVersion) :
    readState readError (.stored state) =
      match readError with
      | some error => commandFailed error
      | none => .ok state := by
  cases readError with
  | some error => rfl
  | none => simp [readState, validateStateVersion, hversion, bind, Except.bind, pure, Except.pure]

/-- The world with another state in the file. -/
def stored (w : World) (state : CustomBackendState) : World :=
  { w with other := { w.other with file := .stored state } }

/-- The world after `replace_state`. -/
def replaced (X : Externals) (env : Env) (state : CustomBackendState) (w : World) : World :=
  setValue (stored w state) (w.mutex.value.rebuilt X env.salts state)

theorem saveState_written {env : Env} {state : CustomBackendState} (w : World)
    (hsave : env.save = .written) :
    (saveState env state).run w = .ok (.ok (), stored w state) := by
  rw [saveState, run_other, hsave]
  rfl

theorem replaceState_written {X : Externals} {env : Env} {state : CustomBackendState} {w : World}
    (hw : Ready w) (hsave : env.save = .written) :
    (replaceState X env state).run w = .ok (.ok (), replaced X env state w) := by
  have hstored : Ready (stored w state) := ⟨hw.free, hw.sound⟩
  rw [replaceState, bind_ok (saveState_written w hsave), locked, withLock_ready hstored]
  rfl

/-- `replace_state` succeeds only through a completed save and a sound lock. -/
theorem replaceState_eq_ok {X : Externals} {env : Env} {state : CustomBackendState} {w w' : World}
    {u : Unit} (hfree : w.mutex.held = false)
    (h : (replaceState X env state).run w = .ok (.ok u, w')) :
    env.save = .written ∧ Ready w ∧ w' = replaced X env state w := by
  obtain ⟨_, w₁, hsaved, hlocked⟩ := bind_eq_ok h
  have hsave : env.save = .written := by
    rw [saveState, run_other] at hsaved
    cases hs : env.save with
    | written => rfl
    | failed message =>
        rw [hs] at hsaved
        cases hsaved
    | unprotected message =>
        rw [hs] at hsaved
        cases hsaved
  have hsound : w.mutex.poisoned = false := by
    by_contra hpoisoned
    rw [saveState_written w hsave] at hsaved
    obtain ⟨-, rfl⟩ := Prod.mk.inj (Except.ok.inj hsaved)
    have hbad : (stored w state).mutex.poisoned = true := by simpa [stored] using hpoisoned
    have hstill : (stored w state).mutex.held = false := hfree
    rw [locked_poisoned _ hstill hbad] at hlocked
    cases hlocked
  refine ⟨hsave, ⟨hfree, hsound⟩, ?_⟩
  rw [replaceState_written ⟨hfree, hsound⟩ hsave] at h
  exact (Prod.mk.inj (Except.ok.inj h)).2.symm

end Replace

-- ============================================================================
-- Worker threads
-- ============================================================================

/-- The relay and the device id that `spawn_relay_to_tun_loop` starts with. -/
def RuntimeState.relayLoopTarget (rt : RuntimeState) : Option (RelayConfig × String) := do
  let relay ← rt.relays.head?
  let config ← rt.persisted.localConfig
  return (relay, config.deviceId)

/-- `spawn_relay_to_tun_loop`: takes the lock itself to read its parameters. -/
def spawnRelayToTunLoop : BackendM (Option (RelayConfig × String)) := do
  match ← ThreadM.attempt (locked fun rt => (.ok rt.relayLoopTarget, rt)) with
  | .ok target => return target
  | .error _ => return none

/-- `TransportTasks::start` -/
def TransportTasks.start : BackendM TransportTasks := do
  let stopFlag ← ThreadM.other fun machine =>
    (.ok machine.nextFlag, { machine with
      nextFlag := machine.nextFlag + 1
      running := machine.nextFlag :: machine.running })
  let relay ← spawnRelayToTunLoop
  return { stopFlag, relayLoop := relay.isSome }

/-- `TransportTasks::stop`: sets the flag and joins the threads. -/
def TransportTasks.stop (tasks : TransportTasks) : BackendM Unit :=
  .other fun machine =>
    (.ok (), { machine with running := machine.running.filter (· ≠ tasks.stopFlag) })

/-- `start_transport_tasks`: the guard lives to the end of the function. -/
def startTransportTasks : BackendM Unit :=
  ThreadM.withGuard poisonError do
    let rt ← ThreadM.protect fun rt => (.ok rt, rt)
    if rt.transportTasks.isSome || rt.tunDevice.isNone || rt.transport.isNone then
      return ()
    else do
      let tasks ← TransportTasks.start
      ThreadM.protect fun rt => (.ok (), rt.withTasks (some tasks))

/-- `stop_transport_tasks` -/
def stopTransportTasks : BackendM Unit := do
  let tasks ← locked fun rt => (.ok rt.transportTasks, rt.withTasks none)
  match tasks with
  | some tasks => tasks.stop
  | none => return ()

/-- `set_tun_status` -/
def setTunStatus (status : TunStatus) : BackendM Unit :=
  locked fun rt => (.ok (), rt.withTunStatus status)

/-- `set_tun_device` -/
def setTunDevice (device : TunDevice) : BackendM Unit := do
  locked fun rt => (.ok (), (rt.withTunStatus device.status).withTunDevice (some device))
  startTransportTasks

/-- `bind_transport` -/
def bindTransport (env : Env) (listenPort : UInt16) : BackendM Unit := do
  stopTransportTasks
  let replaced ← locked fun rt => (.ok rt.transport, rt.withTransport none)
  let transport ← ThreadM.ofExcept
    (TransportRuntime.bind (env.socket listenPort) env.lan (TransportRuntime.socketAfter replaced))
  locked fun rt => (.ok (), rt.withTransport (some transport))
  startTransportTasks

-- ============================================================================
-- Credentials
-- ============================================================================

/-- `generate_identity` -/
def generateIdentity (env : Env) : CustomIdentity where
  keyId := "kid_" ++ env.keyUuid
  scheme := identityScheme
  privateKey := encodeKey X env.secret
  publicKey := encodePublicCredential X (X.x25519Public env.secret)
  createdAtUnixSeconds := unixSeconds (env.clock 0)
  rotatedFrom := none

/-- `derive_public_credential` -/
def derivePublicCredential (privateKey : String) : Result String := do
  let key ← decodeKey X privateKey
  return encodePublicCredential X (X.x25519Public key)

/-- `validate_public_credential` -/
def validatePublicCredential (value : String) : Result Unit :=
  match stripPrefix publicCredentialPrefix value with
  | none => commandFailed "unsupported peer credential prefix"
  | some encoded => do
      let bytes ← decodeBase64Key X encoded
      if bytes.length ≠ 32 then
        commandFailed ("peer credential has invalid key length: " ++ toString bytes.length)
      else .ok ()

/-- `peer_to_session` -/
def peerToSession (now : SystemTime) (peer : PeerConfig) : Result StoredPeerSession := do
  validatePublicCredential X peer.publicCredential.publicCredential
  return {
    deviceId := peer.deviceId
    hostname := peer.hostname
    overlayIp := peer.overlayIp
    publicKey := peer.publicCredential.publicCredential
    endpoints := peer.endpoints
    allowedRoutes := peer.allowedRoutes
    lastUpdatedAtUnixSeconds := unixSeconds now }

/-- The sessions of a peer list, the clock being read once for each peer. -/
def peersToSessions (clock : Nat → SystemTime) :
    Nat → List PeerConfig → Result (List StoredPeerSession)
  | _, [] => .ok []
  | i, peer :: peers => do
      let session ← peerToSession X (clock i) peer
      let sessions ← peersToSessions clock (i + 1) peers
      return session :: sessions

-- ============================================================================
-- The operations of `NetworkBackend`
-- ============================================================================

variable (b : CustomBackend)

/-- `ensure_credentials` -/
def ensureCredentials (env : Env) : BackendM BackendCredential := do
  let state ← loadState env 0
  match state.identity with
  | some identity => do
      let derived ← ThreadM.ofExcept (derivePublicCredential X identity.privateKey)
      if identity.publicKey ≠ derived then
        ThreadM.ofExcept (commandFailed "stored public key does not match private key")
      else do
        -- the old runtime is dropped whole, its tasks and its transport with it
        locked fun _ => (.ok (), RuntimeState.fromPersisted X env.salts state)
        return { publicCredential := identity.publicKey }
  | none => do
      let identity := generateIdentity X env
      replaceState X env { state with identity := some identity }
      return { publicCredential := identity.publicKey }

/-- What `ensure_credentials` does when it finds a stored identity whose keys match. -/
theorem ensureCredentials_stored {X : Externals} {env : Env} {w : World}
    {state : CustomBackendState} {identity : CustomIdentity}
    (hread : readState (env.readError 0) w.other.file = .ok state)
    (hidentity : state.identity = some identity)
    (hderived : derivePublicCredential X identity.privateKey = .ok identity.publicKey) :
    (ensureCredentials X env).run w =
      ((locked fun _ => (.ok (), RuntimeState.fromPersisted X env.salts state)) >>= fun _ =>
        (pure ⟨identity.publicKey⟩ : BackendM BackendCredential)).run w := by
  have hload := loadState_run env 0 w
  rw [hread] at hload
  rw [ensureCredentials, ThreadM.bind_ok hload]
  simp only [hidentity]
  have hderive : (ThreadM.ofExcept (derivePublicCredential X identity.privateKey) :
      BackendM String).run w = .ok (.ok identity.publicKey, w) := by
    rw [ThreadM.run_ofExcept, hderived]
  rw [ThreadM.bind_ok hderive, if_neg (by simp)]

/-- `apply_local_config` after the configuration is stored. -/
def setUpTun (env : Env) (tunConfig : TunConfig) : BackendM Unit :=
  if !b.tunSetupEnabled then do
    bindTransport env tunConfig.listenPort
    setTunStatus (.failed tunConfig.interfaceName "TUN setup skipped by backend configuration")
  else
    match env.configureTun tunConfig with
    | .ok device => do
        setTunDevice device
        bindTransport env tunConfig.listenPort
    | .error error => do
        setTunStatus (.failed tunConfig.interfaceName error.text)
        ThreadM.ofExcept (.error error)

/-- `apply_local_config` -/
def applyLocalConfig (env : Env) (config : LocalBackendConfig) : BackendM Unit := do
  let state ← loadState env 0
  replaceState X env { state with localConfig := some config }
  let stored ← loadState env 1
  match stored.localConfig with
  | some config => setUpTun b env (.fromLocalConfig config)
  | none => ThreadM.halt .panicked

/-- The runtime after `apply_relay_map`. -/
def RuntimeState.withRelays (rt : RuntimeState) (relays : List RelayConfig) : RuntimeState :=
  { rt with
    relaySender :=
      match rt.persisted.localConfig, relays.head? with
      | some config, some relay => .tcp (.new relay config.deviceId "")
      | _, _ => .null
    relays := relays }

/-- `apply_relay_map` -/
def applyRelayMap (relays : List RelayConfig) : BackendM Unit :=
  locked fun rt => (.ok (), rt.withRelays relays)

/-- `apply_peer_map` -/
def applyPeerMap (env : Env) (peers : List PeerConfig) : BackendM Unit := do
  let state ← loadState env 0
  let peers ← ThreadM.ofExcept (peersToSessions X env.clock 0 peers)
  replaceState X env { state with peers }

/-- `local_endpoints` -/
def localEndpoints : BackendM (List Endpoint) :=
  locked fun rt => (.ok ((rt.transport.map (·.localEndpoints)).getD []), rt)

/-- The public probe of the transport, under the lock. -/
def probeTransport (env : Env) (probeServer : SocketAddr) (timeout : Duration) :
    BackendM (Result (Option PublicEndpointProbe)) := do
  let rt ← ThreadM.protect fun rt => (.ok rt, rt)
  match rt.transport with
  | none => ThreadM.ofExcept (commandFailed "UDP transport is not bound")
  | some transport =>
      match transport.probePublicEndpoint env.sendTo probeServer env.probeStart timeout
          env.probeAnswers with
      | none => ThreadM.halt .waiting
      | some (result, transport) =>
          ThreadM.protect fun rt => (.ok result, rt.withTransport (some transport))

/-- `probe_public_endpoint` -/
def probePublicEndpoint (env : Env) (probeServer : SocketAddr) (timeout : Duration) :
    BackendM (Option PublicEndpointProbe) := do
  stopTransportTasks
  -- the lock is held for as long as the probe waits
  let result ← ThreadM.withGuard poisonError (probeTransport env probeServer timeout)
  let restart ← ThreadM.attempt startTransportTasks
  match restart with
  | .ok _ => ThreadM.ofExcept result
  | .error error => ThreadM.ofExcept (.error error)

/-- `maintain_peer_paths` -/
def maintainPeerPaths (env : Env) : BackendM Unit :=
  locked fun rt =>
    match rt.probePeerDirectPaths X env.sendTo env.clock with
    | (.ok _, rt) => (.ok (), rt)
    | (.error error, rt) => (.error error, rt)

/-- `shutdown` -/
def shutdown (env : Env) : BackendM Unit := do
  stopTransportTasks
  locked fun rt => (.ok (), rt.withTransport none)
  let device ← locked fun rt => (.ok rt.tunDevice, rt.withTunDevice none)
  match device with
  | some device => do
      ThreadM.ofExcept env.shutdownTun
      setTunStatus (.failed device.status.interfaceName "TUN device shut down")
  | none => return ()

-- ============================================================================
-- A machine on which everything works
-- ============================================================================

namespace Reference

/-- Every system call succeeds, and the clock stands still. -/
def env : Env where
  readError := fun _ => none
  save := .written
  salts := fun i => .ok (.replicate 8 (UInt8.ofNat i))
  secret := .replicate 32 9
  keyUuid := "00000000000000000000000000000001"
  clock := fun _ => 1000000000
  configureTun := fun config => .ok ⟨⟨true, config.interfaceName, true, none⟩⟩
  shutdownTun := .ok ()
  socket := fun port => .ok port
  lan := none
  sendTo := fun _ frame => .ok frame.length
  probeStart := 0
  probeAnswers := []

/-- A backend that was just created, and no state file yet. -/
def freshWorld : World := ⟨⟨.absent, 0, []⟩, ⟨RuntimeState.default, false, false⟩⟩

def localConfig : LocalBackendConfig :=
  ⟨"dev_00000000000000000000000000000001", "tfscale0", ⟨100, 64, 0, 2⟩, 51820⟩

end Reference

end TfScale.Custom
