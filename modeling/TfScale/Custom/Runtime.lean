/-
  TfScale.Custom.Runtime

  The runtime state of the custom backend and the operations on it that run
  under the runtime lock: building it from the persisted state, sending,
  probing, receiving, and the path state of each peer.

  A method that takes `&mut self` returns the new state beside its result.
  Clock readings, random salts and the answers of the network are arguments.
-/

import TfScale.Core.Protocol
import TfScale.Lib.HashMap
import TfScale.Custom.Crypto
import TfScale.Custom.Transport

namespace TfScale.Custom

def stateVersion : UInt32 := 1
def identityScheme : String := "x25519"
def directProbeInterval : Duration := 5000000000
def directFastProbeInterval : Duration := 250000000
def directFastProbeBurstAttempts : UInt8 := 8
def directProbeStaleAfter : Duration := 15000000000
def directProbeFailureThreshold : UInt32 := 3

-- ============================================================================
-- Persisted state
-- ============================================================================

structure CustomIdentity where
  keyId : String
  scheme : String
  privateKey : String
  publicKey : String
  createdAtUnixSeconds : UInt64
  rotatedFrom : Option String
deriving DecidableEq

structure StoredPeerSession where
  deviceId : String
  hostname : String
  overlayIp : Ipv4Addr
  publicKey : String
  endpoints : List Endpoint
  allowedRoutes : List String
  lastUpdatedAtUnixSeconds : UInt64
deriving DecidableEq

structure CustomBackendState where
  version : UInt32
  identity : Option CustomIdentity
  localConfig : Option LocalBackendConfig
  peers : List StoredPeerSession
deriving DecidableEq

def CustomBackendState.default : CustomBackendState := ⟨stateVersion, none, none, []⟩

-- ============================================================================
-- Relay sender
-- ============================================================================

/-- A connection to the relay: the lines written in full, and whether a write
    failed part-way after them. -/
structure RelayStream where
  lines : List RelayMessage
  torn : Bool
deriving DecidableEq

structure TcpRelayFrameSender where
  relay : RelayConfig
  deviceId : String
  nodeKey : String
  writer : Option RelayStream
deriving DecidableEq

/-- `Box<dyn RelayFrameSender>` -/
inductive RelayFrameSender where
  | null
  | tcp (sender : TcpRelayFrameSender)
deriving DecidableEq

/-- The outcomes of `TcpStream::connect`, and of writing a line to a connection after
    the lines that it already carries. -/
structure RelayNet where
  connect : String → Except String Unit
  write : List RelayMessage → RelayMessage → Except String Unit

/-- `relay_tcp_addr` -/
def relayTcpAddr (url : String) : Result String :=
  match stripPrefix "tcp://" url with
  | some addr => .ok addr
  | none => commandFailed ("unsupported relay URL: " ++ url)

/-- `write_relay_message` -/
def writeRelayMessage (net : RelayNet) (stream : RelayStream) (message : RelayMessage) :
    Result Unit × RelayStream :=
  match net.write stream.lines message with
  | .ok _ => (.ok (), { stream with lines := stream.lines ++ [message] })
  | .error text => (commandFailed text, { stream with torn := true })

namespace TcpRelayFrameSender

/-- `TcpRelayFrameSender::new` -/
def new (relay : RelayConfig) (deviceId nodeKey : String) : TcpRelayFrameSender :=
  ⟨relay, deviceId, nodeKey, none⟩

/-- `ensure_connected` -/
def ensureConnected (s : TcpRelayFrameSender) (net : RelayNet) :
    Result Unit × TcpRelayFrameSender :=
  match s.writer with
  | some _ => (.ok (), s)
  | none =>
      match relayTcpAddr s.relay.url with
      | .error error => (.error error, s)
      | .ok addr =>
          match net.connect addr with
          | .error text => (commandFailed text, s)
          | .ok _ =>
              match writeRelayMessage net ⟨[], false⟩ (.register s.deviceId s.nodeKey) with
              | (.error error, _) => (.error error, s)
              | (.ok _, stream) => (.ok (), { s with writer := some stream })

/-- `send_frame` -/
def sendFrame (s : TcpRelayFrameSender) (net : RelayNet) (message : RelayMessage) :
    Result Nat × TcpRelayFrameSender :=
  match s.ensureConnected net with
  | (.error error, s) => (.error error, s)
  | (.ok _, s) =>
      match s.writer with
      | none => (commandFailed "relay transport is not connected", s)
      | some stream =>
          match writeRelayMessage net stream message with
          | (.error error, stream) => (.error error, { s with writer := some stream })
          | (.ok _, stream) =>
              match message with
              | .frame _ _ payload => (.ok payload.utf8ByteSize, { s with writer := some stream })
              | _ => (.ok 0, { s with writer := some stream })

end TcpRelayFrameSender

/-- `RelayFrameSender::send_frame` -/
def RelayFrameSender.sendFrame (s : RelayFrameSender) (net : RelayNet) (message : RelayMessage) :
    Result Nat × RelayFrameSender :=
  match s with
  | null => (commandFailed "relay transport is not connected", null)
  | tcp sender =>
      match sender.sendFrame net message with
      | (result, sender) => (result, tcp sender)

-- ============================================================================
-- Runtime state
-- ============================================================================

structure TunStatus where
  configured : Bool
  interfaceName : String
  ioReady : Bool
  message : Option String
deriving DecidableEq, Repr

/-- `TunStatus::failed` -/
def TunStatus.failed (interfaceName message : String) : TunStatus :=
  ⟨false, interfaceName, false, some message⟩

/-- The platform's TUN device, by the status it reports. -/
structure TunDevice where
  status : TunStatus
deriving DecidableEq, Repr

/-- The worker threads of one start: which stop flag they watch, and whether the
    relay loop is one of them. -/
structure TransportTasks where
  stopFlag : Nat
  relayLoop : Bool
deriving DecidableEq, Repr

structure PeerTransportSession where
  overlayIp : Ipv4Addr
  endpoint : Endpoint
  crypto : PeerCryptoSession
deriving DecidableEq

inductive PeerPathKind where
  | unknown
  | direct
  | relay
deriving DecidableEq, Repr

structure PeerPathState where
  currentPath : PeerPathKind
  activeEndpoint : Option Endpoint
  lastProbeAt : Option SystemTime
  lastSuccessAt : Option SystemTime
  lastProbeSentAtUnixMillis : Option Nat
  fastProbeAttemptsRemaining : UInt8
  failures : UInt32
  rttMs : Option UInt64
deriving DecidableEq

def PeerPathState.default : PeerPathState where
  currentPath := .unknown
  activeEndpoint := none
  lastProbeAt := none
  lastSuccessAt := none
  lastProbeSentAtUnixMillis := none
  fastProbeAttemptsRemaining := directFastProbeBurstAttempts
  failures := 0
  rttMs := none

structure RuntimeState where
  persisted : CustomBackendState
  peersByDevice : HashMap String StoredPeerSession
  peersByOverlayIp : HashMap Ipv4Addr String
  peerCryptoMaterialByDevice : HashMap String (ByteArr 32)
  peerUdpEndpointsByDevice : HashMap String Endpoint
  peerDeviceByFrameId : HashMap FrameDeviceId String
  peerTransportSessionsByDevice : HashMap String PeerTransportSession
  peerPathStateByDevice : HashMap String PeerPathState
  relays : List RelayConfig
  tunStatus : Option TunStatus
  tunDevice : Option TunDevice
  transport : Option TransportRuntime
  transportTasks : Option TransportTasks
  relaySender : RelayFrameSender

def RuntimeState.default : RuntimeState where
  persisted := .default
  peersByDevice := ∅
  peersByOverlayIp := ∅
  peerCryptoMaterialByDevice := ∅
  peerUdpEndpointsByDevice := ∅
  peerDeviceByFrameId := ∅
  peerTransportSessionsByDevice := ∅
  peerPathStateByDevice := ∅
  relays := []
  tunStatus := none
  tunDevice := none
  transport := none
  transportTasks := none
  relaySender := .null

-- ============================================================================
-- Writes to the runtime
-- ============================================================================

namespace RuntimeState

variable (rt : RuntimeState)

def withTasks (transportTasks : Option TransportTasks) : RuntimeState := { rt with transportTasks }
def withTransport (transport : Option TransportRuntime) : RuntimeState := { rt with transport }
def withTunStatus (status : TunStatus) : RuntimeState := { rt with tunStatus := some status }
def withTunDevice (tunDevice : Option TunDevice) : RuntimeState := { rt with tunDevice }
def withRelaySender (relaySender : RelayFrameSender) : RuntimeState := { rt with relaySender }
def withPaths (peerPathStateByDevice : HashMap String PeerPathState) : RuntimeState :=
  { rt with peerPathStateByDevice }

@[simp] theorem withTasks_tasks (t : Option TransportTasks) : (rt.withTasks t).transportTasks = t := rfl
@[simp] theorem withTasks_transport (t : Option TransportTasks) :
    (rt.withTasks t).transport = rt.transport := rfl
@[simp] theorem withTasks_tunDevice (t : Option TransportTasks) :
    (rt.withTasks t).tunDevice = rt.tunDevice := rfl
@[simp] theorem withTransport_tasks (t : Option TransportRuntime) :
    (rt.withTransport t).transportTasks = rt.transportTasks := rfl
@[simp] theorem withTransport_transport (t : Option TransportRuntime) :
    (rt.withTransport t).transport = t := rfl
@[simp] theorem withTransport_tunDevice (t : Option TransportRuntime) :
    (rt.withTransport t).tunDevice = rt.tunDevice := rfl
@[simp] theorem withTunStatus_tasks (s : TunStatus) :
    (rt.withTunStatus s).transportTasks = rt.transportTasks := rfl
@[simp] theorem withTunStatus_transport (s : TunStatus) :
    (rt.withTunStatus s).transport = rt.transport := rfl
@[simp] theorem withTunDevice_tasks (d : Option TunDevice) :
    (rt.withTunDevice d).transportTasks = rt.transportTasks := rfl
@[simp] theorem withTunDevice_transport (d : Option TunDevice) :
    (rt.withTunDevice d).transport = rt.transport := rfl
@[simp] theorem withTunDevice_tunDevice (d : Option TunDevice) :
    (rt.withTunDevice d).tunDevice = d := rfl

end RuntimeState

variable (X : Externals)

/-- The random salts that `getrandom` gives to the sessions of one build, by the
    position of the peer. -/
abbrev Salts := Nat → Except String (ByteArr 8)

/-- The loop of `build_peer_transport_sessions`, from the peer at position `i` on. -/
def buildSessionsFrom (localPrivateKey : ByteArr 32) (publicKey : String) (localId : FrameDeviceId)
    (salts : Salts) : Nat → List StoredPeerSession → HashMap String PeerTransportSession →
      Result (HashMap String PeerTransportSession)
  | _, [], sessions => .ok sessions
  | i, peer :: peers, sessions =>
      match fromDeviceId X.uuidParse peer.deviceId with
      | .error error => .error error
      | .ok peerId =>
          match selectUdpEndpoint peer.endpoints with
          | none => buildSessionsFrom localPrivateKey publicKey localId salts (i + 1) peers sessions
          | some endpoint =>
              match PeerCryptoSession.new X localPrivateKey publicKey peer.publicKey localId peerId
                  (salts i) with
              | .error error => .error error
              | .ok crypto =>
                  buildSessionsFrom localPrivateKey publicKey localId salts (i + 1) peers
                    (sessions.insert peer.deviceId ⟨peer.overlayIp, endpoint, crypto⟩)

/-- `build_peer_transport_sessions` -/
def buildPeerTransportSessions (salts : Salts) (persisted : CustomBackendState) :
    Result (HashMap String PeerTransportSession) :=
  match persisted.identity, persisted.localConfig with
  | some identity, some localConfig => do
      let localId ← fromDeviceId X.uuidParse localConfig.deviceId
      let localPrivateKey ← decodeKey X identity.privateKey
      buildSessionsFrom X localPrivateKey identity.publicKey localId salts 0 persisted.peers ∅
  | _, _ => .ok ∅

namespace RuntimeState

/-- `RuntimeState::from_persisted` -/
def fromPersisted (salts : Salts) (persisted : CustomBackendState) : RuntimeState where
  persisted := persisted
  peersByDevice := .ofPairs (persisted.peers.map fun peer => (peer.deviceId, peer))
  peersByOverlayIp := .ofPairs (persisted.peers.map fun peer => (peer.overlayIp, peer.deviceId))
  peerCryptoMaterialByDevice := .ofPairs (persisted.peers.filterMap fun peer =>
    (decodePublicCredential X peer.publicKey).toOption.map fun key => (peer.deviceId, key))
  peerUdpEndpointsByDevice := .ofPairs (persisted.peers.filterMap fun peer =>
    (selectUdpEndpoint peer.endpoints).map fun endpoint => (peer.deviceId, endpoint))
  peerDeviceByFrameId := .ofPairs (persisted.peers.filterMap fun peer =>
    (fromDeviceId X.uuidParse peer.deviceId).toOption.map fun frameId => (frameId, peer.deviceId))
  -- an error in any peer leaves no sessions at all
  peerTransportSessionsByDevice :=
    (buildPeerTransportSessions X salts persisted).toOption.getD ∅
  peerPathStateByDevice :=
    .ofPairs (persisted.peers.map fun peer => (peer.deviceId, PeerPathState.default))
  relays := []
  tunStatus := none
  tunDevice := none
  transport := none
  transportTasks := none
  relaySender := .null

end RuntimeState

-- ============================================================================
-- The sessions that are built
-- ============================================================================

/-- The session that is built for a peer: from the local key, the credential of that
    peer, and the two frame ids. -/
def BuiltFor (persisted : CustomBackendState) (peer : StoredPeerSession)
    (crypto : PeerCryptoSession) : Prop :=
  ∃ identity localConfig localId localPrivateKey peerId random,
    persisted.identity = some identity ∧ persisted.localConfig = some localConfig ∧
    fromDeviceId X.uuidParse localConfig.deviceId = .ok localId ∧
    decodeKey X identity.privateKey = .ok localPrivateKey ∧
    fromDeviceId X.uuidParse peer.deviceId = .ok peerId ∧
    PeerCryptoSession.new X localPrivateKey identity.publicKey peer.publicKey localId peerId random =
      .ok crypto

variable {X}

theorem buildSessionsFrom_built {localPrivateKey : ByteArr 32} {publicKey : String}
    {localId : FrameDeviceId} {salts : Salts} {i : Nat} {peers : List StoredPeerSession}
    {sessions sessions' : HashMap String PeerTransportSession} {d : String} {s : PeerTransportSession}
    (h : buildSessionsFrom X localPrivateKey publicKey localId salts i peers sessions = .ok sessions')
    (hs : sessions'.lookup d = some s) :
    sessions.lookup d = some s ∨ ∃ peer ∈ peers, peer.deviceId = d ∧ ∃ peerId random,
      fromDeviceId X.uuidParse peer.deviceId = .ok peerId ∧
      PeerCryptoSession.new X localPrivateKey publicKey peer.publicKey localId peerId random =
        .ok s.crypto := by
  induction peers generalizing i sessions with
  | nil =>
      obtain rfl := Except.ok.inj h
      exact Or.inl hs
  | cons peer peers ih =>
      unfold buildSessionsFrom at h
      split at h
      · cases h
      rename_i peerId hpeerId
      split at h
      · rcases ih h with hold | ⟨peer', hpeer', hbuilt⟩
        · exact Or.inl hold
        · exact Or.inr ⟨peer', List.mem_cons_of_mem _ hpeer', hbuilt⟩
      split at h
      · cases h
      rename_i crypto hcrypto
      rcases ih h with hold | ⟨peer', hpeer', hbuilt⟩
      · rw [HashMap.lookup_insert_eq] at hold
        split at hold
        · rename_i hd
          obtain rfl := Option.some.inj hold
          exact Or.inr ⟨peer, List.mem_cons_self, hd.symm, peerId, _, hpeerId, hcrypto⟩
        · exact Or.inl hold
      · exact Or.inr ⟨peer', List.mem_cons_of_mem _ hpeer', hbuilt⟩

/-- Where the session of a peer leads: its overlay address and the UDP endpoint that
    is selected for it, if it has one. -/
def StoredPeerSession.destination (peer : StoredPeerSession) : Option (Ipv4Addr × Endpoint) :=
  (selectUdpEndpoint peer.endpoints).map fun endpoint => (peer.overlayIp, endpoint)

/-- Where the session of a device leads when it is built: a later entry of the device
    overrides an earlier one. -/
def initialDestination (peers : List StoredPeerSession) (d : String) : Option (Ipv4Addr × Endpoint) :=
  ((peers.filter fun peer => peer.deviceId = d).filterMap StoredPeerSession.destination).getLast?

/-- An entry of the device overrides what was there before it. -/
theorem initialDestination_cons (peer : StoredPeerSession) (peers : List StoredPeerSession)
    (d : String) : initialDestination (peer :: peers) d =
      (initialDestination peers d).or (if peer.deviceId = d then peer.destination else none) := by
  unfold initialDestination
  by_cases hd : peer.deviceId = d
  · rw [List.filter_cons_of_pos (by simpa using hd), if_pos hd]
    cases hdest : peer.destination with
    | none => rw [List.filterMap_cons_none hdest, Option.or_none]
    | some dest =>
        rw [List.filterMap_cons_some hdest, List.getLast?_cons]
        cases ((peers.filter fun peer => peer.deviceId = d).filterMap
          StoredPeerSession.destination).getLast? <;> rfl
  · rw [List.filter_cons_of_neg (by simpa using hd), if_neg hd, Option.or_none]

theorem buildSessionsFrom_destination {localPrivateKey : ByteArr 32} {publicKey : String}
    {localId : FrameDeviceId} {salts : Salts} {i : Nat} {peers : List StoredPeerSession}
    {sessions sessions' : HashMap String PeerTransportSession}
    (h : buildSessionsFrom X localPrivateKey publicKey localId salts i peers sessions = .ok sessions')
    (d : String) :
    (sessions'.lookup d).map (fun s => (s.overlayIp, s.endpoint)) =
      (initialDestination peers d).or
        ((sessions.lookup d).map fun s => (s.overlayIp, s.endpoint)) := by
  induction peers generalizing i sessions with
  | nil =>
      obtain rfl := Except.ok.inj h
      rfl
  | cons peer peers ih =>
      unfold buildSessionsFrom at h
      split at h
      · cases h
      rw [initialDestination_cons, Option.or_assoc]
      split at h
      · rename_i hnone
        have hdest : peer.destination = none := by rw [StoredPeerSession.destination, hnone]; rfl
        rw [ih h, hdest, ite_self]
        rfl
      split at h
      · cases h
      rename_i endpoint hendpoint _ crypto _
      have hdest : peer.destination = some (peer.overlayIp, endpoint) := by
        rw [StoredPeerSession.destination, hendpoint]
        rfl
      rw [ih h, HashMap.lookup_insert_eq, hdest]
      by_cases hd : d = peer.deviceId
      · rw [if_pos hd, if_pos hd.symm]
        rfl
      · rw [if_neg hd, if_neg (Ne.symm hd)]
        rfl

/-- The sessions of a new runtime, when they can be built at all. -/
theorem fromPersisted_destination {salts : Salts} {persisted : CustomBackendState}
    {sessions : HashMap String PeerTransportSession}
    (h : buildPeerTransportSessions X salts persisted = .ok sessions) (d : String) :
    (sessions.lookup d).map (fun s => (s.overlayIp, s.endpoint)) =
      if persisted.identity.isSome ∧ persisted.localConfig.isSome then
        initialDestination persisted.peers d
      else none := by
  unfold buildPeerTransportSessions at h
  split at h
  · rename_i identity localConfig hidentity hlocalConfig
    obtain ⟨localId, -, h⟩ := Result.bind_eq_ok.mp h
    obtain ⟨localPrivateKey, -, h⟩ := Result.bind_eq_ok.mp h
    rw [buildSessionsFrom_destination h d, if_pos (by simp [hidentity, hlocalConfig])]
    cases initialDestination persisted.peers d <;> rfl
  · rename_i hmissing
    obtain rfl := Except.ok.inj h
    rw [if_neg]
    · rfl
    · rintro ⟨hidentity, hlocalConfig⟩
      obtain ⟨identity, hidentity⟩ := Option.isSome_iff_exists.mp hidentity
      obtain ⟨localConfig, hlocalConfig⟩ := Option.isSome_iff_exists.mp hlocalConfig
      exact hmissing identity localConfig hidentity hlocalConfig

theorem mem_of_initialDestination {peers : List StoredPeerSession} {d : String}
    {dest : Ipv4Addr × Endpoint} (h : initialDestination peers d = some dest) :
    ∃ peer ∈ peers, peer.deviceId = d ∧ peer.destination = some dest := by
  obtain ⟨peer, hpeer, hdest⟩ := List.mem_filterMap.mp (List.mem_of_getLast? h)
  obtain ⟨hmem, hd⟩ := List.mem_filter.mp hpeer
  exact ⟨peer, hmem, by simpa using hd, hdest⟩

/-- Every session of a new runtime is the one built for the peer it is stored under. -/
theorem fromPersisted_built {salts : Salts} {persisted : CustomBackendState} {d : String}
    {s : PeerTransportSession}
    (hs : (RuntimeState.fromPersisted X salts persisted).peerTransportSessionsByDevice.lookup d =
      some s) :
    ∃ peer ∈ persisted.peers, peer.deviceId = d ∧ BuiltFor X persisted peer s.crypto := by
  simp only [RuntimeState.fromPersisted] at hs
  cases hbuild : buildPeerTransportSessions X salts persisted with
  | error e =>
      rw [hbuild] at hs
      cases hs
  | ok sessions =>
      rw [hbuild] at hs
      unfold buildPeerTransportSessions at hbuild
      split at hbuild
      · rename_i identity localConfig hidentity hlocalConfig
        obtain ⟨localId, hlocalId, hrest⟩ := Result.bind_eq_ok.mp hbuild
        obtain ⟨localPrivateKey, hkey, hrest⟩ := Result.bind_eq_ok.mp hrest
        rcases buildSessionsFrom_built hrest hs with hempty | ⟨peer, hpeer, hd, peerId, random, hid, hnew⟩
        · cases hempty
        · exact ⟨peer, hpeer, hd, identity, localConfig, localId, localPrivateKey, peerId, random,
            hidentity, hlocalConfig, hlocalId, hkey, hid, hnew⟩
      · obtain rfl := Except.ok.inj hbuild
        cases hs

end TfScale.Custom
