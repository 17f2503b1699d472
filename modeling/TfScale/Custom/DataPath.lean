/-
  TfScale.Custom.DataPath

  The data path of the custom backend: sending overlay packets, probing direct
  paths, receiving frames, and the per-peer path state that these maintain.

  `open_received_frame` is cut in two.  `openStage` finds the session of the
  frame's source and opens the frame with it; `dispatchStage` acts on what was
  opened.  The replay window is written in the first stage only, the path state
  in the second only.
-/

import TfScale.Custom.Runtime

namespace TfScale.Custom

variable (X : Externals)

-- ============================================================================
-- Packets and probe payloads
-- ============================================================================

/-- `ipv4_destination` -/
def ipv4Destination (packet : Bytes) : Result Ipv4Addr :=
  let first := packet.getD 0 0
  let version := first.toNat / 16
  let headerLen := 4 * (first.toNat % 16)
  if packet.length < 20 then
    commandFailed ("packet is too short for IPv4 header: " ++ toString packet.length)
  else if version ≠ 4 then
    commandFailed ("unsupported packet IP version: " ++ toString version)
  else if headerLen < 20 ∨ packet.length < headerLen then
    commandFailed "invalid IPv4 header length"
  else .ok ⟨packet.getD 16 0, packet.getD 17 0, packet.getD 18 0, packet.getD 19 0⟩

/-- `now_unix_millis`: zero before the epoch. -/
def unixMillis (now : SystemTime) : Nat := now.toNat / 1000000

/-- One more than `u128::MAX`. -/
abbrev u128Bound : Nat := 340282366920938463463374607431768211456

/-- The decimal timestamp after a tag, if the payload is one. -/
def taggedTimestamp (tag : Bytes) (bytes : Bytes) : Option Nat := do
  let digits ← bytes.dropPrefix? tag
  let text ← (Text.fromUtf8 digits).toOption
  (Text.parseUnsigned u128Bound text).toOption

/-- `encode_probe_response_payload`; `nowMillis` stands in for a missing timestamp. -/
def encodeProbeResponsePayload (probePayload : Bytes) (nowMillis : Nat) : Bytes :=
  strBytes ("probe_response " ++
    toString ((taggedTimestamp (strBytes "probe ") probePayload).getD nowMillis))

/-- `probe_response_rtt_ms` -/
def probeResponseRttMs (responsePayload : Bytes) (nowMillis : Nat) : Option UInt64 := do
  let timestamp ← taggedTimestamp (strBytes "probe_response ") responsePayload
  if timestamp ≤ nowMillis ∧ nowMillis - timestamp < 2 ^ 64 then
    some (UInt64.ofNat (nowMillis - timestamp))
  else none

/-- `saturating_add(1)` -/
def saturatingSucc (n : UInt32) : UInt32 := if n = 4294967295 then n else n + 1

-- ============================================================================
-- Path state
-- ============================================================================

/-- `relay_endpoint` -/
def relayEndpoint : Endpoint := ⟨.relay, .v4 Ipv4Addr.unspecified, 0, .tcp⟩

/-- `peer_path_probe_due` -/
def peerPathProbeDue (state : PeerPathState) (now : SystemTime) : Bool :=
  let interval :=
    if state.currentPath ≠ .direct ∧ state.fastProbeAttemptsRemaining > 0 then
      directFastProbeInterval
    else directProbeInterval
  match state.lastProbeAt.bind fun lastProbe => durationSince now lastProbe with
  | some elapsed => interval ≤ elapsed
  | none => true

namespace PeerPathState

/-- One round of `expire_stale_direct_paths`. -/
def expire (relays : List RelayConfig) (now : SystemTime) (state : PeerPathState) : PeerPathState :=
  if state.currentPath ≠ .direct then state
  else
    let stale :=
      match state.lastSuccessAt.bind fun lastSuccess => durationSince now lastSuccess with
      | some elapsed => decide (directProbeStaleAfter ≤ elapsed)
      | none => true
    let state := if stale then { state with failures := saturatingSucc state.failures } else state
    if directProbeFailureThreshold ≤ state.failures then
      let state :=
        if relays.isEmpty then { state with currentPath := .unknown, activeEndpoint := none }
        else { state with currentPath := .relay, activeEndpoint := some relayEndpoint }
      { state with rttMs := none, fastProbeAttemptsRemaining := directFastProbeBurstAttempts }
    else state

/-- The path state part of `mark_peer_direct`. -/
def markDirect (endpoint : Endpoint) (rttMs : Option UInt64) (now : SystemTime)
    (state : PeerPathState) : PeerPathState :=
  { state with
    currentPath := .direct
    activeEndpoint := some endpoint
    lastSuccessAt := some now
    failures := 0
    rttMs := rttMs
    fastProbeAttemptsRemaining := 0 }

/-- The end of a probe round that was sent at `sentAt`. -/
def probed (now : SystemTime) (sentAt : Nat) (state : PeerPathState) : PeerPathState :=
  { state with
    lastProbeAt := some now
    lastProbeSentAtUnixMillis := some sentAt
    fastProbeAttemptsRemaining :=
      if state.fastProbeAttemptsRemaining > 0 then state.fastProbeAttemptsRemaining - 1
      else state.fastProbeAttemptsRemaining
    failures :=
      if state.currentPath ≠ .direct then saturatingSucc state.failures else state.failures }

end PeerPathState

namespace RuntimeState

variable (rt : RuntimeState)

/-- `expire_stale_direct_paths` -/
def expireStaleDirectPaths (now : SystemTime) : RuntimeState :=
  rt.withPaths (rt.peerPathStateByDevice.mapValues (PeerPathState.expire rt.relays now))

/-- `mark_peer_direct` -/
def markPeerDirect (deviceId : String) (endpoint : Endpoint) (rttMs : Option UInt64)
    (now : SystemTime) : RuntimeState :=
  { rt with
    peerPathStateByDevice := rt.peerPathStateByDevice.upsert deviceId PeerPathState.default
      (PeerPathState.markDirect endpoint rttMs now)
    peerTransportSessionsByDevice := rt.peerTransportSessionsByDevice.modify deviceId
      fun session => { session with endpoint } }

/-- `peer_path_is_relay` -/
def peerPathIsRelay (deviceId : String) : Bool :=
  match rt.peerPathStateByDevice.lookup deviceId with
  | some state => decide (state.currentPath = .relay)
  | none => false

/-- Write back the crypto session of a peer. -/
def setCrypto (deviceId : String) (crypto : PeerCryptoSession) : RuntimeState :=
  { rt with
    peerTransportSessionsByDevice := rt.peerTransportSessionsByDevice.modify deviceId
      fun session => { session with crypto } }

/-- `record_rx_drop` -/
def recordRxDrop : RuntimeState := rt.withTransport (rt.transport.map (·.recordRxDrop))

-- ============================================================================
-- Sending
-- ============================================================================

/-- `send_overlay_packet` -/
def sendOverlayPacket (sendTo : SendTo) (net : RelayNet) (packet : Bytes) :
    Result Nat × RuntimeState :=
  match ipv4Destination packet with
  | .error error => (.error error, rt)
  | .ok destination =>
      match rt.peersByOverlayIp.lookup destination with
      | none =>
          (commandFailed ("no peer session for overlay destination: " ++ destination.display), rt)
      | some deviceId =>
          match rt.peerTransportSessionsByDevice.lookup deviceId with
          | none => (commandFailed ("peer transport session is not ready: " ++ deviceId), rt)
          | some session =>
              let rtSealed := rt.setCrypto deviceId (session.crypto.«seal» X packet).2
              match (session.crypto.«seal» X packet).1 with
              | .error error => (.error error, rtSealed)
              | .ok frame =>
                  if rt.peerPathIsRelay deviceId then
                    let source := (rt.persisted.localConfig.map (·.deviceId)).getD ""
                    match rtSealed.relaySender.sendFrame net
                        (.frame source deviceId (X.base64Encode frame)) with
                    | (result, relaySender) => (result, rtSealed.withRelaySender relaySender)
                  else
                    match rtSealed.transport with
                    | none => (commandFailed "UDP transport is not bound", rtSealed)
                    | some transport =>
                        match transport.sendFrame sendTo session.endpoint frame with
                        | (result, transport) => (result, rtSealed.withTransport (some transport))

/-- The probes of one round to the endpoints of one peer. -/
def sendProbes (sendTo : SendTo) (sentAt : Nat) :
    List Endpoint → PeerCryptoSession → TransportRuntime → Nat →
      Result Nat × PeerCryptoSession × TransportRuntime
  | [], crypto, transport, sent => (.ok sent, crypto, transport)
  | endpoint :: rest, crypto, transport, sent =>
      match crypto.sealMessage X (strBytes ("probe " ++ toString sentAt)) frameTypeProbe with
      | (.error error, crypto) => (.error error, crypto, transport)
      | (.ok frame, crypto) =>
          match transport.sendFrame sendTo endpoint frame with
          | (.error error, transport) => (.error error, crypto, transport)
          | (.ok _, transport) => sendProbes sendTo sentAt rest crypto transport (sent + 1)

/-- The loop of `probe_peer_direct_paths`.  The clock is read when a peer is
    checked, when its round begins and when it is over: readings `3 i + 1`,
    `3 i + 2` and `3 i + 3` for the peer at position `i`. -/
def probePeers (sendTo : SendTo) (clock : Nat → SystemTime) :
    Nat → List StoredPeerSession → RuntimeState → TransportRuntime → Nat →
      Result Nat × RuntimeState
  | _, [], rt, transport, sent => (.ok sent, rt.withTransport (some transport))
  | i, peer :: peers, rt, transport, sent =>
      let rt := rt.withPaths
        (rt.peerPathStateByDevice.upsert peer.deviceId PeerPathState.default id)
      let state := (rt.peerPathStateByDevice.lookup peer.deviceId).getD PeerPathState.default
      if !peerPathProbeDue state (clock (3 * i + 1)) then
        probePeers sendTo clock (i + 1) peers rt transport sent
      else
        match rt.peerTransportSessionsByDevice.lookup peer.deviceId with
        | none => probePeers sendTo clock (i + 1) peers rt transport sent
        | some session =>
            let sentAt := unixMillis (clock (3 * i + 2))
            match sendProbes X sendTo sentAt (sortedUdpEndpoints peer.endpoints) session.crypto
                transport sent with
            | (.error error, crypto, transport) =>
                (.error error, (rt.setCrypto peer.deviceId crypto).withTransport (some transport))
            | (.ok sent, crypto, transport) =>
                let rt := rt.setCrypto peer.deviceId crypto
                let rt := rt.withPaths (rt.peerPathStateByDevice.modify peer.deviceId
                  (PeerPathState.probed (clock (3 * i + 3)) sentAt))
                probePeers sendTo clock (i + 1) peers rt transport sent

/-- `probe_peer_direct_paths` -/
def probePeerDirectPaths (sendTo : SendTo) (clock : Nat → SystemTime) : Result Nat × RuntimeState :=
  let rt := rt.expireStaleDirectPaths (clock 0)
  match rt.transport with
  | none => (.ok 0, rt)
  | some transport => probePeers X sendTo clock 0 rt.persisted.peers rt transport 0

-- ============================================================================
-- Receiving
-- ============================================================================

/-- The device that a frame's source id stands for. -/
def frameDevice (frame : Bytes) : Option String :=
  match EncodedFrame.decode frame with
  | .ok decoded => rt.peerDeviceByFrameId.lookup decoded.header.source
  | .error _ => none

/-- `open_received_frame` up to `open_message`: the device of the frame's source
    and the opened frame. -/
def openStage (frame : Bytes) : Result (String × OpenFrame) × RuntimeState :=
  match EncodedFrame.decode frame with
  | .error error => (.error error, rt.recordRxDrop)
  | .ok decoded =>
      match rt.peerDeviceByFrameId.lookup decoded.header.source with
      | none => (commandFailed "missing peer session for frame source", rt.recordRxDrop)
      | some deviceId =>
          match rt.peerTransportSessionsByDevice.lookup deviceId with
          | none =>
              (commandFailed ("peer transport session is not ready: " ++ deviceId), rt.recordRxDrop)
          | some session =>
              let rtOpened := rt.setCrypto deviceId (session.crypto.openMessage X frame).2
              match (session.crypto.openMessage X frame).1 with
              | .error error => (.error error, rtOpened.recordRxDrop)
              | .ok opened => (.ok (deviceId, opened), rtOpened)

/-- The endpoint that a datagram came from. -/
def sourceEndpoint (source : SocketAddr) : Endpoint := ⟨.public, source.ip, source.port, .udp⟩

/-- The answer to a probe: the response is sealed and sent back, and only then is
    the peer marked direct. -/
def answerProbe (sendTo : SendTo) (clock : Nat → SystemTime) (deviceId : String)
    (plaintext : Bytes) (source : SocketAddr) : Result (Option Bytes) × RuntimeState :=
  match rt.peerTransportSessionsByDevice.lookup deviceId with
  | none => (commandFailed ("peer transport session is not ready: " ++ deviceId), rt)
  | some session =>
      let payload := encodeProbeResponsePayload plaintext (unixMillis (clock 0))
      let response := session.crypto.sealMessage X payload frameTypeProbeResponse
      let rt := rt.setCrypto deviceId response.2
      match response.1 with
      | .error error => (.error error, rt)
      | .ok frame =>
          match rt.transport with
          | none => (commandFailed "UDP transport is not bound", rt)
          | some transport =>
              match transport.sendFrame sendTo (sourceEndpoint source) frame with
              | (.error error, transport) => (.error error, rt.withTransport (some transport))
              | (.ok _, transport) =>
                  (.ok none, (rt.withTransport (some transport)).markPeerDirect deviceId
                    (sourceEndpoint source) none (clock 1))

/-- `open_received_frame` after `open_message`. -/
def dispatchStage (sendTo : SendTo) (clock : Nat → SystemTime) (source : Option SocketAddr)
    (deviceId : String) (opened : OpenFrame) : Result (Option Bytes) × RuntimeState :=
  if opened.messageType = frameTypeData then (.ok (some opened.plaintext), rt)
  else if opened.messageType = frameTypeProbe then
    match source with
    | none => (.ok none, rt)
    | some source => rt.answerProbe X sendTo clock deviceId opened.plaintext source
  else if opened.messageType = frameTypeProbeResponse then
    match source with
    | none => (.ok none, rt)
    | some source =>
        let rttMs := probeResponseRttMs opened.plaintext (unixMillis (clock 0))
        (.ok none, rt.markPeerDirect deviceId (sourceEndpoint source) rttMs (clock 1))
  else (commandFailed ("unsupported opened frame message type: " ++ toString opened.messageType), rt)

/-- `open_received_frame` -/
def openReceivedFrame (sendTo : SendTo) (clock : Nat → SystemTime) (frame : Bytes)
    (source : Option SocketAddr) : Result (Option Bytes) × RuntimeState :=
  match rt.openStage X frame with
  | (.error error, rt) => (.error error, rt)
  | (.ok (deviceId, opened), rt) => rt.dispatchStage X sendTo clock source deviceId opened

/-- The frame that a relay message carries, if its payload decodes. -/
def relayFrame : RelayMessage → Option (Except String Bytes)
  | .frame _ _ payload => some (X.base64Decode payload)
  | _ => none

/-- `open_relay_frame` -/
def openRelayFrame (sendTo : SendTo) (clock : Nat → SystemTime) (message : RelayMessage) :
    Result (Option Bytes) × RuntimeState :=
  match relayFrame X message with
  | none => (.ok none, rt)
  | some (.error text) => (commandFailed text, rt)
  | some (.ok frame) => rt.openReceivedFrame X sendTo clock frame none

/-- `receive_overlay_packet` into a buffer of `bufferLen` bytes. -/
def receiveOverlayPacket (sendTo : SendTo) (clock : Nat → SystemTime) (bufferLen : Nat)
    (received : Received) : Result (Option Bytes) × RuntimeState :=
  match rt.transport with
  | none => (commandFailed "UDP transport is not bound", rt)
  | some transport =>
      match transport.receiveFrame bufferLen received with
      | (.error error, transport) => (.error error, rt.withTransport (some transport))
      | (.ok none, transport) => (.ok none, rt.withTransport (some transport))
      | (.ok (some (frame, source)), transport) =>
          (rt.withTransport (some transport)).openReceivedFrame X sendTo clock frame (some source)

end RuntimeState

end TfScale.Custom
