/-
  TfScale.Custom.Routing

  Does a packet reach the peer that owns its destination?

  `send_overlay_packet` looks the device up by overlay address, the session and the
  path up by device, and seals with the session.  The maps are built independently of
  each other from the list of peers; `Routed` says how they agree, and whatever runs
  under the lock, short of building them anew, keeps it.
-/

import TfScale.Lib.Run
import TfScale.Custom.Paths
import TfScale.Custom.RelaySender
import TfScale.Custom.Replay

namespace TfScale.Custom

open PeerCryptoSession

variable {X : Externals} {rt rt' : RuntimeState} {persisted : CustomBackendState}

-- ============================================================================
-- Sessions
-- ============================================================================

/-- The session as it was built: nothing sent, nothing received. -/
def PeerCryptoSession.asBuilt (s : PeerCryptoSession) : PeerCryptoSession :=
  { s with sendNonces := { s.sendNonces with counter := 0 }, receiveWindow := .default }

theorem asBuilt_sealMessage (s : PeerCryptoSession) (plaintext : Bytes) (messageType : UInt8) :
    (s.sealMessage X plaintext messageType).2.asBuilt = s.asBuilt := by
  rw [sealMessage_snd]
  unfold SendNonceState.next asBuilt
  split <;> rfl

theorem asBuilt_openMessage (s : PeerCryptoSession) (frame : Bytes) :
    (s.openMessage X frame).2.asBuilt = s.asBuilt := by
  obtain ⟨w, hw⟩ := s.openMessage_snd (X := X) frame
  rw [hw]
  rfl

theorem BuiltFor.asBuilt {peer : StoredPeerSession} {crypto : PeerCryptoSession}
    (h : BuiltFor X persisted peer crypto) : crypto.asBuilt = crypto := by
  obtain ⟨_, _, _, _, _, _, -, -, -, -, -, hnew⟩ := h
  obtain ⟨_, _, -, -, rfl⟩ := new_eq_ok.mp hnew
  rfl

-- ============================================================================
-- Traffic
-- ============================================================================

/-- What happens to the runtime between two rebuilds. -/
inductive Traffic where
  | lock (s : Section)
  | expire (now : SystemTime)

/-- One step; the sections that build new sessions are none. -/
def Traffic.step (X : Externals) (rt : RuntimeState) : Traffic → Option RuntimeState
  | lock s => if s.rebuilds then none else some (s.effect X rt)
  | expire now => some (rt.expireStaleDirectPaths now)

/-- Whatever runs under the lock, short of a rebuild, leaves the maps of the peers and
    what the sessions were built as. -/
theorem sameMaps_traffic {t : Traffic} (h : t.step X rt = some rt') :
    SameMaps asBuilt rt rt' := by
  cases t with
  | expire now =>
      obtain rfl := Option.some.inj h
      exact (Preserves.withPaths rt _).toSameMaps
  | lock s =>
      simp only [Traffic.step] at h
      split at h
      · cases h
      · rename_i hrebuilds
        obtain rfl := Option.some.inj h
        cases s with
        | udp bufferLen received sendTo clock =>
            exact (preserves_receiveOverlayPacket asBuilt_sealMessage asBuilt_openMessage
              rt _ _ _ _).toSameMaps
        | relay message sendTo clock =>
            exact (preserves_openRelayFrame asBuilt_sealMessage asBuilt_openMessage rt _ _ _).toSameMaps
        | send packet sendTo net =>
            exact (preserves_sendOverlayPacket asBuilt_sealMessage rt _ _ _).toSameMaps
        | probe sendTo clock =>
            exact (preserves_probePeerDirectPaths asBuilt_sealMessage rt _ _).toSameMaps
        | replace salts state => exact absurd rfl hrebuilds
        | reload salts state => exact absurd rfl hrebuilds
        | _ => exact ⟨rfl, rfl, rfl, fun _ => rfl⟩

/-- The maps agree with the list of peers: an overlay address leads to the device that
    owns it, and the session of a device was built for it. -/
structure Routed (X : Externals) (persisted : CustomBackendState) (rt : RuntimeState) : Prop where
  overlayIps : ∀ ip d, rt.peersByOverlayIp.lookup ip = some d →
    ∃ peer ∈ persisted.peers, peer.overlayIp = ip ∧ peer.deviceId = d
  sessions : ∀ d s, rt.peerTransportSessionsByDevice.lookup d = some s →
    ∃ peer ∈ persisted.peers, peer.deviceId = d ∧ BuiltFor X persisted peer s.crypto.asBuilt

theorem routed_fromPersisted (salts : Salts) (persisted : CustomBackendState) :
    Routed X persisted (RuntimeState.fromPersisted X salts persisted) where
  overlayIps := by
    intro ip d h
    obtain ⟨peer, hpeer, heq⟩ := List.mem_map.mp (HashMap.mem_of_lookup_ofPairs h)
    obtain ⟨hip, hd⟩ := Prod.mk.inj heq
    exact ⟨peer, hpeer, hip, hd⟩
  sessions := by
    intro d s hs
    obtain ⟨peer, hpeer, hd, hbuilt⟩ := fromPersisted_built hs
    exact ⟨peer, hpeer, hd, by rw [hbuilt.asBuilt]; exact hbuilt⟩

theorem Routed.sameMaps (h : Routed X persisted rt) (hkeep : SameMaps asBuilt rt rt') :
    Routed X persisted rt' where
  overlayIps := by
    intro ip d hlookup
    rw [hkeep.overlayIps] at hlookup
    exact h.overlayIps ip d hlookup
  sessions := by
    intro d s' hs'
    have hview := hkeep.sessions d
    rw [hs'] at hview
    obtain ⟨s, hs, hsame⟩ := Option.map_eq_some_iff.mp hview.symm
    obtain ⟨peer, hpeer, hd, hbuilt⟩ := h.sessions d s hs
    have hcrypto : s.crypto.asBuilt = s'.crypto.asBuilt := hsame
    exact ⟨peer, hpeer, hd, hcrypto ▸ hbuilt⟩

theorem routed_of_run {salts : Salts} {steps : List Traffic}
    (h : run (Traffic.step X) (RuntimeState.fromPersisted X salts persisted) steps = some rt) :
    Routed X persisted rt :=
  invariant_run (fun _ _ _ hinv hstep => hinv.sameMaps (sameMaps_traffic hstep))
    (routed_fromPersisted salts persisted) h

/-- The map of the frame ids stays as it was built. -/
theorem frameIds_of_run {salts : Salts} {traffic : List Traffic}
    (h : run (Traffic.step X) (RuntimeState.fromPersisted X salts persisted) traffic = some rt) :
    rt.peerDeviceByFrameId = (RuntimeState.fromPersisted X salts persisted).peerDeviceByFrameId := by
  have hkeep : ∀ s e t, s.peerDeviceByFrameId =
      (RuntimeState.fromPersisted X salts persisted).peerDeviceByFrameId →
      Traffic.step X s e = some t → t.peerDeviceByFrameId =
        (RuntimeState.fromPersisted X salts persisted).peerDeviceByFrameId :=
    fun s e t hs hstep => (sameMaps_traffic hstep).frameIds.trans hs
  exact invariant_run (s := RuntimeState.fromPersisted X salts persisted) (t := rt) hkeep rfl h

-- ============================================================================
-- One packet
-- ============================================================================

/-- The checks of `ipv4_destination`: the length, the version and the header length. -/
def ValidIpv4 (packet : Bytes) : Prop :=
  20 ≤ packet.length ∧ (packet.getD 0 0).toNat / 16 = 4 ∧ 20 ≤ 4 * ((packet.getD 0 0).toNat % 16) ∧
    4 * ((packet.getD 0 0).toNat % 16) ≤ packet.length

instance (packet : Bytes) : Decidable (ValidIpv4 packet) :=
  inferInstanceAs (Decidable (_ ∧ _))

/-- Bytes 16 to 19 of a packet. -/
def destinationBytes (packet : Bytes) : Ipv4Addr :=
  ⟨packet.getD 16 0, packet.getD 17 0, packet.getD 18 0, packet.getD 19 0⟩

theorem ipv4Destination_eq_ok {packet : Bytes} {destination : Ipv4Addr} :
    ipv4Destination packet = .ok destination ↔
      ValidIpv4 packet ∧ destination = destinationBytes packet := by
  unfold ipv4Destination ValidIpv4
  simp only
  split_ifs with hlength hversion hheader
  · refine ⟨fun h => (by cases h), fun h => absurd h.1.1 (by omega)⟩
  · refine ⟨fun h => (by cases h), fun h => absurd h.1.2.1 hversion⟩
  · refine ⟨fun h => (by cases h), fun h => ?_⟩
    have hheader' := h.1.2.2
    omega
  · refine ⟨fun h => ⟨⟨by omega, not_not.mp hversion, by omega, by omega⟩, (Except.ok.inj h).symm⟩, ?_⟩
    rintro ⟨-, rfl⟩
    rfl

/-- A packet that is refused before it has a session: nothing is sent, no nonce is
    used. -/
theorem sendOverlayPacket_refused (hrouted : Routed X persisted rt) {packet : Bytes}
    (h : ¬ ValidIpv4 packet ∨ ∀ peer ∈ persisted.peers, peer.overlayIp ≠ destinationBytes packet)
    (sendTo : SendTo) (net : RelayNet) :
    ∃ error, rt.sendOverlayPacket X sendTo net packet = (.error error, rt) := by
  unfold RuntimeState.sendOverlayPacket
  cases hdestination : ipv4Destination packet with
  | error error => exact ⟨error, rfl⟩
  | ok destination =>
      obtain ⟨hvalid, rfl⟩ := ipv4Destination_eq_ok.mp hdestination
      simp only
      cases hdevice : rt.peersByOverlayIp.lookup (destinationBytes packet) with
      | none => exact ⟨_, rfl⟩
      | some d =>
          obtain ⟨peer, hpeer, hip, -⟩ := hrouted.overlayIps _ d hdevice
          rcases h with hinvalid | hunowned
          · exact absurd hvalid hinvalid
          · exact absurd hip (hunowned peer hpeer)

/-- What `send_overlay_packet` has done when it succeeds. -/
theorem sendOverlayPacket_ok {sendTo : SendTo} {net : RelayNet} {packet : Bytes} {n : Nat}
    (h : rt.sendOverlayPacket X sendTo net packet = (.ok n, rt')) :
    ∃ deviceId session frame, ValidIpv4 packet ∧
      rt.peersByOverlayIp.lookup (destinationBytes packet) = some deviceId ∧
      rt.peerTransportSessionsByDevice.lookup deviceId = some session ∧
      (session.crypto.«seal» X packet).1 = .ok frame ∧
      ((rt.peerPathIsRelay deviceId = true ∧ ∃ relaySender,
          rt.relaySender.sendFrame net (.frame ((rt.persisted.localConfig.map (·.deviceId)).getD "")
            deviceId (X.base64Encode frame)) = (.ok n, relaySender) ∧
          rt' = (rt.setCrypto deviceId (session.crypto.«seal» X packet).2).withRelaySender relaySender) ∨
        (rt.peerPathIsRelay deviceId = false ∧ ∃ transport transport', rt.transport = some transport ∧
          transport.sendFrame sendTo session.endpoint frame = (.ok n, transport') ∧
          rt' = (rt.setCrypto deviceId (session.crypto.«seal» X packet).2).withTransport
            (some transport'))) := by
  unfold RuntimeState.sendOverlayPacket at h
  split at h
  · cases h
  rename_i destination hdestination
  obtain ⟨hvalid, rfl⟩ := ipv4Destination_eq_ok.mp hdestination
  split at h
  · cases h
  rename_i deviceId hdevice
  split at h
  · cases h
  rename_i session hsession
  simp only at h
  split at h
  · cases h
  rename_i frame hframe
  refine ⟨deviceId, session, frame, hvalid, hdevice, hsession, hframe, ?_⟩
  by_cases hrelay : rt.peerPathIsRelay deviceId = true
  · rw [if_pos hrelay] at h
    obtain ⟨hresult, rfl⟩ := Prod.mk.inj h
    exact Or.inl ⟨hrelay, _, Prod.ext hresult rfl, rfl⟩
  · rw [if_neg hrelay] at h
    split at h
    · cases h
    rename_i transport htransport
    obtain ⟨hresult, rfl⟩ := Prod.mk.inj h
    exact Or.inr ⟨Bool.eq_false_iff.mpr hrelay, transport, _, htransport, Prod.ext hresult rfl, rfl⟩

-- ============================================================================
-- What went out
-- ============================================================================

/-- The datagrams that the UDP socket sent. -/
def RuntimeState.udpSent (rt : RuntimeState) : List (SocketAddr × Bytes) :=
  match rt.transport with
  | some transport => transport.sent
  | none => []

/-- The frames that were written to the relay, after the line that registers. -/
def RelayFrameSender.frames : RelayFrameSender → List RelayMessage
  | null => []
  | tcp sender =>
      match sender.writer with
      | some stream => stream.lines.filter fun
          | .frame .. => true
          | _ => false
      | none => []

theorem transport_sendFrame_ok {t t' : TransportRuntime} {sendTo : SendTo} {endpoint : Endpoint}
    {frame : Bytes} {n : Nat} (h : t.sendFrame sendTo endpoint frame = (.ok n, t')) :
    ∃ addr, endpointSocketAddr endpoint = .ok addr ∧ t'.sent = t.sent ++ [(addr, frame)] := by
  unfold TransportRuntime.sendFrame at h
  split at h
  · cases h
  rename_i addr haddr
  split at h
  · obtain ⟨-, rfl⟩ := Prod.mk.inj h
    exact ⟨addr, haddr, rfl⟩
  · cases h

theorem transport_sendFrame_error {t t' : TransportRuntime} {sendTo : SendTo} {endpoint : Endpoint}
    {frame : Bytes} {error : BackendError} (h : t.sendFrame sendTo endpoint frame = (.error error, t')) :
    t'.sent = t.sent := by
  unfold TransportRuntime.sendFrame at h
  split at h
  · obtain ⟨-, rfl⟩ := Prod.mk.inj h
    rfl
  split at h
  · cases h
  · obtain ⟨-, rfl⟩ := Prod.mk.inj h
    rfl

/-- A datagram that the socket sent for a packet is the packet, sealed by the session of
    its destination, on the way to the endpoint of that session. -/
theorem sendOverlayPacket_udp {sendTo : SendTo} {net : RelayNet} {packet datagram : Bytes} {n : Nat}
    {addr : SocketAddr} (h : rt.sendOverlayPacket X sendTo net packet = (.ok n, rt'))
    (hudp : rt'.udpSent = rt.udpSent ++ [(addr, datagram)]) :
    ∃ deviceId session, rt.peersByOverlayIp.lookup (destinationBytes packet) = some deviceId ∧
      rt.peerTransportSessionsByDevice.lookup deviceId = some session ∧
      (session.crypto.«seal» X packet).1 = .ok datagram ∧
      endpointSocketAddr session.endpoint = .ok addr := by
  obtain ⟨deviceId, session, frame, -, hdevice, hsession, hframe, hout⟩ := sendOverlayPacket_ok h
  refine ⟨deviceId, session, hdevice, hsession, ?_⟩
  rcases hout with ⟨-, relaySender, -, rfl⟩ | ⟨-, transport, transport', htransport, hsend, rfl⟩
  · -- the relay took it, and the socket sent nothing
    have hnone : rt.udpSent = rt.udpSent ++ [(addr, datagram)] := hudp
    have hlength := congrArg List.length hnone
    rw [List.length_append, List.length_singleton] at hlength
    omega
  · obtain ⟨addr', haddr, hsent⟩ := transport_sendFrame_ok hsend
    have hbefore : rt.udpSent = transport.sent := by rw [RuntimeState.udpSent, htransport]
    have hafter : transport'.sent = rt.udpSent ++ [(addr, datagram)] := hudp
    rw [hsent, hbefore] at hafter
    have hlast := List.append_cancel_left hafter
    obtain ⟨rfl, rfl⟩ := Prod.mk.inj (List.head_eq_of_cons_eq hlast)
    exact ⟨hframe, haddr⟩

theorem tcp_sendFrame_ok {s s' : TcpRelayFrameSender} {net : RelayNet} {source destination payload : String}
    {n : Nat} (h : s.sendFrame net (.frame source destination payload) = (.ok n, s')) :
    (RelayFrameSender.tcp s').frames =
      (RelayFrameSender.tcp s).frames ++ [.frame source destination payload] := by
  have hsends := s.sends_sendFrame net (.frame source destination payload)
  rw [h] at hsends
  cases hsends with
  | wrote hstream _ =>
      rcases hstream with hwriter | ⟨hwriter, -, rfl⟩
      · simp only [RelayFrameSender.frames, hwriter, List.filter_append]
        rfl
      · -- the Register line of a new connection is no frame
        simp only [RelayFrameSender.frames, hwriter]
        rfl

/-- A frame that the relay sender took was written after the frames before it. -/
theorem relay_sendFrame_ok {s s' : RelayFrameSender} {net : RelayNet}
    {source destination payload : String} {n : Nat}
    (h : s.sendFrame net (.frame source destination payload) = (.ok n, s')) :
    s'.frames = s.frames ++ [.frame source destination payload] := by
  cases s with
  | null => cases h
  | tcp sender =>
      obtain ⟨hresult, rfl⟩ := Prod.mk.inj h
      exact tcp_sendFrame_ok (Prod.ext hresult rfl)

/-- The frame of a packet for a peer: addressed to the frame id of the peer, and the
    packet sealed under a session that was built from that peer's credential. -/
def SealedFor (X : Externals) (persisted : CustomBackendState) (peer : StoredPeerSession)
    (packet frame : Bytes) : Prop :=
  ∃ crypto peerId header ciphertext, BuiltFor X persisted peer crypto ∧
    fromDeviceId X.uuidParse peer.deviceId = .ok peerId ∧
    EncodedFrame.decode frame = .ok ⟨header, ciphertext⟩ ∧
    header.destination = peerId ∧ header.messageType = frameTypeData ∧
    X.aeadEncrypt crypto.cipher header.nonce header.bytes packet = some ciphertext

theorem BuiltFor.peerId {peer : StoredPeerSession} {crypto : PeerCryptoSession}
    (h : BuiltFor X persisted peer crypto) :
    fromDeviceId X.uuidParse peer.deviceId = .ok crypto.peerId := by
  obtain ⟨_, _, _, _, _, _, -, -, -, -, hid, hnew⟩ := h
  obtain ⟨_, _, -, -, rfl⟩ := new_eq_ok.mp hnew
  exact hid

theorem BuiltFor.localId {peer : StoredPeerSession} {crypto : PeerCryptoSession}
    (h : BuiltFor X persisted peer crypto) :
    ∃ config, persisted.localConfig = some config ∧
      fromDeviceId X.uuidParse config.deviceId = .ok crypto.localId := by
  obtain ⟨_, config, _, _, _, _, -, hconfig, hid, -, -, hnew⟩ := h
  obtain ⟨_, _, -, -, rfl⟩ := new_eq_ok.mp hnew
  exact ⟨config, hconfig, hid⟩

/-- What a session in use seals, it seals as the session that was built for the peer. -/
theorem sealedFor_of_seal {peer : StoredPeerSession} {crypto : PeerCryptoSession} {packet frame : Bytes}
    (hbuilt : BuiltFor X persisted peer crypto.asBuilt) (h : (crypto.«seal» X packet).1 = .ok frame) :
    SealedFor X persisted peer packet frame := by
  obtain ⟨nonce, ciphertext, -, htype, hencrypt, rfl⟩ := sealMessage_eq_ok.mp h
  have hvalid : (FrameHeader.new crypto.localId crypto.peerId nonce frameTypeData).Valid :=
    FrameHeader.new_valid htype
  have hencode : EncodedFrame.encode ⟨FrameHeader.new crypto.localId crypto.peerId nonce frameTypeData,
      ciphertext⟩ = .ok _ := EncodedFrame.encode_eq_ok.mpr ⟨hvalid, rfl⟩
  exact ⟨crypto.asBuilt, crypto.peerId, _, ciphertext, hbuilt, hbuilt.peerId,
    EncodedFrame.decode_encode hencode, rfl, rfl, hencrypt⟩

/-- Where the frame of a packet for a device goes: to the relay under the id of the
    device when the path is the relay, else to the endpoint of the session. -/
def EmittedTo (X : Externals) (rt rt' : RuntimeState) (deviceId : String) (frame : Bytes) : Prop :=
  if rt.peerPathIsRelay deviceId then
    rt'.udpSent = rt.udpSent ∧ rt'.relaySender.frames = rt.relaySender.frames ++
      [.frame ((rt.persisted.localConfig.map (·.deviceId)).getD "") deviceId (X.base64Encode frame)]
  else
    rt'.relaySender.frames = rt.relaySender.frames ∧ ∃ endpoint addr,
      rt.sessionEndpoint deviceId = some endpoint ∧ endpointSocketAddr endpoint = .ok addr ∧
      rt'.udpSent = rt.udpSent ++ [(addr, frame)]

-- ============================================================================
-- No misrouted packet
-- ============================================================================

/-- Between two rebuilds, a packet that is sent is sent once, to the peer that owns its
    destination, sealed for that peer; a packet that is no IPv4 packet, or that nobody
    owns, leaves the runtime as it is. -/
theorem no_misrouted_packet (X : Externals) (salts : Salts) (persisted : CustomBackendState)
    (hdevices : (persisted.peers.map (·.deviceId)).Nodup)
    (hips : (persisted.peers.map (·.overlayIp)).Nodup) (traffic : List Traffic) (rt : RuntimeState)
    (hrun : run (Traffic.step X) (RuntimeState.fromPersisted X salts persisted) traffic = some rt)
    (sendTo : SendTo) (net : RelayNet) (packet : Bytes) :
    (∀ n rt', rt.sendOverlayPacket X sendTo net packet = (.ok n, rt') →
      ∃ peer frame, ValidIpv4 packet ∧ peer ∈ persisted.peers ∧
        peer.overlayIp = destinationBytes packet ∧
        (∀ peer' ∈ persisted.peers, peer'.overlayIp = destinationBytes packet → peer' = peer) ∧
        SealedFor X persisted peer packet frame ∧ EmittedTo X rt rt' peer.deviceId frame) ∧
    (¬ ValidIpv4 packet ∨ (∀ peer ∈ persisted.peers, peer.overlayIp ≠ destinationBytes packet) →
      ∃ error, rt.sendOverlayPacket X sendTo net packet = (.error error, rt)) := by
  have hrouted : Routed X persisted rt := routed_of_run hrun
  refine ⟨fun n rt' h => ?_, fun h => sendOverlayPacket_refused hrouted h sendTo net⟩
  obtain ⟨deviceId, session, frame, hvalid, hdevice, hsession, hframe, hout⟩ := sendOverlayPacket_ok h
  obtain ⟨peer, hpeer, hip, rfl⟩ := hrouted.overlayIps _ deviceId hdevice
  obtain ⟨owner, howner, hsame, hbuilt⟩ := hrouted.sessions _ session hsession
  obtain rfl : owner = peer := List.inj_on_of_nodup_map hdevices howner hpeer hsame
  refine ⟨owner, frame, hvalid, hpeer, hip, fun other hother hotherIp => ?_,
    sealedFor_of_seal hbuilt hframe, ?_⟩
  · exact List.inj_on_of_nodup_map hips hother hpeer (hotherIp.trans hip.symm)
  · rcases hout with ⟨hrelay, relaySender, hsend, rfl⟩ | ⟨hdirect, transport, transport', htransport, hsend, rfl⟩
    · rw [EmittedTo, if_pos hrelay]
      exact ⟨rfl, relay_sendFrame_ok hsend⟩
    · obtain ⟨addr, haddr, hsent⟩ := transport_sendFrame_ok hsend
      rw [EmittedTo, if_neg (Bool.eq_false_iff.mp hdirect)]
      refine ⟨rfl, session.endpoint, addr, ?_, haddr, ?_⟩
      · rw [RuntimeState.sessionEndpoint, hsession, Option.map_some]
      · show transport'.sent = rt.udpSent ++ [(addr, frame)]
        rw [hsent, RuntimeState.udpSent, htransport]

namespace Reference

/-- Two peers, at 100.64.0.3 and at 100.64.0.4. -/
def twoPeers : CustomBackendState :=
  { pairedState with
    peers := pairedState.peers ++ [⟨"dev_00000000000000000000000000000003", "c", ⟨100, 64, 0, 4⟩,
      credential 3, [⟨.lan, .v4 ⟨192, 168, 1, 40⟩, 51820, .udp⟩], ["100.64.0.4/32"], 0⟩] }

/-- An IPv4 header for 100.64.0.4. -/
def packetToC : Bytes := [69, 0, 0, 20, 0, 0, 0, 0, 64, 17, 0, 0, 100, 64, 0, 2, 100, 64, 0, 4]

/-- A relay that takes every connection and every line. -/
def net : RelayNet := ⟨fun _ => .ok (), fun _ _ => .ok ()⟩

def boundToTwo : RuntimeState :=
  bindSocket.effect Externals.reference
    (RuntimeState.fromPersisted Externals.reference env.salts twoPeers)

end Reference

open Reference in
/-- With two peers and a bound socket, a packet for the second of them goes to it. -/
theorem no_misrouted_packet_two_peers :
    (boundToTwo.sendOverlayPacket Externals.reference env.sendTo net packetToC).1 = .ok 96 ∧
      ∃ peer frame, ValidIpv4 packetToC ∧ peer ∈ twoPeers.peers ∧
        peer.overlayIp = destinationBytes packetToC ∧
        (∀ peer' ∈ twoPeers.peers, peer'.overlayIp = destinationBytes packetToC → peer' = peer) ∧
        SealedFor Externals.reference twoPeers peer packetToC frame ∧
        EmittedTo Externals.reference boundToTwo
          (boundToTwo.sendOverlayPacket Externals.reference env.sendTo net packetToC).2
          peer.deviceId frame := by
  have hsent : (boundToTwo.sendOverlayPacket Externals.reference env.sendTo net packetToC).1 =
      .ok 96 := by decide +kernel
  have hrouting := no_misrouted_packet Externals.reference env.salts twoPeers (by decide) (by decide)
    [.lock bindSocket] boundToTwo rfl env.sendTo net packetToC
  exact ⟨hsent, hrouting.1 96 _ (Prod.ext hsent rfl)⟩

end TfScale.Custom
