/-
  TfScale.Custom.Tunnel

  From one TUN device to the other: the rounds of `spawn_tun_to_udp_loop` and
  `spawn_udp_to_tun_loop`, on two machines that list each other.

  Both loops have a buffer of 1500 bytes.  A frame is 76 bytes longer than the packet
  in it (60 of header, 16 of tag), so a packet that fills the first buffer gives a
  datagram that does not fit into the second; `recv_from` cuts it, and what is left is
  not the packet.  `tunnel_delivers_iff` has the exact bound.
-/

import TfScale.Custom.Channel
import TfScale.Custom.Routing

namespace TfScale.Custom

open PeerCryptoSession

variable {X : Externals} {rt rt' : RuntimeState}

-- ============================================================================
-- The loops
-- ============================================================================

/-- `vec![0u8; 1500]`, in both loops -/
def packetBufferLen : Nat := 1500

/-- The answer of the TUN device to `recv`. -/
inductive TunRecv where
  | packet (bytes : Bytes)
  | wouldBlock
  | failed (message : String)

namespace RuntimeState

/-- `try_read_tun_packet` into a buffer of `bufferLen` bytes, as the bytes that were
    read. -/
def tryReadTunPacket (rt : RuntimeState) (bufferLen : Nat) (recv : TunRecv) : Result (Option Bytes) :=
  match rt.tunDevice with
  | none => .ok none
  | some _ =>
      match recv with
      | .packet bytes => .ok (some (bytes.take bufferLen))
      | .wouldBlock => .ok none
      | .failed message => commandFailed message

/-- `write_tun_packet`, with what the device was given; `send` is its answer. -/
def writeTunPacket (rt : RuntimeState) (send : Bytes → Except String Nat) (packet : Bytes) :
    Result Nat × List Bytes :=
  match rt.tunDevice with
  | none => (commandFailed "TUN device is not configured", [])
  | some _ =>
      match send packet with
      | .ok bytes => (.ok bytes, [packet])
      | .error message => (commandFailed message, [packet])

/-- A round of `spawn_tun_to_udp_loop`: the result of the send, if a packet was read.
    The lock is free between the read and the send; `others` is what happens then. -/
def tunToUdpRound (X : Externals) (sendTo : SendTo) (net : RelayNet)
    (others : RuntimeState → RuntimeState) (recv : TunRecv) (rt : RuntimeState) :
    Option (Result Nat) × RuntimeState :=
  match rt.tryReadTunPacket packetBufferLen recv with
  | .error _ => (none, rt.recordRxDrop)
  | .ok none => (none, rt)
  | .ok (some packet) =>
      match (others rt).sendOverlayPacket X sendTo net packet with
      | (result, rt) => (some result, rt)

/-- A round of `spawn_udp_to_tun_loop`: what the TUN device was given.  The lock is
    free between the receipt and the write. -/
def udpToTunRound (X : Externals) (sendTo : SendTo) (clock : Nat → SystemTime)
    (others : RuntimeState → RuntimeState) (tunSend : Bytes → Except String Nat) (received : Received)
    (rt : RuntimeState) : List Bytes × RuntimeState :=
  match rt.receiveOverlayPacket X sendTo clock packetBufferLen received with
  | (.error _, rt) => ([], rt.recordRxDrop)
  | (.ok none, rt) => ([], rt)
  | (.ok (some packet), rt) =>
      match (others rt).writeTunPacket tunSend packet with
      | (.ok _, given) => (given, others rt)
      | (.error _, given) => (given, (others rt).recordRxDrop)

end RuntimeState

theorem writeTunPacket_given (h : rt.tunDevice.isSome = true) (send : Bytes → Except String Nat)
    (packet : Bytes) : (rt.writeTunPacket send packet).2 = [packet] := by
  obtain ⟨device, hdevice⟩ := Option.isSome_iff_exists.mp h
  rw [RuntimeState.writeTunPacket, hdevice]
  simp only
  split
  · rfl
  · rfl

/-- The device is given the packet that came out of the frame, and nothing else. -/
theorem udpToTunRound_eq_singleton {sendTo : SendTo} {clock : Nat → SystemTime}
    {others : RuntimeState → RuntimeState} {tunSend : Bytes → Except String Nat} {received : Received}
    {packet : Bytes} (hdevice : (others (rt.receiveOverlayPacket X sendTo clock packetBufferLen
      received).2).tunDevice.isSome = true) :
    (rt.udpToTunRound X sendTo clock others tunSend received).1 = [packet] ↔
      (rt.receiveOverlayPacket X sendTo clock packetBufferLen received).1 = .ok (some packet) := by
  unfold RuntimeState.udpToTunRound
  rcases hreceive : rt.receiveOverlayPacket X sendTo clock packetBufferLen received with ⟨error | _ | p, rt'⟩
  · simp
  · simp
  · rw [hreceive] at hdevice
    have hgiven := writeTunPacket_given hdevice tunSend p
    rcases hwrite : (others rt').writeTunPacket tunSend p with ⟨_ | _, given⟩
    · rw [hwrite] at hgiven
      obtain rfl : given = [p] := hgiven
      simp [hwrite]
    · rw [hwrite] at hgiven
      obtain rfl : given = [p] := hgiven
      simp [hwrite]

-- ============================================================================
-- Lengths
-- ============================================================================

/-- The cipher text is the message and a tag of 16 bytes. -/
structure Externals.Tagged (X : Externals) : Prop where
  encrypt_length : ∀ key nonce aad msg ciphertext,
    X.aeadEncrypt key nonce aad msg = some ciphertext → ciphertext.length = msg.length + 16
  decrypt_length : ∀ key nonce aad msg ciphertext,
    X.aeadDecrypt key nonce aad ciphertext = some msg → ciphertext.length = msg.length + 16

theorem seal_length (htag : X.Tagged) {crypto : PeerCryptoSession} {packet frame : Bytes}
    (h : (crypto.«seal» X packet).1 = .ok frame) : frame.length = packet.length + 76 := by
  obtain ⟨nonce, ciphertext, -, -, hencrypt, rfl⟩ := sealMessage_eq_ok.mp h
  have hlength := htag.encrypt_length _ _ _ _ _ hencrypt
  rw [List.length_append, FrameHeader.bytes_length, hlength]
  simp only [headerLen]
  omega

/-- A sealed frame names the frame id of the session that sealed it. -/
theorem source_of_seal {crypto : PeerCryptoSession} {packet frame : Bytes} {decoded : EncodedFrame}
    (hseal : (crypto.«seal» X packet).1 = .ok frame) (hdecode : EncodedFrame.decode frame = .ok decoded) :
    decoded.header.source = crypto.localId := by
  obtain ⟨nonce, ciphertext, -, htype, -, rfl⟩ := sealMessage_eq_ok.mp hseal
  have hvalid : (FrameHeader.new crypto.localId crypto.peerId nonce frameTypeData).Valid :=
    FrameHeader.new_valid htype
  have hencoded := EncodedFrame.decode_encode (EncodedFrame.encode_eq_ok.mpr ⟨hvalid, rfl⟩ :
    EncodedFrame.encode ⟨FrameHeader.new crypto.localId crypto.peerId nonce frameTypeData,
      ciphertext⟩ = .ok _)
  obtain rfl := Except.ok.inj (hencoded.symm.trans hdecode)
  rfl

theorem decode_ciphertext {frame : Bytes} {decoded : EncodedFrame}
    (h : EncodedFrame.decode frame = .ok decoded) :
    decoded.ciphertext.length = frame.length - headerLen := by
  obtain ⟨header, -, heq⟩ := Result.bind_eq_ok.mp h
  obtain rfl := Except.ok.inj heq
  exact List.length_drop

-- ============================================================================
-- One datagram
-- ============================================================================

theorem answerProbe_ne_packet (rt : RuntimeState) (sendTo : SendTo) (clock : Nat → SystemTime)
    (deviceId : String) (plaintext : Bytes) (source : SocketAddr) (packet : Bytes) :
    (rt.answerProbe X sendTo clock deviceId plaintext source).1 ≠ .ok (some packet) := by
  unfold RuntimeState.answerProbe
  split
  · exact fun h => (by cases h)
  simp only
  split
  · exact fun h => (by cases h)
  split
  · exact fun h => (by cases h)
  split
  · exact fun h => (by cases h)
  · exact fun h => (by cases h)

/-- A packet comes out of a data frame, and out of nothing else. -/
theorem dispatchStage_packet_iff (rt : RuntimeState) (sendTo : SendTo) (clock : Nat → SystemTime)
    (source : Option SocketAddr) (deviceId : String) (opened : OpenFrame) (packet : Bytes) :
    (rt.dispatchStage X sendTo clock source deviceId opened).1 = .ok (some packet) ↔
      opened = ⟨frameTypeData, packet⟩ := by
  obtain ⟨messageType, plaintext⟩ := opened
  unfold RuntimeState.dispatchStage
  simp only [OpenFrame.mk.injEq]
  split_ifs with hdata hprobe hresponse
  · simp [hdata]
  · refine ⟨fun h => ?_, fun h => absurd h.1 hdata⟩
    split at h
    · cases h
    · exact absurd h (answerProbe_ne_packet rt sendTo clock deviceId plaintext _ packet)
  · refine ⟨fun h => ?_, fun h => absurd h.1 hdata⟩
    split at h
    · cases h
    · cases h
  · refine ⟨fun h => (by cases h), fun h => absurd h.1 hdata⟩

theorem openReceivedFrame_packet_iff (rt : RuntimeState) (sendTo : SendTo) (clock : Nat → SystemTime)
    (frame : Bytes) (source : Option SocketAddr) (packet : Bytes) :
    (rt.openReceivedFrame X sendTo clock frame source).1 = .ok (some packet) ↔
      ∃ deviceId, rt.Authentic X frame deviceId ⟨frameTypeData, packet⟩ := by
  cases hopen : (rt.openStage X frame).1 with
  | error e =>
      rw [openReceivedFrame_of_refused hopen]
      refine ⟨fun h => (by cases h), fun ⟨deviceId, hauthentic⟩ => ?_⟩
      cases hopen.symm.trans (openStage_ok_iff.mpr hauthentic)
  | ok r =>
      obtain ⟨deviceId, opened⟩ := r
      rw [openReceivedFrame_of_ok hopen, dispatchStage_packet_iff]
      refine ⟨fun h => ⟨deviceId, openStage_ok_iff.mp (h ▸ hopen)⟩, fun ⟨deviceId', hauthentic⟩ => ?_⟩
      have hsame := Except.ok.inj (hopen.symm.trans (openStage_ok_iff.mpr hauthentic))
      exact (Prod.mk.inj hsame).2

/-- A datagram that arrives is cut to the buffer and opened. -/
theorem receiveOverlayPacket_packet_iff {transport : TransportRuntime} (h : rt.transport = some transport)
    (sendTo : SendTo) (clock : Nat → SystemTime) (bufferLen : Nat) (bytes : Bytes) (source : SocketAddr)
    (packet : Bytes) :
    (rt.receiveOverlayPacket X sendTo clock bufferLen (.datagram bytes source)).1 = .ok (some packet) ↔
      ∃ deviceId, rt.Authentic X (bytes.take bufferLen) deviceId ⟨frameTypeData, packet⟩ := by
  simp only [RuntimeState.receiveOverlayPacket, h, TransportRuntime.receiveFrame]
  rw [openReceivedFrame_packet_iff]
  rfl

/-- The receive window of the session takes the frame: it is no replay. -/
def PeerCryptoSession.InWindow (s : PeerCryptoSession) (frame : Bytes) : Prop :=
  ∃ decoded, EncodedFrame.decode frame = .ok decoded ∧
    (s.receiveWindow.accept decoded.header.nonce).1 = .ok ()

/-- There is a session for the device, and its receive window takes the frame. -/
def RuntimeState.Takes (rt : RuntimeState) (deviceId : String) (frame : Bytes) : Prop :=
  ∃ session, rt.peerTransportSessionsByDevice.lookup deviceId = some session ∧
    session.crypto.InWindow frame

/-- A sealed frame, cut to a buffer, is opened as its packet exactly when it fits, there
    is a session for the sender, and the frame is in its window. -/
theorem authentic_take_iff (hX : X.Lawful) (htag : X.Tagged) {A : PeerCryptoSession} {deviceId : String}
    (hmatched : ∀ session, rt.peerTransportSessionsByDevice.lookup deviceId = some session →
      Matched A session.crypto)
    (hframes : rt.peerDeviceByFrameId.lookup A.localId = some deviceId) {packet frame : Bytes}
    (hseal : (A.«seal» X packet).1 = .ok frame) (bufferLen : Nat) :
    (∃ d, rt.Authentic X (frame.take bufferLen) d ⟨frameTypeData, packet⟩) ↔
      packet.length + 76 ≤ bufferLen ∧ rt.Takes deviceId frame := by
  have hlength := seal_length htag hseal
  constructor
  · rintro ⟨d, decoded, session, ad, hdecode, hd, hsession, -, -, -, -, hdecrypt, haccept, -⟩
    have hcut := decode_ciphertext hdecode
    rw [htag.decrypt_length _ _ _ _ _ hdecrypt, List.length_take] at hcut
    simp only [headerLen] at hcut
    have hfits : packet.length + 76 ≤ bufferLen := by omega
    rw [List.take_of_length_le (by omega)] at hdecode
    -- the header names the sender
    rw [source_of_seal hseal hdecode, hframes] at hd
    obtain rfl := Option.some.inj hd
    exact ⟨hfits, session, hsession, decoded, hdecode, haccept⟩
  · rintro ⟨hfits, session, hsession, decoded, hdecode', haccept⟩
    obtain ⟨-, encoded, hauthentic, htype⟩ := (hmatched session hsession).authenticate_sealed hX hseal
    obtain ⟨hdecode, hsource, hdestination, hdirection, ad, had, hdecrypt⟩ := authenticate_iff.mp hauthentic
    obtain rfl := Except.ok.inj (hdecode.symm.trans hdecode')
    rw [List.take_of_length_le (by omega)]
    refine ⟨deviceId, encoded, session, ad, hdecode, ?_, hsession, hsource, hdestination, hdirection,
      had, hdecrypt, haccept, htype.symm⟩
    rw [source_of_seal hseal hdecode]
    exact hframes

-- ============================================================================
-- Two machines
-- ============================================================================

variable {a b : CustomBackendState} {peerA peerB : StoredPeerSession}

/-- The backend with state `a` lists the one with state `b`: as `peer`, under its own
    device id and with its own credential. -/
structure Lists (X : Externals) (a : CustomBackendState) (peer : StoredPeerSession)
    (b : CustomBackendState) : Prop where
  listed : peer ∈ a.peers
  devices : (a.peers.map (·.deviceId)).Nodup
  device : ∀ config, b.localConfig = some config → peer.deviceId = config.deviceId
  credential : ∀ identity key, b.identity = some identity → decodeKey X identity.privateKey = .ok key →
    identity.publicKey = encodePublicCredential X (X.x25519Public key) ∧ peer.publicKey = identity.publicKey

/-- The sessions that two backends build for each other are matched. -/
theorem matched_of_lists (hX : X.Lawful) (hab : Lists X a peerB b) (hba : Lists X b peerA a)
    {A B : PeerCryptoSession} (hA : BuiltFor X a peerB A) (hB : BuiltFor X b peerA B) : Matched A B := by
  obtain ⟨identityA, configA, idA, privA, idB', randomA, hidentityA, hconfigA, hidA, hprivA, hidB', hnewA⟩ := hA
  obtain ⟨identityB, configB, idB, privB, idA', randomB, hidentityB, hconfigB, hidB, hprivB, hidA', hnewB⟩ := hB
  obtain ⟨hcredA, hpeerA⟩ := hba.credential identityA privA hidentityA hprivA
  obtain ⟨hcredB, hpeerB⟩ := hab.credential identityB privB hidentityB hprivB
  rw [hab.device configB hconfigB, hidB] at hidB'
  rw [hba.device configA hconfigA, hidA] at hidA'
  obtain rfl := Except.ok.inj hidA'
  obtain rfl := Except.ok.inj hidB'
  rw [hpeerB, hcredA, hcredB] at hnewA
  rw [hpeerA, hcredA, hcredB] at hnewB
  exact new_matched hX hnewA hnewB

theorem matched_of_asBuilt {A B : PeerCryptoSession} (h : Matched A.asBuilt B.asBuilt) : Matched A B :=
  ⟨h.cipher, h.localId, h.peerId, h.directionPrefix⟩

/-- The frame ids of the peers. -/
def CustomBackendState.frameIds (X : Externals) (persisted : CustomBackendState) : List FrameDeviceId :=
  persisted.peers.filterMap fun peer => (fromDeviceId X.uuidParse peer.deviceId).toOption

/-- A frame id leads to the peer that has it. -/
theorem frameDevice_of_listed {salts : Salts} {peer : StoredPeerSession} {frameId : FrameDeviceId}
    (hpeer : peer ∈ b.peers) (hid : fromDeviceId X.uuidParse peer.deviceId = .ok frameId)
    (hframes : (b.frameIds X).Nodup) :
    (RuntimeState.fromPersisted X salts b).peerDeviceByFrameId.lookup frameId = some peer.deviceId := by
  apply HashMap.lookup_ofPairs_of_mem
  · rw [List.map_filterMap]
    refine (congrArg List.Nodup ?_).mp hframes
    rw [CustomBackendState.frameIds]
    congr 1
    funext peer
    cases fromDeviceId X.uuidParse peer.deviceId with
    | error e => rfl
    | ok id => rfl
  · exact List.mem_filterMap.mpr ⟨peer, hpeer, by rw [hid]; rfl⟩

/-- Whatever session a backend has for the peer that lists it is matched. -/
theorem matched_session (hX : X.Lawful) (hab : Lists X a peerB b) (hba : Lists X b peerA a)
    {A : PeerCryptoSession} (hA : BuiltFor X a peerB A.asBuilt) (hrouted : Routed X b rt)
    {session : PeerTransportSession}
    (hsession : rt.peerTransportSessionsByDevice.lookup peerA.deviceId = some session) :
    Matched A session.crypto := by
  obtain ⟨owner, howner, hsame, hB⟩ := hrouted.sessions _ session hsession
  obtain rfl : owner = peerA := List.inj_on_of_nodup_map hba.devices howner hba.listed hsame
  exact matched_of_asBuilt (matched_of_lists hX hab hba hA hB)

/-- The frame id of a session leads to the device that the session is built on, whether
    or not there is a session for it. -/
theorem frameDevice_of_run {salts : Salts} {traffic : List Traffic}
    (hrun : run (Traffic.step X) (RuntimeState.fromPersisted X salts b) traffic = some rt)
    (hba : Lists X b peerA a) {A : PeerCryptoSession} (hA : BuiltFor X a peerB A.asBuilt)
    (hframes : (b.frameIds X).Nodup) :
    rt.peerDeviceByFrameId.lookup A.localId = some peerA.deviceId := by
  obtain ⟨config, hconfig, hid⟩ := hA.localId
  rw [frameIds_of_run hrun]
  refine frameDevice_of_listed hba.listed ?_ hframes
  rw [hba.device config hconfig]
  exact hid

theorem tunToUdpRound_sent {sendTo : SendTo} {net : RelayNet} {others : RuntimeState → RuntimeState}
    {packet : Bytes} {n : Nat} (hlength : packet.length ≤ packetBufferLen)
    (h : rt.tunToUdpRound X sendTo net others (.packet packet) = (some (.ok n), rt')) :
    (others rt).sendOverlayPacket X sendTo net packet = (.ok n, rt') := by
  unfold RuntimeState.tunToUdpRound RuntimeState.tryReadTunPacket at h
  cases hdevice : rt.tunDevice with
  | none =>
      rw [hdevice] at h
      cases h
  | some device =>
      rw [hdevice] at h
      simp only [List.take_of_length_le hlength] at h
      obtain ⟨hresult, hstate⟩ := Prod.mk.inj h
      exact Prod.ext (Option.some.inj hresult) hstate

/-- What a datagram that was sent for a packet is: the packet, sealed by the session of
    the peer that owns the destination. -/
theorem datagram_of_sent {salts : Salts} {traffic : List Traffic}
    (hrun : run (Traffic.step X) (RuntimeState.fromPersisted X salts a) traffic = some rt)
    (hdevices : (a.peers.map (·.deviceId)).Nodup) (hips : (a.peers.map (·.overlayIp)).Nodup)
    (hpeer : peerB ∈ a.peers) {sendTo : SendTo} {net : RelayNet} {packet datagram : Bytes} {n : Nat}
    {addr : SocketAddr} (howns : peerB.overlayIp = destinationBytes packet)
    (hsend : rt.sendOverlayPacket X sendTo net packet = (.ok n, rt'))
    (hudp : rt'.udpSent = rt.udpSent ++ [(addr, datagram)]) :
    ∃ crypto : PeerCryptoSession, BuiltFor X a peerB crypto.asBuilt ∧
      (crypto.«seal» X packet).1 = .ok datagram := by
  have hrouted : Routed X a rt := routed_of_run hrun
  obtain ⟨deviceId, session, hdevice, hsession, hframe, -⟩ := sendOverlayPacket_udp hsend hudp
  obtain ⟨owner, howner, hip, rfl⟩ := hrouted.overlayIps _ deviceId hdevice
  obtain rfl : owner = peerB := List.inj_on_of_nodup_map hips howner hpeer (hip.trans howns.symm)
  obtain ⟨other, hother, hsame, hbuilt⟩ := hrouted.sessions _ session hsession
  obtain rfl : other = owner := List.inj_on_of_nodup_map hdevices hother howner hsame
  exact ⟨session.crypto, hbuilt, hframe⟩

/-- **Through the tunnel.**  Two backends that list each other, each in any state of
    its own traffic; a packet that the one read from its TUN device and sent to the
    other over UDP.  When the datagram arrives as it was sent, the other gives its TUN
    device exactly that packet if and only if the packet is at most 1424 bytes long, the
    other has a session for the sender, and the frame is no replay in it. -/
theorem tunnel_delivers_iff (X : Externals) (hX : X.Lawful) (htag : X.Tagged)
    (a b : CustomBackendState) (peerA peerB : StoredPeerSession) (hab : Lists X a peerB b)
    (hba : Lists X b peerA a) (hips : (a.peers.map (·.overlayIp)).Nodup) (hframes : (b.frameIds X).Nodup)
    (saltsA saltsB : Salts) (trafficA trafficB : List Traffic) (rtRead rtB rtA' : RuntimeState)
    (othersA othersB : RuntimeState → RuntimeState)
    (hrunA : run (Traffic.step X) (RuntimeState.fromPersisted X saltsA a) trafficA = some (othersA rtRead))
    (hrunB : run (Traffic.step X) (RuntimeState.fromPersisted X saltsB b) trafficB = some rtB)
    (hbound : rtB.transport.isSome = true) (sendTo sendTo' : SendTo) (net : RelayNet) (clock : Nat → SystemTime)
    (tunSend : Bytes → Except String Nat) (packet datagram : Bytes) (n : Nat) (addr source : SocketAddr)
    (hread : packet.length ≤ packetBufferLen) (howns : peerB.overlayIp = destinationBytes packet)
    (hsend : rtRead.tunToUdpRound X sendTo net othersA (.packet packet) = (some (.ok n), rtA'))
    (hudp : rtA'.udpSent = (othersA rtRead).udpSent ++ [(addr, datagram)])
    (hdevice : (othersB (rtB.receiveOverlayPacket X sendTo' clock packetBufferLen
      (.datagram datagram source)).2).tunDevice.isSome = true) :
    (rtB.udpToTunRound X sendTo' clock othersB tunSend (.datagram datagram source)).1 = [packet] ↔
      packet.length ≤ 1424 ∧ rtB.Takes peerA.deviceId datagram := by
  obtain ⟨A, hbuiltA, hseal⟩ := datagram_of_sent hrunA hab.devices hips hab.listed howns
    (tunToUdpRound_sent hread hsend) hudp
  obtain ⟨transport, htransport⟩ := Option.isSome_iff_exists.mp hbound
  rw [udpToTunRound_eq_singleton hdevice, receiveOverlayPacket_packet_iff htransport,
    authentic_take_iff hX htag
      (fun session hsession => matched_session hX hab hba hbuiltA (routed_of_run hrunB) hsession)
      (frameDevice_of_run hrunB hba hbuiltA hframes) hseal]
  have hbound : packet.length + 76 ≤ packetBufferLen ↔ packet.length ≤ 1424 := by
    simp only [packetBufferLen]
    omega
  rw [hbound]

theorem Externals.reference_tagged : Externals.reference.Tagged where
  encrypt_length := by
    intro key nonce aad msg ciphertext h
    obtain rfl : msg ++ Reference.tag key nonce aad msg = ciphertext := Option.some.inj h
    rw [List.length_append, Reference.tag, toBe_length]
  decrypt_length := by
    intro key nonce aad msg ciphertext h
    simp only [reference, Reference.aeadDecrypt] at h
    split at h
    · rename_i heq
      obtain rfl := Option.some.inj h
      have hlength := congrArg List.length heq
      rw [List.length_append, Reference.tag, toBe_length] at hlength
      exact hlength
    · cases h

namespace Reference

/-- The stored state of the peer of `pairedState`, which lists it in turn. -/
def peerState : CustomBackendState where
  version := stateVersion
  identity := some ⟨"key_2", identityScheme, encodeKey Externals.reference (.replicate 32 2),
    credential 2, 0, none⟩
  localConfig := some { localConfig with deviceId := "dev_00000000000000000000000000000002" }
  peers := [⟨localConfig.deviceId, "a", ⟨100, 64, 0, 2⟩, credential 1,
    [⟨.lan, .v4 ⟨192, 168, 1, 20⟩, 51820, .udp⟩], ["100.64.0.2/32"], 0⟩]

/-- A socket and a TUN device. -/
def startUp : List Traffic :=
  [.lock bindSocket, .lock (.setTunDevice (some ⟨⟨true, "tfscale0", true, none⟩⟩))]

def started (persisted : CustomBackendState) : RuntimeState :=
  (Section.setTunDevice (some ⟨⟨true, "tfscale0", true, none⟩⟩)).effect Externals.reference
    (bindSocket.effect Externals.reference
      (RuntimeState.fromPersisted Externals.reference env.salts persisted))

/-- An IPv4 packet of `n` bytes for 100.64.0.3. -/
def packetOf (n : Nat) : Bytes :=
  [69, 0, 0, 20, 0, 0, 0, 0, 64, 17, 0, 0, 100, 64, 0, 2, 100, 64, 0, 3] ++ List.replicate (n - 20) 7

/-- The round that reads the packet from the TUN device and sends it. -/
def sendRound (packet : Bytes) : Option (Result Nat) × RuntimeState :=
  (started pairedState).tunToUdpRound Externals.reference env.sendTo net id (.packet packet)

/-- The datagram of that round. -/
def datagramFor (packet : Bytes) : Bytes :=
  (((sendRound packet).2.udpSent.head?).map Prod.snd).getD []

/-- The round that receives it. -/
def receiveRound (packet : Bytes) : List Bytes :=
  ((started peerState).udpToTunRound Externals.reference env.sendTo env.clock id (fun p => .ok p.length)
    (.datagram (datagramFor packet) ⟨.v4 ⟨192, 168, 1, 20⟩, 51820⟩)).1

theorem lists_peer : Lists Externals.reference pairedState
    (pairedState.peers.head (by decide)) peerState where
  listed := List.head_mem _
  devices := by decide
  device := by
    intro config hconfig
    obtain rfl := Option.some.inj hconfig
    rfl
  credential := by
    intro identity key hidentity hkey
    obtain rfl := Option.some.inj hidentity
    obtain rfl := Except.ok.inj ((decodeKey_encode _ Externals.reference_lawful _).symm.trans hkey)
    exact ⟨rfl, rfl⟩

theorem peer_lists : Lists Externals.reference peerState
    (peerState.peers.head (by decide)) pairedState where
  listed := List.head_mem _
  devices := by decide
  device := by
    intro config hconfig
    obtain rfl := Option.some.inj hconfig
    rfl
  credential := by
    intro identity key hidentity hkey
    obtain rfl := Option.some.inj hidentity
    obtain rfl := Except.ok.inj ((decodeKey_encode _ Externals.reference_lawful _).symm.trans hkey)
    exact ⟨rfl, rfl⟩

end Reference

open Reference in
/-- An 84-byte packet, between two machines that just started. -/
theorem tunnel_delivers_84 :
    receiveRound (packetOf 84) = [packetOf 84] ∧ (packetOf 84).length ≤ 1424 ∧
      (started peerState).Takes localConfig.deviceId (datagramFor (packetOf 84)) := by
  obtain ⟨packet, hpacket⟩ : ∃ packet, packet = packetOf 84 := ⟨_, rfl⟩
  have hreceived : receiveRound packet = [packet] := by
    rw [hpacket]
    decide +kernel
  have hread : packet.length ≤ packetBufferLen := by
    rw [hpacket]
    decide +kernel
  have hresult : (sendRound packet).1 = some (.ok 160) := by
    rw [hpacket]
    decide +kernel
  have hudp : (sendRound packet).2.udpSent =
      (started pairedState).udpSent ++ [(⟨.v4 ⟨192, 168, 1, 30⟩, 51820⟩, datagramFor packet)] := by
    rw [hpacket]
    decide +kernel
  have hboth := (tunnel_delivers_iff Externals.reference Externals.reference_lawful
    Externals.reference_tagged pairedState peerState _ _ lists_peer peer_lists (by decide) (by decide +kernel)
    env.salts env.salts startUp startUp (started pairedState) (started peerState)
    (sendRound packet).2 id id rfl rfl rfl env.sendTo env.sendTo net env.clock
    (fun p => .ok p.length) packet (datagramFor packet) 160
    ⟨.v4 ⟨192, 168, 1, 30⟩, 51820⟩ ⟨.v4 ⟨192, 168, 1, 20⟩, 51820⟩ hread (by rw [hpacket]; decide +kernel)
    (Prod.ext hresult rfl) hudp (by rw [hpacket]; decide +kernel)).mp hreceived
  rw [← hpacket]
  exact ⟨hreceived, hboth⟩

open Reference in
/-- A packet of 1425 bytes: it is read from the one TUN device and sent, and the other
    machine drops it. -/
theorem tunnel_drops_1425 :
    (packetOf 1425).length ≤ packetBufferLen ∧ ValidIpv4 (packetOf 1425) ∧
      (sendRound (packetOf 1425)).1 = some (.ok 1501) ∧ receiveRound (packetOf 1425) = [] :=
  ⟨by decide +kernel, by decide +kernel, by decide +kernel, by decide +kernel⟩

end TfScale.Custom
