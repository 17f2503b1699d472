/-
  TfScale.Custom.Injection

  Whose packets come out of the tunnel?

  A frame is authenticated as a whole: its source id selects the session, and only a
  holder of that session's key can seal it.  The packet inside is the peer's choice.
  The session knows the overlay address of its peer, and `open_received_frame` does
  not look at it, so a packet is delivered from whatever address the peer wrote into
  it.  `CarriesOwnPacket` is the condition that makes the difference.
-/

import TfScale.Custom.Coherence
import TfScale.Custom.Tunnel

namespace TfScale.Custom

variable {X : Externals} {rt : RuntimeState} {frame packet : Bytes} {deviceId : String}

/-- Bytes 12 to 15 of a packet. -/
def sourceBytes (packet : Bytes) : Ipv4Addr :=
  ⟨packet.getD 12 0, packet.getD 13 0, packet.getD 14 0, packet.getD 15 0⟩

/-- A well-formed IPv4 packet from `ip`. -/
def FromAddress (ip : Ipv4Addr) (packet : Bytes) : Prop :=
  ValidIpv4 packet ∧ sourceBytes packet = ip

instance (ip : Ipv4Addr) (packet : Bytes) : Decidable (FromAddress ip packet) :=
  inferInstanceAs (Decidable (_ ∧ _))

namespace RuntimeState

/-- The packet is from the overlay address of the peer whose session the frame was
    opened with. -/
def FromOwnAddress (rt : RuntimeState) (frame packet : Bytes) : Prop :=
  ∃ deviceId session, rt.frameDevice frame = some deviceId ∧
    rt.peerTransportSessionsByDevice.lookup deviceId = some session ∧
    (∃ peer ∈ rt.persisted.peers, peer.deviceId = deviceId ∧ peer.overlayIp = session.overlayIp) ∧
    FromAddress session.overlayIp packet

/-- What a peer sealed into the frame, if the frame is a data frame that its session
    lets through, is an IPv4 packet from that peer's overlay address. -/
def CarriesOwnPacket (X : Externals) (rt : RuntimeState) (frame : Bytes) : Prop :=
  ∀ deviceId session packet, rt.Authentic X frame deviceId ⟨frameTypeData, packet⟩ →
    rt.peerTransportSessionsByDevice.lookup deviceId = some session →
    FromAddress session.overlayIp packet

end RuntimeState

theorem frameDevice_of_authentic {opened : OpenFrame} (h : rt.Authentic X frame deviceId opened) :
    rt.frameDevice frame = some deviceId := by
  obtain ⟨decoded, _, _, hdecode, hdevice, -⟩ := h
  exact frameDevice_eq_some.mpr ⟨decoded, hdecode, hdevice⟩

/-- Delivered packets are from their peers exactly when the frame carries such a one. -/
theorem openReceivedFrame_own_iff (h : rt.Coherent) (sendTo : SendTo) (clock : Nat → SystemTime)
    (frame : Bytes) (source : Option SocketAddr) :
    (∀ packet, (rt.openReceivedFrame X sendTo clock frame source).1 = .ok (some packet) →
      rt.FromOwnAddress frame packet) ↔ rt.CarriesOwnPacket X frame := by
  constructor
  · intro hown deviceId session packet hauthentic hsession
    have hdelivered := (openReceivedFrame_packet_iff (X := X) rt sendTo clock frame source packet).mpr
      ⟨deviceId, hauthentic⟩
    obtain ⟨d, s, hd, hs, -, hfrom⟩ := hown packet hdelivered
    have hsame : deviceId = d := 
      Option.some.inj ((frameDevice_of_authentic hauthentic).symm.trans hd)
    subst hsame
    obtain rfl := Option.some.inj (hsession.symm.trans hs)
    exact hfrom
  · intro hcarries packet hdelivered
    obtain ⟨deviceId, hauthentic⟩ :=
      (openReceivedFrame_packet_iff (X := X) rt sendTo clock frame source packet).mp hdelivered
    have hdevice := frameDevice_of_authentic hauthentic
    have ⟨_, session, _, _, _, hsession, _⟩ := hauthentic
    exact ⟨deviceId, session, hdevice, hsession, h.sessions deviceId session hsession,
      hcarries deviceId session packet hauthentic hsession⟩

/-- A relay message is the frame in its payload. -/
theorem openRelayFrame_of_frame {message : RelayMessage}
    (h : RuntimeState.relayFrame X message = some (.ok frame)) (sendTo : SendTo)
    (clock : Nat → SystemTime) :
    rt.openRelayFrame X sendTo clock message = rt.openReceivedFrame X sendTo clock frame none := by
  rw [RuntimeState.openRelayFrame, h]

/-- A frame that a matched session sealed is opened as what was sealed, if it is in
    the window, and as nothing else. -/
theorem authentic_sealed_iff (hX : X.Lawful) {A : PeerCryptoSession} {session : PeerTransportSession}
    (hmatched : Matched A session.crypto)
    (hframes : rt.peerDeviceByFrameId.lookup A.localId = some deviceId)
    (hsession : rt.peerTransportSessionsByDevice.lookup deviceId = some session)
    (hseal : (A.«seal» X packet).1 = .ok frame) (hwindow : session.crypto.InWindow frame)
    (d : String) (p : Bytes) :
    rt.Authentic X frame d ⟨frameTypeData, p⟩ ↔ d = deviceId ∧ p = packet := by
  obtain ⟨-, encoded, hauthentic, htype⟩ := hmatched.authenticate_sealed hX hseal
  obtain ⟨hdecode, hsource, hdestination, hdirection, ad, had, hdecrypt⟩ :=
    PeerCryptoSession.authenticate_iff.mp hauthentic
  have hdevice : rt.peerDeviceByFrameId.lookup encoded.header.source = some deviceId := by
    rw [hsource, ← hmatched.localId]
    exact hframes
  constructor
  · rintro ⟨decoded, session', ad', hdecode', hd, hs, -, -, -, had', hdecrypt', -, -⟩
    obtain rfl := Except.ok.inj (hdecode.symm.trans hdecode')
    obtain rfl := Option.some.inj (hdevice.symm.trans hd)
    obtain rfl := Option.some.inj (hsession.symm.trans hs)
    obtain rfl := Except.ok.inj (had.symm.trans had')
    exact ⟨rfl, Option.some.inj (hdecrypt'.symm.trans hdecrypt)⟩
  · rintro ⟨rfl, rfl⟩
    obtain ⟨decoded, hdecode', haccept⟩ := hwindow
    obtain rfl := Except.ok.inj (hdecode.symm.trans hdecode')
    exact ⟨encoded, session, ad, hdecode, hdevice, hsession, hsource, hdestination, hdirection, had,
      hdecrypt, haccept, htype.symm⟩

/-- **Packets from the peer's own address.**  In every runtime reached from a new one,
    whatever a received frame or a relay message delivers is a well-formed IPv4 packet
    from the overlay address of its peer, exactly when the frame carries such a packet
    if it carries one at all; and a frame that the peer's end sealed carries what was
    put into it, so this is the peer's decision. -/
theorem delivered_from_own_address_iff (X : Externals) (salts : Salts)
    (persisted : CustomBackendState) (events : List PathEvent) (sendTo : SendTo)
    (clock : Nat → SystemTime) :
    let rt := events.foldl (PathEvent.effect X) (RuntimeState.fromPersisted X salts persisted)
    (∀ frame source,
      (∀ packet, (rt.openReceivedFrame X sendTo clock frame source).1 = .ok (some packet) →
        rt.FromOwnAddress frame packet) ↔ rt.CarriesOwnPacket X frame) ∧
    (∀ message frame, RuntimeState.relayFrame X message = some (.ok frame) →
      ((∀ packet, (rt.openRelayFrame X sendTo clock message).1 = .ok (some packet) →
        rt.FromOwnAddress frame packet) ↔ rt.CarriesOwnPacket X frame)) ∧
    (∀ message packet, (rt.openRelayFrame X sendTo clock message).1 = .ok (some packet) →
      ∃ frame, RuntimeState.relayFrame X message = some (.ok frame)) ∧
    (X.Lawful → ∀ (A : PeerCryptoSession) deviceId session packet frame,
      Matched A session.crypto → rt.peerDeviceByFrameId.lookup A.localId = some deviceId →
      rt.peerTransportSessionsByDevice.lookup deviceId = some session →
      (A.«seal» X packet).1 = .ok frame → session.crypto.InWindow frame →
      (rt.CarriesOwnPacket X frame ↔ FromAddress session.overlayIp packet)) := by
  intro rt
  have h : rt.Coherent := coherent_events (coherent_fromPersisted salts persisted) events
  refine ⟨fun frame source => openReceivedFrame_own_iff h sendTo clock frame source,
    fun message frame hframe => ?_, fun message packet hdelivered => ?_, ?_⟩
  · rw [openRelayFrame_of_frame hframe]
    exact openReceivedFrame_own_iff h sendTo clock frame none
  · unfold RuntimeState.openRelayFrame at hdelivered
    cases hmessage : RuntimeState.relayFrame X message with
    | none =>
        rw [hmessage] at hdelivered
        cases hdelivered
    | some payload =>
        cases payload with
        | error text =>
            rw [hmessage] at hdelivered
            cases hdelivered
        | ok frame => exact ⟨frame, rfl⟩
  · intro hX A deviceId session packet frame hmatched hframes hsession hseal hwindow
    have hopened := authentic_sealed_iff hX hmatched hframes hsession hseal hwindow
    constructor
    · intro hcarries
      exact hcarries deviceId session packet ((hopened deviceId packet).mpr ⟨rfl, rfl⟩) hsession
    · intro hfrom d s p hauthentic hs
      obtain ⟨rfl, rfl⟩ := (hopened d p).mp hauthentic
      obtain rfl := Option.some.inj (hsession.symm.trans hs)
      exact hfrom

namespace Reference

/-- The start of a machine, as events. -/
def startEvents : List PathEvent :=
  [.locked bindSocket, .locked (.setTunDevice (some ⟨⟨true, "tfscale0", true, none⟩⟩))]

/-- A packet for 100.64.0.3 that the machine at 100.64.0.2 sends from 100.64.0.9. -/
def spoofed : Bytes :=
  [69, 0, 0, 20, 0, 0, 0, 0, 64, 17, 0, 0, 100, 64, 0, 9, 100, 64, 0, 3]

end Reference

open Reference in
/-- The machine at 100.64.0.2 seals a packet from 100.64.0.9, and its peer delivers it. -/
theorem spoofed_packet_delivered :
    let rt := startEvents.foldl (PathEvent.effect Externals.reference)
      (RuntimeState.fromPersisted Externals.reference env.salts peerState)
    (rt.openReceivedFrame Externals.reference env.sendTo env.clock (datagramFor spoofed)
        (some ⟨.v4 ⟨192, 168, 1, 20⟩, 51820⟩)).1 = .ok (some spoofed) ∧
      ¬ rt.FromOwnAddress (datagramFor spoofed) spoofed := by
  refine ⟨by decide +kernel, ?_⟩
  rintro ⟨d, session, -, hsession, ⟨peer, hpeer, -, hip⟩, -, hsource⟩
  obtain rfl := List.mem_singleton.mp hpeer
  have hne : sourceBytes spoofed ≠ (⟨100, 64, 0, 2⟩ : Ipv4Addr) := by decide
  exact hne (hsource.trans hip.symm)

open Reference in
/-- An honest packet of the same machine: what the session of 100.64.0.2 sealed. -/
theorem delivered_from_own_address_honest :
    let rt := startEvents.foldl (PathEvent.effect Externals.reference)
      (RuntimeState.fromPersisted Externals.reference env.salts peerState)
    (rt.openReceivedFrame Externals.reference env.sendTo env.clock (datagramFor (packetOf 20))
        none).1 = .ok (some (packetOf 20)) ∧
      rt.FromOwnAddress (datagramFor (packetOf 20)) (packetOf 20) := by
  intro rt
  have hall := delivered_from_own_address_iff Externals.reference env.salts peerState startEvents
    env.sendTo env.clock
  have hdelivered : (rt.openReceivedFrame Externals.reference env.sendTo env.clock
      (datagramFor (packetOf 20)) none).1 = .ok (some (packetOf 20)) := by decide +kernel
  -- the two ends of the channel
  obtain ⟨sender, hsender⟩ : ∃ sender, (RuntimeState.fromPersisted Externals.reference env.salts
      pairedState).peerTransportSessionsByDevice.lookup "dev_00000000000000000000000000000002" =
        some sender := Option.isSome_iff_exists.mp (by decide +kernel)
  have hoverlay : rt.sessionOverlayIp localConfig.deviceId = some ⟨100, 64, 0, 2⟩ := by
    decide +kernel
  obtain ⟨session, hsession, hip⟩ := Option.map_eq_some_iff.mp hoverlay
  have hmatched : Matched sender.crypto session.crypto := by
    obtain ⟨peerB, hpeerB, -, hbuiltA⟩ := fromPersisted_built hsender
    have hreceiver : (RuntimeState.fromPersisted Externals.reference env.salts
        peerState).peerTransportSessionsByDevice.lookup localConfig.deviceId = some session := hsession
    obtain ⟨peerA, hpeerA, -, hbuiltB⟩ := fromPersisted_built hreceiver
    obtain rfl := List.mem_singleton.mp hpeerA
    obtain rfl := List.mem_singleton.mp hpeerB
    exact matched_of_lists Externals.reference_lawful lists_peer peer_lists hbuiltA hbuiltB
  have hsealed : ((RuntimeState.fromPersisted Externals.reference env.salts
      pairedState).peerTransportSessionsByDevice.lookup "dev_00000000000000000000000000000002").all
        (fun s => decide ((s.crypto.«seal» Externals.reference (packetOf 20)).1 =
            .ok (datagramFor (packetOf 20)) ∧
          rt.peerDeviceByFrameId.lookup s.crypto.localId = some localConfig.deviceId)) = true := by
    decide +kernel
  rw [hsender] at hsealed
  obtain ⟨hseal, hframes⟩ := of_decide_eq_true hsealed
  have hwindow : session.crypto.InWindow (datagramFor (packetOf 20)) := by
    obtain ⟨d, hauthentic⟩ := (openReceivedFrame_packet_iff (X := Externals.reference) rt env.sendTo
      env.clock (datagramFor (packetOf 20)) none (packetOf 20)).mp hdelivered
    have hdevice : rt.frameDevice (datagramFor (packetOf 20)) = some localConfig.deviceId := by
      decide +kernel
    obtain rfl : d = localConfig.deviceId :=
      Option.some.inj ((frameDevice_of_authentic hauthentic).symm.trans hdevice)
    obtain ⟨decoded, s, -, hdecode, -, hs, -, -, -, -, -, haccept, -⟩ := hauthentic
    obtain rfl := Option.some.inj (hsession.symm.trans hs)
    exact ⟨decoded, hdecode, haccept⟩
  have hcarries := (hall.2.2.2 Externals.reference_lawful sender.crypto localConfig.deviceId session
    (packetOf 20) (datagramFor (packetOf 20)) hmatched hframes hsession hseal hwindow).mpr
      (by rw [hip]; decide)
  exact ⟨hdelivered, (hall.1 _ none).mpr hcarries _ hdelivered⟩

end TfScale.Custom
