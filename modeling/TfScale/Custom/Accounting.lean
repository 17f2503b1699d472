/-
  TfScale.Custom.Accounting

  The receive counters of one transport, over runs of the UDP worker loop and of
  `probe_public_endpoint`.

  The run keeps what the code does not: how many packets the TUN device took, how many
  probes and probe responses were dealt with, how many replies the public probe got.
  An event takes at most one datagram off the socket, so the equation `Balanced`, held
  in every state, says of each datagram that it is counted once.

  Three answers of the socket break it: an error of `recv_from` in either caller, which is
  a drop without a packet; a frame that `open_received_frame` refuses, a drop that the
  worker loop records again; and a datagram of another sender during the public probe,
  which is a packet of no class.  A frame that opens is counted once whatever happens to
  it next: `receive_accounting_iff`.
-/

import TfScale.Custom.Tunnel

namespace TfScale.Custom

variable {X : Externals} {rt : RuntimeState} {sendTo : SendTo} {clock : Nat → SystemTime}

-- ============================================================================
-- The lock scopes of the worker loop
-- ============================================================================

namespace RuntimeState

/-- The first lock scope of a round of `spawn_udp_to_tun_loop`. -/
def receiveScope (X : Externals) (sendTo : SendTo) (clock : Nat → SystemTime) (received : Received)
    (rt : RuntimeState) : Option Bytes × RuntimeState :=
  match rt.receiveOverlayPacket X sendTo clock packetBufferLen received with
  | (.error _, rt) => (none, rt.recordRxDrop)
  | (.ok packet, rt) => (packet, rt)

/-- The second lock scope; true when the TUN device took the packet. -/
def writeScope (tunSend : Bytes → Except String Nat) (packet : Bytes) (rt : RuntimeState) :
    Bool × RuntimeState :=
  match (rt.writeTunPacket tunSend packet).1 with
  | .ok _ => (true, rt)
  | .error _ => (false, rt.recordRxDrop)

/-- `rx_packets` and `rx_drops` of the transport. -/
def rxCounts (rt : RuntimeState) : Option (UInt64 × UInt64) :=
  rt.transport.map fun transport => (transport.status.rxPackets, transport.status.rxDrops)

/-- The datagram opens as a probe or a probe response, and is dealt with. -/
def handlesProbe (X : Externals) (sendTo : SendTo) (clock : Nat → SystemTime) (received : Received)
    (rt : RuntimeState) : Bool :=
  match received with
  | .datagram bytes _ =>
      match (rt.openStage X (bytes.take packetBufferLen)).1,
          (rt.receiveOverlayPacket X sendTo clock packetBufferLen received).1 with
      | .ok (_, opened), .ok _ =>
          decide (opened.messageType = frameTypeProbe ∨ opened.messageType = frameTypeProbeResponse)
      | _, _ => false
  | _ => false

end RuntimeState

/-- A round is its two scopes, with what other threads do between them. -/
theorem udpToTunRound_eq (others : RuntimeState → RuntimeState)
    (tunSend : Bytes → Except String Nat) (received : Received) (rt : RuntimeState) :
    (rt.udpToTunRound X sendTo clock others tunSend received).2 =
      match rt.receiveScope X sendTo clock received with
      | (none, rt) => rt
      | (some packet, rt) => ((others rt).writeScope tunSend packet).2 := by
  unfold RuntimeState.udpToTunRound RuntimeState.receiveScope
  rcases rt.receiveOverlayPacket X sendTo clock packetBufferLen received with ⟨error | _ | packet, rt'⟩
  · rfl
  · rfl
  · dsimp only
    unfold RuntimeState.writeScope
    rcases (others rt').writeTunPacket tunSend packet with ⟨_ | _, given⟩
    · rfl
    · rfl

-- ============================================================================
-- The passes of the public probe
-- ============================================================================

namespace TransportRuntime

/-- One pass of the loop of `probe_public_endpoint`: the result, if it returns. -/
def probePass (t : TransportRuntime) (probeServer : SocketAddr) (deadline : Nat) (received : Received)
    (now : Nat) : Option (Result (Option PublicEndpointProbe)) × TransportRuntime :=
  match received with
  | .datagram bytes source =>
      (if source = probeServer then some (decodeProbeResponse (bytes.take 256)) else none,
        { t with status := { t.status with rxPackets := t.status.rxPackets + 1 } })
  | .wouldBlock => (if now ≥ deadline then some (.ok none) else none, t)
  | .failed message => (some (commandFailed message), t.recordRxDrop)

end TransportRuntime

theorem awaitProbeReply_cons (t : TransportRuntime) (probeServer : SocketAddr) (deadline : Nat)
    (received : Received) (now : Nat) (rest : List (Received × Nat)) :
    TransportRuntime.awaitProbeReply probeServer deadline t ((received, now) :: rest) =
      match t.probePass probeServer deadline received now with
      | (some result, t) => some (result, t)
      | (none, t) => TransportRuntime.awaitProbeReply probeServer deadline t rest := by
  cases received with
  | datagram bytes source =>
      simp only [TransportRuntime.awaitProbeReply, TransportRuntime.probePass]
      by_cases hsource : source = probeServer
      · rw [if_pos hsource, if_pos hsource]
      · rw [if_neg hsource, if_neg hsource]
  | wouldBlock =>
      simp only [TransportRuntime.awaitProbeReply, TransportRuntime.probePass]
      by_cases hlate : now ≥ deadline
      · rw [if_pos hlate, if_pos hlate]
      · rw [if_neg hlate, if_neg hlate]
  | failed message => rfl

-- ============================================================================
-- Runs
-- ============================================================================

/-- The runtime with the packet that the worker has between its two scopes, the public
    probe that holds the lock, and what was counted. -/
structure RxRun where
  rt : RuntimeState
  inHand : Option Bytes
  /-- the probe server and the deadline -/
  probing : Option (SocketAddr × Nat)
  /-- packets that the TUN device took -/
  written : Nat
  /-- probes and probe responses that were dealt with -/
  probes : Nat
  /-- datagrams that the public probe got from its server -/
  replies : Nat

inductive RxEvent where
  | receive (sendTo : SendTo) (clock : Nat → SystemTime) (received : Received)
  | write (tunSend : Bytes → Except String Nat)
  | startProbe (sendTo : SendTo) (probeServer : SocketAddr) (start : Nat) (timeout : Duration)
  | probeRecv (received : Received) (now : Nat)
  /-- a lock scope of another thread, which leaves the receive counters as they are -/
  | others (rt' : RuntimeState)

/-- The answer of the socket is a datagram of the probe server. -/
def isReply (probeServer : SocketAddr) : Received → Bool
  | .datagram _ source => decide (source = probeServer)
  | _ => false

namespace RxRun

/-- A freshly bound socket. -/
def start (rt : RuntimeState) (port : UInt16) (lan : Option Ipv4Addr) : RxRun where
  rt := rt.withTransport (TransportRuntime.bind (.ok port) lan (TransportRuntime.socketAfter rt.transport)).toOption
  inHand := none
  probing := none
  written := 0
  probes := 0
  replies := 0

/-- The state after an event.  A scope of the worker needs the lock, which the public
    probe holds from its request to its return. -/
def step (X : Externals) (s : RxRun) : RxEvent → Option RxRun
  | .receive sendTo clock received =>
      match s.inHand, s.probing with
      | none, none => some { s with
          rt := (s.rt.receiveScope X sendTo clock received).2
          inHand := (s.rt.receiveScope X sendTo clock received).1
          probes := s.probes + (s.rt.handlesProbe X sendTo clock received).toNat }
      | _, _ => none
  | .write tunSend =>
      match s.inHand, s.probing with
      | some packet, none => some { s with
          rt := (s.rt.writeScope tunSend packet).2
          inHand := none
          written := s.written + (s.rt.writeScope tunSend packet).1.toNat }
      | _, _ => none
  | .startProbe sendTo probeServer start timeout =>
      match s.probing, s.rt.transport with
      | none, some transport =>
          match transport.sendProbeRequest sendTo probeServer with
          | (.error _, transport) => some { s with rt := s.rt.withTransport (some transport) }
          | (.ok _, transport) => some { s with
              rt := s.rt.withTransport (some transport)
              probing := some (probeServer, start + timeout) }
      | _, _ => none
  | .probeRecv received now =>
      match s.probing, s.rt.transport with
      | some (probeServer, deadline), some transport =>
          match transport.probePass probeServer deadline received now with
          | (result, transport) => some { s with
              rt := s.rt.withTransport (some transport)
              probing := if result.isSome then none else some (probeServer, deadline)
              replies := s.replies + (isReply probeServer received).toNat }
      | _, _ => none
  | .others rt' =>
      match s.probing with
      | none => if rt'.rxCounts = s.rt.rxCounts then some { s with rt := rt' } else none
      | some _ => none

/-- The datagrams in the classes other than the drops; a packet on its way from the socket
    to the device is one of its own. -/
def classified (s : RxRun) : Nat :=
  s.written + s.probes + s.replies + s.inHand.toList.length

/-- `rx_packets` is the number of written packets, probes, replies and drops. -/
def Balanced (s : RxRun) : Prop :=
  ∃ rxPackets rxDrops, s.rt.rxCounts = some (rxPackets, rxDrops) ∧
    rxPackets = UInt64.ofNat s.classified + rxDrops

/-- The answer of the socket is none, or a datagram that opens. -/
def Opens (X : Externals) (rt : RuntimeState) : Received → Prop
  | .datagram bytes _ => ∃ deviceId opened, rt.Authentic X (bytes.take packetBufferLen) deviceId opened
  | .wouldBlock => True
  | .failed _ => False

/-- The worker gets no error and no frame that is refused, the public probe no error and no
    datagram of another sender. -/
def Accounted (X : Externals) (s : RxRun) : RxEvent → Prop
  | .receive _ _ received => s.inHand = none → s.probing = none → Opens X s.rt received
  | .probeRecv received _ => ∀ probeServer deadline, s.probing = some (probeServer, deadline) →
      received = .wouldBlock ∨ ∃ bytes, received = .datagram bytes probeServer
  | _ => True

end RxRun

/-- The passes of a public probe that has returned are the loop of the source. -/
theorem awaitProbeReply_of_run {s t : RxRun} {probeServer : SocketAddr} {deadline : Nat}
    {answers : List (Received × Nat)} (hprobing : s.probing = some (probeServer, deadline))
    (hrun : run (RxRun.step X) s (answers.map fun a => .probeRecv a.1 a.2) = some t)
    (hdone : t.probing = none) {transport : TransportRuntime} (htransport : s.rt.transport = some transport) :
    ∃ result, TransportRuntime.awaitProbeReply probeServer deadline transport answers =
      (t.rt.transport.map fun transport => (result, transport)) := by
  induction answers generalizing s transport with
  | nil =>
      obtain rfl := Option.some.inj hrun
      cases hprobing.symm.trans hdone
  | cons answer rest ih =>
      obtain ⟨u, hu, hrest⟩ := run_cons_eq_some.mp hrun
      rw [awaitProbeReply_cons]
      simp only [RxRun.step, hprobing, htransport, Option.some.injEq] at hu
      rcases hpass : transport.probePass probeServer deadline answer.1 answer.2 with ⟨_ | result, transport'⟩
      · rw [hpass] at hu
        subst hu
        exact ih rfl hrest rfl
      · rw [hpass] at hu
        subst hu
        -- after its last pass the probe does nothing more
        cases rest with
        | nil =>
            obtain rfl := Option.some.inj hrest
            exact ⟨result, rfl⟩
        | cons next rest => cases hrest

-- ============================================================================
-- Counters
-- ============================================================================

theorem rxCounts_recordRxDrop {rxPackets rxDrops : UInt64} (h : rt.rxCounts = some (rxPackets, rxDrops)) :
    rt.recordRxDrop.rxCounts = some (rxPackets, rxDrops + 1) := by
  obtain ⟨transport, htransport, hcounts⟩ := Option.map_eq_some_iff.mp h
  obtain ⟨rfl, rfl⟩ := Prod.mk.inj hcounts
  show ((rt.transport.map (·.recordRxDrop)).map _) = _
  rw [htransport]
  rfl

theorem openStage_rxCounts (rt : RuntimeState) {frame : Bytes} {deviceId : String} {opened : OpenFrame}
    (h : (rt.openStage X frame).1 = .ok (deviceId, opened)) :
    (rt.openStage X frame).2.rxCounts = rt.rxCounts := by
  rcases openStage_cases (X := X) rt frame with ⟨e, heq⟩ | ⟨d, session, -, -, heq⟩
  · rw [heq] at h
    cases h
  · rw [heq] at h ⊢
    cases hopen : (session.crypto.openMessage X frame).1 with
    | error e =>
        rw [hopen] at h
        cases h
    | ok o => rfl

/-- A send is no receipt. -/
theorem sendFrame_rx (t : TransportRuntime) (sendTo : SendTo) (endpoint : Endpoint) (frame : Bytes) :
    (t.sendFrame sendTo endpoint frame).2.status.rxPackets = t.status.rxPackets ∧
      (t.sendFrame sendTo endpoint frame).2.status.rxDrops = t.status.rxDrops := by
  unfold TransportRuntime.sendFrame
  cases endpointSocketAddr endpoint with
  | error e => exact ⟨rfl, rfl⟩
  | ok addr =>
      dsimp only
      cases sendTo addr frame with
      | error message => exact ⟨rfl, rfl⟩
      | ok n => exact ⟨rfl, rfl⟩

theorem withTransport_rxCounts (rt : RuntimeState) {transport transport' : TransportRuntime}
    (h : rt.transport = some transport) (hpackets : transport'.status.rxPackets = transport.status.rxPackets)
    (hdrops : transport'.status.rxDrops = transport.status.rxDrops) :
    (rt.withTransport (some transport')).rxCounts = rt.rxCounts := by
  show some (_, _) = Option.map _ rt.transport
  rw [h, hpackets, hdrops]
  rfl

theorem answerProbe_rxCounts (rt : RuntimeState) (sendTo : SendTo) (clock : Nat → SystemTime)
    (deviceId : String) (plaintext : Bytes) (source : SocketAddr) :
    (rt.answerProbe X sendTo clock deviceId plaintext source).2.rxCounts = rt.rxCounts := by
  unfold RuntimeState.answerProbe
  split
  · rfl
  dsimp only
  split
  · rfl
  rename_i frame hframe
  split
  · rfl
  rename_i transport htransport
  obtain ⟨hpackets, hdrops⟩ :=
    sendFrame_rx transport sendTo (RuntimeState.sourceEndpoint source) frame
  split
  · rename_i hsend
    rw [hsend] at hpackets hdrops
    exact withTransport_rxCounts rt htransport hpackets hdrops
  · rename_i hsend
    rw [hsend] at hpackets hdrops
    exact withTransport_rxCounts rt htransport hpackets hdrops

theorem dispatchStage_rxCounts (rt : RuntimeState) (sendTo : SendTo) (clock : Nat → SystemTime)
    (source : SocketAddr) (deviceId : String) (opened : OpenFrame) :
    (rt.dispatchStage X sendTo clock (some source) deviceId opened).2.rxCounts = rt.rxCounts := by
  unfold RuntimeState.dispatchStage
  split
  · rfl
  split
  · exact answerProbe_rxCounts rt sendTo clock deviceId opened.plaintext source
  split
  · rfl
  · rfl

/-- What becomes of a frame that opened: a packet, a probe that was dealt with, or an error. -/
theorem dispatchStage_result (rt : RuntimeState) (sendTo : SendTo) (clock : Nat → SystemTime)
    (source : SocketAddr) (deviceId : String) (opened : OpenFrame) :
    (opened.messageType = frameTypeData ∧
      (rt.dispatchStage X sendTo clock (some source) deviceId opened).1 = .ok (some opened.plaintext)) ∨
    ((opened.messageType = frameTypeProbe ∨ opened.messageType = frameTypeProbeResponse) ∧
      (rt.dispatchStage X sendTo clock (some source) deviceId opened).1 = .ok none) ∨
    ∃ e, (rt.dispatchStage X sendTo clock (some source) deviceId opened).1 = .error e := by
  unfold RuntimeState.dispatchStage
  split_ifs with hdata hprobe hresponse
  · exact .inl ⟨hdata, rfl⟩
  · right
    have hnot := answerProbe_ne_packet (X := X) rt sendTo clock deviceId opened.plaintext source
    cases hanswer : (rt.answerProbe X sendTo clock deviceId opened.plaintext source).1 with
    | error e => exact .inr ⟨e, rfl⟩
    | ok packet =>
        cases packet with
        | none => exact .inl ⟨.inl hprobe, rfl⟩
        | some packet => exact absurd hanswer (hnot packet)
  · exact .inr (.inl ⟨.inr hresponse, rfl⟩)
  · exact .inr (.inr ⟨_, rfl⟩)

-- ============================================================================
-- One receipt
-- ============================================================================

section Receipt

variable {rxPackets rxDrops : UInt64}

/-- The runtime that opens a datagram has counted it. -/
theorem receiveOverlayPacket_datagram (h : rt.rxCounts = some (rxPackets, rxDrops)) (sendTo : SendTo)
    (clock : Nat → SystemTime) (bytes : Bytes) (source : SocketAddr) :
    ∃ rt' : RuntimeState, rt'.rxCounts = some (rxPackets + 1, rxDrops) ∧
      (∀ deviceId opened, rt.Authentic X (bytes.take packetBufferLen) deviceId opened ↔
        rt'.Authentic X (bytes.take packetBufferLen) deviceId opened) ∧
      rt.receiveOverlayPacket X sendTo clock packetBufferLen (.datagram bytes source) =
        rt'.openReceivedFrame X sendTo clock (bytes.take packetBufferLen) (some source) := by
  obtain ⟨transport, htransport, hcounts⟩ := Option.map_eq_some_iff.mp h
  obtain ⟨rfl, rfl⟩ := Prod.mk.inj hcounts
  refine ⟨rt.withTransport (some { transport with
    status := { transport.status with rxPackets := transport.status.rxPackets + 1 } }), rfl,
    fun _ _ => Iff.rfl, ?_⟩
  simp only [RuntimeState.receiveOverlayPacket, htransport, TransportRuntime.receiveFrame]

/-- A frame that opens is a packet, a probe that was dealt with, or a drop: one of them. -/
theorem receiveScope_of_authentic (h : rt.rxCounts = some (rxPackets, rxDrops)) (sendTo : SendTo)
    (clock : Nat → SystemTime) (source : SocketAddr) {bytes : Bytes} {deviceId : String} {opened : OpenFrame}
    (hauthentic : rt.Authentic X (bytes.take packetBufferLen) deviceId opened) :
    ∃ dropped, (rt.receiveScope X sendTo clock (.datagram bytes source)).2.rxCounts =
        some (rxPackets + 1, rxDrops + UInt64.ofNat dropped) ∧
      (rt.handlesProbe X sendTo clock (.datagram bytes source)).toNat +
        (rt.receiveScope X sendTo clock (.datagram bytes source)).1.toList.length + dropped = 1 := by
  obtain ⟨rt', hcounts, hsame, hreceive⟩ := receiveOverlayPacket_datagram (X := X) h sendTo clock bytes source
  have hstage := openStage_ok_iff.mpr hauthentic
  have hstage' := openStage_ok_iff.mpr ((hsame deviceId opened).mp hauthentic)
  rw [openReceivedFrame_of_ok hstage'] at hreceive
  have hafter := dispatchStage_rxCounts (X := X) (rt'.openStage X (bytes.take packetBufferLen)).2 sendTo
    clock source deviceId opened
  rw [openStage_rxCounts rt' hstage', hcounts, ← hreceive] at hafter
  have hresult := dispatchStage_result (X := X) (rt'.openStage X (bytes.take packetBufferLen)).2 sendTo
    clock source deviceId opened
  rw [← hreceive] at hresult
  simp only [RuntimeState.receiveScope, RuntimeState.handlesProbe, hstage]
  rcases hout : rt.receiveOverlayPacket X sendTo clock packetBufferLen (.datagram bytes source) with ⟨r, rt₁⟩
  rw [hout] at hafter hresult
  rcases hresult with ⟨hdata, rfl⟩ | ⟨hprobe, rfl⟩ | ⟨e, rfl⟩
  · refine ⟨0, by simpa using hafter, ?_⟩
    have hnot : ¬ (opened.messageType = frameTypeProbe ∨ opened.messageType = frameTypeProbeResponse) := by
      rw [hdata]
      decide
    simp [hnot]
  · exact ⟨0, by simpa using hafter, by simp [hprobe]⟩
  · exact ⟨1, rxCounts_recordRxDrop hafter, rfl⟩

/-- A frame that is refused is one packet and two drops. -/
theorem receiveScope_of_refused (h : rt.rxCounts = some (rxPackets, rxDrops)) (sendTo : SendTo)
    (clock : Nat → SystemTime) (source : SocketAddr) {bytes : Bytes}
    (hrefused : ∀ deviceId opened, ¬ rt.Authentic X (bytes.take packetBufferLen) deviceId opened) :
    (rt.receiveScope X sendTo clock (.datagram bytes source)).2.rxCounts =
        some (rxPackets + 1, rxDrops + 1 + 1) ∧
      (rt.handlesProbe X sendTo clock (.datagram bytes source)).toNat +
        (rt.receiveScope X sendTo clock (.datagram bytes source)).1.toList.length = 0 := by
  obtain ⟨rt', hcounts, hsame, hreceive⟩ := receiveOverlayPacket_datagram (X := X) h sendTo clock bytes source
  cases hstage : (rt'.openStage X (bytes.take packetBufferLen)).1 with
  | ok r =>
      exact absurd ((hsame r.1 r.2).mpr (openStage_ok_iff.mp hstage)) (hrefused r.1 r.2)
  | error e =>
      rw [openReceivedFrame_of_refused hstage, openStage_error hstage] at hreceive
      have hstage' : ∀ r, (rt.openStage X (bytes.take packetBufferLen)).1 ≠ .ok r :=
        fun r hr => hrefused r.1 r.2 (openStage_ok_iff.mp hr)
      simp only [RuntimeState.receiveScope, RuntimeState.handlesProbe, hreceive]
      refine ⟨rxCounts_recordRxDrop (rxCounts_recordRxDrop hcounts), ?_⟩
      cases hopen : (rt.openStage X (bytes.take packetBufferLen)).1 with
      | ok r => exact absurd hopen (hstage' r)
      | error e => rfl

/-- An error of `recv_from` is two drops of no packet. -/
theorem receiveScope_failed (h : rt.rxCounts = some (rxPackets, rxDrops)) (sendTo : SendTo)
    (clock : Nat → SystemTime) (message : String) :
    (rt.receiveScope X sendTo clock (.failed message)).2.rxCounts =
        some (rxPackets, rxDrops + 1 + 1) ∧
      (rt.handlesProbe X sendTo clock (.failed message)).toNat +
        (rt.receiveScope X sendTo clock (.failed message)).1.toList.length = 0 := by
  obtain ⟨transport, htransport, hcounts⟩ := Option.map_eq_some_iff.mp h
  simp only [RuntimeState.receiveScope, RuntimeState.handlesProbe, RuntimeState.receiveOverlayPacket,
    htransport, TransportRuntime.receiveFrame]
  refine ⟨rxCounts_recordRxDrop ?_, rfl⟩
  obtain ⟨rfl, rfl⟩ := Prod.mk.inj hcounts
  rfl

theorem receiveScope_wouldBlock (h : rt.rxCounts = some (rxPackets, rxDrops)) (sendTo : SendTo)
    (clock : Nat → SystemTime) :
    (rt.receiveScope X sendTo clock .wouldBlock).2.rxCounts = some (rxPackets, rxDrops) ∧
      (rt.handlesProbe X sendTo clock .wouldBlock).toNat +
        (rt.receiveScope X sendTo clock .wouldBlock).1.toList.length = 0 := by
  obtain ⟨transport, htransport, hcounts⟩ := Option.map_eq_some_iff.mp h
  simp only [RuntimeState.receiveScope, RuntimeState.handlesProbe, RuntimeState.receiveOverlayPacket,
    htransport, TransportRuntime.receiveFrame]
  obtain ⟨rfl, rfl⟩ := Prod.mk.inj hcounts
  exact ⟨rfl, rfl⟩

/-- A packet that the device does not take is a drop. -/
theorem writeScope_rxCounts (h : rt.rxCounts = some (rxPackets, rxDrops))
    (tunSend : Bytes → Except String Nat) (packet : Bytes) :
    ∃ dropped, (rt.writeScope tunSend packet).2.rxCounts =
        some (rxPackets, rxDrops + UInt64.ofNat dropped) ∧
      (rt.writeScope tunSend packet).1.toNat + dropped = 1 := by
  unfold RuntimeState.writeScope
  cases (rt.writeTunPacket tunSend packet).1 with
  | ok n => exact ⟨0, by simpa using h, rfl⟩
  | error e => exact ⟨1, rxCounts_recordRxDrop h, rfl⟩

theorem sendProbeRequest_rx (t : TransportRuntime) (sendTo : SendTo) (probeServer : SocketAddr) :
    (t.sendProbeRequest sendTo probeServer).2.status.rxPackets = t.status.rxPackets ∧
      (t.sendProbeRequest sendTo probeServer).2.status.rxDrops = t.status.rxDrops := by
  unfold TransportRuntime.sendProbeRequest
  cases sendTo probeServer publicEndpointProbeRequest with
  | ok n => exact ⟨rfl, rfl⟩
  | error message => exact ⟨rfl, rfl⟩

/-- What a receipt adds to the counters, and when that is right. -/
theorem receiveScope_counts (h : rt.rxCounts = some (rxPackets, rxDrops)) (sendTo : SendTo)
    (clock : Nat → SystemTime) (received : Received) :
    ∃ taken dropped, (rt.receiveScope X sendTo clock received).2.rxCounts =
        some (rxPackets + UInt64.ofNat taken, rxDrops + UInt64.ofNat dropped) ∧
      ((rt.handlesProbe X sendTo clock received).toNat +
        (rt.receiveScope X sendTo clock received).1.toList.length + dropped = taken ↔
          RxRun.Opens X rt received) ∧
      (rt.handlesProbe X sendTo clock received).toNat +
        (rt.receiveScope X sendTo clock received).1.toList.length + dropped ≤ taken + 2 ∧
      taken ≤ (rt.handlesProbe X sendTo clock received).toNat +
        (rt.receiveScope X sendTo clock received).1.toList.length + dropped + 2 := by
  have htwice : rxDrops + 1 + 1 = rxDrops + UInt64.ofNat 2 := by rw [UInt64.add_assoc]; rfl
  cases received with
  | datagram bytes source =>
      by_cases hopens : RxRun.Opens X rt (.datagram bytes source)
      · obtain ⟨deviceId, opened, hauthentic⟩ := hopens
        obtain ⟨dropped, hcounts, hone⟩ := receiveScope_of_authentic h sendTo clock source hauthentic
        exact ⟨1, dropped, hcounts, iff_of_true hone ⟨deviceId, opened, hauthentic⟩, by omega⟩
      · obtain ⟨hcounts, hnone⟩ := receiveScope_of_refused (X := X) h sendTo clock source
          fun deviceId opened hauthentic => hopens ⟨deviceId, opened, hauthentic⟩
        exact ⟨1, 2, htwice ▸ hcounts, iff_of_false (by omega) hopens, by omega⟩
  | wouldBlock =>
      obtain ⟨hcounts, hnone⟩ := receiveScope_wouldBlock (X := X) h sendTo clock
      exact ⟨0, 0, by simpa using hcounts, iff_of_true hnone trivial, by omega⟩
  | failed message =>
      obtain ⟨hcounts, hnone⟩ := receiveScope_failed (X := X) h sendTo clock message
      exact ⟨0, 2, by simpa [htwice] using hcounts, iff_of_false (by omega) id, by omega⟩

/-- What a pass of the public probe adds, and when that is right. -/
theorem probePass_counts (t : TransportRuntime) (probeServer : SocketAddr) (deadline : Nat)
    (received : Received) (now : Nat) :
    ∃ taken dropped,
      (t.probePass probeServer deadline received now).2.status.rxPackets =
        t.status.rxPackets + UInt64.ofNat taken ∧
      (t.probePass probeServer deadline received now).2.status.rxDrops =
        t.status.rxDrops + UInt64.ofNat dropped ∧
      ((isReply probeServer received).toNat + dropped = taken ↔
        received = .wouldBlock ∨ ∃ bytes, received = .datagram bytes probeServer) ∧
      (isReply probeServer received).toNat + dropped ≤ taken + 1 ∧
      taken ≤ (isReply probeServer received).toNat + dropped + 1 := by
  cases received with
  | datagram bytes source =>
      refine ⟨1, 0, rfl, by simp [TransportRuntime.probePass], ?_⟩
      by_cases hsource : source = probeServer
      · simp [isReply, hsource]
      · simp [isReply, hsource]
  | wouldBlock => exact ⟨0, 0, by simp [TransportRuntime.probePass], by simp [TransportRuntime.probePass],
      by simp [isReply]⟩
  | failed message => exact ⟨0, 1, by simp [TransportRuntime.probePass, TransportRuntime.recordRxDrop],
      rfl, by simp [isReply]⟩

end Receipt

-- ============================================================================
-- Runs
-- ============================================================================

theorem ofNat_inj_of_close {a b : Nat} (hab : a ≤ b + 2) (hba : b ≤ a + 2) :
    UInt64.ofNat a = UInt64.ofNat b ↔ a = b := by
  rw [← UInt64.toNat_inj, UInt64.toNat_ofNat', UInt64.toNat_ofNat']
  omega

namespace RxRun

variable {s t : RxRun}

/-- From `s` to `t` the counters grow by `taken` packets and `dropped` drops, and the classes
    grow with them exactly when `right` holds. -/
structure Counts (s t : RxRun) (right : Prop) (taken dropped : Nat) : Prop where
  counters : ∀ rxPackets rxDrops, s.rt.rxCounts = some (rxPackets, rxDrops) →
    t.rt.rxCounts = some (rxPackets + UInt64.ofNat taken, rxDrops + UInt64.ofNat dropped)
  classes : t.classified + dropped = s.classified + taken ↔ right
  above : t.classified + dropped ≤ s.classified + taken + 2
  below : s.classified + taken ≤ t.classified + dropped + 2

/-- A step whose classes grow with the counters. -/
theorem Counts.of_eq {right : Prop} {taken dropped : Nat}
    (hcounters : ∀ rxPackets rxDrops, s.rt.rxCounts = some (rxPackets, rxDrops) →
      t.rt.rxCounts = some (rxPackets + UInt64.ofNat taken, rxDrops + UInt64.ofNat dropped))
    (hclasses : t.classified + dropped = s.classified + taken) (hright : right) :
    Counts s t right taken dropped where
  counters := hcounters
  classes := iff_of_true hclasses hright
  above := by omega
  below := by omega

theorem counts_of_same {right : Prop} (hcounts : t.rt.rxCounts = s.rt.rxCounts)
    (hclasses : t.classified = s.classified) (hright : right) : Counts s t right 0 0 :=
  Counts.of_eq (fun rxPackets rxDrops h => by simpa [hcounts] using h) (by rw [hclasses]) hright

section Events

variable {received : Received} {now : Nat} {packet : Bytes} {tunSend : Bytes → Except String Nat}

theorem receive_counts (hbound : s.rt.rxCounts.isSome = true) (hinHand : s.inHand = none)
    (hprobing : s.probing = none) (hstep : s.step X (.receive sendTo clock received) = some t) :
    ∃ taken dropped, Counts s t (s.Accounted X (.receive sendTo clock received)) taken dropped := by
  simp only [step, hinHand, hprobing, Option.some.injEq] at hstep
  subst hstep
  obtain ⟨⟨rxPackets, rxDrops⟩, h⟩ := Option.isSome_iff_exists.mp hbound
  obtain ⟨taken, dropped, hcounts, hright, habove, hbelow⟩ :=
    receiveScope_counts (X := X) h sendTo clock received
  have hiff : s.Accounted X (.receive sendTo clock received) ↔ Opens X s.rt received :=
    ⟨fun haccounted => haccounted hinHand hprobing, fun hopens _ _ => hopens⟩
  refine ⟨taken, dropped, ⟨fun p d hpd => ?_, ?_, ?_, ?_⟩⟩
  · obtain ⟨rfl, rfl⟩ := Prod.mk.inj (Option.some.inj (h.symm.trans hpd))
    exact hcounts
  · rw [hiff, ← hright]
    simp only [classified, hinHand, Option.toList_none, List.length_nil]
    omega
  · simp only [classified, hinHand, Option.toList_none, List.length_nil]
    omega
  · simp only [classified, hinHand, Option.toList_none, List.length_nil]
    omega

theorem write_counts (hbound : s.rt.rxCounts.isSome = true) (hinHand : s.inHand = some packet)
    (hprobing : s.probing = none) (hstep : s.step X (.write tunSend) = some t) :
    ∃ taken dropped, Counts s t (s.Accounted X (.write tunSend)) taken dropped := by
  simp only [step, hinHand, hprobing, Option.some.injEq] at hstep
  subst hstep
  obtain ⟨⟨rxPackets, rxDrops⟩, h⟩ := Option.isSome_iff_exists.mp hbound
  obtain ⟨dropped, hcounts, hone⟩ := writeScope_rxCounts h tunSend packet
  refine ⟨0, dropped, Counts.of_eq (fun p d hpd => ?_) ?_ trivial⟩
  · obtain ⟨rfl, rfl⟩ := Prod.mk.inj (Option.some.inj (h.symm.trans hpd))
    simpa using hcounts
  · simp only [classified, hinHand, Option.toList_some, Option.toList_none, List.length_singleton,
      List.length_nil]
    omega

theorem startProbe_counts {probeServer : SocketAddr} {start : Nat} {timeout : Duration}
    (hstep : s.step X (.startProbe sendTo probeServer start timeout) = some t) :
    Counts s t (s.Accounted X (.startProbe sendTo probeServer start timeout)) 0 0 := by
  unfold step at hstep
  dsimp only at hstep
  split at hstep
  · rename_i transport hprobing htransport
    obtain ⟨hpackets, hdrops⟩ := sendProbeRequest_rx transport sendTo probeServer
    split at hstep
    · rename_i hsend
      rw [hsend] at hpackets hdrops
      obtain rfl := Option.some.inj hstep
      exact counts_of_same (withTransport_rxCounts s.rt htransport hpackets hdrops) rfl trivial
    · rename_i hsend
      rw [hsend] at hpackets hdrops
      obtain rfl := Option.some.inj hstep
      exact counts_of_same (withTransport_rxCounts s.rt htransport hpackets hdrops) rfl trivial
  · cases hstep

theorem probeRecv_counts {probeServer : SocketAddr} {deadline : Nat}
    (hbound : s.rt.rxCounts.isSome = true) (hprobing : s.probing = some (probeServer, deadline))
    (hstep : s.step X (.probeRecv received now) = some t) :
    ∃ taken dropped, Counts s t (s.Accounted X (.probeRecv received now)) taken dropped := by
  obtain ⟨transport, htransport⟩ := Option.isSome_iff_exists.mp (Option.isSome_map.symm.trans hbound)
  simp only [step, hprobing, htransport, Option.some.injEq] at hstep
  subst hstep
  obtain ⟨taken, dropped, hpackets, hdrops, hright, habove, hbelow⟩ :=
    probePass_counts transport probeServer deadline received now
  have hiff : s.Accounted X (.probeRecv received now) ↔
      received = .wouldBlock ∨ ∃ bytes, received = .datagram bytes probeServer := by
    refine ⟨fun haccounted => haccounted probeServer deadline hprobing, fun hreply p d hpd => ?_⟩
    obtain ⟨rfl, rfl⟩ := Prod.mk.inj (Option.some.inj (hprobing.symm.trans hpd))
    exact hreply
  refine ⟨taken, dropped, ⟨fun p d hpd => ?_, ?_, ?_, ?_⟩⟩
  · obtain ⟨transport', htransport', hstatus⟩ := Option.map_eq_some_iff.mp hpd
    obtain rfl := Option.some.inj (htransport.symm.trans htransport')
    obtain ⟨rfl, rfl⟩ := Prod.mk.inj hstatus
    show some (_, _) = some (_, _)
    rw [hpackets, hdrops]
  · rw [hiff, ← hright]
    simp only [classified]
    omega
  · simp only [classified]
    omega
  · simp only [classified]
    omega

end Events

/-- Every step adds to the classes what it adds to the counters if and only if it is
    accounted for. -/
theorem step_counts {e : RxEvent} (hbound : s.rt.rxCounts.isSome = true) (hstep : s.step X e = some t) :
    ∃ taken dropped, Counts s t (s.Accounted X e) taken dropped := by
  cases e with
  | receive sendTo clock received =>
      cases hinHand : s.inHand with
      | some packet => simp [step, hinHand] at hstep
      | none =>
          cases hprobing : s.probing with
          | some probe => simp [step, hinHand, hprobing] at hstep
          | none => exact receive_counts hbound hinHand hprobing hstep
  | write tunSend =>
      cases hinHand : s.inHand with
      | none => simp [step, hinHand] at hstep
      | some packet =>
          cases hprobing : s.probing with
          | some probe => simp [step, hinHand, hprobing] at hstep
          | none => exact write_counts hbound hinHand hprobing hstep
  | startProbe sendTo probeServer start timeout => exact ⟨0, 0, startProbe_counts hstep⟩
  | probeRecv received now =>
      cases hprobing : s.probing with
      | none => simp [step, hprobing] at hstep
      | some probe => exact probeRecv_counts hbound hprobing hstep
  | others rt' =>
      cases hprobing : s.probing with
      | some probe => simp [step, hprobing] at hstep
      | none =>
          simp only [step, hprobing, Option.ite_none_right_eq_some, Option.some.injEq] at hstep
          obtain ⟨hsame, rfl⟩ := hstep
          exact ⟨0, 0, counts_of_same hsame rfl trivial⟩

/-- The events that are not accounted for can happen. -/
theorem step_of_not_accounted {e : RxEvent} (h : s.Balanced) (hnot : ¬ s.Accounted X e) :
    ∃ t, s.step X e = some t := by
  obtain ⟨rxPackets, rxDrops, hcounts, -⟩ := h
  obtain ⟨transport, htransport, -⟩ := Option.map_eq_some_iff.mp hcounts
  cases e with
  | receive sendTo clock received =>
      obtain ⟨hinHand, hprobing, -⟩ : s.inHand = none ∧ s.probing = none ∧ ¬ Opens X s.rt received := by
        simpa [Accounted] using hnot
      exact ⟨_, by simp only [step, hinHand, hprobing]; rfl⟩
  | write tunSend => exact absurd trivial hnot
  | startProbe sendTo probeServer start timeout => exact absurd trivial hnot
  | probeRecv received now =>
      cases hprobing : s.probing with
      | none => exact absurd (fun p d hpd => nomatch hprobing.symm.trans hpd) hnot
      | some probe => exact ⟨_, by simp only [step, hprobing, htransport]; rfl⟩
  | others rt' => exact absurd trivial hnot

/-- A step keeps the balance if and only if it is accounted for. -/
theorem balanced_step_iff {e : RxEvent} (h : s.Balanced) (hstep : s.step X e = some t) :
    t.Balanced ↔ s.Accounted X e := by
  obtain ⟨rxPackets, rxDrops, hcounts, hbalance⟩ := h
  obtain ⟨taken, dropped, h⟩ := step_counts (Option.isSome_iff_exists.mpr ⟨_, hcounts⟩) hstep
  have hcounts' := h.counters rxPackets rxDrops hcounts
  rw [← h.classes, ← ofNat_inj_of_close h.above h.below, UInt64.ofNat_add, UInt64.ofNat_add]
  constructor
  · rintro ⟨p, d, hpd, hbalance'⟩
    obtain ⟨rfl, rfl⟩ := Prod.mk.inj (Option.some.inj (hpd.symm.trans hcounts'))
    rw [hbalance] at hbalance'
    grind
  · intro heq
    refine ⟨_, _, hcounts', ?_⟩
    rw [hbalance]
    grind

end RxRun

/-- **Receive accounting.**  For every runtime with a freshly bound socket and every run of
    the worker loop and of the public probe, with whatever other threads do in between that
    leaves the receive counters: `rx_packets` is the number of written packets, of probes,
    of replies and of drops in every state if and only if every step is accounted for. -/
theorem receive_accounting_iff (X : Externals) (rt : RuntimeState) (port : UInt16) (lan : Option Ipv4Addr)
    (events : List RxEvent) :
    Throughout (RxRun.step X) RxRun.Balanced (RxRun.start rt port lan) events ↔
      Along (RxRun.step X) (RxRun.Accounted X) (RxRun.start rt port lan) events := by
  refine throughout_iff_along (fun _ h => h) ?_ ?_ ⟨0, 0, rfl, rfl⟩ events
  · intro s e t hbalanced haccounted hstep
    exact (RxRun.balanced_step_iff hbalanced hstep).mpr haccounted
  · intro s e hbalanced hnot
    obtain ⟨t, ht⟩ := RxRun.step_of_not_accounted hbalanced hnot
    exact ⟨t, ht, fun hkept => hnot ((RxRun.balanced_step_iff hbalanced ht).mp hkept)⟩

namespace Reference

/-- A datagram that is too short to be a frame. -/
def shortDatagram : RxEvent :=
  .receive (fun _ frame => .ok frame.length) (fun _ => 1000000000)
    (.datagram [84, 70] ⟨.v4 ⟨203, 0, 113, 7⟩, 40000⟩)

end Reference

open Reference in
/-- One datagram that does not decode is one packet and two drops. -/
theorem short_datagram_dropped_twice :
    ¬ Throughout (RxRun.step Externals.reference) RxRun.Balanced
      (RxRun.start .default 51820 none) [shortDatagram] := by
  rintro ⟨-, hnext⟩
  obtain ⟨rxPackets, rxDrops, hcounts, hbalance⟩ := hnext _ rfl
  obtain ⟨rfl, rfl⟩ : 1 = rxPackets ∧ 2 = rxDrops := Prod.mk.inj (Option.some.inj hcounts)
  exact absurd hbalance (by decide)

end TfScale.Custom
