/-
  TfScale.Custom.Emissions

  What leaves a backend, and why?

  Three places hand a frame to the UDP socket: a packet is sent, a probe round runs, a
  probe is answered.  A fourth one hands it the request of a public probe, which is no
  frame.  `Section.emitted` is what a critical section has added to the log of the socket,
  and `emitted_caused` the inversion: every other datagram is sealed by the session of one
  device, for one of these three causes, and on its way to the address that the cause has.
-/

import TfScale.Custom.Fallback
import TfScale.Custom.Routing
import TfScale.Custom.EndpointOrder

namespace TfScale.Custom

open PeerCryptoSession RuntimeState

variable {X : Externals} {rt rt' : RuntimeState} {deviceId : String}

-- ============================================================================
-- Causes
-- ============================================================================

/-- What a frame is sealed for. -/
inductive Cause where
  | packet (packet : Bytes)
  | probe (sentAt : Nat)
  /-- the answer to a probe, with the reading of the clock that stands in for a missing
      timestamp -/
  | answer (request : Bytes) (nowMillis : Nat)

namespace Cause

def payload : Cause → Bytes
  | packet bytes => bytes
  | probe sentAt => strBytes ("probe " ++ toString sentAt)
  | answer request nowMillis => encodeProbeResponsePayload request nowMillis

def messageType : Cause → UInt8
  | packet _ => frameTypeData
  | probe _ => frameTypeProbe
  | answer .. => frameTypeProbeResponse

end Cause

/-- The frame was sealed for the cause by the session of the device, which was built when
    the runtime was. -/
def SealedFrom (X : Externals) (rt : RuntimeState) (deviceId : String) (cause : Cause) (frame : Bytes) :
    Prop :=
  ∃ (session : PeerTransportSession) (crypto : PeerCryptoSession),
    rt.peerTransportSessionsByDevice.lookup deviceId = some session ∧
    crypto.asBuilt = session.crypto.asBuilt ∧
    (crypto.sealMessage X cause.payload cause.messageType).1 = .ok frame

/-- What a section gives a cause for: the packet it sends, its round of probes, or a probe
    that it opens and answers; and the address that the cause has. -/
inductive Causes (X : Externals) (rt : RuntimeState) :
    Section → String → Cause → SocketAddr → Prop where
  | packet {packet : Bytes} {sendTo : SendTo} {net : RelayNet} {deviceId : String} {addr : SocketAddr}
      {session : PeerTransportSession}
      (hdevice : rt.peersByOverlayIp.lookup (destinationBytes packet) = some deviceId)
      (hsession : rt.peerTransportSessionsByDevice.lookup deviceId = some session)
      (haddr : endpointSocketAddr session.endpoint = .ok addr) :
      Causes X rt (.send packet sendTo net) deviceId (.packet packet) addr
  | probe {sendTo : SendTo} {clock : Nat → SystemTime} {i : Nat} {peer : StoredPeerSession}
      {endpoint : Endpoint} {addr : SocketAddr} (hpeer : peer ∈ rt.persisted.peers)
      (hendpoint : endpoint ∈ sortedUdpEndpoints peer.endpoints)
      (haddr : endpointSocketAddr endpoint = .ok addr) :
      Causes X rt (.probe sendTo clock) peer.deviceId (.probe (unixMillis (clock (3 * i + 2)))) addr
  | answer {s : Section} {a : Arrival} {probe : Bytes} {deviceId : String} {source addr : SocketAddr}
      (harrival : s.arrival X rt = some a) (hsource : a.source = some source)
      (hopened : rt.Authentic X a.frame deviceId ⟨frameTypeProbe, probe⟩)
      (hmoved : MovedTo rt (s.effect X rt) deviceId source)
      (haddr : endpointSocketAddr (sourceEndpoint source) = .ok addr) :
      Causes X rt s deviceId (.answer probe (unixMillis (a.clock 0))) addr

-- ============================================================================
-- The log of the socket
-- ============================================================================

/-- The log has grown by datagrams of which `P` holds. -/
def GrowsBy (P : SocketAddr × Bytes → Prop) (before after : List (SocketAddr × Bytes)) : Prop :=
  ∃ more, after = before ++ more ∧ ∀ datagram ∈ more, P datagram

section Grows

variable {P Q : SocketAddr × Bytes → Prop} {l l' l'' : List (SocketAddr × Bytes)}

theorem GrowsBy.refl (l : List (SocketAddr × Bytes)) : GrowsBy P l l :=
  ⟨[], (List.append_nil l).symm, fun _ h => by cases h⟩

theorem GrowsBy.of_eq (h : l' = l) : GrowsBy P l l' := by
  rw [h]
  exact .refl l

theorem GrowsBy.one {datagram : SocketAddr × Bytes} (h : P datagram) : GrowsBy P l (l ++ [datagram]) :=
  ⟨[datagram], rfl, fun _ hmem => List.mem_singleton.mp hmem ▸ h⟩

theorem GrowsBy.trans (h : GrowsBy P l l') (h' : GrowsBy P l' l'') : GrowsBy P l l'' := by
  obtain ⟨more, rfl, hmore⟩ := h
  obtain ⟨more', rfl, hmore'⟩ := h'
  refine ⟨more ++ more', List.append_assoc _ _ _, fun datagram hmem => ?_⟩
  exact (List.mem_append.mp hmem).elim (hmore datagram) (hmore' datagram)

theorem GrowsBy.imp (h : GrowsBy P l l') (hPQ : ∀ datagram, P datagram → Q datagram) : GrowsBy Q l l' := by
  obtain ⟨more, rfl, hmore⟩ := h
  exact ⟨more, rfl, fun datagram hmem => hPQ datagram (hmore datagram hmem)⟩

end Grows

/-- What a section has handed to the socket; a new socket has sent nothing yet. -/
def Section.emitted (X : Externals) (rt : RuntimeState) : Section → List (SocketAddr × Bytes)
  | .setTransport _ | .replace .. | .reload .. => []
  | s => (s.effect X rt).udpSent.drop rt.udpSent.length

/-- The section is a public probe, and the datagram its request to the probe server. -/
def Section.AsksServer (s : Section) (datagram : SocketAddr × Bytes) : Prop :=
  datagram.2 = publicEndpointProbeRequest ∧
    ∃ sendTo start timeout answers, s = .publicProbe sendTo datagram.1 start timeout answers

/-- The datagram is sealed by a session of the runtime for a cause that the section has. -/
def Caused (X : Externals) (rt : RuntimeState) (s : Section) (datagram : SocketAddr × Bytes) : Prop :=
  ∃ deviceId cause, SealedFrom X rt deviceId cause datagram.2 ∧ Causes X rt s deviceId cause datagram.1

-- ============================================================================
-- Sending a packet
-- ============================================================================

/-- One frame for the socket. -/
theorem growsBy_sendFrame {P : SocketAddr × Bytes → Prop} {transport : TransportRuntime} {sendTo : SendTo}
    {endpoint : Endpoint} {frame : Bytes}
    (h : ∀ addr, endpointSocketAddr endpoint = .ok addr → P (addr, frame)) :
    GrowsBy P transport.sent (transport.sendFrame sendTo endpoint frame).2.sent := by
  rcases hsend : transport.sendFrame sendTo endpoint frame with ⟨_ | n, transport'⟩
  · exact .of_eq (transport_sendFrame_error hsend)
  · obtain ⟨addr, haddr, hsent⟩ := transport_sendFrame_ok hsend
    show GrowsBy P transport.sent transport'.sent
    rw [hsent]
    exact .one (h addr haddr)

theorem growsBy_send (rt : RuntimeState) (packet : Bytes) (sendTo : SendTo) (net : RelayNet) :
    GrowsBy (Caused X rt (.send packet sendTo net)) rt.udpSent
      (rt.sendOverlayPacket X sendTo net packet).2.udpSent := by
  unfold RuntimeState.sendOverlayPacket
  split
  · exact .refl _
  rename_i destination hdestination
  obtain ⟨-, rfl⟩ := ipv4Destination_eq_ok.mp hdestination
  split
  · exact .refl _
  rename_i deviceId hdevice
  split
  · exact .refl _
  rename_i session hsession
  simp only
  split
  · exact .refl _
  rename_i frame hframe
  split
  · exact .refl _
  split
  · exact .refl _
  rename_i transport htransport
  have hbefore : rt.udpSent = transport.sent := by
    have hsame : rt.transport = some transport := htransport
    rw [RuntimeState.udpSent, hsame]
  rw [hbefore]
  exact growsBy_sendFrame fun addr haddr =>
    ⟨deviceId, .packet packet, ⟨session, session.crypto, hsession, rfl, hframe⟩,
      .packet hdevice hsession haddr⟩

-- ============================================================================
-- A round of probes
-- ============================================================================

/-- The probes of one peer: each is sealed by its session and goes to one of its
    endpoints. -/
theorem growsBy_sendProbes (sendTo : SendTo) (sentAt : Nat) (endpoints : List Endpoint)
    (crypto : PeerCryptoSession) (transport : TransportRuntime) (sent : Nat) :
    GrowsBy (fun datagram => (∃ crypto' : PeerCryptoSession, crypto'.asBuilt = crypto.asBuilt ∧
        (crypto'.sealMessage X (Cause.probe sentAt).payload frameTypeProbe).1 = .ok datagram.2) ∧
        ∃ endpoint ∈ endpoints, endpointSocketAddr endpoint = .ok datagram.1)
      transport.sent (sendProbes X sendTo sentAt endpoints crypto transport sent).2.2.sent := by
  induction endpoints generalizing crypto transport sent with
  | nil => exact .refl _
  | cons endpoint rest ih =>
      rw [sendProbes]
      have hbuilt := asBuilt_sealMessage (X := X) crypto (Cause.probe sentAt).payload frameTypeProbe
      rcases hseal : crypto.sealMessage X (strBytes ("probe " ++ toString sentAt)) frameTypeProbe with
        ⟨_ | frame, crypto'⟩
      · exact .refl _
      have hframe : (crypto.sealMessage X (Cause.probe sentAt).payload frameTypeProbe).1 = .ok frame :=
        congrArg Prod.fst hseal
      have hbuilt' : crypto'.asBuilt = crypto.asBuilt := by
        rw [← hbuilt]
        exact congrArg asBuilt (congrArg Prod.snd hseal).symm
      rcases hsend : transport.sendFrame sendTo endpoint frame with ⟨_ | n, transport'⟩
      · simp only
        rw [hsend]
        exact .of_eq (transport_sendFrame_error hsend)
      · simp only
        rw [hsend]
        obtain ⟨addr, haddr, hsent⟩ := transport_sendFrame_ok hsend
        refine GrowsBy.trans ?_ ((ih crypto' transport' (sent + 1)).imp ?_)
        · rw [hsent]
          exact .one ⟨⟨crypto, rfl, hframe⟩, endpoint, List.mem_cons_self, haddr⟩
        · rintro datagram ⟨⟨crypto'', hsame, hok⟩, endpoint', hmem, haddr'⟩
          exact ⟨⟨crypto'', hsame.trans hbuilt', hok⟩, endpoint', List.mem_cons_of_mem _ hmem, haddr'⟩

theorem probeRound_sent {sendTo : SendTo} {clock : Nat → SystemTime} {i : Nat} {peer : StoredPeerSession}
    {transport transport' : TransportRuntime} {sent : Nat} {crypto : PeerCryptoSession}
    (h : (∃ error, rt.probeRound X sendTo clock i peer transport sent = .failed error crypto transport') ∨
      ∃ sent', rt.probeRound X sendTo clock i peer transport sent = .completed sent' crypto transport') :
    ∃ session, rt.peerTransportSessionsByDevice.lookup peer.deviceId = some session ∧
      (sendProbes X sendTo (unixMillis (clock (3 * i + 2))) (sortedUdpEndpoints peer.endpoints)
        session.crypto transport sent).2 = (crypto, transport') := by
  unfold RuntimeState.probeRound at h
  split at h
  · rcases h with ⟨_, h⟩ | ⟨_, h⟩ <;> cases h
  split at h
  · rcases h with ⟨_, h⟩ | ⟨_, h⟩ <;> cases h
  · rename_i session hsession
    refine ⟨session, hsession, ?_⟩
    split at h
    · rename_i heq
      rcases h with ⟨_, h⟩ | ⟨_, h⟩
      · obtain ⟨-, rfl, rfl⟩ := Round.failed.inj h
        rw [heq]
      · cases h
    · rename_i heq
      rcases h with ⟨_, h⟩ | ⟨_, h⟩
      · cases h
      · obtain ⟨-, rfl, rfl⟩ := Round.completed.inj h
        rw [heq]

/-- A session that was built as another one of the same device seals for it. -/
theorem SealedFrom.sameMaps {cause : Cause} {frame : Bytes} (hkeep : SameMaps asBuilt rt rt')
    (h : SealedFrom X rt' deviceId cause frame) : SealedFrom X rt deviceId cause frame := by
  obtain ⟨session', crypto, hsession', hbuilt, hframe⟩ := h
  have hview := hkeep.sessions deviceId
  rw [hsession'] at hview
  obtain ⟨session, hsession, hsame⟩ := Option.map_eq_some_iff.mp hview.symm
  exact ⟨session, crypto, hsession, hbuilt.trans hsame.symm, hframe⟩

/-- The loop over the peers. -/
theorem growsBy_probePeers (sendTo : SendTo) (clock : Nat → SystemTime) (i : Nat)
    (peers : List StoredPeerSession) (rt : RuntimeState) (transport : TransportRuntime) (sent : Nat) :
    GrowsBy (fun datagram => ∃ peer ∈ peers, ∃ j,
        SealedFrom X rt peer.deviceId (.probe (unixMillis (clock (3 * j + 2)))) datagram.2 ∧
        ∃ endpoint ∈ sortedUdpEndpoints peer.endpoints, endpointSocketAddr endpoint = .ok datagram.1)
      transport.sent (probePeers X sendTo clock i peers rt transport sent).2.udpSent := by
  induction peers generalizing i rt transport sent with
  | nil => exact .refl _
  | cons peer peers ih =>
      have hfound : SameMaps asBuilt rt (rt.withPathOf peer.deviceId) :=
        (Preserves.withPaths rt _).toSameMaps
      rw [probePeers_cons]
      -- what the later rounds send is sealed by the same sessions
      have hlater : ∀ rt₁ : RuntimeState, SameMaps asBuilt rt rt₁ → ∀ transport₁ sent₁,
          GrowsBy (fun datagram => ∃ peer' ∈ peer :: peers, ∃ j,
            SealedFrom X rt peer'.deviceId (.probe (unixMillis (clock (3 * j + 2)))) datagram.2 ∧
            ∃ endpoint ∈ sortedUdpEndpoints peer'.endpoints,
              endpointSocketAddr endpoint = .ok datagram.1) transport₁.sent
            (probePeers X sendTo clock (i + 1) peers rt₁ transport₁ sent₁).2.udpSent := by
        intro rt₁ hkeep transport₁ sent₁
        refine (ih (i + 1) rt₁ transport₁ sent₁).imp ?_
        rintro datagram ⟨peer', hpeer', j, hsealed, hendpoint⟩
        exact ⟨peer', List.mem_cons_of_mem _ hpeer', j, hsealed.sameMaps hkeep, hendpoint⟩
      cases hround : (rt.withPathOf peer.deviceId).probeRound X sendTo clock i peer transport sent with
      | skipped => exact hlater _ hfound transport sent
      | failed error crypto transport' =>
          obtain ⟨session, hsession, hprobes⟩ := probeRound_sent (Or.inl ⟨_, hround⟩)
          have hgrows := growsBy_sendProbes (X := X) sendTo (unixMillis (clock (3 * i + 2)))
            (sortedUdpEndpoints peer.endpoints) session.crypto transport sent
          rw [hprobes] at hgrows
          refine hgrows.imp ?_
          rintro datagram ⟨⟨crypto', hbuilt, hframe⟩, hendpoint⟩
          exact ⟨peer, List.mem_cons_self, i, ⟨session, crypto', hsession, hbuilt, hframe⟩, hendpoint⟩
      | completed sent' crypto transport' =>
          obtain ⟨session, hsession, hprobes⟩ := probeRound_sent (Or.inr ⟨_, hround⟩)
          have hgrows := growsBy_sendProbes (X := X) sendTo (unixMillis (clock (3 * i + 2)))
            (sortedUdpEndpoints peer.endpoints) session.crypto transport sent
          have hview := sendProbes_view (X := X) asBuilt_sealMessage sendTo (unixMillis (clock (3 * i + 2)))
            (sortedUdpEndpoints peer.endpoints) session.crypto transport sent
          rw [hprobes] at hgrows hview
          have hover : SameMaps asBuilt rt ((rt.withPathOf peer.deviceId).roundOver clock i peer.deviceId
              crypto) :=
            (((Preserves.withPaths rt _).trans (Preserves.setCrypto hsession hview)).trans
              (Preserves.withPaths _ _)).toSameMaps
          refine GrowsBy.trans (hgrows.imp ?_) (hlater _ hover transport' sent')
          rintro datagram ⟨⟨crypto', hbuilt, hframe⟩, hendpoint⟩
          exact ⟨peer, List.mem_cons_self, i, ⟨session, crypto', hsession, hbuilt, hframe⟩, hendpoint⟩

theorem growsBy_probe (rt : RuntimeState) (sendTo : SendTo) (clock : Nat → SystemTime) :
    GrowsBy (Caused X rt (.probe sendTo clock)) rt.udpSent
      (rt.probePeerDirectPaths X sendTo clock).2.udpSent := by
  rw [probePeerDirectPaths_eq]
  cases htransport : rt.transport with
  | none => exact .refl _
  | some transport =>
      have hbefore : rt.udpSent = transport.sent := by rw [RuntimeState.udpSent, htransport]
      have hexpired : SameMaps asBuilt rt (rt.expireStaleDirectPaths (clock 0)) :=
        (Preserves.withPaths rt _).toSameMaps
      rw [hbefore]
      refine (growsBy_probePeers (X := X) sendTo clock 0 rt.persisted.peers
        (rt.expireStaleDirectPaths (clock 0)) transport 0).imp ?_
      rintro ⟨addr, frame⟩ ⟨peer, hpeer, j, hsealed, endpoint, hendpoint, haddr⟩
      exact ⟨peer.deviceId, _, hsealed.sameMaps hexpired, .probe hpeer hendpoint haddr⟩

-- ============================================================================
-- Answering a probe
-- ============================================================================

/-- A probe is answered to where it came from, and then its sender is direct. -/
theorem growsBy_answerProbe (rt : RuntimeState) (sendTo : SendTo) (clock : Nat → SystemTime)
    (deviceId : String) (probe : Bytes) (source : SocketAddr) :
    GrowsBy (fun datagram =>
        SealedFrom X rt deviceId (.answer probe (unixMillis (clock 0))) datagram.2 ∧
        endpointSocketAddr (sourceEndpoint source) = .ok datagram.1 ∧
        MovedTo rt (rt.answerProbe X sendTo clock deviceId probe source).2 deviceId source)
      rt.udpSent (rt.answerProbe X sendTo clock deviceId probe source).2.udpSent := by
  unfold RuntimeState.answerProbe
  split
  · exact .refl _
  rename_i session hsession
  simp only
  split
  · exact .refl _
  rename_i frame hframe
  split
  · exact .refl _
  rename_i transport htransport
  have hbefore : rt.udpSent = transport.sent := by
    have hsame : rt.transport = some transport := htransport
    rw [RuntimeState.udpSent, hsame]
  rw [hbefore]
  split
  · rename_i error transport' hsend
    exact .of_eq (transport_sendFrame_error hsend)
  · rename_i n transport' hsend
    obtain ⟨addr, haddr, hsent⟩ := transport_sendFrame_ok hsend
    show GrowsBy _ transport.sent transport'.sent
    rw [hsent]
    refine .one ⟨⟨session, session.crypto, hsession, rfl, hframe⟩, haddr, ?_⟩
    refine SamePaths.moved ?_ (movedTo_markPeerDirect ?_ none (clock 1))
    · exact (samePaths_setCrypto rt deviceId _).trans (samePaths_withTransport _ (some transport'))
    · simp [RuntimeState.setCrypto, RuntimeState.withTransport, HashMap.lookup_modify, hsession]

theorem recordRxDrop_udpSent (rt : RuntimeState) : rt.recordRxDrop.udpSent = rt.udpSent := by
  simp only [RuntimeState.udpSent, RuntimeState.recordRxDrop, RuntimeState.withTransport]
  cases rt.transport with
  | none => rfl
  | some transport => rfl

/-- Opening a frame sends nothing. -/
theorem openStage_udpSent (rt : RuntimeState) (frame : Bytes) :
    (rt.openStage X frame).2.udpSent = rt.udpSent := by
  rcases openStage_cases (X := X) rt frame with ⟨e, heq⟩ | ⟨deviceId, session, -, -, heq⟩
  · rw [heq]
    exact recordRxDrop_udpSent rt
  · rw [heq]
    split
    · exact recordRxDrop_udpSent _
    · rfl

theorem growsBy_openReceivedFrame (rt : RuntimeState) (sendTo : SendTo) (clock : Nat → SystemTime)
    (frame : Bytes) (source : Option SocketAddr) :
    GrowsBy (fun datagram => ∃ deviceId probe addr, source = some addr ∧
        rt.Authentic X frame deviceId ⟨frameTypeProbe, probe⟩ ∧
        SealedFrom X rt deviceId (.answer probe (unixMillis (clock 0))) datagram.2 ∧
        endpointSocketAddr (sourceEndpoint addr) = .ok datagram.1 ∧
        MovedTo rt (rt.openReceivedFrame X sendTo clock frame source).2 deviceId addr)
      rt.udpSent (rt.openReceivedFrame X sendTo clock frame source).2.udpSent := by
  have hsent := openStage_udpSent (X := X) rt frame
  cases hopen : (rt.openStage X frame).1 with
  | error e =>
      rw [openReceivedFrame_of_refused hopen]
      exact .of_eq hsent
  | ok r =>
      obtain ⟨deviceId, messageType, plaintext⟩ := r
      have hauthentic := openStage_ok_iff.mp hopen
      have hpaths := samePaths_openStage (X := X) rt frame
      have hmaps := (preserves_openStage (X := X) asBuilt_openMessage rt frame).toSameMaps
      rw [openReceivedFrame_of_ok hopen, ← hsent]
      unfold RuntimeState.dispatchStage
      split
      · exact .refl _
      split
      · rename_i hprobe
        obtain rfl : messageType = frameTypeProbe := hprobe
        split
        · exact .refl _
        · rename_i addr
          refine (growsBy_answerProbe (X := X) (rt.openStage X frame).2 sendTo clock deviceId plaintext
            addr).imp ?_
          rintro datagram ⟨hsealed, haddr, hmoved⟩
          exact ⟨deviceId, plaintext, addr, rfl, hauthentic, hsealed.sameMaps hmaps,
            haddr, hpaths.moved hmoved⟩
      · split
        · split
          · exact .refl _
          · exact .refl _
        · exact .refl _

-- ============================================================================
-- The public probe
-- ============================================================================

theorem awaitProbeReply_sent {t t' : TransportRuntime} {probeServer : SocketAddr} {deadline : Nat}
    {answers : List (Received × Nat)} {r : Result (Option PublicEndpointProbe)}
    (h : t.awaitProbeReply probeServer deadline answers = some (r, t')) : t'.sent = t.sent := by
  induction answers generalizing t with
  | nil => cases h
  | cons answer rest ih =>
      obtain ⟨received, now⟩ := answer
      cases received with
      | datagram bytes source =>
          simp only [TransportRuntime.awaitProbeReply] at h
          split at h
          · obtain ⟨-, rfl⟩ := Prod.mk.inj (Option.some.inj h)
            rfl
          · exact (ih h).trans rfl
      | wouldBlock =>
          simp only [TransportRuntime.awaitProbeReply] at h
          split at h
          · obtain ⟨-, rfl⟩ := Prod.mk.inj (Option.some.inj h)
            rfl
          · exact ih h
      | failed message =>
          obtain ⟨-, rfl⟩ := Prod.mk.inj (Option.some.inj h)
          rfl

/-- A public probe sends its request, if anything. -/
theorem growsBy_afterProbe (t : TransportRuntime) (sendTo : SendTo) (probeServer : SocketAddr) (start : Nat)
    (timeout : Duration) (answers : List (Received × Nat)) :
    GrowsBy (fun datagram => datagram = (probeServer, publicEndpointProbeRequest)) t.sent
      (t.afterProbe sendTo probeServer start timeout answers).sent := by
  rw [TransportRuntime.afterProbe]
  cases hreturned : t.probePublicEndpoint sendTo probeServer start timeout answers with
  | none => exact .refl _
  | some returned =>
      obtain ⟨r, t'⟩ := returned
      show GrowsBy _ t.sent t'.sent
      unfold TransportRuntime.probePublicEndpoint TransportRuntime.sendProbeRequest at hreturned
      cases hsend : sendTo probeServer publicEndpointProbeRequest with
      | error message =>
          simp only [hsend] at hreturned
          obtain ⟨-, rfl⟩ := Prod.mk.inj (Option.some.inj hreturned)
          exact .refl _
      | ok bytes =>
          simp only [hsend] at hreturned
          rw [awaitProbeReply_sent hreturned]
          exact .one rfl

/-- The request is no frame. -/
theorem decode_publicEndpointProbeRequest :
    ¬ ∃ decoded, EncodedFrame.decode publicEndpointProbeRequest = .ok decoded := by
  rintro ⟨decoded, hdecode⟩
  obtain ⟨header, hheader, -⟩ := Result.bind_eq_ok.mp hdecode
  have hshort : publicEndpointProbeRequest.length < headerLen := by decide +kernel
  rw [FrameHeader.decode, dif_pos hshort] at hheader
  cases hheader

-- ============================================================================
-- Sections and runs
-- ============================================================================

theorem receiveFrame_sent {t t' : TransportRuntime} {bufferLen : Nat} {received : Received}
    {r : Result (Option (Bytes × SocketAddr))} (h : t.receiveFrame bufferLen received = (r, t')) :
    t'.sent = t.sent := by
  unfold TransportRuntime.receiveFrame at h
  split at h <;>
  · obtain ⟨-, rfl⟩ := Prod.mk.inj h
    rfl

theorem arrival_udpSent {s : Section} {a : Arrival} (h : s.arrival X rt = some a) :
    a.rt.udpSent = rt.udpSent := by
  cases s with
  | udp bufferLen received sendTo clock =>
      cases htransport : rt.transport with
      | none =>
          simp only [Section.arrival, htransport] at h
          cases h
      | some transport =>
          simp only [Section.arrival, htransport] at h
          split at h
          · rename_i frame source transport' hreceived
            obtain rfl := Option.some.inj h
            show transport'.sent = _
            rw [receiveFrame_sent hreceived, RuntimeState.udpSent, htransport]
          · cases h
  | relay message sendTo clock =>
      simp only [Section.arrival] at h
      split at h
      · obtain rfl := Option.some.inj h
        rfl
      · cases h
  | _ => cases h

/-- A section of the receive loops in which no frame arrives. -/
theorem quiet_udpSent {s : Section} (h : s.arrival X rt = none)
    (hs : (∃ bufferLen received sendTo clock, s = .udp bufferLen received sendTo clock) ∨
      ∃ message sendTo clock, s = .relay message sendTo clock) :
    (s.effect X rt).udpSent = rt.udpSent := by
  rcases hs with ⟨bufferLen, received, sendTo, clock, rfl⟩ | ⟨message, sendTo, clock, rfl⟩
  · cases htransport : rt.transport with
    | none => simp only [Section.effect, RuntimeState.receiveOverlayPacket, htransport]
    | some transport =>
        simp only [Section.arrival, htransport] at h
        have hbefore : rt.udpSent = transport.sent := by rw [RuntimeState.udpSent, htransport]
        simp only [Section.effect, RuntimeState.receiveOverlayPacket, htransport]
        rw [hbefore]
        split
        · rename_i hreceived
          exact receiveFrame_sent hreceived
        · rename_i hreceived
          exact receiveFrame_sent hreceived
        · rename_i hreceived
          simp only [hreceived] at h
          cases h
  · simp only [Section.arrival] at h
    simp only [Section.effect, RuntimeState.openRelayFrame]
    split
    · rfl
    · rfl
    · rename_i hframe
      simp only [hframe] at h
      cases h

/-- A frame that arrives. -/
theorem growsBy_arrival {s : Section} {a : Arrival} (h : s.arrival X rt = some a) :
    GrowsBy (Caused X rt s) rt.udpSent (s.effect X rt).udpSent := by
  obtain ⟨heffect, transport, hrt⟩ := Section.effect_of_arrival h
  have hbefore : a.rt.udpSent = rt.udpSent := arrival_udpSent h
  have hsame : SamePaths rt a.rt := hrt ▸ samePaths_withTransport rt transport
  rw [heffect, ← hbefore]
  refine (growsBy_openReceivedFrame (X := X) a.rt a.sendTo a.clock a.frame a.source).imp ?_
  rintro ⟨addr, frame⟩ ⟨deviceId, question, source, hsource, hauthentic, hsealed, haddr, hmoved⟩
  rw [← heffect] at hmoved
  rw [hrt] at hauthentic hsealed
  exact ⟨deviceId, _, hsealed, .answer h hsource hauthentic (hsame.moved hmoved) haddr⟩

/-- Whatever a section sends has a cause. -/
theorem emitted_caused {s : Section} {datagram : SocketAddr × Bytes} (h : datagram ∈ s.emitted X rt) :
    s.AsksServer datagram ∨ Caused X rt s datagram := by
  have hnew : ∀ {P : SocketAddr × Bytes → Prop} {after : List (SocketAddr × Bytes)},
      GrowsBy P rt.udpSent after → datagram ∈ after.drop rt.udpSent.length → P datagram := by
    rintro P after ⟨more, rfl, hmore⟩ hmem
    rw [List.drop_left] at hmem
    exact hmore datagram hmem
  have hdrop : ∀ {after : List (SocketAddr × Bytes)}, GrowsBy (Caused X rt s) rt.udpSent after →
      datagram ∈ after.drop rt.udpSent.length → s.AsksServer datagram ∨ Caused X rt s datagram :=
    fun hgrows hmem => Or.inr (hnew hgrows hmem)
  cases hquiet : s.arrival X rt with
  | some a =>
      have hgrows := growsBy_arrival hquiet
      cases s with
      | udp bufferLen received sendTo clock => exact hdrop hgrows h
      | relay message sendTo clock => exact hdrop hgrows h
      | _ => cases hquiet
  | none =>
      cases s with
      | send packet sendTo net => exact hdrop (growsBy_send rt packet sendTo net) h
      | probe sendTo clock => exact hdrop (growsBy_probe rt sendTo clock) h
      | udp bufferLen received sendTo clock => exact hdrop (.of_eq (quiet_udpSent hquiet (Or.inl ⟨_, _, _, _, rfl⟩))) h
      | relay message sendTo clock => exact hdrop (.of_eq (quiet_udpSent hquiet (Or.inr ⟨_, _, _, rfl⟩))) h
      | rxDrop => exact hdrop (.of_eq (recordRxDrop_udpSent rt)) h
      | setTransport transport => cases h
      | publicProbe sendTo probeServer start timeout answers =>
          refine Or.inl ?_
          cases htransport : rt.transport with
          | none =>
              simp [Section.emitted, Section.effect, RuntimeState.udpSent, htransport] at h
          | some transport =>
              have hbefore : rt.udpSent = transport.sent := by rw [RuntimeState.udpSent, htransport]
              simp only [Section.emitted, Section.effect, htransport, Option.map_some] at h
              obtain rfl := hnew (hbefore ▸ growsBy_afterProbe transport sendTo probeServer start timeout
                answers) h
              exact ⟨rfl, sendTo, start, timeout, answers, rfl⟩
      | replace salts state => cases h
      | reload salts state => cases h
      | _ => exact hdrop (.refl _) h

/-- The session that sealed a datagram of a routed runtime was built for a listed peer. -/
theorem SealedFrom.built {persisted : CustomBackendState} {cause : Cause} {frame : Bytes}
    (hrouted : Routed X persisted rt) (h : SealedFrom X rt deviceId cause frame) :
    ∃ peer ∈ persisted.peers, peer.deviceId = deviceId ∧ ∃ crypto : PeerCryptoSession,
      BuiltFor X persisted peer crypto.asBuilt ∧
      (crypto.sealMessage X cause.payload cause.messageType).1 = .ok frame := by
  obtain ⟨session, crypto, hsession, hbuilt, hframe⟩ := h
  obtain ⟨peer, hpeer, hid, hfor⟩ := hrouted.sessions deviceId session hsession
  exact ⟨peer, hpeer, hid, crypto, hbuilt ▸ hfor, hframe⟩

/-- **Nothing leaves a backend without a cause.**  In every state of its traffic, every
    datagram that a critical section sends is the request of the public probe that runs, on
    its way to the probe server, or a frame for one of the listed peers, with its contents
    sealed under the session that was built from that peer's credential; and then it is a
    packet for the overlay address of the peer, a probe of the round that runs, or the
    answer to a probe of the peer that was just opened, on its way to the endpoint of the
    session, to an endpoint that is listed for the peer, or back to where the probe came
    from. -/
theorem datagrams_have_causes (X : Externals) (salts : Salts) (persisted : CustomBackendState)
    (traffic : List Traffic) (rt : RuntimeState)
    (hrun : run (Traffic.step X) (RuntimeState.fromPersisted X salts persisted) traffic = some rt)
    (s : Section) (addr : SocketAddr) (frame : Bytes) (hemitted : (addr, frame) ∈ s.emitted X rt) :
    s.AsksServer (addr, frame) ∨
    ∃ peer ∈ persisted.peers, ∃ cause header ciphertext crypto, BuiltFor X persisted peer crypto ∧
      EncodedFrame.decode frame = .ok ⟨header, ciphertext⟩ ∧
      fromDeviceId X.uuidParse peer.deviceId = .ok header.destination ∧
      header.messageType = cause.messageType ∧
      X.aeadEncrypt crypto.cipher header.nonce header.bytes cause.payload = some ciphertext ∧
      Causes X rt s peer.deviceId cause addr := by
  rcases emitted_caused hemitted with hasks | ⟨deviceId, cause, hsealed, hcauses⟩
  · exact Or.inl hasks
  refine Or.inr ?_
  obtain ⟨peer, hpeer, rfl, crypto, hbuilt, hframe⟩ := hsealed.built (routed_of_run hrun)
  obtain ⟨nonce, ciphertext, -, htype, hencrypt, rfl⟩ := sealMessage_eq_ok.mp hframe
  have hvalid : (FrameHeader.new crypto.localId crypto.peerId nonce cause.messageType).Valid :=
    FrameHeader.new_valid htype
  have hencode : EncodedFrame.encode ⟨FrameHeader.new crypto.localId crypto.peerId nonce
      cause.messageType, ciphertext⟩ = .ok _ := EncodedFrame.encode_eq_ok.mpr ⟨hvalid, rfl⟩
  exact ⟨peer, hpeer, cause, _, ciphertext, crypto.asBuilt, hbuilt, EncodedFrame.decode_encode hencode,
    hbuilt.peerId, rfl, hencrypt, hcauses⟩

open Reference in
/-- The probe of a backend with one peer, one second after the epoch. -/
theorem datagrams_have_causes_probe :
    ∃ rt frame, run (Traffic.step Externals.reference)
        (RuntimeState.fromPersisted Externals.reference env.salts pairedState) [.lock bindSocket] = some rt ∧
      (probeAt 1).emitted Externals.reference rt = [(⟨.v4 ⟨192, 168, 1, 30⟩, 51820⟩, frame)] ∧
      ∃ peer ∈ pairedState.peers, ∃ cause,
        Causes Externals.reference rt (probeAt 1) peer.deviceId cause ⟨.v4 ⟨192, 168, 1, 30⟩, 51820⟩ := by
  have hrun : (run (Traffic.step Externals.reference)
      (RuntimeState.fromPersisted Externals.reference env.salts pairedState) [.lock bindSocket]).any
      (fun rt => decide (((probeAt 1).emitted Externals.reference rt).map Prod.fst =
        [⟨.v4 ⟨192, 168, 1, 30⟩, 51820⟩])) = true := by
    decide +kernel
  obtain ⟨rt, hrt, hfacts⟩ := (Option.any_eq_true _ _).mp hrun
  obtain ⟨⟨addr, frame⟩, hemitted, rfl⟩ := List.map_eq_singleton_iff.mp (of_decide_eq_true hfacts)
  rcases datagrams_have_causes Externals.reference env.salts pairedState _ rt hrt (probeAt 1) _ frame
    (hemitted ▸ List.mem_singleton_self _) with hasks | ⟨peer, hpeer, cause, _, _, _, -, -, -, -, -, hcauses⟩
  · obtain ⟨-, _, _, _, _, hsection⟩ := hasks
    cases hsection
  · exact ⟨rt, frame, hrt, hemitted, peer, hpeer, cause, hcauses⟩

end TfScale.Custom
