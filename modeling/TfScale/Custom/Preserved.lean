/-
  TfScale.Custom.Preserved

  What the data path leaves alone.

  Sending, probing and receiving write to the path states, to the transport and to
  the crypto sessions; the maps that `from_persisted` builds from the list of peers
  stay.  Of a crypto session, sealing moves the send counter only and opening the
  receive window only, so every `view` of a session that does not look at what an
  operation moves is preserved by it.
-/

import TfScale.Custom.Paths

namespace TfScale.Custom

open PeerCryptoSession

variable {α : Type} {view : PeerCryptoSession → α} {X : Externals} {rt rt' rt'' : RuntimeState}

/-- The maps of the peers are the same, and so is the view of every session. -/
structure SameMaps (view : PeerCryptoSession → α) (rt rt' : RuntimeState) : Prop where
  persisted : rt'.persisted = rt.persisted
  overlayIps : rt'.peersByOverlayIp = rt.peersByOverlayIp
  frameIds : rt'.peerDeviceByFrameId = rt.peerDeviceByFrameId
  sessions : ∀ d, (rt'.peerTransportSessionsByDevice.lookup d).map (fun s => view s.crypto) =
    (rt.peerTransportSessionsByDevice.lookup d).map fun s => view s.crypto

/-- So are the relays. -/
structure Preserves (view : PeerCryptoSession → α) (rt rt' : RuntimeState) : Prop
    extends SameMaps view rt rt' where
  relays : rt'.relays = rt.relays

namespace Preserves

theorem refl (rt : RuntimeState) : Preserves view rt rt := ⟨⟨rfl, rfl, rfl, fun _ => rfl⟩, rfl⟩

theorem trans (h : Preserves view rt rt') (h' : Preserves view rt' rt'') : Preserves view rt rt'' where
  persisted := h'.persisted.trans h.persisted
  overlayIps := h'.overlayIps.trans h.overlayIps
  frameIds := h'.frameIds.trans h.frameIds
  sessions := fun d => (h'.sessions d).trans (h.sessions d)
  relays := h'.relays.trans h.relays

theorem setCrypto {deviceId : String} {session : PeerTransportSession} {crypto : PeerCryptoSession}
    (hs : rt.peerTransportSessionsByDevice.lookup deviceId = some session)
    (hview : view crypto = view session.crypto) :
    Preserves view rt (rt.setCrypto deviceId crypto) where
  persisted := rfl
  overlayIps := rfl
  frameIds := rfl
  sessions := by
    intro d
    simp only [RuntimeState.setCrypto, HashMap.lookup_modify]
    by_cases hd : d = deviceId
    · subst hd
      rw [if_pos rfl, hs]
      exact congrArg some hview
    · rw [if_neg hd]
  relays := rfl

theorem withTransport (rt : RuntimeState) (t : Option TransportRuntime) :
    Preserves view rt (rt.withTransport t) := ⟨⟨rfl, rfl, rfl, fun _ => rfl⟩, rfl⟩

theorem withRelaySender (rt : RuntimeState) (s : RelayFrameSender) :
    Preserves view rt (rt.withRelaySender s) := ⟨⟨rfl, rfl, rfl, fun _ => rfl⟩, rfl⟩

theorem withPaths (rt : RuntimeState) (paths : HashMap String PeerPathState) :
    Preserves view rt (rt.withPaths paths) := ⟨⟨rfl, rfl, rfl, fun _ => rfl⟩, rfl⟩

theorem markPeerDirect (rt : RuntimeState) (deviceId : String) (endpoint : Endpoint)
    (rttMs : Option UInt64) (now : SystemTime) :
    Preserves view rt (rt.markPeerDirect deviceId endpoint rttMs now) where
  persisted := rfl
  overlayIps := rfl
  frameIds := rfl
  sessions := by
    intro d
    simp only [RuntimeState.markPeerDirect, HashMap.lookup_modify]
    by_cases hd : d = deviceId
    · subst hd
      rw [if_pos rfl, Option.map_map]
      rfl
    · rw [if_neg hd]
  relays := rfl

end Preserves

-- ============================================================================
-- Sending and probing
-- ============================================================================

section Sealing

variable (hseal : ∀ (s : PeerCryptoSession) plaintext messageType,
  view (s.sealMessage X plaintext messageType).2 = view s)
include hseal

theorem preserves_sendOverlayPacket (rt : RuntimeState) (sendTo : SendTo) (net : RelayNet)
    (packet : Bytes) : Preserves view rt (rt.sendOverlayPacket X sendTo net packet).2 := by
  unfold RuntimeState.sendOverlayPacket
  split
  · exact .refl rt
  split
  · exact .refl rt
  split
  · exact .refl rt
  rename_i deviceId _ _ session hs
  have hsealed : Preserves view rt (rt.setCrypto deviceId (session.crypto.«seal» X packet).2) :=
    .setCrypto hs (hseal _ _ _)
  simp only
  split
  · exact hsealed
  split
  · exact hsealed.trans (.withRelaySender _ _)
  split
  · exact hsealed
  · exact hsealed.trans (.withTransport _ _)

theorem sendProbes_view (sendTo : SendTo) (sentAt : Nat) (endpoints : List Endpoint)
    (crypto : PeerCryptoSession) (transport : TransportRuntime) (sent : Nat) :
    view (RuntimeState.sendProbes X sendTo sentAt endpoints crypto transport sent).2.1 =
      view crypto := by
  induction endpoints generalizing crypto transport sent with
  | nil => rfl
  | cons endpoint rest ih =>
      have hcrypto := hseal crypto (strBytes ("probe " ++ toString sentAt)) frameTypeProbe
      unfold RuntimeState.sendProbes
      split
      · rename_i error crypto' heq
        rw [heq] at hcrypto
        exact hcrypto
      · rename_i frame crypto' heq
        rw [heq] at hcrypto
        split
        · exact hcrypto
        · rw [ih]
          exact hcrypto

theorem preserves_probePeers (sendTo : SendTo) (clock : Nat → SystemTime) (i : Nat)
    (peers : List StoredPeerSession) (rt : RuntimeState) (transport : TransportRuntime) (sent : Nat) :
    Preserves view rt (RuntimeState.probePeers X sendTo clock i peers rt transport sent).2 := by
  induction peers generalizing i rt transport sent with
  | nil => exact .withTransport _ _
  | cons peer peers ih =>
      unfold RuntimeState.probePeers
      -- the entry of the path map is made before anything else
      have hentry : Preserves view rt (rt.withPaths
        (rt.peerPathStateByDevice.upsert peer.deviceId PeerPathState.default id)) := .withPaths _ _
      generalize rt.withPaths
        (rt.peerPathStateByDevice.upsert peer.deviceId PeerPathState.default id) = rt₁ at hentry ⊢
      refine hentry.trans ?_
      simp only
      split
      · exact ih _ _ _ _
      split
      · exact ih _ _ _ _
      rename_i session hs
      have hcrypto := sendProbes_view hseal sendTo (unixMillis (clock (3 * i + 2)))
        (sortedUdpEndpoints peer.endpoints) session.crypto transport sent
      split
      · rename_i error crypto transport' heq
        rw [heq] at hcrypto
        exact (Preserves.setCrypto hs hcrypto).trans (.withTransport _ _)
      · rename_i sent' crypto transport' heq
        rw [heq] at hcrypto
        exact ((Preserves.setCrypto hs hcrypto).trans (.withPaths _ _)).trans (ih _ _ _ _)

theorem preserves_probePeerDirectPaths (rt : RuntimeState) (sendTo : SendTo)
    (clock : Nat → SystemTime) : Preserves view rt (rt.probePeerDirectPaths X sendTo clock).2 := by
  have hexpired : Preserves view rt (rt.expireStaleDirectPaths (clock 0)) := .withPaths _ _
  unfold RuntimeState.probePeerDirectPaths
  simp only
  split
  · exact hexpired
  · exact hexpired.trans (preserves_probePeers hseal _ _ _ _ _ _ _)

-- ============================================================================
-- Receiving
-- ============================================================================

theorem preserves_answerProbe (rt : RuntimeState) (sendTo : SendTo) (clock : Nat → SystemTime)
    (deviceId : String) (plaintext : Bytes) (source : SocketAddr) :
    Preserves view rt (rt.answerProbe X sendTo clock deviceId plaintext source).2 := by
  unfold RuntimeState.answerProbe
  split
  · exact .refl rt
  rename_i session hs
  simp only
  have hsealed := Preserves.setCrypto hs (hseal session.crypto
    (encodeProbeResponsePayload plaintext (unixMillis (clock 0))) frameTypeProbeResponse)
  split
  · exact hsealed
  split
  · exact hsealed
  split
  · exact hsealed.trans (.withTransport _ _)
  · exact (hsealed.trans (.withTransport _ _)).trans (.markPeerDirect _ _ _ _ _)

theorem preserves_dispatchStage (rt : RuntimeState) (sendTo : SendTo) (clock : Nat → SystemTime)
    (source : Option SocketAddr) (deviceId : String) (opened : OpenFrame) :
    Preserves view rt (rt.dispatchStage X sendTo clock source deviceId opened).2 := by
  unfold RuntimeState.dispatchStage
  split
  · exact .refl rt
  split
  · split
    · exact .refl rt
    · exact preserves_answerProbe hseal rt _ _ _ _ _
  split
  · split
    · exact .refl rt
    · exact .markPeerDirect rt _ _ _ _
  · exact .refl rt

variable (hopen : ∀ (s : PeerCryptoSession) frame, view (s.openMessage X frame).2 = view s)
include hopen

omit hseal in
theorem preserves_openStage (rt : RuntimeState) (frame : Bytes) :
    Preserves view rt (rt.openStage X frame).2 := by
  rcases openStage_cases (X := X) rt frame with ⟨e, heq⟩ | ⟨deviceId, session, -, hs, heq⟩
  · rw [heq]
    exact .withTransport rt _
  · have hopened := Preserves.setCrypto hs (hopen session.crypto frame)
    rw [heq]
    split
    · exact hopened.trans (.withTransport _ _)
    · exact hopened

theorem preserves_openReceivedFrame (rt : RuntimeState) (sendTo : SendTo) (clock : Nat → SystemTime)
    (frame : Bytes) (source : Option SocketAddr) :
    Preserves view rt (rt.openReceivedFrame X sendTo clock frame source).2 := by
  have hstage := preserves_openStage hopen rt frame
  cases hopened : (rt.openStage X frame).1 with
  | error e =>
      rw [openReceivedFrame_of_refused hopened]
      exact hstage
  | ok r =>
      obtain ⟨deviceId, opened⟩ := r
      rw [openReceivedFrame_of_ok hopened]
      exact hstage.trans (preserves_dispatchStage hseal _ _ _ _ _ _)

theorem preserves_openRelayFrame (rt : RuntimeState) (sendTo : SendTo) (clock : Nat → SystemTime)
    (message : RelayMessage) : Preserves view rt (rt.openRelayFrame X sendTo clock message).2 := by
  unfold RuntimeState.openRelayFrame
  split
  · exact .refl rt
  · exact .refl rt
  · exact preserves_openReceivedFrame hseal hopen rt _ _ _ _

theorem preserves_receiveOverlayPacket (rt : RuntimeState) (sendTo : SendTo)
    (clock : Nat → SystemTime) (bufferLen : Nat) (received : Received) :
    Preserves view rt (rt.receiveOverlayPacket X sendTo clock bufferLen received).2 := by
  unfold RuntimeState.receiveOverlayPacket
  split
  · exact .refl rt
  split
  · exact .withTransport rt _
  · exact .withTransport rt _
  · exact (Preserves.withTransport rt _).trans (preserves_openReceivedFrame hseal hopen _ _ _ _ _)

end Sealing

end TfScale.Custom
