/-
  TfScale.Custom.ProbeIsolation

  Is every candidate endpoint probed, whatever becomes of the other probes?

  The loop of `probe_peer_direct_paths` is instrumented: it notes every `send_frame`
  that it calls and every path record that it updates, and dropping the notes gives the
  loop back (`tracedProbePeerDirectPaths_snd`).  `dueRounds` is what a call has to do,
  the peers that are due and have a session, without regard to the outcome of any
  probe.  The loop leaves at the first probe that fails, with the record of that peer
  not yet updated, so it does all of this exactly when no probe fails.
-/

import TfScale.Custom.Fallback

namespace TfScale.Custom

open RuntimeState

/-- What a call of `probe_peer_direct_paths` does at the peer at position `i`. -/
inductive ProbeNote where
  | attempted (i : Nat) (endpoint : Endpoint)
  | updated (i : Nat)
deriving DecidableEq

-- ============================================================================
-- The instrumented loop
-- ============================================================================

/-- `sendProbes`, with the endpoints for which `send_frame` is called. -/
def tracedSendProbes (X : Externals) (sendTo : SendTo) (sentAt : Nat) (i : Nat) :
    List Endpoint → PeerCryptoSession → TransportRuntime → Nat →
      List ProbeNote × (Result Nat × PeerCryptoSession × TransportRuntime)
  | [], crypto, transport, sent => ([], (.ok sent, crypto, transport))
  | endpoint :: rest, crypto, transport, sent =>
      match crypto.sealMessage X (strBytes ("probe " ++ toString sentAt)) frameTypeProbe with
      | (.error error, crypto) => ([], (.error error, crypto, transport))
      | (.ok frame, crypto) =>
          match transport.sendFrame sendTo endpoint frame with
          | (.error error, transport) => ([.attempted i endpoint], (.error error, crypto, transport))
          | (.ok _, transport) =>
              let traced := tracedSendProbes X sendTo sentAt i rest crypto transport (sent + 1)
              (.attempted i endpoint :: traced.1, traced.2)

/-- `probePeers`, with its notes. -/
def tracedProbePeers (X : Externals) (sendTo : SendTo) (clock : Nat → SystemTime) :
    Nat → List StoredPeerSession → RuntimeState → TransportRuntime → Nat →
      List ProbeNote × (Result Nat × RuntimeState)
  | _, [], rt, transport, sent => ([], (.ok sent, rt.withTransport (some transport)))
  | i, peer :: peers, rt, transport, sent =>
      let rt := rt.withPathOf peer.deviceId
      if !peerPathProbeDue (rt.pathState peer.deviceId) (clock (3 * i + 1)) then
        tracedProbePeers X sendTo clock (i + 1) peers rt transport sent
      else
        match rt.peerTransportSessionsByDevice.lookup peer.deviceId with
        | none => tracedProbePeers X sendTo clock (i + 1) peers rt transport sent
        | some session =>
            match tracedSendProbes X sendTo (unixMillis (clock (3 * i + 2))) i
                (sortedUdpEndpoints peer.endpoints) session.crypto transport sent with
            | (notes, (.error error, crypto, transport)) =>
                (notes, (.error error,
                  (rt.setCrypto peer.deviceId crypto).withTransport (some transport)))
            | (notes, (.ok sent, crypto, transport)) =>
                let rest := tracedProbePeers X sendTo clock (i + 1) peers
                  (rt.roundOver clock i peer.deviceId crypto) transport sent
                (notes ++ .updated i :: rest.1, rest.2)

namespace RuntimeState

/-- `probe_peer_direct_paths`, with its notes. -/
def tracedProbePeerDirectPaths (X : Externals) (rt : RuntimeState) (sendTo : SendTo)
    (clock : Nat → SystemTime) : List ProbeNote × (Result Nat × RuntimeState) :=
  let rt := rt.expireStaleDirectPaths (clock 0)
  match rt.transport with
  | none => ([], (.ok 0, rt))
  | some transport => tracedProbePeers X sendTo clock 0 rt.persisted.peers rt transport 0

end RuntimeState

section Erasure

variable {X : Externals} {sendTo : SendTo} {clock : Nat → SystemTime}

theorem tracedSendProbes_snd (sendTo : SendTo) (sentAt i : Nat) (endpoints : List Endpoint)
    (crypto : PeerCryptoSession) (transport : TransportRuntime) (sent : Nat) :
    (tracedSendProbes X sendTo sentAt i endpoints crypto transport sent).2 =
      sendProbes X sendTo sentAt endpoints crypto transport sent := by
  induction endpoints generalizing crypto transport sent with
  | nil => rfl
  | cons endpoint rest ih =>
      rw [tracedSendProbes, sendProbes]
      rcases crypto.sealMessage X (strBytes ("probe " ++ toString sentAt)) frameTypeProbe with
        ⟨_ | frame, sealed⟩
      · rfl
      · dsimp only
        rcases transport.sendFrame sendTo endpoint frame with ⟨_ | _, transport⟩
        · rfl
        · exact ih sealed transport (sent + 1)

/-- Without its notes, the instrumented loop is the loop. -/
theorem tracedProbePeers_snd (i : Nat) (peers : List StoredPeerSession) (rt : RuntimeState)
    (transport : TransportRuntime) (sent : Nat) :
    (tracedProbePeers X sendTo clock i peers rt transport sent).2 =
      rt.probePeers X sendTo clock i peers transport sent := by
  induction peers generalizing i rt transport sent with
  | nil => rfl
  | cons peer peers ih =>
      rw [tracedProbePeers, probePeers_cons, probeRound]
      by_cases hdue : (!peerPathProbeDue ((rt.withPathOf peer.deviceId).pathState peer.deviceId)
          (clock (3 * i + 1))) = true
      · rw [if_pos hdue, if_pos hdue]
        exact ih _ _ _ _
      · rw [if_neg hdue, if_neg hdue]
        cases (rt.withPathOf peer.deviceId).peerTransportSessionsByDevice.lookup peer.deviceId with
        | none => exact ih _ _ _ _
        | some session =>
            have hsends := tracedSendProbes_snd (X := X) sendTo
              (unixMillis (clock (3 * i + 2))) i (sortedUdpEndpoints peer.endpoints) session.crypto
              transport sent
            dsimp only
            rw [← hsends]
            rcases tracedSendProbes X sendTo (unixMillis (clock (3 * i + 2))) i
              (sortedUdpEndpoints peer.endpoints) session.crypto transport sent with
              ⟨notes, _ | _, crypto, transport⟩
            · rfl
            · exact ih _ _ _ _

theorem tracedProbePeerDirectPaths_snd (rt : RuntimeState) :
    (rt.tracedProbePeerDirectPaths X sendTo clock).2 = rt.probePeerDirectPaths X sendTo clock := by
  unfold tracedProbePeerDirectPaths probePeerDirectPaths
  dsimp only
  cases (rt.expireStaleDirectPaths (clock 0)).transport with
  | none => rfl
  | some transport => exact tracedProbePeers_snd 0 _ _ transport 0

end Erasure

-- ============================================================================
-- What a call has to do
-- ============================================================================

/-- The session after a probe for each of the endpoints was sealed with it. -/
def probeSeals (X : Externals) (sentAt : Nat) (endpoints : List Endpoint)
    (crypto : PeerCryptoSession) : PeerCryptoSession :=
  endpoints.foldl (fun crypto _ =>
    (crypto.sealMessage X (strBytes ("probe " ++ toString sentAt)) frameTypeProbe).2) crypto

/-- For each of the endpoints a probe can be sealed, and the socket takes it. -/
def ProbesTaken (X : Externals) (sendTo : SendTo) (sentAt : Nat) :
    List Endpoint → PeerCryptoSession → Prop
  | [], _ => True
  | endpoint :: rest, crypto =>
      (∃ frame bytes,
        (crypto.sealMessage X (strBytes ("probe " ++ toString sentAt)) frameTypeProbe).1 = .ok frame ∧
          sendTo ⟨endpoint.address, endpoint.port⟩ frame = .ok bytes) ∧
        ProbesTaken X sendTo sentAt rest
          (crypto.sealMessage X (strBytes ("probe " ++ toString sentAt)) frameTypeProbe).2

namespace RuntimeState

variable (rt : RuntimeState) (clock : Nat → SystemTime)

/-- The session of the peer at position `i`, if the peer is due. -/
def dueSession (i : Nat) (peer : StoredPeerSession) : Option PeerTransportSession :=
  if peerPathProbeDue (rt.pathState peer.deviceId) (clock (3 * i + 1)) then
    rt.peerTransportSessionsByDevice.lookup peer.deviceId
  else none

/-- The runtime when the peer at position `i` has been dealt with: if it is due and has
    a session, every endpoint has been probed and the path record is updated. -/
def afterRound (X : Externals) (i : Nat) (peer : StoredPeerSession) : RuntimeState :=
  match (rt.withPathOf peer.deviceId).dueSession clock i peer with
  | none => rt.withPathOf peer.deviceId
  | some session => (rt.withPathOf peer.deviceId).roundOver clock i peer.deviceId
      (probeSeals X (unixMillis (clock (3 * i + 2))) (sortedUdpEndpoints peer.endpoints)
        session.crypto)

end RuntimeState

/-- The peers that are due and have a session, with their positions. -/
def dueRounds (X : Externals) (clock : Nat → SystemTime) :
    Nat → List StoredPeerSession → RuntimeState → List (Nat × StoredPeerSession)
  | _, [], _ => []
  | i, peer :: peers, rt =>
      (if ((rt.withPathOf peer.deviceId).dueSession clock i peer).isSome then [(i, peer)] else []) ++
        dueRounds X clock (i + 1) peers (rt.afterRound clock X i peer)

/-- The runtime when all peers have been dealt with. -/
def afterRounds (X : Externals) (clock : Nat → SystemTime) :
    Nat → List StoredPeerSession → RuntimeState → RuntimeState
  | _, [], rt => rt
  | i, peer :: peers, rt => afterRounds X clock (i + 1) peers (rt.afterRound clock X i peer)

/-- No probe fails: for every peer that is due and has a session, a probe can be sealed
    for every UDP endpoint, and the socket takes it. -/
def AllProbesTaken (X : Externals) (sendTo : SendTo) (clock : Nat → SystemTime) :
    Nat → List StoredPeerSession → RuntimeState → Prop
  | _, [], _ => True
  | i, peer :: peers, rt =>
      (∀ session, (rt.withPathOf peer.deviceId).dueSession clock i peer = some session →
        ProbesTaken X sendTo (unixMillis (clock (3 * i + 2))) (sortedUdpEndpoints peer.endpoints)
          session.crypto) ∧
        AllProbesTaken X sendTo clock (i + 1) peers (rt.afterRound clock X i peer)

/-- A call attempts a probe to every UDP endpoint of every peer that is due and has a
    session, and updates the record of each such peer. -/
def RuntimeState.ProbesIsolated (X : Externals) (sendTo : SendTo) (clock : Nat → SystemTime)
    (rt : RuntimeState) : Prop :=
  ∀ i peer, (i, peer) ∈ dueRounds X clock 0 rt.persisted.peers (rt.expireStaleDirectPaths (clock 0)) →
    (∀ endpoint ∈ peer.endpoints, endpoint.protocol = .udp →
      .attempted i endpoint ∈ (rt.tracedProbePeerDirectPaths X sendTo clock).1) ∧
    .updated i ∈ (rt.tracedProbePeerDirectPaths X sendTo clock).1

-- ============================================================================
-- One peer
-- ============================================================================

section Proofs

variable {X : Externals} {sendTo : SendTo} {clock : Nat → SystemTime} {rt : RuntimeState}
  {sentAt i : Nat} {endpoints : List Endpoint} {crypto : PeerCryptoSession}

theorem sendFrame_eq_ok (transport : TransportRuntime) {endpoint : Endpoint} (hudp : endpoint.protocol = .udp) {frame : Bytes}
    {bytes : Nat} (h : sendTo ⟨endpoint.address, endpoint.port⟩ frame = .ok bytes) :
    ∃ transport', transport.sendFrame sendTo endpoint frame = (.ok bytes, transport') := by
  unfold TransportRuntime.sendFrame endpointSocketAddr
  rw [if_neg (not_not_intro hudp)]
  simp only [h]
  exact ⟨_, rfl⟩

theorem sendFrame_eq_error (transport : TransportRuntime) {endpoint : Endpoint} (hudp : endpoint.protocol = .udp) {frame : Bytes}
    {message : String} (h : sendTo ⟨endpoint.address, endpoint.port⟩ frame = .error message) :
    ∃ error transport', transport.sendFrame sendTo endpoint frame = (.error error, transport') := by
  unfold TransportRuntime.sendFrame endpointSocketAddr
  rw [if_neg (not_not_intro hudp)]
  simp only [h]
  exact ⟨_, _, rfl⟩

/-- When no probe fails, each endpoint is tried in turn. -/
theorem tracedSendProbes_of_taken (i : Nat) (transport : TransportRuntime) (sent : Nat)
    (hudp : ∀ endpoint ∈ endpoints, endpoint.protocol = .udp)
    (h : ProbesTaken X sendTo sentAt endpoints crypto) :
    ∃ transport', tracedSendProbes X sendTo sentAt i endpoints crypto transport sent =
      (endpoints.map (.attempted i),
        (.ok (sent + endpoints.length), probeSeals X sentAt endpoints crypto, transport')) := by
  induction endpoints generalizing crypto transport sent with
  | nil => exact ⟨transport, rfl⟩
  | cons endpoint rest ih =>
      obtain ⟨⟨frame, bytes, hseal, hsend⟩, hrest⟩ := h
      obtain ⟨transport₁, hsent⟩ := sendFrame_eq_ok transport
        (hudp endpoint List.mem_cons_self) hsend
      obtain ⟨transport₂, htail⟩ := ih transport₁ (sent + 1)
        (fun e he => hudp e (List.mem_cons_of_mem _ he)) hrest
      refine ⟨transport₂, ?_⟩
      rw [tracedSendProbes, ← Prod.mk.eta (p := crypto.sealMessage X
        (strBytes ("probe " ++ toString sentAt)) frameTypeProbe), hseal]
      dsimp only
      rw [hsent]
      dsimp only
      rw [htail, List.length_cons, Nat.add_right_comm, Nat.add_assoc]
      rfl

/-- When a probe fails, the round does. -/
theorem tracedSendProbes_of_not_taken (i : Nat) (transport : TransportRuntime) (sent : Nat)
    (hudp : ∀ endpoint ∈ endpoints, endpoint.protocol = .udp)
    (h : ¬ ProbesTaken X sendTo sentAt endpoints crypto) :
    ∃ notes error crypto' transport',
      tracedSendProbes X sendTo sentAt i endpoints crypto transport sent =
        (notes, (.error error, crypto', transport')) ∧ .updated i ∉ notes := by
  induction endpoints generalizing crypto transport sent with
  | nil => exact absurd trivial h
  | cons endpoint rest ih =>
      rw [tracedSendProbes]
      rcases hseal : crypto.sealMessage X (strBytes ("probe " ++ toString sentAt)) frameTypeProbe with
        ⟨error | frame, sealed⟩
      · exact ⟨[], error, sealed, transport, rfl, List.not_mem_nil⟩
      · have hprotocol := hudp endpoint List.mem_cons_self
        dsimp only
        cases hsend : sendTo ⟨endpoint.address, endpoint.port⟩ frame with
        | error message =>
            obtain ⟨error, transport₁, hfailed⟩ :=
              sendFrame_eq_error transport hprotocol hsend
            rw [hfailed]
            exact ⟨_, error, sealed, transport₁, rfl, by simp⟩
        | ok bytes =>
            obtain ⟨transport₁, hsent⟩ := sendFrame_eq_ok transport hprotocol hsend
            rw [hsent]
            have hrest : ¬ ProbesTaken X sendTo sentAt rest sealed := by
              intro hrest
              refine h ⟨⟨frame, bytes, ?_, hsend⟩, ?_⟩
              · rw [hseal]
              · rw [hseal]
                exact hrest
            obtain ⟨notes, error, crypto', transport', htail, hnot⟩ := ih transport₁ (sent + 1)
              (fun e he => hudp e (List.mem_cons_of_mem _ he)) hrest
            dsimp only
            rw [htail]
            exact ⟨_, error, crypto', transport', rfl, by simpa using hnot⟩

-- ============================================================================
-- All peers
-- ============================================================================

/-- The notes of a round in which no probe fails. -/
def roundNotes (round : Nat × StoredPeerSession) : List ProbeNote :=
  (sortedUdpEndpoints round.2.endpoints).map (.attempted round.1) ++ [.updated round.1]

theorem mem_sortedUdpEndpoints {endpoints : List Endpoint} {endpoint : Endpoint} :
    endpoint ∈ sortedUdpEndpoints endpoints ↔ endpoint ∈ endpoints ∧ endpoint.protocol = .udp := by
  rw [sortedUdpEndpoints, (List.perm_insertionSort _ _).mem_iff, List.mem_filter, decide_eq_true_iff]

theorem sortedUdpEndpoints_udp (endpoints : List Endpoint) :
    ∀ endpoint ∈ sortedUdpEndpoints endpoints, endpoint.protocol = .udp :=
  fun _ hmem => (mem_sortedUdpEndpoints.mp hmem).2

/-- The loop passes over a peer that is not due or has no session. -/
theorem tracedProbePeers_none {transport : TransportRuntime} {sent : Nat} {peer : StoredPeerSession} {peers : List StoredPeerSession}
    (h : (rt.withPathOf peer.deviceId).dueSession clock i peer = none) :
    tracedProbePeers X sendTo clock i (peer :: peers) rt transport sent =
      tracedProbePeers X sendTo clock (i + 1) peers (rt.withPathOf peer.deviceId) transport sent := by
  rw [tracedProbePeers]
  unfold dueSession at h
  by_cases hdue : peerPathProbeDue ((rt.withPathOf peer.deviceId).pathState peer.deviceId)
      (clock (3 * i + 1)) = true
  · rw [if_pos hdue] at h
    simp only [hdue, h, Bool.not_true, Bool.false_eq_true, if_false]
  · simp only [hdue, Bool.not_false, if_true]

theorem tracedProbePeers_some {transport : TransportRuntime} {sent : Nat} {peer : StoredPeerSession} {peers : List StoredPeerSession}
    {session : PeerTransportSession}
    (h : (rt.withPathOf peer.deviceId).dueSession clock i peer = some session) :
    tracedProbePeers X sendTo clock i (peer :: peers) rt transport sent =
      match tracedSendProbes X sendTo (unixMillis (clock (3 * i + 2))) i
          (sortedUdpEndpoints peer.endpoints) session.crypto transport sent with
      | (notes, (.error error, crypto, transport)) =>
          (notes, (.error error,
            ((rt.withPathOf peer.deviceId).setCrypto peer.deviceId crypto).withTransport
              (some transport)))
      | (notes, (.ok sent, crypto, transport)) =>
          let rest := tracedProbePeers X sendTo clock (i + 1) peers
            ((rt.withPathOf peer.deviceId).roundOver clock i peer.deviceId crypto) transport sent
          (notes ++ .updated i :: rest.1, rest.2) := by
  rw [tracedProbePeers]
  unfold dueSession at h
  by_cases hdue : peerPathProbeDue ((rt.withPathOf peer.deviceId).pathState peer.deviceId)
      (clock (3 * i + 1)) = true
  · rw [if_pos hdue] at h
    simp only [hdue, h, Bool.not_true, Bool.false_eq_true, if_false]
  · rw [if_neg hdue] at h
    cases h

theorem afterRound_none {peer : StoredPeerSession}
    (h : (rt.withPathOf peer.deviceId).dueSession clock i peer = none) :
    rt.afterRound clock X i peer = rt.withPathOf peer.deviceId := by
  rw [afterRound, h]

theorem afterRound_some {peer : StoredPeerSession} {session : PeerTransportSession}
    (h : (rt.withPathOf peer.deviceId).dueSession clock i peer = some session) :
    rt.afterRound clock X i peer = (rt.withPathOf peer.deviceId).roundOver clock i peer.deviceId
      (probeSeals X (unixMillis (clock (3 * i + 2))) (sortedUdpEndpoints peer.endpoints)
        session.crypto) := by
  rw [afterRound, h]

theorem le_of_mem_dueRounds {peers : List StoredPeerSession} {j : Nat} {peer : StoredPeerSession}
    (h : (j, peer) ∈ dueRounds X clock i peers rt) : i ≤ j := by
  induction peers generalizing i rt with
  | nil => cases h
  | cons first peers ih =>
      rcases List.mem_append.mp h with hfirst | hrest
      · split at hfirst
        · obtain ⟨rfl, -⟩ := Prod.mk.inj (List.mem_singleton.mp hfirst)
          exact Nat.le_refl j
        · cases hfirst
      · exact Nat.le_of_succ_le (ih hrest)

/-- When no probe fails, the loop does what it has to do and returns. -/
theorem tracedProbePeers_of_taken {peers : List StoredPeerSession} (transport : TransportRuntime)
    (sent : Nat) (h : AllProbesTaken X sendTo clock i peers rt) :
    ∃ transport' sent', tracedProbePeers X sendTo clock i peers rt transport sent =
      ((dueRounds X clock i peers rt).flatMap roundNotes,
        (.ok sent', (afterRounds X clock i peers rt).withTransport (some transport'))) := by
  induction peers generalizing i rt transport sent with
  | nil => exact ⟨transport, sent, rfl⟩
  | cons peer peers ih =>
      obtain ⟨hround, hrest⟩ := h
      cases hdue : (rt.withPathOf peer.deviceId).dueSession clock i peer with
      | none =>
          obtain ⟨transport', sent', htail⟩ := ih transport sent hrest
          refine ⟨transport', sent', ?_⟩
          rw [tracedProbePeers_none hdue, dueRounds, hdue, afterRounds]
          rw [afterRound_none hdue] at htail ⊢
          exact htail
      | some session =>
          obtain ⟨transport₁, hsends⟩ := tracedSendProbes_of_taken i transport sent
            (sortedUdpEndpoints_udp _) (hround session hdue)
          obtain ⟨transport', sent', htail⟩ := ih transport₁
            (sent + (sortedUdpEndpoints peer.endpoints).length) hrest
          refine ⟨transport', sent', ?_⟩
          rw [afterRound_some hdue] at htail
          rw [tracedProbePeers_some hdue, hsends, dueRounds, hdue, afterRounds, afterRound_some hdue]
          dsimp only
          rw [htail, Option.isSome_some, if_pos rfl, List.singleton_append, List.flatMap_cons]
          rw [roundNotes, List.append_assoc, List.singleton_append]

/-- When a probe fails, the record of some peer that is due is not updated. -/
theorem not_updated_of_not_taken {peers : List StoredPeerSession} (transport : TransportRuntime)
    (sent : Nat) (h : ¬ AllProbesTaken X sendTo clock i peers rt) :
    ∃ j peer, (j, peer) ∈ dueRounds X clock i peers rt ∧
      .updated j ∉ (tracedProbePeers X sendTo clock i peers rt transport sent).1 := by
  induction peers generalizing i rt transport sent with
  | nil => exact absurd trivial h
  | cons peer peers ih =>
      cases hdue : (rt.withPathOf peer.deviceId).dueSession clock i peer with
      | none =>
          have hrest : ¬ AllProbesTaken X sendTo clock (i + 1) peers (rt.withPathOf peer.deviceId) := by
            rw [← afterRound_none (X := X) hdue]
            exact fun hrest => h ⟨fun session hsession => (nomatch hdue.symm.trans hsession), hrest⟩
          obtain ⟨j, peer', hmem, hnot⟩ := ih transport sent hrest
          refine ⟨j, peer', ?_, ?_⟩
          · rw [dueRounds, afterRound_none hdue]
            exact List.mem_append_right _ hmem
          · rw [tracedProbePeers_none hdue]
            exact hnot
      | some session =>
          rw [tracedProbePeers_some hdue, dueRounds, hdue, Option.isSome_some, if_pos rfl]
          by_cases hround : ProbesTaken X sendTo (unixMillis (clock (3 * i + 2)))
              (sortedUdpEndpoints peer.endpoints) session.crypto
          · obtain ⟨transport₁, hsends⟩ := tracedSendProbes_of_taken i transport sent
              (sortedUdpEndpoints_udp _) hround
            have hrest : ¬ AllProbesTaken X sendTo clock (i + 1) peers (rt.afterRound clock X i peer) := by
              refine fun hrest => h ⟨fun session' hsession' => ?_, hrest⟩
              obtain rfl := Option.some.inj (hdue.symm.trans hsession')
              exact hround
            obtain ⟨j, peer', hmem, hnot⟩ := ih transport₁
              (sent + (sortedUdpEndpoints peer.endpoints).length) hrest
            rw [afterRound_some hdue] at hmem hnot ⊢
            refine ⟨j, peer', List.mem_append_right _ hmem, ?_⟩
            rw [hsends]
            -- a later position, so neither a note of this round nor one of the rest
            have hlt : i < j := le_of_mem_dueRounds hmem
            have hne : j ≠ i := by omega
            simpa [hne] using hnot
          · obtain ⟨notes, error, crypto, transport₁, hsends, hnot⟩ :=
              tracedSendProbes_of_not_taken i transport sent
                (sortedUdpEndpoints_udp _) hround
            refine ⟨i, peer, List.mem_append_left _ List.mem_cons_self, ?_⟩
            rw [hsends]
            exact hnot

theorem tracedProbePeerDirectPaths_eq (X : Externals) (sendTo : SendTo) (clock : Nat → SystemTime)
    {transport : TransportRuntime} (hbound : rt.transport = some transport) :
    rt.tracedProbePeerDirectPaths X sendTo clock =
      tracedProbePeers X sendTo clock 0 rt.persisted.peers (rt.expireStaleDirectPaths (clock 0))
        transport 0 := by
  have hsame : (rt.expireStaleDirectPaths (clock 0)).transport = some transport := hbound
  unfold tracedProbePeerDirectPaths
  simp only [hsame]
  rfl

/-- **Isolated probes.**  A call with a bound transport attempts a probe to every UDP
    endpoint of every peer that is due and has a session, and updates the record of each
    such peer, exactly when none of these probes fails; and then every path record is
    what it has to be. -/
theorem probing_isolated_iff (X : Externals) (sendTo : SendTo) (clock : Nat → SystemTime)
    (rt : RuntimeState) (transport : TransportRuntime) (hbound : rt.transport = some transport) :
    (rt.ProbesIsolated X sendTo clock ↔
      AllProbesTaken X sendTo clock 0 rt.persisted.peers (rt.expireStaleDirectPaths (clock 0))) ∧
    (AllProbesTaken X sendTo clock 0 rt.persisted.peers (rt.expireStaleDirectPaths (clock 0)) →
      ∃ sent, (rt.probePeerDirectPaths X sendTo clock).1 = .ok sent ∧
        (rt.probePeerDirectPaths X sendTo clock).2.peerPathStateByDevice =
          (afterRounds X clock 0 rt.persisted.peers
            (rt.expireStaleDirectPaths (clock 0))).peerPathStateByDevice) := by
  have htraced := tracedProbePeerDirectPaths_eq X sendTo clock hbound
  refine ⟨⟨fun hisolated => ?_, fun htaken i peer hmem => ?_⟩, fun htaken => ?_⟩
  · by_contra hfailed
    obtain ⟨j, peer, hmem, hnot⟩ := not_updated_of_not_taken transport 0 hfailed
    rw [← htraced] at hnot
    exact hnot (hisolated j peer hmem).2
  · obtain ⟨transport', sent', hloop⟩ :=
      tracedProbePeers_of_taken transport 0 htaken
    have hnotes : ∀ note ∈ roundNotes (i, peer),
        note ∈ (rt.tracedProbePeerDirectPaths X sendTo clock).1 := by
      intro note hnote
      rw [htraced, hloop]
      exact List.mem_flatMap.mpr ⟨(i, peer), hmem, hnote⟩
    refine ⟨fun endpoint hendpoint hudp => hnotes _ ?_, hnotes _ ?_⟩
    · exact List.mem_append_left _
        (List.mem_map_of_mem (mem_sortedUdpEndpoints.mpr ⟨hendpoint, hudp⟩))
    · exact List.mem_append_right _ List.mem_cons_self
  · obtain ⟨transport', sent', hloop⟩ :=
      tracedProbePeers_of_taken transport 0 htaken
    rw [← tracedProbePeerDirectPaths_snd, htraced, hloop]
    exact ⟨sent', rfl, rfl⟩

end Proofs

namespace Reference

/-- Two peers; the first has an IPv6 endpoint beside its IPv4 one. -/
def dualStackState : CustomBackendState :=
  { pairedState with peers :=
      [⟨"dev_00000000000000000000000000000002", "b", ⟨100, 64, 0, 3⟩, credential 2,
        [⟨.ipv6, .v6 ⟨.replicate 16 1⟩, 51820, .udp⟩, ⟨.public, .v4 ⟨203, 0, 113, 7⟩, 40000, .udp⟩],
        ["100.64.0.3/32"], 0⟩,
       ⟨"dev_00000000000000000000000000000003", "c", ⟨100, 64, 0, 4⟩, credential 3,
        [⟨.lan, .v4 ⟨192, 168, 1, 31⟩, 51820, .udp⟩], ["100.64.0.4/32"], 0⟩] }

def socketTransport : TransportRuntime :=
  ⟨0, ⟨.lan, .v4 ⟨0, 0, 0, 0⟩, 51820, .udp⟩, .default, []⟩

def boundTo (state : CustomBackendState) : RuntimeState :=
  (RuntimeState.fromPersisted Externals.reference env.salts state).withTransport (some socketTransport)

/-- A socket that is bound to an IPv4 address. -/
def ipv4Only : SendTo := fun addr frame =>
  match addr.ip with
  | .v4 _ => .ok frame.length
  | .v6 _ => .error "Address family not supported by protocol"

/-- Both peers are due and have sessions. -/
theorem dueRounds_dualStackState :
    (dueRounds Externals.reference env.clock 0 dualStackState.peers
      ((boundTo dualStackState).expireStaleDirectPaths (env.clock 0))).map Prod.fst = [0, 1] := by
  decide +kernel

end Reference

open Reference in
/-- The IPv6 endpoint ends the call: both peers are due and have sessions, and neither
    the IPv4 endpoint of the first nor the second peer is probed. -/
theorem ipv6_endpoint_ends_probing :
    (dueRounds Externals.reference env.clock 0 dualStackState.peers
        ((boundTo dualStackState).expireStaleDirectPaths (env.clock 0))).map Prod.fst = [0, 1] ∧
      ((boundTo dualStackState).tracedProbePeerDirectPaths Externals.reference ipv4Only env.clock).1 =
        [.attempted 0 ⟨.ipv6, .v6 ⟨.replicate 16 1⟩, 51820, .udp⟩] ∧
      ¬ (boundTo dualStackState).ProbesIsolated Externals.reference ipv4Only env.clock := by
  have hdue := dueRounds_dualStackState
  have hnotes : ((boundTo dualStackState).tracedProbePeerDirectPaths Externals.reference ipv4Only
      env.clock).1 = [.attempted 0 ⟨.ipv6, .v6 ⟨.replicate 16 1⟩, 51820, .udp⟩] := by
    decide +kernel
  refine ⟨hdue, hnotes, fun hisolated => ?_⟩
  have hfirst : (1 : Nat) ∈ (dueRounds Externals.reference env.clock 0 dualStackState.peers
      ((boundTo dualStackState).expireStaleDirectPaths (env.clock 0))).map Prod.fst := by
    rw [hdue]
    decide
  obtain ⟨⟨i, peer⟩, hmem, rfl⟩ := List.mem_map.mp hfirst
  have hupdated := (hisolated 1 peer hmem).2
  rw [hnotes] at hupdated
  cases List.mem_singleton.mp hupdated

open Reference in
/-- A socket that takes both families: each endpoint of each peer is probed, in the order
    of their ranks, and both records are updated. -/
theorem probing_isolated_dual_stack :
    (boundTo dualStackState).ProbesIsolated Externals.reference env.sendTo env.clock := by
  have hnotes : (tracedProbePeers Externals.reference env.sendTo env.clock 0 dualStackState.peers
      ((boundTo dualStackState).expireStaleDirectPaths (env.clock 0)) socketTransport 0).1 =
        [.attempted 0 ⟨.ipv6, .v6 ⟨.replicate 16 1⟩, 51820, .udp⟩,
          .attempted 0 ⟨.public, .v4 ⟨203, 0, 113, 7⟩, 40000, .udp⟩, .updated 0,
          .attempted 1 ⟨.lan, .v4 ⟨192, 168, 1, 31⟩, 51820, .udp⟩, .updated 1] := by
    decide +kernel
  have htaken : AllProbesTaken Externals.reference env.sendTo env.clock 0 dualStackState.peers
      ((boundTo dualStackState).expireStaleDirectPaths (env.clock 0)) := by
    by_contra hfailed
    obtain ⟨j, peer, hmem, hnot⟩ := not_updated_of_not_taken socketTransport 0 hfailed
    have hj : j ∈ [0, 1] := by
      rw [← dueRounds_dualStackState]
      exact List.mem_map_of_mem hmem
    rw [hnotes] at hnot
    simp only [List.mem_cons, List.not_mem_nil, or_false] at hj
    rcases hj with rfl | rfl <;> simp at hnot
  exact (probing_isolated_iff Externals.reference env.sendTo env.clock (boundTo dualStackState)
    socketTransport rfl).1.mpr htaken

end TfScale.Custom
