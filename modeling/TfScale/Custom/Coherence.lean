/-
  TfScale.Custom.Coherence

  The path record of a peer and the session its frames are sent with live in two
  maps.  This module shows that they never disagree.

  `PeerPathState.Coherent` is what the record of one peer must satisfy against the
  endpoint of its session; `RuntimeState.Coherent` asks it of every record, and that
  the records are those of the persisted peers.  Records are written in four places
  (a new one, `mark_peer_direct`, an expiry, the end of a probe round) and there is
  one lemma for each; everything else leaves records and endpoints alone.
-/

import TfScale.Custom.Preserved
import TfScale.Custom.Sections

namespace TfScale.Custom

variable {X : Externals} {rt rt' : RuntimeState}

-- ============================================================================
-- One peer
-- ============================================================================

namespace PeerPathState

/-- The record agrees with the endpoint that the peer's session sends to. -/
structure Coherent (sessionEndpoint : Option Endpoint) (state : PeerPathState) : Prop where
  direct : state.currentPath = .direct →
    (∃ endpoint, state.activeEndpoint = some endpoint ∧ sessionEndpoint = some endpoint) ∧
      (∃ success, state.lastSuccessAt = some success) ∧ state.fastProbeAttemptsRemaining = 0
  relay : state.currentPath = .relay →
    (∃ endpoint, state.activeEndpoint = some endpoint ∧ endpoint.kind = .relay) ∧ state.rttMs = none
  unknown : state.currentPath = .unknown → state.activeEndpoint = none ∧ state.rttMs = none
  fastProbes : state.fastProbeAttemptsRemaining ≤ 8

variable {endpoint : Option Endpoint} {state : PeerPathState}

/-- A new record: nothing is known, the fast probes are all left. -/
theorem coherent_default : PeerPathState.default.Coherent endpoint where
  direct := fun h => nomatch h
  relay := fun h => nomatch h
  unknown := fun _ => ⟨rfl, rfl⟩
  fastProbes := by decide

/-- `mark_peer_direct` writes the record and the endpoint together. -/
theorem coherent_markDirect (e : Endpoint) (rttMs : Option UInt64) (now : SystemTime)
    (state : PeerPathState) : (state.markDirect e rttMs now).Coherent (some e) where
  direct := fun _ => ⟨⟨e, rfl, rfl⟩, ⟨now, rfl⟩, rfl⟩
  relay := fun h => nomatch h
  unknown := fun h => nomatch h
  fastProbes := (by decide : (0 : UInt8) ≤ 8)

/-- Of a coherent record, the parts a probe round writes do not matter, except that
    the number of fast probes goes down. -/
theorem Coherent.probed (h : state.Coherent endpoint) (now : SystemTime) (sentAt : Nat) :
    (state.probed now sentAt).Coherent endpoint where
  direct := by
    intro hdirect
    obtain ⟨hendpoint, hsuccess, hfast⟩ := h.direct hdirect
    refine ⟨hendpoint, hsuccess, ?_⟩
    show (if state.fastProbeAttemptsRemaining > 0 then _ else _) = _
    rw [hfast]
    rfl
  relay := h.relay
  unknown := h.unknown
  fastProbes := by
    have hle := h.fastProbes
    show (if state.fastProbeAttemptsRemaining > 0 then _ else _) ≤ _
    split
    · rename_i hpos
      rw [UInt8.le_iff_toNat_le] at hle ⊢
      have hone : (1 : UInt8) ≤ state.fastProbeAttemptsRemaining := by
        rw [UInt8.le_iff_toNat_le]
        exact UInt8.lt_iff_toNat_lt.mp hpos
      rw [UInt8.toNat_sub_of_le _ _ hone]
      omega
    · exact hle

/-- What an expiry can do to a record: nothing but count a failure, or take a direct
    path down to the relay or to nothing. -/
theorem expire_cases (relays : List RelayConfig) (now : SystemTime) (state : PeerPathState) :
    (∃ failures, state.expire relays now = { state with failures }) ∨
      ∃ failures path active, state.expire relays now =
        { state with
          currentPath := path
          activeEndpoint := active
          failures := failures
          rttMs := none
          fastProbeAttemptsRemaining := directFastProbeBurstAttempts } ∧
        (path = .unknown ∧ active = none ∨ path = .relay ∧ active = some relayEndpoint) := by
  by_cases hdirect : state.currentPath ≠ .direct
  · rw [expire, if_pos hdirect]
    exact Or.inl ⟨state.failures, rfl⟩
  · rw [expire, if_neg hdirect]
    simp only
    split_ifs
    -- stale with no relay left, stale with a relay, stale below the threshold, ...
    · exact Or.inr ⟨saturatingSucc state.failures, .unknown, none, rfl, Or.inl ⟨rfl, rfl⟩⟩
    · exact Or.inr ⟨saturatingSucc state.failures, .relay, some relayEndpoint, rfl,
        Or.inr ⟨rfl, rfl⟩⟩
    · exact Or.inl ⟨saturatingSucc state.failures, rfl⟩
    -- ... and the same three for a path that is not stale
    · exact Or.inr ⟨state.failures, .unknown, none, rfl, Or.inl ⟨rfl, rfl⟩⟩
    · exact Or.inr ⟨state.failures, .relay, some relayEndpoint, rfl, Or.inr ⟨rfl, rfl⟩⟩
    · exact Or.inl ⟨state.failures, rfl⟩

/-- A record that expires leads to the relay or nowhere, and may be probed fast again. -/
theorem Coherent.expire (h : state.Coherent endpoint) (relays : List RelayConfig)
    (now : SystemTime) : (state.expire relays now).Coherent endpoint := by
  rcases expire_cases relays now state with
    ⟨failures, heq⟩ | ⟨failures, path, active, heq, ⟨rfl, rfl⟩ | ⟨rfl, rfl⟩⟩
  · rw [heq]
    exact ⟨h.direct, h.relay, h.unknown, h.fastProbes⟩
  · rw [heq]
    exact {
      direct := fun hp => nomatch hp
      relay := fun hp => nomatch hp
      unknown := fun _ => ⟨rfl, rfl⟩
      fastProbes := (by decide : (8 : UInt8) ≤ 8) }
  · rw [heq]
    exact {
      direct := fun hp => nomatch hp
      relay := fun _ => ⟨⟨relayEndpoint, rfl, rfl⟩, rfl⟩
      unknown := fun hp => nomatch hp
      fastProbes := (by decide : (8 : UInt8) ≤ 8) }

end PeerPathState

-- ============================================================================
-- All peers
-- ============================================================================

namespace RuntimeState

/-- The device ids of the persisted peers. -/
def peerIds (rt : RuntimeState) : List String := rt.persisted.peers.map (·.deviceId)

/-- Every path record agrees with the session of its peer, and the records are those
    of the persisted peers; only these have sessions. -/
structure Coherent (rt : RuntimeState) : Prop where
  records : ∀ d state, rt.peerPathStateByDevice.lookup d = some state →
    state.Coherent (rt.sessionEndpoint d)
  keys : ∀ d, d ∈ rt.peerPathStateByDevice ↔ d ∈ rt.peerIds
  sessions : ∀ d session, rt.peerTransportSessionsByDevice.lookup d = some session →
    ∃ peer ∈ rt.persisted.peers, peer.deviceId = d ∧ peer.overlayIp = session.overlayIp

/-- The overlay address that a device's session belongs to. -/
def sessionOverlayIp (rt : RuntimeState) (deviceId : String) : Option Ipv4Addr :=
  (rt.peerTransportSessionsByDevice.lookup deviceId).map (·.overlayIp)

end RuntimeState

open RuntimeState (Coherent)

/-- Coherence looks at the records, at the session endpoints and at the peers. -/
theorem RuntimeState.Coherent.of_same (h : Coherent rt) (hpeers : rt'.persisted = rt.persisted)
    (hsame : SamePaths rt rt') (hips : ∀ d, rt'.sessionOverlayIp d = rt.sessionOverlayIp d) :
    Coherent rt' where
  records := by
    intro d state hstate
    rw [hsame.paths] at hstate
    rw [hsame.endpoints]
    exact h.records d state hstate
  keys := by
    intro d
    rw [hsame.paths, h.keys, RuntimeState.peerIds, RuntimeState.peerIds, hpeers]
  sessions := by
    intro d session' hsession'
    have hip := hips d
    rw [RuntimeState.sessionOverlayIp, hsession'] at hip
    obtain ⟨session, hsession, heq⟩ := Option.map_eq_some_iff.mp hip.symm
    obtain ⟨peer, hpeer, hd, hoverlay⟩ := h.sessions d session hsession
    exact ⟨peer, hpeers ▸ hpeer, hd, hoverlay.trans heq⟩

/-- A device with a session is a persisted peer. -/
theorem RuntimeState.Coherent.mem_peerIds (h : Coherent rt) {d : String}
    (hsession : (rt.sessionEndpoint d).isSome = true) : d ∈ rt.peerIds := by
  rw [RuntimeState.sessionEndpoint, Option.isSome_map] at hsession
  obtain ⟨session, hsession⟩ := Option.isSome_iff_exists.mp hsession
  obtain ⟨peer, hpeer, hd, -⟩ := h.sessions d session hsession
  exact List.mem_map.mpr ⟨peer, hpeer, hd⟩

/-- Records may be rewritten one by one as long as each stays coherent. -/
theorem RuntimeState.Coherent.withPaths (h : Coherent rt) {paths : HashMap String PeerPathState}
    (hrecords : ∀ d state, paths.lookup d = some state → state.Coherent (rt.sessionEndpoint d))
    (hkeys : ∀ d, d ∈ paths ↔ d ∈ rt.peerPathStateByDevice) : Coherent (rt.withPaths paths) where
  records := hrecords
  keys := fun d => (hkeys d).trans (h.keys d)
  sessions := h.sessions

theorem coherent_expireStaleDirectPaths (h : Coherent rt) (now : SystemTime) :
    Coherent (rt.expireStaleDirectPaths now) := by
  have hlookup : ∀ d, (rt.expireStaleDirectPaths now).peerPathStateByDevice.lookup d =
      (rt.peerPathStateByDevice.lookup d).map (PeerPathState.expire rt.relays now) :=
    fun d => HashMap.lookup_mapEntries _ _ d
  refine h.withPaths (fun d state hstate => ?_) fun d => ?_
  · obtain ⟨old, hold, rfl⟩ := Option.map_eq_some_iff.mp ((hlookup d).symm.trans hstate)
    exact (h.records d old hold).expire rt.relays now
  · show d ∈ (rt.expireStaleDirectPaths now).peerPathStateByDevice ↔ _
    rw [← AList.lookup_isSome, hlookup, Option.isSome_map, AList.lookup_isSome]

/-- `mark_peer_direct`, for a peer that has a session -/
theorem coherent_markPeerDirect (h : Coherent rt) {deviceId : String}
    (hsession : (rt.sessionEndpoint deviceId).isSome = true) (endpoint : Endpoint)
    (rttMs : Option UInt64) (now : SystemTime) :
    Coherent (rt.markPeerDirect deviceId endpoint rttMs now) := by
  have hid := h.mem_peerIds hsession
  obtain ⟨old, hsession⟩ := Option.isSome_iff_exists.mp hsession
  have hpaths : ∀ d, (rt.markPeerDirect deviceId endpoint rttMs now).peerPathStateByDevice.lookup d =
      if d = deviceId then some (((rt.peerPathStateByDevice.lookup deviceId).getD
          PeerPathState.default).markDirect endpoint rttMs now)
        else rt.peerPathStateByDevice.lookup d := fun d => HashMap.lookup_upsert _ _ _ _ _
  have hendpoints : ∀ d, (rt.markPeerDirect deviceId endpoint rttMs now).sessionEndpoint d =
      if d = deviceId then some endpoint else rt.sessionEndpoint d := by
    intro d
    show ((rt.peerTransportSessionsByDevice.modify deviceId _).lookup d).map _ = _
    rw [HashMap.lookup_modify]
    by_cases hd : d = deviceId
    · obtain ⟨session, hs, -⟩ := Option.map_eq_some_iff.mp hsession
      rw [if_pos hd, if_pos hd, hs]
      rfl
    · rw [if_neg hd, if_neg hd]
      rfl
  refine ⟨fun d state hstate => ?_, fun d => ?_, fun d session hs => ?_⟩
  · rw [hpaths] at hstate
    rw [hendpoints]
    by_cases hd : d = deviceId
    · rw [if_pos hd] at hstate ⊢
      obtain rfl := Option.some.inj hstate
      exact PeerPathState.coherent_markDirect endpoint rttMs now _
    · rw [if_neg hd] at hstate ⊢
      exact h.records d state hstate
  · show _ ↔ d ∈ rt.peerIds
    rw [← AList.lookup_isSome, hpaths]
    by_cases hd : d = deviceId
    · subst hd
      simpa using hid
    · rw [if_neg hd, AList.lookup_isSome, h.keys]
  · have hs : (rt.peerTransportSessionsByDevice.modify deviceId
        fun session => { session with endpoint }).lookup d = some session := hs
    rw [HashMap.lookup_modify] at hs
    by_cases hd : d = deviceId
    · rw [if_pos hd] at hs
      obtain ⟨before, hbefore, rfl⟩ := Option.map_eq_some_iff.mp hs
      exact hd ▸ h.sessions deviceId before hbefore
    · rw [if_neg hd] at hs
      exact h.sessions d session hs

-- ============================================================================
-- Probing
-- ============================================================================

/-- The path state that a probe round starts with is there for every peer. -/
theorem coherent_entry (h : Coherent rt) {deviceId : String} (hid : deviceId ∈ rt.peerIds) :
    Coherent (rt.withPaths (rt.peerPathStateByDevice.upsert deviceId PeerPathState.default id)) := by
  refine h.withPaths (fun d state hstate => ?_) fun d => ?_
  · rw [HashMap.lookup_upsert] at hstate
    by_cases hd : d = deviceId
    · subst hd
      rw [if_pos rfl] at hstate
      cases hold : rt.peerPathStateByDevice.lookup d with
      | none =>
          rw [hold] at hstate
          obtain rfl := Option.some.inj hstate
          exact PeerPathState.coherent_default
      | some old =>
          rw [hold] at hstate
          obtain rfl := Option.some.inj hstate
          exact h.records d _ hold
    · rw [if_neg hd] at hstate
      exact h.records d state hstate
  · rw [← AList.lookup_isSome, HashMap.lookup_upsert]
    by_cases hd : d = deviceId
    · subst hd
      simpa using (h.keys d).mpr hid
    · rw [if_neg hd, AList.lookup_isSome]

/-- The end of a probe round. -/
theorem coherent_probed (h : Coherent rt) (deviceId : String) (now : SystemTime) (sentAt : Nat) :
    Coherent (rt.withPaths (rt.peerPathStateByDevice.modify deviceId
      (PeerPathState.probed now sentAt))) := by
  refine h.withPaths (fun d state hstate => ?_) fun d => ?_
  · rw [HashMap.lookup_modify] at hstate
    by_cases hd : d = deviceId
    · subst hd
      rw [if_pos rfl] at hstate
      obtain ⟨old, hold, rfl⟩ := Option.map_eq_some_iff.mp hstate
      exact (h.records d old hold).probed now sentAt
    · rw [if_neg hd] at hstate
      exact h.records d state hstate
  · rw [← AList.lookup_isSome, HashMap.lookup_modify, ← AList.lookup_isSome]
    by_cases hd : d = deviceId
    · rw [if_pos hd, Option.isSome_map, hd]
    · rw [if_neg hd]

theorem setCrypto_overlayIp (rt : RuntimeState) (deviceId : String) (crypto : PeerCryptoSession)
    (d : String) : (rt.setCrypto deviceId crypto).sessionOverlayIp d = rt.sessionOverlayIp d := by
  simp only [RuntimeState.sessionOverlayIp, RuntimeState.setCrypto, HashMap.lookup_modify]
  by_cases hd : d = deviceId
  · rw [if_pos hd, Option.map_map, hd]
    rfl
  · rw [if_neg hd]

/-- A write of a crypto session and of the transport concerns no path. -/
theorem coherent_setCrypto (h : Coherent rt) (deviceId : String) (crypto : PeerCryptoSession) :
    Coherent (rt.setCrypto deviceId crypto) :=
  h.of_same rfl (samePaths_setCrypto rt deviceId crypto) (setCrypto_overlayIp rt deviceId crypto)

theorem coherent_withTransport (h : Coherent rt) (transport : Option TransportRuntime) :
    Coherent (rt.withTransport transport) :=
  h.of_same rfl (samePaths_withTransport rt transport) fun _ => rfl

theorem coherent_probePeers {peers : List StoredPeerSession} (h : Coherent rt)
    (hpeers : ∀ peer ∈ peers, peer.deviceId ∈ rt.peerIds) (sendTo : SendTo)
    (clock : Nat → SystemTime) (i : Nat) (transport : TransportRuntime) (sent : Nat) :
    Coherent (RuntimeState.probePeers X sendTo clock i peers rt transport sent).2 := by
  induction peers generalizing i rt transport sent with
  | nil => exact coherent_withTransport h _
  | cons peer peers ih =>
      have hentry := coherent_entry h (hpeers peer List.mem_cons_self)
      have hrest : ∀ peer' ∈ peers, peer'.deviceId ∈ rt.peerIds :=
        fun peer' hpeer' => hpeers peer' (List.mem_cons_of_mem _ hpeer')
      unfold RuntimeState.probePeers
      simp only
      split
      · exact ih hentry hrest _ _ _
      split
      · exact ih hentry hrest _ _ _
      split
      · exact coherent_withTransport (coherent_setCrypto hentry _ _) _
      · exact ih (coherent_probed (coherent_setCrypto hentry _ _) _ _ _) hrest _ _ _

theorem coherent_probePeerDirectPaths (h : Coherent rt) (sendTo : SendTo)
    (clock : Nat → SystemTime) : Coherent (rt.probePeerDirectPaths X sendTo clock).2 := by
  have hexpired := coherent_expireStaleDirectPaths h (clock 0)
  unfold RuntimeState.probePeerDirectPaths
  simp only
  split
  · exact hexpired
  · refine coherent_probePeers hexpired (fun peer hpeer => ?_) sendTo clock 0 _ 0
    exact List.mem_map.mpr ⟨peer, hpeer, rfl⟩

-- ============================================================================
-- Sending and receiving
-- ============================================================================

theorem coherent_sendOverlayPacket (h : Coherent rt) (sendTo : SendTo) (net : RelayNet)
    (packet : Bytes) : Coherent (rt.sendOverlayPacket X sendTo net packet).2 := by
  unfold RuntimeState.sendOverlayPacket
  split
  · exact h
  split
  · exact h
  split
  · exact h
  rename_i deviceId _ _ session _
  have hsealed := coherent_setCrypto h deviceId (session.crypto.«seal» X packet).2
  simp only
  split
  · exact hsealed
  split
  · exact hsealed.of_same rfl ⟨rfl, fun _ => rfl⟩ fun _ => rfl
  split
  · exact hsealed
  · exact coherent_withTransport hsealed _

theorem coherent_answerProbe (h : Coherent rt) (sendTo : SendTo) (clock : Nat → SystemTime)
    (deviceId : String) (plaintext : Bytes) (source : SocketAddr) :
    Coherent (rt.answerProbe X sendTo clock deviceId plaintext source).2 := by
  unfold RuntimeState.answerProbe
  split
  · exact h
  rename_i session hs
  simp only
  have hsealed := coherent_setCrypto h deviceId (session.crypto.sealMessage X
    (encodeProbeResponsePayload plaintext (unixMillis (clock 0))) frameTypeProbeResponse).2
  split
  · exact hsealed
  split
  · exact hsealed
  split
  · exact coherent_withTransport hsealed _
  · -- the session is still there after its counter moved
    refine coherent_markPeerDirect (coherent_withTransport hsealed _) ?_ _ _ _
    show ((RuntimeState.setCrypto rt deviceId _).sessionEndpoint deviceId).isSome = true
    rw [(samePaths_setCrypto rt deviceId _).endpoints, RuntimeState.sessionEndpoint, hs]
    rfl

theorem coherent_dispatchStage (h : Coherent rt) {deviceId : String} {session : PeerTransportSession}
    (hs : rt.peerTransportSessionsByDevice.lookup deviceId = some session) (sendTo : SendTo)
    (clock : Nat → SystemTime) (source : Option SocketAddr) (opened : OpenFrame) :
    Coherent (rt.dispatchStage X sendTo clock source deviceId opened).2 := by
  unfold RuntimeState.dispatchStage
  split
  · exact h
  split
  · split
    · exact h
    · exact coherent_answerProbe h _ _ _ _ _
  split
  · split
    · exact h
    · have hsession : (rt.sessionEndpoint deviceId).isSome = true := by
        rw [RuntimeState.sessionEndpoint, hs]
        rfl
      exact coherent_markPeerDirect h hsession _ _ _
  · exact h

theorem coherent_openStage (h : Coherent rt) (frame : Bytes) : Coherent (rt.openStage X frame).2 := by
  rcases openStage_cases (X := X) rt frame with ⟨e, heq⟩ | ⟨deviceId, session, -, -, heq⟩
  · rw [heq]
    exact coherent_withTransport h _
  · have hopened := coherent_setCrypto h deviceId (session.crypto.openMessage X frame).2
    rw [heq]
    split
    · exact coherent_withTransport hopened _
    · exact hopened

theorem coherent_openReceivedFrame (h : Coherent rt) (sendTo : SendTo) (clock : Nat → SystemTime)
    (frame : Bytes) (source : Option SocketAddr) :
    Coherent (rt.openReceivedFrame X sendTo clock frame source).2 := by
  have hstage : Coherent (rt.openStage X frame).2 := coherent_openStage h frame
  cases hopen : (rt.openStage X frame).1 with
  | error e =>
      rw [openReceivedFrame_of_refused hopen]
      exact hstage
  | ok r =>
      obtain ⟨deviceId, opened⟩ := r
      obtain ⟨session, hsession⟩ := openStage_session hopen
      rw [openReceivedFrame_of_ok hopen]
      exact coherent_dispatchStage hstage hsession sendTo clock source opened

theorem coherent_openRelayFrame (h : Coherent rt) (sendTo : SendTo) (clock : Nat → SystemTime)
    (message : RelayMessage) : Coherent (rt.openRelayFrame X sendTo clock message).2 := by
  unfold RuntimeState.openRelayFrame
  split
  · exact h
  · exact h
  · exact coherent_openReceivedFrame h _ _ _ _

theorem coherent_receiveOverlayPacket (h : Coherent rt) (sendTo : SendTo)
    (clock : Nat → SystemTime) (bufferLen : Nat) (received : Received) :
    Coherent (rt.receiveOverlayPacket X sendTo clock bufferLen received).2 := by
  unfold RuntimeState.receiveOverlayPacket
  split
  · exact h
  split
  · exact coherent_withTransport h _
  · exact coherent_withTransport h _
  · exact coherent_openReceivedFrame (coherent_withTransport h _) _ _ _ _

-- ============================================================================
-- New runtimes
-- ============================================================================

/-- A session of a new runtime belongs to the overlay address of its peer. -/
theorem fromPersisted_overlayIp {salts : Salts} {persisted : CustomBackendState} {d : String}
    {session : PeerTransportSession}
    (h : (RuntimeState.fromPersisted X salts persisted).peerTransportSessionsByDevice.lookup d =
      some session) :
    ∃ peer ∈ persisted.peers, peer.deviceId = d ∧ peer.overlayIp = session.overlayIp := by
  simp only [RuntimeState.fromPersisted] at h
  cases hbuild : buildPeerTransportSessions X salts persisted with
  | error e =>
      rw [hbuild] at h
      cases h
  | ok sessions =>
      rw [hbuild] at h
      have hdest := fromPersisted_destination hbuild d
      rw [show sessions.lookup d = some session from h] at hdest
      split at hdest
      · obtain ⟨peer, hpeer, hd, hpeerDest⟩ := mem_of_initialDestination hdest.symm
        obtain ⟨endpoint, -, heq⟩ := Option.map_eq_some_iff.mp hpeerDest
        exact ⟨peer, hpeer, hd, congrArg Prod.fst heq⟩
      · cases hdest

/-- A path record for every peer, a session for some of them. -/
theorem coherent_fromPersisted (salts : Salts) (persisted : CustomBackendState) :
    Coherent (RuntimeState.fromPersisted X salts persisted) where
  records := by
    intro d state hstate
    obtain ⟨peer, -, hpair⟩ := List.mem_map.mp (HashMap.mem_of_lookup_ofPairs hstate)
    obtain ⟨rfl, rfl⟩ := Prod.mk.inj hpair
    exact PeerPathState.coherent_default
  keys := by
    intro d
    show d ∈ HashMap.ofPairs _ ↔ d ∈ persisted.peers.map (·.deviceId)
    rw [HashMap.mem_ofPairs, List.map_map]
    rfl
  sessions := by
    intro d session hsession
    exact fromPersisted_overlayIp hsession

-- ============================================================================
-- Runs
-- ============================================================================

/-- What happens to a runtime: a critical section of a worker or of an operation, or
    one of the functions the sections are made of. -/
inductive PathEvent where
  | locked (s : Section)
  /-- `open_received_frame` -/
  | received (frame : Bytes) (source : Option SocketAddr) (sendTo : SendTo) (clock : Nat → SystemTime)
  /-- `expire_stale_direct_paths` -/
  | expire (now : SystemTime)

/-- The runtime after an event. -/
def PathEvent.effect (X : Externals) (rt : RuntimeState) : PathEvent → RuntimeState
  | locked s => s.effect X rt
  | received frame source sendTo clock => (rt.openReceivedFrame X sendTo clock frame source).2
  | expire now => rt.expireStaleDirectPaths now

theorem coherent_section (h : Coherent rt) (s : Section) : Coherent (s.effect X rt) := by
  cases s with
  | udp bufferLen received sendTo clock =>
      exact coherent_receiveOverlayPacket h sendTo clock bufferLen received
  | relay message sendTo clock => exact coherent_openRelayFrame h sendTo clock message
  | send packet sendTo net => exact coherent_sendOverlayPacket h sendTo net packet
  | rxDrop => exact coherent_withTransport h _
  | probe sendTo clock => exact coherent_probePeerDirectPaths h sendTo clock
  | replace salts state =>
      exact (coherent_fromPersisted salts state).of_same rfl ⟨rfl, fun _ => rfl⟩ fun _ => rfl
  | reload salts state => exact coherent_fromPersisted salts state
  | relayMap relays => exact h.of_same rfl ⟨rfl, fun _ => rfl⟩ fun _ => rfl
  | setTasks tasks => exact h.of_same rfl ⟨rfl, fun _ => rfl⟩ fun _ => rfl
  | setTransport transport => exact coherent_withTransport h transport
  | publicProbe sendTo probeServer start timeout answers => exact coherent_withTransport h _
  | setTunStatus status => exact h.of_same rfl ⟨rfl, fun _ => rfl⟩ fun _ => rfl
  | setTunDevice device => exact h.of_same rfl ⟨rfl, fun _ => rfl⟩ fun _ => rfl

theorem coherent_event (h : Coherent rt) (e : PathEvent) : Coherent (e.effect X rt) := by
  cases e with
  | locked s => exact coherent_section h s
  | received frame source sendTo clock => exact coherent_openReceivedFrame h sendTo clock frame source
  | expire now => exact coherent_expireStaleDirectPaths h now

theorem coherent_events (h : Coherent rt) (events : List PathEvent) :
    Coherent (events.foldl (PathEvent.effect X) rt) := by
  induction events generalizing rt with
  | nil => exact h
  | cons e events ih => exact ih (coherent_event h e)

/-- **Path coherence.**  In every runtime reached from a new one, for every peer: a
    direct path has an active endpoint, the one its session sends to, a recorded
    success and no fast probes left; a relayed path has a relay endpoint and no round
    trip time; an unknown path has neither; there are at most eight fast probes left;
    and the path records are those of the persisted peers. -/
theorem paths_coherent (X : Externals) (salts : Salts) (persisted : CustomBackendState)
    (events : List PathEvent) :
    let rt := events.foldl (PathEvent.effect X) (RuntimeState.fromPersisted X salts persisted)
    (∀ d state, rt.peerPathStateByDevice.lookup d = some state →
      (state.currentPath = .direct →
        (∃ endpoint session, state.activeEndpoint = some endpoint ∧
          rt.peerTransportSessionsByDevice.lookup d = some session ∧ session.endpoint = endpoint) ∧
        (∃ success, state.lastSuccessAt = some success) ∧ state.fastProbeAttemptsRemaining = 0) ∧
      (state.currentPath = .relay →
        (∃ endpoint, state.activeEndpoint = some endpoint ∧ endpoint.kind = .relay) ∧
        state.rttMs = none) ∧
      (state.currentPath = .unknown → state.activeEndpoint = none ∧ state.rttMs = none) ∧
      state.fastProbeAttemptsRemaining ≤ 8) ∧
    ∀ d, d ∈ rt.peerPathStateByDevice ↔ ∃ peer ∈ rt.persisted.peers, peer.deviceId = d := by
  intro rt
  have h : Coherent rt := coherent_events (coherent_fromPersisted salts persisted) events
  refine ⟨fun d state hstate => ?_, fun d => ?_⟩
  · have hrecord := h.records d state hstate
    refine ⟨fun hdirect => ?_, hrecord.relay, hrecord.unknown, hrecord.fastProbes⟩
    obtain ⟨⟨endpoint, hactive, hendpoint⟩, hsuccess, hfast⟩ := hrecord.direct hdirect
    obtain ⟨session, hsession, heq⟩ := Option.map_eq_some_iff.mp hendpoint
    exact ⟨⟨endpoint, session, hactive, hsession, heq⟩, hsuccess, hfast⟩
  · rw [h.keys, RuntimeState.peerIds, List.mem_map]

end TfScale.Custom
