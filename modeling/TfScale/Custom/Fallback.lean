/-
  TfScale.Custom.Fallback

  Does a peer that cannot be reached directly get the relay?

  `probe_peer_direct_paths` counts a failure for every probe round of a peer whose
  path is not direct, and `expire_stale_direct_paths`, which acts on the count, looks
  at the paths that are direct only.  A peer whose first probes are never answered is
  counted up to the threshold and keeps the path Unknown, relay or no relay;
  `fallback_iff_rounds_in_time` is the exact condition.
-/

import TfScale.Custom.Replay

namespace TfScale.Custom

open RuntimeState

variable {X : Externals} {rt : RuntimeState}

-- ============================================================================
-- Path states
-- ============================================================================

namespace PeerPathState

/-- At the failure threshold, and without a path. -/
def Stranded (state : PeerPathState) : Prop :=
  state.currentPath = .unknown ∧ directProbeFailureThreshold ≤ state.failures

/-- One failure short of the threshold, or past it, and without a path. -/
def LastChance (state : PeerPathState) : Prop := state.currentPath = .unknown ∧ 2 ≤ state.failures

instance (state : PeerPathState) : Decidable state.LastChance :=
  inferInstanceAs (Decidable (_ ∧ _))

variable {state : PeerPathState} {relays : List RelayConfig} {now : SystemTime}

theorem threshold_le_saturatingSucc {n : UInt32} :
    directProbeFailureThreshold ≤ saturatingSucc n ↔ 2 ≤ n := by
  have hmax : ∀ m : UInt32, m = 4294967295 ↔ m.toNat = 4294967295 := fun m => UInt32.toNat_inj.symm
  simp only [directProbeFailureThreshold, saturatingSucc, UInt32.le_iff_toNat_le]
  by_cases h : n = 4294967295
  · rw [if_pos h, h]
    decide
  · rw [if_neg h, UInt32.toNat_add]
    have hne : n.toNat ≠ 4294967295 := fun heq => h ((hmax n).mpr heq)
    have hlt := n.toNat_lt
    have h3 : (3 : UInt32).toNat = 3 := rfl
    have h2 : (2 : UInt32).toNat = 2 := rfl
    have h1 : (1 : UInt32).toNat = 1 := rfl
    omega

theorem Stranded.lastChance (h : state.Stranded) : state.LastChance := by
  refine ⟨h.1, UInt32.le_trans ?_ h.2⟩
  decide

/-- The expiry pass does not look at a path that is not direct. -/
theorem Stranded.expire_eq (h : state.Stranded) : state.expire relays now = state := by
  have hpath : state.currentPath ≠ .direct := by
    rw [h.1]
    decide
  rw [expire, if_pos hpath]

/-- With a relay, a direct path stays direct or becomes the relay. -/
theorem expire_direct (hrelays : relays.isEmpty = false) (h : state.currentPath = .direct) :
    (state.expire relays now).currentPath ≠ .unknown := by
  have hdirect : state.currentPath ≠ .unknown := by
    rw [h]
    decide
  have hrelay : PeerPathKind.relay ≠ .unknown := by decide
  rw [expire, if_neg (not_not_intro h)]
  simp only [hrelays, Bool.false_eq_true, if_false]
  split_ifs
  · exact hrelay
  · exact hdirect
  · exact hrelay
  · exact hdirect

theorem not_stranded_expire (hrelays : relays.isEmpty = false) (h : ¬ state.Stranded) :
    ¬ (state.expire relays now).Stranded := by
  by_cases hpath : state.currentPath = .direct
  · exact fun hstranded => expire_direct hrelays hpath hstranded.1
  · rw [expire, if_pos hpath]
    exact h

/-- A probe round strands the peer when it was its last chance. -/
theorem stranded_probed_iff {sentAt : Nat} : (state.probed now sentAt).Stranded ↔ state.LastChance := by
  by_cases hpath : state.currentPath = .unknown
  · have hnot : state.currentPath ≠ .direct := by
      rw [hpath]
      decide
    rw [Stranded, LastChance, probed, if_pos hnot, threshold_le_saturatingSucc]
  · exact ⟨fun h => absurd h.1 hpath, fun h => absurd h.1 hpath⟩

theorem not_stranded_default : ¬ PeerPathState.default.Stranded := by
  intro h
  exact absurd h.2 (by decide)

end PeerPathState

open PeerPathState

/-- No peer is stranded. -/
def NoneStranded (paths : HashMap String PeerPathState) : Prop :=
  ∀ d state, paths.lookup d = some state → ¬ state.Stranded

/-- The expiry pass of `probe_peer_direct_paths`, whenever it comes, leaves no peer
    stranded. -/
def RuntimeState.FallsBack (rt : RuntimeState) : Prop :=
  ∀ now, NoneStranded (rt.expireStaleDirectPaths now).peerPathStateByDevice

section Paths

variable {paths : HashMap String PeerPathState} {d : String} {state : PeerPathState}

theorem NoneStranded.upsert (h : NoneStranded paths) (d : String) :
    NoneStranded (paths.upsert d PeerPathState.default id) := by
  intro d' state hstate
  rw [HashMap.lookup_upsert] at hstate
  split at hstate
  · obtain rfl := Option.some.inj hstate
    cases hd : paths.lookup d with
    | none => exact not_stranded_default
    | some state => exact h d state hd
  · exact h d' state hstate

theorem NoneStranded.expire {relays : List RelayConfig} (hrelays : relays.isEmpty = false)
    (h : NoneStranded paths) (now : SystemTime) :
    NoneStranded (paths.mapValues (PeerPathState.expire relays now)) := by
  intro d state hstate
  rw [HashMap.mapValues, HashMap.lookup_mapEntries] at hstate
  obtain ⟨old, hold, rfl⟩ := Option.map_eq_some_iff.mp hstate
  exact not_stranded_expire hrelays (h d old hold)

/-- A probe round, for a peer that has another chance. -/
theorem NoneStranded.probed (h : NoneStranded paths) {now : SystemTime} {sentAt : Nat}
    (hchance : ∀ state, paths.lookup d = some state → ¬ state.LastChance) :
    NoneStranded (paths.modify d (PeerPathState.probed now sentAt)) := by
  intro d' state hstate
  rw [HashMap.lookup_modify] at hstate
  split at hstate
  · obtain ⟨old, hold, rfl⟩ := Option.map_eq_some_iff.mp hstate
    exact fun hstranded => hchance old hold (stranded_probed_iff.mp hstranded)
  · exact h d' state hstate

theorem fallsBack_of_noneStranded (hrelays : rt.relays.isEmpty = false)
    (h : NoneStranded rt.peerPathStateByDevice) : rt.FallsBack :=
  fun now => h.expire hrelays now

/-- A peer that is stranded. -/
def Strands (paths : HashMap String PeerPathState) (d : String) : Prop :=
  ∃ state, paths.lookup d = some state ∧ state.Stranded

theorem Strands.not_fallsBack (h : Strands rt.peerPathStateByDevice d) : ¬ rt.FallsBack := by
  intro hall
  obtain ⟨state, hstate, hstranded⟩ := h
  refine hall 0 d state ?_ hstranded
  show (rt.peerPathStateByDevice.mapEntries fun _ => PeerPathState.expire rt.relays 0).lookup d = some state
  rw [HashMap.lookup_mapEntries, hstate, Option.map_some, hstranded.expire_eq]

theorem Strands.upsert (h : Strands paths d) (d' : String) :
    Strands (paths.upsert d' PeerPathState.default id) d := by
  obtain ⟨state, hstate, hstranded⟩ := h
  refine ⟨state, ?_, hstranded⟩
  rw [HashMap.lookup_upsert]
  split
  · rename_i hd
    rw [← hd, hstate]
    rfl
  · exact hstate

theorem strands_probed {now : SystemTime} {sentAt : Nat} (hstate : paths.lookup d = some state)
    (h : state.LastChance) : Strands (paths.modify d (PeerPathState.probed now sentAt)) d := by
  refine ⟨state.probed now sentAt, ?_, stranded_probed_iff.mpr h⟩
  rw [HashMap.lookup_modify, if_pos rfl, hstate, Option.map_some]

theorem Strands.probed (h : Strands paths d) (d' : String) (now : SystemTime) (sentAt : Nat) :
    Strands (paths.modify d' (PeerPathState.probed now sentAt)) d := by
  obtain ⟨state, hstate, hstranded⟩ := h
  by_cases hd : d = d'
  · subst hd
    exact strands_probed hstate hstranded.lastChance
  · refine ⟨state, ?_, hstranded⟩
    rw [HashMap.lookup_modify, if_neg hd, hstate]

end Paths

-- ============================================================================
-- The loop of `probe_peer_direct_paths`
-- ============================================================================

/-- What the loop does at one peer: it goes on to the next, it ends with an error, or
    the probes of the round are all out. -/
inductive Round where
  | skipped
  | failed (error : BackendError) (crypto : PeerCryptoSession) (transport : TransportRuntime)
  | completed (sent : Nat) (crypto : PeerCryptoSession) (transport : TransportRuntime)

/-- The runtime when the loop has found the path state of the peer. -/
def RuntimeState.withPathOf (rt : RuntimeState) (deviceId : String) : RuntimeState :=
  rt.withPaths (rt.peerPathStateByDevice.upsert deviceId PeerPathState.default id)

def RuntimeState.pathState (rt : RuntimeState) (deviceId : String) : PeerPathState :=
  (rt.peerPathStateByDevice.lookup deviceId).getD PeerPathState.default

/-- The round of the peer at position `i`. -/
def RuntimeState.probeRound (X : Externals) (sendTo : SendTo) (clock : Nat → SystemTime) (i : Nat)
    (peer : StoredPeerSession) (rt : RuntimeState) (transport : TransportRuntime) (sent : Nat) : Round :=
  if !peerPathProbeDue (rt.pathState peer.deviceId) (clock (3 * i + 1)) then .skipped
  else
    match rt.peerTransportSessionsByDevice.lookup peer.deviceId with
    | none => .skipped
    | some session =>
        match sendProbes X sendTo (unixMillis (clock (3 * i + 2))) (sortedUdpEndpoints peer.endpoints)
            session.crypto transport sent with
        | (.error error, crypto, transport) => .failed error crypto transport
        | (.ok sent, crypto, transport) => .completed sent crypto transport

/-- The runtime after a completed round. -/
def RuntimeState.roundOver (clock : Nat → SystemTime) (i : Nat) (deviceId : String)
    (crypto : PeerCryptoSession) (rt : RuntimeState) : RuntimeState :=
  (rt.setCrypto deviceId crypto).withPaths (rt.peerPathStateByDevice.modify deviceId
    (PeerPathState.probed (clock (3 * i + 3)) (unixMillis (clock (3 * i + 2)))))

/-- The loop, round by round. -/
theorem probePeers_cons (sendTo : SendTo) (clock : Nat → SystemTime) (i : Nat)
    (peer : StoredPeerSession) (peers : List StoredPeerSession) (rt : RuntimeState)
    (transport : TransportRuntime) (sent : Nat) :
    probePeers X sendTo clock i (peer :: peers) rt transport sent =
      match (rt.withPathOf peer.deviceId).probeRound X sendTo clock i peer transport sent with
      | .skipped => probePeers X sendTo clock (i + 1) peers (rt.withPathOf peer.deviceId) transport sent
      | .failed error crypto transport =>
          (.error error, ((rt.withPathOf peer.deviceId).setCrypto peer.deviceId crypto).withTransport
            (some transport))
      | .completed sent crypto transport =>
          probePeers X sendTo clock (i + 1) peers
            ((rt.withPathOf peer.deviceId).roundOver clock i peer.deviceId crypto) transport sent := by
  rw [probePeers]
  cases hdue : peerPathProbeDue ((rt.withPathOf peer.deviceId).pathState peer.deviceId) (clock (3 * i + 1)) with
  | false =>
      simp only [probeRound, withPathOf, pathState] at hdue ⊢
      simp only [hdue, Bool.not_false, if_true]
  | true =>
      cases hsession : (rt.withPathOf peer.deviceId).peerTransportSessionsByDevice.lookup peer.deviceId with
      | none =>
          simp only [probeRound, withPathOf, pathState] at hdue hsession ⊢
          simp only [hdue, hsession, Bool.not_true, Bool.false_eq_true, if_false]
      | some session =>
          simp only [probeRound, withPathOf, pathState] at hdue hsession ⊢
          simp only [hdue, hsession, Bool.not_true, Bool.false_eq_true, if_false]
          rcases sendProbes X sendTo (unixMillis (clock (3 * i + 2))) (sortedUdpEndpoints peer.endpoints)
            session.crypto transport sent with ⟨_ | _, _, _⟩
          · rfl
          · rfl

/-- No completed round of the loop was the last chance of its peer. -/
def roundsInTime (X : Externals) (sendTo : SendTo) (clock : Nat → SystemTime) :
    Nat → List StoredPeerSession → RuntimeState → TransportRuntime → Nat → Bool
  | _, [], _, _, _ => true
  | i, peer :: peers, rt, transport, sent =>
      match (rt.withPathOf peer.deviceId).probeRound X sendTo clock i peer transport sent with
      | .skipped => roundsInTime X sendTo clock (i + 1) peers (rt.withPathOf peer.deviceId) transport sent
      | .failed .. => true
      | .completed sent crypto transport =>
          decide (¬ (rt.pathState peer.deviceId).LastChance) &&
            roundsInTime X sendTo clock (i + 1) peers
              ((rt.withPathOf peer.deviceId).roundOver clock i peer.deviceId crypto) transport sent

theorem withPathOf_lookup (rt : RuntimeState) (deviceId : String) :
    (rt.withPathOf deviceId).peerPathStateByDevice.lookup deviceId = some (rt.pathState deviceId) := by
  show (rt.peerPathStateByDevice.upsert deviceId PeerPathState.default id).lookup deviceId = _
  rw [HashMap.lookup_upsert, if_pos rfl]
  rfl

section Loop

variable {sendTo : SendTo} {clock : Nat → SystemTime} {i : Nat} {peers : List StoredPeerSession}
  {transport : TransportRuntime} {sent : Nat}

/-- Rounds in time strand nobody. -/
theorem noneStranded_probePeers (h : NoneStranded rt.peerPathStateByDevice)
    (hrounds : roundsInTime X sendTo clock i peers rt transport sent = true) :
    NoneStranded (probePeers X sendTo clock i peers rt transport sent).2.peerPathStateByDevice := by
  induction peers generalizing i rt transport sent with
  | nil => exact h
  | cons peer peers ih =>
      have hfound : NoneStranded (rt.withPathOf peer.deviceId).peerPathStateByDevice := h.upsert _
      rw [roundsInTime] at hrounds
      rw [probePeers_cons]
      split at hrounds
      · exact ih hfound hrounds
      · exact hfound
      · obtain ⟨hchance, hrest⟩ := Bool.and_eq_true_iff.mp hrounds
        refine ih (hfound.probed fun state hstate => ?_) hrest
        obtain rfl := Option.some.inj ((withPathOf_lookup rt peer.deviceId).symm.trans hstate)
        exact of_decide_eq_true hchance

/-- The loop takes nobody out of it. -/
theorem Strands.probePeers {d : String} (h : Strands rt.peerPathStateByDevice d) :
    Strands (probePeers X sendTo clock i peers rt transport sent).2.peerPathStateByDevice d := by
  induction peers generalizing i rt transport sent with
  | nil => exact h
  | cons peer peers ih =>
      have hfound : Strands (rt.withPathOf peer.deviceId).peerPathStateByDevice d := h.upsert _
      rw [probePeers_cons]
      split
      · exact ih hfound
      · exact hfound
      · exact ih (hfound.probed _ _ _)

/-- The last chance of a peer, when it is used up, strands it. -/
theorem strands_of_late (h : roundsInTime X sendTo clock i peers rt transport sent = false) :
    ∃ d, Strands (RuntimeState.probePeers X sendTo clock i peers rt transport
      sent).2.peerPathStateByDevice d := by
  induction peers generalizing i rt transport sent with
  | nil => cases h
  | cons peer peers ih =>
      rw [roundsInTime] at h
      rw [probePeers_cons]
      split at h
      · exact ih h
      · cases h
      · rcases Bool.and_eq_false_iff.mp h with hlate | hrest
        · refine ⟨peer.deviceId, Strands.probePeers (strands_probed (withPathOf_lookup rt peer.deviceId) ?_)⟩
          exact not_not.mp (of_decide_eq_false hlate)
        · exact ih hrest

end Loop

-- ============================================================================
-- Runs
-- ============================================================================

/-- The section leaves the runtime with a relay: nothing is rebuilt, and a new relay
    map is not empty. -/
def Section.keepsRelay : Section → Bool
  | .replace .. | .reload .. => false
  | .relayMap relays => !relays.isEmpty
  | _ => true

/-- One section of a runtime that has a relay. -/
def relayedStep (X : Externals) (rt : RuntimeState) (s : Section) : Option RuntimeState :=
  if s.keepsRelay then some (s.effect X rt) else none

/-- No probe round of the section is completed for a peer that is Unknown after two
    failures. -/
def inTime (X : Externals) (rt : RuntimeState) : Section → Bool
  | .probe sendTo clock =>
      match rt.transport with
      | none => true
      | some transport =>
          roundsInTime X sendTo clock 0 rt.persisted.peers (rt.expireStaleDirectPaths (clock 0)) transport 0
  | _ => true

theorem probePeerDirectPaths_eq (rt : RuntimeState) (sendTo : SendTo) (clock : Nat → SystemTime) :
    (rt.probePeerDirectPaths X sendTo clock).2 =
      match rt.transport with
      | none => rt.expireStaleDirectPaths (clock 0)
      | some transport =>
          (probePeers X sendTo clock 0 rt.persisted.peers (rt.expireStaleDirectPaths (clock 0)) transport 0).2 := by
  show (match rt.transport with | none => _ | some transport => _ : Result Nat × RuntimeState).2 = _
  cases rt.transport with
  | none => rfl
  | some transport => rfl

theorem sendOverlayPacket_paths (rt : RuntimeState) (sendTo : SendTo) (net : RelayNet) (packet : Bytes) :
    (rt.sendOverlayPacket X sendTo net packet).2.peerPathStateByDevice = rt.peerPathStateByDevice := by
  unfold RuntimeState.sendOverlayPacket
  split
  · rfl
  split
  · rfl
  split
  · rfl
  simp only
  split
  · rfl
  split
  · rfl
  · split <;> rfl

/-- A frame that is received moves a path to direct, or none. -/
theorem NoneStranded.openReceivedFrame (h : NoneStranded rt.peerPathStateByDevice) (sendTo : SendTo)
    (clock : Nat → SystemTime) (frame : Bytes) (source : Option SocketAddr) :
    NoneStranded (rt.openReceivedFrame X sendTo clock frame source).2.peerPathStateByDevice := by
  rcases openReceivedFrame_paths (X := X) rt sendTo clock frame source with
    hsame | ⟨addr, deviceId, opened, -, -, -, hmoved⟩
  · rw [hsame.paths]
    exact h
  · intro d state hstate
    by_cases hd : d = deviceId
    · subst hd
      obtain ⟨moved, hmoved, hdirect, -⟩ := hmoved.path
      obtain rfl := Option.some.inj (hmoved.symm.trans hstate)
      intro hstranded
      cases hdirect.symm.trans hstranded.1
    · rw [hmoved.otherPaths d hd] at hstate
      exact h d state hstate

theorem NoneStranded.receiveOverlayPacket (h : NoneStranded rt.peerPathStateByDevice) (sendTo : SendTo)
    (clock : Nat → SystemTime) (bufferLen : Nat) (received : Received) :
    NoneStranded (rt.receiveOverlayPacket X sendTo clock bufferLen received).2.peerPathStateByDevice := by
  unfold RuntimeState.receiveOverlayPacket
  split
  · exact h
  split
  · exact h
  · exact h
  · rename_i transport _
    have hsame : NoneStranded (rt.withTransport (some transport)).peerPathStateByDevice := h
    exact hsame.openReceivedFrame _ _ _ _

theorem NoneStranded.openRelayFrame (h : NoneStranded rt.peerPathStateByDevice) (sendTo : SendTo)
    (clock : Nat → SystemTime) (message : RelayMessage) :
    NoneStranded (rt.openRelayFrame X sendTo clock message).2.peerPathStateByDevice := by
  unfold RuntimeState.openRelayFrame
  split
  · exact h
  · exact h
  · exact h.openReceivedFrame _ _ _ _

/-- There is a relay, and no peer is stranded. -/
structure Served (rt : RuntimeState) : Prop where
  relays : rt.relays.isEmpty = false
  paths : NoneStranded rt.peerPathStateByDevice

theorem served_fromPersisted (salts : Salts) (persisted : CustomBackendState)
    {relays : List RelayConfig} (hrelays : relays ≠ []) :
    Served ((RuntimeState.fromPersisted X salts persisted).withRelays relays) where
  relays := by
    show relays.isEmpty = false
    rw [List.isEmpty_eq_false_iff]
    exact hrelays
  paths := by
    intro d state hstate
    obtain ⟨peer, -, heq⟩ := List.mem_map.mp (HashMap.mem_of_lookup_ofPairs hstate)
    obtain ⟨-, rfl⟩ := Prod.mk.inj heq
    exact not_stranded_default

theorem Served.probe (h : Served rt) {sendTo : SendTo} {clock : Nat → SystemTime}
    (htime : inTime X rt (.probe sendTo clock) = true) :
    NoneStranded (rt.probePeerDirectPaths X sendTo clock).2.peerPathStateByDevice := by
  have hexpired := h.paths.expire h.relays (clock 0)
  rw [probePeerDirectPaths_eq]
  rw [inTime] at htime
  cases htransport : rt.transport with
  | none => exact hexpired
  | some transport =>
      rw [htransport] at htime
      exact noneStranded_probePeers hexpired htime

theorem Served.step (h : Served rt) {s : Section} (htime : inTime X rt s = true) {rt' : RuntimeState}
    (hstep : relayedStep X rt s = some rt') : Served rt' := by
  simp only [relayedStep] at hstep
  split at hstep
  swap
  · cases hstep
  rename_i hrelay
  obtain rfl := Option.some.inj hstep
  have keeps : ∀ {rt' : RuntimeState}, Preserves (fun _ => ()) rt rt' →
      NoneStranded rt'.peerPathStateByDevice → Served rt' :=
    fun hpreserves hpaths => ⟨by rw [hpreserves.relays]; exact h.relays, hpaths⟩
  cases s with
  | udp bufferLen received sendTo clock =>
      exact keeps (preserves_receiveOverlayPacket (fun _ _ _ => rfl) (fun _ _ => rfl) rt _ _ _ _)
        (h.paths.receiveOverlayPacket _ _ _ _)
  | relay message sendTo clock =>
      exact keeps (preserves_openRelayFrame (fun _ _ _ => rfl) (fun _ _ => rfl) rt _ _ _)
        (h.paths.openRelayFrame _ _ _)
  | send packet sendTo net =>
      refine keeps (preserves_sendOverlayPacket (fun _ _ _ => rfl) rt _ _ _) ?_
      show NoneStranded (rt.sendOverlayPacket X sendTo net packet).2.peerPathStateByDevice
      rw [sendOverlayPacket_paths]
      exact h.paths
  | probe sendTo clock =>
      exact keeps (preserves_probePeerDirectPaths (fun _ _ _ => rfl) rt _ _) (h.probe htime)
  | replace salts state => cases hrelay
  | reload salts state => cases hrelay
  | relayMap relays => exact ⟨Bool.not_eq_true' _ ▸ hrelay, h.paths⟩
  | _ => exact ⟨h.relays, h.paths⟩

/-- A section that is not in time is a probe call, and leaves a peer stranded. -/
theorem not_fallsBack_of_late {s : Section} (hlate : ¬ inTime X rt s = true) :
    ∃ rt', relayedStep X rt s = some rt' ∧ ¬ rt'.FallsBack := by
  cases s with
  | probe sendTo clock =>
      refine ⟨_, rfl, ?_⟩
      show ¬ (rt.probePeerDirectPaths X sendTo clock).2.FallsBack
      rw [probePeerDirectPaths_eq]
      rw [inTime] at hlate
      cases htransport : rt.transport with
      | none =>
          rw [htransport] at hlate
          exact absurd rfl hlate
      | some transport =>
          rw [htransport] at hlate
          obtain ⟨d, hd⟩ := strands_of_late (Bool.eq_false_iff.mpr hlate)
          exact hd.not_fallsBack
  | _ => exact absurd rfl hlate

/-- **Relay fallback.**  In a run of a runtime that has a relay, every expiry pass
    leaves no peer at the failure threshold without a path if and only if no probe
    round is ever completed for a peer that is Unknown after two failures. -/
theorem fallback_iff_rounds_in_time (X : Externals) (salts : Salts) (persisted : CustomBackendState)
    (relays : List RelayConfig) (hrelays : relays ≠ []) (sections : List Section) :
    Throughout (relayedStep X) RuntimeState.FallsBack
        ((RuntimeState.fromPersisted X salts persisted).withRelays relays) sections ↔
      Along (relayedStep X) (fun rt s => inTime X rt s = true)
        ((RuntimeState.fromPersisted X salts persisted).withRelays relays) sections :=
  throughout_iff_along (fun _ hserved => fallsBack_of_noneStranded hserved.relays hserved.paths)
    (fun _ _ _ hserved htime hstep => hserved.step htime hstep)
    (fun _ _ _ hlate => not_fallsBack_of_late hlate) (served_fromPersisted salts persisted hrelays) sections

namespace Reference

def relays : List RelayConfig := [⟨"relay_1", "tcp://127.0.0.1:9443", "local"⟩]

/-- One peer, a relay, and no path yet. -/
def relayed : RuntimeState :=
  (RuntimeState.fromPersisted Externals.reference env.salts pairedState).withRelays relays

/-- A probe call, `seconds` after the epoch. -/
def probeAt (seconds : Nat) : Section := .probe env.sendTo fun _ => seconds * 1000000000

/-- The probe response of the peer. -/
def responseFrame : Bytes :=
  (peerEnd.sealMessage Externals.reference (strBytes "probe_response 1000")
    frameTypeProbeResponse).1.toOption.getD []

def receiveResponse : Section :=
  .udp 1500 (.datagram responseFrame ⟨.v4 ⟨192, 168, 1, 30⟩, 51820⟩) env.sendTo fun _ => 1010000000

end Reference

open Reference in
/-- A peer that answers its first probe: three more probe calls, and it is served. -/
theorem fallback_for_answering_peer :
    Throughout (relayedStep Externals.reference) RuntimeState.FallsBack relayed
      [bindSocket, probeAt 1, receiveResponse, probeAt 2, probeAt 7, probeAt 20] :=
  (fallback_iff_rounds_in_time Externals.reference env.salts pairedState relays (by decide) _).mpr
    (by decide +kernel)

open Reference in
/-- A peer that never answers: after three probe calls it is at the threshold, there is
    a relay, and it has no path. -/
theorem no_fallback_for_silent_peer :
    ((run (relayedStep Externals.reference) relayed [bindSocket, probeAt 1, probeAt 2, probeAt 3]).map
      fun rt => (rt.pathState "dev_00000000000000000000000000000002").failures) = some 3 ∧
    ¬ Throughout (relayedStep Externals.reference) RuntimeState.FallsBack relayed
      [bindSocket, probeAt 1, probeAt 2, probeAt 3] := by
  have hstate : ((run (relayedStep Externals.reference) relayed
      [bindSocket, probeAt 1, probeAt 2, probeAt 3]).map fun rt =>
        (rt.peerPathStateByDevice.lookup "dev_00000000000000000000000000000002").map fun state =>
          (state.currentPath, state.failures)) = some (some (.unknown, 3)) := by decide +kernel
  refine ⟨by decide +kernel, fun hall => ?_⟩
  obtain ⟨rt, hrt, hpath⟩ := Option.map_eq_some_iff.mp hstate
  obtain ⟨state, hlookup, hpair⟩ := Option.map_eq_some_iff.mp hpath
  obtain ⟨hunknown, hfailures⟩ := Prod.mk.inj hpair
  have hstranded : state.Stranded := ⟨hunknown, by rw [hfailures]; decide⟩
  exact Strands.not_fallsBack ⟨state, hlookup, hstranded⟩ (hall.last hrt)

end TfScale.Custom
