/-
  TfScale.Custom.Reapply

  What is left of a peer's connection when the peer map is applied again?

  `apply_peer_map` stores the new list and replaces the runtime by one that is built
  from the stored state, whether or not an entry of the list differs from what was
  there.  The path record of every peer is a new one, and every session leads to the
  endpoint that is selected from the peer's list.  An unchanged peer therefore keeps
  its connection exactly when nothing had been learned about it.
-/

import TfScale.Custom.Coherence
import TfScale.Custom.Fallback

namespace TfScale.Custom

open ThreadM

section Reapplied

variable {X : Externals} {env : Env} {peers : List PeerConfig} {w w' : World}

-- ============================================================================
-- Unchanged peers, kept connections
-- ============================================================================

/-- The overlay address, the credential and the endpoints of a stored peer. -/
def StoredPeerSession.connection (peer : StoredPeerSession) : Ipv4Addr × String × List Endpoint :=
  (peer.overlayIp, peer.publicKey, peer.endpoints)

/-- The overlay address, the credential and the endpoints of a configured peer. -/
def PeerConfig.connection (peer : PeerConfig) : Ipv4Addr × String × List Endpoint :=
  (peer.overlayIp, peer.publicCredential.publicCredential, peer.endpoints)

/-- What a path record has learned: all of it but the times of the last probe. -/
def PeerPathState.learned (state : PeerPathState) :
    PeerPathKind × Option Endpoint × Option SystemTime × UInt32 × Option UInt64 × UInt8 :=
  (state.currentPath, state.activeEndpoint, state.lastSuccessAt, state.failures, state.rttMs,
    state.fastProbeAttemptsRemaining)

namespace RuntimeState

/-- The device is a peer of the runtime, and the list has it with the same overlay
    address, credential and endpoints. -/
def Unchanged (rt : RuntimeState) (peers : List PeerConfig) (d : String) : Prop :=
  d ∈ rt.peerIds ∧
    (rt.persisted.peers.filter fun peer => peer.deviceId = d).map StoredPeerSession.connection =
      (peers.filter fun peer => peer.deviceId = d).map PeerConfig.connection

/-- The path record and the session endpoint of the device are what they were. -/
def KeepsConnection (rt rt' : RuntimeState) (d : String) : Prop :=
  (rt'.peerPathStateByDevice.lookup d).map PeerPathState.learned =
      (rt.peerPathStateByDevice.lookup d).map PeerPathState.learned ∧
    rt'.sessionEndpoint d = rt.sessionEndpoint d

/-- Nothing has been learned about the path to the device. -/
def PathUnlearned (rt : RuntimeState) (d : String) : Prop :=
  (rt.peerPathStateByDevice.lookup d).map PeerPathState.learned =
    some PeerPathState.default.learned

end RuntimeState

/-- The state that `apply_peer_map` would put in place, if it gets that far: the file
    can be read, the credentials are well formed, the state can be saved, and the lock
    is not poisoned. -/
def replacement (X : Externals) (env : Env) (peers : List PeerConfig) (w : World) :
    Option CustomBackendState :=
  match readState (env.readError 0) w.other.file, peersToSessions X env.clock 0 peers with
  | .ok state, .ok sessions =>
      if env.save = .written ∧ w.mutex.poisoned = false then some { state with peers := sessions }
      else none
  | _, _ => none

/-- The stored state has what sessions are built from, and they can be built. -/
def CustomBackendState.Connects (X : Externals) (salts : Salts) (state : CustomBackendState) : Prop :=
  state.identity.isSome = true ∧ state.localConfig.isSome = true ∧
    (buildPeerTransportSessions X salts state).isOk = true

instance (X : Externals) (salts : Salts) (state : CustomBackendState) :
    Decidable (state.Connects X salts) :=
  inferInstanceAs (Decidable (_ ∧ _))

-- ============================================================================
-- What the call does
-- ============================================================================

/-- Saving does not touch the runtime, and succeeds when the file is written and
    protected. -/
theorem saveState_returned {state : CustomBackendState} {r : Result Unit}
    (h : (saveState env state).run w = .ok (r, w')) :
    w'.mutex = w.mutex ∧ (r = .ok () ↔ env.save = .written) := by
  rw [saveState, run_other] at h
  obtain ⟨hresult, rfl⟩ := Prod.mk.inj (Except.ok.inj h)
  refine ⟨rfl, ?_⟩
  cases hsave : env.save with
  | written =>
      rw [hsave] at hresult
      exact ⟨fun _ => rfl, fun _ => hresult.symm⟩
  | failed message =>
      rw [hsave] at hresult
      refine ⟨fun hok => ?_, fun hwritten => by cases hwritten⟩
      cases hresult.trans hok
  | unprotected message =>
      rw [hsave] at hresult
      refine ⟨fun hok => ?_, fun hwritten => by cases hwritten⟩
      cases hresult.trans hok

/-- `replace_state` has replaced the runtime, or left it alone. -/
theorem replaceState_value {state : CustomBackendState} {r : Result Unit}
    (h : (replaceState X env state).run w = .ok (r, w')) :
    w'.mutex.value =
      if env.save = .written ∧ w.mutex.poisoned = false then w.mutex.value.rebuilt X env.salts state
      else w.mutex.value := by
  rcases bind_returned h with ⟨e, hsave, -⟩ | ⟨u, w₁, hsave, hlocked⟩
  · obtain ⟨hmutex, hwritten⟩ := saveState_returned hsave
    have hfailed : ¬ (env.save = .written ∧ w.mutex.poisoned = false) := by
      rintro ⟨hsaved, -⟩
      cases hwritten.mpr hsaved
    rw [if_neg hfailed, hmutex]
  · obtain ⟨hmutex, hwritten⟩ := saveState_returned hsave
    have hsaved : env.save = .written := hwritten.mp rfl
    obtain ⟨-, ⟨hpoisoned, -, rfl⟩ | ⟨hsound, -, rfl⟩⟩ := locked_returned hlocked
    · have hfailed : ¬ (env.save = .written ∧ w.mutex.poisoned = false) := by
        rintro ⟨-, hsound⟩
        rw [← hmutex, hpoisoned] at hsound
        cases hsound
      rw [if_neg hfailed, hmutex]
    · rw [if_pos ⟨hsaved, hmutex ▸ hsound⟩, setValue_value, hmutex]

/-- A returned call has put the replacement in place, or left the runtime alone. -/
theorem applyPeerMap_value {r : Result Unit} (h : (applyPeerMap X env peers).run w = .ok (r, w')) :
    w'.mutex.value =
      match replacement X env peers w with
      | some state => w.mutex.value.rebuilt X env.salts state
      | none => w.mutex.value := by
  have hload := loadState_run env 0 w
  unfold replacement
  cases hread : readState (env.readError 0) w.other.file with
  | error e =>
      rw [hread] at hload
      rw [applyPeerMap, bind_error hload] at h
      obtain ⟨-, rfl⟩ := Prod.mk.inj (Except.ok.inj h)
      rfl
  | ok state =>
      rw [hread] at hload
      rw [applyPeerMap, bind_ok hload] at h
      cases hsessions : peersToSessions X env.clock 0 peers with
      | error e =>
          rw [hsessions] at h
          obtain ⟨-, rfl⟩ := Prod.mk.inj (Except.ok.inj h)
          rfl
      | ok sessions =>
          rw [hsessions] at h
          have hreplace : (replaceState X env { state with peers := sessions }).run w = .ok (r, w') := h
          rw [replaceState_value hreplace]
          simp only
          split_ifs
          · rfl
          · rfl

-- ============================================================================
-- What the new runtime says about a peer
-- ============================================================================

theorem peersToSessions_connection {clock : Nat → SystemTime} {i : Nat}
    {sessions : List StoredPeerSession} (h : peersToSessions X clock i peers = .ok sessions)
    (d : String) :
    (sessions.filter fun peer => peer.deviceId = d).map StoredPeerSession.connection =
      (peers.filter fun peer => peer.deviceId = d).map PeerConfig.connection := by
  induction peers generalizing i sessions with
  | nil =>
      obtain rfl := Except.ok.inj h
      rfl
  | cons peer peers ih =>
      obtain ⟨session, hsession, h⟩ := Result.bind_eq_ok.mp h
      obtain ⟨rest, hrest, h⟩ := Result.bind_eq_ok.mp h
      obtain rfl := Except.ok.inj h
      obtain ⟨_, -, hsession⟩ := Result.bind_eq_ok.mp hsession
      obtain rfl := Except.ok.inj hsession
      have htail := ih hrest
      by_cases hd : peer.deviceId = d
      · rw [List.filter_cons_of_pos (by simpa using hd), List.filter_cons_of_pos (by simpa using hd),
          List.map_cons, List.map_cons, htail]
        rfl
      · rw [List.filter_cons_of_neg (by simpa using hd), List.filter_cons_of_neg (by simpa using hd),
          htail]

/-- Where a session leads when it is built depends on the connections of the device. -/
theorem initialDestination_congr {sessions sessions' : List StoredPeerSession} {d : String}
    (h : (sessions.filter fun peer => peer.deviceId = d).map StoredPeerSession.connection =
      (sessions'.filter fun peer => peer.deviceId = d).map StoredPeerSession.connection) :
    initialDestination sessions d = initialDestination sessions' d := by
  have hconnection : ∀ sessions : List StoredPeerSession, sessions.filterMap
      StoredPeerSession.destination = (sessions.map StoredPeerSession.connection).filterMap
        fun c => (selectUdpEndpoint c.2.2).map fun endpoint => (c.1, endpoint) := by
    intro sessions
    rw [List.filterMap_map]
    rfl
  rw [initialDestination, initialDestination, hconnection, hconnection, h]

/-- The session endpoints of a new runtime. -/
theorem fromPersisted_sessionEndpoint (X : Externals) (salts : Salts) (state : CustomBackendState)
    (d : String) : (RuntimeState.fromPersisted X salts state).sessionEndpoint d =
      if state.Connects X salts then (initialDestination state.peers d).map Prod.snd else none := by
  obtain ⟨built, hbuild⟩ : ∃ built, buildPeerTransportSessions X salts state = built := ⟨_, rfl⟩
  have hsessions : (RuntimeState.fromPersisted X salts state).sessionEndpoint d =
      ((built.toOption.getD ∅).lookup d).map (·.endpoint) := by
    rw [← hbuild]
    rfl
  rw [hsessions]
  cases built with
  | error e =>
      have hnot : ¬ state.Connects X salts := by
        rintro ⟨-, -, hok⟩
        rw [hbuild] at hok
        cases hok
      rw [if_neg hnot]
      rfl
  | ok sessions =>
      have hdest := congrArg (Option.map Prod.snd) (fromPersisted_destination hbuild d)
      rw [Option.map_map] at hdest
      refine Eq.trans hdest ?_
      by_cases hconnects : state.Connects X salts
      · rw [if_pos ⟨hconnects.1, hconnects.2.1⟩, if_pos hconnects]
      · have hmissing : ¬ (state.identity.isSome = true ∧ state.localConfig.isSome = true) :=
          fun hboth => hconnects ⟨hboth.1, hboth.2, by rw [hbuild]; rfl⟩
        rw [if_neg hmissing, if_neg hconnects]
        rfl

/-- The path records of a new runtime. -/
theorem fromPersisted_path (X : Externals) (salts : Salts) {state : CustomBackendState} {d : String}
    (h : d ∈ state.peers.map (·.deviceId)) :
    (RuntimeState.fromPersisted X salts state).peerPathStateByDevice.lookup d =
      some PeerPathState.default := by
  have hmem := ((coherent_fromPersisted (X := X) salts state).keys d).mpr h
  obtain ⟨record, hrecord⟩ := Option.isSome_iff_exists.mp (AList.lookup_isSome.mpr hmem)
  obtain ⟨peer, -, hpair⟩ := List.mem_map.mp (HashMap.mem_of_lookup_ofPairs hrecord)
  obtain ⟨-, rfl⟩ := Prod.mk.inj hpair
  exact hrecord

/-- The replacement has the unchanged peers with the connections they had. -/
theorem RuntimeState.Unchanged.connections {rt : RuntimeState} {d : String} {state : CustomBackendState}
    (h : rt.Unchanged peers d) (hreplacement : replacement X env peers w = some state) :
    (state.peers.filter fun peer => peer.deviceId = d).map StoredPeerSession.connection =
      (rt.persisted.peers.filter fun peer => peer.deviceId = d).map StoredPeerSession.connection := by
  unfold replacement at hreplacement
  split at hreplacement
  · rename_i stored sessions _ hsessions
    split at hreplacement
    · obtain rfl := Option.some.inj hreplacement
      exact (peersToSessions_connection hsessions d).trans h.2.symm
    · cases hreplacement
  · cases hreplacement

/-- An unchanged peer is among the peers of the replacement. -/
theorem RuntimeState.Unchanged.listed {rt : RuntimeState} {d : String} {state : CustomBackendState}
    (h : rt.Unchanged peers d) (hreplacement : replacement X env peers w = some state) :
    d ∈ state.peers.map (·.deviceId) := by
  obtain ⟨peer, hpeer, hd⟩ := List.mem_map.mp h.1
  have hmem : peer.connection ∈ (rt.persisted.peers.filter fun peer =>
      peer.deviceId = d).map StoredPeerSession.connection :=
    List.mem_map.mpr ⟨peer, List.mem_filter.mpr ⟨hpeer, by simpa using hd⟩, rfl⟩
  rw [← h.connections hreplacement] at hmem
  obtain ⟨peer', hpeer', -⟩ := List.mem_map.mp hmem
  obtain ⟨hpeer', hd'⟩ := List.mem_filter.mp hpeer'
  exact List.mem_map.mpr ⟨peer', hpeer', by simpa using hd'⟩

/-- **Re-applied peers.**  For every call of `apply_peer_map` that returns and every
    peer that the list has unchanged: the peer keeps its path record and its session
    endpoint exactly when the call does not get as far as replacing the runtime, or
    nothing had been learned about the peer, neither a path nor an endpoint other than
    the one that a new session is given. -/
theorem unchanged_peer_kept_iff (X : Externals) (env : Env) (peers : List PeerConfig)
    (w w' : World) (r : Result Unit) (h : (applyPeerMap X env peers).run w = .ok (r, w'))
    (d : String) (hunchanged : w.mutex.value.Unchanged peers d) :
    w.mutex.value.KeepsConnection w'.mutex.value d ↔
      ∀ state, replacement X env peers w = some state →
        w.mutex.value.PathUnlearned d ∧
          w.mutex.value.sessionEndpoint d =
            if state.Connects X env.salts then
              (initialDestination w.mutex.value.persisted.peers d).map Prod.snd
            else none := by
  have hvalue := applyPeerMap_value h
  cases hreplacement : replacement X env peers w with
  | none =>
      rw [hreplacement] at hvalue
      have hsame : w'.mutex.value = w.mutex.value := hvalue
      rw [hsame]
      refine ⟨fun _ state hstate => ?_, fun _ => ⟨rfl, rfl⟩⟩
      cases hstate
  | some state =>
      rw [hreplacement] at hvalue
      have hrebuilt : w'.mutex.value = w.mutex.value.rebuilt X env.salts state := hvalue
      have hconnections := hunchanged.connections hreplacement
      have hpath : (w.mutex.value.rebuilt X env.salts state).peerPathStateByDevice.lookup d =
          some PeerPathState.default :=
        fromPersisted_path X env.salts (hunchanged.listed hreplacement)
      have hendpoint : (w.mutex.value.rebuilt X env.salts state).sessionEndpoint d =
          if state.Connects X env.salts then
            (initialDestination w.mutex.value.persisted.peers d).map Prod.snd
          else none := by
        rw [← initialDestination_congr hconnections]
        exact fromPersisted_sessionEndpoint X env.salts state d
      rw [hrebuilt, RuntimeState.KeepsConnection, hpath, hendpoint]
      constructor
      · rintro ⟨hrecord, hsession⟩ state' hstate'
        obtain rfl := Option.some.inj hstate'
        exact ⟨hrecord.symm, hsession.symm⟩
      · intro hall
        obtain ⟨hrecord, hsession⟩ := hall state rfl
        exact ⟨hrecord.symm, hsession.symm⟩

end Reapplied

namespace Reference

/-- The peer of `pairedState`, as the control plane configures it. -/
def configuredPeers : List PeerConfig :=
  [⟨"dev_00000000000000000000000000000002", "b", ⟨100, 64, 0, 3⟩, ⟨credential 2⟩,
    [⟨.lan, .v4 ⟨192, 168, 1, 30⟩, 51820, .udp⟩], ["100.64.0.3/32"]⟩]

/-- A backend that has stored `pairedState` and gone through some sections since. -/
def pairedWorld (sections : List Section) : World :=
  ⟨⟨.stored pairedState, 0, []⟩, ⟨sections.foldl (Section.effect Externals.reference)
    (RuntimeState.fromPersisted Externals.reference env.salts pairedState), false, false⟩⟩

/-- What a call with the configured peers returns, and what it leaves of the peer. -/
def reapplied (sections : List Section) : Option (Result Unit × World) :=
  ((applyPeerMap Externals.reference env configuredPeers).run (pairedWorld sections)).toOption

theorem reapplied_run {sections : List Section} {r : Result Unit} {w' : World}
    (h : reapplied sections = some (r, w')) :
    (applyPeerMap Externals.reference env configuredPeers).run (pairedWorld sections) = .ok (r, w') := by
  unfold reapplied at h
  cases hres : (applyPeerMap Externals.reference env configuredPeers).run (pairedWorld sections) with
  | error e =>
      rw [hres] at h
      cases h
  | ok p =>
      rw [hres] at h
      exact congrArg Except.ok (Option.some.inj h)

theorem unchanged_configured (sections : List Section)
    (h : (pairedWorld sections).mutex.value.persisted = pairedState) :
    (pairedWorld sections).mutex.value.Unchanged configuredPeers
      "dev_00000000000000000000000000000002" := by
  unfold RuntimeState.Unchanged RuntimeState.peerIds
  rw [h]
  exact ⟨by decide +kernel, by decide +kernel⟩

end Reference

open Reference in
/-- The peer has answered a probe and its path is direct.  The control plane sends the
    same peer again, the call succeeds, and the path is unknown. -/
theorem unchanged_peer_reset :
    ∃ w', (applyPeerMap Externals.reference env configuredPeers).run
        (pairedWorld [bindSocket, receiveResponse]) = .ok (.ok (), w') ∧
      (pairedWorld [bindSocket, receiveResponse]).mutex.value.Unchanged configuredPeers
        "dev_00000000000000000000000000000002" ∧
      ¬ (pairedWorld [bindSocket, receiveResponse]).mutex.value.KeepsConnection w'.mutex.value
        "dev_00000000000000000000000000000002" := by
  have hbefore : ((pairedWorld [bindSocket, receiveResponse]).mutex.value.peerPathStateByDevice.lookup
      "dev_00000000000000000000000000000002").map (·.currentPath) = some .direct := by decide +kernel
  have hafter : (reapplied [bindSocket, receiveResponse]).map (fun p =>
      (p.1, (p.2.mutex.value.peerPathStateByDevice.lookup "dev_00000000000000000000000000000002").map
        (·.currentPath))) = some (.ok (), some .unknown) := by decide +kernel
  obtain ⟨⟨r, w'⟩, hrun, hpair⟩ := Option.map_eq_some_iff.mp hafter
  obtain ⟨rfl, hunknown⟩ := Prod.mk.inj hpair
  refine ⟨w', reapplied_run hrun, unchanged_configured _ (by decide +kernel), ?_⟩
  rintro ⟨hpath, -⟩
  have hkind := congrArg (Option.map Prod.fst) hpath
  rw [Option.map_map, Option.map_map] at hkind
  cases hunknown.symm.trans (hkind.trans hbefore)

open Reference in
/-- Before anything was learned, the call leaves the peer as it is. -/
theorem unchanged_peer_kept_fresh :
    ∃ w', (applyPeerMap Externals.reference env configuredPeers).run (pairedWorld []) = .ok (.ok (), w') ∧
      (pairedWorld []).mutex.value.KeepsConnection w'.mutex.value
        "dev_00000000000000000000000000000002" := by
  have hstored : replacement Externals.reference env configuredPeers (pairedWorld []) =
      some { pairedState with peers := pairedState.peers.map fun peer =>
        { peer with lastUpdatedAtUnixSeconds := 1 } } := by decide +kernel
  have hcall : (reapplied []).map Prod.fst = some (.ok ()) := by decide +kernel
  obtain ⟨⟨r, w'⟩, hrun, rfl⟩ := Option.map_eq_some_iff.mp hcall
  refine ⟨w', reapplied_run hrun, ?_⟩
  refine (unchanged_peer_kept_iff Externals.reference env configuredPeers (pairedWorld []) w' _
    (reapplied_run hrun) _ (unchanged_configured [] rfl)).mpr fun state hstate => ?_
  obtain rfl := Option.some.inj (hstored.symm.trans hstate)
  have hnew : (pairedWorld []).mutex.value.peerPathStateByDevice.lookup
      "dev_00000000000000000000000000000002" = some PeerPathState.default :=
    fromPersisted_path Externals.reference env.salts (by decide)
  exact ⟨congrArg (Option.map PeerPathState.learned) hnew, by decide +kernel⟩

end TfScale.Custom
