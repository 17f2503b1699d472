/-
  TfScale.Custom.PeerSessions

  Which peers have a transport session after the runtime is built?

  `build_peer_transport_sessions` goes through the peer list and leaves at the first
  error, and `from_persisted` takes an error for an empty table.  One entry whose
  device id does not parse, or one salt that is not drawn, therefore takes the
  sessions of all peers with it, wherever it stands in the list.
-/

import TfScale.Custom.Reapply

namespace TfScale.Custom

section Build

variable {X : Externals} {salts : Salts} {peers : List StoredPeerSession}

-- ============================================================================
-- The loop
-- ============================================================================

/-- The device id of the peer is one that frames can carry. -/
def StoredPeerSession.Addressable (X : Externals) (peer : StoredPeerSession) : Prop :=
  ∃ frameId, fromDeviceId X.uuidParse peer.deviceId = .ok frameId

def StoredPeerSession.Credentialed (X : Externals) (peer : StoredPeerSession) : Prop :=
  ∃ key, decodePublicCredential X peer.publicKey = .ok key

def StoredPeerSession.HasUdp (peer : StoredPeerSession) : Prop :=
  ∃ endpoint ∈ peer.endpoints, endpoint.protocol = .udp

/-- Every peer of the list, the first one being at position `i`, has a device id that
    parses, and a salt if it has a UDP endpoint. -/
def Buildable (X : Externals) (salts : Salts) (i : Nat) (peers : List StoredPeerSession) : Prop :=
  ∀ j peer, peers[j]? = some peer →
    peer.Addressable X ∧ (peer.HasUdp → ∃ salt, salts (i + j) = .ok salt)

theorem buildable_nil (i : Nat) : Buildable X salts i [] := by
  intro j peer hj
  cases hj

theorem buildable_cons {i : Nat} {peer : StoredPeerSession} :
    Buildable X salts i (peer :: peers) ↔
      (peer.Addressable X ∧ (peer.HasUdp → ∃ salt, salts i = .ok salt)) ∧
        Buildable X salts (i + 1) peers := by
  constructor
  · intro h
    refine ⟨h 0 peer rfl, fun j peer' hj => ?_⟩
    have hnext := h (j + 1) peer' hj
    rwa [show i + (j + 1) = i + 1 + j by omega] at hnext
  · rintro ⟨hfirst, hrest⟩ j peer' hj
    match j with
    | 0 =>
        obtain rfl : peer = peer' := Option.some.inj hj
        exact hfirst
    | j + 1 =>
        have hnext := hrest j peer' hj
        rwa [show i + 1 + j = i + (j + 1) by omega] at hnext

theorem selectUdpEndpoint_isSome_iff {endpoints : List Endpoint} :
    (selectUdpEndpoint endpoints).isSome = true ↔
      ∃ endpoint ∈ endpoints, endpoint.protocol = .udp := by
  unfold selectUdpEndpoint
  constructor
  · intro h
    cases hudp : endpoints.filter fun endpoint => endpoint.protocol = .udp with
    | nil =>
        rw [hudp] at h
        cases h
    | cons endpoint rest =>
        have hmem : endpoint ∈ endpoints.filter fun endpoint => endpoint.protocol = .udp := by
          rw [hudp]
          exact List.mem_cons_self
        obtain ⟨hmem, hprotocol⟩ := List.mem_filter.mp hmem
        exact ⟨endpoint, hmem, by simpa using hprotocol⟩
  · rintro ⟨endpoint, hmem, hprotocol⟩
    have hfiltered : endpoint ∈ endpoints.filter fun endpoint => endpoint.protocol = .udp :=
      List.mem_filter.mpr ⟨hmem, by simpa using hprotocol⟩
    cases hudp : endpoints.filter fun endpoint => endpoint.protocol = .udp with
    | nil =>
        rw [hudp] at hfiltered
        cases hfiltered
    | cons first rest => rfl

/-- The loop comes to its end exactly when no peer of the list makes it leave. -/
theorem buildSessionsFrom_isOk_iff {localPrivateKey : ByteArr 32} {publicKey : String}
    {localId : FrameDeviceId} {i : Nat} {sessions : HashMap String PeerTransportSession}
    (hcred : ∀ peer ∈ peers, peer.Credentialed X) :
    (∃ sessions',
      buildSessionsFrom X localPrivateKey publicKey localId salts i peers sessions = .ok sessions') ↔
      Buildable X salts i peers := by
  induction peers generalizing i sessions with
  | nil => exact iff_of_true ⟨sessions, rfl⟩ (buildable_nil i)
  | cons peer peers ih =>
      have hrest : ∀ peer' ∈ peers, peer'.Credentialed X :=
        fun peer' hmem => hcred peer' (List.mem_cons_of_mem _ hmem)
      obtain ⟨peerKey, hkey⟩ := hcred peer List.mem_cons_self
      rw [buildable_cons, StoredPeerSession.HasUdp, ← selectUdpEndpoint_isSome_iff]
      unfold buildSessionsFrom StoredPeerSession.Addressable
      cases hid : fromDeviceId X.uuidParse peer.deviceId with
      | error error =>
          exact iff_of_false (Fallible.not_exists_error _)
            fun hbuildable => Fallible.not_exists_error _ hbuildable.1.1
      | ok peerId =>
          dsimp only
          have hfound : ∃ frameId, Except.ok (ε := BackendError) peerId = .ok frameId := ⟨peerId, rfl⟩
          cases hudp : selectUdpEndpoint peer.endpoints with
          | none =>
              dsimp only
              -- a peer without UDP endpoint is passed over, its salt is not drawn
              have hnone : (none : Option Endpoint).isSome = true → ∃ salt, salts i = .ok salt :=
                fun h => by cases h
              rw [and_iff_right ⟨hfound, hnone⟩]
              exact ih hrest
          | some endpoint =>
              dsimp only
              cases hnew : PeerCryptoSession.new X localPrivateKey publicKey peer.publicKey localId
                  peerId (salts i) with
              | error error =>
                  refine iff_of_false (Fallible.not_exists_error _) fun hbuildable => ?_
                  obtain ⟨salt, hsalt⟩ := hbuildable.1.2 rfl
                  have hok : ∃ crypto, PeerCryptoSession.new X localPrivateKey publicKey
                      peer.publicKey localId peerId (salts i) = .ok crypto :=
                    ⟨_, PeerCryptoSession.new_eq_ok.mpr ⟨peerKey, salt, hkey, hsalt, rfl⟩⟩
                  rw [hnew] at hok
                  obtain ⟨crypto, hok⟩ := hok
                  cases hok
              | ok crypto =>
                  obtain ⟨_, salt, -, hsalt, -⟩ := PeerCryptoSession.new_eq_ok.mp hnew
                  rw [and_iff_right ⟨hfound, fun _ => ⟨salt, hsalt⟩⟩]
                  exact ih hrest

-- ============================================================================
-- The sessions of a new runtime
-- ============================================================================

/-- The state has an identity with a readable key and a configuration with a readable
    device id. -/
def CustomBackendState.LocalReady (X : Externals) (state : CustomBackendState) : Prop :=
  ∃ identity localConfig localId localPrivateKey,
    state.identity = some identity ∧ state.localConfig = some localConfig ∧
    fromDeviceId X.uuidParse localConfig.deviceId = .ok localId ∧
    decodeKey X identity.privateKey = .ok localPrivateKey

theorem connects_iff {state : CustomBackendState} (hlocal : state.LocalReady X)
    (hcred : ∀ peer ∈ state.peers, peer.Credentialed X) :
    state.Connects X salts ↔ Buildable X salts 0 state.peers := by
  obtain ⟨identity, localConfig, localId, key, hidentity, hconfig, hlocalId, hkey⟩ := hlocal
  have hbuild : buildPeerTransportSessions X salts state =
      buildSessionsFrom X key identity.publicKey localId salts 0 state.peers ∅ := by
    unfold buildPeerTransportSessions
    rw [hidentity, hconfig]
    simp only [hlocalId, hkey, bind, Except.bind]
  rw [← buildSessionsFrom_isOk_iff hcred, CustomBackendState.Connects, hbuild, hidentity, hconfig]
  constructor
  · rintro ⟨-, -, hok⟩
    cases hsessions : buildSessionsFrom X key identity.publicKey localId salts 0 state.peers ∅ with
    | error error =>
        rw [hsessions] at hok
        cases hok
    | ok sessions => exact ⟨sessions, rfl⟩
  · rintro ⟨sessions, hsessions⟩
    exact ⟨rfl, rfl, by rw [hsessions]; rfl⟩

/-- Some entry of a device with a UDP endpoint gives it a destination. -/
theorem initialDestination_isSome {d : String} {peer : StoredPeerSession} (hpeer : peer ∈ peers)
    (hd : peer.deviceId = d) (hudp : peer.HasUdp) : (initialDestination peers d).isSome = true := by
  obtain ⟨endpoint, hendpoint⟩ :=
    Option.isSome_iff_exists.mp (selectUdpEndpoint_isSome_iff.mpr hudp)
  have hdest : peer.destination = some (peer.overlayIp, endpoint) := by
    rw [StoredPeerSession.destination, hendpoint]
    rfl
  rw [initialDestination, List.getLast?_isSome, ← List.length_pos_iff]
  exact List.length_pos_of_mem (List.mem_filterMap.mpr
    ⟨peer, List.mem_filter.mpr ⟨hpeer, by simpa using hd⟩, hdest⟩)

/-- `validate_public_credential` takes what `decode_public_credential` reads. -/
theorem validatePublicCredential_ok {value : String}
    (h : validatePublicCredential X value = .ok ()) :
    ∃ key, decodePublicCredential X value = .ok key := by
  unfold validatePublicCredential at h
  cases hencoded : stripPrefix publicCredentialPrefix value with
  | none =>
      rw [hencoded] at h
      cases h
  | some encoded =>
      rw [hencoded] at h
      obtain ⟨bytes, hbytes, h⟩ := Result.bind_eq_ok.mp h
      by_cases hlength : bytes.length = 32
      · refine ⟨⟨bytes, hlength⟩, ?_⟩
        rw [decodePublicCredential, hencoded]
        exact Result.bind_eq_ok.mpr ⟨bytes, hbytes, dif_pos hlength⟩
      · rw [if_pos hlength] at h
        cases h

theorem peerToSession_credentialed {now : SystemTime} {config : PeerConfig}
    {session : StoredPeerSession} (h : peerToSession X now config = .ok session) :
    session.Credentialed X := by
  obtain ⟨_, hvalid, h⟩ := Result.bind_eq_ok.mp h
  obtain rfl := Except.ok.inj h
  exact validatePublicCredential_ok hvalid

/-- The peers that `apply_peer_map` accepts have readable credentials. -/
theorem peersToSessions_credentialed {clock : Nat → SystemTime} {i : Nat}
    {configs : List PeerConfig} (h : peersToSessions X clock i configs = .ok peers) :
    ∀ peer ∈ peers, peer.Credentialed X := by
  induction configs generalizing i peers with
  | nil =>
      obtain rfl := Except.ok.inj h
      intro peer hpeer
      cases hpeer
  | cons config configs ih =>
      obtain ⟨session, hsession, h⟩ := Result.bind_eq_ok.mp h
      obtain ⟨sessions, hsessions, h⟩ := Result.bind_eq_ok.mp h
      obtain rfl := Except.ok.inj h
      intro peer hpeer
      rcases List.mem_cons.mp hpeer with rfl | hpeer
      · exact peerToSession_credentialed hsession
      · exact ih hsessions peer hpeer

/-- The peer's device id parses, its credential is valid and it has a UDP endpoint. -/
def StoredPeerSession.Eligible (X : Externals) (peer : StoredPeerSession) : Prop :=
  peer.Addressable X ∧ peer.Credentialed X ∧ peer.HasUdp

/-- The runtime has a transport session for the device. -/
def RuntimeState.HasSession (rt : RuntimeState) (d : String) : Prop :=
  (rt.peerTransportSessionsByDevice.lookup d).isSome = true

/-- For every state with a readable identity and every list that `apply_peer_map`
    accepts: an eligible peer of the list has a session exactly when the device ids of
    all peers of the list parse and a salt was drawn for each of them that has a UDP
    endpoint; and all eligible peers have theirs exactly when that is so, or there are
    none. -/
theorem eligible_peer_has_session_iff (X : Externals) (salts : Salts) (state : CustomBackendState)
    (hlocal : state.LocalReady X) (clock : Nat → SystemTime) (configs : List PeerConfig)
    (haccepted : peersToSessions X clock 0 configs = .ok state.peers) :
    (∀ peer ∈ state.peers, peer.Eligible X →
      ((RuntimeState.fromPersisted X salts state).HasSession peer.deviceId ↔
        Buildable X salts 0 state.peers)) ∧
    ((∀ peer ∈ state.peers, peer.Eligible X →
        (RuntimeState.fromPersisted X salts state).HasSession peer.deviceId) ↔
      (∀ peer ∈ state.peers, ¬ peer.Eligible X) ∨ Buildable X salts 0 state.peers) := by
  have hcred := peersToSessions_credentialed haccepted
  have hone : ∀ peer ∈ state.peers, peer.Eligible X →
      ((RuntimeState.fromPersisted X salts state).HasSession peer.deviceId ↔
        Buildable X salts 0 state.peers) := by
    rintro peer hpeer ⟨-, -, hudp⟩
    have hendpoint := fromPersisted_sessionEndpoint X salts state peer.deviceId
    have hdest := initialDestination_isSome hpeer rfl hudp
    rw [← connects_iff hlocal hcred, RuntimeState.HasSession, ← Option.isSome_map,
      show Option.map _ _ = _ from hendpoint]
    split
    · rename_i hconnects
      exact iff_of_true (by rw [Option.isSome_map]; exact hdest) hconnects
    · rename_i hconnects
      exact iff_of_false Bool.false_ne_true hconnects
  refine ⟨hone, fun hall => ?_, ?_⟩
  · by_cases hsome : ∃ peer ∈ state.peers, peer.Eligible X
    · obtain ⟨peer, hpeer, heligible⟩ := hsome
      exact Or.inr ((hone peer hpeer heligible).mp (hall peer hpeer heligible))
    · exact Or.inl fun peer hpeer heligible => hsome ⟨peer, hpeer, heligible⟩
  · rintro (hnone | hbuildable) peer hpeer heligible
    · exact absurd heligible (hnone peer hpeer)
    · exact (hone peer hpeer heligible).mpr hbuildable

end Build

namespace Reference

/-- The peer of `configuredPeers` and one whose device id is a plain name. -/
def mixedPeers : List PeerConfig :=
  configuredPeers ++ [⟨"printer", "c", ⟨100, 64, 0, 4⟩, ⟨credential 2⟩, [], []⟩]

/-- What `apply_peer_map` stores of a list in the place of the peers. -/
def stateWith (configs : List PeerConfig) : CustomBackendState :=
  { pairedState with
    peers := (peersToSessions Externals.reference env.clock 0 configs).toOption.getD [] }

def runtimeWith (configs : List PeerConfig) : RuntimeState :=
  .fromPersisted Externals.reference env.salts (stateWith configs)

def remote : StoredPeerSession :=
  ⟨"dev_00000000000000000000000000000002", "b", ⟨100, 64, 0, 3⟩, credential 2,
    [⟨.lan, .v4 ⟨192, 168, 1, 30⟩, 51820, .udp⟩], ["100.64.0.3/32"], 1⟩

theorem remote_eligible : remote.Eligible Externals.reference :=
  ⟨Fallible.isOk_iff.mp (by decide +kernel), Fallible.isOk_iff.mp (by decide +kernel),
    ⟨_, List.mem_cons_self, rfl⟩⟩

/-- The peer of `configuredPeers` and another one that is well formed. -/
def wellFormedPeers : List PeerConfig :=
  configuredPeers ++ [⟨"dev_00000000000000000000000000000003", "c", ⟨100, 64, 0, 4⟩, ⟨credential 3⟩,
    [⟨.lan, .v4 ⟨192, 168, 1, 31⟩, 51820, .udp⟩], ["100.64.0.4/32"]⟩]

def neighbour : StoredPeerSession :=
  ⟨"dev_00000000000000000000000000000003", "c", ⟨100, 64, 0, 4⟩, credential 3,
    [⟨.lan, .v4 ⟨192, 168, 1, 31⟩, 51820, .udp⟩], ["100.64.0.4/32"], 1⟩

theorem neighbour_eligible : neighbour.Eligible Externals.reference :=
  ⟨Fallible.isOk_iff.mp (by decide +kernel), Fallible.isOk_iff.mp (by decide +kernel),
    ⟨_, List.mem_cons_self, rfl⟩⟩

theorem localReady_paired : pairedState.LocalReady Externals.reference := by
  obtain ⟨localId, hlocalId⟩ := Fallible.isOk_iff.mp (show (fromDeviceId
    Externals.reference.uuidParse localConfig.deviceId).isOk = true by decide +kernel)
  exact ⟨_, localConfig, localId, .replicate 32 1, rfl, rfl, hlocalId, by decide +kernel⟩

end Reference

open Reference in
/-- Beside a peer with a plain name for its id, the other peer, which has a session
    when it is alone in the list, has none. -/
theorem malformed_peer_disables_sessions :
    pairedState.LocalReady Externals.reference ∧
      peersToSessions Externals.reference env.clock 0 mixedPeers = .ok (stateWith mixedPeers).peers ∧
      remote ∈ (stateWith mixedPeers).peers ∧ remote.Eligible Externals.reference ∧
      (∀ i, (env.salts i).isOk = true) ∧
      ¬ (runtimeWith mixedPeers).HasSession remote.deviceId ∧
      (runtimeWith configuredPeers).HasSession remote.deviceId := by
  refine ⟨localReady_paired, by decide +kernel, by decide +kernel, remote_eligible,
    fun i => rfl, ?_, ?_⟩
  · rw [RuntimeState.HasSession]
    decide +kernel
  · rw [RuntimeState.HasSession]
    decide +kernel

open Reference in
/-- With two well-formed peers each has its session, as every entry of the list is well
    formed. -/
theorem wellFormed_peers_have_sessions :
    (runtimeWith wellFormedPeers).HasSession remote.deviceId ∧
      (runtimeWith wellFormedPeers).HasSession neighbour.deviceId ∧
      Buildable Externals.reference env.salts 0 (stateWith wellFormedPeers).peers := by
  have hready : (stateWith wellFormedPeers).LocalReady Externals.reference := localReady_paired
  have hone := (eligible_peer_has_session_iff Externals.reference env.salts
    (stateWith wellFormedPeers) hready env.clock wellFormedPeers (by decide +kernel)).1
  have hremote : (runtimeWith wellFormedPeers).HasSession remote.deviceId := by
    rw [RuntimeState.HasSession]
    decide +kernel
  have hbuildable := (hone remote (by decide +kernel) remote_eligible).mp hremote
  have hsecond := (hone neighbour (by decide +kernel) neighbour_eligible).mpr hbuildable
  exact ⟨hremote, hsecond, hbuildable⟩

end TfScale.Custom
