/-
  TfScale.Agent.NetworkMap

  How the agent applies a network map to the custom backend: the local
  configuration, then the relays, then the peers.

  `replace_state`, which ends the third step, builds the runtime from the
  persisted state alone and puts back the TUN and transport fields only.  Relays
  are not persisted, so what the second step installed is gone, and the whole map
  is in place exactly when it has no healthy relay.
-/

import TfScale.Custom.Footprint

namespace TfScale.Agent

open TfScale.Custom ThreadM

/-- The part of the agent's state that the map is applied with. -/
structure AgentState where
  deviceId : Option String
  ipv4 : Option String
deriving DecidableEq, Repr

def defaultInterfaceName : String := "tfscale0"
def defaultListenPort : UInt16 := 51820

-- ============================================================================
-- Decoding a map
-- ============================================================================

/-- `parse_endpoint_kind` -/
def parseEndpointKind (value : String) : Except String EndpointKind :=
  if value = "lan" then .ok .lan
  else if value = "public" then .ok .public
  else if value = "ipv6" then .ok .ipv6
  else if value = "relay" then .ok .relay
  else .error ("unsupported endpoint kind: " ++ value)

/-- `parse_transport_protocol` -/
def parseTransportProtocol (value : String) : Except String TransportProtocol :=
  if value = "udp" then .ok .udp
  else if value = "tcp" then .ok .tcp
  else .error ("unsupported endpoint protocol: " ++ value)

/-- `.context(..)` on an option or on the option of a parse result. -/
def withContext {α : Type} (message : String) : Option α → Except String α
  | some a => .ok a
  | none => .error message

/-- `endpoint_to_config` -/
def endpointToConfig (endpoint : EndpointPayload) : Except String Endpoint := do
  let kind ← parseEndpointKind endpoint.kind
  let address ← withContext ("invalid endpoint address: " ++ endpoint.address)
    (parseIpAddr endpoint.address)
  let protocol ← parseTransportProtocol endpoint.protocol
  return { kind, address, port := endpoint.port, protocol }

/-- `peer_to_config` -/
def peerToConfig (peer : NetworkMapPeer) : Except String PeerConfig := do
  let overlayIp ← withContext ("invalid peer overlay IP: " ++ peer.ipv4) (parseIpv4Addr peer.ipv4)
  let endpoints ← peer.endpoints.mapM endpointToConfig
  return {
    deviceId := peer.deviceId
    hostname := peer.hostname
    overlayIp
    publicCredential := { publicCredential := peer.backendPublicCredential }
    endpoints
    allowedRoutes := peer.allowedRoutes }

/-- `network_map_to_peer_configs` -/
def networkMapToPeerConfigs (peers : List NetworkMapPeer) : Except String (List PeerConfig) :=
  peers.mapM peerToConfig

/-- `network_map_to_relay_configs` -/
def networkMapToRelayConfigs (relays : List RelayMetadata) : List RelayConfig :=
  (relays.filter (·.healthy)).map fun relay => ⟨relay.relayId, relay.url, relay.region⟩

/-- The local configuration that the agent's state stands for. -/
def AgentState.localConfig (state : AgentState) : Except String LocalBackendConfig := do
  let text ← withContext "agent state is missing assigned overlay IP" state.ipv4
  let overlayIp ← withContext "agent state contains invalid overlay IP" (parseIpv4Addr text)
  let deviceId ← withContext "agent state is missing device ID" state.deviceId
  return { deviceId, interfaceName := defaultInterfaceName, overlayIp, listenPort := defaultListenPort }

-- ============================================================================
-- Applying it
-- ============================================================================

/-- Programs of the agent over the custom backend. -/
abbrev AgentM := ThreadM Machine RuntimeState String

/-- `apply_network_map_to_backend`; `env` and `envPeers` answer the two operations
    that touch the operating system. -/
def applyNetworkMapToBackend (X : Externals) (b : CustomBackend) (env envPeers : Env)
    (state : AgentState) (map : NetworkMapResponse) : AgentM Unit := do
  let config ← ofExcept state.localConfig
  mapError BackendError.text (applyLocalConfig X b env config)
  mapError BackendError.text (applyRelayMap (networkMapToRelayConfigs map.relays))
  let peers ← ofExcept (networkMapToPeerConfigs map.peers)
  mapError BackendError.text (applyPeerMap X envPeers peers)

/-- A stored peer as the configuration it came from. -/
def storedConfig (peer : StoredPeerSession) : PeerConfig where
  deviceId := peer.deviceId
  hostname := peer.hostname
  overlayIp := peer.overlayIp
  publicCredential := { publicCredential := peer.publicKey }
  endpoints := peer.endpoints
  allowedRoutes := peer.allowedRoutes

/-- The runtime holds the whole map: the local configuration, exactly its peers,
    its healthy relays in order, and a TCP sender for the first of them. -/
def Installed (state : AgentState) (map : NetworkMapResponse) (rt : RuntimeState) : Prop :=
  (∃ config, state.localConfig = .ok config ∧ rt.persisted.localConfig = some config) ∧
  networkMapToPeerConfigs map.peers = .ok (rt.persisted.peers.map storedConfig) ∧
  rt.relays = networkMapToRelayConfigs map.relays ∧
  ∀ relay rest, networkMapToRelayConfigs map.relays = relay :: rest →
    ∃ sender, rt.relaySender = .tcp sender ∧ sender.relay = relay

-- ============================================================================
-- What each step leaves behind
-- ============================================================================

section Steps

variable {X : Externals} {b : CustomBackend} {env : Env}

theorem peerToSession_config {now : SystemTime} {peer : PeerConfig} {session : StoredPeerSession}
    (h : peerToSession X now peer = .ok session) : storedConfig session = peer := by
  obtain ⟨_, -, hsession⟩ := Result.bind_eq_ok.mp h
  obtain rfl := Except.ok.inj hsession
  rfl

/-- The stored peers are the given ones. -/
theorem peersToSessions_config {clock : Nat → SystemTime} {i : Nat} {peers : List PeerConfig}
    {sessions : List StoredPeerSession} (h : peersToSessions X clock i peers = .ok sessions) :
    sessions.map storedConfig = peers := by
  induction peers generalizing i sessions with
  | nil =>
      obtain rfl := Except.ok.inj h
      rfl
  | cons peer peers ih =>
      obtain ⟨session, hsession, hothers⟩ := Result.bind_eq_ok.mp h
      obtain ⟨rest, hrest, heq⟩ := Result.bind_eq_ok.mp hothers
      obtain rfl := Except.ok.inj heq
      rw [List.map_cons, peerToSession_config hsession, ih hrest]

/-- After a successful `apply_local_config` the file holds the configuration. -/
theorem applyLocalConfig_eq_ok {config : LocalBackendConfig} {w w' : World} {u : Unit}
    (hfree : w.mutex.held = false)
    (h : (applyLocalConfig X b env config).run w = .ok (.ok u, w')) :
    w'.mutex.held = false ∧ ∃ state, w'.other.file = .stored state ∧
      state.version = stateVersion ∧ state.localConfig = some config := by
  obtain ⟨state, w₁, hload, h₁⟩ := bind_eq_ok h
  rw [loadState_run] at hload
  obtain ⟨hstate, rfl⟩ := Prod.mk.inj (Except.ok.inj hload)
  obtain ⟨_, w₂, hreplace, h₂⟩ := bind_eq_ok h₁
  obtain ⟨-, -, rfl⟩ := replaceState_eq_ok hfree hreplace
  obtain ⟨reread, w₃, hagain, h₃⟩ := bind_eq_ok h₂
  rw [loadState_run] at hagain
  obtain ⟨hreread, rfl⟩ := Prod.mk.inj (Except.ok.inj hagain)
  have hversion : state.version = stateVersion := readState_version hstate
  cases hconfig : reread.localConfig with
  | none =>
      rw [hconfig] at h₃
      cases h₃
  | some config' =>
      rw [hconfig] at h₃
      refine ⟨(balanced_setUpTun _ _ _ _ h₃).trans hfree, { state with localConfig := some config },
        keeps_setUpTun _ _ _ _ h₃, hversion, rfl⟩

/-- After a successful `apply_peer_map` the runtime is built from the file's state
    with the new peers, and has no relays. -/
theorem applyPeerMap_eq_ok {peers : List PeerConfig} {w w' : World} {u : Unit}
    {state : CustomBackendState} (hfree : w.mutex.held = false)
    (hfile : w.other.file = .stored state) (hversion : state.version = stateVersion)
    (h : (applyPeerMap X env peers).run w = .ok (.ok u, w')) :
    ∃ sessions, sessions.map storedConfig = peers ∧
      w'.mutex.value.persisted = { state with peers := sessions } ∧
      w'.mutex.value.relays = [] ∧ w'.mutex.value.relaySender = .null := by
  obtain ⟨loaded, w₁, hload, h₁⟩ := bind_eq_ok h
  rw [loadState_run, hfile, readState_stored hversion] at hload
  obtain ⟨hstate, rfl⟩ := Prod.mk.inj (Except.ok.inj hload)
  obtain ⟨sessions, w₂, hsessions, h₂⟩ := bind_eq_ok h₁
  obtain ⟨hconfigs, rfl⟩ := Prod.mk.inj (Except.ok.inj hsessions)
  obtain ⟨-, -, rfl⟩ := replaceState_eq_ok hfree h₂
  cases hread : env.readError 0 with
  | some error =>
      rw [hread] at hstate
      cases hstate
  | none =>
      rw [hread] at hstate
      obtain rfl := Except.ok.inj hstate
      exact ⟨sessions, peersToSessions_config hconfigs, rfl, rfl, rfl⟩

end Steps

/-- **Applying a map.**  When it succeeds, the runtime holds the whole map exactly
    when the map has no healthy relay. -/
theorem network_map_installed_iff (X : Externals) (b : CustomBackend) (env envPeers : Env)
    (state : AgentState) (map : NetworkMapResponse) {w w' : World} (hfree : w.mutex.held = false)
    (h : (applyNetworkMapToBackend X b env envPeers state map).run w = .ok (.ok (), w')) :
    Installed state map w'.mutex.value ↔ networkMapToRelayConfigs map.relays = [] := by
  obtain ⟨config, w₁, hconfig, h₁⟩ := bind_eq_ok h
  obtain ⟨hlocal, rfl⟩ := Prod.mk.inj (Except.ok.inj hconfig)
  obtain ⟨_, w₂, hset, h₂⟩ := bind_eq_ok h₁
  obtain ⟨hfree₂, stored, hfile₂, hversion, hstored⟩ :=
    applyLocalConfig_eq_ok hfree (mapError_eq_ok hset)
  obtain ⟨_, w₃, hrelay, h₃⟩ := bind_eq_ok h₂
  have hfree₃ : w₃.mutex.held = false :=
    (balanced_locked _ _ _ _ (mapError_eq_ok hrelay)).trans hfree₂
  have hfile₃ : w₃.other.file = .stored stored :=
    (keeps_locked _ _ _ _ (mapError_eq_ok hrelay)).trans hfile₂
  obtain ⟨peers, w₄, hpeers, h₄⟩ := bind_eq_ok h₃
  obtain ⟨hdecoded, rfl⟩ := Prod.mk.inj (Except.ok.inj hpeers)
  obtain ⟨sessions, hsessions, hpersisted, hrelays, hsender⟩ :=
    applyPeerMap_eq_ok hfree₃ hfile₃ hversion (mapError_eq_ok h₄)
  constructor
  · rintro ⟨-, -, hall, -⟩
    rw [← hall]
    exact hrelays
  · intro hnone
    refine ⟨⟨config, hlocal, ?_⟩, ?_, ?_, ?_⟩
    · rw [hpersisted]
      exact hstored
    · rw [hpersisted, hdecoded]
      exact congrArg Except.ok hsessions.symm
    · rw [hrelays, hnone]
    · intro relay rest hsome
      rw [hnone] at hsome
      cases hsome

namespace Reference

def agentState : AgentState := ⟨some "dev_00000000000000000000000000000001", some "100.64.0.2"⟩

def peer : NetworkMapPeer where
  deviceId := "dev_00000000000000000000000000000002"
  hostname := "b"
  ipv4 := "100.64.0.3"
  backendType := "tfscale"
  backendPublicCredential := encodePublicCredential Externals.reference (.replicate 32 2)
  endpoints := [⟨"lan", "192.168.1.30", 51820, "udp", some "local", some 100, none⟩]
  allowedRoutes := ["100.64.0.3/32"]

def networkMap (relays : List RelayMetadata) : NetworkMapResponse where
  networkMapVersion := 1
  selfDevice := ⟨"dev_00000000000000000000000000000001", "a", "100.64.0.2", "tfscale"⟩
  peers := [peer]
  dnsRecords := []
  relays := relays

def relay : RelayMetadata := ⟨"relay_sfo_1", "tcp://192.0.2.1:9443", "sfo", true⟩

/-- Applying a map to a new backend without TUN setup. -/
def apply (relays : List RelayMetadata) : Outcome Machine RuntimeState String Unit :=
  (applyNetworkMapToBackend Externals.reference ⟨"tfscale0", false⟩ Custom.Reference.env
    Custom.Reference.env agentState (networkMap relays)).run Custom.Reference.freshWorld

end Reference

/-- The world in which a program has returned a result. -/
def returned (outcome : Outcome Machine RuntimeState String Unit) : Option World :=
  match outcome with
  | .ok (.ok _, w) => some w
  | _ => none

theorem returned_eq_some {outcome : Outcome Machine RuntimeState String Unit} {w : World}
    (h : returned outcome = some w) : outcome = .ok (.ok (), w) := by
  unfold returned at h
  split at h
  · obtain rfl := Option.some.inj h
    rfl
  · cases h

/-- A map with a peer and no relay is installed. -/
theorem network_map_installed_without_relays :
    ∃ w', Reference.apply [] = .ok (.ok (), w') ∧
      Installed Reference.agentState (Reference.networkMap []) w'.mutex.value := by
  have hreturned : (returned (Reference.apply [])).isSome = true := by decide +kernel
  obtain ⟨w', hw'⟩ := Option.isSome_iff_exists.mp hreturned
  have hok := returned_eq_some hw'
  exact ⟨w', hok, (network_map_installed_iff _ _ _ _ _ _ rfl hok).mpr rfl⟩

/-- A map with a healthy relay is applied without error, and no relay is left. -/
theorem network_map_relays_lost :
    ∃ w', Reference.apply [Reference.relay] = .ok (.ok (), w') ∧
      networkMapToRelayConfigs [Reference.relay] = [⟨"relay_sfo_1", "tcp://192.0.2.1:9443", "sfo"⟩] ∧
      w'.mutex.value.relays = [] ∧ w'.mutex.value.relaySender = .null ∧
      ¬ Installed Reference.agentState (Reference.networkMap [Reference.relay]) w'.mutex.value := by
  have hreturned : (returned (Reference.apply [Reference.relay])).any (fun w =>
      decide (w.mutex.value.relays = [] ∧ w.mutex.value.relaySender = .null)) = true := by
    decide +kernel
  obtain ⟨w', hw', hlost⟩ := (Option.any_eq_true _ _).mp hreturned
  obtain ⟨hrelays, hsender⟩ := of_decide_eq_true hlost
  refine ⟨w', returned_eq_some hw', rfl, hrelays, hsender, ?_⟩
  rintro ⟨-, -, hall, -⟩
  rw [hrelays] at hall
  cases hall

end TfScale.Agent
