/-
  TfScale.Agent.BadMap

  What a network map that is refused leaves behind.

  `apply_network_map_to_backend` reads the agent's own state before it touches the backend,
  and `apply_peer_map` checks every credential before it replaces anything.  But the peers of
  the map are decoded after `apply_local_config` and `apply_relay_map` have taken effect: by
  then the configuration is stored, the runtime is built anew with fresh sessions and default
  paths, the relays are those of the map and another socket is bound.  A refused map leaves
  that in place, and so it never leaves the backend as it was: `bad_map_never_unchanged`.
-/

import TfScale.Agent.NetworkMap

namespace TfScale.Agent

open TfScale.Custom ThreadM

variable {X : Externals} {b : CustomBackend} {env envPeers : Env} {state : AgentState}
  {map : NetworkMapResponse} {w w' : World} {config : LocalBackendConfig}

-- ============================================================================
-- Maps that are refused
-- ============================================================================

/-- The map has a peer that is refused: its overlay IP or one of its endpoints does not
    parse, or `apply_peer_map` refuses its credential. -/
def Refused (X : Externals) (map : NetworkMapResponse) : Prop :=
  (∃ e, networkMapToPeerConfigs map.peers = .error e) ∨
    ∃ peers, networkMapToPeerConfigs map.peers = .ok peers ∧ ∃ peer ∈ peers, ∃ e,
      validatePublicCredential X peer.publicCredential.publicCredential = .error e

/-- The call gets as far as the peers of the map, and they are refused. -/
def RefusedAtPeers (X : Externals) (b : CustomBackend) (env : Env) (state : AgentState)
    (map : NetworkMapResponse) (w : World) : Prop :=
  Refused X map ∧ ∃ config w₁ w₂, state.localConfig = .ok config ∧
    (applyLocalConfig X b env config).run w = .ok (.ok (), w₁) ∧
    (applyRelayMap (networkMapToRelayConfigs map.relays)).run w₁ = .ok (.ok (), w₂)

/-- The backend is as it was: the state file and, of the runtime, the persisted state (local
    configuration and peers), the sessions, the path states, the relays and the transport. -/
structure SameBackend (w w' : World) : Prop where
  file : w'.other.file = w.other.file
  persisted : w'.mutex.value.persisted = w.mutex.value.persisted
  sessions : w'.mutex.value.peerTransportSessionsByDevice = w.mutex.value.peerTransportSessionsByDevice
  paths : w'.mutex.value.peerPathStateByDevice = w.mutex.value.peerPathStateByDevice
  relays : w'.mutex.value.relays = w.mutex.value.relays
  transport : w'.mutex.value.transport = w.mutex.value.transport

/-- What a call leaves when it is refused: the configuration is in the file and in the
    runtime, the sessions and the paths are those of a start from the file with the salts of
    the call, the relays are those of the map, and the transport has another socket. -/
structure LeftBehind (X : Externals) (env : Env) (config : LocalBackendConfig)
    (relays : List RelayConfig) (w w' : World) : Prop where
  file : w'.other.file = .stored w'.mutex.value.persisted
  configured : w'.mutex.value.persisted.localConfig = some config
  sessions : w'.mutex.value.peerTransportSessionsByDevice =
    (RuntimeState.fromPersisted X env.salts w'.mutex.value.persisted).peerTransportSessionsByDevice
  paths : w'.mutex.value.peerPathStateByDevice =
    (RuntimeState.fromPersisted X env.salts w'.mutex.value.persisted).peerPathStateByDevice
  relays : w'.mutex.value.relays = relays
  transport : ∃ transport, w'.mutex.value.transport = some transport ∧
    transport.socket = TransportRuntime.socketAfter w.mutex.value.transport

-- ============================================================================
-- Setting up the interface
-- ============================================================================

/-- What the interface and the socket have nothing to do with. -/
def contents (rt : RuntimeState) : CustomBackendState × HashMap String PeerTransportSession ×
    HashMap String PeerPathState × List RelayConfig :=
  (rt.persisted, rt.peerTransportSessionsByDevice, rt.peerPathStateByDevice, rt.relays)

theorem leaves_contents (tunConfig : TunConfig) :
    Leaves (fun w => contents w.mutex.value) (setUpTun b env tunConfig) :=
  leaves_setUpTun ⟨⟨fun _ => rfl, fun _ => rfl⟩, fun _ _ => rfl, fun _ _ _ => rfl⟩ (fun _ _ => rfl)
    (fun _ _ => rfl) (fun _ _ => rfl) tunConfig

/-- The workers and the interface have nothing to do with the transport. -/
theorem ignoresWorkers_transport : IgnoresWorkers fun w : World => w.mutex.value.transport :=
  ⟨⟨fun _ => rfl, fun _ => rfl⟩, fun _ _ => rfl, fun _ _ _ => rfl⟩

/-- A socket that was bound is the transport, in place of the one that was there. -/
theorem bindTransport_eq_ok {listenPort : UInt16} {u : Unit}
    (h : (bindTransport env listenPort).run w = .ok (.ok u, w')) :
    ∃ transport, w'.mutex.value.transport = some transport ∧
      transport.socket = TransportRuntime.socketAfter w.mutex.value.transport := by
  obtain ⟨_, w₁, hstop, h₁⟩ := bind_eq_ok h
  obtain ⟨replaced, w₂, htake, h₂⟩ := bind_eq_ok h₁
  obtain ⟨transport, w₃, hbind, h₃⟩ := bind_eq_ok h₂
  obtain ⟨_, w₄, hset, hstart⟩ := bind_eq_ok h₃
  have hstopped : w₁.mutex.value.transport = w.mutex.value.transport :=
    leaves_stopTransportTasks ignoresWorkers_transport _ _ _ hstop
  have hreplaced : replaced = w₁.mutex.value.transport := by
    obtain ⟨-, ⟨-, herror, -⟩ | ⟨-, hok, -⟩⟩ := locked_returned htake
    · cases herror
    · exact Except.ok.inj hok
  have hkept : w'.mutex.value.transport = w₄.mutex.value.transport :=
    leaves_startTransportTasks ignoresWorkers_transport _ _ _ hstart
  have hsocket := TransportRuntime.bind_socket (Prod.mk.inj (Except.ok.inj hbind)).1
  refine ⟨transport, ?_, by rw [hsocket, hreplaced, hstopped]⟩
  rw [hkept]
  obtain ⟨-, ⟨-, herror, -⟩ | ⟨-, -, rfl⟩⟩ := locked_returned hset
  · cases herror
  · rfl

theorem setUpTun_eq_ok {tunConfig : TunConfig} {u : Unit}
    (h : (setUpTun b env tunConfig).run w = .ok (.ok u, w')) :
    ∃ transport, w'.mutex.value.transport = some transport ∧
      transport.socket = TransportRuntime.socketAfter w.mutex.value.transport := by
  unfold setUpTun at h
  split at h
  · obtain ⟨_, w₁, hbind, hstatus⟩ := bind_eq_ok h
    obtain ⟨transport, htransport, hsocket⟩ := bindTransport_eq_ok hbind
    refine ⟨transport, ?_, hsocket⟩
    have hkept : w'.mutex.value.transport = w₁.mutex.value.transport :=
      leaves_locked ignoresWorkers_transport.lock (fun _ => rfl) _ _ _ hstatus
    rw [hkept, htransport]
  · split at h
    · obtain ⟨_, w₁, hdevice, hbind⟩ := bind_eq_ok h
      obtain ⟨transport, htransport, hsocket⟩ := bindTransport_eq_ok hbind
      obtain ⟨_, w₂, hset, hstart⟩ := bind_eq_ok hdevice
      have hset' : w₂.mutex.value.transport = w.mutex.value.transport :=
        leaves_locked ignoresWorkers_transport.lock (fun _ => rfl) _ _ _ hset
      have hkept : w₁.mutex.value.transport = w₂.mutex.value.transport :=
        leaves_startTransportTasks ignoresWorkers_transport _ _ _ hstart
      exact ⟨transport, htransport, by rw [hsocket, hkept, hset']⟩
    · obtain ⟨_, w₁, -, herror⟩ := bind_eq_ok h
      cases herror

-- ============================================================================
-- The steps before the peers
-- ============================================================================

/-- `replace_state` can only succeed if the caller does not hold the lock. -/
theorem replaceState_free {persisted : CustomBackendState} {u : Unit}
    (h : (replaceState X env persisted).run w = .ok (.ok u, w')) : w.mutex.held = false := by
  obtain ⟨_, w₁, hsaved, hlocked⟩ := bind_eq_ok h
  obtain ⟨-, rfl⟩ := Prod.mk.inj (Except.ok.inj hsaved)
  exact (locked_returned hlocked).1

/-- What `apply_local_config` leaves: the configuration in the file and in the runtime, and a
    runtime built anew on a new socket. -/
theorem applyLocalConfig_leaves {u : Unit}
    (h : (applyLocalConfig X b env config).run w = .ok (.ok u, w')) :
    ∃ persisted rebuilt, readState (env.readError 0) w.other.file = .ok persisted ∧
      rebuilt = { persisted with localConfig := some config } ∧ w'.other.file = .stored rebuilt ∧
      contents w'.mutex.value =
        (rebuilt, (RuntimeState.fromPersisted X env.salts rebuilt).peerTransportSessionsByDevice,
          (RuntimeState.fromPersisted X env.salts rebuilt).peerPathStateByDevice, []) ∧
      ∃ transport, w'.mutex.value.transport = some transport ∧
        transport.socket = TransportRuntime.socketAfter w.mutex.value.transport := by
  obtain ⟨persisted, w₁, hload, h₁⟩ := bind_eq_ok h
  rw [loadState_run] at hload
  obtain ⟨hpersisted, rfl⟩ := Prod.mk.inj (Except.ok.inj hload)
  obtain ⟨_, w₂, hreplace, h₂⟩ := bind_eq_ok h₁
  obtain ⟨-, -, rfl⟩ := replaceState_eq_ok (replaceState_free hreplace) hreplace
  obtain ⟨reread, w₃, hagain, h₃⟩ := bind_eq_ok h₂
  rw [loadState_run] at hagain
  obtain ⟨hreread, rfl⟩ := Prod.mk.inj (Except.ok.inj hagain)
  -- the second read gives back what was just stored
  have hversion : persisted.version = stateVersion := readState_version hpersisted
  have hstored : reread = { persisted with localConfig := some config } := by
    have hread := @readState_stored (env.readError 1) { persisted with localConfig := some config } hversion
    cases herror : env.readError 1 with
    | some error =>
        rw [herror] at hread hreread
        cases hread.symm.trans hreread
    | none =>
        rw [herror] at hread hreread
        exact (Except.ok.inj (hread.symm.trans hreread)).symm
  subst hstored
  dsimp only at h₃
  have hbound := setUpTun_eq_ok h₃
  refine ⟨persisted, _, hpersisted, rfl, keeps_setUpTun _ _ _ _ h₃, ?_, hbound⟩
  exact leaves_contents _ _ _ _ h₃

theorem applyRelayMap_leaves {relays : List RelayConfig} {u : Unit}
    (h : (applyRelayMap relays).run w = .ok (.ok u, w')) :
    w' = setValue w (w.mutex.value.withRelays relays) := by
  obtain ⟨-, ⟨-, herror, -⟩ | ⟨-, -, rfl⟩⟩ := locked_returned h
  · cases herror
  · rfl

-- ============================================================================
-- Refusal
-- ============================================================================

theorem mapError_ok {ε ε' α : Type} {g : ε → ε'} {m : ThreadM Machine RuntimeState ε α} {a : α}
    (h : m.run w = .ok (.ok a, w')) : (mapError g m).run w = .ok (.ok a, w') := by
  simp only [mapError, h]

theorem mapError_error {ε ε' α : Type} {g : ε → ε'} {m : ThreadM Machine RuntimeState ε α} {e : ε}
    (h : m.run w = .ok (.error e, w')) : (mapError g m).run w = .ok (.error (g e), w') := by
  simp only [mapError, h]

/-- A refused map leaves what the steps before it left. -/
theorem applyNetworkMapToBackend_refused (envPeers : Env) (hrefused : Refused X map) {w₁ w₂ : World}
    (hconfig : state.localConfig = .ok config)
    (hlocal : (applyLocalConfig X b env config).run w = .ok (.ok (), w₁))
    (hrelay : (applyRelayMap (networkMapToRelayConfigs map.relays)).run w₁ = .ok (.ok (), w₂)) :
    ∃ e, (applyNetworkMapToBackend X b env envPeers state map).run w = .ok (.error e, w₂) := by
  have hsteps : ∀ e, (do
      let peers ← ofExcept (networkMapToPeerConfigs map.peers)
      mapError BackendError.text (applyPeerMap X envPeers peers) : AgentM Unit).run w₂ = .ok (.error e, w₂) →
      (applyNetworkMapToBackend X b env envPeers state map).run w = .ok (.error e, w₂) := by
    intro e h
    rw [applyNetworkMapToBackend, hconfig]
    exact (bind_ok rfl).trans ((bind_ok (mapError_ok hlocal)).trans ((bind_ok (mapError_ok hrelay)).trans h))
  rcases hrefused with ⟨e, hpeers⟩ | ⟨peers, hpeers, hbad⟩
  · exact ⟨e, hsteps e (by rw [hpeers]; rfl)⟩
  · obtain ⟨e, hrun⟩ := applyPeerMap_refused envPeers w₂ hbad
    exact ⟨e.text, hsteps e.text (by rw [hpeers]; exact (bind_ok rfl).trans (mapError_error hrun))⟩

/-- What the two steps before the peers leave. -/
theorem leftBehind_of_steps {relays : List RelayConfig} {w₁ w₂ : World}
    (hlocal : (applyLocalConfig X b env config).run w = .ok (.ok (), w₁))
    (hrelay : (applyRelayMap relays).run w₁ = .ok (.ok (), w₂)) :
    LeftBehind X env config relays w w₂ := by
  obtain ⟨persisted, rebuilt, -, hrebuilt, hfile, hcontents, transport, htransport, hsocket⟩ :=
    applyLocalConfig_leaves hlocal
  obtain rfl := applyRelayMap_leaves hrelay
  obtain ⟨hpersisted, hcontents⟩ := Prod.mk.inj hcontents
  obtain ⟨hsessions, hcontents⟩ := Prod.mk.inj hcontents
  obtain ⟨hpaths, -⟩ := Prod.mk.inj hcontents
  have hpersisted' : (w₁.mutex.value.withRelays relays).persisted = rebuilt := hpersisted
  refine ⟨?_, ?_, ?_, ?_, rfl, transport, htransport, hsocket⟩
  · rw [setValue_value, hpersisted']
    exact hfile
  · rw [setValue_value, hpersisted', hrebuilt]
  · rw [setValue_value, hpersisted']
    exact hsessions
  · rw [setValue_value, hpersisted']
    exact hpaths

/-- The socket is not the one that was there. -/
theorem LeftBehind.not_same {relays : List RelayConfig} (h : LeftBehind X env config relays w w') :
    ¬ SameBackend w w' := by
  intro hsame
  obtain ⟨transport, htransport, hsocket⟩ := h.transport
  exact TransportRuntime.ne_of_socketAfter hsocket (hsame.transport.symm.trans htransport)

/-- **Refusal of a map.**  For every backend and every map of which a peer is refused, in a
    call that gets as far as the peers: the call fails and leaves what the two steps before
    the peers have done, so that the backend is never as it was before. -/
theorem bad_map_never_unchanged (X : Externals) (b : CustomBackend) (env envPeers : Env)
    (state : AgentState) (map : NetworkMapResponse) {w : World}
    (hrefused : RefusedAtPeers X b env state map w) :
    ∃ e w' config, (applyNetworkMapToBackend X b env envPeers state map).run w = .ok (.error e, w') ∧
      state.localConfig = .ok config ∧
      LeftBehind X env config (networkMapToRelayConfigs map.relays) w w' ∧ ¬ SameBackend w w' := by
  obtain ⟨hbad, config, w₁, w₂, hconfig, hlocal, hrelay⟩ := hrefused
  obtain ⟨e, hrun⟩ := applyNetworkMapToBackend_refused envPeers hbad hconfig hlocal hrelay
  have hleft := leftBehind_of_steps hlocal hrelay
  exact ⟨e, w₂, config, hrun, hconfig, hleft, hleft.not_same⟩

namespace Reference

/-- A relay, and the peer of `networkMap` with an overlay IP that does not parse. -/
def badMap : NetworkMapResponse :=
  { networkMap [relay] with peers := [{ peer with ipv4 := "not-an-ip" }] }

/-- A relay, the peer of `networkMap`, and after it one with a credential of another scheme. -/
def foreignMap : NetworkMapResponse :=
  { networkMap [relay] with peers :=
      [peer, { peer with
        deviceId := "dev_00000000000000000000000000000003", ipv4 := "100.64.0.4",
        backendPublicCredential := "wireguard:AAAA" }] }

def backend : CustomBackend := ⟨"tfscale0", false⟩

/-- The world in which a program has ended. -/
def worldAfter {ε : Type} (m : ThreadM Machine RuntimeState ε Unit) (w : World) : World :=
  match m.run w with
  | .ok (_, w) => w
  | .error _ => w

/-- The two steps before the peers. -/
def stepsOf (w : World) : World × World :=
  let w₁ := worldAfter (applyLocalConfig Externals.reference backend Custom.Reference.env
    Custom.Reference.localConfig) w
  (w₁, worldAfter (applyRelayMap (networkMapToRelayConfigs [relay])) w₁)

/-- A backend with a map without relays in place. -/
def installedWorld : World :=
  worldAfter (applyNetworkMapToBackend Externals.reference backend Custom.Reference.env
    Custom.Reference.env agentState (networkMap [])) Custom.Reference.freshWorld

theorem localConfig_agentState : agentState.localConfig = .ok Custom.Reference.localConfig := by
  decide +kernel

end Reference

open Reference in
/-- The credential of the second peer is refused; the relay of the map is there all the same,
    and the socket is another one. -/
theorem bad_map_never_unchanged_credential :
    ∃ e w', (applyNetworkMapToBackend Externals.reference backend Custom.Reference.env
        Custom.Reference.env agentState foreignMap).run installedWorld = .ok (.error e, w') ∧
      w'.mutex.value.relays = [⟨"relay_sfo_1", "tcp://192.0.2.1:9443", "sfo"⟩] ∧
      ¬ SameBackend installedWorld w' := by
  have hpeers : (networkMapToPeerConfigs foreignMap.peers).toOption.any (fun peers => peers.any fun peer =>
      (validatePublicCredential Externals.reference
        peer.publicCredential.publicCredential).toOption.isNone) = true := by
    decide +kernel
  obtain ⟨peers, hok, hfacts⟩ := (Option.any_eq_true _ _).mp hpeers
  obtain ⟨peer, hpeer, hrefused⟩ := List.any_eq_true.mp hfacts
  have hbad : Refused Externals.reference foreignMap := by
    refine .inr ⟨peers, Fallible.toOption_eq_some.mp hok, peer, hpeer, ?_⟩
    cases hvalidate : validatePublicCredential Externals.reference peer.publicCredential.publicCredential with
    | error e => exact ⟨e, rfl⟩
    | ok _ =>
        rw [hvalidate] at hrefused
        cases hrefused
  obtain ⟨e, w', config, hrun, -, hleft, hchanged⟩ := bad_map_never_unchanged Externals.reference backend
    Custom.Reference.env Custom.Reference.env agentState foreignMap (w := installedWorld)
    ⟨hbad, _, (stepsOf installedWorld).1, (stepsOf installedWorld).2, localConfig_agentState, rfl, rfl⟩
  exact ⟨e, w', hrun, hleft.relays, hchanged⟩

open Reference in
/-- A backend with a map in place; the map that is refused leaves its relay. -/
theorem bad_map_leaves_relay :
    ∃ w, Reference.apply [] = .ok (.ok (), w) ∧
      ∃ e w', (applyNetworkMapToBackend Externals.reference backend Custom.Reference.env
          Custom.Reference.env agentState badMap).run w = .ok (.error e, w') ∧
        w.mutex.value.relays = [] ∧
        w'.mutex.value.relays = [⟨"relay_sfo_1", "tcp://192.0.2.1:9443", "sfo"⟩] ∧
        ¬ SameBackend w w' := by
  refine ⟨installedWorld, rfl, "invalid peer overlay IP: not-an-ip",
    worldAfter (applyNetworkMapToBackend Externals.reference backend Custom.Reference.env
      Custom.Reference.env agentState badMap) installedWorld, rfl, rfl, rfl, ?_⟩
  intro hsame
  cases hsame.relays

end TfScale.Agent
