/-
  TfScale.Custom.Status

  `status` of the custom backend: what the state file says is counted from a
  runtime built for the occasion, what is live is read from the real one, in
  four critical sections.
-/

import TfScale.Custom.Backend

namespace TfScale.Custom

/-- `diagnostic_kind` -/
def diagnosticKind : PeerPathKind → PeerPathDiagnosticKind
  | .unknown => .unknown
  | .direct => .direct
  | .relay => .relay

/-- The entry of `direct_path_status` for one peer, if its path is direct. -/
def directPathEntry (deviceId : String) (state : PeerPathState) : Option String :=
  if state.currentPath ≠ .direct then none
  else
    state.activeEndpoint.map fun endpoint =>
      let rtt := match state.rttMs with
        | some value => toString value.toNat ++ "ms"
        | none => "-"
      deviceId ++ "@" ++ endpoint.address.display ++ ":" ++ toString endpoint.port.toNat ++
        "/rtt=" ++ rtt

/-- `direct_path_status` -/
def directPathStatus (peerPaths : HashMap String PeerPathState) : String :=
  let paths := (peerPaths.entries.filterMap fun entry => directPathEntry entry.1 entry.2).insertionSort
    (· ≤ ·)
  if paths.isEmpty then "none" else ",".intercalate paths

/-- `fast_probe_status` -/
def fastProbeStatus (peerPaths : HashMap String PeerPathState) : String :=
  toString (peerPaths.values.filter fun state =>
    state.currentPath ≠ .direct ∧ state.fastProbeAttemptsRemaining > 0).length

/-- `peer_path_diagnostics` -/
def peerPathDiagnostics (peers : List StoredPeerSession) (peerPaths : HashMap String PeerPathState)
    (txPackets rxPackets : UInt64) : List PeerPathDiagnostic :=
  peers.map fun peer =>
    let state := peerPaths.lookup peer.deviceId
    { deviceId := peer.deviceId
      path := (state.map fun state => diagnosticKind state.currentPath).getD .unknown
      endpoint := state.bind fun state => state.activeEndpoint.map fun endpoint =>
        endpoint.address.display ++ ":" ++ toString endpoint.port.toNat
      rttMs := state.bind (·.rttMs)
      failures := (state.map (·.failures)).getD 0
      txPackets
      rxPackets }

/-- The number of peers on a path. -/
def pathCount (kind : PeerPathKind) (peerPaths : HashMap String PeerPathState) : Nat :=
  (peerPaths.values.filter fun state => state.currentPath = kind).length

/-- The message of `status`: the stored part of the state as `runtime`, the live
    part as the other arguments. -/
def statusMessage (runtime : RuntimeState) (tunStatus : Option TunStatus)
    (transportStatus : TransportStatus) (transportRunning : Bool)
    (peerPaths : HashMap String PeerPathState) : String :=
  let directPeers := pathCount .direct peerPaths
  let relayPeers := pathCount .relay peerPaths
  "custom backend state: credentials=" ++ toString runtime.persisted.identity.isSome ++
    " local_config=" ++ toString runtime.persisted.localConfig.isSome ++
    " peers=" ++ toString runtime.persisted.peers.length ++
    " peer_indexes=device:" ++ toString runtime.peersByDevice.size ++
    " overlay:" ++ toString runtime.peersByOverlayIp.size ++
    " crypto_peers=" ++ toString runtime.peerCryptoMaterialByDevice.size ++
    " udp_bound=" ++ toString transportStatus.udpBound ++
    " transport_running=" ++ toString transportRunning ++
    " local_endpoints=" ++ toString transportStatus.localEndpoints ++
    " transport_peers=" ++ toString runtime.peerUdpEndpointsByDevice.size ++
    " transport_sessions=" ++ toString runtime.peerTransportSessionsByDevice.size ++
    " direct_peers=" ++ toString directPeers ++
    " relay_peers=" ++ toString relayPeers ++
    " fast_probe_peers=" ++ fastProbeStatus peerPaths ++
    " direct_paths=" ++ directPathStatus peerPaths ++
    " reachable_peers=" ++ toString (directPeers + relayPeers) ++
    " tx_packets=" ++ toString transportStatus.txPackets.toNat ++
    " rx_packets=" ++ toString transportStatus.rxPackets.toNat ++
    " tx_drops=" ++ toString transportStatus.txDrops.toNat ++
    " rx_drops=" ++ toString transportStatus.rxDrops.toNat ++
    " tun_configured=" ++ toString ((tunStatus.map (·.configured)).getD false) ++
    " tun_io_ready=" ++ toString ((tunStatus.map (·.ioReady)).getD false) ++
    " tun_message=" ++ (tunStatus.bind (·.message)).getD "not_configured" ++
    " data_plane=transport_ready"

/-- `status` -/
def status (X : Externals) (b : CustomBackend) (env : Env) : BackendM BackendStatus := do
  let state ← loadState env 0
  let runtime := RuntimeState.fromPersisted X env.salts state
  let tunStatus ← locked fun rt => (.ok rt.tunStatus, rt)
  let transportStatus ← locked fun rt =>
    (.ok ((rt.transport.map (·.status)).getD TransportStatus.default), rt)
  let transportRunning ← locked fun rt => (.ok rt.transportTasks.isSome, rt)
  let peerPaths ← locked fun rt => (.ok rt.peerPathStateByDevice, rt)
  return {
    backendType := .custom "tfscale"
    interfaceName := b.interfaceName
    healthy := (tunStatus.map (·.configured)).getD false && (tunStatus.map (·.ioReady)).getD false &&
      transportStatus.udpBound && transportRunning
    message := some (statusMessage runtime tunStatus transportStatus transportRunning peerPaths)
    peers := peerPathDiagnostics runtime.persisted.peers peerPaths transportStatus.txPackets
      transportStatus.rxPackets }

end TfScale.Custom
