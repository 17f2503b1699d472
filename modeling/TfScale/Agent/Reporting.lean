/-
  TfScale.Agent.Reporting

  What an agent sends in a heartbeat: the endpoints of its backend, and the one that a
  probe has observed.

  The control plane names its UDP listener in the response to a probe request; the agent
  reads that address back and lets the backend probe it, and when this gives nothing it
  takes the address that the request came from.  Whatever it comes to, the endpoints are
  such as the other agents can read.
-/

import TfScale.Agent.Endpoints
import TfScale.Control.Acceptance

namespace TfScale.Agent

open TfScale.Control (Api Db EndpointFits)

structure EndpointProbeRequest where
  deviceId : String
  nodeKey : String
  protocol : String
deriving DecidableEq, Repr

structure EndpointProbeResponse where
  observedAddress : String
  observedPort : UInt16
  protocol : String
  udpProbeAddress : Option String
  udpProbePort : Option UInt16
deriving DecidableEq, Repr

-- ============================================================================
-- The control plane
-- ============================================================================

/-- `endpoint_probe`, for a request that came from `addr`. -/
def endpointProbe (db : Db) (udpProbeAddr addr : SocketAddr) (request : EndpointProbeRequest) :
    Api EndpointProbeResponse := do
  db.validateDeviceNodeKey request.deviceId request.nodeKey
  if request.protocol ≠ "udp" then .error ⟨.badRequest, "only udp endpoint probing is supported"⟩
  else return {
    observedAddress := addr.ip.display
    observedPort := addr.port
    protocol := request.protocol
    udpProbeAddress := some udpProbeAddr.ip.display
    udpProbePort := some udpProbeAddr.port }

-- ============================================================================
-- The agent
-- ============================================================================

/-- `udp_probe_server` -/
def udpProbeServer (response : EndpointProbeResponse) : Except String (Option SocketAddr) :=
  match response.udpProbeAddress with
  | none => .ok none
  | some address =>
      match response.udpProbePort with
      | none => .ok none
      | some port =>
          match parseIpAddr address with
          | none => .error "invalid IP address syntax"
          | some ip => .ok (some ⟨ip, port⟩)

/-- `endpoint_from_probe_response` -/
def endpointFromProbeResponse (response : EndpointProbeResponse) : Option EndpointPayload :=
  if response.observedPort = 0 then none
  else some {
    kind := "public"
    address := response.observedAddress
    port := response.observedPort
    protocol := response.protocol
    source := some "stun"
    priority := some 50
    expiresAt := none }

/-- `probe_public_endpoint`, over the response to its request and what the backend's own
    probe of a server gives. -/
def probePublicEndpoint (response : Except String EndpointProbeResponse)
    (backend : SocketAddr → Except String (Option PublicEndpointProbe)) :
    Except String (Option EndpointPayload) := do
  let response ← response
  match ← udpProbeServer response with
  | some probeServer =>
      match ← backend probeServer with
      | some probe => return some (endpointFromBackendProbe probe.observedEndpoint)
      | none => return endpointFromProbeResponse response
  | none => return endpointFromProbeResponse response

/-- `discovered_endpoints` -/
def discoveredEndpoints (probed : Except String (Option EndpointPayload))
    (endpoints : List EndpointPayload) : List EndpointPayload :=
  match probed with
  | .ok (some endpoint) => endpoints ++ [endpoint]
  | .ok none => endpoints
  | .error _ => endpoints

/-- The request of `send_heartbeat`. -/
def heartbeatRequest (deviceId nodeKey : String) (localEndpoints : List Endpoint)
    (probed : Except String (Option EndpointPayload)) : HeartbeatRequest where
  deviceId := deviceId
  nodeKey := nodeKey
  endpoints := discoveredEndpoints probed (localEndpoints.map endpointToPayload)

-- ============================================================================
-- What is reported can be read
-- ============================================================================

section Fits

variable {db : Db} {udpProbeAddr addr : SocketAddr} {request : EndpointProbeRequest}
variable {response : EndpointProbeResponse}

theorem endpointProbe_eq_ok (h : endpointProbe db udpProbeAddr addr request = .ok response) :
    response = ⟨addr.ip.display, addr.port, "udp", some udpProbeAddr.ip.display,
      some udpProbeAddr.port⟩ := by
  obtain ⟨_, -, h⟩ := Fallible.bind_eq_ok.mp h
  split at h
  · cases h
  · rename_i hprotocol
    obtain rfl := Except.ok.inj h
    rw [not_not.mp hprotocol]

/-- The agent probes the listener of the control plane. -/
theorem udpProbeServer_of_endpointProbe
    (h : endpointProbe db udpProbeAddr addr request = .ok response) :
    udpProbeServer response = .ok (some udpProbeAddr) := by
  obtain rfl := endpointProbe_eq_ok h
  simp only [udpProbeServer, parseIpAddr_display]

theorem endpointFits_report (report : Report) : EndpointFits report.payload := by
  rw [EndpointFits, endpointToConfig_report rfl rfl rfl rfl]
  rfl

/-- The address that a request came from can be read. -/
theorem endpointFits_observed {e : EndpointPayload}
    (h : endpointProbe db udpProbeAddr addr request = .ok response)
    (he : endpointFromProbeResponse response = some e) : EndpointFits e := by
  obtain rfl := endpointProbe_eq_ok h
  unfold endpointFromProbeResponse at he
  split at he
  · cases he
  · obtain rfl := Option.some.inj he
    exact endpointFits_report (.probed ⟨.public, addr.ip, addr.port, .udp⟩)

/-- What `probe_public_endpoint` finds can be read. -/
theorem endpointFits_probed {backend : SocketAddr → Except String (Option PublicEndpointProbe)}
    {result : Except String EndpointProbeResponse} {e : EndpointPayload}
    (h : ∀ response, result = .ok response →
      ∃ db udpProbeAddr addr request, endpointProbe db udpProbeAddr addr request = .ok response)
    (he : probePublicEndpoint result backend = .ok (some e)) : EndpointFits e := by
  obtain ⟨response, hresponse, he⟩ := Fallible.bind_eq_ok.mp he
  obtain ⟨db, udpProbeAddr, addr, request, hprobe⟩ := h response hresponse
  obtain ⟨server, hserver, he⟩ := Fallible.bind_eq_ok.mp he
  rw [udpProbeServer_of_endpointProbe hprobe] at hserver
  obtain rfl := Except.ok.inj hserver
  obtain ⟨probe, -, he⟩ := Fallible.bind_eq_ok.mp he
  cases probe with
  | some probe =>
      obtain rfl := Option.some.inj (Except.ok.inj he)
      exact endpointFits_report (.probed probe.observedEndpoint)
  | none => exact endpointFits_observed hprobe (Except.ok.inj he)

/-- Every endpoint of a heartbeat can be read. -/
theorem endpointFits_heartbeat {deviceId nodeKey : String} {localEndpoints : List Endpoint}
    {probed : Except String (Option EndpointPayload)}
    (h : ∀ e, probed = .ok (some e) → EndpointFits e) :
    ∀ e ∈ (heartbeatRequest deviceId nodeKey localEndpoints probed).endpoints, EndpointFits e := by
  have hlocal : ∀ e ∈ localEndpoints.map endpointToPayload, EndpointFits e := by
    intro e he
    obtain ⟨endpoint, -, rfl⟩ := List.mem_map.mp he
    exact endpointFits_report (.found endpoint)
  intro e he
  unfold heartbeatRequest discoveredEndpoints at he
  split at he
  · rename_i endpoint
    rcases List.mem_append.mp he with hmem | hmem
    · exact hlocal e hmem
    · obtain rfl := List.mem_singleton.mp hmem
      exact h e rfl
  · exact hlocal e he
  · exact hlocal e he

end Fits

end TfScale.Agent
