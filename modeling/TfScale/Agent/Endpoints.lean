/-
  TfScale.Agent.Endpoints

  How the agent reports the endpoints of its backend: those it has found on the
  machine, and the one that a probe has observed.

  A report is decoded to the endpoint it was made from, if the text of the address
  is.  Its fields hold no bar, which is what the control plane puts between them when
  it makes the key of the endpoint.
-/

import TfScale.Agent.NetworkMap
import TfScale.Net.AddrText

namespace TfScale.Agent

-- ============================================================================
-- Encoding
-- ============================================================================

/-- `endpoint_kind_to_payload` -/
def endpointKindToPayload : EndpointKind → String
  | .lan => "lan"
  | .public => "public"
  | .ipv6 => "ipv6"
  | .relay => "relay"

/-- `transport_protocol_to_payload` -/
def transportProtocolToPayload : TransportProtocol → String
  | .udp => "udp"
  | .tcp => "tcp"

/-- What the two encoders share. -/
def encodeEndpoint (source : String) (priority : Int) (endpoint : Endpoint) : EndpointPayload where
  kind := endpointKindToPayload endpoint.kind
  address := endpoint.address.display
  port := endpoint.port
  protocol := transportProtocolToPayload endpoint.protocol
  source := some source
  priority := some priority
  expiresAt := none

/-- `endpoint_to_payload` -/
def endpointToPayload : Endpoint → EndpointPayload := encodeEndpoint "local" 100

/-- `endpoint_from_backend_probe` -/
def endpointFromBackendProbe : Endpoint → EndpointPayload := encodeEndpoint "stun" 50

/-- An endpoint of the backend, and the way in which it is reported. -/
inductive Report where
  /-- an endpoint of the machine -/
  | found (endpoint : Endpoint)
  /-- the endpoint that a probe has observed -/
  | probed (endpoint : Endpoint)
deriving DecidableEq

namespace Report

def endpoint : Report → Endpoint
  | found e | probed e => e

def payload : Report → EndpointPayload
  | found e => endpointToPayload e
  | probed e => endpointFromBackendProbe e

theorem payload_eq (report : Report) : ∃ source priority,
    report.payload = encodeEndpoint source priority report.endpoint ∧
      (source = "local" ∧ priority = 100 ∨ source = "stun" ∧ priority = 50) := by
  cases report with
  | found e => exact ⟨"local", 100, rfl, Or.inl ⟨rfl, rfl⟩⟩
  | probed e => exact ⟨"stun", 50, rfl, Or.inr ⟨rfl, rfl⟩⟩

end Report

-- ============================================================================
-- Decoding what was encoded
-- ============================================================================

theorem parseEndpointKind_toPayload (kind : EndpointKind) :
    parseEndpointKind (endpointKindToPayload kind) = .ok kind := by
  cases kind <;> rfl

theorem parseTransportProtocol_toPayload (protocol : TransportProtocol) :
    parseTransportProtocol (transportProtocolToPayload protocol) = .ok protocol := by
  cases protocol <;> rfl

/-- A payload that agrees with a report in the fields that are decoded. -/
theorem endpointToConfig_report {report : Report} {e : EndpointPayload}
    (hkind : e.kind = report.payload.kind) (haddress : e.address = report.payload.address)
    (hport : e.port = report.payload.port) (hprotocol : e.protocol = report.payload.protocol) :
    endpointToConfig e = .ok report.endpoint := by
  obtain ⟨source, priority, hpayload, -⟩ := report.payload_eq
  rw [hpayload] at hkind haddress hport hprotocol
  have hparsed : parseIpAddr e.address = some report.endpoint.address := by
    rw [haddress]
    exact parseIpAddr_display report.endpoint.address
  refine Fallible.bind_eq_ok.mpr ⟨report.endpoint.kind, ?_, ?_⟩
  · rw [hkind]
    exact parseEndpointKind_toPayload _
  refine Fallible.bind_eq_ok.mpr ⟨report.endpoint.address, by rw [hparsed]; rfl, ?_⟩
  refine Fallible.bind_eq_ok.mpr ⟨report.endpoint.protocol, ?_, ?_⟩
  · rw [hprotocol]
    exact parseTransportProtocol_toPayload _
  · rw [hport]
    rfl

-- ============================================================================
-- No bars
-- ============================================================================

/-- The text holds no bar. -/
def NoBar (text : String) : Prop := '|' ∉ text.toList

instance (text : String) : Decidable (NoBar text) := inferInstanceAs (Decidable (_ ∉ _))

/-- No address has one in its text. -/
theorem noBar_of_addrChars {text : String} (h : ∀ ch ∈ text.toList, AddrChar ch) : NoBar text := by
  intro hmem
  rcases h '|' hmem with hdot | hcolon | ⟨d, -, hdigit⟩
  · exact absurd hdot (by decide)
  · exact absurd hcolon (by decide)
  · exact Nat.digitChar_ne '|' (by decide) hdigit.symm

theorem noBar_toString (n : Nat) : NoBar (toString n) := by
  refine noBar_of_addrChars fun ch hch => ?_
  rw [Text.toString_toList] at hch
  exact .of_mem_toDigits (by decide) (by decide) hch

theorem noBar_display (address : IpAddr) : NoBar address.display :=
  noBar_of_addrChars (addrText_display address).chars

/-- The fields of a report, as the control plane puts them into a key. -/
theorem Report.noBar (report : Report) : NoBar report.payload.kind ∧ NoBar report.payload.address ∧
    NoBar report.payload.protocol := by
  obtain ⟨source, priority, hpayload, -⟩ := report.payload_eq
  rw [hpayload]
  refine ⟨?_, noBar_display _, ?_⟩
  · show NoBar (endpointKindToPayload report.endpoint.kind)
    cases report.endpoint.kind <;> decide
  · show NoBar (transportProtocolToPayload report.endpoint.protocol)
    cases report.endpoint.protocol <;> decide

end TfScale.Agent
