/-
  TfScale.Net.Backend

  The backend-neutral data model of `tfscale-net`: errors, endpoints and the
  configuration values that the agent passes to a `NetworkBackend`.
-/

import TfScale.Lib.Fallible
import TfScale.Net.Addr

namespace TfScale

inductive BackendError where
  | missingCommand (command : String)
  | commandFailed (message : String)
  | unsupportedPlatform (message : String)
deriving DecidableEq, Repr

namespace BackendError

/-- The text of an error (`Display`). -/
def text : BackendError → String
  | missingCommand s => "required command is missing: " ++ s
  | commandFailed s => "backend command failed: " ++ s
  | unsupportedPlatform s => "unsupported platform: " ++ s

end BackendError

/-- `tfscale_net::Result` -/
abbrev Result (α : Type) := Except BackendError α

/-- `Err(BackendError::CommandFailed(message))` -/
def commandFailed {α : Type} (message : String) : Result α := .error (.commandFailed message)

/-- A `?` chain succeeds when both of its parts do. -/
theorem Result.bind_eq_ok {α β : Type} {x : Result α} {f : α → Result β} {b : β} :
    (x >>= f) = .ok b ↔ ∃ a, x = .ok a ∧ f a = .ok b := Fallible.bind_eq_ok

inductive EndpointKind where
  | lan
  | «public»
  | ipv6
  | relay
deriving DecidableEq, Repr

inductive TransportProtocol where
  | udp
  | tcp
deriving DecidableEq, Repr

structure Endpoint where
  kind : EndpointKind
  address : IpAddr
  port : UInt16
  protocol : TransportProtocol
deriving DecidableEq

structure BackendCredential where
  publicCredential : String
deriving DecidableEq, Repr

structure LocalBackendConfig where
  deviceId : String
  interfaceName : String
  overlayIp : Ipv4Addr
  listenPort : UInt16
deriving DecidableEq, Repr

structure PeerConfig where
  deviceId : String
  hostname : String
  overlayIp : Ipv4Addr
  publicCredential : BackendCredential
  endpoints : List Endpoint
  allowedRoutes : List String
deriving DecidableEq

structure RelayConfig where
  relayId : String
  url : String
  region : String
deriving DecidableEq, Repr

structure PublicEndpointProbe where
  observedEndpoint : Endpoint
deriving DecidableEq

inductive BackendType where
  | tfscale
  | wireGuard
  | easyTier
  | custom (value : String)
deriving DecidableEq, Repr

inductive PeerPathDiagnosticKind where
  | unknown
  | direct
  | relay
deriving DecidableEq, Repr

structure PeerPathDiagnostic where
  deviceId : String
  path : PeerPathDiagnosticKind
  endpoint : Option String
  rttMs : Option UInt64
  failures : UInt32
  txPackets : UInt64
  rxPackets : UInt64
deriving DecidableEq, Repr

structure BackendStatus where
  backendType : BackendType
  interfaceName : String
  healthy : Bool
  message : Option String
  peers : List PeerPathDiagnostic
deriving DecidableEq, Repr

end TfScale
