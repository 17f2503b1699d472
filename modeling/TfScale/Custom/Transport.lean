/-
  TfScale.Custom.Transport

  The UDP transport (`transport.rs`): the ranking of endpoints, the socket with
  its counters, and the probe for the public endpoint.

  What the kernel answers is an argument: `SendTo` for `send_to`, a `Received`
  for each `recv_from`.  The datagrams that `send_to` took are kept in `sent`.
-/

import Mathlib.Data.List.Sort
import TfScale.Lib.Text
import TfScale.Net.Backend

namespace TfScale.Custom

/-- `std::time::SystemTime`, in nanoseconds from the Unix epoch. -/
abbrev SystemTime := Int

/-- `std::time::Duration`, in nanoseconds. -/
abbrev Duration := Nat

/-- `now.duration_since(earlier).ok()` -/
def durationSince (now earlier : SystemTime) : Option Duration :=
  if earlier ≤ now then some (now - earlier).toNat else none

-- ============================================================================
-- Endpoint ranking
-- ============================================================================

/-- `is_cgnat_ipv4` -/
def isCgnatIpv4 (address : Ipv4Addr) : Bool := address.a == 100 && 64 ≤ address.b && address.b ≤ 127

/-- `is_private_lan` -/
def isPrivateLan : IpAddr → Bool
  | .v4 address => address.isPrivate || address.isLinkLocal || isCgnatIpv4 address
  | .v6 address => address.isUniqueLocal || address.isUnicastLinkLocal

/-- `endpoint_rank` -/
def endpointRank (endpoint : Endpoint) : Nat :=
  match endpoint.kind with
  | .lan => if isPrivateLan endpoint.address then 0 else 3
  | .ipv6 => 1
  | .public => 2
  | .relay => 4

/-- `Iterator::min_by_key`: the first of the elements with the least key. -/
def minByKey {α : Type} (key : α → Nat) : List α → Option α
  | [] => none
  | x :: xs => some (xs.foldl (fun best y => if key y < key best then y else best) x)

/-- `select_udp_endpoint` -/
def selectUdpEndpoint (endpoints : List Endpoint) : Option Endpoint :=
  minByKey endpointRank (endpoints.filter fun endpoint => endpoint.protocol = .udp)

/-- `sorted_udp_endpoints`; `sort_by_key` is stable, as insertion sort is. -/
def sortedUdpEndpoints (endpoints : List Endpoint) : List Endpoint :=
  (endpoints.filter fun endpoint => endpoint.protocol = .udp).insertionSort
    fun a b => endpointRank a ≤ endpointRank b

/-- `endpoint_socket_addr` -/
def endpointSocketAddr (endpoint : Endpoint) : Result SocketAddr :=
  if endpoint.protocol ≠ .udp then commandFailed "endpoint is not UDP transport"
  else .ok ⟨endpoint.address, endpoint.port⟩

-- ============================================================================
-- The socket
-- ============================================================================

structure TransportStatus where
  udpBound : Bool
  localEndpoints : Nat
  txPackets : UInt64
  rxPackets : UInt64
  txDrops : UInt64
  rxDrops : UInt64
deriving DecidableEq, Repr

def TransportStatus.default : TransportStatus := ⟨false, 0, 0, 0, 0, 0⟩

structure TransportRuntime where
  /-- which socket it is: another one than the socket it replaced -/
  socket : Nat
  localEndpoint : Endpoint
  status : TransportStatus
  /-- datagrams that the socket sent, oldest first -/
  sent : List (SocketAddr × Bytes)
deriving DecidableEq

/-- The kernel's answer to `send_to`: the bytes sent, or an error. -/
abbrev SendTo := SocketAddr → Bytes → Except String Nat

/-- The kernel's answer to `recv_from`. -/
inductive Received where
  | datagram (bytes : Bytes) (source : SocketAddr)
  | wouldBlock
  | failed (message : String)
deriving DecidableEq

namespace TransportRuntime

/-- The socket that is bound when the one of `replaced` has been closed. -/
def socketAfter (replaced : Option TransportRuntime) : Nat :=
  (replaced.map fun t => t.socket + 1).getD 0

/-- A socket that is bound is not the one that was there. -/
theorem ne_of_socketAfter {replaced : Option TransportRuntime} {t : TransportRuntime}
    (h : t.socket = socketAfter replaced) : replaced ≠ some t := by
  rintro rfl
  exact absurd h (Nat.ne_of_lt (Nat.lt_succ_self _))

/-- `TransportRuntime::bind`, from the port that the socket got and the address of
    the LAN interface, if one was found. -/
def bind (port : Except String UInt16) (lan : Option Ipv4Addr) (socket : Nat) : Result TransportRuntime :=
  match port with
  | .error message => commandFailed message
  | .ok port => .ok {
      socket
      localEndpoint := {
        kind := .lan
        address := .v4 (lan.getD Ipv4Addr.localhost)
        port
        protocol := .udp }
      status := { TransportStatus.default with udpBound := true, localEndpoints := 1 }
      sent := [] }

theorem bind_socket {port : Except String UInt16} {lan : Option Ipv4Addr} {socket : Nat}
    {t : TransportRuntime} (h : bind port lan socket = .ok t) : t.socket = socket := by
  cases port with
  | error message => cases h
  | ok port =>
      obtain rfl := Except.ok.inj h
      rfl

variable (t : TransportRuntime)

/-- `local_endpoints` -/
def localEndpoints : List Endpoint := [t.localEndpoint]

/-- `send_frame` -/
def sendFrame (sendTo : SendTo) (endpoint : Endpoint) (frame : Bytes) :
    Result Nat × TransportRuntime :=
  match endpointSocketAddr endpoint with
  | .error error => (.error error, t)
  | .ok addr =>
      match sendTo addr frame with
      | .ok bytes =>
          (.ok bytes, { t with
            status := { t.status with txPackets := t.status.txPackets + 1 }
            sent := t.sent ++ [(addr, frame)] })
      | .error message =>
          (commandFailed message,
            { t with status := { t.status with txDrops := t.status.txDrops + 1 } })

/-- `receive_frame` into a buffer of `bufferLen` bytes: a longer datagram is cut. -/
def receiveFrame (bufferLen : Nat) :
    Received → Result (Option (Bytes × SocketAddr)) × TransportRuntime
  | .datagram bytes source =>
      (.ok (some (bytes.take bufferLen, source)),
        { t with status := { t.status with rxPackets := t.status.rxPackets + 1 } })
  | .wouldBlock => (.ok none, t)
  | .failed message =>
      (commandFailed message,
        { t with status := { t.status with rxDrops := t.status.rxDrops + 1 } })

/-- `record_rx_drop` -/
def recordRxDrop : TransportRuntime :=
  { t with status := { t.status with rxDrops := t.status.rxDrops + 1 } }

end TransportRuntime

-- ============================================================================
-- The probe for the public endpoint
-- ============================================================================

def publicEndpointProbeTag : String := "tfscale-public-probe-v1"

/-- `PUBLIC_ENDPOINT_PROBE_REQUEST` -/
def publicEndpointProbeRequest : Bytes := strBytes publicEndpointProbeTag

/-- `encode_probe_response` -/
def encodeProbeResponse (observed : SocketAddr) : Bytes :=
  strBytes (publicEndpointProbeTag ++ " " ++ observed.ip.display ++ " " ++
    toString observed.port.toNat)

/-- `decode_probe_response` -/
def decodeProbeResponse (bytes : Bytes) : Result (Option PublicEndpointProbe) :=
  match Text.fromUtf8 bytes with
  | .error error => commandFailed error.text
  | .ok text =>
      match Text.splitWhitespace text with
      | tag :: address :: port :: _ =>
          if tag ≠ publicEndpointProbeTag.toList then .ok none
          else
            match parseIpAddr (String.ofList address) with
            | none => commandFailed "invalid probe address: invalid IP address syntax"
            | some address =>
                match Text.parseUnsigned 65536 port with
                | .error error => commandFailed ("invalid probe port: " ++ error.text)
                | .ok port => .ok (some {
                    observedEndpoint := {
                      kind := .public
                      address
                      port := UInt16.ofNat port
                      protocol := .udp } })
      | _ => .ok none

namespace TransportRuntime

/-- `send_probe_request` -/
def sendProbeRequest (t : TransportRuntime) (sendTo : SendTo) (probeServer : SocketAddr) :
    Result Unit × TransportRuntime :=
  match sendTo probeServer publicEndpointProbeRequest with
  | .ok _ =>
      (.ok (), { t with
        status := { t.status with txPackets := t.status.txPackets + 1 }
        sent := t.sent ++ [(probeServer, publicEndpointProbeRequest)] })
  | .error message =>
      (commandFailed message, { t with status := { t.status with txDrops := t.status.txDrops + 1 } })

/-- The receive loop of `probe_public_endpoint` over the answers of `recv_from`,
    each with the instant read after it; `none` while it has not returned. -/
def awaitProbeReply (probeServer : SocketAddr) (deadline : Nat) :
    TransportRuntime → List (Received × Nat) →
      Option (Result (Option PublicEndpointProbe) × TransportRuntime)
  | _, [] => none
  | t, (received, now) :: rest =>
      match received with
      | .datagram bytes source =>
          let t := { t with status := { t.status with rxPackets := t.status.rxPackets + 1 } }
          if source = probeServer then some (decodeProbeResponse (bytes.take 256), t)
          else awaitProbeReply probeServer deadline t rest
      | .wouldBlock =>
          if now ≥ deadline then some (.ok none, t)
          else awaitProbeReply probeServer deadline t rest
      | .failed message =>
          some (commandFailed message,
            { t with status := { t.status with rxDrops := t.status.rxDrops + 1 } })

/-- `probe_public_endpoint`, begun at the instant `start`. -/
def probePublicEndpoint (t : TransportRuntime) (sendTo : SendTo) (probeServer : SocketAddr)
    (start : Nat) (timeout : Duration) (answers : List (Received × Nat)) :
    Option (Result (Option PublicEndpointProbe) × TransportRuntime) :=
  match t.sendProbeRequest sendTo probeServer with
  | (.error error, t) => some (.error error, t)
  | (.ok _, t) => awaitProbeReply probeServer (start + timeout) t answers

/-- The transport when `probe_public_endpoint` has returned. -/
def afterProbe (t : TransportRuntime) (sendTo : SendTo) (probeServer : SocketAddr) (start : Nat)
    (timeout : Duration) (answers : List (Received × Nat)) : TransportRuntime :=
  ((t.probePublicEndpoint sendTo probeServer start timeout answers).map Prod.snd).getD t

end TransportRuntime

end TfScale.Custom
