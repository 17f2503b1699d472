/-
  TfScale.Agent.Enrolment

  The state file of the agent, and how `agent_up` gets its device: the state is loaded or
  begun, the backend gives the credential, the state is saved, and the agent registers
  unless the state has a device.

  `AgentState::save` is one `fs::write`: when it is cut short, what is left does not parse.
-/

import TfScale.Agent.NetworkMap
import TfScale.Control.Queries

namespace TfScale.Agent

open TfScale.Custom TfScale.Control ThreadM

def defaultDnsListen : String := "127.0.0.1:1053"

/-- `AgentState`, with the fields that a map is not applied with. -/
structure SavedState extends AgentState where
  machineKey : String
  backendPublicCredential : String
  nodeKey : Option String
  networkId : Option String
  pollIntervalSeconds : UInt64
  dnsRecords : List DnsRecord
  dnsEnabled : Bool
  dnsListen : String
  dnsHealthy : Bool
  dnsMessage : Option String
deriving DecidableEq

namespace SavedState

/-- `AgentState::new` -/
def new (uuid : Uuid) : SavedState where
  deviceId := none
  ipv4 := none
  machineKey := "machine_" ++ simple uuid
  backendPublicCredential := ""
  nodeKey := none
  networkId := none
  pollIntervalSeconds := 5
  dnsRecords := []
  dnsEnabled := false
  dnsListen := defaultDnsListen
  dnsHealthy := false
  dnsMessage := none

/-- What `agent_up` notes of its attempt to start the DNS proxy. -/
def proxyStarted (state : SavedState) (dnsListen : String) : Except String Unit → SavedState
  | .ok _ => { state with
      dnsEnabled := true
      dnsListen
      dnsHealthy := true
      dnsMessage := some "DNS proxy listening" }
  | .error error => { state with
      dnsEnabled := true
      dnsListen
      dnsHealthy := false
      dnsMessage := some ("DNS proxy failed to bind: " ++ error) }

/-- The request of `register_agent_if_needed`; what it says besides the state is taken from
    an earlier draft of it. -/
def registerRequest (state : SavedState) (draft : RegisterDeviceRequest) : RegisterDeviceRequest :=
  { draft with
    machineKey := state.machineKey
    backendType := "tfscale"
    backendPublicCredential := state.backendPublicCredential }

/-- The state with the response of a registration. -/
def withResponse (state : SavedState) (response : RegisterDeviceResponse) : SavedState :=
  { state with
    deviceId := some response.deviceId
    nodeKey := some response.nodeKey
    networkId := some response.networkId
    ipv4 := some response.ipv4
    pollIntervalSeconds := response.pollIntervalSeconds }

/-- `save_dns_snapshot`: the state that is saved. -/
def withRecords (state : SavedState) (dnsRecords : List DnsRecord) : SavedState :=
  { state with dnsRecords }

end SavedState

-- ============================================================================
-- The state file
-- ============================================================================

inductive AgentFile where
  | absent
  | unparsable (message : String)
  | stored (state : SavedState)
deriving DecidableEq

/-- `AgentState::load` -/
def AgentFile.load (readError : Option String) : AgentFile → Except String (Option SavedState)
  | .absent => .ok none
  | .unparsable message => .error (readError.getD message)
  | .stored state =>
      match readError with
      | some error => .error error
      | none => .ok (some state)

/-- How `AgentState::save` ends: it can fail before it has opened the file, or after. -/
inductive WriteOutcome where
  | written
  | refused
  | cutShort (left : String)
deriving DecidableEq

/-- The file after `AgentState::save`. -/
def AgentFile.save (file : AgentFile) (state : SavedState) : WriteOutcome → AgentFile
  | .written => .stored state
  | .refused => file
  | .cutShort left => .unparsable left

-- ============================================================================
-- The credential
-- ============================================================================

/-- `ensure_backend_credentials`; an error of the backend ends `agent_up`. -/
def ensureBackendCredentials (X : Externals) (env : Env) (state : SavedState) : BackendM SavedState :=
  if state.backendPublicCredential = "" ∨ state.deviceId = none then do
    let credential ← ensureCredentials X env
    return { state with backendPublicCredential := credential.publicCredential }
  else return state

end TfScale.Agent
