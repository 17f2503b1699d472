/-
  TfScale.Core.Protocol

  The messages of `tfscale-core`: the relay line protocol and the network map
  that the control plane serves to agents.
-/

import TfScale.Lib.Bytes

namespace TfScale

inductive RelayMessage where
  | register (deviceId nodeKey : String)
  | frame (sourceDeviceId destinationDeviceId payload : String)
  | error (message : String)
deriving DecidableEq, Repr

structure CreateAuthKeyResponse where
  id : String
  key : String
deriving DecidableEq, Repr

structure DeviceSummary where
  id : String
  hostname : String
  ipv4 : String
  os : String
  arch : String
  backendType : String
  lastSeenAt : Option String
deriving DecidableEq, Repr

structure RenameDeviceRequest where
  hostname : String
deriving DecidableEq, Repr

structure RegisterDeviceRequest where
  authKey : String
  hostname : String
  machineKey : String
  backendType : String
  backendPublicCredential : String
  os : String
  arch : String
  clientVersion : String
deriving DecidableEq, Repr

structure RegisterDeviceResponse where
  deviceId : String
  nodeKey : String
  ipv4 : String
  networkId : String
  pollIntervalSeconds : UInt64
deriving DecidableEq, Repr

structure EndpointPayload where
  kind : String
  address : String
  port : UInt16
  protocol : String
  source : Option String
  priority : Option Int
  expiresAt : Option String
deriving DecidableEq, Repr

structure HeartbeatRequest where
  deviceId : String
  nodeKey : String
  endpoints : List EndpointPayload
deriving DecidableEq, Repr

structure HeartbeatResponse where
  ok : Bool
  networkMapVersion : Int
deriving DecidableEq, Repr

structure DnsRecord where
  deviceId : String
  name : String
  recordType : String
  value : String
deriving DecidableEq, Repr

structure NetworkMapSelf where
  deviceId : String
  hostname : String
  ipv4 : String
  backendType : String
deriving DecidableEq, Repr

structure NetworkMapPeer where
  deviceId : String
  hostname : String
  ipv4 : String
  backendType : String
  backendPublicCredential : String
  endpoints : List EndpointPayload
  allowedRoutes : List String
deriving DecidableEq, Repr

structure RelayMetadata where
  relayId : String
  url : String
  region : String
  healthy : Bool
deriving DecidableEq, Repr

structure NetworkMapResponse where
  networkMapVersion : Int
  selfDevice : NetworkMapSelf
  peers : List NetworkMapPeer
  dnsRecords : List DnsRecord
  relays : List RelayMetadata
deriving DecidableEq, Repr

end TfScale
