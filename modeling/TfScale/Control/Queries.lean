/-
  TfScale.Control.Queries

  What the handlers of the control plane do to the database: the queries that run
  on their own, and the transactions, each as one function of the tables.

  A query reads the clock where its SQL says `CURRENT_TIMESTAMP`; a transaction of
  several statements takes the reading of each (`clock i` for statement `i`).  A
  transaction that fails returns no database, which is its rollback.  Generated
  identifiers are arguments.
-/

import TfScale.Lib.Fallible
import TfScale.Control.Schema

namespace TfScale.Control

-- ============================================================================
-- Errors
-- ============================================================================

inductive StatusCode where
  | badRequest
  | unauthorized
  | notFound
  | conflict
  | internalServerError
deriving DecidableEq, Repr

structure ApiError where
  status : StatusCode
  message : String
deriving DecidableEq, Repr

/-- `Result<_, ApiError>` -/
abbrev Api (α : Type) := Except ApiError α

theorem Api.bind_eq_ok {α β : Type} {x : Api α} {f : α → Api β} {b : β} :
    x >>= f = .ok b ↔ ∃ a, x = .ok a ∧ f a = .ok b := Fallible.bind_eq_ok

theorem toOption_eq_some {α : Type} {x : Api α} {a : α} : x.toOption = some a ↔ x = .ok a := by
  cases x <;> simp [Except.toOption]

/-- The errors of `sqlx` that the handlers can meet. -/
inductive SqlxError where
  /-- a UNIQUE constraint of the table failed -/
  | unique (table : String)
  | rowNotFound
  | other (message : String)
deriving DecidableEq, Repr

/-- What the control plane takes from outside: the hash, the texts of database
    errors, and the relays it was started with. -/
structure Server where
  /-- `hex::encode(Sha256::digest(bytes))` -/
  sha256Hex : Bytes → String
  /-- `sqlx::Error::to_string` -/
  sqlxText : SqlxError → String
  relays : List RelayMetadata

/-- SHA-256 does not collide. -/
structure Server.Lawful (S : Server) : Prop where
  sha256_injective : Function.Injective S.sha256Hex

variable (S : Server)

/-- `ApiError::from` -/
def fromSqlx (error : SqlxError) : ApiError := ⟨.internalServerError, S.sqlxText error⟩

/-- The result of a statement with uniqueness constraints. -/
def orUnique {ρ : Type} [Schema ρ] (table : String) : Option (Table ρ) → Api (Table ρ)
  | some t => .ok t
  | none => .error (fromSqlx S (.unique table))

@[simp] theorem orUnique_eq_ok {ρ : Type} [Schema ρ] {table : String} {o : Option (Table ρ)}
    {t : Table ρ} : orUnique S table o = .ok t ↔ o = some t := by
  cases o <;> simp [orUnique]

-- ============================================================================
-- Identifiers
-- ============================================================================

abbrev Uuid := ByteArr 16

/-- `Uuid::simple` -/
def simple (uuid : Uuid) : String := Text.hexEncode uuid.val

/-- The UUIDs that one step of a request draws. -/
structure Fresh where
  device : Uuid
  node : Uuid
  dns : Uuid
  ip : Uuid
  authKey : Uuid
  authKeySecret : Uuid
deriving DecidableEq

/-- `hash_secret` -/
def hashSecret (secret : String) : String := S.sha256Hex (strBytes secret)

/-- The bytes that `endpoint_id` hashes. -/
def endpointKey (deviceId kind address : String) (port : UInt16) (protocol source : String) : Bytes :=
  strBytes deviceId ++ strBytes "|" ++ strBytes kind ++ strBytes "|" ++ strBytes address ++
    strBytes "|" ++ strBytes (toString port.toNat) ++ strBytes "|" ++ strBytes protocol ++
    strBytes "|" ++ strBytes source

/-- `endpoint_id` -/
def endpointId (deviceId : String) (e : EndpointPayload) (source : String) : String :=
  "ep_" ++ S.sha256Hex (endpointKey deviceId e.kind e.address e.port e.protocol source)

def netDefault : String := "net_default"

-- ============================================================================
-- Host names
-- ============================================================================

/-- The characters of a host name. -/
def isHostnameChar (ch : Char) : Bool := ('a' ≤ ch && ch ≤ 'z') || ('0' ≤ ch && ch ≤ '9') || ch == '-'

/-- `normalize_hostname` -/
def normalizeHostname (value : String) : Api String :=
  let hostname := (Text.trim value.toList).map Text.toAsciiLowercase
  if hostname = [] then .error ⟨.badRequest, "hostname is required"⟩
  else if 63 < (String.ofList hostname).utf8ByteSize then
    .error ⟨.badRequest, "hostname must be 63 characters or fewer"⟩
  else if hostname.head? = some '-' ∨ hostname.getLast? = some '-' then
    .error ⟨.badRequest, "hostname cannot start or end with '-'"⟩
  else if !hostname.all isHostnameChar then
    .error ⟨.badRequest, "hostname can contain only lowercase letters, digits, and '-'"⟩
  else .ok (String.ofList hostname)

/-- `dns_name` -/
def dnsName (hostname : String) : String := hostname ++ ".mesh"

/-- `device_dns_suffix` -/
def deviceDnsSuffix (deviceId : String) : String :=
  -- what follows the last underscore, or everything
  String.ofList ((deviceId.toList.reverse.takeWhile (· ≠ '_')).reverse.take 8)

-- ============================================================================
-- What the network map reads
-- ============================================================================

/-- The row of a peer, as `network_map` reads it. -/
structure PeerRow where
  id : String
  hostname : String
  ipv4 : String
  backendType : String
  backendPublicCredential : String
deriving DecidableEq

/-- An endpoint as it is sent to the agents. -/
def EndpointRow.payload (r : EndpointRow) : EndpointPayload :=
  ⟨r.kind, r.address, r.port, r.protocol, r.source, r.priority, r.expiresAt⟩

/-- A DNS record as it is sent to the agents. -/
def DnsRecordRow.record (r : DnsRecordRow) : DnsRecord := ⟨r.deviceId, r.name, r.recordType, r.value⟩

/-- The queries of `network_map_version`, in order. -/
inductive VersionTerm where
  | deviceCount
  | deviceTimestampSum
  | endpointCount
  | endpointTimestampSum
  | dnsRecordCount
  | dnsRecordTimestampSum
deriving DecidableEq, Repr

def VersionTerm.all : List VersionTerm :=
  [deviceCount, deviceTimestampSum, endpointCount, endpointTimestampSum, dnsRecordCount,
    dnsRecordTimestampSum]

namespace Db

-- ============================================================================
-- DNS records
-- ============================================================================

/-- `dns_name_available` -/
def dnsNameAvailable (db : Db) (networkId deviceId name : String) : Bool :=
  !db.dnsRecords.rows.any fun r =>
    r.networkId == networkId && lower r.name == lower name && r.recordType == "A" &&
      r.deviceId != deviceId

/-- The names that `available_dns_name` tries, in order. -/
def dnsCandidates (deviceId hostname : String) : List String :=
  let suffixed := hostname ++ "-" ++ deviceDnsSuffix deviceId
  dnsName hostname :: dnsName suffixed ::
    (List.range' 2 98).map fun attempt => dnsName (suffixed ++ "-" ++ toString attempt)

/-- `available_dns_name` -/
def availableDnsName (db : Db) (networkId deviceId hostname : String) : Api String :=
  match (dnsCandidates deviceId hostname).find? (db.dnsNameAvailable networkId deviceId) with
  | some name => .ok name
  | none => .error ⟨.conflict, "could not allocate unique DNS name for hostname"⟩

/-- `upsert_device_dns_record` -/
def upsertDeviceDnsRecord (db : Db) (now : Timestamp) (uuid : Uuid)
    (networkId deviceId hostname ipv4 : String) : Api Db := do
  let name ← db.availableDnsName networkId deviceId hostname
  let dnsRecords ← orUnique S "dns_records" (db.dnsRecords.upsert
    (fun r => r.deviceId == deviceId && r.recordType == "A")
    ⟨"dns_" ++ simple uuid, networkId, deviceId, name, "A", ipv4, now⟩
    fun r => { r with name, value := ipv4, updatedAt := now })
  return { db with dnsRecords }

-- ============================================================================
-- Registration
-- ============================================================================

/-- The insert of `create_auth_key`. -/
def createAuthKey (db : Db) (fresh : Fresh) : Api (CreateAuthKeyResponse × Db) := do
  let id := "ak_" ++ simple fresh.authKey
  let key := "tfk_" ++ simple fresh.authKeySecret
  let authKeys ← orUnique S "auth_keys" (db.authKeys.insert ⟨id, hashSecret S key, none, 0, none⟩)
  return (⟨id, key⟩, { db with authKeys })

/-- `find_existing_device` -/
def findExistingDevice (db : Db) (machineKey : String) : Option RegisterDeviceResponse :=
  (db.devices.rows.find? fun d => d.machineKey == machineKey && d.live).map fun d =>
    ⟨d.id, d.nodeKey, d.ipv4, d.networkId, 5⟩

/-- The row of a key. -/
def authKey (db : Db) (keyHash : String) : Option AuthKeyRow :=
  db.authKeys.rows.find? fun k => k.keyHash == keyHash

/-- `validate_auth_key` -/
def validateAuthKey (db : Db) (authKey : String) : Api Unit :=
  match db.authKey (hashSecret S authKey) with
  | none => .error ⟨.unauthorized, "invalid auth key"⟩
  | some row =>
      if row.revokedAt.isSome then .error ⟨.unauthorized, "auth key revoked"⟩
      else if row.reusable = 0 ∧ row.usedAt.isSome then
        .error ⟨.unauthorized, "auth key already used"⟩
      else .ok ()

/-- `allocate_ipv4` -/
def allocateIpv4 (db : Db) : Api String :=
  let hostOctet := db.ipAllocations.rows.length + 2
  if 254 < hostOctet then .error ⟨.internalServerError, "default MVP address pool is exhausted"⟩
  else .ok ("100.64.0." ++ toString hostOctet)

/-- The row that a registration inserts. -/
def newDevice (now : Timestamp) (fresh : Fresh) (request : RegisterDeviceRequest)
    (hostname ipv4 : String) : DeviceRow where
  id := "dev_" ++ simple fresh.device
  networkId := netDefault
  hostname := hostname
  machineKey := request.machineKey
  nodeKey := "node_" ++ simple fresh.node
  backendType := request.backendType
  backendPublicCredential := request.backendPublicCredential
  ipv4 := ipv4
  os := request.os
  arch := request.arch
  clientVersion := request.clientVersion
  lastSeenAt := some now
  updatedAt := now
  deletedAt := none

/-- Mark the key of a registration as used, if it was not. -/
def consumeAuthKey (db : Db) (now : Timestamp) (keyHash : String) : Db :=
  { db with
    authKeys := db.authKeys.update (fun k => k.keyHash == keyHash)
      (fun k => { k with usedAt := some (k.usedAt.getD now) }) fun _ _ => rfl }

/-- The transaction of `register_device`. -/
def registerTx (db : Db) (clock : Nat → Timestamp) (fresh : Fresh) (request : RegisterDeviceRequest)
    (hostname ipv4 : String) : Api (RegisterDeviceResponse × Db) := do
  let device := newDevice (clock 0) fresh request hostname ipv4
  let devices ← orUnique S "devices" (db.devices.insert device)
  let db ← upsertDeviceDnsRecord S { db with devices } (clock 1) fresh.dns netDefault device.id
    hostname ipv4
  let ipAllocations ← orUnique S "ip_allocations" (db.ipAllocations.insert
    ⟨"ip_" ++ simple fresh.ip, netDefault, device.id, ipv4, "assigned"⟩)
  let db := consumeAuthKey { db with ipAllocations } (clock 3) (hashSecret S request.authKey)
  return (⟨device.id, device.nodeKey, ipv4, netDefault, 5⟩, db)

-- ============================================================================
-- Renaming and deleting
-- ============================================================================

def isLiveDevice (deviceId : String) (d : DeviceRow) : Bool := d.id == deviceId && d.live

theorem isLiveDevice_iff {deviceId : String} {d : DeviceRow} :
    isLiveDevice deviceId d = true ↔ d.id = deviceId ∧ d.live = true := by
  rw [isLiveDevice, Bool.and_eq_true, beq_iff_eq]

/-- `UPDATE devices SET … WHERE id = ? AND deleted_at IS NULL` -/
def updateLiveDevice (db : Db) (deviceId : String) (f : DeviceRow → DeviceRow)
    (hf : Table.KeepsKeys f) : Db :=
  { db with devices := db.devices.update (isLiveDevice deviceId) f hf }

/-- `load_device_summary` -/
def loadDeviceSummary (db : Db) (deviceId : String) : Api DeviceSummary :=
  match db.devices.rows.find? (isLiveDevice deviceId) with
  | none => .error ⟨.notFound, "device not found"⟩
  | some d => .ok ⟨d.id, d.hostname, d.ipv4, d.os, d.arch, d.backendType, d.lastSeenAt.map datetime⟩

/-- The transaction of `rename_device`. -/
def renameTx (db : Db) (clock : Nat → Timestamp) (fresh : Fresh) (deviceId hostname : String) :
    Api Db :=
  if db.devices.rows.any (isLiveDevice deviceId) then do
    let db := db.updateLiveDevice deviceId (fun d => { d with hostname, updatedAt := clock 0 })
      fun _ _ => rfl
    let device ← db.loadDeviceSummary deviceId
    upsertDeviceDnsRecord S db (clock 2) fresh.dns netDefault device.id device.hostname device.ipv4
  else .error ⟨.notFound, "device not found"⟩

/-- The transaction of `delete_device`. -/
def deleteTx (db : Db) (clock : Nat → Timestamp) (deviceId : String) : Api Db :=
  if db.devices.rows.any (isLiveDevice deviceId) then
    let db := db.updateLiveDevice deviceId
      (fun d => { d with deletedAt := some (clock 0), updatedAt := clock 0 }) fun _ _ => rfl
    .ok { db with dnsRecords := db.dnsRecords.delete fun r => r.deviceId == deviceId }
  else .error ⟨.notFound, "device not found"⟩

-- ============================================================================
-- Heartbeats
-- ============================================================================

/-- `validate_device_node_key` -/
def validateDeviceNodeKey (db : Db) (deviceId nodeKey : String) : Api Unit :=
  if db.devices.rows.any fun d => d.id == deviceId && d.nodeKey == nodeKey && d.live then .ok ()
  else .error ⟨.unauthorized, "invalid device credentials"⟩

/-- The source of a reported endpoint. -/
def endpointSource (e : EndpointPayload) : String := e.source.getD "local"

/-- The row of a reported endpoint. -/
def reportedRow (now : Timestamp) (deviceId : String) (e : EndpointPayload) : EndpointRow where
  id := endpointId S deviceId e (endpointSource e)
  deviceId := deviceId
  kind := e.kind
  address := e.address
  port := e.port
  protocol := e.protocol
  source := some (endpointSource e)
  priority := e.priority
  expiresAt := e.expiresAt.or
    (if endpointSource e ≠ "local" then some (datetime (now + 60)) else none)
  lastSeenAt := now

/-- What `DO UPDATE` writes into a stored row: all but its keys. -/
def renewRow (new old : EndpointRow) : EndpointRow := { new with id := old.id, deviceId := old.deviceId }

/-- The insert of one reported endpoint. -/
def storeEndpoint (db : Db) (now : Timestamp) (deviceId : String) (e : EndpointPayload) : Api Db := do
  let new := reportedRow S now deviceId e
  let endpoints ← orUnique S "endpoints"
    (db.endpoints.upsert (fun r => r.id == new.id) new (renewRow new))
  return { db with endpoints }

/-- The loop of `heartbeat`, from statement `i` on. -/
def storeEndpoints (clock : Nat → Timestamp) (deviceId : String) :
    Nat → List EndpointPayload → Db → Api Db
  | _, [], db => .ok db
  | i, e :: es, db => do
      let db ← storeEndpoint S db (clock i) deviceId e
      storeEndpoints clock deviceId (i + 1) es db

/-- The device is seen: the first statement of `heartbeat`. -/
def touchDevice (db : Db) (now : Timestamp) (deviceId : String) : Db :=
  db.updateLiveDevice deviceId (fun d => { d with lastSeenAt := some now, updatedAt := now })
    fun _ _ => rfl

/-- The device's expired endpoints go: the second statement of `heartbeat`. -/
def pruneEndpoints (db : Db) (now : Timestamp) (deviceId : String) : Db :=
  { db with
    endpoints := db.endpoints.delete fun r => r.deviceId == deviceId && expired now r.expiresAt }

/-- The transaction of `heartbeat`. -/
def heartbeatTx (db : Db) (clock : Nat → Timestamp) (request : HeartbeatRequest) : Api Db :=
  storeEndpoints S clock request.deviceId 2 request.endpoints
    ((db.touchDevice (clock 0) request.deviceId).pruneEndpoints (clock 1) request.deviceId)

-- ============================================================================
-- The network map
-- ============================================================================

/-- The query of `network_map` for the device itself. -/
def selfDevice (db : Db) (deviceId : String) : Api NetworkMapSelf :=
  match db.devices.rows.find? (isLiveDevice deviceId) with
  | none => .error (fromSqlx S .rowNotFound)
  | some d => .ok ⟨d.id, d.hostname, d.ipv4, d.backendType⟩

/-- The query of `network_map` for the peers. -/
def peerRows (db : Db) (deviceId : String) : List PeerRow :=
  Table.select db.devices.rows (fun d => d.id != deviceId && d.live)
    (fun a b => textLe a.hostname b.hostname)
    fun d => ⟨d.id, d.hostname, d.ipv4, d.backendType, d.backendPublicCredential⟩

/-- The order of `idx_endpoints_device_expiry` within one device: `NULL` comes first. -/
def expiryOrder : Option String → Option String → Bool
  | none, _ => true
  | some _, none => false
  | some a, some b => textLe a b

/-- `ORDER BY kind ASC, address ASC`; the rows come from the index, whose order decides
    between rows of one kind and address. -/
def endpointOrder (a b : EndpointPayload) : Bool :=
  if a.kind = b.kind then
    if a.address = b.address then expiryOrder a.expiresAt b.expiresAt
    else textLe a.address b.address
  else textLe a.kind b.kind

/-- `load_endpoints` -/
def loadEndpoints (db : Db) (now : Timestamp) (deviceId : String) : List EndpointPayload :=
  Table.select db.endpoints.rows (fun r => r.deviceId == deviceId && !expired now r.expiresAt)
    (fun a b => endpointOrder a.payload b.payload) EndpointRow.payload

/-- The entry of a peer. -/
def networkMapPeer (db : Db) (now : Timestamp) (row : PeerRow) : NetworkMapPeer :=
  ⟨row.id, row.hostname, row.ipv4, row.backendType, row.backendPublicCredential,
    db.loadEndpoints now row.id, [row.ipv4 ++ "/32"]⟩

/-- `ORDER BY name ASC, type ASC` -/
def dnsOrder (a b : DnsRecord) : Bool :=
  if a.name = b.name then textLe a.recordType b.recordType else textLe a.name b.name

/-- `load_dns_records` -/
def loadDnsRecords (db : Db) : List DnsRecord :=
  Table.select db.dnsRecords.rows (fun _ => true) (fun a b => dnsOrder a.record b.record)
    DnsRecordRow.record

/-- The answer to one of the queries. -/
def versionTerm (db : Db) : VersionTerm → Nat
  | .deviceCount => (db.devices.rows.filter DeviceRow.live).length
  | .deviceTimestampSum => Table.total DeviceRow.updatedAt (db.devices.rows.filter DeviceRow.live)
  | .endpointCount => db.endpoints.rows.length
  | .endpointTimestampSum => Table.total EndpointRow.lastSeenAt db.endpoints.rows
  | .dnsRecordCount => db.dnsRecords.rows.length
  | .dnsRecordTimestampSum => Table.total DnsRecordRow.updatedAt db.dnsRecords.rows

/-- `network_map_version`, when nothing is written between its queries. -/
def networkMapVersion (db : Db) : Nat := (VersionTerm.all.map db.versionTerm).sum

-- ============================================================================
-- What the transactions write
-- ============================================================================

section Specs

variable {S} {db db' : Db} {clock : Nat → Timestamp} {fresh : Fresh}

/-- The write of `rename_device` to the row of the device. -/
def renamed (db : Db) (now : Timestamp) (deviceId hostname : String) : Db :=
  db.updateLiveDevice deviceId (fun d => { d with hostname, updatedAt := now }) fun _ _ => rfl

/-- The write of `delete_device` to the row of the device. -/
def deleted (db : Db) (now : Timestamp) (deviceId : String) : Db :=
  db.updateLiveDevice deviceId (fun d => { d with deletedAt := some now, updatedAt := now })
    fun _ _ => rfl

/-- The write of an upsert to the DNS record of a device. -/
def dnsUpsert (db : Db) (now : Timestamp) (uuid : Uuid) (networkId deviceId name ipv4 : String) :
    Option (Table DnsRecordRow) :=
  db.dnsRecords.upsert (fun r => r.deviceId == deviceId && r.recordType == "A")
    ⟨"dns_" ++ simple uuid, networkId, deviceId, name, "A", ipv4, now⟩
    fun r => { r with name, value := ipv4, updatedAt := now }

theorem createAuthKey_ok {response : CreateAuthKeyResponse}
    (h : db.createAuthKey S fresh = .ok (response, db')) :
    ∃ key authKeys, key.usedAt = none ∧ key.reusable = 0 ∧
      db.authKeys.insert key = some authKeys ∧ db' = { db with authKeys } := by
  obtain ⟨authKeys, hinsert, h⟩ := Api.bind_eq_ok.mp h
  obtain ⟨-, rfl⟩ := Prod.mk.inj (Except.ok.inj h)
  exact ⟨_, authKeys, rfl, rfl, (orUnique_eq_ok S).mp hinsert, rfl⟩

theorem upsertDeviceDnsRecord_ok {now : Timestamp} {uuid : Uuid}
    {networkId deviceId hostname ipv4 : String}
    (h : db.upsertDeviceDnsRecord S now uuid networkId deviceId hostname ipv4 = .ok db') :
    ∃ name dnsRecords, db.availableDnsName networkId deviceId hostname = .ok name ∧
      db.dnsUpsert now uuid networkId deviceId name ipv4 = some dnsRecords ∧
      db' = { db with dnsRecords } := by
  obtain ⟨name, hname, h⟩ := Api.bind_eq_ok.mp h
  obtain ⟨dnsRecords, hupsert, h⟩ := Api.bind_eq_ok.mp h
  exact ⟨name, dnsRecords, hname, (orUnique_eq_ok S).mp hupsert, (Except.ok.inj h).symm⟩

theorem registerTx_ok {request : RegisterDeviceRequest} {hostname ipv4 : String}
    {response : RegisterDeviceResponse}
    (h : db.registerTx S clock fresh request hostname ipv4 = .ok (response, db')) :
    ∃ devices name dnsRecords ipAllocations,
      db.devices.insert (newDevice (clock 0) fresh request hostname ipv4) = some devices ∧
      db.dnsUpsert (clock 1) fresh.dns netDefault (newDevice (clock 0) fresh request hostname ipv4).id
        name ipv4 = some dnsRecords ∧
      db.ipAllocations.insert ⟨"ip_" ++ simple fresh.ip, netDefault,
        (newDevice (clock 0) fresh request hostname ipv4).id, ipv4, "assigned"⟩ =
          some ipAllocations ∧
      db' = consumeAuthKey ⟨db.authKeys, devices, ipAllocations, db.endpoints, dnsRecords⟩ (clock 3)
        (hashSecret S request.authKey) ∧
      response = ⟨(newDevice (clock 0) fresh request hostname ipv4).id, "node_" ++ simple fresh.node,
        ipv4, netDefault, 5⟩ ∧
      db.availableDnsName netDefault (newDevice (clock 0) fresh request hostname ipv4).id hostname =
        .ok name := by
  obtain ⟨devices, hdevices, h⟩ := Api.bind_eq_ok.mp h
  obtain ⟨db₁, hdns, h⟩ := Api.bind_eq_ok.mp h
  obtain ⟨ipAllocations, hip, h⟩ := Api.bind_eq_ok.mp h
  obtain ⟨name, dnsRecords, hname, hupsert, rfl⟩ := upsertDeviceDnsRecord_ok hdns
  obtain ⟨rfl, rfl⟩ := Prod.mk.inj (Except.ok.inj h)
  exact ⟨devices, name, dnsRecords, ipAllocations, (orUnique_eq_ok S).mp hdevices, hupsert,
    (orUnique_eq_ok S).mp hip, rfl, rfl, hname⟩

/-- What a rename reads back of the device. -/
theorem renamed_summary {now : Timestamp} {deviceId hostname : String} {device : DeviceSummary}
    (h : (db.renamed now deviceId hostname).loadDeviceSummary deviceId = .ok device) :
    ∃ d, (d ∈ db.devices.rows ∧ isLiveDevice deviceId d = true) ∧ device.id = deviceId ∧
      device.hostname = hostname ∧ device.ipv4 = d.ipv4 := by
  unfold loadDeviceSummary at h
  split at h
  · cases h
  · rename_i d' hfind
    obtain rfl := Except.ok.inj h
    have hlive' := List.find?_some hfind
    obtain ⟨d, hd, rfl⟩ := List.mem_map.mp (List.mem_of_find?_eq_some hfind)
    by_cases hlive : isLiveDevice deviceId d = true
    · rw [if_pos hlive]
      exact ⟨d, ⟨hd, hlive⟩, (isLiveDevice_iff.mp hlive).1, rfl, rfl⟩
    · rw [if_neg hlive] at hlive'
      exact absurd hlive' hlive

theorem renameTx_ok {deviceId hostname : String}
    (h : db.renameTx S clock fresh deviceId hostname = .ok db') :
    ∃ d name dnsRecords, (d ∈ db.devices.rows ∧ isLiveDevice deviceId d = true) ∧
      db.availableDnsName netDefault deviceId hostname = .ok name ∧
      db.dnsUpsert (clock 2) fresh.dns netDefault deviceId name d.ipv4 = some dnsRecords ∧
      db' = { db.renamed (clock 0) deviceId hostname with dnsRecords } := by
  unfold renameTx at h
  split at h
  · obtain ⟨device, hdevice, h⟩ := Api.bind_eq_ok.mp h
    obtain ⟨d, hd, hid, hhostname, hipv4⟩ := renamed_summary hdevice
    rw [hid, hhostname, hipv4] at h
    obtain ⟨name, dnsRecords, hname, hupsert, rfl⟩ := upsertDeviceDnsRecord_ok h
    exact ⟨d, name, dnsRecords, hd, hname, hupsert, rfl⟩
  · cases h

theorem deleteTx_ok {deviceId : String} (h : db.deleteTx clock deviceId = .ok db') :
    db' = { db.deleted (clock 0) deviceId with
      dnsRecords := db.dnsRecords.delete fun r => r.deviceId == deviceId } := by
  unfold deleteTx at h
  split at h
  · exact (Except.ok.inj h).symm
  · cases h

theorem storeEndpoint_ok {now : Timestamp} {deviceId : String} {e : EndpointPayload}
    (h : db.storeEndpoint S now deviceId e = .ok db') :
    ∃ endpoints, db.endpoints.upsert (fun r => r.id == (reportedRow S now deviceId e).id)
        (reportedRow S now deviceId e) (renewRow (reportedRow S now deviceId e)) = some endpoints ∧
      db' = { db with endpoints } := by
  obtain ⟨endpoints, hupsert, h⟩ := Api.bind_eq_ok.mp h
  exact ⟨endpoints, (orUnique_eq_ok S).mp hupsert, (Except.ok.inj h).symm⟩

/-- The loop of a heartbeat writes endpoints only. -/
theorem storeEndpoints_ok {deviceId : String} {i : Nat} {es : List EndpointPayload}
    (h : storeEndpoints S clock deviceId i es db = .ok db') :
    ∃ endpoints, db' = { db with endpoints } := by
  induction es generalizing i db with
  | nil => exact ⟨db.endpoints, (Except.ok.inj h).symm⟩
  | cons e es ih =>
      obtain ⟨db₁, hstore, h⟩ := Api.bind_eq_ok.mp h
      obtain ⟨endpoints, -, rfl⟩ := storeEndpoint_ok hstore
      obtain ⟨endpoints', hdb'⟩ := ih h
      exact ⟨endpoints', hdb'⟩

end Specs

end Db

end TfScale.Control
