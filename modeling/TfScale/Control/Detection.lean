/-
  TfScale.Control.Detection

  Does the network map version detect every change?

  A response of `network_map` reads the peers, then their endpoints, then the six
  terms of the version, then the DNS records, each in a query of its own.  Four
  things can hide a change from an agent that compares versions:

    * a write that lands between the reads of one response,
    * a write in the second of the stamps that it overwrites,
    * rows that go (a deleted device, a pruned endpoint), whose weight later
      stamps can make up for,
    * an endpoint that expires, which no row records.

  `network_map_version_detects` shows that there is nothing else.
-/

import TfScale.Control.Version
import TfScale.Agent.Sync

namespace TfScale.Control

variable {S : Server} {db db' : Db} {clock : Nat → Timestamp} {fresh : Fresh} {p p' : Process}
variable {now now' : Timestamp} {n : Nat}

-- ============================================================================
-- What a device is told
-- ============================================================================

/-- The peers and records that a device is told at one instant. -/
def Db.content (db : Db) (now : Timestamp) (deviceId : String) :
    List NetworkMapPeer × List DnsRecord :=
  ((db.peerRows deviceId).map (db.networkMapPeer now), db.loadDnsRecords)

theorem peerRows_congr (h : servedDevices db' = servedDevices db) (deviceId : String) :
    db'.peerRows deviceId = db.peerRows deviceId :=
  Table.select_congr
    (fun d : DeviceRow =>
      ((⟨d.id, d.hostname, d.ipv4, d.backendType, d.backendPublicCredential⟩ : PeerRow), d.live))
    h (fun x => x.1.id != deviceId && x.2) (fun a b => textLe a.1.hostname b.1.hostname) Prod.fst

theorem loadEndpoints_congr
    (h : db'.endpoints.rows.map (fun r => (r.deviceId, r.payload)) =
      db.endpoints.rows.map fun r => (r.deviceId, r.payload)) (t : Timestamp) (deviceId : String) :
    db'.loadEndpoints t deviceId = db.loadEndpoints t deviceId :=
  Table.select_congr (fun r : EndpointRow => (r.deviceId, r.payload)) h
    (fun x => x.1 == deviceId && !expired t x.2.expiresAt) (fun a b => Db.endpointOrder a.2 b.2) Prod.snd

theorem loadDnsRecords_congr
    (h : db'.dnsRecords.rows.map DnsRecordRow.record = db.dnsRecords.rows.map DnsRecordRow.record) :
    db'.loadDnsRecords = db.loadDnsRecords :=
  Table.select_congr DnsRecordRow.record h (fun _ => true) Db.dnsOrder id

/-- Databases that agree in the columns that are sent tell the same. -/
theorem content_congr (hdevices : servedDevices db' = servedDevices db)
    (hendpoints : db'.endpoints.rows.map (fun r => (r.deviceId, r.payload)) =
      db.endpoints.rows.map fun r => (r.deviceId, r.payload))
    (hdns : db'.dnsRecords.rows.map DnsRecordRow.record = db.dnsRecords.rows.map DnsRecordRow.record)
    (t : Timestamp) (deviceId : String) : db'.content t deviceId = db.content t deviceId := by
  have hpeer : db'.networkMapPeer t = db.networkMapPeer t := by
    funext row
    simp only [Db.networkMapPeer, loadEndpoints_congr hendpoints]
  rw [Db.content, peerRows_congr hdevices, hpeer, loadDnsRecords_congr hdns, Db.content]

/-- No endpoint of a live device expires within `n` seconds from `now`. -/
def Unexpiring (db : Db) (now : Timestamp) (n : Nat) : Prop :=
  ∀ t, now ≤ t → t ≤ now + n → ∀ r ∈ db.endpoints.rows,
    (∃ d ∈ db.devices.rows, Db.isLiveDevice r.deviceId d = true) →
      expired t r.expiresAt = expired now r.expiresAt

theorem Unexpiring.networkMapPeer (h : Unexpiring db now n) {t : Timestamp} (hle : now ≤ t)
    (hle' : t ≤ now + n) {row : PeerRow} (hlive : ∃ d ∈ db.devices.rows, Db.isLiveDevice row.id d = true) :
    db.networkMapPeer t row = db.networkMapPeer now row := by
  have hfilter : db.endpoints.rows.filter (fun r => r.deviceId == row.id && !expired t r.expiresAt) =
      db.endpoints.rows.filter fun r => r.deviceId == row.id && !expired now r.expiresAt := by
    refine List.filter_congr fun r hr => ?_
    by_cases hid : r.deviceId = row.id
    · rw [h t hle hle' r hr (hid ▸ hlive)]
    · rw [beq_false_of_ne hid, Bool.false_and, Bool.false_and]
  have hload : db.loadEndpoints t row.id = db.loadEndpoints now row.id := by
    rw [Db.loadEndpoints, Table.select, hfilter]
    rfl
  rw [Db.networkMapPeer, hload, Db.networkMapPeer]

/-- The peers are live devices. -/
theorem live_of_mem_peerRows {deviceId : String} {row : PeerRow} (h : row ∈ db.peerRows deviceId) :
    ∃ d ∈ db.devices.rows, Db.isLiveDevice row.id d = true := by
  obtain ⟨d, hd, rfl⟩ := List.mem_map.mp h
  obtain ⟨hmem, hpeer⟩ := List.mem_filter.mp ((List.mem_insertionSort _).mp hd)
  rw [Bool.and_eq_true] at hpeer
  exact ⟨d, hmem, Db.isLiveDevice_iff.mpr ⟨rfl, hpeer.2⟩⟩

theorem Unexpiring.content (h : Unexpiring db now n) {t : Timestamp} (hle : now ≤ t)
    (hle' : t ≤ now + n) (deviceId : String) : db.content t deviceId = db.content now deviceId := by
  have hpeers : (db.peerRows deviceId).map (db.networkMapPeer t) =
      (db.peerRows deviceId).map (db.networkMapPeer now) :=
    List.map_congr_left fun row hrow => h.networkMapPeer hle hle' (live_of_mem_peerRows hrow)
  rw [Db.content, hpeers, Db.content]

-- ============================================================================
-- Writes that the version shows
-- ============================================================================

/-- From one state of the database to a later one: the version is not lower, and if
    it is the same, every device is told the same. -/
structure Detects (db : Db) (now : Timestamp) (db' : Db) (now' : Timestamp) : Prop where
  le : db.networkMapVersion ≤ db'.networkMapVersion
  same : db'.networkMapVersion = db.networkMapVersion →
    ∀ deviceId, db'.content now' deviceId = db.content now deviceId

theorem detects_of_lt (h : db.networkMapVersion < db'.networkMapVersion) : Detects db now db' now' :=
  ⟨h.le, fun heq => absurd heq h.ne'⟩

/-- A heartbeat that the version shows: nothing of the device is expired, and the
    device or a reported endpoint was last stamped before this second, or everything
    is stored as reported. -/
def HeartbeatSeen (S : Server) (db : Db) (clock : Nat → Timestamp) (request : HeartbeatRequest) : Prop :=
  (∀ r ∈ db.endpoints.rows, r.deviceId = request.deviceId → expired (clock 1) r.expiresAt = false) ∧
    ((∃ d ∈ db.devices.rows, Db.isLiveDevice request.deviceId d = true ∧ d.updatedAt < clock 0) ∨
      (∃ e ∈ request.endpoints, ∀ r ∈ db.endpoints.rows,
        r.id = reportedId S request.deviceId e → r.lastSeenAt < clock 0) ∨
      ∀ i e, request.endpoints[i]? = some e → ∃ r ∈ db.endpoints.rows,
        r.id = reportedId S request.deviceId e ∧
          r.payload = (Db.reportedRow S (clock (2 + i)) request.deviceId e).payload)

/-- The `A` record of a device. -/
def isDeviceRecord (deviceId : String) (r : DnsRecordRow) : Bool :=
  r.deviceId == deviceId && r.recordType == "A"

/-- A rename that the version shows: the device or its record was last stamped
    before this second, or has no record, or both are already as the rename would
    make them. -/
def RenameSeen (db : Db) (clock : Nat → Timestamp) (deviceId hostname : String) : Prop :=
  (∃ d ∈ db.devices.rows, Db.isLiveDevice deviceId d = true ∧ d.updatedAt < clock 0) ∨
    (∀ r ∈ db.dnsRecords.rows, isDeviceRecord deviceId r = true → r.updatedAt < clock 2) ∨
    ∀ d ∈ db.devices.rows, Db.isLiveDevice deviceId d = true → d.hostname = hostname ∧
      ∀ r ∈ db.dnsRecords.rows, isDeviceRecord deviceId r = true →
        db.availableDnsName netDefault deviceId hostname = .ok r.name ∧ r.value = d.ipv4

section Rename

variable {t : Timestamp} {uuid : Uuid} {networkId deviceId name ipv4 hostname : String}
variable {table : Table DnsRecordRow}

theorem dnsUpsert_total_le (h : ∀ r ∈ db.dnsRecords.rows, r.updatedAt ≤ t)
    (hupsert : db.dnsUpsert t uuid networkId deviceId name ipv4 = some table) :
    Table.total DnsRecordRow.weight db.dnsRecords.rows ≤ Table.total DnsRecordRow.weight table.rows :=
  Table.total_le_upsert hupsert fun r hr _ => Nat.add_le_add_left (h r hr) 1

theorem dnsUpsert_total_lt
    (hold : ∀ r ∈ db.dnsRecords.rows, isDeviceRecord deviceId r = true → r.updatedAt < t)
    (hupsert : db.dnsUpsert t uuid networkId deviceId name ipv4 = some table) :
    Table.total DnsRecordRow.weight db.dnsRecords.rows < Table.total DnsRecordRow.weight table.rows :=
  Table.total_lt_upsert hupsert (fun r hr htarget => Nat.add_lt_add_left (hold r hr htarget) 1)
    (Nat.lt_of_lt_of_le Nat.one_pos (Nat.le_add_right 1 t))

/-- An upsert that finds the record as it would make it, or raises the sum. -/
theorem dnsUpsert_record
    (hsame : ∀ r ∈ db.dnsRecords.rows, isDeviceRecord deviceId r = true →
      r.name = name ∧ r.value = ipv4)
    (hupsert : db.dnsUpsert t uuid networkId deviceId name ipv4 = some table) :
    Table.total DnsRecordRow.weight db.dnsRecords.rows < Table.total DnsRecordRow.weight table.rows ∨
      table.rows.map DnsRecordRow.record = db.dnsRecords.rows.map DnsRecordRow.record := by
  rcases Table.upsert_cases hupsert with ⟨-, hrows⟩ | ⟨hany, -, -⟩
  · refine Or.inr ?_
    rw [hrows]
    refine Table.map_updated _ fun r hr htarget => ?_
    obtain ⟨hname, hvalue⟩ := hsame r hr htarget
    rw [DnsRecordRow.record, DnsRecordRow.record, hname, hvalue]
  · -- there is no such record, so one is added
    refine Or.inl (dnsUpsert_total_lt (fun r hr htarget => ?_) hupsert)
    exact absurd htarget (List.any_eq_false.mp hany r hr)

theorem renameTx_detects (hstamp : Stamped db now) (hclock : Readings clock now (now + n))
    (hunexpiring : Unexpiring db now n) (hseen : RenameSeen db clock deviceId hostname)
    (hok : db.renameTx S clock fresh deviceId hostname = .ok db') :
    Detects db now db' (now + n) := by
  obtain ⟨d, name, dnsRecords, ⟨hd, hlive⟩, hname, hupsert, rfl⟩ := Db.renameTx_ok hok
  have hdevices₀ : ∀ d ∈ db.devices.rows, d.updatedAt ≤ clock 0 :=
    fun d hd => (hstamp.devices d hd).trans (hclock 0).1
  have hdns₂ : ∀ r ∈ db.dnsRecords.rows, r.updatedAt ≤ clock 2 :=
    fun r hr => (hstamp.dnsRecords r hr).trans (hclock 2).1
  have hdevicesLe := total_le_stamped deviceId
    (fun d => { d with hostname, updatedAt := clock 0 }) (fun _ => ⟨rfl, rfl⟩) hdevices₀
  have hdnsLe := dnsUpsert_total_le hdns₂ hupsert
  have hbefore := networkMapVersion_eq db
  have hafter : Db.networkMapVersion { db.renamed (clock 0) deviceId hostname with dnsRecords } =
      Table.total DeviceRow.weight (Table.updated db.devices.rows (Db.isLiveDevice deviceId)
        fun d => { d with hostname, updatedAt := clock 0 }) +
      Table.total EndpointRow.weight db.endpoints.rows +
      Table.total DnsRecordRow.weight dnsRecords.rows := networkMapVersion_eq _
  rcases hseen with hdevice | hrecord | hsame
  · have hlt := total_lt_stamped deviceId (fun d => { d with hostname, updatedAt := clock 0 })
      (fun _ => ⟨rfl, rfl⟩) hdevices₀ hdevice
    exact detects_of_lt (by omega)
  · have hlt := dnsUpsert_total_lt hrecord hupsert
    exact detects_of_lt (by omega)
  · have hrecords := dnsUpsert_record (fun r hr htarget => ?_) hupsert
    · rcases hrecords with hlt | hrecords
      · exact detects_of_lt (by omega)
      · refine ⟨by omega, fun _ deviceId' => ?_⟩
        have hdevices : servedDevices { db.renamed (clock 0) deviceId hostname with dnsRecords } =
            servedDevices db := by
          refine Table.map_updated _ fun d' hd' hlive' => ?_
          rw [← (hsame d' hd' hlive').1]
          rfl
        rw [content_congr hdevices rfl hrecords]
        exact hunexpiring.content (Nat.le_add_right _ _) le_rfl deviceId'
    · obtain ⟨havailable, hvalue⟩ := (hsame d hd hlive).2 r hr htarget
      rw [hname] at havailable
      exact ⟨(Except.ok.inj havailable).symm, hvalue⟩

end Rename

section Heartbeat

variable {deviceId : String} {es : List EndpointPayload} {i : Nat} {request : HeartbeatRequest}

/-- A loop that reports an endpoint not seen since `t` raises the sum. -/
theorem storeEndpoints_total_lt {t : Timestamp} (hmono : Monotone clock)
    (ht : ∀ j, t ≤ clock j) (hstamp : ∀ r ∈ db.endpoints.rows, r.lastSeenAt ≤ clock i)
    (hold : ∃ e ∈ es, ∀ r ∈ db.endpoints.rows, r.id = reportedId S deviceId e → r.lastSeenAt < t)
    (h : Db.storeEndpoints S clock deviceId i es db = .ok db') :
    Table.total EndpointRow.weight db.endpoints.rows <
      Table.total EndpointRow.weight db'.endpoints.rows := by
  induction es generalizing i db with
  | nil =>
      obtain ⟨e, he, -⟩ := hold
      cases he
  | cons e es ih =>
      obtain ⟨db₁, hstore, h⟩ := Api.bind_eq_ok.mp h
      obtain ⟨e₀, he₀, hold⟩ := hold
      obtain ⟨endpoints, hupsert, hdb₁⟩ := Db.storeEndpoint_ok hstore
      have hstamp₁ : ∀ r ∈ db₁.endpoints.rows, r.lastSeenAt ≤ clock (i + 1) := by
        rw [hdb₁]
        exact Table.forall_upsert hupsert (hmono (Nat.le_succ i))
          (fun _ _ _ => hmono (Nat.le_succ i)) fun r hr => (hstamp r hr).trans (hmono (Nat.le_succ i))
      by_cases hid : reportedId S deviceId e₀ = reportedId S deviceId e
      · -- the endpoint is reported here
        rw [hid] at hold
        exact (storeEndpoint_total_lt (fun r hr hr' => (hold r hr hr').trans_le (ht i)) hstore).trans_le
          (storeEndpoints_total_le hmono hstamp₁ h)
      · -- its row is not touched here
        refine (storeEndpoint_total_le hstamp hstore).trans_lt (ih hstamp₁ ⟨e₀, ?_, ?_⟩ h)
        · rcases List.mem_cons.mp he₀ with rfl | he₀
          · exact absurd rfl hid
          · exact he₀
        · rw [hdb₁]
          exact Table.forall_upsert hupsert (fun hr' => absurd hr'.symm hid)
            (fun r hr htarget hr' => absurd (hr'.symm.trans (beq_iff_eq.mp htarget)) hid) hold

/-- A loop of reports that are stored as reported changes nothing that is sent. -/
theorem storeEndpoints_payload
    (hstored : ∀ j e, es[j]? = some e → ∃ r ∈ db.endpoints.rows, r.id = reportedId S deviceId e ∧
      r.payload = (Db.reportedRow S (clock (i + j)) deviceId e).payload)
    (h : Db.storeEndpoints S clock deviceId i es db = .ok db') :
    db'.endpoints.rows.map (fun r => (r.id, r.deviceId, r.payload)) =
      db.endpoints.rows.map fun r => (r.id, r.deviceId, r.payload) := by
  induction es generalizing i db with
  | nil =>
      obtain rfl := Except.ok.inj h
      rfl
  | cons e es ih =>
      obtain ⟨db₁, hstore, h⟩ := Api.bind_eq_ok.mp h
      obtain ⟨r₀, hr₀, hid₀, hpayload₀⟩ := hstored 0 e rfl
      have hsame : db₁.endpoints.rows.map (fun r => (r.id, r.deviceId, r.payload)) =
          db.endpoints.rows.map fun r => (r.id, r.deviceId, r.payload) := by
        rw [storeEndpoint_of_stored ⟨r₀, hr₀, hid₀⟩ hstore]
        refine Table.map_updated _ fun r hr hid => ?_
        obtain rfl := endpoint_unique hr hr₀ ((beq_iff_eq.mp hid).trans hid₀.symm)
        rw [hpayload₀]
        rfl
      refine (ih (fun j e' hj => ?_) h).trans hsame
      obtain ⟨r, hr, hid, hpayload⟩ := hstored (j + 1) e' hj
      have hmem : (r.id, r.deviceId, r.payload) ∈
          db₁.endpoints.rows.map fun r => (r.id, r.deviceId, r.payload) :=
        hsame ▸ List.mem_map_of_mem hr
      obtain ⟨r₁, hr₁, heq⟩ := List.mem_map.mp hmem
      obtain ⟨hid₁, -, hpayload₁⟩ := by simpa only [Prod.mk.injEq] using heq
      refine ⟨r₁, hr₁, hid₁.trans hid, ?_⟩
      rw [hpayload₁, hpayload, Nat.add_assoc, Nat.add_comm 1 j]

theorem heartbeatTx_detects (hstamp : Stamped db now) (hclock : Readings clock now (now + n))
    (hmono : Monotone clock) (hunexpiring : Unexpiring db now n) (hseen : HeartbeatSeen S db clock request)
    (hok : db.heartbeatTx S clock request = .ok db') : Detects db now db' (now + n) := by
  obtain ⟨hunexpired, hseen⟩ := hseen
  have hrows := loop_start_rows hunexpired
  obtain ⟨hdevices, hdns⟩ := heartbeatTx_devices hok
  have hdevices₀ : ∀ d ∈ db.devices.rows, d.updatedAt ≤ clock 0 :=
    fun d hd => (hstamp.devices d hd).trans (hclock 0).1
  have hlast : ∀ r ∈ ((db.touchDevice (clock 0) request.deviceId).pruneEndpoints (clock 1)
      request.deviceId).endpoints.rows, r.lastSeenAt ≤ clock 2 := by
    rw [hrows]
    exact fun r hr => (hstamp.endpoints r hr).trans (hclock 2).1
  have hdevicesLe := touchDevice_total_le request.deviceId hdevices₀
  have hendpointsLe := storeEndpoints_total_le hmono hlast hok
  rw [hrows] at hendpointsLe
  have hbefore := networkMapVersion_eq db
  have hafter := networkMapVersion_eq db'
  rw [hdevices, hdns] at hafter
  rcases hseen with hdevice | hendpoint | hstored
  · have hlt := total_lt_stamped request.deviceId
      (fun d => { d with lastSeenAt := some (clock 0), updatedAt := clock 0 }) (fun _ => ⟨rfl, rfl⟩)
      hdevices₀ hdevice
    have hlt' : Table.total DeviceRow.weight db.devices.rows <
      Table.total DeviceRow.weight (db.touchDevice (clock 0) request.deviceId).devices.rows := hlt
    exact detects_of_lt (by omega)
  · have hlt := storeEndpoints_total_lt hmono (fun j => hmono (Nat.zero_le j)) hlast
      (by rw [hrows]; exact hendpoint) hok
    rw [hrows] at hlt
    exact detects_of_lt (by omega)
  · refine ⟨by omega, fun _ deviceId => ?_⟩
    have hpayload := storeEndpoints_payload (by rw [hrows]; exact hstored) hok
    rw [hrows] at hpayload
    have hsent := congrArg (List.map Prod.snd) hpayload
    rw [List.map_map, List.map_map] at hsent
    have hserved : servedDevices db' = servedDevices db := by
      rw [servedDevices, hdevices]
      exact Table.map_updated _ fun _ _ _ => rfl
    rw [content_congr hserved hsent (by rw [hdns])]
    exact hunexpiring.content (Nat.le_add_right _ _) le_rfl deviceId

end Heartbeat

section Register

variable {request : RegisterDeviceRequest} {hostname ipv4 : String} {response : RegisterDeviceResponse}

/-- A new device always raises the version. -/
theorem registerTx_detects (hstamp : Stamped db now) (hclock : Readings clock now (now + n))
    (hok : db.registerTx S clock fresh request hostname ipv4 = .ok (response, db')) :
    Detects db now db' (now + n) := by
  obtain ⟨devices, _, dnsRecords, _, hinsert, hupsert, -, rfl, -⟩ := Db.registerTx_ok hok
  have hdns := dnsUpsert_total_le (fun r hr => (hstamp.dnsRecords r hr).trans (hclock 1).1) hupsert
  have hdevices : Table.total DeviceRow.weight devices.rows =
      Table.total DeviceRow.weight db.devices.rows + (1 + clock 0) := by
    rw [(Table.insert_eq_some.mp hinsert).2, Table.total_concat]
    rfl
  refine detects_of_lt ?_
  rw [networkMapVersion_eq, networkMapVersion_eq]
  show _ < Table.total DeviceRow.weight devices.rows + Table.total EndpointRow.weight db.endpoints.rows +
    Table.total DnsRecordRow.weight dnsRecords.rows
  omega

end Register

/-- What must hold where a request commits a write, for the version to show it. -/
def Seen (S : Server) (db : Db) (clock : Nat → Timestamp) : Process → Prop
  | .renameReceived deviceId request =>
      ∀ hostname, normalizeHostname request.hostname = .ok hostname → RenameSeen db clock deviceId hostname
  | .heartbeatValidated request => HeartbeatSeen S db clock request
  | .deleteReceived _ => False
  | _ => True

/-- A transaction that creates a key, which no map shows, or one that the version shows. -/
theorem Commit.detects (hcommit : Commit S clock fresh db p db') (hstamp : Stamped db now)
    (hclock : Readings clock now (now + n)) (hmono : Monotone clock) (hunexpiring : Unexpiring db now n)
    (hseen : p ≠ .createAuthKey → Seen S db clock p) :
    (∃ authKeys, db' = { db with authKeys }) ∨ (p ≠ .createAuthKey ∧ Detects db now db' (now + n)) := by
  cases hcommit with
  | createAuthKey hok =>
      obtain ⟨_, authKeys, -, -, -, rfl⟩ := Db.createAuthKey_ok hok
      exact Or.inl ⟨authKeys, rfl⟩
  | register hok => exact Or.inr ⟨nofun, registerTx_detects hstamp hclock hok⟩
  | rename hname hok =>
      exact Or.inr ⟨nofun, renameTx_detects hstamp hclock hunexpiring (hseen nofun _ hname) hok⟩
  | delete hok => exact absurd (hseen nofun) not_false
  | heartbeat hok =>
      exact Or.inr ⟨nofun, heartbeatTx_detects hstamp hclock hmono hunexpiring (hseen nofun) hok⟩

-- ============================================================================
-- What a response in the making has read
-- ============================================================================

/-- `network_map` has read a part of what it will send. -/
def Process.reading : Process → Bool
  | .mapPeers .. | .mapVersion .. | .mapDns .. => true
  | _ => false

/-- What a request has read is what is stored; what it has sent was stored when the
    version was the one it sent. -/
def Tracks (db : Db) (now : Timestamp) : Process → Prop
  | .mapSelf query selfDevice => selfDevice.deviceId = query.deviceId
  | .mapPeers query selfDevice peers pending =>
      selfDevice.deviceId = query.deviceId ∧ (∀ row ∈ pending, row ∈ db.peerRows query.deviceId) ∧
        peers ++ pending.map (db.networkMapPeer now) = (db.content now query.deviceId).1
  | .mapVersion query selfDevice peers pending sum =>
      selfDevice.deviceId = query.deviceId ∧ peers = (db.content now query.deviceId).1 ∧
        sum + (pending.map db.versionTerm).sum = db.networkMapVersion
  | .mapDns query selfDevice peers version =>
      selfDevice.deviceId = query.deviceId ∧ peers = (db.content now query.deviceId).1 ∧
        version = db.networkMapVersion
  | .done (.networkMap (.ok map)) =>
      map.networkMapVersion ≤ db.networkMapVersion ∧
        (map.networkMapVersion = db.networkMapVersion →
          (map.peers, map.dnsRecords) = db.content now map.selfDevice.deviceId)
  | _ => True

/-- Time passes, and at most keys are created. -/
theorem Tracks.quiet (h : Tracks db now p) (hunexpiring : Unexpiring db now n) (authKeys : Table AuthKeyRow) :
    Tracks { db with authKeys } (now + n) p := by
  have hle : now ≤ now + n := Nat.le_add_right _ _
  have hcontent : ∀ deviceId, Db.content { db with authKeys } (now + n) deviceId = db.content now deviceId :=
    hunexpiring.content hle le_rfl
  unfold Tracks at h ⊢
  split
  · exact h
  · obtain ⟨hid, hrows, hpeers⟩ := h
    have hpending : ∀ row ∈ _, db.networkMapPeer (now + n) row = db.networkMapPeer now row :=
      fun row hrow => hunexpiring.networkMapPeer hle le_rfl (live_of_mem_peerRows (hrows row hrow))
    refine ⟨hid, hrows, ?_⟩
    rw [hcontent, ← hpeers]
    exact congrArg _ (List.map_congr_left hpending)
  · rw [hcontent]
    exact h
  · rw [hcontent]
    exact h
  · rw [hcontent]
    exact h
  · trivial

/-- A write that the version shows, when nothing of the response was read yet or all of it. -/
theorem Tracks.detects (h : Tracks db now p) (hdetects : Detects db now db' now')
    (hreading : p.reading = false) : Tracks db' now' p := by
  unfold Tracks at h ⊢
  split
  · exact h
  · cases hreading
  · cases hreading
  · cases hreading
  · obtain ⟨hle, hsame⟩ := h
    have hle' : (db.networkMapVersion : Int) ≤ db'.networkMapVersion := Int.ofNat_le.mpr hdetects.le
    refine ⟨hle.trans hle', fun heq => ?_⟩
    have hversion : db'.networkMapVersion = db.networkMapVersion := by omega
    rw [hdetects.same hversion]
    apply hsame
    rw [heq, hversion]
  · trivial

/-- The map tells what is stored now. -/
def Current (db : Db) (now : Timestamp) (map : NetworkMapResponse) : Prop :=
  map.networkMapVersion = db.networkMapVersion ∧
    (map.peers, map.dnsRecords) = db.content now map.selfDevice.deviceId

theorem tracks_of_handler (h : p.handler ≠ .networkMap) : Tracks db now p := by
  unfold Tracks
  split <;> first | exact absurd rfl h | trivial

theorem selfDevice_id {deviceId : String} {selfDevice : NetworkMapSelf}
    (h : db.selfDevice S deviceId = .ok selfDevice) : selfDevice.deviceId = deviceId := by
  unfold Db.selfDevice at h
  split at h
  · cases h
  · rename_i d hfind
    obtain rfl := Except.ok.inj h
    exact (Db.isLiveDevice_iff.mp (List.find?_some hfind)).1

section Reads

variable {query : NetworkMapQuery} {selfDevice : NetworkMapSelf} {peers : List NetworkMapPeer}

theorem tracks_afterPeers {pending : List PeerRow} (hid : selfDevice.deviceId = query.deviceId)
    (hrows : ∀ row ∈ pending, row ∈ db.peerRows query.deviceId)
    (hpeers : peers ++ pending.map (db.networkMapPeer now) = (db.content now query.deviceId).1) :
    Tracks db now (Process.afterPeers query selfDevice peers pending) := by
  cases pending with
  | nil => exact ⟨hid, (List.append_nil peers).symm.trans hpeers, Nat.zero_add _⟩
  | cons row pending => exact ⟨hid, hrows, hpeers⟩

/-- An endpoint list is read; every statement of the step reads what the first would. -/
theorem tracks_mapLoadPeer {pending : List PeerRow}
    (hpeer : ∀ row ∈ db.peerRows query.deviceId,
      db.networkMapPeer (clock 0) row = db.networkMapPeer now row)
    (h : Tracks db now (.mapPeers query selfDevice peers pending)) :
    Tracks db now (Process.mapLoadPeer db clock query selfDevice peers pending) := by
  obtain ⟨hid, hrows, hpeers⟩ := h
  cases pending with
  | nil => exact tracks_afterPeers hid hrows hpeers
  | cons row pending =>
      refine tracks_afterPeers hid (fun row' hrow' => hrows row' (List.mem_cons_of_mem _ hrow')) ?_
      rw [hpeer row (hrows row List.mem_cons_self), List.append_assoc]
      exact hpeers

/-- A term of the version is read. -/
theorem tracks_mapRead {pending : List VersionTerm} {sum : Nat}
    (h : Tracks db now (.mapVersion query selfDevice peers pending sum)) :
    Tracks db now (Process.mapRead db query selfDevice peers pending sum) := by
  obtain ⟨hid, hpeers, hsum⟩ := h
  match pending, hsum with
  | [], hsum => exact ⟨hid, hpeers, hsum⟩
  | [term], hsum => exact ⟨hid, hpeers, hsum⟩
  | term :: term' :: pending, hsum =>
      refine ⟨hid, hpeers, ?_⟩
      rw [Nat.add_assoc]
      exact hsum

end Reads

theorem Current.tracks {map : NetworkMapResponse} (h : Current db now map) :
    Tracks db now (.done (.networkMap (.ok map))) :=
  ⟨h.1.le, fun _ => h.2⟩

/-- A step of `network_map` reads what is stored; a map that it sends is current. -/
theorem current_of_unserved (h : p.served = none) : ∀ map, p.served = some map → Current db now map := by
  intro map hmap
  rw [h] at hmap
  cases hmap

theorem Tracks.next (h : Tracks db now p) (hmap : p.handler = .networkMap)
    (hpeer : ∀ deviceId, ∀ row ∈ db.peerRows deviceId,
      db.networkMapPeer (clock 0) row = db.networkMapPeer now row)
    (hnext : p.next S db clock fresh = some (p', db')) :
    Tracks db now p' ∧ ∀ map, p'.served = some map → Current db now map := by
  cases p with
  | mapReceived query =>
      simp only [Process.next] at hnext
      split at hnext <;>
      · obtain ⟨rfl, -⟩ := Prod.mk.inj (Option.some.inj hnext)
        exact ⟨trivial, current_of_unserved rfl⟩
  | mapValidated query =>
      simp only [Process.next] at hnext
      split at hnext
      · obtain ⟨rfl, -⟩ := Prod.mk.inj (Option.some.inj hnext)
        exact ⟨trivial, current_of_unserved rfl⟩
      · rename_i selfDevice hself
        obtain ⟨rfl, -⟩ := Prod.mk.inj (Option.some.inj hnext)
        exact ⟨selfDevice_id hself, current_of_unserved rfl⟩
  | mapSelf query selfDevice =>
      obtain ⟨rfl, -⟩ := Prod.mk.inj (Option.some.inj hnext)
      refine ⟨tracks_afterPeers h (fun _ hrow => hrow) rfl, ?_⟩
      unfold Process.afterPeers
      split <;> exact current_of_unserved rfl
  | mapPeers query selfDevice peers pending =>
      obtain ⟨rfl, -⟩ := Prod.mk.inj (Option.some.inj hnext)
      refine ⟨tracks_mapLoadPeer (hpeer query.deviceId) h, ?_⟩
      unfold Process.mapLoadPeer Process.afterPeers
      split
      · exact current_of_unserved rfl
      · split <;> exact current_of_unserved rfl
  | mapVersion query selfDevice peers pending sum =>
      obtain ⟨rfl, -⟩ := Prod.mk.inj (Option.some.inj hnext)
      refine ⟨tracks_mapRead h, ?_⟩
      unfold Process.mapRead
      split <;> exact current_of_unserved rfl
  | mapDns query selfDevice peers version =>
      obtain ⟨rfl, -⟩ := Prod.mk.inj (Option.some.inj hnext)
      obtain ⟨hid, hpeers, hversion⟩ := h
      have hcurrent : Current db now ⟨version, selfDevice, peers, db.loadDnsRecords, S.relays⟩ := by
        refine ⟨congrArg Int.ofNat hversion, ?_⟩
        show (peers, db.loadDnsRecords) = db.content now selfDevice.deviceId
        rw [hid, hpeers]
        rfl
      exact ⟨hcurrent.tracks, fun map hserved => Option.some.inj hserved ▸ hcurrent⟩
  | done reply => cases hnext
  | _ => cases hmap

/-- A map of the current version tells what a current map tells. -/
theorem Current.agrees {map map' : NetworkMapResponse} (h : Current db now map)
    (h' : Tracks db now (.done (.networkMap (.ok map'))))
    (hid : map.selfDevice.deviceId = map'.selfDevice.deviceId)
    (hversion : map.networkMapVersion = map'.networkMapVersion) :
    map.peers = map'.peers ∧ map.dnsRecords = map'.dnsRecords := by
  have hcontent := h'.2 (hversion.symm.trans h.1)
  rw [← hid, ← h.2] at hcontent
  obtain ⟨hpeers, hdns⟩ := Prod.mk.inj hcontent
  exact ⟨hpeers.symm, hdns.symm⟩

theorem handler_of_served {map : NetworkMapResponse} (h : p.served = some map) :
    p.handler = .networkMap := by
  rw [Process.done_of_served h]
  rfl

theorem Commit.handler_ne (h : Commit S clock fresh db p db') : p.handler ≠ .networkMap := by
  cases h <;> exact nofun

/-- A step of a request, seen from its end. -/
theorem Tracks.own (h : Tracks db now p) (hunexpiring : Unexpiring db now n)
    (hclock : Readings clock now (now + n)) (hnext : p.next S db clock fresh = some (p', db')) :
    Tracks db' (now + n) p' ∧ ∀ map, p'.served = some map → Current db' (now + n) map := by
  have hhandler := Process.next_handler hnext
  by_cases hmap : p.handler = .networkMap
  · obtain rfl : db' = db := (Process.next_db hnext).resolve_right fun hcommit => hcommit.handler_ne hmap
    have hpeer : ∀ deviceId, ∀ row ∈ db'.peerRows deviceId,
        db'.networkMapPeer (clock 0) row = db'.networkMapPeer now row :=
      fun _ _ hrow => hunexpiring.networkMapPeer (hclock 0).1 (hclock 0).2 (live_of_mem_peerRows hrow)
    obtain ⟨htracks, hcurrent⟩ := h.next hmap hpeer hnext
    refine ⟨htracks.quiet hunexpiring _, fun map hserved => ?_⟩
    obtain ⟨hversion, hcontent⟩ := hcurrent map hserved
    refine ⟨hversion, ?_⟩
    rw [hcontent]
    exact (hunexpiring.content (Nat.le_add_right _ _) le_rfl _).symm
  · rw [← hhandler] at hmap
    exact ⟨tracks_of_handler hmap, fun map hserved => absurd (handler_of_served hserved) hmap⟩

-- ============================================================================
-- Whole runs
-- ============================================================================

namespace ControlState

variable {st st' : ControlState} {W : Set Nat} {r : Nat}

/-- Of the maps sent in answer to the requests in `W`, those for one device that
    carry one version tell the same. -/
def VersionsDetect (W : Set Nat) (st : ControlState) : Prop :=
  ∀ r₁ ∈ W, ∀ r₂ ∈ W, ∀ map₁ map₂, st.served r₁ = some map₁ → st.served r₂ = some map₂ →
    map₁.selfDevice.deviceId = map₂.selfDevice.deviceId →
    map₁.networkMapVersion = map₂.networkMapVersion →
      map₁.peers = map₂.peers ∧ map₁.dnsRecords = map₂.dnsRecords

/-- An agent that is given maps sent in answer to the requests in `W`, in any order
    and whatever becomes of applying them, skips a map only if the one that it
    applied last tells the same. -/
def SkipsUnchanged (W : Set Nat) (st : ControlState) : Prop :=
  ∀ (state : Agent.AgentState) (deviceId : String) (map : NetworkMapResponse)
    (rounds : List (Agent.Answers × NetworkMapResponse)),
    (∀ given ∈ map :: rounds.map Prod.snd,
      given.selfDevice.deviceId = deviceId ∧ ∃ r ∈ W, st.served r = some given) →
    (Agent.applyEach state rounds .none).lastAppliedNetworkMapVersion = some map.networkMapVersion →
      ∃ applied, (Agent.applyEach state rounds .none).lastApplied = some applied ∧
        applied.peers = map.peers ∧ applied.dnsRecords = map.dnsRecords

/-- Nothing hides from the version in this step: no endpoint expires, and a write is
    one that the version shows and falls between no two reads of a request in `W`. -/
def Steady (S : Server) (W : Set Nat) (st : ControlState) : Event → Prop
  | .tick seconds => Unexpiring st.db st.now seconds
  | .advance r fresh elapsed =>
      Unexpiring st.db st.now elapsed.total ∧
        ∀ p db', st.requests[r]? = some p →
          Commit S (elapsed.clock st.now) fresh st.db p db' → p ≠ .createAuthKey →
            Seen S st.db (elapsed.clock st.now) p ∧
              ∀ w ∈ W, ∀ q, st.requests[w]? = some q → q.reading = false
  | _ => True

theorem VersionsDetect.skipsUnchanged (h : VersionsDetect W st) : SkipsUnchanged W st := by
  intro state deviceId map rounds hgiven hskip
  obtain ⟨applied, happlied, ⟨hid, r, hr, hserved⟩, hversion⟩ := Agent.skipped_of_version
    (fun given => given.selfDevice.deviceId = deviceId ∧ ∃ r ∈ W, st.served r = some given)
    (fun round hround => hgiven round.2 (List.mem_cons_of_mem _ (List.mem_map_of_mem hround))) hskip
  obtain ⟨hid', r', hr', hserved'⟩ := hgiven map List.mem_cons_self
  exact ⟨applied, happlied, h r hr r' hr' applied map hserved hserved' (hid.trans hid'.symm) hversion⟩

/-- What the steps keep: responses in the making have read what is stored, and those
    that were sent agree. -/
structure Consistent (W : Set Nat) (st : ControlState) : Prop where
  inTime : st.InTime
  tracks : ∀ r ∈ W, ∀ p, st.requests[r]? = some p → Tracks st.db st.now p
  detects : VersionsDetect W st

/-- A step that sends no map. -/
theorem VersionsDetect.of_served (h : VersionsDetect W st)
    (hserved : ∀ r map, st'.served r = some map → st.served r = some map) : VersionsDetect W st' := by
  intro r₁ hr₁ r₂ hr₂ map₁ map₂ h₁ h₂
  exact h r₁ hr₁ r₂ hr₂ map₁ map₂ (hserved r₁ map₁ h₁) (hserved r₂ map₂ h₂)

theorem Consistent.tick (h : Consistent W st) {n : Nat} (hunexpiring : Unexpiring st.db st.now n) :
    Consistent W { st with now := st.now + n } where
  inTime := Stamped.mono h.inTime (Nat.le_add_right _ _)
  tracks := fun r hr p hp => (h.tracks r hr p hp).quiet hunexpiring st.db.authKeys
  detects := h.detects

theorem Consistent.arrive (h : Consistent W st) (request : Request) :
    Consistent W { st with requests := st.requests ++ [request.start] } := by
  have hrequests : ∀ (r : Nat) (p : Process), (st.requests ++ [request.start])[r]? = some p →
      st.requests[r]? = some p ∨ p = request.start := by
    intro r p hp
    rw [List.getElem?_append] at hp
    split at hp
    · exact Or.inl hp
    · exact Or.inr (List.mem_singleton.mp (List.mem_of_getElem? hp))
  refine ⟨h.inTime, fun r hr p hp => ?_, h.detects.of_served fun r map hserved => ?_⟩
  · rcases hrequests r p hp with hp | rfl
    · exact h.tracks r hr p hp
    · cases request <;> trivial
  · obtain ⟨p, hp, hmap⟩ := Option.bind_eq_some_iff.mp hserved
    rcases hrequests r p hp with hp | rfl
    · exact Option.bind_eq_some_iff.mpr ⟨p, hp, hmap⟩
    · cases request <;> cases hmap

/-- A request that fails is answered with no map. -/
theorem served_failed {error : ApiError} {reply : Reply} (h : p.failed error = some reply) :
    (Process.done reply).served = none := by
  rw [Process.failed_eq h]
  cases p.handler <;> rfl

theorem tracks_failed {error : ApiError} {reply : Reply} (h : p.failed error = some reply) :
    Tracks db now (.done reply) := by
  rw [Process.failed_eq h]
  cases p.handler <;> trivial

theorem Consistent.abort (h : Consistent W st) {error : ApiError} {reply : Reply}
    (hfailed : p.failed error = some reply) :
    Consistent W { st with requests := st.requests.set r (.done reply) } := by
  refine ⟨h.inTime, fun w hw q hq => ?_, h.detects.of_served fun w map hserved => ?_⟩
  · rcases getElem?_set_cases hq with ⟨-, rfl⟩ | ⟨-, hq⟩
    · exact tracks_failed hfailed
    · exact h.tracks w hw q hq
  · obtain ⟨q, hq, hmap⟩ := Option.bind_eq_some_iff.mp hserved
    rcases getElem?_set_cases hq with ⟨-, rfl⟩ | ⟨-, hq⟩
    · rw [served_failed hfailed] at hmap
      cases hmap
    · exact Option.bind_eq_some_iff.mpr ⟨q, hq, hmap⟩

/-- A step that sends at most one map, which is current. -/
theorem VersionsDetect.of_current (h : VersionsDetect W st)
    (hothers : ∀ w ∈ W, ∀ q, st.requests[w]? = some q → Tracks db' now' q)
    (hcurrent : r ∈ W → ∀ map, p'.served = some map → Current db' now' map) (admitted : List Admission) :
    VersionsDetect W ⟨db', now', st.requests.set r p', admitted⟩ := by
  have hserved : ∀ w ∈ W, ∀ map, served ⟨db', now', st.requests.set r p', admitted⟩ w = some map →
      Current db' now' map ∨
        (st.served w = some map ∧ Tracks db' now' (.done (.networkMap (.ok map)))) := by
    intro w hw map hmap
    obtain ⟨q, hq, hqmap⟩ := Option.bind_eq_some_iff.mp hmap
    rcases getElem?_set_cases hq with ⟨rfl, rfl⟩ | ⟨-, hq⟩
    · exact Or.inl (hcurrent hw map hqmap)
    · refine Or.inr ⟨Option.bind_eq_some_iff.mpr ⟨q, hq, hqmap⟩, ?_⟩
      rw [← Process.done_of_served hqmap]
      exact hothers w hw q hq
  intro r₁ hr₁ r₂ hr₂ map₁ map₂ h₁ h₂ hid hversion
  rcases hserved r₁ hr₁ map₁ h₁ with hcurrent₁ | ⟨hserved₁, htracks₁⟩
  · -- the first map is the one that this step sends
    rcases hserved r₂ hr₂ map₂ h₂ with hcurrent₂ | ⟨-, htracks₂⟩
    · exact hcurrent₁.agrees hcurrent₂.tracks hid hversion
    · exact hcurrent₁.agrees htracks₂ hid hversion
  · rcases hserved r₂ hr₂ map₂ h₂ with hcurrent₂ | ⟨hserved₂, -⟩
    · obtain ⟨hpeers, hdns⟩ := hcurrent₂.agrees htracks₁ hid.symm hversion.symm
      exact ⟨hpeers.symm, hdns.symm⟩
    · exact h r₁ hr₁ r₂ hr₂ map₁ map₂ hserved₁ hserved₂ hid hversion

/-- A request takes a step, and the others have tracked what it did. -/
theorem Consistent.advance (h : Consistent W st) {elapsed : Elapsed}
    (hsteady : Steady S W st (.advance r fresh elapsed)) (hp : st.requests[r]? = some p)
    (hnext : p.next S st.db (elapsed.clock st.now) fresh = some (p', db')) :
    Consistent W ⟨db', st.now + elapsed.total, st.requests.set r p',
      st.admitted ++ (admission p p').toList⟩ := by
  obtain ⟨hunexpiring, hwrite⟩ := hsteady
  have hstep : st.step S (.advance r fresh elapsed) = some ⟨db', st.now + elapsed.total,
      st.requests.set r p', st.admitted ++ (admission p p').toList⟩ :=
    step_advance.mpr ⟨p, p', db', hp, hnext, rfl⟩
  have hothers : ∀ w ∈ W, ∀ q, st.requests[w]? = some q → Tracks db' (st.now + elapsed.total) q := by
    intro w hw q hq
    have hq' := h.tracks w hw q hq
    rcases Process.next_db hnext with rfl | hcommit
    · exact hq'.quiet hunexpiring _
    · have hseen := hwrite p db' hp hcommit
      rcases hcommit.detects h.inTime (readings_clock elapsed st.now) (elapsed.clock_mono st.now)
        hunexpiring (fun hne => (hseen hne).1) with ⟨authKeys, rfl⟩ | ⟨hne, hdetects⟩
      · exact hq'.quiet hunexpiring authKeys
      · exact hq'.detects hdetects ((hseen hne).2 w hw q hq)
  have hown : r ∈ W → Tracks db' (st.now + elapsed.total) p' ∧
      ∀ map, p'.served = some map → Current db' (st.now + elapsed.total) map :=
    fun hr => (h.tracks r hr p hp).own hunexpiring (readings_clock elapsed st.now) hnext
  refine ⟨h.inTime.step hstep, fun w hw q hq => ?_, ?_⟩
  · rcases getElem?_set_cases hq with ⟨rfl, rfl⟩ | ⟨-, hq⟩
    · exact (hown hw).1
    · exact hothers w hw q hq
  · exact h.detects.of_current hothers (fun hr => (hown hr).2) _

theorem Consistent.step {e : Event} (h : Consistent W st) (hsteady : Steady S W st e)
    (hstep : st.step S e = some st') : Consistent W st' := by
  cases e with
  | tick seconds =>
      obtain rfl := Option.some.inj hstep
      exact h.tick hsteady
  | arrive request =>
      obtain rfl := Option.some.inj hstep
      exact h.arrive request
  | advance r fresh elapsed =>
      obtain ⟨p, p', db', hp, hnext, rfl⟩ := step_advance.mp hstep
      exact h.advance hsteady hp hnext
  | abort r message =>
      obtain ⟨p, reply, -, hfailed, rfl⟩ := step_abort.mp hstep
      exact h.abort hfailed

/-- Before any of the requests in `W` has come. -/
theorem consistent_of_run {events : List Event}
    (hrun : run (step S) (start .empty now) events = some st)
    (hW : ∀ r ∈ W, st.requests.length ≤ r) : Consistent W st := by
  have hnone : ∀ r ∈ W, st.requests[r]? = none := fun r hr => List.getElem?_eq_none (hW r hr)
  refine ⟨inTime_of_run hrun, fun r hr p hp => ?_, fun r hr _ _ map _ hserved => ?_⟩
  · rw [hnone r hr] at hp
    cases hp
  · rw [served, hnone r hr] at hserved
    cases hserved

/-- **The version detects changes.**  From every reachable state, in every run whose
    steps are all steady for the requests in `W`, which come in that run, the maps
    sent to one device in answer to them tell the same whenever they carry the same
    version; so an agent that is given these maps and skips one because of its
    version holds what the skipped map says.  This is so in every state of the run. -/
theorem network_map_version_detects {before after : List Event}
    (hrun : run (step S) (start .empty now) before = some st)
    (hW : ∀ r ∈ W, st.requests.length ≤ r) (hsteady : Along (step S) (Steady S W) st after) :
    Throughout (step S) (fun st => VersionsDetect W st ∧ SkipsUnchanged W st) st after :=
  throughout_of_along (fun _ _ _ h hsteady hstep => h.step hsteady hstep)
    (fun _ h => ⟨h.detects, h.detects.skipsUnchanged⟩) (consistent_of_run hrun hW) hsteady

end ControlState

namespace Reference

/-- The device that request `3` registers, with the key that request `2` creates. -/
def betaRegistration : RegisterDeviceRequest :=
  { registration "beta" with authKey := "tfk_" ++ simple (uuids 2).authKeySecret }

def beta : DeviceRow := Db.newDevice 100 (uuids 3) betaRegistration "beta" "100.64.0.3"

/-- Two devices register in one second. -/
def pairEvents : List Event :=
  [.arrive .createAuthKey, advance 0,
   .arrive (.registerDevice (registration "alpha")), advance 1, advance 1, advance 1, advance 1,
   .arrive .createAuthKey, advance 2,
   .arrive (.registerDevice betaRegistration), advance 3, advance 3, advance 3, advance 3]

/-- The first device asks for its map, with request `r`. -/
def mapEvents (r : Nat) : List Event :=
  .arrive (.networkMap ⟨alpha.id, alpha.nodeKey⟩) :: List.replicate 11 (advance r)

/-- What the second device reports. -/
def betaReport : HeartbeatRequest :=
  ⟨beta.id, beta.nodeKey, [⟨"lan", "192.168.1.30", 51820, "udp", none, none, none⟩]⟩

/-- The second device is renamed, and a second later it reports an endpoint. -/
def writeEvents : List Event :=
  [.tick 1, .arrive (.renameDevice beta.id ⟨"gamma"⟩), advance 5, advance 5, .tick 1] ++
    .arrive (.heartbeat betaReport) :: List.replicate 8 (advance 6)

/-- A rename or a heartbeat finds the device with a stamp of an earlier second. -/
def shows (db : Db) (clock : Nat → Timestamp) : Process → Bool
  | .renameReceived deviceId _ => earlier deviceId
  | .heartbeatValidated request => earlier request.deviceId
  | .deleteReceived _ => false
  | _ => true
where
  earlier (deviceId : String) : Bool :=
    db.devices.rows.any fun d => Db.isLiveDevice deviceId d && decide (d.updatedAt < clock 0)

/-- No endpoint can expire, and a request that writes is shown by the version and finds
    none of the requests `W` reading. -/
def calm (W : List Nat) (st : ControlState) : Event → Bool
  | .tick _ => st.db.endpoints.rows.all (·.expiresAt.isNone)
  | .advance r _ elapsed => st.db.endpoints.rows.all (·.expiresAt.isNone) &&
      st.requests[r]?.all fun p => p.handler = .networkMap ||
        (shows st.db (elapsed.clock st.now) p && W.all fun w => st.requests[w]?.all (!·.reading))
  | _ => true

theorem seen_of_shows {S : Server} {db : Db} {clock : Nat → Timestamp} {p : Process}
    (hnone : db.endpoints.rows.all (·.expiresAt.isNone) = true) (h : shows db clock p = true) :
    Seen S db clock p := by
  have hearlier : ∀ deviceId, shows.earlier db clock deviceId = true →
      ∃ d ∈ db.devices.rows, Db.isLiveDevice deviceId d = true ∧ d.updatedAt < clock 0 := by
    intro deviceId hany
    obtain ⟨d, hd, hboth⟩ := List.any_eq_true.mp hany
    rw [Bool.and_eq_true, decide_eq_true_eq] at hboth
    exact ⟨d, hd, hboth⟩
  cases p with
  | renameReceived deviceId request => exact fun hostname _ => Or.inl (hearlier deviceId h)
  | heartbeatValidated request =>
      refine ⟨fun r hr _ => ?_, Or.inl (hearlier request.deviceId h)⟩
      rw [Option.isNone_iff_eq_none.mp (List.all_eq_true.mp hnone r hr)]
      rfl
  | deleteReceived deviceId => cases h
  | _ => trivial

theorem steady_of_calm {S : Server} {W : List Nat} {st : ControlState} {e : Event}
    (h : calm W st e = true) : st.Steady S {w | w ∈ W} e := by
  have hunexpiring : st.db.endpoints.rows.all (·.expiresAt.isNone) = true →
      ∀ n, Unexpiring st.db st.now n := by
    intro hall n t _ _ r hr _
    rw [Option.isNone_iff_eq_none.mp (List.all_eq_true.mp hall r hr)]
    rfl
  cases e with
  | tick seconds => exact hunexpiring h seconds
  | advance r fresh elapsed =>
      rw [calm, Bool.and_eq_true] at h
      refine ⟨hunexpiring h.1 _, fun p db' hp hcommit _ => ?_⟩
      rw [hp, Option.all_some, Bool.or_eq_true, decide_eq_true_eq, Bool.and_eq_true] at h
      obtain ⟨hshows, hreading⟩ := h.2.resolve_left hcommit.handler_ne
      refine ⟨seen_of_shows h.1 hshows, fun w hw q hq => ?_⟩
      have hq' := List.all_eq_true.mp hreading w hw
      rw [hq, Option.all_some, Bool.not_eq_true'] at hq'
      exact hq'
  | arrive request => trivial
  | abort r message => trivial

end Reference

open Reference in
/-- Three maps, the first before a rename and a heartbeat of the peer, the others after
    them: the writes show in the version, and the last two tell the same. -/
theorem network_map_version_detects_writes :
    ∃ st st', run (ControlState.step server) (.start .empty 100) pairEvents = some st ∧
      run (ControlState.step server) st
        (mapEvents 4 ++ writeEvents ++ mapEvents 7 ++ .tick 5 :: mapEvents 8) = some st' ∧
      (∃ map₁ map₂ map₃, st'.served 4 = some map₁ ∧ st'.served 7 = some map₂ ∧
        st'.served 8 = some map₃ ∧ map₁.peers ≠ map₂.peers ∧
        map₁.networkMapVersion ≠ map₂.networkMapVersion ∧
        map₂.networkMapVersion = map₃.networkMapVersion) ∧
      st'.VersionsDetect {w | w ∈ [4, 7, 8]} ∧ st'.SkipsUnchanged {w | w ∈ [4, 7, 8]} := by
  have hrun : (run (ControlState.step server) (.start .empty 100) pairEvents).any (fun st =>
      st.requests.length = 4 ∧
      Along (ControlState.step server) (fun st e => calm [4, 7, 8] st e = true) st
        (mapEvents 4 ++ writeEvents ++ mapEvents 7 ++ .tick 5 :: mapEvents 8) ∧
      (run (ControlState.step server) st
        (mapEvents 4 ++ writeEvents ++ mapEvents 7 ++ .tick 5 :: mapEvents 8)).any fun st' =>
        (st'.served 4).any fun map₁ => (st'.served 7).any fun map₂ => (st'.served 8).any fun map₃ =>
          map₁.peers ≠ map₂.peers ∧ map₁.networkMapVersion ≠ map₂.networkMapVersion ∧
            map₂.networkMapVersion = map₃.networkMapVersion) = true := by
    decide +kernel
  obtain ⟨st, hst, hfacts⟩ := (Option.any_eq_true _ _).mp hrun
  obtain ⟨hlength, hcalm, hafter⟩ := of_decide_eq_true hfacts
  obtain ⟨st', hst', hserved⟩ := (Option.any_eq_true _ _).mp hafter
  obtain ⟨map₁, hmap₁, hserved⟩ := (Option.any_eq_true _ _).mp hserved
  obtain ⟨map₂, hmap₂, hserved⟩ := (Option.any_eq_true _ _).mp hserved
  obtain ⟨map₃, hmap₃, hserved⟩ := (Option.any_eq_true _ _).mp hserved
  have hsteady := hcalm.mono fun _ _ h => steady_of_calm (S := server) h
  have hlater : ∀ r ∈ {w | w ∈ [4, 7, 8]}, st.requests.length ≤ r := by
    intro r hr
    rw [hlength]
    have hr' : r ∈ [4, 7, 8] := hr
    simp only [List.mem_cons, List.not_mem_nil, or_false] at hr'
    omega
  have hdetects := ControlState.network_map_version_detects hst hlater hsteady
  exact ⟨st, st', hst, hst',
    ⟨map₁, map₂, map₃, hmap₁, hmap₂, hmap₃, of_decide_eq_true hserved⟩, hdetects.last hst'⟩

namespace Reference

/-- The first device asks for its map before and after the second is renamed, all in
    the second in which they registered. -/
def renameEvents : List Event :=
  pairEvents ++ mapEvents 4 ++
    [.arrive (.renameDevice beta.id ⟨"gamma"⟩), advance 5, advance 5] ++ mapEvents 6

def alphaAgent : Agent.AgentState := ⟨some alpha.id, some alpha.ipv4⟩

/-- Every call of a round succeeds. -/
def succeeds : Agent.Answers := ⟨.ok (), .ok (), .ok (), .ok ()⟩

end Reference

open Reference in
/-- Both maps carry the same version, but the first has the old name of the second
    device and the second the new one; an agent that applied the first skips the
    second. -/
theorem rename_hidden_from_version :
    ∃ st map₁ map₂, run (ControlState.step server) (.start .empty 100) renameEvents = some st ∧
      st.served 4 = some map₁ ∧ st.served 6 = some map₂ ∧
      map₁.selfDevice.deviceId = map₂.selfDevice.deviceId ∧
      map₁.networkMapVersion = map₂.networkMapVersion ∧
      map₁.peers.map (·.hostname) = ["beta"] ∧ map₂.peers.map (·.hostname) = ["gamma"] ∧
      map₁.dnsRecords ≠ map₂.dnsRecords ∧
      ¬ st.VersionsDetect Set.univ ∧ ¬ st.SkipsUnchanged Set.univ := by
  have hrun : (run (ControlState.step server) (.start .empty 100) renameEvents).any (fun st =>
      (st.served 4).any fun map₁ => (st.served 6).any fun map₂ =>
        (map₁.selfDevice.deviceId = alpha.id ∧ map₂.selfDevice.deviceId = alpha.id) ∧
        map₁.networkMapVersion = map₂.networkMapVersion ∧
        map₁.peers.map (·.hostname) = ["beta"] ∧ map₂.peers.map (·.hostname) = ["gamma"] ∧
        map₁.dnsRecords ≠ map₂.dnsRecords ∧
        (Agent.applyEach alphaAgent [(succeeds, map₁)] .none).lastAppliedNetworkMapVersion =
          some map₂.networkMapVersion ∧
        (Agent.applyEach alphaAgent [(succeeds, map₁)] .none).lastApplied = some map₁) = true := by
    decide +kernel
  obtain ⟨st, hst, hserved⟩ := (Option.any_eq_true _ _).mp hrun
  obtain ⟨map₁, hmap₁, hserved⟩ := (Option.any_eq_true _ _).mp hserved
  obtain ⟨map₂, hmap₂, hfacts⟩ := (Option.any_eq_true _ _).mp hserved
  obtain ⟨⟨hid₁, hid₂⟩, hversion, hpeers₁, hpeers₂, hdns, hskip, happlied⟩ := of_decide_eq_true hfacts
  have hne : map₁.peers ≠ map₂.peers := by
    intro heq
    rw [heq, hpeers₂] at hpeers₁
    exact absurd hpeers₁ (by decide)
  refine ⟨st, map₁, map₂, hst, hmap₁, hmap₂, hid₁.trans hid₂.symm, hversion, hpeers₁, hpeers₂, hdns,
    fun hdetects => ?_, fun hskips => ?_⟩
  · exact hne (hdetects 4 trivial 6 trivial map₁ map₂ hmap₁ hmap₂ (hid₁.trans hid₂.symm) hversion).1
  · have hgiven : ∀ given ∈ [map₂, map₁],
        given.selfDevice.deviceId = alpha.id ∧ ∃ r ∈ Set.univ, st.served r = some given := by
      intro given hmem
      rcases List.mem_pair.mp hmem with rfl | rfl
      · exact ⟨hid₂, 6, trivial, hmap₂⟩
      · exact ⟨hid₁, 4, trivial, hmap₁⟩
    obtain ⟨applied, heq, hpeers, -⟩ := hskips alphaAgent alpha.id map₂ [(succeeds, map₁)] hgiven hskip
    rw [happlied] at heq
    exact hne (Option.some.inj heq ▸ hpeers)

end TfScale.Control
