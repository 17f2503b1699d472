/-
  TfScale.Control.Version

  What `network_map_version` measures: every live device, endpoint and DNS record
  contributes one plus the second of its stamp.

  The stamps of a reachable database never lie in the future, so a write that only
  moves stamps forward or adds rows never lowers the version, and leaves it alone
  exactly when it adds no row and every stamp it writes was already there.  For a
  heartbeat that repeats what is stored this means that the version stays only
  within the second of the previous one (`heartbeat_version_stable_iff`).
-/

import TfScale.Lib.Run
import TfScale.Control.Requests

namespace TfScale.Control

variable {S : Server} {db db' : Db} {clock : Nat → Timestamp} {fresh : Fresh} {p p' : Process}
variable {now now' : Timestamp}

-- ============================================================================
-- The version as a sum over the rows
-- ============================================================================

def DeviceRow.weight (d : DeviceRow) : Nat := if d.live then 1 + d.updatedAt else 0

def EndpointRow.weight (r : EndpointRow) : Nat := 1 + r.lastSeenAt

def DnsRecordRow.weight (r : DnsRecordRow) : Nat := 1 + r.updatedAt

/-- Counting the rows and summing a column, in one sum. -/
theorem length_add_total {ρ : Type} (column : ρ → Nat) (rows : List ρ) :
    rows.length + Table.total column rows = Table.total (fun r => 1 + column r) rows := by
  induction rows with
  | nil => rfl
  | cons r rows ih =>
      simp only [Table.total, List.map_cons, List.sum_cons, List.length_cons] at ih ⊢
      omega

theorem length_add_total_filter {ρ : Type} (q : ρ → Bool) (column : ρ → Nat) (rows : List ρ) :
    (rows.filter q).length + Table.total column (rows.filter q) =
      Table.total (fun r => if q r then 1 + column r else 0) rows := by
  rw [length_add_total]
  induction rows with
  | nil => rfl
  | cons r rows ih =>
      simp only [Table.total] at ih
      by_cases hq : q r = true
      · simp only [Table.total, List.filter_cons_of_pos hq, List.map_cons, List.sum_cons, ih, if_pos hq]
      · simp only [Table.total, List.filter_cons_of_neg hq, List.map_cons, List.sum_cons, ih, if_neg hq,
          Nat.zero_add]

theorem networkMapVersion_eq (db : Db) :
    db.networkMapVersion = Table.total DeviceRow.weight db.devices.rows +
      Table.total EndpointRow.weight db.endpoints.rows +
      Table.total DnsRecordRow.weight db.dnsRecords.rows := by
  have hdevices := length_add_total_filter DeviceRow.live DeviceRow.updatedAt db.devices.rows
  have hendpoints := length_add_total EndpointRow.lastSeenAt db.endpoints.rows
  have hdns := length_add_total DnsRecordRow.updatedAt db.dnsRecords.rows
  simp only [Db.networkMapVersion, VersionTerm.all, Db.versionTerm, List.map_cons, List.map_nil,
    List.sum_cons, List.sum_nil]
  show _ = Table.total (fun d : DeviceRow => if d.live then 1 + d.updatedAt else 0) _ +
    Table.total (fun r : EndpointRow => 1 + r.lastSeenAt) _ +
    Table.total (fun r : DnsRecordRow => 1 + r.updatedAt) _
  omega

-- ============================================================================
-- No stamp lies in the future
-- ============================================================================

structure Stamped (db : Db) (now : Timestamp) : Prop where
  devices : ∀ d ∈ db.devices.rows, d.updatedAt ≤ now
  endpoints : ∀ r ∈ db.endpoints.rows, r.lastSeenAt ≤ now
  dnsRecords : ∀ r ∈ db.dnsRecords.rows, r.updatedAt ≤ now

/-- The readings of a step that begins at `now` and ends at `now'`. -/
def Readings (clock : Nat → Timestamp) (now now' : Timestamp) : Prop :=
  ∀ i, now ≤ clock i ∧ clock i ≤ now'

theorem Readings.le (h : Readings clock now now') : now ≤ now' := (h 0).1.trans (h 0).2

theorem readings_clock (elapsed : Elapsed) (now : Timestamp) :
    Readings (elapsed.clock now) now (now + elapsed.total) :=
  fun i => ⟨elapsed.le_clock now i, elapsed.clock_le now i⟩

theorem Stamped.mono (h : Stamped db now) (hle : now ≤ now') : Stamped db now' where
  devices := fun d hd => (h.devices d hd).trans hle
  endpoints := fun r hr => (h.endpoints r hr).trans hle
  dnsRecords := fun r hr => (h.dnsRecords r hr).trans hle

theorem stamped_dnsUpsert {t : Timestamp} {uuid : Uuid} {networkId deviceId name ipv4 : String}
    {table : Table DnsRecordRow} (h : ∀ r ∈ db.dnsRecords.rows, r.updatedAt ≤ now') (ht : t ≤ now')
    (hupsert : db.dnsUpsert t uuid networkId deviceId name ipv4 = some table) :
    ∀ r ∈ table.rows, r.updatedAt ≤ now' :=
  Table.forall_upsert hupsert ht (fun _ _ _ => ht) h

/-- What every insert of a heartbeat keeps, the loop keeps. -/
theorem storeEndpoints_invariant (Inv : Db → Prop) {deviceId : String} {i : Nat}
    {es : List EndpointPayload}
    (hstep : ∀ i, ∀ e ∈ es, ∀ db db₁, Inv db →
      db.storeEndpoint S (clock i) deviceId e = .ok db₁ → Inv db₁)
    (hdb : Inv db) (h : Db.storeEndpoints S clock deviceId i es db = .ok db') : Inv db' := by
  induction es generalizing i db with
  | nil =>
      obtain rfl := Except.ok.inj h
      exact hdb
  | cons e es ih =>
      obtain ⟨db₁, hstore, h⟩ := Api.bind_eq_ok.mp h
      exact ih (fun i e he => hstep i e (List.mem_cons_of_mem _ he))
        (hstep i e List.mem_cons_self db db₁ hdb hstore) h

theorem Stamped.storeEndpoint {t : Timestamp} {deviceId : String} {e : EndpointPayload}
    (h : Stamped db now') (ht : t ≤ now') (hstore : db.storeEndpoint S t deviceId e = .ok db') :
    Stamped db' now' := by
  obtain ⟨endpoints, hupsert, rfl⟩ := Db.storeEndpoint_ok hstore
  exact ⟨h.devices, Table.forall_upsert hupsert ht (fun _ _ _ => ht) h.endpoints, h.dnsRecords⟩

theorem Commit.stamped (hcommit : Commit S clock fresh db p db') (h : Stamped db now)
    (hclock : Readings clock now now') : Stamped db' now' := by
  have h' := h.mono hclock.le
  cases hcommit with
  | createAuthKey hok =>
      obtain ⟨_, _, -, -, -, rfl⟩ := Db.createAuthKey_ok hok
      exact ⟨h'.devices, h'.endpoints, h'.dnsRecords⟩
  | register hok =>
      obtain ⟨devices, _, dnsRecords, _, hinsert, hupsert, -, rfl, -⟩ := Db.registerTx_ok hok
      refine ⟨fun d hd => ?_, h'.endpoints, stamped_dnsUpsert h'.dnsRecords (hclock 1).2 hupsert⟩
      rcases List.mem_append.mp ((Table.insert_eq_some.mp hinsert).2 ▸ hd) with hd | hd
      · exact h'.devices d hd
      · rw [List.mem_singleton.mp hd]
        exact (hclock 0).2
  | rename _ hok =>
      obtain ⟨_, _, _, -, -, hupsert, rfl⟩ := Db.renameTx_ok hok
      exact ⟨Table.forall_updated (fun _ _ _ => (hclock 0).2) h'.devices, h'.endpoints,
        stamped_dnsUpsert h'.dnsRecords (hclock 2).2 hupsert⟩
  | delete hok =>
      obtain rfl := Db.deleteTx_ok hok
      exact ⟨Table.forall_updated (fun _ _ _ => (hclock 0).2) h'.devices, h'.endpoints,
        fun r hr => h'.dnsRecords r (List.mem_filter.mp hr).1⟩
  | heartbeat hok =>
      refine storeEndpoints_invariant (Stamped · now')
        (fun i _ _ _ _ hinv hstore => hinv.storeEndpoint (hclock i).2 hstore) ?_ hok
      exact ⟨Table.forall_updated (fun _ _ _ => (hclock 0).2) h'.devices,
        fun r hr => h'.endpoints r (List.mem_filter.mp hr).1, h'.dnsRecords⟩

namespace ControlState

variable {st st' : ControlState}

/-- The stamps of the database are not ahead of the clock. -/
def InTime (st : ControlState) : Prop := Stamped st.db st.now

theorem InTime.step {e : Event} (h : st.InTime) (hstep : st.step S e = some st') : st'.InTime := by
  cases e with
  | tick seconds =>
      obtain rfl := Option.some.inj hstep
      exact Stamped.mono h (Nat.le_add_right _ _)
  | arrive request =>
      obtain rfl := Option.some.inj hstep
      exact h
  | advance r fresh elapsed =>
      obtain ⟨p, p', db', -, hnext, rfl⟩ := step_advance.mp hstep
      rcases Process.next_db hnext with rfl | hcommit
      · exact Stamped.mono h (Nat.le_add_right _ _)
      · exact hcommit.stamped h (readings_clock elapsed st.now)
  | abort r message =>
      obtain ⟨_, _, -, -, rfl⟩ := step_abort.mp hstep
      exact h

theorem inTime_start (now : Timestamp) : (start .empty now).InTime :=
  ⟨fun d hd => (by cases hd), fun r hr => (by cases hr), fun r hr => (by cases hr)⟩

/-- No stamp of a reachable database lies in the future. -/
theorem inTime_of_run {events : List Event} (h : run (step S) (start .empty now) events = some st) :
    st.InTime :=
  invariant_run (fun _ _ _ hinv hstep => hinv.step hstep) (inTime_start now) h

end ControlState

-- ============================================================================
-- How the statements of a heartbeat move the version
-- ============================================================================

theorem DeviceRow.weight_of_live {d : DeviceRow} (h : d.live = true) : d.weight = 1 + d.updatedAt :=
  if_pos h

section Touch

variable {deviceId : String} {f : DeviceRow → DeviceRow} {t : Timestamp}

/-- Stamping the row of a live device moves its weight to the stamp. -/
theorem weight_stamped (hf : ∀ d, (f d).updatedAt = t ∧ (f d).deletedAt = d.deletedAt) {d : DeviceRow}
    (h : Db.isLiveDevice deviceId d = true) : d.weight = 1 + d.updatedAt ∧ (f d).weight = 1 + t := by
  have hlive := (Db.isLiveDevice_iff.mp h).2
  have hlive' : (f d).live = true := by
    rw [DeviceRow.live, (hf d).2]
    exact hlive
  exact ⟨DeviceRow.weight_of_live hlive, (DeviceRow.weight_of_live hlive').trans (by rw [(hf d).1])⟩

theorem total_le_stamped (deviceId : String) (f : DeviceRow → DeviceRow)
    (hf : ∀ d, (f d).updatedAt = t ∧ (f d).deletedAt = d.deletedAt)
    {rows : List DeviceRow} (h : ∀ d ∈ rows, d.updatedAt ≤ t) :
    Table.total DeviceRow.weight rows ≤
      Table.total DeviceRow.weight (Table.updated rows (Db.isLiveDevice deviceId) f) := by
  refine Table.total_le_updated fun d hd hlive => ?_
  obtain ⟨hw, hw'⟩ := weight_stamped hf hlive
  rw [hw, hw']
  exact Nat.add_le_add_left (h d hd) 1

theorem total_lt_stamped (deviceId : String) (f : DeviceRow → DeviceRow)
    (hf : ∀ d, (f d).updatedAt = t ∧ (f d).deletedAt = d.deletedAt)
    {rows : List DeviceRow} (h : ∀ d ∈ rows, d.updatedAt ≤ t)
    (hlt : ∃ d ∈ rows, Db.isLiveDevice deviceId d = true ∧ d.updatedAt < t) :
    Table.total DeviceRow.weight rows <
      Table.total DeviceRow.weight (Table.updated rows (Db.isLiveDevice deviceId) f) := by
  obtain ⟨d, hd, hlive, hold⟩ := hlt
  refine Table.total_lt_updated (fun d hd hlive => ?_) ⟨d, hd, hlive, ?_⟩
  · obtain ⟨hw, hw'⟩ := weight_stamped hf hlive
    rw [hw, hw']
    exact Nat.add_le_add_left (h d hd) 1
  · obtain ⟨hw, hw'⟩ := weight_stamped hf hlive
    rw [hw, hw']
    exact Nat.add_lt_add_left hold 1

theorem total_stamped_eq_iff (deviceId : String) (f : DeviceRow → DeviceRow)
    (hf : ∀ d, (f d).updatedAt = t ∧ (f d).deletedAt = d.deletedAt)
    {rows : List DeviceRow} (h : ∀ d ∈ rows, d.updatedAt ≤ t) :
    Table.total DeviceRow.weight (Table.updated rows (Db.isLiveDevice deviceId) f) =
        Table.total DeviceRow.weight rows ↔
      ∀ d ∈ rows, Db.isLiveDevice deviceId d = true → d.updatedAt = t := by
  rw [Table.total_updated_eq_iff fun d hd hlive => ?_]
  · refine forall₃_congr fun d hd hlive => ?_
    obtain ⟨hw, hw'⟩ := weight_stamped hf hlive
    rw [hw, hw', Nat.add_left_cancel_iff]
    exact eq_comm
  · obtain ⟨hw, hw'⟩ := weight_stamped hf hlive
    rw [hw, hw']
    exact Nat.add_le_add_left (h d hd) 1

end Touch

section Store

variable {deviceId : String} {t : Timestamp} {e : EndpointPayload}

/-- The id under which an endpoint of a device is stored. -/
def reportedId (S : Server) (deviceId : String) (e : EndpointPayload) : String :=
  endpointId S deviceId e (Db.endpointSource e)

theorem storeEndpoint_total_le (h : ∀ r ∈ db.endpoints.rows, r.lastSeenAt ≤ t)
    (hstore : db.storeEndpoint S t deviceId e = .ok db') :
    Table.total EndpointRow.weight db.endpoints.rows ≤
      Table.total EndpointRow.weight db'.endpoints.rows := by
  obtain ⟨endpoints, hupsert, rfl⟩ := Db.storeEndpoint_ok hstore
  exact Table.total_le_upsert hupsert fun r hr _ => Nat.add_le_add_left (h r hr) 1

/-- A report of an endpoint that was not seen in this second raises the sum. -/
theorem storeEndpoint_total_lt
    (hold : ∀ r ∈ db.endpoints.rows, r.id = reportedId S deviceId e → r.lastSeenAt < t)
    (hstore : db.storeEndpoint S t deviceId e = .ok db') :
    Table.total EndpointRow.weight db.endpoints.rows <
      Table.total EndpointRow.weight db'.endpoints.rows := by
  obtain ⟨endpoints, hupsert, rfl⟩ := Db.storeEndpoint_ok hstore
  have hweight : (Db.reportedRow S t deviceId e).weight = 1 + t := rfl
  exact Table.total_lt_upsert hupsert
    (fun r hr hid => Nat.add_lt_add_left (hold r hr (beq_iff_eq.mp hid)) 1) (by omega)

/-- The columns of an endpoint that a repeated report leaves as they are. -/
def EndpointRow.identity (r : EndpointRow) : EndpointRow :=
  { r with priority := none, expiresAt := none, lastSeenAt := 0 }

theorem storeEndpoint_of_stored (hstored : ∃ r ∈ db.endpoints.rows, r.id = reportedId S deviceId e)
    (hstore : db.storeEndpoint S t deviceId e = .ok db') :
    db'.endpoints.rows = Table.updated db.endpoints.rows (fun r => r.id == reportedId S deviceId e)
      (Db.renewRow (Db.reportedRow S t deviceId e)) := by
  obtain ⟨endpoints, hupsert, rfl⟩ := Db.storeEndpoint_ok hstore
  obtain ⟨r, hr, hid⟩ := hstored
  exact Table.upsert_of_target hupsert hr (beq_iff_eq.mpr hid)

theorem endpoint_unique {r r' : EndpointRow} (hr : r ∈ db.endpoints.rows)
    (hr' : r' ∈ db.endpoints.rows) (h : r.id = r'.id) : r = r' :=
  Table.eq_of_clash hr hr' (beq_iff_eq.mpr h)

/-- The endpoint is stored under its id, as reported but for its priority, expiry
    and stamp. -/
def StoredAs (S : Server) (db : Db) (deviceId : String) (e : EndpointPayload) : Prop :=
  ∃ r ∈ db.endpoints.rows, r.identity = (Db.reportedRow S 0 deviceId e).identity

theorem StoredAs.id (h : StoredAs S db deviceId e) :
    ∃ r ∈ db.endpoints.rows, r.id = reportedId S deviceId e := by
  obtain ⟨r, hr, heq⟩ := h
  have hid := congrArg EndpointRow.id heq
  exact ⟨r, hr, hid⟩

/-- Repeating a report changes the identity of no row. -/
theorem storeEndpoint_identity (hstored : StoredAs S db deviceId e)
    (hstore : db.storeEndpoint S t deviceId e = .ok db') :
    db'.endpoints.rows.map EndpointRow.identity = db.endpoints.rows.map EndpointRow.identity := by
  obtain ⟨r₀, hr₀, heq⟩ := hstored
  have hid₀ : r₀.id = reportedId S deviceId e := congrArg EndpointRow.id heq
  rw [storeEndpoint_of_stored ⟨r₀, hr₀, hid₀⟩ hstore]
  refine Table.map_updated _ fun r hr hid => ?_
  obtain rfl := endpoint_unique hr hr₀ ((beq_iff_eq.mp hid).trans hid₀.symm)
  -- the row is the reported one but for the columns that `identity` blanks
  rw [heq]
  show { (Db.reportedRow S 0 deviceId e).identity with id := r.id, deviceId := r.deviceId } = _
  rw [hid₀, show r.deviceId = deviceId from congrArg EndpointRow.deviceId heq]
  rfl

theorem StoredAs.congr {db₁ : Db} (h : StoredAs S db deviceId e)
    (hrows : db₁.endpoints.rows.map EndpointRow.identity =
      db.endpoints.rows.map EndpointRow.identity) : StoredAs S db₁ deviceId e := by
  obtain ⟨r, hr, heq⟩ := h
  have hmem : r.identity ∈ db₁.endpoints.rows.map EndpointRow.identity :=
    hrows ▸ List.mem_map_of_mem hr
  obtain ⟨r₁, hr₁, heq₁⟩ := List.mem_map.mp hmem
  exact ⟨r₁, hr₁, heq₁.trans heq⟩

theorem storeEndpoint_total_eq_iff (h : ∀ r ∈ db.endpoints.rows, r.lastSeenAt ≤ t)
    (hstored : ∃ r ∈ db.endpoints.rows, r.id = reportedId S deviceId e)
    (hstore : db.storeEndpoint S t deviceId e = .ok db') :
    Table.total EndpointRow.weight db'.endpoints.rows =
        Table.total EndpointRow.weight db.endpoints.rows ↔
      ∀ r ∈ db.endpoints.rows, r.id = reportedId S deviceId e → r.lastSeenAt = t := by
  rw [storeEndpoint_of_stored hstored hstore,
    Table.total_updated_eq_iff fun r hr _ => Nat.add_le_add_left (h r hr) 1]
  refine forall₂_congr fun r hr => ?_
  rw [beq_iff_eq]
  refine imp_congr_right fun _ => ?_
  show 1 + t = 1 + r.lastSeenAt ↔ _
  rw [Nat.add_left_cancel_iff]
  exact eq_comm

end Store

section Loop

variable {deviceId : String} {es : List EndpointPayload} {i : Nat}

/-- Nothing that a loop of repeated reports does changes the identity of a row. -/
theorem storeEndpoints_identity (hstored : ∀ e ∈ es, StoredAs S db deviceId e)
    (h : Db.storeEndpoints S clock deviceId i es db = .ok db') :
    db'.endpoints.rows.map EndpointRow.identity = db.endpoints.rows.map EndpointRow.identity := by
  induction es generalizing i db with
  | nil =>
      obtain rfl := Except.ok.inj h
      rfl
  | cons e es ih =>
      obtain ⟨db₁, hstore, h⟩ := Api.bind_eq_ok.mp h
      have hsame := storeEndpoint_identity (hstored e List.mem_cons_self) hstore
      have hrest := ih (fun e' he' => (hstored e' (List.mem_cons_of_mem _ he')).congr hsame) h
      exact hrest.trans hsame

theorem storeEndpoints_total_le (hmono : Monotone clock)
    (hstamp : ∀ r ∈ db.endpoints.rows, r.lastSeenAt ≤ clock i)
    (h : Db.storeEndpoints S clock deviceId i es db = .ok db') :
    Table.total EndpointRow.weight db.endpoints.rows ≤
      Table.total EndpointRow.weight db'.endpoints.rows := by
  induction es generalizing i db with
  | nil =>
      obtain rfl := Except.ok.inj h
      exact le_rfl
  | cons e es ih =>
      obtain ⟨db₁, hstore, h⟩ := Api.bind_eq_ok.mp h
      obtain ⟨endpoints, hupsert, rfl⟩ := Db.storeEndpoint_ok hstore
      have hstamp₁ : ∀ r ∈ endpoints.rows, r.lastSeenAt ≤ clock i :=
        Table.forall_upsert hupsert le_rfl (fun _ _ _ => le_rfl) hstamp
      exact (storeEndpoint_total_le hstamp hstore).trans
        (ih (fun r hr => (hstamp₁ r hr).trans (hmono (Nat.le_succ i))) h)

/-- A report that finds its row already stamped leaves every stamp as it is. -/
theorem storeEndpoint_stamps {t : Timestamp} {e : EndpointPayload}
    (hstored : ∃ r ∈ db.endpoints.rows, r.id = reportedId S deviceId e)
    (hstamps : ∀ r ∈ db.endpoints.rows, r.id = reportedId S deviceId e → r.lastSeenAt = t)
    (hstore : db.storeEndpoint S t deviceId e = .ok db') (t' : Timestamp) (e' : EndpointPayload) :
    (∀ r ∈ db'.endpoints.rows, r.id = reportedId S deviceId e' → r.lastSeenAt = t') ↔
      ∀ r ∈ db.endpoints.rows, r.id = reportedId S deviceId e' → r.lastSeenAt = t' := by
  have hpairs : db'.endpoints.rows.map (fun r => (r.id, r.lastSeenAt)) =
      db.endpoints.rows.map fun r => (r.id, r.lastSeenAt) := by
    rw [storeEndpoint_of_stored hstored hstore]
    refine Table.map_updated _ fun r hr hid => ?_
    rw [hstamps r hr (beq_iff_eq.mp hid)]
    rfl
  have hlist : ∀ rows : List EndpointRow,
      (∀ r ∈ rows, r.id = reportedId S deviceId e' → r.lastSeenAt = t') ↔
        ∀ x ∈ rows.map (fun r => (r.id, r.lastSeenAt)), x.1 = reportedId S deviceId e' → x.2 = t' :=
    fun rows => by rw [List.forall_mem_map]
  rw [hlist, hlist, hpairs]

/-- A loop of repeated reports leaves the sum alone exactly when every row it
    writes already has the stamp. -/
theorem storeEndpoints_total_eq_iff (hmono : Monotone clock)
    (hstamp : ∀ r ∈ db.endpoints.rows, r.lastSeenAt ≤ clock i)
    (hstored : ∀ e ∈ es, StoredAs S db deviceId e)
    (h : Db.storeEndpoints S clock deviceId i es db = .ok db') :
    Table.total EndpointRow.weight db'.endpoints.rows =
        Table.total EndpointRow.weight db.endpoints.rows ↔
      ∀ j e, es[j]? = some e → ∀ r ∈ db.endpoints.rows, r.id = reportedId S deviceId e →
        r.lastSeenAt = clock (i + j) := by
  induction es generalizing i db with
  | nil =>
      obtain rfl := Except.ok.inj h
      exact ⟨fun _ j e hj => (by cases hj), fun _ => rfl⟩
  | cons e es ih =>
      obtain ⟨db₁, hstore, h⟩ := Api.bind_eq_ok.mp h
      have hhead := hstored e List.mem_cons_self
      have hrows := storeEndpoint_of_stored hhead.id hstore
      have hsame := storeEndpoint_identity hhead hstore
      have hstamp₁ : ∀ r ∈ db₁.endpoints.rows, r.lastSeenAt ≤ clock (i + 1) := by
        rw [hrows]
        exact Table.forall_updated (fun _ _ _ => hmono (Nat.le_succ i))
          fun r hr => (hstamp r hr).trans (hmono (Nat.le_succ i))
      have hrest := ih hstamp₁
        (fun e' he' => (hstored e' (List.mem_cons_of_mem _ he')).congr hsame) h
      have hle := storeEndpoint_total_le hstamp hstore
      have hle' := storeEndpoints_total_le hmono hstamp₁ h
      have hone := storeEndpoint_total_eq_iff hstamp hhead.id hstore
      -- when the first report leaves the sum alone, it leaves every stamp alone
      have hkept := fun hstamps j e' => storeEndpoint_stamps hhead.id hstamps hstore (clock (i + 1 + j)) e'
      refine ⟨fun heq => ?_, fun hall => ?_⟩
      · have hstamps := hone.mp (le_antisymm (heq ▸ hle') hle)
        have hothers := hrest.mp (le_antisymm (heq ▸ hle) hle')
        intro j e' hj
        cases j with
        | zero =>
            obtain rfl := Option.some.inj hj
            exact hstamps
        | succ j =>
            rw [Nat.add_comm j 1, ← Nat.add_assoc]
            exact (hkept hstamps j e').mp (hothers j e' hj)
      · have hstamps := hall 0 e rfl
        have hothers : ∀ j e', es[j]? = some e' → ∀ r ∈ db₁.endpoints.rows,
            r.id = reportedId S deviceId e' → r.lastSeenAt = clock (i + 1 + j) := by
          intro j e' hj
          apply (hkept hstamps j e').mpr
          rw [Nat.add_assoc, Nat.add_comm 1 j]
          exact hall (j + 1) e' hj
        exact (hrest.mpr hothers).trans (hone.mpr hstamps)

end Loop

-- ============================================================================
-- Endpoints are stored under their ids
-- ============================================================================

/-- The form of a device id: `dev_` and 32 hex digits. -/
def HasIdForm (deviceId : String) : Prop := (strBytes deviceId).length = 36

theorem hasIdForm_newDevice (t : Timestamp) (fresh : Fresh) (request : RegisterDeviceRequest)
    (hostname ipv4 : String) : HasIdForm (Db.newDevice t fresh request hostname ipv4).id := by
  have hlength := Text.hexEncode_length fresh.device.val
  have hdev : (strBytes "dev_").length = 4 := by decide
  show (strBytes ("dev_" ++ Text.hexEncode fresh.device.val)).length = 36
  rw [strBytes_append, List.length_append, hlength, fresh.device.property, hdev]

/-- An endpoint id tells which device reported the endpoint. -/
theorem endpointId_owner (hS : S.Lawful) {a b : String} {e e' : EndpointPayload} {source source' : String}
    (ha : HasIdForm a) (hb : HasIdForm b) (h : endpointId S a e source = endpointId S b e' source') :
    a = b := by
  have hhash : S.sha256Hex (endpointKey a e.kind e.address e.port e.protocol source) =
      S.sha256Hex (endpointKey b e'.kind e'.address e'.port e'.protocol source') := by
    have hbytes := congrArg strBytes h
    rw [endpointId, endpointId, strBytes_append, strBytes_append, List.append_cancel_left_eq] at hbytes
    exact strBytes_injective hbytes
  have hkey := hS.sha256_injective hhash
  simp only [endpointKey, List.append_assoc] at hkey
  exact strBytes_injective (List.append_inj_left hkey (ha.trans hb.symm))

/-- The row is stored under the id of its own fields. -/
structure Keyed (S : Server) (r : EndpointRow) : Prop where
  owner : HasIdForm r.deviceId
  source : r.source = some (Db.endpointSource r.payload)
  id : r.id = reportedId S r.deviceId r.payload

theorem keyed_reportedRow {t : Timestamp} {deviceId : String} {e : EndpointPayload}
    (h : HasIdForm deviceId) : Keyed S (Db.reportedRow S t deviceId e) :=
  ⟨h, rfl, rfl⟩

theorem Keyed.renewRow (hS : S.Lawful) {t : Timestamp} {deviceId : String} {e : EndpointPayload}
    {r : EndpointRow} (h : Keyed S r) (hdevice : HasIdForm deviceId)
    (hid : r.id = reportedId S deviceId e) :
    Keyed S (Db.renewRow (Db.reportedRow S t deviceId e) r) := by
  have howner : r.deviceId = deviceId := endpointId_owner hS h.owner hdevice (h.id.symm.trans hid)
  refine ⟨h.owner, rfl, ?_⟩
  show r.id = reportedId S r.deviceId (Db.reportedRow S t deviceId e).payload
  rw [howner]
  exact hid

/-- A row that reports `e` is the row under the id of `e`. -/
def EndpointRow.Reports (r : EndpointRow) (deviceId : String) (e : EndpointPayload) : Prop :=
  r.deviceId = deviceId ∧ r.kind = e.kind ∧ r.address = e.address ∧ r.port = e.port ∧
    r.protocol = e.protocol ∧ r.source = some (Db.endpointSource e)

instance (r : EndpointRow) (deviceId : String) (e : EndpointPayload) :
    Decidable (r.Reports deviceId e) :=
  inferInstanceAs (Decidable (_ ∧ _))

theorem Keyed.id_of_reports {r : EndpointRow} {deviceId : String} {e : EndpointPayload}
    (h : Keyed S r) (hr : r.Reports deviceId e) : r.id = reportedId S deviceId e := by
  obtain ⟨rfl, hkind, haddress, hport, hprotocol, hsource⟩ := hr
  have hsame : Db.endpointSource r.payload = Db.endpointSource e :=
    Option.some.inj (h.source.symm.trans hsource)
  rw [h.id, reportedId, hsame, reportedId]
  simp only [endpointId, EndpointRow.payload, hkind, haddress, hport, hprotocol]

theorem Keyed.identity {r : EndpointRow} {deviceId : String} {e : EndpointPayload} (h : Keyed S r)
    (hr : r.Reports deviceId e) : r.identity = (Db.reportedRow S 0 deviceId e).identity := by
  have hid := h.id_of_reports hr
  obtain ⟨rfl, hkind, haddress, hport, hprotocol, hsource⟩ := hr
  simp only [EndpointRow.identity, Db.reportedRow]
  rw [hid, hkind, haddress, hport, hprotocol, hsource]
  rfl

theorem Commit.hasIdForm (hcommit : Commit S clock fresh db p db')
    (h : ∀ d ∈ db.devices.rows, HasIdForm d.id) : ∀ d ∈ db'.devices.rows, HasIdForm d.id := by
  cases hcommit with
  | createAuthKey hok =>
      obtain ⟨_, _, -, -, -, rfl⟩ := Db.createAuthKey_ok hok
      exact h
  | register hok =>
      obtain ⟨devices, _, _, _, hinsert, -, -, rfl, -⟩ := Db.registerTx_ok hok
      intro d hd
      rcases List.mem_append.mp ((Table.insert_eq_some.mp hinsert).2 ▸ hd) with hd | hd
      · exact h d hd
      · rw [List.mem_singleton.mp hd]
        exact hasIdForm_newDevice _ _ _ _ _
  | rename _ hok =>
      obtain ⟨_, _, _, -, -, -, rfl⟩ := Db.renameTx_ok hok
      exact Table.forall_updated (fun d hd _ => h d hd) h
  | delete hok =>
      obtain rfl := Db.deleteTx_ok hok
      exact Table.forall_updated (fun d hd _ => h d hd) h
  | heartbeat hok =>
      obtain ⟨_, rfl⟩ := Db.storeEndpoints_ok hok
      exact Table.forall_updated (fun d hd _ => h d hd) h

theorem keyed_storeEndpoint (hS : S.Lawful) {t : Timestamp} {deviceId : String} {e : EndpointPayload}
    (hdevice : HasIdForm deviceId) (h : ∀ r ∈ db.endpoints.rows, Keyed S r)
    (hstore : db.storeEndpoint S t deviceId e = .ok db') : ∀ r ∈ db'.endpoints.rows, Keyed S r := by
  obtain ⟨endpoints, hupsert, rfl⟩ := Db.storeEndpoint_ok hstore
  exact Table.forall_upsert hupsert (keyed_reportedRow hdevice)
    (fun r hr hid => (h r hr).renewRow hS hdevice (beq_iff_eq.mp hid)) h

theorem Commit.keyed (hS : S.Lawful) (hcommit : Commit S clock fresh db p db')
    (hheartbeat : ∀ request, p = .heartbeatValidated request → HasIdForm request.deviceId)
    (h : ∀ r ∈ db.endpoints.rows, Keyed S r) : ∀ r ∈ db'.endpoints.rows, Keyed S r := by
  cases hcommit with
  | createAuthKey hok =>
      obtain ⟨_, _, -, -, -, rfl⟩ := Db.createAuthKey_ok hok
      exact h
  | register hok =>
      obtain ⟨_, _, _, _, -, -, -, rfl, -⟩ := Db.registerTx_ok hok
      exact h
  | rename _ hok =>
      obtain ⟨_, _, _, -, -, -, rfl⟩ := Db.renameTx_ok hok
      exact h
  | delete hok =>
      obtain rfl := Db.deleteTx_ok hok
      exact h
  | heartbeat hok =>
      have hdevice := hheartbeat _ rfl
      refine storeEndpoints_invariant (fun db => ∀ r ∈ db.endpoints.rows, Keyed S r)
        (fun i e _ db₁ db₂ hinv hstore => keyed_storeEndpoint hS hdevice hinv hstore)
        (fun r hr => h r (List.mem_filter.mp hr).1) hok

namespace ControlState

variable {st st' : ControlState}

structure KeyedState (S : Server) (st : ControlState) : Prop where
  devices : ∀ d ∈ st.db.devices.rows, HasIdForm d.id
  endpoints : ∀ r ∈ st.db.endpoints.rows, Keyed S r
  heartbeats : ∀ request, .heartbeatValidated request ∈ st.requests → HasIdForm request.deviceId

/-- A heartbeat is let through for the id of a device only. -/
theorem hasIdForm_of_validated {deviceId nodeKey : String}
    (h : ∀ d ∈ db.devices.rows, HasIdForm d.id)
    (hvalid : db.validateDeviceNodeKey deviceId nodeKey = .ok ()) : HasIdForm deviceId := by
  unfold Db.validateDeviceNodeKey at hvalid
  split at hvalid
  · rename_i hany
    obtain ⟨d, hd, hmatch⟩ := List.any_eq_true.mp hany
    simp only [Bool.and_eq_true, beq_iff_eq] at hmatch
    exact hmatch.1.1 ▸ h d hd
  · cases hvalid

theorem next_heartbeatValidated {request : HeartbeatRequest}
    (h : p.next S db clock fresh = some (.heartbeatValidated request, db')) :
    db.validateDeviceNodeKey request.deviceId request.nodeKey = .ok () := by
  have hhandler : p.handler = .heartbeat := (Process.next_handler h).symm
  cases p with
  | done reply => cases h
  | heartbeatReceived request' =>
      simp only [Process.next] at h
      split at h
      · cases h
      · rename_i hvalid
        obtain ⟨heq, -⟩ := Prod.mk.inj (Option.some.inj h)
        obtain rfl := Process.heartbeatValidated.inj heq
        exact hvalid
  | heartbeatValidated request' =>
      have hnext := congrArg Prod.fst (Option.some.inj h)
      unfold Process.heartbeatUpdate at hnext
      split at hnext <;> cases hnext
  | heartbeatVersion pending sum =>
      obtain ⟨hnext, -⟩ := Prod.mk.inj (Option.some.inj h)
      unfold Process.heartbeatRead at hnext
      split at hnext <;> cases hnext
  | _ => cases hhandler

theorem KeyedState.step {e : Event} (hS : S.Lawful) (h : KeyedState S st)
    (hstep : st.step S e = some st') : KeyedState S st' := by
  have hheartbeats : ∀ request, .heartbeatValidated request ∈ st'.requests →
      HasIdForm request.deviceId := by
    intro request hmem
    rcases mem_requests_of_step hstep hmem with
      hold | ⟨request', hstart⟩ | ⟨_, _, _, -, hdone⟩ | ⟨_, _, _, -, hnext⟩
    · exact h.heartbeats request hold
    · cases request' <;> cases hstart
    · cases hdone
    · exact hasIdForm_of_validated h.devices (next_heartbeatValidated hnext)
  rcases step_db hstep with hsame | ⟨_, p, _, _, _, -, hp, -, hcommit⟩
  · exact ⟨hsame ▸ h.devices, hsame ▸ h.endpoints, hheartbeats⟩
  · refine ⟨hcommit.hasIdForm h.devices, hcommit.keyed hS (fun request heq => ?_) h.endpoints,
      hheartbeats⟩
    exact h.heartbeats request (heq ▸ List.mem_of_getElem? hp)

/-- In every reachable state the endpoints are stored under the ids of their fields. -/
theorem keyedState_of_run (hS : S.Lawful) {events : List Event}
    (h : run (step S) (start .empty now) events = some st) : KeyedState S st := by
  have hstart : KeyedState S (start .empty now) :=
    ⟨fun d hd => (by cases hd), fun r hr => (by cases hr), fun request hmem => (by cases hmem)⟩
  exact invariant_run (fun _ _ _ hinv hstep => hinv.step hS hstep) hstart h

end ControlState

-- ============================================================================
-- Heartbeats that repeat what is stored
-- ============================================================================

/-- A heartbeat cannot fail in its transaction. -/
theorem exists_storeEndpoints (deviceId : String) (i : Nat) (es : List EndpointPayload) (db : Db) :
    ∃ db', Db.storeEndpoints S clock deviceId i es db = .ok db' := by
  induction es generalizing i db with
  | nil => exact ⟨db, rfl⟩
  | cons e es ih =>
      have hkeys : Table.KeepsKeys (Db.renewRow (Db.reportedRow S (clock i) deviceId e)) :=
        fun _ _ => rfl
      have hstored : ∃ endpoints, db.endpoints.upsert
          (fun r => r.id == (Db.reportedRow S (clock i) deviceId e).id)
          (Db.reportedRow S (clock i) deviceId e)
          (Db.renewRow (Db.reportedRow S (clock i) deviceId e)) = some endpoints :=
        Table.exists_upsert _ _ hkeys fun _ hclash => hclash
      obtain ⟨endpoints, hupsert⟩ := hstored
      obtain ⟨db', hrest⟩ := ih (i + 1) { db with endpoints }
      refine ⟨db', ?_⟩
      simp only [Db.storeEndpoints, Db.storeEndpoint, hupsert]
      exact hrest

/-- What a heartbeat writes, when nothing of the device has expired. -/
theorem heartbeatTx_devices {request : HeartbeatRequest}
    (h : db.heartbeatTx S clock request = .ok db') :
    db'.devices = (db.touchDevice (clock 0) request.deviceId).devices ∧
      db'.dnsRecords = db.dnsRecords := by
  obtain ⟨_, rfl⟩ := Db.storeEndpoints_ok h
  exact ⟨rfl, rfl⟩

theorem pruneEndpoints_rows {deviceId : String} {t : Timestamp}
    (h : ∀ r ∈ db.endpoints.rows, r.deviceId = deviceId → expired t r.expiresAt = false) :
    (db.pruneEndpoints t deviceId).endpoints.rows = db.endpoints.rows := by
  refine List.filter_eq_self.mpr fun r hr => ?_
  show (!(r.deviceId == deviceId && expired t r.expiresAt)) = true
  by_cases hdevice : r.deviceId = deviceId
  · rw [h r hr hdevice, Bool.and_false]
    rfl
  · rw [beq_eq_false_iff_ne.mpr hdevice]
    rfl

theorem touchDevice_total_eq_iff {deviceId : String} {t : Timestamp}
    (h : ∀ d ∈ db.devices.rows, d.updatedAt ≤ t) :
    Table.total DeviceRow.weight (db.touchDevice t deviceId).devices.rows =
        Table.total DeviceRow.weight db.devices.rows ↔
      ∀ d ∈ db.devices.rows, Db.isLiveDevice deviceId d = true → d.updatedAt = t :=
  total_stamped_eq_iff deviceId (fun d => { d with lastSeenAt := some t, updatedAt := t })
    (fun _ => ⟨rfl, rfl⟩) h

theorem touchDevice_total_le (deviceId : String) {t : Timestamp}
    (h : ∀ d ∈ db.devices.rows, d.updatedAt ≤ t) :
    Table.total DeviceRow.weight db.devices.rows ≤
      Table.total DeviceRow.weight (db.touchDevice t deviceId).devices.rows :=
  total_le_stamped deviceId (fun d => { d with lastSeenAt := some t, updatedAt := t })
    (fun _ => ⟨rfl, rfl⟩) h

section Heartbeat

variable {request : HeartbeatRequest}

/-- The endpoints from which the loop of a heartbeat starts, when nothing of the
    device has expired. -/
theorem loop_start_rows (h : ∀ r ∈ db.endpoints.rows, r.deviceId = request.deviceId →
      expired (clock 1) r.expiresAt = false) :
    ((db.touchDevice (clock 0) request.deviceId).pruneEndpoints (clock 1)
      request.deviceId).endpoints.rows = db.endpoints.rows :=
  pruneEndpoints_rows h

theorem heartbeatTx_identity (hunexpired : ∀ r ∈ db.endpoints.rows, r.deviceId = request.deviceId →
      expired (clock 1) r.expiresAt = false)
    (hstored : ∀ e ∈ request.endpoints, StoredAs S db request.deviceId e)
    (hok : db.heartbeatTx S clock request = .ok db') :
    db'.endpoints.rows.map EndpointRow.identity = db.endpoints.rows.map EndpointRow.identity := by
  have hrows := loop_start_rows hunexpired
  rw [← hrows]
  exact storeEndpoints_identity (fun e he => (hstored e he).congr (congrArg _ hrows)) hok

/-- A heartbeat that repeats what is stored leaves the version alone exactly when
    every stamp it writes was already there. -/
theorem heartbeatTx_version_eq_iff (hmono : Monotone clock) (hstamp : Stamped db (clock 0))
    (hunexpired : ∀ r ∈ db.endpoints.rows, r.deviceId = request.deviceId →
      expired (clock 1) r.expiresAt = false)
    (hstored : ∀ e ∈ request.endpoints, StoredAs S db request.deviceId e)
    (hok : db.heartbeatTx S clock request = .ok db') :
    db'.networkMapVersion = db.networkMapVersion ↔
      (∀ d ∈ db.devices.rows, Db.isLiveDevice request.deviceId d = true → d.updatedAt = clock 0) ∧
        ∀ i e, request.endpoints[i]? = some e → ∀ r ∈ db.endpoints.rows,
          r.id = reportedId S request.deviceId e → r.lastSeenAt = clock (2 + i) := by
  have hrows := loop_start_rows hunexpired
  obtain ⟨hdevices, hdns⟩ := heartbeatTx_devices hok
  have hlast : ∀ r ∈ ((db.touchDevice (clock 0) request.deviceId).pruneEndpoints (clock 1)
      request.deviceId).endpoints.rows, r.lastSeenAt ≤ clock 2 := by
    rw [hrows]
    exact fun r hr => (hstamp.endpoints r hr).trans (hmono (Nat.zero_le 2))
  have hendpointsLe := storeEndpoints_total_le hmono hlast hok
  have hendpointsIff := storeEndpoints_total_eq_iff hmono hlast
    (fun e he => (hstored e he).congr (congrArg _ hrows)) hok
  rw [hrows] at hendpointsLe hendpointsIff
  have hdevicesLe := touchDevice_total_le request.deviceId hstamp.devices
  rw [← touchDevice_total_eq_iff hstamp.devices, ← hendpointsIff, networkMapVersion_eq,
    networkMapVersion_eq, hdevices, hdns]
  omega

end Heartbeat

/-- What the other devices are told of a device and its endpoints. -/
def servedDevices (db : Db) : List (PeerRow × Bool) :=
  db.devices.rows.map fun d =>
    (⟨d.id, d.hostname, d.ipv4, d.backendType, d.backendPublicCredential⟩, d.live)

def servedEndpoints (db : Db) : List (String × String × String × UInt16 × String) :=
  db.endpoints.rows.map fun r => (r.deviceId, r.kind, r.address, r.port, r.protocol)

open ControlState in
/-- **Heartbeats and the version.**  In every reachable state, a heartbeat of a live
    device that repeats endpoints already stored for it, none of its endpoints being
    expired, changes nothing that the other devices are told; and it leaves the
    version unchanged exactly when the device's row and the row of each repeated
    endpoint already carry the second in which they are written. -/
theorem heartbeat_version_stable_iff (hS : S.Lawful) {events : List Event} {st : ControlState}
    (hrun : run (step S) (start .empty now) events = some st) {d : DeviceRow}
    (hd : d ∈ st.db.devices.rows) (hlive : d.live = true) (request : HeartbeatRequest)
    (hdevice : request.deviceId = d.id) (elapsed : Elapsed)
    (hstored : ∀ e ∈ request.endpoints, ∃ r ∈ st.db.endpoints.rows, r.Reports d.id e)
    (hunexpired : ∀ r ∈ st.db.endpoints.rows, r.deviceId = d.id →
      expired (elapsed.clock st.now 1) r.expiresAt = false) :
    ∃ db', st.db.heartbeatTx S (elapsed.clock st.now) request = .ok db' ∧
      (servedDevices db' = servedDevices st.db ∧ servedEndpoints db' = servedEndpoints st.db ∧
        db'.dnsRecords = st.db.dnsRecords) ∧
      (db'.networkMapVersion = st.db.networkMapVersion ↔
        d.updatedAt = elapsed.clock st.now 0 ∧
          ∀ i e, request.endpoints[i]? = some e → ∀ r ∈ st.db.endpoints.rows, r.Reports d.id e →
            r.lastSeenAt = elapsed.clock st.now (2 + i)) := by
  have hkeyed := keyedState_of_run hS hrun
  have hstamp := (inTime_of_run hrun).mono (elapsed.le_clock st.now 0)
  obtain ⟨db', hok⟩ : ∃ db', st.db.heartbeatTx S (elapsed.clock st.now) request = .ok db' :=
    exists_storeEndpoints _ _ _ _
  rw [← hdevice] at hunexpired
  have hstoredAs : ∀ e ∈ request.endpoints, StoredAs S st.db request.deviceId e := by
    intro e he
    obtain ⟨r, hr, hreports⟩ := hstored e he
    exact ⟨r, hr, (hkeyed.endpoints r hr).identity (hdevice ▸ hreports)⟩
  refine ⟨db', hok, ⟨?_, ?_, (heartbeatTx_devices hok).2⟩, ?_⟩
  · rw [servedDevices, (heartbeatTx_devices hok).1]
    exact Table.map_updated _ fun _ _ _ => rfl
  · have hserved := congrArg
      (List.map fun r : EndpointRow => (r.deviceId, r.kind, r.address, r.port, r.protocol))
      (heartbeatTx_identity hunexpired hstoredAs hok)
    rw [List.map_map, List.map_map] at hserved
    exact hserved
  · rw [heartbeatTx_version_eq_iff (elapsed.clock_mono st.now) hstamp hunexpired hstoredAs hok]
    refine and_congr ⟨fun h => h d hd ?_, fun h d' hd' hlive' => ?_⟩
      (forall₃_congr fun i e he => forall₂_congr fun r hr => imp_congr_left ⟨fun hid => ?_, fun hr' => ?_⟩)
    · exact Db.isLiveDevice_iff.mpr ⟨hdevice.symm, hlive⟩
    · rw [Db.isLiveDevice_iff, hdevice] at hlive'
      rw [device_unique hd' hd hlive'.1]
      exact h
    · -- the row under the id of `e` is the stored one
      obtain ⟨r₀, hr₀, hreports⟩ := hstored e (List.mem_of_getElem? he)
      have hid₀ := congrArg EndpointRow.id ((hkeyed.endpoints r₀ hr₀).identity (hdevice ▸ hreports))
      rw [endpoint_unique hr hr₀ (hid.trans hid₀.symm)]
      exact hreports
    · exact congrArg EndpointRow.id ((hkeyed.endpoints r hr).identity (hdevice ▸ hr'))

namespace Reference

/-- The device that request `1` registers, at second `100`. -/
def alpha : DeviceRow := Db.newDevice 100 (uuids 1) (registration "alpha") "alpha" "100.64.0.2"

def lanEndpoint : EndpointPayload := ⟨"lan", "192.168.1.20", 51820, "udp", some "local", some 100, none⟩

def report : HeartbeatRequest := ⟨alpha.id, alpha.nodeKey, [lanEndpoint]⟩

/-- A device registers and reports an endpoint, all in one second. -/
def reportEvents : List Event :=
  [.arrive .createAuthKey, advance 0,
   .arrive (.registerDevice (registration "alpha")), advance 1, advance 1, advance 1, advance 1,
   .arrive (.heartbeat report), advance 2, advance 2]

theorem report_state : ∃ st, run (ControlState.step server) (.start .empty 100) reportEvents = some st ∧
    st.now = 100 ∧ st.db.devices.rows = [alpha] ∧
    st.db.endpoints.rows = [Db.reportedRow server 100 alpha.id lanEndpoint] := by
  have hrun : (run (ControlState.step server) (.start .empty 100) reportEvents).any (fun st =>
      st.now = 100 ∧ st.db.devices.rows = [alpha] ∧
      st.db.endpoints.rows = [Db.reportedRow server 100 alpha.id lanEndpoint]) = true := by
    decide +kernel
  obtain ⟨st, hst, hfacts⟩ := (Option.any_eq_true _ _).mp hrun
  exact ⟨st, hst, of_decide_eq_true hfacts⟩

end Reference

open Reference in
/-- Repeated within the second, the report leaves the version alone. -/
theorem heartbeat_version_stable_same_second :
    ∃ st db', run (ControlState.step server) (.start .empty 100) reportEvents = some st ∧
      st.db.heartbeatTx server (Elapsed.none.clock st.now) report = .ok db' ∧
      db'.networkMapVersion = st.db.networkMapVersion := by
  obtain ⟨st, hrun, hnow, hdevices, hendpoints⟩ := report_state
  have hclock : ∀ i, Elapsed.none.clock st.now i = 100 := fun i => hnow
  obtain ⟨db', hok, -, hiff⟩ := heartbeat_version_stable_iff server_lawful hrun
    (d := alpha) (by rw [hdevices]; exact List.mem_cons_self) rfl report rfl Elapsed.none
    (fun e he => ⟨Db.reportedRow server 100 alpha.id lanEndpoint, by rw [hendpoints]; exact List.mem_cons_self,
      by rw [List.mem_singleton.mp he]; exact ⟨rfl, rfl, rfl, rfl, rfl, rfl⟩⟩)
    (fun r hr _ => by rw [hendpoints] at hr; rw [List.mem_singleton.mp hr]; rfl)
  refine ⟨st, db', hrun, hok, hiff.mpr ⟨(hclock 0).symm, fun i e _ r hr _ => ?_⟩⟩
  rw [hendpoints] at hr
  rw [List.mem_singleton.mp hr, hclock]
  rfl

open Reference in
/-- Repeated five seconds later, it raises the version by five for the device and
    by five for the endpoint, although it tells the other devices nothing new. -/
theorem heartbeat_raises_version :
    ∃ st db', run (ControlState.step server) (.start .empty 100) (reportEvents ++ [.tick 5]) = some st ∧
      (∃ d ∈ st.db.devices.rows, d.id = report.deviceId ∧ d.live = true) ∧
      (∀ e ∈ report.endpoints, ∃ r ∈ st.db.endpoints.rows, r.Reports report.deviceId e) ∧
      (∀ r ∈ st.db.endpoints.rows, r.expiresAt = none) ∧
      st.db.heartbeatTx server (Elapsed.none.clock st.now) report = .ok db' ∧
      servedDevices db' = servedDevices st.db ∧ servedEndpoints db' = servedEndpoints st.db ∧
      db'.dnsRecords.rows = st.db.dnsRecords.rows ∧
      db'.networkMapVersion = st.db.networkMapVersion + 10 := by
  have hrun : (run (ControlState.step server) (.start .empty 100) (reportEvents ++ [.tick 5])).any (fun st =>
      (∃ d ∈ st.db.devices.rows, d.id = report.deviceId ∧ d.live = true) ∧
      (∀ e ∈ report.endpoints, ∃ r ∈ st.db.endpoints.rows, r.Reports report.deviceId e) ∧
      (∀ r ∈ st.db.endpoints.rows, r.expiresAt = none) ∧
      (st.db.heartbeatTx server (Elapsed.none.clock st.now) report).toOption.any fun db' =>
        servedDevices db' = servedDevices st.db ∧ servedEndpoints db' = servedEndpoints st.db ∧
        db'.dnsRecords.rows = st.db.dnsRecords.rows ∧
        db'.networkMapVersion = st.db.networkMapVersion + 10) = true := by
    decide +kernel
  obtain ⟨st, hst, hfacts⟩ := (Option.any_eq_true _ _).mp hrun
  obtain ⟨hdevice, hstored, hunexpired, hbeat⟩ := of_decide_eq_true hfacts
  obtain ⟨db', hok, hdb'⟩ := (Option.any_eq_true _ _).mp hbeat
  exact ⟨st, db', hst, hdevice, hstored, hunexpired, toOption_eq_some.mp hok, of_decide_eq_true hdb'⟩

end TfScale.Control
