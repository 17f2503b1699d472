/-
  TfScale.Control.Reports

  Do the endpoints that a device reports reach the other devices?

  The agent encodes the endpoints of its backend, a heartbeat stores each of them
  under a hash of its fields, the map of another device lists what is stored, and the
  agent there decodes it.  `Mirror` relates the rows of a device to what it has
  reported so far: every insert of a heartbeat keeps it, because a row is written over
  only by a report of the same fields, and no other request touches the rows.
-/

import TfScale.Agent.Endpoints
import TfScale.Control.Version

namespace TfScale.Control

open ControlState Agent

variable {S : Server} {db db' : Db} {clock : Nat → Timestamp} {fresh : Fresh} {p p' : Process}
variable {st st' : ControlState} {deviceId : String}

-- ============================================================================
-- Keys of reports
-- ============================================================================

/-- The fields of an endpoint that make its key. -/
def keyFields (e : EndpointPayload) : String × String × UInt16 × String × String :=
  (e.kind, e.address, e.port, e.protocol, Db.endpointSource e)

/-- What stands before the first bar. -/
theorem append_bar_inj {a b : String} {x y : List Char} (ha : NoBar a) (hb : NoBar b)
    (h : a.toList ++ '|' :: x = b.toList ++ '|' :: y) : a = b ∧ x = y := by
  have hsplit := congrArg (List.splitOn '|') h
  rw [List.splitOn_append_cons_self_of_not_mem ha, List.splitOn_append_cons_self_of_not_mem hb] at hsplit
  have hfirst : a.toList = b.toList := (List.cons.inj hsplit).1
  rw [hfirst, List.append_cancel_left_eq] at h
  exact ⟨String.toList_inj.mp hfirst, (List.cons.inj h).2⟩

/-- The text that `endpoint_id` hashes. -/
theorem endpointKey_eq (deviceId kind address : String) (port : UInt16) (protocol source : String) :
    endpointKey deviceId kind address port protocol source =
      strBytes (deviceId ++ "|" ++ kind ++ "|" ++ address ++ "|" ++ toString port.toNat ++ "|" ++
        protocol ++ "|" ++ source) := by
  simp only [endpointKey, strBytes_append]

theorem toString_injective {m n : Nat} (h : toString m = toString n) : m = n := by
  rw [Nat.toString_eq_ofList_toDigits, Nat.toString_eq_ofList_toDigits] at h
  rw [← Nat.ofDigitChars_ten_toDigits (n := m), String.ofList_injective h,
    Nat.ofDigitChars_ten_toDigits]

/-- Reports of one device that have one id agree in the fields of their keys. -/
theorem keyFields_of_reportedId (hS : S.Lawful) {report report' : Report}
    (h : reportedId S deviceId report.payload = reportedId S deviceId report'.payload) :
    keyFields report.payload = keyFields report'.payload := by
  obtain ⟨hkind, haddress, hprotocol⟩ := report.noBar
  obtain ⟨hkind', haddress', hprotocol'⟩ := report'.noBar
  have hkey := hS.sha256_injective (String.append_right_inj "ep_" |>.mp h)
  rw [endpointKey_eq, endpointKey_eq] at hkey
  have htext := congrArg String.toList (strBytes_injective hkey)
  have hbar : "|".toList = ['|'] := rfl
  simp only [String.toList_append, List.append_assoc, List.append_cancel_left_eq, hbar,
    List.cons_append, List.nil_append, List.cons.injEq, true_and] at htext
  obtain ⟨hkinds, htext⟩ := append_bar_inj hkind hkind' htext
  obtain ⟨haddresses, htext⟩ := append_bar_inj haddress haddress' htext
  obtain ⟨hports, htext⟩ := append_bar_inj (noBar_toString _) (noBar_toString _) htext
  obtain ⟨hprotocols, hsources⟩ := append_bar_inj hprotocol hprotocol' htext
  have hport : report.payload.port = report'.payload.port :=
    UInt16.toNat_inj.mp (toString_injective hports)
  rw [keyFields, keyFields, hkinds, haddresses, hport, hprotocols, String.toList_inj.mp hsources]

-- ============================================================================
-- Rows and reports
-- ============================================================================

/-- The rows of a device are those of what it has reported. -/
structure Mirror (deviceId : String) (reported : List EndpointPayload) (db : Db) : Prop where
  row : ∀ r ∈ db.endpoints.rows, r.deviceId = deviceId →
    ∃ e ∈ reported, r.Reports deviceId e ∧ r.priority = e.priority
  stored : ∀ e ∈ reported, ∃ r ∈ db.endpoints.rows, r.Reports deviceId e

/-- The payload comes from an endpoint of a backend. -/
def Encoded (e : EndpointPayload) : Prop := ∃ report : Report, e = report.payload

section Store

variable {reported : List EndpointPayload} {t : Timestamp} {e : EndpointPayload}

/-- A row that reports one endpoint reports every endpoint of the same key. -/
theorem reports_congr {r : EndpointRow} {e' : EndpointPayload} (h : keyFields e = keyFields e')
    (hr : r.Reports deviceId e) : r.Reports deviceId e' := by
  obtain ⟨hkind, haddress, hport, hprotocol, hsource⟩ :
      e.kind = e'.kind ∧ e.address = e'.address ∧ e.port = e'.port ∧ e.protocol = e'.protocol ∧
        Db.endpointSource e = Db.endpointSource e' := by
    simpa [keyFields] using h
  obtain ⟨hd, hk, ha, hp, hpr, hs⟩ := hr
  exact ⟨hd, hk.trans hkind, ha.trans haddress, hp.trans hport, hpr.trans hprotocol,
    hs.trans (congrArg some hsource)⟩

/-- Only the rows of the device matter. -/
theorem Mirror.congr (h : Mirror deviceId reported db)
    (hrows : ∀ r, r.deviceId = deviceId → (r ∈ db'.endpoints.rows ↔ r ∈ db.endpoints.rows)) :
    Mirror deviceId reported db' := by
  refine ⟨fun r hr hd => h.row r ((hrows r hd).mp hr) hd, fun e he => ?_⟩
  obtain ⟨r, hr, hreports⟩ := h.stored e he
  exact ⟨r, (hrows r hreports.1).mpr hr, hreports⟩

/-- The row that a report is written over is one of the same device. -/
theorem owner_of_reportedId (hS : S.Lawful) (hdevice : HasIdForm deviceId) {r : EndpointRow}
    (hr : Keyed S r) (hid : (r.id == (Db.reportedRow S t deviceId e).id) = true) :
    r.deviceId = deviceId :=
  endpointId_owner hS hr.owner hdevice (hr.id.symm.trans (beq_iff_eq.mp hid))

theorem reports_renewRow {r : EndpointRow} (h : r.deviceId = deviceId) :
    (Db.renewRow (Db.reportedRow S t deviceId e) r).Reports deviceId e :=
  ⟨h, rfl, rfl, rfl, rfl, rfl⟩

/-- A report is stored; what was reported before stays. -/
theorem Mirror.storeEndpoint (hS : S.Lawful) (hdevice : HasIdForm deviceId)
    (hkeyed : ∀ r ∈ db.endpoints.rows, Keyed S r) (h : Mirror deviceId reported db)
    (hencoded : ∀ e' ∈ reported ++ [e], Encoded e')
    (hstore : db.storeEndpoint S t deviceId e = .ok db') : Mirror deviceId (reported ++ [e]) db' := by
  obtain ⟨report, rfl⟩ := hencoded e (List.mem_append_right _ (List.mem_singleton.mpr rfl))
  obtain ⟨endpoints, hupsert, rfl⟩ := Db.storeEndpoint_ok hstore
  have hlast : report.payload ∈ reported ++ [report.payload] :=
    List.mem_append_right _ (List.mem_singleton.mpr rfl)
  refine ⟨?_, fun e₀ he₀ => ?_⟩
  · refine Table.forall_upsert hupsert (fun _ => ⟨report.payload, hlast, ⟨rfl, rfl, rfl, rfl, rfl, rfl⟩, rfl⟩)
      (fun r _ _ hd => ⟨report.payload, hlast, reports_renewRow hd, rfl⟩) fun r hr hd => ?_
    obtain ⟨e', he', hreports⟩ := h.row r hr hd
    exact ⟨e', List.mem_append_left _ he', hreports⟩
  · rcases List.mem_append.mp he₀ with hold | hnew
    · obtain ⟨r, hr, hreports⟩ := h.stored e₀ hold
      refine ⟨_, Table.mem_upsert_of_mem hupsert hr, ?_⟩
      by_cases hid : (r.id == (Db.reportedRow S t deviceId report.payload).id) = true
      · -- the row is written over by a report of the same key
        rw [if_pos hid]
        obtain ⟨report₀, rfl⟩ := hencoded e₀ he₀
        have hids : reportedId S deviceId report.payload = reportedId S deviceId report₀.payload :=
          (beq_iff_eq.mp hid).symm.trans ((hkeyed r hr).id_of_reports hreports)
        exact reports_congr (keyFields_of_reportedId hS hids) (reports_renewRow hreports.1)
      · rw [if_neg hid]
        exact hreports
    · obtain rfl := List.mem_singleton.mp hnew
      exact Table.exists_mem_upsert hupsert ⟨rfl, rfl, rfl, rfl, rfl, rfl⟩
        fun r hr hid => reports_renewRow (owner_of_reportedId hS hdevice (hkeyed r hr) hid)

/-- A report of another device changes no row of this one. -/
theorem mem_storeEndpoint_other (hS : S.Lawful) {other : String} (hother : HasIdForm other)
    (hne : other ≠ deviceId) (hkeyed : ∀ r ∈ db.endpoints.rows, Keyed S r)
    (hstore : db.storeEndpoint S t other e = .ok db') (r : EndpointRow) (hr : r.deviceId = deviceId) :
    r ∈ db'.endpoints.rows ↔ r ∈ db.endpoints.rows := by
  obtain ⟨endpoints, hupsert, rfl⟩ := Db.storeEndpoint_ok hstore
  have hkept : ∀ r₀ ∈ db.endpoints.rows, r₀.deviceId = deviceId →
      ¬ (r₀.id == (Db.reportedRow S t other e).id) = true := fun r₀ hr₀ hd hid =>
    hne ((owner_of_reportedId hS hother (hkeyed r₀ hr₀) hid).symm.trans hd)
  constructor
  · intro hmem
    rcases (Table.mem_upsert hupsert).mp hmem with ⟨r₀, hr₀, rfl⟩ | ⟨-, rfl⟩
    · by_cases hid : (r₀.id == (Db.reportedRow S t other e).id) = true
      · rw [if_pos hid] at hr
        exact absurd hid (hkept r₀ hr₀ hr)
      · rw [if_neg hid]
        exact hr₀
    · exact absurd hr hne
  · intro hmem
    exact (Table.mem_upsert hupsert).mpr (Or.inl ⟨r, hmem, if_neg (hkept r hmem hr)⟩)

/-- The loop of a heartbeat of the device. -/
theorem Mirror.storeEndpoints (hS : S.Lawful) (hdevice : HasIdForm deviceId)
    (hkeyed : ∀ r ∈ db.endpoints.rows, Keyed S r) (h : Mirror deviceId reported db)
    {es : List EndpointPayload} {i : Nat} (hencoded : ∀ e ∈ reported ++ es, Encoded e)
    (hok : Db.storeEndpoints S clock deviceId i es db = .ok db') :
    Mirror deviceId (reported ++ es) db' := by
  induction es generalizing i db reported with
  | nil =>
      obtain rfl := Except.ok.inj hok
      rw [List.append_nil]
      exact h
  | cons e es ih =>
      obtain ⟨db₁, hstore, hok⟩ := Api.bind_eq_ok.mp hok
      have hsplit : reported ++ e :: es = reported ++ [e] ++ es := by
        rw [List.append_assoc, List.singleton_append]
      rw [hsplit] at hencoded ⊢
      have hfirst := h.storeEndpoint hS hdevice hkeyed
        (fun e' he' => hencoded e' (List.mem_append_left _ he')) hstore
      exact ih (keyed_storeEndpoint hS hdevice hkeyed hstore) hfirst hencoded hok

/-- The transaction of a heartbeat of the device, when none of its endpoints has
    expired. -/
theorem Mirror.heartbeatTx (hS : S.Lawful) {request : HeartbeatRequest}
    (hdevice : HasIdForm request.deviceId) (hkeyed : ∀ r ∈ db.endpoints.rows, Keyed S r)
    (h : Mirror request.deviceId reported db)
    (hunexpired : ∀ r ∈ db.endpoints.rows, r.deviceId = request.deviceId →
      expired (clock 1) r.expiresAt = false)
    (hencoded : ∀ e ∈ reported ++ request.endpoints, Encoded e)
    (hok : db.heartbeatTx S clock request = .ok db') :
    Mirror request.deviceId (reported ++ request.endpoints) db' := by
  have hrows := loop_start_rows hunexpired
  refine Mirror.storeEndpoints hS hdevice ?_ (h.congr fun r _ => by rw [hrows]) hencoded hok
  rw [hrows]
  exact hkeyed

/-- The transaction of a heartbeat of another device. -/
theorem Mirror.heartbeatTx_other (hS : S.Lawful) {request : HeartbeatRequest}
    (hother : HasIdForm request.deviceId) (hne : request.deviceId ≠ deviceId)
    (hkeyed : ∀ r ∈ db.endpoints.rows, Keyed S r) (h : Mirror deviceId reported db)
    (hok : db.heartbeatTx S clock request = .ok db') : Mirror deviceId reported db' := by
  have hpruned : ∀ r, r.deviceId = deviceId →
      (r ∈ ((db.touchDevice (clock 0) request.deviceId).pruneEndpoints (clock 1)
        request.deviceId).endpoints.rows ↔ r ∈ db.endpoints.rows) := by
    intro r hr
    have hkept : (!(r.deviceId == request.deviceId && expired (clock 1) r.expiresAt)) = true := by
      rw [hr, beq_eq_false_iff_ne.mpr (Ne.symm hne)]
      rfl
    exact List.mem_filter.trans ⟨And.left, fun hmem => ⟨hmem, hkept⟩⟩
  have hloop : (∀ r ∈ db'.endpoints.rows, Keyed S r) ∧ Mirror deviceId reported db' := by
    refine storeEndpoints_invariant
      (fun db => (∀ r ∈ db.endpoints.rows, Keyed S r) ∧ Mirror deviceId reported db)
      (fun i e _ db₁ db₂ hinv hstore => ⟨keyed_storeEndpoint hS hother hinv.1 hstore, ?_⟩)
      ⟨fun r hr => hkeyed r (List.mem_filter.mp hr).1, h.congr hpruned⟩ hok
    exact hinv.2.congr (mem_storeEndpoint_other hS hother hne hinv.1 hstore)
  exact hloop.2

end Store

-- ============================================================================
-- Whole runs
-- ============================================================================

theorem Commit.endpoints_eq (hcommit : Commit S clock fresh db p db')
    (hp : ∀ request, p ≠ .heartbeatValidated request) : db'.endpoints = db.endpoints := by
  cases hcommit with
  | createAuthKey hok =>
      obtain ⟨_, _, -, -, -, rfl⟩ := Db.createAuthKey_ok hok
      rfl
  | register hok =>
      obtain ⟨_, _, _, _, -, -, -, rfl, -⟩ := Db.registerTx_ok hok
      rfl
  | rename _ hok =>
      obtain ⟨_, _, _, -, -, -, rfl⟩ := Db.renameTx_ok hok
      rfl
  | delete hok =>
      obtain rfl := Db.deleteTx_ok hok
      rfl
  | heartbeat _ => exact absurd rfl (hp _)

namespace ControlState

/-- The endpoints that an event stores for a device. -/
def reportsOf (deviceId : String) (st : ControlState) : Event → List EndpointPayload
  | .advance r _ _ =>
      match st.requests[r]? with
      | some (.heartbeatValidated request) =>
          if request.deviceId = deviceId then request.endpoints else []
      | _ => []
  | _ => []

/-- The endpoints that the heartbeats of a device store in a run, in order. -/
def reported (S : Server) (deviceId : String) (st : ControlState) : List Event → List EndpointPayload
  | [] => []
  | e :: es =>
      reportsOf deviceId st e ++
        match st.step S e with
        | some st' => reported S deviceId st' es
        | none => []

/-- A heartbeat of the device that is about to look for expired endpoints finds none. -/
def FindsUnexpired (deviceId : String) (db : Db) (now : Timestamp) : Process → Prop
  | .heartbeatValidated request => request.deviceId = deviceId →
      ∀ row ∈ db.endpoints.rows, row.deviceId = deviceId → expired now row.expiresAt = false
  | _ => True

instance (deviceId : String) (db : Db) (now : Timestamp) :
    (p : Process) → Decidable (FindsUnexpired deviceId db now p)
  | .heartbeatValidated _ => inferInstanceAs (Decidable (_ → _))
  | .createAuthKey | .registerReceived _ | .registerUnknown _ | .registerValidated ..
  | .registerAllocated .. | .renameReceived .. | .renameCommitted _ | .deleteReceived _
  | .heartbeatReceived _ | .heartbeatVersion .. | .mapReceived _ | .mapValidated _ | .mapSelf ..
  | .mapPeers .. | .mapVersion .. | .mapDns .. | .done _ => isTrue trivial

/-- When a heartbeat of the device looks for expired endpoints, there are none. -/
def Unexpired (deviceId : String) (st : ControlState) : Event → Prop
  | .advance r _ elapsed =>
      match st.requests[r]? with
      | some p => FindsUnexpired deviceId st.db (elapsed.clock st.now 1) p
      | none => True
  | _ => True

instance (deviceId : String) (st : ControlState) : (e : Event) → Decidable (Unexpired deviceId st e)
  | .tick _ | .arrive _ | .abort .. => isTrue trivial
  | .advance r _ elapsed =>
      match h : st.requests[r]? with
      | some p => decidable_of_iff (FindsUnexpired deviceId st.db (elapsed.clock st.now 1) p)
          (by rw [Unexpired, h])
      | none => isTrue (by rw [Unexpired, h]; trivial)

theorem reportsOf_eq_nil {r : Nat} {elapsed : Elapsed} (hp : st.requests[r]? = some p)
    (hnot : ∀ request, p ≠ .heartbeatValidated request) :
    reportsOf deviceId st (.advance r fresh elapsed) = [] := by
  rw [reportsOf, hp]
  split
  · rename_i request heq
    exact absurd (Option.some.inj heq) (hnot request)
  · rfl

/-- What a heartbeat that was let through does to the database. -/
theorem next_heartbeat {request : HeartbeatRequest}
    (h : (Process.heartbeatValidated request).next S db clock fresh = some (p', db')) :
    db.heartbeatTx S clock request = .ok db' := by
  obtain ⟨db₁, hok⟩ : ∃ db₁, db.heartbeatTx S clock request = .ok db₁ :=
    exists_storeEndpoints request.deviceId 2 request.endpoints _
  simp only [Process.next, Process.heartbeatUpdate, hok] at h
  obtain ⟨-, rfl⟩ := Prod.mk.inj (Option.some.inj h)
  exact hok

theorem mirror_step {acc : List EndpointPayload} {e : Event} (hS : S.Lawful) (hkeyed : KeyedState S st)
    (h : Mirror deviceId acc st.db) (hencoded : ∀ x ∈ acc ++ reportsOf deviceId st e, Encoded x)
    (hunexpired : Unexpired deviceId st e) (hstep : st.step S e = some st') :
    Mirror deviceId (acc ++ reportsOf deviceId st e) st'.db := by
  -- nothing is stored
  have hquiet : reportsOf deviceId st e = [] → st'.db = st.db →
      Mirror deviceId (acc ++ reportsOf deviceId st e) st'.db := by
    intro hnil hsame
    rw [hnil, hsame, List.append_nil]
    exact h
  cases e with
  | tick seconds =>
      obtain rfl := Option.some.inj hstep
      exact hquiet rfl rfl
  | arrive request =>
      obtain rfl := Option.some.inj hstep
      exact hquiet rfl rfl
  | abort r message =>
      obtain ⟨_, _, -, -, rfl⟩ := step_abort.mp hstep
      exact hquiet rfl rfl
  | advance r fresh elapsed =>
      obtain ⟨p, p', db', hp, hnext, rfl⟩ := step_advance.mp hstep
      show Mirror deviceId _ db'
      by_cases hheartbeat : ∃ request, p = .heartbeatValidated request
      · obtain ⟨request, rfl⟩ := hheartbeat
        have hok := next_heartbeat hnext
        have hform := hkeyed.heartbeats request (List.mem_of_getElem? hp)
        simp only [Unexpired, hp] at hunexpired
        simp only [reportsOf, hp] at hencoded ⊢
        by_cases hdevice : request.deviceId = deviceId
        · subst hdevice
          rw [if_pos rfl] at hencoded ⊢
          exact h.heartbeatTx hS hform hkeyed.endpoints (hunexpired rfl) hencoded hok
        · rw [if_neg hdevice, List.append_nil]
          exact h.heartbeatTx_other hS hform hdevice hkeyed.endpoints hok
      · have hnot : ∀ request, p ≠ .heartbeatValidated request :=
          fun request heq => hheartbeat ⟨request, heq⟩
        rcases Process.next_db hnext with rfl | hcommit
        · exact hquiet (reportsOf_eq_nil hp hnot) rfl
        · rw [reportsOf_eq_nil hp hnot, List.append_nil]
          exact h.congr fun row _ => by rw [hcommit.endpoints_eq hnot]

theorem mirror_run {acc : List EndpointPayload} {events : List Event} (hS : S.Lawful)
    (hkeyed : KeyedState S st) (h : Mirror deviceId acc st.db)
    (hencoded : ∀ e ∈ acc ++ reported S deviceId st events, Encoded e)
    (hunexpired : Along (step S) (Unexpired deviceId) st events)
    (hrun : run (step S) st events = some st') :
    Mirror deviceId (acc ++ reported S deviceId st events) st'.db := by
  induction events generalizing st acc with
  | nil =>
      obtain rfl := Option.some.inj hrun
      rw [reported, List.append_nil]
      exact h
  | cons e es ih =>
      obtain ⟨s, hs, hrun⟩ := run_cons_eq_some.mp hrun
      have hsplit : acc ++ reported S deviceId st (e :: es) =
          acc ++ reportsOf deviceId st e ++ reported S deviceId s es := by
        simp only [reported, hs, List.append_assoc]
      rw [hsplit] at hencoded ⊢
      have hnext := mirror_step hS hkeyed h (fun x hx => hencoded x (List.mem_append_left _ hx))
        hunexpired.1 hs
      exact ih (hkeyed.step hS hs) hnext hencoded (hunexpired.2 s hs) hrun

end ControlState

-- ============================================================================
-- The columns of an endpoint
-- ============================================================================

/-- The columns of a row, as SQLite holds them: numbers are 64-bit integers. -/
structure EndpointColumns where
  kind : String
  address : String
  port : Int
  protocol : String
  source : Option String
  priority : Option Int
  expiresAt : Option String

/-- What `heartbeat` binds: `i64::from` of the numbers. -/
def EndpointRow.columns (r : EndpointRow) : EndpointColumns :=
  ⟨r.kind, r.address, (r.port.toNat : Int), r.protocol, r.source, r.priority, r.expiresAt⟩

/-- What `load_endpoints` reads: the port `as u16`, the priority `as i32`. -/
def EndpointColumns.payload (c : EndpointColumns) : EndpointPayload :=
  ⟨c.kind, c.address, UInt16.ofInt c.port, c.protocol, c.source,
    c.priority.map (Int.bmod · (2 ^ 32)), c.expiresAt⟩

/-- A priority of 32 bits. -/
def FitsI32 (priority : Int) : Prop := -2 ^ 31 ≤ priority ∧ priority < 2 ^ 31

/-- Nothing is lost on the way through the columns. -/
theorem columns_payload {r : EndpointRow} (h : ∀ priority ∈ r.priority, FitsI32 priority) :
    r.columns.payload = r.payload := by
  have hport : UInt16.ofInt (r.port.toNat : Int) = r.port := by
    have hlt := r.port.toNat_lt
    rw [UInt16.ofInt, Int.emod_eq_of_lt (by omega) (by omega), Int.toNat_natCast, UInt16.ofNat_toNat]
  have hpriority : r.priority.map (Int.bmod · (2 ^ 32)) = r.priority := by
    cases hr : r.priority with
    | none => rfl
    | some priority =>
        obtain ⟨hlow, hhigh⟩ := h priority hr
        rw [Option.map_some, Int.bmod_eq_of_le (by omega) (by omega)]
  simp only [EndpointRow.columns, EndpointColumns.payload, EndpointRow.payload, hport, hpriority]

/-- `load_endpoints`, from the columns. -/
def Db.loadEndpointColumns (db : Db) (now : Timestamp) (deviceId : String) : List EndpointPayload :=
  Table.select db.endpoints.rows (fun r => r.deviceId == deviceId && !expired now r.expiresAt)
    (fun a b => Db.endpointOrder a.payload b.payload) fun r => r.columns.payload

-- ============================================================================
-- What is loaded
-- ============================================================================

section Load

variable {reports : List Report} {t : Timestamp}

/-- A row of the device, with the report that it comes from. -/
theorem Mirror.report_of_row (h : Mirror deviceId (reports.map Report.payload) db) {r : EndpointRow}
    (hr : r ∈ db.endpoints.rows) (hd : r.deviceId = deviceId) :
    ∃ report ∈ reports, r.Reports deviceId report.payload ∧ r.priority = report.payload.priority := by
  obtain ⟨e, he, hreports⟩ := h.row r hr hd
  obtain ⟨report, hreport, rfl⟩ := List.mem_map.mp he
  exact ⟨report, hreport, hreports⟩

theorem keyFields_payload {r : EndpointRow} {e : EndpointPayload} (h : r.Reports deviceId e) :
    keyFields r.payload = keyFields e := by
  obtain ⟨-, hkind, haddress, hport, hprotocol, hsource⟩ := h
  have hsource' : Db.endpointSource r.payload = Db.endpointSource e := by
    show r.source.getD "local" = _
    rw [hsource]
    rfl
  rw [keyFields, keyFields, hsource']
  simp only [EndpointRow.payload, hkind, haddress, hport, hprotocol]

theorem mem_loadEndpoints {e : EndpointPayload}
    (hunexpired : ∀ r ∈ db.endpoints.rows, r.deviceId = deviceId → expired t r.expiresAt = false) :
    e ∈ db.loadEndpoints t deviceId ↔ ∃ r ∈ db.endpoints.rows, r.deviceId = deviceId ∧ r.payload = e := by
  rw [Db.loadEndpoints, Table.mem_select]
  refine exists_congr fun r => and_congr_right fun hr => and_congr_left fun _ => ?_
  rw [Bool.and_eq_true, beq_iff_eq, Bool.not_eq_true']
  exact ⟨And.left, fun hd => ⟨hd, hunexpired r hr hd⟩⟩

theorem Mirror.loadEndpoints_columns (h : Mirror deviceId (reports.map Report.payload) db) :
    db.loadEndpoints t deviceId = db.loadEndpointColumns t deviceId := by
  refine Table.select_eq_of_forall fun r hr hselected => (columns_payload fun priority hpriority => ?_).symm
  rw [Bool.and_eq_true, beq_iff_eq] at hselected
  obtain ⟨report, -, -, heq⟩ := h.report_of_row hr hselected.1
  obtain ⟨_, value, hpayload, hvalue⟩ := report.payload_eq
  rw [hpayload] at heq
  have hsame : value = priority := Option.some.inj (heq.symm.trans hpriority)
  rw [← hsame, FitsI32]
  rcases hvalue with ⟨-, rfl⟩ | ⟨-, rfl⟩
  · omega
  · omega

theorem endpoints_nodup (db : Db) : db.endpoints.rows.Nodup := by
  refine db.endpoints.unique.imp fun {r s} hclash heq => ?_
  rw [heq, show Schema.clash s s = (s.id == s.id) from rfl, beq_self_eq_true] at hclash
  cases hclash

/-- One entry for each key. -/
theorem keyFields_nodup (hkeyed : ∀ r ∈ db.endpoints.rows, Keyed S r) :
    ((db.loadEndpoints t deviceId).map keyFields).Nodup := by
  rw [Db.loadEndpoints, Table.select, List.map_map]
  have hmem : ∀ r ∈ (db.endpoints.rows.filter fun r => r.deviceId == deviceId && !expired t r.expiresAt).insertionSort
      (fun a b => Db.endpointOrder a.payload b.payload = true),
      r ∈ db.endpoints.rows ∧ r.deviceId = deviceId := by
    intro r hr
    obtain ⟨hr, hp⟩ := List.mem_filter.mp ((List.perm_insertionSort _ _).mem_iff.mp hr)
    rw [Bool.and_eq_true, beq_iff_eq] at hp
    exact ⟨hr, hp.1⟩
  refine List.Nodup.map_on ?_
    ((List.perm_insertionSort _ _).nodup_iff.mpr ((endpoints_nodup db).filter _))
  intro r hr s hs heq
  obtain ⟨hr, hrd⟩ := hmem r hr
  obtain ⟨hs, hsd⟩ := hmem s hs
  refine endpoint_unique hr hs ?_
  have hfields : keyFields r.payload = keyFields s.payload := heq
  simp only [keyFields, Prod.mk.injEq] at hfields
  obtain ⟨hkind, haddress, hport, hprotocol, hsource⟩ := hfields
  rw [(hkeyed r hr).id, (hkeyed s hs).id, hrd, hsd]
  simp only [reportedId, endpointId, hkind, haddress, hport, hprotocol, hsource]

/-- What is loaded for the device decodes to what it has reported. -/
theorem Mirror.decode (h : Mirror deviceId (reports.map Report.payload) db)
    (hunexpired : ∀ r ∈ db.endpoints.rows, r.deviceId = deviceId → expired t r.expiresAt = false) :
    ∃ decoded, (db.loadEndpoints t deviceId).mapM endpointToConfig = .ok decoded ∧
      ∀ endpoint, endpoint ∈ decoded ↔ ∃ report ∈ reports, report.endpoint = endpoint := by
  have hrow : ∀ r ∈ db.endpoints.rows, ∀ report ∈ reports, r.Reports deviceId report.payload →
      endpointToConfig r.payload = .ok report.endpoint := by
    rintro r hr report hreport ⟨-, hkind, haddr, hport, hprotocol, -⟩
    exact endpointToConfig_report hkind haddr hport hprotocol
  obtain ⟨decoded, hdecoded⟩ : ∃ decoded,
      (db.loadEndpoints t deviceId).mapM endpointToConfig = .ok decoded := by
    refine Fallible.isOk_iff.mp (Fallible.isOk_mapM.mpr fun e he => ?_)
    obtain ⟨r, hr, hd, rfl⟩ := (mem_loadEndpoints hunexpired).mp he
    obtain ⟨report, hreport, hreports, -⟩ := h.report_of_row hr hd
    exact Fallible.isOk_iff.mpr ⟨_, hrow r hr report hreport hreports⟩
  refine ⟨decoded, hdecoded, fun endpoint => ?_⟩
  rw [Fallible.mem_of_mapM hdecoded]
  constructor
  · rintro ⟨e, he, hconfig⟩
    obtain ⟨r, hr, hd, rfl⟩ := (mem_loadEndpoints hunexpired).mp he
    obtain ⟨report, hreport, hreports, -⟩ := h.report_of_row hr hd
    rw [hrow r hr report hreport hreports] at hconfig
    exact ⟨report, hreport, Except.ok.inj hconfig⟩
  · rintro ⟨report, hreport, rfl⟩
    obtain ⟨r, hr, hreports⟩ := h.stored report.payload (List.mem_map_of_mem hreport)
    exact ⟨r.payload, (mem_loadEndpoints hunexpired).mpr ⟨r, hr, hreports.1, rfl⟩,
      hrow r hr report hreport hreports⟩

end Load

namespace ControlState

/-- **Endpoint reports come back.**  From an empty database, for every interleaving of
    requests and every device whose heartbeats reported the given endpoints, in
    whatever order and however often: the entry that the map of another device lists
    for it, while nothing has expired,

    * is read from the columns without a change,
    * decodes to the reported endpoints and to no others,
    * has one endpoint for the kind, address, port, protocol and source of each report. -/
theorem endpoint_reports_round_trip (S : Server) (hS : S.Lawful) (now : Timestamp)
    (events : List Event) (st st' : ControlState)
    (h : run (step S) (start .empty now) events = some st)
    (deviceId : String) (reports : List Report)
    (hreports : reported S deviceId (start .empty now) events = reports.map Report.payload)
    (hunexpired : Along (step S) (Unexpired deviceId) (start .empty now) events)
    (r : Nat) (fresh : Fresh) (elapsed : Elapsed) (query : NetworkMapQuery)
    (selfDevice : NetworkMapSelf) (peers : List NetworkMapPeer) (row : PeerRow) (pending : List PeerRow)
    (hp : st.requests[r]? = some (.mapPeers query selfDevice peers (row :: pending)))
    (hrow : row.id = deviceId)
    (hloaded : ∀ x ∈ st.db.endpoints.rows, x.deviceId = deviceId →
      expired (elapsed.clock st.now 0) x.expiresAt = false)
    (hstep : st.step S (.advance r fresh elapsed) = some st') :
    ∃ entry decoded,
      st'.requests[r]? = some (Process.afterPeers query selfDevice (peers ++ [entry]) pending) ∧
      entry.deviceId = deviceId ∧
      entry.endpoints = st.db.loadEndpointColumns (elapsed.clock st.now 0) deviceId ∧
      entry.endpoints.mapM endpointToConfig = .ok decoded ∧
      (∀ report ∈ reports, report.endpoint ∈ decoded ∧
        (entry.endpoints.map keyFields).count (keyFields report.payload) = 1) ∧
      ∀ endpoint ∈ decoded, ∃ report ∈ reports, report.endpoint = endpoint := by
  have hkeyed := keyedState_of_run hS h
  have hnil : run (step S) (start .empty now) [] = some (start .empty now) := rfl
  have hstart := keyedState_of_run hS hnil
  have hmirror : Mirror deviceId (reports.map Report.payload) st.db := by
    have hempty : Mirror deviceId [] (start .empty now).db :=
      ⟨fun r hr => (by cases hr), fun e he => (by cases he)⟩
    have hencoded : ∀ e ∈ [] ++ reported S deviceId (start .empty now) events, Encoded e := by
      rw [List.nil_append, hreports]
      intro e he
      obtain ⟨report, -, rfl⟩ := List.mem_map.mp he
      exact ⟨report, rfl⟩
    have hrun := mirror_run hS hstart hempty hencoded hunexpired h
    rwa [List.nil_append, hreports] at hrun
  obtain ⟨decoded, hdecoded, hmem⟩ := hmirror.decode hloaded
  subst hrow
  refine ⟨st.db.networkMapPeer (elapsed.clock st.now 0) row, decoded, ?_, rfl,
    hmirror.loadEndpoints_columns, hdecoded, fun report hreport => ⟨(hmem _).mpr ⟨report, hreport, rfl⟩, ?_⟩,
    fun endpoint hendpoint => (hmem endpoint).mp hendpoint⟩
  · obtain ⟨p, p', db', hp', hnext, rfl⟩ := step_advance.mp hstep
    obtain rfl := Option.some.inj (hp.symm.trans hp')
    obtain ⟨rfl, -⟩ := Prod.mk.inj (Option.some.inj hnext)
    exact List.getElem?_set_self (List.getElem?_eq_some_iff.mp hp).1
  · obtain ⟨x, hx, hreported⟩ := hmirror.stored report.payload (List.mem_map_of_mem hreport)
    refine List.count_eq_one_of_mem (keyFields_nodup hkeyed.endpoints) ?_
    rw [← keyFields_payload hreported]
    exact List.mem_map_of_mem ((mem_loadEndpoints hloaded).mpr ⟨x, hx, hreported.1, rfl⟩)

end ControlState

namespace Reference

def lanReport : Report := .found ⟨.lan, .v4 ⟨192, 168, 1, 20⟩, 51820, .udp⟩

def publicReport : Report := .probed ⟨.public, .v4 ⟨203, 0, 113, 7⟩, 40000, .udp⟩

/-- The id of the device that request `1` registers. -/
def reporter : String := "dev_" ++ simple (uuids 1).device

def heartbeatWith (reports : List Report) : Request :=
  .heartbeat ⟨reporter, "node_" ++ simple (uuids 1).node, reports.map Report.payload⟩

/-- Two devices register; the first one reports two endpoints, and half a minute later
    the same two in the other order; the second one asks for its map. -/
def reportTwice : List Event :=
  [.arrive .createAuthKey, advance 0,
   .arrive (.registerDevice (registration "alpha")), .arrive (.registerDevice (registration "beta")),
   advance 1, advance 1, advance 2, advance 2, advance 1, advance 1, advance 2, advance 2,
   .arrive (heartbeatWith [lanReport, publicReport]), advance 3, advance 3, .tick 30,
   .arrive (heartbeatWith [publicReport, lanReport]), advance 4, advance 4, .tick 30,
   .arrive (.networkMap ⟨"dev_" ++ simple (uuids 2).device, "node_" ++ simple (uuids 2).node⟩),
   advance 5, advance 5, advance 5]

end Reference

/-- The peer whose endpoints a network map loads next. -/
def Process.nextPeer : Process → Option PeerRow
  | mapPeers _ _ _ (row :: _) => some row
  | _ => none

theorem mapPeers_of_nextPeer {p : Process} {row : PeerRow} (h : p.nextPeer = some row) :
    ∃ query selfDevice peers pending, p = .mapPeers query selfDevice peers (row :: pending) := by
  unfold Process.nextPeer at h
  split at h
  · obtain rfl := Option.some.inj h
    exact ⟨_, _, _, _, rfl⟩
  · cases h

open Reference in
/-- Both endpoints come back, each once. -/
theorem endpoint_reports_round_trip_twice :
    ∃ (st st' : ControlState) (entry : NetworkMapPeer) (decoded : List Endpoint),
      run (step server) (start .empty 0) reportTwice = some st ∧
      st.step server (advance 5) = some st' ∧ entry.deviceId = reporter ∧
      entry.endpoints.mapM endpointToConfig = .ok decoded ∧
      (lanReport.endpoint ∈ decoded ∧
        (entry.endpoints.map keyFields).count (keyFields lanReport.payload) = 1) ∧
      (publicReport.endpoint ∈ decoded ∧
        (entry.endpoints.map keyFields).count (keyFields publicReport.payload) = 1) := by
  have hrun : (run (step server) (start .empty 0) reportTwice).any (fun st : ControlState =>
      (st.requests[(5 : Nat)]?.bind Process.nextPeer).any fun row =>
        decide (row.id = reporter ∧ ∀ x ∈ st.db.endpoints.rows, x.deviceId = reporter →
          expired (Elapsed.none.clock st.now 0) x.expiresAt = false) &&
          (st.step server (advance 5)).isSome) = true := by
    decide +kernel
  have hreports : reported server reporter (start .empty 0) reportTwice =
      [lanReport, publicReport, publicReport, lanReport].map Report.payload := by
    decide +kernel
  have hunexpired : Along (step server) (Unexpired reporter) (start .empty 0) reportTwice := by
    decide +kernel
  obtain ⟨st, hst, hfacts⟩ := (Option.any_eq_true _ _).mp hrun
  obtain ⟨row, hnext, hfacts⟩ := (Option.any_eq_true _ _).mp hfacts
  obtain ⟨p, hp, hrow⟩ := Option.bind_eq_some_iff.mp hnext
  obtain ⟨query, selfDevice, peers, pending, rfl⟩ := mapPeers_of_nextPeer hrow
  rw [Bool.and_eq_true, decide_eq_true_eq] at hfacts
  obtain ⟨⟨hid, hloaded⟩, hsome⟩ := hfacts
  obtain ⟨st', hst'⟩ := Option.isSome_iff_exists.mp hsome
  obtain ⟨entry, decoded, -, hentry, -, hdecoded, hback, -⟩ :=
    endpoint_reports_round_trip server server_lawful 0 reportTwice st st' hst reporter _ hreports
      hunexpired 5 _ .none query selfDevice peers row pending hp hid hloaded hst'
  exact ⟨st, st', entry, decoded, hst, hst', hentry, hdecoded,
    hback lanReport List.mem_cons_self,
    hback publicReport (List.mem_cons_of_mem _ List.mem_cons_self)⟩

end TfScale.Control
