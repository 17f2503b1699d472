/-
  TfScale.Control.Isolation

  A heartbeat writes to the rows of its own device only.

  The endpoints of all devices stand in one table, under the hash of a text in
  which the device id is joined to strings of the reporter's choice, and an insert
  whose hash is taken writes over the row that is there without asking whose it is.
  The device id comes first in that text and has the same length for every device,
  so the text determines it whatever the strings contain: a row that a report is
  written over belongs to the device that reports.
-/

import TfScale.Control.Reports

namespace TfScale.Control

open ControlState

variable {S : Server} {db db' db₁ db₂ db₃ : Db} {clock : Nat → Timestamp} {deviceId : String}

-- ============================================================================
-- The rows of the other devices
-- ============================================================================

/-- The second database has the rows of the first one, in their order, except for
    endpoints of the device and for its own row. -/
structure ConfinedTo (deviceId : String) (db db' : Db) : Prop where
  endpoints : db'.endpoints.rows.filter (fun r => r.deviceId != deviceId) =
    db.endpoints.rows.filter fun r => r.deviceId != deviceId
  devices : db'.devices.rows.filter (fun d => d.id != deviceId) =
    db.devices.rows.filter fun d => d.id != deviceId
  dnsRecords : db'.dnsRecords = db.dnsRecords
  ipAllocations : db'.ipAllocations = db.ipAllocations
  authKeys : db'.authKeys = db.authKeys

theorem ConfinedTo.refl (deviceId : String) (db : Db) : ConfinedTo deviceId db db :=
  ⟨rfl, rfl, rfl, rfl, rfl⟩

theorem ConfinedTo.trans (h : ConfinedTo deviceId db₁ db₂) (h' : ConfinedTo deviceId db₂ db₃) :
    ConfinedTo deviceId db₁ db₃ where
  endpoints := h'.endpoints.trans h.endpoints
  devices := h'.devices.trans h.devices
  dnsRecords := h'.dnsRecords.trans h.dnsRecords
  ipAllocations := h'.ipAllocations.trans h.ipAllocations
  authKeys := h'.authKeys.trans h.authKeys

-- ============================================================================
-- The statements of a heartbeat
-- ============================================================================

theorem confined_touchDevice (db : Db) (t : Timestamp) :
    ConfinedTo deviceId db (db.touchDevice t deviceId) where
  endpoints := rfl
  devices := by
    have hown : ∀ d : DeviceRow, Db.isLiveDevice deviceId d = true → d.id = deviceId := by
      intro d hd
      rw [Db.isLiveDevice, Bool.and_eq_true, beq_iff_eq] at hd
      exact hd.1
    exact Table.filter_updated (fun d _ hd => bne_eq_false_iff_eq.mpr (hown d hd))
      fun d _ hd => bne_eq_false_iff_eq.mpr (hown d hd)
  dnsRecords := rfl
  ipAllocations := rfl
  authKeys := rfl

theorem confined_pruneEndpoints (db : Db) (t : Timestamp) :
    ConfinedTo deviceId db (db.pruneEndpoints t deviceId) where
  endpoints := by
    refine Table.filter_delete db.endpoints fun r _ hr => bne_eq_false_iff_eq.mpr ?_
    rw [Bool.and_eq_true, beq_iff_eq] at hr
    exact hr.1
  devices := rfl
  dnsRecords := rfl
  ipAllocations := rfl
  authKeys := rfl

/-- The insert of a report, whatever its strings are. -/
theorem confined_storeEndpoint (hS : S.Lawful) {t : Timestamp} {e : EndpointPayload}
    (hdevice : HasIdForm deviceId) (hkeyed : ∀ r ∈ db.endpoints.rows, Keyed S r)
    (hstore : db.storeEndpoint S t deviceId e = .ok db') : ConfinedTo deviceId db db' := by
  obtain ⟨endpoints, hupsert, rfl⟩ := Db.storeEndpoint_ok hstore
  have howner : ∀ r ∈ db.endpoints.rows, (r.id == (Db.reportedRow S t deviceId e).id) = true →
      (r.deviceId != deviceId) = false := fun r hr hid =>
    bne_eq_false_iff_eq.mpr (owner_of_reportedId hS hdevice (hkeyed r hr) hid)
  have hrows : endpoints.rows.filter (fun r => r.deviceId != deviceId) =
      db.endpoints.rows.filter fun r => r.deviceId != deviceId :=
    Table.filter_upsert hupsert (bne_eq_false_iff_eq.mpr rfl) howner howner
  exact ⟨hrows, rfl, rfl, rfl, rfl⟩

/-- The whole transaction: the three statements one after the other, the last one
    once for every report. -/
theorem confined_heartbeatTx (hS : S.Lawful) {request : HeartbeatRequest}
    (hdevice : HasIdForm request.deviceId) (hkeyed : ∀ r ∈ db.endpoints.rows, Keyed S r)
    (hok : db.heartbeatTx S clock request = .ok db') :
    ConfinedTo request.deviceId db db' := by
  have hstart : ConfinedTo request.deviceId db
      ((db.touchDevice (clock 0) request.deviceId).pruneEndpoints (clock 1) request.deviceId) :=
    (confined_touchDevice db _).trans (confined_pruneEndpoints _ _)
  have hkept : ∀ r ∈ ((db.touchDevice (clock 0) request.deviceId).pruneEndpoints (clock 1)
      request.deviceId).endpoints.rows, Keyed S r :=
    fun r hr => hkeyed r (List.mem_filter.mp hr).1
  have hloop := storeEndpoints_invariant
    (fun db' => (∀ r ∈ db'.endpoints.rows, Keyed S r) ∧ ConfinedTo request.deviceId db db')
    (fun i e _ db₁ db₂ hinv hstore =>
      ⟨keyed_storeEndpoint hS hdevice hinv.1 hstore,
        hinv.2.trans (confined_storeEndpoint hS hdevice hinv.1 hstore)⟩)
    ⟨hkept, hstart⟩ hok
  exact hloop.2

-- ============================================================================
-- Any control plane
-- ============================================================================

/-- In every state that the control plane reaches, a heartbeat that is let through
    for a device leaves the rows of the other devices alone: the transaction by
    itself, and the transaction at whatever later moment the request comes to
    commit it. -/
theorem heartbeat_confined_to_device (hS : S.Lawful) {now : Timestamp} {events : List Event}
    {st : ControlState} (hrun : run (step S) (start .empty now) events = some st)
    (request : HeartbeatRequest) :
    (∀ clock db',
      st.db.validateDeviceNodeKey request.deviceId request.nodeKey = .ok () →
      st.db.heartbeatTx S clock request = .ok db' →
        ConfinedTo request.deviceId st.db db') ∧
    (∀ r fresh elapsed st',
      st.requests[r]? = some (.heartbeatValidated request) →
      st.step S (.advance r fresh elapsed) = some st' →
        ConfinedTo request.deviceId st.db st'.db) := by
  have hkeyed := keyedState_of_run hS hrun
  refine ⟨fun clock db' hvalid hok => ?_, fun r fresh elapsed st' hr hstep => ?_⟩
  · exact confined_heartbeatTx hS (hasIdForm_of_validated hkeyed.devices hvalid)
      hkeyed.endpoints hok
  · have hdevice := hkeyed.heartbeats request (List.mem_of_getElem? hr)
    rcases step_db hstep with hsame | ⟨r', p, _, _, _, heq, hp, -, hcommit⟩
    · rw [hsame]
      exact .refl _ _
    · obtain ⟨rfl, -, -⟩ := Event.advance.inj heq
      obtain rfl := Option.some.inj (hr.symm.trans hp)
      cases hcommit with
      | heartbeat hok => exact confined_heartbeatTx hS hdevice hkeyed.endpoints hok

namespace Reference

/-- An endpoint whose strings spell out the text that is hashed for an endpoint of
    another device. -/
def forged (deviceId : String) : EndpointPayload :=
  ⟨"|" ++ deviceId ++ "|lan", "192.168.1.20|51820", 51820, "udp|local", some "||", none, some "|"⟩

/-- Two devices register, the second one reports an endpoint, and a heartbeat of the
    first one with a forged endpoint is let through. -/
def forgeEvents : List Event :=
  [.arrive .createAuthKey, advance 0,
   .arrive (.registerDevice (registration "alpha")), .arrive (.registerDevice (registration "beta")),
   advance 1, advance 1, advance 2, advance 2, advance 1, advance 1, advance 2, advance 2,
   .arrive (.heartbeat ⟨"dev_" ++ simple (uuids 2).device, "node_" ++ simple (uuids 2).node,
     [lanEndpoint]⟩), advance 3, advance 3,
   .arrive (.heartbeat ⟨reporter, "node_" ++ simple (uuids 1).node,
     [forged ("dev_" ++ simple (uuids 2).device)]⟩), advance 4]

end Reference

open Reference in
/-- The forged endpoint is stored beside the one it imitates. -/
theorem heartbeat_confined_forged :
    ∃ (st st' : ControlState) (row : EndpointRow),
      run (step server) (start .empty 0) forgeEvents = some st ∧
      st.step server (advance 4) = some st' ∧
      row.deviceId ≠ reporter ∧ st.db.endpoints.rows = [row] ∧
      st'.db.endpoints.rows.length = 2 ∧ ConfinedTo reporter st.db st'.db := by
  have hrun : (run (step server) (start .empty 0) forgeEvents).any (fun st =>
      (st.db.endpoints.rows.length == 1 && st.db.endpoints.rows.all (·.deviceId != reporter)) &&
      decide (st.requests[(4 : Nat)]? = some (.heartbeatValidated ⟨reporter,
        "node_" ++ simple (uuids 1).node, [forged ("dev_" ++ simple (uuids 2).device)]⟩)) &&
      (st.step server (advance 4)).any fun st' => st'.db.endpoints.rows.length == 2) = true := by
    decide +kernel
  obtain ⟨st, hst, hfacts⟩ := (Option.any_eq_true _ _).mp hrun
  simp only [Bool.and_eq_true, beq_iff_eq, decide_eq_true_eq] at hfacts
  obtain ⟨⟨⟨hlength, hother⟩, hp⟩, hnext⟩ := hfacts
  obtain ⟨row, hrow⟩ := List.length_eq_one_iff.mp hlength
  obtain ⟨st', hstep, htwo⟩ := (Option.any_eq_true _ _).mp hnext
  have hne : row.deviceId ≠ reporter := by
    rw [hrow, List.all_cons, Bool.and_eq_true, bne_iff_ne] at hother
    exact hother.1
  exact ⟨st, st', row, hst, hstep, hne, hrow, beq_iff_eq.mp htwo,
    (heartbeat_confined_to_device server_lawful hst _).2 4 _ _ st' hp hstep⟩

end TfScale.Control
