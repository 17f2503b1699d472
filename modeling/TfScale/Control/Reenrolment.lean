/-
  TfScale.Control.Reenrolment

  Can a machine that was deleted be enrolled again?

  `register_device` looks for a live device with the machine key, while the table
  keeps one row per machine key whether the row is deleted or not.  A request that is
  served alone, with everything in order, therefore fails at its insert exactly when
  the machine was registered and deleted before.
-/

import TfScale.Control.Acceptance
import TfScale.Control.NameAllocation

namespace TfScale.Control

open ControlState

variable {S : Server} {db db' : Db} {clock : Nat → Timestamp} {fresh : Fresh}
variable {request : RegisterDeviceRequest} {hostname ipv4 : String}

-- ============================================================================
-- The transaction
-- ============================================================================

/-- The UUIDs that a registration draws are not in use. -/
structure FreshIds (db : Db) (fresh : Fresh) : Prop where
  device : ∀ d ∈ db.devices.rows, d.id ≠ "dev_" ++ simple fresh.device
  dns : ∀ r ∈ db.dnsRecords.rows, r.id ≠ "dns_" ++ simple fresh.dns
  ip : ∀ r ∈ db.ipAllocations.rows, r.id ≠ "ip_" ++ simple fresh.ip

/-- One of the names that the device can get is free. -/
def SomeNameFree (db : Db) (fresh : Fresh) (hostname : String) : Prop :=
  ∃ name ∈ Db.dnsCandidates ("dev_" ++ simple fresh.device) hostname,
    db.dnsNameAvailable netDefault ("dev_" ++ simple fresh.device) name = true

instance (db : Db) (fresh : Fresh) : Decidable (FreshIds db fresh) :=
  decidable_of_iff ((∀ d ∈ db.devices.rows, d.id ≠ "dev_" ++ simple fresh.device) ∧
      (∀ r ∈ db.dnsRecords.rows, r.id ≠ "dns_" ++ simple fresh.dns) ∧
      ∀ r ∈ db.ipAllocations.rows, r.id ≠ "ip_" ++ simple fresh.ip)
    ⟨fun h => ⟨h.1, h.2.1, h.2.2⟩, fun h => ⟨h.device, h.dns, h.ip⟩⟩

instance (db : Db) (fresh : Fresh) (hostname : String) : Decidable (SomeNameFree db fresh hostname) :=
  inferInstanceAs (Decidable (∃ name ∈ _, _))

theorem poolAddress_inj {i j : Nat} (hi : i < 253) (hj : j < 253) (h : poolAddress i = poolAddress j) :
    i = j := by
  have hparse := parseIpv4Addr_poolAddress hi
  rw [h, parseIpv4Addr_poolAddress hj] at hparse
  have hoctet : UInt8.ofNat (j + 2) = UInt8.ofNat (i + 2) :=
    congrArg Ipv4Addr.d (Option.some.inj hparse)
  have hnat := congrArg UInt8.toNat hoctet
  rw [UInt8.toNat_ofNat', UInt8.toNat_ofNat'] at hnat
  omega

/-- The next address of the pool is not allocated. -/
theorem Allocated.next_free (h : Allocated db) (hpool : db.ipAllocations.rows.length < 253) :
    (∀ r ∈ db.ipAllocations.rows, r.ip ≠ poolAddress db.ipAllocations.rows.length) ∧
      ∀ d ∈ db.devices.rows, d.ipv4 ≠ poolAddress db.ipAllocations.rows.length := by
  have hfree : ∀ r ∈ db.ipAllocations.rows, r.ip ≠ poolAddress db.ipAllocations.rows.length := by
    intro r hr heq
    have hmem : r.ip ∈ (List.range db.ipAllocations.rows.length).map poolAddress :=
      h.addresses ▸ List.mem_map_of_mem hr
    obtain ⟨i, hi, haddress⟩ := List.mem_map.mp hmem
    have hlt := List.mem_range.mp hi
    have hsame := poolAddress_inj (by omega) hpool (haddress.trans heq)
    omega
  refine ⟨hfree, fun d hd heq => ?_⟩
  have hmem : (d.id, d.ipv4) ∈ db.owners := List.mem_map_of_mem hd
  rw [h.owners] at hmem
  obtain ⟨r, hr, hrow⟩ := List.mem_map.mp hmem
  exact hfree r hr ((Prod.mk.inj hrow).2.trans heq)

theorem exists_insert {ρ : Type} [Schema ρ] {t : Table ρ} {row : ρ}
    (h : ∀ r ∈ t.rows, Schema.clash r row = false) : ∃ t', t.insert row = some t' :=
  ⟨_, dif_pos h⟩

theorem availableDnsName_isOk (h : SomeNameFree db fresh hostname) :
    ∃ name, db.availableDnsName netDefault ("dev_" ++ simple fresh.device) hostname = .ok name ∧
      db.dnsNameAvailable netDefault ("dev_" ++ simple fresh.device) name = true := by
  obtain ⟨name, hmem, hfree⟩ := h
  cases hfind : (Db.dnsCandidates ("dev_" ++ simple fresh.device) hostname).find?
      (db.dnsNameAvailable netDefault ("dev_" ++ simple fresh.device)) with
  | none => exact absurd hfree (List.find?_eq_none.mp hfind name hmem)
  | some name' =>
      refine ⟨name', ?_, List.find?_some hfind⟩
      simp only [Db.availableDnsName, hfind]

/-- A free name can be stored for a new device. -/
theorem Mirrors.exists_dnsUpsert (h : Mirrors db) (hfresh : FreshIds db fresh) {name ipv4 : String}
    {now : Timestamp}
    (hfree : db.dnsNameAvailable netDefault ("dev_" ++ simple fresh.device) name = true) :
    ∃ dnsRecords, db.dnsUpsert now fresh.dns netDefault ("dev_" ++ simple fresh.device) name ipv4 =
      some dnsRecords := by
  have hheld := (dnsNameAvailable_iff h.singleNetwork).mp hfree
  exact exists_dnsUpsert_of_free hheld (Or.inr hfresh.dns)

/-- The insert of a registration goes through when nothing in the tables stands in
    its way. -/
theorem registerTx_isOk (hmirrors : Mirrors db) (hallocated : Allocated db)
    (hpool : db.ipAllocations.rows.length < 253) (hfresh : FreshIds db fresh)
    (hname : SomeNameFree db fresh hostname)
    (hkey : ∀ d ∈ db.devices.rows, d.machineKey ≠ request.machineKey) :
    ∃ response db', db.registerTx S clock fresh request hostname
      (poolAddress db.ipAllocations.rows.length) = .ok (response, db') := by
  obtain ⟨haddress, hdevice⟩ := hallocated.next_free hpool
  obtain ⟨name, havailable, hfree⟩ := availableDnsName_isOk hname
  obtain ⟨devices, hdevices⟩ : ∃ devices, db.devices.insert (Db.newDevice (clock 0) fresh request
      hostname (poolAddress db.ipAllocations.rows.length)) = some devices := by
    apply exists_insert
    intro d hd
    rw [deviceClash_eq, Bool.or_eq_false_iff, Bool.or_eq_false_iff, beq_eq_false_iff_ne,
      beq_eq_false_iff_ne, beq_eq_false_iff_ne]
    exact ⟨⟨hfresh.device d hd, hkey d hd⟩, hdevice d hd⟩
  obtain ⟨dnsRecords, hdns⟩ : ∃ dnsRecords, db.dnsUpsert (clock 1) fresh.dns netDefault
      ("dev_" ++ simple fresh.device) name (poolAddress db.ipAllocations.rows.length) =
        some dnsRecords :=
    hmirrors.exists_dnsUpsert hfresh hfree
  obtain ⟨ipAllocations, hip⟩ : ∃ ipAllocations, db.ipAllocations.insert ⟨"ip_" ++ simple fresh.ip,
      netDefault, "dev_" ++ simple fresh.device, poolAddress db.ipAllocations.rows.length, "assigned"⟩ =
        some ipAllocations := by
    apply exists_insert
    intro r hr
    rw [show Schema.clash r _ = (r.id == _ || r.ip == _) from rfl, Bool.or_eq_false_iff,
      beq_eq_false_iff_ne, beq_eq_false_iff_ne]
    exact ⟨hfresh.ip r hr, haddress r hr⟩
  have hupsert : Db.upsertDeviceDnsRecord S { db with devices } (clock 1) fresh.dns netDefault
      ("dev_" ++ simple fresh.device) hostname (poolAddress db.ipAllocations.rows.length) =
      .ok { db with devices, dnsRecords } := by
    refine Api.bind_eq_ok.mpr ⟨name, havailable, Api.bind_eq_ok.mpr ⟨dnsRecords, ?_, rfl⟩⟩
    exact (orUnique_eq_ok S).mpr hdns
  refine ⟨_, _, Api.bind_eq_ok.mpr ⟨devices, (orUnique_eq_ok S).mpr hdevices,
    Api.bind_eq_ok.mpr ⟨_, hupsert, Api.bind_eq_ok.mpr ⟨ipAllocations, (orUnique_eq_ok S).mpr hip, rfl⟩⟩⟩⟩

/-- A row with the machine key stands in its way, deleted or not. -/
theorem registerTx_eq_error {d : DeviceRow} (hd : d ∈ db.devices.rows)
    (hkey : d.machineKey = request.machineKey) :
    db.registerTx S clock fresh request hostname ipv4 = .error (fromSqlx S (.unique "devices")) := by
  have hinsert : db.devices.insert (Db.newDevice (clock 0) fresh request hostname ipv4) = none := by
    refine dif_neg fun hfree => ?_
    have hclash := hfree d hd
    rw [deviceClash_eq, show (Db.newDevice (clock 0) fresh request hostname ipv4).machineKey =
      request.machineKey from rfl, hkey, beq_self_eq_true, Bool.or_true] at hclash
    cases hclash
  rw [Db.registerTx, hinsert]
  rfl

-- ============================================================================
-- A request that is served alone
-- ============================================================================

section Alone

variable {st : ControlState} {draws : Nat → Fresh} {elapsed : Nat → Elapsed}

/-- The request arrives and takes `k` steps, with no other request in between. -/
def alone (st : ControlState) (request : RegisterDeviceRequest) (draws : Nat → Fresh)
    (elapsed : Nat → Elapsed) (k : Nat) : List Event :=
  .arrive (.registerDevice request) ::
    (List.range k).map fun i => .advance st.requests.length (draws i) (elapsed i)

/-- Where the request is after `k` steps, and the database then. -/
def Reaches (S : Server) (st : ControlState) (request : RegisterDeviceRequest) (draws : Nat → Fresh)
    (elapsed : Nat → Elapsed) (k : Nat) (p : Process) (db : Db) : Prop :=
  ∃ s, run (step S) st (alone st request draws elapsed k) = some s ∧
    s.requests = st.requests ++ [p] ∧ s.db = db

theorem reaches_zero : Reaches S st request draws elapsed 0 (.registerReceived request) st.db :=
  ⟨_, rfl, rfl, rfl⟩

/-- The next step, at whatever time it is taken. -/
theorem Reaches.succ {k : Nat} {p : Process} (h : Reaches S st request draws elapsed k p db) :
    ∃ clock, ∀ p' db', p.next S db clock (draws k) = some (p', db') →
      Reaches S st request draws elapsed (k + 1) p' db' := by
  obtain ⟨s, hrun, hrequests, rfl⟩ := h
  refine ⟨(elapsed k).clock s.now, fun p' db' hnext => ?_⟩
  have hp : s.requests[st.requests.length]? = some p := by
    rw [hrequests, List.getElem?_concat_length]
  have hevents : alone st request draws elapsed (k + 1) =
      alone st request draws elapsed k ++ [.advance st.requests.length (draws k) (elapsed k)] := by
    rw [alone, alone, List.range_succ, List.map_append, List.cons_append]
    rfl
  refine ⟨⟨db', s.now + (elapsed k).total, s.requests.set st.requests.length p',
    s.admitted ++ (admission p p').toList⟩, ?_, ?_, rfl⟩
  · rw [hevents, run_append_eq_some]
    exact ⟨s, hrun, run_cons_eq_some.mpr ⟨_, step_advance.mpr ⟨p, p', db', hp, hnext, rfl⟩, rfl⟩⟩
  · show s.requests.set st.requests.length p' = _
    rw [hrequests, List.set_append_right _ _ (Nat.le_refl _), Nat.sub_self]
    rfl

/-- The key of the request is known, not revoked and not used. -/
def KeyUsable (S : Server) (db : Db) (authKey : String) : Prop :=
  ∃ row, db.authKey (hashSecret S authKey) = some row ∧ row.revokedAt = none ∧ row.usedAt = none

theorem keyUsable_iff {authKey : String} : KeyUsable S db authKey ↔
    (db.authKey (hashSecret S authKey)).any (fun row => row.revokedAt.isNone && row.usedAt.isNone) =
      true := by
  rw [Option.any_eq_true]
  refine exists_congr fun row => and_congr Iff.rfl ?_
  rw [Bool.and_eq_true, Option.isNone_iff_eq_none, Option.isNone_iff_eq_none]

theorem findExistingDevice_eq_none
    (h : ∀ d ∈ db.devices.rows, d.machineKey = request.machineKey → d.live = false) :
    db.findExistingDevice request.machineKey = none := by
  rw [Db.findExistingDevice, Option.map_eq_none_iff, List.find?_eq_none]
  intro d hd hfound
  rw [Bool.and_eq_true, beq_iff_eq] at hfound
  exact Bool.false_ne_true ((h d hd hfound.1).symm.trans hfound.2)

/-- A machine without a live device gets as far as its insert. -/
theorem reaches_allocated (hkey : KeyUsable S st.db request.authKey)
    (hhostname : normalizeHostname request.hostname = .ok hostname)
    (hpool : st.db.ipAllocations.rows.length < 253)
    (hnone : ∀ d ∈ st.db.devices.rows, d.machineKey = request.machineKey → d.live = false) :
    Reaches S st request draws elapsed 3
      (.registerAllocated request hostname (poolAddress st.db.ipAllocations.rows.length)) st.db := by
  have hunknown : Reaches S st request draws elapsed 1 (.registerUnknown request) st.db := by
    have hreceived : Reaches S st request draws elapsed 0 (.registerReceived request) st.db :=
      reaches_zero
    obtain ⟨clock, hnext⟩ := hreceived.succ
    refine hnext _ _ ?_
    simp only [Process.next, Process.registerFind, findExistingDevice_eq_none hnone]
  have hvalidated : Reaches S st request draws elapsed 2 (.registerValidated request hostname) st.db := by
    obtain ⟨clock, hnext⟩ := hunknown.succ
    refine hnext _ _ ?_
    obtain ⟨row, hrow, hrevoked, hused⟩ := hkey
    have hvalid : st.db.validateAuthKey S request.authKey = .ok () := by
      simp [Db.validateAuthKey, hrow, hrevoked, hused]
    simp only [Process.next, Process.registerValidate, hvalid, hhostname]
  obtain ⟨clock, hnext⟩ := hvalidated.succ
  refine hnext _ _ ?_
  have hallocate : st.db.allocateIpv4 = .ok (poolAddress st.db.ipAllocations.rows.length) := by
    simp only [Db.allocateIpv4]
    rw [if_neg (by omega)]
    rfl
  simp only [Process.next, Process.registerAllocate, hallocate]

/-- The request succeeds: with the live device that has the machine key, or with a
    new one. -/
def Enrols (S : Server) (st : ControlState) (request : RegisterDeviceRequest) (draws : Nat → Fresh)
    (elapsed : Nat → Elapsed) : Prop :=
  ∃ k st' d, run (step S) st (alone st request draws elapsed k) = some st' ∧
    st'.requests[st.requests.length]? = some (.done (.registered (.ok d.registered))) ∧
    d.live = true ∧ d.machineKey = request.machineKey ∧
    (d ∈ st.db.devices.rows ∧ st'.db = st.db ∨ st'.db.devices.rows = st.db.devices.rows ++ [d])

/-- The request ends with the error of the table of devices. -/
def Refused (S : Server) (st : ControlState) (request : RegisterDeviceRequest) (draws : Nat → Fresh)
    (elapsed : Nat → Elapsed) : Prop :=
  ∃ k st', run (step S) st (alone st request draws elapsed k) = some st' ∧ st'.db = st.db ∧
    st'.requests[st.requests.length]? =
      some (.done (.registered (.error (fromSqlx S (.unique "devices")))))

theorem Reaches.getElem {k : Nat} {p : Process} (h : Reaches S st request draws elapsed k p db) :
    ∃ s, run (step S) st (alone st request draws elapsed k) = some s ∧
      s.requests[st.requests.length]? = some p ∧ s.db = db := by
  obtain ⟨s, hrun, hrequests, hdb⟩ := h
  refine ⟨s, hrun, ?_, hdb⟩
  rw [hrequests, List.getElem?_concat_length]

theorem machineKey_unique {d d' : DeviceRow} (hd : d ∈ db.devices.rows) (hd' : d' ∈ db.devices.rows)
    (h : d.machineKey = d'.machineKey) : d = d' := by
  refine Table.eq_of_clash hd hd' ?_
  rw [deviceClash_eq, h, beq_self_eq_true, Bool.or_true, Bool.true_or]

/-- A machine with a live device is given that device. -/
theorem enrols_existing {d : DeviceRow} (hd : d ∈ st.db.devices.rows) (hlive : d.live = true)
    (hkey : d.machineKey = request.machineKey) : Enrols S st request draws elapsed := by
  have hfind : st.db.findExistingDevice request.machineKey = some d.registered := by
    rw [Db.findExistingDevice, Option.map_eq_some_iff]
    cases hfound : st.db.devices.rows.find? fun d => d.machineKey == request.machineKey && d.live with
    | none =>
        refine absurd ?_ (List.find?_eq_none.mp hfound d hd)
        rw [hkey, hlive, beq_self_eq_true, Bool.true_and]
    | some d' =>
        have hmatches := List.find?_some hfound
        rw [Bool.and_eq_true, beq_iff_eq] at hmatches
        have hsame : d' = d :=
          machineKey_unique (List.mem_of_find?_eq_some hfound) hd (hmatches.1.trans hkey.symm)
        exact ⟨d', rfl, by rw [hsame]; rfl⟩
  have hreceived : Reaches S st request draws elapsed 0 (.registerReceived request) st.db :=
    reaches_zero
  obtain ⟨clock, hnext⟩ := hreceived.succ
  have hdone : Reaches S st request draws elapsed 1 (.done (.registered (.ok d.registered))) st.db := by
    refine hnext _ _ ?_
    simp only [Process.next, Process.registerFind, hfind]
  obtain ⟨s, hrun, hreply, hdb⟩ := hdone.getElem
  exact ⟨1, s, d, hrun, hreply, hlive, hkey, Or.inl ⟨hd, hdb⟩⟩

/-- A machine without a row is given a new device. -/
theorem enrols_new (hmirrors : Mirrors st.db) (hallocated : Allocated st.db)
    (hkey : KeyUsable S st.db request.authKey) (hhostname : normalizeHostname request.hostname = .ok hostname)
    (hpool : st.db.ipAllocations.rows.length < 253) (hfresh : FreshIds st.db (draws 3))
    (hname : SomeNameFree st.db (draws 3) hostname)
    (hnew : ∀ d ∈ st.db.devices.rows, d.machineKey ≠ request.machineKey) :
    Enrols S st request draws elapsed := by
  have hallocate : Reaches S st request draws elapsed 3 _ st.db :=
    reaches_allocated hkey hhostname hpool fun d hd heq => absurd heq (hnew d hd)
  obtain ⟨clock, hnext⟩ := hallocate.succ
  obtain ⟨response, db', hok⟩ : ∃ response db', st.db.registerTx S clock (draws 3) request hostname
      (poolAddress st.db.ipAllocations.rows.length) = .ok (response, db') :=
    registerTx_isOk hmirrors hallocated hpool hfresh hname hnew
  obtain ⟨devices, _, _, _, hinsert, -, -, hdb', hresponse, -⟩ := Db.registerTx_ok hok
  have hdone : Reaches S st request draws elapsed 4 (.done (.registered (.ok response))) db' := by
    refine hnext _ _ ?_
    simp only [Process.next, Process.registerInsert, hok]
  obtain ⟨s, hrun, hreply, hdb⟩ := hdone.getElem
  refine ⟨4, s, Db.newDevice (clock 0) (draws 3) request hostname
    (poolAddress st.db.ipAllocations.rows.length), hrun, ?_, rfl, rfl, Or.inr ?_⟩
  · rw [hreply, hresponse]
    rfl
  · rw [hdb, hdb']
    exact (Table.insert_eq_some.mp hinsert).2

/-- A machine whose row is deleted is refused at the insert. -/
theorem refused_deleted {d : DeviceRow} (hkey : KeyUsable S st.db request.authKey)
    (hhostname : normalizeHostname request.hostname = .ok hostname)
    (hpool : st.db.ipAllocations.rows.length < 253) (hd : d ∈ st.db.devices.rows)
    (hmachine : d.machineKey = request.machineKey) (hdeleted : d.live = false) :
    Refused S st request draws elapsed := by
  -- the row is the only one with the machine key
  have hnone : ∀ d' ∈ st.db.devices.rows, d'.machineKey = request.machineKey → d'.live = false := by
    intro d' hd' hkey'
    rw [machineKey_unique hd' hd (hkey'.trans hmachine.symm)]
    exact hdeleted
  have hallocate : Reaches S st request draws elapsed 3 _ st.db :=
    reaches_allocated hkey hhostname hpool hnone
  obtain ⟨clock, hnext⟩ := hallocate.succ
  have herror : Reaches S st request draws elapsed 4
      (.done (.registered (.error (fromSqlx S (.unique "devices"))))) st.db := by
    refine hnext _ _ ?_
    simp only [Process.next, Process.registerInsert, registerTx_eq_error hd hmachine]
  obtain ⟨s, hrun, hreply, hdb⟩ := herror.getElem
  exact ⟨4, s, hrun, hdb, hreply⟩

/-- A success leaves no deleted row with the machine key. -/
theorem Enrols.live (h : Enrols S st request draws elapsed) {d : DeviceRow}
    (hd : d ∈ st.db.devices.rows) (hkey : d.machineKey = request.machineKey) : d.live = true := by
  obtain ⟨_, st', d', -, -, hlive, hkey', ⟨hd', -⟩ | hrows⟩ := h
  · rw [machineKey_unique hd hd' (hkey.trans hkey'.symm)]
    exact hlive
  · have hunique := st'.db.devices.unique
    rw [hrows] at hunique
    have hclash := (List.pairwise_append.mp hunique).2.2 d hd d' (List.mem_singleton.mpr rfl)
    rw [deviceClash_eq, hkey, hkey', beq_self_eq_true, Bool.or_true] at hclash
    cases hclash

namespace ControlState

/-- **When a machine can be enrolled.**  In every state that is reached from an empty
    database, a registration with a valid host name and a usable key, served alone with
    an address and a name to give out, succeeds with the live device of the machine or
    with a new one exactly when no deleted row has the machine key; else it ends with
    the error of the insert. -/
theorem enrolment_succeeds_iff (S : Server) (now : Timestamp) (events : List Event) (st : ControlState)
    (h : run (step S) (start .empty now) events = some st)
    (request : RegisterDeviceRequest) (hostname : String)
    (hhostname : normalizeHostname request.hostname = .ok hostname)
    (hkey : KeyUsable S st.db request.authKey)
    (hpool : st.db.ipAllocations.rows.length < 253)
    (draws : Nat → Fresh) (elapsed : Nat → Elapsed) (hfresh : FreshIds st.db (draws 3))
    (hname : SomeNameFree st.db (draws 3) hostname) :
    (Enrols S st request draws elapsed ↔
        ∀ d ∈ st.db.devices.rows, d.machineKey = request.machineKey → d.live = true) ∧
      (¬ Enrols S st request draws elapsed → Refused S st request draws elapsed) := by
  have hmirrors := mirrors_of_run h
  have hallocated := (addressInv_of_run h).allocated
  by_cases hany : ∃ d ∈ st.db.devices.rows, d.machineKey = request.machineKey
  · obtain ⟨d, hd, hmachine⟩ := hany
    by_cases hlive : d.live = true
    · have henrols : Enrols S st request draws elapsed := enrols_existing hd hlive hmachine
      exact ⟨⟨fun _ d' hd' hkey' => henrols.live hd' hkey', fun _ => henrols⟩,
        fun hnot => absurd henrols hnot⟩
    · refine ⟨⟨fun henrols => absurd (henrols.live hd hmachine) hlive,
        fun hall => absurd (hall d hd hmachine) hlive⟩, fun _ => ?_⟩
      exact refused_deleted hkey hhostname hpool hd hmachine (Bool.eq_false_iff.mpr hlive)
  · have hnew : ∀ d ∈ st.db.devices.rows, d.machineKey ≠ request.machineKey :=
      fun d hd heq => hany ⟨d, hd, heq⟩
    have henrols : Enrols S st request draws elapsed :=
      enrols_new hmirrors hallocated hkey hhostname hpool hfresh hname hnew
    exact ⟨⟨fun _ d hd heq => absurd heq (hnew d hd), fun _ => henrols⟩,
      fun hnot => absurd henrols hnot⟩

end ControlState

end Alone

namespace Reference

/-- The secret of the key that request `1` creates. -/
def spareSecret : String := "tfk_" ++ simple (uuids 1).authKeySecret

/-- Two keys are created; a machine registers with the first one, and is deleted. -/
def registerAndDelete : List Event :=
  [.arrive .createAuthKey, advance 0, .arrive .createAuthKey, advance 1,
   .arrive (.registerDevice (registration "alpha")), advance 2, advance 2, advance 2, advance 2,
   .arrive (.deleteDevice ("dev_" ++ simple (uuids 2).device)), advance 3]

/-- A registration of the named machine with the second key. -/
def spareRegistration (name : String) : RegisterDeviceRequest :=
  { registration name with authKey := spareSecret }

end Reference

open Reference in
/-- Another machine is enrolled. -/
theorem enrolment_succeeds_other_machine :
    ∃ st, run (step server) (start .empty 0) registerAndDelete = some st ∧
      st.db.devices.rows.map (fun d => (d.machineKey, d.live)) = [("machine-alpha", false)] ∧
      Enrols server st (spareRegistration "beta") (fun _ => uuids 4) fun _ => .none := by
  have hrun : (run (step server) (start .empty 0) registerAndDelete).any (fun st =>
      (st.db.authKey (hashSecret server spareSecret)).any (fun row =>
        row.revokedAt.isNone && row.usedAt.isNone) &&
      decide (st.db.ipAllocations.rows.length < 253 ∧ FreshIds st.db (uuids 4) ∧
        SomeNameFree st.db (uuids 4) "beta" ∧
        st.db.devices.rows.map (fun d => (d.machineKey, d.live)) = [("machine-alpha", false)])) =
      true := by
    decide +kernel
  obtain ⟨st, hst, hfacts⟩ := (Option.any_eq_true _ _).mp hrun
  rw [Bool.and_eq_true, decide_eq_true_eq] at hfacts
  obtain ⟨hkey, hpool, hfresh, hname, hdevices⟩ := hfacts
  have hlive : ∀ d ∈ st.db.devices.rows, d.machineKey = "machine-beta" → d.live = true := by
    intro d hd hmachine
    have hmem := List.mem_map_of_mem (f := fun d : DeviceRow => (d.machineKey, d.live)) hd
    rw [hdevices, List.mem_singleton, hmachine] at hmem
    exact absurd (Prod.mk.inj hmem).1 (by decide)
  refine ⟨st, hst, hdevices, ?_⟩
  exact (enrolment_succeeds_iff server 0 registerAndDelete st hst (spareRegistration "beta") "beta"
    (by decide +kernel) (keyUsable_iff.mpr hkey) hpool (fun _ => uuids 4) (fun _ => .none) hfresh
    hname).1.mpr hlive

open Reference in
/-- The machine that was deleted is not, though its key and its host name are in
    order, an address and a name are free, and no other request is under way. -/
theorem deleted_machine_not_enrolled :
    ∃ st st', run (step server) (start .empty 0) registerAndDelete = some st ∧
      normalizeHostname (spareRegistration "alpha").hostname = .ok "alpha" ∧
      KeyUsable server st.db (spareRegistration "alpha").authKey ∧
      st.db.ipAllocations.rows.length = 1 ∧ FreshIds st.db (uuids 4) ∧
      SomeNameFree st.db (uuids 4) "alpha" ∧
      run (step server) st
        (alone st (spareRegistration "alpha") (fun _ => uuids 4) (fun _ => .none) 4) = some st' ∧
      st'.requests[4]? =
        some (.done (.registered (.error ⟨.internalServerError, "database error"⟩))) ∧
      ¬ Enrols server st (spareRegistration "alpha") (fun _ => uuids 4) fun _ => .none := by
  have hrun : (run (step server) (start .empty 0) registerAndDelete).any (fun st =>
      (st.db.authKey (hashSecret server spareSecret)).any (fun row =>
        row.revokedAt.isNone && row.usedAt.isNone) &&
      decide (st.db.ipAllocations.rows.length = 1 ∧ FreshIds st.db (uuids 4) ∧
        SomeNameFree st.db (uuids 4) "alpha" ∧
        st.db.devices.rows.map (fun d => (d.machineKey, d.live)) = [("machine-alpha", false)]) &&
      (run (step server) st
        (alone st (spareRegistration "alpha") (fun _ => uuids 4) (fun _ => .none) 4)).any
        fun st' : ControlState => decide (st'.requests[(4 : Nat)]? =
          some (.done (.registered (.error ⟨.internalServerError, "database error"⟩))))) = true := by
    decide +kernel
  obtain ⟨st, hst, hfacts⟩ := (Option.any_eq_true _ _).mp hrun
  rw [Bool.and_eq_true, Bool.and_eq_true, decide_eq_true_eq] at hfacts
  obtain ⟨⟨hkey, hpool, hfresh, hname, hdevices⟩, hserved⟩ := hfacts
  obtain ⟨st', hst', hreply⟩ := (Option.any_eq_true _ _).mp hserved
  refine ⟨st, st', hst, by decide +kernel, keyUsable_iff.mpr hkey, hpool, hfresh, hname, hst',
    of_decide_eq_true hreply, fun henrols => ?_⟩
  obtain ⟨d, hd, hrow⟩ : ∃ d ∈ st.db.devices.rows, (d.machineKey, d.live) = ("machine-alpha", false) := by
    have hmem : ("machine-alpha", false) ∈ st.db.devices.rows.map fun d => (d.machineKey, d.live) := by
      rw [hdevices]
      exact List.mem_singleton.mpr rfl
    exact List.mem_map.mp hmem
  obtain ⟨hmachine, hdeleted⟩ := Prod.mk.inj hrow
  have hlive := henrols.live hd hmachine
  rw [hdeleted] at hlive
  cases hlive

end TfScale.Control
