/-
  TfScale.Control.DnsMirror

  Do the DNS records describe the devices that are there?

  Registration, renaming and deletion each write the row of a device and its record
  in one transaction.  `Mirrors` says that the records and the live devices belong
  together one to one, and that each record says what its device's row says; every
  transaction keeps it, so it holds in every state reached from an empty database.
-/

import TfScale.Lib.Run
import TfScale.Control.Requests

namespace TfScale.Control

open ControlState

variable {S : Server} {db db' : Db} {clock : Nat → Timestamp} {fresh : Fresh} {p : Process}

-- ============================================================================
-- A record and its device
-- ============================================================================

/-- The record says what the row of the device says. -/
structure Describes (r : DnsRecordRow) (d : DeviceRow) : Prop where
  deviceId : r.deviceId = d.id
  networkId : r.networkId = netDefault
  recordType : r.recordType = "A"
  value : r.value = d.ipv4
  name : r.name ∈ Db.dnsCandidates d.id d.hostname

structure Mirrors (db : Db) : Prop where
  /-- every record is that of a live device -/
  owner : ∀ r ∈ db.dnsRecords.rows, ∃ d ∈ db.devices.rows, d.live = true ∧ Describes r d
  /-- every live device has a record -/
  record : ∀ d ∈ db.devices.rows, d.live = true → ∃ r ∈ db.dnsRecords.rows, r.deviceId = d.id

theorem mirrors_empty : Mirrors .empty where
  owner := fun r hr => by cases hr
  record := fun d hd => by cases hd

theorem availableDnsName_mem {networkId deviceId hostname name : String}
    (h : db.availableDnsName networkId deviceId hostname = .ok name) :
    name ∈ Db.dnsCandidates deviceId hostname := by
  unfold Db.availableDnsName at h
  split at h
  · rename_i name' hfind
    obtain rfl := Except.ok.inj h
    exact List.mem_of_find?_eq_some hfind
  · cases h

/-- What the names are. -/
theorem mem_dnsCandidates {deviceId hostname name : String}
    (h : name ∈ Db.dnsCandidates deviceId hostname) :
    name = hostname ++ ".mesh" ∨ name = hostname ++ "-" ++ deviceDnsSuffix deviceId ++ ".mesh" ∨
      ∃ k, 2 ≤ k ∧ k ≤ 99 ∧
        name = hostname ++ "-" ++ deviceDnsSuffix deviceId ++ "-" ++ toString k ++ ".mesh" := by
  rcases List.mem_cons.mp h with rfl | h
  · exact Or.inl rfl
  · rcases List.mem_cons.mp h with rfl | h
    · exact Or.inr (Or.inl rfl)
    · obtain ⟨k, hk, rfl⟩ := List.mem_map.mp h
      have hbounds := List.mem_range'_1.mp hk
      exact Or.inr (Or.inr ⟨k, hbounds.1, by omega, rfl⟩)

-- ============================================================================
-- The transactions
-- ============================================================================

/-- The records stay, and so does what they say of the devices. -/
theorem Mirrors.congr (h : Mirrors db) (hdns : db'.dnsRecords = db.dnsRecords)
    (hdevices : db'.devices.rows.map (fun d => (d.id, d.live, d.ipv4, d.hostname)) =
      db.devices.rows.map fun d => (d.id, d.live, d.ipv4, d.hostname)) : Mirrors db' := by
  refine ⟨fun r hr => ?_, fun d' hd' hlive' => ?_⟩
  · obtain ⟨d, hd, hlive, hdescribes⟩ := h.owner r (hdns ▸ hr)
    have hmem := List.mem_map_of_mem (f := fun d => (d.id, d.live, d.ipv4, d.hostname)) hd
    rw [← hdevices] at hmem
    obtain ⟨d', hd', heq⟩ := List.mem_map.mp hmem
    obtain ⟨hid, hlive', hipv4, hhostname⟩ :
        d'.id = d.id ∧ d'.live = d.live ∧ d'.ipv4 = d.ipv4 ∧ d'.hostname = d.hostname := by
      simpa using heq
    refine ⟨d', hd', hlive'.trans hlive, ?_⟩
    exact ⟨by rw [hid]; exact hdescribes.deviceId, hdescribes.networkId, hdescribes.recordType,
      by rw [hipv4]; exact hdescribes.value, by rw [hid, hhostname]; exact hdescribes.name⟩
  · have hmem := List.mem_map_of_mem (f := fun d => (d.id, d.live, d.ipv4, d.hostname)) hd'
    rw [hdevices] at hmem
    obtain ⟨d, hd, heq⟩ := List.mem_map.mp hmem
    obtain ⟨hid, hlive, -, -⟩ :
        d.id = d'.id ∧ d.live = d'.live ∧ d.ipv4 = d'.ipv4 ∧ d.hostname = d'.hostname := by
      simpa using heq
    obtain ⟨r, hr, hdevice⟩ := h.record d hd (hlive.trans hlive')
    exact ⟨r, hdns ▸ hr, hdevice.trans hid⟩

/-- A device that is registered gets a record of its own: no record names it yet. -/
theorem Mirrors.register (h : Mirrors db) {request : RegisterDeviceRequest} {hostname ipv4 : String}
    {response : RegisterDeviceResponse}
    (hok : db.registerTx S clock fresh request hostname ipv4 = .ok (response, db')) :
    Mirrors db' := by
  obtain ⟨devices, name, dnsRecords, _, hinsert, hupsert, -, rfl, -, hname⟩ := Db.registerTx_ok hok
  obtain ⟨hfree, hdevices⟩ := Table.insert_eq_some.mp hinsert
  have hnew : ∀ r ∈ db.dnsRecords.rows,
      r.deviceId ≠ (Db.newDevice (clock 0) fresh request hostname ipv4).id := by
    intro r hr heq
    obtain ⟨d, hd, -, hdescribes⟩ := h.owner r hr
    have hclash := hfree d hd
    rw [deviceClash_eq, ← hdescribes.deviceId, heq, beq_self_eq_true, Bool.true_or,
      Bool.true_or] at hclash
    cases hclash
  rcases Table.upsert_cases hupsert with ⟨hany, -⟩ | ⟨-, -, hdns⟩
  · obtain ⟨r, hr, htarget⟩ := List.any_eq_true.mp hany
    rw [Bool.and_eq_true, beq_iff_eq] at htarget
    exact absurd htarget.1 (hnew r hr)
  · refine ⟨fun r hr => ?_, fun d hd hlive => ?_⟩
    · rcases List.mem_append.mp (hdns ▸ hr) with hr | hr
      · obtain ⟨d, hd, hlive, hdescribes⟩ := h.owner r hr
        exact ⟨d, hdevices ▸ List.mem_append_left _ hd, hlive, hdescribes⟩
      · rw [List.mem_singleton.mp hr]
        refine ⟨_, hdevices ▸ List.mem_append_right _ (List.mem_singleton.mpr rfl), rfl, ?_⟩
        exact ⟨rfl, rfl, rfl, rfl, availableDnsName_mem hname⟩
    · rcases List.mem_append.mp (hdevices ▸ hd) with hd | hd
      · obtain ⟨r, hr, hdevice⟩ := h.record d hd hlive
        exact ⟨r, hdns ▸ List.mem_append_left _ hr, hdevice⟩
      · rw [List.mem_singleton.mp hd]
        exact ⟨_, hdns ▸ List.mem_append_right _ (List.mem_singleton.mpr rfl), rfl⟩

/-- A device that is renamed has a record, which takes the new name. -/
theorem Mirrors.rename (h : Mirrors db) {deviceId hostname : String}
    (hok : db.renameTx S clock fresh deviceId hostname = .ok db') : Mirrors db' := by
  obtain ⟨d₀, name, dnsRecords, ⟨hd₀, hlive₀⟩, hname, hupsert, rfl⟩ := Db.renameTx_ok hok
  obtain ⟨hid₀, hlive₀⟩ := Db.isLiveDevice_iff.mp hlive₀
  obtain ⟨r₀, hr₀, hdevice₀⟩ := h.record d₀ hd₀ hlive₀
  have htarget : ∀ r ∈ db.dnsRecords.rows,
      (r.deviceId == deviceId && r.recordType == "A") = true ↔ r.deviceId = deviceId := by
    intro r hr
    obtain ⟨_, _, _, hdescribes⟩ := h.owner r hr
    rw [hdescribes.recordType, beq_self_eq_true, Bool.and_true, beq_iff_eq]
  have hdns : dnsRecords.rows = Table.updated db.dnsRecords.rows
      (fun r => r.deviceId == deviceId && r.recordType == "A")
      fun r => { r with name, value := d₀.ipv4, updatedAt := clock 2 } :=
    Table.upsert_of_target hupsert hr₀ ((htarget r₀ hr₀).mpr (hdevice₀.trans hid₀))
  refine ⟨fun r' hr' => ?_, fun d' hd' hlive' => ?_⟩
  · have hr'' : r' ∈ dnsRecords.rows := hr'
    rw [hdns] at hr''
    obtain ⟨r, hr, rfl⟩ := List.mem_map.mp hr''
    obtain ⟨d, hd, hlive, hdescribes⟩ := h.owner r hr
    by_cases hown : r.deviceId = deviceId
    · -- the record of the device itself
      have hd_eq : d = d₀ := device_unique hd hd₀ (hdescribes.deviceId.symm.trans (hown.trans hid₀.symm))
      subst hd_eq
      refine ⟨{ d with hostname, updatedAt := clock 0 }, ?_, hlive, ?_⟩
      · refine List.mem_map.mpr ⟨d, hd, ?_⟩
        rw [if_pos (Db.isLiveDevice_iff.mpr ⟨hid₀, hlive⟩)]
      · rw [if_pos ((htarget r hr).mpr hown)]
        exact ⟨hdescribes.deviceId, hdescribes.networkId, hdescribes.recordType, rfl,
          hid₀ ▸ availableDnsName_mem hname⟩
    · have hne : d.id ≠ deviceId := fun heq => hown (hdescribes.deviceId.trans heq)
      refine ⟨d, List.mem_map.mpr ⟨d, hd, ?_⟩, hlive, ?_⟩
      · rw [if_neg fun heq => hne (Db.isLiveDevice_iff.mp heq).1]
      · rw [if_neg fun heq => hown ((htarget r hr).mp heq)]
        exact hdescribes
  · obtain ⟨d, hd, rfl⟩ := List.mem_map.mp hd'
    have hlive : d.live = true := by
      split at hlive' <;> exact hlive'
    obtain ⟨r, hr, hdevice⟩ := h.record d hd hlive
    have hids : dnsRecords.rows.map (·.deviceId) = db.dnsRecords.rows.map (·.deviceId) := by
      rw [hdns]
      exact Table.map_updated _ fun _ _ _ => rfl
    have hmem : r.deviceId ∈ dnsRecords.rows.map (·.deviceId) := hids ▸ List.mem_map_of_mem hr
    obtain ⟨r', hr', hsame⟩ := List.mem_map.mp hmem
    refine ⟨r', hr', hsame.trans (hdevice.trans ?_)⟩
    split <;> rfl

/-- The records of a device go with it. -/
theorem Mirrors.delete (h : Mirrors db) {deviceId : String}
    (hok : db.deleteTx clock deviceId = .ok db') : Mirrors db' := by
  obtain rfl := Db.deleteTx_ok hok
  refine ⟨fun r hr => ?_, fun d' hd' hlive' => ?_⟩
  · obtain ⟨hr, hkept⟩ := List.mem_filter.mp hr
    obtain ⟨d, hd, hlive, hdescribes⟩ := h.owner r hr
    have hne : d.id ≠ deviceId := by
      rw [← hdescribes.deviceId]
      simpa using hkept
    refine ⟨d, List.mem_map.mpr ⟨d, hd, ?_⟩, hlive, hdescribes⟩
    rw [if_neg fun heq => hne (Db.isLiveDevice_iff.mp heq).1]
  · obtain ⟨d, hd, rfl⟩ := List.mem_map.mp hd'
    by_cases hdeleted : Db.isLiveDevice deviceId d = true
    · rw [if_pos hdeleted] at hlive'
      cases hlive'
    · rw [if_neg hdeleted] at hlive' ⊢
      have hne : d.id ≠ deviceId := fun heq => hdeleted (Db.isLiveDevice_iff.mpr ⟨heq, hlive'⟩)
      obtain ⟨r, hr, hdevice⟩ := h.record d hd hlive'
      refine ⟨r, List.mem_filter.mpr ⟨hr, ?_⟩, hdevice⟩
      simpa [hdevice] using hne

theorem Commit.mirrors (hcommit : Commit S clock fresh db p db') (h : Mirrors db) : Mirrors db' := by
  cases hcommit with
  | createAuthKey hok =>
      obtain ⟨_, _, -, -, -, rfl⟩ := Db.createAuthKey_ok hok
      exact h.congr rfl rfl
  | register hok => exact h.register hok
  | rename _ hok => exact h.rename hok
  | delete hok => exact h.delete hok
  | heartbeat hok =>
      obtain ⟨_, rfl⟩ := Db.storeEndpoints_ok hok
      exact h.congr rfl (Table.map_updated _ fun _ _ _ => rfl)

-- ============================================================================
-- Whole runs
-- ============================================================================

theorem dnsClash_eq (r s : DnsRecordRow) :
    Schema.clash r s = (r.id == s.id ||
      (r.networkId, lower r.name, r.recordType) == (s.networkId, lower s.name, s.recordType) ||
      (r.deviceId, r.recordType) == (s.deviceId, s.recordType)) := rfl

/-- Two records of one device, or of one name, are excluded by the unique indexes. -/
theorem Mirrors.pairwise (h : Mirrors db) :
    db.dnsRecords.rows.Pairwise fun r s => r.deviceId ≠ s.deviceId ∧ lower r.name ≠ lower s.name := by
  refine List.Pairwise.imp_of_mem (fun {r s} hr hs hclash => ?_) db.dnsRecords.unique
  obtain ⟨_, _, _, hdr⟩ := h.owner r hr
  obtain ⟨_, _, _, hds⟩ := h.owner s hs
  rw [dnsClash_eq, hdr.networkId, hds.networkId, hdr.recordType, hds.recordType] at hclash
  refine ⟨fun heq => ?_, fun heq => ?_⟩
  · rw [heq, beq_self_eq_true, Bool.or_true] at hclash
    cases hclash
  · rw [heq, beq_self_eq_true, Bool.or_true, Bool.true_or] at hclash
    cases hclash

/-- The devices that the records name are the live ones, each once. -/
theorem Mirrors.perm (h : Mirrors db) :
    (db.dnsRecords.rows.map (·.deviceId)).Perm ((db.devices.rows.filter (·.live)).map (·.id)) := by
  have hrecords : (db.dnsRecords.rows.map (·.deviceId)).Nodup :=
    List.pairwise_map.mpr (h.pairwise.imp And.left)
  have hdevices : ((db.devices.rows.filter (·.live)).map (·.id)).Nodup := by
    refine List.pairwise_map.mpr ((db.devices.unique.filter _).imp fun {d d'} hclash heq => ?_)
    rw [deviceClash_eq, heq, beq_self_eq_true, Bool.true_or, Bool.true_or] at hclash
    cases hclash
  refine (List.perm_ext_iff_of_nodup hrecords hdevices).mpr fun deviceId => ⟨fun hmem => ?_, fun hmem => ?_⟩
  · obtain ⟨r, hr, rfl⟩ := List.mem_map.mp hmem
    obtain ⟨d, hd, hlive, hdescribes⟩ := h.owner r hr
    exact List.mem_map.mpr ⟨d, List.mem_filter.mpr ⟨hd, hlive⟩, hdescribes.deviceId.symm⟩
  · obtain ⟨d, hd, rfl⟩ := List.mem_map.mp hmem
    obtain ⟨hd, hlive⟩ := List.mem_filter.mp hd
    obtain ⟨r, hr, hdevice⟩ := h.record d hd hlive
    exact List.mem_map.mpr ⟨r, hr, hdevice⟩

theorem mirrors_of_run {now : Timestamp} {events : List Event} {st : ControlState}
    (h : run (step S) (start .empty now) events = some st) : Mirrors st.db := by
  have hkeep : ∀ s e t, Mirrors s.db → step S s e = some t → Mirrors t.db := by
    intro s e t hinv hstep
    rcases step_db hstep with hsame | ⟨_, _, _, _, _, -, -, -, hcommit⟩
    · rw [hsame]
      exact hinv
    · exact hcommit.mirrors hinv
  exact invariant_run (s := start .empty now) (t := st) hkeep mirrors_empty h

/-- **DNS records mirror live devices.**  From an empty database, for every
    interleaving of requests, whatever each of them ends in:

    * the records belong one to one to the live devices,
    * the record of a device has type A, its address, and a name made from its
      current host name,
    * no two records have names that are equal up to ASCII case. -/
theorem dns_records_mirror_live_devices (S : Server) (now : Timestamp) (events : List Event)
    (st : ControlState) (h : run (step S) (start .empty now) events = some st) :
    (st.db.dnsRecords.rows.map (·.deviceId)).Perm
        ((st.db.devices.rows.filter (·.live)).map (·.id)) ∧
      (st.db.dnsRecords.rows.map (·.deviceId)).Nodup ∧
      (∀ d ∈ st.db.devices.rows, d.live = true → ∀ r ∈ st.db.dnsRecords.rows, r.deviceId = d.id →
        r.recordType = "A" ∧ r.value = d.ipv4 ∧
          (r.name = d.hostname ++ ".mesh" ∨
            r.name = d.hostname ++ "-" ++ deviceDnsSuffix d.id ++ ".mesh" ∨
            ∃ k, 2 ≤ k ∧ k ≤ 99 ∧
              r.name = d.hostname ++ "-" ++ deviceDnsSuffix d.id ++ "-" ++ toString k ++ ".mesh")) ∧
      (st.db.dnsRecords.rows.map fun r => lower r.name).Nodup := by
  have hmirrors := mirrors_of_run h
  refine ⟨hmirrors.perm, List.pairwise_map.mpr (hmirrors.pairwise.imp And.left), ?_,
    List.pairwise_map.mpr (hmirrors.pairwise.imp And.right)⟩
  intro d hd _ r hr hdevice
  obtain ⟨d', hd', -, hdescribes⟩ := hmirrors.owner r hr
  obtain rfl : d = d' := device_unique hd hd' (hdevice.symm.trans hdescribes.deviceId)
  exact ⟨hdescribes.recordType, hdescribes.value, mem_dnsCandidates hdescribes.name⟩

namespace Reference

/-- Two devices register; the second one is renamed to the name of the first. -/
def sameNameEvents : List Event :=
  [.arrive .createAuthKey, advance 0,
   .arrive (.registerDevice (registration "alpha")), .arrive (.registerDevice (registration "beta")),
   advance 1, advance 1, advance 2, advance 2, advance 1, advance 1, advance 2, advance 2,
   .arrive (.renameDevice ("dev_" ++ simple (uuids 2).device) ⟨"alpha"⟩), advance 3]

end Reference

open Reference in
/-- Two live devices have one host name, and records of two names. -/
theorem dns_records_mirror_same_hostname :
    ∃ st, run (step server) (start .empty 0) sameNameEvents = some st ∧
      st.db.devices.rows.map (fun d => (d.hostname, d.live)) = [("alpha", true), ("alpha", true)] ∧
      st.db.dnsRecords.rows.length = 2 ∧ (st.db.dnsRecords.rows.map fun r => lower r.name).Nodup := by
  have hrun : (run (step server) (start .empty 0) sameNameEvents).any (fun st =>
      st.db.devices.rows.map (fun d => (d.hostname, d.live)) = [("alpha", true), ("alpha", true)] ∧
      st.db.dnsRecords.rows.length = 2) = true := by
    decide +kernel
  obtain ⟨st, hst, hfacts⟩ := (Option.any_eq_true _ _).mp hrun
  obtain ⟨hdevices, hrecords⟩ := of_decide_eq_true hfacts
  obtain ⟨-, -, -, hnames⟩ := dns_records_mirror_live_devices server 0 sameNameEvents st hst
  exact ⟨st, hst, hdevices, hrecords, hnames⟩

end TfScale.Control
