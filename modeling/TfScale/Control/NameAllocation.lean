/-
  TfScale.Control.NameAllocation

  Which name does a device get, and does storing it disturb anyone?

  `available_dns_name` asks for each of 100 candidates whether another device holds it,
  so it returns the first one that none does.  That answer is also what both unique
  indexes of `dns_records` need: a name that no other device holds clashes on neither
  (`not_clashesOnIndex`), whether the upsert rewrites the record of the device or adds
  one.  The records of the other devices stay, so the next allocation finds the same
  names held.
-/

import TfScale.Control.DnsMirror

namespace TfScale.Control

-- ============================================================================
-- The indexes
-- ============================================================================

namespace DnsRecordRow

/-- The columns of the index on `(network_id, lower(name), type)`. -/
def nameKey (r : DnsRecordRow) : String × String × String :=
  (r.networkId, lower r.name, r.recordType)

/-- The columns of the index on `(device_id, type)`. -/
def deviceKey (r : DnsRecordRow) : String × String := (r.deviceId, r.recordType)

/-- The record is the A record of the device: the target of its upsert. -/
def isOwn (deviceId : String) (r : DnsRecordRow) : Bool :=
  r.deviceId == deviceId && r.recordType == "A"

theorem isOwn_iff {deviceId : String} {r : DnsRecordRow} :
    r.isOwn deviceId = true ↔ r.deviceId = deviceId ∧ r.recordType = "A" := by
  rw [isOwn, Bool.and_eq_true, beq_iff_eq, beq_iff_eq]

end DnsRecordRow

/-- The two records violate one of the unique indexes. -/
def ClashesOnIndex (r s : DnsRecordRow) : Prop := r.nameKey = s.nameKey ∨ r.deviceKey = s.deviceKey

theorem dnsClash_eq_false_iff {r s : DnsRecordRow} :
    Schema.clash r s = false ↔ r.id ≠ s.id ∧ ¬ ClashesOnIndex r s := by
  rw [dnsClash_eq, Bool.or_eq_false_iff, Bool.or_eq_false_iff, beq_eq_false_iff_ne,
    beq_eq_false_iff_ne, beq_eq_false_iff_ne, ClashesOnIndex, not_or, and_assoc]
  rfl

-- ============================================================================
-- The first free candidate
-- ============================================================================

variable {S : Server} {db db' : Db} {deviceId hostname name ipv4 : String} {now : Timestamp}
variable {uuid : Uuid}

/-- Another device holds the name, up to ASCII case. -/
def HeldElsewhere (db : Db) (deviceId name : String) : Prop :=
  ∃ r ∈ db.dnsRecords.rows, r.recordType = "A" ∧ r.deviceId ≠ deviceId ∧ lower r.name = lower name

/-- The name is the first candidate that no other device holds. -/
def FirstFree (db : Db) (deviceId hostname name : String) : Prop :=
  ∃ before after, Db.dnsCandidates deviceId hostname = before ++ name :: after ∧
    (∀ other ∈ before, HeldElsewhere db deviceId other) ∧ ¬ HeldElsewhere db deviceId name

theorem FirstFree.free (h : FirstFree db deviceId hostname name) :
    ¬ HeldElsewhere db deviceId name := by
  obtain ⟨_, _, _, _, hfree⟩ := h
  exact hfree

/-- All records are those of the one network. -/
def SingleNetwork (db : Db) : Prop := ∀ r ∈ db.dnsRecords.rows, r.networkId = netDefault

/-- The service writes no others. -/
theorem Mirrors.singleNetwork (h : Mirrors db) : SingleNetwork db := by
  intro r hr
  obtain ⟨_, _, _, hdescribes⟩ := h.owner r hr
  exact hdescribes.networkId

theorem dnsNameAvailable_iff (hnet : SingleNetwork db) :
    db.dnsNameAvailable netDefault deviceId name = true ↔ ¬ HeldElsewhere db deviceId name := by
  rw [Db.dnsNameAvailable, Bool.not_eq_true', ← Bool.not_eq_true, List.any_eq_true]
  refine not_congr (exists_congr fun r => and_congr_right fun hr => ?_)
  simp only [hnet r hr, beq_self_eq_true, Bool.true_and, Bool.and_eq_true, beq_iff_eq, bne_iff_ne]
  exact ⟨fun ⟨⟨hname, htype⟩, hdevice⟩ => ⟨htype, hdevice, hname⟩,
    fun ⟨htype, hdevice, hname⟩ => ⟨⟨hname, htype⟩, hdevice⟩⟩

theorem availableDnsName_eq_ok_iff (hnet : SingleNetwork db) :
    db.availableDnsName netDefault deviceId hostname = .ok name ↔
      FirstFree db deviceId hostname name := by
  have hfind : db.availableDnsName netDefault deviceId hostname = .ok name ↔
      (Db.dnsCandidates deviceId hostname).find? (db.dnsNameAvailable netDefault deviceId) =
        some name := by
    unfold Db.availableDnsName
    split
    · rename_i found heq
      rw [heq, Except.ok.injEq, Option.some.injEq]
    · rename_i heq
      rw [heq]
      exact ⟨nofun, nofun⟩
  rw [hfind, List.find?_eq_some_iff_append, dnsNameAvailable_iff hnet]
  have hbefore : ∀ other, (!db.dnsNameAvailable netDefault deviceId other) = true ↔
      HeldElsewhere db deviceId other := by
    intro other
    rw [Bool.not_eq_true', ← Bool.not_eq_true, dnsNameAvailable_iff hnet, not_not]
  constructor
  · rintro ⟨hfree, before, after, hsplit, hheld⟩
    exact ⟨before, after, hsplit, fun other hmem => (hbefore other).mp (hheld other hmem), hfree⟩
  · rintro ⟨before, after, hsplit, hheld, hfree⟩
    exact ⟨hfree, before, after, hsplit, fun other hmem => (hbefore other).mpr (hheld other hmem)⟩

theorem availableDnsName_eq_conflict_iff (hnet : SingleNetwork db) :
    db.availableDnsName netDefault deviceId hostname =
        .error ⟨.conflict, "could not allocate unique DNS name for hostname"⟩ ↔
      ∀ name ∈ Db.dnsCandidates deviceId hostname, HeldElsewhere db deviceId name := by
  have hnone : (Db.dnsCandidates deviceId hostname).find? (db.dnsNameAvailable netDefault deviceId) =
        none ↔ ∀ name ∈ Db.dnsCandidates deviceId hostname, HeldElsewhere db deviceId name := by
    rw [List.find?_eq_none]
    exact forall₂_congr fun name _ => by rw [dnsNameAvailable_iff hnet, not_not]
  rw [← hnone]
  unfold Db.availableDnsName
  split
  · rename_i found heq
    rw [heq]
    exact ⟨nofun, nofun⟩
  · rename_i heq
    exact iff_of_true rfl heq

-- ============================================================================
-- The upsert
-- ============================================================================

/-- A record that is written for the device clashes with no other one on an index. -/
theorem not_clashesOnIndex (hfree : ¬ HeldElsewhere db deviceId name) {r written : DnsRecordRow}
    (hr : r ∈ db.dnsRecords.rows) (hother : r.isOwn deviceId = false)
    (hdevice : written.deviceId = deviceId) (hname : written.name = name)
    (htype : written.recordType = "A") : ¬ ClashesOnIndex r written := by
  have hne : r.recordType = "A" → r.deviceId ≠ deviceId := fun htypeR hdeviceR =>
    Bool.eq_false_iff.mp hother (DnsRecordRow.isOwn_iff.mpr ⟨hdeviceR, htypeR⟩)
  rintro (hkey | hkey)
  · obtain ⟨-, hrest⟩ := Prod.mk.inj hkey
    obtain ⟨hnameR, htypeR⟩ := Prod.mk.inj hrest
    rw [htype] at htypeR
    rw [hname] at hnameR
    exact hfree ⟨r, hr, htypeR, hne htypeR, hnameR⟩
  · obtain ⟨hdeviceR, htypeR⟩ := Prod.mk.inj hkey
    rw [htype] at htypeR
    rw [hdevice] at hdeviceR
    exact hne htypeR hdeviceR

/-- Two A records of one device are one record. -/
theorem not_isOwn_of_unclashed {r s : DnsRecordRow} (h : Schema.clash r s = false)
    (hr : r.isOwn deviceId = true) : s.isOwn deviceId = false := by
  refine Bool.eq_false_iff.mpr fun hs => (dnsClash_eq_false_iff.mp h).2 (Or.inr ?_)
  obtain ⟨hdevice, htype⟩ := DnsRecordRow.isOwn_iff.mp hr
  obtain ⟨hdevice', htype'⟩ := DnsRecordRow.isOwn_iff.mp hs
  rw [DnsRecordRow.deviceKey, DnsRecordRow.deviceKey, hdevice, htype, hdevice', htype']

/-- A free name is stored, unless a record has to be added under an id that is taken. -/
theorem exists_dnsUpsert_of_free (hfree : ¬ HeldElsewhere db deviceId name)
    (hid : (∃ r ∈ db.dnsRecords.rows, r.isOwn deviceId = true) ∨
      ∀ r ∈ db.dnsRecords.rows, r.id ≠ "dns_" ++ simple uuid) :
    ∃ dnsRecords, db.dnsUpsert now uuid netDefault deviceId name ipv4 = some dnsRecords := by
  rw [Db.dnsUpsert, Table.upsert]
  split
  · -- the record of the device is rewritten
    refine ⟨_, dif_pos (List.pairwise_map.mpr ?_)⟩
    refine db.dnsRecords.unique.imp_of_mem fun {r s} hr hs hclash => ?_
    obtain ⟨hids, hindex⟩ := dnsClash_eq_false_iff.mp hclash
    cases hown : r.isOwn deviceId with
    | true =>
        have hother := not_isOwn_of_unclashed hclash hown
        obtain ⟨hdevice, htype⟩ := DnsRecordRow.isOwn_iff.mp hown
        rw [DnsRecordRow.isOwn] at hown hother
        rw [if_pos hown, if_neg (Bool.eq_false_iff.mp hother), Schema.clash_comm]
        exact dnsClash_eq_false_iff.mpr
          ⟨hids.symm, not_clashesOnIndex hfree hs hother hdevice rfl htype⟩
    | false =>
        have hother := hown
        rw [DnsRecordRow.isOwn] at hown
        rw [if_neg (Bool.eq_false_iff.mp hown)]
        cases hown' : s.isOwn deviceId with
        | true =>
            obtain ⟨hdevice, htype⟩ := DnsRecordRow.isOwn_iff.mp hown'
            rw [DnsRecordRow.isOwn] at hown'
            rw [if_pos hown']
            exact dnsClash_eq_false_iff.mpr
              ⟨hids, not_clashesOnIndex hfree hr hother hdevice rfl htype⟩
        | false =>
            rw [DnsRecordRow.isOwn] at hown'
            rw [if_neg (Bool.eq_false_iff.mp hown')]
            exact hclash
  · -- a record is added
    rename_i hnone
    have hothers : ∀ r ∈ db.dnsRecords.rows, r.isOwn deviceId = false := fun r hr =>
      Bool.eq_false_iff.mpr fun hown => hnone (List.any_eq_true.mpr ⟨r, hr, hown⟩)
    have hids : ∀ r ∈ db.dnsRecords.rows, r.id ≠ "dns_" ++ simple uuid := by
      refine hid.resolve_left ?_
      rintro ⟨r, hr, hown⟩
      exact Bool.eq_false_iff.mp (hothers r hr) hown
    exact ⟨_, dif_pos fun r hr => dnsClash_eq_false_iff.mpr
      ⟨hids r hr, not_clashesOnIndex hfree hr (hothers r hr) rfl rfl rfl⟩⟩

section Upserted

variable {dnsRecords : Table DnsRecordRow}

/-- The records of the other devices stay as they are, in their order. -/
theorem others_dnsUpsert
    (h : db.dnsUpsert now uuid netDefault deviceId name ipv4 = some dnsRecords) :
    dnsRecords.rows.filter (fun r => r.deviceId != deviceId) =
      db.dnsRecords.rows.filter fun r => r.deviceId != deviceId := by
  have hown : ∀ r ∈ db.dnsRecords.rows, r.isOwn deviceId = true →
      (r.deviceId != deviceId) = false := by
    intro r _ hown
    rw [(DnsRecordRow.isOwn_iff.mp hown).1, bne_self_eq_false]
  exact Table.filter_upsert h (bne_self_eq_false deviceId) hown hown

/-- The device has one A record, which says what was asked for. -/
theorem own_dnsUpsert
    (h : db.dnsUpsert now uuid netDefault deviceId name ipv4 = some dnsRecords) :
    ∃ r, dnsRecords.rows.filter (·.isOwn deviceId) = [r] ∧ r.name = name ∧ r.value = ipv4 := by
  obtain ⟨r, hr, hown, hname, hvalue⟩ : ∃ r ∈ dnsRecords.rows,
      r.isOwn deviceId = true ∧ r.name = name ∧ r.value = ipv4 := by
    refine Table.exists_mem_upsert (P := fun r => r.isOwn deviceId = true ∧ r.name = name ∧
      r.value = ipv4) h ⟨DnsRecordRow.isOwn_iff.mpr ⟨rfl, rfl⟩, rfl, rfl⟩ ?_
    exact fun r _ hown => ⟨hown, rfl, rfl⟩
  refine ⟨r, ?_, hname, hvalue⟩
  have hmem : r ∈ dnsRecords.rows.filter (·.isOwn deviceId) := List.mem_filter.mpr ⟨hr, hown⟩
  have hunique := dnsRecords.unique.filter (·.isOwn deviceId)
  cases howns : dnsRecords.rows.filter (·.isOwn deviceId) with
  | nil =>
      rw [howns] at hmem
      cases hmem
  | cons first rest =>
      rw [howns] at hmem hunique
      have hall : ∀ s ∈ first :: rest, s.isOwn deviceId = true := fun s hs =>
        (List.mem_filter.mp (howns ▸ hs : s ∈ dnsRecords.rows.filter (·.isOwn deviceId))).2
      have hnil : rest = [] := by
        refine List.eq_nil_iff_forall_not_mem.mpr fun s hs => ?_
        have hclash := List.rel_of_pairwise_cons hunique hs
        have hother := not_isOwn_of_unclashed hclash (hall first List.mem_cons_self)
        exact Bool.eq_false_iff.mp hother (hall s (List.mem_cons_of_mem _ hs))
      rw [hnil] at hmem ⊢
      rw [List.mem_singleton.mp hmem]

/-- So the other devices hold the names they held. -/
theorem heldElsewhere_dnsUpsert
    (h : db.dnsUpsert now uuid netDefault deviceId name ipv4 = some dnsRecords) (other : String) :
    HeldElsewhere { db with dnsRecords } deviceId other ↔ HeldElsewhere db deviceId other := by
  have hmem : ∀ {rows : List DnsRecordRow} {r : DnsRecordRow}, r.deviceId ≠ deviceId →
      (r ∈ rows ↔ r ∈ rows.filter fun r => r.deviceId != deviceId) := fun hne =>
    ⟨fun hr => List.mem_filter.mpr ⟨hr, bne_iff_ne.mpr hne⟩, fun hr => (List.mem_filter.mp hr).1⟩
  refine exists_congr fun r => ⟨?_, ?_⟩
  · rintro ⟨hr, htype, hne, hname⟩
    have hr' := (hmem hne).mp hr
    rw [others_dnsUpsert h] at hr'
    exact ⟨(hmem hne).mpr hr', htype, hne, hname⟩
  · rintro ⟨hr, htype, hne, hname⟩
    have hr' := (hmem hne).mp hr
    rw [← others_dnsUpsert h] at hr'
    exact ⟨(hmem hne).mpr hr', htype, hne, hname⟩

theorem singleNetwork_dnsUpsert (hnet : SingleNetwork db)
    (h : db.dnsUpsert now uuid netDefault deviceId name ipv4 = some dnsRecords) :
    SingleNetwork { db with dnsRecords } :=
  Table.forall_upsert h rfl (fun r hr _ => hnet r hr) hnet

/-- The next allocation for the host name takes the same candidate. -/
theorem firstFree_dnsUpsert
    (h : db.dnsUpsert now uuid netDefault deviceId name ipv4 = some dnsRecords)
    (hfirst : FirstFree db deviceId hostname name) :
    FirstFree { db with dnsRecords } deviceId hostname name := by
  obtain ⟨before, after, hsplit, hheld, hfree⟩ := hfirst
  exact ⟨before, after, hsplit,
    fun other hmem => (heldElsewhere_dnsUpsert h other).mpr (hheld other hmem),
    fun hheld => hfree ((heldElsewhere_dnsUpsert h name).mp hheld)⟩

end Upserted

-- ============================================================================
-- Allocation
-- ============================================================================

/-- What the upsert makes of the records. -/
structure StoresName (db db' : Db) (deviceId name ipv4 : String) : Prop where
  /-- the records of the other devices stay as they are -/
  others : db'.dnsRecords.rows.filter (fun r => r.deviceId != deviceId) =
    db.dnsRecords.rows.filter fun r => r.deviceId != deviceId
  /-- the device has one A record, of the given name and address -/
  own : ∃ r, db'.dnsRecords.rows.filter (·.isOwn deviceId) = [r] ∧ r.name = name ∧ r.value = ipv4

/-- The upsert goes through unless a record has to be added under an id that is taken. -/
theorem upsertDeviceDnsRecord_isOk_iff
    (hname : db.availableDnsName netDefault deviceId hostname = .ok name)
    (hfree : ¬ HeldElsewhere db deviceId name) :
    (∃ db', db.upsertDeviceDnsRecord S now uuid netDefault deviceId hostname ipv4 = .ok db') ↔
      (∃ r ∈ db.dnsRecords.rows, r.isOwn deviceId = true) ∨
        ∀ r ∈ db.dnsRecords.rows, r.id ≠ "dns_" ++ simple uuid := by
  constructor
  · rintro ⟨db', hok⟩
    obtain ⟨_, dnsRecords, -, hupsert, -⟩ := Db.upsertDeviceDnsRecord_ok hok
    rcases Table.upsert_cases hupsert with ⟨hany, -⟩ | ⟨-, hclash, -⟩
    · exact Or.inl (List.any_eq_true.mp hany)
    · exact Or.inr fun r hr => (dnsClash_eq_false_iff.mp (hclash r hr)).1
  · intro hid
    obtain ⟨dnsRecords, hupsert⟩ :
        ∃ dnsRecords, db.dnsUpsert now uuid netDefault deviceId name ipv4 = some dnsRecords :=
      exists_dnsUpsert_of_free hfree hid
    exact ⟨_, Api.bind_eq_ok.mpr ⟨name, hname, Api.bind_eq_ok.mpr
      ⟨dnsRecords, (orUnique_eq_ok S).mpr hupsert, rfl⟩⟩⟩

theorem storesName_of_ok (hname : db.availableDnsName netDefault deviceId hostname = .ok name)
    (hok : db.upsertDeviceDnsRecord S now uuid netDefault deviceId hostname ipv4 = .ok db') :
    StoresName db db' deviceId name ipv4 := by
  obtain ⟨name', dnsRecords, hname', hupsert, rfl⟩ := Db.upsertDeviceDnsRecord_ok hok
  obtain rfl := Except.ok.inj (hname.symm.trans hname')
  exact ⟨others_dnsUpsert hupsert, own_dnsUpsert hupsert⟩

/-- **The first free candidate.**  In a database of the one network, `available_dns_name`
    returns the first of its 100 candidates that no other device holds up to ASCII case,
    and fails with a conflict exactly when all are held.  The record that is then written
    clashes with no other one on either index, and the upsert goes through unless a record
    has to be added under an id that is taken.  It leaves the records of the other devices
    as they are and the device with one A record, and repeated with the same host name it
    goes through and takes the same name. -/
theorem dns_name_is_first_free (S : Server) (db : Db) (hnet : SingleNetwork db)
    (deviceId hostname : String) :
    (Db.dnsCandidates deviceId hostname).length = 100 ∧
    (db.availableDnsName netDefault deviceId hostname =
        .error ⟨.conflict, "could not allocate unique DNS name for hostname"⟩ ↔
      ∀ name ∈ Db.dnsCandidates deviceId hostname, HeldElsewhere db deviceId name) ∧
    (∀ name, db.availableDnsName netDefault deviceId hostname = .ok name ↔
      FirstFree db deviceId hostname name) ∧
    ∀ name, db.availableDnsName netDefault deviceId hostname = .ok name → ∀ now uuid ipv4,
      (∀ r ∈ db.dnsRecords.rows, r.isOwn deviceId = false → ∀ written : DnsRecordRow,
        written.networkId = netDefault → written.deviceId = deviceId → written.name = name →
        written.recordType = "A" → ¬ ClashesOnIndex r written) ∧
      ((∃ db', db.upsertDeviceDnsRecord S now uuid netDefault deviceId hostname ipv4 = .ok db') ↔
        (∃ r ∈ db.dnsRecords.rows, r.isOwn deviceId = true) ∨
          ∀ r ∈ db.dnsRecords.rows, r.id ≠ "dns_" ++ simple uuid) ∧
      ∀ db', db.upsertDeviceDnsRecord S now uuid netDefault deviceId hostname ipv4 = .ok db' →
        StoresName db db' deviceId name ipv4 ∧
          db'.availableDnsName netDefault deviceId hostname = .ok name ∧
          ∀ now' uuid' ipv4', ∃ db'',
            db'.upsertDeviceDnsRecord S now' uuid' netDefault deviceId hostname ipv4' = .ok db'' ∧
              StoresName db' db'' deviceId name ipv4' := by
  refine ⟨rfl, availableDnsName_eq_conflict_iff hnet,
    fun name => availableDnsName_eq_ok_iff hnet, fun name hname now uuid ipv4 => ?_⟩
  have hfirst := (availableDnsName_eq_ok_iff hnet).mp hname
  have hfree := hfirst.free
  refine ⟨fun r hr hother written _ hdevice hwritten htype =>
    not_clashesOnIndex hfree hr hother hdevice hwritten htype,
    upsertDeviceDnsRecord_isOk_iff hname hfree, fun db' hok => ?_⟩
  have hstored := storesName_of_ok hname hok
  obtain ⟨name', dnsRecords, hname', hupsert, rfl⟩ := Db.upsertDeviceDnsRecord_ok hok
  obtain rfl := Except.ok.inj (hname.symm.trans hname')
  have hfirst' := firstFree_dnsUpsert hupsert hfirst
  have hname' := (availableDnsName_eq_ok_iff (singleNetwork_dnsUpsert hnet hupsert)).mpr hfirst'
  refine ⟨hstored, hname', fun now' uuid' ipv4' => ?_⟩
  have hown : ∃ r ∈ dnsRecords.rows, r.isOwn deviceId = true := by
    obtain ⟨r, hr, -⟩ := hstored.own
    exact ⟨r, List.mem_filter.mp (hr ▸ List.mem_singleton_self r)⟩
  have hrepeated : ∃ db'', Db.upsertDeviceDnsRecord S { db with dnsRecords } now' uuid' netDefault deviceId
      hostname ipv4' = .ok db'' :=
    (upsertDeviceDnsRecord_isOk_iff hname' hfirst'.free).mpr (Or.inl hown)
  obtain ⟨db'', hok'⟩ := hrepeated
  exact ⟨db'', hok', storesName_of_ok hname' hok'⟩

namespace Reference

/-- Another device holds the plain name, in capitals. -/
def heldNames : Db where
  authKeys := .empty
  devices := .empty
  ipAllocations := .empty
  endpoints := .empty
  dnsRecords := ⟨[⟨"dns_1", netDefault, "dev_1", "DevBox.mesh", "A", "100.64.0.2", 0⟩],
    List.pairwise_singleton _ _⟩

end Reference

open Reference in
/-- The second device of that host name gets the name with its suffix. -/
theorem dns_name_is_first_free_suffixed :
    FirstFree heldNames "dev_0123456789" "devbox" "devbox-01234567.mesh" ∧
      ∃ db', heldNames.upsertDeviceDnsRecord server 1 (.replicate 16 0) netDefault "dev_0123456789"
          "devbox" "100.64.0.3" = .ok db' ∧
        StoresName heldNames db' "dev_0123456789" "devbox-01234567.mesh" "100.64.0.3" := by
  have hnet : SingleNetwork heldNames := by
    intro r hr
    rw [List.mem_singleton.mp hr]
  obtain ⟨-, -, hfirst, hstore⟩ := dns_name_is_first_free server heldNames hnet
    "dev_0123456789" "devbox"
  have hname : heldNames.availableDnsName netDefault "dev_0123456789" "devbox" =
      .ok "devbox-01234567.mesh" := by
    decide +kernel
  obtain ⟨-, hok, hstored⟩ := hstore _ hname 1 (.replicate 16 0) "100.64.0.3"
  obtain ⟨db', hdb'⟩ := hok.mpr (Or.inr (by decide +kernel))
  exact ⟨(hfirst _).mp hname, db', hdb', (hstored db' hdb').1⟩

end TfScale.Control
