/-
  TfScale.Control.Resolution

  Do the names that the control plane hands out resolve on the agents?

  The control plane keeps names apart with SQL's `lower`; the agent looks a name up
  with a normalisation of its own, takes the first record that fits, and answers for
  one suffix only.  On the names that the control plane makes the two agree: they end
  in `.mesh`, so no dot is cut off.  A name therefore fits one record at most, and
  the order in which the records arrive does not matter.
-/

import TfScale.Agent.Dns
import TfScale.Control.Acceptance
import TfScale.Control.DnsMirror

namespace TfScale.Control

open ControlState Agent

variable {S : Server} {db db' : Db} {clock : Nat → Timestamp} {fresh : Fresh} {p : Process}

-- ============================================================================
-- Names of the mesh
-- ============================================================================

/-- A name that the control plane makes, whatever the host name is. -/
def MeshName (name : String) : Prop := ∃ host : String, name = host ++ ".mesh"

theorem meshName_of_mem {deviceId hostname name : String}
    (h : name ∈ Db.dnsCandidates deviceId hostname) : MeshName name := by
  rcases mem_dnsCandidates h with rfl | rfl | ⟨k, -, -, rfl⟩
  · exact ⟨_, rfl⟩
  · exact ⟨_, rfl⟩
  · exact ⟨_, rfl⟩

theorem lower_append (a b : String) : lower (a ++ b) = lower a ++ lower b := by
  rw [lower, lower, lower, String.toList_append, List.map_append, String.ofList_append]

/-- The agent's normal form of a name of the mesh is SQL's. -/
theorem normalizeName_of_meshName {name : String} (h : MeshName name) :
    normalizeName name = lower name := by
  obtain ⟨host, rfl⟩ := h
  have hmesh : (host ++ ".mesh").toList = (host.toList ++ ['.', 'm', 'e', 's']) ++ ['h'] := by
    rw [String.toList_append, List.append_assoc]
    rfl
  rw [normalizeName, hmesh, List.rdropWhile_concat_neg _ _ _ (by decide), ← hmesh]
  rfl

/-- The agent answers for it. -/
theorem suffix_of_meshName {name : String} (h : MeshName name) :
    '.' :: (normalizeSuffix "mesh").toList <:+ (normalizeName name).toList := by
  rw [normalizeName_of_meshName h]
  obtain ⟨host, rfl⟩ := h
  refine ⟨(lower host).toList, ?_⟩
  rw [lower_append, String.toList_append]
  rfl

-- ============================================================================
-- The records of a map
-- ============================================================================

/-- The records of a map are those of the database that its last query read. -/
theorem Process.next_networkMap {map : NetworkMapResponse}
    (h : p.next S db clock fresh = some (.done (.networkMap (.ok map)), db')) :
    map.dnsRecords = db.loadDnsRecords := by
  have hhandler : p.handler = .networkMap := (Process.next_handler h).symm
  cases p with
  | mapDns query selfDevice peers version =>
      obtain ⟨hreply, -⟩ := Prod.mk.inj (Option.some.inj h)
      cases hreply
      rfl
  | mapReceived query =>
      simp only [next] at h
      split at h <;> cases (Prod.mk.inj (Option.some.inj h)).1
  | mapValidated query =>
      simp only [next] at h
      split at h <;> cases (Prod.mk.inj (Option.some.inj h)).1
  | mapSelf query selfDevice =>
      simp only [next, afterPeers] at h
      split at h <;> cases (Prod.mk.inj (Option.some.inj h)).1
  | mapPeers query selfDevice peers pending =>
      simp only [next, mapLoadPeer, afterPeers] at h
      split at h
      · cases (Prod.mk.inj (Option.some.inj h)).1
      · split at h <;> cases (Prod.mk.inj (Option.some.inj h)).1
  | mapVersion query selfDevice peers pending sum =>
      simp only [next, mapRead] at h
      split at h <;> cases (Prod.mk.inj (Option.some.inj h)).1
  | done reply => cases h
  | _ => cases hhandler

/-- A record of the database, as a map lists it. -/
theorem mem_loadDnsRecords {record : DnsRecord} :
    record ∈ db.loadDnsRecords ↔ ∃ r ∈ db.dnsRecords.rows, r.record = record := by
  rw [Db.loadDnsRecords, Table.mem_select]
  refine exists_congr fun r => ?_
  rw [eq_self_iff_true, true_and]

-- ============================================================================
-- Looking a name up
-- ============================================================================

section Lookup

variable {r : DnsRecordRow} {q : String}

theorem Mirrors.meshName (h : Mirrors db) (hr : r ∈ db.dnsRecords.rows) : MeshName r.name := by
  obtain ⟨_, _, _, hdescribes⟩ := h.owner r hr
  exact meshName_of_mem hdescribes.name

theorem Mirrors.answersFor_iff (h : Mirrors db) (hr : r ∈ db.dnsRecords.rows) :
    answersFor (normalizeName q) r.record = true ↔ SameName r.name q := by
  obtain ⟨_, _, _, hdescribes⟩ := h.owner r hr
  rw [answersFor, Bool.and_eq_true, beq_iff_eq, ← normalizeName_eq_iff]
  have htype : Text.eqIgnoreAsciiCase r.record.recordType.toList "A".toList = true := by
    show Text.eqIgnoreAsciiCase r.recordType.toList "A".toList = true
    rw [hdescribes.recordType]
    rfl
  exact ⟨And.right, fun hname => ⟨htype, hname⟩⟩

/-- What is one name for the agent is one name for the control plane. -/
theorem Mirrors.record_unique (h : Mirrors db) {r' : DnsRecordRow} (hr : r ∈ db.dnsRecords.rows)
    (hr' : r' ∈ db.dnsRecords.rows) (hname : SameName r.name q) (hname' : SameName r'.name q) :
    r' = r := by
  have hlower : lower r'.name = lower r.name := by
    rw [← normalizeName_of_meshName (h.meshName hr'), ← normalizeName_of_meshName (h.meshName hr),
      normalizeName_eq_iff.mpr hname', normalizeName_eq_iff.mpr hname]
  have hnames : (db.dnsRecords.rows.map fun r => lower r.name).Nodup :=
    List.pairwise_map.mpr (h.pairwise.imp And.right)
  exact List.inj_on_of_nodup_map hnames hr' hr hlower

/-- The name of a record, however it is spelt, gives the value of the record. -/
theorem Mirrors.resolveA_record (h : Mirrors db) {records : List DnsRecord}
    (hperm : records.Perm db.loadDnsRecords) (hr : r ∈ db.dnsRecords.rows)
    (hname : SameName r.name q) : resolveA records q "mesh" = parseIpv4Addr r.value := by
  have hsuffix : '.' :: (normalizeSuffix "mesh").toList <:+ (normalizeName q).toList := by
    rw [← normalizeName_eq_iff.mpr hname]
    exact suffix_of_meshName (h.meshName hr)
  have hmem : r.record ∈ records := hperm.mem_iff.mpr (mem_loadDnsRecords.mpr ⟨r, hr, rfl⟩)
  refine resolveA_of_unique hsuffix hmem ((h.answersFor_iff hr).mpr hname) ?_
  intro record hrecord hanswers
  obtain ⟨r', hr', rfl⟩ := mem_loadDnsRecords.mp (hperm.mem_iff.mp hrecord)
  rw [h.record_unique hr hr' hname ((h.answersFor_iff hr').mp hanswers)]

end Lookup

/-- The case of letters is changed, and dots are appended. -/
def Variant (name q : String) : Prop :=
  ∃ (base : List Char) (k : Nat), Text.CaseVariant name.toList base ∧
    q.toList = base ++ List.replicate k '.'

theorem Variant.sameName {name q : String} (h : Variant name q) : SameName name q := by
  obtain ⟨base, k, hcase, hq⟩ := h
  refine ⟨name.toList, base, 0, k, hcase, ?_, hq⟩
  rw [List.replicate_zero, List.append_nil]

/-- **Assigned names resolve.**  In every state that is reached from an empty
    database, for every network map that is read from it and every order of the
    records of the map:

    * each live device has a record in the map, and any spelling of the name of that
      record resolves to the overlay address of the device,
    * a name that is the name of no record does not resolve. -/
theorem assigned_names_resolve (S : Server) (now : Timestamp) (events : List Event)
    (st st' : ControlState) (h : run (step S) (start .empty now) events = some st)
    (r : Nat) (fresh : Fresh) (elapsed : Elapsed) (map : NetworkMapResponse)
    (hstep : st.step S (.advance r fresh elapsed) = some st')
    (hmap : st'.requests[r]? = some (.done (.networkMap (.ok map))))
    (records : List DnsRecord) (hperm : records.Perm map.dnsRecords) :
    (∀ d ∈ st.db.devices.rows, d.live = true →
      (∃ record ∈ map.dnsRecords, record.deviceId = d.id) ∧
        ∀ record ∈ map.dnsRecords, record.deviceId = d.id → ∀ q, Variant record.name q →
          ∃ address, resolveA records q "mesh" = some address ∧ address.display = d.ipv4) ∧
      ∀ q, (∀ record ∈ map.dnsRecords, ¬ SameName record.name q) → resolveA records q "mesh" = none := by
  have hmirrors := mirrors_of_run h
  have hallocated := (addressInv_of_run h).allocated
  obtain ⟨p, p', db', hp, hnext, rfl⟩ := step_advance.mp hstep
  have hlt : r < st.requests.length := (List.getElem?_eq_some_iff.mp hp).1
  have hreply : p' = .done (.networkMap (.ok map)) := by
    rw [List.getElem?_set_self hlt] at hmap
    exact Option.some.inj hmap
  rw [hreply] at hnext
  have hrecords : map.dnsRecords = st.db.loadDnsRecords := Process.next_networkMap hnext
  rw [hrecords] at hperm ⊢
  refine ⟨fun d hd hlive => ⟨?_, ?_⟩, ?_⟩
  · obtain ⟨row, hrow, hdevice⟩ := hmirrors.record d hd hlive
    exact ⟨row.record, mem_loadDnsRecords.mpr ⟨row, hrow, rfl⟩, hdevice⟩
  · intro record hrecord hdevice q hq
    obtain ⟨row, hrow, rfl⟩ := mem_loadDnsRecords.mp hrecord
    obtain ⟨d', hd', -, hdescribes⟩ := hmirrors.owner row hrow
    have hsame : d' = d := device_unique hd' hd (hdescribes.deviceId.symm.trans hdevice)
    obtain ⟨i, hi, haddress⟩ := hallocated.in_pool hd
    have hresolve := hmirrors.resolveA_record hperm hrow hq.sameName
    rw [hdescribes.value, hsame, haddress, parseIpv4Addr_poolAddress hi] at hresolve
    exact ⟨_, hresolve, by rw [haddress, display_poolAddress hi]⟩
  · intro q hq
    apply resolveA_eq_none
    intro record hrecord
    obtain ⟨row, hrow, rfl⟩ := mem_loadDnsRecords.mp (hperm.mem_iff.mp hrecord)
    rw [Bool.eq_false_iff]
    intro hanswers
    exact hq row.record (mem_loadDnsRecords.mpr ⟨row, hrow, rfl⟩)
      ((hmirrors.answersFor_iff hrow).mp hanswers)

namespace Reference

/-- Two devices of one host name; the second one asks for its map, up to the last
    query. -/
def sameNameMap : List Event :=
  sameNameEvents ++
    [.arrive (.networkMap ⟨"dev_" ++ simple (uuids 2).device, "node_" ++ simple (uuids 2).node⟩)] ++
    List.replicate 10 (advance 4)

end Reference

open Reference in
/-- The name of the first device, in capitals and with dots at the end. -/
theorem assigned_names_resolve_capitals :
    ∃ st st' map address, run (step server) (start .empty 0) sameNameMap = some st ∧
      st.step server (advance 4) = some st' ∧
      st'.requests[4]? = some (.done (.networkMap (.ok map))) ∧ map.dnsRecords.length = 2 ∧
      resolveA map.dnsRecords.reverse "ALPHA.MESH.." "mesh" = some address ∧
      address.display = "100.64.0.2" := by
  have hrun : (run (step server) (start .empty 0) sameNameMap).any (fun st : ControlState =>
      (st.step server (advance 4)).any fun st' : ControlState =>
        (st'.served 4).any fun map =>
          st.db.devices.rows.any (fun d => d.live && d.ipv4 == "100.64.0.2" &&
            map.dnsRecords.any fun record => record.deviceId == d.id && record.name == "alpha.mesh") &&
            map.dnsRecords.length == 2) = true := by
    decide +kernel
  obtain ⟨st, hst, hfacts⟩ := (Option.any_eq_true _ _).mp hrun
  obtain ⟨st', hst', hfacts⟩ := (Option.any_eq_true _ _).mp hfacts
  obtain ⟨map, hserved, hfacts⟩ := (Option.any_eq_true _ _).mp hfacts
  have hmap := done_of_served hserved
  rw [Bool.and_eq_true, beq_iff_eq] at hfacts
  obtain ⟨hany, hlength⟩ := hfacts
  obtain ⟨d, hd, hfacts⟩ := List.any_eq_true.mp hany
  rw [Bool.and_eq_true, Bool.and_eq_true, beq_iff_eq] at hfacts
  obtain ⟨⟨hlive, haddress⟩, hany⟩ := hfacts
  obtain ⟨record, hrecord, hfacts⟩ := List.any_eq_true.mp hany
  rw [Bool.and_eq_true, beq_iff_eq, beq_iff_eq] at hfacts
  have hvariant : Variant record.name "ALPHA.MESH.." := by
    rw [hfacts.2]
    exact ⟨"ALPHA.MESH".toList, 2, Text.caseVariant_iff.mpr (by decide), by decide⟩
  obtain ⟨hresolve, -⟩ := assigned_names_resolve server 0 sameNameMap st st' hst 4 _ _ map hst' hmap
    map.dnsRecords.reverse (List.reverse_perm _)
  obtain ⟨address, hsome, hdisplay⟩ :=
    (hresolve d hd hlive).2 record hrecord hfacts.1 "ALPHA.MESH.." hvariant
  exact ⟨st, st', map, address, hst, hst', hmap, hlength, hsome, hdisplay.trans haddress⟩

end TfScale.Control
