/-
  TfScale.Control.ServedMaps

  Can the maps that the control plane serves be taken for what they say?

  A map is put together from several reads, so its parts need not be those of one
  state.  The columns that identify a device never change, though, and no two rows
  share an id or an address, so what a map says of ids, addresses and credentials is
  true of the database at any later time, and nothing in it is ambiguous.
-/

import TfScale.Control.Lifetimes

namespace TfScale.Control

open ControlState

variable {S : Server} {db db' : Db} {clock : Nat → Timestamp} {fresh : Fresh} {p : Process}
variable {st st' : ControlState} {events : List Event} {e : Event}

-- ============================================================================
-- Device ids
-- ============================================================================

/-- The id was made from a UUID. -/
def FromUuid (deviceId : String) : Prop := ∃ uuid : Uuid, deviceId = "dev_" ++ simple uuid

theorem Commit.fromUuid (hcommit : Commit S clock fresh db p db')
    (h : ∀ i ∈ db.identities, FromUuid i.2.deviceId) : ∀ i ∈ db'.identities, FromUuid i.2.deviceId := by
  rcases hcommit.register_or with ⟨request, _, _, response, -, hok⟩ | ⟨hsame, -⟩
  · rw [registerTx_identities hok]
    intro i hi
    rcases List.mem_append.mp hi with hi | hi
    · exact h i hi
    · obtain ⟨_, _, _, _, -, -, -, -, rfl, -⟩ := Db.registerTx_ok hok
      rw [List.mem_singleton.mp hi]
      exact ⟨fresh.device, rfl⟩
  · rw [hsame]
    exact h

/-- Every device id of a control plane that started empty was made from a UUID. -/
theorem fromUuid_of_run {now : Timestamp} (h : run (step S) (start .empty now) events = some st) :
    ∀ d ∈ st.db.devices.rows, FromUuid d.id := by
  have hkeep : ∀ s e t, (∀ i ∈ s.db.identities, FromUuid i.2.deviceId) → step S s e = some t →
      ∀ i ∈ t.db.identities, FromUuid i.2.deviceId := by
    intro s e t hinv hstep
    rcases step_db hstep with hsame | ⟨_, _, _, _, _, -, -, -, hcommit⟩
    · rw [hsame]
      exact hinv
    · exact hcommit.fromUuid hinv
  have hids := invariant_run (s := start .empty now) (t := st) hkeep (fun i hi => by cases hi) h
  exact fun d hd => hids _ (List.mem_map_of_mem hd)

-- ============================================================================
-- Columns without repetitions
-- ============================================================================

theorem deviceIds_nodup (db : Db) : (db.devices.rows.map (·.id)).Nodup := by
  refine List.pairwise_map.mpr (db.devices.unique.imp fun {d d'} hclash heq => ?_)
  rw [deviceClash_eq, heq, beq_self_eq_true, Bool.true_or, Bool.true_or] at hclash
  cases hclash

theorem addresses_nodup (db : Db) : (db.devices.rows.map (·.ipv4)).Nodup := by
  refine List.pairwise_map.mpr (db.devices.unique.imp fun {d d'} hclash heq => ?_)
  rw [deviceClash_eq, heq, beq_self_eq_true, Bool.or_true] at hclash
  cases hclash

/-- A column without repetitions has none in the answer of a query. -/
theorem select_nodup {ρ α κ : Type} {rows : List ρ} {q : ρ → Bool} {le : ρ → ρ → Bool} {g : ρ → α}
    (column : α → κ) (h : (rows.map fun r => column (g r)).Nodup) :
    ((Table.select rows q le g).map column).Nodup := by
  have hperm : ((Table.select rows q le g).map column).Perm
      ((rows.filter q).map fun r => column (g r)) := by
    rw [Table.select, List.map_map]
    exact (List.perm_insertionSort _ _).map _
  exact hperm.nodup_iff.mpr (h.sublist (List.filter_sublist.map _))

theorem exists_of_forall₂ {α β : Type} {R : α → β → Prop} {l : List α} {l' : List β}
    (h : List.Forall₂ R l l') {a : α} (ha : a ∈ l) : ∃ b ∈ l', R a b := by
  induction h with
  | nil => cases ha
  | cons hab _ ih =>
      rcases List.mem_cons.mp ha with rfl | ha
      · exact ⟨_, List.mem_cons_self, hab⟩
      · obtain ⟨b, hb, hR⟩ := ih ha
        exact ⟨b, List.mem_cons_of_mem _ hb, hR⟩

-- ============================================================================
-- What a map says
-- ============================================================================

/-- The map is about devices of the database, and tells them apart. -/
structure WellFormed (db : Db) (map : NetworkMapResponse) : Prop where
  ids : (map.selfDevice.deviceId :: map.peers.map (·.deviceId)).Nodup
  addresses : (map.selfDevice.ipv4 :: map.peers.map (·.ipv4)).Nodup
  pool : ∀ ip ∈ map.selfDevice.ipv4 :: map.peers.map (·.ipv4), ∃ i < 253, ip = poolAddress i
  uuids : ∀ deviceId ∈ map.selfDevice.deviceId :: map.peers.map (·.deviceId), FromUuid deviceId
  routes : ∀ peer ∈ map.peers, peer.allowedRoutes = [peer.ipv4 ++ "/32"]
  selfRow : ∃ d ∈ db.devices.rows, d.id = map.selfDevice.deviceId ∧ d.ipv4 = map.selfDevice.ipv4
  peerRows : ∀ peer ∈ map.peers, ∃ d ∈ db.devices.rows, d.id = peer.deviceId ∧ d.ipv4 = peer.ipv4 ∧
    d.backendType = peer.backendType ∧ d.backendPublicCredential = peer.backendPublicCredential

theorem selfDevice_row {deviceId : String} {selfDevice : NetworkMapSelf}
    (h : db.selfDevice S deviceId = .ok selfDevice) :
    ∃ d ∈ db.devices.rows, d.id = deviceId ∧ selfDevice = ⟨d.id, d.hostname, d.ipv4, d.backendType⟩ := by
  unfold Db.selfDevice at h
  split at h
  · cases h
  · rename_i d hfind
    obtain rfl := Except.ok.inj h
    exact ⟨d, List.mem_of_find?_eq_some hfind, (Db.isLiveDevice_iff.mp (List.find?_some hfind)).1, rfl⟩

section Served

variable {now : Timestamp} {db₀ : Db} {r : Nat} {map : NetworkMapResponse}

/-- The row of the device that asked, at the end of the run. -/
theorem served_self_row (h : run (step S) (start db₀ now) events = some st)
    (hserved : st.served r = some map) :
    ∃ d ∈ st.db.devices.rows, d.id = map.selfDevice.deviceId ∧ d.ipv4 = map.selfDevice.ipv4 := by
  obtain ⟨query, -, -, _, _, _, _, _, _, hreads, -⟩ :=
    (pictures_of_run h).reading r _ (done_of_served hserved)
  obtain ⟨s, hread, hself⟩ := hreads.selfDevice
  obtain ⟨d, hd, -, hselfDevice⟩ := selfDevice_row hself
  obtain ⟨d', hd', hbecomes⟩ := becomes_of_passed hread.passed (passed_last h) hread.passed.le d hd
  rw [hselfDevice]
  exact ⟨d', hd', hbecomes.id, hbecomes.ipv4⟩

/-- The row of a listed device, at the end of the run. -/
theorem served_peer_row (h : run (step S) (start db₀ now) events = some st)
    (hserved : st.served r = some map) {peer : NetworkMapPeer} (hpeer : peer ∈ map.peers) :
    ∃ d ∈ st.db.devices.rows, d.id ≠ map.selfDevice.deviceId ∧ d.id = peer.deviceId ∧
      d.ipv4 = peer.ipv4 ∧ d.backendType = peer.backendType ∧
      d.backendPublicCredential = peer.backendPublicCredential := by
  obtain ⟨n, t, hlisted⟩ := listsLive_of_served h hserved
  obtain ⟨d, hd, -, hne, hentry⟩ := hlisted.row peer hpeer
  have hpassed := hlisted.read.passed
  obtain ⟨d', hd', hbecomes⟩ := becomes_of_passed hpassed (passed_last h) hpassed.le d hd
  refine ⟨d', hd', ?_, hbecomes.id.trans (congrArg PeerRow.id hentry),
    hbecomes.ipv4.trans (congrArg PeerRow.ipv4 hentry),
    hbecomes.backendType.trans (congrArg PeerRow.backendType hentry),
    hbecomes.credential.trans (congrArg PeerRow.backendPublicCredential hentry)⟩
  rw [hbecomes.id]
  exact hne

/-- A column of the devices without repetitions has none among the peers of a map. -/
theorem served_peers_nodup {κ : Type} (h : run (step S) (start db₀ now) events = some st)
    (hserved : st.served r = some map) (column : PeerRow → κ)
    (hnodup : ∀ db : Db, (db.devices.rows.map fun d => column d.peerRow).Nodup) :
    (map.peers.map fun peer => column (entryRow peer)).Nodup := by
  obtain ⟨query, -, -, _, _, _, _, _, _, hreads, -⟩ :=
    (pictures_of_run h).reading r _ (done_of_served hserved)
  obtain ⟨t, -, hrows⟩ := hreads.rows
  rw [List.append_nil] at hrows
  have hselected : ((t.db.peerRows query.deviceId).map column).Nodup :=
    select_nodup (g := DeviceRow.peerRow) column (hnodup t.db)
  rw [hrows, List.map_map] at hselected
  exact hselected

theorem served_peer_routes (h : run (step S) (start db₀ now) events = some st)
    (hserved : st.served r = some map) {peer : NetworkMapPeer} (hpeer : peer ∈ map.peers) :
    peer.allowedRoutes = [peer.ipv4 ++ "/32"] := by
  obtain ⟨query, -, -, _, _, _, ns, _, _, hreads, -⟩ :=
    (pictures_of_run h).reading r _ (done_of_served hserved)
  obtain ⟨n, -, _, _, _, -, -, -, -, heq⟩ := exists_of_forall₂ hreads.peers hpeer
  rw [heq]
  rfl

theorem wellFormed_of_served (h : run (step S) (start .empty now) events = some st)
    (hserved : st.served r = some map) : WellFormed st.db map := by
  obtain ⟨d₀, hd₀, hid₀, hip₀⟩ := served_self_row h hserved
  have hallocated := (addressInv_of_run h).allocated
  have huuids := fromUuid_of_run h
  refine ⟨List.nodup_cons.mpr ⟨fun hmem => ?_, ?_⟩, List.nodup_cons.mpr ⟨fun hmem => ?_, ?_⟩,
    fun ip hip => ?_, fun deviceId hid => ?_, fun peer hpeer => served_peer_routes h hserved hpeer,
    ⟨d₀, hd₀, hid₀, hip₀⟩, fun peer hpeer => ?_⟩
  · obtain ⟨peer, hpeer, hid⟩ := List.mem_map.mp hmem
    obtain ⟨d, -, hne, hd, -⟩ := served_peer_row h hserved hpeer
    exact hne (hd.trans hid)
  · exact served_peers_nodup h hserved PeerRow.id deviceIds_nodup
  · obtain ⟨peer, hpeer, hip⟩ := List.mem_map.mp hmem
    obtain ⟨d, hd, hne, -, hdip, -⟩ := served_peer_row h hserved hpeer
    have hsame : d = d₀ :=
      List.inj_on_of_nodup_map (addresses_nodup st.db) hd hd₀ (by rw [hdip, hip, hip₀])
    exact hne (by rw [hsame, hid₀])
  · exact served_peers_nodup h hserved PeerRow.ipv4 addresses_nodup
  · rcases List.mem_cons.mp hip with rfl | hip
    · rw [← hip₀]
      exact hallocated.in_pool hd₀
    · obtain ⟨peer, hpeer, rfl⟩ := List.mem_map.mp hip
      obtain ⟨d, hd, -, -, hdip, -⟩ := served_peer_row h hserved hpeer
      rw [← hdip]
      exact hallocated.in_pool hd
  · rcases List.mem_cons.mp hid with rfl | hid
    · rw [← hid₀]
      exact huuids d₀ hd₀
    · obtain ⟨peer, hpeer, rfl⟩ := List.mem_map.mp hid
      obtain ⟨d, hd, -, hdid, -⟩ := served_peer_row h hserved hpeer
      rw [← hdid]
      exact huuids d hd
  · obtain ⟨d, hd, -, hdid, hdip, hbackend, hcredential⟩ := served_peer_row h hserved hpeer
    exact ⟨d, hd, hdid, hdip, hbackend, hcredential⟩

end Served

namespace ControlState

/-- **Served maps are well formed.**  For every interleaving of requests, a map that is
    served names each device and each address once, the asking device among them; the
    addresses are those of the pool, the ids were made from UUIDs, every peer routes its
    own address only, and what the map says of a device is what its row says. -/
theorem served_map_well_formed (S : Server) (now : Timestamp) (events : List Event)
    (st : ControlState) (h : run (step S) (start .empty now) events = some st) (r : Nat)
    (map : NetworkMapResponse) (hserved : st.served r = some map) : WellFormed st.db map :=
  wellFormed_of_served h hserved

end ControlState

open Reference in
/-- A map with one peer. -/
theorem served_map_well_formed_one_peer :
    ∃ st map, run (step server) (start .empty 0) threeMaps = some st ∧ st.served 3 = some map ∧
      map.peers.map (·.deviceId) = [betaId] ∧ WellFormed st.db map := by
  have hrun : (run (step server) (start .empty 0) threeMaps).any (fun st =>
      (st.served 3).any fun map => map.peers.map (·.deviceId) == [betaId]) = true := by
    decide +kernel
  obtain ⟨st, hst, hfacts⟩ := (Option.any_eq_true _ _).mp hrun
  obtain ⟨map, hserved, hpeers⟩ := (Option.any_eq_true _ _).mp hfacts
  exact ⟨st, map, hst, hserved, beq_iff_eq.mp hpeers,
    served_map_well_formed server 0 threeMaps st hst 3 map hserved⟩

end TfScale.Control
