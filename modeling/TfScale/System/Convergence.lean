/-
  TfScale.System.Convergence

  What do the backends know when the control plane has come to rest?

  Between two writes a map mixes states, and a backend may hold an old map.  When
  nothing is written any more, every later map is read from one and the same database,
  so it says exactly what is in it, and the backend of an agent that applies it routes
  every address of the network to the device that has it at the control plane.
-/

import TfScale.Control.Detection
import TfScale.System.Overlay

namespace TfScale.System

open Control Control.ControlState Custom Agent

variable {X : Externals} {S : Server} {db₀ : Db} {now : Timestamp} {events : List Event}
variable {st s : ControlState} {m n r : Nat} {map : NetworkMapResponse} {rt : RuntimeState}

-- ============================================================================
-- Maps that are read at rest
-- ============================================================================

/-- Nothing is written to the database after the first `m` events. -/
def AtRest (S : Server) (s₀ : ControlState) (events : List Event) (m : Nat) (st : ControlState) : Prop :=
  ∀ n s, m ≤ n → Passed (step S) s₀ events n s → s.db = st.db

/-- Request `r` comes after the first `m` events. -/
def ComesAfter (events : List Event) (m r : Nat) : Prop := (arrivals (events.take m)).length ≤ r

/-- The map says what the database says to the device that asked. -/
structure Exact (S : Server) (st : ControlState) (map : NetworkMapResponse) : Prop where
  selfDevice : st.db.selfDevice S map.selfDevice.deviceId = .ok map.selfDevice
  rows : map.peers.map entryRow = st.db.peerRows map.selfDevice.deviceId
  peers : ∀ peer ∈ map.peers, ∃ t ≤ st.now, peer = st.db.networkMapPeer t (entryRow peer)
  version : map.networkMapVersion = st.db.networkMapVersion
  dnsRecords : map.dnsRecords = st.db.loadDnsRecords

theorem step_now {e : Event} {st' : ControlState} (h : st.step S e = some st') : st.now ≤ st'.now := by
  cases e with
  | tick seconds =>
      obtain rfl := Option.some.inj h
      exact Nat.le_add_right _ _
  | arrive request =>
      obtain rfl := Option.some.inj h
      exact Nat.le_refl _
  | advance r fresh elapsed =>
      obtain ⟨_, _, _, -, -, rfl⟩ := step_advance.mp h
      exact Nat.le_add_right _ _
  | abort r message =>
      obtain ⟨_, _, -, -, rfl⟩ := step_abort.mp h
      exact Nat.le_refl _

theorem run_now (h : run (step S) s events = some st) : s.now ≤ st.now := by
  have hkeep : ∀ t e t', s.now ≤ t.now → step S t e = some t' → s.now ≤ t'.now :=
    fun _ _ _ hle hstep => Nat.le_trans hle (step_now hstep)
  exact invariant_run (s := s) (t := st) hkeep (Nat.le_refl _) h

/-- What a request reads that comes at rest is in the database for good. -/
theorem db_of_read (hrest : AtRest S (start db₀ now) events m st) (hcomes : ComesAfter events m r)
    (hread : ReadAt S (start db₀ now) events r n s) : s.db = st.db := by
  refine hrest n s (Nat.le_of_not_lt fun hlt => ?_) hread.passed
  -- it has come, so the first `n` events are not among the first `m`
  obtain ⟨p, hp, -⟩ := hread.underWay
  have hhas := (List.getElem?_eq_some_iff.mp hp).1
  rw [(pictures_of_run hread.passed.run).length] at hhas
  have hsplit : events.take m = events.take n ++ (events.take m).drop n := by
    have htake : (events.take m).take n = events.take n := by
      rw [List.take_take, Nat.min_eq_left (Nat.le_of_lt hlt)]
    rw [← htake, List.take_append_drop]
  unfold ComesAfter at hcomes
  rw [hsplit, arrivals_append, List.length_append] at hcomes
  omega

/-- Maps are only read: when nothing but requests for maps comes and is served, nothing is
    written. -/
theorem run_db_of_maps {late : List Event} {l : Nat} (hlate : run (step S) s late = some st)
    (hreaders : ∀ (r : Nat) (p : Process), s.requests[r]? = some p → l ≤ r → p.handler = .networkMap)
    (hmaps : ∀ request, Event.arrive request ∈ late → ∃ query, request = .networkMap query)
    (hserve : ∀ e ∈ late, ∀ q, e.request = some q → l ≤ q) : st.db = s.db := by
  induction late generalizing s with
  | nil =>
      obtain rfl : s = st := Option.some.inj hlate
      rfl
  | cons e late ih =>
      obtain ⟨t, hstep, hrest⟩ := run_cons_eq_some.mp hlate
      have hdb : t.db = s.db := by
        rcases step_db hstep with hsame | ⟨q, p, _, _, _, rfl, hp, -, hcommit⟩
        · exact hsame
        · exact absurd (hreaders q p hp (hserve _ List.mem_cons_self q rfl)) hcommit.handler_ne
      rw [← hdb]
      refine ih hrest (fun q p' hp' hle => ?_) (fun request hmem => hmaps request (List.mem_cons_of_mem _ hmem))
        fun e' he' => hserve e' (List.mem_cons_of_mem _ he')
      rcases request_of_step hstep hp' with
        hold | ⟨request, rfl, -, rfl⟩ | ⟨p, _, reply, hp, hfailed, rfl⟩ | ⟨p, _, _, rfl, hp, hnext⟩
      · exact hreaders q p' hold hle
      · obtain ⟨query, rfl⟩ := hmaps request List.mem_cons_self
        rfl
      · rw [Process.failed_eq hfailed]
        have hreader := hreaders q p hp hle
        show (p.handler.failed _).handler = _
        rw [hreader]
        rfl
      · rw [Process.next_handler hnext]
        exact hreaders q p hp hle

theorem atRest_of_maps {s₀ : ControlState} (h : run (step S) s₀ events = some st)
    (hpassed : Passed (step S) s₀ events m s)
    (hmaps : ∀ request, Event.arrive request ∈ events.drop m → ∃ query, request = .networkMap query)
    (hserve : ∀ e ∈ events.drop m, ∀ q, e.request = some q → s.requests.length ≤ q) :
    AtRest S s₀ events m st := by
  have hnone : ∀ (r : Nat) (p : Process), s.requests[r]? = some p → s.requests.length ≤ r →
      p.handler = .networkMap := by
    intro r p hp hle
    have hlt := (List.getElem?_eq_some_iff.mp hp).1
    omega
  have hall := run_db_of_maps (hpassed.rest h) hnone hmaps hserve
  intro n t hle ht
  have hsub : ∀ e, e ∈ (events.take n).drop m → e ∈ events.drop m := by
    intro e he
    rw [List.drop_take] at he
    exact List.mem_of_mem_take he
  have hsome := run_db_of_maps (hpassed.between ht hle) hnone (fun request hmem => hmaps request (hsub _ hmem))
    fun e he => hserve e (hsub e he)
  rw [hsome, hall]

theorem exact_of_served (h : run (step S) (start db₀ now) events = some st)
    (hrest : AtRest S (start db₀ now) events m st) (hcomes : ComesAfter events m r)
    (hserved : st.served r = some map) : Exact S st map := by
  obtain ⟨query, -, -, values, a, b, ns, ms, d, hreads, hterms, hversion, ⟨u, hread, hdns⟩, -⟩ :=
    (pictures_of_run h).reading r _ (done_of_served hserved)
  have hself : st.db.selfDevice S query.deviceId = .ok map.selfDevice := by
    obtain ⟨t, hread, hself⟩ := hreads.selfDevice
    rw [← db_of_read hrest hcomes hread]
    exact hself
  obtain ⟨_, -, hid, hselfDevice⟩ := selfDevice_row hself
  have hquery : query.deviceId = map.selfDevice.deviceId := by rw [hselfDevice, hid]
  rw [hquery] at hself
  refine ⟨hself, ?_, fun peer hpeer => ?_, ?_, ?_⟩
  · obtain ⟨t, hread, hrows⟩ := hreads.rows
    rw [List.append_nil, db_of_read hrest hcomes hread, hquery] at hrows
    exact hrows.symm
  · obtain ⟨k, -, t, t', time, hread, hnext, -, hle, hpeer⟩ := exists_of_forall₂ hreads.peers hpeer
    have hlater := run_now (hnext.rest h)
    rw [db_of_read hrest hcomes hread] at hpeer
    exact ⟨time, Nat.le_trans hle hlater, hpeer⟩
  · have hvalue : ∀ value ∈ values, value.2 = st.db.versionTerm value.1 := by
      intro value hvalue
      obtain ⟨_, -, t, hread, hterm⟩ := exists_of_forall₂ hreads.values hvalue
      rw [← hterm, db_of_read hrest hcomes hread]
    rw [hversion, Db.networkMapVersion, ← hterms, List.map_map, List.map_congr_left hvalue]
    rfl
  · rw [← hdns, db_of_read hrest hcomes hread]

-- ============================================================================
-- The backend that has applied such a map
-- ============================================================================

/-- The stored peer is the device of the row, with the endpoints that had not expired at
    some time up to now. -/
structure PeerOf (db : Db) (now : Timestamp) (peer : StoredPeerSession) (row : PeerRow) : Prop where
  deviceId : peer.deviceId = row.id
  hostname : peer.hostname = row.hostname
  overlayIp : peer.overlayIp.display = row.ipv4
  publicKey : peer.publicKey = row.backendPublicCredential
  allowedRoutes : peer.allowedRoutes = [row.ipv4 ++ "/32"]
  endpoints : ∃ t ≤ now, (db.loadEndpoints t row.id).mapM endpointToConfig = .ok peer.endpoints

/-- An entry that is read from the database, and the peer it is decoded to. -/
theorem peerOf_entry {db : Db} {t : Timestamp} {entry : NetworkMapPeer} {peer : StoredPeerSession}
    (hentry : entry = db.networkMapPeer t (entryRow entry)) (ht : t ≤ now)
    (hpool : ∃ i < 253, entry.ipv4 = poolAddress i) (h : peerToConfig entry = .ok (storedConfig peer)) :
    PeerOf db now peer (entryRow entry) := by
  obtain ⟨overlayIp, hip, h⟩ := Fallible.bind_eq_ok.mp h
  obtain ⟨endpoints, hendpoints, h⟩ := Fallible.bind_eq_ok.mp h
  have hconfig := Except.ok.inj h
  have hparsed : parseIpv4Addr entry.ipv4 = some overlayIp := by
    unfold withContext at hip
    split at hip
    · rename_i heq
      rw [heq, Except.ok.inj hip]
    · cases hip
  have hroutes := congrArg NetworkMapPeer.allowedRoutes hentry
  have hloaded := congrArg NetworkMapPeer.endpoints hentry
  refine ⟨(congrArg PeerConfig.deviceId hconfig).symm, (congrArg PeerConfig.hostname hconfig).symm, ?_,
    (congrArg (fun config : PeerConfig => config.publicCredential.publicCredential) hconfig).symm,
    (congrArg PeerConfig.allowedRoutes hconfig).symm.trans hroutes, t, ht, ?_⟩
  · have hsame : overlayIp = peer.overlayIp := congrArg PeerConfig.overlayIp hconfig
    rw [← hsame]
    exact display_of_pool hpool hparsed
  · have hsame : endpoints = peer.endpoints := congrArg PeerConfig.endpoints hconfig
    rw [← hsame, ← hendpoints]
    exact congrArg (fun l => l.mapM endpointToConfig) hloaded.symm

theorem peersOf_exact {persisted : CustomBackendState} (hexact : Exact S st map)
    (hmap : WellFormed st.db map) (hmember : Member X st.db map persisted) :
    List.Forall₂ (PeerOf st.db st.now) persisted.peers (st.db.peerRows map.selfDevice.deviceId) := by
  have hdecoded := List.forall₂_map_right_iff.mp (Fallible.forall₂_of_mapM hmember.peers)
  have hall : ∀ entry ∈ map.peers, (∃ t ≤ st.now, entry = st.db.networkMapPeer t (entryRow entry)) ∧
      ∃ i < 253, entry.ipv4 = poolAddress i := fun entry hentry =>
    ⟨hexact.peers entry hentry, hmap.pool _ (List.mem_cons_of_mem _ (List.mem_map_of_mem hentry))⟩
  rw [← hexact.rows, List.forall₂_map_right_iff]
  refine ((List.forall₂_and_left _ _).mpr ⟨hall, hdecoded⟩).flip.imp fun peer entry h => ?_
  obtain ⟨⟨⟨t, ht, hentry⟩, hpool⟩, hconfig⟩ := h
  exact peerOf_entry hentry ht hpool hconfig

/-- The routes of a runtime stay as they were built. -/
theorem routes_of_run {salts : Salts} {persisted : CustomBackendState} {traffic : List Traffic}
    (h : run (Traffic.step X) (RuntimeState.fromPersisted X salts persisted) traffic = some rt) :
    rt.persisted = persisted ∧ rt.peersByOverlayIp =
      .ofPairs (persisted.peers.map fun peer => (peer.overlayIp, peer.deviceId)) := by
  have hkeep : ∀ s e t, (s.persisted = persisted ∧ s.peersByOverlayIp =
      .ofPairs (persisted.peers.map fun peer => (peer.overlayIp, peer.deviceId))) →
      Traffic.step X s e = some t → t.persisted = persisted ∧ t.peersByOverlayIp =
        .ofPairs (persisted.peers.map fun peer => (peer.overlayIp, peer.deviceId)) := by
    intro s e t hs hstep
    have hsame := sameMaps_traffic hstep
    exact ⟨hsame.persisted.trans hs.1, hsame.overlayIps.trans hs.2⟩
  exact invariant_run (s := RuntimeState.fromPersisted X salts persisted) (t := rt) hkeep ⟨rfl, rfl⟩ h

theorem mem_peerRows {db : Db} {deviceId : String} {row : PeerRow} :
    row ∈ db.peerRows deviceId ↔ ∃ d ∈ db.devices.rows, d.live = true ∧ d.id ≠ deviceId ∧
      row = ⟨d.id, d.hostname, d.ipv4, d.backendType, d.backendPublicCredential⟩ := by
  simp only [Db.peerRows, Table.select, List.mem_map, List.mem_insertionSort, List.mem_filter,
    Bool.and_eq_true, bne_iff_ne]
  constructor
  · rintro ⟨d, ⟨hd, hne, hlive⟩, rfl⟩
    exact ⟨d, hd, hlive, hne, rfl⟩
  · rintro ⟨d, hd, hlive, hne, rfl⟩
    exact ⟨d, ⟨hd, hne, hlive⟩, rfl⟩

/-- **At rest the overlay is what the control plane says.**  In every run that has
    stopped writing to the database, take a map that was asked for after that and the
    backend whose agent has applied it, with any traffic since: its peers are the other
    live devices, each with the name, address, credential, route and endpoints of the
    database, it routes an address to a device exactly when the device is one of them and
    has that address, and the DNS records of the map are those of the database. -/
theorem overlay_at_rest (X : Externals) (S : Server) (now : Timestamp) (events : List Event)
    (st : ControlState) (h : run (step S) (start .empty now) events = some st) (m : Nat)
    (hrest : AtRest S (start .empty now) events m st) (r : Nat) (hcomes : ComesAfter events m r)
    (map : NetworkMapResponse) (hserved : st.served r = some map) (rt : RuntimeState)
    (hjoined : Joined X st.db map rt) :
    List.Forall₂ (PeerOf st.db st.now) rt.persisted.peers (st.db.peerRows map.selfDevice.deviceId) ∧
    (∀ ip deviceId, rt.peersByOverlayIp.lookup ip = some deviceId ↔ ∃ d ∈ st.db.devices.rows,
      d.live = true ∧ d.id ≠ map.selfDevice.deviceId ∧ d.id = deviceId ∧ d.ipv4 = ip.display) ∧
    map.dnsRecords = st.db.loadDnsRecords ∧ map.networkMapVersion = st.db.networkMapVersion := by
  have hexact := exact_of_served h hrest hcomes hserved
  have hmap := wellFormed_of_served h hserved
  obtain ⟨persisted, salts, traffic, hmember, hrun⟩ := hjoined.member
  obtain ⟨hpersisted, hroutes⟩ := routes_of_run hrun
  have hpeers := peersOf_exact hexact hmap hmember
  refine ⟨hpersisted ▸ hpeers, fun ip deviceId => ?_, hexact.dnsRecords, hexact.version⟩
  rw [hroutes]
  constructor
  · intro hlookup
    obtain ⟨peer, hpeer, hentry⟩ := List.mem_map.mp (HashMap.mem_of_lookup_ofPairs hlookup)
    obtain ⟨rfl, rfl⟩ := Prod.mk.inj hentry
    obtain ⟨row, hrow, hof⟩ := exists_of_forall₂ hpeers hpeer
    obtain ⟨d, hd, hlive, hne, rfl⟩ := mem_peerRows.mp hrow
    exact ⟨d, hd, hlive, hne, hof.deviceId.symm, hof.overlayIp.symm⟩
  · rintro ⟨d, hd, hlive, hne, rfl, hip⟩
    obtain ⟨peer, hpeer, hof⟩ := exists_of_forall₂ hpeers.flip (mem_peerRows.mpr ⟨d, hd, hlive, hne, rfl⟩)
    refine HashMap.lookup_ofPairs_of_mem ?_ ?_
    · rw [List.map_map]
      exact hmember.overlayIps_nodup hmap
    · have hsame : peer.overlayIp = ip := display_injective (hof.overlayIp.trans hip)
      rw [← hsame, ← show peer.deviceId = d.id from hof.deviceId]
      exact List.mem_map_of_mem hpeer

namespace Reference

/-- The events of the mesh up to the reports, without the maps. -/
theorem meshEvents_atRest {st : ControlState}
    (h : run (step Control.Reference.server) (start .empty 0) meshEvents = some st) :
    AtRest Control.Reference.server (start .empty 0) meshEvents 18 st := by
  have hlength : (run (step Control.Reference.server) (start .empty 0) (meshEvents.take 18)).map
      (·.requests.length) = some 5 := by
    decide +kernel
  obtain ⟨s, hs, hrequests⟩ := Option.map_eq_some_iff.mp hlength
  have hlate : meshEvents.drop 18 =
      [.arrive (.networkMap ⟨deviceId 1, nodeKey 1⟩), .arrive (.networkMap ⟨deviceId 2, nodeKey 2⟩)] ++
        List.replicate 11 (Control.Reference.advance 5) ++
        List.replicate 11 (Control.Reference.advance 6) := rfl
  refine atRest_of_maps h ⟨by decide, hs⟩ ?_ ?_
  · intro request hmem
    rw [hlate] at hmem
    simp only [List.mem_append, List.mem_cons, List.mem_replicate, Control.Reference.advance] at hmem
    simp at hmem
    rcases hmem with rfl | rfl <;> exact ⟨_, rfl⟩
  · intro e he q hq
    rw [hlate] at he
    rw [hrequests]
    simp only [List.mem_append, List.mem_cons, List.mem_replicate, List.not_mem_nil, or_false] at he
    rcases he with ((rfl | rfl) | ⟨-, rfl⟩) | ⟨-, rfl⟩
    · cases hq
    · cases hq
    · obtain rfl := Option.some.inj hq
      decide
    · obtain rfl := Option.some.inj hq
      decide

end Reference

open Reference in
open Control.Reference (server) in
open Custom.Reference (bindSocket) in
/-- The two devices of the mesh: the backend of the first one routes the address of the
    second one to it. -/
theorem overlay_at_rest_mesh :
    ∃ (st : ControlState) (map : NetworkMapResponse) (rt : RuntimeState),
      run (step server) (start .empty 0) meshEvents = some st ∧ st.served 5 = some map ∧
      Joined Externals.reference st.db map rt ∧ map.selfDevice.deviceId = deviceId 1 ∧
      rt.peersByOverlayIp.lookup ⟨100, 64, 0, 3⟩ = some (deviceId 2) := by
  have hrun : (run (step server) (start .empty 0) meshEvents).any (fun st =>
      (st.served 5).any fun map => credentialOf 1 map st.db &&
        decide (map.selfDevice.deviceId = deviceId 1) &&
        (st.db.devices.rows.any fun d => d.live && decide (d.id = deviceId 2) &&
          decide (d.ipv4 = (⟨100, 64, 0, 3⟩ : Ipv4Addr).display)) && (applied 1 map).isSome) = true := by
    decide +kernel
  obtain ⟨st, hst, hfacts⟩ := (Option.any_eq_true _ _).mp hrun
  obtain ⟨map, hserved, hfacts⟩ := (Option.any_eq_true _ _).mp hfacts
  simp only [Bool.and_eq_true, decide_eq_true_eq, List.any_eq_true] at hfacts
  obtain ⟨⟨⟨hcredential, hself⟩, d, hd, ⟨hlive, hid⟩, hip⟩, happlied⟩ := hfacts
  obtain ⟨w, hw⟩ := Option.isSome_iff_exists.mp happlied
  have hjoined := joined_applied hcredential hw
  obtain ⟨-, hroutes, -⟩ := overlay_at_rest Externals.reference server 0 meshEvents st hst 18
    (meshEvents_atRest hst) 5 (show (arrivals (meshEvents.take 18)).length ≤ 5 by decide) map hserved _ hjoined
  refine ⟨st, map, _, hst, hserved, hjoined, hself, (hroutes _ _).mpr ⟨d, hd, hlive, ?_, hid, hip⟩⟩
  rw [hself, hid]
  decide

end TfScale.System
