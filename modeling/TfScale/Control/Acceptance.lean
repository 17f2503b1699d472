/-
  TfScale.Control.Acceptance

  Can an agent apply every network map that the control plane sends?

  The control plane stores the credential of a registration and the endpoints of a
  heartbeat as the texts that they are, and sends them on.  The agent refuses a map
  with one endpoint whose kind, protocol or address it cannot parse, the backend one
  with a credential it does not know.  Nothing else can go wrong: the overlay
  addresses are the control plane's own (`accepted_iff`).
-/

import TfScale.Control.Addresses
import TfScale.Control.Version
import TfScale.Agent.NetworkMap

namespace TfScale.Control

open ControlState
open Agent (endpointToConfig peerToConfig networkMapToPeerConfigs)
open Custom (Externals SystemTime validatePublicCredential peersToSessions)

variable {X : Externals} {S : Server} {db db' : Db} {clock : Nat → Timestamp} {fresh : Fresh}
variable {p p' : Process} {st st' : ControlState}

-- ============================================================================
-- What the agents check
-- ============================================================================

/-- The agent can read the endpoint: its kind, its address and its protocol. -/
def EndpointFits (e : EndpointPayload) : Prop := (endpointToConfig e).isOk = true

instance (e : EndpointPayload) : Decidable (EndpointFits e) := inferInstanceAs (Decidable (_ = true))

/-- The backend knows the credential. -/
def CredentialFits (X : Externals) (credential : String) : Prop :=
  (validatePublicCredential X credential).isOk = true

instance (X : Externals) (credential : String) : Decidable (CredentialFits X credential) :=
  inferInstanceAs (Decidable (_ = true))

/-- The agent reads the peers, and the backend takes them. -/
def Accepted (X : Externals) (peers : List NetworkMapPeer) : Prop :=
  ∃ configs, networkMapToPeerConfigs peers = .ok configs ∧
    ∀ clock, ∃ sessions, peersToSessions X clock 0 configs = .ok sessions

theorem peerToConfig_isOk {peer : NetworkMapPeer} (hip : (parseIpv4Addr peer.ipv4).isSome = true) :
    (peerToConfig peer).isOk = true ↔ ∀ e ∈ peer.endpoints, EndpointFits e := by
  obtain ⟨overlayIp, hip⟩ := Option.isSome_iff_exists.mp hip
  rw [peerToConfig, hip, Fallible.isOk_bind]
  refine ⟨fun ⟨_, _, hrest⟩ => ?_, fun h => ⟨overlayIp, rfl, ?_⟩⟩
  · obtain ⟨endpoints, hendpoints, -⟩ := Fallible.isOk_bind.mp hrest
    exact Fallible.isOk_mapM.mp (Fallible.isOk_iff.mpr ⟨endpoints, hendpoints⟩)
  · obtain ⟨endpoints, hendpoints⟩ := Fallible.isOk_iff.mp (Fallible.isOk_mapM.mpr h)
    exact Fallible.isOk_bind.mpr ⟨endpoints, hendpoints, rfl⟩

theorem peerToConfig_credential {peer : NetworkMapPeer} {config : PeerConfig}
    (h : peerToConfig peer = .ok config) :
    config.publicCredential.publicCredential = peer.backendPublicCredential := by
  obtain ⟨_, -, h⟩ := Fallible.bind_eq_ok.mp h
  obtain ⟨_, -, h⟩ := Fallible.bind_eq_ok.mp h
  obtain rfl := Except.ok.inj h
  rfl

/-- The sessions of a list of peers can be made when every credential is known. -/
theorem peersToSessions_isOk {clock : Nat → SystemTime} {i : Nat} {configs : List PeerConfig} :
    (peersToSessions X clock i configs).isOk = true ↔
      ∀ config ∈ configs, CredentialFits X config.publicCredential.publicCredential := by
  induction configs generalizing i with
  | nil => simp [peersToSessions, Except.isOk, Except.toBool]
  | cons config configs ih =>
      rw [peersToSessions, Fallible.isOk_bind, List.forall_mem_cons, ← ih (i := i + 1)]
      constructor
      · rintro ⟨session, hsession, hrest⟩
        obtain ⟨u, hu, -⟩ := Fallible.bind_eq_ok.mp hsession
        obtain ⟨sessions, hsessions, -⟩ := Fallible.isOk_bind.mp hrest
        exact ⟨Fallible.isOk_iff.mpr ⟨u, hu⟩, Fallible.isOk_iff.mpr ⟨sessions, hsessions⟩⟩
      · rintro ⟨hfits, hrest⟩
        obtain ⟨u, hu⟩ := Fallible.isOk_iff.mp hfits
        obtain ⟨sessions, hsessions⟩ := Fallible.isOk_iff.mp hrest
        exact ⟨_, Fallible.bind_eq_ok.mpr ⟨u, hu, rfl⟩,
          Fallible.isOk_bind.mpr ⟨sessions, hsessions, rfl⟩⟩

/-- What the agents ask of a peer whose overlay address they can read. -/
def Fits (X : Externals) (peer : NetworkMapPeer) : Prop :=
  CredentialFits X peer.backendPublicCredential ∧ ∀ e ∈ peer.endpoints, EndpointFits e

theorem accepted_iff {peers : List NetworkMapPeer}
    (hip : ∀ peer ∈ peers, (parseIpv4Addr peer.ipv4).isSome = true) :
    Accepted X peers ↔ ∀ peer ∈ peers, Fits X peer := by
  -- the credentials of the configurations are those of the peers
  have hcredentials : ∀ configs, networkMapToPeerConfigs peers = .ok configs →
      ((∀ config ∈ configs, CredentialFits X config.publicCredential.publicCredential) ↔
        ∀ peer ∈ peers, CredentialFits X peer.backendPublicCredential) := by
    intro configs hconfigs
    have hall := Fallible.forall₂_of_mapM hconfigs
    clear hconfigs hip
    induction hall with
    | nil => simp
    | cons hpeer _ ih =>
        rw [List.forall_mem_cons, List.forall_mem_cons, peerToConfig_credential hpeer]
        exact and_congr_right fun _ => ih
  refine ⟨fun ⟨configs, hconfigs, hsessions⟩ peer hpeer => ⟨?_, ?_⟩, fun hfits => ?_⟩
  · obtain ⟨sessions, hok⟩ := hsessions fun _ => 0
    have hall := peersToSessions_isOk.mp (Fallible.isOk_iff.mpr ⟨sessions, hok⟩)
    exact (hcredentials configs hconfigs).mp hall peer hpeer
  · have hok := Fallible.isOk_mapM.mp (Fallible.isOk_iff.mpr ⟨configs, hconfigs⟩) peer hpeer
    exact (peerToConfig_isOk (hip peer hpeer)).mp hok
  · have hok : (networkMapToPeerConfigs peers).isOk = true := Fallible.isOk_mapM.mpr fun peer hpeer =>
      (peerToConfig_isOk (hip peer hpeer)).mpr (hfits peer hpeer).2
    obtain ⟨configs, hconfigs⟩ := Fallible.isOk_iff.mp hok
    refine ⟨configs, hconfigs, fun clock => Fallible.isOk_iff.mp (peersToSessions_isOk.mpr ?_)⟩
    exact (hcredentials configs hconfigs).mpr fun peer hpeer => (hfits peer hpeer).1

-- ============================================================================
-- What a network map lists
-- ============================================================================

section Lists

/-- The columns of a device that a map shows. -/
def DeviceRow.peerRow (d : DeviceRow) : PeerRow :=
  ⟨d.id, d.hostname, d.ipv4, d.backendType, d.backendPublicCredential⟩

/-- The row that an entry of a map was made from. -/
def entryRow (peer : NetworkMapPeer) : PeerRow :=
  ⟨peer.deviceId, peer.hostname, peer.ipv4, peer.backendType, peer.backendPublicCredential⟩

variable (R : PeerRow → Prop) (E : EndpointPayload → Prop)

/-- The rows that maps are made from: `R` holds of the devices, `E` of the endpoints. -/
structure Stores (db : Db) : Prop where
  devices : ∀ d ∈ db.devices.rows, R d.peerRow
  endpoints : ∀ r ∈ db.endpoints.rows, E r.payload

/-- An entry of a map: `R` holds of its row, `E` of its endpoints. -/
def EntryOf (peer : NetworkMapPeer) : Prop := R (entryRow peer) ∧ ∀ e ∈ peer.endpoints, E e

/-- What a request has read of the peers so far, or has sent. -/
def Lists : Process → Prop
  | .mapPeers _ _ peers pending => (∀ peer ∈ peers, EntryOf R E peer) ∧ ∀ row ∈ pending, R row
  | .mapVersion _ _ peers .. | .mapDns _ _ peers _ => ∀ peer ∈ peers, EntryOf R E peer
  | .done (.networkMap (.ok map)) => ∀ peer ∈ map.peers, EntryOf R E peer
  | _ => True

variable {R E}

theorem lists_of_handler (h : p.handler ≠ .networkMap) : Lists R E p := by
  unfold Lists
  split
  · exact absurd rfl h
  · exact absurd rfl h
  · exact absurd rfl h
  · exact absurd rfl h
  · trivial

theorem Stores.peerRows (h : Stores R E db) (deviceId : String) : ∀ row ∈ db.peerRows deviceId, R row := by
  intro row hrow
  obtain ⟨d, hd, -, rfl⟩ := Table.mem_select.mp hrow
  exact h.devices d hd

theorem Stores.networkMapPeer (h : Stores R E db) {row : PeerRow} (hrow : R row) (now : Timestamp) :
    EntryOf R E (db.networkMapPeer now row) := by
  refine ⟨hrow, fun e he => ?_⟩
  obtain ⟨r, hr, -, rfl⟩ := Table.mem_select.mp he
  exact h.endpoints r hr

theorem lists_afterPeers {query : NetworkMapQuery} {selfDevice : NetworkMapSelf}
    {peers : List NetworkMapPeer} {pending : List PeerRow} (hpeers : ∀ peer ∈ peers, EntryOf R E peer)
    (hpending : ∀ row ∈ pending, R row) :
    Lists R E (Process.afterPeers query selfDevice peers pending) := by
  cases pending with
  | nil => exact hpeers
  | cons row pending => exact ⟨hpeers, hpending⟩

/-- A map request takes its next query. -/
theorem Lists.next (h : Lists R E p) (hstores : Stores R E db)
    (hnext : p.next S db clock fresh = some (p', db')) : Lists R E p' := by
  by_cases hmap : p.handler = .networkMap
  · cases p with
    | mapReceived query =>
        simp only [Process.next] at hnext
        split at hnext <;>
        · obtain ⟨rfl, -⟩ := Prod.mk.inj (Option.some.inj hnext)
          trivial
    | mapValidated query =>
        simp only [Process.next] at hnext
        split at hnext <;>
        · obtain ⟨rfl, -⟩ := Prod.mk.inj (Option.some.inj hnext)
          trivial
    | mapSelf query selfDevice =>
        obtain ⟨rfl, -⟩ := Prod.mk.inj (Option.some.inj hnext)
        exact lists_afterPeers (fun _ hpeer => by cases hpeer) (hstores.peerRows _)
    | mapPeers query selfDevice peers pending =>
        obtain ⟨rfl, -⟩ := Prod.mk.inj (Option.some.inj hnext)
        obtain ⟨hpeers, hpending⟩ := h
        cases pending with
        | nil => exact lists_afterPeers hpeers hpending
        | cons row pending =>
            obtain ⟨hrow, hpending⟩ := List.forall_mem_cons.mp hpending
            refine lists_afterPeers (fun peer hpeer => ?_) hpending
            rcases List.mem_append.mp hpeer with hpeer | hpeer
            · exact hpeers peer hpeer
            · rw [List.mem_singleton.mp hpeer]
              exact hstores.networkMapPeer hrow _
    | mapVersion query selfDevice peers pending sum =>
        obtain ⟨rfl, -⟩ := Prod.mk.inj (Option.some.inj hnext)
        unfold Process.mapRead
        split <;> exact h
    | mapDns query selfDevice peers version =>
        obtain ⟨rfl, -⟩ := Prod.mk.inj (Option.some.inj hnext)
        exact h
    | done reply => cases hnext
    | _ => cases hmap
  · refine lists_of_handler ?_
    rw [Process.next_handler hnext]
    exact hmap

/-- One event: what the requests list stays a list of rows that were stored. -/
theorem lists_step {e : Event} (hstores : Stores R E st.db) (h : ∀ p ∈ st.requests, Lists R E p)
    (hstep : st.step S e = some st') : ∀ p ∈ st'.requests, Lists R E p := by
  intro q hq
  rcases mem_requests_of_step hstep hq with
    hold | ⟨request, rfl⟩ | ⟨p, _, _, hfailed, rfl⟩ | ⟨p, _, _, hp, hnext⟩
  · exact h q hold
  · cases request <;> trivial
  · rw [Process.failed_eq hfailed]
    cases p.handler <;> trivial
  · exact (h p hp).next hstores hnext

end Lists

-- ============================================================================
-- The overlay addresses
-- ============================================================================

theorem poolAddress_toList (i : Nat) : (poolAddress i).toList =
    ['1', '0', '0', '.', '6', '4', '.', '0', '.'] ++ Nat.toDigits 10 (i + 2) := by
  rw [poolAddress, String.toList_append, Nat.toString_eq_ofList_toDigits]
  simp

open AddrParser in
/-- The first three numbers of an address of the pool are fixed. -/
theorem readIpv4Addr_pool (digits : List Char) :
    readIpv4Addr (['1', '0', '0', '.', '6', '4', '.', '0', '.'] ++ digits) =
      (readNumber 10 3 false 256 digits).map fun (d, rest) => (⟨100, 64, 0, UInt8.ofNat d⟩, rest) := by
  show (readNumber 10 3 false 256 digits >>= _) = _
  cases readNumber 10 3 false 256 digits <;> rfl

/-- The last number is read to the end, and has at most three digits. -/
theorem readNumber_pool : ∀ i < 253,
    AddrParser.readNumber 10 3 false 256 (Nat.toDigits 10 (i + 2)) = some (i + 2, []) ∧
      ((Nat.toDigits 10 (i + 2)).flatMap String.utf8EncodeChar).length ≤ 3 := by
  decide +kernel

/-- Agents can read every address of the pool. -/
theorem parseIpv4Addr_poolAddress {i : Nat} (h : i < 253) :
    parseIpv4Addr (poolAddress i) = some ⟨100, 64, 0, UInt8.ofNat (i + 2)⟩ := by
  obtain ⟨hnumber, hlength⟩ := readNumber_pool i h
  have hsize : (poolAddress i).utf8ByteSize =
      9 + ((Nat.toDigits 10 (i + 2)).flatMap String.utf8EncodeChar).length := by
    rw [poolAddress, String.utf8ByteSize_append, Nat.toString_eq_ofList_toDigits, ← strBytes_ofList]
    rfl
  rw [parseIpv4Addr, if_neg (by omega), poolAddress_toList, AddrParser.parseWith, readIpv4Addr_pool,
    hnumber]
  rfl

/-- What is read is the address. -/
theorem display_poolAddress {i : Nat} (h : i < 253) :
    Ipv4Addr.display ⟨100, 64, 0, UInt8.ofNat (i + 2)⟩ = poolAddress i := by
  have hoctet : (UInt8.ofNat (i + 2)).toNat = i + 2 := by
    rw [UInt8.toNat_ofNat', Nat.mod_eq_of_lt (by omega)]
  have hhead : toString (100 : UInt8).toNat ++ "." ++ toString (64 : UInt8).toNat ++ "." ++
      toString (0 : UInt8).toNat ++ "." = "100.64.0." := by
    decide
  rw [Ipv4Addr.display, hoctet]
  exact congrArg (· ++ toString (i + 2)) hhead

/-- Every device has an address of the pool. -/
theorem Allocated.in_pool (h : Allocated db) {d : DeviceRow} (hd : d ∈ db.devices.rows) :
    ∃ i < 253, d.ipv4 = poolAddress i := by
  have hmem : (d.id, d.ipv4) ∈ db.owners := List.mem_map_of_mem hd
  rw [h.owners] at hmem
  obtain ⟨r, hr, heq⟩ := List.mem_map.mp hmem
  have hip : r.ip ∈ (List.range db.ipAllocations.rows.length).map poolAddress :=
    h.addresses ▸ List.mem_map_of_mem hr
  obtain ⟨i, hi, haddress⟩ := List.mem_map.mp hip
  have hbound := h.bound
  have hlt := List.mem_range.mp hi
  exact ⟨i, by omega, (Prod.mk.inj heq).2.symm.trans haddress.symm⟩

/-- The overlay address of a row can be read. -/
def ReadableIp (row : PeerRow) : Prop := (parseIpv4Addr row.ipv4).isSome = true

theorem Allocated.stores (h : Allocated db) : Stores ReadableIp (fun _ => True) db := by
  refine ⟨fun d hd => ?_, fun _ _ => trivial⟩
  obtain ⟨i, hi, haddress⟩ := h.in_pool hd
  show (parseIpv4Addr d.ipv4).isSome = true
  rw [haddress, parseIpv4Addr_poolAddress hi]
  rfl

namespace ControlState

theorem readable_of_run {now : Timestamp} {events : List Event}
    (h : run (step S) (start .empty now) events = some st) :
    ∀ p ∈ st.requests, Lists ReadableIp (fun _ => True) p := by
  have hkeep : ∀ s e t, (AddressInv s ∧ ∀ p ∈ s.requests, Lists ReadableIp (fun _ => True) p) →
      step S s e = some t → AddressInv t ∧ ∀ p ∈ t.requests, Lists ReadableIp (fun _ => True) p :=
    fun s e t hinv hstep => ⟨hinv.1.step hstep, lists_step hinv.1.allocated.stores hinv.2 hstep⟩
  exact (invariant_run (s := start .empty now) (t := st) hkeep
    ⟨addressInv_start now, fun p hp => by cases hp⟩ h).2

end ControlState

-- ============================================================================
-- What is stored
-- ============================================================================

/-- The credential of a row is one that the backend knows. -/
def KnownCredential (X : Externals) (row : PeerRow) : Prop := CredentialFits X row.backendPublicCredential

/-- An update that leaves the credentials alone. -/
theorem Stores.update {f : DeviceRow → DeviceRow} {deviceId : String}
    (h : Stores (KnownCredential X) EndpointFits db)
    (hf : ∀ d, (f d).backendPublicCredential = d.backendPublicCredential) :
    ∀ d ∈ Table.updated db.devices.rows (Db.isLiveDevice deviceId) f, KnownCredential X d.peerRow := by
  refine Table.forall_updated (fun d hd _ => ?_) h.devices
  show CredentialFits X (f d).backendPublicCredential
  rw [hf]
  exact h.devices d hd

/-- A heartbeat whose endpoints the agents can read. -/
theorem Stores.heartbeat (h : Stores (KnownCredential X) EndpointFits db) {request : HeartbeatRequest}
    (hfits : ∀ e ∈ request.endpoints, EndpointFits e)
    (hok : db.heartbeatTx S clock request = .ok db') : Stores (KnownCredential X) EndpointFits db' := by
  refine storeEndpoints_invariant (Stores (KnownCredential X) EndpointFits)
    (fun i e he db₁ db₂ hinv hstore => ?_) ?_ hok
  · obtain ⟨endpoints, hupsert, rfl⟩ := Db.storeEndpoint_ok hstore
    exact ⟨hinv.devices, Table.forall_upsert hupsert (hfits e he) (fun _ _ _ => hfits e he) hinv.endpoints⟩
  · exact ⟨h.update fun _ => rfl, fun r hr => h.endpoints r (List.mem_filter.mp hr).1⟩

/-- A registration with a known credential. -/
theorem Stores.register (h : Stores (KnownCredential X) EndpointFits db)
    {request : RegisterDeviceRequest} {hostname ipv4 : String} {response : RegisterDeviceResponse}
    (hfits : CredentialFits X request.backendPublicCredential)
    (hok : db.registerTx S clock fresh request hostname ipv4 = .ok (response, db')) :
    Stores (KnownCredential X) EndpointFits db' := by
  obtain ⟨devices, _, _, _, hinsert, -, -, rfl, -⟩ := Db.registerTx_ok hok
  refine ⟨fun d hd => ?_, h.endpoints⟩
  rcases List.mem_append.mp ((Table.insert_eq_some.mp hinsert).2 ▸ hd) with hd | hd
  · exact h.devices d hd
  · rw [List.mem_singleton.mp hd]
    exact hfits

/-- If the transaction that a request is about to make commits, the agents can read
    what it stores. -/
def WritesReadable (X : Externals) (S : Server) (db : Db) (clock : Nat → Timestamp) (fresh : Fresh) :
    Process → Prop
  | .registerAllocated request hostname ipv4 =>
      (db.registerTx S clock fresh request hostname ipv4).isOk = true →
        CredentialFits X request.backendPublicCredential
  | .heartbeatValidated request =>
      (db.heartbeatTx S clock request).isOk = true → ∀ e ∈ request.endpoints, EndpointFits e
  | _ => True

instance (X : Externals) (S : Server) (db : Db) (clock : Nat → Timestamp) (fresh : Fresh) :
    (p : Process) → Decidable (WritesReadable X S db clock fresh p)
  | .registerAllocated .. | .heartbeatValidated _ => inferInstanceAs (Decidable (_ → _))
  | .createAuthKey | .registerReceived _ | .registerUnknown _ | .registerValidated ..
  | .renameReceived .. | .renameCommitted _ | .deleteReceived _ | .heartbeatReceived _
  | .heartbeatVersion .. | .mapReceived _ | .mapValidated _ | .mapSelf .. | .mapPeers ..
  | .mapVersion .. | .mapDns .. | .done _ => isTrue trivial

namespace ControlState

/-- What an event stores, the agents can read. -/
def StoresReadable (X : Externals) (S : Server) (st : ControlState) : Event → Prop
  | .advance r fresh elapsed =>
      match st.requests[r]? with
      | some p => WritesReadable X S st.db (elapsed.clock st.now) fresh p
      | none => True
  | _ => True

instance (X : Externals) (S : Server) (st : ControlState) :
    (e : Event) → Decidable (StoresReadable X S st e)
  | .tick _ | .arrive _ | .abort .. => isTrue trivial
  | .advance r fresh elapsed =>
      match h : st.requests[r]? with
      | some p => decidable_of_iff (WritesReadable X S st.db (elapsed.clock st.now) fresh p)
          (by rw [StoresReadable, h])
      | none => isTrue (by rw [StoresReadable, h]; trivial)

theorem StoresReadable.step {e : Event} (hreadable : StoresReadable X S st e)
    (h : Stores (KnownCredential X) EndpointFits st.db) (hstep : st.step S e = some st') :
    Stores (KnownCredential X) EndpointFits st'.db := by
  rcases step_db hstep with hsame | ⟨r, p, _, fresh, elapsed, rfl, hp, -, hcommit⟩
  · rw [hsame]
    exact h
  · rw [StoresReadable, hp] at hreadable
    generalize st'.db = db' at hcommit ⊢
    cases hcommit with
    | createAuthKey hok =>
        obtain ⟨_, _, -, -, -, rfl⟩ := Db.createAuthKey_ok hok
        exact ⟨h.devices, h.endpoints⟩
    | register hok => exact h.register (hreadable (Fallible.isOk_iff.mpr ⟨_, hok⟩)) hok
    | rename _ hok =>
        obtain ⟨_, _, _, -, -, -, rfl⟩ := Db.renameTx_ok hok
        exact ⟨h.update fun _ => rfl, h.endpoints⟩
    | delete hok =>
        obtain rfl := Db.deleteTx_ok hok
        exact ⟨h.update fun _ => rfl, h.endpoints⟩
    | heartbeat hok => exact h.heartbeat (hreadable (Fallible.isOk_iff.mpr ⟨_, hok⟩)) hok

theorem fits_of_run {now : Timestamp} {events : List Event}
    (halong : Along (step S) (StoresReadable X S) (start .empty now) events)
    (h : run (step S) (start .empty now) events = some st) :
    ∀ p ∈ st.requests, Lists (KnownCredential X) EndpointFits p := by
  have hkeep : ∀ s e t, (Stores (KnownCredential X) EndpointFits s.db ∧
        ∀ p ∈ s.requests, Lists (KnownCredential X) EndpointFits p) →
      StoresReadable X S s e → step S s e = some t →
      Stores (KnownCredential X) EndpointFits t.db ∧
        ∀ p ∈ t.requests, Lists (KnownCredential X) EndpointFits p :=
    fun s e t hinv hreadable hstep => ⟨hreadable.step hinv.1 hstep, lists_step hinv.1 hinv.2 hstep⟩
  have hempty : Stores (KnownCredential X) EndpointFits Db.empty :=
    ⟨fun d hd => (by cases hd), fun r hr => (by cases hr)⟩
  exact (invariant_along (s := start .empty now) (t := st) hkeep
    ⟨hempty, fun p hp => by cases hp⟩ halong h).2

/-- **When agents can apply a network map.**  From an empty database, for every
    interleaving of requests with any texts, and every network map that was sent:

    * it is accepted exactly when the credential of each of its peers is one that the
      backend knows and the agent can read each endpoint; the overlay addresses never
      stand in the way,
    * it is accepted when every registration and every heartbeat that was stored in
      the run carried such credentials and endpoints. -/
theorem network_map_accepted (X : Externals) (S : Server) (now : Timestamp) (events : List Event)
    (st : ControlState) (h : run (step S) (start .empty now) events = some st)
    (r : Nat) (map : NetworkMapResponse)
    (hmap : st.requests[r]? = some (.done (.networkMap (.ok map)))) :
    (Accepted X map.peers ↔ ∀ peer ∈ map.peers, CredentialFits X peer.backendPublicCredential ∧
        ∀ e ∈ peer.endpoints, EndpointFits e) ∧
      (Along (step S) (StoresReadable X S) (start .empty now) events → Accepted X map.peers) := by
  have hmem := List.mem_of_getElem? hmap
  have hreadable : ∀ peer ∈ map.peers, EntryOf ReadableIp (fun _ => True) peer :=
    readable_of_run h _ hmem
  have hiff : Accepted X map.peers ↔ ∀ peer ∈ map.peers, Fits X peer :=
    accepted_iff fun peer hpeer => (hreadable peer hpeer).1
  refine ⟨hiff, fun halong => hiff.mpr fun peer hpeer => ?_⟩
  have hfits : ∀ peer ∈ map.peers, EntryOf (KnownCredential X) EndpointFits peer :=
    fits_of_run halong h _ hmem
  exact hfits peer hpeer

end ControlState

namespace Reference

def validRegistration (name : String) : RegisterDeviceRequest :=
  { registration name with
    backendPublicCredential := Custom.encodePublicCredential Externals.reference (.replicate 32 2) }

/-- What the device of request `1` reports. -/
def heartbeatOf (kind : String) : HeartbeatRequest :=
  ⟨"dev_" ++ simple (uuids 1).device, "node_" ++ simple (uuids 1).node,
    [⟨kind, "192.168.1.20", 51820, "udp", none, none, none⟩]⟩

/-- Two devices register, the first one reports an endpoint, and the second one
    asks for its map. -/
def reportAndAsk (kind : String) : List Event :=
  [.arrive .createAuthKey, advance 0,
   .arrive (.registerDevice (validRegistration "alpha")),
   .arrive (.registerDevice (validRegistration "beta")),
   advance 1, advance 1, advance 2, advance 2, advance 1, advance 1, advance 2, advance 2,
   .arrive (.heartbeat (heartbeatOf kind)), advance 3, advance 3,
   .arrive (.networkMap ⟨"dev_" ++ simple (uuids 2).device, "node_" ++ simple (uuids 2).node⟩)] ++
  List.replicate 11 (advance 4)

end Reference

open Reference in
/-- An endpoint of a known kind is sent on, and the map is accepted. -/
theorem network_map_accepted_lan :
    ∃ st map, run (step server) (start .empty 0) (reportAndAsk "lan") = some st ∧
      st.requests[4]? = some (.done (.networkMap (.ok map))) ∧
      map.peers.map (·.endpoints.length) = [1] ∧ Accepted Externals.reference map.peers := by
  have hrun : (run (step server) (start .empty 0) (reportAndAsk "lan")).any (fun st : ControlState =>
      (st.served 4).any fun map => decide (map.peers.map (·.endpoints.length) = [1])) = true := by
    decide +kernel
  have hreadable : Along (step server) (StoresReadable Externals.reference server) (start .empty 0)
      (reportAndAsk "lan") := by
    decide +kernel
  obtain ⟨st, hst, hfacts⟩ := (Option.any_eq_true _ _).mp hrun
  obtain ⟨map, hserved, hfacts⟩ := (Option.any_eq_true _ _).mp hfacts
  have hmap := done_of_served hserved
  exact ⟨st, map, hst, hmap, of_decide_eq_true hfacts,
    (network_map_accepted _ server 0 _ st hst 4 map hmap).2 hreadable⟩

open Reference in
/-- An endpoint of an unknown kind is sent on, and the map is refused. -/
theorem network_map_refused_wan :
    ∃ st map, run (step server) (start .empty 0) (reportAndAsk "wan") = some st ∧
      st.requests[4]? = some (.done (.networkMap (.ok map))) ∧
      networkMapToPeerConfigs map.peers = .error "unsupported endpoint kind: wan" ∧
      ¬ Accepted Externals.reference map.peers := by
  have hrun : (run (step server) (start .empty 0) (reportAndAsk "wan")).any (fun st : ControlState =>
      (st.served 4).any fun map =>
        decide (networkMapToPeerConfigs map.peers = .error "unsupported endpoint kind: wan")) = true := by
    decide +kernel
  obtain ⟨st, hst, hfacts⟩ := (Option.any_eq_true _ _).mp hrun
  obtain ⟨map, hserved, hfacts⟩ := (Option.any_eq_true _ _).mp hfacts
  have hrefused := of_decide_eq_true hfacts
  refine ⟨st, map, hst, done_of_served hserved, hrefused, ?_⟩
  rintro ⟨configs, hok, -⟩
  rw [hrefused] at hok
  cases hok

end TfScale.Control
