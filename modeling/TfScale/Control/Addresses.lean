/-
  TfScale.Control.Addresses

  Which overlay addresses are given out?

  `allocate_ipv4` counts the rows of `ip_allocations` in a query of its own, so two
  registrations under way may both hold the address that the count gave.  The first
  insert takes it; the count only grows, so whatever a registration holds is either
  the next free address or one that the unique column `ip` refuses.
-/

import TfScale.Control.Registration

namespace TfScale.Control

open ControlState

variable {S : Server} {db db' : Db} {clock : Nat → Timestamp} {fresh : Fresh} {p p' : Process}
variable {st st' : ControlState}

/-- The address with number `i`, from 100.64.0.2 on. -/
def poolAddress (i : Nat) : String := "100.64.0." ++ toString (i + 2)

theorem allocateIpv4_ok {ipv4 : String} (h : db.allocateIpv4 = .ok ipv4) :
    db.ipAllocations.rows.length ≤ 252 ∧ ipv4 = poolAddress db.ipAllocations.rows.length := by
  unfold Db.allocateIpv4 at h
  by_cases hfull : 254 < db.ipAllocations.rows.length + 2
  · rw [if_pos hfull] at h
    cases h
  · rw [if_neg hfull] at h
    exact ⟨by omega, (Except.ok.inj h).symm⟩

/-- An address reaches the insert of a registration from `allocate_ipv4` only. -/
theorem Process.next_allocated {request : RegisterDeviceRequest} {hostname ipv4 : String}
    (h : p.next S db clock fresh = some (.registerAllocated request hostname ipv4, db')) :
    db.allocateIpv4 = .ok ipv4 := by
  cases next_register h rfl with
  | allocated hallocate => exact hallocate

/-- The insert of a registration adds one allocation, whose address was free. -/
theorem registerTx_ipAllocations {request : RegisterDeviceRequest} {hostname ipv4 : String}
    {response : RegisterDeviceResponse}
    (h : db.registerTx S clock fresh request hostname ipv4 = .ok (response, db')) :
    ∃ row, db'.ipAllocations.rows = db.ipAllocations.rows ++ [row] ∧ row.ip = ipv4 ∧
      (row.deviceId, row.ip) = (response.deviceId, response.ipv4) ∧
      ∀ r ∈ db.ipAllocations.rows, r.ip ≠ ipv4 := by
  obtain ⟨_, _, _, ipAllocations, -, -, hinsert, rfl, rfl, -⟩ := Db.registerTx_ok h
  obtain ⟨hfree, hrows⟩ := Table.insert_eq_some.mp hinsert
  refine ⟨_, hrows, rfl, rfl, fun r hr hip => ?_⟩
  have hclash := hfree r hr
  rw [show ∀ row, Schema.clash r row = (r.id == row.id || r.ip == row.ip) from fun _ => rfl, hip,
    beq_self_eq_true, Bool.or_true] at hclash
  cases hclash

-- ============================================================================
-- The invariant
-- ============================================================================

/-- The devices with their addresses. -/
def Db.owners (db : Db) : List (String × String) := db.devices.rows.map fun d => (d.id, d.ipv4)

/-- The allocations: to which device, which address. -/
def Db.allocations (db : Db) : List (String × String) :=
  db.ipAllocations.rows.map fun r => (r.deviceId, r.ip)

theorem owners_eq (db : Db) :
    db.owners = db.identities.map fun i => (i.2.deviceId, i.2.ipv4) := by
  rw [Db.identities, List.map_map]
  rfl

/-- The first addresses of the pool are given out, to the devices in the order of
    their registration. -/
structure Allocated (db : Db) : Prop where
  bound : db.ipAllocations.rows.length ≤ 253
  addresses : db.ipAllocations.rows.map (·.ip) =
    (List.range db.ipAllocations.rows.length).map poolAddress
  owners : db.owners = db.allocations

/-- An address that a registration holds has been allocated since, or is next. -/
def HeldAddress (db : Db) (ipv4 : String) : Prop :=
  ∃ i, i ≤ db.ipAllocations.rows.length ∧ i ≤ 252 ∧ ipv4 = poolAddress i

theorem allocated_empty : Allocated .empty where
  bound := Nat.zero_le _
  addresses := rfl
  owners := rfl

theorem HeldAddress.mono {ipv4 : String} (h : HeldAddress db ipv4)
    (hle : db.ipAllocations.rows.length ≤ db'.ipAllocations.rows.length) : HeldAddress db' ipv4 := by
  obtain ⟨i, hi, hbound, heq⟩ := h
  exact ⟨i, hi.trans hle, hbound, heq⟩

/-- Only the next address can be inserted. -/
theorem Allocated.register (h : Allocated db) {request : RegisterDeviceRequest}
    {hostname ipv4 : String} {response : RegisterDeviceResponse} (hheld : HeldAddress db ipv4)
    (hok : db.registerTx S clock fresh request hostname ipv4 = .ok (response, db')) :
    Allocated db' := by
  obtain ⟨row, hrows, hip, howner, hfree⟩ := registerTx_ipAllocations hok
  obtain ⟨i, hi, hbound, rfl⟩ := hheld
  -- an address below the count is in the table
  have hnext : i = db.ipAllocations.rows.length := by
    refine Nat.le_antisymm hi (Nat.le_of_not_lt fun hlt => ?_)
    have hmem : poolAddress i ∈ db.ipAllocations.rows.map (·.ip) := by
      rw [h.addresses]
      exact List.mem_map_of_mem (List.mem_range.mpr hlt)
    obtain ⟨r, hr, hrip⟩ := List.mem_map.mp hmem
    exact hfree r hr hrip
  have hlength : db'.ipAllocations.rows.length = db.ipAllocations.rows.length + 1 := by
    rw [hrows, List.length_append]
    rfl
  refine ⟨by omega, ?_, ?_⟩
  · rw [hlength, List.range_succ, List.map_append, ← h.addresses, hrows, List.map_append, ← hnext]
    show _ ++ [row.ip] = _
    rw [hip]
    rfl
  · rw [owners_eq, registerTx_identities hok, List.map_append, ← owners_eq, h.owners, Db.allocations,
      Db.allocations, hrows, List.map_append]
    show _ ++ [_] = _ ++ [(row.deviceId, row.ip)]
    rw [howner]

theorem Allocated.congr (h : Allocated db) (hidentities : db'.identities = db.identities)
    (hip : db'.ipAllocations = db.ipAllocations) : Allocated db' := by
  refine ⟨by rw [hip]; exact h.bound, by rw [hip]; exact h.addresses, ?_⟩
  rw [owners_eq, hidentities, ← owners_eq, h.owners, Db.allocations, Db.allocations, hip]

theorem Commit.allocations_le (h : Commit S clock fresh db p db') :
    db.ipAllocations.rows.length ≤ db'.ipAllocations.rows.length := by
  rcases h.register_or with ⟨_, _, _, _, -, hok⟩ | ⟨-, hsame⟩
  · obtain ⟨row, hrows, -⟩ := registerTx_ipAllocations hok
    rw [hrows, List.length_append]
    exact Nat.le_add_right _ _
  · rw [hsame]

namespace ControlState

structure AddressInv (st : ControlState) : Prop where
  allocated : Allocated st.db
  held : ∀ (r : Nat) request hostname ipv4,
    st.requests[r]? = some (.registerAllocated request hostname ipv4) → HeldAddress st.db ipv4

theorem addressInv_start (now : Timestamp) : AddressInv (start .empty now) where
  allocated := allocated_empty
  held := fun _ _ _ _ h => by cases h

theorem AddressInv.step {e : Event} (h : AddressInv st) (hstep : st.step S e = some st') :
    AddressInv st' := by
  have hdb : Allocated st'.db ∧ st.db.ipAllocations.rows.length ≤ st'.db.ipAllocations.rows.length := by
    rcases step_db hstep with hsame | ⟨r, p, _, _, _, -, hp, -, hcommit⟩
    · rw [hsame]
      exact ⟨h.allocated, Nat.le_refl _⟩
    · refine ⟨?_, hcommit.allocations_le⟩
      rcases hcommit.register_or with ⟨request, hostname, ipv4, _, rfl, hok⟩ | ⟨hids, hips⟩
      · exact h.allocated.register (h.held r request hostname ipv4 hp) hok
      · exact h.allocated.congr hids hips
  refine ⟨hdb.1, fun q request hostname ipv4 hq => ?_⟩
  rcases mem_requests_of_step hstep (List.mem_of_getElem? hq) with
    hold | ⟨request', hstart⟩ | ⟨_, _, _, -, hdone⟩ | ⟨_, _, _, -, hnext⟩
  · obtain ⟨r, hr⟩ := List.mem_iff_getElem?.mp hold
    exact (h.held r request hostname ipv4 hr).mono hdb.2
  · cases request' <;> cases hstart
  · cases hdone
  · obtain ⟨hbound, heq⟩ := allocateIpv4_ok (Process.next_allocated hnext)
    exact ⟨_, hdb.2, hbound, heq⟩

theorem addressInv_of_run {events : List Event} {now : Timestamp}
    (h : run (step S) (start .empty now) events = some st) : AddressInv st :=
  invariant_run (fun _ _ _ hinv hstep => hinv.step hstep) (addressInv_start now) h

/-- **Overlay address ownership.**  From an empty database, for every interleaving of
    requests, with `n` rows in `ip_allocations`:

    * `n` is at most 253, and the addresses are 100.64.0.2 to 100.64.0.(n+1), each once,
    * the allocations are those of the device rows, deleted ones included,
    * no address belongs to two devices, and a device that was there at any time of
      the run still has its row, with the same address. -/
theorem overlay_address_ownership (S : Server) (now : Timestamp) (events : List Event)
    (st : ControlState) (h : run (step S) (start .empty now) events = some st) :
    st.db.ipAllocations.rows.length ≤ 253 ∧
      st.db.ipAllocations.rows.map (·.ip) =
        (List.range st.db.ipAllocations.rows.length).map (fun i => "100.64.0." ++ toString (i + 2)) ∧
      (st.db.ipAllocations.rows.map (·.ip)).Nodup ∧
      st.db.devices.rows.map (fun d => (d.id, d.ipv4)) =
        st.db.ipAllocations.rows.map (fun r => (r.deviceId, r.ip)) ∧
      (st.db.devices.rows.map (·.id)).Nodup ∧ (st.db.devices.rows.map (·.ipv4)).Nodup ∧
      ∀ before after s, events = before ++ after → run (step S) (start .empty now) before = some s →
        ∀ d ∈ s.db.devices.rows, ∃ d' ∈ st.db.devices.rows, d'.id = d.id ∧ d'.ipv4 = d.ipv4 := by
  have hinv := (addressInv_of_run h).allocated
  refine ⟨hinv.bound, hinv.addresses, ?_, hinv.owners, ?_, ?_, ?_⟩
  · refine List.pairwise_map.mpr (st.db.ipAllocations.unique.imp fun {r r'} hclash heq => ?_)
    rw [show Schema.clash r r' = (r.id == r'.id || r.ip == r'.ip) from rfl, heq, beq_self_eq_true,
      Bool.or_true] at hclash
    cases hclash
  · refine List.pairwise_map.mpr (st.db.devices.unique.imp fun {d d'} hclash heq => ?_)
    rw [deviceClash_eq, heq, beq_self_eq_true, Bool.true_or, Bool.true_or] at hclash
    cases hclash
  · refine List.pairwise_map.mpr (st.db.devices.unique.imp fun {d d'} hclash heq => ?_)
    rw [deviceClash_eq, heq, beq_self_eq_true, Bool.or_true] at hclash
    cases hclash
  · rintro before after s rfl hs d hd
    obtain ⟨s₁, hs₁, hafter⟩ := run_append_eq_some.mp h
    obtain rfl := Option.some.inj (hs.symm.trans hs₁)
    obtain ⟨d', hd', heq⟩ := List.mem_map.mp ((run_identities hafter).subset (List.mem_map_of_mem hd))
    have hregistered := congrArg Prod.snd heq
    exact ⟨d', hd', congrArg RegisterDeviceResponse.deviceId hregistered,
      congrArg RegisterDeviceResponse.ipv4 hregistered⟩

end ControlState

namespace Reference

/-- Two devices register, and the first one is deleted. -/
def twoDevices : List Event :=
  [.arrive .createAuthKey, advance 0,
   .arrive (.registerDevice (registration "alpha")), .arrive (.registerDevice (registration "beta")),
   advance 1, advance 1, advance 2, advance 2, advance 1, advance 1, advance 2, advance 2,
   .arrive (.deleteDevice ("dev_" ++ simple (uuids 1).device)), advance 3]

end Reference

open Reference in
/-- The deleted device keeps its address. -/
theorem overlay_address_ownership_after_delete :
    ∃ st, run (step server) (start .empty 0) twoDevices = some st ∧
      st.db.devices.rows.map (·.live) = [false, true] ∧
      st.db.ipAllocations.rows.map (·.ip) = ["100.64.0.2", "100.64.0.3"] := by
  have hrun : (run (step server) (start .empty 0) twoDevices).any (fun st =>
      st.db.devices.rows.map (·.live) = [false, true] ∧ st.db.ipAllocations.rows.length = 2) = true := by
    decide +kernel
  obtain ⟨st, hst, hfacts⟩ := (Option.any_eq_true _ _).mp hrun
  obtain ⟨hlive, htwo⟩ := of_decide_eq_true hfacts
  obtain ⟨-, hips, -⟩ := overlay_address_ownership server 0 twoDevices st hst
  refine ⟨st, hst, hlive, ?_⟩
  rw [hips, htwo]
  decide

end TfScale.Control
