/-
  TfScale.Control.Provenance

  Which requests the rows of the control plane come from.

  A registration and a heartbeat carry their request along until they write it
  (`Process.carries`), so what a process carries has arrived, and what a device row says
  of the machine and of its backend is what a registration said that has arrived.
-/

import TfScale.Control.Snapshot

namespace TfScale.Control

open ControlState

variable {S : Server} {db db' : Db} {clock : Nat → Timestamp} {fresh : Fresh} {p p' : Process}
variable {st st' : ControlState} {events : List Event}

-- ============================================================================
-- What a process carries
-- ============================================================================

/-- The registration or the heartbeat that a process is still to write. -/
def Process.carries : Process → Option Request
  | registerReceived request | registerUnknown request | registerValidated request _
  | registerAllocated request .. => some (.registerDevice request)
  | heartbeatReceived request | heartbeatValidated request => some (.heartbeat request)
  | _ => none

theorem carries_start {request q : Request} (h : request.start.carries = some q) : q = request := by
  cases request with
  | registerDevice request => exact (Option.some.inj h).symm
  | heartbeat request => exact (Option.some.inj h).symm
  | _ => cases h

/-- A process that takes a step carries what it carried, or nothing any more. -/
theorem carries_next {q : Request} (hnext : p.next S db clock fresh = some (p', db'))
    (h : p'.carries = some q) : p.carries = some q := by
  have hhandler := Process.next_handler hnext
  cases p' with
  | registerReceived request | registerUnknown request | registerValidated request hostname
  | registerAllocated request hostname ipv4 =>
      cases Process.next_register hnext rfl <;> exact h
  | heartbeatReceived request | heartbeatValidated request =>
      cases p with
      | heartbeatReceived received =>
          simp only [Process.next] at hnext
          split at hnext
          · cases (Prod.mk.inj (Option.some.inj hnext)).1
          · cases (Prod.mk.inj (Option.some.inj hnext)).1 <;> exact h
      | heartbeatValidated received =>
          have hstep := congrArg Prod.fst (Option.some.inj hnext)
          unfold Process.heartbeatUpdate at hstep
          split at hstep <;> cases hstep
      | heartbeatVersion pending sum =>
          have hstep := congrArg Prod.fst (Option.some.inj hnext)
          unfold Process.heartbeatRead at hstep
          dsimp only at hstep
          split at hstep <;> cases hstep
      | done reply => cases hnext
      | _ => cases hhandler
  | _ => cases h

-- ============================================================================
-- Rows
-- ============================================================================

/-- The row has the machine and the backend of the registration. -/
structure DeviceRow.RegisteredBy (d : DeviceRow) (request : RegisterDeviceRequest) : Prop where
  machineKey : d.machineKey = request.machineKey
  backendType : d.backendType = request.backendType
  credential : d.backendPublicCredential = request.backendPublicCredential
  os : d.os = request.os
  arch : d.arch = request.arch
  clientVersion : d.clientVersion = request.clientVersion

/-- Every device row was written by one of the registrations. -/
def RowsFrom (arrived : List Request) (db : Db) : Prop :=
  ∀ d ∈ db.devices.rows, ∃ request, .registerDevice request ∈ arrived ∧ d.RegisteredBy request

section Rows

variable {arrived : List Request}

theorem RowsFrom.mono (h : RowsFrom arrived db) (later : List Request) :
    RowsFrom (arrived ++ later) db := by
  intro d hd
  obtain ⟨request, harrived, hby⟩ := h d hd
  exact ⟨request, List.mem_append_left _ harrived, hby⟩

/-- An update that leaves the machine and the backend alone. -/
theorem RowsFrom.updated {deviceId : String} {f : DeviceRow → DeviceRow} (h : RowsFrom arrived db)
    (hf : ∀ (d : DeviceRow) request, d.RegisteredBy request → (f d).RegisteredBy request) :
    ∀ d ∈ Table.updated db.devices.rows (Db.isLiveDevice deviceId) f,
      ∃ request, .registerDevice request ∈ arrived ∧ d.RegisteredBy request := by
  refine Table.forall_updated (fun d hd _ => ?_) h
  obtain ⟨request, harrived, hby⟩ := h d hd
  exact ⟨request, harrived, hf d request hby⟩

theorem Commit.rowsFrom (hcommit : Commit S clock fresh db p db') (h : RowsFrom arrived db)
    (hcarries : ∀ q, p.carries = some q → q ∈ arrived) : RowsFrom arrived db' := by
  cases hcommit with
  | createAuthKey hok =>
      obtain ⟨_, _, -, -, -, rfl⟩ := Db.createAuthKey_ok hok
      exact h
  | register hok =>
      obtain ⟨devices, _, _, _, hinsert, -, -, rfl, -⟩ := Db.registerTx_ok hok
      intro d hd
      rcases List.mem_append.mp ((Table.insert_eq_some.mp hinsert).2 ▸ hd) with hold | hnew
      · exact h d hold
      · obtain rfl := List.mem_singleton.mp hnew
        exact ⟨_, hcarries _ rfl, rfl, rfl, rfl, rfl, rfl, rfl⟩
  | rename _ hok =>
      obtain ⟨_, _, _, -, -, -, rfl⟩ := Db.renameTx_ok hok
      exact h.updated fun d request hby => ⟨hby.machineKey, hby.backendType, hby.credential, hby.os,
        hby.arch, hby.clientVersion⟩
  | delete hok =>
      obtain rfl := Db.deleteTx_ok hok
      exact h.updated fun d request hby => ⟨hby.machineKey, hby.backendType, hby.credential, hby.os,
        hby.arch, hby.clientVersion⟩
  | heartbeat hok =>
      obtain ⟨_, rfl⟩ := Db.storeEndpoints_ok hok
      exact h.updated fun d request hby => ⟨hby.machineKey, hby.backendType, hby.credential, hby.os,
        hby.arch, hby.clientVersion⟩

end Rows

-- ============================================================================
-- Runs
-- ============================================================================

namespace ControlState

/-- What the processes carry has arrived, and the rows were written by what has arrived. -/
structure Provenance (events : List Event) (st : ControlState) : Prop where
  carried : ∀ p ∈ st.requests, ∀ q, p.carries = some q → q ∈ arrivals events
  rows : RowsFrom (arrivals events) st.db

theorem provenance_start (now : Timestamp) : Provenance [] (start .empty now) where
  carried p hp := by cases hp
  rows d hd := by cases hd

theorem Provenance.step {e : Event} (h : Provenance events st) (hstep : st.step S e = some st') :
    Provenance (events ++ [e]) st' := by
  refine ⟨fun p' hp' q hq => ?_, ?_⟩
  · rw [arrivals_append]
    obtain ⟨r, hr⟩ := List.getElem?_of_mem hp'
    rcases request_of_step hstep hr with
      hold | ⟨request, rfl, -, rfl⟩ | ⟨p, _, reply, -, -, rfl⟩ | ⟨p, _, _, rfl, hp, hnext⟩
    · exact List.mem_append_left _ (h.carried p' (List.mem_of_getElem? hold) q hq)
    · obtain rfl := carries_start hq
      exact List.mem_append_right _ (List.mem_singleton.mpr rfl)
    · cases hq
    · exact List.mem_append_left _
        (h.carried p (List.mem_of_getElem? hp) q (carries_next hnext hq))
  · rw [arrivals_append]
    refine RowsFrom.mono ?_ _
    rcases step_db hstep with hsame | ⟨r, p, _, _, _, -, hp, -, hcommit⟩
    · rw [hsame]
      exact h.rows
    · exact hcommit.rowsFrom h.rows (h.carried p (List.mem_of_getElem? hp))

theorem provenance_of_run {now : Timestamp}
    (h : run (ControlState.step S) (start .empty now) events = some st) : Provenance events st :=
  invariant_history (provenance_start now) (fun _ _ _ _ _ hinv hstep => hinv.step hstep) h

end ControlState

end TfScale.Control
