/-
  TfScale.Control.Progress

  How many queries can a request make?

  A handler makes one query after another and goes back to none, so every step of its own
  brings a request closer to its answer (`Process.left`), whatever other requests commit in
  between.  Only the network map has a length that depends on the database: one query for
  each peer.  Device rows are never removed, so the number of rows at the end bounds what
  any request has seen.  How long a query waits for the database is not said here.
-/

import TfScale.Control.AuthKeys
import TfScale.Control.Snapshot

namespace TfScale.Control

open ControlState

variable {S : Server} {db db' : Db} {clock : Nat → Timestamp} {fresh : Fresh} {p p' : Process}
variable {st st' : ControlState} {events : List Event}

-- ============================================================================
-- The steps that are left
-- ============================================================================

/-- The steps that a request has still to take when there are `devices` device rows. -/
def Process.left (devices : Nat) : Process → Nat
  | createAuthKey => 1
  | registerReceived _ => 4
  | registerUnknown _ => 3
  | registerValidated .. => 2
  | registerAllocated .. => 1
  | renameReceived .. => 2
  | renameCommitted _ => 1
  | deleteReceived _ => 1
  | heartbeatReceived _ => 8
  | heartbeatValidated _ => 7
  | heartbeatVersion pending _ => max 1 pending.length
  | mapReceived _ => 10 + devices
  | mapValidated _ => 9 + devices
  | mapSelf .. => 8 + devices
  | mapPeers _ _ _ pending => 7 + max 1 pending.length
  | mapVersion _ _ _ pending _ => 1 + max 1 pending.length
  | mapDns .. => 1
  | done _ => 0

theorem left_start (request : Request) (devices : Nat) : request.start.left devices ≤ 10 + devices := by
  cases request <;> simp only [Request.start, Process.left] <;> omega

/-- With more rows there is at most one more step for each. -/
theorem left_mono {devices more : Nat} (h : devices ≤ more) (p : Process) :
    p.left more + devices ≤ p.left devices + more := by
  cases p <;> simp only [Process.left] <;> omega

theorem left_eq_zero {devices : Nat} : p.left devices = 0 ↔ ∃ reply, p = .done reply := by
  cases p <;> simp [Process.left]

theorem length_peerRows_le (db : Db) (deviceId : String) :
    (db.peerRows deviceId).length ≤ db.devices.rows.length := by
  rw [Db.peerRows, Table.select, List.length_map, List.length_insertionSort]
  exact List.length_filter_le _ _

theorem left_afterPeers (query : NetworkMapQuery) (selfDevice : NetworkMapSelf)
    (peers : List NetworkMapPeer) (pending : List PeerRow) (devices : Nat) :
    (Process.afterPeers query selfDevice peers pending).left devices ≤ 7 + pending.length := by
  unfold Process.afterPeers
  split
  · exact Nat.le_refl _
  · rename_i hne
    have hpos : 0 < pending.length := List.length_pos_of_ne_nil (fun hnil => hne hnil)
    simp only [Process.left]
    omega

/-- Every step of its own brings a request closer to its answer. -/
theorem left_next (hnext : p.next S db clock fresh = some (p', db')) :
    p'.left db.devices.rows.length < p.left db.devices.rows.length := by
  cases p with
  | createAuthKey | heartbeatReceived request | mapReceived query | mapValidated query =>
      simp only [Process.next] at hnext
      split at hnext <;>
      · obtain ⟨rfl, -⟩ := Prod.mk.inj (Option.some.inj hnext)
        simp only [Process.left]
        omega
  | registerReceived request =>
      obtain ⟨rfl, -⟩ := Prod.mk.inj (Option.some.inj hnext)
      unfold Process.registerFind
      split <;> simp only [Process.left] <;> omega
  | registerUnknown request =>
      obtain ⟨rfl, -⟩ := Prod.mk.inj (Option.some.inj hnext)
      unfold Process.registerValidate
      split
      · simp only [Process.left]
        omega
      · split <;> simp only [Process.left] <;> omega
  | registerValidated request hostname =>
      obtain ⟨rfl, -⟩ := Prod.mk.inj (Option.some.inj hnext)
      unfold Process.registerAllocate
      split <;> simp only [Process.left] <;> omega
  | registerAllocated request hostname ipv4 =>
      obtain rfl := congrArg Prod.fst (Option.some.inj hnext)
      unfold Process.registerInsert
      split <;> simp only [Process.left] <;> omega
  | renameReceived deviceId request =>
      obtain rfl := congrArg Prod.fst (Option.some.inj hnext)
      unfold Process.renameUpdate
      split
      · simp only [Process.left]
        omega
      · split <;> simp only [Process.left] <;> omega
  | renameCommitted deviceId | mapDns query selfDevice peers version =>
      obtain ⟨rfl, -⟩ := Prod.mk.inj (Option.some.inj hnext)
      simp only [Process.left]
      omega
  | deleteReceived deviceId =>
      obtain rfl := congrArg Prod.fst (Option.some.inj hnext)
      unfold Process.deleteUpdate
      split <;> simp only [Process.left] <;> omega
  | heartbeatValidated request =>
      obtain rfl := congrArg Prod.fst (Option.some.inj hnext)
      unfold Process.heartbeatUpdate
      split
      · simp only [Process.left]
        omega
      · show max 1 VersionTerm.all.length < 7
        decide
  | heartbeatVersion pending sum =>
      obtain ⟨rfl, -⟩ := Prod.mk.inj (Option.some.inj hnext)
      unfold Process.heartbeatRead
      split
      · simp only [Process.left]
        omega
      · simp only [Process.left]
        omega
      · rename_i term pending hne
        have hpos : 0 < pending.length := List.length_pos_of_ne_nil (fun hnil => hne hnil)
        simp only [Process.left, List.length_cons]
        omega
  | mapSelf query selfDevice =>
      obtain ⟨rfl, -⟩ := Prod.mk.inj (Option.some.inj hnext)
      have hleft := left_afterPeers query selfDevice [] (db.peerRows query.deviceId) db.devices.rows.length
      have hle := length_peerRows_le db query.deviceId
      show _ < 8 + db.devices.rows.length
      omega
  | mapPeers query selfDevice peers pending =>
      obtain ⟨rfl, -⟩ := Prod.mk.inj (Option.some.inj hnext)
      unfold Process.mapLoadPeer
      split
      · show 7 < 8
        omega
      · rename_i row pending
        have hleft := left_afterPeers query selfDevice (peers ++ [db.networkMapPeer (clock 0) row]) pending
          db.devices.rows.length
        simp only [Process.left, List.length_cons] at hleft ⊢
        omega
  | mapVersion query selfDevice peers pending sum =>
      obtain ⟨rfl, -⟩ := Prod.mk.inj (Option.some.inj hnext)
      unfold Process.mapRead
      split
      · simp only [Process.left]
        omega
      · simp only [Process.left]
        omega
      · rename_i term pending hne
        have hpos : 0 < pending.length := List.length_pos_of_ne_nil (fun hnil => hne hnil)
        simp only [Process.left, List.length_cons]
        omega
  | done reply => cases hnext

-- ============================================================================
-- Runs
-- ============================================================================

namespace ControlState

/-- The steps that request `r` has taken itself. -/
def ownSteps (r : Nat) (events : List Event) : Nat :=
  events.countP fun e => e.request == some r

theorem ownSteps_concat (r : Nat) (events : List Event) (e : Event) :
    ownSteps r (events ++ [e]) = ownSteps r events + if e.request = some r then 1 else 0 := by
  simp [ownSteps, List.countP_append]

/-- Device rows are never removed. -/
theorem devices_mono {e : Event} (hstep : st.step S e = some st') :
    st.db.devices.rows.length ≤ st'.db.devices.rows.length := by
  have hle := (step_identities hstep).length_le
  rw [Db.identities, Db.identities, List.length_map, List.length_map] at hle
  exact hle

/-- A request that takes a step itself is then closer to its answer. -/
theorem left_of_own {e : Event} {r : Nat} (hstep : st.step S e = some st') (he : e.request = some r)
    (hp' : st'.requests[r]? = some p') : ∃ p, st.requests[r]? = some p ∧
      p'.left st.db.devices.rows.length < p.left st.db.devices.rows.length := by
  cases e with
  | tick seconds => cases he
  | arrive request => cases he
  | advance q fresh elapsed =>
      obtain rfl := Option.some.inj he
      obtain ⟨p, p₁, db', hq, hnext, rfl⟩ := step_advance.mp hstep
      rcases getElem?_set_cases hp' with ⟨-, rfl⟩ | ⟨hne, -⟩
      · exact ⟨p, hq, left_next hnext⟩
      · exact absurd rfl hne
  | abort q message =>
      obtain rfl := Option.some.inj he
      obtain ⟨p, reply, hq, hfailed, rfl⟩ := step_abort.mp hstep
      rcases getElem?_set_cases hp' with ⟨-, rfl⟩ | ⟨hne, -⟩
      · refine ⟨p, hq, Nat.pos_of_ne_zero fun hzero => ?_⟩
        obtain ⟨_, rfl⟩ := left_eq_zero.mp hzero
        cases hfailed
      · exact absurd rfl hne

/-- A step of another request leaves this one where it is, or it has just arrived. -/
theorem request_of_other {e : Event} {r : Nat} (hstep : st.step S e = some st') (he : e.request ≠ some r)
    (hp' : st'.requests[r]? = some p') : st.requests[r]? = some p' ∨
      r = st.requests.length ∧ ∃ request : Request, p' = request.start := by
  rcases request_of_step hstep hp' with
    hold | ⟨request, rfl, hr, rfl⟩ | ⟨p, error, reply, hp, hfailed, rfl⟩ |
    ⟨p, fresh, elapsed, rfl, hp, hnext⟩
  · exact Or.inl hold
  · exact Or.inr ⟨hr, request, rfl⟩
  · -- an abort of another request
    cases e with
    | abort q message =>
        obtain ⟨_, _, hq, -, rfl⟩ := step_abort.mp hstep
        rcases getElem?_set_cases hp' with ⟨rfl, -⟩ | ⟨-, hold⟩
        · exact absurd rfl he
        · exact Or.inl hold
    | advance q fresh elapsed =>
        obtain ⟨_, _, _, hq, -, rfl⟩ := step_advance.mp hstep
        rcases getElem?_set_cases hp' with ⟨rfl, -⟩ | ⟨-, hold⟩
        · exact absurd rfl he
        · exact Or.inl hold
    | tick seconds =>
        obtain rfl := Option.some.inj hstep
        exact Or.inl hp'
    | arrive request =>
        obtain rfl := Option.some.inj hstep
        have hlt := (List.getElem?_eq_some_iff.mp hp).1
        exact Or.inl ((List.getElem?_append_left hlt).symm.trans hp')
  · exact absurd rfl he

/-- What every request has behind it, and what it has still before it; nothing has been
    done for a request that has not come yet. -/
structure Paced (events : List Event) (st : ControlState) : Prop where
  within : ∀ (r : Nat) (p : Process), st.requests[r]? = some p →
    ownSteps r events + p.left st.db.devices.rows.length ≤ 10 + st.db.devices.rows.length
  idle : ∀ r, st.requests.length ≤ r → ownSteps r events = 0

theorem paced_start (db : Db) (now : Timestamp) : Paced [] (start db now) where
  within r p hp := by cases hp
  idle r _ := rfl

theorem Paced.step {e : Event} (h : Paced events st) (hstep : st.step S e = some st') :
    Paced (events ++ [e]) st' := by
  have hle := devices_mono hstep
  refine ⟨fun r p' hp' => ?_, fun r hr => ?_⟩
  · rw [ownSteps_concat]
    have hmore := left_mono hle p'
    by_cases he : e.request = some r
    · obtain ⟨p, hp, hless⟩ := left_of_own hstep he hp'
      have hwithin := h.within r p hp
      rw [if_pos he]
      omega
    · rw [if_neg he]
      rcases request_of_other hstep he hp' with hold | ⟨hr, request, rfl⟩
      · have hwithin := h.within r p' hold
        omega
      · have hidle := h.idle r (by omega)
        have hstart := left_start request st'.db.devices.rows.length
        omega
  · have hlength := length_of_step hstep
    rw [ownSteps_concat, h.idle r (by omega), if_neg]
    intro he
    -- a step needs a request that has come
    cases e with
    | tick seconds => cases he
    | arrive request => cases he
    | advance q fresh elapsed =>
        obtain rfl := Option.some.inj he
        obtain ⟨_, _, _, hq, -, -⟩ := step_advance.mp hstep
        have hlt := (List.getElem?_eq_some_iff.mp hq).1
        omega
    | abort q message =>
        obtain rfl := Option.some.inj he
        obtain ⟨_, _, hq, -, -⟩ := step_abort.mp hstep
        have hlt := (List.getElem?_eq_some_iff.mp hq).1
        omega

theorem paced_of_run {db : Db} {now : Timestamp}
    (h : run (ControlState.step S) (start db now) events = some st) : Paced events st :=
  invariant_history (paced_start db now) (fun _ _ _ _ _ hinv hstep => hinv.step hstep) h

/-- **The work of a request is bounded.**  Wherever a run of the control plane stands, and
    whatever the other requests have done meanwhile, no request has made more than ten
    queries and transactions and one for each device row, and one that has not been answered
    has made fewer. -/
theorem request_work_bounded (S : Server) (db : Db) (now : Timestamp) (events : List Event)
    (st : ControlState) (hrun : run (step S) (start db now) events = some st) (r : Nat) :
    ownSteps r events ≤ 10 + st.db.devices.rows.length ∧
      ∀ p, st.requests[r]? = some p → (∀ reply, p ≠ .done reply) →
        ownSteps r events < 10 + st.db.devices.rows.length := by
  have hpaced := paced_of_run hrun
  have hunanswered : ∀ p, st.requests[r]? = some p → (∀ reply, p ≠ .done reply) →
      ownSteps r events < 10 + st.db.devices.rows.length := by
    intro p hp hopen
    have hwithin := hpaced.within r p hp
    have hleft : p.left st.db.devices.rows.length ≠ 0 := fun hzero =>
      (left_eq_zero.mp hzero).elim hopen
    omega
  refine ⟨?_, hunanswered⟩
  cases hp : st.requests[r]? with
  | some p =>
      have hwithin := hpaced.within r p hp
      omega
  | none =>
      rw [hpaced.idle r (List.getElem?_eq_none_iff.mp hp)]
      exact Nat.zero_le _

end ControlState

open Reference in
/-- A map that has read its own row and its peers when another device is deleted. -/
theorem request_work_bounded_midway :
    ∃ st, run (step server) (start .empty 0) (deletedMeanwhile.take 18) = some st ∧
      st.db.devices.rows.length = 2 ∧ ownSteps 3 (deletedMeanwhile.take 18) = 3 ∧
      ownSteps 3 (deletedMeanwhile.take 18) < 12 := by
  have hrun : (run (step server) (start .empty 0) (deletedMeanwhile.take 18)).any (fun st =>
      st.db.devices.rows.length == 2 &&
        st.requests[3]?.any fun p => decide (p.left 2 ≠ 0)) = true := by
    decide +kernel
  obtain ⟨st, hst, hfacts⟩ := (Option.any_eq_true _ _).mp hrun
  obtain ⟨hrows, hopen⟩ := Bool.and_eq_true_iff.mp hfacts
  have hrows := beq_iff_eq.mp hrows
  obtain ⟨p, hp, hleft⟩ := (Option.any_eq_true _ _).mp hopen
  have hbound := (request_work_bounded server .empty 0 _ st hst 3).2 p hp
    fun reply heq => of_decide_eq_true hleft (left_eq_zero.mpr ⟨reply, heq⟩)
  rw [hrows] at hbound
  exact ⟨st, hst, hrows, by decide +kernel, hbound⟩

end TfScale.Control
