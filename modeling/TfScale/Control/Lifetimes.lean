/-
  TfScale.Control.Lifetimes

  The life of a device, from its registration to its deletion and after it.

  The row of a device is inserted once.  While it lives, a rename and a heartbeat
  write to it, but never to its id, its keys, its address or its credential; once it
  is deleted, every statement that could write to it asks for a live row, so it stays
  as it is for ever (`Becomes`).  A request that comes after the deletion therefore
  finds the device gone at every query it makes: it is refused if it is one of the
  device itself, and it is told nothing of the device if it is another's.
-/

import TfScale.Control.Snapshot
import TfScale.Control.Detection
import TfScale.Control.DnsMirror

namespace TfScale.Control

open ControlState

variable {S : Server} {db db' db₁ db₂ db₃ : Db} {clock : Nat → Timestamp} {fresh : Fresh}
variable {p p' : Process} {s st st' : ControlState} {events : List Event} {e : Event}
variable {d d' d₁ d₂ : DeviceRow} {deviceId : String}

-- ============================================================================
-- What becomes of a row
-- ============================================================================

/-- `d'` is the row of device `d` at a later time. -/
structure DeviceRow.Becomes (d d' : DeviceRow) : Prop where
  id : d'.id = d.id
  machineKey : d'.machineKey = d.machineKey
  nodeKey : d'.nodeKey = d.nodeKey
  ipv4 : d'.ipv4 = d.ipv4
  backendType : d'.backendType = d.backendType
  credential : d'.backendPublicCredential = d.backendPublicCredential
  /-- a deleted row is final -/
  final : d.live = false → d' = d

theorem DeviceRow.Becomes.refl (d : DeviceRow) : d.Becomes d :=
  ⟨rfl, rfl, rfl, rfl, rfl, rfl, fun _ => rfl⟩

theorem DeviceRow.Becomes.trans (h : d.Becomes d₁) (h' : d₁.Becomes d₂) : d.Becomes d₂ where
  id := h'.id.trans h.id
  machineKey := h'.machineKey.trans h.machineKey
  nodeKey := h'.nodeKey.trans h.nodeKey
  ipv4 := h'.ipv4.trans h.ipv4
  backendType := h'.backendType.trans h.backendType
  credential := h'.credential.trans h.credential
  final := fun hdeleted => by
    obtain rfl := h.final hdeleted
    exact h'.final hdeleted

/-- Every row of the first database is in the second one, as it has become. -/
def Db.Becomes (db db' : Db) : Prop :=
  ∀ d ∈ db.devices.rows, ∃ d' ∈ db'.devices.rows, d.Becomes d'

theorem Db.Becomes.refl (db : Db) : db.Becomes db := fun d hd => ⟨d, hd, .refl d⟩

theorem Db.Becomes.trans (h : db₁.Becomes db₂) (h' : db₂.Becomes db₃) : db₁.Becomes db₃ := by
  intro d hd
  obtain ⟨d₁, hd₁, hbecomes⟩ := h d hd
  obtain ⟨d₂, hd₂, hbecomes'⟩ := h' d₁ hd₁
  exact ⟨d₂, hd₂, hbecomes.trans hbecomes'⟩

/-- An update of the live row of a device, other than of the columns that stay. -/
theorem becomes_updated {f : DeviceRow → DeviceRow}
    (hf : ∀ d : DeviceRow, d.live = true → d.Becomes (f d)) (hd : d ∈ db.devices.rows) :
    ∃ d' ∈ Table.updated db.devices.rows (Db.isLiveDevice deviceId) f, d.Becomes d' := by
  refine ⟨_, List.mem_map_of_mem hd, ?_⟩
  by_cases hlive : Db.isLiveDevice deviceId d = true
  · rw [if_pos hlive]
    exact hf d (Db.isLiveDevice_iff.mp hlive).2
  · rw [if_neg hlive]
    exact .refl d

theorem Commit.becomes (h : Commit S clock fresh db p db') : db.Becomes db' := by
  -- what an update of a live row has to leave alone
  have hlive : ∀ {d d' : DeviceRow}, d.live = true → d'.id = d.id → d'.machineKey = d.machineKey →
      d'.nodeKey = d.nodeKey → d'.ipv4 = d.ipv4 → d'.backendType = d.backendType →
      d'.backendPublicCredential = d.backendPublicCredential → d.Becomes d' := by
    intro d d' hlive hid hmachine hnode hipv4 hbackend hcredential
    refine ⟨hid, hmachine, hnode, hipv4, hbackend, hcredential, fun hdeleted => ?_⟩
    rw [hlive] at hdeleted
    cases hdeleted
  cases h with
  | createAuthKey h =>
      obtain ⟨_, _, -, -, -, rfl⟩ := Db.createAuthKey_ok h
      exact .refl db
  | register h =>
      obtain ⟨devices, _, _, _, hinsert, -, -, rfl, -⟩ := Db.registerTx_ok h
      intro d hd
      refine ⟨d, ?_, .refl d⟩
      show d ∈ devices.rows
      rw [(Table.insert_eq_some.mp hinsert).2]
      exact List.mem_append_left _ hd
  | rename _ h =>
      obtain ⟨_, _, _, -, -, -, rfl⟩ := Db.renameTx_ok h
      exact fun d hd => becomes_updated (fun d h => hlive h rfl rfl rfl rfl rfl rfl) hd
  | delete h =>
      obtain rfl := Db.deleteTx_ok h
      exact fun d hd => becomes_updated (fun d h => hlive h rfl rfl rfl rfl rfl rfl) hd
  | heartbeat h =>
      obtain ⟨_, rfl⟩ := Db.storeEndpoints_ok h
      exact fun d hd => becomes_updated (fun d h => hlive h rfl rfl rfl rfl rfl rfl) hd

theorem becomes_of_step (h : st.step S e = some st') : st.db.Becomes st'.db := by
  rcases step_db h with hsame | ⟨_, _, _, _, _, -, -, -, hcommit⟩
  · rw [hsame]
    exact .refl _
  · exact hcommit.becomes

theorem becomes_of_run (h : run (step S) st events = some st') : st.db.Becomes st'.db := by
  have hkeep : ∀ s e t, st.db.Becomes s.db → step S s e = some t → st.db.Becomes t.db :=
    fun _ _ _ hinv hstep => hinv.trans (becomes_of_step hstep)
  exact invariant_run (s := st) (t := st') hkeep (.refl _) h

/-- The row of a device in a later state is the one that its row has become. -/
theorem Db.Becomes.row (h : db.Becomes db') (hd : d ∈ db.devices.rows) (hd' : d' ∈ db'.devices.rows)
    (hid : d'.id = d.id) : d.Becomes d' := by
  obtain ⟨d₁, hd₁, hbecomes⟩ := h d hd
  obtain rfl := device_unique hd' hd₁ (hid.trans hbecomes.id.symm)
  exact hbecomes

/-- A device that lives later lived before. -/
theorem Db.Becomes.live (h : db.Becomes db') (hd : d ∈ db.devices.rows) (hd' : d' ∈ db'.devices.rows)
    (hid : d'.id = d.id) (hlive : d'.live = true) : d.live = true := by
  by_contra hdeleted
  have hfinal := (h.row hd hd' hid).final (Bool.eq_false_iff.mpr hdeleted)
  rw [hfinal] at hlive
  exact hdeleted hlive

-- ============================================================================
-- Requests that come later
-- ============================================================================

/-- With the requests of `s` in front, the arrivals since then are the requests of the
    present state, and each of them is where `R` allows it to be. -/
structure Follows (R : Request → Process → Prop) (s : ControlState) (arrived : List Request)
    (st : ControlState) : Prop where
  length : st.requests.length = s.requests.length + arrived.length
  each : ∀ i request p, arrived[i]? = some request →
    st.requests[s.requests.length + i]? = some p → R request p

section Later

variable {R : Request → Process → Prop} {Inv : ControlState → Prop} {arrived : List Request}

theorem Follows.step (hstart : ∀ request : Request, R request request.start)
    (hfailed : ∀ request p error reply, R request p → p.failed error = some reply →
      R request (.done reply))
    (hnext : ∀ request p clock fresh p' db', R request p →
      p.next S st.db clock fresh = some (p', db') → R request p')
    (h : Follows R s arrived st) (hstep : st.step S e = some st') :
    Follows R s (arrived ++ arrivals [e]) st' := by
  refine ⟨?_, fun i request p' hrequest hp' => ?_⟩
  · rw [length_of_step hstep, h.length, List.length_append, Nat.add_assoc]
  · have hlength := h.length
    have hold : ∀ p, st.requests[s.requests.length + i]? = some p → arrived[i]? = some request := by
      intro p hp
      have hlt := (List.getElem?_eq_some_iff.mp hp).1
      rw [List.getElem?_append_left (by omega)] at hrequest
      exact hrequest
    rcases request_of_step hstep hp' with
      hp | ⟨request', rfl, hi, rfl⟩ | ⟨p, error, reply, hp, hfail, rfl⟩ |
      ⟨p, fresh, elapsed, rfl, hp, hmove⟩
    · exact h.each i request p' (hold _ hp) hp
    · have hi' : i = arrived.length := by omega
      rw [hi', List.getElem?_append_right (Nat.le_refl _), Nat.sub_self] at hrequest
      obtain rfl := Option.some.inj hrequest
      exact hstart request'
    · exact hfailed request p error reply (h.each i request p (hold _ hp) hp) hfail
    · exact hnext request p _ _ p' _ (h.each i request p (hold _ hp) hp) hmove

/-- A relation between a request and where it is holds of all requests that come
    after `s`, if it holds when they come and every query keeps it. -/
theorem later_requests (hkeep : ∀ s e t, Inv s → step S s e = some t → Inv t)
    (hstart : ∀ request : Request, R request request.start)
    (hfailed : ∀ request p error reply, R request p → p.failed error = some reply →
      R request (.done reply))
    (hnext : ∀ st request p clock fresh p' db', Inv st → R request p →
      p.next S st.db clock fresh = some (p', db') → R request p')
    (hs : Inv s) (hrun : run (step S) s events = some st) : Follows R s (arrivals events) st := by
  have hstart' : Inv s ∧ Follows R s (arrivals []) s := ⟨hs, rfl, fun i request p h => by cases h⟩
  have hstep' : ∀ es e t u, run (step S) s es = some t → Inv t ∧ Follows R s (arrivals es) t →
      step S t e = some u → Inv u ∧ Follows R s (arrivals (es ++ [e])) u := by
    rintro es e t u - ⟨hinv, hfollows⟩ hstep
    refine ⟨hkeep t e u hinv hstep, ?_⟩
    rw [arrivals_append]
    exact hfollows.step hstart hfailed
      (fun request p clock fresh p' db' => hnext t request p clock fresh p' db' hinv) hstep
  exact (invariant_history hstart' hstep' hrun).2

end Later

-- ============================================================================
-- A deleted device
-- ============================================================================

/-- The device was deleted: its row is there, and is not live. -/
def Gone (d : DeviceRow) (db : Db) : Prop := d ∈ db.devices.rows ∧ d.live = false

theorem Gone.becomes (h : Gone d db) (hbecomes : db.Becomes db') : Gone d db' := by
  obtain ⟨d', hd', hrow⟩ := hbecomes d h.1
  rw [hrow.final h.2] at hd'
  exact ⟨hd', h.2⟩

/-- No live row has the id. -/
theorem Gone.not_live (h : Gone d db) (hd' : d' ∈ db.devices.rows) (hid : d'.id = d.id) :
    d'.live = false := by
  obtain rfl := device_unique hd' h.1 hid
  exact h.2

theorem Gone.any_eq_false (h : Gone d db) {q : DeviceRow → Bool}
    (hq : ∀ d', q d' = true → d'.id = d.id ∧ d'.live = true) : db.devices.rows.any q = false := by
  refine List.any_eq_false.mpr fun d' hd' hmatch => ?_
  obtain ⟨hid, hlive⟩ := hq d' hmatch
  rw [h.not_live hd' hid] at hlive
  cases hlive

theorem Gone.validate (h : Gone d db) (nodeKey : String) :
    ∃ error, db.validateDeviceNodeKey d.id nodeKey = .error error := by
  refine ⟨⟨.unauthorized, "invalid device credentials"⟩, ?_⟩
  rw [Db.validateDeviceNodeKey, h.any_eq_false fun d' hmatch => ?_, if_neg Bool.false_ne_true]
  rw [Bool.and_eq_true, Bool.and_eq_true, beq_iff_eq] at hmatch
  exact ⟨hmatch.1.1, hmatch.2⟩

theorem Gone.no_live_device (h : Gone d db) : db.devices.rows.any (Db.isLiveDevice d.id) = false :=
  h.any_eq_false fun _ hmatch => Db.isLiveDevice_iff.mp hmatch

theorem Gone.rename (h : Gone d db) (S : Server) (clock : Nat → Timestamp) (fresh : Fresh)
    (hostname : String) :
    ∃ error, db.renameTx S clock fresh d.id hostname = .error error :=
  ⟨_, by rw [Db.renameTx, h.no_live_device, if_neg Bool.false_ne_true]⟩

theorem Gone.delete (h : Gone d db) (clock : Nat → Timestamp) : ∃ error, db.deleteTx clock d.id = .error error :=
  ⟨_, by rw [Db.deleteTx, h.no_live_device, if_neg Bool.false_ne_true]⟩

/-- The device does not see itself. -/
theorem Gone.selfDevice (h : Gone d db) : ∃ error, db.selfDevice S d.id = .error error := by
  refine ⟨fromSqlx S .rowNotFound, ?_⟩
  have hnone : db.devices.rows.find? (Db.isLiveDevice d.id) = none := by
    refine List.find?_eq_none.mpr fun d' hd' hmatch => ?_
    exact List.any_eq_false.mp h.no_live_device d' hd' hmatch
  rw [Db.selfDevice, hnone]

/-- Other devices do not see it. -/
theorem Gone.not_mem_peerRows (h : Gone d db) {row : PeerRow} (hrow : row ∈ db.peerRows deviceId) :
    row.id ≠ d.id := by
  obtain ⟨d', hd', hmatch, rfl⟩ := Table.mem_select.mp hrow
  intro hid
  rw [Bool.and_eq_true, h.not_live hd' hid] at hmatch
  cases hmatch.2

/-- Nor do they learn a name of it. -/
theorem Gone.not_mem_dnsRecords (h : Gone d db) (hmirrors : Mirrors db) {record : DnsRecord}
    (hrecord : record ∈ db.loadDnsRecords) : record.deviceId ≠ d.id := by
  obtain ⟨r, hr, -, rfl⟩ := Table.mem_select.mp hrecord
  obtain ⟨d', hd', hlive, hdescribes⟩ := hmirrors.owner r hr
  intro hid
  rw [h.not_live hd' (hdescribes.deviceId.symm.trans hid)] at hlive
  cases hlive

/-- A registration that succeeds reports a live device or a new one. -/
theorem Gone.registered (h : Gone d db) {response : RegisterDeviceResponse}
    (hstep : RegisterStep S clock fresh db p (.done (.registered (.ok response))) db') :
    response.deviceId ≠ d.id := by
  cases hstep with
  | found hfind =>
      obtain ⟨d', hd', rfl⟩ := Option.map_eq_some_iff.mp hfind
      have hmatch := List.find?_some hd'
      rw [Bool.and_eq_true] at hmatch
      intro hid
      rw [h.not_live (List.mem_of_find?_eq_some hd') hid] at hmatch
      cases hmatch.2
  | inserted hok =>
      obtain ⟨_, _, _, _, hinsert, -, -, -, rfl, -⟩ := Db.registerTx_ok hok
      have hclash := (Table.insert_eq_some.mp hinsert).1 d h.1
      rintro hid
      rw [deviceClash_eq, ← show _ = d.id from hid, beq_self_eq_true, Bool.true_or, Bool.true_or] at hclash
      cases hclash

/-- Where a request can be that came after the device was deleted: one that names the
    device has asked nothing yet or was refused, and no registration was answered with
    the device. -/
def Barred (deviceId : String) : Request → Process → Prop
  | .heartbeat request, p => request.deviceId = deviceId →
      p = .heartbeatReceived request ∨ ∃ error, p = .done (.heartbeat (.error error))
  | .networkMap query, p => query.deviceId = deviceId →
      p = .mapReceived query ∨ ∃ error, p = .done (.networkMap (.error error))
  | .renameDevice id request, p => id = deviceId →
      p = .renameReceived id request ∨ ∃ error, p = .done (.renamed (.error error))
  | .deleteDevice id, p => id = deviceId →
      p = .deleteReceived id ∨ ∃ error, p = .done (.deleted (.error error))
  | .registerDevice _, p => p.handler = .registerDevice ∧
      ∀ response, p = .done (.registered (.ok response)) → response.deviceId ≠ deviceId
  | .createAuthKey, _ => True

theorem barred_start (deviceId : String) (request : Request) :
    Barred deviceId request request.start := by
  cases request with
  | createAuthKey => trivial
  | registerDevice request => exact ⟨rfl, fun _ h => by cases h⟩
  | _ => exact fun _ => Or.inl rfl

theorem Barred.failed {request : Request} {error : ApiError} {reply : Reply}
    (h : Barred deviceId request p) (hfailed : p.failed error = some reply) :
    Barred deviceId request (.done reply) := by
  cases request with
  | createAuthKey => trivial
  | registerDevice request =>
      obtain rfl := Process.failed_eq hfailed
      rw [h.1]
      exact ⟨rfl, fun _ hdone => by cases hdone⟩
  | heartbeat request =>
      intro hid
      rcases h hid with rfl | ⟨_, rfl⟩
      · exact Or.inr ⟨error, by rw [Process.failed_eq hfailed]; rfl⟩
      · cases hfailed
  | networkMap query =>
      intro hid
      rcases h hid with rfl | ⟨_, rfl⟩
      · exact Or.inr ⟨error, by rw [Process.failed_eq hfailed]; rfl⟩
      · cases hfailed
  | renameDevice id request =>
      intro hid
      rcases h hid with rfl | ⟨_, rfl⟩
      · exact Or.inr ⟨error, by rw [Process.failed_eq hfailed]; rfl⟩
      · cases hfailed
  | deleteDevice id =>
      intro hid
      rcases h hid with rfl | ⟨_, rfl⟩
      · exact Or.inr ⟨error, by rw [Process.failed_eq hfailed]; rfl⟩
      · cases hfailed

/-- The first query that asks for the device finds it gone. -/
theorem Barred.next {request : Request} (hgone : Gone d db) (h : Barred d.id request p)
    (hnext : p.next S db clock fresh = some (p', db')) : Barred d.id request p' := by
  cases request with
  | createAuthKey => trivial
  | registerDevice request =>
      have hhandler := (Process.next_handler hnext).trans h.1
      refine ⟨hhandler, ?_⟩
      rintro response rfl
      exact hgone.registered (Process.next_register hnext hhandler)
  | heartbeat request =>
      intro hid
      rcases h hid with rfl | ⟨_, rfl⟩
      · obtain ⟨error, herror⟩ := hgone.validate request.nodeKey
        rw [← hid] at herror
        simp only [Process.next, herror] at hnext
        exact Or.inr ⟨error, (Prod.mk.inj (Option.some.inj hnext)).1.symm⟩
      · cases hnext
  | networkMap query =>
      intro hid
      rcases h hid with rfl | ⟨_, rfl⟩
      · obtain ⟨error, herror⟩ := hgone.validate query.nodeKey
        rw [← hid] at herror
        simp only [Process.next, herror] at hnext
        exact Or.inr ⟨error, (Prod.mk.inj (Option.some.inj hnext)).1.symm⟩
      · cases hnext
  | renameDevice id request =>
      rintro rfl
      rcases h rfl with rfl | ⟨_, rfl⟩
      · simp only [Process.next, Process.renameUpdate] at hnext
        split at hnext
        · rename_i error _
          exact Or.inr ⟨error, (Prod.mk.inj (Option.some.inj hnext)).1.symm⟩
        · rename_i hostname _
          obtain ⟨error, herror⟩ := hgone.rename S clock fresh hostname
          rw [herror] at hnext
          exact Or.inr ⟨error, (Prod.mk.inj (Option.some.inj hnext)).1.symm⟩
      · cases hnext
  | deleteDevice id =>
      rintro rfl
      rcases h rfl with rfl | ⟨_, rfl⟩
      · obtain ⟨error, herror⟩ := hgone.delete clock
        simp only [Process.next, Process.deleteUpdate, herror] at hnext
        exact Or.inr ⟨error, (Prod.mk.inj (Option.some.inj hnext)).1.symm⟩
      · cases hnext

-- ============================================================================
-- When a request reads
-- ============================================================================

section Order

variable {s₀ t : ControlState} {r n k : Nat}

theorem length_mono (h : run (step S) s events = some st) : s.requests.length ≤ st.requests.length := by
  have hkeep : ∀ t e u, s.requests.length ≤ t.requests.length → step S t e = some u →
      s.requests.length ≤ u.requests.length := by
    intro t e u hle hstep
    rw [length_of_step hstep]
    omega
  exact invariant_run (s := s) (t := st) hkeep (Nat.le_refl _) h

/-- A request reads nothing before it comes. -/
theorem ReadAt.ge (h : ReadAt S s₀ events r n t) (hk : Passed (step S) s₀ events k s)
    (hr : s.requests.length ≤ r) : k ≤ n := by
  by_contra hlt
  obtain ⟨p, hp, -⟩ := h.underWay
  have hpresent := (List.getElem?_eq_some_iff.mp hp).1
  have hgrown := length_mono (h.passed.between hk (by omega))
  omega

/-- A request reads nothing after it was answered. -/
theorem ReadAt.lt (h : ReadAt S s₀ events r n t) (hk : Passed (step S) s₀ events k s) {reply : Reply}
    (hdone : s.requests[r]? = some (.done reply)) : n < k := by
  by_contra hge
  obtain ⟨p, hp, hnot⟩ := h.underWay
  have hstays := done_stays hdone (hk.between h.passed (by omega))
  rw [hp] at hstays
  exact hnot reply (Option.some.inj hstays)

theorem becomes_of_passed (h : Passed (step S) s₀ events n s) (h' : Passed (step S) s₀ events k t)
    (hle : n ≤ k) : s.db.Becomes t.db := becomes_of_run (h.between h' hle)

/-- The columns that a map shows of a row, and what they become. -/
theorem DeviceRow.Becomes.listed (h : d.Becomes d') {peer peer' : NetworkMapPeer}
    (hpeer : d.peerRow = entryRow peer) (hpeer' : d'.peerRow = entryRow peer') :
    peer'.ipv4 = peer.ipv4 ∧ peer'.backendType = peer.backendType ∧
      peer'.backendPublicCredential = peer.backendPublicCredential := by
  have hipv4 : d.ipv4 = peer.ipv4 := congrArg PeerRow.ipv4 hpeer
  have hbackend : d.backendType = peer.backendType := congrArg PeerRow.backendType hpeer
  have hcredential : d.backendPublicCredential = peer.backendPublicCredential :=
    congrArg PeerRow.backendPublicCredential hpeer
  have hipv4' : d'.ipv4 = peer'.ipv4 := congrArg PeerRow.ipv4 hpeer'
  have hbackend' : d'.backendType = peer'.backendType := congrArg PeerRow.backendType hpeer'
  have hcredential' : d'.backendPublicCredential = peer'.backendPublicCredential :=
    congrArg PeerRow.backendPublicCredential hpeer'
  rw [← hipv4, ← hipv4', ← hbackend, ← hbackend', ← hcredential, ← hcredential']
  exact ⟨h.ipv4, h.backendType, h.credential⟩

/-- The peers of a map are the live devices, without the one that asks, of a state in
    which the request was under way. -/
structure ListsLive (S : Server) (s₀ : ControlState) (events : List Event) (r : Nat)
    (map : NetworkMapResponse) (n : Nat) (t : ControlState) : Prop where
  read : ReadAt S s₀ events r n t
  row : ∀ peer ∈ map.peers, ∃ d ∈ t.db.devices.rows, d.live = true ∧
    d.id ≠ map.selfDevice.deviceId ∧ d.peerRow = entryRow peer
  entry : ∀ d ∈ t.db.devices.rows, d.live = true → d.id ≠ map.selfDevice.deviceId →
    ∃ peer ∈ map.peers, d.peerRow = entryRow peer

theorem listsLive_of_served {db : Db} {now : Timestamp} {map : NetworkMapResponse}
    (h : run (step S) (start db now) events = some st) (hserved : st.served r = some map) :
    ∃ n t, ListsLive S (start db now) events r map n t := by
  obtain ⟨query, -, -, _, _, b, _, _, _, hreads, -⟩ :=
    (pictures_of_run h).reading r _ (done_of_served hserved)
  obtain ⟨_, -, hself⟩ := hreads.selfDevice
  obtain ⟨t, hread, hrows⟩ := hreads.rows
  rw [List.append_nil, ← selfDevice_id hself] at hrows
  refine ⟨b, t, hread, fun peer hpeer => ?_, fun d hd hlive hne => ?_⟩
  · have hmem : entryRow peer ∈ t.db.peerRows map.selfDevice.deviceId :=
      hrows ▸ List.mem_map_of_mem hpeer
    obtain ⟨d, hd, hmatch, hrow⟩ := Table.mem_select.mp hmem
    rw [Bool.and_eq_true, bne_iff_ne] at hmatch
    exact ⟨d, hd, hmatch.2, hmatch.1, hrow⟩
  · have hmem : d.peerRow ∈ t.db.peerRows map.selfDevice.deviceId := by
      refine Table.mem_select.mpr ⟨d, hd, ?_, rfl⟩
      rw [Bool.and_eq_true, bne_iff_ne]
      exact ⟨hne, hlive⟩
    rw [hrows] at hmem
    obtain ⟨peer, hpeer, hrow⟩ := List.mem_map.mp hmem
    exact ⟨peer, hpeer, hrow.symm⟩

end Order

-- ============================================================================
-- Any control plane
-- ============================================================================

namespace ControlState

/-- **Deletion is final.**  For every interleaving of requests: once the row of a device
    is deleted it stays as it is, every rename, deletion, heartbeat and request for a map
    that comes later and names the device is refused, no later registration is answered
    with it, and no map that is asked for later lists it, among the peers or in the DNS
    records. -/
theorem deletion_is_final (S : Server) (now : Timestamp) (before after : List Event)
    (s st : ControlState) (hbefore : run (step S) (start .empty now) before = some s)
    (hafter : run (step S) s after = some st) (d : DeviceRow) (hd : d ∈ s.db.devices.rows)
    (hdeleted : d.live = false) :
    d ∈ st.db.devices.rows ∧
      (∀ (i : Nat) (request : Request) (p : Process), (arrivals after)[i]? = some request →
        st.requests[s.requests.length + i]? = some p → Barred d.id request p) ∧
      ∀ (r : Nat) (map : NetworkMapResponse), s.requests.length ≤ r → st.served r = some map →
        map.selfDevice.deviceId ≠ d.id ∧ (∀ peer ∈ map.peers, peer.deviceId ≠ d.id) ∧
          ∀ record ∈ map.dnsRecords, record.deviceId ≠ d.id := by
  have hgone : Gone d s.db := ⟨hd, hdeleted⟩
  have hrun : run (step S) (start .empty now) (before ++ after) = some st :=
    run_append_eq_some.mpr ⟨s, hbefore, hafter⟩
  have hcut : Passed (step S) (start .empty now) (before ++ after) before.length s :=
    (passed_last hbefore).append after
  refine ⟨(hgone.becomes (becomes_of_run hafter)).1, fun i request p harrived hp => ?_,
    fun r map hr hserved => ?_⟩
  · have hkeep : ∀ s e t, Gone d s.db → step S s e = some t → Gone d t.db :=
      fun _ _ _ hinv hstep => hinv.becomes (becomes_of_step hstep)
    have hfollows := later_requests hkeep (barred_start d.id)
      (fun _ _ _ _ hbarred hfailed => hbarred.failed hfailed)
      (fun _ _ _ _ _ _ _ hinv hbarred hnext => hbarred.next hinv hnext) hgone hafter
    exact hfollows.each i request p harrived hp
  · -- what a later request reads, it reads after the deletion
    have hlater : ∀ {n t}, ReadAt S (start .empty now) (before ++ after) r n t → Gone d t.db := by
      intro n t hread
      exact hgone.becomes (becomes_of_passed hcut hread.passed (hread.ge hcut hr))
    obtain ⟨query, -, -, _, _, _, _, _, _, hreads, -, -, ⟨u, hdns, hrecords⟩, -⟩ :=
      (pictures_of_run hrun).reading r _ (done_of_served hserved)
    obtain ⟨v, hself, hselfDevice⟩ := hreads.selfDevice
    obtain ⟨w, hrows, hpeers⟩ := hreads.rows
    refine ⟨?_, fun peer hpeer => ?_, fun record hrecord => ?_⟩
    · rw [selfDevice_id hselfDevice]
      intro hid
      obtain ⟨error, herror⟩ := (hlater hself).selfDevice (S := S)
      rw [← hid, hselfDevice] at herror
      cases herror
    · have hrow : entryRow peer ∈ w.db.peerRows query.deviceId := by
        rw [hpeers, List.append_nil]
        exact List.mem_map_of_mem hpeer
      exact (hlater hrows).not_mem_peerRows hrow
    · rw [← hrecords] at hrecord
      exact (hlater hdns).not_mem_dnsRecords (mirrors_of_run hdns.passed.run) hrecord

/-- Request `r'` came after request `r` was answered. -/
def ComesAfter (S : Server) (s₀ : ControlState) (events : List Event) (r r' : Nat) : Prop :=
  ∃ k s reply, Passed (step S) s₀ events k s ∧ s.requests[r]? = some (.done reply) ∧
    s.requests.length ≤ r'

/-- The order of two requests, found by running the events. -/
theorem comesAfter_of_served {s₀ : ControlState} {r r' k : Nat} (hle : k ≤ events.length)
    (h : (run (step S) s₀ (events.take k)).any (fun s =>
      (s.served r).isSome && decide (s.requests.length ≤ r')) = true) :
    ComesAfter S s₀ events r r' := by
  obtain ⟨s, hs, hfacts⟩ := (Option.any_eq_true _ _).mp h
  rw [Bool.and_eq_true, decide_eq_true_eq] at hfacts
  obtain ⟨map, hserved⟩ := Option.isSome_iff_exists.mp hfacts.1
  exact ⟨k, s, _, ⟨hle, hs⟩, done_of_served hserved, hfacts.2⟩

/-- What a request reads that came after another one, it reads later. -/
theorem ComesAfter.reads {s₀ t t' : ControlState} {r r' n n' : Nat}
    (h : ComesAfter S s₀ events r r') (hread : ReadAt S s₀ events r n t)
    (hread' : ReadAt S s₀ events r' n' t') : t.db.Becomes t'.db := by
  obtain ⟨k, s, reply, hk, hdone, hr'⟩ := h
  have hlt := hread.lt hk hdone
  have hge := hread'.ge hk hr'
  exact becomes_of_passed hread.passed hread'.passed (by omega)

/-- **Peers come and go once.**  For every interleaving of requests: maps agree on the
    overlay address, the backend and the credential of every device that they both list;
    and of three maps that were asked for one after the other, the one in the middle
    lists every device that the other two list, unless it is the device that asks. -/
theorem peers_come_and_go_once (S : Server) (db : Db) (now : Timestamp) (events : List Event)
    (st : ControlState) (h : run (step S) (start db now) events = some st) :
    (∀ (r₁ r₂ : Nat) (map₁ map₂ : NetworkMapResponse), st.served r₁ = some map₁ →
        st.served r₂ = some map₂ → ∀ peer₁ ∈ map₁.peers, ∀ peer₂ ∈ map₂.peers,
        peer₁.deviceId = peer₂.deviceId →
        peer₁.ipv4 = peer₂.ipv4 ∧ peer₁.backendType = peer₂.backendType ∧
          peer₁.backendPublicCredential = peer₂.backendPublicCredential) ∧
      ∀ (r₁ r₂ r₃ : Nat) (map₁ map₂ map₃ : NetworkMapResponse), st.served r₁ = some map₁ →
        st.served r₂ = some map₂ → st.served r₃ = some map₃ →
        ComesAfter S (start db now) events r₁ r₂ → ComesAfter S (start db now) events r₂ r₃ →
        ∀ peer₁ ∈ map₁.peers, ∀ peer₃ ∈ map₃.peers, peer₁.deviceId = peer₃.deviceId →
        peer₁.deviceId ≠ map₂.selfDevice.deviceId →
        ∃ peer₂ ∈ map₂.peers, peer₂.deviceId = peer₁.deviceId := by
  refine ⟨?_, ?_⟩
  · intro r₁ r₂ map₁ map₂ h₁ h₂ peer₁ hpeer₁ peer₂ hpeer₂ hid
    obtain ⟨n₁, t₁, hlisted₁⟩ := listsLive_of_served h h₁
    obtain ⟨n₂, t₂, hlisted₂⟩ := listsLive_of_served h h₂
    obtain ⟨d₁, hd₁, -, -, hrow₁⟩ := hlisted₁.row peer₁ hpeer₁
    obtain ⟨d₂, hd₂, -, -, hrow₂⟩ := hlisted₂.row peer₂ hpeer₂
    have hids : d₁.id = d₂.id := by
      rw [show d₁.id = peer₁.deviceId from congrArg PeerRow.id hrow₁,
        show d₂.id = peer₂.deviceId from congrArg PeerRow.id hrow₂, hid]
    -- one of the two lists was read first
    rcases Nat.le_total n₁ n₂ with hle | hle
    · have hbecomes := (becomes_of_passed hlisted₁.read.passed hlisted₂.read.passed hle).row hd₁ hd₂ hids.symm
      obtain ⟨hip, hbackend, hcredential⟩ := hbecomes.listed hrow₁ hrow₂
      exact ⟨hip.symm, hbackend.symm, hcredential.symm⟩
    · exact ((becomes_of_passed hlisted₂.read.passed hlisted₁.read.passed hle).row hd₂ hd₁ hids).listed hrow₂ hrow₁
  · intro r₁ r₂ r₃ map₁ map₂ map₃ h₁ h₂ h₃ hafter hafter' peer₁ hpeer₁ peer₃ hpeer₃ hid hne
    obtain ⟨n₁, t₁, hlisted₁⟩ := listsLive_of_served h h₁
    obtain ⟨n₂, t₂, hlisted₂⟩ := listsLive_of_served h h₂
    obtain ⟨n₃, t₃, hlisted₃⟩ := listsLive_of_served h h₃
    obtain ⟨d₁, hd₁, -, -, hrow₁⟩ := hlisted₁.row peer₁ hpeer₁
    obtain ⟨d₃, hd₃, hlive₃, -, hrow₃⟩ := hlisted₃.row peer₃ hpeer₃
    have hid₁ : d₁.id = peer₁.deviceId := congrArg PeerRow.id hrow₁
    have hid₃ : d₃.id = peer₃.deviceId := congrArg PeerRow.id hrow₃
    -- the device was registered by the first map and still lives at the third
    obtain ⟨d₂, hd₂, hbecomes⟩ := hafter.reads hlisted₁.read hlisted₂.read d₁ hd₁
    have hid₂ : d₂.id = peer₁.deviceId := hbecomes.id.trans hid₁
    have hlive₂ : d₂.live = true :=
      (hafter'.reads hlisted₂.read hlisted₃.read).live hd₂ hd₃ (by rw [hid₂, hid₃, hid]) hlive₃
    obtain ⟨peer₂, hpeer₂, hrow₂⟩ := hlisted₂.entry d₂ hd₂ hlive₂ (by rw [hid₂]; exact hne)
    exact ⟨peer₂, hpeer₂, (congrArg PeerRow.id hrow₂).symm.trans hid₂⟩

end ControlState

namespace Reference

def alphaId : String := "dev_" ++ simple (uuids 1).device
def alphaNode : String := "node_" ++ simple (uuids 1).node
def betaId : String := "dev_" ++ simple (uuids 2).device
def betaNode : String := "node_" ++ simple (uuids 2).node

/-- Two devices register, and one of them is deleted. -/
def betaDeleted : List Event :=
  [.arrive .createAuthKey, advance 0,
   .arrive (.registerDevice (registration "alpha")), .arrive (.registerDevice (registration "beta")),
   advance 1, advance 1, advance 2, advance 2, advance 1, advance 1, advance 2, advance 2,
   .arrive (.deleteDevice betaId), advance 3]

/-- Then the deleted device sends a heartbeat, and the other one asks for a map. -/
def afterDeletion : List Event :=
  [.arrive (.heartbeat ⟨betaId, betaNode, []⟩), .arrive (.networkMap ⟨alphaId, alphaNode⟩),
   advance 4] ++ List.replicate 10 (advance 5)

/-- The first device asks for three maps, one after the other. -/
def threeMaps : List Event :=
  betaDeleted.take 12 ++ [.arrive (.networkMap ⟨alphaId, alphaNode⟩)] ++
  List.replicate 11 (advance 3) ++ [.arrive (.networkMap ⟨alphaId, alphaNode⟩)] ++
  List.replicate 11 (advance 4) ++ [.arrive (.networkMap ⟨alphaId, alphaNode⟩)] ++
  List.replicate 11 (advance 5)

end Reference

open Reference in
/-- The heartbeat is refused, and the map is empty. -/
theorem deletion_is_final_beta :
    ∃ s st map error, run (step server) (start .empty 0) betaDeleted = some s ∧
      run (step server) s afterDeletion = some st ∧
      st.requests[(4 : Nat)]? = some (.done (.heartbeat (.error error))) ∧
      st.served 5 = some map ∧ ∀ peer ∈ map.peers, peer.deviceId ≠ betaId := by
  have hrun : (run (step server) (start .empty 0) betaDeleted).any (fun s =>
      s.requests.length == 4 && s.db.devices.rows.any (fun d => d.id == betaId && !d.live) &&
      (run (step server) s afterDeletion).any fun st =>
        (st.requests[(4 : Nat)]?).any (fun p => decide (p ≠ .heartbeatReceived ⟨betaId, betaNode, []⟩)) &&
        (st.served 5).isSome) = true := by
    decide +kernel
  obtain ⟨s, hs, hfacts⟩ := (Option.any_eq_true _ _).mp hrun
  simp only [Bool.and_eq_true, beq_iff_eq] at hfacts
  obtain ⟨⟨hlength, hdevice⟩, hlater⟩ := hfacts
  obtain ⟨st, hst, hfacts⟩ := (Option.any_eq_true _ _).mp hlater
  obtain ⟨hmoved, hserved⟩ := Bool.and_eq_true_iff.mp hfacts
  obtain ⟨p, hp, hp'⟩ := (Option.any_eq_true _ _).mp hmoved
  obtain ⟨map, hmap⟩ := Option.isSome_iff_exists.mp hserved
  obtain ⟨d, hd, hmatch⟩ := List.any_eq_true.mp hdevice
  rw [Bool.and_eq_true, beq_iff_eq, Bool.not_eq_true'] at hmatch
  obtain ⟨hid, hdeleted⟩ := hmatch
  obtain ⟨-, hbarred, hmaps⟩ :=
    deletion_is_final server 0 betaDeleted afterDeletion s st hs hst d hd hdeleted
  have hheartbeat := hbarred 0 _ p rfl (by rw [hlength]; exact hp)
  rcases hheartbeat hid.symm with rfl | ⟨error, rfl⟩
  · exact absurd rfl (of_decide_eq_true hp')
  · refine ⟨s, st, map, error, hs, hst, hp, hmap, fun peer hpeer => ?_⟩
    rw [← hid]
    exact (hmaps 5 map (by omega) hmap).2.1 peer hpeer

open Reference in
/-- The second map lists what the first and the third one list. -/
theorem peers_come_and_go_once_beta :
    ∃ st map₁ map₂ map₃, run (step server) (start .empty 0) threeMaps = some st ∧
      st.served 3 = some map₁ ∧ st.served 4 = some map₂ ∧ st.served 5 = some map₃ ∧
      (∃ peer ∈ map₁.peers, peer.deviceId = betaId) ∧
      (∃ peer ∈ map₂.peers, peer.deviceId = betaId) ∧ ∃ peer ∈ map₃.peers, peer.deviceId = betaId := by
  have hrun : (run (step server) (start .empty 0) threeMaps).any (fun st =>
      (st.served 3).any (fun map => map.peers.any (·.deviceId == betaId)) &&
      (st.served 4).any (fun map => map.selfDevice.deviceId == alphaId) &&
      (st.served 5).any fun map => map.peers.any (·.deviceId == betaId)) = true := by
    decide +kernel
  obtain ⟨st, hst, hfacts⟩ := (Option.any_eq_true _ _).mp hrun
  simp only [Bool.and_eq_true] at hfacts
  obtain ⟨⟨hfirst, hsecond⟩, hthird⟩ := hfacts
  obtain ⟨map₁, hmap₁, hpeers₁⟩ := (Option.any_eq_true _ _).mp hfirst
  obtain ⟨map₂, hmap₂, hself⟩ := (Option.any_eq_true _ _).mp hsecond
  obtain ⟨map₃, hmap₃, hpeers₃⟩ := (Option.any_eq_true _ _).mp hthird
  obtain ⟨peer₁, hpeer₁, hid₁⟩ := List.any_eq_true.mp hpeers₁
  obtain ⟨peer₃, hpeer₃, hid₃⟩ := List.any_eq_true.mp hpeers₃
  rw [beq_iff_eq] at hself hid₁ hid₃
  have hafter : ComesAfter server (start .empty 0) threeMaps 3 4 :=
    comesAfter_of_served (k := 24) (by decide) (by decide +kernel)
  have hafter' : ComesAfter server (start .empty 0) threeMaps 4 5 :=
    comesAfter_of_served (k := 36) (by decide) (by decide +kernel)
  obtain ⟨peer₂, hpeer₂, hid₂⟩ := (peers_come_and_go_once server .empty 0 threeMaps st hst).2 3 4 5 map₁
    map₂ map₃ hmap₁ hmap₂ hmap₃ hafter hafter' peer₁ hpeer₁ peer₃ hpeer₃ (hid₁.trans hid₃.symm)
    (by rw [hid₁, hself]; decide)
  exact ⟨st, map₁, map₂, map₃, hst, hmap₁, hmap₂, hmap₃, ⟨peer₁, hpeer₁, hid₁⟩,
    ⟨peer₂, hpeer₂, hid₂.trans hid₁⟩, peer₃, hpeer₃, hid₃⟩

end TfScale.Control
