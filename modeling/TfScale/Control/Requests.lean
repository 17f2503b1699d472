/-
  TfScale.Control.Requests

  The control plane as a concurrent system: requests that are served at the same
  time, the database they share, and the clock.

  A request is a process that moves from one database query to the next; a query
  outside a transaction is one step, and so is a transaction.  Any time may pass in
  a step and between steps.  A request can also end at any point with a database
  error, or because its client has gone.
-/

import TfScale.Control.Queries

namespace TfScale.Control

-- ============================================================================
-- Requests
-- ============================================================================

structure NetworkMapQuery where
  deviceId : String
  nodeKey : String
deriving DecidableEq

inductive Request where
  | createAuthKey
  | registerDevice (request : RegisterDeviceRequest)
  | renameDevice (deviceId : String) (request : RenameDeviceRequest)
  | deleteDevice (deviceId : String)
  | heartbeat (request : HeartbeatRequest)
  | networkMap (query : NetworkMapQuery)
deriving DecidableEq

inductive Reply where
  | authKey (result : Api CreateAuthKeyResponse)
  | registered (result : Api RegisterDeviceResponse)
  | renamed (result : Api DeviceSummary)
  | deleted (result : Api Unit)
  | heartbeat (result : Api HeartbeatResponse)
  | networkMap (result : Api NetworkMapResponse)
deriving DecidableEq

/-- Where a request is, with what it has read so far. -/
inductive Process where
  | createAuthKey
  | registerReceived (request : RegisterDeviceRequest)
  /-- no live device has the machine key -/
  | registerUnknown (request : RegisterDeviceRequest)
  | registerValidated (request : RegisterDeviceRequest) (hostname : String)
  | registerAllocated (request : RegisterDeviceRequest) (hostname ipv4 : String)
  | renameReceived (deviceId : String) (request : RenameDeviceRequest)
  | renameCommitted (deviceId : String)
  | deleteReceived (deviceId : String)
  | heartbeatReceived (request : HeartbeatRequest)
  | heartbeatValidated (request : HeartbeatRequest)
  | heartbeatVersion (pending : List VersionTerm) (sum : Nat)
  | mapReceived (query : NetworkMapQuery)
  | mapValidated (query : NetworkMapQuery)
  | mapSelf (query : NetworkMapQuery) (selfDevice : NetworkMapSelf)
  | mapPeers (query : NetworkMapQuery) (selfDevice : NetworkMapSelf) (peers : List NetworkMapPeer)
      (pending : List PeerRow)
  | mapVersion (query : NetworkMapQuery) (selfDevice : NetworkMapSelf) (peers : List NetworkMapPeer)
      (pending : List VersionTerm) (sum : Nat)
  | mapDns (query : NetworkMapQuery) (selfDevice : NetworkMapSelf) (peers : List NetworkMapPeer)
      (version : Nat)
  | done (reply : Reply)
deriving DecidableEq

inductive Handler where
  | createAuthKey
  | registerDevice
  | renameDevice
  | deleteDevice
  | heartbeat
  | networkMap
deriving DecidableEq, Repr

def Reply.handler : Reply → Handler
  | authKey _ => .createAuthKey
  | registered _ => .registerDevice
  | renamed _ => .renameDevice
  | deleted _ => .deleteDevice
  | heartbeat _ => .heartbeat
  | networkMap _ => .networkMap

/-- The reply of a handler that returns `Err`. -/
def Handler.failed (error : ApiError) : Handler → Reply
  | createAuthKey => .authKey (.error error)
  | registerDevice => .registered (.error error)
  | renameDevice => .renamed (.error error)
  | deleteDevice => .deleted (.error error)
  | heartbeat => .heartbeat (.error error)
  | networkMap => .networkMap (.error error)

def Request.start : Request → Process
  | createAuthKey => .createAuthKey
  | registerDevice request => .registerReceived request
  | renameDevice deviceId request => .renameReceived deviceId request
  | deleteDevice deviceId => .deleteReceived deviceId
  | heartbeat request => .heartbeatReceived request
  | networkMap query => .mapReceived query

namespace Process

/-- The handler that serves a request, or has served it. -/
def handler : Process → Handler
  | createAuthKey => .createAuthKey
  | registerReceived _ | registerUnknown _ | registerValidated .. | registerAllocated .. =>
      .registerDevice
  | renameReceived .. | renameCommitted _ => .renameDevice
  | deleteReceived _ => .deleteDevice
  | heartbeatReceived _ | heartbeatValidated _ | heartbeatVersion .. => .heartbeat
  | mapReceived _ | mapValidated _ | mapSelf .. | mapPeers .. | mapVersion .. | mapDns .. =>
      .networkMap
  | done reply => reply.handler

/-- The map that a request was answered with. -/
def served : Process → Option NetworkMapResponse
  | done (.networkMap (.ok map)) => some map
  | _ => none

theorem done_of_served {p : Process} {map : NetworkMapResponse} (h : p.served = some map) :
    p = done (.networkMap (.ok map)) := by
  unfold served at h
  split at h
  · rw [Option.some.inj h]
  · cases h

/-- The reply of a process that ends with an error; `none` when it has ended. -/
def failed (error : ApiError) : Process → Option Reply
  | done _ => none
  | p => some (p.handler.failed error)

variable (S : Server) (db : Db) (clock : Nat → Timestamp) (fresh : Fresh)

/-- The queries of `register_device`. -/
def registerFind (request : RegisterDeviceRequest) : Process :=
  match db.findExistingDevice request.machineKey with
  | some existing => done (.registered (.ok existing))
  | none => registerUnknown request

def registerValidate (request : RegisterDeviceRequest) : Process :=
  match db.validateAuthKey S request.authKey with
  | .error error => done (.registered (.error error))
  | .ok _ =>
      match normalizeHostname request.hostname with
      | .error error => done (.registered (.error error))
      | .ok hostname => registerValidated request hostname

def registerAllocate (request : RegisterDeviceRequest) (hostname : String) : Process :=
  match db.allocateIpv4 with
  | .error error => done (.registered (.error error))
  | .ok ipv4 => registerAllocated request hostname ipv4

def registerInsert (request : RegisterDeviceRequest) (hostname ipv4 : String) : Process × Db :=
  match db.registerTx S clock fresh request hostname ipv4 with
  | .error error => (done (.registered (.error error)), db)
  | .ok (response, db) => (done (.registered (.ok response)), db)

def renameUpdate (deviceId : String) (request : RenameDeviceRequest) : Process × Db :=
  match normalizeHostname request.hostname with
  | .error error => (done (.renamed (.error error)), db)
  | .ok hostname =>
      match db.renameTx S clock fresh deviceId hostname with
      | .error error => (done (.renamed (.error error)), db)
      | .ok db => (renameCommitted deviceId, db)

def deleteUpdate (deviceId : String) : Process × Db :=
  match db.deleteTx clock deviceId with
  | .error error => (done (.deleted (.error error)), db)
  | .ok db => (done (.deleted (.ok ())), db)

def heartbeatUpdate (request : HeartbeatRequest) : Process × Db :=
  match db.heartbeatTx S clock request with
  | .error error => (done (.heartbeat (.error error)), db)
  | .ok db => (heartbeatVersion VersionTerm.all 0, db)

/-- The next query of `network_map_version` in a heartbeat. -/
def heartbeatRead : List VersionTerm → Nat → Process
  | [], sum => done (.heartbeat (.ok ⟨true, sum⟩))
  | [term], sum => done (.heartbeat (.ok ⟨true, ↑(sum + db.versionTerm term)⟩))
  | term :: pending, sum => heartbeatVersion pending (sum + db.versionTerm term)

/-- Where `network_map` goes on when the endpoints of `pending` are still to load. -/
def afterPeers (query : NetworkMapQuery) (selfDevice : NetworkMapSelf) (peers : List NetworkMapPeer) :
    List PeerRow → Process
  | [] => mapVersion query selfDevice peers VersionTerm.all 0
  | pending => mapPeers query selfDevice peers pending

def mapLoadPeer (query : NetworkMapQuery) (selfDevice : NetworkMapSelf) (peers : List NetworkMapPeer) :
    List PeerRow → Process
  | [] => afterPeers query selfDevice peers []
  | row :: pending =>
      afterPeers query selfDevice (peers ++ [db.networkMapPeer (clock 0) row]) pending

def mapRead (query : NetworkMapQuery) (selfDevice : NetworkMapSelf) (peers : List NetworkMapPeer) :
    List VersionTerm → Nat → Process
  | [], sum => mapDns query selfDevice peers sum
  | [term], sum => mapDns query selfDevice peers (sum + db.versionTerm term)
  | term :: pending, sum => mapVersion query selfDevice peers pending (sum + db.versionTerm term)

/-- The next step of a process, and the database after it. -/
def next : Process → Option (Process × Db)
  | createAuthKey =>
      match db.createAuthKey S fresh with
      | .error error => some (done (.authKey (.error error)), db)
      | .ok (response, db) => some (done (.authKey (.ok response)), db)
  | registerReceived request => some (registerFind db request, db)
  | registerUnknown request => some (registerValidate S db request, db)
  | registerValidated request hostname => some (registerAllocate db request hostname, db)
  | registerAllocated request hostname ipv4 =>
      some (registerInsert S db clock fresh request hostname ipv4)
  | renameReceived deviceId request => some (renameUpdate S db clock fresh deviceId request)
  | renameCommitted deviceId => some (done (.renamed (db.loadDeviceSummary deviceId)), db)
  | deleteReceived deviceId => some (deleteUpdate db clock deviceId)
  | heartbeatReceived request =>
      match db.validateDeviceNodeKey request.deviceId request.nodeKey with
      | .error error => some (done (.heartbeat (.error error)), db)
      | .ok _ => some (heartbeatValidated request, db)
  | heartbeatValidated request => some (heartbeatUpdate S db clock request)
  | heartbeatVersion pending sum => some (heartbeatRead db pending sum, db)
  | mapReceived query =>
      match db.validateDeviceNodeKey query.deviceId query.nodeKey with
      | .error error => some (done (.networkMap (.error error)), db)
      | .ok _ => some (mapValidated query, db)
  | mapValidated query =>
      match db.selfDevice S query.deviceId with
      | .error error => some (done (.networkMap (.error error)), db)
      | .ok selfDevice => some (mapSelf query selfDevice, db)
  | mapSelf query selfDevice =>
      some (afterPeers query selfDevice [] (db.peerRows query.deviceId), db)
  | mapPeers query selfDevice peers pending =>
      some (mapLoadPeer db clock query selfDevice peers pending, db)
  | mapVersion query selfDevice peers pending sum =>
      some (mapRead db query selfDevice peers pending sum, db)
  | mapDns _ selfDevice peers version =>
      some (done (.networkMap (.ok ⟨version, selfDevice, peers, db.loadDnsRecords, S.relays⟩)), db)
  | done _ => none

end Process

-- ============================================================================
-- The system
-- ============================================================================

/-- The seconds that pass in a step: in all, and until each of its statements. -/
structure Elapsed where
  total : Nat
  at_ : Nat → Nat
  mono : Monotone at_
  le_total : ∀ i, at_ i ≤ total

namespace Elapsed

/-- A step that takes no time. -/
def none : Elapsed := ⟨0, fun _ => 0, fun _ _ _ => le_rfl, fun _ => le_rfl⟩

/-- What `CURRENT_TIMESTAMP` reads in the statements of a step that begins at `now`. -/
def clock (elapsed : Elapsed) (now : Timestamp) (i : Nat) : Timestamp := now + elapsed.at_ i

theorem le_clock (elapsed : Elapsed) (now : Timestamp) (i : Nat) : now ≤ elapsed.clock now i :=
  Nat.le_add_right _ _

theorem clock_le (elapsed : Elapsed) (now : Timestamp) (i : Nat) :
    elapsed.clock now i ≤ now + elapsed.total :=
  Nat.add_le_add_left (elapsed.le_total i) now

theorem clock_mono (elapsed : Elapsed) (now : Timestamp) : Monotone (elapsed.clock now) :=
  fun _ _ h => Nat.add_le_add_left (elapsed.mono h) now

end Elapsed

/-- A device row that a registration created, and the key it presented. -/
structure Admission where
  authKey : String
  deviceId : String
deriving DecidableEq

structure ControlState where
  db : Db
  now : Timestamp
  /-- the requests received so far, by number -/
  requests : List Process
  /-- the device rows created so far -/
  admitted : List Admission

inductive Event where
  | tick (seconds : Nat)
  | arrive (request : Request)
  | advance (r : Nat) (fresh : Fresh) (elapsed : Elapsed)
  /-- request `r` ends with a database error, or is dropped -/
  | abort (r : Nat) (message : String)

/-- The row that a step of a process created. -/
def admission : Process → Process → Option Admission
  | .registerAllocated request .., .done (.registered (.ok response)) =>
      some ⟨request.authKey, response.deviceId⟩
  | _, _ => none

namespace ControlState

/-- No request has come yet. -/
def start (db : Db) (now : Timestamp) : ControlState := ⟨db, now, [], []⟩

/-- One event; `none` when it cannot happen. -/
def step (S : Server) (st : ControlState) : Event → Option ControlState
  | .tick seconds => some { st with now := st.now + seconds }
  | .arrive request => some { st with requests := st.requests ++ [request.start] }
  | .advance r fresh elapsed =>
      match st.requests[r]? with
      | none => none
      | some p =>
          match p.next S st.db (elapsed.clock st.now) fresh with
          | none => none
          | some (p', db') =>
              some ⟨db', st.now + elapsed.total, st.requests.set r p',
                st.admitted ++ (admission p p').toList⟩
  | .abort r message =>
      match st.requests[r]? with
      | none => none
      | some p =>
          match p.failed (fromSqlx S (.other message)) with
          | none => none
          | some reply => some { st with requests := st.requests.set r (.done reply) }

/-- The map that request `r` was answered with. -/
def served (st : ControlState) (r : Nat) : Option NetworkMapResponse := st.requests[r]?.bind Process.served

theorem done_of_served {st : ControlState} {r : Nat} {map : NetworkMapResponse}
    (h : st.served r = some map) : st.requests[r]? = some (.done (.networkMap (.ok map))) := by
  obtain ⟨p, hp, hmap⟩ := Option.bind_eq_some_iff.mp h
  rw [hp, Process.done_of_served hmap]

end ControlState

-- ============================================================================
-- What a step can do
-- ============================================================================

/-- The transactions: the process that commits one, and the database after it. -/
inductive Commit (S : Server) (clock : Nat → Timestamp) (fresh : Fresh) (db : Db) :
    Process → Db → Prop where
  | createAuthKey {response : CreateAuthKeyResponse} {db' : Db}
      (h : db.createAuthKey S fresh = .ok (response, db')) : Commit S clock fresh db .createAuthKey db'
  | register {request : RegisterDeviceRequest} {hostname ipv4 : String}
      {response : RegisterDeviceResponse} {db' : Db}
      (h : db.registerTx S clock fresh request hostname ipv4 = .ok (response, db')) :
      Commit S clock fresh db (.registerAllocated request hostname ipv4) db'
  | rename {deviceId hostname : String} {request : RenameDeviceRequest} {db' : Db}
      (hname : normalizeHostname request.hostname = .ok hostname)
      (h : db.renameTx S clock fresh deviceId hostname = .ok db') :
      Commit S clock fresh db (.renameReceived deviceId request) db'
  | delete {deviceId : String} {db' : Db} (h : db.deleteTx clock deviceId = .ok db') :
      Commit S clock fresh db (.deleteReceived deviceId) db'
  | heartbeat {request : HeartbeatRequest} {db' : Db} (h : db.heartbeatTx S clock request = .ok db') :
      Commit S clock fresh db (.heartbeatValidated request) db'

section Inversion

variable {S : Server} {db db' : Db} {clock : Nat → Timestamp} {fresh : Fresh} {p p' : Process}
variable {st st' : ControlState} {r : Nat}

/-- A step leaves the database alone or commits one transaction. -/
theorem Process.next_db (h : p.next S db clock fresh = some (p', db')) :
    db' = db ∨ Commit S clock fresh db p db' := by
  cases p with
  | createAuthKey =>
      simp only [next] at h
      split at h
      · exact Or.inl (Prod.mk.inj (Option.some.inj h)).2.symm
      · rename_i response db₁ hok
        obtain ⟨-, rfl⟩ := Prod.mk.inj (Option.some.inj h)
        exact Or.inr (.createAuthKey hok)
  | registerAllocated request hostname ipv4 =>
      simp only [next, registerInsert] at h
      split at h
      · exact Or.inl (Prod.mk.inj (Option.some.inj h)).2.symm
      · rename_i response db₁ hok
        obtain ⟨-, rfl⟩ := Prod.mk.inj (Option.some.inj h)
        exact Or.inr (.register hok)
  | renameReceived deviceId request =>
      simp only [next, renameUpdate] at h
      split at h
      · exact Or.inl (Prod.mk.inj (Option.some.inj h)).2.symm
      · rename_i hostname hname
        split at h
        · exact Or.inl (Prod.mk.inj (Option.some.inj h)).2.symm
        · rename_i db₁ hok
          obtain ⟨-, rfl⟩ := Prod.mk.inj (Option.some.inj h)
          exact Or.inr (.rename hname hok)
  | deleteReceived deviceId =>
      simp only [next, deleteUpdate] at h
      split at h
      · exact Or.inl (Prod.mk.inj (Option.some.inj h)).2.symm
      · rename_i db₁ hok
        obtain ⟨-, rfl⟩ := Prod.mk.inj (Option.some.inj h)
        exact Or.inr (.delete hok)
  | heartbeatValidated request =>
      simp only [next, heartbeatUpdate] at h
      split at h
      · exact Or.inl (Prod.mk.inj (Option.some.inj h)).2.symm
      · rename_i db₁ hok
        obtain ⟨-, rfl⟩ := Prod.mk.inj (Option.some.inj h)
        exact Or.inr (.heartbeat hok)
  | heartbeatReceived request =>
      simp only [next] at h
      split at h <;> exact Or.inl (Prod.mk.inj (Option.some.inj h)).2.symm
  | mapReceived query =>
      simp only [next] at h
      split at h <;> exact Or.inl (Prod.mk.inj (Option.some.inj h)).2.symm
  | mapValidated query =>
      simp only [next] at h
      split at h <;> exact Or.inl (Prod.mk.inj (Option.some.inj h)).2.symm
  | done reply => cases h
  | _ => exact Or.inl (Prod.mk.inj (Option.some.inj h)).2.symm

/-- A step leaves a request with its handler. -/
theorem Process.next_handler (h : p.next S db clock fresh = some (p', db')) :
    p'.handler = p.handler := by
  cases p with
  | createAuthKey =>
      simp only [next] at h
      split at h <;>
      · obtain ⟨rfl, -⟩ := Prod.mk.inj (Option.some.inj h)
        rfl
  | registerReceived request =>
      obtain ⟨rfl, -⟩ := Prod.mk.inj (Option.some.inj h)
      unfold registerFind
      split <;> rfl
  | registerUnknown request =>
      obtain ⟨rfl, -⟩ := Prod.mk.inj (Option.some.inj h)
      unfold registerValidate
      split
      · rfl
      · split <;> rfl
  | registerValidated request hostname =>
      obtain ⟨rfl, -⟩ := Prod.mk.inj (Option.some.inj h)
      unfold registerAllocate
      split <;> rfl
  | registerAllocated request hostname ipv4 =>
      obtain rfl := congrArg Prod.fst (Option.some.inj h)
      unfold registerInsert
      split <;> rfl
  | renameReceived deviceId request =>
      obtain rfl := congrArg Prod.fst (Option.some.inj h)
      unfold renameUpdate
      split
      · rfl
      · split <;> rfl
  | renameCommitted deviceId =>
      obtain ⟨rfl, -⟩ := Prod.mk.inj (Option.some.inj h)
      rfl
  | deleteReceived deviceId =>
      obtain rfl := congrArg Prod.fst (Option.some.inj h)
      unfold deleteUpdate
      split <;> rfl
  | heartbeatReceived request =>
      simp only [next] at h
      split at h <;>
      · obtain ⟨rfl, -⟩ := Prod.mk.inj (Option.some.inj h)
        rfl
  | heartbeatValidated request =>
      obtain rfl := congrArg Prod.fst (Option.some.inj h)
      unfold heartbeatUpdate
      split <;> rfl
  | heartbeatVersion pending sum =>
      obtain ⟨rfl, -⟩ := Prod.mk.inj (Option.some.inj h)
      unfold heartbeatRead
      split <;> rfl
  | mapReceived query =>
      simp only [next] at h
      split at h <;>
      · obtain ⟨rfl, -⟩ := Prod.mk.inj (Option.some.inj h)
        rfl
  | mapValidated query =>
      simp only [next] at h
      split at h <;>
      · obtain ⟨rfl, -⟩ := Prod.mk.inj (Option.some.inj h)
        rfl
  | mapSelf query selfDevice =>
      obtain ⟨rfl, -⟩ := Prod.mk.inj (Option.some.inj h)
      unfold afterPeers
      split <;> rfl
  | mapPeers query selfDevice peers pending =>
      obtain ⟨rfl, -⟩ := Prod.mk.inj (Option.some.inj h)
      unfold mapLoadPeer afterPeers
      split
      · rfl
      · split <;> rfl
  | mapVersion query selfDevice peers pending sum =>
      obtain ⟨rfl, -⟩ := Prod.mk.inj (Option.some.inj h)
      unfold mapRead
      split <;> rfl
  | mapDns query selfDevice peers version =>
      obtain ⟨rfl, -⟩ := Prod.mk.inj (Option.some.inj h)
      rfl
  | done reply => cases h

/-- What a query of `register_device` does, and what it has found. -/
inductive RegisterStep (S : Server) (clock : Nat → Timestamp) (fresh : Fresh) (db : Db) :
    Process → Process → Db → Prop where
  | found {request : RegisterDeviceRequest} {existing : RegisterDeviceResponse}
      (h : db.findExistingDevice request.machineKey = some existing) :
      RegisterStep S clock fresh db (.registerReceived request) (.done (.registered (.ok existing))) db
  | unknown {request : RegisterDeviceRequest}
      (h : db.findExistingDevice request.machineKey = none) :
      RegisterStep S clock fresh db (.registerReceived request) (.registerUnknown request) db
  | validated {request : RegisterDeviceRequest} {hostname : String}
      (hkey : db.validateAuthKey S request.authKey = .ok ())
      (hname : normalizeHostname request.hostname = .ok hostname) :
      RegisterStep S clock fresh db (.registerUnknown request) (.registerValidated request hostname) db
  | allocated {request : RegisterDeviceRequest} {hostname ipv4 : String}
      (h : db.allocateIpv4 = .ok ipv4) :
      RegisterStep S clock fresh db (.registerValidated request hostname)
        (.registerAllocated request hostname ipv4) db
  | inserted {request : RegisterDeviceRequest} {hostname ipv4 : String}
      {response : RegisterDeviceResponse} {db' : Db}
      (h : db.registerTx S clock fresh request hostname ipv4 = .ok (response, db')) :
      RegisterStep S clock fresh db (.registerAllocated request hostname ipv4)
        (.done (.registered (.ok response))) db'
  | refused {p : Process} {error : ApiError} :
      RegisterStep S clock fresh db p (.done (.registered (.error error))) db

theorem Process.next_register (h : p.next S db clock fresh = some (p', db'))
    (hhandler : p'.handler = .registerDevice) : RegisterStep S clock fresh db p p' db' := by
  rw [next_handler h] at hhandler
  cases p with
  | registerReceived request =>
      obtain ⟨hnext, rfl⟩ := Prod.mk.inj (Option.some.inj h)
      unfold registerFind at hnext
      split at hnext
      · rename_i existing hfind
        exact hnext ▸ .found hfind
      · rename_i hfind
        exact hnext ▸ .unknown hfind
  | registerUnknown request =>
      obtain ⟨hnext, rfl⟩ := Prod.mk.inj (Option.some.inj h)
      unfold registerValidate at hnext
      split at hnext
      · exact hnext ▸ .refused
      · rename_i hkey
        split at hnext
        · exact hnext ▸ .refused
        · rename_i hostname hname
          exact hnext ▸ .validated hkey hname
  | registerValidated request hostname =>
      obtain ⟨hnext, rfl⟩ := Prod.mk.inj (Option.some.inj h)
      unfold registerAllocate at hnext
      split at hnext
      · exact hnext ▸ .refused
      · rename_i ipv4 hallocate
        exact hnext ▸ .allocated hallocate
  | registerAllocated request hostname ipv4 =>
      simp only [next, registerInsert] at h
      split at h
      · obtain ⟨rfl, rfl⟩ := Prod.mk.inj (Option.some.inj h)
        exact .refused
      · rename_i response db₁ hok
        obtain ⟨rfl, rfl⟩ := Prod.mk.inj (Option.some.inj h)
        exact .inserted hok
  | done reply => cases h
  | _ => cases hhandler

theorem Process.failed_eq {error : ApiError} {reply : Reply} (h : p.failed error = some reply) :
    reply = p.handler.failed error := by
  cases p with
  | done _ => cases h
  | _ => exact (Option.some.inj h).symm

theorem ControlState.getElem?_set_cases {α : Type} {l : List α} {i j : Nat} {a b : α}
    (h : (l.set i a)[j]? = some b) : (j = i ∧ b = a) ∨ (j ≠ i ∧ l[j]? = some b) := by
  rw [List.getElem?_set] at h
  split at h
  · rename_i hij
    split at h
    · exact Or.inl ⟨hij.symm, (Option.some.inj h).symm⟩
    · cases h
  · rename_i hij
    exact Or.inr ⟨Ne.symm hij, h⟩

/-- Request `r` takes a step. -/
theorem ControlState.step_advance {elapsed : Elapsed} :
    st.step S (.advance r fresh elapsed) = some st' ↔
      ∃ p p' db', st.requests[r]? = some p ∧
        p.next S st.db (elapsed.clock st.now) fresh = some (p', db') ∧
        st' = ⟨db', st.now + elapsed.total, st.requests.set r p',
          st.admitted ++ (admission p p').toList⟩ := by
  refine ⟨fun h => ?_, ?_⟩
  · simp only [step] at h
    split at h
    · cases h
    · rename_i p hp
      split at h
      · cases h
      · rename_i p' db' hnext
        exact ⟨p, p', db', hp, hnext, (Option.some.inj h).symm⟩
  · rintro ⟨p, p', db', hp, hnext, rfl⟩
    simp only [step, hp, hnext]

/-- Request `r` ends with an error. -/
theorem ControlState.step_abort {message : String} :
    st.step S (.abort r message) = some st' ↔
      ∃ p reply, st.requests[r]? = some p ∧
        p.failed (fromSqlx S (.other message)) = some reply ∧
        st' = { st with requests := st.requests.set r (.done reply) } := by
  refine ⟨fun h => ?_, ?_⟩
  · simp only [step] at h
    split at h
    · cases h
    · rename_i p hp
      split at h
      · cases h
      · rename_i reply hfailed
        exact ⟨p, reply, hp, hfailed, (Option.some.inj h).symm⟩
  · rintro ⟨p, reply, hp, hfailed, rfl⟩
    simp only [step, hp, hfailed]

/-- An event leaves the database alone or is a step in which some request commits a
    transaction. -/
theorem ControlState.step_db {e : Event} (h : st.step S e = some st') :
    st'.db = st.db ∨ ∃ (r : Nat) (p p' : Process) (fresh : Fresh) (elapsed : Elapsed),
      e = .advance r fresh elapsed ∧ st.requests[r]? = some p ∧
        p.next S st.db (elapsed.clock st.now) fresh = some (p', st'.db) ∧
        Commit S (elapsed.clock st.now) fresh st.db p st'.db := by
  cases e with
  | tick seconds =>
      obtain rfl := Option.some.inj h
      exact Or.inl rfl
  | arrive request =>
      obtain rfl := Option.some.inj h
      exact Or.inl rfl
  | abort r message =>
      obtain ⟨_, _, -, -, rfl⟩ := step_abort.mp h
      exact Or.inl rfl
  | advance r fresh elapsed =>
      obtain ⟨p, p', db', hp, hnext, rfl⟩ := step_advance.mp h
      rcases Process.next_db hnext with rfl | hcommit
      · exact Or.inl rfl
      · exact Or.inr ⟨r, p, p', fresh, elapsed, rfl, hp, hnext, hcommit⟩

/-- Where a request of the next state comes from: it was there, has just arrived, has
    failed, or has taken a step. -/
theorem ControlState.mem_requests_of_step {e : Event} (h : st.step S e = some st') {q : Process}
    (hq : q ∈ st'.requests) :
    q ∈ st.requests ∨ (∃ request : Request, q = request.start) ∨
      (∃ (p : Process) (error : ApiError) (reply : Reply),
        p.failed error = some reply ∧ q = .done reply) ∨
      ∃ (p : Process) (clock : Nat → Timestamp) (fresh : Fresh),
        p ∈ st.requests ∧ p.next S st.db clock fresh = some (q, st'.db) := by
  cases e with
  | tick seconds =>
      obtain rfl := Option.some.inj h
      exact Or.inl hq
  | arrive request =>
      obtain rfl := Option.some.inj h
      rcases List.mem_append.mp hq with hold | hnew
      · exact Or.inl hold
      · exact Or.inr (Or.inl ⟨request, List.mem_singleton.mp hnew⟩)
  | abort r message =>
      obtain ⟨p, reply, -, hfailed, rfl⟩ := step_abort.mp h
      rcases List.mem_or_eq_of_mem_set hq with hold | hdone
      · exact Or.inl hold
      · exact Or.inr (Or.inr (Or.inl ⟨p, _, reply, hfailed, hdone⟩))
  | advance r fresh elapsed =>
      obtain ⟨p, p', db', hp, hnext, rfl⟩ := step_advance.mp h
      rcases List.mem_or_eq_of_mem_set hq with hold | rfl
      · exact Or.inl hold
      · exact Or.inr (Or.inr (Or.inr ⟨p, _, fresh, List.mem_of_getElem? hp, hnext⟩))

end Inversion

-- ============================================================================
-- A small control plane
-- ============================================================================

namespace Reference

/-- Hex digits in the place of SHA-256: no two inputs share an output. -/
def server : Server := ⟨Text.hexEncode, fun _ => "database error", []⟩

theorem server_lawful : server.Lawful := ⟨Text.hexEncode_injective⟩

/-- The UUIDs of one request, told apart by their first byte. -/
def uuids (a : UInt8) : Fresh :=
  let uuid : Uuid := ⟨toBe 16 (256 ^ 15 * a.toNat), toBe_length 16 _⟩
  ⟨uuid, uuid, uuid, uuid, uuid, uuid⟩

/-- The secret of the key that request `0` creates. -/
def secret : String := "tfk_" ++ simple (uuids 0).authKeySecret

def registration (name : String) : RegisterDeviceRequest :=
  ⟨secret, name, "machine-" ++ name, "tfscale", "tfscale-x25519:AA", "linux", "x86_64", "0.2.0"⟩

/-- The next step of a request, in no time. -/
def advance (r : Nat) : Event := .advance r (uuids (UInt8.ofNat r)) .none

end Reference

end TfScale.Control
