/-
  TfScale.System.Enrolment

  One state directory, the control plane, and any number of processes of the agent, one
  after another.

  A process of `agent_up` can die between any two steps and in the middle of a write, a
  reply can be lost, and the next process starts from the two files.  Machine keys are
  made from new UUIDs: `own` tells those of this state directory from all others.

  The invariant says that all processes use one machine key once it is saved, that every
  credential they saved or sent is the one of the identity in the backend's file, and that
  a device they know is the one of the machine key.
-/

import TfScale.Control.Provenance
import TfScale.Custom.StateFile
import TfScale.Agent.Enrolment
import TfScale.System.Overlay

namespace TfScale.System

open TfScale.Agent TfScale.Control TfScale.Custom ControlState ThreadM

-- ============================================================================
-- The system
-- ============================================================================

/-- Where the process of the agent is, with the state that it holds. -/
inductive Phase where
  | down
  | loaded (state : SavedState)
  | credentialed (state : SavedState)
  | saved (state : SavedState)
  /-- request `r` is its registration -/
  | waiting (state : SavedState) (r : Nat)
  | answered (state : SavedState)
  | running (state : SavedState)
deriving DecidableEq

def Phase.state : Phase → Option SavedState
  | down => none
  | loaded state | credentialed state | saved state | waiting state _ | answered state
  | running state => some state

/-- The operations of the backend that the process can be in. -/
def Phase.calls : Phase → StoreOperation → Bool
  | loaded _, .ensureCredentials => true
  | running _, .applyLocalConfig _ => true
  | running _, .applyPeerMap _ => true
  | _, _ => false

structure Deployment where
  control : ControlState
  agentFile : AgentFile
  backendFile : StateFile
  phase : Phase

inductive Happening where
  /-- the control plane goes on, whoever its clients are -/
  | control (e : Event)
  | start (uuid : Uuid) (dnsListen : String) (bound : Except String Unit) (readError : Option String)
  | ensureCredentials (w : World) (env : Env)
  | save (outcome : WriteOutcome)
  | register (request : RegisterDeviceRequest)
  | receive
  /-- an operation of the running backend -/
  | operate (b : CustomBackend) (w : World) (env : Env) (op : StoreOperation)
  | snapshot (dnsRecords : List DnsRecord) (outcome : WriteOutcome)
  | crash
  /-- the process dies in an operation, after its save -/
  | crashSaved (env : Env) (op : StoreOperation)

/-- The event does not bring a registration for a machine key of this state directory. -/
def Foreign (own : String → Bool) : Event → Bool
  | .arrive (.registerDevice request) => !own request.machineKey
  | _ => true

namespace Deployment

/-- Nothing has been done in the state directory, but the backend may have a file. -/
def start (now : Timestamp) (backendFile : StateFile) : Deployment :=
  ⟨ControlState.start .empty now, .absent, backendFile, .down⟩

/-- `AgentState::save` with `?`: where the process goes when the state is written. -/
def saving (d : Deployment) (state : SavedState) (outcome : WriteOutcome) (next : Phase) : Deployment :=
  { d with
    agentFile := d.agentFile.save state outcome
    phase := if outcome = .written then next else .down }

/-- One event; `none` when it cannot happen. -/
def step (X : Externals) (S : Server) (own : String → Bool) (d : Deployment) :
    Happening → Option Deployment
  | .control e =>
      if Foreign own e then (d.control.step S e).map fun control => { d with control } else none
  | .start uuid dnsListen bound readError =>
      match d.phase with
      | .down =>
          match d.agentFile.load readError with
          | .error _ => some d
          | .ok (some state) => some { d with phase := .loaded (state.proxyStarted dnsListen bound) }
          | .ok none =>
              if own (SavedState.new uuid).machineKey then
                some { d with phase := .loaded ((SavedState.new uuid).proxyStarted dnsListen bound) }
              else none
      | _ => none
  | .ensureCredentials w env =>
      match d.phase with
      | .loaded state =>
          if w.other.file = d.backendFile then
            match (ensureBackendCredentials X env state).run w with
            | .ok (.ok state, w) =>
                some { d with backendFile := w.other.file, phase := .credentialed state }
            | .ok (.error _, w) => some { d with backendFile := w.other.file, phase := .down }
            | .error _ => none
          else none
      | _ => none
  | .save outcome =>
      match d.phase with
      | .credentialed state =>
          some (d.saving state outcome (if state.deviceId.isSome then .running state else .saved state))
      | .answered state => some (d.saving state outcome (.running state))
      | _ => none
  | .register request =>
      match d.phase with
      | .saved state =>
          if request = state.registerRequest request then
            (d.control.step S (.arrive (.registerDevice request))).map fun control =>
              { d with control, phase := .waiting state d.control.requests.length }
          else none
      | _ => none
  | .receive =>
      match d.phase with
      | .waiting state r =>
          match d.control.requests[r]? with
          | some (.done (.registered (.ok response))) =>
              some { d with phase := .answered (state.withResponse response) }
          | some (.done _) => some { d with phase := .down }
          | _ => none
      | _ => none
  | .operate b w env op =>
      match d.phase with
      | .running state =>
          if (Phase.running state).calls op ∧ w.other.file = d.backendFile then
            match (op.program X b env).run w with
            | .ok (_, w) => some { d with backendFile := w.other.file }
            | .error _ => none
          else none
      | _ => none
  | .snapshot dnsRecords outcome =>
      match d.phase with
      | .running state =>
          some { d with agentFile := d.agentFile.save (state.withRecords dnsRecords) outcome }
      | _ => none
  | .crash => some { d with phase := .down }
  | .crashSaved env op =>
      if d.phase.calls op then
        match readState (env.readError 0) d.backendFile with
        | .error _ => none
        | .ok state =>
            match op.saved X env state with
            | none => none
            | some state => some { d with backendFile := .stored state, phase := .down }
      else none

end Deployment

variable {X : Externals} {S : Server} {own : String → Bool} {d d' : Deployment}

-- ============================================================================
-- What an event can do
-- ============================================================================

/-- The file has an identity with this credential. -/
def HasCredential (file : StateFile) (credential : String) : Prop :=
  ∃ identity, file.identity = some identity ∧ credential = identity.publicKey

/-- The states between which the events move the system. -/
inductive Moves (X : Externals) (S : Server) (own : String → Bool) (d : Deployment) :
    Happening → Deployment → Prop where
  | control {e : Event} {control : ControlState} (hforeign : Foreign own e = true)
      (hstep : d.control.step S e = some control) : Moves X S own d (.control e) { d with control }
  | unloaded {uuid : Uuid} {dnsListen : String} {bound : Except String Unit} {readError : Option String}
      (hphase : d.phase = .down) : Moves X S own d (.start uuid dnsListen bound readError) d
  | resumed {uuid : Uuid} {dnsListen : String} {bound : Except String Unit} {readError : Option String}
      {state : SavedState} (hphase : d.phase = .down) (hfile : d.agentFile = .stored state) :
      Moves X S own d (.start uuid dnsListen bound readError)
        { d with phase := .loaded (state.proxyStarted dnsListen bound) }
  | began {uuid : Uuid} {dnsListen : String} {bound : Except String Unit} {readError : Option String}
      (hphase : d.phase = .down) (hfile : d.agentFile = .absent)
      (hown : own (SavedState.new uuid).machineKey = true) :
      Moves X S own d (.start uuid dnsListen bound readError)
        { d with phase := .loaded ((SavedState.new uuid).proxyStarted dnsListen bound) }
  | credentialed {w : World} {env : Env} {state : SavedState} {file : StateFile} {credential : String}
      (hphase : d.phase = .loaded state)
      (hleaves : LeavesFile X env .ensureCredentials d.backendFile file)
      (hcredential : (state.backendPublicCredential ≠ "" ∧ credential = state.backendPublicCredential) ∨
        HasCredential file credential) :
      Moves X S own d (.ensureCredentials w env)
        { d with
          backendFile := file
          phase := .credentialed { state with backendPublicCredential := credential } }
  | uncredentialed {w : World} {env : Env} {state : SavedState} {file : StateFile}
      (hphase : d.phase = .loaded state)
      (hleaves : LeavesFile X env .ensureCredentials d.backendFile file) :
      Moves X S own d (.ensureCredentials w env) { d with backendFile := file, phase := .down }
  | saved {outcome : WriteOutcome} {state : SavedState} {next : Phase}
      (hphase : d.phase = .credentialed state ∨ d.phase = .answered state)
      (hnext : next = .saved state ∨ next = .running state) :
      Moves X S own d (.save outcome) (d.saving state outcome next)
  | registering {request : RegisterDeviceRequest} {control : ControlState} {state : SavedState}
      (hphase : d.phase = .saved state)
      (hrequest : request = state.registerRequest request)
      (hstep : d.control.step S (.arrive (.registerDevice request)) = some control) :
      Moves X S own d (.register request)
        { d with control, phase := .waiting state d.control.requests.length }
  | answered {r : Nat} {response : RegisterDeviceResponse} {state : SavedState}
      (hphase : d.phase = .waiting state r)
      (hdone : d.control.requests[r]? = some (.done (.registered (.ok response)))) :
      Moves X S own d .receive { d with phase := .answered (state.withResponse response) }
  | operated {b : CustomBackend} {w : World} {env : Env} {op : StoreOperation} {file : StateFile}
      (hleaves : LeavesFile X env op d.backendFile file) :
      Moves X S own d (.operate b w env op) { d with backendFile := file }
  | snapshot {dnsRecords : List DnsRecord} {outcome : WriteOutcome} {state : SavedState}
      (hphase : d.phase = .running state) :
      Moves X S own d (.snapshot dnsRecords outcome)
        { d with agentFile := d.agentFile.save (state.withRecords dnsRecords) outcome }
  /-- the process ends -/
  | ended {e : Happening} (hevents : ∀ event, e ≠ .control event) (hrequest : ∀ request, e ≠ .register request) :
      Moves X S own d e { d with phase := .down }
  | endedSaved {env : Env} {op : StoreOperation} {file : StateFile}
      (hleaves : LeavesFile X env op d.backendFile file) :
      Moves X S own d (.crashSaved env op) { d with backendFile := file, phase := .down }

variable {file : StateFile} {state s s' : SavedState}

theorem load_eq_none {readError : Option String} {agentFile : AgentFile}
    (h : agentFile.load readError = .ok none) : agentFile = .absent := by
  cases agentFile with
  | absent => rfl
  | unparsable message => cases h
  | stored state => cases readError <;> cases h

theorem load_eq_some {readError : Option String} {agentFile : AgentFile}
    (h : agentFile.load readError = .ok (some state)) : agentFile = .stored state := by
  cases agentFile with
  | absent => cases h
  | unparsable message => cases h
  | stored stored =>
      cases readError with
      | none => rw [Option.some.inj (Except.ok.inj h)]
      | some error => cases h

/-- What `ensure_backend_credentials` leaves in the backend's file, and the credential that
    the state has after it. -/
theorem ensureBackendCredentials_returned {env : Env} {w w' : World} {r : Result SavedState}
    (h : (ensureBackendCredentials X env state).run w = .ok (r, w')) :
    LeavesFile X env .ensureCredentials w.other.file w'.other.file ∧
      ∀ s, r = .ok s → ∃ credential, s = { state with backendPublicCredential := credential } ∧
        ((state.backendPublicCredential ≠ "" ∧ credential = state.backendPublicCredential) ∨
          HasCredential w'.other.file credential) := by
  unfold ensureBackendCredentials at h
  split at h
  · rcases bind_returned h with ⟨e, hfailed, rfl⟩ | ⟨credential, w₁, hensured, hrest⟩
    · refine ⟨leavesFile_ensureCredentials hfailed, fun s hs => ?_⟩
      cases hs
    · obtain ⟨rfl, rfl⟩ := Prod.mk.inj (Except.ok.inj hrest)
      refine ⟨leavesFile_ensureCredentials hensured, fun s hs => ?_⟩
      obtain rfl := Except.ok.inj hs
      exact ⟨_, rfl, Or.inr (ensureCredentials_returned hensured)⟩
  · rename_i hneeded
    obtain ⟨rfl, rfl⟩ := Prod.mk.inj (Except.ok.inj h)
    refine ⟨Or.inl rfl, fun s hs => ?_⟩
    obtain rfl := Except.ok.inj hs
    exact ⟨_, rfl, Or.inl ⟨fun hempty => hneeded (Or.inl hempty), rfl⟩⟩

theorem moves_of_step {e : Happening} (h : d.step X S own e = some d') : Moves X S own d e d' := by
  cases e with
  | control e =>
      simp only [Deployment.step] at h
      split at h
      · rename_i hforeign
        obtain ⟨control, hstep, rfl⟩ := Option.map_eq_some_iff.mp h
        exact .control hforeign hstep
      · cases h
  | start uuid dnsListen bound readError =>
      simp only [Deployment.step] at h
      split at h
      · rename_i hphase
        split at h
        · obtain rfl := Option.some.inj h
          exact .unloaded hphase
        · rename_i state hload
          obtain rfl := Option.some.inj h
          exact .resumed hphase (load_eq_some hload)
        · rename_i hload
          split at h
          · rename_i hown
            obtain rfl := Option.some.inj h
            exact .began hphase (load_eq_none hload) hown
          · cases h
      · cases h
  | ensureCredentials w env =>
      simp only [Deployment.step] at h
      split at h
      · rename_i state hphase
        split at h
        · rename_i hfile
          split at h
          · rename_i s w' hrun
            obtain rfl := Option.some.inj h
            obtain ⟨hleaves, hstate⟩ := ensureBackendCredentials_returned hrun
            rw [hfile] at hleaves
            obtain ⟨credential, rfl, hcredential⟩ := hstate s rfl
            exact .credentialed hphase hleaves hcredential
          · rename_i error w' hrun
            obtain rfl := Option.some.inj h
            obtain ⟨hleaves, -⟩ := ensureBackendCredentials_returned hrun
            rw [hfile] at hleaves
            exact .uncredentialed hphase hleaves
          · cases h
        · cases h
      · cases h
  | save outcome =>
      simp only [Deployment.step] at h
      split at h
      · rename_i state hphase
        obtain rfl := Option.some.inj h
        refine .saved (Or.inl hphase) ?_
        split
        · exact Or.inr rfl
        · exact Or.inl rfl
      · rename_i state hphase
        obtain rfl := Option.some.inj h
        exact .saved (Or.inr hphase) (Or.inr rfl)
      · cases h
  | register request =>
      simp only [Deployment.step] at h
      split at h
      · rename_i state hphase
        split at h
        · rename_i hrequest
          obtain ⟨control, hstep, rfl⟩ := Option.map_eq_some_iff.mp h
          exact .registering hphase hrequest hstep
        · cases h
      · cases h
  | receive =>
      simp only [Deployment.step] at h
      split at h
      · rename_i state r hphase
        split at h
        · rename_i response hdone
          obtain rfl := Option.some.inj h
          exact .answered hphase hdone
        · obtain rfl := Option.some.inj h
          exact .ended (fun _ hne => by cases hne) (fun _ hne => by cases hne)
        · cases h
      · cases h
  | operate b w env op =>
      simp only [Deployment.step] at h
      split at h
      · split at h
        · rename_i hcalls
          split at h
          · rename_i r w' hrun
            obtain rfl := Option.some.inj h
            have hleaves := leavesFile_of_returned hrun
            rw [hcalls.2] at hleaves
            exact .operated hleaves
          · cases h
        · cases h
      · cases h
  | snapshot dnsRecords outcome =>
      simp only [Deployment.step] at h
      split at h
      · rename_i state hphase
        obtain rfl := Option.some.inj h
        exact .snapshot hphase
      · cases h
  | crash =>
      obtain rfl := Option.some.inj h
      exact .ended (fun _ hne => by cases hne) (fun _ hne => by cases hne)
  | crashSaved env op =>
      simp only [Deployment.step] at h
      split at h
      · split at h
        · cases h
        · rename_i state hread
          split at h
          · cases h
          · rename_i state' hsaved
            obtain rfl := Option.some.inj h
            exact .endedSaved (Or.inr ⟨state, state', hread, hsaved, rfl⟩)
      · cases h

-- ============================================================================
-- The invariant
-- ============================================================================

/-- The two states have one machine key and one device. -/
structure SameEnrolment (s s' : SavedState) : Prop where
  machineKey : s.machineKey = s'.machineKey
  deviceId : s.deviceId = s'.deviceId
  nodeKey : s.nodeKey = s'.nodeKey
  networkId : s.networkId = s'.networkId
  ipv4 : s.ipv4 = s'.ipv4

theorem sameEnrolment_refl (s : SavedState) : SameEnrolment s s := ⟨rfl, rfl, rfl, rfl, rfl⟩

theorem sameEnrolment_proxyStarted (s : SavedState) (dnsListen : String) (bound : Except String Unit) :
    SameEnrolment (s.proxyStarted dnsListen bound) s := by
  cases bound <;> exact ⟨rfl, rfl, rfl, rfl, rfl⟩

theorem proxyStarted_credential (s : SavedState) (dnsListen : String) (bound : Except String Unit) :
    (s.proxyStarted dnsListen bound).backendPublicCredential = s.backendPublicCredential := by
  cases bound <;> rfl

/-- The device that the state knows is the one that its machine key was registered with. -/
def Known (db : Db) (s : SavedState) : Prop :=
  ∀ deviceId, s.deviceId = some deviceId → ∃ response, (s.machineKey, response) ∈ db.identities ∧
    response.deviceId = deviceId ∧ s.nodeKey = some response.nodeKey ∧
    s.networkId = some response.networkId ∧ s.ipv4 = some response.ipv4

theorem Known.congr {db : Db} (h : Known db s) (hsame : SameEnrolment s' s) : Known db s' := by
  intro deviceId hid
  rw [hsame.deviceId] at hid
  rw [hsame.machineKey, hsame.nodeKey, hsame.networkId, hsame.ipv4]
  exact h deviceId hid

theorem Known.mono {db db' : Db} (h : Known db s) (hle : db.identities <+: db'.identities) :
    Known db' s := by
  intro deviceId hid
  obtain ⟨response, hmem, hresponse⟩ := h deviceId hid
  exact ⟨response, hle.subset hmem, hresponse⟩

/-- The state, once the process has its credential. -/
def Phase.prepared : Phase → Option SavedState
  | down | loaded _ => none
  | credentialed state | saved state | waiting state _ | answered state | running state => some state

/-- The state, once the process has saved it. -/
def Phase.written : Phase → Option SavedState
  | down | loaded _ | credentialed _ => none
  | saved state | waiting state _ | answered state | running state => some state

theorem Phase.state_of_prepared {phase : Phase} (h : phase.prepared = some s) : phase.state = some s := by
  cases phase with
  | down | loaded _ => cases h
  | _ => exact h

/-- The state is in the file, or the process has it. -/
inductive Deployment.Holds (d : Deployment) (s : SavedState) : Prop where
  | stored (h : d.agentFile = .stored s)
  | process (h : d.phase.state = some s)

/-- The invariant, over the requests that have arrived. -/
structure Enrolling (X : Externals) (own : String → Bool) (arrived : List Request) (d : Deployment) :
    Prop where
  sound : SoundIdentity X d.backendFile
  isOwn : ∀ s, d.Holds s → own s.machineKey = true
  oneKey : ∀ s s', d.Holds s → d.Holds s' → s.machineKey = s'.machineKey
  known : ∀ s, d.Holds s → Known d.control.db s
  loaded : ∀ s, d.phase = .loaded s → s.backendPublicCredential ≠ "" →
    HasCredential d.backendFile s.backendPublicCredential
  stored : ∀ s, d.agentFile = .stored s → HasCredential d.backendFile s.backendPublicCredential
  prepared : ∀ s, d.phase.prepared = some s → HasCredential d.backendFile s.backendPublicCredential
  written : ∀ s, d.phase.written = some s → d.agentFile ≠ .absent
  waiting : ∀ s r, d.phase = .waiting s r → ∃ request : RegisterDeviceRequest,
    arrived[r]? = some (.registerDevice request) ∧ request.machineKey = s.machineKey
  sent : ∀ request, .registerDevice request ∈ arrived → own request.machineKey = true →
    d.agentFile ≠ .absent ∧ HasCredential d.backendFile request.backendPublicCredential ∧
      ∀ s, d.Holds s → s.machineKey = request.machineKey
  agree : ∀ request request', .registerDevice request ∈ arrived → .registerDevice request' ∈ arrived →
    own request.machineKey = true → own request'.machineKey = true →
      request.machineKey = request'.machineKey

section Preservation

variable {arrived : List Request}

theorem enrolling_start (now : Timestamp) (hsound : SoundIdentity X file) :
    Enrolling X own [] (.start now file) where
  sound := hsound
  isOwn s hs := by rcases hs with h | h <;> cases h
  oneKey s s' hs := by rcases hs with h | h <;> cases h
  known s hs := by rcases hs with h | h <;> cases h
  loaded s h := by cases h
  stored s h := by cases h
  prepared s h := by cases h
  written s h := by cases h
  waiting s r h := by cases h
  sent request h := by cases h
  agree request request' h := by cases h

/-- The agent makes a move that brings no request: what it holds then is what it held. -/
theorem Enrolling.move (h : Enrolling X own arrived d) (hcontrol : d'.control = d.control)
    (hidentity : ∀ identity, d.backendFile.identity = some identity →
      d'.backendFile.identity = some identity)
    (hsound : SoundIdentity X d'.backendFile)
    (hheld : ∀ s', d'.Holds s' → ∃ s, d.Holds s ∧ SameEnrolment s' s)
    (habsent : d'.agentFile = .absent → d.agentFile = .absent)
    (hloaded : ∀ s, d'.phase = .loaded s → s.backendPublicCredential ≠ "" →
      HasCredential d'.backendFile s.backendPublicCredential)
    (hstored : ∀ s, d'.agentFile = .stored s → HasCredential d'.backendFile s.backendPublicCredential)
    (hprepared : ∀ s, d'.phase.prepared = some s →
      HasCredential d'.backendFile s.backendPublicCredential)
    (hwritten : ∀ s, d'.phase.written = some s → d'.agentFile ≠ .absent)
    (hwaiting : ∀ s r, d'.phase = .waiting s r → d.phase = .waiting s r) :
    Enrolling X own arrived d' where
  sound := hsound
  isOwn s' hs' := by
    obtain ⟨s, hs, hsame⟩ := hheld s' hs'
    rw [hsame.machineKey]
    exact h.isOwn s hs
  oneKey s₁ s₂ h₁ h₂ := by
    obtain ⟨t₁, ht₁, hsame₁⟩ := hheld s₁ h₁
    obtain ⟨t₂, ht₂, hsame₂⟩ := hheld s₂ h₂
    rw [hsame₁.machineKey, hsame₂.machineKey]
    exact h.oneKey t₁ t₂ ht₁ ht₂
  known s' hs' := by
    obtain ⟨s, hs, hsame⟩ := hheld s' hs'
    rw [hcontrol]
    exact (h.known s hs).congr hsame
  loaded := hloaded
  stored := hstored
  prepared := hprepared
  written := hwritten
  waiting s r hphase := h.waiting s r (hwaiting s r hphase)
  sent request harrived hown := by
    obtain ⟨hpresent, ⟨identity, hid, hcredential⟩, hkey⟩ := h.sent request harrived hown
    refine ⟨fun habs => hpresent (habsent habs), ⟨identity, hidentity identity hid, hcredential⟩, ?_⟩
    intro s' hs'
    obtain ⟨s, hs, hsame⟩ := hheld s' hs'
    rw [hsame.machineKey]
    exact hkey s hs
  agree := h.agree

/-- The process ends, and the backend's file may have been written. -/
theorem Enrolling.ended (hX : X.Lawful) (h : Enrolling X own arrived d) {env : Env} {op : StoreOperation}
    (hleaves : LeavesFile X env op d.backendFile file) :
    Enrolling X own arrived { d with backendFile := file, phase := .down } := by
  refine h.move rfl (fun _ => hleaves.identity) (hleaves.sound hX h.sound) ?_ id ?_ ?_ ?_ ?_ ?_
  · rintro s (hfile | hphase)
    · exact ⟨s, .stored hfile, sameEnrolment_refl s⟩
    · cases hphase
  · intro s hphase
    cases hphase
  · intro s hfile
    obtain ⟨identity, hid, hcredential⟩ := h.stored s hfile
    exact ⟨identity, hleaves.identity hid, hcredential⟩
  · intro s hphase
    cases hphase
  · intro s hphase
    cases hphase
  · intro s r hphase
    cases hphase

/-- The process writes its state, or tries to. -/
theorem Enrolling.write (h : Enrolling X own arrived d) (hstate : d.phase.prepared = some state)
    (hsame : SameEnrolment s state) (hcredential : s.backendPublicCredential = state.backendPublicCredential)
    {outcome : WriteOutcome} {next : Phase} (hnext : ∀ t, next.state = some t → t = state)
    (hloaded : ∀ t, next ≠ .loaded t) (hwaiting : ∀ t r, next ≠ .waiting t r)
    (hwritten : ∀ t, next.written = some t → outcome = .written ∨ d.agentFile ≠ .absent) :
    Enrolling X own arrived { d with agentFile := d.agentFile.save s outcome, phase := next } := by
  have hheld : d.Holds state := .process (Phase.state_of_prepared hstate)
  have hfile : ∀ t, d.agentFile.save s outcome = .stored t → t = s ∨ d.agentFile = .stored t := by
    intro t ht
    cases outcome with
    | written => exact Or.inl (AgentFile.stored.inj ht).symm
    | refused => exact Or.inr ht
    | cutShort left => cases ht
  have habsent : d.agentFile.save s outcome = .absent → outcome = .refused ∧ d.agentFile = .absent := by
    intro habs
    cases outcome with
    | written => cases habs
    | refused => exact ⟨rfl, habs⟩
    | cutShort left => cases habs
  refine h.move rfl (fun _ hid => hid) h.sound ?_ (fun habs => (habsent habs).2) ?_ ?_ ?_ ?_ ?_
  · rintro t (ht | ht)
    · rcases hfile t ht with rfl | hold
      · exact ⟨state, hheld, hsame⟩
      · exact ⟨t, .stored hold, sameEnrolment_refl t⟩
    · obtain rfl := hnext t ht
      exact ⟨t, hheld, sameEnrolment_refl t⟩
  · intro t ht
    exact absurd ht (hloaded t)
  · intro t ht
    rcases hfile t ht with rfl | hold
    · rw [hcredential]
      exact h.prepared state hstate
    · exact h.stored t hold
  · intro t ht
    obtain rfl := hnext t (Phase.state_of_prepared ht)
    exact h.prepared t hstate
  · intro t ht habs
    obtain ⟨hrefused, hold⟩ := habsent habs
    rcases hwritten t ht with rfl | hpresent
    · cases hrefused
    · exact hpresent hold
  · intro t r ht
    exact absurd ht (hwaiting t r)

/-- The process saves its state and goes on, or ends. -/
theorem Enrolling.saving (h : Enrolling X own arrived d) {next : Phase} (outcome : WriteOutcome)
    (hstate : d.phase.prepared = some state) (hnext : next = .saved state ∨ next = .running state) :
    Enrolling X own arrived (d.saving state outcome next) := by
  refine h.write hstate (sameEnrolment_refl state) rfl ?_ ?_ ?_ ?_
  · intro t ht
    split at ht
    · rcases hnext with rfl | rfl <;> exact (Option.some.inj ht).symm
    · cases ht
  · intro t ht
    split at ht
    · rcases hnext with rfl | rfl <;> cases ht
    · cases ht
  · intro t r ht
    split at ht
    · rcases hnext with rfl | rfl <;> cases ht
    · cases ht
  · intro t ht
    split at ht
    · rename_i hwritten
      exact Or.inl hwritten
    · cases ht

/-- The process begins with the state `s`. -/
theorem Enrolling.load (h : Enrolling X own arrived d)
    (hfile : d.agentFile = .stored state) (hsame : SameEnrolment s state)
    (hcredential : s.backendPublicCredential = state.backendPublicCredential) :
    Enrolling X own arrived { d with phase := .loaded s } := by
  refine h.move rfl (fun _ hid => hid) h.sound ?_ id ?_ h.stored ?_ ?_ ?_
  · rintro t (ht | ht)
    · exact ⟨t, .stored ht, sameEnrolment_refl t⟩
    · obtain rfl := Option.some.inj ht
      exact ⟨state, .stored hfile, hsame⟩
  · intro t ht _
    obtain rfl := Phase.loaded.inj ht
    rw [hcredential]
    exact h.stored state hfile
  · intro t ht
    cases ht
  · intro t ht
    cases ht
  · intro t r ht
    cases ht

/-- The process begins with a new state: nothing of this state directory has arrived. -/
theorem Enrolling.begin (h : Enrolling X own arrived d)
    (hfile : d.agentFile = .absent) (hown : own s.machineKey = true) (hdevice : s.deviceId = none)
    (hcredential : s.backendPublicCredential = "") :
    Enrolling X own arrived { d with phase := .loaded s } := by
  have hheld : ∀ t, ({ d with phase := .loaded s } : Deployment).Holds t → t = s := by
    rintro t (ht | ht)
    · cases hfile.symm.trans ht
    · exact (Option.some.inj ht).symm
  refine ⟨h.sound, fun t ht => ?_, fun t t' ht ht' => ?_, fun t ht => ?_, fun t ht hne => ?_, h.stored,
    fun t ht => (by cases ht), fun t ht => (by cases ht), fun t r ht => (by cases ht),
    fun request harrived hmine => ?_, h.agree⟩
  · rw [hheld t ht]
    exact hown
  · rw [hheld t ht, hheld t' ht']
  · rw [hheld t ht]
    intro deviceId hid
    cases hdevice.symm.trans hid
  · obtain rfl := Phase.loaded.inj ht
    exact absurd hcredential hne
  · exact absurd hfile (h.sent request harrived hmine).1

/-- The control plane goes on, with whatever requests of others. -/
theorem Enrolling.control (h : Enrolling X own arrived d) {e : Event} {control : ControlState}
    (hforeign : Foreign own e = true) (hstep : d.control.step S e = some control) :
    Enrolling X own (arrived ++ arrivals [e]) { d with control } := by
  have hmine : ∀ request : RegisterDeviceRequest, .registerDevice request ∈ arrived ++ arrivals [e] →
      own request.machineKey = true → .registerDevice request ∈ arrived := by
    intro request hmem hown
    rcases List.mem_append.mp hmem with hold | hnew
    · exact hold
    · cases e with
      | arrive arriving =>
          obtain rfl := List.mem_singleton.mp hnew
          simp only [Foreign, hown, Bool.not_true, Bool.false_eq_true] at hforeign
      | _ => cases hnew
  have hheld : ∀ s, ({ d with control } : Deployment).Holds s → d.Holds s := by
    rintro s (hs | hs)
    · exact .stored hs
    · exact .process hs
  refine ⟨h.sound, fun s hs => h.isOwn s (hheld s hs),
    fun s s' hs hs' => h.oneKey s s' (hheld s hs) (hheld s' hs'),
    fun s hs => (h.known s (hheld s hs)).mono (step_identities hstep), h.loaded, h.stored, h.prepared,
    h.written, fun s r hphase => ?_, fun request hmem hown => ?_, ?_⟩
  · obtain ⟨request, harrived, hkey⟩ := h.waiting s r hphase
    refine ⟨request, ?_, hkey⟩
    rw [List.getElem?_append_left (List.getElem?_eq_some_iff.mp harrived).1]
    exact harrived
  · obtain ⟨hpresent, hcredential, hkey⟩ := h.sent request (hmine request hmem hown) hown
    exact ⟨hpresent, hcredential, fun s hs => hkey s (hheld s hs)⟩
  · intro request request' hmem hmem' hown hown'
    exact h.agree request request' (hmine request hmem hown) (hmine request' hmem' hown') hown hown'

/-- The process registers: its request has the machine key and the credential of the state
    that it has saved. -/
theorem Enrolling.register (h : Enrolling X own arrived d) {request : RegisterDeviceRequest}
    {control : ControlState} (hphase : d.phase = .saved state)
    (hrequest : request = state.registerRequest request) (hlength : d.control.requests.length = arrived.length)
    (hstep : d.control.step S (.arrive (.registerDevice request)) = some control) :
    Enrolling X own (arrived ++ [.registerDevice request])
      { d with control, phase := .waiting state d.control.requests.length } := by
  have hstate : d.phase.state = some state := by rw [hphase]; rfl
  have hprepared : d.phase.prepared = some state := by rw [hphase]; rfl
  have hpresent : d.agentFile ≠ .absent := h.written state (by rw [hphase]; rfl)
  have hkey : request.machineKey = state.machineKey := congrArg RegisterDeviceRequest.machineKey hrequest
  have hcredential : request.backendPublicCredential = state.backendPublicCredential :=
    congrArg RegisterDeviceRequest.backendPublicCredential hrequest
  have hheld : ∀ s, ({ d with control, phase := .waiting state d.control.requests.length } :
      Deployment).Holds s → d.Holds s := by
    rintro s (hs | hs)
    · exact .stored hs
    · exact .process (hstate.trans hs)
  have hsent : ∀ mine : RegisterDeviceRequest, .registerDevice mine ∈ arrived ++ [.registerDevice request] →
      own mine.machineKey = true → HasCredential d.backendFile mine.backendPublicCredential ∧
        mine.machineKey = state.machineKey := by
    intro mine hmem hown
    rcases List.mem_append.mp hmem with hold | hnew
    · obtain ⟨-, hcredential, hsame⟩ := h.sent mine hold hown
      exact ⟨hcredential, (hsame state (.process hstate)).symm⟩
    · obtain rfl := Request.registerDevice.inj (List.mem_singleton.mp hnew)
      rw [hcredential]
      exact ⟨h.prepared state hprepared, hkey⟩
  refine ⟨h.sound, fun s hs => h.isOwn s (hheld s hs),
    fun s s' hs hs' => h.oneKey s s' (hheld s hs) (hheld s' hs'),
    fun s hs => (h.known s (hheld s hs)).mono (step_identities hstep), fun s hs => (by cases hs), h.stored,
    fun s hs => ?_, fun s hs => hpresent, fun s r hs => ?_, fun mine hmem hown => ?_, ?_⟩
  · obtain rfl := Option.some.inj hs
    exact h.prepared _ hprepared
  · obtain ⟨rfl, rfl⟩ := Phase.waiting.inj hs
    refine ⟨request, ?_, hkey⟩
    rw [hlength, List.getElem?_append_right (Nat.le_refl _), Nat.sub_self]
    rfl
  · obtain ⟨hcredential, hsame⟩ := hsent mine hmem hown
    refine ⟨hpresent, hcredential, fun s hs => ?_⟩
    rw [hsame]
    exact h.oneKey s state (hheld s hs) (.process hstate)
  · intro mine mine' hmem hmem' hown hown'
    rw [(hsent mine hmem hown).2, (hsent mine' hmem' hown').2]

/-- The process has the reply: its device is the one of its machine key. -/
theorem Enrolling.answer (h : Enrolling X own arrived d) {r : Nat} {response : RegisterDeviceResponse}
    (hphase : d.phase = .waiting state r) (hserves : Serves arrived d.control)
    (hdone : d.control.requests[r]? = some (.done (.registered (.ok response)))) :
    Enrolling X own arrived { d with phase := .answered (state.withResponse response) } := by
  have hstate : d.phase.state = some state := by rw [hphase]; rfl
  have hprepared : d.phase.prepared = some state := by rw [hphase]; rfl
  have hpresent : d.agentFile ≠ .absent := h.written state (by rw [hphase]; rfl)
  obtain ⟨request, harrived, hkey⟩ := h.waiting state r hphase
  have hmem : (state.machineKey, response) ∈ d.control.db.identities := by
    have hregistering := hserves.registering r request _ harrived hdone
    rw [← hkey]
    cases hregistering with
    | registered hmem => exact hmem
  have hheld : ∀ s, ({ d with phase := .answered (state.withResponse response) } : Deployment).Holds s →
      s = state.withResponse response ∨ d.Holds s := by
    rintro s (hs | hs)
    · exact Or.inr (.stored hs)
    · exact Or.inl (Option.some.inj hs).symm
  have hkeys : ∀ s, ({ d with phase := .answered (state.withResponse response) } : Deployment).Holds s →
      s.machineKey = state.machineKey := by
    intro s hs
    rcases hheld s hs with rfl | hold
    · rfl
    · exact h.oneKey s state hold (.process hstate)
  refine ⟨h.sound, fun s hs => ?_, fun s s' hs hs' => ?_, fun s hs => ?_, fun s hs => (by cases hs), h.stored,
    fun s hs => ?_, fun s hs => hpresent, fun s r hs => (by cases hs), fun mine hmine hown => ?_, h.agree⟩
  · rw [hkeys s hs]
    exact h.isOwn state (.process hstate)
  · rw [hkeys s hs, hkeys s' hs']
  · rcases hheld s hs with rfl | hold
    · intro deviceId hid
      exact ⟨response, hmem, Option.some.inj hid, rfl, rfl, rfl⟩
    · exact h.known s hold
  · obtain rfl := Option.some.inj hs
    exact h.prepared state hprepared
  · obtain ⟨-, hcredential, hsame⟩ := h.sent mine hmine hown
    refine ⟨hpresent, hcredential, fun s hs => ?_⟩
    rw [hkeys s hs]
    exact hsame state (.process hstate)

end Preservation

-- ============================================================================
-- Runs
-- ============================================================================

/-- What the control plane sees of an event. -/
def Happening.events : Happening → List Event
  | control e => [e]
  | register request => [.arrive (.registerDevice request)]
  | _ => []

/-- The control plane of the system takes its own steps only. -/
theorem Moves.control_run {e : Happening} (h : Moves X S own d e d') :
    run (ControlState.step S) d.control e.events = some d'.control := by
  cases h with
  | control hforeign hstep => exact run_cons_eq_some.mpr ⟨_, hstep, rfl⟩
  | registering hphase hrequest hstep => exact run_cons_eq_some.mpr ⟨_, hstep, rfl⟩
  | ended hevents hrequest =>
      cases e with
      | control event => exact absurd rfl (hevents event)
      | register request => exact absurd rfl (hrequest request)
      | _ => rfl
  | _ => rfl

theorem Enrolling.moves (hX : X.Lawful) {arrived : List Request} {e : Happening}
    (h : Enrolling X own arrived d) (hserves : Serves arrived d.control) (hmoves : Moves X S own d e d') :
    Enrolling X own (arrived ++ arrivals e.events) d' := by
  have hsilent : arrivals e.events = [] → Enrolling X own arrived d' →
      Enrolling X own (arrived ++ arrivals e.events) d' := by
    intro hnone hkept
    rw [hnone, List.append_nil]
    exact hkept
  cases hmoves with
  | control hforeign hstep => exact h.control hforeign hstep
  | registering hphase hrequest hstep => exact h.register hphase hrequest hserves.length hstep
  | unloaded hphase =>
      refine hsilent rfl ?_
      exact h
  | resumed hphase hfile =>
      refine hsilent rfl ?_
      exact h.load hfile (sameEnrolment_proxyStarted _ _ _) (proxyStarted_credential _ _ _)
  | @began uuid dnsListen bound _ hphase hfile hown =>
      refine hsilent rfl ?_
      have hsame := sameEnrolment_proxyStarted (SavedState.new uuid) dnsListen bound
      refine h.begin hfile ?_ hsame.deviceId (proxyStarted_credential _ _ _)
      rw [hsame.machineKey]
      exact hown
  | @credentialed w env state file credential hphase hleaves hcredential =>
      refine hsilent rfl ?_
      have hheld : d.Holds state := .process (by rw [hphase]; rfl)
      have hgiven : HasCredential file credential := by
        rcases hcredential with ⟨hne, rfl⟩ | hnew
        · obtain ⟨identity, hid, hpublic⟩ := h.loaded state hphase hne
          exact ⟨identity, hleaves.identity hid, hpublic⟩
        · exact hnew
      refine h.move rfl (fun _ => hleaves.identity) (hleaves.sound hX h.sound) ?_ id ?_ ?_ ?_ ?_ ?_
      · rintro t (ht | ht)
        · exact ⟨t, .stored ht, sameEnrolment_refl t⟩
        · obtain rfl := Option.some.inj ht
          exact ⟨state, hheld, rfl, rfl, rfl, rfl, rfl⟩
      · intro t ht
        cases ht
      · intro t ht
        obtain ⟨identity, hid, hpublic⟩ := h.stored t ht
        exact ⟨identity, hleaves.identity hid, hpublic⟩
      · intro t ht
        obtain rfl := Option.some.inj ht
        exact hgiven
      · intro t ht
        cases ht
      · intro t r ht
        cases ht
  | uncredentialed hphase hleaves =>
      refine hsilent rfl ?_
      exact h.ended hX hleaves
  | saved hphase hnext =>
      refine hsilent rfl ?_
      refine h.saving _ ?_ hnext
      rcases hphase with hphase | hphase <;> rw [hphase] <;> rfl
  | answered hphase hdone =>
      refine hsilent rfl ?_
      exact h.answer hphase hserves hdone
  | operated hleaves =>
      refine hsilent rfl ?_
      have hkept : ∀ {credential : String}, HasCredential d.backendFile credential →
          HasCredential _ credential := fun ⟨identity, hid, hpublic⟩ =>
        ⟨identity, hleaves.identity hid, hpublic⟩
      refine h.move rfl (fun _ => hleaves.identity) (hleaves.sound hX h.sound) ?_ id
        (fun t ht hne => hkept (h.loaded t ht hne)) (fun t ht => hkept (h.stored t ht))
        (fun t ht => hkept (h.prepared t ht)) h.written fun _ _ ht => ht
      rintro t (ht | ht)
      · exact ⟨t, .stored ht, sameEnrolment_refl t⟩
      · exact ⟨t, .process ht, sameEnrolment_refl t⟩
  | @snapshot dnsRecords _ state hphase =>
      refine hsilent rfl ?_
      have hprepared : d.phase.prepared = some state := by rw [hphase]; rfl
      have hsame : SameEnrolment (state.withRecords dnsRecords) state := ⟨rfl, rfl, rfl, rfl, rfl⟩
      refine h.write hprepared hsame rfl ?_ ?_ ?_ fun t ht => Or.inr (h.written t ht)
      · intro t ht
        rw [hphase] at ht
        exact (Option.some.inj ht).symm
      · intro t ht
        rw [hphase] at ht
        cases ht
      · intro t r ht
        rw [hphase] at ht
        cases ht
  | ended hevents hrequest =>
      have hnone : arrivals e.events = [] := by
        cases e with
        | control event => exact absurd rfl (hevents event)
        | register request => exact absurd rfl (hrequest request)
        | _ => rfl
      have hkept : LeavesFile X Reference.env .ensureCredentials d.backendFile d.backendFile := Or.inl rfl
      exact hsilent hnone (h.ended hX hkept)
  | endedSaved hleaves =>
      refine hsilent rfl ?_
      exact h.ended hX hleaves

/-- After any run the control plane has taken steps of its own only, and the invariant
    holds. -/
structure Reached (X : Externals) (S : Server) (own : String → Bool) (now : Timestamp)
    (happened : List Happening) (d : Deployment) : Prop where
  control : run (ControlState.step S) (ControlState.start .empty now)
    (happened.flatMap Happening.events) = some d.control
  enrolling : Enrolling X own (arrivals (happened.flatMap Happening.events)) d

theorem reached_of_run (hX : X.Lawful) {now : Timestamp} {happened : List Happening}
    (hsound : SoundIdentity X file)
    (hrun : run (Deployment.step X S own) (.start now file) happened = some d) :
    Reached X S own now happened d := by
  have hstart : Reached X S own now [] (.start now file) := ⟨rfl, enrolling_start now hsound⟩
  refine invariant_history hstart (fun es e s t _ hinv hstep => ?_) hrun
  have hmoves := moves_of_step hstep
  have hserves : Serves (arrivals (es.flatMap Happening.events)) s.control :=
    (serves_start .empty now).run hinv.control
  refine ⟨?_, ?_⟩
  · rw [List.flatMap_append, List.flatMap_singleton]
    exact run_append_eq_some.mpr ⟨_, hinv.control, hmoves.control_run⟩
  · rw [List.flatMap_append, List.flatMap_singleton, arrivals_append]
    exact hinv.enrolling.moves hX hserves hmoves

/-- **Enrolment survives crashes.**  In every run of the processes of one state directory,
    which can die at any point, with any other clients of the control plane:

    * the state directory gets at most one device,
    * the credential in a saved state is that of the identity in the backend's file, whose
      keys belong together, and the one that the device was registered with,
    * a device that a saved state names is the one that the control plane has for its
      machine key, with the node key, the address and the network of the state. -/
theorem enrolment_survives_crashes (X : Externals) (hX : X.Lawful) (S : Server) (own : String → Bool)
    (now : Timestamp) (file : StateFile) (hsound : SoundIdentity X file) (happened : List Happening)
    (d : Deployment) (hrun : run (Deployment.step X S own) (.start now file) happened = some d) :
    (∀ row ∈ d.control.db.devices.rows, ∀ row' ∈ d.control.db.devices.rows,
      own row.machineKey = true → own row'.machineKey = true → row = row') ∧
    ∀ state, d.agentFile = .stored state →
      ∃ identity, d.backendFile.identity = some identity ∧
        state.backendPublicCredential = identity.publicKey ∧
        derivePublicCredential X identity.privateKey = .ok identity.publicKey ∧
        (∀ row ∈ d.control.db.devices.rows, own row.machineKey = true →
          row.machineKey = state.machineKey ∧ row.backendPublicCredential = identity.publicKey) ∧
        ∀ deviceId, state.deviceId = some deviceId →
          Enrolled X d.control.db deviceId d.backendFile ∧
          ∃ row ∈ d.control.db.devices.rows, row.id = deviceId ∧ row.machineKey = state.machineKey ∧
            state.nodeKey = some row.nodeKey ∧ state.ipv4 = some row.ipv4 ∧
            state.networkId = some row.networkId := by
  obtain ⟨hcontrol, hinv⟩ := reached_of_run hX hsound hrun
  have hrows := (provenance_of_run hcontrol).rows
  have hunique : ∀ row ∈ d.control.db.devices.rows, ∀ row' ∈ d.control.db.devices.rows,
      row.machineKey = row'.machineKey → row = row' := by
    intro row hrow row' hrow' hkey
    exact Table.eq_of_clash hrow hrow' (by rw [deviceClash_eq, hkey]; simp)
  refine ⟨fun row hrow row' hrow' hown hown' => ?_, fun state hstored => ?_⟩
  · obtain ⟨request, harrived, hby⟩ := hrows row hrow
    obtain ⟨request', harrived', hby'⟩ := hrows row' hrow'
    rw [hby.machineKey] at hown
    rw [hby'.machineKey] at hown'
    apply hunique row hrow row' hrow'
    rw [hby.machineKey, hby'.machineKey]
    exact hinv.agree request request' harrived harrived' hown hown'
  · obtain ⟨identity, hidentity, hcredential⟩ := hinv.stored state hstored
    have hmine : ∀ row ∈ d.control.db.devices.rows, own row.machineKey = true →
        row.machineKey = state.machineKey ∧ row.backendPublicCredential = identity.publicKey := by
      intro row hrow hown
      obtain ⟨request, harrived, hby⟩ := hrows row hrow
      rw [hby.machineKey] at hown
      obtain ⟨-, ⟨identity', hidentity', hpublic⟩, hkey⟩ := hinv.sent request harrived hown
      obtain rfl := Option.some.inj (hidentity.symm.trans hidentity')
      exact ⟨hby.machineKey.trans (hkey state (.stored hstored)).symm, hby.credential.trans hpublic⟩
    refine ⟨identity, hidentity, hcredential, hinv.sound identity hidentity, hmine,
      fun deviceId hid => ?_⟩
    obtain ⟨response, hmem, hresponse, hnode, hnetwork, hip⟩ := hinv.known state (.stored hstored) deviceId hid
    obtain ⟨row, hrow, hsame⟩ := List.mem_map.mp hmem
    obtain ⟨hkey, rfl⟩ := Prod.mk.inj hsame
    refine ⟨fun identity' hidentity' => ?_, row, hrow, hresponse, hkey, hnode, hip, hnetwork⟩
    obtain rfl := Option.some.inj (hidentity.symm.trans hidentity')
    refine ⟨hinv.sound identity hidentity, fun row' hrow' hid' => ?_⟩
    obtain rfl := device_unique hrow' hrow (hid'.trans hresponse.symm)
    refine (hmine row' hrow' ?_).2
    rw [hkey]
    exact hinv.isOwn state (.stored hstored)

namespace Reference

open TfScale.Control.Reference TfScale.Custom.Reference

/-- The UUID of the first process, and the machine key that is made from it. -/
def machineUuid : Uuid := (uuids 9).device

def isOurs (machineKey : String) : Bool := machineKey == "machine_" ++ simple machineUuid

/-- What the first process finds of the backend, and what the second one does. -/
def backendBefore : World := ⟨⟨.absent, 0, []⟩, ⟨RuntimeState.default, false, false⟩⟩

def backendAfter : World :=
  ⟨⟨.stored { CustomBackendState.default with
      identity := some (generateIdentity Externals.reference Reference.env) }, 0, []⟩,
    ⟨RuntimeState.default, false, false⟩⟩

def ourRequest : RegisterDeviceRequest :=
  { Control.Reference.registration "alpha" with
    machineKey := "machine_" ++ simple machineUuid
    backendPublicCredential := (generateIdentity Externals.reference Reference.env).publicKey }

/-- A process registers and dies before it reads the reply; the next one registers again. -/
def crashBetween : List Happening :=
  [.control (.arrive .createAuthKey), .control (advance 0),
   .start machineUuid defaultDnsListen (.ok ()) none, .ensureCredentials backendBefore Reference.env,
   .save .written, .register ourRequest, .control (advance 1), .control (advance 1),
   .control (advance 1), .control (advance 1), .crash,
   .start (uuids 10).device defaultDnsListen (.error "address in use") none,
   .ensureCredentials backendAfter Reference.env, .save .written, .register ourRequest,
   .control (advance 2), .receive, .save .written]

end Reference

open Reference TfScale.Control.Reference in
/-- The second process has the device that the first one was given. -/
theorem enrolment_survives_crashes_between :
    ∃ d state, run (Deployment.step Externals.reference server isOurs) (.start 0 .absent) crashBetween =
        some d ∧
      d.agentFile = .stored state ∧ state.deviceId = some ("dev_" ++ simple (uuids 1).device) ∧
      d.control.db.devices.rows.length = 1 ∧
      Enrolled Externals.reference d.control.db ("dev_" ++ simple (uuids 1).device) d.backendFile := by
  have hrun : (run (Deployment.step Externals.reference server isOurs) (.start 0 .absent)
      crashBetween).any (fun d => d.control.db.devices.rows.length == 1 &&
        match d.agentFile with
        | .stored state => state.deviceId == some ("dev_" ++ simple (uuids 1).device)
        | _ => false) = true := by
    decide +kernel
  obtain ⟨d, hd, hfacts⟩ := (Option.any_eq_true _ _).mp hrun
  rw [Bool.and_eq_true] at hfacts
  obtain ⟨hrows, hdevice⟩ := hfacts
  have hsound : SoundIdentity Externals.reference .absent := fun identity hnone => by cases hnone
  split at hdevice
  · rename_i state hfile
    have hid := beq_iff_eq.mp hdevice
    obtain ⟨-, hstates⟩ := enrolment_survives_crashes Externals.reference Externals.reference_lawful server
      isOurs 0 .absent hsound crashBetween d hd
    obtain ⟨_, -, -, -, -, hnamed⟩ := hstates state hfile
    exact ⟨d, state, hd, hfile, hid, beq_iff_eq.mp hrows, (hnamed _ hid).1⟩
  · cases hdevice

end TfScale.System
