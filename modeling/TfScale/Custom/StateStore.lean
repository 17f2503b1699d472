/-
  TfScale.Custom.StateStore

  What the backend keeps on disk, over runs of the operations that write it.

  `ensure_credentials`, `apply_local_config` and `apply_peer_map` each load the state, change
  one field and replace file and runtime by the result.  What one operation does is
  `operation_returned`: either it saved what `Stores.saved` says, and file and runtime hold
  just that, or it left the file alone.  No operation writes the identity of a state that
  has one, so over a run the identity can be added and never lost.
-/

import TfScale.Lib.Run
import TfScale.Custom.Footprint
import TfScale.Custom.PeerSessions

namespace TfScale.Custom

open ThreadM

/-- The operations that write the state file. -/
inductive StoreOperation where
  | ensureCredentials
  | applyLocalConfig (config : LocalBackendConfig)
  | applyPeerMap (peers : List PeerConfig)

namespace StoreOperation

/-- The operation as a program; only `ensure_credentials` has a result. -/
def program (X : Externals) (b : CustomBackend) (env : Env) :
    StoreOperation → BackendM (Option BackendCredential)
  | ensureCredentials => do return some (← Custom.ensureCredentials X env)
  | applyLocalConfig config => do
      Custom.applyLocalConfig X b env config
      return none
  | applyPeerMap peers => do
      Custom.applyPeerMap X env peers
      return none

/-- What the operation saves when it has loaded a state, if it gets that far. -/
def saved (X : Externals) (env : Env) (state : CustomBackendState) :
    StoreOperation → Option CustomBackendState
  | ensureCredentials =>
      match state.identity with
      | some _ => none
      | none => some { state with identity := some (generateIdentity X env) }
  | applyLocalConfig config => some { state with localConfig := some config }
  | applyPeerMap peers =>
      (peersToSessions X env.clock 0 peers).toOption.map fun peers => { state with peers }

/-- The two states differ in the field of the operation at most. -/
def OwnField (before after : CustomBackendState) : StoreOperation → Prop
  | ensureCredentials => { after with identity := before.identity } = before
  | applyLocalConfig _ => { after with localConfig := before.localConfig } = before
  | applyPeerMap _ => { after with peers := before.peers } = before

end StoreOperation

/-- The file holds the state, and so does the runtime. -/
structure Holds (state : CustomBackendState) (w : World) : Prop where
  file : w.other.file = .stored state
  persisted : w.mutex.value.persisted = state

/-- The identity in the file. -/
def StateFile.identity : StateFile → Option CustomIdentity
  | .stored state => state.identity
  | _ => none

/-- The keys of the identity in the file belong together. -/
def SoundIdentity (X : Externals) (file : StateFile) : Prop :=
  ∀ identity, file.identity = some identity →
    derivePublicCredential X identity.privateKey = .ok identity.publicKey

variable {X : Externals} {b : CustomBackend} {env : Env} {w w' : World} {op : StoreOperation}
  {state state' : CustomBackendState}

-- ============================================================================
-- What is saved
-- ============================================================================

theorem StoreOperation.ownField_saved (h : op.saved X env state = some state') :
    op.OwnField state state' := by
  cases op with
  | ensureCredentials =>
      simp only [saved] at h
      split at h
      · cases h
      · rename_i hidentity
        obtain rfl := Option.some.inj h
        show { state with identity := state.identity } = state
        rfl
  | applyLocalConfig config =>
      obtain rfl := Option.some.inj h
      rfl
  | applyPeerMap peers =>
      obtain ⟨sessions, -, rfl⟩ := Option.map_eq_some_iff.mp h
      rfl

/-- An identity that is there is not written again. -/
theorem StoreOperation.saved_identity {identity : CustomIdentity}
    (h : op.saved X env state = some state') (hidentity : state.identity = some identity) :
    state'.identity = some identity := by
  cases op with
  | ensureCredentials =>
      simp only [saved, hidentity] at h
      cases h
  | applyLocalConfig config =>
      obtain rfl := Option.some.inj h
      exact hidentity
  | applyPeerMap peers =>
      obtain ⟨sessions, -, rfl⟩ := Option.map_eq_some_iff.mp h
      exact hidentity

/-- The identity that is saved is the one that was there, or a generated one. -/
theorem StoreOperation.saved_sound (hX : X.Lawful)
    (h : op.saved X env state = some state')
    (hsound : SoundIdentity X (.stored state)) : SoundIdentity X (.stored state') := by
  intro identity hidentity
  cases op with
  | ensureCredentials =>
      simp only [saved] at h
      split at h
      · cases h
      · obtain rfl := Option.some.inj h
        obtain rfl := Option.some.inj hidentity
        rw [derivePublicCredential, generateIdentity, decodeKey_encode X hX]
        rfl
  | applyLocalConfig config =>
      obtain rfl := Option.some.inj h
      exact hsound identity hidentity
  | applyPeerMap peers =>
      obtain ⟨sessions, -, rfl⟩ := Option.map_eq_some_iff.mp h
      exact hsound identity hidentity

/-- The state that is loaded has the identity of the file. -/
theorem readState_identity {readError : Option String} {file : StateFile}
    (h : readState readError file = .ok state) : file.identity = state.identity := by
  cases file with
  | absent =>
      obtain rfl := Except.ok.inj h
      rfl
  | unparsable message => cases readError <;> cases h
  | stored stored => rw [readState_eq_stored h]; rfl

theorem soundIdentity_of_readState {readError : Option String} {file : StateFile}
    (h : readState readError file = .ok state) (hsound : SoundIdentity X file) :
    SoundIdentity X (.stored state) := by
  intro identity hidentity
  exact hsound identity ((readState_identity h).trans hidentity)

theorem holds_replaced (state : CustomBackendState) (w : World) :
    Holds state (replaced X env state w) := ⟨rfl, rfl⟩

-- ============================================================================
-- One operation
-- ============================================================================

/-- What the store and the lock are, whatever else happens to the runtime. -/
def storeOf (w : World) : StateFile × CustomBackendState × Bool :=
  (w.other.file, w.mutex.value.persisted, w.mutex.poisoned)

theorem leaves_storeOf_setUpTun (config : TunConfig) : Leaves storeOf (setUpTun b env config) :=
  leaves_setUpTun ⟨⟨fun _ => rfl, fun _ => rfl⟩, fun _ _ => rfl, fun _ _ _ => rfl⟩ (fun _ _ => rfl)
    (fun _ _ => rfl) (fun _ _ => rfl) config

section Runs

variable (hw : Ready w) (hsave : env.save = .written)
include hw

include hsave in
/-- `ensure_credentials` without an identity in the file. -/
theorem ensureCredentials_new (hread : readState (env.readError 0) w.other.file = .ok state)
    (hidentity : state.identity = none) :
    (ensureCredentials X env).run w =
      .ok (.ok ⟨(generateIdentity X env).publicKey⟩,
        replaced X env { state with identity := some (generateIdentity X env) } w) := by
  have hload : (loadState env 0).run w = .ok (.ok state, w) := by rw [loadState_run, hread]
  rw [ensureCredentials, bind_ok hload]
  simp only [hidentity]
  rw [bind_ok (replaceState_written hw hsave)]
  rfl

/-- `ensure_credentials` with an identity whose keys belong together. -/
theorem ensureCredentials_returns {identity : CustomIdentity}
    (hread : readState (env.readError 0) w.other.file = .ok state)
    (hidentity : state.identity = some identity)
    (hsound : derivePublicCredential X identity.privateKey = .ok identity.publicKey) :
    (ensureCredentials X env).run w =
      .ok (.ok ⟨identity.publicKey⟩, setValue w (RuntimeState.fromPersisted X env.salts state)) := by
  rw [ensureCredentials_stored hread hidentity hsound, locked, bind_ok (withLock_ready hw)]
  rfl

/-- With an identity in the file, `ensure_credentials` leaves the file alone. -/
theorem ensureCredentials_kept {identity : CustomIdentity} {r : Result BackendCredential}
    (hread : readState (env.readError 0) w.other.file = .ok state)
    (hidentity : state.identity = some identity)
    (h : (ensureCredentials X env).run w = .ok (r, w')) :
    Ready w' ∧ w'.other.file = w.other.file := by
  have hload : (loadState env 0).run w = .ok (.ok state, w) := by rw [loadState_run, hread]
  rw [ensureCredentials, bind_ok hload] at h
  simp only [hidentity] at h
  rcases bind_returned h with ⟨e, hderive, -⟩ | ⟨derived, w₁, hderive, h₁⟩
  · obtain ⟨-, rfl⟩ := Prod.mk.inj (Except.ok.inj hderive)
    exact ⟨hw, rfl⟩
  · obtain ⟨-, rfl⟩ := Prod.mk.inj (Except.ok.inj hderive)
    split at h₁
    · obtain ⟨-, rfl⟩ := Prod.mk.inj (Except.ok.inj h₁)
      exact ⟨hw, rfl⟩
    · rw [locked, bind_ok (withLock_ready hw)] at h₁
      obtain ⟨-, rfl⟩ := Prod.mk.inj (Except.ok.inj h₁)
      exact ⟨⟨hw.free, hw.sound⟩, rfl⟩

include hsave in
/-- `apply_peer_map` with credentials that are accepted. -/
theorem applyPeerMap_accepted {peers : List PeerConfig} {sessions : List StoredPeerSession}
    (hread : readState (env.readError 0) w.other.file = .ok state)
    (hsessions : peersToSessions X env.clock 0 peers = .ok sessions) :
    (applyPeerMap X env peers).run w =
      .ok (.ok (), replaced X env { state with peers := sessions } w) := by
  have hload : (loadState env 0).run w = .ok (.ok state, w) := by rw [loadState_run, hread]
  rw [applyPeerMap, bind_ok hload, hsessions, bind_ok (run_ofExcept _ _)]
  exact replaceState_written hw hsave

include hsave in
/-- What `apply_local_config` does after its save leaves file and runtime as saved. -/
theorem applyLocalConfig_returned {config : LocalBackendConfig} {r : Result Unit}
    (hread : readState (env.readError 0) w.other.file = .ok state)
    (h : (applyLocalConfig X b env config).run w = .ok (r, w')) :
    Ready w' ∧ Holds { state with localConfig := some config } w' := by
  have hload : (loadState env 0).run w = .ok (.ok state, w) := by rw [loadState_run, hread]
  have hready : Ready (replaced X env { state with localConfig := some config } w) :=
    ⟨hw.free, hw.sound⟩
  rw [applyLocalConfig, bind_ok hload, bind_ok (replaceState_written hw hsave)] at h
  rcases bind_returned h with ⟨e, hagain, -⟩ | ⟨reread, w₁, hagain, h₁⟩
  · rw [loadState_run] at hagain
    obtain ⟨-, rfl⟩ := Prod.mk.inj (Except.ok.inj hagain)
    exact ⟨hready, holds_replaced _ _⟩
  · rw [loadState_run] at hagain
    obtain ⟨-, rfl⟩ := Prod.mk.inj (Except.ok.inj hagain)
    cases hconfig : reread.localConfig with
    | none =>
        rw [hconfig] at h₁
        cases h₁
    | some config' =>
        rw [hconfig] at h₁
        have hfree := balanced_setUpTun _ _ _ _ h₁
        have hstore := leaves_storeOf_setUpTun _ _ _ _ h₁
        obtain ⟨hfile, hrest⟩ := Prod.mk.inj hstore
        obtain ⟨hpersisted, hpoisoned⟩ := Prod.mk.inj hrest
        exact ⟨⟨hfree.trans hready.free, hpoisoned.trans hready.sound⟩, hfile, hpersisted⟩

end Runs

/-- An operation saved its state, and file and runtime hold it; or it left the file as it
    was, having nothing to save. -/
inductive Effect (X : Externals) (env : Env) (op : StoreOperation) (w w' : World) : Prop where
  | saved {state state' : CustomBackendState}
      (hread : readState (env.readError 0) w.other.file = .ok state)
      (hsaved : op.saved X env state = some state') (hholds : Holds state' w')
  | kept (hfile : w'.other.file = w.other.file)
      (hnone : ∀ state, readState (env.readError 0) w.other.file = .ok state →
        op.saved X env state = none)

theorem Effect.unread {e : BackendError}
    (hread : readState (env.readError 0) w.other.file = .error e) : Effect X env op w w :=
  .kept rfl fun state hstate => by cases hread.symm.trans hstate

/-- The program of an operation returns as the operation does. -/
theorem returned_of_program {α β : Type} {m : BackendM α} {g : α → β} {r : Result β}
    (h : (do return g (← m) : BackendM β).run w = .ok (r, w')) :
    ∃ r', m.run w = .ok (r', w') ∧ r = r'.map g := by
  rcases bind_returned h with ⟨e, hm, rfl⟩ | ⟨a, w₁, hm, hrest⟩
  · exact ⟨.error e, hm, rfl⟩
  · obtain ⟨rfl, rfl⟩ := Prod.mk.inj (Except.ok.inj hrest)
    exact ⟨.ok a, hm, rfl⟩

/-- **One operation.** -/
theorem operation_returned {r : Result (Option BackendCredential)} (hw : Ready w)
    (hsave : env.save = .written) (h : (op.program X b env).run w = .ok (r, w')) :
    Ready w' ∧ Effect X env op w w' := by
  have hload := loadState_run env 0 w
  cases hread : readState (env.readError 0) w.other.file with
  | error e =>
      rw [hread] at hload
      have hsame : w' = w := by
        cases op with
        | ensureCredentials =>
            obtain ⟨r', hrun, -⟩ := returned_of_program h
            rw [ensureCredentials, bind_error hload] at hrun
            exact (Prod.mk.inj (Except.ok.inj hrun)).2.symm
        | applyLocalConfig config =>
            obtain ⟨r', hrun, -⟩ := returned_of_program h
            rw [applyLocalConfig, bind_error hload] at hrun
            exact (Prod.mk.inj (Except.ok.inj hrun)).2.symm
        | applyPeerMap peers =>
            obtain ⟨r', hrun, -⟩ := returned_of_program h
            rw [applyPeerMap, bind_error hload] at hrun
            exact (Prod.mk.inj (Except.ok.inj hrun)).2.symm
      rw [hsame]
      exact ⟨hw, .unread hread⟩
  | ok state =>
      rw [hread] at hload
      cases op with
      | ensureCredentials =>
          obtain ⟨r', hrun, -⟩ := returned_of_program h
          cases hidentity : state.identity with
          | none =>
              rw [ensureCredentials_new hw hsave hread hidentity] at hrun
              obtain ⟨-, rfl⟩ := Prod.mk.inj (Except.ok.inj hrun)
              refine ⟨⟨hw.free, hw.sound⟩, .saved hread ?_ (holds_replaced _ _)⟩
              simp only [StoreOperation.saved, hidentity]
          | some identity =>
              obtain ⟨hready, hfile⟩ := ensureCredentials_kept hw hread hidentity hrun
              refine ⟨hready, .kept hfile fun state' hread' => ?_⟩
              obtain rfl := Except.ok.inj (hread.symm.trans hread')
              simp only [StoreOperation.saved, hidentity]
      | applyLocalConfig config =>
          obtain ⟨r', hrun, -⟩ := returned_of_program h
          obtain ⟨hready, hholds⟩ := applyLocalConfig_returned hw hsave hread hrun
          exact ⟨hready, .saved hread rfl hholds⟩
      | applyPeerMap peers =>
          obtain ⟨r', hrun, -⟩ := returned_of_program h
          cases hsessions : peersToSessions X env.clock 0 peers with
          | error e =>
              rw [applyPeerMap, bind_ok hload, hsessions] at hrun
              obtain ⟨-, rfl⟩ := Prod.mk.inj (Except.ok.inj hrun)
              refine ⟨hw, .kept rfl fun state _ => ?_⟩
              rw [StoreOperation.saved, hsessions]
              rfl
          | ok sessions =>
              rw [applyPeerMap_accepted hw hsave hread hsessions] at hrun
              obtain ⟨-, rfl⟩ := Prod.mk.inj (Except.ok.inj hrun)
              refine ⟨⟨hw.free, hw.sound⟩, .saved hread ?_ (holds_replaced _ _)⟩
              rw [StoreOperation.saved, hsessions]
              rfl

-- ============================================================================
-- Runs
-- ============================================================================

/-- One operation of a run, with the answers of the operating system to it; a run goes on
    when the operation has returned. -/
def StoreOperation.step (X : Externals) (b : CustomBackend) (w : World)
    (call : Env × StoreOperation) : Option World :=
  match (call.2.program X b call.1).run w with
  | .ok (_, w') => some w'
  | .error _ => none

/-- What every operation of a run finds: the lock is free, and the identity is sound. -/
structure StoreInv (X : Externals) (w : World) : Prop where
  ready : Ready w
  sound : SoundIdentity X w.other.file

/-- An operation keeps the identity that is in the file. -/
theorem Effect.identity {identity : CustomIdentity} (h : Effect X env op w w')
    (hidentity : w.other.file.identity = some identity) :
    w'.other.file.identity = some identity := by
  cases h with
  | saved hread hsaved hholds =>
      rw [hholds.file]
      exact op.saved_identity hsaved ((readState_identity hread).symm.trans hidentity)
  | kept hfile hnone => rw [hfile, hidentity]

theorem Effect.sound (hX : X.Lawful) (h : Effect X env op w w')
    (hsound : SoundIdentity X w.other.file) : SoundIdentity X w'.other.file := by
  cases h with
  | saved hread hsaved hholds =>
      rw [hholds.file]
      exact op.saved_sound hX hsaved (soundIdentity_of_readState hread hsound)
  | kept hfile hnone =>
      rw [hfile]
      exact hsound

theorem step_returned {call : Env × StoreOperation}
    (h : StoreOperation.step X b w call = some w') :
    ∃ r, (call.2.program X b call.1).run w = .ok (r, w') := by
  simp only [StoreOperation.step] at h
  split at h
  · rename_i r w₁ hrun
    obtain rfl := Option.some.inj h
    exact ⟨r, hrun⟩
  · cases h

/-- A whole run keeps the invariant, and the identity that is in the file. -/
theorem storeInv_of_run (hX : X.Lawful) {w₀ : World} {calls : List (Env × StoreOperation)}
    (hsaves : ∀ call ∈ calls, call.1.save = .written) (h₀ : StoreInv X w₀)
    (hrun : run (StoreOperation.step X b) w₀ calls = some w) :
    StoreInv X w ∧ ∀ identity, w₀.other.file.identity = some identity →
      w.other.file.identity = some identity := by
  induction calls generalizing w₀ with
  | nil =>
      obtain rfl : w₀ = w := Option.some.inj hrun
      exact ⟨h₀, fun _ hidentity => hidentity⟩
  | cons call calls ih =>
      obtain ⟨w₁, hstep, hrest⟩ := run_cons_eq_some.mp hrun
      obtain ⟨r, hreturned⟩ := step_returned hstep
      obtain ⟨hready, heffect⟩ :=
        operation_returned h₀.ready (hsaves call List.mem_cons_self) hreturned
      obtain ⟨hinv, hkept⟩ := ih (fun c hc => hsaves c (List.mem_cons_of_mem _ hc))
        ⟨hready, heffect.sound hX h₀.sound⟩ hrest
      exact ⟨hinv, fun identity hidentity => hkept identity (heffect.identity hidentity)⟩

-- ============================================================================
-- Crypto material
-- ============================================================================

/-- Every peer that is accepted is stored under its device id with its credential. -/
theorem mem_of_peersToSessions {clock : Nat → SystemTime} {i : Nat} {peers : List PeerConfig}
    {sessions : List StoredPeerSession} (h : peersToSessions X clock i peers = .ok sessions) :
    ∀ peer ∈ peers, ∃ session ∈ sessions, session.deviceId = peer.deviceId := by
  induction peers generalizing i sessions with
  | nil =>
      intro peer hmem
      cases hmem
  | cons first peers ih =>
      obtain ⟨session, hsession, hothers⟩ := Result.bind_eq_ok.mp h
      obtain ⟨rest, hrest, heq⟩ := Result.bind_eq_ok.mp hothers
      obtain rfl := Except.ok.inj heq
      obtain ⟨_, -, heq⟩ := Result.bind_eq_ok.mp hsession
      obtain rfl := Except.ok.inj heq
      intro peer hmem
      rcases List.mem_cons.mp hmem with rfl | hmem
      · exact ⟨_, List.mem_cons_self, rfl⟩
      · obtain ⟨session, hsession, hdevice⟩ := ih hrest peer hmem
        exact ⟨session, List.mem_cons_of_mem _ hsession, hdevice⟩

/-- A stored peer with a readable credential has crypto material. -/
theorem mem_cryptoMaterial (salts : Salts) (state : CustomBackendState)
    {session : StoredPeerSession} (hmem : session ∈ state.peers)
    (hcredential : session.Credentialed X) :
    session.deviceId ∈ (RuntimeState.fromPersisted X salts state).peerCryptoMaterialByDevice := by
  obtain ⟨key, hkey⟩ := hcredential
  refine HashMap.mem_ofPairs.mpr (List.mem_map.mpr ⟨(session.deviceId, key), ?_, rfl⟩)
  refine List.mem_filterMap.mpr ⟨session, hmem, ?_⟩
  rw [hkey]
  rfl

-- ============================================================================
-- The store
-- ============================================================================

/-- What the operations do to the store from a given world. -/
structure StoreContract (X : Externals) (b : CustomBackend) (env : Env) (w : World) : Prop where
  /-- an operation that has something to save writes its own field only; file and runtime
      hold the new state at the save, and when the operation returns, whatever its result -/
  saves : ∀ (op : StoreOperation) state state', readState (env.readError 0) w.other.file = .ok state →
    op.saved X env state = some state' →
      op.OwnField state state' ∧
      (∃ w₁, (replaceState X env state').run w = .ok (.ok (), w₁) ∧ Holds state' w₁) ∧
      ∀ r w', (op.program X b env).run w = .ok (r, w') → Holds state' w'
  /-- an operation that has nothing to save leaves the file as it is -/
  kept : ∀ (op : StoreOperation) r w', (op.program X b env).run w = .ok (r, w') →
    (∀ state, readState (env.readError 0) w.other.file = .ok state → op.saved X env state = none) →
      w'.other.file = w.other.file
  /-- an identity that is stored stays -/
  identity : ∀ (op : StoreOperation) r w', (op.program X b env).run w = .ok (r, w') →
    ∀ identity, w.other.file.identity = some identity → w'.other.file.identity = some identity
  /-- `ensure_credentials` returns the credential of the identity that is then stored -/
  credentials : ∀ state, readState (env.readError 0) w.other.file = .ok state →
    ∃ identity state' w', (ensureCredentials X env).run w = .ok (.ok ⟨identity.publicKey⟩, w') ∧
      Holds state' w' ∧ state'.identity = some identity ∧
      ∀ stored, w.other.file.identity = some stored → identity = stored
  /-- a list with an invalid credential is refused and changes nothing -/
  refused : ∀ peers : List PeerConfig,
    (∃ peer ∈ peers, ∃ e,
      validatePublicCredential X peer.publicCredential.publicCredential = .error e) →
      ∃ e, (applyPeerMap X env peers).run w = .ok (.error e, w)
  /-- a list that is accepted gives crypto material for every peer -/
  accepted : ∀ peers w', (applyPeerMap X env peers).run w = .ok (.ok (), w') →
    ∀ peer ∈ peers, peer.deviceId ∈ w'.mutex.value.peerCryptoMaterialByDevice

theorem accepted_material {peers : List PeerConfig} (hw : Ready w)
    (h : (applyPeerMap X env peers).run w = .ok (.ok (), w')) :
    ∀ peer ∈ peers, peer.deviceId ∈ w'.mutex.value.peerCryptoMaterialByDevice := by
  obtain ⟨state, w₁, hload, h₁⟩ := bind_eq_ok h
  rw [loadState_run] at hload
  obtain ⟨-, rfl⟩ := Prod.mk.inj (Except.ok.inj hload)
  obtain ⟨sessions, w₂, hrun, h₂⟩ := bind_eq_ok h₁
  obtain ⟨hsessions, rfl⟩ := Prod.mk.inj (Except.ok.inj hrun)
  obtain ⟨-, -, rfl⟩ := replaceState_eq_ok hw.free h₂
  intro peer hmem
  obtain ⟨session, hsession, hdevice⟩ := mem_of_peersToSessions hsessions peer hmem
  rw [← hdevice]
  exact mem_cryptoMaterial env.salts { state with peers := sessions } hsession
    (peersToSessions_credentialed hsessions session hsession)

theorem storeContract (hinv : StoreInv X w) (hsave : env.save = .written) :
    StoreContract X b env w where
  saves op state state' hread hsaved := by
    refine ⟨op.ownField_saved hsaved, ⟨_, replaceState_written hinv.ready hsave,
      holds_replaced _ _⟩, fun r w' hrun => ?_⟩
    obtain ⟨-, heffect⟩ := operation_returned hinv.ready hsave hrun
    cases heffect with
    | saved hread' hsaved' hholds =>
        obtain rfl := Except.ok.inj (hread.symm.trans hread')
        obtain rfl := Option.some.inj (hsaved.symm.trans hsaved')
        exact hholds
    | kept hfile hnone => cases hsaved.symm.trans (hnone state hread)
  kept op r w' hrun hnone := by
    obtain ⟨-, heffect⟩ := operation_returned hinv.ready hsave hrun
    cases heffect with
    | saved hread hsaved hholds => cases hsaved.symm.trans (hnone _ hread)
    | kept hfile hnone' => exact hfile
  identity op r w' hrun identity hidentity :=
    (operation_returned hinv.ready hsave hrun).2.identity hidentity
  credentials state hread := by
    have hfile := readState_identity hread
    cases hidentity : state.identity with
    | none =>
        refine ⟨generateIdentity X env, _, _, ensureCredentials_new hinv.ready hsave hread hidentity,
          holds_replaced _ _, rfl, fun stored hstored => ?_⟩
        rw [hfile, hidentity] at hstored
        cases hstored
    | some identity =>
        have hsound := hinv.sound identity (hfile.trans hidentity)
        refine ⟨identity, state, _, ensureCredentials_returns hinv.ready hread hidentity hsound,
          ⟨?_, rfl⟩, hidentity, fun stored hstored => ?_⟩
        · -- only a stored state has an identity
          cases hcase : w.other.file with
          | absent =>
              rw [hcase] at hfile
              cases hfile.trans hidentity
          | unparsable message =>
              rw [hcase] at hfile
              cases hfile.trans hidentity
          | stored stored =>
              rw [hcase] at hread
              rw [readState_eq_stored hread]
              exact hcase
        · rw [hfile, hidentity] at hstored
          exact Option.some.inj hstored
  refused peers hbad := applyPeerMap_refused env w hbad
  accepted peers w' hrun := accepted_material hinv.ready hrun

/-- **The state store.**  In every run of `ensure_credentials`, `apply_local_config` and
    `apply_peer_map` whose writes succeed, from a world in which the lock is free and the
    keys of a stored identity belong together, the identity of the start is still stored,
    and every next operation whose write succeeds meets the contract of the store. -/
theorem state_store_contract (X : Externals) (hX : X.Lawful) (b : CustomBackend) (w₀ w : World)
    (h₀ : StoreInv X w₀) (calls : List (Env × StoreOperation))
    (hsaves : ∀ call ∈ calls, call.1.save = .written)
    (hrun : run (StoreOperation.step X b) w₀ calls = some w) :
    (∀ identity, w₀.other.file.identity = some identity →
      w.other.file.identity = some identity) ∧
    ∀ env : Env, env.save = .written → StoreContract X b env w := by
  obtain ⟨hinv, hkept⟩ := storeInv_of_run hX hsaves h₀ hrun
  exact ⟨hkept, fun env hsave => storeContract hinv hsave⟩

namespace Reference

/-- A new device is set up: credentials, the configuration and one peer. -/
def setUpCalls : List (Env × StoreOperation) :=
  [(Reference.env, .ensureCredentials), (Reference.env, .applyLocalConfig localConfig),
   (Reference.env, .applyPeerMap [⟨"dev_00000000000000000000000000000002", "b", ⟨100, 64, 0, 3⟩,
     ⟨credential 2⟩, [], []⟩])]

/-- The backend with the TUN setup switched off. -/
def quietBackend : CustomBackend := ⟨"tfscale0", false⟩

/-- The world after the setup. -/
def setUpWorld : World :=
  (run (StoreOperation.step Externals.reference quietBackend) freshWorld setUpCalls).getD freshWorld

end Reference

open Reference in
/-- The device that has been set up has an identity and one peer, and goes on by the
    contract. -/
theorem state_store_contract_set_up :
    (∃ state, setUpWorld.other.file = .stored state ∧ state.identity.isSome ∧
      state.peers.length = 1) ∧
    StoreContract Externals.reference quietBackend Reference.env setUpWorld := by
  have hreturned : (run (StoreOperation.step Externals.reference quietBackend) freshWorld
      setUpCalls).isSome := by decide +kernel
  obtain ⟨w, hrun⟩ := Option.isSome_iff_exists.mp hreturned
  have hworld : setUpWorld = w := by
    rw [setUpWorld, hrun]
    rfl
  have hinv : StoreInv Externals.reference freshWorld := ⟨⟨rfl, rfl⟩, nofun⟩
  have hsaves : ∀ call ∈ setUpCalls, call.1.save = .written := by
    intro call hmem
    simp only [setUpCalls, List.mem_cons, List.not_mem_nil, or_false] at hmem
    rcases hmem with rfl | rfl | rfl <;> rfl
  have hstored : ∃ state, setUpWorld.other.file = .stored state ∧ state.identity.isSome ∧
      state.peers.length = 1 := by
    refine ⟨setUpWorld.mutex.value.persisted, ?_, ?_, ?_⟩ <;> decide +kernel
  refine ⟨hstored, ?_⟩
  rw [hworld]
  exact (state_store_contract Externals.reference Externals.reference_lawful quietBackend freshWorld
    w hinv setUpCalls hsaves hrun).2 Reference.env rfl

end TfScale.Custom
