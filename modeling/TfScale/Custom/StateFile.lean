/-
  TfScale.Custom.StateFile

  What an operation leaves in the state file, whatever becomes of it.

  `save_state` writes another file and renames it, so the state file is what it was, or the
  state that the operation saves; also when saving or a later step fails, and when the
  process is killed in between.  The identity of a file is therefore never lost, and
  `ensure_credentials` returns the credential of the identity that is in the file.
-/

import TfScale.Custom.StateStore

namespace TfScale.Custom

open ThreadM

variable {X : Externals} {b : CustomBackend} {env : Env} {w w' : World} {op : StoreOperation}
  {file file' : StateFile} {state : CustomBackendState}

/-- The file is as it was, or it holds what the operation saves. -/
def LeavesFile (X : Externals) (env : Env) (op : StoreOperation) (file file' : StateFile) : Prop :=
  file' = file ∨ ∃ state state', readState (env.readError 0) file = .ok state ∧
    op.saved X env state = some state' ∧ file' = .stored state'

theorem LeavesFile.identity {identity : CustomIdentity} (h : LeavesFile X env op file file')
    (hidentity : file.identity = some identity) : file'.identity = some identity := by
  rcases h with rfl | ⟨state, state', hread, hsaved, rfl⟩
  · exact hidentity
  · exact op.saved_identity hsaved ((readState_identity hread).symm.trans hidentity)

theorem LeavesFile.sound (hX : X.Lawful) (h : LeavesFile X env op file file')
    (hsound : SoundIdentity X file) : SoundIdentity X file' := by
  rcases h with rfl | ⟨state, state', hread, hsaved, rfl⟩
  · exact hsound
  · exact op.saved_sound hX hsaved (soundIdentity_of_readState hread hsound)

-- ============================================================================
-- Programs
-- ============================================================================

/-- `replace_state`: the file is as it was, or it holds the new state. -/
theorem replaceState_file {r : Result Unit} (h : (replaceState X env state).run w = .ok (r, w')) :
    w'.other.file = w.other.file ∨ w'.other.file = .stored state := by
  have hsave : ∀ {r : Result Unit} {w₁ : World}, (saveState env state).run w = .ok (r, w₁) →
      w₁.other.file = w.other.file ∨ w₁.other.file = .stored state := by
    intro r w₁ hrun
    rw [saveState, run_other] at hrun
    obtain ⟨-, rfl⟩ := Prod.mk.inj (Except.ok.inj hrun)
    cases env.save with
    | written => exact Or.inr rfl
    | failed message => exact Or.inl rfl
    | unprotected message => exact Or.inr rfl
  rcases bind_returned h with ⟨e, hfailed, -⟩ | ⟨_, w₁, hsaved, hlocked⟩
  · exact hsave hfailed
  · rw [show w'.other.file = w₁.other.file from keeps_locked _ _ _ _ hlocked]
    exact hsave hsaved

/-- An operation that starts by loading the state and, if it saves, goes on with
    `replace_state`. -/
theorem leavesFile_of_replaced {α : Type} {state' : CustomBackendState} {rest : Unit → BackendM α}
    {r : Result α} (hread : readState (env.readError 0) w.other.file = .ok state)
    (hsaved : op.saved X env state = some state') (hrest : ∀ u, Keeps Machine.file (rest u))
    (h : (replaceState X env state' >>= rest).run w = .ok (r, w')) :
    LeavesFile X env op w.other.file w'.other.file := by
  have hfile : w'.other.file = w.other.file ∨ w'.other.file = .stored state' := by
    rcases bind_returned h with ⟨e, hfailed, -⟩ | ⟨u, w₁, hreplaced, hafter⟩
    · exact replaceState_file hfailed
    · rw [show w'.other.file = w₁.other.file from hrest u _ _ _ hafter]
      exact replaceState_file hreplaced
  rcases hfile with hsame | hstored
  · exact Or.inl hsame
  · exact Or.inr ⟨state, state', hread, hsaved, hstored⟩

theorem leavesFile_ensureCredentials {r : Result BackendCredential}
    (h : (ensureCredentials X env).run w = .ok (r, w')) :
    LeavesFile X env .ensureCredentials w.other.file w'.other.file := by
  rcases bind_returned h with ⟨e, hload, -⟩ | ⟨state, w₁, hload, h₁⟩
  · obtain ⟨-, rfl⟩ := Prod.mk.inj (Except.ok.inj hload)
    exact Or.inl rfl
  · rw [loadState_run] at hload
    obtain ⟨hread, rfl⟩ := Prod.mk.inj (Except.ok.inj hload)
    cases hidentity : state.identity with
    | none =>
        rw [hidentity] at h₁
        refine leavesFile_of_replaced hread ?_ (fun _ => leaves_ofExcept _) h₁
        rw [StoreOperation.saved, hidentity]
    | some identity =>
        -- nothing is saved
        rw [hidentity] at h₁
        refine Or.inl ?_
        rcases bind_returned h₁ with ⟨e, hderive, -⟩ | ⟨derived, w₂, hderive, h₂⟩
        · obtain ⟨-, rfl⟩ := Prod.mk.inj (Except.ok.inj hderive)
          rfl
        · obtain ⟨-, rfl⟩ := Prod.mk.inj (Except.ok.inj hderive)
          split at h₂
          · obtain ⟨-, rfl⟩ := Prod.mk.inj (Except.ok.inj h₂)
            rfl
          · exact Leaves.bind (keeps_locked _) (fun _ => leaves_ofExcept _) _ _ _ h₂

theorem leavesFile_applyLocalConfig {config : LocalBackendConfig} {r : Result Unit}
    (h : (applyLocalConfig X b env config).run w = .ok (r, w')) :
    LeavesFile X env (.applyLocalConfig config) w.other.file w'.other.file := by
  rcases bind_returned h with ⟨e, hload, -⟩ | ⟨state, w₁, hload, h₁⟩
  · obtain ⟨-, rfl⟩ := Prod.mk.inj (Except.ok.inj hload)
    exact Or.inl rfl
  · rw [loadState_run] at hload
    obtain ⟨hread, rfl⟩ := Prod.mk.inj (Except.ok.inj hload)
    refine leavesFile_of_replaced hread rfl (fun _ => ?_) h₁
    refine Leaves.bind (leaves_other fun _ => rfl) fun reread => ?_
    cases reread.localConfig with
    | none => exact fun _ _ _ hhalt => by cases hhalt
    | some config' => exact keeps_setUpTun _

theorem leavesFile_applyPeerMap {peers : List PeerConfig} {r : Result Unit}
    (h : (applyPeerMap X env peers).run w = .ok (r, w')) :
    LeavesFile X env (.applyPeerMap peers) w.other.file w'.other.file := by
  rcases bind_returned h with ⟨e, hload, -⟩ | ⟨state, w₁, hload, h₁⟩
  · obtain ⟨-, rfl⟩ := Prod.mk.inj (Except.ok.inj hload)
    exact Or.inl rfl
  · rw [loadState_run] at hload
    obtain ⟨hread, rfl⟩ := Prod.mk.inj (Except.ok.inj hload)
    rcases bind_returned h₁ with ⟨e, hsessions, -⟩ | ⟨sessions, w₂, hsessions, h₂⟩
    · obtain ⟨-, rfl⟩ := Prod.mk.inj (Except.ok.inj hsessions)
      exact Or.inl rfl
    · obtain ⟨hok, rfl⟩ := Prod.mk.inj (Except.ok.inj hsessions)
      rcases replaceState_file h₂ with hsame | hstored
      · exact Or.inl hsame
      · refine Or.inr ⟨state, _, hread, ?_, hstored⟩
        rw [StoreOperation.saved, hok]
        rfl

/-- Every operation that returns leaves the file so. -/
theorem leavesFile_of_returned {r : Result (Option BackendCredential)}
    (h : (op.program X b env).run w = .ok (r, w')) :
    LeavesFile X env op w.other.file w'.other.file := by
  cases op with
  | ensureCredentials =>
      obtain ⟨_, hrun, -⟩ := returned_of_program h
      exact leavesFile_ensureCredentials hrun
  | applyLocalConfig config =>
      obtain ⟨_, hrun, -⟩ := returned_of_program h
      exact leavesFile_applyLocalConfig hrun
  | applyPeerMap peers =>
      obtain ⟨_, hrun, -⟩ := returned_of_program h
      exact leavesFile_applyPeerMap hrun

/-- The credential that `ensure_credentials` returns is that of the identity in the file. -/
theorem ensureCredentials_returned {credential : BackendCredential}
    (h : (ensureCredentials X env).run w = .ok (.ok credential, w')) :
    ∃ identity, w'.other.file.identity = some identity ∧
      credential.publicCredential = identity.publicKey := by
  obtain ⟨state, w₁, hload, h₁⟩ := bind_eq_ok h
  rw [loadState_run] at hload
  obtain ⟨hread, rfl⟩ := Prod.mk.inj (Except.ok.inj hload)
  cases hidentity : state.identity with
  | none =>
      rw [hidentity] at h₁
      obtain ⟨_, w₂, hreplaced, h₂⟩ := bind_eq_ok h₁
      obtain ⟨hcredential, rfl⟩ := Prod.mk.inj (Except.ok.inj h₂)
      obtain rfl := Except.ok.inj hcredential
      refine ⟨generateIdentity X env, ?_, rfl⟩
      obtain ⟨_, w₃, hsaved, hlocked⟩ := bind_eq_ok hreplaced
      have hkept : w₂.other.file = w₃.other.file := keeps_locked _ _ _ _ hlocked
      rw [hkept]
      rw [saveState, run_other] at hsaved
      obtain ⟨hok, rfl⟩ := Prod.mk.inj (Except.ok.inj hsaved)
      cases hsave : env.save with
      | written => rfl
      | failed message =>
          rw [hsave] at hok
          cases hok
      | unprotected message =>
          rw [hsave] at hok
          cases hok
  | some identity =>
      rw [hidentity] at h₁
      obtain ⟨derived, w₂, hderive, h₂⟩ := bind_eq_ok h₁
      obtain ⟨-, rfl⟩ := Prod.mk.inj (Except.ok.inj hderive)
      split at h₂
      · cases h₂
      · obtain ⟨_, w₃, hlocked, h₃⟩ := bind_eq_ok h₂
        obtain ⟨hcredential, rfl⟩ := Prod.mk.inj (Except.ok.inj h₃)
        obtain rfl := Except.ok.inj hcredential
        refine ⟨identity, ?_, rfl⟩
        have hkept := keeps_locked _ _ _ _ hlocked
        rw [hkept]
        exact (readState_identity hread).trans hidentity

end TfScale.Custom
