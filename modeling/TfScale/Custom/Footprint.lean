/-
  TfScale.Custom.Footprint

  What the operations of the backend leave alone.

  Setting up the interface writes to the transport, the handle of the workers, the status
  and the device (`leaves_setUpTun`), so it leaves the state file and whatever else of the
  runtime is none of these.  A peer list with a credential that is refused leaves the whole
  world alone (`applyPeerMap_refused`).
-/

import TfScale.Custom.Backend

namespace TfScale.Custom

open ThreadM

variable {X : Externals} {b : CustomBackend} {env : Env}

-- ============================================================================
-- Setting up the interface
-- ============================================================================

theorem leaves_locked {γ α : Type} {g : World → γ} (hlock : IgnoresLock g)
    {f : RuntimeState → Result α × RuntimeState} (hf : ∀ w, g (setValue w (f w.mutex.value).2) = g w) :
    Leaves g (locked f) :=
  (leaves_protect hf).withGuard hlock

theorem keeps_locked {α : Type} (f : RuntimeState → Result α × RuntimeState) :
    Keeps Machine.file (locked f) :=
  leaves_locked ⟨fun _ => rfl, fun _ => rfl⟩ fun _ => rfl

theorem balanced_locked {α : Type} (f : RuntimeState → Result α × RuntimeState) :
    Balanced (locked f) := by
  unfold locked withLock
  exact balanced_withGuard _ _

/-- `g` reads neither the lock, nor the handle of the workers, nor which of them run. -/
structure IgnoresWorkers {γ : Type} (g : World → γ) : Prop where
  lock : IgnoresLock g
  tasks : ∀ w t, g (setValue w (w.mutex.value.withTasks t)) = g w
  machine : ∀ w nextFlag running, g { w with other := { w.other with nextFlag, running } } = g w

section Leaves

variable {γ : Type} {g : World → γ}

theorem leaves_stopTransportTasks (h : IgnoresWorkers g) : Leaves g stopTransportTasks := by
  refine (leaves_locked h.lock fun w => h.tasks w none).bind fun tasks => ?_
  cases tasks with
  | none => exact leaves_ofExcept _
  | some tasks => exact leaves_other fun w => h.machine w _ _

theorem leaves_startTransportTasks (h : IgnoresWorkers g) : Leaves g startTransportTasks := by
  refine ((leaves_protect fun _ => rfl).bind fun rt => ?_).withGuard h.lock
  split
  · exact leaves_ofExcept _
  · refine Leaves.bind ?_ fun tasks => leaves_protect fun w => h.tasks w (some tasks)
    refine Leaves.bind (leaves_other fun w => h.machine w _ _) fun _ =>
      Leaves.bind ?_ fun _ => leaves_ofExcept _
    refine (leaves_locked h.lock fun _ => rfl).attempt.bind fun target => ?_
    cases target <;> exact leaves_ofExcept _

theorem leaves_bindTransport (h : IgnoresWorkers g)
    (htransport : ∀ w t, g (setValue w (w.mutex.value.withTransport t)) = g w) (listenPort : UInt16) :
    Leaves g (bindTransport env listenPort) :=
  (leaves_stopTransportTasks h).bind fun _ => (leaves_locked h.lock fun w => htransport w none).bind fun _ =>
    (leaves_ofExcept _).bind fun t => (leaves_locked h.lock fun w => htransport w (some t)).bind fun _ =>
      leaves_startTransportTasks h

/-- Setting up the interface leaves alone what has nothing to do with it. -/
theorem leaves_setUpTun (h : IgnoresWorkers g)
    (htransport : ∀ w t, g (setValue w (w.mutex.value.withTransport t)) = g w)
    (hstatus : ∀ w s, g (setValue w (w.mutex.value.withTunStatus s)) = g w)
    (hdevice : ∀ w d, g (setValue w (w.mutex.value.withTunDevice d)) = g w) (config : TunConfig) :
    Leaves g (setUpTun b env config) := by
  have hset : ∀ status, Leaves g (setTunStatus status) :=
    fun status => leaves_locked h.lock fun w => hstatus w status
  unfold setUpTun
  split
  · exact (leaves_bindTransport h htransport _).bind fun _ => hset _
  · split
    · refine Leaves.bind ?_ fun _ => leaves_bindTransport h htransport _
      refine (leaves_locked h.lock fun w => ?_).bind fun _ => leaves_startTransportTasks h
      exact (hdevice (setValue w (w.mutex.value.withTunStatus _)) _).trans (hstatus w _)
    · exact (hset _).bind fun _ => leaves_ofExcept _

end Leaves

/-- Setting up the interface leaves the state file alone. -/
theorem keeps_setUpTun (config : TunConfig) : Keeps Machine.file (setUpTun b env config) :=
  leaves_setUpTun ⟨⟨fun _ => rfl, fun _ => rfl⟩, fun _ _ => rfl, fun _ _ _ => rfl⟩ (fun _ _ => rfl)
    (fun _ _ => rfl) (fun _ _ => rfl) config

theorem balanced_bindTransport (listenPort : UInt16) : Balanced (bindTransport env listenPort) := by
  refine Balanced.bind ?_ fun _ => (balanced_locked _).bind fun _ =>
    (balanced_ofExcept _).bind fun _ => (balanced_locked _).bind fun _ => balanced_withGuard _ _
  refine (balanced_locked _).bind fun tasks => ?_
  cases tasks with
  | none => exact balanced_ofExcept _
  | some tasks => exact balanced_other _

theorem balanced_setUpTun (config : TunConfig) : Balanced (setUpTun b env config) := by
  unfold setUpTun
  split
  · exact (balanced_bindTransport _).bind fun _ => balanced_locked _
  · split
    · exact ((balanced_locked _).bind fun _ => balanced_withGuard _ _).bind fun _ =>
        balanced_bindTransport _
    · exact (balanced_locked _).bind fun _ => balanced_ofExcept _

-- ============================================================================
-- Reading and refusing
-- ============================================================================

/-- What is read from the file is what was stored. -/
theorem readState_eq_stored {readError : Option String} {persisted persisted' : CustomBackendState}
    (h : readState readError (.stored persisted) = .ok persisted') : persisted' = persisted := by
  cases readError with
  | some error => cases h
  | none =>
      obtain ⟨_, -, heq⟩ := Result.bind_eq_ok.mp h
      exact (Except.ok.inj heq).symm

theorem peersToSessions_refused (clock : Nat → SystemTime) {peers : List PeerConfig}
    (h : ∃ peer ∈ peers, ∃ e, validatePublicCredential X peer.publicCredential.publicCredential = .error e)
    (i : Nat) : ∃ e, peersToSessions X clock i peers = .error e := by
  induction peers generalizing i with
  | nil =>
      obtain ⟨peer, hmem, -⟩ := h
      cases hmem
  | cons peer peers ih =>
      unfold peersToSessions
      cases hsession : peerToSession X (clock i) peer with
      | error e => exact ⟨e, rfl⟩
      | ok session =>
          obtain ⟨bad, hmem, e, hbad⟩ := h
          rcases List.mem_cons.mp hmem with rfl | hrest
          · obtain ⟨u, hvalid, -⟩ := Result.bind_eq_ok.mp hsession
            cases hbad.symm.trans hvalid
          · obtain ⟨e', he'⟩ := ih ⟨bad, hrest, e, hbad⟩ (i + 1)
            exact ⟨e', by rw [he']; rfl⟩

/-- A refused credential leaves the world alone. -/
theorem applyPeerMap_refused (env : Env) (w : World) {peers : List PeerConfig}
    (h : ∃ peer ∈ peers, ∃ e, validatePublicCredential X peer.publicCredential.publicCredential = .error e) :
    ∃ e, (applyPeerMap X env peers).run w = .ok (.error e, w) := by
  have hload := loadState_run env 0 w
  cases hread : readState (env.readError 0) w.other.file with
  | error e =>
      rw [hread] at hload
      exact ⟨e, by rw [applyPeerMap, bind_error hload]⟩
  | ok persisted =>
      rw [hread] at hload
      obtain ⟨e, hsessions⟩ := peersToSessions_refused env.clock h 0
      exact ⟨e, by rw [applyPeerMap, bind_ok hload, hsessions]; rfl⟩

end TfScale.Custom
