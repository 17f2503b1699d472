/-
  TfScale.Custom.Locking

  Which operations of the backend try to take the runtime lock while they hold it.

  `start_transport_tasks` calls `TransportTasks::start` with its guard alive, and
  `spawn_relay_to_tun_loop` takes the same lock to read its parameters.  So the
  calling thread deadlocks on itself exactly when that call is reached: when no
  tasks run and both a TUN device and a transport are there.  Every other
  critical section is a single statement.
-/

import TfScale.Custom.Status

namespace TfScale.Custom

open ThreadM

/-- The operations of `NetworkBackend`. -/
inductive Operation where
  | ensureCredentials
  | applyLocalConfig (config : LocalBackendConfig)
  | applyRelayMap (relays : List RelayConfig)
  | applyPeerMap (peers : List PeerConfig)
  | localEndpoints
  | probePublicEndpoint (probeServer : SocketAddr) (timeout : Duration)
  | maintainPeerPaths
  | status
  | shutdown

/-- An operation as a program, its result dropped. -/
def Operation.run (X : Externals) (b : CustomBackend) (env : Env) : Operation → BackendM Unit
  | ensureCredentials => do let _ ← Custom.ensureCredentials X env
  | applyLocalConfig config => Custom.applyLocalConfig X b env config
  | applyRelayMap relays => Custom.applyRelayMap relays
  | applyPeerMap peers => Custom.applyPeerMap X env peers
  | localEndpoints => do let _ ← Custom.localEndpoints
  | probePublicEndpoint probeServer timeout => do
      let _ ← Custom.probePublicEndpoint env probeServer timeout
  | maintainPeerPaths => Custom.maintainPeerPaths X env
  | status => do let _ ← Custom.status X b env
  | shutdown => Custom.shutdown env

/-- The call of `TransportTasks::start` is reached. -/
def RuntimeState.StartsTasks (rt : RuntimeState) : Prop :=
  rt.transportTasks = none ∧ rt.tunDevice.isSome ∧ rt.transport.isSome

/-- Setting up the interface brings a TUN device and a transport together while
    no tasks run. -/
def SetUpRelocks (b : CustomBackend) (env : Env) (config : TunConfig) (rt : RuntimeState) : Prop :=
  if b.tunSetupEnabled then
    -- the new device meets an idle transport, or the transport bound after it
    (∃ device, env.configureTun config = .ok device) ∧
      ((rt.transport.isSome ∧ rt.transportTasks = none) ∨
        ∃ port, env.socket config.listenPort = .ok port)
  else
    -- the device of an earlier configuration meets the new transport
    rt.tunDevice.isSome ∧ ∃ port, env.socket config.listenPort = .ok port

/-- The condition under which an operation relocks, on the world before it and on
    what the operating system answers. -/
def Relocks (b : CustomBackend) (env : Env) (w : World) : Operation → Prop
  | .applyLocalConfig config =>
      w.mutex.poisoned = false ∧ (∃ state, readState (env.readError 0) w.other.file = .ok state) ∧
        env.save = .written ∧ env.readError 1 = none ∧
        SetUpRelocks b env (.fromLocalConfig config) w.mutex.value
  | .probePublicEndpoint probeServer timeout =>
      w.mutex.poisoned = false ∧ w.mutex.value.tunDevice.isSome ∧
        ∃ transport, w.mutex.value.transport = some transport ∧
          (transport.probePublicEndpoint env.sendTo probeServer env.probeStart timeout
            env.probeAnswers).isSome
  | _ => False

-- ============================================================================
-- Operations without `start_transport_tasks`
-- ============================================================================

theorem lockSafe_locked {α : Type} (f : RuntimeState → Result α × RuntimeState) :
    LockSafe (locked f) := lockSafe_withLock _ _

theorem lockSafe_loadState (env : Env) (n : Nat) : LockSafe (loadState env n) := lockSafe_other _

theorem lockSafe_replaceState (X : Externals) (env : Env) (state : CustomBackendState) :
    LockSafe (replaceState X env state) :=
  LockSafe.bind (lockSafe_other _) fun _ => lockSafe_locked _

theorem lockSafe_stopTransportTasks : LockSafe stopTransportTasks := by
  refine LockSafe.bind (lockSafe_locked _) fun tasks => ?_
  cases tasks with
  | none => exact lockSafe_pure ()
  | some tasks => exact lockSafe_other _

theorem lockSafe_ensureCredentials (X : Externals) (env : Env) :
    LockSafe (ensureCredentials X env) := by
  refine LockSafe.bind (lockSafe_loadState env 0) fun state => ?_
  cases state.identity with
  | none => exact LockSafe.bind (lockSafe_replaceState X env _) fun _ => lockSafe_pure _
  | some identity =>
      refine LockSafe.bind (lockSafe_ofExcept _) fun derived => ?_
      split
      · exact lockSafe_ofExcept _
      · exact LockSafe.bind (lockSafe_locked _) fun _ => lockSafe_pure _

theorem lockSafe_applyPeerMap (X : Externals) (env : Env) (peers : List PeerConfig) :
    LockSafe (applyPeerMap X env peers) :=
  LockSafe.bind (lockSafe_loadState env 0) fun _ =>
    LockSafe.bind (lockSafe_ofExcept _) fun _ => lockSafe_replaceState X env _

theorem lockSafe_applyRelayMap (relays : List RelayConfig) : LockSafe (applyRelayMap relays) :=
  lockSafe_locked _

theorem lockSafe_maintainPeerPaths (X : Externals) (env : Env) : LockSafe (maintainPeerPaths X env) :=
  lockSafe_locked _

theorem lockSafe_status (X : Externals) (b : CustomBackend) (env : Env) :
    LockSafe (status X b env) :=
  LockSafe.bind (lockSafe_loadState env 0) fun _ => LockSafe.bind (lockSafe_locked _) fun _ =>
    LockSafe.bind (lockSafe_locked _) fun _ => LockSafe.bind (lockSafe_locked _) fun _ =>
      LockSafe.bind (lockSafe_locked _) fun _ => lockSafe_pure _

theorem lockSafe_shutdown (env : Env) : LockSafe (shutdown env) := by
  refine LockSafe.bind lockSafe_stopTransportTasks fun _ => LockSafe.bind (lockSafe_locked _) fun _ =>
    LockSafe.bind (lockSafe_locked _) fun device => ?_
  cases device with
  | none => exact lockSafe_pure ()
  | some device => exact LockSafe.bind (lockSafe_ofExcept _) fun _ => lockSafe_locked _

-- ============================================================================
-- `start_transport_tasks`
-- ============================================================================

/-- `TransportTasks::start` under the guard waits for the lock that the guard holds. -/
theorem start_held {w : World} (hheld : w.mutex.held = true) :
    TransportTasks.start.run w = .error .deadlock := by
  have hspawn : ∀ w' : World, w'.mutex.held = true →
      spawnRelayToTunLoop.run w' = .error .deadlock := by
    intro w' hheld'
    apply bind_halt
    simp only [attempt, locked, withLock, withGuard_held hheld']
  rw [TransportTasks.start, bind_ok (run_other _ w)]
  exact bind_halt (hspawn _ hheld)

/-- What `start_transport_tasks` reads when it has the lock. -/
theorem protect_read (w : World) :
    (ThreadM.protect fun rt => (.ok rt, rt) : BackendM RuntimeState).run (acquired w) =
      .ok (.ok w.mutex.value, acquired w) := rfl

theorem startTransportTasks_deadlock {w : World} (hw : Ready w)
    (hstart : w.mutex.value.StartsTasks) : startTransportTasks.run w = .error .deadlock := by
  obtain ⟨htasks, hdevice, htransport⟩ := hstart
  apply withGuard_halt hw
  rw [bind_ok (protect_read w), if_neg (by simp [htasks, Option.isSome_iff_ne_none.mp hdevice,
    Option.isSome_iff_ne_none.mp htransport])]
  exact bind_halt (start_held rfl)

theorem startTransportTasks_ok {w : World} (hw : Ready w)
    (hstart : ¬ w.mutex.value.StartsTasks) : startTransportTasks.run w = .ok (.ok (), w) := by
  have hcond : (w.mutex.value.transportTasks.isSome || w.mutex.value.tunDevice.isNone ||
      w.mutex.value.transport.isNone) = true := by
    by_contra hno
    simp only [Bool.or_eq_true, not_or, Bool.not_eq_true, Option.isSome_eq_false_iff,
      Option.isNone_iff_eq_none] at hno
    exact hstart ⟨hno.1.1, Option.isSome_iff_ne_none.mpr hno.1.2, Option.isSome_iff_ne_none.mpr hno.2⟩
  conv_rhs => rw [← released_acquired hw.free]
  apply withGuard_ok hw
  rw [bind_ok (protect_read w), if_pos hcond]
  rfl

/-- `start_transport_tasks` is safe when it does not start tasks. -/
theorem safe_startTransportTasks {w : World} (hw : Ready w)
    (hstart : ¬ w.mutex.value.StartsTasks) : SafeOutcome (startTransportTasks.run w) := by
  rw [startTransportTasks_ok hw hstart]
  exact hw.free

-- ============================================================================
-- `bind_transport` and `set_tun_device`
-- ============================================================================

/-- `stop_transport_tasks` on a free, sound lock: the tasks are gone, the rest of
    the runtime is as it was. -/
theorem stopTransportTasks_ready {w : World} (hw : Ready w) :
    ∃ w', stopTransportTasks.run w = .ok (.ok (), w') ∧ Ready w' ∧
      w'.mutex.value = w.mutex.value.withTasks none := by
  rw [stopTransportTasks, locked, bind_ok (withLock_ready hw)]
  cases w.mutex.value.transportTasks with
  | none => exact ⟨_, rfl, hw.setValue _, rfl⟩
  | some tasks => exact ⟨_, rfl, ⟨hw.free, hw.sound⟩, rfl⟩

/-- `bind_transport` up to its `start_transport_tasks`. -/
theorem bindTransport_ready {env : Env} {listenPort : UInt16} {w : World} (hw : Ready w) :
    (∀ message, env.socket listenPort = .error message →
      ∃ w', (bindTransport env listenPort).run w = .ok (commandFailed message, w') ∧ Ready w') ∧
    (∀ port, env.socket listenPort = .ok port →
      ∃ w', (bindTransport env listenPort).run w = startTransportTasks.run w' ∧ Ready w' ∧
        w'.mutex.value.transportTasks = none ∧ w'.mutex.value.transport.isSome ∧
        w'.mutex.value.tunDevice = w.mutex.value.tunDevice) := by
  obtain ⟨w₁, hstop, hw₁, hvalue⟩ := stopTransportTasks_ready hw
  rw [bindTransport, bind_ok hstop, locked, bind_ok (withLock_ready hw₁)]
  refine ⟨fun message hsocket => ?_, fun port hsocket => ?_⟩
  · rw [hsocket]
    exact ⟨_, bind_error (run_ofExcept (commandFailed message) _), hw₁.setValue _⟩
  · simp only [hsocket, TransportRuntime.bind]
    rw [bind_ok (run_ofExcept _ _), locked, bind_ok (withLock_ready (hw₁.setValue _))]
    refine ⟨_, rfl, (hw₁.setValue _).setValue _, ?_, rfl, ?_⟩
    · simp [hvalue]
    · simp [hvalue]

/-- `bind_transport` relocks when the socket binds and a TUN device is there. -/
theorem bindTransport_deadlock {env : Env} {listenPort : UInt16} {w : World} (hw : Ready w)
    (hdevice : w.mutex.value.tunDevice.isSome) (hsocket : ∃ port, env.socket listenPort = .ok port) :
    (bindTransport env listenPort).run w = .error .deadlock := by
  obtain ⟨port, hport⟩ := hsocket
  obtain ⟨w', heq, hw', htasks, htransport, hkept⟩ := (bindTransport_ready hw).2 port hport
  rw [heq]
  exact startTransportTasks_deadlock hw' ⟨htasks, hkept ▸ hdevice, htransport⟩

theorem safe_bindTransport {env : Env} {listenPort : UInt16} {w : World} (hw : Ready w)
    (hno : ¬ (w.mutex.value.tunDevice.isSome ∧ ∃ port, env.socket listenPort = .ok port)) :
    SafeOutcome ((bindTransport env listenPort).run w) := by
  cases hsocket : env.socket listenPort with
  | error message =>
      obtain ⟨w', heq, hw'⟩ := (bindTransport_ready hw).1 message hsocket
      rw [heq]
      exact hw'.free
  | ok port =>
      obtain ⟨w', heq, hw', -, -, hkept⟩ := (bindTransport_ready hw).2 port hsocket
      rw [heq]
      exact safe_startTransportTasks hw' fun hstart => hno ⟨hkept ▸ hstart.2.1, port, hsocket⟩

/-- `set_tun_device` up to its `start_transport_tasks`. -/
theorem setTunDevice_ready (device : TunDevice) {w : World} (hw : Ready w) :
    ∃ w', (setTunDevice device).run w = startTransportTasks.run w' ∧ Ready w' ∧
      w'.mutex.value.tunDevice = some device ∧
      w'.mutex.value.transport = w.mutex.value.transport ∧
      w'.mutex.value.transportTasks = w.mutex.value.transportTasks := by
  refine ⟨setValue w ((w.mutex.value.withTunStatus device.status).withTunDevice (some device)), ?_,
    hw.setValue _, rfl, rfl, rfl⟩
  rw [setTunDevice, locked, bind_ok (withLock_ready hw)]

-- ============================================================================
-- The two operations that reach it
-- ============================================================================

/-- `apply_local_config` after the configuration is stored: when it relocks. -/
theorem setUpTun_deadlock {b : CustomBackend} {env : Env} {config : TunConfig} {w : World}
    (hw : Ready w) (hrelock : SetUpRelocks b env config w.mutex.value) :
    (setUpTun b env config).run w = .error .deadlock := by
  unfold setUpTun
  unfold SetUpRelocks at hrelock
  cases hb : b.tunSetupEnabled with
  | false =>
      rw [hb] at hrelock
      obtain ⟨hdevice, hsocket⟩ := hrelock
      exact bind_halt (bindTransport_deadlock hw hdevice hsocket)
  | true =>
      rw [hb, if_pos rfl] at hrelock
      obtain ⟨⟨device, hdevice⟩, hcase⟩ := hrelock
      obtain ⟨w', heq, hw', htun, htransport, htasks⟩ := setTunDevice_ready device hw
      simp only [Bool.not_true, Bool.false_eq_true, if_false, hdevice]
      by_cases hstart : w'.mutex.value.StartsTasks
      · apply bind_halt
        rw [heq]
        exact startTransportTasks_deadlock hw' hstart
      · -- nothing to start yet: the second chance is after the new socket is bound
        rw [bind_ok (heq.trans (startTransportTasks_ok hw' hstart))]
        apply bindTransport_deadlock hw' (by rw [htun]; rfl)
        rcases hcase with ⟨hidle, hnone⟩ | hsocket
        · exact absurd ⟨htasks.trans hnone, by rw [htun]; rfl, htransport ▸ hidle⟩ hstart
        · exact hsocket

theorem safe_setUpTun {b : CustomBackend} {env : Env} {config : TunConfig} {w : World}
    (hw : Ready w) (hno : ¬ SetUpRelocks b env config w.mutex.value) :
    SafeOutcome ((setUpTun b env config).run w) := by
  unfold setUpTun
  unfold SetUpRelocks at hno
  cases hb : b.tunSetupEnabled with
  | false =>
      rw [hb] at hno
      have hbind := safe_bindTransport hw hno
      refine safeOutcome_bind hbind fun _ w₁ hw₁ => ?_
      rw [hw₁] at hbind
      exact lockSafe_locked _ w₁ hbind
  | true =>
      rw [hb, if_pos rfl] at hno
      simp only [Bool.not_true, Bool.false_eq_true, if_false]
      cases hdevice : env.configureTun config with
      | error error =>
          exact LockSafe.bind (lockSafe_locked _) (fun _ => lockSafe_ofExcept _) w hw.free
      | ok device =>
          obtain ⟨w', heq, hw', htun, htransport, htasks⟩ := setTunDevice_ready device hw
          have hstart : ¬ w'.mutex.value.StartsTasks := by
            rintro ⟨hnone, -, hidle⟩
            exact hno ⟨⟨device, hdevice⟩, Or.inl ⟨htransport ▸ hidle, htasks ▸ hnone⟩⟩
          simp only
          rw [bind_ok (heq.trans (startTransportTasks_ok hw' hstart))]
          exact safe_bindTransport hw' fun h => hno ⟨⟨device, hdevice⟩, Or.inr h.2⟩

theorem applyLocalConfig_deadlock {X : Externals} {b : CustomBackend} {env : Env}
    {config : LocalBackendConfig} {w : World} (hfree : w.mutex.held = false)
    (hrelock : Relocks b env w (.applyLocalConfig config)) :
    (applyLocalConfig X b env config).run w = .error .deadlock := by
  obtain ⟨hsound, ⟨state, hload⟩, hsave, hread, hset⟩ := hrelock
  have hw : Ready w := ⟨hfree, hsound⟩
  have hversion : state.version = stateVersion := readState_version hload
  have hagain : ∀ w' : World, w'.other.file = .stored { state with localConfig := some config } →
      (loadState env 1).run w' = .ok (.ok { state with localConfig := some config }, w') := by
    intro w' hfile
    rw [loadState_run, hfile, readState_stored (by exact hversion), hread]
  rw [applyLocalConfig, bind_ok ((loadState_run env 0 w).trans (by rw [hload])),
    bind_ok (replaceState_written hw hsave), bind_ok (hagain _ rfl)]
  exact setUpTun_deadlock ⟨hfree, hsound⟩ hset

theorem safe_applyLocalConfig {X : Externals} {b : CustomBackend} {env : Env}
    {config : LocalBackendConfig} {w : World} (hfree : w.mutex.held = false)
    (hno : ¬ Relocks b env w (.applyLocalConfig config)) :
    SafeOutcome ((applyLocalConfig X b env config).run w) := by
  refine safeOutcome_bind (lockSafe_loadState env 0 w hfree) fun state w₁ hload => ?_
  rw [loadState_run] at hload
  obtain ⟨hstate, rfl⟩ := Prod.mk.inj (Except.ok.inj hload)
  refine safeOutcome_bind (lockSafe_replaceState X env _ w hfree) fun _ w₂ hreplace => ?_
  obtain ⟨hsave, hw, rfl⟩ := replaceState_eq_ok hfree hreplace
  have hready : Ready (replaced X env { state with localConfig := some config } w) :=
    ⟨hw.free, hw.sound⟩
  refine safeOutcome_bind (lockSafe_loadState env 1 _ hready.free) fun stored w₃ hagain => ?_
  rw [loadState_run] at hagain
  obtain ⟨hreread, rfl⟩ := Prod.mk.inj (Except.ok.inj hagain)
  have hfile : (replaced X env { state with localConfig := some config } w).other.file =
      .stored { state with localConfig := some config } := rfl
  have hversion : state.version = stateVersion := readState_version hstate
  rw [hfile, readState_stored (by exact hversion)] at hreread
  cases hread : env.readError 1 with
  | some error =>
      rw [hread] at hreread
      cases hreread
  | none =>
      rw [hread] at hreread
      obtain rfl := Except.ok.inj hreread
      exact safe_setUpTun hready fun hset =>
        hno ⟨hw.sound, ⟨state, hstate⟩, hsave, hread, hset⟩

/-- The critical section of a public probe. -/
theorem probeTransport_run (env : Env) (probeServer : SocketAddr) (timeout : Duration) (w : World) :
    (probeTransport env probeServer timeout).run (acquired w) =
      match w.mutex.value.transport with
      | none => .ok (commandFailed "UDP transport is not bound", acquired w)
      | some t =>
          match t.probePublicEndpoint env.sendTo probeServer env.probeStart timeout
              env.probeAnswers with
          | none => .error .waiting
          | some (r, t') =>
              .ok (.ok r, setValue (acquired w) (w.mutex.value.withTransport (some t'))) := by
  rw [probeTransport, bind_ok (protect_read w)]
  cases w.mutex.value.transport with
  | none => rfl
  | some t =>
      simp only
      cases t.probePublicEndpoint env.sendTo probeServer env.probeStart timeout
          env.probeAnswers with
      | none => rfl
      | some p => rfl

/-- The world after the critical section of a public probe. -/
def probed (w : World) (t : TransportRuntime) : World :=
  released (setValue (acquired w) (w.mutex.value.withTransport (some t)))

theorem ready_probed {w : World} (hw : Ready w) (t : TransportRuntime) : Ready (probed w t) :=
  ⟨rfl, hw.sound⟩

theorem probePublicEndpoint_deadlock {b : CustomBackend} {env : Env} {probeServer : SocketAddr}
    {timeout : Duration} {w : World} (hfree : w.mutex.held = false)
    (hrelock : Relocks b env w (.probePublicEndpoint probeServer timeout)) :
    (probePublicEndpoint env probeServer timeout).run w = .error .deadlock := by
  obtain ⟨hsound, hdevice, t, ht, hprobe⟩ := hrelock
  obtain ⟨⟨r, t'⟩, hanswer⟩ := Option.isSome_iff_exists.mp hprobe
  obtain ⟨w₁, hstop, hw₁, hvalue⟩ := stopTransportTasks_ready ⟨hfree, hsound⟩
  have ht₁ : w₁.mutex.value.transport = some t := by rw [hvalue]; exact ht
  have hbody := probeTransport_run env probeServer timeout w₁
  simp only [ht₁, hanswer] at hbody
  rw [probePublicEndpoint, bind_ok hstop, bind_ok (withGuard_ok hw₁ hbody)]
  change (_ >>= _ : BackendM _).run (probed w₁ t') = _
  apply bind_halt
  -- the tasks were stopped, the device and the transport are still there
  have hstart : (probed w₁ t').mutex.value.StartsTasks :=
    ⟨by simp [probed, released, hvalue], by simpa [probed, released, hvalue] using hdevice, rfl⟩
  simp only [attempt, startTransportTasks_deadlock (ready_probed hw₁ t') hstart]

theorem safe_probePublicEndpoint {b : CustomBackend} {env : Env} {probeServer : SocketAddr}
    {timeout : Duration} {w : World} (hfree : w.mutex.held = false)
    (hno : ¬ Relocks b env w (.probePublicEndpoint probeServer timeout)) :
    SafeOutcome ((probePublicEndpoint env probeServer timeout).run w) := by
  cases hp : w.mutex.poisoned with
  | true =>
      have hstop : stopTransportTasks.run w = .ok (.error poisonError, w) :=
        bind_error (locked_poisoned _ hfree hp)
      rw [probePublicEndpoint, bind_error hstop]
      exact hfree
  | false =>
      obtain ⟨w₁, hstop, hw₁, hvalue⟩ := stopTransportTasks_ready ⟨hfree, hp⟩
      have hbody := probeTransport_run env probeServer timeout w₁
      rw [probePublicEndpoint, bind_ok hstop]
      cases ht : w₁.mutex.value.transport with
      | none =>
          simp only [ht] at hbody
          rw [bind_error (withGuard_ok hw₁ hbody)]
          rfl
      | some t =>
          cases hprobe : t.probePublicEndpoint env.sendTo probeServer env.probeStart timeout
              env.probeAnswers with
          | none =>
              simp only [ht, hprobe] at hbody
              rw [bind_halt (withGuard_halt hw₁ hbody)]
              simp [SafeOutcome]
          | some p =>
              obtain ⟨r, t'⟩ := p
              simp only [ht, hprobe] at hbody
              rw [bind_ok (withGuard_ok hw₁ hbody)]
              have hidle : ¬ (probed w₁ t').mutex.value.StartsTasks := by
                rintro ⟨-, hdevice, -⟩
                refine hno ⟨hp, ?_, t, ?_, by rw [hprobe]; rfl⟩
                · simpa [probed, released, hvalue] using hdevice
                · rw [hvalue] at ht
                  exact ht
              have hrestart := startTransportTasks_ok (ready_probed hw₁ t') hidle
              have hattempt : (attempt startTransportTasks).run (probed w₁ t') =
                  .ok (.ok (.ok ()), probed w₁ t') := by
                simp only [attempt, hrestart]
              change SafeOutcome ((_ >>= _ : BackendM _).run (probed w₁ t'))
              rw [bind_ok hattempt]
              rfl

-- ============================================================================
-- All operations
-- ============================================================================

/-- **Self-deadlock.**  An operation that starts while its thread holds nothing
    ends without relocking and with the lock released, exactly when it does not
    bring a TUN device and a transport together while no tasks run. -/
theorem operation_lock_safe_iff (X : Externals) (b : CustomBackend) (env : Env) (op : Operation)
    (w : World) (hfree : w.mutex.held = false) :
    SafeOutcome ((op.run X b env).run w) ↔ ¬ Relocks b env w op := by
  have hdrop : ∀ {α : Type} {m : BackendM α}, LockSafe m → LockSafe (do let _ ← m) :=
    fun hm => LockSafe.bind hm fun _ => lockSafe_pure _
  cases op with
  | ensureCredentials =>
      exact iff_of_true (hdrop (lockSafe_ensureCredentials X env) w hfree) id
  | applyLocalConfig config =>
      refine ⟨fun hsafe hrelock => ?_, safe_applyLocalConfig hfree⟩
      change SafeOutcome ((applyLocalConfig X b env config).run w) at hsafe
      rw [applyLocalConfig_deadlock hfree hrelock] at hsafe
      exact hsafe rfl
  | applyRelayMap relays => exact iff_of_true (lockSafe_applyRelayMap relays w hfree) id
  | applyPeerMap peers => exact iff_of_true (lockSafe_applyPeerMap X env peers w hfree) id
  | localEndpoints => exact iff_of_true (hdrop (lockSafe_locked _) w hfree) id
  | probePublicEndpoint probeServer timeout =>
      refine ⟨fun hsafe hrelock => ?_, fun hno => ?_⟩
      · rw [Operation.run, bind_halt (probePublicEndpoint_deadlock hfree hrelock)] at hsafe
        exact hsafe rfl
      · have hsafe := safe_probePublicEndpoint hfree hno
        refine safeOutcome_bind hsafe fun _ w₁ hw₁ => ?_
        rw [hw₁] at hsafe
        exact hsafe
  | maintainPeerPaths => exact iff_of_true (lockSafe_maintainPeerPaths X env w hfree) id
  | status => exact iff_of_true (hdrop (lockSafe_status X b env) w hfree) id
  | shutdown => exact iff_of_true (lockSafe_shutdown env w hfree) id

/-- With TUN setup disabled, configuring a new backend is safe. -/
theorem operation_lock_safe_without_tun :
    SafeOutcome (((Operation.applyLocalConfig Reference.localConfig).run Externals.reference
      ⟨"tfscale0", false⟩ Reference.env).run Reference.freshWorld) := by
  rw [operation_lock_safe_iff Externals.reference ⟨"tfscale0", false⟩ Reference.env
    (.applyLocalConfig Reference.localConfig) Reference.freshWorld rfl]
  rintro ⟨-, -, -, -, hdevice, -⟩
  cases hdevice

/-- With TUN setup enabled, configuring a new backend on a machine where the TUN
    device and the socket can be had never returns. -/
theorem apply_local_config_relocks :
    ((Operation.applyLocalConfig Reference.localConfig).run Externals.reference
      ⟨"tfscale0", true⟩ Reference.env).run Reference.freshWorld = .error .deadlock := by
  apply applyLocalConfig_deadlock rfl
  exact ⟨rfl, ⟨.default, rfl⟩, rfl, rfl, ⟨⟨_, rfl⟩, Or.inr ⟨51820, rfl⟩⟩⟩

end TfScale.Custom
