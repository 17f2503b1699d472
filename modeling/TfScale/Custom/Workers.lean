/-
  TfScale.Custom.Workers

  Which worker threads run?

  A set of workers watches one stop flag, and `transport_tasks` is the only handle on
  it: dropping the handle does not stop the threads.  `Accounted` says that the
  workers that run are those of the handle that is stored.  The operations here take
  `TransportTasks::start` as a parameter, and the results are for the one that spawns
  the threads and returns; with the source's own `start` the operations are those of
  `Custom.Backend`.
-/

import TfScale.Lib.Run
import TfScale.Custom.Sections

namespace TfScale.Custom

open ThreadM

-- ============================================================================
-- The operations, for any way of starting the workers
-- ============================================================================

/-- `TransportTasks::start`, reading the parameters of the relay loop without taking
    the lock that its caller holds. -/
def TransportTasks.spawn : BackendM TransportTasks := do
  let stopFlag ← ThreadM.other fun machine =>
    (.ok machine.nextFlag, { machine with
      nextFlag := machine.nextFlag + 1
      running := machine.nextFlag :: machine.running })
  let relay ← ThreadM.protect fun rt => (.ok rt.relayLoopTarget, rt)
  return { stopFlag, relayLoop := relay.isSome }

section Start

variable (start : BackendM TransportTasks)

/-- `start_transport_tasks` -/
def startTransportTasksWith : BackendM Unit :=
  ThreadM.withGuard poisonError do
    let rt ← ThreadM.protect fun rt => (.ok rt, rt)
    if rt.transportTasks.isSome || rt.tunDevice.isNone || rt.transport.isNone then
      return ()
    else do
      let tasks ← start
      ThreadM.protect fun rt => (.ok (), rt.withTasks (some tasks))

/-- `set_tun_device` -/
def setTunDeviceWith (device : TunDevice) : BackendM Unit := do
  locked fun rt => (.ok (), (rt.withTunStatus device.status).withTunDevice (some device))
  startTransportTasksWith start

/-- `bind_transport` -/
def bindTransportWith (env : Env) (listenPort : UInt16) : BackendM Unit := do
  stopTransportTasks
  let replaced ← locked fun rt => (.ok rt.transport, rt.withTransport none)
  let transport ← ThreadM.ofExcept
    (TransportRuntime.bind (env.socket listenPort) env.lan (TransportRuntime.socketAfter replaced))
  locked fun rt => (.ok (), rt.withTransport (some transport))
  startTransportTasksWith start

/-- `apply_local_config` after the configuration is stored. -/
def setUpTunWith (b : CustomBackend) (env : Env) (tunConfig : TunConfig) : BackendM Unit :=
  if !b.tunSetupEnabled then do
    bindTransportWith start env tunConfig.listenPort
    setTunStatus (.failed tunConfig.interfaceName "TUN setup skipped by backend configuration")
  else
    match env.configureTun tunConfig with
    | .ok device => do
        setTunDeviceWith start device
        bindTransportWith start env tunConfig.listenPort
    | .error error => do
        setTunStatus (.failed tunConfig.interfaceName error.text)
        ThreadM.ofExcept (.error error)

/-- `apply_local_config` -/
def applyLocalConfigWith (X : Externals) (b : CustomBackend) (env : Env)
    (config : LocalBackendConfig) : BackendM Unit := do
  let state ← loadState env 0
  replaceState X env { state with localConfig := some config }
  let stored ← loadState env 1
  match stored.localConfig with
  | some config => setUpTunWith start b env (.fromLocalConfig config)
  | none => ThreadM.halt .panicked

/-- `probe_public_endpoint` -/
def probePublicEndpointWith (env : Env) (probeServer : SocketAddr) (timeout : Duration) :
    BackendM (Option PublicEndpointProbe) := do
  stopTransportTasks
  let result ← ThreadM.withGuard poisonError (probeTransport env probeServer timeout)
  let restart ← ThreadM.attempt (startTransportTasksWith start)
  match restart with
  | .ok _ => ThreadM.ofExcept result
  | .error error => ThreadM.ofExcept (.error error)

/-- An operation as a program; only two of them start workers. -/
def Operation.runWith (X : Externals) (b : CustomBackend) (env : Env) : Operation → BackendM Unit
  | applyLocalConfig config => applyLocalConfigWith start X b env config
  | probePublicEndpoint probeServer timeout => do
      let _ ← probePublicEndpointWith start env probeServer timeout
  | op => op.run X b env

end Start

/-- With the source's own `start`, the operations are the source's. -/
theorem Operation.runWith_start (X : Externals) (b : CustomBackend) (env : Env) (op : Operation) :
    op.runWith TransportTasks.start X b env = op.run X b env := by
  cases op <;> rfl

-- ============================================================================
-- Accounted workers
-- ============================================================================

/-- The stop flag of the stored handle, if there is one. -/
def RuntimeState.taskFlags (rt : RuntimeState) : List Nat :=
  (rt.transportTasks.map (·.stopFlag)).toList

/-- The workers that run are those of the stored handle. -/
def Accounted (w : World) : Prop := w.other.running = w.mutex.value.taskFlags

/-- Whenever the program returns, accounted workers are still accounted, and the lock
    is held if it was held before. -/
def KeepsAccount {α : Type} (m : BackendM α) : Prop :=
  ∀ w r w', m.run w = .ok (r, w') → Accounted w → Accounted w' ∧ w'.mutex.held = w.mutex.held

section Rules

variable {X : Externals} {α β : Type}

theorem keepsAccount_ofExcept (r : Result α) : KeepsAccount (ofExcept r : BackendM α) := by
  intro w r' w' h hw
  obtain ⟨-, rfl⟩ := Prod.mk.inj (Except.ok.inj h)
  exact ⟨hw, rfl⟩

theorem keepsAccount_halt (h : Halt) : KeepsAccount (halt h : BackendM α) := by
  intro w r w' heq
  cases heq

/-- A step outside the lock that starts and stops nothing. -/
theorem keepsAccount_other {f : Machine → Result α × Machine}
    (hf : ∀ machine, (f machine).2.running = machine.running) :
    KeepsAccount (other f : BackendM α) := by
  intro w r w' h hw
  obtain ⟨-, rfl⟩ := Prod.mk.inj (Except.ok.inj h)
  exact ⟨(hf w.other).trans hw, rfl⟩

/-- A step under the lock that keeps the handle. -/
theorem keepsAccount_protect {f : RuntimeState → Result α × RuntimeState}
    (hf : ∀ rt, (f rt).2.transportTasks = rt.transportTasks) : KeepsAccount (protect f) := by
  intro w r w' h hw
  obtain ⟨-, rfl⟩ := Prod.mk.inj (Except.ok.inj h)
  refine ⟨?_, rfl⟩
  show w.other.running = (f w.mutex.value).2.taskFlags
  rw [RuntimeState.taskFlags, hf]
  exact hw

theorem KeepsAccount.bind {m : BackendM α} {f : α → BackendM β} (hm : KeepsAccount m)
    (hf : ∀ a, KeepsAccount (f a)) : KeepsAccount (m >>= f) := by
  intro w r w' h hw
  rcases bind_returned h with ⟨_, hmw, -⟩ | ⟨a, w₁, hmw, hfw⟩
  · exact hm w _ _ hmw hw
  · obtain ⟨hw₁, hheld₁⟩ := hm w _ _ hmw hw
    obtain ⟨hw', hheld'⟩ := hf a w₁ r w' hfw hw₁
    exact ⟨hw', hheld'.trans hheld₁⟩

theorem KeepsAccount.attempt {m : BackendM α} (hm : KeepsAccount m) :
    KeepsAccount (ThreadM.attempt m) := by
  intro w r w' h hw
  obtain ⟨r₁, hmw⟩ := attempt_returned h
  exact hm w r₁ w' hmw hw

theorem KeepsAccount.withGuard {body : BackendM α} (hbody : KeepsAccount body) :
    KeepsAccount (ThreadM.withGuard poisonError body) := by
  intro w r w' h hw
  obtain ⟨hfree, rfl | ⟨w₁, hrun, rfl⟩⟩ := withGuard_returned h
  · exact ⟨hw, rfl⟩
  · obtain ⟨hw₁, -⟩ := hbody (acquired w) r w₁ hrun hw
    exact ⟨hw₁, hfree.symm⟩

theorem keepsAccount_locked {f : RuntimeState → Result α × RuntimeState}
    (hf : ∀ rt, (f rt).2.transportTasks = rt.transportTasks) : KeepsAccount (locked f) :=
  (keepsAccount_protect hf).withGuard

/-- `stop_transport_tasks` empties the handle and stops its workers, unless the lock is
    poisoned. -/
theorem stopTransportTasks_returned {w w' : World} {r : Result Unit}
    (h : stopTransportTasks.run w = .ok (r, w')) (hw : Accounted w) :
    w.mutex.held = false ∧ w'.mutex.held = false ∧
      ((w.mutex.poisoned = true ∧ r = .error poisonError ∧ w' = w) ∨
        (r = .ok () ∧ w'.other.running = [] ∧ w'.mutex.value = w.mutex.value.withTasks none)) := by
  rcases bind_returned h with ⟨e, htake, rfl⟩ | ⟨tasks, w₁, htake, hstop⟩
  · obtain ⟨hfree, ⟨hpoisoned, herror, rfl⟩ | ⟨-, hok, -⟩⟩ := locked_returned htake
    · exact ⟨hfree, hfree, Or.inl ⟨hpoisoned, congrArg Except.error (Except.error.inj herror), rfl⟩⟩
    · cases hok
  · obtain ⟨hfree, ⟨-, hok, -⟩ | ⟨-, htasks, rfl⟩⟩ := locked_returned htake
    · cases hok
    · obtain rfl : tasks = w.mutex.value.transportTasks := Except.ok.inj htasks
      refine ⟨hfree, ?_⟩
      unfold Accounted RuntimeState.taskFlags at hw
      cases htasks : w.mutex.value.transportTasks with
      | none =>
          rw [htasks] at hstop hw
          obtain ⟨rfl, rfl⟩ := Prod.mk.inj (Except.ok.inj hstop)
          exact ⟨hfree, Or.inr ⟨rfl, hw, rfl⟩⟩
      | some tasks =>
          rw [htasks] at hstop hw
          obtain ⟨rfl, rfl⟩ := Prod.mk.inj (Except.ok.inj hstop)
          refine ⟨hfree, Or.inr ⟨rfl, ?_, rfl⟩⟩
          show w.other.running.filter (· ≠ tasks.stopFlag) = []
          rw [hw]
          simp

theorem keepsAccount_stopTransportTasks : KeepsAccount stopTransportTasks := by
  intro w r w' h hw
  obtain ⟨hfree, hfree', ⟨-, -, rfl⟩ | ⟨-, hrunning, hvalue⟩⟩ := stopTransportTasks_returned h hw
  · exact ⟨hw, rfl⟩
  · refine ⟨?_, hfree'.trans hfree.symm⟩
    rw [Accounted, hrunning, hvalue]
    rfl

/-- Workers are started only when none run, and their handle is stored. -/
theorem keepsAccount_startTransportTasks :
    KeepsAccount (startTransportTasksWith TransportTasks.spawn) := by
  refine KeepsAccount.withGuard fun w r w' h hw => ?_
  rw [bind_ok (run_protect _ w)] at h
  split at h
  · obtain ⟨-, rfl⟩ := Prod.mk.inj (Except.ok.inj h)
    exact ⟨hw, rfl⟩
  · rename_i hidle
    obtain ⟨-, rfl⟩ := Prod.mk.inj (Except.ok.inj h)
    have hnone : w.mutex.value.transportTasks = none := by
      cases htasks : w.mutex.value.transportTasks with
      | none => rfl
      | some tasks => simp [htasks] at hidle
    have hempty : w.other.running = [] := by
      rw [Accounted, RuntimeState.taskFlags, hnone] at hw
      exact hw
    refine ⟨?_, rfl⟩
    show w.other.nextFlag :: w.other.running = [w.other.nextFlag]
    rw [hempty]

end Rules

-- ============================================================================
-- The data path
-- ============================================================================

section DataPath

variable {X : Externals}

theorem sendOverlayPacket_tasks (rt : RuntimeState) (sendTo : SendTo) (net : RelayNet)
    (packet : Bytes) :
    (rt.sendOverlayPacket X sendTo net packet).2.transportTasks = rt.transportTasks := by
  unfold RuntimeState.sendOverlayPacket
  dsimp only
  repeat' split
  all_goals rfl

theorem probePeers_tasks (sendTo : SendTo) (clock : Nat → SystemTime) (i : Nat)
    (peers : List StoredPeerSession) (rt : RuntimeState) (transport : TransportRuntime) (sent : Nat) :
    (RuntimeState.probePeers X sendTo clock i peers rt transport sent).2.transportTasks =
      rt.transportTasks := by
  induction peers generalizing i rt transport sent with
  | nil => rfl
  | cons peer peers ih =>
      unfold RuntimeState.probePeers
      simp only
      split
      · rw [ih]
        rfl
      split
      · rw [ih]
        rfl
      split
      · rfl
      · rw [ih]
        rfl

theorem probePeerDirectPaths_tasks (rt : RuntimeState) (sendTo : SendTo)
    (clock : Nat → SystemTime) :
    (rt.probePeerDirectPaths X sendTo clock).2.transportTasks = rt.transportTasks := by
  unfold RuntimeState.probePeerDirectPaths
  simp only
  split
  · rfl
  · exact probePeers_tasks _ _ _ _ _ _ _

theorem answerProbe_tasks (rt : RuntimeState) (sendTo : SendTo) (clock : Nat → SystemTime)
    (deviceId : String) (plaintext : Bytes) (source : SocketAddr) :
    (rt.answerProbe X sendTo clock deviceId plaintext source).2.transportTasks =
      rt.transportTasks := by
  unfold RuntimeState.answerProbe
  dsimp only
  repeat' split
  all_goals rfl

theorem openReceivedFrame_tasks (rt : RuntimeState) (sendTo : SendTo) (clock : Nat → SystemTime)
    (frame : Bytes) (source : Option SocketAddr) :
    (rt.openReceivedFrame X sendTo clock frame source).2.transportTasks = rt.transportTasks := by
  have hstage : (rt.openStage X frame).2.transportTasks = rt.transportTasks := by
    unfold RuntimeState.openStage
    repeat' split
    all_goals rfl
  unfold RuntimeState.openReceivedFrame
  split
  · rename_i heq
    rw [heq] at hstage
    exact hstage
  · rename_i heq
    rw [heq] at hstage
    unfold RuntimeState.dispatchStage
    repeat' split
    all_goals first | exact hstage | exact (answerProbe_tasks _ _ _ _ _ _).trans hstage

end DataPath

-- ============================================================================
-- The operations
-- ============================================================================

section Operations

variable {X : Externals}

theorem keepsAccount_loadState (env : Env) (n : Nat) : KeepsAccount (loadState env n) :=
  keepsAccount_other fun _ => rfl

theorem keepsAccount_replaceState (env : Env) (state : CustomBackendState) :
    KeepsAccount (replaceState X env state) := by
  refine (keepsAccount_other fun machine => ?_).bind fun _ => keepsAccount_locked fun _ => rfl
  cases env.save <;> rfl

theorem keepsAccount_bindTransport (env : Env) (listenPort : UInt16) :
    KeepsAccount (bindTransportWith TransportTasks.spawn env listenPort) :=
  keepsAccount_stopTransportTasks.bind fun _ =>
    (keepsAccount_locked fun _ => rfl).bind fun _ =>
      (keepsAccount_ofExcept _).bind fun _ =>
        (keepsAccount_locked fun _ => rfl).bind fun _ => keepsAccount_startTransportTasks

theorem keepsAccount_setTunStatus (status : TunStatus) : KeepsAccount (setTunStatus status) :=
  keepsAccount_locked fun _ => rfl

theorem keepsAccount_setUpTun (b : CustomBackend) (env : Env) (config : TunConfig) :
    KeepsAccount (setUpTunWith TransportTasks.spawn b env config) := by
  unfold setUpTunWith
  split
  · exact (keepsAccount_bindTransport env _).bind fun _ => keepsAccount_setTunStatus _
  · split
    · exact ((keepsAccount_locked fun _ => rfl).bind fun _ =>
        keepsAccount_startTransportTasks).bind fun _ => keepsAccount_bindTransport env _
    · exact (keepsAccount_setTunStatus _).bind fun _ => keepsAccount_ofExcept _

theorem keepsAccount_applyLocalConfig (b : CustomBackend) (env : Env) (config : LocalBackendConfig) :
    KeepsAccount (applyLocalConfigWith TransportTasks.spawn X b env config) := by
  refine (keepsAccount_loadState env 0).bind fun state =>
    (keepsAccount_replaceState env _).bind fun _ => (keepsAccount_loadState env 1).bind fun stored => ?_
  cases stored.localConfig with
  | none => exact keepsAccount_halt _
  | some config => exact keepsAccount_setUpTun b env _

theorem keepsAccount_probeTransport (env : Env) (probeServer : SocketAddr) (timeout : Duration) :
    KeepsAccount (probeTransport env probeServer timeout) := by
  refine (keepsAccount_protect fun _ => rfl).bind fun rt => ?_
  split
  · exact keepsAccount_ofExcept _
  · split
    · exact keepsAccount_halt _
    · exact keepsAccount_protect fun _ => rfl

theorem keepsAccount_probePublicEndpoint (env : Env) (probeServer : SocketAddr) (timeout : Duration) :
    KeepsAccount (probePublicEndpointWith TransportTasks.spawn env probeServer timeout) := by
  refine keepsAccount_stopTransportTasks.bind fun _ =>
    (keepsAccount_probeTransport env probeServer timeout).withGuard.bind fun result =>
      keepsAccount_startTransportTasks.attempt.bind fun restart => ?_
  cases restart <;> exact keepsAccount_ofExcept _

theorem keepsAccount_maintainPeerPaths (env : Env) : KeepsAccount (maintainPeerPaths X env) := by
  refine keepsAccount_locked fun rt => ?_
  have htasks := probePeerDirectPaths_tasks (X := X) rt env.sendTo env.clock
  cases hprobe : rt.probePeerDirectPaths X env.sendTo env.clock with
  | mk r rt' =>
      rw [hprobe] at htasks
      cases r <;> exact htasks

theorem keepsAccount_shutdown (env : Env) : KeepsAccount (shutdown env) := by
  refine keepsAccount_stopTransportTasks.bind fun _ =>
    (keepsAccount_locked fun _ => rfl).bind fun _ =>
      (keepsAccount_locked fun _ => rfl).bind fun device => ?_
  cases device with
  | none => exact keepsAccount_ofExcept _
  | some device => exact (keepsAccount_ofExcept _).bind fun _ => keepsAccount_setTunStatus _

/-- `ensure_credentials` finds a stored identity whose keys match, and replaces a
    runtime that holds a handle. -/
def DropsTasks (X : Externals) (env : Env) (w : World) : Prop :=
  w.mutex.poisoned = false ∧ w.mutex.value.transportTasks.isSome = true ∧
    ∃ state identity, readState (env.readError 0) w.other.file = .ok state ∧
      state.identity = some identity ∧
      derivePublicCredential X identity.privateKey = .ok identity.publicKey

/-- `ensure_credentials` keeps the account unless it drops a handle. -/
theorem ensureCredentials_account {env : Env} {w w' : World} {r : Result BackendCredential}
    (h : (ensureCredentials X env).run w = .ok (r, w')) (hw : Accounted w)
    (hdrops : ¬ DropsTasks X env w) : Accounted w' ∧ w'.mutex.held = w.mutex.held := by
  have hload := loadState_run env 0 w
  cases hread : readState (env.readError 0) w.other.file with
  | error e =>
      rw [hread] at hload
      rw [ensureCredentials, bind_error hload] at h
      obtain ⟨-, rfl⟩ := Prod.mk.inj (Except.ok.inj h)
      exact ⟨hw, rfl⟩
  | ok state =>
      cases hidentity : state.identity with
      | none =>
          rw [hread] at hload
          rw [ensureCredentials, bind_ok hload] at h
          simp only [hidentity] at h
          exact ((keepsAccount_replaceState env _).bind fun _ => keepsAccount_ofExcept _) w r w' h hw
      | some identity =>
          by_cases hderived : derivePublicCredential X identity.privateKey = .ok identity.publicKey
          · rw [ensureCredentials_stored hread hidentity hderived] at h
            have hreturned : ∃ r₁, (locked fun _ =>
                (.ok (), RuntimeState.fromPersisted X env.salts state) : BackendM Unit).run w =
                  .ok (r₁, w') := by
              rcases bind_returned h with ⟨e, hlocked, -⟩ | ⟨u, w₁, hlocked, hpure⟩
              · exact ⟨_, hlocked⟩
              · obtain ⟨-, rfl⟩ := Prod.mk.inj (Except.ok.inj hpure)
                exact ⟨_, hlocked⟩
            obtain ⟨r₁, hlocked⟩ := hreturned
            obtain ⟨-, ⟨-, -, rfl⟩ | ⟨hsound, -, rfl⟩⟩ := locked_returned hlocked
            · exact ⟨hw, rfl⟩
            · -- no handle is dropped, so no worker runs
              have hnone : w.mutex.value.transportTasks = none := by
                by_contra hsome
                exact hdrops ⟨hsound, Option.isSome_iff_ne_none.mpr hsome, state, identity, hread,
                  hidentity, hderived⟩
              rw [Accounted, RuntimeState.taskFlags, hnone] at hw
              exact ⟨hw, rfl⟩
          · rw [hread] at hload
            rw [ensureCredentials, bind_ok hload] at h
            simp only [hidentity] at h
            cases hderive : derivePublicCredential X identity.privateKey with
            | error e =>
                rw [hderive] at h
                obtain ⟨-, rfl⟩ := Prod.mk.inj (Except.ok.inj h)
                exact ⟨hw, rfl⟩
            | ok derived =>
                rw [hderive] at h hderived
                have hne : identity.publicKey ≠ derived := fun heq => hderived (by rw [heq])
                rw [bind_ok (run_ofExcept _ w), if_pos hne] at h
                obtain ⟨-, rfl⟩ := Prod.mk.inj (Except.ok.inj h)
                exact ⟨hw, rfl⟩

/-- A shutdown that succeeds leaves no worker, no transport and no device. -/
theorem shutdown_ok {env : Env} {w w' : World} {u : Unit}
    (h : (shutdown env).run w = .ok (.ok u, w')) (hw : Accounted w) :
    w'.other.running = [] ∧ w'.mutex.value.transport = none ∧ w'.mutex.value.tunDevice = none := by
  obtain ⟨_, w₁, hstop, h⟩ := bind_eq_ok h
  obtain ⟨-, -, ⟨-, herror, -⟩ | ⟨-, hrunning, -⟩⟩ := stopTransportTasks_returned hstop hw
  · cases herror
  obtain ⟨_, w₂, htransport, h⟩ := bind_eq_ok h
  obtain ⟨-, ⟨-, herror, -⟩ | ⟨-, -, rfl⟩⟩ := locked_returned htransport
  · cases herror
  obtain ⟨device, w₃, hdevice, h⟩ := bind_eq_ok h
  obtain ⟨-, ⟨-, herror, -⟩ | ⟨-, -, rfl⟩⟩ := locked_returned hdevice
  · cases herror
  cases device with
  | none =>
      obtain ⟨-, rfl⟩ := Prod.mk.inj (Except.ok.inj h)
      exact ⟨hrunning, rfl, rfl⟩
  | some device =>
      obtain ⟨_, w₄, hshut, h⟩ := bind_eq_ok h
      obtain ⟨-, rfl⟩ := Prod.mk.inj (Except.ok.inj hshut)
      obtain ⟨-, ⟨-, herror, -⟩ | ⟨-, -, rfl⟩⟩ := locked_returned h
      · cases herror
      · exact ⟨hrunning, rfl, rfl⟩

/-- Every operation keeps the account, except an `ensure_credentials` that drops a handle. -/
theorem operation_account {b : CustomBackend} {env : Env} {op : Operation} {w w' : World}
    {r : Result Unit} (h : (op.runWith TransportTasks.spawn X b env).run w = .ok (r, w'))
    (hw : Accounted w) (hdrops : op = .ensureCredentials → ¬ DropsTasks X env w) :
    Accounted w' ∧ w'.mutex.held = w.mutex.held := by
  cases op with
  | ensureCredentials =>
      rcases bind_returned h with ⟨_, hrun, -⟩ | ⟨_, w₁, hrun, hpure⟩
      · exact ensureCredentials_account hrun hw (hdrops rfl)
      · obtain ⟨-, rfl⟩ := Prod.mk.inj (Except.ok.inj hpure)
        exact ensureCredentials_account hrun hw (hdrops rfl)
  | applyLocalConfig config => exact keepsAccount_applyLocalConfig b env config w r w' h hw
  | applyRelayMap relays =>
      have hkeeps : KeepsAccount (applyRelayMap relays) := keepsAccount_locked fun _ => rfl
      exact hkeeps w r w' h hw
  | applyPeerMap peers =>
      exact ((keepsAccount_loadState env 0).bind fun _ => (keepsAccount_ofExcept _).bind fun _ =>
        keepsAccount_replaceState env _) w r w' h hw
  | localEndpoints =>
      exact ((keepsAccount_locked fun _ => rfl).bind fun _ => keepsAccount_ofExcept _) w r w' h hw
  | probePublicEndpoint probeServer timeout =>
      exact ((keepsAccount_probePublicEndpoint env probeServer timeout).bind fun _ =>
        keepsAccount_ofExcept _) w r w' h hw
  | maintainPeerPaths => exact keepsAccount_maintainPeerPaths env w r w' h hw
  | status =>
      refine KeepsAccount.bind ?_ (fun _ => keepsAccount_ofExcept _) w r w' h hw
      exact (keepsAccount_loadState env 0).bind fun _ => (keepsAccount_locked fun _ => rfl).bind
        fun _ => (keepsAccount_locked fun _ => rfl).bind fun _ =>
          (keepsAccount_locked fun _ => rfl).bind fun _ =>
            (keepsAccount_locked fun _ => rfl).bind fun _ => keepsAccount_ofExcept _
  | shutdown => exact keepsAccount_shutdown env w r w' h hw

/-- An `ensure_credentials` that drops a handle returns, and the workers of the handle
    run on with nothing that could stop them. -/
theorem ensureCredentials_drops {b : CustomBackend} {env : Env} {w : World}
    (hfree : w.mutex.held = false) (hdrops : DropsTasks X env w) :
    ∃ rt, rt.transportTasks = none ∧
      (Operation.ensureCredentials.runWith TransportTasks.spawn X b env).run w =
        .ok (.ok (), setValue w rt) := by
  obtain ⟨hsound, -, state, identity, hread, hidentity, hderived⟩ := hdrops
  refine ⟨RuntimeState.fromPersisted X env.salts state, rfl, ?_⟩
  have hlocked : (locked fun _ =>
      (.ok (), RuntimeState.fromPersisted X env.salts state) : BackendM Unit).run w =
        .ok (.ok (), setValue w (RuntimeState.fromPersisted X env.salts state)) :=
    withLock_ready ⟨hfree, hsound⟩
  have hrun : (ensureCredentials X env).run w =
      .ok (.ok ⟨identity.publicKey⟩, setValue w (RuntimeState.fromPersisted X env.salts state)) := by
    rw [ensureCredentials_stored hread hidentity hderived, bind_ok hlocked]
    rfl
  show ((ensureCredentials X env) >>= fun _ => pure ()).run w = _
  rw [bind_ok hrun]
  rfl

end Operations

-- ============================================================================
-- Runs
-- ============================================================================

/-- A backend in use: its world, and whether the last operation was a `shutdown` that
    succeeded. -/
structure Lifecycle where
  world : World
  shutDown : Bool

inductive LifecycleEvent where
  /-- an operation of the caller -/
  | operation (op : Operation) (env : Env)
  /-- a critical section of one of the worker loops -/
  | worker (s : Section)
  /-- a worker that panics in its critical section -/
  | panic

/-- The critical sections of the worker loops. -/
def Section.ofWorker : Section → Bool
  | udp .. | relay .. | send .. | rxDrop => true
  | _ => false

/-- One step; an operation that does not return is none, and workers act only while
    there are any. -/
def Lifecycle.step (X : Externals) (b : CustomBackend) (st : Lifecycle) :
    LifecycleEvent → Option Lifecycle
  | .operation op env =>
      match (op.runWith TransportTasks.spawn X b env).run st.world with
      | .error _ => none
      | .ok (r, w) =>
          some ⟨w, match op with
            | .shutdown => r.isOk
            | _ => false⟩
  | .worker s =>
      if s.ofWorker = true ∧ st.world.other.running ≠ [] ∧ st.world.mutex.poisoned = false then
        some ⟨setValue st.world (s.effect X st.world.mutex.value), st.shutDown⟩
      else none
  | .panic =>
      if st.world.other.running ≠ [] then
        some ⟨{ st.world with mutex := { st.world.mutex with poisoned := true } }, st.shutDown⟩
      else none

/-- A backend that was just created, next to whatever state file there is. -/
def Lifecycle.initial (file : StateFile) : Lifecycle :=
  ⟨⟨⟨file, 0, []⟩, ⟨RuntimeState.default, false, false⟩⟩, false⟩

/-- The workers that run are those of the stored handle; after a shutdown there are
    none, and neither a transport nor a device. -/
def Lifecycle.Sound (st : Lifecycle) : Prop :=
  st.world.other.running = (st.world.mutex.value.transportTasks.map (·.stopFlag)).toList ∧
    (st.shutDown = true → st.world.other.running = [] ∧ st.world.mutex.value.transport = none ∧
      st.world.mutex.value.tunDevice = none)

/-- Between operations the caller holds no lock. -/
structure Lifecycle.Tracked (st : Lifecycle) : Prop where
  sound : st.Sound
  free : st.world.mutex.held = false

/-- The event is no `ensure_credentials` that drops a handle. -/
def Lifecycle.KeepsHandle (X : Externals) (st : Lifecycle) : LifecycleEvent → Prop
  | .operation .ensureCredentials env => ¬ DropsTasks X env st.world
  | _ => True

section Runs

variable {X : Externals} {b : CustomBackend} {st st' : Lifecycle}

/-- What a worker does under the lock leaves the handle. -/
theorem worker_tasks {s : Section} (h : s.ofWorker = true) (rt : RuntimeState) :
    (s.effect X rt).transportTasks = rt.transportTasks := by
  cases s with
  | udp bufferLen received sendTo clock =>
      show (rt.receiveOverlayPacket X sendTo clock bufferLen received).2.transportTasks = _
      unfold RuntimeState.receiveOverlayPacket
      split
      · rfl
      split
      · rfl
      · rfl
      · exact openReceivedFrame_tasks _ _ _ _ _
  | relay message sendTo clock =>
      show (rt.openRelayFrame X sendTo clock message).2.transportTasks = _
      unfold RuntimeState.openRelayFrame
      split
      · rfl
      · rfl
      · exact openReceivedFrame_tasks _ _ _ _ _
  | send packet sendTo net => exact sendOverlayPacket_tasks rt sendTo net packet
  | rxDrop => rfl
  | _ => cases h

theorem tracked_initial (file : StateFile) : (Lifecycle.initial file).Tracked where
  sound := ⟨rfl, fun hshut => nomatch hshut⟩
  free := rfl

theorem Lifecycle.Tracked.step {e : LifecycleEvent} (hst : st.Tracked) (hkeeps : st.KeepsHandle X e)
    (hstep : st.step X b e = some st') : st'.Tracked := by
  obtain ⟨h, hfree⟩ := hst
  cases e with
  | operation op env =>
      simp only [Lifecycle.step] at hstep
      split at hstep
      · cases hstep
      rename_i r w' hrun
      obtain rfl := Option.some.inj hstep
      have hdrops : op = .ensureCredentials → ¬ DropsTasks X env st.world := by
        rintro rfl
        exact hkeeps
      obtain ⟨haccount, hheld⟩ := operation_account hrun h.1 hdrops
      refine ⟨⟨haccount, fun hshut => ?_⟩, hheld.trans hfree⟩
      cases op with
      | shutdown =>
          cases r with
          | error e => cases hshut
          | ok u => exact shutdown_ok hrun h.1
      | _ => cases hshut
  | worker s =>
      simp only [Lifecycle.step] at hstep
      split at hstep
      · rename_i hworker
        obtain rfl := Option.some.inj hstep
        refine ⟨⟨?_, fun hshut => absurd (h.2 hshut).1 hworker.2.1⟩, hfree⟩
        show st.world.other.running = ((s.effect X st.world.mutex.value).transportTasks.map _).toList
        rw [worker_tasks hworker.1]
        exact h.1
      · cases hstep
  | panic =>
      simp only [Lifecycle.step] at hstep
      split at hstep
      · obtain rfl := Option.some.inj hstep
        exact ⟨h, hfree⟩
      · cases hstep

/-- An event that does not keep the handle leaves workers that no handle is stored for. -/
theorem not_sound_of_drop {e : LifecycleEvent} (hst : st.Tracked) (hdrops : ¬ st.KeepsHandle X e) :
    ∃ st', st.step X b e = some st' ∧ ¬ st'.Sound := by
  obtain ⟨h, hfree⟩ := hst
  cases e with
  | worker s => exact absurd trivial hdrops
  | panic => exact absurd trivial hdrops
  | operation op env =>
      cases op with
      | ensureCredentials =>
          have hdrops : DropsTasks X env st.world := not_not.mp hdrops
          obtain ⟨rt, hnone, hrun⟩ := ensureCredentials_drops (b := b) hfree hdrops
          refine ⟨⟨setValue st.world rt, false⟩, ?_, fun hsound => ?_⟩
          · simp only [Lifecycle.step, hrun]
          · obtain ⟨tasks, htasks⟩ := Option.isSome_iff_exists.mp hdrops.2.1
            have hbefore := h.1
            have hafter : st.world.other.running = (rt.transportTasks.map (·.stopFlag)).toList := hsound.1
            rw [hnone] at hafter
            rw [htasks, hafter] at hbefore
            cases hbefore
      | _ => exact absurd trivial hdrops

/-- **Worker lifecycle.**  In a run of operations on one backend, with workers acting and
    failing in between, the workers whose stop flag is not set are those of the stored
    handle in every state, and after a shutdown there is no worker, no transport and no
    device, exactly when no operation of the run is an `ensure_credentials` that finds a
    stored identity while a handle is stored. -/
theorem workers_accounted_iff (X : Externals) (b : CustomBackend) (file : StateFile)
    (events : List LifecycleEvent) :
    Throughout (Lifecycle.step X b) Lifecycle.Sound (Lifecycle.initial file) events ↔
      Along (Lifecycle.step X b) (Lifecycle.KeepsHandle X) (Lifecycle.initial file) events := by
  have hsound : ∀ st : Lifecycle, st.Tracked → st.Sound := fun _ hst => hst.sound
  exact throughout_iff_along hsound (fun _ _ _ hst hkeeps hstep => hst.step hkeeps hstep)
    (fun _ _ hst hdrops => not_sound_of_drop hst hdrops) (tracked_initial file) events

end Runs

open Reference in
/-- The first `ensure_credentials` makes an identity, the local configuration starts the
    workers, the second `ensure_credentials` drops their handle, and a shutdown that
    succeeds leaves them running. -/
theorem dropped_workers_outlive_shutdown :
    ¬ Throughout (Lifecycle.step Externals.reference ⟨"tfscale0", true⟩) Lifecycle.Sound
      (Lifecycle.initial .absent) [.operation .ensureCredentials env,
        .operation (.applyLocalConfig localConfig) env, .operation .ensureCredentials env,
        .operation .shutdown env] := by
  have hrun : (run (Lifecycle.step Externals.reference ⟨"tfscale0", true⟩) (Lifecycle.initial .absent)
      [.operation .ensureCredentials env, .operation (.applyLocalConfig localConfig) env,
        .operation .ensureCredentials env, .operation .shutdown env]).map (fun st =>
          (st.world.other.running, st.shutDown)) = some ([0], true) := by decide +kernel
  intro hall
  obtain ⟨st, hst, hpair⟩ := Option.map_eq_some_iff.mp hrun
  obtain ⟨hrunning, hshut⟩ := Prod.mk.inj hpair
  have hsound := ((hall.last hst).2 hshut).1
  rw [hrunning] at hsound
  cases hsound

end TfScale.Custom
