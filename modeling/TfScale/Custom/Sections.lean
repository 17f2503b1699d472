/-
  TfScale.Custom.Sections

  The runtime as the object that threads share: whatever happens to it happens in
  a critical section of its lock.

  `Section` lists the critical sections of the source, those of the worker loops
  and those of the operations.  `operation_sections` connects the two views: an
  operation that returns has changed the runtime by a sequence of sections.  Other
  threads may run their own sections between any two of them, so a run of the
  backend is an arbitrary interleaving of sections.
-/

import TfScale.Custom.Locking

namespace TfScale.Custom

open ThreadM

inductive Section where
  /-- `receive_overlay_packet` in the UDP loop -/
  | udp (bufferLen : Nat) (received : Received) (sendTo : SendTo) (clock : Nat → SystemTime)
  /-- `open_relay_frame` in the relay loop -/
  | relay (message : RelayMessage) (sendTo : SendTo) (clock : Nat → SystemTime)
  /-- `send_overlay_packet` in the TUN loop -/
  | send (packet : Bytes) (sendTo : SendTo) (net : RelayNet)
  /-- `record_rx_drop` after a failure in one of the loops -/
  | rxDrop
  /-- `probe_peer_direct_paths` -/
  | probe (sendTo : SendTo) (clock : Nat → SystemTime)
  /-- the section of `replace_state` -/
  | replace (salts : Salts) (state : CustomBackendState)
  /-- `ensure_credentials` with a stored identity -/
  | reload (salts : Salts) (state : CustomBackendState)
  /-- `apply_relay_map` -/
  | relayMap (relays : List RelayConfig)
  | setTasks (tasks : Option TransportTasks)
  | setTransport (transport : Option TransportRuntime)
  /-- `probe_public_endpoint` of the transport -/
  | publicProbe (sendTo : SendTo) (probeServer : SocketAddr) (start : Nat) (timeout : Duration)
      (answers : List (Received × Nat))
  | setTunStatus (status : TunStatus)
  | setTunDevice (device : Option TunDevice)

namespace Section

/-- What a section does to the runtime. -/
def effect (X : Externals) (rt : RuntimeState) : Section → RuntimeState
  | udp bufferLen received sendTo clock =>
      (rt.receiveOverlayPacket X sendTo clock bufferLen received).2
  | relay message sendTo clock => (rt.openRelayFrame X sendTo clock message).2
  | send packet sendTo net => (rt.sendOverlayPacket X sendTo net packet).2
  | rxDrop => rt.recordRxDrop
  | probe sendTo clock => (rt.probePeerDirectPaths X sendTo clock).2
  | replace salts state => rt.rebuilt X salts state
  | reload salts state => RuntimeState.fromPersisted X salts state
  | relayMap relays => rt.withRelays relays
  | setTasks tasks => rt.withTasks tasks
  | setTransport transport => rt.withTransport transport
  | publicProbe sendTo probeServer start timeout answers =>
      rt.withTransport (rt.transport.map (·.afterProbe sendTo probeServer start timeout answers))
  | setTunStatus status => rt.withTunStatus status
  | setTunDevice device => rt.withTunDevice device

/-- The section gives the runtime new sessions. -/
def rebuilds : Section → Bool
  | replace .. | reload .. => true
  | _ => false

end Section

-- ============================================================================
-- Operations are sequences of sections
-- ============================================================================

/-- A program that returns has changed the runtime by a sequence of sections. -/
def BySections {α : Type} (X : Externals) (m : BackendM α) : Prop :=
  ∀ w r w', m.run w = .ok (r, w') →
    ∃ sections : List Section, w'.mutex.value = sections.foldl (Section.effect X) w.mutex.value

section Rules

variable {X : Externals} {α β : Type}

theorem bySections_ofExcept (r : Result α) : BySections X (ofExcept r : BackendM α) := by
  intro w r' w' h
  obtain ⟨-, rfl⟩ := Prod.mk.inj (Except.ok.inj h)
  exact ⟨[], rfl⟩

theorem bySections_halt (h : Halt) : BySections X (halt h : BackendM α) := by
  intro w r w' heq
  cases heq

theorem bySections_other (f : Machine → Result α × Machine) :
    BySections X (other f : BackendM α) := by
  intro w r w' h
  obtain ⟨-, rfl⟩ := Prod.mk.inj (Except.ok.inj h)
  exact ⟨[], rfl⟩

theorem BySections.bind {m : BackendM α} {f : α → BackendM β} (hm : BySections X m)
    (hf : ∀ a, BySections X (f a)) : BySections X (m >>= f) := by
  intro w r w' h
  rcases bind_returned h with ⟨_, hmw, -⟩ | ⟨a, w₁, hmw, hfw⟩
  · exact hm w _ _ hmw
  · obtain ⟨first, hfirst⟩ := hm w _ _ hmw
    obtain ⟨second, hsecond⟩ := hf a w₁ r w' hfw
    exact ⟨first ++ second, by rw [List.foldl_append, ← hfirst, hsecond]⟩

theorem BySections.attempt {m : BackendM α} (hm : BySections X m) :
    BySections X (ThreadM.attempt m) := by
  intro w r w' h
  obtain ⟨r₁, hmw⟩ := attempt_returned h
  exact hm w r₁ w' hmw

/-- A guarded scope acts as its body does. -/
theorem BySections.withGuard {body : BackendM α} (hbody : BySections X body) :
    BySections X (ThreadM.withGuard poisonError body) := by
  intro w r w' h
  obtain ⟨-, rfl | ⟨w₁, hrun, rfl⟩⟩ := withGuard_returned h
  · exact ⟨[], rfl⟩
  · have hkept := hbody (acquired w) r w₁ hrun
    exact hkept

/-- One write under the lock is some sections. -/
theorem bySections_protect {f : RuntimeState → Result α × RuntimeState}
    (hf : ∀ rt, ∃ sections : List Section, (f rt).2 = sections.foldl (Section.effect X) rt) :
    BySections X (protect f) := by
  intro w r w' h
  obtain ⟨-, rfl⟩ := Prod.mk.inj (Except.ok.inj h)
  exact hf w.mutex.value

theorem bySections_locked {f : RuntimeState → Result α × RuntimeState}
    (hf : ∀ rt, ∃ sections : List Section, (f rt).2 = sections.foldl (Section.effect X) rt) :
    BySections X (locked f) :=
  (bySections_protect hf).withGuard

/-- A section that only reads. -/
theorem bySections_read (f : RuntimeState → Result α) :
    BySections X (locked fun rt => (f rt, rt)) :=
  bySections_locked fun _ => ⟨[], rfl⟩

theorem bySections_replaceState (env : Env) (state : CustomBackendState) :
    BySections X (replaceState X env state) :=
  (bySections_other _).bind fun _ => bySections_locked fun _ => ⟨[.replace env.salts state], rfl⟩

theorem bySections_stopTransportTasks : BySections X stopTransportTasks := by
  refine (bySections_locked fun _ => ⟨[.setTasks none], rfl⟩).bind fun tasks => ?_
  cases tasks with
  | none => exact bySections_ofExcept _
  | some tasks => exact bySections_other _

theorem bySections_startTransportTasks : BySections X startTransportTasks := by
  refine ((bySections_protect fun _ => ⟨[], rfl⟩).bind fun rt => ?_).withGuard
  split
  · exact bySections_ofExcept _
  · refine BySections.bind ?_ fun tasks => bySections_protect fun _ => ⟨[.setTasks (some tasks)], rfl⟩
    refine (bySections_other _).bind fun _ => BySections.bind ?_ fun _ => bySections_ofExcept _
    refine (bySections_read _).attempt.bind fun target => ?_
    cases target <;> exact bySections_ofExcept _

theorem bySections_bindTransport (env : Env) (listenPort : UInt16) :
    BySections X (bindTransport env listenPort) :=
  bySections_stopTransportTasks.bind fun _ =>
    (bySections_locked fun _ => ⟨[.setTransport none], rfl⟩).bind fun _ =>
      (bySections_ofExcept _).bind fun transport =>
        (bySections_locked fun _ => ⟨[.setTransport (some transport)], rfl⟩).bind fun _ =>
          bySections_startTransportTasks

theorem bySections_applyRelayMap (relays : List RelayConfig) : BySections X (applyRelayMap relays) :=
  bySections_locked fun _ => ⟨[.relayMap relays], rfl⟩

theorem bySections_setTunStatus (status : TunStatus) : BySections X (setTunStatus status) :=
  bySections_locked fun _ => ⟨[.setTunStatus status], rfl⟩

theorem bySections_setUpTun (b : CustomBackend) (env : Env) (config : TunConfig) :
    BySections X (setUpTun b env config) := by
  unfold setUpTun
  split
  · exact (bySections_bindTransport env _).bind fun _ => bySections_setTunStatus _
  · split
    · rename_i device _
      exact ((bySections_locked fun _ =>
          ⟨[.setTunStatus device.status, .setTunDevice (some device)], rfl⟩).bind fun _ =>
        bySections_startTransportTasks).bind fun _ => bySections_bindTransport env _
    · exact (bySections_setTunStatus _).bind fun _ => bySections_ofExcept _

theorem bySections_applyLocalConfig (b : CustomBackend) (env : Env) (config : LocalBackendConfig) :
    BySections X (applyLocalConfig X b env config) := by
  refine (bySections_other _).bind fun state => (bySections_replaceState env _).bind fun _ =>
    (bySections_other _).bind fun stored => ?_
  cases stored.localConfig with
  | none => exact bySections_halt _
  | some config => exact bySections_setUpTun b env _

theorem bySections_ensureCredentials (env : Env) : BySections X (ensureCredentials X env) := by
  refine (bySections_other _).bind fun state => ?_
  cases state.identity with
  | none => exact (bySections_replaceState env _).bind fun _ => bySections_ofExcept _
  | some identity =>
      refine (bySections_ofExcept _).bind fun derived => ?_
      split
      · exact bySections_ofExcept _
      · exact (bySections_locked fun _ => ⟨[.reload env.salts state], rfl⟩).bind fun _ =>
          bySections_ofExcept _

theorem bySections_probeTransport (env : Env) (probeServer : SocketAddr) (timeout : Duration) :
    BySections X (probeTransport env probeServer timeout) := by
  intro w r w' h
  rcases bind_returned h with ⟨_, herror, -⟩ | ⟨rt, w₁, hread, hprobe⟩
  · cases herror
  · obtain ⟨hvalue, rfl⟩ := Prod.mk.inj (Except.ok.inj hread)
    obtain rfl := Except.ok.inj hvalue
    split at hprobe
    · exact bySections_ofExcept _ _ _ _ hprobe
    · rename_i transport htransport
      split at hprobe
      · exact bySections_halt _ _ _ _ hprobe
      · rename_i result transport' hreturned
        obtain ⟨-, rfl⟩ := Prod.mk.inj (Except.ok.inj hprobe)
        refine ⟨[.publicProbe env.sendTo probeServer env.probeStart timeout env.probeAnswers], ?_⟩
        have hafter : transport.afterProbe env.sendTo probeServer env.probeStart timeout env.probeAnswers =
            transport' := by
          rw [TransportRuntime.afterProbe, hreturned]
          rfl
        show w.mutex.value.withTransport (some transport') = w.mutex.value.withTransport _
        rw [htransport, Option.map_some, hafter]

theorem bySections_maintainPeerPaths (env : Env) : BySections X (maintainPeerPaths X env) := by
  refine bySections_locked fun rt => ⟨[.probe env.sendTo env.clock], ?_⟩
  change _ = (rt.probePeerDirectPaths X env.sendTo env.clock).2
  cases rt.probePeerDirectPaths X env.sendTo env.clock with
  | mk r rt' => cases r <;> rfl

theorem bySections_shutdown (env : Env) : BySections X (shutdown env) := by
  refine bySections_stopTransportTasks.bind fun _ =>
    (bySections_locked fun _ => ⟨[.setTransport none], rfl⟩).bind fun _ =>
      (bySections_locked fun _ => ⟨[.setTunDevice none], rfl⟩).bind fun device => ?_
  cases device with
  | none => exact bySections_ofExcept _
  | some device => exact (bySections_ofExcept _).bind fun _ => bySections_setTunStatus _

end Rules

/-- Every operation that returns has changed the runtime by a sequence of sections. -/
theorem operation_sections (X : Externals) (b : CustomBackend) (env : Env) (op : Operation) :
    BySections X (op.run X b env) := by
  cases op with
  | ensureCredentials => exact (bySections_ensureCredentials env).bind fun _ => bySections_ofExcept _
  | applyLocalConfig config => exact bySections_applyLocalConfig b env config
  | applyRelayMap relays => exact bySections_applyRelayMap relays
  | applyPeerMap peers =>
      exact (bySections_other _).bind fun _ => (bySections_ofExcept _).bind fun _ =>
        bySections_replaceState env _
  | localEndpoints => exact (bySections_read _).bind fun _ => bySections_ofExcept _
  | probePublicEndpoint probeServer timeout =>
      refine BySections.bind ?_ fun _ => bySections_ofExcept _
      refine bySections_stopTransportTasks.bind fun _ =>
        (bySections_probeTransport env probeServer timeout).withGuard.bind fun result =>
          bySections_startTransportTasks.attempt.bind fun restart => ?_
      cases restart <;> exact bySections_ofExcept _
  | maintainPeerPaths => exact bySections_maintainPeerPaths env
  | status =>
      refine BySections.bind ?_ fun _ => bySections_ofExcept _
      exact (bySections_other _).bind fun _ => (bySections_read _).bind fun _ =>
        (bySections_read _).bind fun _ => (bySections_read _).bind fun _ =>
          (bySections_read _).bind fun _ => bySections_ofExcept _
  | shutdown => exact bySections_shutdown env

end TfScale.Custom
