/-
  TfScale.Relay.TwoConnections

  The two connections of a backend to its relay.

  `TcpRelayFrameSender` opens one to send on, `spawn_relay_to_tun_loop` one to read
  from, and both register the device of the backend.  The relay keeps the sender of the
  session that registered last, so frames for the device reach the loop exactly when
  its connection was the second to register; `relayed_frames_reach_loop_iff` says so
  for every run of the relay before and after.
-/

import TfScale.Custom.Backend
import TfScale.Custom.RelaySender
import TfScale.Relay.Routing

namespace TfScale.Relay

open RelayState
open TfScale.Custom (RuntimeState TcpRelayFrameSender RelayNet RelayFrameSender)

-- ============================================================================
-- The first lines
-- ============================================================================

/-- The first line that a connected frame sender has written. -/
def senderLine (connected : TcpRelayFrameSender) : Option RelayMessage :=
  connected.writer.bind fun stream => stream.lines.head?

/-- What `spawn_relay_to_tun_loop` writes to its connection. -/
def loopLine (target : RelayConfig × String) : RelayMessage := .register target.2 ""

theorem ensureConnected_line {sender connected : TcpRelayFrameSender} {net : RelayNet}
    (hnew : sender.writer = none) (h : sender.ensureConnected net = (.ok (), connected)) :
    senderLine connected = some (.register sender.deviceId sender.nodeKey) := by
  rcases sender.ensureConnected_cases net with ⟨hcached, -⟩ | ⟨-, -, hopened⟩ | ⟨-, -, error, hfailed⟩
  · exact absurd hnew hcached
  · obtain ⟨-, rfl⟩ := Prod.mk.inj (hopened.symm.trans h)
    rfl
  · cases hfailed.symm.trans h

/-- Both connections are opened for the device of the backend. -/
theorem sender_of_withRelays {rt : RuntimeState} {relays : List RelayConfig} {sender : TcpRelayFrameSender}
    {target : RelayConfig × String} (hsender : (rt.withRelays relays).relaySender = .tcp sender)
    (htarget : (rt.withRelays relays).relayLoopTarget = some target) :
    sender.deviceId = target.2 ∧ sender.writer = none := by
  have hloop : ∃ relay config, relays.head? = some relay ∧ rt.persisted.localConfig = some config ∧
      target = (relay, config.deviceId) := by
    obtain ⟨relay, hrelay, hrest⟩ := Option.bind_eq_some_iff.mp htarget
    obtain ⟨config, hconfig, heq⟩ := Option.bind_eq_some_iff.mp hrest
    exact ⟨relay, config, hrelay, hconfig, (Option.some.inj heq).symm⟩
  obtain ⟨relay, config, hrelay, hconfig, rfl⟩ := hloop
  have heq : (rt.withRelays relays).relaySender = .tcp (.new relay config.deviceId "") := by
    unfold RuntimeState.withRelays
    dsimp only
    rw [hconfig, hrelay]
  obtain rfl := RelayFrameSender.tcp.inj (heq.symm.trans hsender)
  exact ⟨rfl, rfl⟩

-- ============================================================================
-- A session registers what its first line says
-- ============================================================================

/-- The session is about to register the device, or has registered it and no other. -/
structure Greeted (st : RelayState) (s : SessionId) (deviceId : String) : Prop where
  phase : st.phase s = some (.registering deviceId) ∨ RegisteredAs deviceId (st.phase s)
  devices : ∀ d, (d, s) ∈ st.registrations → d = deviceId

variable {st st' : RelayState} {notes : List Note} {s t a b : SessionId} {deviceId : String}

theorem Greeted.step (h : Greeted st s deviceId) (hmove : Moves st notes st') : Greeted st' s deviceId where
  phase := by
    rcases h.phase with hregistering | hregistered
    · rcases phases_of_moves hmove s with hsame | ⟨hnone, -⟩ | ⟨phase, next, hphase, hnext, hgoes⟩
      · exact Or.inl (hsame.trans hregistering)
      · cases hnone.symm.trans hregistering
      · obtain rfl := Option.some.inj (hphase.symm.trans hregistering)
        cases hgoes with
        | registered d =>
            right
            rw [hnext]
            rfl
        | idle hidles => cases hidles
    · exact Or.inr (registeredAs_of_moves hmove hregistered)
  devices := by
    intro d hmem
    cases hmove with
    | @register s' d' hphase =>
        rcases List.mem_cons.mp hmem with heq | hold
        · obtain ⟨rfl, rfl⟩ := Prod.mk.inj heq
          rcases h.phase with hregistering | hregistered
          · cases hphase.symm.trans hregistering
            rfl
          · rw [hphase] at hregistered
            cases hregistered
        · exact h.devices d hold
    | _ => exact h.devices d hmem

theorem greeted_of_firstLine (h : Registered st) {nodeKey : String} {writeOk : Bool}
    (hstep : st.step (.firstLine s (.line (some (.register deviceId nodeKey))) writeOk) = some st') :
    Greeted st' s deviceId := by
  simp only [RelayState.step] at hstep
  split at hstep
  swap
  · cases hstep
  rename_i hphase
  obtain rfl := Option.some.inj hstep
  refine ⟨Or.inl ?_, fun d hmem => ?_⟩
  · exact phase_update_self hphase fun _ => rfl
  · have hregistered := h.phases d s hmem
    rw [hphase] at hregistered
    cases hregistered

theorem registered_of_run {events : List Event} (h : Registered st) (hrun : run step st events = some st') :
    Registered st' :=
  invariant_run (fun _ _ _ hst hstep => hst.step (moves_of_step hstep)) h hrun

theorem greeted_of_run {events : List Event} (h : Registered st) (hrun : run step st events = some st')
    {nodeKey : String} {writeOk : Bool}
    (hmem : .firstLine s (.line (some (.register deviceId nodeKey))) writeOk ∈ events) :
    Greeted st' s deviceId := by
  induction events generalizing st with
  | nil => cases hmem
  | cons e es ih =>
      obtain ⟨next, hnext, hrest⟩ := run_cons_eq_some.mp hrun
      rcases List.mem_cons.mp hmem with rfl | hlater
      · have hkeep : ∀ st e st', Greeted st s deviceId → step st e = some st' → Greeted st' s deviceId :=
          fun _ _ _ hg hstep => hg.step (moves_of_step hstep)
        exact invariant_run (s := next) (t := st') hkeep (greeted_of_firstLine h hnext) hrest
      · exact ih (h.step (moves_of_step hnext)) hrest hlater

-- ============================================================================
-- After both have registered
-- ============================================================================

/-- The connection of `s` stays open: its lines decode, and what is written to it gets
    through. -/
def StaysOpen (s : SessionId) : Event → Prop
  | .firstLine s' input writeOk | .inbound s' input writeOk =>
      s' = s → (∃ message, input = .line (some message)) ∧ writeOk = true
  | .send s' writeOk | .outbound s' writeOk => s' = s → writeOk = true
  | _ => True

def destinationOf : RelayMessage → Option String
  | .frame _ destination _ => some destination
  | _ => none

/-- From `st` on, as long as the connections of `a` and `b` stay open and nobody else
    registers the device, every frame that is queued for the device is queued to `b`. -/
def ReachesLoop (a b : SessionId) (deviceId : String) (st : RelayState) : Prop :=
  ∀ events x, run Traced.step ⟨st, []⟩ events = some x →
    (∀ e ∈ events, StaysOpen a e ∧ StaysOpen b e) →
    (∀ s, (deviceId, s) ∈ x.st.registrations → s = a ∨ s = b) →
    ∀ t s frame, (s, frame) ∈ x.queued t → destinationOf frame = some deviceId → t = b

/-- The sender of `a` is out of reach: it is not in the map, and no task that could still
    use it has it in its hands. -/
structure OutOfReach (a : SessionId) (deviceId : String) (st : RelayState) : Prop where
  registered : (deviceId, a) ∈ st.registrations
  map : st.sessions.lookup deviceId ≠ some a
  flight : st.Ended a ∨ ∀ s d frame, st.phase s ≠ some (.sending d frame (some a))

/-- A session does not register twice. -/
theorem OutOfReach.step (h : OutOfReach a deviceId st) (hregistered : Registered st)
    (hmove : Moves st notes st') : OutOfReach a deviceId st' where
  registered := registrations_of_moves hmove h.registered
  map := by
    intro hlookup
    cases hmove with
    | @register s d hphase =>
        change (st.sessions.insert d s).lookup deviceId = some a at hlookup
        rw [HashMap.lookup_insert_eq] at hlookup
        split at hlookup
        · obtain rfl := Option.some.inj hlookup
          have hbefore := hregistered.phases _ _ h.registered
          rw [hphase] at hbefore
          cases hbefore
        · exact h.map hlookup
    | @unregister s d hphase =>
        change (st.sessions.erase d).lookup deviceId = some a at hlookup
        rw [HashMap.lookup_erase_eq] at hlookup
        split at hlookup
        · cases hlookup
        · exact h.map hlookup
    | _ => exact h.map hlookup
  flight := by
    rcases h.flight with hended | hnone
    · exact Or.inl (ended_of_moves hmove hended)
    · right
      intro s d frame hphase
      rcases sending_of_moves hmove hphase with hbefore | hlookup
      · exact hnone s d frame hbefore
      · obtain ⟨source, destination, payload, rfl, hmem⟩ := hregistered.lookupSender hlookup
        obtain rfl := hregistered.devices _ _ _ hmem h.registered
        exact h.map hlookup

/-- What the steps after both registrations keep. -/
structure Spared (a : SessionId) (deviceId : String) (x : Traced) : Prop where
  registered : Registered x.st
  outOfReach : OutOfReach a deviceId x.st
  addressed : Addressed x
  queue : x.queued a = []

theorem Spared.step {x y : Traced} (h : Spared a deviceId x) {event : Event}
    (hstep : x.step event = some y) : Spared a deviceId y := by
  obtain ⟨st', hst', rfl⟩ := Option.map_eq_some_iff.mp hstep
  have hmove := moves_of_step hst'
  refine ⟨h.registered.step hmove, h.outOfReach.step h.registered hmove,
    h.addressed.step h.registered hmove, ?_⟩
  show (x.log ++ x.st.notes event).filterMap (Note.queuedTo a) = []
  have hbefore : x.log.filterMap (Note.queuedTo a) = [] := h.queue
  rw [List.filterMap_append, hbefore, List.nil_append]
  refine List.eq_nil_iff_forall_not_mem.mpr fun q hq => ?_
  obtain ⟨d, hphase, hlive⟩ := queued_of_moves hmove hq
  rcases h.outOfReach.flight with hended | hnone
  · exact hlive hended
  · exact hnone _ _ _ hphase

/-- When the sender of `a` is out of reach, the frames for the device reach `b`. -/
theorem OutOfReach.reachesLoop (h : OutOfReach a deviceId st) (hregistered : Registered st) :
    ReachesLoop a b deviceId st := by
  intro events x hrun _ honly t s frame hqueued hdestination
  have hstart : Spared a deviceId ⟨st, []⟩ := ⟨hregistered, h, fun _ _ _ hmem => (by cases hmem), rfl⟩
  have hspared : Spared a deviceId x := invariant_run (fun _ _ _ hx hstep => hx.step hstep) hstart hrun
  obtain ⟨source, destination, payload, rfl, hmem⟩ := hspared.addressed t s frame hqueued
  obtain rfl : destination = deviceId := Option.some.inj hdestination
  rcases honly t hmem with rfl | rfl
  · rw [hspared.queue] at hqueued
    cases hqueued
  · rfl

-- ============================================================================
-- Frames that do not reach the loop
-- ============================================================================

/-- A frame that is on its way to a task that has not returned is queued there. -/
theorem send_queues {frame : RelayMessage} {d : String}
    (hphase : st.phase s = some (.sending d frame (some a))) (hlive : ¬ st.Ended a) :
    ∃ st', st.step (.send s true) = some st' ∧ st'.registrations = st.registrations ∧
      st.notes (.send s true) = [.passed s frame (some a) (some a)] := by
  have hlive' : st.phase a ≠ some .ended := hlive
  have hstep : st.step (.send s true) = some (({ st with
      tasks := st.tasks.modify a fun t => { t with queue := t.queue ++ [frame] }
      routedFrames := st.routedFrames + 1 } : RelayState).setPhase s (.serving d)) := by
    simp only [RelayState.step, hphase, sendFrame, if_neg hlive']
  refine ⟨_, hstep, rfl, ?_⟩
  simp [RelayState.notes, hphase, receiver, hlive']

/-- A lookup in flight that holds the sender of `a` breaks it. -/
theorem not_reachesLoop_of_flight (hregistered : Registered st) (hab : a ≠ b)
    (honly : ∀ s, (deviceId, s) ∈ st.registrations → s = a ∨ s = b)
    (hdevice : (deviceId, a) ∈ st.registrations) {frame : RelayMessage} {d : String}
    (hphase : st.phase s = some (.sending d frame (some a))) (hlive : ¬ st.Ended a) :
    ¬ ReachesLoop a b deviceId st := by
  intro hreaches
  obtain ⟨st', hstep, hsame, hnotes⟩ := send_queues hphase hlive
  obtain ⟨source, destination, payload, rfl, hmem⟩ := hregistered.senders _ _ _ _ hphase
  obtain rfl := hregistered.devices _ _ _ hmem hdevice
  have hrun : run Traced.step ⟨st, []⟩ [.send s true] =
      some ⟨st', [.passed s (.frame source destination payload) (some a) (some a)]⟩ := by
    simp only [run, Traced.step, hstep, hnotes, Option.map_some, Option.bind_some, List.nil_append]
  refine hab (hreaches _ _ hrun ?_ ?_ a s (.frame source destination payload) ?_ rfl)
  · intro e he
    obtain rfl := List.mem_singleton.mp he
    exact ⟨fun _ => rfl, fun _ => rfl⟩
  · intro s' hs'
    exact honly s' (hsame ▸ hs')
  · simp [Traced.queued, Note.queuedTo]

/-- So does an entry of `a` in the map: a frame for the device is looked up and queued to
    `a`, here one that `a` sends itself. -/
theorem not_reachesLoop_of_held (hab : a ≠ b)
    (honly : ∀ s, (deviceId, s) ∈ st.registrations → s = a ∨ s = b)
    (hheld : st.sessions.lookup deviceId = some a) (hphase : st.phase a = some (.serving deviceId)) :
    ¬ ReachesLoop a b deviceId st := by
  intro hreaches
  obtain ⟨frame, hframe⟩ : ∃ frame, frame = RelayMessage.frame deviceId deviceId "" := ⟨_, rfl⟩
  have hinbound : st.step (.inbound a (.line (some frame)) true) =
      some (st.setPhase a (.looking deviceId frame)) := by
    rw [hframe]
    simp only [RelayState.step, hphase, onInbound]
  have hlooking : (st.setPhase a (.looking deviceId frame)).phase a = some (.looking deviceId frame) :=
    phase_update_self hphase fun _ => rfl
  have hfound : (st.setPhase a (.looking deviceId frame)).lookupSender frame = some a := by
    rw [hframe]
    exact hheld
  have hlookup : (st.setPhase a (.looking deviceId frame)).step (.lookup a) =
      some ((st.setPhase a (.looking deviceId frame)).setPhase a (.sending deviceId frame (some a))) := by
    simp only [RelayState.step, hlooking, hfound]
  have hsending : ((st.setPhase a (.looking deviceId frame)).setPhase a
      (.sending deviceId frame (some a))).phase a = some (.sending deviceId frame (some a)) :=
    phase_update_self hlooking fun _ => rfl
  have hlive : ¬ ((st.setPhase a (.looking deviceId frame)).setPhase a
      (.sending deviceId frame (some a))).Ended a := by
    intro hended
    cases hsending.symm.trans hended
  obtain ⟨st', hsend, hsame, hnotes⟩ := send_queues hsending hlive
  have hread : st.notes (.inbound a (.line (some frame)) true) = [.read a frame] := by
    rw [hframe]
    rfl
  have hfoundNote : (st.setPhase a (.looking deviceId frame)).notes (.lookup a) =
      [.found a frame (some a)] := by
    simp only [RelayState.notes, hlooking, hfound]
  have hrun : run Traced.step ⟨st, []⟩ [.inbound a (.line (some frame)) true, .lookup a, .send a true] =
      some ⟨st', [.read a frame, .found a frame (some a), .passed a frame (some a) (some a)]⟩ := by
    simp only [run, Traced.step, hinbound, hlookup, hsend, hread, hfoundNote, hnotes, Option.map_some,
      Option.bind_some, List.nil_append, List.cons_append]
  refine hab (hreaches _ _ hrun ?_ ?_ a a frame ?_ ?_)
  · intro e he
    simp only [List.mem_cons, List.not_mem_nil, or_false] at he
    rcases he with rfl | rfl | rfl
    · exact ⟨fun _ => ⟨⟨frame, rfl⟩, rfl⟩, fun _ => ⟨⟨frame, rfl⟩, rfl⟩⟩
    · exact ⟨trivial, trivial⟩
    · exact ⟨fun _ => rfl, fun _ => rfl⟩
  · intro s hs
    exact honly s (hsame ▸ hs)
  · simp [Traced.queued, List.filterMap_cons, Note.queuedTo]
  · rw [hframe]
    rfl

/-- **Frames for a backend.**  A backend with a relay opens two connections, and the
    relay has handled the registration of both, in any order and with any traffic before.
    Every frame that the relay takes for the device from then on is queued to the
    connection that the receive loop reads if and only if that connection was the second
    to register and no frame is on its way to the other one. -/
theorem relayed_frames_reach_loop_iff (rt : RuntimeState) (relays : List RelayConfig)
    (sender connected : TcpRelayFrameSender) (net : RelayNet) (target : RelayConfig × String)
    (hsender : (rt.withRelays relays).relaySender = .tcp sender)
    (hconnected : sender.ensureConnected net = (.ok (), connected))
    (htarget : (rt.withRelays relays).relayLoopTarget = some target) (before : List Event)
    (st₁ st : RelayState) (a b second : SessionId) (writeA writeB : Bool) (hab : a ≠ b)
    (hrun : run step initial before = some st₁)
    (hlineA : .firstLine a (.line (senderLine connected)) writeA ∈ before)
    (hlineB : .firstLine b (.line (some (loopLine target))) writeB ∈ before)
    (hboth : second = a ∧ (∃ d, (d, b) ∈ st₁.registrations) ∨
      second = b ∧ ∃ d, (d, a) ∈ st₁.registrations)
    (hsecond : st₁.step (.register second) = some st)
    (honly : ∀ s, (target.2, s) ∈ st.registrations → s = a ∨ s = b) :
    ReachesLoop a b target.2 st ↔
      second = b ∧ (st.Ended a ∨ ∀ s d frame, st.phase s ≠ some (.sending d frame (some a))) := by
  have hregistered₁ : Registered st₁ := registered_of_run registered_initial hrun
  have hmove := moves_of_step hsecond
  have hregistered : Registered st := hregistered₁.step hmove
  obtain ⟨hdevice, hnew⟩ := sender_of_withRelays hsender htarget
  rw [ensureConnected_line hnew hconnected, hdevice] at hlineA
  have hgreetedA : Greeted st₁ a target.2 := greeted_of_run registered_initial hrun hlineA
  have hgreetedB : Greeted st₁ b target.2 := greeted_of_run registered_initial hrun hlineB
  -- what the second registration does
  have hst : ∀ {s : SessionId}, second = s → Greeted st₁ s target.2 →
      st.sessions.lookup target.2 = some s ∧ st.phase s = some (.serving target.2) := by
    rintro s rfl hgreeted
    simp only [RelayState.step] at hsecond
    split at hsecond
    swap
    · cases hsecond
    rename_i d hphase
    obtain rfl := Option.some.inj hsecond
    obtain rfl : d = target.2 := by
      rcases hgreeted.phase with hregistering | hdone
      · cases hphase.symm.trans hregistering
        rfl
      · rw [hphase] at hdone
        cases hdone
    refine ⟨?_, phase_update_self (r := st₁.register target.2 second) hphase fun _ => rfl⟩
    show (st₁.sessions.insert target.2 second).lookup target.2 = some second
    rw [HashMap.lookup_insert_eq, if_pos rfl]
  rcases hboth with ⟨hsecondA, -⟩ | ⟨hsecondB, d, hdA⟩
  · obtain ⟨hheld, hphase⟩ := hst hsecondA hgreetedA
    refine ⟨fun h => absurd h (not_reachesLoop_of_held hab honly hheld hphase), fun h => ?_⟩
    exact absurd (hsecondA.symm.trans h.1) hab
  · obtain ⟨hheld, -⟩ := hst hsecondB hgreetedB
    obtain rfl := hgreetedA.devices d hdA
    have hdevice : (target.2, a) ∈ st.registrations := registrations_of_moves hmove hdA
    have hmap : st.sessions.lookup target.2 ≠ some a := by
      rw [hheld]
      exact fun heq => hab (Option.some.inj heq).symm
    refine ⟨fun h => ⟨hsecondB, ?_⟩, fun h => ?_⟩
    · by_contra hflight
      obtain ⟨hlive, hsending⟩ := not_or.mp hflight
      push Not at hsending
      obtain ⟨s, d, frame, hphase⟩ := hsending
      exact not_reachesLoop_of_flight hregistered hab honly hdevice hphase hlive h
    · exact OutOfReach.reachesLoop ⟨hdevice, hmap, h.2⟩ hregistered

namespace Reference

def relay : RelayConfig := ⟨"relay_1", "tcp://127.0.0.1:9443", "local"⟩

/-- A backend that has its device id. -/
def backend : RuntimeState :=
  { RuntimeState.default with
    persisted := { Custom.CustomBackendState.default with
      localConfig := some Custom.Reference.localConfig } }

def device : String := Custom.Reference.localConfig.deviceId

def frameSender : TcpRelayFrameSender := .new relay device ""

/-- A network on which everything gets through. -/
def net : RelayNet := ⟨fun _ => .ok (), fun _ _ => .ok ()⟩

def connected : TcpRelayFrameSender := (frameSender.ensureConnected net).2

/-- Session `a` is the connection of the frame sender, session `b` that of the loop, and
    they are accepted in that order; neither has registered. -/
def connects : List Event :=
  [.accept, .firstLine 0 (.line (senderLine connected)) true,
   .accept, .firstLine 1 (.line (some (loopLine (relay, device)))) true]

/-- Another device sends a frame to the backend. -/
def frameArrives : List Event :=
  [.accept, .firstLine 2 (.line (some (.register "dev_c" ""))) true, .register 2,
   .inbound 2 (.line (some (.frame "dev_c" device "AAAA"))) true, .lookup 2, .send 2 true]

end Reference

open Reference in
/-- The loop registers second: frames reach it. -/
theorem reach_loop_registered_second :
    ∃ st₁ st, run step initial (connects ++ [.register 0]) =
        some st₁ ∧ st₁.step (.register 1) = some st ∧ ReachesLoop 0 1 device st := by
  have hfacts : ((run step initial
      (connects ++ [.register 0])).bind fun st₁ =>
        (st₁.step (.register 1)).map fun st => (st₁.registrations, st.registrations, st.tasks)) =
      some ([(device, 0)], [(device, 1), (device, 0)],
        [⟨.serving device, [], []⟩, ⟨.serving device, [], []⟩]) := by decide +kernel
  obtain ⟨st₁, hrun, hrest⟩ := Option.bind_eq_some_iff.mp hfacts
  obtain ⟨st, hstep, heq⟩ := Option.map_eq_some_iff.mp hrest
  obtain ⟨hfirst, hrest⟩ := Prod.mk.inj heq
  obtain ⟨hboth, htasks⟩ := Prod.mk.inj hrest
  refine ⟨st₁, st, hrun, hstep, ?_⟩
  refine (relayed_frames_reach_loop_iff backend [relay] frameSender connected net (relay, device) rfl
    (by decide +kernel) rfl _ st₁ st 0 1 1
    true true (by decide) hrun (by decide) (by decide) (Or.inr ⟨rfl, device, ?_⟩) hstep ?_).mpr
    ⟨rfl, Or.inr ?_⟩
  · rw [hfirst]
    exact List.mem_cons_self
  · intro s hs
    rw [hboth] at hs
    rcases List.mem_cons.mp hs with h | h
    · exact Or.inr (Prod.mk.inj h).2
    · exact Or.inl (Prod.mk.inj (List.mem_singleton.mp h)).2
  · intro s d frame hphase
    rw [RelayState.phase, htasks] at hphase
    rcases s with _ | _ | s <;> cases hphase

open Reference in
/-- The frame sender registers second: a frame for the backend is queued to its
    connection, which nobody reads. -/
theorem lost_when_sender_registers_second :
    ∃ st₁ st x, run step initial (connects ++ [.register 1]) =
        some st₁ ∧ st₁.step (.register 0) = some st ∧
      run Traced.step ⟨st, []⟩ frameArrives = some x ∧
      x.queued 0 = [(2, .frame "dev_c" device "AAAA")] ∧ x.queued 1 = [] ∧ ¬ ReachesLoop 0 1 device st := by
  have hfacts : ((run step initial
      (connects ++ [.register 1])).bind fun st₁ =>
        (st₁.step (.register 0)).bind fun st => (run Traced.step ⟨st, []⟩ frameArrives).map fun x =>
          (x.queued 0, x.queued 1, x.st.registrations)) =
      some ([(2, .frame "dev_c" device "AAAA")], [], [("dev_c", 2), (device, 0), (device, 1)]) := by
    decide +kernel
  obtain ⟨st₁, hrun, hrest⟩ := Option.bind_eq_some_iff.mp hfacts
  obtain ⟨st, hstep, hrest⟩ := Option.bind_eq_some_iff.mp hrest
  obtain ⟨x, hx, heq⟩ := Option.map_eq_some_iff.mp hrest
  obtain ⟨hsender, hrest⟩ := Prod.mk.inj heq
  obtain ⟨hloop, hregistrations⟩ := Prod.mk.inj hrest
  refine ⟨st₁, st, x, hrun, hstep, hx, hsender, hloop, fun hreaches => ?_⟩
  have hreached : (0 : SessionId) = 1 := by
    refine hreaches frameArrives x hx ?_ ?_ 0 2 (.frame "dev_c" device "AAAA") ?_ rfl
    · intro e he
      simp only [frameArrives, List.mem_cons, List.not_mem_nil, or_false] at he
      rcases he with rfl | rfl | rfl | rfl | rfl | rfl
      all_goals simp [StaysOpen]
    · intro s hs
      rw [hregistrations] at hs
      simp only [List.mem_cons, Prod.mk.injEq, List.not_mem_nil, or_false] at hs
      rcases hs with ⟨hother, -⟩ | ⟨-, rfl⟩ | ⟨-, rfl⟩
      · exact absurd hother (by decide)
      · exact Or.inl rfl
      · exact Or.inr rfl
    · rw [hsender]
      exact List.mem_cons_self
  exact absurd hreached (by decide)

end TfScale.Relay
