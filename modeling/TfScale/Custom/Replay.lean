/-
  TfScale.Custom.Replay

  Is a frame opened twice over the life of a backend?

  A run is a sequence of critical sections of the runtime lock: the worker loops'
  sections (receive, relay, send), the maintenance of paths, and the sections that
  the configuration operations consist of.  Within the life of one set of sessions
  the replay windows remember every opened frame.  `replace_state` builds new
  sessions with the same keys and empty windows, so a frame that was opened before
  a rebuild is opened again if it arrives after it; `frame_opened_at_most_once` shows
  that nothing else can open a frame twice.
-/

import TfScale.Lib.Run
import TfScale.Custom.Preserved
import TfScale.Custom.Sections

namespace TfScale.Custom

open PeerCryptoSession

-- ============================================================================
-- What keeps the replay windows
-- ============================================================================

/-- The windows of `rt'` are those of `rt`: no session is new, and none has
    another window. -/
structure KeepsWindows (rt rt' : RuntimeState) : Prop where
  frameIds : rt'.peerDeviceByFrameId = rt.peerDeviceByFrameId
  sessions : ∀ deviceId s', rt'.peerTransportSessionsByDevice.lookup deviceId = some s' →
    ∃ s, rt.peerTransportSessionsByDevice.lookup deviceId = some s ∧
      s.crypto.receiveWindow = s'.crypto.receiveWindow

namespace KeepsWindows

variable {rt rt' rt'' : RuntimeState}

theorem of_eq (hids : rt'.peerDeviceByFrameId = rt.peerDeviceByFrameId)
    (hsessions : rt'.peerTransportSessionsByDevice = rt.peerTransportSessionsByDevice) :
    KeepsWindows rt rt' where
  frameIds := hids
  sessions := fun _ s' hs' => ⟨s', hsessions ▸ hs', rfl⟩

theorem refl (rt : RuntimeState) : KeepsWindows rt rt := of_eq rfl rfl

theorem trans (h : KeepsWindows rt rt') (h' : KeepsWindows rt' rt'') : KeepsWindows rt rt'' where
  frameIds := h'.frameIds.trans h.frameIds
  sessions := by
    intro deviceId s'' hs''
    obtain ⟨s', hs', hw'⟩ := h'.sessions deviceId s'' hs''
    obtain ⟨s, hs, hw⟩ := h.sessions deviceId s' hs'
    exact ⟨s, hs, hw.trans hw'⟩

theorem of_preserves (h : Preserves PeerCryptoSession.receiveWindow rt rt') : KeepsWindows rt rt' where
  frameIds := h.frameIds
  sessions := by
    intro deviceId s' hs'
    have hview := h.sessions deviceId
    rw [hs'] at hview
    obtain ⟨s, hs, hwindow⟩ := Option.map_eq_some_iff.mp hview.symm
    exact ⟨s, hs, hwindow⟩

theorem setCrypto {deviceId : String} {session : PeerTransportSession} {crypto : PeerCryptoSession}
    (hs : rt.peerTransportSessionsByDevice.lookup deviceId = some session)
    (hw : crypto.receiveWindow = session.crypto.receiveWindow) :
    KeepsWindows rt (rt.setCrypto deviceId crypto) := of_preserves (.setCrypto hs hw)

theorem withTransport (rt : RuntimeState) (t : Option TransportRuntime) :
    KeepsWindows rt (rt.withTransport t) := of_eq rfl rfl

theorem recordRxDrop (rt : RuntimeState) : KeepsWindows rt rt.recordRxDrop := withTransport rt _

end KeepsWindows

section DataPath

variable {X : Externals}

theorem sealMessage_window (s : PeerCryptoSession) (plaintext : Bytes) (messageType : UInt8) :
    (s.sealMessage X plaintext messageType).2.receiveWindow = s.receiveWindow := by
  rw [sealMessage_snd]

theorem keepsWindows_sendOverlayPacket (rt : RuntimeState) (sendTo : SendTo) (net : RelayNet)
    (packet : Bytes) : KeepsWindows rt (rt.sendOverlayPacket X sendTo net packet).2 :=
  .of_preserves (preserves_sendOverlayPacket sealMessage_window rt sendTo net packet)

theorem keepsWindows_probePeerDirectPaths (rt : RuntimeState) (sendTo : SendTo)
    (clock : Nat → SystemTime) : KeepsWindows rt (rt.probePeerDirectPaths X sendTo clock).2 :=
  .of_preserves (preserves_probePeerDirectPaths sealMessage_window rt sendTo clock)

theorem keepsWindows_dispatchStage (rt : RuntimeState) (sendTo : SendTo) (clock : Nat → SystemTime)
    (source : Option SocketAddr) (deviceId : String) (opened : OpenFrame) :
    KeepsWindows rt (rt.dispatchStage X sendTo clock source deviceId opened).2 :=
  .of_preserves (preserves_dispatchStage sealMessage_window rt sendTo clock source deviceId opened)

end DataPath

-- ============================================================================
-- What the windows remember
-- ============================================================================

/-- The window of every session has accepted the counters of those frames in
    `opened` that the session would be asked to open. -/
def Remembers (rt : RuntimeState) (opened : List Bytes) : Prop :=
  ∀ deviceId session, rt.peerTransportSessionsByDevice.lookup deviceId = some session →
    ∃ accepted, session.crypto.receiveWindow.Represents accepted ∧
      ∀ frame ∈ opened, rt.frameDevice frame = some deviceId → frameCounter frame ∈ accepted

theorem KeepsWindows.frameDevice {rt rt' : RuntimeState} (h : KeepsWindows rt rt') (frame : Bytes) :
    rt'.frameDevice frame = rt.frameDevice frame := by
  simp only [RuntimeState.frameDevice, h.frameIds]

theorem Remembers.keep {rt rt' : RuntimeState} {opened : List Bytes} (h : Remembers rt opened)
    (hkeep : KeepsWindows rt rt') : Remembers rt' opened := by
  intro deviceId s' hs'
  obtain ⟨s, hs, hwindow⟩ := hkeep.sessions deviceId s' hs'
  obtain ⟨accepted, hrep, hmem⟩ := h deviceId s hs
  refine ⟨accepted, hwindow ▸ hrep, fun frame hframe hdevice => ?_⟩
  rw [hkeep.frameDevice] at hdevice
  exact hmem frame hframe hdevice

section Open

variable {X : Externals} {rt : RuntimeState} {opened : List Bytes}

/-- A frame that is refused leaves the windows as they were. -/
theorem Remembers.openStage_error (h : Remembers rt opened) {frame : Bytes} {e : BackendError}
    (herr : (rt.openStage X frame).1 = .error e) :
    KeepsWindows rt (rt.openStage X frame).2 := by
  rcases openStage_cases (X := X) rt frame with ⟨e', heq⟩ | ⟨deviceId, session, hdevice, hs, heq⟩
  · rw [heq]
    exact .recordRxDrop rt
  · obtain ⟨accepted, hrep, -⟩ := h deviceId session hs
    rw [heq] at herr ⊢
    by_cases hfresh : (∃ r, session.crypto.authenticate X frame = .ok r) ∧
        SlidingWindow.Fresh replayWindowBits accepted (frameCounter frame)
    · obtain ⟨⟨⟨encoded, plaintext⟩, hauth⟩, hfresh⟩ := hfresh
      rw [(openMessage_of_fresh hrep hauth hfresh).1] at herr
      cases herr
    · obtain ⟨error, hrefused⟩ := openMessage_of_not_fresh hrep hfresh
      rw [hrefused]
      exact (KeepsWindows.setCrypto hs rfl).trans (.recordRxDrop _)

/-- A frame that is opened was not remembered, and is from now on. -/
theorem Remembers.openStage_ok (h : Remembers rt opened) {frame : Bytes}
    {r : String × OpenFrame} (hok : (rt.openStage X frame).1 = .ok r) :
    frame ∉ opened ∧ Remembers (rt.openStage X frame).2 (frame :: opened) := by
  rcases openStage_cases (X := X) rt frame with ⟨e', heq⟩ | ⟨deviceId, session, hdevice, hs, heq⟩
  · rw [heq] at hok
    cases hok
  · obtain ⟨accepted, hrep, hmem⟩ := h deviceId session hs
    rw [heq] at hok ⊢
    by_cases hfresh : (∃ r, session.crypto.authenticate X frame = .ok r) ∧
        SlidingWindow.Fresh replayWindowBits accepted (frameCounter frame)
    · obtain ⟨⟨⟨encoded, plaintext⟩, hauth⟩, hfresh⟩ := hfresh
      obtain ⟨hopened, hrep'⟩ := openMessage_of_fresh hrep hauth hfresh
      rw [hopened]
      refine ⟨fun hframe => hfresh.1 (hmem frame hframe hdevice), ?_⟩
      -- the session of the frame's source has a new window, the others have theirs
      intro deviceId' s' hs'
      rw [RuntimeState.setCrypto] at hs'
      simp only [HashMap.lookup_modify] at hs'
      by_cases hd : deviceId' = deviceId
      · subst hd
        rw [if_pos rfl, hs] at hs'
        obtain rfl := Option.some.inj hs'
        refine ⟨frameCounter frame :: accepted, hrep', fun f hf hfd => ?_⟩
        rcases List.mem_cons.mp hf with rfl | hf
        · exact List.mem_cons_self
        · exact List.mem_cons_of_mem _ (hmem f hf hfd)
      · rw [if_neg hd] at hs'
        obtain ⟨accepted', hrep'', hmem'⟩ := h deviceId' s' hs'
        refine ⟨accepted', hrep'', fun f hf hfd => ?_⟩
        rcases List.mem_cons.mp hf with rfl | hf
        · exact absurd (Option.some.inj (hfd.symm.trans hdevice)) hd
        · exact hmem' f hf hfd
    · obtain ⟨error, hrefused⟩ := openMessage_of_not_fresh hrep hfresh
      rw [hrefused] at hok
      cases hok

/-- The windows after an arrival. -/
theorem Remembers.openReceivedFrame {rt : RuntimeState} {opened : List Bytes}
    (h : Remembers rt opened) (sendTo : SendTo) (clock : Nat → SystemTime) (frame : Bytes)
    (source : Option SocketAddr) :
    Remembers (rt.openReceivedFrame X sendTo clock frame source).2
      (if (rt.openStage X frame).1.isOk then frame :: opened else opened) := by
  cases hstage : (rt.openStage X frame).1 with
  | error e =>
      rw [openReceivedFrame_of_refused hstage]
      exact h.keep (h.openStage_error hstage)
  | ok r =>
      have hafter := (h.openStage_ok hstage).2
      show Remembers _ (frame :: opened)
      unfold RuntimeState.openReceivedFrame
      cases hpair : rt.openStage X frame with
      | mk r' rt' =>
          rw [hpair] at hstage hafter
          obtain rfl : r' = .ok r := hstage
          exact hafter.keep (keepsWindows_dispatchStage rt' sendTo clock source r.1 r.2)

end Open

-- ============================================================================
-- A rebuilt runtime remembers nothing
-- ============================================================================

theorem fromPersisted_window (X : Externals) (salts : Salts) (state : CustomBackendState) :
    ∀ d s, (RuntimeState.fromPersisted X salts state).peerTransportSessionsByDevice.lookup d =
      some s → s.crypto.receiveWindow = .default := by
  intro d s hs
  obtain ⟨_, -, -, _, _, _, _, _, _, -, -, -, -, -, hnew⟩ := fromPersisted_built hs
  obtain ⟨_, _, -, -, hbuilt⟩ := new_eq_ok.mp hnew
  rw [hbuilt]
  rfl

/-- New sessions have empty windows. -/
theorem remembers_of_default {rt : RuntimeState}
    (h : ∀ d s, rt.peerTransportSessionsByDevice.lookup d = some s →
      s.crypto.receiveWindow = .default) : Remembers rt [] := by
  intro deviceId session hs
  refine ⟨[], ?_, fun frame hframe => by cases hframe⟩
  rw [h deviceId session hs]
  exact ReplayWindow.default_represents

-- ============================================================================
-- Arrivals
-- ============================================================================

/-- A call of `open_received_frame`: the runtime it is made on and its arguments. -/
structure Arrival where
  rt : RuntimeState
  sendTo : SendTo
  clock : Nat → SystemTime
  frame : Bytes
  source : Option SocketAddr

namespace Section

variable {X : Externals} {rt : RuntimeState}

/-- The call of `open_received_frame` in a section, if there is one. -/
def arrival (X : Externals) (rt : RuntimeState) : Section → Option Arrival
  | udp bufferLen received sendTo clock =>
      match rt.transport with
      | none => none
      | some transport =>
          match transport.receiveFrame bufferLen received with
          | (.ok (some (frame, source)), transport) =>
              some ⟨rt.withTransport (some transport), sendTo, clock, frame, some source⟩
          | _ => none
  | relay message sendTo clock =>
      match RuntimeState.relayFrame X message with
      | some (.ok frame) => some ⟨rt, sendTo, clock, frame, none⟩
      | _ => none
  | _ => none

/-- A section with an arrival is that call, on a runtime that differs at most in
    the transport's counters. -/
theorem effect_of_arrival {s : Section} {a : Arrival} (h : s.arrival X rt = some a) :
    s.effect X rt = (a.rt.openReceivedFrame X a.sendTo a.clock a.frame a.source).2 ∧
      ∃ transport, a.rt = rt.withTransport transport := by
  cases s with
  | udp bufferLen received sendTo clock =>
      cases htransport : rt.transport with
      | none =>
          simp only [arrival, htransport] at h
          cases h
      | some transport =>
          simp only [arrival, htransport] at h
          simp only [effect, RuntimeState.receiveOverlayPacket, htransport]
          split at h
          · rename_i frame source transport' hreceived
            obtain rfl := Option.some.inj h
            exact ⟨by simp only [hreceived], _, rfl⟩
          · cases h
  | relay message sendTo clock =>
      simp only [arrival] at h
      split at h
      · rename_i frame hframe
        obtain rfl := Option.some.inj h
        exact ⟨by simp only [effect, RuntimeState.openRelayFrame, hframe], rt.transport, rfl⟩
      · cases h
  | _ => cases h

/-- A section without an arrival that does not rebuild keeps the windows. -/
theorem keepsWindows_of_quiet {s : Section} (hquiet : s.arrival X rt = none)
    (hrebuilds : s.rebuilds = false) : KeepsWindows rt (s.effect X rt) := by
  cases s with
  | udp bufferLen received sendTo clock =>
      cases htransport : rt.transport with
      | none =>
          simp only [effect, RuntimeState.receiveOverlayPacket, htransport]
          exact .refl rt
      | some transport =>
          simp only [arrival, htransport] at hquiet
          simp only [effect, RuntimeState.receiveOverlayPacket, htransport]
          split
          · exact .withTransport rt _
          · exact .withTransport rt _
          · rename_i frame source transport' hreceived
            simp only [hreceived] at hquiet
            cases hquiet
  | relay message sendTo clock =>
      simp only [arrival] at hquiet
      simp only [effect, RuntimeState.openRelayFrame]
      split
      · exact .refl rt
      · exact .refl rt
      · rename_i frame hframe
        simp only [hframe] at hquiet
        cases hquiet
  | send packet sendTo net => exact keepsWindows_sendOverlayPacket rt sendTo net packet
  | rxDrop => exact .recordRxDrop rt
  | probe sendTo clock => exact keepsWindows_probePeerDirectPaths rt sendTo clock
  | replace salts state => cases hrebuilds
  | reload salts state => cases hrebuilds
  | relayMap relays => exact .of_eq rfl rfl
  | setTasks tasks => exact .of_eq rfl rfl
  | setTransport transport => exact .of_eq rfl rfl
  | publicProbe sendTo probeServer start timeout answers => exact .of_eq rfl rfl
  | setTunStatus status => exact .of_eq rfl rfl
  | setTunDevice device => exact .of_eq rfl rfl

/-- After a rebuild there is nothing to remember. -/
theorem remembers_of_rebuilds {s : Section} (h : s.rebuilds = true) :
    Remembers (s.effect X rt) [] := by
  cases s with
  | replace salts state => exact remembers_of_default (fromPersisted_window X salts state)
  | reload salts state => exact remembers_of_default (fromPersisted_window X salts state)
  | _ => cases h

end Section

-- ============================================================================
-- Runs
-- ============================================================================

/-- What one call of `open_received_frame` did. -/
structure Receipt where
  frame : Bytes
  /-- `open_message` returned `Ok` -/
  opened : Bool
  result : Result (Option Bytes)
  before : RuntimeState
  after : RuntimeState

namespace Receipt

/-- A plaintext is returned for delivery. -/
def Delivers (r : Receipt) : Prop := ∃ plaintext, r.result = .ok (some plaintext)

/-- The path to some peer is not what it was: the state of its path, or the
    endpoint that its session sends to. -/
def UpdatesPath (r : Receipt) : Prop :=
  r.after.peerPathStateByDevice ≠ r.before.peerPathStateByDevice ∨
    ∃ deviceId, (r.after.peerTransportSessionsByDevice.lookup deviceId).map (·.endpoint) ≠
      (r.before.peerTransportSessionsByDevice.lookup deviceId).map (·.endpoint)

end Receipt

/-- The runtime, the frames opened since its sessions were built, and all the
    receipts so far, newest first. -/
structure ReplayState where
  rt : RuntimeState
  current : List Bytes
  receipts : List Receipt

namespace ReplayState

/-- A backend that was just created. -/
def initial : ReplayState := ⟨RuntimeState.default, [], []⟩

def receive (X : Externals) (st : ReplayState) (s : Section) (a : Arrival) : ReplayState :=
  let opened := (a.rt.openStage X a.frame).1.isOk
  let result := (a.rt.openReceivedFrame X a.sendTo a.clock a.frame a.source).1
  ⟨s.effect X st.rt, if opened then a.frame :: st.current else st.current,
    ⟨a.frame, opened, result, st.rt, s.effect X st.rt⟩ :: st.receipts⟩

/-- One critical section.  A section can always happen: who may enter it is the
    lock's affair. -/
def step (X : Externals) (st : ReplayState) (s : Section) : Option ReplayState :=
  match s.arrival X st.rt with
  | some a => some (st.receive X s a)
  | none => some ⟨s.effect X st.rt, if s.rebuilds then [] else st.current, st.receipts⟩

/-- A frame that arrives and was opened before was opened by the sessions that
    are there now: no rebuild lies between. -/
def NotStale (X : Externals) (st : ReplayState) (s : Section) : Prop :=
  ∀ a, s.arrival X st.rt = some a →
    (∃ r ∈ st.receipts, r.frame = a.frame ∧ r.opened = true) → a.frame ∈ st.current

instance (X : Externals) (st : ReplayState) (s : Section) : Decidable (NotStale X st s) :=
  match h : s.arrival X st.rt with
  | none => isTrue fun _ ha => nomatch h.symm.trans ha
  | some a => decidable_of_iff
      ((∃ r ∈ st.receipts, r.frame = a.frame ∧ r.opened = true) → a.frame ∈ st.current)
      ⟨fun hstale _ ha => Option.some.inj (h.symm.trans ha) ▸ hstale, fun hstale => hstale a h⟩

/-- Among the receipts of one frame at most one has the property. -/
def AtMostOnce (P : Receipt → Prop) (receipts : List Receipt) : Prop :=
  receipts.Pairwise fun r r' => P r → P r' → r.frame ≠ r'.frame

/-- No frame is opened, delivered, or taken for a path update twice. -/
structure NoReplay (st : ReplayState) : Prop where
  opened : AtMostOnce (fun r => r.opened = true) st.receipts
  delivers : AtMostOnce Receipt.Delivers st.receipts
  updatesPath : AtMostOnce Receipt.UpdatesPath st.receipts

/-- The windows remember what was opened since the last rebuild, no frame was
    opened twice, and a refused frame had no effect. -/
structure ReplayInv (st : ReplayState) : Prop where
  remembers : Remembers st.rt st.current
  once : AtMostOnce (fun r => r.opened = true) st.receipts
  effects : ∀ r ∈ st.receipts, r.Delivers ∨ r.UpdatesPath → r.opened = true

theorem AtMostOnce.weaken {P Q : Receipt → Prop} {receipts : List Receipt}
    (h : AtMostOnce P receipts) (hQ : ∀ r ∈ receipts, Q r → P r) : AtMostOnce Q receipts :=
  List.Pairwise.imp_of_mem
    (fun hr hr' hne hq hq' => hne (hQ _ hr hq) (hQ _ hr' hq')) h

theorem ReplayInv.noReplay {st : ReplayState} (h : ReplayInv st) : NoReplay st where
  opened := h.once
  delivers := h.once.weaken fun r hr hd => h.effects r hr (Or.inl hd)
  updatesPath := h.once.weaken fun r hr hu => h.effects r hr (Or.inr hu)

theorem replayInv_initial : ReplayInv initial where
  remembers := remembers_of_default fun d s hs => by cases hs
  once := .nil
  effects := fun r hr => by cases hr

-- ============================================================================
-- One step
-- ============================================================================

section Step

variable {X : Externals} {st st' : ReplayState}

theorem ReplayInv.receive {s : Section} {a : Arrival} (h : ReplayInv st)
    (ha : s.arrival X st.rt = some a) (hstale : NotStale X st s) :
    ReplayInv (st.receive X s a) := by
  obtain ⟨heffect, transport, hrt⟩ := Section.effect_of_arrival ha
  have hremembers : Remembers a.rt st.current := by
    rw [hrt]
    exact h.remembers.keep (.withTransport st.rt transport)
  refine ⟨?_, ?_, ?_⟩
  · show Remembers (s.effect X st.rt) _
    rw [heffect]
    exact hremembers.openReceivedFrame a.sendTo a.clock a.frame a.source
  · refine List.Pairwise.cons (fun r hr hopened hr' hframe => ?_) h.once
    -- what is opened now is not among what the windows remember
    cases hstage : (a.rt.openStage X a.frame).1 with
    | error e =>
        rw [hstage] at hopened
        cases hopened
    | ok opened =>
        exact (hremembers.openStage_ok hstage).1 (hstale a ha ⟨r, hr, hframe.symm, hr'⟩)
  · intro r hr heffects
    rcases List.mem_cons.mp hr with rfl | hr
    · by_contra hclosed
      cases hstage : (a.rt.openStage X a.frame).1 with
      | ok opened =>
          rw [hstage] at hclosed
          exact hclosed rfl
      | error e =>
          have hrefused := openReceivedFrame_of_refused hstage a.sendTo a.clock a.source
          rcases heffects with ⟨plaintext, hdelivered⟩ | hpath
          · rw [hrefused] at hdelivered
            cases hdelivered
          · rw [hrefused] at heffect
            rcases hpath with hpath | ⟨d, hpath⟩
            · apply hpath
              show (s.effect X st.rt).peerPathStateByDevice = _
              rw [heffect, openStage_paths, hrt]
              rfl
            · apply hpath
              show ((s.effect X st.rt).peerTransportSessionsByDevice.lookup d).map _ = _
              rw [heffect, openStage_endpoints, hrt]
              rfl
    · exact h.effects r hr heffects

theorem ReplayInv.step {s : Section} (h : ReplayInv st) (hstale : NotStale X st s)
    (hst' : st.step X s = some st') : ReplayInv st' := by
  unfold ReplayState.step at hst'
  split at hst'
  · rename_i a ha
    obtain rfl := Option.some.inj hst'
    exact h.receive ha hstale
  · rename_i hquiet
    obtain rfl := Option.some.inj hst'
    refine ⟨?_, h.once, h.effects⟩
    cases hrebuilds : s.rebuilds with
    | true => exact Section.remembers_of_rebuilds hrebuilds
    | false => exact h.remembers.keep (Section.keepsWindows_of_quiet hquiet hrebuilds)

end Step

-- ============================================================================
-- Whole runs
-- ============================================================================

/-- **No replay.**  In every run of a backend in which no frame that was opened
    before a rebuild of the sessions arrives again after it, no frame is opened,
    delivered or taken for a path update more than once, in any state reached. -/
theorem frame_opened_at_most_once (X : Externals) (sections : List Section)
    (hstale : Along (step X) (NotStale X) initial sections) :
    Throughout (step X) NoReplay initial sections :=
  throughout_of_along (fun _ _ _ hinv hstale hstep => hinv.step hstale hstep)
    (fun _ hinv => hinv.noReplay) replayInv_initial hstale

end ReplayState

namespace Reference

def credential (a : UInt8) : String := encodePublicCredential Externals.reference (.replicate 32 a)

/-- The stored state of the device with key `[1; 32]`, which has one peer. -/
def pairedState : CustomBackendState where
  version := stateVersion
  identity := some ⟨"key_1", identityScheme, encodeKey Externals.reference (.replicate 32 1),
    credential 1, 0, none⟩
  localConfig := some localConfig
  peers := [⟨"dev_00000000000000000000000000000002", "b", ⟨100, 64, 0, 3⟩, credential 2,
    [⟨.lan, .v4 ⟨192, 168, 1, 30⟩, 51820, .udp⟩], ["100.64.0.3/32"], 0⟩]

/-- The peer's end of the channel. -/
def peerEnd : PeerCryptoSession :=
  PeerCryptoSession.built Externals.reference (.replicate 32 2) (.replicate 32 1)
    (credential 2) (credential 1) ⟨toBe 16 2, toBe_length 16 2⟩ ⟨toBe 16 1, toBe_length 16 1⟩
    (.replicate 8 5)

/-- The peer's first data frame. -/
def dataFrame : Bytes :=
  (peerEnd.«seal» Externals.reference [69, 0, 0, 84]).1.toOption.getD []

def install : Section := .replace env.salts pairedState

def bindSocket : Section :=
  .setTransport (some ⟨0, ⟨.lan, .v4 ⟨0, 0, 0, 0⟩, 51820, .udp⟩, .default, []⟩)

def receiveData : Section :=
  .udp 65535 (.datagram dataFrame ⟨.v4 ⟨192, 168, 1, 30⟩, 51820⟩) env.sendTo env.clock

/-- What the receipts of a run say: the frame, whether it was opened, and what
    was returned for it. -/
def receiptsOf (sections : List Section) : Option (List (Bytes × Bool × Result (Option Bytes))) :=
  (run (ReplayState.step Externals.reference) ReplayState.initial sections).map fun st =>
    st.receipts.map fun r => (r.frame, r.opened, r.result)

end Reference

open Reference in
/-- A frame that comes twice between two rebuilds is refused the second time. -/
theorem frame_opened_at_most_once_reference :
    receiptsOf [install, bindSocket, receiveData, receiveData, install] =
        some [(dataFrame, false, commandFailed "replayed frame nonce"),
          (dataFrame, true, .ok (some [69, 0, 0, 84]))] ∧
      Throughout (ReplayState.step Externals.reference) ReplayState.NoReplay ReplayState.initial
        [install, bindSocket, receiveData, receiveData, install] :=
  ⟨by decide +kernel,
    ReplayState.frame_opened_at_most_once Externals.reference _ (by decide +kernel)⟩

open Reference in
/-- Applying the same state again between two arrivals of one frame: both are
    opened, and the packet is delivered twice. -/
theorem frame_opened_twice :
    receiptsOf [install, bindSocket, receiveData, install, receiveData] =
        some [(dataFrame, true, .ok (some [69, 0, 0, 84])),
          (dataFrame, true, .ok (some [69, 0, 0, 84]))] ∧
      ¬ Throughout (ReplayState.step Externals.reference) ReplayState.NoReplay ReplayState.initial
        [install, bindSocket, receiveData, install, receiveData] := by
  have hreceipts : receiptsOf [install, bindSocket, receiveData, install, receiveData] =
      some [(dataFrame, true, .ok (some [69, 0, 0, 84])),
        (dataFrame, true, .ok (some [69, 0, 0, 84]))] := by decide +kernel
  refine ⟨hreceipts, fun hall => ?_⟩
  obtain ⟨st, hrun, hst⟩ := Option.map_eq_some_iff.mp hreceipts
  -- the two receipts, and the pair that must not be
  obtain ⟨r, rest, hr, hsaid, hrest⟩ := List.map_eq_cons_iff.mp hst
  obtain ⟨r', rest', rfl, hsaid', -⟩ := List.map_eq_cons_iff.mp hrest
  obtain ⟨hframe, hopened, -⟩ := by simpa only [Prod.mk.injEq] using hsaid
  obtain ⟨hframe', hopened', -⟩ := by simpa only [Prod.mk.injEq] using hsaid'
  have honce := (hall.last hrun).opened
  rw [hr] at honce
  exact (List.pairwise_cons.mp honce).1 r' List.mem_cons_self hopened hopened'
    (hframe.trans hframe'.symm)

end TfScale.Custom
