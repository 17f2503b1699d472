/-
  TfScale.Custom.PeerTimeline

  What happens to the path record of one peer.

  Four things write the record: the expiry pass, a completed probe round, a contact (a
  probe that is answered, or a probe response, over UDP), and a runtime that is built
  anew.  `pathStep` is the record with the clock as a machine of these events, and
  `Section.pathEvents` the events of a critical section for one peer.  The runtime follows
  the machine peer by peer (`pathEvents_run`), so what holds of all runs of the machine
  holds of the record of every peer.
-/

import Mathlib
import TfScale.Custom.Fallback

namespace TfScale.Custom

open RuntimeState

-- ============================================================================
-- The record as a machine
-- ============================================================================

/-- What happens to the path record of a peer. -/
inductive RecordEvent where
  /-- `expire_stale_direct_paths` -/
  | expired (relays : List RelayConfig) (now : SystemTime)
  /-- a probe round that was due at `checkedAt` and over at `now` -/
  | round (checkedAt now : SystemTime) (sentAt : Nat)
  /-- `mark_peer_direct` -/
  | contact (endpoint : Endpoint) (rttMs : Option UInt64) (now : SystemTime)
  /-- a new runtime -/
  | rebuilt

/-- The record after the event. -/
def RecordEvent.apply (state : PeerPathState) : RecordEvent → PeerPathState
  | expired relays now => state.expire relays now
  | round _ now sentAt => state.probed now sentAt
  | contact endpoint rttMs now => state.markDirect endpoint rttMs now
  | rebuilt => .default

/-- The record of a peer, and the last time that the clock showed. -/
structure TimedPath where
  state : PeerPathState
  now : SystemTime

/-- One event, when the clock does not go back and a round is due. -/
def pathStep (p : TimedPath) (e : RecordEvent) : Option TimedPath :=
  match e with
  | .expired _ t => if p.now ≤ t then some ⟨e.apply p.state, t⟩ else none
  | .round checkedAt t _ =>
      if p.now ≤ checkedAt ∧ checkedAt ≤ t ∧ peerPathProbeDue p.state checkedAt then
        some ⟨e.apply p.state, t⟩
      else none
  | .contact _ _ t => if p.now ≤ t then some ⟨e.apply p.state, t⟩ else none
  | .rebuilt => some ⟨e.apply p.state, p.now⟩

theorem pathStep_state {p p' : TimedPath} {e : RecordEvent} (h : pathStep p e = some p') :
    p'.state = e.apply p.state := by
  cases e with
  | rebuilt =>
      obtain rfl := Option.some.inj h
      rfl
  | _ =>
      obtain ⟨-, heq⟩ := Option.ite_none_right_eq_some.mp h
      obtain rfl := Option.some.inj heq
      rfl

theorem run_pathStep_state {p p' : TimedPath} {events : List RecordEvent}
    (h : run pathStep p events = some p') :
    p'.state = events.foldl RecordEvent.apply p.state := by
  induction events generalizing p with
  | nil =>
      obtain rfl := Option.some.inj h
      rfl
  | cons e events ih =>
      obtain ⟨q, hstep, hrest⟩ := run_cons_eq_some.mp h
      rw [ih hrest, pathStep_state hstep]
      rfl

-- ============================================================================
-- The events of a section
-- ============================================================================

/-- The events of a received datagram for the peer `d`. -/
def RuntimeState.contactEvents (X : Externals) (rt : RuntimeState) (sendTo : SendTo)
    (clock : Nat → SystemTime) (frame : Bytes) (source : SocketAddr) (d : String) : List RecordEvent :=
  match rt.openStage X frame with
  | (.error _, _) => []
  | (.ok (deviceId, opened), rt) =>
      if deviceId ≠ d then []
      else if opened.messageType = frameTypeProbe then
        -- a probe is a contact when its answer has been sent
        match (rt.answerProbe X sendTo clock deviceId opened.plaintext source).1 with
        | .ok _ => [.contact (sourceEndpoint source) none (clock 1)]
        | .error _ => []
      else if opened.messageType = frameTypeProbeResponse then
        [.contact (sourceEndpoint source)
          (probeResponseRttMs opened.plaintext (unixMillis (clock 0))) (clock 1)]
      else []

/-- The completed rounds of the loop of `probe_peer_direct_paths` for the peer `d`. -/
def RuntimeState.roundEvents (X : Externals) (sendTo : SendTo) (clock : Nat → SystemTime) (d : String) :
    Nat → List StoredPeerSession → RuntimeState → TransportRuntime → Nat → List RecordEvent
  | _, [], _, _, _ => []
  | i, peer :: peers, rt, transport, sent =>
      match (rt.withPathOf peer.deviceId).probeRound X sendTo clock i peer transport sent with
      | .skipped => roundEvents X sendTo clock d (i + 1) peers (rt.withPathOf peer.deviceId) transport sent
      | .failed .. => []
      | .completed sent crypto transport =>
          (if peer.deviceId = d then
            [.round (clock (3 * i + 1)) (clock (3 * i + 3)) (unixMillis (clock (3 * i + 2)))] else []) ++
            roundEvents X sendTo clock d (i + 1) peers
              ((rt.withPathOf peer.deviceId).roundOver clock i peer.deviceId crypto) transport sent

namespace Section

/-- The events of a section for the peer `d`. -/
def pathEvents (X : Externals) (rt : RuntimeState) (d : String) : Section → List RecordEvent
  | udp bufferLen received sendTo clock =>
      match rt.transport with
      | none => []
      | some transport =>
          match transport.receiveFrame bufferLen received with
          | (.ok (some (frame, source)), transport) =>
              (rt.withTransport (some transport)).contactEvents X sendTo clock frame source d
          | _ => []
  | probe sendTo clock =>
      .expired rt.relays (clock 0) ::
        match rt.transport with
        | none => []
        | some transport =>
            roundEvents X sendTo clock d 0 rt.persisted.peers (rt.expireStaleDirectPaths (clock 0))
              transport 0
  | replace .. | reload .. => [.rebuilt]
  | _ => []

/-- The clock that the section reads. -/
def clock? : Section → Option (Nat → SystemTime)
  | udp _ _ _ clock | relay _ _ clock | probe _ clock => some clock
  | _ => none

/-- The clock readings of the section lie between the two times and do not go back. -/
def Reads (now now' : SystemTime) (s : Section) : Prop :=
  match s.clock? with
  | none => now ≤ now'
  | some clock => Monotone clock ∧ ∀ i, now ≤ clock i ∧ clock i ≤ now'

end Section

/-- The clock readings of the sections lie between the two times and do not go back. -/
def ReadInOrder (now now' : SystemTime) : List Section → Prop
  | [] => now ≤ now'
  | s :: sections => ∃ between, s.Reads now between ∧ ReadInOrder between now' sections

/-- The runtime after some sections. -/
def RuntimeState.after (X : Externals) (rt : RuntimeState) (sections : List Section) : RuntimeState :=
  sections.foldl (Section.effect X) rt

/-- What happens to the record of the peer `d` in some sections. -/
def timeline (X : Externals) (d : String) (rt : RuntimeState) : List Section → List RecordEvent
  | [] => []
  | s :: sections => s.pathEvents X rt d ++ timeline X d (s.effect X rt) sections

variable {X : Externals} {rt : RuntimeState} {d : String} {sendTo : SendTo}
  {clock : Nat → SystemTime} {now now' m : SystemTime} {s : Section} {sections : List Section}

theorem Section.Reads.le (h : s.Reads now now') : now ≤ now' := by
  unfold Section.Reads at h
  split at h
  · exact h
  · exact (h.2 0).1.trans (h.2 0).2

theorem Section.Reads.mono (h : s.Reads now now') {later : SystemTime} (hle : now' ≤ later) :
    s.Reads now later := by
  unfold Section.Reads at h ⊢
  split at h
  · exact h.trans hle
  · exact ⟨h.1, fun i => ⟨(h.2 i).1, (h.2 i).2.trans hle⟩⟩

theorem RuntimeState.after_append (rt : RuntimeState) (sections others : List Section) :
    rt.after X (sections ++ others) = (rt.after X sections).after X others :=
  List.foldl_append

theorem RuntimeState.after_append_singleton (rt : RuntimeState) (sections : List Section) (s : Section) :
    rt.after X (sections ++ [s]) = s.effect X (rt.after X sections) :=
  rt.after_append sections [s]

theorem ReadInOrder.le (h : ReadInOrder now now' sections) : now ≤ now' := by
  induction sections generalizing now with
  | nil => exact h
  | cons s sections ih =>
      obtain ⟨between, hs, hrest⟩ := h
      exact hs.le.trans (ih hrest)

theorem readInOrder_append {others : List Section} :
    ReadInOrder now now' (sections ++ others) ↔
      ∃ between, ReadInOrder now between sections ∧ ReadInOrder between now' others := by
  induction sections generalizing now with
  | nil =>
      refine ⟨fun h => ⟨now, le_rfl, h⟩, ?_⟩
      rintro ⟨between, hle, h⟩
      cases others with
      | nil => exact hle.trans h
      | cons s others =>
          obtain ⟨next, hs, hrest⟩ := h
          refine ⟨next, ?_, hrest⟩
          unfold Section.Reads at hs ⊢
          split at hs
          · exact hle.trans hs
          · exact ⟨hs.1, fun i => ⟨hle.trans (hs.2 i).1, (hs.2 i).2⟩⟩
  | cons s sections ih =>
      constructor
      · rintro ⟨next, hs, hrest⟩
        obtain ⟨between, hfirst, hothers⟩ := ih.mp hrest
        exact ⟨between, ⟨next, hs, hfirst⟩, hothers⟩
      · rintro ⟨between, ⟨next, hs, hfirst⟩, hothers⟩
        exact ⟨next, hs, ih.mpr ⟨between, hfirst, hothers⟩⟩

-- ============================================================================
-- The record of one peer
-- ============================================================================

/-- The record is the same, whatever else is not. -/
theorem pathState_congr {rt' : RuntimeState} (h : rt'.peerPathStateByDevice = rt.peerPathStateByDevice)
    (d : String) : rt'.pathState d = rt.pathState d := by
  rw [pathState, pathState, h]

theorem pathState_withPathOf (rt : RuntimeState) (deviceId d : String) :
    (rt.withPathOf deviceId).pathState d = rt.pathState d := by
  have hlookup : (rt.withPathOf deviceId).peerPathStateByDevice.lookup d =
      if d = deviceId then some (rt.pathState deviceId) else rt.peerPathStateByDevice.lookup d :=
    HashMap.lookup_upsert _ _ _ _ _
  rw [pathState, hlookup]
  split
  · rename_i hd
    rw [hd]
    rfl
  · rfl

theorem pathState_expire (rt : RuntimeState) (t : SystemTime) (d : String) :
    (rt.expireStaleDirectPaths t).pathState d = (rt.pathState d).expire rt.relays t := by
  have hlookup : (rt.expireStaleDirectPaths t).peerPathStateByDevice.lookup d =
      (rt.peerPathStateByDevice.lookup d).map (PeerPathState.expire rt.relays t) :=
    HashMap.lookup_mapEntries _ _ d
  rw [pathState, hlookup, pathState]
  cases rt.peerPathStateByDevice.lookup d with
  | none => rfl
  | some state => rfl

theorem pathState_markPeerDirect (rt : RuntimeState) (deviceId : String) (endpoint : Endpoint)
    (rttMs : Option UInt64) (t : SystemTime) (d : String) :
    (rt.markPeerDirect deviceId endpoint rttMs t).pathState d =
      if d = deviceId then (rt.pathState d).markDirect endpoint rttMs t else rt.pathState d := by
  have hlookup : (rt.markPeerDirect deviceId endpoint rttMs t).peerPathStateByDevice.lookup d =
      if d = deviceId then some ((rt.pathState deviceId).markDirect endpoint rttMs t)
        else rt.peerPathStateByDevice.lookup d := HashMap.lookup_upsert _ _ _ _ _
  rw [pathState, hlookup]
  split
  · rename_i hd
    rw [hd]
    rfl
  · rfl

theorem pathState_roundOver {deviceId : String} {state : PeerPathState}
    (clock : Nat → SystemTime) (i : Nat) (crypto : PeerCryptoSession) (h : rt.peerPathStateByDevice.lookup deviceId = some state) (d : String) :
    (rt.roundOver clock i deviceId crypto).pathState d =
      if d = deviceId then
        (rt.pathState d).probed (clock (3 * i + 3)) (unixMillis (clock (3 * i + 2)))
      else rt.pathState d := by
  have hlookup : (rt.roundOver clock i deviceId crypto).peerPathStateByDevice.lookup d =
      if d = deviceId then (rt.peerPathStateByDevice.lookup deviceId).map
          (PeerPathState.probed (clock (3 * i + 3)) (unixMillis (clock (3 * i + 2))))
        else rt.peerPathStateByDevice.lookup d := HashMap.lookup_modify _ _ _ _
  rw [pathState, hlookup]
  split
  · rename_i hd
    rw [hd, pathState, h]
    rfl
  · rfl

/-- A new runtime has no history. -/
theorem pathState_fromPersisted (salts : Salts) (persisted : CustomBackendState) (d : String) :
    (RuntimeState.fromPersisted X salts persisted).pathState d = .default := by
  rw [pathState]
  cases hd : (RuntimeState.fromPersisted X salts persisted).peerPathStateByDevice.lookup d with
  | none => rfl
  | some state =>
      obtain ⟨peer, -, heq⟩ := List.mem_map.mp (HashMap.mem_of_lookup_ofPairs hd)
      obtain ⟨-, rfl⟩ := Prod.mk.inj heq
      rfl

-- ============================================================================
-- The runtime follows the machine
-- ============================================================================

/-- A probe moves the record of its sender when the answer is out. -/
theorem pathState_answerProbe (rt : RuntimeState) (sendTo : SendTo) (clock : Nat → SystemTime)
    (deviceId : String) (plaintext : Bytes) (source : SocketAddr) (d : String) :
    (∃ e, (rt.answerProbe X sendTo clock deviceId plaintext source).1 = .error e ∧
      (rt.answerProbe X sendTo clock deviceId plaintext source).2.pathState d = rt.pathState d) ∨
    ∃ r, (rt.answerProbe X sendTo clock deviceId plaintext source).1 = .ok r ∧
      (rt.answerProbe X sendTo clock deviceId plaintext source).2.pathState d =
        if d = deviceId then (rt.pathState d).markDirect (sourceEndpoint source) none (clock 1)
        else rt.pathState d := by
  unfold RuntimeState.answerProbe
  split
  · exact Or.inl ⟨_, rfl, rfl⟩
  · simp only
    split
    · exact Or.inl ⟨_, rfl, rfl⟩
    · split
      · exact Or.inl ⟨_, rfl, rfl⟩
      · split
        · exact Or.inl ⟨_, rfl, rfl⟩
        · exact Or.inr ⟨_, rfl, pathState_markPeerDirect _ _ _ _ _ d⟩

/-- A received datagram is a contact with the peer, or nothing to its record. -/
theorem contactEvents_cases (rt : RuntimeState) (sendTo : SendTo) (clock : Nat → SystemTime)
    (frame : Bytes) (source : SocketAddr) (d : String) :
    (rt.contactEvents X sendTo clock frame source d = [] ∧
      (rt.openReceivedFrame X sendTo clock frame (some source)).2.pathState d = rt.pathState d) ∨
    ∃ rttMs,
      rt.contactEvents X sendTo clock frame source d =
        [.contact (sourceEndpoint source) rttMs (clock 1)] ∧
      (rt.openReceivedFrame X sendTo clock frame (some source)).2.pathState d =
        (rt.pathState d).markDirect (sourceEndpoint source) rttMs (clock 1) := by
  have hstage := pathState_congr (openStage_paths (X := X) rt frame) d
  unfold RuntimeState.contactEvents RuntimeState.openReceivedFrame
  rcases hopen : rt.openStage X frame with ⟨_ | ⟨deviceId, opened⟩, rt₁⟩
  · rw [hopen] at hstage
    exact Or.inl ⟨rfl, hstage⟩
  · rw [hopen] at hstage
    simp only at hstage ⊢
    unfold RuntimeState.dispatchStage
    by_cases hdata : opened.messageType = frameTypeData
    · have hprobe : opened.messageType ≠ frameTypeProbe := by
        rw [hdata]
        decide
      have hresponse : opened.messageType ≠ frameTypeProbeResponse := by
        rw [hdata]
        decide
      rw [if_neg hprobe, if_neg hresponse, ite_self, if_pos hdata]
      exact Or.inl ⟨rfl, hstage⟩
    · rw [if_neg hdata]
      by_cases hprobe : opened.messageType = frameTypeProbe
      · rw [if_pos hprobe, if_pos hprobe]
        rcases pathState_answerProbe (X := X) rt₁ sendTo clock deviceId opened.plaintext source d with
          ⟨e, hresult, hpath⟩ | ⟨r, hresult, hpath⟩
        · rw [hresult]
          exact Or.inl ⟨ite_self _, hpath.trans hstage⟩
        · rw [hresult]
          by_cases hd : deviceId = d
          · rw [if_neg (not_not_intro hd)]
            rw [if_pos hd.symm, hstage] at hpath
            exact Or.inr ⟨none, rfl, hpath⟩
          · rw [if_pos hd]
            rw [if_neg (Ne.symm hd), hstage] at hpath
            exact Or.inl ⟨rfl, hpath⟩
      · rw [if_neg hprobe, if_neg hprobe]
        by_cases hresponse : opened.messageType = frameTypeProbeResponse
        · rw [if_pos hresponse, if_pos hresponse]
          have hpath := pathState_markPeerDirect rt₁ deviceId (sourceEndpoint source)
            (probeResponseRttMs opened.plaintext (unixMillis (clock 0))) (clock 1) d
          by_cases hd : deviceId = d
          · rw [if_neg (not_not_intro hd)]
            rw [if_pos hd.symm, hstage] at hpath
            exact Or.inr ⟨_, rfl, hpath⟩
          · rw [if_pos hd]
            rw [if_neg (Ne.symm hd), hstage] at hpath
            exact Or.inl ⟨rfl, hpath⟩
        · rw [if_neg hresponse, if_neg hresponse]
          exact Or.inl ⟨ite_self _, hstage⟩

/-- A frame that came over the relay is nothing to the record. -/
theorem pathState_openRelayFrame (rt : RuntimeState) (sendTo : SendTo) (clock : Nat → SystemTime)
    (message : RelayMessage) (d : String) :
    (rt.openRelayFrame X sendTo clock message).2.pathState d = rt.pathState d :=
  pathState_congr ((only_authentic_probes_move_paths X rt sendTo clock).2 message).1.paths d

/-- A round that is completed was due. -/
theorem due_of_completed {i : Nat} {peer : StoredPeerSession} {transport transport' : TransportRuntime}
    {sent sent' : Nat} {crypto : PeerCryptoSession}
    (h : rt.probeRound X sendTo clock i peer transport sent = .completed sent' crypto transport') :
    peerPathProbeDue (rt.pathState peer.deviceId) (clock (3 * i + 1)) = true := by
  by_contra hdue
  rw [probeRound, if_pos (by rw [Bool.eq_false_iff.mpr hdue]; rfl)] at h
  cases h

/-- The loop of `probe_peer_direct_paths` is its completed rounds. -/
theorem roundEvents_run (rt : RuntimeState) (sendTo : SendTo) (i : Nat)
    (peers : List StoredPeerSession) (transport : TransportRuntime) (sent : Nat) (hmono : Monotone clock) (hend : ∀ i, clock i ≤ now') (hm : m ≤ clock (3 * i))
    (d : String) :
    ∃ n ≤ now', run pathStep ⟨rt.pathState d, m⟩
        (roundEvents X sendTo clock d i peers rt transport sent) =
      some ⟨(probePeers X sendTo clock i peers rt transport sent).2.pathState d, n⟩ := by
  induction peers generalizing i rt transport sent m with
  | nil => exact ⟨m, hm.trans (hend _), rfl⟩
  | cons peer peers ih =>
      have hnext : clock (3 * i) ≤ clock (3 * (i + 1)) := hmono (by omega)
      have hfound := pathState_withPathOf rt peer.deviceId d
      rw [roundEvents, probePeers_cons]
      cases hround : (rt.withPathOf peer.deviceId).probeRound X sendTo clock i peer transport sent with
      | skipped =>
          rw [← hfound]
          exact ih _ _ _ _ (hm.trans hnext)
      | failed error crypto transport =>
          exact ⟨m, hm.trans (hend _), congrArg (fun state => some (TimedPath.mk state m)) hfound.symm⟩
      | completed sent crypto transport =>
          have hover := pathState_roundOver clock i crypto
            (withPathOf_lookup rt peer.deviceId) d
          simp only
          by_cases hd : peer.deviceId = d
          · rw [if_pos hd.symm, hfound] at hover
            have hdue := due_of_completed hround
            rw [pathState_withPathOf, hd] at hdue
            have hbefore : m ≤ clock (3 * i + 1) := hm.trans (hmono (by omega))
            have hduring : clock (3 * i + 1) ≤ clock (3 * i + 3) := hmono (by omega)
            obtain ⟨n, hn, hrun⟩ := ih ((rt.withPathOf peer.deviceId).roundOver clock i
              peer.deviceId crypto) (i + 1) transport sent (le_refl (clock (3 * (i + 1))))
            refine ⟨n, hn, ?_⟩
            rw [if_pos hd, List.singleton_append, run_cons_eq_some]
            refine ⟨⟨(rt.pathState d).probed (clock (3 * i + 3)) (unixMillis (clock (3 * i + 2))),
              clock (3 * (i + 1))⟩, if_pos ⟨hbefore, hduring, hdue⟩, ?_⟩
            rw [← hover]
            exact hrun
          · rw [if_neg (Ne.symm hd), hfound] at hover
            rw [if_neg hd, List.nil_append, ← hover]
            exact ih _ _ _ _ (hm.trans hnext)

/-- **The record of a peer.**  A section does to the record of a peer what its events do to
    the machine. -/
theorem pathEvents_run (X : Externals) (rt : RuntimeState) (d : String) (hreads : s.Reads now now')
    (hm : m ≤ now) :
    ∃ n ≤ now', run pathStep ⟨rt.pathState d, m⟩ (s.pathEvents X rt d) =
      some ⟨(s.effect X rt).pathState d, n⟩ := by
  have hle := hm.trans hreads.le
  cases s with
  | udp bufferLen received sendTo clock =>
      obtain ⟨hmono, hclock⟩ := hreads
      unfold Section.pathEvents Section.effect RuntimeState.receiveOverlayPacket
      cases htransport : rt.transport with
      | none => exact ⟨m, hle, rfl⟩
      | some transport =>
          simp only
          rcases hframe : transport.receiveFrame bufferLen received with ⟨_ | _ | ⟨frame, source⟩, transport'⟩
          · exact ⟨m, hle, rfl⟩
          · exact ⟨m, hle, rfl⟩
          · simp only
            rcases contactEvents_cases (X := X) (rt.withTransport (some transport')) sendTo clock frame
                source d with ⟨hevents, hpath⟩ | ⟨rttMs, hevents, hpath⟩
            · rw [hevents, hpath]
              exact ⟨m, hle, rfl⟩
            · rw [hevents, hpath]
              exact ⟨clock 1, (hclock 1).2, run_cons_eq_some.mpr
                ⟨_, if_pos (hm.trans (hclock 1).1), rfl⟩⟩
  | relay message sendTo clock =>
      have hpath := pathState_openRelayFrame (X := X) rt sendTo clock message d
      exact ⟨m, hle, congrArg (fun state => some (TimedPath.mk state m)) hpath.symm⟩
  | send packet sendTo net =>
      have hpath := pathState_congr (sendOverlayPacket_paths (X := X) rt sendTo net packet) d
      exact ⟨m, hle, congrArg (fun state => some (TimedPath.mk state m)) hpath.symm⟩
  | probe sendTo clock =>
      obtain ⟨hmono, hclock⟩ := hreads
      have hexpired := pathState_expire rt (clock 0) d
      have heffect : (Section.probe sendTo clock).effect X rt =
          (rt.probePeerDirectPaths X sendTo clock).2 := rfl
      rw [heffect, probePeerDirectPaths_eq]
      unfold Section.pathEvents
      cases htransport : rt.transport with
      | none =>
          refine ⟨clock 0, (hclock 0).2, run_cons_eq_some.mpr ⟨_, if_pos (hm.trans (hclock 0).1), ?_⟩⟩
          exact congrArg (fun state => some (TimedPath.mk state (clock 0))) hexpired.symm
      | some transport =>
          obtain ⟨n, hn, hrun⟩ := roundEvents_run (X := X) (rt.expireStaleDirectPaths (clock 0)) sendTo 0
            rt.persisted.peers transport 0 hmono (fun i => (hclock i).2) (le_refl (clock 0)) d
          rw [hexpired] at hrun
          exact ⟨n, hn, run_cons_eq_some.mpr ⟨_, if_pos (hm.trans (hclock 0).1), hrun⟩⟩
  | replace salts state =>
      have hpath : (rt.rebuilt X salts state).pathState d = .default :=
        pathState_fromPersisted (X := X) salts state d
      exact ⟨m, hle, congrArg (fun state => some (TimedPath.mk state m)) hpath.symm⟩
  | reload salts state =>
      have hpath := pathState_fromPersisted (X := X) salts state d
      exact ⟨m, hle, congrArg (fun state => some (TimedPath.mk state m)) hpath.symm⟩
  | _ => exact ⟨m, hle, rfl⟩

/-- The same for some sections. -/
theorem timeline_run (X : Externals) (rt : RuntimeState) (d : String)
    (hclock : ReadInOrder now now' sections) (hm : m ≤ now) :
    ∃ n ≤ now', run pathStep ⟨rt.pathState d, m⟩ (timeline X d rt sections) =
      some ⟨(rt.after X sections).pathState d, n⟩ := by
  induction sections generalizing rt now m with
  | nil => exact ⟨m, hm.trans hclock, rfl⟩
  | cons s sections ih =>
      obtain ⟨between, hs, hrest⟩ := hclock
      obtain ⟨n, hn, hsection⟩ := pathEvents_run X rt d hs hm
      obtain ⟨n', hn', hsections⟩ := ih (s.effect X rt) hrest hn
      exact ⟨n', hn', run_append_eq_some.mpr ⟨_, hsection, hsections⟩⟩

end TfScale.Custom
