/-
  TfScale.Custom.GivenUp

  When is a Direct path given up?

  The failure counter of a path record has two meanings: unanswered probe rounds while the
  path is not Direct, and stale probe calls while it is.  A contact sets it to zero and
  makes the path Direct, so of a Direct path it is the number of stale calls since the last
  contact (`Watched`), and the third of them takes the path down.

  A contact is more than an authentic probe: it came over UDP, and a probe has been
  answered.  What comes over the relay does not keep a Direct path alive.
-/

import TfScale.Custom.PeerTimeline

namespace TfScale.Custom

open RuntimeState

variable {X : Externals} {rt : RuntimeState} {d : String} {s : Section} {done since : List Section}
  {now now' next t heardAt : SystemTime}

-- ============================================================================
-- Contacts
-- ============================================================================

namespace Section

/-- In this section the peer `d` is heard at time `t`: an authentic probe response comes
    over UDP, or an authentic probe that is answered. -/
def HeardAt (X : Externals) (rt : RuntimeState) (d : String) (t : SystemTime) : Section → Prop
  | udp bufferLen received sendTo clock =>
      ∃ transport frame source opened,
        rt.transport = some transport ∧
          (transport.receiveFrame bufferLen received).1 = .ok (some (frame, source)) ∧
          rt.Authentic X frame d opened ∧
          (opened.messageType = frameTypeProbeResponse ∨
            opened.messageType = frameTypeProbe ∧
              ∃ packet, (rt.receiveOverlayPacket X sendTo clock bufferLen received).1 = .ok packet) ∧
          t = clock 1
  | _ => False

/-- A call of `probe_peer_direct_paths` that comes when the peer has not been heard for
    15 seconds. -/
def staleCall (heardAt : SystemTime) : Section → Bool
  | probe _ clock => decide (heardAt + directProbeStaleAfter ≤ clock 0)
  | _ => false

end Section

theorem staleCall_probe {sendTo : SendTo} {clock : Nat → SystemTime} :
    (Section.probe sendTo clock).staleCall heardAt = true ↔ heardAt + directProbeStaleAfter ≤ clock 0 :=
  decide_eq_true_iff

/-- The sections as a step function: every section can happen. -/
def sectionStep (X : Externals) (rt : RuntimeState) (s : Section) : Option RuntimeState :=
  some (s.effect X rt)

/-- A frame is a contact when it is authentic, and a response or an answered probe. -/
theorem contactEvents_iff (rt : RuntimeState) (d : String) (sendTo : SendTo) (clock : Nat → SystemTime)
    (frame : Bytes) (source : SocketAddr) :
    rt.contactEvents X sendTo clock frame source d ≠ [] ↔
      ∃ opened, rt.Authentic X frame d opened ∧
        (opened.messageType = frameTypeProbeResponse ∨
          opened.messageType = frameTypeProbe ∧
            ∃ packet, (rt.openReceivedFrame X sendTo clock frame (some source)).1 = .ok packet) := by
  have hresponse : frameTypeProbeResponse ≠ frameTypeData ∧ frameTypeProbeResponse ≠ frameTypeProbe := by
    decide
  have hprobe : frameTypeProbe ≠ frameTypeData := by decide
  simp only [← openStage_ok_iff]
  unfold RuntimeState.contactEvents RuntimeState.openReceivedFrame
  rcases rt.openStage X frame with ⟨_ | ⟨deviceId, opened⟩, rt₁⟩
  · refine ⟨fun h => absurd rfl h, ?_⟩
    rintro ⟨opened, hopened, -⟩
    cases hopened
  · simp only
    constructor
    · intro h
      by_cases hd : deviceId ≠ d
      · rw [if_pos hd] at h
        exact absurd rfl h
      · rw [if_neg hd] at h
        obtain rfl := not_not.mp hd
        refine ⟨opened, rfl, ?_⟩
        by_cases htype : opened.messageType = frameTypeProbe
        · rw [if_pos htype] at h
          refine Or.inr ⟨htype, ?_⟩
          unfold RuntimeState.dispatchStage
          rw [htype, if_neg hprobe, if_pos rfl]
          simp only
          cases hanswer : (rt₁.answerProbe X sendTo clock deviceId opened.plaintext source).1 with
          | ok packet => exact ⟨packet, rfl⟩
          | error e =>
              rw [hanswer] at h
              exact absurd rfl h
        · rw [if_neg htype] at h
          by_cases htype' : opened.messageType = frameTypeProbeResponse
          · exact Or.inl htype'
          · rw [if_neg htype'] at h
            exact absurd rfl h
    · rintro ⟨opened', hopened, hkind⟩
      obtain ⟨rfl, rfl⟩ := Prod.mk.inj (Except.ok.inj hopened)
      rw [if_neg (not_not_intro rfl)]
      rcases hkind with htype | ⟨htype, packet, hanswer⟩
      · rw [htype, if_neg hresponse.2, if_pos rfl]
        exact List.cons_ne_nil _ _
      · unfold RuntimeState.dispatchStage at hanswer
        rw [htype, if_neg hprobe, if_pos rfl] at hanswer
        rw [if_pos htype]
        simp only at hanswer
        rw [hanswer]
        exact List.cons_ne_nil _ _

-- ============================================================================
-- The record across a section
-- ============================================================================

/-- A received datagram, with the contact that it is or is not. -/
theorem record_received (rt : RuntimeState) (d : String) (bufferLen : Nat) (received : Received)
    (sendTo : SendTo) (clock : Nat → SystemTime) :
    (∃ endpoint rttMs, (Section.udp bufferLen received sendTo clock).HeardAt X rt d (clock 1) ∧
      ((Section.udp bufferLen received sendTo clock).effect X rt).pathState d =
        (rt.pathState d).markDirect endpoint rttMs (clock 1)) ∨
    (∀ t, ¬ (Section.udp bufferLen received sendTo clock).HeardAt X rt d t) ∧
      ((Section.udp bufferLen received sendTo clock).effect X rt).pathState d = rt.pathState d := by
  have heffect : (Section.udp bufferLen received sendTo clock).effect X rt =
      (rt.receiveOverlayPacket X sendTo clock bufferLen received).2 := rfl
  rw [heffect]
  cases htransport : rt.transport with
  | none =>
      refine Or.inr ⟨?_, ?_⟩
      · rintro t ⟨transport, -, -, -, hsome, -⟩
        cases htransport.symm.trans hsome
      · simp only [RuntimeState.receiveOverlayPacket, htransport]
  | some transport =>
      rcases hframe : transport.receiveFrame bufferLen received with ⟨result, transport'⟩
      rcases result with error | _ | ⟨frame, source⟩
      · refine Or.inr ⟨?_, ?_⟩
        · rintro t ⟨_, frame, source, -, hsome, hreceived, -⟩
          obtain rfl := Option.some.inj (htransport.symm.trans hsome)
          cases (congrArg Prod.fst hframe).symm.trans hreceived
        · simp only [RuntimeState.receiveOverlayPacket, htransport, hframe]
          rfl
      · refine Or.inr ⟨?_, ?_⟩
        · rintro t ⟨_, frame, source, -, hsome, hreceived, -⟩
          obtain rfl := Option.some.inj (htransport.symm.trans hsome)
          cases (congrArg Prod.fst hframe).symm.trans hreceived
        · simp only [RuntimeState.receiveOverlayPacket, htransport, hframe]
          rfl
      · -- a frame: it is a contact, or nothing to the record
        have hopened : rt.receiveOverlayPacket X sendTo clock bufferLen received =
            (rt.withTransport (some transport')).openReceivedFrame X sendTo clock frame (some source) := by
          simp only [RuntimeState.receiveOverlayPacket, htransport, hframe]
        have hcontact := contactEvents_iff (X := X) (rt.withTransport (some transport')) d sendTo clock frame
          source
        rw [← hopened] at hcontact
        rcases contactEvents_cases (X := X) (rt.withTransport (some transport')) sendTo clock frame source d
          with ⟨hevents, hpath⟩ | ⟨rttMs, hevents, hpath⟩
        · rw [← hopened] at hpath
          refine Or.inr ⟨?_, hpath⟩
          rintro t ⟨_, frame', source', opened, hsome, hreceived, hauthentic, hkind, -⟩
          obtain rfl := Option.some.inj (htransport.symm.trans hsome)
          obtain ⟨rfl, rfl⟩ := Prod.mk.inj (Option.some.inj (Except.ok.inj
            ((congrArg Prod.fst hframe).symm.trans hreceived)))
          exact hcontact.mpr ⟨opened, hauthentic, hkind⟩ hevents
        · rw [← hopened] at hpath
          obtain ⟨opened, hauthentic, hkind⟩ := hcontact.mp (by rw [hevents]; exact List.cons_ne_nil _ _)
          exact Or.inl ⟨sourceEndpoint source, rttMs, ⟨transport, frame, source, opened, htransport,
            congrArg Prod.fst hframe, hauthentic, hkind, rfl⟩, hpath⟩

/-- A contact makes the path Direct. -/
theorem record_heard (h : s.HeardAt X rt d t) :
    ∃ endpoint rttMs, (s.effect X rt).pathState d = (rt.pathState d).markDirect endpoint rttMs t := by
  cases s with
  | udp bufferLen received sendTo clock =>
      have ht : t = clock 1 := h.choose_spec.choose_spec.choose_spec.choose_spec.2.2.2.2
      rcases record_received (X := X) rt d bufferLen received sendTo clock with
        ⟨endpoint, rttMs, -, hpath⟩ | ⟨hsilent, -⟩
      · rw [ht]
        exact ⟨endpoint, rttMs, hpath⟩
      · exact absurd h (hsilent t)
  | _ => exact h.elim

/-- A section in which the peer is not heard leaves its record alone, but for probe calls
    and new runtimes. -/
theorem record_silent (h : ∀ t, ¬ s.HeardAt X rt d t) (hrebuilds : s.rebuilds = false)
    (hprobe : ∀ sendTo clock, s ≠ .probe sendTo clock) :
    (s.effect X rt).pathState d = rt.pathState d := by
  cases s with
  | udp bufferLen received sendTo clock =>
      rcases record_received (X := X) rt d bufferLen received sendTo clock with
        ⟨-, -, hheard, -⟩ | ⟨-, hpath⟩
      · exact absurd hheard (h _)
      · exact hpath
  | relay message sendTo clock => exact pathState_openRelayFrame rt sendTo clock message d
  | send packet sendTo net => exact pathState_congr (sendOverlayPacket_paths rt sendTo net packet) d
  | probe sendTo clock => exact absurd rfl (hprobe sendTo clock)
  | replace salts state => cases hrebuilds
  | reload salts state => cases hrebuilds
  | _ => rfl

/-- The rounds of a probe call leave the path, and count no failure of a Direct one. -/
theorem record_probePeers (rt : RuntimeState) (sendTo : SendTo) (clock : Nat → SystemTime) (i : Nat)
    (peers : List StoredPeerSession) (transport : TransportRuntime) (sent : Nat) :
    let state := (probePeers X sendTo clock i peers rt transport sent).2.pathState d
    state.currentPath = (rt.pathState d).currentPath ∧
      state.lastSuccessAt = (rt.pathState d).lastSuccessAt ∧
      ((rt.pathState d).currentPath = .direct → state.failures = (rt.pathState d).failures) := by
  induction peers generalizing i rt transport sent with
  | nil => exact ⟨rfl, rfl, fun _ => rfl⟩
  | cons peer peers ih =>
      have hfound := pathState_withPathOf rt peer.deviceId d
      rw [probePeers_cons]
      cases (rt.withPathOf peer.deviceId).probeRound X sendTo clock i peer transport sent with
      | skipped =>
          rw [← hfound]
          exact ih _ _ _ _
      | failed error crypto transport =>
          have hsame : (((rt.withPathOf peer.deviceId).setCrypto peer.deviceId crypto).withTransport
              (some transport)).pathState d = rt.pathState d := hfound
          simp only
          rw [hsame]
          exact ⟨rfl, rfl, fun _ => rfl⟩
      | completed sent crypto transport =>
          have hover := pathState_roundOver clock i crypto (withPathOf_lookup rt peer.deviceId) d
          obtain ⟨hpath, hsuccess, hfailures⟩ := ih ((rt.withPathOf peer.deviceId).roundOver clock i
            peer.deviceId crypto) (i + 1) transport sent
          rw [hover, hfound] at hpath hsuccess hfailures
          simp only
          by_cases hd : d = peer.deviceId
          · rw [if_pos hd] at hpath hsuccess hfailures
            refine ⟨hpath, hsuccess, fun hdirect => (hfailures hdirect).trans ?_⟩
            exact if_neg (not_not_intro hdirect)
          · rw [if_neg hd] at hpath hsuccess hfailures
            exact ⟨hpath, hsuccess, hfailures⟩

/-- A probe call does to a path what the expiry pass does. -/
theorem record_probed (rt : RuntimeState) (sendTo : SendTo) (clock : Nat → SystemTime) :
    let state := ((Section.probe sendTo clock).effect X rt).pathState d
    let expired := (rt.pathState d).expire rt.relays (clock 0)
    state.currentPath = expired.currentPath ∧ state.lastSuccessAt = expired.lastSuccessAt ∧
      (expired.currentPath = .direct → state.failures = expired.failures) := by
  have hexpired := pathState_expire rt (clock 0) d
  have heffect : (Section.probe sendTo clock).effect X rt =
      (rt.probePeerDirectPaths X sendTo clock).2 := rfl
  rw [heffect, probePeerDirectPaths_eq]
  cases rt.transport with
  | none =>
      simp only
      rw [hexpired]
      exact ⟨rfl, rfl, fun _ => rfl⟩
  | some transport =>
      have hrounds := record_probePeers (X := X) (d := d) (rt.expireStaleDirectPaths (clock 0)) sendTo clock 0
        rt.persisted.peers transport 0
      rw [hexpired] at hrounds
      exact hrounds

-- ============================================================================
-- The expiry of a Direct path
-- ============================================================================

section Expiry

variable {state : PeerPathState} (relays : List RelayConfig)

theorem toNat_saturatingSucc {n : UInt32} (h : n.toNat ≤ 2) : (saturatingSucc n).toNat = n.toNat + 1 := by
  have hne : n ≠ 4294967295 := by
    rintro rfl
    exact absurd h (by decide)
  have hone : (1 : UInt32).toNat = 1 := rfl
  rw [saturatingSucc, if_neg hne, UInt32.toNat_add]
  omega

/-- The failures of a Direct path after an expiry pass. -/
def countedFailures (state : PeerPathState) (heardAt t : SystemTime) : UInt32 :=
  if heardAt + directProbeStaleAfter ≤ t then saturatingSucc state.failures else state.failures

/-- The expiry of a Direct path that has been heard at a known time. -/
theorem expire_direct_eq (hdirect : state.currentPath = .direct)
    (hlast : state.lastSuccessAt = some heardAt) (hpast : heardAt ≤ t) :
    state.expire relays t =
      if directProbeFailureThreshold ≤ countedFailures state heardAt t then
        { state with
          currentPath := if relays.isEmpty then .unknown else .relay
          activeEndpoint := if relays.isEmpty then none else some relayEndpoint
          failures := countedFailures state heardAt t
          rttMs := none
          fastProbeAttemptsRemaining := directFastProbeBurstAttempts }
      else { state with failures := countedFailures state heardAt t } := by
  have hover : ∀ {a b : Int} {gap : Nat}, a ≤ b → (gap ≤ (b - a).toNat ↔ a + gap ≤ b) := by
    intro a b gap hab
    omega
  obtain ⟨path, active, lastProbeAt, lastSuccessAt, sentAt, fast, failures, rttMs⟩ := state
  obtain rfl : lastSuccessAt = some heardAt := hlast
  rw [PeerPathState.expire, if_neg (not_not_intro hdirect)]
  simp only [Option.bind_some, durationSince, if_pos hpast, decide_eq_true_eq, hover hpast]
  by_cases hstale : heardAt + directProbeStaleAfter ≤ t
  · simp only [countedFailures, if_pos hstale]
    split
    · split <;> rfl
    · rfl
  · simp only [countedFailures, if_neg hstale]
    split
    · split <;> rfl
    · rfl

/-- The third stale call takes the path down, to the relay if there is one. -/
theorem expire_third (hdirect : state.currentPath = .direct) (hlast : state.lastSuccessAt = some heardAt)
    (hpast : heardAt ≤ t) (hstale : heardAt + directProbeStaleAfter ≤ t)
    (htwo : state.failures.toNat = 2) :
    (state.expire relays t).currentPath = if relays.isEmpty then .unknown else .relay := by
  have hthree : directProbeFailureThreshold ≤ countedFailures state heardAt t := by
    rw [countedFailures, if_pos hstale, UInt32.le_iff_toNat_le, toNat_saturatingSucc htwo.le, htwo]
    decide
  rw [expire_direct_eq relays hdirect hlast hpast, if_pos hthree]

/-- Any other call leaves it, and counts if it is stale. -/
theorem expire_watched (hdirect : state.currentPath = .direct)
    (hlast : state.lastSuccessAt = some heardAt) (hpast : heardAt ≤ t) (hfew : state.failures.toNat ≤ 2)
    (hnot : ¬ (heardAt + directProbeStaleAfter ≤ t ∧ state.failures.toNat = 2)) :
    state.expire relays t = { state with failures := countedFailures state heardAt t } := by
  have hthreshold : directProbeFailureThreshold.toNat = 3 := rfl
  have hbelow : ¬ directProbeFailureThreshold ≤ countedFailures state heardAt t := by
    rw [UInt32.le_iff_toNat_le, hthreshold, countedFailures]
    split
    · rename_i hstale
      have hne : state.failures.toNat ≠ 2 := fun htwo => hnot ⟨hstale, htwo⟩
      rw [toNat_saturatingSucc hfew]
      omega
    · omega
  rw [expire_direct_eq relays hdirect hlast hpast, if_neg hbelow]

end Expiry

-- ============================================================================
-- The counter of a Direct path
-- ============================================================================

theorem run_sectionStep (rt : RuntimeState) (sections : List Section) :
    run (sectionStep X) rt sections = some (rt.after X sections) := by
  induction sections generalizing rt with
  | nil => rfl
  | cons s sections ih => exact ih (s.effect X rt)

/-- The peer has been heard last at `heardAt`, and the counter of its record is the number
    of stale probe calls since. -/
structure Watched (X : Externals) (d : String) (before : List Section) (contact : Section)
    (since : List Section) (heardAt now : SystemTime) : Prop where
  heard : contact.HeardAt X (RuntimeState.default.after X before) d heardAt
  silent : Along (sectionStep X) (fun rt s => ∀ t, ¬ s.HeardAt X rt d t)
    (RuntimeState.default.after X (before ++ [contact])) since
  past : heardAt ≤ now
  last : ((RuntimeState.default.after X (before ++ [contact] ++ since)).pathState d).lastSuccessAt =
    some heardAt
  failures : ((RuntimeState.default.after X (before ++ [contact] ++ since)).pathState d).failures.toNat =
    since.countP (·.staleCall heardAt)
  few : since.countP (·.staleCall heardAt) ≤ 2

/-- A Direct path is watched. -/
def DirectWatched (X : Externals) (d : String) (done : List Section) (now : SystemTime) : Prop :=
  ((RuntimeState.default.after X done).pathState d).currentPath = .direct →
    ∃ before contact since heardAt, done = before ++ [contact] ++ since ∧
      Watched X d before contact since heardAt now

section Step

variable {before : List Section} {contact : Section}

/-- A contact starts the watch. -/
theorem watched_of_heard (h : s.HeardAt X (RuntimeState.default.after X done) d t) (hpast : t ≤ now) :
    Watched X d done s [] t now := by
  obtain ⟨endpoint, rttMs, hpath⟩ := record_heard h
  rw [← after_append_singleton] at hpath
  refine ⟨h, trivial, hpast, ?_, ?_, Nat.zero_le _⟩
  · rw [List.append_nil, hpath]
    rfl
  · rw [List.append_nil, hpath]
    rfl

/-- A section without a contact goes on with it, when the path stays as it is and the
    count right. -/
theorem Watched.snoc (h : Watched X d before contact since heardAt now) (hle : now ≤ next)
    (hsilent : ∀ t, ¬ s.HeardAt X (RuntimeState.default.after X (before ++ [contact] ++ since)) d t)
    (hlast : ((s.effect X (RuntimeState.default.after X (before ++ [contact] ++ since))).pathState
      d).lastSuccessAt = some heardAt)
    (hfailures : ((s.effect X (RuntimeState.default.after X (before ++ [contact] ++ since))).pathState
      d).failures.toNat = since.countP (·.staleCall heardAt) + if s.staleCall heardAt then 1 else 0)
    (hfew : since.countP (·.staleCall heardAt) + (if s.staleCall heardAt then 1 else 0) ≤ 2) :
    Watched X d before contact (since ++ [s]) heardAt next := by
  have hcount : (since ++ [s]).countP (·.staleCall heardAt) =
      since.countP (·.staleCall heardAt) + if s.staleCall heardAt then 1 else 0 := by
    rw [List.countP_append, List.countP_singleton]
  refine ⟨h.heard, h.silent.append fun rt hrt => ⟨?_, fun _ _ => trivial⟩, h.past.trans hle, ?_, ?_, ?_⟩
  · rw [run_sectionStep] at hrt
    obtain rfl := Option.some.inj hrt
    rw [← after_append]
    exact hsilent
  · rw [← List.append_assoc, after_append_singleton]
    exact hlast
  · rw [← List.append_assoc, after_append_singleton, hcount]
    exact hfailures
  · rw [hcount]
    exact hfew

/-- A probe call that is not the third stale one. -/
theorem Watched.probe (h : Watched X d before contact since heardAt now) {sendTo : SendTo}
    {clock : Nat → SystemTime} (hreads : (Section.probe sendTo clock).Reads now next)
    (hdirect : ((RuntimeState.default.after X (before ++ [contact] ++ since)).pathState d).currentPath =
      .direct)
    (hnot : ¬ (heardAt + directProbeStaleAfter ≤ clock 0 ∧ since.countP (·.staleCall heardAt) = 2)) :
    Watched X d before contact (since ++ [.probe sendTo clock]) heardAt next := by
  have hpast : heardAt ≤ clock 0 := h.past.trans (hreads.2 0).1
  have hfailures := h.failures
  have hfew := h.few
  rw [← hfailures] at hnot hfew
  have hexpired := expire_watched
    (RuntimeState.default.after X (before ++ [contact] ++ since)).relays hdirect h.last hpast hfew hnot
  obtain ⟨hpath, hsuccess, hcounted⟩ := record_probed (X := X) (d := d)
    (RuntimeState.default.after X (before ++ [contact] ++ since)) sendTo clock
  rw [hexpired] at hpath hsuccess hcounted
  have hcount : (countedFailures ((RuntimeState.default.after X (before ++ [contact] ++ since)).pathState d)
      heardAt (clock 0)).toNat = since.countP (·.staleCall heardAt) +
        if (Section.probe sendTo clock).staleCall heardAt then 1 else 0 := by
    rw [countedFailures, ← hfailures]
    simp only [staleCall_probe]
    split
    · exact toNat_saturatingSucc hfew
    · rfl
  refine h.snoc hreads.le (fun t hheard => hheard) (hsuccess.trans h.last) ?_ ?_
  · rw [hcounted hdirect]
    exact hcount
  · rw [hfailures] at hnot hfew
    simp only [staleCall_probe]
    split
    · rename_i hstale
      have hne : since.countP (·.staleCall heardAt) ≠ 2 := fun htwo => hnot ⟨hstale, htwo⟩
      exact Nat.lt_of_le_of_ne hfew hne
    · exact hfew

/-- The third stale probe call takes the path down. -/
theorem Watched.third (h : Watched X d before contact since heardAt now) (hreads : s.Reads now next)
    (hdirect : ((RuntimeState.default.after X (before ++ [contact] ++ since)).pathState d).currentPath =
      .direct)
    (hstale : s.staleCall heardAt = true) (htwo : since.countP (·.staleCall heardAt) = 2) :
    ((s.effect X (RuntimeState.default.after X (before ++ [contact] ++ since))).pathState d).currentPath =
      if (RuntimeState.default.after X (before ++ [contact] ++ since)).relays.isEmpty then .unknown
      else .relay := by
  cases s with
  | probe sendTo clock =>
      have hpast : heardAt ≤ clock 0 := h.past.trans (hreads.2 0).1
      have hexpired := expire_third (RuntimeState.default.after X (before ++ [contact] ++ since)).relays
        hdirect h.last hpast (of_decide_eq_true hstale) (h.failures.trans htwo)
      exact (record_probed _ sendTo clock).1.trans hexpired
  | _ => cases hstale

/-- Every other section leaves the path Direct, but for new runtimes. -/
theorem Watched.stays (h : Watched X d before contact since heardAt now) (hreads : s.Reads now next)
    (hrebuilds : s.rebuilds = false)
    (hdirect : ((RuntimeState.default.after X (before ++ [contact] ++ since)).pathState d).currentPath =
      .direct)
    (hnot : ¬ (s.staleCall heardAt = true ∧ since.countP (·.staleCall heardAt) = 2)) :
    ((s.effect X (RuntimeState.default.after X (before ++ [contact] ++ since))).pathState d).currentPath =
      .direct := by
  by_cases hheard : ∃ t, s.HeardAt X (RuntimeState.default.after X (before ++ [contact] ++ since)) d t
  · obtain ⟨t, hheard⟩ := hheard
    obtain ⟨endpoint, rttMs, hpath⟩ := record_heard hheard
    rw [hpath]
    rfl
  · by_cases hprobe : ∃ sendTo clock, s = .probe sendTo clock
    · obtain ⟨sendTo, clock, rfl⟩ := hprobe
      rw [staleCall_probe, ← h.failures] at hnot
      have hexpired := expire_watched (RuntimeState.default.after X (before ++ [contact] ++ since)).relays
        hdirect h.last (h.past.trans (hreads.2 0).1) (h.failures.trans_le h.few) hnot
      have hpath := (record_probed (X := X) (d := d)
        (RuntimeState.default.after X (before ++ [contact] ++ since)) sendTo clock).1
      rw [hexpired] at hpath
      exact hpath.trans hdirect
    · have hsilent := record_silent (fun t ht => hheard ⟨t, ht⟩) hrebuilds
        fun sendTo clock heq => hprobe ⟨sendTo, clock, heq⟩
      rw [hsilent]
      exact hdirect

theorem heardAt_le (h : s.HeardAt X rt d t) (hreads : s.Reads now next) : t ≤ next := by
  cases s with
  | udp bufferLen received sendTo clock =>
      obtain ⟨-, -, -, -, -, -, -, -, rfl⟩ := h
      exact (hreads.2 1).2
  | _ => exact h.elim

/-- A new runtime has no Direct path. -/
theorem rebuilt_not_direct (h : s.rebuilds = true) :
    ((s.effect X rt).pathState d).currentPath ≠ .direct := by
  have hdefault : (s.effect X rt).pathState d = .default := by
    cases s with
    | replace salts state => exact pathState_fromPersisted (X := X) salts state d
    | reload salts state => exact pathState_fromPersisted (X := X) salts state d
    | _ => cases h
  rw [hdefault]
  decide

/-- A probe call makes no path Direct. -/
theorem direct_of_probed {sendTo : SendTo} {clock : Nat → SystemTime}
    (h : (((Section.probe sendTo clock).effect X rt).pathState d).currentPath = .direct) :
    (rt.pathState d).currentPath = .direct := by
  rw [(record_probed rt sendTo clock).1] at h
  by_contra hnot
  rw [PeerPathState.expire, if_pos hnot] at h
  exact hnot h

/-- One section. -/
theorem DirectWatched.step (h : DirectWatched X d done now) (hreads : s.Reads now next) :
    DirectWatched X d (done ++ [s]) next := by
  intro hafter
  rw [after_append_singleton] at hafter
  by_cases hheard : ∃ t, s.HeardAt X (RuntimeState.default.after X done) d t
  · obtain ⟨t, hheard⟩ := hheard
    exact ⟨done, s, [], t, (List.append_nil _).symm, watched_of_heard hheard (heardAt_le hheard hreads)⟩
  · have hsilent : ∀ t, ¬ s.HeardAt X (RuntimeState.default.after X done) d t := fun t ht => hheard ⟨t, ht⟩
    have hrebuilds : s.rebuilds = false := by
      by_contra hnot
      exact rebuilt_not_direct (Bool.eq_true_of_not_eq_false hnot) hafter
    by_cases hprobe : ∃ sendTo clock, s = .probe sendTo clock
    · obtain ⟨sendTo, clock, rfl⟩ := hprobe
      have hdirect := direct_of_probed hafter
      obtain ⟨before, contact, since, heardAt, rfl, hwatched⟩ := h hdirect
      refine ⟨before, contact, since ++ [.probe sendTo clock], heardAt, List.append_assoc _ _ _, ?_⟩
      refine hwatched.probe hreads hdirect fun ⟨hstale, htwo⟩ => ?_
      -- the third stale call would have taken the path down
      rw [hwatched.third hreads hdirect (decide_eq_true hstale) htwo] at hafter
      split at hafter <;> cases hafter
    · have hprobe' : ∀ sendTo clock, s ≠ .probe sendTo clock :=
        fun sendTo clock heq => hprobe ⟨sendTo, clock, heq⟩
      have hrecord := record_silent hsilent hrebuilds hprobe'
      rw [hrecord] at hafter
      obtain ⟨before, contact, since, heardAt, rfl, hwatched⟩ := h hafter
      have hnone : s.staleCall heardAt = false := by
        cases s with
        | probe sendTo clock => exact absurd rfl (hprobe' sendTo clock)
        | _ => rfl
      refine ⟨before, contact, since ++ [s], heardAt, List.append_assoc _ _ _, ?_⟩
      refine hwatched.snoc hreads.le hsilent ?_ ?_ ?_
      · rw [hrecord]
        exact hwatched.last
      · rw [hrecord, hnone]
        exact hwatched.failures
      · rw [hnone]
        exact hwatched.few

end Step

/-- Every run. -/
theorem directWatched_run (hclock : ReadInOrder now now' done) : DirectWatched X d done now' := by
  induction done using List.reverseRecOn generalizing now' with
  | nil =>
      intro hdirect
      cases hdirect
  | append_singleton done s ih =>
      obtain ⟨between, hdone, next, hreads, hle⟩ := readInOrder_append.mp hclock
      exact (ih hdone).step (hreads.mono hle)

/-- **Direct paths are given up when stale.**  In a run whose clock does not go back, a
    peer whose path is Direct has been heard over UDP, and then: of the sections that can
    come next, other than those that build the runtime anew, the third stale probe call
    since it was last heard takes the path down, to the relay if there is one, and no
    other does.  When the peer is heard its path is Direct, with no failures. -/
theorem direct_path_given_up_iff (X : Externals) (d : String) (hclock : ReadInOrder now now' done) :
    (((RuntimeState.default.after X done).pathState d).currentPath = .direct →
      ∃ before contact since heardAt, done = before ++ [contact] ++ since ∧
        contact.HeardAt X (RuntimeState.default.after X before) d heardAt ∧
        Along (sectionStep X) (fun rt s => ∀ t, ¬ s.HeardAt X rt d t)
          (RuntimeState.default.after X (before ++ [contact])) since ∧
        ∀ (s : Section) next, s.Reads now' next → s.rebuilds = false →
          let path := ((s.effect X (RuntimeState.default.after X done)).pathState d).currentPath
          (path ≠ .direct ↔ s.staleCall heardAt = true ∧ since.countP (·.staleCall heardAt) = 2) ∧
            (path ≠ .direct →
              path = if (RuntimeState.default.after X done).relays.isEmpty then .unknown else .relay)) ∧
    ∀ (s : Section) t, s.HeardAt X (RuntimeState.default.after X done) d t →
      let state := (s.effect X (RuntimeState.default.after X done)).pathState d
      state.currentPath = .direct ∧ state.failures = 0 := by
  refine ⟨fun hdirect => ?_, fun s t hheard => ?_⟩
  · obtain ⟨before, contact, since, heardAt, rfl, hwatched⟩ := directWatched_run hclock hdirect
    refine ⟨before, contact, since, heardAt, rfl, hwatched.heard, hwatched.silent, ?_⟩
    intro s next hreads hrebuilds path
    have hthird : path ≠ .direct → s.staleCall heardAt = true ∧ since.countP (·.staleCall heardAt) = 2 := by
      intro hleft
      by_contra hnot
      exact hleft (hwatched.stays hreads hrebuilds hdirect hnot)
    have hdown : s.staleCall heardAt = true ∧ since.countP (·.staleCall heardAt) = 2 →
        path = if (RuntimeState.default.after X (before ++ [contact] ++ since)).relays.isEmpty then .unknown
          else .relay := by
      rintro ⟨hstale, htwo⟩
      exact hwatched.third hreads hdirect hstale htwo
    refine ⟨⟨hthird, fun h => ?_⟩, fun hleft => hdown (hthird hleft)⟩
    rw [hdown h]
    split
    · decide
    · decide
  · obtain ⟨endpoint, rttMs, hpath⟩ := record_heard hheard
    rw [hpath]
    exact ⟨rfl, rfl⟩

namespace Reference

/-- A peer that has answered once, and two stale probe calls. -/
def answeredOnce : List Section :=
  [install, .relayMap relays, bindSocket, receiveResponse, probeAt 17, probeAt 18]

/-- The next frame of the peer: a probe, which comes over the relay half a second later. -/
def relayedProbe : Bytes :=
  ((peerEnd.sealMessage Externals.reference (strBytes "probe_response 1000")
    frameTypeProbeResponse).2.sealMessage Externals.reference (strBytes "probe 18500")
    frameTypeProbe).1.toOption.getD []

def receiveOverRelay : Section :=
  .relay (.frame "dev_00000000000000000000000000000002" localConfig.deviceId
    (base64Encode relayedProbe)) env.sendTo fun _ => 18500000000

/-- The path of the peer after some sections. -/
def pathAfter (sections : List Section) : PeerPathKind :=
  ((RuntimeState.default.after Externals.reference sections).pathState
    "dev_00000000000000000000000000000002").currentPath

end Reference

open Reference in
/-- The peer is Direct after two stale calls, the third one takes it to the relay, and
    there were two since it was heard. -/
theorem direct_path_given_up_third :
    pathAfter answeredOnce = .direct ∧ pathAfter (answeredOnce ++ [probeAt 19]) = .relay ∧
      ∃ before contact since heardAt, answeredOnce = before ++ [contact] ++ since ∧
        since.countP (·.staleCall heardAt) = 2 := by
  obtain ⟨hdirect, hrelay⟩ : pathAfter answeredOnce = .direct ∧
      pathAfter (answeredOnce ++ [probeAt 19]) = .relay := by decide +kernel
  have hread : ∀ {now next : Int} (seconds : Nat), now ≤ seconds * 1000000000 →
      seconds * 1000000000 ≤ next → (probeAt seconds).Reads now next :=
    fun seconds hbefore hafter => ⟨monotone_const, fun _ => ⟨hbefore, hafter⟩⟩
  have hclock : ReadInOrder 0 18000000000 answeredOnce := by
    refine ⟨0, le_refl (0 : Int), 0, le_refl (0 : Int), 0, le_refl (0 : Int), 1010000000,
      ⟨monotone_const, fun _ => ⟨?_, le_refl (1010000000 : Int)⟩⟩, 17000000000, hread 17 ?_ ?_,
      18000000000, hread 18 ?_ ?_, le_refl (18000000000 : Int)⟩
    · show (0 : Int) ≤ 1010000000
      decide
    all_goals decide
  obtain ⟨before, contact, since, heardAt, hdone, -, -, hnext⟩ :=
    (direct_path_given_up_iff Externals.reference "dev_00000000000000000000000000000002" hclock).1 hdirect
  have hthird := (hnext (probeAt 19) 19000000000 (hread 19 (by decide) (by decide)) rfl).1
  rw [← after_append_singleton] at hthird
  have hleft : pathAfter (answeredOnce ++ [probeAt 19]) ≠ .direct := by
    rw [hrelay]
    decide
  exact ⟨hdirect, hrelay, before, contact, since, heardAt, hdone, (hthird.mp hleft).2⟩

open Reference in
/-- An authentic probe of the peer comes over the relay, and half a second later the next
    probe call gives the Direct path up. -/
theorem direct_path_given_up_after_relayed_probe :
    (∃ frame, RuntimeState.relayFrame Externals.reference (.frame "dev_00000000000000000000000000000002"
        localConfig.deviceId (base64Encode relayedProbe)) = some (.ok frame) ∧
      (RuntimeState.default.after Externals.reference answeredOnce).Authentic Externals.reference frame
        "dev_00000000000000000000000000000002" ⟨frameTypeProbe, strBytes "probe 18500"⟩) ∧
      pathAfter (answeredOnce ++ [receiveOverRelay]) = .direct ∧
      pathAfter (answeredOnce ++ [receiveOverRelay, probeAt 19]) = .relay := by
  have hcarried := Externals.reference_lawful.base64_round_trip relayedProbe
  have hpaths : pathAfter (answeredOnce ++ [receiveOverRelay]) = .direct ∧
      pathAfter (answeredOnce ++ [receiveOverRelay, probeAt 19]) = .relay := by decide +kernel
  exact ⟨⟨relayedProbe, congrArg some hcarried, openStage_ok_iff.mp (by decide +kernel)⟩, hpaths⟩

end TfScale.Custom
