/-
  TfScale.System.RoundTrip

  Is a measured round trip time one?

  `probe_peer_direct_paths` writes its clock into a probe, the peer copies the number
  into its answer, and whoever opens the answer takes the number from its own clock.
  Nothing in an answer says which probe it belongs to, so that the difference is a round
  trip time is a fact about the two backends and the network between them: it may lose,
  delay, repeat and reorder what they send and make up frames of its own, and the answer
  that is opened still goes back to a probe of the one and a receipt of the other.

  A `Link` is the two backends with all that they have sent; `linked_step` is the
  invariant, which finds for every frame the event that it comes from.
-/

import TfScale.Lib.History
import TfScale.Custom.Emissions
import TfScale.Custom.NonceUniqueness
import TfScale.Custom.PeerTimeline
import TfScale.Custom.ProbeTimestamps
import TfScale.System.Overlay

namespace TfScale.System

open Custom Custom.PeerCryptoSession Custom.RuntimeState

variable {X : Externals} {rt rt' : RuntimeState} {d : String} {n : UInt64}

-- ============================================================================
-- What writes a round trip time
-- ============================================================================

/-- A probe response that is opened, and the round trip time that it gives. -/
def Measures (X : Externals) (rt : RuntimeState) (d : String) (n : UInt64) (t : Traffic) : Prop :=
  ∃ bufferLen received sendTo clock a payload,
    t = .lock (.udp bufferLen received sendTo clock) ∧
    (Section.udp bufferLen received sendTo clock).arrival X rt = some a ∧
    rt.Authentic X a.frame d ⟨frameTypeProbeResponse, payload⟩ ∧
    probeResponseRttMs payload (unixMillis (clock 0)) = some n

theorem rttMs_expire {state : PeerPathState} {relays : List RelayConfig} {now : SystemTime}
    (h : (state.expire relays now).rttMs = some n) : state.rttMs = some n := by
  have hkept : (state.expire relays now).rttMs = none ∨
      (state.expire relays now).rttMs = state.rttMs := by
    simp only [PeerPathState.expire]
    split_ifs <;> first | exact Or.inl rfl | exact Or.inr rfl
  rcases hkept with hnone | hsame
  · rw [hnone] at h
    cases h
  · exact hsame.symm.trans h

/-- Probing takes no round trip time. -/
theorem rttMs_probePeers {sendTo : SendTo} {clock : Nat → SystemTime} {i sent : Nat}
    {peers : List StoredPeerSession} {transport : TransportRuntime} :
    ((probePeers X sendTo clock i peers rt transport sent).2.pathState d).rttMs = (rt.pathState d).rttMs := by
  induction peers generalizing i rt transport sent with
  | nil => rfl
  | cons peer peers ih =>
      have hfound := pathState_withPathOf rt peer.deviceId d
      rw [probePeers_cons]
      cases hround : (rt.withPathOf peer.deviceId).probeRound X sendTo clock i peer transport sent with
      | skipped => exact ih.trans (congrArg PeerPathState.rttMs hfound)
      | failed error crypto transport' => exact congrArg PeerPathState.rttMs hfound
      | completed sent' crypto transport' =>
          have hover := pathState_roundOver clock i crypto (withPathOf_lookup rt peer.deviceId) d
          simp only
          rw [ih, hover, ← hfound]
          split
          · rfl
          · rfl

/-- The contact that writes a round trip time. -/
theorem measures_of_contact {sendTo : SendTo} {clock : Nat → SystemTime} {frame : Bytes}
    {source : SocketAddr} {endpoint : Endpoint} {now : SystemTime}
    (h : rt.contactEvents X sendTo clock frame source d = [.contact endpoint (some n) now]) :
    ∃ payload, rt.Authentic X frame d ⟨frameTypeProbeResponse, payload⟩ ∧
      probeResponseRttMs payload (unixMillis (clock 0)) = some n := by
  unfold RuntimeState.contactEvents at h
  rcases hopen : rt.openStage X frame with ⟨_ | ⟨deviceId, messageType, payload⟩, rt₁⟩
  · rw [hopen] at h
    cases h
  rw [hopen] at h
  have hauthentic := openStage_ok_iff.mp (congrArg Prod.fst hopen)
  simp only at h
  split at h
  · cases h
  rename_i hdevice
  split at h
  · split at h
    · have hcontact := List.head_eq_of_cons_eq h
      cases hcontact
    · cases h
  split at h
  · rename_i hresponse
    have hcontact := List.head_eq_of_cons_eq h
    obtain ⟨-, hrtt, -⟩ := RecordEvent.contact.inj hcontact
    obtain rfl : deviceId = d := not_not.mp hdevice
    obtain rfl : messageType = frameTypeProbeResponse := hresponse
    exact ⟨payload, hauthentic, hrtt⟩
  · cases h

/-- A round trip time was there before or is measured now. -/
theorem rttMs_of_traffic {t : Traffic} (hstep : t.step X rt = some rt')
    (h : (rt'.pathState d).rttMs = some n) : (rt.pathState d).rttMs = some n ∨ Measures X rt d n t := by
  cases t with
  | expire now =>
      obtain rfl := Option.some.inj hstep
      rw [pathState_expire] at h
      exact Or.inl (rttMs_expire h)
  | lock s =>
      simp only [Traffic.step] at hstep
      split at hstep
      · cases hstep
      rename_i hrebuilds
      obtain rfl := Option.some.inj hstep
      cases s with
      | udp bufferLen received sendTo clock =>
          unfold Section.effect RuntimeState.receiveOverlayPacket at h
          cases htransport : rt.transport with
          | none =>
              rw [htransport] at h
              exact Or.inl h
          | some transport =>
              rw [htransport] at h
              simp only at h
              rcases hframe : transport.receiveFrame bufferLen received with
                ⟨_ | _ | ⟨frame, source⟩, transport'⟩
              · rw [hframe] at h
                exact Or.inl h
              · rw [hframe] at h
                exact Or.inl h
              · rw [hframe] at h
                simp only at h
                rcases contactEvents_cases (X := X) (rt.withTransport (some transport')) sendTo clock frame
                    source d with ⟨-, hpath⟩ | ⟨rttMs, hevents, hpath⟩
                · rw [hpath] at h
                  exact Or.inl h
                · rw [hpath] at h
                  obtain rfl : rttMs = some n := h
                  obtain ⟨payload, hauthentic, hrtt⟩ := measures_of_contact hevents
                  refine Or.inr ⟨bufferLen, received, sendTo, clock,
                    ⟨rt.withTransport (some transport'), sendTo, clock, frame, some source⟩, payload, rfl, ?_,
                    hauthentic, hrtt⟩
                  simp only [Section.arrival, htransport, hframe]
      | relay message sendTo clock =>
          have hpath := pathState_openRelayFrame (X := X) rt sendTo clock message d
          exact Or.inl (hpath ▸ h)
      | send packet sendTo net =>
          have hpath := pathState_congr (sendOverlayPacket_paths (X := X) rt sendTo net packet) d
          exact Or.inl (hpath ▸ h)
      | probe sendTo clock =>
          have heffect : (Section.probe sendTo clock).effect X rt =
              (rt.probePeerDirectPaths X sendTo clock).2 := rfl
          rw [heffect, probePeerDirectPaths_eq] at h
          have hexpired : ((rt.expireStaleDirectPaths (clock 0)).pathState d).rttMs = some n := by
            cases htransport : rt.transport with
            | none =>
                rw [htransport] at h
                exact h
            | some transport =>
                rw [htransport] at h
                exact rttMs_probePeers.symm.trans h
          rw [pathState_expire] at hexpired
          exact Or.inl (rttMs_expire hexpired)
      | replace salts state => exact absurd rfl hrebuilds
      | reload salts state => exact absurd rfl hrebuilds
      | _ => exact Or.inl h

-- ============================================================================
-- Two backends and the network
-- ============================================================================

/-- Two backends that list each other, as they are stored. -/
structure Pair (X : Externals) where
  persisted : Side → CustomBackendState
  salts : Side → Salts
  peer : Side → StoredPeerSession
  lists : ∀ side, Lists X (persisted side) (peer side) (persisted side.other)
  frameIds : ∀ side, ((persisted side).frameIds X).Nodup

/-- The two backends, and the frames that each of them has sent over UDP so far. -/
structure Link where
  backend : Side → RuntimeState
  sent : Side → List Bytes

/-- What happens at one of the two ends. -/
abbrev LinkEvent := Side × Traffic

/-- The datagrams that are sent. -/
def emittedBy (X : Externals) (rt : RuntimeState) : Traffic → List Bytes
  | .lock s => (s.emitted X rt).map Prod.snd
  | .expire _ => []

/-- A probe or a response is opened as one of the peer's that the peer has not sent. -/
def Link.forged (X : Externals) (peer : String) (l : Link) (side : Side) : Traffic → Bool
  | .lock s =>
      (s.arrival X (l.backend side)).any fun a =>
        ((a.rt.openStage X a.frame).1.toOption).any fun opened =>
          decide (opened.1 = peer ∧ opened.2.messageType ≠ frameTypeData) &&
            (l.sent side.other).all fun frame => decide (frame ≠ a.frame)
  | .expire _ => false

namespace Pair

variable (p : Pair X)

def start : Link := ⟨fun side => fromPersisted X (p.salts side) (p.persisted side), fun _ => []⟩

/-- One event; the network can make up anything but the authentication of a frame. -/
def step (l : Link) (e : LinkEvent) : Option Link :=
  if l.forged X (p.peer e.1).deviceId e.1 e.2 then none
  else (e.2.step X (l.backend e.1)).map fun rt =>
    ⟨Function.update l.backend e.1 rt,
      Function.update l.sent e.1 (l.sent e.1 ++ emittedBy X (l.backend e.1) e.2)⟩

/-- Event `n` is a round of probes at the end `side`, which reads `sentAt` on its clock. -/
def ProbesAt (events : List LinkEvent) (side : Side) (sentAt n : Nat) : Prop :=
  ∃ sendTo clock i, events[n]? = some (side, .lock (.probe sendTo clock)) ∧
    sentAt = unixMillis (clock i)

/-- In event `n` a datagram arrives at the end `side`, and its clock shows `now`. -/
def HearsAt (events : List LinkEvent) (side : Side) (now n : Nat) : Prop :=
  ∃ bufferLen received sendTo clock,
    events[n]? = some (side, .lock (.udp bufferLen received sendTo clock)) ∧ now = unixMillis (clock 0)

/-- The path of the device leads straight to `source`. -/
def DirectTo (rt : RuntimeState) (deviceId : String) (source : SocketAddr) : Prop :=
  ∃ state, rt.peerPathStateByDevice.lookup deviceId = some state ∧ state.currentPath = .direct ∧
    state.activeEndpoint = some (sourceEndpoint source)

/-- In event `n` a datagram arrives at the end `side`, and after it the peer is direct. -/
def AnswersAt (events : List LinkEvent) (side : Side) (n : Nat) : Prop :=
  (∃ now, HearsAt events side now n) ∧ ∃ l source, Passed p.step p.start events (n + 1) l ∧
    DirectTo (l.backend side) (p.peer side).deviceId source

/-- A frame for the peer comes from a round of probes, or from the receipt of a probe that
    comes from one of the peer's rounds. -/
def Explained (events : List LinkEvent) (side : Side) : Cause → Prop
  | .packet _ => True
  | .probe sentAt => ∃ n, ProbesAt events side sentAt n
  | .answer question _ => ∃ sentAt i j, i < j ∧ ProbesAt events side.other sentAt i ∧
      p.AnswersAt events side j ∧ question = (Cause.probe sentAt).payload

/-- The number is the time from a round of probes to the arrival of an answer, with the
    receipt at the other end between them. -/
def RoundTrip (events : List LinkEvent) (side : Side) (n : UInt64) : Prop :=
  ∃ sentAt now i j k, i < j ∧ j < k ∧ ProbesAt events side sentAt i ∧
    p.AnswersAt events side.other j ∧ HearsAt events side now k ∧ sentAt ≤ now ∧ n.toNat = now - sentAt

/-- The clock of a round of probes shows 128-bit milliseconds. -/
def ReadsClock (e : LinkEvent) : Prop :=
  ∀ sendTo clock i, e.2 = .lock (.probe sendTo clock) → unixMillis (clock i) < u128Bound

/-- The datagram is the request of a public probe, or it is sealed for a listed peer, and
    for a cause that has its events if that is the peer at the other end. -/
def Accounted (events : List LinkEvent) (side : Side) (frame : Bytes) : Prop :=
  frame = publicEndpointProbeRequest ∨ ∃ peer ∈ (p.persisted side).peers, ∃ (crypto : PeerCryptoSession) (cause : Cause),
    BuiltFor X (p.persisted side) peer crypto.asBuilt ∧
    (crypto.sealMessage X cause.payload cause.messageType).1 = .ok frame ∧
    (peer.deviceId = (p.peer side).deviceId → p.Explained events side cause)

/-- Every frame and every round trip time has its events. -/
structure Linked (events : List LinkEvent) (l : Link) : Prop where
  routed : ∀ side, Routed X (p.persisted side) (l.backend side)
  sent : ∀ side, ∀ frame ∈ l.sent side, p.Accounted events side frame
  measured : (∀ e ∈ events, ReadsClock e) → ∀ side n,
    ((l.backend side).pathState (p.peer side).deviceId).rttMs = some n → p.RoundTrip events side n

variable {p} {events : List LinkEvent} {l l' : Link} {side : Side}

-- ============================================================================
-- What has happened has happened
-- ============================================================================

theorem getElem?_append {later : List LinkEvent} {i : Nat} {e : LinkEvent} (h : events[i]? = some e) :
    (events ++ later)[i]? = some e := by
  have hlt := (List.getElem?_eq_some_iff.mp h).1
  rw [List.getElem?_append_left hlt]
  exact h

theorem ProbesAt.append {sentAt i : Nat} (h : ProbesAt events side sentAt i) (later : List LinkEvent) :
    ProbesAt (events ++ later) side sentAt i := by
  obtain ⟨sendTo, clock, k, he, hsent⟩ := h
  exact ⟨sendTo, clock, k, getElem?_append he, hsent⟩

theorem ProbesAt.lt {sentAt i : Nat} (h : ProbesAt events side sentAt i) : i < events.length := by
  obtain ⟨_, _, _, he, -⟩ := h
  exact (List.getElem?_eq_some_iff.mp he).1

theorem HearsAt.append {now i : Nat} (h : HearsAt events side now i) (later : List LinkEvent) :
    HearsAt (events ++ later) side now i := by
  obtain ⟨bufferLen, received, sendTo, clock, he, hnow⟩ := h
  exact ⟨bufferLen, received, sendTo, clock, getElem?_append he, hnow⟩

theorem AnswersAt.append {i : Nat} (h : p.AnswersAt events side i) (later : List LinkEvent) :
    p.AnswersAt (events ++ later) side i := by
  obtain ⟨⟨now, hhears⟩, l, source, hpassed, hdirect⟩ := h
  exact ⟨⟨now, hhears.append later⟩, l, source, hpassed.append later, hdirect⟩

theorem AnswersAt.lt {i : Nat} (h : p.AnswersAt events side i) : i < events.length := by
  obtain ⟨-, l, source, hpassed, -⟩ := h
  exact hpassed.le

theorem Explained.append {cause : Cause} (h : p.Explained events side cause) (later : List LinkEvent) :
    p.Explained (events ++ later) side cause := by
  cases cause with
  | packet packet => trivial
  | probe sentAt =>
      obtain ⟨n, hn⟩ := h
      exact ⟨n, hn.append later⟩
  | answer question nowMillis =>
      obtain ⟨sentAt, i, j, hij, hprobes, hanswers, hquestion⟩ := h
      exact ⟨sentAt, i, j, hij, hprobes.append later, hanswers.append later, hquestion⟩

theorem Accounted.append {frame : Bytes} (h : p.Accounted events side frame) (later : List LinkEvent) :
    p.Accounted (events ++ later) side frame := by
  rcases h with hrequest | ⟨peer, hpeer, crypto, cause, hbuilt, hseal, hexplained⟩
  · exact Or.inl hrequest
  · exact Or.inr
      ⟨peer, hpeer, crypto, cause, hbuilt, hseal, fun hpeer' => (hexplained hpeer').append later⟩

theorem RoundTrip.append (h : p.RoundTrip events side n) (later : List LinkEvent) :
    p.RoundTrip (events ++ later) side n := by
  obtain ⟨sentAt, now, i, j, k, hij, hjk, hprobes, hanswers, hhears, hle, hn⟩ := h
  exact ⟨sentAt, now, i, j, k, hij, hjk, hprobes.append later, hanswers.append later,
    hhears.append later, hle, hn⟩

-- ============================================================================
-- What is opened was sent
-- ============================================================================

theorem other_other (side : Side) : side.other.other = side := by
  cases side <;> rfl

/-- Two listed peers with one frame id are the same. -/
theorem peer_of_frameId {peer peer' : StoredPeerSession} {frameId : FrameDeviceId}
    (hpeer : peer ∈ (p.persisted side).peers) (hpeer' : peer' ∈ (p.persisted side).peers)
    (hid : fromDeviceId X.uuidParse peer.deviceId = .ok frameId)
    (hid' : fromDeviceId X.uuidParse peer'.deviceId = .ok frameId) : peer = peer' := by
  have hlookup : (p.start.backend side).peerDeviceByFrameId.lookup frameId = some peer.deviceId :=
    frameDevice_of_listed hpeer hid (p.frameIds side)
  have hlookup' : (p.start.backend side).peerDeviceByFrameId.lookup frameId = some peer'.deviceId :=
    frameDevice_of_listed hpeer' hid' (p.frameIds side)
  exact List.inj_on_of_nodup_map (p.lists side).devices hpeer hpeer'
    (Option.some.inj (hlookup.symm.trans hlookup'))

/-- What is opened as a frame of the peer, and was sent by it, was sealed for the cause
    that it has. -/
theorem Linked.opened (hX : X.Lawful) (h : p.Linked events l) {frame : Bytes} {opened : OpenFrame}
    (hsent : frame ∈ l.sent side.other)
    (hauthentic : (l.backend side).Authentic X frame (p.peer side).deviceId opened) :
    ∃ cause : Cause, opened = ⟨cause.messageType, cause.payload⟩ ∧ p.Explained events side.other cause := by
  obtain ⟨decoded, session, ad, hdecode, -, hsession, hsource, hdestination, hdirection, hencode, hdecrypt,
    -, htype⟩ := hauthentic
  rcases h.sent side.other frame hsent with rfl | ⟨peer, hpeer, crypto, cause, hbuilt, hseal, hexplained⟩
  · exact absurd ⟨decoded, hdecode⟩ decode_publicEndpointProbeRequest
  obtain ⟨own, hown, hid, hbuilt'⟩ := (h.routed side).sessions _ session hsession
  obtain rfl : own = p.peer side :=
    List.inj_on_of_nodup_map (p.lists side).devices hown (p.lists side).listed hid
  -- the frame names this end, so it was sealed for this end
  have hlists := p.lists side.other
  rw [other_other] at hlists
  have hnamed : crypto.peerId = session.crypto.localId := by
    obtain ⟨nonce, ciphertext, -, htype, -, rfl⟩ := sealMessage_eq_ok.mp hseal
    have hvalid : (FrameHeader.new crypto.localId crypto.peerId nonce cause.messageType).Valid :=
      FrameHeader.new_valid htype
    have hdecode' := EncodedFrame.decode_encode (EncodedFrame.encode_eq_ok.mpr ⟨hvalid, rfl⟩ :
      EncodedFrame.encode ⟨FrameHeader.new crypto.localId crypto.peerId nonce cause.messageType,
        ciphertext⟩ = .ok _)
    obtain rfl := Except.ok.inj (hdecode'.symm.trans hdecode)
    exact hdestination
  obtain ⟨config, hconfig, hlocal⟩ := BuiltFor.localId hbuilt'
  have hpeerId : fromDeviceId X.uuidParse (p.peer side.other).deviceId = .ok crypto.peerId := by
    rw [hlists.device config hconfig, hlocal]
    exact congrArg Except.ok hnamed.symm
  obtain rfl : peer = p.peer side.other := peer_of_frameId hpeer hlists.listed hbuilt.peerId hpeerId
  have hmatched : Matched crypto session.crypto :=
    matched_of_asBuilt (matched_of_lists hX hlists (p.lists side) hbuilt hbuilt')
  obtain ⟨-, encoded, hauth, hmessage⟩ := hmatched.authenticate_sealed hX hseal
  have hauth' := authenticate_iff.mpr ⟨hdecode, hsource, hdestination, hdirection, ad, hencode, hdecrypt⟩
  obtain ⟨rfl, hplain⟩ := Prod.mk.inj (Except.ok.inj (hauth.symm.trans hauth'))
  refine ⟨cause, ?_, hexplained rfl⟩
  obtain ⟨messageType, plaintext⟩ := opened
  have htype' : messageType = encoded.header.messageType := htype
  have hplain' : cause.payload = plaintext := hplain
  rw [htype', hmessage, hplain']

-- ============================================================================
-- One event
-- ============================================================================

/-- What one event does. -/
theorem step_eq_some {e : LinkEvent} (h : p.step l e = some l') :
    l.forged X (p.peer e.1).deviceId e.1 e.2 = false ∧ ∃ rt, e.2.step X (l.backend e.1) = some rt ∧
      l' = ⟨Function.update l.backend e.1 rt,
        Function.update l.sent e.1 (l.sent e.1 ++ emittedBy X (l.backend e.1) e.2)⟩ := by
  unfold Pair.step at h
  split at h
  · cases h
  · rename_i hforged
    obtain ⟨rt, hrt, rfl⟩ := Option.map_eq_some_iff.mp h
    exact ⟨Bool.eq_false_iff.mpr hforged, rt, hrt, rfl⟩

/-- A probe or a response that is opened as the peer's was sent by it. -/
theorem sent_of_opened {s : Section} {a : Arrival} {opened : OpenFrame}
    (hforged : l.forged X (p.peer side).deviceId side (.lock s) = false)
    (harrival : s.arrival X (l.backend side) = some a)
    (hauthentic : (l.backend side).Authentic X a.frame (p.peer side).deviceId opened)
    (htype : opened.messageType ≠ frameTypeData) : a.frame ∈ l.sent side.other := by
  obtain ⟨-, transport, hrt⟩ := Section.effect_of_arrival harrival
  have hsame : a.rt.Authentic X a.frame (p.peer side).deviceId opened := by
    rw [hrt]
    exact hauthentic
  simp only [Link.forged, harrival, openStage_ok_iff.mpr hsame, Except.toOption, Option.any_some,
    Bool.and_eq_false_iff, decide_eq_false_iff_not] at hforged
  rcases hforged with hdata | hsent
  · exact absurd ⟨trivial, htype⟩ hdata
  · simpa using hsent

/-- What comes with the address of its sender comes over UDP. -/
theorem hearsAt_of_arrival {s : Section} {a : Arrival} {source : SocketAddr} {rt : RuntimeState}
    (h : s.arrival X rt = some a) (hsource : a.source = some source) (side : Side) :
    HearsAt (events ++ [(side, .lock s)]) side (unixMillis (a.clock 0)) events.length := by
  cases s with
  | udp bufferLen received sendTo clock =>
      refine ⟨bufferLen, received, sendTo, clock, List.getElem?_concat_length, ?_⟩
      cases htransport : rt.transport with
      | none =>
          simp only [Section.arrival, htransport] at h
          cases h
      | some transport =>
          simp only [Section.arrival, htransport] at h
          split at h
          · obtain rfl := Option.some.inj h
            rfl
          · cases h
  | relay message sendTo clock =>
      simp only [Section.arrival] at h
      split at h
      · obtain rfl := Option.some.inj h
        cases hsource
      · cases h
  | _ => cases h

/-- What is sent to the peer in one event is explained once the event has happened. -/
theorem Linked.explained (hX : X.Lawful) (h : p.Linked events l) {s : Section} {cause : Cause}
    {addr : SocketAddr} (hforged : l.forged X (p.peer side).deviceId side (.lock s) = false)
    (hpassed : Passed p.step p.start (events ++ [(side, .lock s)]) (events.length + 1) l')
    (hafter : l'.backend side = s.effect X (l.backend side))
    (hcauses : Causes X (l.backend side) s (p.peer side).deviceId cause addr) :
    p.Explained (events ++ [(side, .lock s)]) side cause := by
  generalize hdevice : (p.peer side).deviceId = deviceId at hcauses
  cases hcauses with
  | packet => trivial
  | probe hpeer hendpoint haddr => exact ⟨events.length, _, _, _, List.getElem?_concat_length, rfl⟩
  | @answer _ a question _ source _ harrival hsource hopened hmoved haddr =>
      subst hdevice
      have hdata : frameTypeProbe ≠ frameTypeData := by decide
      have hresponse : frameTypeProbe ≠ frameTypeProbeResponse := by decide
      have hsent := sent_of_opened hforged harrival hopened hdata
      obtain ⟨cause, hcause, hexplained⟩ := h.opened hX hsent hopened
      obtain ⟨htype, hquestion⟩ := OpenFrame.mk.inj hcause
      cases cause with
      | packet packet => exact absurd htype hdata
      | answer question' now => exact absurd htype hresponse
      | probe sentAt =>
          obtain ⟨i, hi⟩ := hexplained
          obtain ⟨state, hlookup, hdirect, hactive, -⟩ := hmoved.path
          refine ⟨sentAt, i, events.length, hi.lt, hi.append _, ?_, hquestion⟩
          refine ⟨⟨_, hearsAt_of_arrival harrival hsource side⟩, l', source, hpassed, state, ?_, hdirect, hactive⟩
          rw [hafter]
          exact hlookup

/-- Whatever is sent in one event is accounted for once the event has happened. -/
theorem Linked.accounted (hX : X.Lawful) (h : p.Linked events l) {t : Traffic} {rt : RuntimeState}
    (hforged : l.forged X (p.peer side).deviceId side t = false)
    (hstep : t.step X (l.backend side) = some rt)
    (hpassed : Passed p.step p.start (events ++ [(side, t)]) (events.length + 1) l')
    (hafter : l'.backend side = rt) {frame : Bytes} (hframe : frame ∈ emittedBy X (l.backend side) t) :
    p.Accounted (events ++ [(side, t)]) side frame := by
  cases t with
  | expire now => cases hframe
  | lock s =>
      obtain ⟨datagram, hdatagram, rfl⟩ := List.mem_map.mp hframe
      rcases emitted_caused hdatagram with ⟨hrequest, -⟩ | ⟨deviceId, cause, hsealed, hcauses⟩
      · exact Or.inl hrequest
      obtain ⟨peer, hpeer, rfl, crypto, hbuilt, hseal⟩ := hsealed.built (h.routed side)
      simp only [Traffic.step] at hstep
      split at hstep
      · cases hstep
      obtain rfl := Option.some.inj hstep
      refine Or.inr ⟨peer, hpeer, crypto, cause, hbuilt, hseal, fun hdevice => ?_⟩
      rw [hdevice] at hcauses
      exact h.explained hX hforged hpassed hafter hcauses

/-- A round trip time that is measured in one event is one. -/
theorem Linked.roundTrip (hX : X.Lawful) (h : p.Linked events l) (hclock : ∀ e ∈ events, ReadsClock e)
    {t : Traffic} (hforged : l.forged X (p.peer side).deviceId side t = false)
    (hmeasures : Measures X (l.backend side) (p.peer side).deviceId n t) :
    p.RoundTrip (events ++ [(side, t)]) side n := by
  obtain ⟨bufferLen, received, sendTo, clock, a, payload, rfl, harrival, hauthentic, hrtt⟩ := hmeasures
  have hdata : frameTypeProbeResponse ≠ frameTypeData := by decide
  have hprobe : frameTypeProbeResponse ≠ frameTypeProbe := by decide
  obtain ⟨cause, hcause, hexplained⟩ :=
    h.opened hX (sent_of_opened hforged harrival hauthentic hdata) hauthentic
  obtain ⟨htype, hpayload⟩ := OpenFrame.mk.inj hcause
  cases cause with
  | packet packet => exact absurd htype hdata
  | probe sentAt => exact absurd htype hprobe
  | answer question answeredAt =>
      obtain ⟨sentAt, i, j, hij, hprobes, hanswers, rfl⟩ := hexplained
      rw [other_other] at hprobes
      have hbound : sentAt < u128Bound := by
        obtain ⟨sendTo', clock', k, hevent, rfl⟩ := hprobes
        exact hclock _ (List.mem_of_getElem? hevent) sendTo' clock' k rfl
      have hresponse : payload = strBytes ("probe_response " ++ toString sentAt) :=
        hpayload.trans (encodeProbeResponsePayload_probe hbound answeredAt)
      have hvalue := probeResponseRttMs_eq (unixMillis (clock 0))
        (taggedTimestamp_toString "probe_response " hbound)
      rw [← hresponse, hrtt, Option.map_some] at hvalue
      split at hvalue
      · rename_i hfits
        exact ⟨sentAt, _, i, j, events.length, hij, hanswers.lt, hprobes.append _, hanswers.append _,
          ⟨bufferLen, received, sendTo, clock, List.getElem?_concat_length, rfl⟩, hfits.1,
          Option.some.inj hvalue⟩
      · cases hvalue

theorem linked_start : p.Linked [] p.start where
  routed := fun side => routed_fromPersisted (p.salts side) (p.persisted side)
  sent := fun side frame h => by cases h
  measured := by
    intro _ side n h
    have hfresh := pathState_fromPersisted (X := X) (p.salts side) (p.persisted side) (p.peer side).deviceId
    have hnone : ((p.start.backend side).pathState (p.peer side).deviceId).rttMs = none :=
      congrArg PeerPathState.rttMs hfresh
    rw [hnone] at h
    cases h

/-- What one event keeps. -/
theorem Linked.step (hX : X.Lawful) {e : LinkEvent} (hrun : run p.step p.start events = some l)
    (h : p.Linked events l) (hstep : p.step l e = some l') : p.Linked (events ++ [e]) l' := by
  obtain ⟨side, t⟩ := e
  have hpassed : Passed p.step p.start (events ++ [(side, t)]) (events.length + 1) l' := by
    have hlast := passed_last (run_concat_eq_some.mpr ⟨l, hrun, hstep⟩)
    rw [List.length_append] at hlast
    exact hlast
  obtain ⟨hforged, rt, hrt, rfl⟩ := step_eq_some hstep
  refine ⟨fun side' => ?_, fun side' frame hframe => ?_, fun hclock side' n hrtt => ?_⟩
  · by_cases hside : side' = side
    · subst hside
      show Routed X _ (Function.update l.backend side' rt side')
      rw [Function.update_self]
      exact (h.routed side').sameMaps (sameMaps_traffic hrt)
    · show Routed X _ (Function.update l.backend side rt side')
      rw [Function.update_of_ne hside]
      exact h.routed side'
  · by_cases hside : side' = side
    · subst hside
      have hmem : frame ∈ l.sent side' ++ emittedBy X (l.backend side') t := by
        simpa only [Function.update_self] using hframe
      rcases List.mem_append.mp hmem with hbefore | hnow
      · exact (h.sent side' frame hbefore).append _
      · exact h.accounted hX hforged hrt hpassed (Function.update_self ..) hnow
    · simp only [Function.update_of_ne hside] at hframe
      exact (h.sent side' frame hframe).append _
  · have hclock' : ∀ e ∈ events, ReadsClock e := fun e he => hclock e (List.mem_append_left _ he)
    by_cases hside : side' = side
    · subst hside
      have hafter : (rt.pathState (p.peer side').deviceId).rttMs = some n := by
        simpa only [Function.update_self] using hrtt
      rcases rttMs_of_traffic hrt hafter with hbefore | hmeasures
      · exact (h.measured hclock' side' n hbefore).append _
      · exact h.roundTrip hX hclock' hforged hmeasures
    · simp only [Function.update_of_ne hside] at hrtt
      exact (h.measured hclock' side' n hrtt).append _

end Pair

/-- **A measured round trip time is one.**  Two backends that list each other and a
    network between them that loses, delays, repeats and reorders what they send and
    makes up what it likes, short of a probe or a response that the receiver takes for
    one of its peer's.  Whenever the record of the peer has a round trip time, it is the
    time from a round of probes at this end to the arrival of a datagram here, and
    between the two a datagram arrived at the peer, after which this end was direct
    there. -/
theorem measured_rtt_is_real (X : Externals) (hX : X.Lawful) (p : Pair X) (events : List LinkEvent)
    (l : Link) (hrun : run p.step p.start events = some l) (hclock : ∀ e ∈ events, Pair.ReadsClock e)
    (side : Side) (n : UInt64)
    (hrtt : ((l.backend side).pathState (p.peer side).deviceId).rttMs = some n) :
    p.RoundTrip events side n := by
  have hlinked : p.Linked events l :=
    invariant_history Pair.linked_start (fun es e t u hes h hstep => h.step hX hes hstep) hrun
  exact hlinked.measured hclock side n hrtt

namespace Reference

open Custom.Reference

def onSide {α : Type} (left right : α) (side : Side) : α := if side = .left then left else right

/-- Two backends that list each other. -/
def neighbours : Pair Externals.reference where
  persisted := onSide pairedState peerState
  salts := fun _ => env.salts
  peer := onSide (pairedState.peers.head (by decide)) (peerState.peers.head (by decide))
  lists := by
    rintro (_ | _)
    · exact lists_peer
    · exact peer_lists
  frameIds := by
    rintro (_ | _)
    · decide +kernel
    · decide +kernel

/-- The first frame that the end has sent. -/
def firstSent (events : List LinkEvent) (side : Side) : Bytes :=
  ((run neighbours.step neighbours.start events).bind fun l => (l.sent side).head?).getD []

/-- A datagram, `millis` after the epoch. -/
def arrives (frame : Bytes) (source : SocketAddr) (millis : Nat) : Traffic :=
  .lock (.udp 1500 (.datagram frame source) env.sendTo fun _ => millis * 1000000)

/-- Both sockets are bound, and the left end probes when its clock shows one second. -/
def asked : List LinkEvent :=
  [(.left, .lock bindSocket), (.right, .lock bindSocket), (.left, .lock (probeAt 1))]

/-- The probe arrives, on another clock. -/
def answered : List LinkEvent :=
  asked ++ [(.right, arrives (firstSent asked .left) ⟨.v4 ⟨192, 168, 1, 20⟩, 51820⟩ 7000)]

/-- The answer arrives, and later once more. -/
def exchange : List LinkEvent :=
  answered ++
    [(.left, arrives (firstSent answered .right) ⟨.v4 ⟨192, 168, 1, 30⟩, 51820⟩ 1040),
      (.left, arrives (firstSent answered .right) ⟨.v4 ⟨192, 168, 1, 30⟩, 51820⟩ 1900)]

end Reference

open Reference in
/-- 40 milliseconds; the repeated answer changes nothing. -/
theorem measured_rtt_is_real_forty :
    ∃ l, run neighbours.step neighbours.start exchange = some l ∧
      ((l.backend .left).pathState (neighbours.peer .left).deviceId).rttMs = some 40 ∧
      neighbours.RoundTrip exchange .left 40 := by
  have hrun : (run neighbours.step neighbours.start exchange).any (fun l =>
      decide (((l.backend .left).pathState (neighbours.peer .left).deviceId).rttMs = some 40)) = true := by
    decide +kernel
  obtain ⟨l, hl, hfacts⟩ := (Option.any_eq_true _ _).mp hrun
  have hrtt := of_decide_eq_true hfacts
  have hclock : ∀ e ∈ exchange, Pair.ReadsClock e := by
    intro e he sendTo clock i hprobe
    simp only [exchange, answered, asked, List.cons_append, List.nil_append, List.mem_cons, List.not_mem_nil,
      or_false] at he
    rcases he with rfl | rfl | rfl | rfl | rfl | rfl
    all_goals cases hprobe
    show unixMillis 1000000000 < u128Bound
    decide
  exact ⟨l, hl, hrtt, measured_rtt_is_real Externals.reference Externals.reference_lawful neighbours
    exchange l hl hclock .left 40 hrtt⟩

end TfScale.System
