/-
  TfScale.Custom.Paths

  What moves the path of a peer?

  `open_received_frame` has a dozen exits between the decoding of a frame and the
  write to the path state.  `Authentic` collects the checks that stand before it: the
  frame decodes, its source is a peer with a session, the session accepts it.  A
  frame that fails one of them is counted as a drop and changes nothing else; of the
  others, only a probe or a probe response that came over UDP moves a path, and only
  that of its sender.
-/

import TfScale.Custom.DataPath

namespace TfScale.Custom

open PeerCryptoSession

variable {X : Externals} {rt rt' : RuntimeState} {frame : Bytes}

-- ============================================================================
-- Frames that are opened
-- ============================================================================

namespace RuntimeState

/-- The frame is one that `opened` comes from: it decodes, its source is the device
    `deviceId`, and the session of that device lets it through. -/
def Authentic (X : Externals) (rt : RuntimeState) (frame : Bytes) (deviceId : String)
    (opened : OpenFrame) : Prop :=
  ∃ decoded session associatedData,
    EncodedFrame.decode frame = .ok decoded ∧
    rt.peerDeviceByFrameId.lookup decoded.header.source = some deviceId ∧
    rt.peerTransportSessionsByDevice.lookup deviceId = some session ∧
    decoded.header.source = session.crypto.peerId ∧
    decoded.header.destination = session.crypto.localId ∧
    decoded.header.nonce.val.take 8 = session.crypto.receiveDirectionPrefix.val ∧
    decoded.header.encode = .ok associatedData ∧
    X.aeadDecrypt session.crypto.cipher decoded.header.nonce associatedData.val decoded.ciphertext =
      some opened.plaintext ∧
    (session.crypto.receiveWindow.accept decoded.header.nonce).1 = .ok () ∧
    opened.messageType = decoded.header.messageType

end RuntimeState

/-- The session that `openStage` consults, when it gets that far. -/
theorem openStage_cases (rt : RuntimeState) (frame : Bytes) :
    (∃ e, rt.openStage X frame = (.error e, rt.recordRxDrop)) ∨
    ∃ deviceId session, rt.frameDevice frame = some deviceId ∧
      rt.peerTransportSessionsByDevice.lookup deviceId = some session ∧
      rt.openStage X frame =
        match (session.crypto.openMessage X frame).1 with
        | .error e =>
            (.error e, (rt.setCrypto deviceId (session.crypto.openMessage X frame).2).recordRxDrop)
        | .ok o =>
            (.ok (deviceId, o), rt.setCrypto deviceId (session.crypto.openMessage X frame).2) := by
  unfold RuntimeState.openStage RuntimeState.frameDevice
  cases EncodedFrame.decode frame with
  | error e => exact Or.inl ⟨e, rfl⟩
  | ok decoded =>
      simp only
      cases rt.peerDeviceByFrameId.lookup decoded.header.source with
      | none => exact Or.inl ⟨_, rfl⟩
      | some deviceId =>
          simp only
          cases hs : rt.peerTransportSessionsByDevice.lookup deviceId with
          | none => exact Or.inl ⟨_, rfl⟩
          | some session => exact Or.inr ⟨deviceId, session, rfl, hs, rfl⟩

theorem frameDevice_eq_some {deviceId : String} :
    rt.frameDevice frame = some deviceId ↔ ∃ decoded, EncodedFrame.decode frame = .ok decoded ∧
      rt.peerDeviceByFrameId.lookup decoded.header.source = some deviceId := by
  unfold RuntimeState.frameDevice
  cases EncodedFrame.decode frame with
  | error e => simp
  | ok decoded => simp

/-- A write of the session that is there already. -/
theorem setCrypto_self {deviceId : String} {session : PeerTransportSession}
    (h : rt.peerTransportSessionsByDevice.lookup deviceId = some session) :
    rt.setCrypto deviceId session.crypto = rt := by
  have hmodify : rt.peerTransportSessionsByDevice.modify deviceId
      (fun s => { s with crypto := session.crypto }) = rt.peerTransportSessionsByDevice := by
    refine HashMap.modify_eq_self fun s hs => ?_
    obtain rfl := Option.some.inj (h.symm.trans hs)
    rfl
  show { rt with peerTransportSessionsByDevice := _ } = rt
  rw [hmodify]

/-- A frame that is refused is a drop, and nothing else. -/
theorem openStage_error {error : BackendError} (h : (rt.openStage X frame).1 = .error error) :
    rt.openStage X frame = (.error error, rt.recordRxDrop) := by
  rcases openStage_cases (X := X) rt frame with ⟨e, heq⟩ | ⟨deviceId, session, -, hsession, heq⟩
  · rw [heq] at h ⊢
    obtain rfl : e = error := Except.error.inj h
    rfl
  · rw [heq] at h ⊢
    cases hopen : (session.crypto.openMessage X frame).1 with
    | error e =>
        rw [hopen] at h
        obtain rfl : e = error := Except.error.inj h
        simp only
        rw [openMessage_error hopen, setCrypto_self hsession]
    | ok opened =>
        rw [hopen] at h
        cases h

/-- The frames that are opened are the authentic ones. -/
theorem openStage_ok_iff {deviceId : String} {opened : OpenFrame} :
    (rt.openStage X frame).1 = .ok (deviceId, opened) ↔ rt.Authentic X frame deviceId opened := by
  refine ⟨fun h => ?_, ?_⟩
  · rcases openStage_cases (X := X) rt frame with ⟨e, heq⟩ | ⟨deviceId', session, hdevice, hsession, heq⟩
    · rw [heq] at h
      cases h
    · rw [heq] at h
      cases hopen : (session.crypto.openMessage X frame).1 with
      | error e =>
          rw [hopen] at h
          cases h
      | ok opened' =>
          rw [hopen] at h
          obtain ⟨rfl, rfl⟩ := Prod.mk.inj (Except.ok.inj h)
          obtain ⟨encoded, hauth, haccept, htype⟩ := openMessage_ok_iff.mp hopen
          obtain ⟨hdecode, hsource, hdestination, hdirection, ad, hencode, hdecrypt⟩ :=
            authenticate_iff.mp hauth
          obtain ⟨decoded, hdecode', hdevice⟩ := frameDevice_eq_some.mp hdevice
          obtain rfl := Except.ok.inj (hdecode.symm.trans hdecode')
          exact ⟨encoded, session, ad, hdecode, hdevice, hsession, hsource, hdestination, hdirection,
            hencode, hdecrypt, haccept, htype⟩
  · rintro ⟨decoded, session, ad, hdecode, hdevice, hsession, hsource, hdestination, hdirection, hencode,
      hdecrypt, haccept, htype⟩
    have hauth : session.crypto.authenticate X frame = .ok (decoded, opened.plaintext) :=
      authenticate_iff.mpr ⟨hdecode, hsource, hdestination, hdirection, ad, hencode, hdecrypt⟩
    have hopen := openMessage_ok_iff.mpr ⟨decoded, hauth, haccept, htype⟩
    unfold RuntimeState.openStage
    simp only [hdecode, hdevice, hsession, hopen]

/-- A refused frame is reported as an error, and moves no path. -/
theorem openReceivedFrame_of_refused {rt : RuntimeState} {frame : Bytes} {e : BackendError}
    (h : (rt.openStage X frame).1 = .error e) (sendTo : SendTo) (clock : Nat → SystemTime)
    (source : Option SocketAddr) :
    rt.openReceivedFrame X sendTo clock frame source = (.error e, (rt.openStage X frame).2) := by
  unfold RuntimeState.openReceivedFrame
  cases hstage : rt.openStage X frame with
  | mk r rt' =>
      rw [hstage] at h
      obtain rfl : r = .error e := h
      rfl

theorem openStage_paths (rt : RuntimeState) (frame : Bytes) :
    (rt.openStage X frame).2.peerPathStateByDevice = rt.peerPathStateByDevice := by
  rcases openStage_cases (X := X) rt frame with ⟨e, heq⟩ | ⟨deviceId, session, -, -, heq⟩
  · rw [heq]
    rfl
  · rw [heq]
    split <;> rfl

theorem setCrypto_endpoint (rt : RuntimeState) (deviceId : String) (crypto : PeerCryptoSession)
    (d : String) :
    ((rt.setCrypto deviceId crypto).peerTransportSessionsByDevice.lookup d).map (·.endpoint) =
      (rt.peerTransportSessionsByDevice.lookup d).map (·.endpoint) := by
  simp only [RuntimeState.setCrypto, HashMap.lookup_modify]
  split
  · rename_i hd
    subst hd
    rw [Option.map_map]
    rfl
  · rfl

theorem openStage_endpoints (rt : RuntimeState) (frame : Bytes) (d : String) :
    ((rt.openStage X frame).2.peerTransportSessionsByDevice.lookup d).map (·.endpoint) =
      (rt.peerTransportSessionsByDevice.lookup d).map (·.endpoint) := by
  rcases openStage_cases (X := X) rt frame with ⟨e, heq⟩ | ⟨deviceId, session, -, -, heq⟩
  · rw [heq]
    rfl
  · rw [heq]
    split <;> exact setCrypto_endpoint rt deviceId _ d

-- ============================================================================
-- Moving a path
-- ============================================================================

open RuntimeState (sourceEndpoint)

/-- The endpoint that a peer's frames are sent to. -/
def RuntimeState.sessionEndpoint (rt : RuntimeState) (deviceId : String) : Option Endpoint :=
  (rt.peerTransportSessionsByDevice.lookup deviceId).map (·.endpoint)

/-- No path state and no session endpoint is another one. -/
structure SamePaths (rt rt' : RuntimeState) : Prop where
  paths : rt'.peerPathStateByDevice = rt.peerPathStateByDevice
  endpoints : ∀ d, rt'.sessionEndpoint d = rt.sessionEndpoint d

/-- The peer's path leads to `source`, the others are where they were. -/
structure MovedTo (rt rt' : RuntimeState) (deviceId : String) (source : SocketAddr) : Prop where
  path : ∃ state, rt'.peerPathStateByDevice.lookup deviceId = some state ∧
    state.currentPath = .direct ∧ state.activeEndpoint = some (sourceEndpoint source) ∧
    state.failures = 0
  endpoint : rt'.sessionEndpoint deviceId = some (sourceEndpoint source)
  otherPaths : ∀ d, d ≠ deviceId → rt'.peerPathStateByDevice.lookup d = rt.peerPathStateByDevice.lookup d
  otherEndpoints : ∀ d, d ≠ deviceId → rt'.sessionEndpoint d = rt.sessionEndpoint d

open RuntimeState (sessionEndpoint)

variable {rt'' : RuntimeState} {deviceId : String} {source : SocketAddr}

theorem SamePaths.refl (rt : RuntimeState) : SamePaths rt rt := ⟨rfl, fun _ => rfl⟩

theorem SamePaths.trans (h : SamePaths rt rt') (h' : SamePaths rt' rt'') : SamePaths rt rt'' :=
  ⟨h'.paths.trans h.paths, fun d => (h'.endpoints d).trans (h.endpoints d)⟩

theorem samePaths_withTransport (rt : RuntimeState) (t : Option TransportRuntime) :
    SamePaths rt (rt.withTransport t) := ⟨rfl, fun _ => rfl⟩

theorem samePaths_setCrypto (rt : RuntimeState) (deviceId : String) (crypto : PeerCryptoSession) :
    SamePaths rt (rt.setCrypto deviceId crypto) := ⟨rfl, setCrypto_endpoint rt deviceId crypto⟩

theorem samePaths_openStage (rt : RuntimeState) (frame : Bytes) :
    SamePaths rt (rt.openStage X frame).2 := ⟨openStage_paths rt frame, openStage_endpoints rt frame⟩

/-- A move that starts where the paths are the same. -/
theorem SamePaths.moved (h : SamePaths rt rt') (hmoved : MovedTo rt' rt'' deviceId source) :
    MovedTo rt rt'' deviceId source := by
  refine ⟨hmoved.path, hmoved.endpoint, fun d hd => ?_, fun d hd => ?_⟩
  · rw [hmoved.otherPaths d hd, h.paths]
  · rw [hmoved.otherEndpoints d hd, h.endpoints]

/-- `mark_peer_direct`, for a peer that has a session -/
theorem movedTo_markPeerDirect
    (h : (rt.peerTransportSessionsByDevice.lookup deviceId).isSome = true) (rttMs : Option UInt64)
    (now : SystemTime) :
    MovedTo rt (rt.markPeerDirect deviceId (sourceEndpoint source) rttMs now) deviceId source := by
  obtain ⟨session, h⟩ := Option.isSome_iff_exists.mp h
  have hpaths : ∀ d, (rt.markPeerDirect deviceId (sourceEndpoint source) rttMs
      now).peerPathStateByDevice.lookup d = if d = deviceId then
        some (((rt.peerPathStateByDevice.lookup deviceId).getD PeerPathState.default).markDirect
          (sourceEndpoint source) rttMs now)
        else rt.peerPathStateByDevice.lookup d :=
    fun d => HashMap.lookup_upsert _ _ _ _ _
  have hsessions : ∀ d, (rt.markPeerDirect deviceId (sourceEndpoint source) rttMs
      now).peerTransportSessionsByDevice.lookup d = if d = deviceId then
        (rt.peerTransportSessionsByDevice.lookup deviceId).map
          fun session => { session with endpoint := sourceEndpoint source }
        else rt.peerTransportSessionsByDevice.lookup d :=
    fun d => HashMap.lookup_modify _ _ _ _
  refine ⟨⟨_, (hpaths deviceId).trans (if_pos rfl), rfl, rfl, rfl⟩, ?_, fun d hd => ?_, fun d hd => ?_⟩
  · rw [sessionEndpoint, hsessions, if_pos rfl, h]
    rfl
  · rw [hpaths, if_neg hd]
  · rw [sessionEndpoint, hsessions, if_neg hd, sessionEndpoint]

/-- The answer to a probe: the path stays when the response cannot be sealed or
    sent. -/
theorem answerProbe_paths {session : PeerTransportSession}
    (h : rt.peerTransportSessionsByDevice.lookup deviceId = some session) (sendTo : SendTo)
    (clock : Nat → SystemTime) (plaintext : Bytes) :
    SamePaths rt (rt.answerProbe X sendTo clock deviceId plaintext source).2 ∨
      MovedTo rt (rt.answerProbe X sendTo clock deviceId plaintext source).2 deviceId source := by
  unfold RuntimeState.answerProbe
  simp only [h]
  have hsealed := samePaths_setCrypto rt deviceId (session.crypto.sealMessage X
    (encodeProbeResponsePayload plaintext (unixMillis (clock 0))) frameTypeProbeResponse).2
  have hsession : ((rt.setCrypto deviceId (session.crypto.sealMessage X
      (encodeProbeResponsePayload plaintext (unixMillis (clock 0)))
      frameTypeProbeResponse).2).peerTransportSessionsByDevice.lookup deviceId).isSome = true := by
    simp [RuntimeState.setCrypto, HashMap.lookup_modify, h]
  split
  · exact Or.inl hsealed
  · split
    · exact Or.inl hsealed
    · split
      · exact Or.inl (hsealed.trans (samePaths_withTransport _ _))
      · rename_i transport _
        have hsame := hsealed.trans (samePaths_withTransport _ (some transport))
        refine Or.inr (hsame.moved (movedTo_markPeerDirect ?_ none (clock 1)))
        exact hsession

/-- A probe or a probe response that came over UDP can move the path of its sender;
    nothing else moves one. -/
theorem dispatchStage_paths {session : PeerTransportSession}
    (h : rt.peerTransportSessionsByDevice.lookup deviceId = some session) (sendTo : SendTo)
    (clock : Nat → SystemTime) (source : Option SocketAddr) (opened : OpenFrame) :
    SamePaths rt (rt.dispatchStage X sendTo clock source deviceId opened).2 ∨
      ∃ addr, source = some addr ∧
        (opened.messageType = frameTypeProbe ∨ opened.messageType = frameTypeProbeResponse) ∧
        MovedTo rt (rt.dispatchStage X sendTo clock source deviceId opened).2 deviceId addr := by
  unfold RuntimeState.dispatchStage
  by_cases hdata : opened.messageType = frameTypeData
  · rw [if_pos hdata]
    exact Or.inl (.refl rt)
  · rw [if_neg hdata]
    by_cases hprobe : opened.messageType = frameTypeProbe
    · rw [if_pos hprobe]
      cases source with
      | none => exact Or.inl (.refl rt)
      | some addr =>
          have hanswer : SamePaths rt (rt.answerProbe X sendTo clock deviceId opened.plaintext addr).2 ∨
              MovedTo rt (rt.answerProbe X sendTo clock deviceId opened.plaintext addr).2 deviceId addr :=
            answerProbe_paths h sendTo clock opened.plaintext
          rcases hanswer with
            hsame | hmoved
          · exact Or.inl hsame
          · exact Or.inr ⟨addr, rfl, Or.inl hprobe, hmoved⟩
    · rw [if_neg hprobe]
      by_cases hresponse : opened.messageType = frameTypeProbeResponse
      · rw [if_pos hresponse]
        cases source with
        | none => exact Or.inl (.refl rt)
        | some addr =>
            have hsome := Option.isSome_iff_exists.mpr ⟨session, h⟩
            exact Or.inr ⟨addr, rfl, Or.inr hresponse, movedTo_markPeerDirect hsome _ _⟩
      · rw [if_neg hresponse]
        exact Or.inl (.refl rt)

theorem openStage_session {opened : OpenFrame}
    (h : (rt.openStage X frame).1 = .ok (deviceId, opened)) :
    ∃ session, (rt.openStage X frame).2.peerTransportSessionsByDevice.lookup deviceId = some session := by
  rcases openStage_cases (X := X) rt frame with ⟨e, heq⟩ | ⟨d, session, -, hsession, heq⟩
  · rw [heq] at h
    cases h
  · rw [heq] at h ⊢
    split at h
    · cases h
    · obtain ⟨rfl, -⟩ := Prod.mk.inj (Except.ok.inj h)
      simp [RuntimeState.setCrypto, HashMap.lookup_modify, hsession]

theorem openReceivedFrame_of_ok {opened : OpenFrame}
    (h : (rt.openStage X frame).1 = .ok (deviceId, opened)) (sendTo : SendTo)
    (clock : Nat → SystemTime) (source : Option SocketAddr) :
    rt.openReceivedFrame X sendTo clock frame source =
      (rt.openStage X frame).2.dispatchStage X sendTo clock source deviceId opened := by
  unfold RuntimeState.openReceivedFrame
  cases hstage : rt.openStage X frame with
  | mk r rt' =>
      rw [hstage] at h
      obtain rfl : r = .ok (deviceId, opened) := h
      rfl

theorem openReceivedFrame_paths (rt : RuntimeState) (sendTo : SendTo) (clock : Nat → SystemTime)
    (frame : Bytes) (source : Option SocketAddr) :
    SamePaths rt (rt.openReceivedFrame X sendTo clock frame source).2 ∨
      ∃ addr deviceId opened, source = some addr ∧ rt.Authentic X frame deviceId opened ∧
        (opened.messageType = frameTypeProbe ∨ opened.messageType = frameTypeProbeResponse) ∧
        MovedTo rt (rt.openReceivedFrame X sendTo clock frame source).2 deviceId addr := by
  have hstage := samePaths_openStage (X := X) rt frame
  cases hopen : (rt.openStage X frame).1 with
  | error e =>
      rw [openReceivedFrame_of_refused hopen]
      exact Or.inl hstage
  | ok r =>
      obtain ⟨deviceId, opened⟩ := r
      obtain ⟨session, hsession⟩ := openStage_session hopen
      rw [openReceivedFrame_of_ok hopen]
      rcases dispatchStage_paths (X := X) hsession sendTo clock source opened with
        hsame | ⟨addr, hsource, htype, hmoved⟩
      · exact Or.inl (hstage.trans hsame)
      · exact Or.inr ⟨addr, deviceId, opened, hsource, openStage_ok_iff.mp hopen, htype,
          hstage.moved hmoved⟩

/-- A frame that is not authentic is an error and a drop, and nothing else. -/
theorem openReceivedFrame_of_not_authentic (h : ∀ deviceId opened, ¬ rt.Authentic X frame deviceId opened)
    (sendTo : SendTo) (clock : Nat → SystemTime) (source : Option SocketAddr) :
    ∃ error, rt.openReceivedFrame X sendTo clock frame source = (.error error, rt.recordRxDrop) := by
  cases hopen : (rt.openStage X frame).1 with
  | error e => exact ⟨e, by rw [openReceivedFrame_of_refused hopen, openStage_error hopen]⟩
  | ok r => exact absurd (openStage_ok_iff.mp hopen) (h r.1 r.2)

/-- **Only authentic direct probes move a path.**  For every runtime state and every
    input:

    * a received frame moves a path or a session endpoint only if it came from a
      source address, is authentic, and is a probe or a probe response; then the path
      and the endpoint of its sender lead to that address, and no other moves,
    * a received frame that is not authentic changes the drop counter only,
    * a relay message moves nothing; one whose payload is no frame changes nothing at
      all, one whose frame is not authentic the drop counter only. -/
theorem only_authentic_probes_move_paths (X : Externals) (rt : RuntimeState) (sendTo : SendTo)
    (clock : Nat → SystemTime) :
    (∀ frame source,
      (SamePaths rt (rt.openReceivedFrame X sendTo clock frame source).2 ∨
        ∃ addr deviceId opened, source = some addr ∧ rt.Authentic X frame deviceId opened ∧
          (opened.messageType = frameTypeProbe ∨ opened.messageType = frameTypeProbeResponse) ∧
          MovedTo rt (rt.openReceivedFrame X sendTo clock frame source).2 deviceId addr) ∧
      ((∀ deviceId opened, ¬ rt.Authentic X frame deviceId opened) →
        (rt.openReceivedFrame X sendTo clock frame source).2 =
          { rt with transport := rt.transport.map fun t =>
              { t with status := { t.status with rxDrops := t.status.rxDrops + 1 } } })) ∧
    ∀ message,
      SamePaths rt (rt.openRelayFrame X sendTo clock message).2 ∧
      ((∀ frame, RuntimeState.relayFrame X message ≠ some (.ok frame)) →
        (rt.openRelayFrame X sendTo clock message).2 = rt) ∧
      ∀ frame, RuntimeState.relayFrame X message = some (.ok frame) →
        (∀ deviceId opened, ¬ rt.Authentic X frame deviceId opened) →
        (rt.openRelayFrame X sendTo clock message).2 =
          { rt with transport := rt.transport.map fun t =>
              { t with status := { t.status with rxDrops := t.status.rxDrops + 1 } } } := by
  refine ⟨fun frame source => ⟨openReceivedFrame_paths rt sendTo clock frame source, fun h => ?_⟩,
    fun message => ?_⟩
  · obtain ⟨error, herror⟩ := openReceivedFrame_of_not_authentic h sendTo clock source
    rw [herror]
    rfl
  · unfold RuntimeState.openRelayFrame
    cases hmessage : RuntimeState.relayFrame X message with
    | none => exact ⟨.refl rt, fun _ => rfl, fun frame h => by cases h⟩
    | some payload =>
        cases payload with
        | error text => exact ⟨.refl rt, fun _ => rfl, fun frame h => by cases h⟩
        | ok frame =>
            refine ⟨?_, fun h => absurd rfl (h frame), fun frame' heq h => ?_⟩
            · rcases openReceivedFrame_paths (X := X) rt sendTo clock frame none with
                hsame | ⟨_, _, _, hsource, -⟩
              · exact hsame
              · cases hsource
            · obtain rfl : frame = frame' := Except.ok.inj (Option.some.inj heq)
              obtain ⟨error, herror⟩ := openReceivedFrame_of_not_authentic h sendTo clock none
              show (rt.openReceivedFrame X sendTo clock frame none).2 = _
              rw [herror]
              rfl

end TfScale.Custom
