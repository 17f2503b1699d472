/-
  TfScale.Custom.EndpointChoice

  Which of a peer's answering addresses is used?

  All candidate endpoints of a peer are probed at once, and every authentic probe
  response makes its source the active endpoint of the peer and the endpoint of its
  session, whatever was there before.  The last response to be processed decides;
  the ranking of the endpoints is not consulted.  The choice is the best-ranked
  answering address in every order of arrival exactly when there is only one.
-/

import TfScale.Custom.ProbeIsolation

namespace TfScale.Custom

open RuntimeState PeerCryptoSession

/-- A probe response, where it came from, and the clock while it is processed. -/
structure ProbeAnswer where
  frame : Bytes
  source : SocketAddr
  clock : Nat → SystemTime

/-- The address that a probe to the endpoint is sent to. -/
def probedAddr (endpoint : Endpoint) : SocketAddr := ⟨endpoint.address, endpoint.port⟩

/-- The answering address that comes first in `sorted_udp_endpoints`. -/
def bestAnswering (endpoints : List Endpoint) (answers : List ProbeAnswer) : Option SocketAddr :=
  ((sortedUdpEndpoints endpoints).map probedAddr).find? fun addr =>
    decide (addr ∈ answers.map (·.source))

namespace RuntimeState

variable (X : Externals) (sendTo : SendTo) (rt : RuntimeState)

def receiveAnswer (answer : ProbeAnswer) : RuntimeState :=
  (rt.openReceivedFrame X sendTo answer.clock answer.frame (some answer.source)).2

/-- The runtime after responses have arrived one by one. -/
def receiveAnswers (answers : List ProbeAnswer) : RuntimeState :=
  answers.foldl (receiveAnswer X sendTo) rt

/-- The frame is an authentic probe response of the device. -/
def IsAnswer (deviceId : String) (answer : ProbeAnswer) : Prop :=
  ∃ opened, rt.Authentic X answer.frame deviceId opened ∧
    opened.messageType = frameTypeProbeResponse

/-- Each of the frames is an authentic probe response of the device when it arrives. -/
def AllAnswers (X : Externals) (sendTo : SendTo) (deviceId : String) :
    RuntimeState → List ProbeAnswer → Prop
  | _, [] => True
  | rt, answer :: rest =>
      rt.IsAnswer X deviceId answer ∧ AllAnswers X sendTo deviceId (rt.receiveAnswer X sendTo answer) rest

/-- The active endpoint of the peer and the endpoint of its session are the address. -/
def Uses (deviceId : String) (addr : SocketAddr) : Prop :=
  (rt.peerPathStateByDevice.lookup deviceId).bind (·.activeEndpoint) = some (sourceEndpoint addr) ∧
    rt.sessionEndpoint deviceId = some (sourceEndpoint addr)

/-- The peer is reached at the best-ranked of the answering addresses. -/
def UsesBest (peer : StoredPeerSession) (answers : List ProbeAnswer) : Prop :=
  ∃ addr, bestAnswering peer.endpoints answers = some addr ∧ rt.Uses peer.deviceId addr

end RuntimeState

section Choice

variable {X : Externals} {sendTo : SendTo} {rt rt' : RuntimeState} {deviceId : String}
  {answer : ProbeAnswer} {answers order : List ProbeAnswer} {endpoints : List Endpoint}
  {addr addr' : SocketAddr}

-- ============================================================================
-- The last answer decides
-- ============================================================================

/-- An authentic response marks its sender direct. -/
theorem receiveAnswer_eq (sendTo : SendTo) {opened : OpenFrame}
    (hstage : (rt.openStage X answer.frame).1 = .ok (deviceId, opened))
    (htype : opened.messageType = frameTypeProbeResponse) :
    rt.receiveAnswer X sendTo answer =
      (rt.openStage X answer.frame).2.markPeerDirect deviceId (sourceEndpoint answer.source)
        (probeResponseRttMs opened.plaintext (unixMillis (answer.clock 0))) (answer.clock 1) := by
  have hdata : opened.messageType ≠ frameTypeData := by
    rw [htype]
    decide
  have hprobe : opened.messageType ≠ frameTypeProbe := by
    rw [htype]
    decide
  rw [receiveAnswer, openReceivedFrame_of_ok hstage, RuntimeState.dispatchStage, if_neg hdata,
    if_neg hprobe, if_pos htype]

/-- An answer moves the peer to where it came from. -/
theorem receiveAnswer_moved (h : rt.IsAnswer X deviceId answer) :
    MovedTo rt (rt.receiveAnswer X sendTo answer) deviceId answer.source := by
  obtain ⟨opened, hauthentic, htype⟩ := h
  have hstage := openStage_ok_iff.mpr hauthentic
  obtain ⟨session, hsession⟩ := openStage_session hstage
  rw [receiveAnswer_eq sendTo hstage htype]
  exact (samePaths_openStage rt answer.frame).moved
    (movedTo_markPeerDirect (by rw [hsession]; rfl) _ _)

theorem MovedTo.uses (h : MovedTo rt rt' deviceId addr) : rt'.Uses deviceId addr := by
  obtain ⟨state, hstate, -, hactive, -⟩ := h.path
  exact ⟨by rw [hstate, Option.bind_some, hactive], h.endpoint⟩

theorem uses_of_answers (hall : AllAnswers X sendTo deviceId rt answers)
    (hlast : answers.getLast? = some answer) :
    (rt.receiveAnswers X sendTo answers).Uses deviceId answer.source := by
  induction answers generalizing rt with
  | nil => cases hlast
  | cons first rest ih =>
      obtain ⟨hfirst, hrest⟩ := hall
      cases rest with
      | nil =>
          obtain rfl : first = answer := Option.some.inj hlast
          exact (receiveAnswer_moved hfirst).uses
      | cons second rest => exact ih hrest (by rwa [List.getLast?_cons_cons] at hlast)

theorem uses_addr_eq (h : rt.Uses deviceId addr) (h' : rt.Uses deviceId addr') : addr = addr' := by
  have hsame : sourceEndpoint addr = sourceEndpoint addr' :=
    Option.some.inj (h.2.symm.trans h'.2)
  obtain ⟨-, hip, hport, -⟩ := Endpoint.mk.inj hsame
  cases addr
  cases addr'
  rw [SocketAddr.mk.injEq]
  exact ⟨hip, hport⟩

-- ============================================================================
-- The best-ranked answering address
-- ============================================================================

theorem mem_of_bestAnswering (h : bestAnswering endpoints answers = some addr) :
    addr ∈ answers.map (·.source) := by
  simpa using List.find?_some h

/-- Some answering address is the best one, when the answers come from the endpoints. -/
theorem exists_bestAnswering (hne : answers ≠ [])
    (hsources : ∀ answer ∈ answers, ∃ endpoint ∈ endpoints,
      endpoint.protocol = .udp ∧ answer.source = probedAddr endpoint) :
    ∃ addr, bestAnswering endpoints answers = some addr := by
  obtain ⟨answer, hanswer⟩ := List.exists_mem_of_ne_nil answers hne
  obtain ⟨endpoint, hendpoint, hudp, hsource⟩ := hsources answer hanswer
  refine Option.isSome_iff_exists.mp (List.find?_isSome.mpr ⟨probedAddr endpoint, ?_, ?_⟩)
  · exact List.mem_map_of_mem (mem_sortedUdpEndpoints.mpr ⟨hendpoint, hudp⟩)
  · rw [decide_eq_true_eq, ← hsource]
    exact List.mem_map_of_mem hanswer

-- ============================================================================
-- Any order of arrival
-- ============================================================================

/-- In one order of arrival the best-ranked address is used exactly when the last
    answer comes from it. -/
theorem usesBest_iff_last (sendTo : SendTo) (rt : RuntimeState) (peer : StoredPeerSession)
    (hne : answers ≠ [])
    (hperm : order.Perm answers)
    (hall : AllAnswers X sendTo peer.deviceId rt order) :
    (rt.receiveAnswers X sendTo order).UsesBest peer answers ↔
      order.getLast?.map (·.source) = bestAnswering peer.endpoints answers := by
  have horder : order ≠ [] := fun hnil => hne (List.nil_perm.mp (hnil ▸ hperm))
  obtain ⟨answer, hlast⟩ := Option.isSome_iff_exists.mp (List.getLast?_isSome.mpr horder)
  have huses := uses_of_answers hall hlast
  rw [hlast, Option.map_some]
  constructor
  · rintro ⟨addr, hbest, haddr⟩
    rw [hbest, uses_addr_eq huses haddr]
  · intro hbest
    exact ⟨answer.source, hbest.symm, huses⟩

/-- What a round of answers looks like to the session of the peer: the frames are
    sealed for it, their counters are new and differ, and none is further behind another
    than the replay window reaches. -/
structure AnswerRound (X : Externals) (rt : RuntimeState) (deviceId : String) (accepted : List Nat)
    (answers : List ProbeAnswer) : Prop where
  sealed : ∃ session, rt.peerTransportSessionsByDevice.lookup deviceId = some session ∧
    session.crypto.receiveWindow.Represents accepted ∧ ∀ answer ∈ answers, ∃ encoded plaintext,
      session.crypto.authenticate X answer.frame = .ok (encoded, plaintext) ∧
        encoded.header.messageType = frameTypeProbeResponse
  device : ∀ answer ∈ answers, rt.frameDevice answer.frame = some deviceId
  distinct : (answers.map fun answer => frameCounter answer.frame).Nodup
  fresh : ∀ answer ∈ answers,
    SlidingWindow.Fresh replayWindowBits accepted (frameCounter answer.frame)
  close : ∀ answer ∈ answers, ∀ answer' ∈ answers,
    frameCounter answer'.frame < frameCounter answer.frame + replayWindowBits

theorem AnswerRound.perm {accepted : List Nat} (h : AnswerRound X rt deviceId accepted answers)
    (hperm : order.Perm answers) : AnswerRound X rt deviceId accepted order where
  sealed := by
    obtain ⟨session, hsession, hrep, hauth⟩ := h.sealed
    exact ⟨session, hsession, hrep, fun answer hmem => hauth answer (hperm.mem_iff.mp hmem)⟩
  device := fun answer hmem => h.device answer (hperm.mem_iff.mp hmem)
  distinct := (hperm.map _).nodup_iff.mpr h.distinct
  fresh := fun answer hmem => h.fresh answer (hperm.mem_iff.mp hmem)
  close := fun answer hmem answer' hmem' =>
    h.close answer (hperm.mem_iff.mp hmem) answer' (hperm.mem_iff.mp hmem')

/-- The first answer is taken, and the others are a round for what it leaves. -/
theorem AnswerRound.step (sendTo : SendTo) {accepted : List Nat} {rest : List ProbeAnswer}
    (h : AnswerRound X rt deviceId accepted (answer :: rest)) :
    rt.IsAnswer X deviceId answer ∧ AnswerRound X (rt.receiveAnswer X sendTo answer) deviceId
      (frameCounter answer.frame :: accepted) rest := by
  obtain ⟨session, hsession, hrep, hauth⟩ := h.sealed
  obtain ⟨encoded, plaintext, hfirst, htype⟩ := hauth answer List.mem_cons_self
  obtain ⟨hopen, hrep'⟩ :=
    openMessage_of_fresh hrep hfirst (h.fresh answer List.mem_cons_self)
  have hauthentic : rt.Authentic X answer.frame deviceId
      { messageType := encoded.header.messageType, plaintext } := by
    obtain ⟨hdecode, hsource, hdestination, hdirection, ad, had, hdecrypt⟩ :=
      authenticate_iff.mp hfirst
    obtain ⟨decoded, hdecode', hdevice⟩ :=
      frameDevice_eq_some.mp (h.device answer List.mem_cons_self)
    obtain rfl := Except.ok.inj (hdecode.symm.trans hdecode')
    obtain ⟨encoded', hsame, haccept, -⟩ := openMessage_ok_iff.mp hopen
    obtain ⟨rfl, -⟩ := Prod.mk.inj (Except.ok.inj (hfirst.symm.trans hsame))
    exact ⟨encoded, session, ad, hdecode, hdevice, hsession, hsource, hdestination, hdirection,
      had, hdecrypt, haccept, rfl⟩
  refine ⟨⟨_, hauthentic, htype⟩, ?_⟩
  have hstage := openStage_ok_iff.mpr hauthentic
  have hopened : (rt.openStage X answer.frame).2 =
      rt.setCrypto deviceId (session.crypto.openMessage X answer.frame).2 := by
    rcases openStage_cases (X := X) rt answer.frame with ⟨error, heq⟩ | ⟨d, session', hd, hsession', heq⟩
    · rw [heq] at hstage
      cases hstage
    · obtain rfl := Option.some.inj (hd.symm.trans (h.device answer List.mem_cons_self))
      obtain rfl := Option.some.inj (hsession'.symm.trans hsession)
      rw [heq, hopen]
  have hnext := receiveAnswer_eq sendTo hstage htype
  rw [hopened] at hnext
  rw [hnext]
  have hmem : ∀ answer' ∈ rest, answer' ∈ answer :: rest := fun _ h' => List.mem_cons_of_mem _ h'
  exact {
    sealed := by
      refine ⟨{ session with
        crypto := (session.crypto.openMessage X answer.frame).2
        endpoint := sourceEndpoint answer.source }, ?_, hrep', fun answer' h' => ?_⟩
      · simp only [markPeerDirect, setCrypto, HashMap.lookup_modify, hsession, if_true,
          Option.map_some]
      · obtain ⟨encoded', plaintext', hauth', htype'⟩ := hauth answer' (hmem answer' h')
        refine ⟨encoded', plaintext', ?_, htype'⟩
        exact ((openMessage_sameChannel session.crypto answer.frame).authenticate_eq _).trans hauth'
    device := fun answer' h' => h.device answer' (hmem answer' h')
    distinct := (List.nodup_cons.mp h.distinct).2
    fresh := by
      intro answer' h'
      obtain ⟨hnew, hnear⟩ := h.fresh answer' (hmem answer' h')
      have hne : frameCounter answer'.frame ≠ frameCounter answer.frame := by
        intro heq
        refine (List.nodup_cons.mp h.distinct).1 ?_
        show frameCounter answer.frame ∈ _
        rw [← heq]
        exact List.mem_map_of_mem h'
      refine ⟨fun hin => ?_, fun a ha => ?_⟩
      · rcases List.mem_cons.mp hin with heq | hold
        · exact hne heq
        · exact hnew hold
      · rcases List.mem_cons.mp ha with rfl | hold
        · exact h.close answer' (hmem answer' h') answer List.mem_cons_self
        · exact hnear a hold
    close := fun answer' h' answer'' h'' =>
      h.close answer' (hmem answer' h') answer'' (hmem answer'' h'') }

/-- The answers of a round are authentic in whichever order they arrive. -/
theorem AnswerRound.allAnswers (sendTo : SendTo) {accepted : List Nat}
    (h : AnswerRound X rt deviceId accepted answers) : AllAnswers X sendTo deviceId rt answers := by
  induction answers generalizing rt accepted with
  | nil => trivial
  | cons answer rest ih =>
      obtain ⟨hanswer, hrest⟩ := h.step sendTo
      exact ⟨hanswer, ih hrest⟩

/-- **Choice of the endpoint.**  For every runtime, every peer and every answers that
    come from its UDP endpoints: in an order of arrival in which all of them are
    authentic, the peer is reached at the best-ranked answering address exactly when
    the last answer comes from it; and if they are authentic in every order, it is
    reached there whatever the order exactly when they all come from one address. -/
theorem endpoint_choice_iff (X : Externals) (sendTo : SendTo) (rt : RuntimeState)
    (peer : StoredPeerSession) (answers : List ProbeAnswer) (hne : answers ≠ [])
    (hsources : ∀ answer ∈ answers, ∃ endpoint ∈ peer.endpoints,
      endpoint.protocol = .udp ∧ answer.source = probedAddr endpoint) :
    (∀ order, order.Perm answers → AllAnswers X sendTo peer.deviceId rt order →
      ((rt.receiveAnswers X sendTo order).UsesBest peer answers ↔
        order.getLast?.map (·.source) = bestAnswering peer.endpoints answers)) ∧
    ((∀ order, order.Perm answers → AllAnswers X sendTo peer.deviceId rt order) →
      ((∀ order, order.Perm answers → (rt.receiveAnswers X sendTo order).UsesBest peer answers) ↔
        ∀ answer ∈ answers, ∀ answer' ∈ answers, answer.source = answer'.source)) := by
  refine ⟨fun order hperm hall => usesBest_iff_last sendTo rt peer hne hperm hall, fun hauthentic => ?_⟩
  obtain ⟨best, hbest⟩ := exists_bestAnswering hne hsources
  have hiff := fun order hperm => usesBest_iff_last sendTo rt peer hne hperm
    (hauthentic order hperm)
  constructor
  · intro hevery
    -- every answer is the last one in some order
    have hone : ∀ answer ∈ answers, answer.source = best := by
      intro answer hmem
      obtain ⟨before, after, rfl⟩ := List.append_of_mem hmem
      have hperm : (before ++ after ++ [answer]).Perm (before ++ answer :: after) := by
        rw [List.append_assoc]
        exact List.Perm.append_left before (List.perm_append_singleton answer after)
      have hlast := (hiff _ hperm).mp (hevery _ hperm)
      rw [hbest, List.getLast?_concat, Option.map_some] at hlast
      exact Option.some.inj hlast
    intro answer hmem answer' hmem'
    rw [hone answer hmem, hone answer' hmem']
  · intro hsame order hperm
    refine (hiff order hperm).mpr ?_
    obtain ⟨first, hfirst, hsource⟩ := List.mem_map.mp (mem_of_bestAnswering hbest)
    have horder : order ≠ [] := fun hnil => hne (List.nil_perm.mp (hnil ▸ hperm))
    obtain ⟨last, hlast⟩ := Option.isSome_iff_exists.mp (List.getLast?_isSome.mpr horder)
    have hmem : last ∈ answers := hperm.mem_iff.mp (List.mem_of_getLast? hlast)
    rw [hlast, Option.map_some, hbest, ← hsource, hsame last hmem first hfirst]

end Choice

namespace Reference

/-- A peer that is reachable on its LAN and at a public address. -/
def roaming : StoredPeerSession :=
  ⟨"dev_00000000000000000000000000000002", "b", ⟨100, 64, 0, 3⟩, credential 2,
    [⟨.lan, .v4 ⟨192, 168, 1, 30⟩, 51820, .udp⟩, ⟨.public, .v4 ⟨203, 0, 113, 7⟩, 40000, .udp⟩],
    ["100.64.0.3/32"], 0⟩

def roamingRuntime : RuntimeState := boundTo { pairedState with peers := [roaming] }

/-- The peer's responses, in the order in which it seals them. -/
def lanAnswer : ProbeAnswer :=
  ⟨(peerEnd.sealMessage Externals.reference (strBytes "probe_response 1000")
    frameTypeProbeResponse).1.toOption.getD [], ⟨.v4 ⟨192, 168, 1, 30⟩, 51820⟩, env.clock⟩

def publicAnswer : ProbeAnswer :=
  ⟨((peerEnd.sealMessage Externals.reference (strBytes "probe_response 1000")
    frameTypeProbeResponse).2.sealMessage Externals.reference (strBytes "probe_response 1000")
      frameTypeProbeResponse).1.toOption.getD [], ⟨.v4 ⟨203, 0, 113, 7⟩, 40000⟩, env.clock⟩

theorem roaming_sources : ∀ answer ∈ [lanAnswer, publicAnswer], ∃ endpoint ∈ roaming.endpoints,
    endpoint.protocol = .udp ∧ answer.source = probedAddr endpoint := by
  intro answer hmem
  rcases List.mem_pair.mp hmem with rfl | rfl
  · exact ⟨_, List.mem_cons_self, rfl, rfl⟩
  · exact ⟨_, List.mem_cons_of_mem _ List.mem_cons_self, rfl, rfl⟩

/-- The frame is a probe response that the session authenticates. -/
def isResponse (session : PeerTransportSession) (answer : ProbeAnswer) : Bool :=
  match session.crypto.authenticate Externals.reference answer.frame with
  | .ok (encoded, _) => encoded.header.messageType == frameTypeProbeResponse
  | .error _ => false

theorem roaming_round :
    AnswerRound Externals.reference roamingRuntime roaming.deviceId [] [lanAnswer, publicAnswer] where
  sealed := by
    have hfacts : (roamingRuntime.peerTransportSessionsByDevice.lookup roaming.deviceId).map
        (fun session => [lanAnswer, publicAnswer].all (isResponse session)) = some true := by
      decide +kernel
    obtain ⟨session, hsession, hall⟩ := Option.map_eq_some_iff.mp hfacts
    have hwindow : session.crypto.receiveWindow = .default :=
      fromPersisted_window Externals.reference env.salts _ _ _ hsession
    refine ⟨session, hsession, by rw [hwindow]; rfl, fun answer hmem => ?_⟩
    have hone := List.all_eq_true.mp hall answer hmem
    unfold isResponse at hone
    split at hone
    · rename_i encoded plaintext hauth
      exact ⟨encoded, plaintext, hauth, beq_iff_eq.mp hone⟩
    · cases hone
  device := by decide +kernel
  distinct := by decide +kernel
  fresh := fun _ _ => SlidingWindow.fresh_nil _ _
  close := by decide +kernel

end Reference

open Reference in
/-- The LAN address ranks best.  It is used when its answer comes last, and not when the
    answer from the public address does. -/
theorem endpoint_choice_by_arrival :
    bestAnswering roaming.endpoints [lanAnswer, publicAnswer] = some lanAnswer.source ∧
      AllAnswers Externals.reference env.sendTo roaming.deviceId roamingRuntime
        [lanAnswer, publicAnswer] ∧
      (roamingRuntime.receiveAnswers Externals.reference env.sendTo [lanAnswer, publicAnswer]).Uses
        roaming.deviceId publicAnswer.source ∧
      ¬ (roamingRuntime.receiveAnswers Externals.reference env.sendTo
        [lanAnswer, publicAnswer]).UsesBest roaming [lanAnswer, publicAnswer] := by
  have hbest : bestAnswering roaming.endpoints [lanAnswer, publicAnswer] = some lanAnswer.source := by
    decide +kernel
  have hall := roaming_round.allAnswers env.sendTo
  have huses := uses_of_answers hall (List.getLast?_cons_cons.trans rfl)
  refine ⟨hbest, hall, huses, fun ⟨addr, haddr, hused⟩ => ?_⟩
  obtain rfl := Option.some.inj (hbest.symm.trans haddr)
  have hsame := uses_addr_eq huses hused
  revert hsame
  decide

open Reference in
/-- In the other order the LAN address is used; so the choice depends on the order. -/
theorem endpoint_choice_reversed :
    (roamingRuntime.receiveAnswers Externals.reference env.sendTo [publicAnswer, lanAnswer]).UsesBest
        roaming [lanAnswer, publicAnswer] ∧
      ¬ ∀ order, order.Perm [lanAnswer, publicAnswer] →
        (roamingRuntime.receiveAnswers Externals.reference env.sendTo order).UsesBest roaming
          [lanAnswer, publicAnswer] := by
  have hchoice := endpoint_choice_iff Externals.reference env.sendTo roamingRuntime roaming
    [lanAnswer, publicAnswer] (by simp) roaming_sources
  have hauthentic : ∀ order, order.Perm [lanAnswer, publicAnswer] →
      AllAnswers Externals.reference env.sendTo roaming.deviceId roamingRuntime order :=
    fun order hperm => (roaming_round.perm hperm).allAnswers env.sendTo
  have hswap : [publicAnswer, lanAnswer].Perm [lanAnswer, publicAnswer] := .swap _ _ _
  refine ⟨(hchoice.1 _ hswap (hauthentic _ hswap)).mpr (by decide +kernel), fun hevery => ?_⟩
  have hsame := (hchoice.2 hauthentic).mp hevery lanAnswer List.mem_cons_self publicAnswer
    (List.mem_cons_of_mem _ List.mem_cons_self)
  revert hsame
  decide

end TfScale.Custom
