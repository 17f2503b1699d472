/-
  TfScale.Custom.NonceUniqueness

  No nonce is used twice under a pair's session key.

  Both ends of a pair seal under one static key, in both directions and over
  any number of session rebuilds.  The run below interleaves seals, opens and
  rebuilds at the two ends and collects the frames that came out.  The
  invariant says where every emitted nonce can come from: an end, a salt that
  end has drawn and a counter, below the present one if the salt is still in
  use.
-/

import TfScale.Custom.Channel

namespace TfScale.Custom

/-- The two ends of a peer pair. -/
inductive Side where
  | left
  | right
deriving DecidableEq, Repr

/-- The static keys and frame ids of a pair. -/
structure PeerPair where
  key : Side → ByteArr 32
  id : Side → FrameDeviceId

def Side.other : Side → Side
  | left => right
  | right => left

inductive PairEvent where
  /-- `seal_message` (and `seal`) at one end -/
  | sealed (side : Side) (plaintext : Bytes) (messageType : UInt8)
  /-- `open_message` at one end -/
  | opened (side : Side) (frame : Bytes)
  /-- the end builds a new session, with the salt `getrandom` gave it -/
  | rebuilt (side : Side) (random : Except String (ByteArr 8))

/-- The sessions of both ends and the frames emitted so far, newest first. -/
structure PairState where
  session : Side → Option PeerCryptoSession
  frames : List Bytes

def PairState.initial : PairState := ⟨fun _ => none, []⟩

variable (X : Externals) (p : PeerPair)

/-- The session that an end of the pair builds. -/
def PeerPair.build (side : Side) (random : Except String (ByteArr 8)) : Result PeerCryptoSession :=
  PeerCryptoSession.new X (p.key side)
    (encodePublicCredential X (X.x25519Public (p.key side)))
    (encodePublicCredential X (X.x25519Public (p.key side.other)))
    (p.id side) (p.id side.other) random

/-- The direction prefix of the frames an end sends. -/
def PeerPair.sendPrefix (side : Side) : ByteArr 8 :=
  X.hkdf sessionSalt (X.diffieHellman (p.key .left) (X.x25519Public (p.key .right))).val
    (directionInfo (p.id side) (p.id side.other)) 8

def PairState.step (st : PairState) : PairEvent → PairState
  | .sealed side plaintext messageType =>
      match st.session side with
      | none => st
      | some s =>
          let session := Function.update st.session side
            (some (s.sealMessage X plaintext messageType).2)
          match (s.sealMessage X plaintext messageType).1 with
          | .ok frame => ⟨session, frame :: st.frames⟩
          | .error _ => ⟨session, st.frames⟩
  | .opened side frame =>
      match st.session side with
      | none => st
      | some s => { st with session := Function.update st.session side (some (s.openMessage X frame).2) }
  | .rebuilt side random =>
      -- a session that cannot be built is absent
      { st with session := Function.update st.session side (p.build X side random).toOption }

/-- The nonce bytes of a frame. -/
def frameNonce (frame : Bytes) : Bytes := (frame.drop 36).take 24

/-- The salts that an end has drawn. -/
def saltsDrawn (side : Side) (events : List PairEvent) : List (ByteArr 8) :=
  events.filterMap fun
    | .rebuilt side' (.ok salt) => if side' = side then some salt else none
    | _ => none

variable {X p}

/-- The nonce bytes of a sealed frame are the session's next nonce. -/
theorem frameNonce_sealed {s : PeerCryptoSession} {plaintext frame : Bytes} {messageType : UInt8}
    (h : (s.sealMessage X plaintext messageType).1 = .ok frame) :
    s.sendNonces.counter ≠ u64Max ∧
      frameNonce frame = (nonceOf s.sendNonces.directionPrefix s.sendNonces.sessionSalt
        s.sendNonces.counter).val := by
  obtain ⟨nonce, ciphertext, hnext, -, -, rfl⟩ := PeerCryptoSession.sealMessage_eq_ok.mp h
  have hslice := (FrameHeader.slices (FrameHeader.new s.localId s.peerId nonce messageType)
    ciphertext).2.2
  by_cases hmax : s.sendNonces.counter = u64Max
  · rw [SendNonceState.next, if_pos hmax] at hnext
    cases hnext
  · rw [SendNonceState.next_of_ne hmax] at hnext
    obtain rfl := Except.ok.inj hnext
    exact ⟨hmax, hslice⟩

/-- At the counter's limit a seal fails and changes nothing. -/
theorem sealMessage_at_limit {s : PeerCryptoSession} (h : s.sendNonces.counter = u64Max)
    (plaintext : Bytes) (messageType : UInt8) :
    s.sealMessage X plaintext messageType =
      (commandFailed "send nonce counter exhausted", s) := by
  have hnext : s.sendNonces.next = (commandFailed "send nonce counter exhausted", s.sendNonces) :=
    if_pos h
  unfold PeerCryptoSession.sealMessage
  simp only [hnext, commandFailed]

/-- A session that an end builds sends under that end's prefix and the drawn salt. -/
theorem PeerPair.build_eq_ok (hX : X.Lawful) {side : Side} {random : Except String (ByteArr 8)}
    {s : PeerCryptoSession} (h : p.build X side random = .ok s) :
    ∃ salt, random = .ok salt ∧
      s.sendNonces = SendNonceState.withSalt (p.sendPrefix X side) salt := by
  obtain ⟨peerKey, salt, hkey, hrandom, rfl⟩ := PeerCryptoSession.new_eq_ok.mp h
  rw [decodePublicCredential_encode X hX] at hkey
  obtain rfl := Except.ok.inj hkey
  refine ⟨salt, hrandom, ?_⟩
  cases side with
  | left => rfl
  | right =>
      simp only [PeerCryptoSession.built, PeerPair.sendPrefix, Side.other,
        hX.diffieHellman_comm (p.key .right) (p.key .left)]

-- ============================================================================
-- The invariant
-- ============================================================================

/-- Where the nonces of a run come from. -/
structure NonceInv (X : Externals) (p : PeerPair) (salts : Side → List (ByteArr 8))
    (st : PairState) : Prop where
  session : ∀ side s, st.session side = some s →
    s.sendNonces.directionPrefix = p.sendPrefix X side ∧ s.sendNonces.sessionSalt ∈ salts side
  origin : ∀ frame ∈ st.frames, ∃ side salt counter,
    frameNonce frame = (nonceOf (p.sendPrefix X side) salt counter).val ∧ salt ∈ salts side ∧
    ∀ s, st.session side = some s → s.sendNonces.sessionSalt = salt → counter < s.sendNonces.counter
  nodup : (st.frames.map frameNonce).Nodup

theorem nonceInv_initial : NonceInv X p (fun _ => []) PairState.initial where
  session := by simp [PairState.initial]
  origin := by simp [PairState.initial]
  nodup := List.nodup_nil

/-- Replacing a session by one that sends under the same prefix and salt, with a
    counter that is not lower, keeps the invariant. -/
theorem NonceInv.replace {salts : Side → List (ByteArr 8)} {st : PairState} {side : Side}
    {s s' : PeerCryptoSession} (h : NonceInv X p salts st) (hs : st.session side = some s)
    (hdirection : s'.sendNonces.directionPrefix = s.sendNonces.directionPrefix)
    (hsalt : s'.sendNonces.sessionSalt = s.sendNonces.sessionSalt)
    (hcounter : s.sendNonces.counter ≤ s'.sendNonces.counter) :
    NonceInv X p salts { st with session := Function.update st.session side (some s') } where
  session := by
    intro side' t ht
    simp only [Function.update_apply] at ht
    split at ht
    · rename_i heq
      subst heq
      obtain rfl := Option.some.inj ht
      rw [hdirection, hsalt]
      exact h.session side' s hs
    · exact h.session side' t ht
  origin := by
    intro frame hframe
    obtain ⟨side', salt, counter, hn, hmem, hlt⟩ := h.origin frame hframe
    refine ⟨side', salt, counter, hn, hmem, fun t ht hts => ?_⟩
    simp only [Function.update_apply] at ht
    split at ht
    · rename_i heq
      subst heq
      obtain rfl := Option.some.inj ht
      rw [hsalt] at hts
      have hprev : counter.toNat < s.sendNonces.counter.toNat := hlt s hs hts
      exact Nat.lt_of_lt_of_le hprev hcounter
    · exact hlt t ht hts
  nodup := h.nodup

/-- Using a counter moves it up by one. -/
theorem counter_lt_next {s : SendNonceState} (hmax : s.counter ≠ u64Max) : s.counter < s.next.2.counter := by
  rw [SendNonceState.next_of_ne hmax]
  show s.counter.toNat < (s.counter + 1).toNat
  rw [SendNonceState.toNat_counter_add_one hmax]
  exact Nat.lt_succ_self _

/-- Replacing a session by one that has used its counter once more keeps the invariant. -/
theorem NonceInv.advance {salts : Side → List (ByteArr 8)} {st : PairState} {side : Side}
    {s s' : PeerCryptoSession} (h : NonceInv X p salts st) (hs : st.session side = some s)
    (hmax : s.sendNonces.counter ≠ u64Max) (hsend : s'.sendNonces = s.sendNonces.next.2) :
    NonceInv X p salts { st with session := Function.update st.session side (some s') } := by
  have hcounter := counter_lt_next hmax
  rw [← hsend] at hcounter
  rw [SendNonceState.next_of_ne hmax] at hsend
  apply h.replace hs
  · rw [hsend]
  · rw [hsend]
  · exact Nat.le_of_lt hcounter

/-- The nonce a session is about to use was not emitted before. -/
theorem NonceInv.next_fresh (hdir : p.sendPrefix X .left ≠ p.sendPrefix X .right)
    {salts : Side → List (ByteArr 8)} {st : PairState} {side : Side} {s : PeerCryptoSession}
    (h : NonceInv X p salts st) (hs : st.session side = some s) :
    (nonceOf s.sendNonces.directionPrefix s.sendNonces.sessionSalt s.sendNonces.counter).val
      ∉ st.frames.map frameNonce := by
  intro hmem
  obtain ⟨frame, hframe, heq⟩ := List.mem_map.mp hmem
  obtain ⟨side', salt, counter, hn, -, hlt⟩ := h.origin frame hframe
  have hnonce := nonceOf_inj (Subtype.ext (hn.symm.trans heq))
  have hside : side' = side := by
    have hp := hnonce.1.trans (h.session side s hs).1
    cases side <;> cases side' <;> first | rfl | exact absurd hp hdir | exact absurd hp.symm hdir
  subst hside
  have hbelow : counter.toNat < s.sendNonces.counter.toNat := hlt s hs hnonce.2.1.symm
  rw [hnonce.2.2] at hbelow
  exact Nat.lt_irrefl _ hbelow

/-- The salts after one more event. -/
def noteSalt (salts : Side → List (ByteArr 8)) (event : PairEvent) (side : Side) : List (ByteArr 8) :=
  salts side ++ saltsDrawn side [event]

/-- A session seals a message: the frame carries the nonce that was next, and the
    counter is past it. -/
theorem NonceInv.sealed (hdir : p.sendPrefix X .left ≠ p.sendPrefix X .right)
    {salts : Side → List (ByteArr 8)} {st : PairState} {side : Side} {s s' : PeerCryptoSession}
    {frame : Bytes} (h : NonceInv X p salts st) (hs : st.session side = some s)
    (hmax : s.sendNonces.counter ≠ u64Max) (hsend : s'.sendNonces = s.sendNonces.next.2)
    (hnonce : frameNonce frame = (nonceOf s.sendNonces.directionPrefix s.sendNonces.sessionSalt
      s.sendNonces.counter).val) :
    NonceInv X p salts { st with
      session := Function.update st.session side (some s'), frames := frame :: st.frames } := by
  have hadvanced := h.advance hs hmax hsend
  refine ⟨hadvanced.session, ?_, ?_⟩
  · intro f hf
    rcases List.mem_cons.mp hf with rfl | hf
    · obtain ⟨hpre, hsalt⟩ := h.session side s hs
      refine ⟨side, s.sendNonces.sessionSalt, s.sendNonces.counter, ?_, hsalt, fun t ht _ => ?_⟩
      · rw [hnonce, hpre]
      · simp only [Function.update_self] at ht
        obtain rfl := Option.some.inj ht
        rw [hsend]
        exact counter_lt_next hmax
    · exact hadvanced.origin f hf
  · rw [List.map_cons, List.nodup_cons, hnonce]
    exact ⟨h.next_fresh hdir hs, h.nodup⟩

/-- A session that an end holds after it was rebuilt sends under the drawn salt. -/
theorem PeerPair.build_toOption (hX : X.Lawful) {side : Side} {random : Except String (ByteArr 8)}
    {s : PeerCryptoSession} (h : (p.build X side random).toOption = some s) :
    ∃ salt, random = .ok salt ∧
      s.sendNonces = SendNonceState.withSalt (p.sendPrefix X side) salt :=
  PeerPair.build_eq_ok hX (Fallible.toOption_eq_some.mp h)

/-- An end rebuilds its session, or is left without one, under a salt that is new. -/
theorem NonceInv.rebuilt (hX : X.Lawful) {salts : Side → List (ByteArr 8)} {st : PairState}
    (h : NonceInv X p salts st) {side : Side} {random : Except String (ByteArr 8)}
    (hfresh : ∀ side', (noteSalt salts (.rebuilt side random) side').Nodup) :
    NonceInv X p (noteSalt salts (.rebuilt side random)) (st.step X p (.rebuilt side random)) := by
  have hkept : ∀ side' salt, salt ∈ salts side' →
      salt ∈ noteSalt salts (.rebuilt side random) side' :=
    fun side' salt hmem => List.mem_append_left _ hmem
  refine ⟨?_, ?_, h.nodup⟩
  · intro side' s hs
    simp only [PairState.step, Function.update_apply] at hs
    split at hs
    · rename_i heq
      subst heq
      obtain ⟨salt, rfl, hsend⟩ := PeerPair.build_toOption hX hs
      rw [hsend]
      refine ⟨rfl, ?_⟩
      simp [noteSalt, saltsDrawn, SendNonceState.withSalt]
    · obtain ⟨hpre, hsalt⟩ := h.session side' s hs
      exact ⟨hpre, hkept side' _ hsalt⟩
  · intro frame hframe
    obtain ⟨side', salt, counter, hn, hsalt, hlt⟩ := h.origin frame hframe
    refine ⟨side', salt, counter, hn, hkept side' salt hsalt, fun s hs hss => ?_⟩
    simp only [PairState.step, Function.update_apply] at hs
    split at hs
    · -- the drawn salt is new, so no emitted nonce carries it
      rename_i heq
      subst heq
      obtain ⟨drawn, rfl, hsend⟩ := PeerPair.build_toOption hX hs
      rw [hsend] at hss
      have hdrawn : drawn ∈ saltsDrawn side' [.rebuilt side' (.ok drawn)] := by
        simp [saltsDrawn]
      have hdisjoint := (List.nodup_append.mp (hfresh side')).2.2
      exact absurd hss.symm (hdisjoint salt hsalt drawn hdrawn)
    · exact hlt s hs hss

theorem NonceInv.step (hX : X.Lawful) (hdir : p.sendPrefix X .left ≠ p.sendPrefix X .right)
    {salts : Side → List (ByteArr 8)} {st : PairState} (h : NonceInv X p salts st)
    {event : PairEvent} (hfresh : ∀ side, (noteSalt salts event side).Nodup) :
    NonceInv X p (noteSalt salts event) (st.step X p event) := by
  cases event with
  | sealed side plaintext messageType =>
      rw [show noteSalt salts _ = salts from funext fun _ => List.append_nil _]
      cases hs : st.session side with
      | none =>
          simp only [PairState.step, hs]
          exact h
      | some s =>
          by_cases hmax : s.sendNonces.counter = u64Max
          · simp only [PairState.step, hs, sealMessage_at_limit hmax, commandFailed]
            exact h.replace hs rfl rfl (Nat.le_refl _)
          · have hsend : (s.sealMessage X plaintext messageType).2.sendNonces = s.sendNonces.next.2 := by
              rw [PeerCryptoSession.sealMessage_snd]
            cases hres : (s.sealMessage X plaintext messageType).1 with
            | error e =>
                simp only [PairState.step, hs, hres]
                exact h.advance hs hmax hsend
            | ok frame =>
                simp only [PairState.step, hs, hres]
                exact h.sealed hdir hs hmax hsend (frameNonce_sealed hres).2
  | opened side frame =>
      rw [show noteSalt salts _ = salts from funext fun _ => List.append_nil _]
      cases hs : st.session side with
      | none =>
          simp only [PairState.step, hs]
          exact h
      | some s =>
          simp only [PairState.step, hs]
          obtain ⟨w, hw⟩ := s.openMessage_snd (X := X) frame
          rw [hw]
          exact h.replace hs rfl rfl (Nat.le_refl _)
  | rebuilt side random => exact h.rebuilt hX hfresh

-- ============================================================================
-- Whole runs
-- ============================================================================

theorem noteSalt_saltsDrawn (events : List PairEvent) (event : PairEvent) :
    noteSalt (fun side => saltsDrawn side events) event =
      fun side => saltsDrawn side (events ++ [event]) := by
  funext side
  simp only [noteSalt, saltsDrawn, List.filterMap_append]

theorem nonceInv_run (hX : X.Lawful) (hdir : p.sendPrefix X .left ≠ p.sendPrefix X .right)
    (events : List PairEvent) (hsalts : ∀ side, (saltsDrawn side events).Nodup) :
    NonceInv X p (fun side => saltsDrawn side events)
      (events.foldl (PairState.step X p) PairState.initial) := by
  induction events using List.reverseRecOn with
  | nil => exact nonceInv_initial
  | append_singleton events event ih =>
      have hnote : ∀ side, (noteSalt (fun side => saltsDrawn side events) event side).Nodup := by
        intro side
        rw [noteSalt_saltsDrawn]
        exact hsalts side
      have hprev := ih fun side => (List.nodup_append.mp (hnote side)).1
      rw [List.foldl_append, List.foldl_cons, List.foldl_nil, ← noteSalt_saltsDrawn]
      exact hprev.step hX hdir hnote

/-- At the counter's limit a seal leaves the whole pair as it was. -/
theorem PairState.step_sealed_at_limit {st : PairState} {side : Side} {s : PeerCryptoSession}
    (hs : st.session side = some s) (hmax : s.sendNonces.counter = u64Max)
    (plaintext : Bytes) (messageType : UInt8) :
    st.step X p (.sealed side plaintext messageType) = st := by
  simp only [PairState.step, hs, sealMessage_at_limit hmax, commandFailed]
  rw [← hs, Function.update_eq_self]

/-- **No nonce repeats.**  In every run of a pair whose ends never draw a salt
    twice, and whose two direction prefixes differ, the frames emitted at both
    ends carry pairwise different nonces; and a session at the counter's limit
    refuses to seal, without a frame and without a change. -/
theorem sealed_nonces_nodup (hX : X.Lawful)
    (hdir : p.sendPrefix X .left ≠ p.sendPrefix X .right) (events : List PairEvent)
    (hsalts : ∀ side, (saltsDrawn side events).Nodup) :
    let st := events.foldl (PairState.step X p) PairState.initial
    (st.frames.map frameNonce).Nodup ∧
      ∀ side s, st.session side = some s → s.sendNonces.counter = u64Max →
        ∀ plaintext messageType,
          s.sealMessage X plaintext messageType =
              (commandFailed "send nonce counter exhausted", s) ∧
            st.step X p (.sealed side plaintext messageType) = st := by
  intro st
  refine ⟨(nonceInv_run hX hdir events hsalts).nodup, fun side s hs hmax plaintext messageType => ?_⟩
  exact ⟨sealMessage_at_limit hmax plaintext messageType,
    PairState.step_sealed_at_limit hs hmax plaintext messageType⟩

namespace Reference

/-- The pair of `side 1 2` and `side 2 1`. -/
def pair : PeerPair where
  key := fun
    | .left => .replicate 32 1
    | .right => .replicate 32 2
  id := fun
    | .left => .replicate 16 1
    | .right => .replicate 16 2

/-- Both ends build, both seal, and the left end rebuilds and seals again. -/
def pairEvents : List PairEvent :=
  [.rebuilt .left (.ok (.replicate 8 1)), .rebuilt .right (.ok (.replicate 8 1)),
   .sealed .left [10] frameTypeData, .sealed .right [11] frameTypeProbe,
   .sealed .left [12] frameTypeData, .rebuilt .left (.ok (.replicate 8 2)),
   .sealed .left [13] frameTypeProbeResponse]

end Reference

/-- The hypotheses are met by a run that emits four frames. -/
theorem sealed_nonces_nodup_reference :
    (Reference.pairEvents.foldl (PairState.step Externals.reference Reference.pair)
        PairState.initial).frames.length = 4 ∧
      ((Reference.pairEvents.foldl (PairState.step Externals.reference Reference.pair)
        PairState.initial).frames.map frameNonce).Nodup :=
  ⟨by decide +kernel,
    (sealed_nonces_nodup Externals.reference_lawful (by decide +kernel) Reference.pairEvents
      (fun side => by cases side <;> decide +kernel)).1⟩

end TfScale.Custom
