/-
  TfScale.Custom.Channel

  Two ends of a peer pair as a channel: frames sealed at one end, delivered to
  the other in any order with losses and repetitions.

  `Matched A B` is what the two independent constructions have to agree on for
  a frame of `A` to be authentic at `B`; `new_matched` shows that reciprocal
  keys and swapped ids give it.  Everything else follows from the sliding
  window: the frame of the `c`-th seal carries the counter `c`, so the window
  of `B` admits it exactly by the counters opened before.  The same argument,
  read for a sender that starts again from counter zero, says which frames of
  the new session a receiver that kept its window still lets in.
-/

import TfScale.Custom.Crypto

namespace TfScale.Custom

variable (X : Externals)

/-- The results of a sequence of `seal_message` calls, in call order. -/
def sealAll (s : PeerCryptoSession) : List (Bytes × UInt8) → List (Result Bytes)
  | [] => []
  | (plaintext, messageType) :: rest =>
      (s.sealMessage X plaintext messageType).1 ::
        sealAll (s.sealMessage X plaintext messageType).2 rest

/-- The frame of the `c`-th seal, if one came out. -/
def frameOf (s : PeerCryptoSession) (messages : List (Bytes × UInt8)) (c : Nat) : Option Bytes :=
  match (sealAll X s messages)[c]? with
  | some (.ok frame) => some frame
  | _ => none

/-- The results of a sequence of `open_message` calls, in call order. -/
def openAll (s : PeerCryptoSession) : List Bytes → List (Result OpenFrame)
  | [] => []
  | frame :: rest => (s.openMessage X frame).1 :: openAll (s.openMessage X frame).2 rest

/-- One delivery: the session after `open_message`, and the counters of the
    frames opened so far, newest first. -/
def deliver (st : PeerCryptoSession × List Nat) (frame : Bytes) : PeerCryptoSession × List Nat :=
  match st.1.openMessage X frame with
  | (.ok _, s) => (s, PeerCryptoSession.frameCounter frame :: st.2)
  | (.error _, s) => (s, st.2)

/-- The session and its opened counters after a history of deliveries. -/
def deliverAll (s : PeerCryptoSession) (frames : List Bytes) : PeerCryptoSession × List Nat :=
  frames.foldl (deliver X) (s, [])

/-- The receiver lets the frame with counter `c` in: it was not opened before,
    and nothing was opened yet or `c` exceeds the highest opened counter minus 64. -/
def Admissible (opened : List Nat) (c : Nat) : Prop :=
  c ∉ opened ∧ (opened = [] ∨ ∃ highest, opened.max? = some highest ∧ (highest : Int) - 64 < c)

theorem admissible_iff_fresh (opened : List Nat) (c : Nat) :
    Admissible opened c ↔ SlidingWindow.Fresh replayWindowBits opened c := by
  unfold Admissible SlidingWindow.Fresh
  refine and_congr_right fun _ => ?_
  constructor
  · rintro (rfl | ⟨highest, hmax, hlt⟩) a ha
    · simp at ha
    · have hle := (List.max?_eq_some_iff.mp hmax).2 a ha
      simp only [replayWindowBits]
      omega
  · intro hnear
    cases hmax : opened.max? with
    | none => exact Or.inl (List.max?_eq_none_iff.mp hmax)
    | some highest =>
        have := hnear highest (List.max?_eq_some_iff.mp hmax).1
        simp only [replayWindowBits] at this
        exact Or.inr ⟨highest, rfl, by omega⟩

-- ============================================================================
-- The two ends agree
-- ============================================================================

/-- Frames of `A` are addressed to `B` and sealed under the key of `B`. -/
structure Matched (A B : PeerCryptoSession) : Prop where
  cipher : A.cipher = B.cipher
  localId : A.localId = B.peerId
  peerId : A.peerId = B.localId
  directionPrefix : A.sendNonces.directionPrefix = B.receiveDirectionPrefix

variable {X}

open PeerCryptoSession in
/-- Sessions of two ends that hold the keys of each other's credentials match. -/
theorem new_matched_of_decode (hX : X.Lawful) {privA privB : ByteArr 32} {credA credB : String}
    {idA idB : FrameDeviceId} {randomA randomB : Except String (ByteArr 8)}
    {A B : PeerCryptoSession}
    (hcredA : decodePublicCredential X credA = .ok (X.x25519Public privA))
    (hcredB : decodePublicCredential X credB = .ok (X.x25519Public privB))
    (hA : new X privA credA credB idA idB randomA = .ok A)
    (hB : new X privB credB credA idB idA randomB = .ok B) :
    Matched A B := by
  obtain ⟨keyB, saltA, hkeyB, -, rfl⟩ := new_eq_ok.mp hA
  obtain ⟨keyA, saltB, hkeyA, -, rfl⟩ := new_eq_ok.mp hB
  rw [hcredA] at hkeyA
  rw [hcredB] at hkeyB
  obtain rfl := Except.ok.inj hkeyA
  obtain rfl := Except.ok.inj hkeyB
  have hsecret := hX.diffieHellman_comm privA privB
  exact {
    cipher := by simp only [built, hsecret, sessionInfo_comm _ _ idA idB]
    localId := rfl
    peerId := rfl
    directionPrefix := by simp only [built, SendNonceState.withSalt, hsecret] }

open PeerCryptoSession in
/-- Reciprocal keys and swapped ids give matched sessions. -/
theorem new_matched (hX : X.Lawful) {privA privB : ByteArr 32} {idA idB : FrameDeviceId}
    {randomA randomB : Except String (ByteArr 8)} {A B : PeerCryptoSession}
    (hA : new X privA (encodePublicCredential X (X.x25519Public privA))
      (encodePublicCredential X (X.x25519Public privB)) idA idB randomA = .ok A)
    (hB : new X privB (encodePublicCredential X (X.x25519Public privB))
      (encodePublicCredential X (X.x25519Public privA)) idB idA randomB = .ok B) :
    Matched A B :=
  new_matched_of_decode hX (decodePublicCredential_encode X hX _)
    (decodePublicCredential_encode X hX _) hA hB

/-- A frame sealed at one end is authentic at the other and carries the send
    counter it was sealed with. -/
theorem Matched.authenticate_sealed (hX : X.Lawful) {A B : PeerCryptoSession} (h : Matched A B)
    {plaintext frame : Bytes} {messageType : UInt8}
    (hseal : (A.sealMessage X plaintext messageType).1 = .ok frame) :
    PeerCryptoSession.frameCounter frame = A.sendNonces.counter.toNat ∧
    ∃ encoded, B.authenticate X frame = .ok (encoded, plaintext) ∧
      encoded.header.messageType = messageType := by
  obtain ⟨nonce, ciphertext, hnext, hty, henc, rfl⟩ :=
    PeerCryptoSession.sealMessage_eq_ok.mp hseal
  obtain ⟨header, hheader⟩ :
      ∃ header, header = FrameHeader.new A.localId A.peerId nonce messageType := ⟨_, rfl⟩
  have hv : header.Valid := hheader ▸ FrameHeader.new_valid hty
  rw [← hheader] at henc ⊢
  have hdec : EncodedFrame.decode (header.bytes ++ ciphertext) = .ok { header, ciphertext } :=
    EncodedFrame.decode_encode (EncodedFrame.encode_eq_ok.mpr ⟨hv, rfl⟩)
  have hnonce : nonce = nonceOf A.sendNonces.directionPrefix A.sendNonces.sessionSalt
      A.sendNonces.counter := by
    unfold SendNonceState.next at hnext
    split_ifs at hnext
    · cases hnext
    · exact (Except.ok.inj hnext).symm
  refine ⟨?_, { header, ciphertext }, ?_, ?_⟩
  · rw [PeerCryptoSession.frameCounter_of_decode hdec, hheader, FrameHeader.new, hnonce,
      nonceCounter_nonceOf]
  · have hsrc : header.source = B.peerId := by rw [hheader, ← h.localId]; rfl
    have hdst : header.destination = B.localId := by rw [hheader, ← h.peerId]; rfl
    have hhn : header.nonce = nonce := by rw [hheader]; rfl
    have hdir : header.nonce.val.take 8 = B.receiveDirectionPrefix.val := by
      rw [hhn, hnonce, nonceOf_take, h.directionPrefix]
    have hdecr : X.aeadDecrypt B.cipher header.nonce header.bytes ciphertext = some plaintext := by
      rw [hhn, ← h.cipher]
      exact hX.decrypt_encrypt _ _ _ _ _ henc
    simp only [PeerCryptoSession.authenticate, hdec, bind, Except.bind, hsrc, hdst, hdir,
      ne_eq, not_true_eq_false, if_false, FrameHeader.encode_of_valid hv, hdecr]
    rfl
  · rw [hheader]
    rfl

-- ============================================================================
-- A sequence of seals
-- ============================================================================

/-- The `c`-th seal of a session is sealed with the counter advanced by `c`. -/
theorem sealAll_eq_ok {A : PeerCryptoSession} {messages : List (Bytes × UInt8)} {c : Nat}
    {frame : Bytes} (h : (sealAll X A messages)[c]? = some (.ok frame)) :
    ∃ plaintext messageType A', messages[c]? = some (plaintext, messageType) ∧
      (∀ B, Matched A B → Matched A' B) ∧
      A'.sendNonces.counter.toNat = A.sendNonces.counter.toNat + c ∧
      (A'.sealMessage X plaintext messageType).1 = .ok frame := by
  induction messages generalizing A c with
  | nil => simp [sealAll] at h
  | cons m messages ih =>
      obtain ⟨plaintext, messageType⟩ := m
      cases c with
      | zero =>
          refine ⟨plaintext, messageType, A, rfl, fun B hB => hB, rfl, ?_⟩
          simpa [sealAll] using h
      | succ c =>
          simp only [sealAll, List.getElem?_cons_succ] at h
          obtain ⟨pt, ty, A', hm, hmatch, hcount, hseal⟩ := ih h
          rw [PeerCryptoSession.sealMessage_snd] at hmatch hcount
          by_cases hmax : A.sendNonces.counter = u64Max
          · -- an exhausted counter stays put, and no later seal gives a frame
            exfalso
            have hnext : A.sendNonces.next.2 = A.sendNonces := by
              simp only [SendNonceState.next, hmax, if_true]
            rw [hnext, hmax] at hcount
            have hlt := A'.sendNonces.counter.toNat_lt
            have hA' : A'.sendNonces.counter = u64Max := by
              apply UInt64.toNat_inj.mp
              change _ = 18446744073709551615
              change _ = 18446744073709551615 + c at hcount
              omega
            obtain ⟨nonce, -, hn, -⟩ := PeerCryptoSession.sealMessage_eq_ok.mp hseal
            simp only [SendNonceState.next, hA', if_true] at hn
            cases hn
          · rw [SendNonceState.next_of_ne hmax] at hmatch hcount
            rw [SendNonceState.toNat_counter_add_one hmax] at hcount
            refine ⟨pt, ty, A', hm, fun B hB => hmatch B ⟨hB.1, hB.2, hB.3, hB.4⟩, ?_, hseal⟩
            omega

theorem frameOf_eq_some {A : PeerCryptoSession} {messages : List (Bytes × UInt8)} {c : Nat}
    {frame : Bytes} :
    frameOf X A messages c = some frame ↔ (sealAll X A messages)[c]? = some (.ok frame) := by
  unfold frameOf
  split
  · rename_i f hf
    rw [hf]
    simp
  · rename_i hne
    constructor
    · intro h
      cases h
    · intro h
      exact absurd h (hne frame)

/-- The frame of the `c`-th seal of a new session, seen from the other end. -/
theorem Matched.authenticate_frameOf (hX : X.Lawful) {A B : PeerCryptoSession} (h : Matched A B)
    (hzero : A.sendNonces.counter = 0) {messages : List (Bytes × UInt8)} {c : Nat} {frame : Bytes}
    (hframe : frameOf X A messages c = some frame) :
    PeerCryptoSession.frameCounter frame = c ∧
    ∃ plaintext messageType encoded, messages[c]? = some (plaintext, messageType) ∧
      B.authenticate X frame = .ok (encoded, plaintext) ∧
      encoded.header.messageType = messageType := by
  obtain ⟨plaintext, messageType, A', hm, hmatch, hcount, hseal⟩ :=
    sealAll_eq_ok (frameOf_eq_some.mp hframe)
  obtain ⟨hc, encoded, hauth, hty⟩ := (hmatch B h).authenticate_sealed hX hseal
  refine ⟨?_, plaintext, messageType, encoded, hm, hauth, hty⟩
  rw [hc, hcount, hzero]
  exact Nat.zero_add c

theorem new_counter_zero {priv : ByteArr 32} {cred cred' : String} {id id' : FrameDeviceId}
    {random : Except String (ByteArr 8)} {s : PeerCryptoSession}
    (h : PeerCryptoSession.new X priv cred cred' id id' random = .ok s) :
    s.sendNonces.counter = 0 := by
  obtain ⟨key, salt, -, -, rfl⟩ := PeerCryptoSession.new_eq_ok.mp h
  rfl

theorem new_window_default {priv : ByteArr 32} {cred cred' : String} {id id' : FrameDeviceId}
    {random : Except String (ByteArr 8)} {s : PeerCryptoSession}
    (h : PeerCryptoSession.new X priv cred cred' id id' random = .ok s) :
    s.receiveWindow.Represents [] := by
  obtain ⟨key, salt, -, -, rfl⟩ := PeerCryptoSession.new_eq_ok.mp h
  exact ReplayWindow.default_represents

-- ============================================================================
-- A history of deliveries
-- ============================================================================

/-- What every delivery keeps: the channel, and a window that stands for the
    counters opened so far. -/
structure Tracked (B : PeerCryptoSession) (st : PeerCryptoSession × List Nat) : Prop where
  channel : PeerCryptoSession.SameChannel st.1 B
  window : st.1.receiveWindow.Represents st.2

theorem Tracked.deliver {B : PeerCryptoSession} {st : PeerCryptoSession × List Nat}
    (h : Tracked B st) (frame : Bytes) : Tracked B (deliver X st frame) := by
  obtain ⟨s, opened⟩ := st
  have hchan := (s.openMessage_sameChannel (X := X) frame).trans h.channel
  by_cases hyes : (∃ r, s.authenticate X frame = .ok r) ∧
      SlidingWindow.Fresh replayWindowBits opened (PeerCryptoSession.frameCounter frame)
  · obtain ⟨⟨⟨encoded, plaintext⟩, hauth⟩, hfresh⟩ := hyes
    obtain ⟨hok, hrep⟩ := PeerCryptoSession.openMessage_of_fresh h.window hauth hfresh
    rcases hres : s.openMessage X frame with ⟨_ | o, s'⟩
    · rw [hres] at hok
      cases hok
    · rw [hres] at hrep hchan
      simp only [Custom.deliver, hres]
      exact ⟨hchan, hrep⟩
  · obtain ⟨error, herr⟩ := PeerCryptoSession.openMessage_of_not_fresh h.window hyes
    simp only [Custom.deliver, herr]
    exact h

theorem Tracked.deliverAll {B : PeerCryptoSession} (hB : B.receiveWindow.Represents [])
    (frames : List Bytes) : Tracked B (deliverAll X B frames) := by
  have hstep : ∀ (frames : List Bytes) (st : PeerCryptoSession × List Nat), Tracked B st →
      Tracked B (frames.foldl (Custom.deliver X) st) := by
    intro frames
    induction frames with
    | nil => exact fun st h => h
    | cons frame frames ih => exact fun st h => ih _ (h.deliver frame)
  exact hstep frames (B, []) ⟨.refl B, hB⟩

/-- What `open_message` does with an authentic frame after a history. -/
theorem Tracked.open_iff {B : PeerCryptoSession} {st : PeerCryptoSession × List Nat}
    (h : Tracked B st) {frame plaintext : Bytes} {encoded : EncodedFrame}
    (hauth : B.authenticate X frame = .ok (encoded, plaintext)) :
    (SlidingWindow.Fresh replayWindowBits st.2 (PeerCryptoSession.frameCounter frame) →
      (st.1.openMessage X frame).1 =
        .ok { messageType := encoded.header.messageType, plaintext }) ∧
    (¬ SlidingWindow.Fresh replayWindowBits st.2 (PeerCryptoSession.frameCounter frame) →
      ∃ error, st.1.openMessage X frame = (.error error, st.1)) := by
  constructor
  · intro hfresh
    exact (PeerCryptoSession.openMessage_of_fresh h.window
      ((h.channel.authenticate_eq frame).trans hauth) hfresh).1
  · intro hstale
    exact PeerCryptoSession.openMessage_of_not_fresh h.window (fun hyes => hstale hyes.2)

-- ============================================================================
-- Any delivery order within one pair of sessions
-- ============================================================================

section Pair

variable {privA privB : ByteArr 32} {idA idB : FrameDeviceId}
  {randomA randomB : Except String (ByteArr 8)} {A B : PeerCryptoSession}

/-- **Channel correctness.**  After any deliveries of frames of `A`, opening the
    frame of the `c`-th seal gives what was sealed if `c` is admissible, and an
    error otherwise. -/
theorem open_sealed_frame (hX : X.Lawful)
    (hA : PeerCryptoSession.new X privA (encodePublicCredential X (X.x25519Public privA))
      (encodePublicCredential X (X.x25519Public privB)) idA idB randomA = .ok A)
    (hB : PeerCryptoSession.new X privB (encodePublicCredential X (X.x25519Public privB))
      (encodePublicCredential X (X.x25519Public privA)) idB idA randomB = .ok B)
    (messages : List (Bytes × UInt8)) (deliveries : List Nat) {c : Nat}
    {plaintext frame : Bytes} {messageType : UInt8}
    (hmessage : messages[c]? = some (plaintext, messageType))
    (hframe : frameOf X A messages c = some frame) :
    let st := deliverAll X B (deliveries.filterMap (frameOf X A messages))
    (Admissible st.2 c → (st.1.openMessage X frame).1 = .ok { messageType, plaintext }) ∧
    (¬ Admissible st.2 c → ∃ error, (st.1.openMessage X frame).1 = .error error) := by
  intro st
  have htracked : Tracked B st := Tracked.deliverAll (new_window_default hB) _
  obtain ⟨hc, pt, ty, encoded, hm, hauth, hty⟩ :=
    (new_matched hX hA hB).authenticate_frameOf hX (new_counter_zero hA) hframe
  obtain ⟨rfl, rfl⟩ := Prod.mk.inj (Option.some.inj (hmessage.symm.trans hm))
  obtain ⟨hopen, hrefuse⟩ := htracked.open_iff hauth
  rw [hc] at hopen hrefuse
  rw [admissible_iff_fresh]
  refine ⟨fun hfresh => ?_, fun hstale => ?_⟩
  · rw [hopen hfresh, hty]
  · obtain ⟨error, herr⟩ := hrefuse hstale
    exact ⟨error, congrArg Prod.fst herr⟩

-- ============================================================================
-- A sender that starts again
-- ============================================================================

/-- Opening frames of a new session in sealing order: all of them are opened
    exactly when the window admits each of their counters to begin with. -/
theorem openAll_eq_sealed_iff (hX : X.Lawful) (hmatch : Matched A B)
    (hzero : A.sendNonces.counter = 0) {st : PeerCryptoSession × List Nat} (hst : Tracked B st)
    (messages : List (Bytes × UInt8)) {delivered : List Nat} (horder : delivered.Pairwise (· < ·))
    (hsealed : ∀ c ∈ delivered, (frameOf X A messages c).isSome) :
    openAll X st.1 (delivered.filterMap (frameOf X A messages)) =
        delivered.filterMap (fun c =>
          messages[c]?.map fun m => .ok { messageType := m.2, plaintext := m.1 }) ↔
      ∀ c ∈ delivered, SlidingWindow.Fresh replayWindowBits st.2 c := by
  induction delivered generalizing st with
  | nil => simp [openAll]
  | cons c delivered ih =>
      obtain ⟨frame, hframe⟩ := Option.isSome_iff_exists.mp (hsealed c List.mem_cons_self)
      obtain ⟨hc, plaintext, messageType, encoded, hm, hauth, hty⟩ :=
        hmatch.authenticate_frameOf hX hzero hframe
      obtain ⟨hlater, hrest⟩ := List.pairwise_cons.mp horder
      have ih' := ih (hst.deliver (X := X) frame) hrest
        (fun d hd => hsealed d (List.mem_cons_of_mem c hd))
      obtain ⟨hopen, hrefuse⟩ := hst.open_iff hauth
      rw [hc] at hopen hrefuse
      simp only [List.filterMap_cons, hframe, hm, Option.map_some, openAll, List.cons.injEq,
        List.forall_mem_cons]
      by_cases hfresh : SlidingWindow.Fresh replayWindowBits st.2 c
      · -- the frame is opened; what follows sees its counter as accepted too
        have hok := hopen hfresh
        have hdel : deliver X st frame = ((st.1.openMessage X frame).2, c :: st.2) := by
          rcases hres : st.1.openMessage X frame with ⟨_ | o, s'⟩
          · rw [hres] at hok
            cases hok
          · simp only [deliver, hres, hc]
        rw [hdel] at ih'
        simp only at ih'
        rw [hok, hty, ih']
        simp only [true_and, hfresh]
        refine forall₂_congr fun d hd => ⟨SlidingWindow.Fresh.of_cons, fun hf => ?_⟩
        have hlt := hlater d hd
        refine ⟨fun hmem => ?_, fun h hmem => ?_⟩
        · rcases List.mem_cons.mp hmem with rfl | hmem
          · exact Nat.lt_irrefl d hlt
          · exact hf.1 hmem
        · rcases List.mem_cons.mp hmem with rfl | hmem
          · omega
          · exact hf.2 h hmem
      · obtain ⟨error, herr⟩ := hrefuse hfresh
        simp [herr, hfresh]

/-- **Sender restart.**  `B` keeps its session, `A` is rebuilt: the frames of the
    new session, delivered in sealing order, are all opened with what was sealed
    exactly when no counter that `B` opened before equals one of theirs or lies
    64 or more above it. -/
theorem restarted_sender_opened_iff (hX : X.Lawful)
    (hA : PeerCryptoSession.new X privA (encodePublicCredential X (X.x25519Public privA))
      (encodePublicCredential X (X.x25519Public privB)) idA idB randomA = .ok A)
    (hB : PeerCryptoSession.new X privB (encodePublicCredential X (X.x25519Public privB))
      (encodePublicCredential X (X.x25519Public privA)) idB idA randomB = .ok B)
    (history : List Bytes) (messages : List (Bytes × UInt8)) {delivered : List Nat}
    (horder : delivered.Pairwise (· < ·))
    (hsealed : ∀ c ∈ delivered, (frameOf X A messages c).isSome) :
    openAll X (deliverAll X B history).1 (delivered.filterMap (frameOf X A messages)) =
        delivered.filterMap (fun c =>
          messages[c]?.map fun m => .ok { messageType := m.2, plaintext := m.1 }) ↔
      ∀ c ∈ delivered, ∀ h ∈ (deliverAll X B history).2, h ≠ c ∧ h < c + 64 := by
  rw [openAll_eq_sealed_iff hX (new_matched hX hA hB) (new_counter_zero hA)
    (Tracked.deliverAll (new_window_default hB) history) messages horder hsealed]
  refine forall₂_congr fun c _ => ?_
  constructor
  · rintro ⟨hnew, hnear⟩ h hmem
    refine ⟨?_, hnear h hmem⟩
    rintro rfl
    exact hnew hmem
  · intro hall
    exact ⟨fun hmem => (hall c hmem).1 rfl, fun h hmem => (hall h hmem).2⟩

end Pair

-- ============================================================================
-- Evaluated sessions
-- ============================================================================

namespace Reference

/-- One end of a reference pair: key `[a; 32]` and id `[a; 16]` against `b`. -/
def side (a b : UInt8) (salt : ByteArr 8) : PeerCryptoSession :=
  PeerCryptoSession.built Externals.reference (.replicate 32 a) (.replicate 32 b)
    (encodePublicCredential Externals.reference (.replicate 32 a))
    (encodePublicCredential Externals.reference (.replicate 32 b))
    (.replicate 16 a) (.replicate 16 b) salt

theorem new_side (a b : UInt8) (salt : ByteArr 8) :
    PeerCryptoSession.new Externals.reference (.replicate 32 a)
      (encodePublicCredential Externals.reference (.replicate 32 a))
      (encodePublicCredential Externals.reference (.replicate 32 b))
      (.replicate 16 a) (.replicate 16 b) (.ok salt) = .ok (side a b salt) :=
  PeerCryptoSession.new_eq_ok.mpr ⟨.replicate 32 b, salt,
    decodePublicCredential_encode _ Externals.reference_lawful _, rfl, rfl⟩

/-- One data message. -/
def messages : List (Bytes × UInt8) := [([69, 0, 0, 84], frameTypeData)]

/-- Four messages, a probe among them. -/
def burst : List (Bytes × UInt8) :=
  [([69, 0, 0, 84], frameTypeData), ([112], frameTypeProbe), ([69, 0, 0, 86], frameTypeData),
    ([69, 0, 0, 87], frameTypeData)]

/-- The other end when the third one, the first one and the third one again have come. -/
def afterBurst : PeerCryptoSession × List Nat :=
  deliverAll Externals.reference (side 2 1 (.replicate 8 6))
    ([2, 0, 2].filterMap (frameOf Externals.reference (side 1 2 (.replicate 8 5)) burst))

theorem afterBurst_opened : afterBurst.2 = [0, 2] := by
  decide +kernel

end Reference

open Reference in
/-- Of four messages the third arrives, then the first, then the third again, and the
    second is lost: the fourth one is opened, and the first one is refused now. -/
theorem open_sealed_frame_reference :
    ∃ first fourth,
      frameOf Externals.reference (side 1 2 (.replicate 8 5)) burst 0 = some first ∧
      frameOf Externals.reference (side 1 2 (.replicate 8 5)) burst 3 = some fourth ∧
      (afterBurst.1.openMessage Externals.reference fourth).1 =
        .ok { messageType := frameTypeData, plaintext := [69, 0, 0, 87] } ∧
      ∃ error, (afterBurst.1.openMessage Externals.reference first).1 = .error error := by
  obtain ⟨first, hfirst⟩ := Option.isSome_iff_exists.mp (by decide +kernel :
    (frameOf Externals.reference (side 1 2 (.replicate 8 5)) burst 0).isSome = true)
  obtain ⟨fourth, hfourth⟩ := Option.isSome_iff_exists.mp (by decide +kernel :
    (frameOf Externals.reference (side 1 2 (.replicate 8 5)) burst 3).isSome = true)
  have hrefused := (open_sealed_frame Externals.reference_lawful (new_side 1 2 _)
    (new_side 2 1 (.replicate 8 6)) burst [2, 0, 2] rfl hfirst).2
  have hadmitted := (open_sealed_frame Externals.reference_lawful (new_side 1 2 _)
    (new_side 2 1 (.replicate 8 6)) burst [2, 0, 2] rfl hfourth).1
  refine ⟨first, fourth, hfirst, hfourth, hadmitted ?_, hrefused ?_⟩
  · show Admissible afterBurst.2 3
    rw [afterBurst_opened]
    exact ⟨by decide, Or.inr ⟨2, rfl, by decide⟩⟩
  · show ¬ Admissible afterBurst.2 0
    rw [afterBurst_opened]
    exact fun h => h.1 List.mem_cons_self

open Reference in
/-- A receiver that opened the frames 0 and 2 of one session of its peer, and then gets the
    frames 1 and 3 of the next one. -/
theorem restarted_sender_opened_reference :
    afterBurst.2 = [0, 2] ∧
    openAll Externals.reference afterBurst.1
        ([1, 3].filterMap (frameOf Externals.reference (side 1 2 (.replicate 8 7)) burst)) =
      [.ok { messageType := frameTypeProbe, plaintext := [112] },
        .ok { messageType := frameTypeData, plaintext := [69, 0, 0, 87] }] := by
  refine ⟨afterBurst_opened, (restarted_sender_opened_iff Externals.reference_lawful (new_side 1 2 _)
    (new_side 2 1 (.replicate 8 6)) _ burst (by decide) (by decide +kernel)).mpr ?_⟩
  show ∀ c ∈ [1, 3], ∀ h ∈ afterBurst.2, h ≠ c ∧ h < c + 64
  rw [afterBurst_opened]
  decide

open Reference in
/-- A receiver that opened frame 0 of one session of its peer refuses frame 0 of
    the next one as a replay, although its salt and its bytes are new. -/
theorem restarted_sender_refused :
    PeerCryptoSession.new Externals.reference (.replicate 32 1)
        (encodePublicCredential Externals.reference (.replicate 32 1))
        (encodePublicCredential Externals.reference (.replicate 32 2))
        (.replicate 16 1) (.replicate 16 2) (.ok (.replicate 8 7)) =
          .ok (side 1 2 (.replicate 8 7)) ∧
    ∃ old fresh,
      frameOf Externals.reference (side 1 2 (.replicate 8 5)) messages 0 = some old ∧
      frameOf Externals.reference (side 1 2 (.replicate 8 7)) messages 0 = some fresh ∧
      old ≠ fresh ∧
      openAll Externals.reference (side 2 1 (.replicate 8 6)) [old, fresh] =
        [.ok { messageType := frameTypeData, plaintext := [69, 0, 0, 84] },
          commandFailed "replayed frame nonce"] := by
  refine ⟨new_side 1 2 _, (frameOf Externals.reference (side 1 2 (.replicate 8 5)) messages 0).getD [],
    (frameOf Externals.reference (side 1 2 (.replicate 8 7)) messages 0).getD [], ?_⟩
  decide +kernel

end TfScale.Custom
