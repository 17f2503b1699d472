/-
  TfScale.Custom.Crypto

  Peer sessions (`crypto.rs`): key agreement from static X25519 keys, key and
  direction-prefix derivation, `seal_message` and `open_message`.

  A session's key and both direction prefixes depend only on the two key pairs
  and the two frame ids; what changes while it is used is the send counter and
  the receive window.  Functions that take `&mut self` return the new session
  beside their result, because a failing call may have used up a nonce.
-/

import TfScale.Custom.Nonce
import TfScale.Custom.Externals

namespace TfScale.Custom

/-- `PUBLIC_CREDENTIAL_PREFIX` -/
def publicCredentialPrefix : String := "tfpk1_"

def sessionSalt : Bytes := strBytes "tf-scale/custom/v1/session"
def sessionInfoPrefix : Bytes := strBytes "tf-scale/custom/v1/aead-key"
def directionInfoPrefix : Bytes := strBytes "tf-scale/custom/v1/direction"

variable (X : Externals)

-- ============================================================================
-- Keys and credentials
-- ============================================================================

/-- `decode_base64_key` -/
def decodeBase64Key (value : String) : Result Bytes :=
  match X.base64Decode value with
  | .ok bytes => .ok bytes
  | .error message => commandFailed message

/-- `encode_key` -/
def encodeKey (bytes : ByteArr 32) : String := X.base64Encode bytes.val

/-- `encode_public_credential` -/
def encodePublicCredential (bytes : ByteArr 32) : String :=
  publicCredentialPrefix ++ encodeKey X bytes

/-- `decode_key` -/
def decodeKey (value : String) : Result (ByteArr 32) := do
  let bytes ← decodeBase64Key X value
  if h : bytes.length = 32 then .ok ⟨bytes, h⟩
  else commandFailed ("expected 32-byte key, got " ++ toString bytes.length)

/-- `decode_public_credential` -/
def decodePublicCredential (value : String) : Result (ByteArr 32) :=
  match stripPrefix publicCredentialPrefix value with
  | none => commandFailed "unsupported peer credential prefix"
  | some encoded => do
      let bytes ← decodeBase64Key X encoded
      if h : bytes.length = 32 then .ok ⟨bytes, h⟩
      else commandFailed ("peer credential has invalid key length: " ++ toString bytes.length)

/-- `shared_secret` -/
def sharedSecret (localPrivateKey : ByteArr 32) (peerPublicCredential : String) :
    Result (ByteArr 32) := do
  let peerPublic ← decodePublicCredential X peerPublicCredential
  return X.diffieHellman localPrivateKey peerPublic

/-- `append_sorted_pair`, as the bytes it appends. -/
def sortedPair (left right : Bytes) : Bytes :=
  if left ≤ right then left ++ right else right ++ left

/-- `hkdf_expand`: HKDF-SHA256 refuses more than 255 blocks of output. -/
def hkdfExpand (n : Nat) (secret : ByteArr 32) (salt info : Bytes) : Result (ByteArr n) :=
  if n > 255 * 32 then commandFailed "invalid number of blocks, too large output"
  else .ok (X.hkdf salt secret.val info n)

/-- The HKDF info of a session key. -/
def sessionInfo (localPublicCredential peerPublicCredential : String)
    (localId peerId : FrameDeviceId) : Bytes :=
  sessionInfoPrefix ++ sortedPair localId.val peerId.val ++
    sortedPair (strBytes localPublicCredential) (strBytes peerPublicCredential)

/-- `derive_session_key` -/
def deriveSessionKey (secret : ByteArr 32) (localPublicCredential peerPublicCredential : String)
    (localId peerId : FrameDeviceId) : Result (ByteArr 32) :=
  hkdfExpand X 32 secret sessionSalt
    (sessionInfo localPublicCredential peerPublicCredential localId peerId)

/-- The HKDF info of a direction prefix. -/
def directionInfo (source destination : FrameDeviceId) : Bytes :=
  directionInfoPrefix ++ source.val ++ destination.val

/-- `derive_direction_prefix` -/
def deriveDirectionPrefix (secret : ByteArr 32) (source destination : FrameDeviceId) :
    Result (ByteArr 8) :=
  hkdfExpand X 8 secret sessionSalt (directionInfo source destination)

/-- The pair in sorted order does not depend on which end writes it. -/
theorem sortedPair_comm (left right : Bytes) : sortedPair left right = sortedPair right left := by
  unfold sortedPair
  by_cases hlr : left ≤ right
  · by_cases hrl : right ≤ left
    · obtain rfl := List.le_antisymm hlr hrl
      rfl
    · rw [if_pos hlr, if_neg hrl]
  · have hrl : right ≤ left := (List.le_total left right).resolve_left hlr
    rw [if_neg hlr, if_pos hrl]

theorem sessionInfo_comm (cred cred' : String) (id id' : FrameDeviceId) :
    sessionInfo cred cred' id id' = sessionInfo cred' cred id' id := by
  rw [sessionInfo, sessionInfo, sortedPair_comm id.val, sortedPair_comm (strBytes cred)]

theorem stripPrefix_append (front s : String) : stripPrefix front (front ++ s) = some s := by
  have hdrop : (front.toList ++ s.toList).dropPrefix? front.toList = some s.toList :=
    List.dropPrefix?_eq_some_iff.mpr ⟨front.toList, rfl, beq_self_eq_true _⟩
  rw [stripPrefix, String.toList_append, hdrop, Option.map_some, String.ofList_toList]

/-- A stored key decodes to itself. -/
theorem decodeKey_encode (hX : X.Lawful) (key : ByteArr 32) : decodeKey X (encodeKey X key) = .ok key := by
  rw [decodeKey, encodeKey]
  simp [decodeBase64Key, hX.base64_round_trip, bind, Except.bind]

/-- A canonical credential decodes to its key. -/
theorem decodePublicCredential_encode (hX : X.Lawful) (key : ByteArr 32) :
    decodePublicCredential X (encodePublicCredential X key) = .ok key := by
  rw [decodePublicCredential, encodePublicCredential, stripPrefix_append]
  simp [encodeKey, decodeBase64Key, hX.base64_round_trip, bind, Except.bind]

-- ============================================================================
-- Sessions
-- ============================================================================

structure PeerCryptoSession where
  localId : FrameDeviceId
  peerId : FrameDeviceId
  /-- The key of the session's `XChaCha20Poly1305` instance. -/
  cipher : ByteArr 32
  sendNonces : SendNonceState
  receiveWindow : ReplayWindow
  receiveDirectionPrefix : ByteArr 8
deriving DecidableEq

structure OpenFrame where
  messageType : UInt8
  plaintext : Bytes
deriving DecidableEq

namespace PeerCryptoSession

/-- `PeerCryptoSession::new`; `random` is the salt that `getrandom::fill` produced. -/
def new (localPrivateKey : ByteArr 32) (localPublicCredential peerPublicCredential : String)
    (localId peerId : FrameDeviceId) (random : Except String (ByteArr 8)) :
    Result PeerCryptoSession := do
  let secret ← sharedSecret X localPrivateKey peerPublicCredential
  let sessionKey ←
    deriveSessionKey X secret localPublicCredential peerPublicCredential localId peerId
  let sendDirectionPrefix ← deriveDirectionPrefix X secret localId peerId
  let receiveDirectionPrefix ← deriveDirectionPrefix X secret peerId localId
  let sendNonces ← SendNonceState.new sendDirectionPrefix random
  return {
    localId
    peerId
    cipher := sessionKey
    sendNonces
    receiveWindow := ReplayWindow.default
    receiveDirectionPrefix }

/-- `PeerCryptoSession::seal_message` -/
def sealMessage (s : PeerCryptoSession) (plaintext : Bytes) (messageType : UInt8) :
    Result Bytes × PeerCryptoSession :=
  match s.sendNonces.next with
  | (.error error, sendNonces) => (.error error, { s with sendNonces })
  | (.ok nonce, sendNonces) =>
      -- from here on the nonce is used up, whether or not a frame comes out
      let header := FrameHeader.new s.localId s.peerId nonce messageType
      let frame := do
        let associatedData ← header.encode
        match X.aeadEncrypt s.cipher nonce associatedData.val plaintext with
        | none => commandFailed "packet encryption failed"
        | some ciphertext => EncodedFrame.encode { header, ciphertext }
      (frame, { s with sendNonces })

/-- `PeerCryptoSession::seal` -/
def «seal» (s : PeerCryptoSession) (plaintextPacket : Bytes) : Result Bytes × PeerCryptoSession :=
  s.sealMessage X plaintextPacket frameTypeData

/-- The checks of `open_message` before the receive window: the frame decodes,
    it is addressed to this session, and its ciphertext is authentic. -/
def authenticate (s : PeerCryptoSession) (frame : Bytes) : Result (EncodedFrame × Bytes) := do
  let encoded ← EncodedFrame.decode frame
  if encoded.header.source ≠ s.peerId then
    commandFailed "frame source does not match peer session"
  else if encoded.header.destination ≠ s.localId then
    commandFailed "frame destination does not match local session"
  else if encoded.header.nonce.val.take 8 ≠ s.receiveDirectionPrefix.val then
    commandFailed "frame nonce direction does not match peer session"
  else do
    let associatedData ← encoded.header.encode
    match X.aeadDecrypt s.cipher encoded.header.nonce associatedData.val encoded.ciphertext with
    | none => commandFailed "packet authentication failed"
    | some plaintext => return (encoded, plaintext)

/-- `PeerCryptoSession::open_message` -/
def openMessage (s : PeerCryptoSession) (frame : Bytes) : Result OpenFrame × PeerCryptoSession :=
  match s.authenticate X frame with
  | .error error => (.error error, s)
  | .ok (encoded, plaintext) =>
      match s.receiveWindow.accept encoded.header.nonce with
      | (.error error, receiveWindow) => (.error error, { s with receiveWindow })
      | (.ok _, receiveWindow) =>
          (.ok { messageType := encoded.header.messageType, plaintext },
            { s with receiveWindow })

/-- `PeerCryptoSession::open` -/
def «open» (s : PeerCryptoSession) (frame : Bytes) : Result Bytes × PeerCryptoSession :=
  match s.openMessage X frame with
  | (.ok opened, s) => (.ok opened.plaintext, s)
  | (.error error, s) => (.error error, s)

-- ============================================================================
-- What each operation can do
-- ============================================================================

variable {X}

/-- The session that `new` builds from a decoded peer key and a drawn salt. -/
def built (X : Externals) (localPrivateKey peerKey : ByteArr 32)
    (localPublicCredential peerPublicCredential : String) (localId peerId : FrameDeviceId)
    (salt : ByteArr 8) : PeerCryptoSession :=
  let secret := X.diffieHellman localPrivateKey peerKey
  { localId
    peerId
    cipher := X.hkdf sessionSalt secret.val
      (sessionInfo localPublicCredential peerPublicCredential localId peerId) 32
    sendNonces := SendNonceState.withSalt
      (X.hkdf sessionSalt secret.val (directionInfo localId peerId) 8) salt
    receiveWindow := ReplayWindow.default
    receiveDirectionPrefix := X.hkdf sessionSalt secret.val (directionInfo peerId localId) 8 }

theorem new_eq_ok {localPrivateKey : ByteArr 32} {cred peerCred : String}
    {localId peerId : FrameDeviceId} {random : Except String (ByteArr 8)} {s : PeerCryptoSession} :
    new X localPrivateKey cred peerCred localId peerId random = .ok s ↔
      ∃ peerKey salt, decodePublicCredential X peerCred = .ok peerKey ∧ random = .ok salt ∧
        s = built X localPrivateKey peerKey cred peerCred localId peerId salt := by
  unfold new sharedSecret deriveSessionKey deriveDirectionPrefix hkdfExpand SendNonceState.new
  cases hkey : decodePublicCredential X peerCred with
  | error e => simp [bind, Except.bind]
  | ok peerKey =>
      cases random with
      | error message => simp [bind, Except.bind, pure, Except.pure, commandFailed]
      | ok salt => simp [bind, Except.bind, pure, Except.pure, built, eq_comm]

/-- `seal_message` moves the send counter, unless it is at its limit, and
    touches nothing else. -/
theorem sealMessage_snd (s : PeerCryptoSession) (plaintext : Bytes) (messageType : UInt8) :
    (s.sealMessage X plaintext messageType).2 =
      { s with sendNonces := s.sendNonces.next.2 } := by
  unfold sealMessage
  cases s.sendNonces.next with
  | mk r nonces => cases r <;> rfl

/-- A sealed frame: the header with the session's next nonce, then the
    ciphertext under that nonce with the header as associated data. -/
theorem sealMessage_eq_ok {s : PeerCryptoSession} {plaintext : Bytes} {messageType : UInt8}
    {frame : Bytes} :
    (s.sealMessage X plaintext messageType).1 = .ok frame ↔
      ∃ nonce ciphertext, s.sendNonces.next.1 = .ok nonce ∧
        supportedType messageType = true ∧
        X.aeadEncrypt s.cipher nonce (FrameHeader.new s.localId s.peerId nonce messageType).bytes
          plaintext = some ciphertext ∧
        frame = (FrameHeader.new s.localId s.peerId nonce messageType).bytes ++ ciphertext := by
  unfold sealMessage
  rcases hnext : s.sendNonces.next with ⟨_ | nonce, nonces⟩
  · simp
  simp only [Result.bind_eq_ok, FrameHeader.encode_eq_ok]
  constructor
  · rintro ⟨ad, ⟨hv, had⟩, hrest⟩
    rw [had] at hrest
    cases hct : X.aeadEncrypt s.cipher nonce
        (FrameHeader.new s.localId s.peerId nonce messageType).bytes plaintext with
    | none =>
        rw [hct] at hrest
        cases hrest
    | some ciphertext =>
        rw [hct] at hrest
        exact ⟨nonce, ciphertext, rfl, hv.2.1, hct, (EncodedFrame.encode_eq_ok.mp hrest).2⟩
  · rintro ⟨nonce', ciphertext, heq, hty, hct, rfl⟩
    obtain rfl := Except.ok.inj heq
    have hv : (FrameHeader.new s.localId s.peerId nonce messageType).Valid :=
      FrameHeader.new_valid hty
    refine ⟨⟨_, FrameHeader.bytes_length _⟩, ⟨hv, rfl⟩, ?_⟩
    simp only [hct]
    exact EncodedFrame.encode_eq_ok.mpr ⟨hv, rfl⟩

/-- Two sessions that accept the same frames as authentic. -/
structure SameChannel (s t : PeerCryptoSession) : Prop where
  localId : s.localId = t.localId
  peerId : s.peerId = t.peerId
  cipher : s.cipher = t.cipher
  receiveDirectionPrefix : s.receiveDirectionPrefix = t.receiveDirectionPrefix

theorem SameChannel.refl (s : PeerCryptoSession) : SameChannel s s := ⟨rfl, rfl, rfl, rfl⟩

theorem SameChannel.trans {s t u : PeerCryptoSession} (h : SameChannel s t)
    (h' : SameChannel t u) : SameChannel s u :=
  ⟨h.1.trans h'.1, h.2.trans h'.2, h.3.trans h'.3, h.4.trans h'.4⟩

theorem SameChannel.authenticate_eq {s t : PeerCryptoSession} (h : SameChannel s t)
    (frame : Bytes) : s.authenticate X frame = t.authenticate X frame := by
  simp only [authenticate, h.localId, h.peerId, h.cipher, h.receiveDirectionPrefix]

/-- What `open_message` checks before it consults the window. -/
theorem authenticate_iff {s : PeerCryptoSession} {frame : Bytes} {encoded : EncodedFrame}
    {plaintext : Bytes} :
    s.authenticate X frame = .ok (encoded, plaintext) ↔
      EncodedFrame.decode frame = .ok encoded ∧ encoded.header.source = s.peerId ∧
        encoded.header.destination = s.localId ∧
        encoded.header.nonce.val.take 8 = s.receiveDirectionPrefix.val ∧
        ∃ associatedData, encoded.header.encode = .ok associatedData ∧
          X.aeadDecrypt s.cipher encoded.header.nonce associatedData.val encoded.ciphertext =
            some plaintext := by
  refine ⟨fun h => ?_, fun ⟨hdecode, hsource, hdestination, hdirection, ad, hencode, hdecrypt⟩ => ?_⟩
  · obtain ⟨encoded', hdecode, hrest⟩ := Result.bind_eq_ok.mp h
    split_ifs at hrest with hsource hdestination hdirection
    · cases hrest
    · cases hrest
    · cases hrest
    · obtain ⟨ad, hencode, hrest⟩ := Result.bind_eq_ok.mp hrest
      split at hrest
      · cases hrest
      · rename_i plaintext' hdecrypt
        obtain ⟨rfl, rfl⟩ := Prod.mk.inj (Except.ok.inj hrest)
        exact ⟨hdecode, not_not.mp hsource, not_not.mp hdestination, not_not.mp hdirection, ad, hencode,
          hdecrypt⟩
  · refine Result.bind_eq_ok.mpr ⟨encoded, hdecode, ?_⟩
    rw [if_neg (not_not.mpr hsource), if_neg (not_not.mpr hdestination), if_neg (not_not.mpr hdirection)]
    refine Result.bind_eq_ok.mpr ⟨ad, hencode, ?_⟩
    simp only [hdecrypt]
    rfl

/-- An authentic frame decodes to the encoded frame it is reported with. -/
theorem authenticate_eq_ok {s : PeerCryptoSession} {frame : Bytes} {encoded : EncodedFrame}
    {plaintext : Bytes} (h : s.authenticate X frame = .ok (encoded, plaintext)) :
    EncodedFrame.decode frame = .ok encoded := (authenticate_iff.mp h).1

/-- A frame is opened when it is authentic and the window takes its counter. -/
theorem openMessage_ok_iff {s : PeerCryptoSession} {frame : Bytes} {opened : OpenFrame} :
    (s.openMessage X frame).1 = .ok opened ↔
      ∃ encoded, s.authenticate X frame = .ok (encoded, opened.plaintext) ∧
        (s.receiveWindow.accept encoded.header.nonce).1 = .ok () ∧
        opened.messageType = encoded.header.messageType := by
  unfold openMessage
  cases hauth : s.authenticate X frame with
  | error e => simp
  | ok r =>
      obtain ⟨encoded, plaintext⟩ := r
      simp only
      rcases hacc : s.receiveWindow.accept encoded.header.nonce with ⟨_ | _, w⟩
      · refine ⟨fun h => (by cases h), fun ⟨encoded', hsame, haccept, _⟩ => ?_⟩
        obtain ⟨rfl, -⟩ := Prod.mk.inj (Except.ok.inj hsame)
        rw [hacc] at haccept
        cases haccept
      · refine ⟨fun h => ?_, fun ⟨encoded', hsame, haccept, htype⟩ => ?_⟩
        · obtain rfl := Except.ok.inj h
          exact ⟨encoded, rfl, by rw [hacc], rfl⟩
        · obtain ⟨rfl, rfl⟩ := Prod.mk.inj (Except.ok.inj hsame)
          show Except.ok _ = Except.ok opened
          rw [← htype]

/-- A frame that is refused leaves the session as it was. -/
theorem openMessage_error {s : PeerCryptoSession} {frame : Bytes} {error : BackendError}
    (h : (s.openMessage X frame).1 = .error error) : (s.openMessage X frame).2 = s := by
  unfold openMessage at h ⊢
  cases hauth : s.authenticate X frame with
  | error e => rfl
  | ok r =>
      obtain ⟨encoded, plaintext⟩ := r
      simp only [hauth] at h ⊢
      rcases hacc : s.receiveWindow.accept encoded.header.nonce with ⟨e | _, w⟩
      · have hwindow : (s.receiveWindow.accept encoded.header.nonce).2 = s.receiveWindow :=
          ReplayWindow.accept_error (congrArg Prod.fst hacc)
        rw [hacc] at hwindow
        simp only
        rw [show w = s.receiveWindow from hwindow]
      · simp only [hacc] at h
        cases h

/-- `open_message` writes to the receive window only. -/
theorem openMessage_snd (s : PeerCryptoSession) (frame : Bytes) :
    ∃ receiveWindow, (s.openMessage X frame).2 = { s with receiveWindow } := by
  unfold openMessage
  cases s.authenticate X frame with
  | error e => exact ⟨s.receiveWindow, rfl⟩
  | ok r =>
      obtain ⟨encoded, plaintext⟩ := r
      simp only
      rcases s.receiveWindow.accept encoded.header.nonce with ⟨_ | _, w⟩
      · exact ⟨w, rfl⟩
      · exact ⟨w, rfl⟩

theorem openMessage_sameChannel (s : PeerCryptoSession) (frame : Bytes) :
    SameChannel (s.openMessage X frame).2 s := by
  obtain ⟨w, hw⟩ := s.openMessage_snd (X := X) frame
  rw [hw]
  exact ⟨rfl, rfl, rfl, rfl⟩

/-- The counter in a frame's nonce bytes. -/
def frameCounter (frame : Bytes) : Nat :=
  match EncodedFrame.decode frame with
  | .ok encoded => (nonceCounter encoded.header.nonce).toNat
  | .error _ => 0

theorem frameCounter_of_decode {frame : Bytes} {encoded : EncodedFrame}
    (h : EncodedFrame.decode frame = .ok encoded) :
    frameCounter frame = (nonceCounter encoded.header.nonce).toNat := by
  simp only [frameCounter, h]

/-- A frame that is authentic and whose counter is fresh is opened, and its
    counter is recorded. -/
theorem openMessage_of_fresh {s : PeerCryptoSession} {accepted : List Nat} {frame : Bytes}
    {encoded : EncodedFrame} {plaintext : Bytes} (hs : s.receiveWindow.Represents accepted)
    (hauth : s.authenticate X frame = .ok (encoded, plaintext))
    (hfresh : SlidingWindow.Fresh replayWindowBits accepted (frameCounter frame)) :
    (s.openMessage X frame).1 = .ok { messageType := encoded.header.messageType, plaintext } ∧
      (s.openMessage X frame).2.receiveWindow.Represents (frameCounter frame :: accepted) := by
  rw [frameCounter_of_decode (authenticate_eq_ok hauth)] at hfresh ⊢
  obtain ⟨hok, hrep⟩ := ReplayWindow.accept_of_fresh hs hfresh
  unfold openMessage
  simp only [hauth]
  rcases hacc : s.receiveWindow.accept encoded.header.nonce with ⟨_ | _, w⟩
  · rw [hacc] at hok
    cases hok
  · rw [hacc] at hrep
    exact ⟨rfl, hrep⟩

/-- A frame that is not authentic, or whose counter is not fresh, is refused and
    leaves the session as it was. -/
theorem openMessage_of_not_fresh {s : PeerCryptoSession} {accepted : List Nat} {frame : Bytes}
    (hs : s.receiveWindow.Represents accepted)
    (h : ¬ ((∃ r, s.authenticate X frame = .ok r) ∧
      SlidingWindow.Fresh replayWindowBits accepted (frameCounter frame))) :
    ∃ error, s.openMessage X frame = (.error error, s) := by
  unfold openMessage
  cases hauth : s.authenticate X frame with
  | error e => exact ⟨e, rfl⟩
  | ok r =>
      obtain ⟨encoded, plaintext⟩ := r
      rw [frameCounter_of_decode (authenticate_eq_ok hauth)] at h
      have hstale : ¬ SlidingWindow.Fresh replayWindowBits accepted
          (nonceCounter encoded.header.nonce).toNat := fun hf => h ⟨⟨_, hauth⟩, hf⟩
      obtain ⟨error, herr⟩ := ReplayWindow.accept_of_not_fresh hs hstale
      exact ⟨error, by simp only [herr]⟩

end PeerCryptoSession

end TfScale.Custom
