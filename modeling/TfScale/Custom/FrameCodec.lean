/-
  TfScale.Custom.FrameCodec

  The frame codec is a bijection between the frames that `encode` accepts and
  the byte strings that `decode` accepts.

  `encode` and `decode` list the fields of a header separately, with offsets of
  their own.  That they agree is one equation: the first 60 bytes of a string
  are its four leading bytes followed by the three slices that `decode` copies.
  With it a decoded header is the header whose bytes are those 60, so that
  encoding it again, which is how `open_message` obtains its associated data,
  gives back every header byte that was received.
-/

import TfScale.Custom.Crypto

namespace TfScale.Custom

theorem supportedType_iff {messageType : UInt8} :
    supportedType messageType = true ↔
      messageType = 1 ∨ messageType = 2 ∨ messageType = 3 := by
  simp only [supportedType, frameTypeData, frameTypeProbe, frameTypeProbeResponse,
    Bool.or_eq_true, beq_iff_eq, or_assoc]

namespace FrameHeader

/-- The checks of `decode`: enough bytes, and the four leading ones as they
    have to be. -/
def Accepted (input : Bytes) : Prop :=
  headerLen ≤ input.length ∧ input.getD 0 0 = frameVersion ∧
    supportedType (input.getD 1 0) = true ∧ input.getD 2 0 = 0 ∧ input.getD 3 0 = 0

/-- The four leading bytes and the three slices of `decode` are the first
    60 bytes of its input. -/
theorem take_headerLen {input : Bytes} (hlen : headerLen ≤ input.length) :
    input.take headerLen =
      [input.getD 0 0, input.getD 1 0, input.getD 2 0, input.getD 3 0] ++
        ((input.drop 4).take 16 ++ ((input.drop 20).take 16 ++ (input.drop 36).take 24)) := by
  have hfront : input.take 4 =
      [input.getD 0 0, input.getD 1 0, input.getD 2 0, input.getD 3 0] := by
    match input, hlen with
    | _ :: _ :: _ :: _ :: _, _ => rfl
  calc input.take headerLen
      = input.take 4 ++ (input.drop 4).take 56 := List.take_add (i := 4) (j := 56)
    _ = input.take 4 ++ ((input.drop 4).take 16 ++ (input.drop 20).take 40) := by
        rw [show 56 = 16 + 40 from rfl, List.take_add, List.drop_drop]
    _ = input.take 4 ++ ((input.drop 4).take 16 ++
          ((input.drop 20).take 16 ++ (input.drop 36).take 24)) := by
        rw [show 40 = 16 + 24 from rfl, List.take_add, List.drop_drop]
    _ = _ := by rw [hfront]

/-- `decode` succeeds exactly on the input that passes its checks. -/
theorem decode_isOk_iff {input : Bytes} : (∃ h, decode input = .ok h) ↔ Accepted input := by
  unfold decode Accepted commandFailed
  split_ifs with hlen hver hty hfl hres
  · exact iff_of_false exists_false
      fun haccepted => absurd haccepted.1 (Nat.not_le.mpr hlen)
  · exact iff_of_false exists_false fun haccepted => hver haccepted.2.1
  · have hty' : supportedType (input.getD 1 0) = false := by simpa using hty
    exact iff_of_false exists_false
      fun haccepted => Bool.noConfusion (hty'.symm.trans haccepted.2.2.1)
  · exact iff_of_false exists_false fun haccepted => hfl haccepted.2.2.2.1
  · exact iff_of_false exists_false fun haccepted => hres haccepted.2.2.2.2
  · have hty' : supportedType (input.getD 1 0) = true := by simpa using hty
    exact iff_of_true ⟨_, rfl⟩
      ⟨Nat.not_lt.mp hlen, not_not.mp hver, hty', not_not.mp hfl, not_not.mp hres⟩

/-- A decoded header is valid, and its bytes are the first 60 of the input. -/
theorem decode_eq_ok {input : Bytes} {h : FrameHeader} :
    decode input = .ok h ↔ h.Valid ∧ h.bytes = input.take headerLen := by
  constructor
  · intro hdec
    obtain ⟨hlen, hver, hty, hfl, hres⟩ := decode_isOk_iff.mp ⟨h, hdec⟩
    unfold decode at hdec
    rw [dif_neg (Nat.not_lt.mpr hlen), if_neg (not_not_intro hver), hty, if_neg (by decide),
      if_neg (not_not_intro hfl), if_neg (not_not_intro hres)] at hdec
    obtain rfl := Except.ok.inj hdec
    refine ⟨⟨hver, hty, hfl⟩, ?_⟩
    rw [take_headerLen hlen, hres]
    rfl
  · rintro ⟨hv, hbytes⟩
    rw [← List.take_append_drop headerLen input, ← hbytes]
    exact decode_bytes_append hv _

end FrameHeader

namespace EncodedFrame

/-- A decoded frame is the header of the first 60 bytes and the rest. -/
theorem decode_eq_ok {input : Bytes} {f : EncodedFrame} :
    decode input = .ok f ↔
      FrameHeader.decode input = .ok f.header ∧ f.ciphertext = input.drop headerLen := by
  unfold decode
  cases hh : FrameHeader.decode input with
  | error e => simp [bind, Except.bind]
  | ok header =>
      simp only [bind, Except.bind, pure, Except.pure, Except.ok.injEq]
      constructor
      · rintro rfl
        exact ⟨rfl, rfl⟩
      · rintro ⟨rfl, hrest⟩
        rw [← hrest]

theorem decode_isOk_iff {input : Bytes} :
    (∃ f, decode input = .ok f) ↔ FrameHeader.Accepted input := by
  rw [← FrameHeader.decode_isOk_iff]
  constructor
  · rintro ⟨f, hf⟩
    exact ⟨f.header, (decode_eq_ok.mp hf).1⟩
  · rintro ⟨header, hh⟩
    exact ⟨{ header, ciphertext := input.drop headerLen }, decode_eq_ok.mpr ⟨hh, rfl⟩⟩

/-- Encoding the header of a decoded frame gives back the header bytes received. -/
theorem encode_header_of_decode {input : Bytes} {f : EncodedFrame} (h : decode input = .ok f) :
    ∃ header, f.header.encode = .ok header ∧ header.val = input.take headerLen := by
  obtain ⟨hv, hbytes⟩ := FrameHeader.decode_eq_ok.mp (decode_eq_ok.mp h).1
  exact ⟨_, FrameHeader.encode_of_valid hv, hbytes⟩

/-- Encoding a decoded frame gives back the bytes it was decoded from. -/
theorem encode_decode {input : Bytes} {f : EncodedFrame} (h : decode input = .ok f) :
    f.encode = .ok input := by
  obtain ⟨hheader, hrest⟩ := decode_eq_ok.mp h
  obtain ⟨hv, hbytes⟩ := FrameHeader.decode_eq_ok.mp hheader
  have hwhole : input = f.header.bytes ++ f.ciphertext := by
    rw [hbytes, hrest, List.take_append_drop]
  exact encode_eq_ok.mpr ⟨hv, hwhole⟩

theorem encode_isOk_iff {f : EncodedFrame} : (∃ bs, f.encode = .ok bs) ↔ f.header.Valid := by
  constructor
  · rintro ⟨bs, hbs⟩
    exact (encode_eq_ok.mp hbs).1
  · intro hv
    exact ⟨_, encode_eq_ok.mpr ⟨hv, rfl⟩⟩

end EncodedFrame

namespace PeerCryptoSession

variable {X : Externals}

/-- What `open_message` decrypts is authenticated together with the header bytes
    as they were received. -/
theorem openMessage_associatedData {s : PeerCryptoSession} {frame : Bytes} {opened : OpenFrame}
    (h : (s.openMessage X frame).1 = .ok opened) :
    ∃ encoded, EncodedFrame.decode frame = .ok encoded ∧
      X.aeadDecrypt s.cipher encoded.header.nonce (frame.take headerLen)
        (frame.drop headerLen) = some opened.plaintext := by
  obtain ⟨encoded, hauth, -, -⟩ := openMessage_ok_iff.mp h
  obtain ⟨hdecode, -, -, -, ad, had, hdecrypt⟩ := authenticate_iff.mp hauth
  obtain ⟨header, hheader, hbytes⟩ := EncodedFrame.encode_header_of_decode hdecode
  obtain rfl := Except.ok.inj (had.symm.trans hheader)
  rw [hbytes, (EncodedFrame.decode_eq_ok.mp hdecode).2] at hdecrypt
  exact ⟨encoded, hdecode, hdecrypt⟩

end PeerCryptoSession

-- ============================================================================
-- The codec as a whole
-- ============================================================================

/-- The codec as a bijection: which byte strings decode, that decoding and
    encoding undo each other in both directions, which frames encode, and that
    the associated data of an opened frame are its received header bytes. -/
theorem frame_codec_bijection (X : Externals) :
    (∀ b : Bytes, (∃ f, EncodedFrame.decode b = .ok f) ↔
      60 ≤ b.length ∧ b[0]? = some 1 ∧
        (b[1]? = some 1 ∨ b[1]? = some 2 ∨ b[1]? = some 3) ∧
        b[2]? = some 0 ∧ b[3]? = some 0) ∧
    (∀ (b : Bytes) (f : EncodedFrame), EncodedFrame.decode b = .ok f →
      f.encode = .ok b ∧ ∃ header, f.header.encode = .ok header ∧ header.val = b.take 60) ∧
    (∀ (f : EncodedFrame) (b : Bytes), f.encode = .ok b → EncodedFrame.decode b = .ok f) ∧
    (∀ f : EncodedFrame, (∃ b, f.encode = .ok b) ↔
      f.header.version = 1 ∧
        (f.header.messageType = 1 ∨ f.header.messageType = 2 ∨ f.header.messageType = 3) ∧
        f.header.flags = 0) ∧
    (∀ (s : PeerCryptoSession) (b : Bytes) (opened : OpenFrame),
      (s.openMessage X b).1 = .ok opened →
        ∃ f, EncodedFrame.decode b = .ok f ∧
          X.aeadDecrypt s.cipher f.header.nonce (b.take 60) (b.drop 60) =
            some opened.plaintext) := by
  refine ⟨fun b => ?_, fun b f h => ⟨EncodedFrame.encode_decode h,
    EncodedFrame.encode_header_of_decode h⟩, fun f b => EncodedFrame.decode_encode,
    fun f => ?_, fun s b opened => PeerCryptoSession.openMessage_associatedData⟩
  · rw [EncodedFrame.decode_isOk_iff, FrameHeader.Accepted, supportedType_iff]
    apply and_congr_right
    intro hlen
    -- with 60 bytes there is a byte at each of the four offsets
    match b, hlen with
    | _ :: _ :: _ :: _ :: _, _ =>
      simp only [List.getD_cons_zero, List.getD_cons_succ, List.getElem?_cons_zero,
        List.getElem?_cons_succ, Option.some.injEq, frameVersion]
  · rw [EncodedFrame.encode_isOk_iff, FrameHeader.Valid, supportedType_iff, frameVersion]

end TfScale.Custom
