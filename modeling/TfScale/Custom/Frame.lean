/-
  TfScale.Custom.Frame

  The wire frame of the custom backend (`frame.rs`): a 60-byte header

    version ‖ message type ‖ flags ‖ 0 ‖ source (16) ‖ destination (16) ‖ nonce (24)

  followed by the AEAD ciphertext.  The header bytes are also the associated
  data of the ciphertext, so both ends have to agree on them exactly.
-/

import TfScale.Net.Backend

namespace TfScale.Custom

def frameVersion : UInt8 := 1
def frameTypeData : UInt8 := 1
def frameTypeProbe : UInt8 := 2
def frameTypeProbeResponse : UInt8 := 3

/-- Bytes in a header: `HEADER_LEN`. -/
abbrev headerLen : Nat := 60

/-- The sixteen UUID bytes of a device id. -/
abbrev FrameDeviceId := ByteArr 16

/-- A 24-byte XChaCha20-Poly1305 nonce. -/
abbrev Nonce := ByteArr 24

/-- `str::strip_prefix` -/
def stripPrefix (front s : String) : Option String :=
  (s.toList.dropPrefix? front.toList).map String.ofList

/-- `FrameDeviceId::from_device_id`, over the UUID parser `parseStr`. -/
def fromDeviceId (parseStr : String → Except String (ByteArr 16)) (value : String) :
    Result FrameDeviceId :=
  match stripPrefix "dev_" value with
  | none => commandFailed "device ID is missing dev_ prefix"
  | some encoded =>
      match parseStr encoded with
      | .error message => commandFailed message
      | .ok uuid => .ok uuid

structure FrameHeader where
  version : UInt8
  messageType : UInt8
  flags : UInt8
  source : FrameDeviceId
  destination : FrameDeviceId
  nonce : Nonce
deriving DecidableEq

/-- The three message types that a frame may carry. -/
def supportedType (messageType : UInt8) : Bool :=
  messageType == frameTypeData || messageType == frameTypeProbe ||
    messageType == frameTypeProbeResponse

namespace FrameHeader

/-- `FrameHeader::new` -/
def new (source destination : FrameDeviceId) (nonce : Nonce) (messageType : UInt8) :
    FrameHeader where
  version := frameVersion
  messageType := messageType
  flags := 0
  source := source
  destination := destination
  nonce := nonce

/-- The header bytes in wire order; byte 3 is reserved. -/
def bytes (h : FrameHeader) : Bytes :=
  [h.version, h.messageType, h.flags, 0] ++ (h.source.val ++ (h.destination.val ++ h.nonce.val))

@[simp] theorem bytes_length (h : FrameHeader) : h.bytes.length = headerLen := by
  simp [bytes]

/-- `FrameHeader::encode` -/
def encode (h : FrameHeader) : Result (ByteArr headerLen) :=
  if h.version ≠ frameVersion then
    commandFailed ("unsupported frame version: " ++ toString h.version)
  else if !supportedType h.messageType then
    commandFailed ("unsupported frame message type: " ++ toString h.messageType)
  else if h.flags ≠ 0 then
    commandFailed ("unsupported frame flags: " ++ toString h.flags)
  else .ok ⟨h.bytes, h.bytes_length⟩

/-- `FrameHeader::decode` -/
def decode (input : Bytes) : Result FrameHeader :=
  if hlen : input.length < headerLen then
    commandFailed ("malformed frame length: " ++ toString input.length)
  else if input.getD 0 0 ≠ frameVersion then
    commandFailed ("unsupported frame version: " ++ toString (input.getD 0 0))
  else if !supportedType (input.getD 1 0) then
    commandFailed ("unsupported frame message type: " ++ toString (input.getD 1 0))
  else if input.getD 2 0 ≠ 0 then
    commandFailed ("unsupported frame flags: " ++ toString (input.getD 2 0))
  else if input.getD 3 0 ≠ 0 then
    commandFailed "reserved frame byte must be zero"
  else .ok {
    version := input.getD 0 0
    messageType := input.getD 1 0
    flags := input.getD 2 0
    source := .ofSlice input 4 16 (by simp only [headerLen] at hlen; omega)
    destination := .ofSlice input 20 16 (by simp only [headerLen] at hlen; omega)
    nonce := .ofSlice input 36 24 (by simp only [headerLen] at hlen; omega) }

/-- The values of a header that `encode` accepts. -/
def Valid (h : FrameHeader) : Prop :=
  h.version = frameVersion ∧ supportedType h.messageType = true ∧ h.flags = 0

theorem encode_of_valid {h : FrameHeader} (hv : h.Valid) :
    h.encode = .ok ⟨h.bytes, h.bytes_length⟩ := by
  obtain ⟨hver, hty, hfl⟩ := hv
  simp [encode, hver, hty, hfl]

/-- What `encode` accepts is exactly a valid header, and it writes its bytes. -/
theorem encode_eq_ok {h : FrameHeader} {bs : ByteArr headerLen} :
    h.encode = .ok bs ↔ h.Valid ∧ bs.val = h.bytes := by
  constructor
  · intro heq
    by_cases hv : h.Valid
    · rw [encode_of_valid hv] at heq
      obtain rfl := Except.ok.inj heq
      exact ⟨hv, rfl⟩
    · exfalso
      unfold encode commandFailed at heq
      split_ifs at heq with h1 h2 h3
      exact hv ⟨by simpa using h1, by simpa using h2, by simpa using h3⟩
  · rintro ⟨hv, hbs⟩
    rw [encode_of_valid hv]
    exact congrArg Except.ok (Subtype.ext hbs.symm)

theorem new_valid {source destination : FrameDeviceId} {nonce : Nonce} {messageType : UInt8}
    (hty : supportedType messageType = true) :
    (new source destination nonce messageType).Valid :=
  ⟨rfl, hty, rfl⟩

/-- The five slices of a header's bytes, whatever follows them. -/
theorem slices (h : FrameHeader) (rest : Bytes) :
    ((h.bytes ++ rest).drop 4).take 16 = h.source.val ∧
    ((h.bytes ++ rest).drop 20).take 16 = h.destination.val ∧
    ((h.bytes ++ rest).drop 36).take 24 = h.nonce.val := by
  obtain ⟨version, messageType, flags, ⟨src, hsrc⟩, ⟨dst, hdst⟩, ⟨nonce, hnonce⟩⟩ := h
  simp only [bytes, List.cons_append, List.nil_append, List.append_assoc, List.drop_succ_cons]
  refine ⟨?_, ?_, ?_⟩
  · rw [List.drop_zero, List.take_append_of_le_length (by omega),
      List.take_of_length_le (by omega)]
  · rw [← hsrc, List.drop_left, hsrc, List.take_append_of_le_length (by omega),
      List.take_of_length_le (by omega)]
  · rw [show 32 = src.length + dst.length by omega, ← List.drop_drop, List.drop_left,
      List.drop_left, List.take_append_of_le_length (by omega), List.take_of_length_le (by omega)]

/-- Decoding the bytes of a valid header gives it back, whatever follows them. -/
theorem decode_bytes_append {h : FrameHeader} (hv : h.Valid) (rest : Bytes) :
    decode (h.bytes ++ rest) = .ok h := by
  obtain ⟨hver, hty, hfl⟩ := hv
  obtain ⟨hs, hd, hn⟩ := h.slices rest
  have hlen : ¬ (h.bytes ++ rest).length < headerLen := by
    rw [List.length_append, bytes_length]
    exact Nat.not_lt.mpr (Nat.le_add_right _ _)
  have h0 : (h.bytes ++ rest).getD 0 0 = h.version := rfl
  have h1 : (h.bytes ++ rest).getD 1 0 = h.messageType := rfl
  have h2 : (h.bytes ++ rest).getD 2 0 = h.flags := rfl
  have h3 : (h.bytes ++ rest).getD 3 0 = 0 := rfl
  unfold decode
  rw [dif_neg hlen, h0, if_neg (not_not_intro hver), h1, hty, if_neg (by decide), h2,
    if_neg (not_not_intro hfl), h3, if_neg (not_not_intro rfl)]
  exact congrArg Except.ok <| by
    cases h
    simp only [mk.injEq, Subtype.ext_iff, ByteArr.ofSlice_val]
    exact ⟨trivial, trivial, trivial, hs, hd, hn⟩

end FrameHeader

structure EncodedFrame where
  header : FrameHeader
  ciphertext : Bytes
deriving DecidableEq

namespace EncodedFrame

/-- `EncodedFrame::encode` -/
def encode (f : EncodedFrame) : Result Bytes := do
  let header ← f.header.encode
  return header.val ++ f.ciphertext

/-- `EncodedFrame::decode` -/
def decode (input : Bytes) : Result EncodedFrame := do
  let header ← FrameHeader.decode input
  return { header, ciphertext := input.drop headerLen }

theorem encode_eq_ok {f : EncodedFrame} {bs : Bytes} :
    f.encode = .ok bs ↔ f.header.Valid ∧ bs = f.header.bytes ++ f.ciphertext := by
  unfold encode
  cases hh : f.header.encode with
  | error e =>
      have hv : ¬ f.header.Valid := by
        intro hv
        rw [FrameHeader.encode_of_valid hv] at hh
        cases hh
      simp [bind, Except.bind, hv]
  | ok header =>
      obtain ⟨hv, hb⟩ := FrameHeader.encode_eq_ok.mp hh
      simp only [bind, Except.bind, pure, Except.pure, hb, hv, true_and, Except.ok.injEq]
      exact eq_comm

/-- Decoding what `encode` wrote gives the frame back. -/
theorem decode_encode {f : EncodedFrame} {bs : Bytes} (h : f.encode = .ok bs) :
    decode bs = .ok f := by
  obtain ⟨hv, rfl⟩ := encode_eq_ok.mp h
  have hdrop : (f.header.bytes ++ f.ciphertext).drop headerLen = f.ciphertext := by
    rw [← f.header.bytes_length, List.drop_left]
  rw [decode, FrameHeader.decode_bytes_append hv]
  simp only [bind, Except.bind, pure, Except.pure, hdrop]

end EncodedFrame

end TfScale.Custom
