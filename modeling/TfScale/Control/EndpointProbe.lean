/-
  TfScale.Control.EndpointProbe

  Does an agent read its public endpoint back from the reply of the control plane?

  The control plane writes the address that a request came from as text, and the agent
  takes the text apart at white space.  The parts have no white space in them, the
  standard library reads its own numbers and addresses back, and the text is shorter than
  the agent's buffer; so the endpoint that is read is the one that was seen.
-/

import TfScale.Lib.Utf8
import TfScale.Net.AddrText
import TfScale.Custom.Transport

namespace TfScale.Control

open Custom

-- ============================================================================
-- The listener
-- ============================================================================

/-- `run_udp_endpoint_probe` over what `recv_from` returns: the replies, each with the
    address it is sent to.  The buffer has 256 bytes, and an error ends the loop. -/
def runUdpEndpointProbe : List (Except String (Bytes × SocketAddr)) → List (SocketAddr × Bytes)
  | [] => []
  | .error _ :: _ => []
  | .ok (datagram, source) :: rest =>
      if datagram.take 256 = strBytes "tfscale-public-probe-v1" then
        (source, strBytes ("tfscale-public-probe-v1 " ++ source.ip.display ++ " " ++
          toString source.port.toNat)) :: runUdpEndpointProbe rest
      else runUdpEndpointProbe rest

/-- A reply is what the agent's own encoder makes of the address. -/
theorem reply_eq_encode {received : List (Except String (Bytes × SocketAddr))} {addr : SocketAddr}
    {reply : Bytes} (h : (addr, reply) ∈ runUdpEndpointProbe received) :
    reply = encodeProbeResponse addr := by
  induction received with
  | nil => cases h
  | cons first rest ih =>
      cases first with
      | error message => cases h
      | ok arrival =>
          rw [runUdpEndpointProbe] at h
          split at h
          · rcases List.mem_cons.mp h with h | h
            · obtain ⟨rfl, rfl⟩ := Prod.mk.inj h
              rfl
            · exact ih h
          · exact ih h

-- ============================================================================
-- The words of a text
-- ============================================================================

/-- Words between single blanks. -/
theorem splitWhitespace_words {first second third : List Char}
    (hfirst : ∀ ch ∈ first, Text.isWhitespace ch = false) (hfirst' : first ≠ [])
    (hsecond : ∀ ch ∈ second, Text.isWhitespace ch = false) (hsecond' : second ≠ [])
    (hthird : ∀ ch ∈ third, Text.isWhitespace ch = false) (hthird' : third ≠ []) :
    Text.splitWhitespace (first ++ ' ' :: (second ++ ' ' :: third)) = [first, second, third] := by
  have hblank : Text.isWhitespace ' ' = true := by decide
  rw [Text.splitWhitespace, List.splitOnP_append_cons_of_forall_mem hfirst ' ' hblank,
    List.splitOnP_append_cons_of_forall_mem hsecond ' ' hblank, List.splitOnP_eq_singleton hthird]
  simp [hfirst', hsecond', hthird']

-- ============================================================================
-- Reading the reply
-- ============================================================================

/-- The endpoint that a text stands for: its first three words are the tag, an address
    and the numeral of a port. -/
def ReadsAs (bytes : Bytes) (probe : PublicEndpointProbe) : Prop :=
  ∃ text address port rest, bytes = strBytes (String.ofList text) ∧
    Text.splitWhitespace text = publicEndpointProbeTag.toList :: address :: port :: rest ∧
    parseIpAddr (String.ofList address) = some probe.observedEndpoint.address ∧
    Text.Numeral port probe.observedEndpoint.port.toNat ∧
    probe.observedEndpoint.kind = .public ∧ probe.observedEndpoint.protocol = .udp

theorem decodeProbeResponse_eq_ok_iff {bytes : Bytes} {probe : PublicEndpointProbe} :
    decodeProbeResponse bytes = .ok (some probe) ↔ ReadsAs bytes probe := by
  constructor
  · intro h
    rw [decodeProbeResponse] at h
    split at h
    · cases h
    rename_i text htext
    split at h
    · rename_i tag address port rest hwords
      split at h
      · cases h
      rename_i htag
      split at h
      · cases h
      rename_i ip hip
      split at h
      · cases h
      rename_i number hnumber
      obtain ⟨hnumeral, hbound⟩ := Text.parseUnsigned_eq_ok_iff.mp hnumber
      obtain rfl := Option.some.inj (Except.ok.inj h)
      refine ⟨text, address, port, rest, Text.fromUtf8_eq_ok_iff.mp htext, ?_, hip, ?_, rfl, rfl⟩
      · rw [hwords, not_not.mp htag]
      · show Text.Numeral port (UInt16.ofNat number).toNat
        rw [UInt16.toNat_ofNat', Nat.mod_eq_of_lt hbound]
        exact hnumeral
    · cases h
  · rintro ⟨text, address, port, rest, hbytes, hwords, hip, hnumeral, hkind, hprotocol⟩
    have hport : Text.parseUnsigned 65536 port = .ok probe.observedEndpoint.port.toNat :=
      Text.parseUnsigned_eq_ok_iff.mpr ⟨hnumeral, probe.observedEndpoint.port.toNat_lt⟩
    obtain ⟨⟨kind, ip, number, protocol⟩⟩ := probe
    obtain rfl : kind = .public := hkind
    obtain rfl : protocol = .udp := hprotocol
    simp only at hip hport
    simp only [decodeProbeResponse, Text.fromUtf8_eq_ok_iff.mpr hbytes, hwords, ne_eq, not_true_eq_false,
      if_false, hip, hport, UInt16.ofNat_toNat]

/-- The reply as characters. -/
theorem encodeProbeResponse_eq (observed : SocketAddr) : encodeProbeResponse observed =
    strBytes (String.ofList (publicEndpointProbeTag.toList ++ ' ' ::
      (observed.ip.display.toList ++ ' ' :: Nat.toDigits 10 observed.port.toNat))) := by
  have hblank : " ".toList = [' '] := rfl
  rw [encodeProbeResponse]
  congr 1
  rw [← String.toList_inj, String.toList_ofList]
  simp only [String.toList_append, Text.toString_toList, hblank, List.append_assoc, List.cons_append,
    List.nil_append]

theorem tag_plain : ∀ ch ∈ publicEndpointProbeTag.toList, ch.toNat < 128 ∧ Text.isWhitespace ch = false := by
  have hall : publicEndpointProbeTag.toList.all (fun ch =>
      decide (ch.toNat < 128) && !Text.isWhitespace ch) = true := by decide
  intro ch hch
  have hplain := List.all_eq_true.mp hall ch hch
  rwa [Bool.and_eq_true, decide_eq_true_eq, Bool.not_eq_true'] at hplain

theorem port_digits (port : UInt16) : (Nat.toDigits 10 port.toNat).length ≤ 5 :=
  (Nat.length_toDigits_le_iff (by decide) (by decide)).mpr (port.toNat_lt.trans (by decide))

theorem port_plain (port : UInt16) : ∀ ch ∈ Nat.toDigits 10 port.toNat,
    ch.toNat < 128 ∧ Text.isWhitespace ch = false :=
  fun _ hch => (AddrChar.of_mem_toDigits (by decide) (by decide) hch).plain

/-- The tag, 40 characters for the address and 5 for the port. -/
theorem encodeProbeResponse_length (observed : SocketAddr) : (encodeProbeResponse observed).length ≤ 70 := by
  have haddress := addrText_display observed.ip
  have hport := port_digits observed.port
  have htag : publicEndpointProbeTag.toList.length = 23 := by decide
  have hascii : ∀ ch ∈ publicEndpointProbeTag.toList ++ ' ' ::
      (observed.ip.display.toList ++ ' ' :: Nat.toDigits 10 observed.port.toNat), ch.toNat < 128 := by
    intro ch hch
    simp only [List.mem_append, List.mem_cons] at hch
    rcases hch with h | rfl | h | rfl | h
    · exact (tag_plain ch h).1
    · decide
    · exact (haddress.chars ch h).plain.1
    · decide
    · exact (port_plain observed.port ch h).1
  have hlength := haddress.length
  rw [encodeProbeResponse_eq, Text.strBytes_ascii hascii, List.length_map]
  simp only [List.length_append, List.length_cons]
  omega

/-- What was seen is read back. -/
theorem decodeProbeResponse_encode (observed : SocketAddr) :
    decodeProbeResponse (encodeProbeResponse observed) =
      .ok (some ⟨⟨.public, observed.ip, observed.port, .udp⟩⟩) := by
  have haddress := addrText_display observed.ip
  have hne : observed.ip.display.toList ≠ [] := by
    intro hnil
    have hread := parseIpAddr_display observed.ip
    rw [String.toList_eq_nil_iff.mp hnil] at hread
    cases hread
  have hwords := splitWhitespace_words (fun ch hch => (tag_plain ch hch).2) (by decide)
    (fun ch hch => (haddress.chars ch hch).plain.2) hne (fun ch hch => (port_plain observed.port ch hch).2) Nat.toDigits_ne_nil
  refine decodeProbeResponse_eq_ok_iff.mpr ⟨_, _, _, _, encodeProbeResponse_eq observed, hwords, ?_, ?_,
    rfl, rfl⟩
  · rw [String.ofList_toList]
    exact parseIpAddr_display observed.ip
  · rw [← Text.toString_toList]
    exact Text.numeral_toString _

-- ============================================================================
-- Main result
-- ============================================================================

/-- **The probe for the public endpoint.**  The control plane answers a request with the
    bytes of `encode_probe_response`; they fit the agent's buffer, and the agent reads the
    address and the port back from them.  Of any bytes it makes an endpoint only when their
    first three words are the tag, an address and the numeral of a port. -/
theorem probe_reply_codec :
    (∀ source : SocketAddr,
      runUdpEndpointProbe [.ok (publicEndpointProbeRequest, source)] =
        [(source, encodeProbeResponse source)] ∧
      (encodeProbeResponse source).length ≤ 256 ∧
      decodeProbeResponse ((encodeProbeResponse source).take 256) =
        .ok (some ⟨⟨.public, source.ip, source.port, .udp⟩⟩)) ∧
    (∀ received addr reply, (addr, reply) ∈ runUdpEndpointProbe received →
      reply = encodeProbeResponse addr) ∧
    ∀ bytes probe, decodeProbeResponse bytes = .ok (some probe) ↔ ReadsAs bytes probe := by
  refine ⟨fun source => ⟨?_, ?_, ?_⟩, fun received addr reply => reply_eq_encode,
    fun bytes probe => decodeProbeResponse_eq_ok_iff⟩
  · have hrequest : publicEndpointProbeRequest.take 256 = strBytes "tfscale-public-probe-v1" := by decide
    rw [runUdpEndpointProbe, if_pos hrequest]
    rfl
  · exact (encodeProbeResponse_length source).trans (by decide)
  · rw [List.take_of_length_le ((encodeProbeResponse_length source).trans (by decide))]
    exact decodeProbeResponse_encode source

end TfScale.Control
