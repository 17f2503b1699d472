/-
  TfScale.Custom.ProbeTimestamps

  What becomes of the timestamp of a probe?

  The sender writes the milliseconds of its clock into the probe, the receiver copies them
  into the response, and the sender takes them from the milliseconds that its clock shows
  then.  Both ways the number is text behind a tag, and `taggedTimestamp` reads exactly the
  numerals of the 128-bit numbers (`taggedTimestamp_eq_some_iff`).
-/

import TfScale.Lib.Numerals
import TfScale.Lib.Utf8
import TfScale.Custom.DataPath

namespace TfScale.Custom

/-- What is behind the tag is text, and a numeral of a 128-bit number. -/
theorem taggedTimestamp_eq_some_iff {tag bytes : Bytes} {t : Nat} :
    taggedTimestamp tag bytes = some t ↔
      ∃ text, bytes = tag ++ strBytes (String.ofList text) ∧ Text.Numeral text t ∧ t < u128Bound := by
  have hparse : ∀ text, (Text.parseUnsigned u128Bound text).toOption = some t ↔
      Text.Numeral text t ∧ t < u128Bound :=
    fun _ => Fallible.toOption_eq_some.trans Text.parseUnsigned_eq_ok_iff
  have htext : ∀ digits text, (Text.fromUtf8 digits).toOption = some text ↔
      digits = strBytes (String.ofList text) :=
    fun _ _ => Fallible.toOption_eq_some.trans Text.fromUtf8_eq_ok_iff
  have htag : ∀ digits, bytes.dropPrefix? tag = some digits ↔ bytes = tag ++ digits := by
    intro digits
    simp only [List.dropPrefix?_eq_some_iff, beq_iff_eq, exists_eq_right]
  constructor
  · intro h
    obtain ⟨digits, hdigits, h⟩ := Option.bind_eq_some_iff.mp h
    obtain ⟨text, hread, h⟩ := Option.bind_eq_some_iff.mp h
    refine ⟨text, ?_, (hparse text).mp h⟩
    rw [← (htext digits text).mp hread]
    exact (htag digits).mp hdigits
  · rintro ⟨text, hbytes, hnumeral⟩
    refine Option.bind_eq_some_iff.mpr ⟨_, (htag _).mpr hbytes, ?_⟩
    exact Option.bind_eq_some_iff.mpr ⟨text, (htext _ text).mpr rfl, (hparse text).mpr hnumeral⟩

/-- The number that is written behind a tag. -/
theorem taggedTimestamp_toString (tag : String) {t : Nat} (h : t < u128Bound) :
    taggedTimestamp (strBytes tag) (strBytes (tag ++ toString t)) = some t := by
  refine taggedTimestamp_eq_some_iff.mpr ⟨(toString t).toList, ?_, Text.numeral_toString t, h⟩
  rw [strBytes_append, String.ofList_toList]

/-- The response repeats the timestamp of the probe. -/
theorem encodeProbeResponsePayload_probe {t : Nat} (h : t < u128Bound) (nowMillis : Nat) :
    encodeProbeResponsePayload (strBytes ("probe " ++ toString t)) nowMillis =
      strBytes ("probe_response " ++ toString t) := by
  rw [encodeProbeResponsePayload, taggedTimestamp_toString "probe " h, Option.getD_some]

/-- The round trip time is the difference, if it is none below zero and fits. -/
theorem probeResponseRttMs_eq {responsePayload : Bytes} {t : Nat} (nowMillis : Nat)
    (h : taggedTimestamp (strBytes "probe_response ") responsePayload = some t) :
    (probeResponseRttMs responsePayload nowMillis).map UInt64.toNat =
      if t ≤ nowMillis ∧ nowMillis - t < 2 ^ 64 then some (nowMillis - t) else none := by
  rw [probeResponseRttMs, h, Option.bind_eq_bind, Option.bind_some]
  split
  · rename_i hfits
    rw [Option.map_some, UInt64.toNat_ofNat', Nat.mod_eq_of_lt hfits.2]
  · rfl

/-- **Probe timestamps.**  The response to the probe that is sent at `t` gives the time
    since `t`, unless that is negative or takes more than 64 bits.  A payload that is not
    the response tag and a numeral of a 128-bit number gives none. -/
theorem probe_timestamps_survive :
    (∀ t nowMillis answeredAt : Nat, t < u128Bound → nowMillis < u128Bound →
      (probeResponseRttMs (encodeProbeResponsePayload (strBytes ("probe " ++ toString t)) answeredAt)
          nowMillis).map UInt64.toNat =
        if t ≤ nowMillis ∧ nowMillis - t < 2 ^ 64 then some (nowMillis - t) else none) ∧
    (∀ (responsePayload : Bytes) (nowMillis : Nat) (rttMs : UInt64),
      probeResponseRttMs responsePayload nowMillis = some rttMs →
        ∃ text t, responsePayload = strBytes "probe_response " ++ strBytes (String.ofList text) ∧
          Text.Numeral text t ∧ t < u128Bound ∧ t ≤ nowMillis ∧ rttMs.toNat = nowMillis - t) ∧
    ∀ (responsePayload : Bytes) (nowMillis : Nat),
      (¬ ∃ text t, responsePayload = strBytes "probe_response " ++ strBytes (String.ofList text) ∧
        Text.Numeral text t ∧ t < u128Bound) →
      probeResponseRttMs responsePayload nowMillis = none := by
  refine ⟨fun t nowMillis answeredAt ht _ => ?_, fun responsePayload nowMillis rttMs hrtt => ?_,
    fun responsePayload nowMillis hnone => ?_⟩
  · rw [encodeProbeResponsePayload_probe ht]
    exact probeResponseRttMs_eq nowMillis (taggedTimestamp_toString "probe_response " ht)
  · obtain ⟨t, ht, -⟩ := Option.bind_eq_some_iff.mp hrtt
    have hvalue := probeResponseRttMs_eq nowMillis ht
    rw [hrtt, Option.map_some] at hvalue
    obtain ⟨text, hpayload, hnumeral, hbound⟩ := taggedTimestamp_eq_some_iff.mp ht
    split at hvalue
    · rename_i hfits
      exact ⟨text, t, hpayload, hnumeral, hbound, hfits.1, Option.some.inj hvalue⟩
    · cases hvalue
  · cases ht : taggedTimestamp (strBytes "probe_response ") responsePayload with
    | none =>
        rw [probeResponseRttMs, ht]
        rfl
    | some t =>
        obtain ⟨text, hpayload, hnumeral⟩ := taggedTimestamp_eq_some_iff.mp ht
        exact absurd ⟨text, t, hpayload, hnumeral⟩ hnone

end TfScale.Custom
