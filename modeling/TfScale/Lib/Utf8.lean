/-
  TfScale.Lib.Utf8

  UTF-8 validation against UTF-8 encoding: `fromUtf8` accepts the encodings of texts and
  nothing else, and returns the text.

  The bytes of one scalar value are compared as numbers (`charWidth_eq`,
  `secondAllowed_iff`): the ranges of the first two bytes are the ranges of the value
  that take that many bytes, so both directions are a case per width and arithmetic.
-/

import TfScale.Lib.Text

namespace TfScale.Text

-- ============================================================================
-- Bytes as numbers
-- ============================================================================

theorem toNat_ofNat_of_lt {n : Nat} (h : n < 256) : (UInt8.ofNat n).toNat = n := by
  rw [UInt8.toNat_ofNat', Nat.mod_eq_of_lt h]

theorem isContinuation_iff {b : UInt8} :
    isContinuation b = true ↔ 128 ≤ b.toNat ∧ b.toNat ≤ 191 := by
  rw [isContinuation, Bool.and_eq_true, decide_eq_true_iff, decide_eq_true_iff,
    UInt8.le_iff_toNat_le, UInt8.le_iff_toNat_le]
  rfl

theorem charWidth_eq (b : UInt8) : charWidth b =
    if b.toNat < 128 then 1
    else if 194 ≤ b.toNat ∧ b.toNat ≤ 223 then 2
    else if 224 ≤ b.toNat ∧ b.toNat ≤ 239 then 3
    else if 240 ≤ b.toNat ∧ b.toNat ≤ 244 then 4
    else 0 := by
  simp only [charWidth, UInt8.lt_iff_toNat_lt, UInt8.le_iff_toNat_le, Bool.and_eq_true,
    decide_eq_true_iff]
  rfl

/-- The bounds on the second byte, beside those of a continuation byte. -/
theorem secondAllowed_iff {first second : UInt8} :
    secondAllowed first second = true ↔
      128 ≤ second.toNat ∧ second.toNat ≤ 191 ∧ (first.toNat = 224 → 160 ≤ second.toNat) ∧
        (first.toNat = 237 → second.toNat ≤ 159) ∧ (first.toNat = 240 → 144 ≤ second.toNat) ∧
        (first.toNat = 244 → second.toNat ≤ 143) := by
  have hE0 : first = 0xE0 ↔ first.toNat = 224 := UInt8.toNat_inj.symm
  have hED : first = 0xED ↔ first.toNat = 237 := UInt8.toNat_inj.symm
  have hF0 : first = 0xF0 ↔ first.toNat = 240 := UInt8.toNat_inj.symm
  have hF4 : first = 0xF4 ↔ first.toNat = 244 := UInt8.toNat_inj.symm
  rw [secondAllowed]
  simp only [hE0, hED, hF0, hF4]
  split_ifs
  all_goals
    simp only [isContinuation_iff, Bool.and_eq_true, decide_eq_true_iff, UInt8.le_iff_toNat_le,
      UInt8.reduceToNat]
    omega

-- ============================================================================
-- One scalar value
-- ============================================================================

/-- The bytes of a scalar value, by the ranges of its width. -/
theorem utf8EncodeChar_cases (ch : Char) :
    (ch.toNat < 128 ∧ String.utf8EncodeChar ch = [UInt8.ofNat ch.toNat]) ∨
    (128 ≤ ch.toNat ∧ ch.toNat < 2048 ∧ String.utf8EncodeChar ch =
      [UInt8.ofNat (192 + ch.toNat / 64), UInt8.ofNat (128 + ch.toNat % 64)]) ∨
    (2048 ≤ ch.toNat ∧ ch.toNat < 65536 ∧ String.utf8EncodeChar ch =
      [UInt8.ofNat (224 + ch.toNat / 4096), UInt8.ofNat (128 + ch.toNat / 64 % 64),
        UInt8.ofNat (128 + ch.toNat % 64)]) ∨
    (65536 ≤ ch.toNat ∧ ch.toNat < 1114112 ∧ String.utf8EncodeChar ch =
      [UInt8.ofNat (240 + ch.toNat / 262144), UInt8.ofNat (128 + ch.toNat / 4096 % 64),
        UInt8.ofNat (128 + ch.toNat / 64 % 64), UInt8.ofNat (128 + ch.toNat % 64)]) := by
  have hval : ch.val.toNat = ch.toNat := rfl
  have hlt : ch.toNat < 1114112 := by
    rcases ch.valid with h | h
    · exact Nat.lt_trans h (by decide)
    · exact h.2
  rw [String.utf8EncodeChar]
  simp only [hval]
  by_cases h1 : ch.toNat ≤ 127
  · exact Or.inl ⟨by omega, if_pos h1⟩
  · rw [if_neg h1]
    by_cases h2 : ch.toNat ≤ 2047
    · rw [if_pos h2]
      refine Or.inr (Or.inl ⟨by omega, by omega, ?_⟩)
      rw [show ch.toNat / 64 % 32 + 192 = 192 + ch.toNat / 64 by omega, Nat.add_comm _ 128]
    · rw [if_neg h2]
      by_cases h3 : ch.toNat ≤ 65535
      · rw [if_pos h3]
        refine Or.inr (Or.inr (Or.inl ⟨by omega, by omega, ?_⟩))
        rw [show ch.toNat / 4096 % 16 + 224 = 224 + ch.toNat / 4096 by omega, Nat.add_comm _ 128,
          Nat.add_comm _ 128]
      · rw [if_neg h3]
        refine Or.inr (Or.inr (Or.inr ⟨by omega, hlt, ?_⟩))
        rw [show ch.toNat / 262144 % 8 + 240 = 240 + ch.toNat / 262144 by omega,
          Nat.add_comm _ 128, Nat.add_comm _ 128, Nat.add_comm _ 128]

/-- What an encoder wrote is read back. -/
theorem decodeChar_encode (ch : Char) (rest : Bytes) :
    decodeChar (String.utf8EncodeChar ch ++ rest) =
      .ok (ch, (String.utf8EncodeChar ch).length) := by
  have hvalid : ch.toNat < 55296 ∨ 57343 < ch.toNat := by
    rcases ch.valid with h | h
    · exact Or.inl h
    · exact Or.inr h.1
  obtain ⟨hv, henc⟩ | ⟨hlo, hhi, henc⟩ | ⟨hlo, hhi, henc⟩ | ⟨hlo, hhi, henc⟩ :=
    utf8EncodeChar_cases ch
  · have hfirst := toNat_ofNat_of_lt (n := ch.toNat) (by omega)
    have hwidth : charWidth (UInt8.ofNat ch.toNat) = 1 := by
      rw [charWidth_eq, hfirst, if_pos hv]
    simp only [henc, List.singleton_append, decodeChar, hwidth, hfirst, Char.ofNat_toNat,
      List.length_singleton]
  · have hfirst := toNat_ofNat_of_lt (n := 192 + ch.toNat / 64) (by omega)
    have hsecond := toNat_ofNat_of_lt (n := 128 + ch.toNat % 64) (by omega)
    have hwidth : charWidth (UInt8.ofNat (192 + ch.toNat / 64)) = 2 := by
      rw [charWidth_eq, hfirst, if_neg (by omega), if_pos (by omega)]
    have hcont : isContinuation (UInt8.ofNat (128 + ch.toNat % 64)) = true := by
      rw [isContinuation_iff, hsecond]
      omega
    have hvalue : 64 * ((192 + ch.toNat / 64) % 32) + (128 + ch.toNat % 64) % 64 = ch.toNat := by
      omega
    simp only [henc, List.cons_append, List.nil_append, decodeChar, hwidth, hcont, if_true, payload,
      hfirst, hsecond, hvalue, Char.ofNat_toNat, List.length_cons, List.length_nil]
  · have hfirst := toNat_ofNat_of_lt (n := 224 + ch.toNat / 4096) (by omega)
    have hsecond := toNat_ofNat_of_lt (n := 128 + ch.toNat / 64 % 64) (by omega)
    have hthird := toNat_ofNat_of_lt (n := 128 + ch.toNat % 64) (by omega)
    have hwidth : charWidth (UInt8.ofNat (224 + ch.toNat / 4096)) = 3 := by
      rw [charWidth_eq, hfirst, if_neg (by omega), if_neg (by omega), if_pos (by omega)]
    have hallowed : secondAllowed (UInt8.ofNat (224 + ch.toNat / 4096))
        (UInt8.ofNat (128 + ch.toNat / 64 % 64)) = true := by
      rw [secondAllowed_iff, hfirst, hsecond]
      omega
    have hcont : isContinuation (UInt8.ofNat (128 + ch.toNat % 64)) = true := by
      rw [isContinuation_iff, hthird]
      omega
    have hvalue : 4096 * ((224 + ch.toNat / 4096) % 16) + 64 * ((128 + ch.toNat / 64 % 64) % 64) +
        (128 + ch.toNat % 64) % 64 = ch.toNat := by
      omega
    simp only [henc, List.cons_append, List.nil_append, decodeChar, hwidth, hallowed, hcont,
      Bool.not_true, Bool.false_eq_true, if_false, if_true, payload, hfirst, hsecond, hthird, hvalue,
      Char.ofNat_toNat, List.length_cons, List.length_nil]
  · have hfirst := toNat_ofNat_of_lt (n := 240 + ch.toNat / 262144) (by omega)
    have hsecond := toNat_ofNat_of_lt (n := 128 + ch.toNat / 4096 % 64) (by omega)
    have hthird := toNat_ofNat_of_lt (n := 128 + ch.toNat / 64 % 64) (by omega)
    have hfourth := toNat_ofNat_of_lt (n := 128 + ch.toNat % 64) (by omega)
    have hwidth : charWidth (UInt8.ofNat (240 + ch.toNat / 262144)) = 4 := by
      rw [charWidth_eq, hfirst, if_neg (by omega), if_neg (by omega), if_neg (by omega),
        if_pos (by omega)]
    have hallowed : secondAllowed (UInt8.ofNat (240 + ch.toNat / 262144))
        (UInt8.ofNat (128 + ch.toNat / 4096 % 64)) = true := by
      rw [secondAllowed_iff, hfirst, hsecond]
      omega
    have hcont : isContinuation (UInt8.ofNat (128 + ch.toNat / 64 % 64)) = true := by
      rw [isContinuation_iff, hthird]
      omega
    have hcont' : isContinuation (UInt8.ofNat (128 + ch.toNat % 64)) = true := by
      rw [isContinuation_iff, hfourth]
      omega
    have hvalue : 262144 * ((240 + ch.toNat / 262144) % 8) +
        4096 * ((128 + ch.toNat / 4096 % 64) % 64) + 64 * ((128 + ch.toNat / 64 % 64) % 64) +
        (128 + ch.toNat % 64) % 64 = ch.toNat := by
      omega
    simp only [henc, List.cons_append, List.nil_append, decodeChar, hwidth, hallowed, hcont, hcont',
      Bool.not_true, Bool.false_eq_true, if_false, if_true, payload, hfirst, hsecond, hthird,
      hfourth, hvalue, Char.ofNat_toNat, List.length_cons, List.length_nil]

theorem toNat_ofNat_of_valid {n : Nat} (h : n < 55296 ∨ 57343 < n ∧ n < 1114112) :
    (Char.ofNat n).toNat = n := by
  rw [Char.ofNat, dif_pos h]
  rfl

theorem ofNat_eq_of_toNat {b : UInt8} {n : Nat} (h : n = b.toNat) : UInt8.ofNat n = b := by
  rw [h, UInt8.ofNat_toNat]

variable {a b c d : UInt8}

theorem utf8EncodeChar_one (ha : a.toNat < 128) :
    String.utf8EncodeChar (Char.ofNat a.toNat) = [a] := by
  have hvalue := toNat_ofNat_of_valid (n := a.toNat) (by omega)
  obtain ⟨-, henc⟩ | ⟨hlo, -⟩ | ⟨hlo, -⟩ | ⟨hlo, -⟩ := utf8EncodeChar_cases (Char.ofNat a.toNat)
  · rw [henc, hvalue, UInt8.ofNat_toNat]
  all_goals omega

theorem utf8EncodeChar_two (ha : 194 ≤ a.toNat ∧ a.toNat ≤ 223) (hb : isContinuation b = true) :
    String.utf8EncodeChar (Char.ofNat (64 * (a.toNat % 32) + payload b)) = [a, b] := by
  rw [isContinuation_iff] at hb
  rw [payload]
  generalize hv : 64 * (a.toNat % 32) + b.toNat % 64 = v
  have hvalue := toNat_ofNat_of_valid (n := v) (by omega)
  obtain ⟨hhi, -⟩ | ⟨-, -, henc⟩ | ⟨hlo, -⟩ | ⟨hlo, -⟩ := utf8EncodeChar_cases (Char.ofNat v)
  · omega
  · rw [henc, hvalue, ofNat_eq_of_toNat (b := a) (by omega), ofNat_eq_of_toNat (b := b) (by omega)]
  all_goals omega

theorem utf8EncodeChar_three (ha : 224 ≤ a.toNat ∧ a.toNat ≤ 239)
    (hb : secondAllowed a b = true) (hc : isContinuation c = true) :
    String.utf8EncodeChar (Char.ofNat (4096 * (a.toNat % 16) + 64 * payload b + payload c)) =
      [a, b, c] := by
  rw [isContinuation_iff] at hc
  rw [secondAllowed_iff] at hb
  rw [payload, payload]
  generalize hv : 4096 * (a.toNat % 16) + 64 * (b.toNat % 64) + c.toNat % 64 = v
  -- neither a surrogate nor a value of fewer bytes, by the bounds on the second byte
  have hvalue := toNat_ofNat_of_valid (n := v) (by omega)
  obtain ⟨hhi, -⟩ | ⟨-, hhi, -⟩ | ⟨-, -, henc⟩ | ⟨hlo, -⟩ := utf8EncodeChar_cases (Char.ofNat v)
  · omega
  · omega
  · rw [henc, hvalue, ofNat_eq_of_toNat (b := a) (by omega), ofNat_eq_of_toNat (b := b) (by omega),
      ofNat_eq_of_toNat (b := c) (by omega)]
  · omega

theorem utf8EncodeChar_four (ha : 240 ≤ a.toNat ∧ a.toNat ≤ 244) (hb : secondAllowed a b = true)
    (hc : isContinuation c = true) (hd : isContinuation d = true) :
    String.utf8EncodeChar (Char.ofNat (262144 * (a.toNat % 8) + 4096 * payload b + 64 * payload c +
      payload d)) = [a, b, c, d] := by
  rw [isContinuation_iff] at hc hd
  rw [secondAllowed_iff] at hb
  rw [payload, payload, payload]
  generalize hv : 262144 * (a.toNat % 8) + 4096 * (b.toNat % 64) + 64 * (c.toNat % 64) +
    d.toNat % 64 = v
  have hvalue := toNat_ofNat_of_valid (n := v) (by omega)
  obtain ⟨hhi, -⟩ | ⟨-, hhi, -⟩ | ⟨-, hhi, -⟩ | ⟨-, -, henc⟩ := utf8EncodeChar_cases (Char.ofNat v)
  · omega
  · omega
  · omega
  · rw [henc, hvalue, ofNat_eq_of_toNat (b := a) (by omega), ofNat_eq_of_toNat (b := b) (by omega),
      ofNat_eq_of_toNat (b := c) (by omega), ofNat_eq_of_toNat (b := d) (by omega)]

/-- Bytes that are read as a scalar value are its encoding. -/
theorem encode_of_decodeChar {bytes : Bytes} {ch : Char} {width : Nat}
    (h : decodeChar bytes = .ok (ch, width)) :
    ∃ rest, bytes = String.utf8EncodeChar ch ++ rest ∧
      width = (String.utf8EncodeChar ch).length := by
  cases bytes with
  | nil => cases h
  | cons a rest =>
      have hwidth := charWidth_eq a
      unfold decodeChar at h
      simp only at h
      split at h
      · rename_i heq
        obtain ⟨rfl, rfl⟩ := Prod.mk.inj (Except.ok.inj h)
        have ha : a.toNat < 128 := by
          rw [heq] at hwidth
          split_ifs at hwidth <;> omega
        rw [utf8EncodeChar_one ha]
        exact ⟨rest, rfl, rfl⟩
      · rename_i heq
        have ha : 194 ≤ a.toNat ∧ a.toNat ≤ 223 := by
          rw [heq] at hwidth
          split_ifs at hwidth <;> omega
        split at h
        · cases h
        · rename_i b rest
          split at h
          · rename_i hb
            obtain ⟨rfl, rfl⟩ := Prod.mk.inj (Except.ok.inj h)
            rw [utf8EncodeChar_two ha hb]
            exact ⟨rest, rfl, rfl⟩
          · cases h
      · rename_i heq
        have ha : 224 ≤ a.toNat ∧ a.toNat ≤ 239 := by
          rw [heq] at hwidth
          split_ifs at hwidth <;> omega
        split at h
        · cases h
        · rename_i b rest
          split at h
          · cases h
          · rename_i hb
            split at h
            · cases h
            · rename_i c rest
              split at h
              · rename_i hc
                obtain ⟨rfl, rfl⟩ := Prod.mk.inj (Except.ok.inj h)
                rw [utf8EncodeChar_three ha (by simpa using hb) hc]
                exact ⟨rest, rfl, rfl⟩
              · cases h
      · rename_i heq
        have ha : 240 ≤ a.toNat ∧ a.toNat ≤ 244 := by
          rw [heq] at hwidth
          split_ifs at hwidth <;> omega
        split at h
        · cases h
        · rename_i b rest
          split at h
          · cases h
          · rename_i hb
            split at h
            · cases h
            · rename_i c rest
              split at h
              · cases h
              · rename_i hc
                split at h
                · cases h
                · rename_i d rest
                  split at h
                  · rename_i hd
                    obtain ⟨rfl, rfl⟩ := Prod.mk.inj (Except.ok.inj h)
                    rw [utf8EncodeChar_four ha (by simpa using hb) (by simpa using hc) hd]
                    exact ⟨rest, rfl, rfl⟩
                  · cases h
      · cases h

-- ============================================================================
-- Texts
-- ============================================================================

theorem utf8EncodeChar_pos (ch : Char) : 0 < (String.utf8EncodeChar ch).length :=
  List.length_pos_iff.mpr String.utf8EncodeChar_ne_nil

/-- Validation from `index` on reads back what was written there. -/
theorem fromUtf8From_flatMap (text : List Char) (front : Bytes) (fuel : Nat)
    (hfuel : (text.flatMap String.utf8EncodeChar).length < fuel) :
    fromUtf8From (front ++ text.flatMap String.utf8EncodeChar) fuel front.length = .ok text := by
  induction text generalizing front fuel with
  | nil =>
      obtain ⟨fuel, rfl⟩ : ∃ n, fuel = n + 1 := ⟨fuel - 1, by simp at hfuel; omega⟩
      rw [fromUtf8From, List.flatMap_nil, List.append_nil, List.drop_length]
  | cons ch text ih =>
      obtain ⟨fuel, rfl⟩ : ∃ n, fuel = n + 1 := ⟨fuel - 1, by omega⟩
      have hpos := utf8EncodeChar_pos ch
      rw [List.flatMap_cons, List.length_append] at hfuel
      have hrest := ih (front ++ String.utf8EncodeChar ch) fuel (by omega)
      rw [List.append_assoc, List.length_append] at hrest
      have hnil : String.utf8EncodeChar ch ++ text.flatMap String.utf8EncodeChar ≠ [] :=
        List.append_ne_nil_of_left_ne_nil String.utf8EncodeChar_ne_nil _
      rw [fromUtf8From, List.flatMap_cons, List.drop_left]
      split
      · rename_i heq
        exact absurd heq hnil
      · rename_i heq
        simp only [decodeChar_encode, hrest]

/-- What validation returns from `index` on is written there. -/
theorem flatMap_of_fromUtf8From {bytes : Bytes} {fuel index : Nat} {text : List Char}
    (hfuel : bytes.length < fuel + index) (h : fromUtf8From bytes fuel index = .ok text) :
    bytes.drop index = text.flatMap String.utf8EncodeChar := by
  induction fuel generalizing index text with
  | zero =>
      obtain rfl := Except.ok.inj h
      exact List.drop_eq_nil_of_le (by omega)
  | succ fuel ih =>
      rw [fromUtf8From] at h
      split at h
      · rename_i hdrop
        obtain rfl := Except.ok.inj h
        exact hdrop
      · split at h
        · cases h
        · rename_i ch width hchar
          split at h
          · cases h
          · rename_i chars hchars
            obtain rfl := Except.ok.inj h
            obtain ⟨rest, hrest, rfl⟩ := encode_of_decodeChar hchar
            have hpos := utf8EncodeChar_pos ch
            have htail := ih (by omega) hchars
            rw [← List.drop_drop, hrest, List.drop_left] at htail
            rw [hrest, htail, List.flatMap_cons]

/-- `from_utf8` accepts the encodings of texts, and returns the text. -/
theorem fromUtf8_eq_ok_iff {bytes : Bytes} {text : List Char} :
    fromUtf8 bytes = .ok text ↔ bytes = strBytes (String.ofList text) := by
  rw [strBytes_ofList]
  constructor
  · intro h
    have := flatMap_of_fromUtf8From (by omega) h
    rwa [List.drop_zero] at this
  · rintro rfl
    exact fromUtf8From_flatMap text [] _ (Nat.lt_succ_self _)

end TfScale.Text
