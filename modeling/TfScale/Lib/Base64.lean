/-
  TfScale.Lib.Base64

  Base64 without padding, on character lists, over any alphabet.

  Three bytes make four digits; a final group of one or two bytes makes two or
  three digits whose unused low bits are zero.  `decode` refuses characters
  outside the alphabet, a dangling single digit and nonzero unused bits.
-/

import TfScale.Lib.Bytes

namespace TfScale.Base64

/-- Encoding, with `digit` the character of a number below 64. -/
def encode (digit : Nat → Char) : Bytes → List Char
  | a :: b :: c :: rest =>
      let n := 65536 * a.toNat + 256 * b.toNat + c.toNat
      digit (n / 262144) :: digit (n / 4096 % 64) :: digit (n / 64 % 64) :: digit (n % 64) ::
        encode digit rest
  | [a, b] =>
      let n := 65536 * a.toNat + 256 * b.toNat
      [digit (n / 262144), digit (n / 4096 % 64), digit (n / 64 % 64)]
  | [a] =>
      let n := 65536 * a.toNat
      [digit (n / 262144), digit (n / 4096 % 64)]
  | [] => []

/-- Decoding, with `value` the number a character of the alphabet stands for. -/
def decode (value : Char → Option Nat) : List Char → Option Bytes
  | w :: x :: y :: z :: rest => do
      let n := 262144 * (← value w) + 4096 * (← value x) + 64 * (← value y) + (← value z)
      let bytes ← decode value rest
      some (UInt8.ofNat (n / 65536) :: UInt8.ofNat (n / 256) :: UInt8.ofNat n :: bytes)
  | [w, x, y] => do
      let n := 262144 * (← value w) + 4096 * (← value x) + 64 * (← value y)
      if n % 256 ≠ 0 then none else some [UInt8.ofNat (n / 65536), UInt8.ofNat (n / 256)]
  | [w, x] => do
      let n := 262144 * (← value w) + 4096 * (← value x)
      if n % 65536 ≠ 0 then none else some [UInt8.ofNat (n / 65536)]
  | [_] => none
  | [] => some []

/-- A number is the sum of its base-64 digits. -/
theorem digits_sum (n : Nat) :
    262144 * (n / 262144) + 4096 * (n / 4096 % 64) + 64 * (n / 64 % 64) + n % 64 = n := by
  omega

section RoundTrip

variable {digit : Nat → Char} {value : Char → Option Nat}

/-- Decoding what `encode` wrote gives the bytes back. -/
theorem decode_encode (hvalue : ∀ n, n < 64 → value (digit n) = some n) (bs : Bytes) :
    decode value (encode digit bs) = some bs := by
  have hmod : ∀ k, value (digit (k % 64)) = some (k % 64) := fun k =>
    hvalue _ (Nat.mod_lt k (by decide))
  induction bs using encode.induct with
  | case1 a b c rest ih =>
      have ha := a.toNat_lt
      have hb := b.toNat_lt
      have hc := c.toNat_lt
      rw [encode]
      generalize hn : 65536 * a.toNat + 256 * b.toNat + c.toNat = n
      have h1 : n / 65536 = 256 * 0 + a.toNat := by omega
      have h2 : n / 256 = 256 * a.toNat + b.toNat := by omega
      have h3 : n = 256 * (256 * a.toNat + b.toNat) + c.toNat := by omega
      have hw := hvalue (n / 262144) (by omega)
      rw [decode, hw, hmod, hmod, hmod, ih]
      simp only [bind, Option.bind_some]
      rw [digits_sum n, h1, h2, ofNat_toNat_add, ofNat_toNat_add, h3, ofNat_toNat_add]
  | case2 a b =>
      have ha := a.toNat_lt
      have hb := b.toNat_lt
      rw [encode]
      generalize hn : 65536 * a.toNat + 256 * b.toNat = n
      have h1 : n / 65536 = 256 * 0 + a.toNat := by omega
      have h2 : n / 256 = 256 * a.toNat + b.toNat := by omega
      have h0 : n % 64 = 0 := by omega
      have hsum := digits_sum n
      rw [h0, Nat.add_zero] at hsum
      have hlow : ¬ (n % 256 ≠ 0) := by omega
      have hw := hvalue (n / 262144) (by omega)
      rw [decode, hw, hmod, hmod]
      simp only [bind, Option.bind_some]
      rw [hsum, if_neg hlow, h1, h2, ofNat_toNat_add, ofNat_toNat_add]
  | case3 a =>
      have ha := a.toNat_lt
      rw [encode]
      generalize hn : 65536 * a.toNat = n
      have h1 : n / 65536 = 256 * 0 + a.toNat := by omega
      have h0 : n % 64 = 0 := by omega
      have h64 : n / 64 % 64 = 0 := by omega
      have hsum := digits_sum n
      rw [h0, h64, Nat.mul_zero, Nat.add_zero] at hsum
      have hlow : ¬ (n % 65536 ≠ 0) := by omega
      have hw := hvalue (n / 262144) (by omega)
      rw [decode, hw, hmod]
      simp only [bind, Option.bind_some]
      rw [hsum, if_neg hlow, h1, ofNat_toNat_add]
  | case4 => rfl

end RoundTrip

-- ============================================================================
-- The URL-safe alphabet
-- ============================================================================

/-- `A`–`Z`, `a`–`z`, `0`–`9`, `-`, `_`. -/
def urlSafeDigit (n : Nat) : Char :=
  if n < 26 then Char.ofNat (65 + n)
  else if n < 52 then Char.ofNat (71 + n)
  else if n < 62 then Char.ofNat (n - 4)
  else if n = 62 then '-'
  else '_'

def urlSafeValue (ch : Char) : Option Nat :=
  let n := ch.toNat
  if 65 ≤ n ∧ n ≤ 90 then some (n - 65)
  else if 97 ≤ n ∧ n ≤ 122 then some (n - 71)
  else if 48 ≤ n ∧ n ≤ 57 then some (n + 4)
  else if n = 45 then some 62
  else if n = 95 then some 63
  else none

theorem urlSafeValue_digit : ∀ n, n < 64 → urlSafeValue (urlSafeDigit n) = some n := by
  decide

end TfScale.Base64
