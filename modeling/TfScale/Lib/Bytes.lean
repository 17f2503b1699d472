/-
  TfScale.Lib.Bytes

  Byte strings, fixed-size byte arrays and the big-endian integer codec.

  `ByteArr n` is the Lean counterpart of a Rust `[u8; n]`: a list of bytes that
  carries its length, so a nonce, a key or a device id of the wrong size cannot
  be built.  `toBe w v` writes the low `w` bytes of `v` most significant
  byte first, `ofBe` reads them back.
-/

import Mathlib.Algebra.Ring.Nat
import Mathlib.Data.List.Induction

namespace TfScale

/-- A byte string (`Vec<u8>`, `&[u8]`). -/
abbrev Bytes := List UInt8

/-- A fixed-size byte array (`[u8; n]`). -/
abbrev ByteArr (n : Nat) := { bs : Bytes // bs.length = n }

/-- The UTF-8 bytes of a string (`str::as_bytes`). -/
def strBytes (s : String) : Bytes := s.toByteArray.data.toList

theorem strBytes_append (s t : String) : strBytes (s ++ t) = strBytes s ++ strBytes t := by
  simp [strBytes, String.toByteArray_append]

theorem strBytes_ofList (cs : List Char) :
    strBytes (String.ofList cs) = cs.flatMap String.utf8EncodeChar := by
  simp [strBytes, List.utf8Encode]

theorem strBytes_injective : Function.Injective strBytes := by
  intro s t h
  apply String.toByteArray_inj.mp
  apply ByteArray.ext
  apply Array.toList_inj.mp
  exact h

namespace ByteArr

/-- The array with every byte equal to `b` (`[b; n]`). -/
def replicate (n : Nat) (b : UInt8) : ByteArr n := ⟨List.replicate n b, by simp⟩

/-- Copy of `n` bytes of `bs` starting at `off`; the caller proves that they exist. -/
def ofSlice (bs : Bytes) (off n : Nat) (h : off + n ≤ bs.length) : ByteArr n :=
  ⟨(bs.drop off).take n, by rw [List.length_take, List.length_drop]; omega⟩

@[simp] theorem ofSlice_val (bs : Bytes) (off n : Nat) (h : off + n ≤ bs.length) :
    (ofSlice bs off n h).val = (bs.drop off).take n := rfl

@[simp] theorem length_val {n : Nat} (a : ByteArr n) : a.val.length = n := a.property

end ByteArr

-- ============================================================================
-- Big-endian integers
-- ============================================================================

/-- The low `w` bytes of `v`, most significant byte first (`to_be_bytes`). -/
def toBe : Nat → Nat → Bytes
  | 0, _ => []
  | w + 1, v => toBe w (v / 256) ++ [UInt8.ofNat v]

/-- The number a byte string denotes, most significant byte first (`from_be_bytes`). -/
def ofBe (bs : Bytes) : Nat := bs.foldl (fun acc b => 256 * acc + b.toNat) 0

@[simp] theorem toBe_length (w v : Nat) : (toBe w v).length = w := by
  induction w generalizing v with
  | zero => rfl
  | succ w ih => simp only [toBe, List.length_append, ih, List.length_singleton]

/-- Appending a byte shifts the number by eight bits. -/
theorem ofBe_concat (bs : Bytes) (b : UInt8) :
    ofBe (bs ++ [b]) = 256 * ofBe bs + b.toNat := by
  simp only [ofBe, List.foldl_append, List.foldl_cons, List.foldl_nil]

/-- Reading back the bytes of a number that fits in `w` bytes. -/
theorem ofBe_toBe {w v : Nat} (h : v < 256 ^ w) : ofBe (toBe w v) = v := by
  induction w generalizing v with
  | zero =>
      have hv : v = 0 := by simpa using h
      rw [hv]
      rfl
  | succ w ih =>
      have hdiv : v / 256 < 256 ^ w :=
        Nat.div_lt_of_lt_mul (by rwa [Nat.pow_succ'] at h)
      calc ofBe (toBe (w + 1) v)
          = 256 * ofBe (toBe w (v / 256)) + (UInt8.ofNat v).toNat := ofBe_concat _ _
        _ = 256 * (v / 256) + v % 256 := by rw [ih hdiv]; rfl
        _ = v := Nat.div_add_mod v 256

theorem ofBe_lt (bs : Bytes) : ofBe bs < 256 ^ bs.length := by
  induction bs using List.reverseRecOn with
  | nil => exact Nat.one_pos
  | append_singleton bs b ih =>
      have hb := b.toNat_lt
      rw [ofBe_concat, List.length_append, List.length_singleton, Nat.pow_succ]
      omega

theorem ofNat_toNat_add {b : UInt8} {k : Nat} : UInt8.ofNat (256 * k + b.toNat) = b := by
  apply UInt8.toNat_inj.mp
  have hb := b.toNat_lt
  change (256 * k + b.toNat) % 256 = b.toNat
  omega

/-- Writing the number that some bytes denote gives the bytes. -/
theorem toBe_ofBe (bs : Bytes) : toBe bs.length (ofBe bs) = bs := by
  induction bs using List.reverseRecOn with
  | nil => rfl
  | append_singleton bs b ih =>
      have hb := b.toNat_lt
      have hdiv : (256 * ofBe bs + b.toNat) / 256 = ofBe bs := by omega
      rw [List.length_append, List.length_singleton, toBe, ofBe_concat, hdiv, ih,
        ofNat_toNat_add]

/-- Fixed-width encodings of different numbers differ. -/
theorem toBe_inj {w v v' : Nat} (h : v < 256 ^ w) (h' : v' < 256 ^ w)
    (heq : toBe w v = toBe w v') : v = v' := by
  rw [← ofBe_toBe h, ← ofBe_toBe h', heq]

end TfScale
