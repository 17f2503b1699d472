/-
  TfScale.Custom.Externals

  The third-party functions that the custom backend calls, as a parameter of
  the model: `uuid`, `base64`, `x25519-dalek`, `hkdf` over SHA-256 and
  `chacha20poly1305`.  `Lawful` lists what the backend relies on.

  `Externals.reference` is a lawful instance that can be evaluated.  Its Base64
  and its UUID form are the real ones; its key agreement, key derivation and
  cipher only have the shape of the real ones (sizes, commutativity, a 16-byte
  tag over key, nonce, associated data and message).
-/

import TfScale.Lib.Base64
import TfScale.Custom.Frame

namespace TfScale.Custom

structure Externals where
  /-- `Uuid::parse_str` -/
  uuidParse : String → Except String (ByteArr 16)
  /-- `URL_SAFE_NO_PAD.encode` -/
  base64Encode : Bytes → String
  /-- `URL_SAFE_NO_PAD.decode` -/
  base64Decode : String → Except String Bytes
  /-- `PublicKey::from(&StaticSecret)` -/
  x25519Public : ByteArr 32 → ByteArr 32
  /-- `StaticSecret::diffie_hellman` -/
  diffieHellman : ByteArr 32 → ByteArr 32 → ByteArr 32
  /-- HKDF-SHA256 with salt, input key material and info, expanded to `n` bytes. -/
  hkdf : Bytes → Bytes → Bytes → (n : Nat) → ByteArr n
  /-- XChaCha20-Poly1305 under key, nonce and associated data; fails on
      messages above the cipher's length limit. -/
  aeadEncrypt : ByteArr 32 → Nonce → Bytes → Bytes → Option Bytes
  aeadDecrypt : ByteArr 32 → Nonce → Bytes → Bytes → Option Bytes

/-- The documented behaviour that the backend relies on. -/
structure Externals.Lawful (X : Externals) : Prop where
  base64_round_trip : ∀ bs, X.base64Decode (X.base64Encode bs) = .ok bs
  diffieHellman_comm : ∀ a b,
    X.diffieHellman a (X.x25519Public b) = X.diffieHellman b (X.x25519Public a)
  decrypt_encrypt : ∀ key nonce aad msg ciphertext,
    X.aeadEncrypt key nonce aad msg = some ciphertext →
      X.aeadDecrypt key nonce aad ciphertext = some msg

-- ============================================================================
-- A lawful instance
-- ============================================================================

namespace Reference

/-- The simple form of a UUID: 32 hexadecimal digits. -/
def uuidParse (s : String) : Except String (ByteArr 16) :=
  let digits := s.toList.filterMap (AddrParser.toDigit 16)
  if digits.length = s.toList.length ∧ digits.length = 32 then
    let n := digits.foldl (fun acc digit => acc * 16 + digit) 0
    .ok ⟨toBe 16 n, by simp⟩
  else .error "invalid character or length in UUID"

def base64Encode (bs : Bytes) : String := String.ofList (Base64.encode Base64.urlSafeDigit bs)

def base64Decode (s : String) : Except String Bytes :=
  match Base64.decode Base64.urlSafeValue s.toList with
  | some bs => .ok bs
  | none => .error "invalid Base64 input"

/-- Bytewise exclusive or of a secret and a public value. -/
def diffieHellman (a b : ByteArr 32) : ByteArr 32 :=
  ⟨List.zipWith (· ^^^ ·) a.val b.val, by simp⟩

/-- A polynomial checksum of a byte string. -/
def checksum (bs : Bytes) : Nat :=
  bs.foldl (fun acc b => (acc * 65599 + b.toNat + 1) % 18446744073709551557) 7

def hkdf (salt ikm info : Bytes) (n : Nat) : ByteArr n :=
  let h := checksum (salt ++ ikm ++ info)
  ⟨(List.range n).map fun i => UInt8.ofNat (h / 256 ^ (i % 8) + i / 8), by simp⟩

/-- The 16-byte tag of a message. -/
def tag (key : ByteArr 32) (nonce : Nonce) (aad msg : Bytes) : Bytes :=
  toBe 16 (checksum (key.val ++ nonce.val ++ aad ++ msg))

def aeadEncrypt (key : ByteArr 32) (nonce : Nonce) (aad msg : Bytes) : Option Bytes :=
  some (msg ++ tag key nonce aad msg)

def aeadDecrypt (key : ByteArr 32) (nonce : Nonce) (aad ciphertext : Bytes) : Option Bytes :=
  let msg := ciphertext.take (ciphertext.length - 16)
  if ciphertext = msg ++ tag key nonce aad msg then some msg else none

end Reference

def Externals.reference : Externals where
  uuidParse := Reference.uuidParse
  base64Encode := Reference.base64Encode
  base64Decode := Reference.base64Decode
  x25519Public := id
  diffieHellman := Reference.diffieHellman
  hkdf := Reference.hkdf
  aeadEncrypt := Reference.aeadEncrypt
  aeadDecrypt := Reference.aeadDecrypt

theorem Externals.reference_lawful : Externals.reference.Lawful where
  base64_round_trip := by
    intro bs
    simp only [reference, Reference.base64Decode, Reference.base64Encode, String.toList_ofList,
      Base64.decode_encode Base64.urlSafeValue_digit]
  diffieHellman_comm := by
    intro a b
    apply Subtype.ext
    change List.zipWith (· ^^^ ·) a.val b.val = List.zipWith (· ^^^ ·) b.val a.val
    rw [List.zipWith_comm]
    congr 1
    funext x y
    exact UInt8.xor_comm y x
  decrypt_encrypt := by
    intro key nonce aad msg ciphertext h
    obtain rfl : msg ++ Reference.tag key nonce aad msg = ciphertext := Option.some.inj h
    have htake : (msg ++ Reference.tag key nonce aad msg).take
        ((msg ++ Reference.tag key nonce aad msg).length - 16) = msg := by
      rw [List.length_append, Reference.tag, toBe_length, Nat.add_sub_cancel, List.take_left]
    simp only [reference, Reference.aeadDecrypt, htake, if_true]

end TfScale.Custom
