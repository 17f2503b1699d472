/-
  TfScale.Lib.Text

  Text functions of the Rust standard library: UTF-8 validation
  (`std::str::from_utf8`), integer parsing (`str::parse` at an unsigned type),
  `char::is_whitespace` and `str::split_whitespace`, ASCII case, and `hex::encode`.
-/

import Mathlib.Data.List.DropRight
import Mathlib.Data.List.Forall2
import TfScale.Lib.Bytes

namespace TfScale.Text

-- ============================================================================
-- UTF-8
-- ============================================================================

/-- `std::str::Utf8Error` -/
structure Utf8Error where
  validUpTo : Nat
  errorLen : Option Nat
deriving DecidableEq, Repr

namespace Utf8Error

/-- The text of the error (`Display`). -/
def text (e : Utf8Error) : String :=
  match e.errorLen with
  | some n =>
      "invalid utf-8 sequence of " ++ toString n ++ " bytes from index " ++ toString e.validUpTo
  | none => "incomplete utf-8 byte sequence from index " ++ toString e.validUpTo

end Utf8Error

/-- A continuation byte `10xxxxxx`. -/
def isContinuation (b : UInt8) : Bool := 0x80 ≤ b && b ≤ 0xBF

/-- The number of bytes of a sequence, by its first byte; `0` for none. -/
def charWidth (b : UInt8) : Nat :=
  if b < 0x80 then 1
  else if 0xC2 ≤ b && b ≤ 0xDF then 2
  else if 0xE0 ≤ b && b ≤ 0xEF then 3
  else if 0xF0 ≤ b && b ≤ 0xF4 then 4
  else 0

/-- The second bytes allowed after a first byte: no overlong forms, no
    surrogates, nothing above `U+10FFFF`. -/
def secondAllowed (first second : UInt8) : Bool :=
  if first = 0xE0 then 0xA0 ≤ second && second ≤ 0xBF
  else if first = 0xED then 0x80 ≤ second && second ≤ 0x9F
  else if first = 0xF0 then 0x90 ≤ second && second ≤ 0xBF
  else if first = 0xF4 then 0x80 ≤ second && second ≤ 0x8F
  else isContinuation second

/-- The low six bits of a continuation byte. -/
def payload (b : UInt8) : Nat := b.toNat % 64

/-- One scalar value and the number of its bytes, or the length of the error. -/
def decodeChar : Bytes → Except (Option Nat) (Char × Nat)
  | [] => .error none
  | first :: rest =>
      match charWidth first with
      | 1 => .ok (Char.ofNat first.toNat, 1)
      | 2 =>
          match rest with
          | [] => .error none
          | second :: _ =>
              if isContinuation second then
                .ok (Char.ofNat (64 * (first.toNat % 32) + payload second), 2)
              else .error (some 1)
      | 3 =>
          match rest with
          | [] => .error none
          | second :: rest =>
              if !secondAllowed first second then .error (some 1)
              else
                match rest with
                | [] => .error none
                | third :: _ =>
                    if isContinuation third then
                      .ok (Char.ofNat (4096 * (first.toNat % 16) + 64 * payload second +
                        payload third), 3)
                    else .error (some 2)
      | 4 =>
          match rest with
          | [] => .error none
          | second :: rest =>
              if !secondAllowed first second then .error (some 1)
              else
                match rest with
                | [] => .error none
                | third :: rest =>
                    if !isContinuation third then .error (some 2)
                    else
                      match rest with
                      | [] => .error none
                      | fourth :: _ =>
                          if isContinuation fourth then
                            .ok (Char.ofNat (262144 * (first.toNat % 8) + 4096 * payload second +
                              64 * payload third + payload fourth), 4)
                          else .error (some 3)
      | _ => .error (some 1)

/-- `from_utf8` from byte `index` on; every scalar value takes at least one of
    the `fuel` bytes left. -/
def fromUtf8From (bytes : Bytes) : Nat → Nat → Except Utf8Error (List Char)
  | 0, _ => .ok []
  | fuel + 1, index =>
      match bytes.drop index with
      | [] => .ok []
      | rest =>
          match decodeChar rest with
          | .error errorLen => .error ⟨index, errorLen⟩
          | .ok (ch, width) =>
              match fromUtf8From bytes fuel (index + width) with
              | .error e => .error e
              | .ok chars => .ok (ch :: chars)

/-- `std::str::from_utf8` -/
def fromUtf8 (bytes : Bytes) : Except Utf8Error (List Char) :=
  fromUtf8From bytes (bytes.length + 1) 0

example : fromUtf8 (strBytes "aé") = .ok ['a', 'é'] := by decide
example : fromUtf8 [97, 0xC3] = .error ⟨1, none⟩ := by decide

/-- A character below `0x80` is one byte. -/
theorem utf8EncodeChar_ascii {ch : Char} (h : ch.toNat < 128) :
    String.utf8EncodeChar ch = [UInt8.ofNat ch.toNat] := by
  have hval : ch.val.toNat = ch.toNat := rfl
  rw [String.utf8EncodeChar]
  simp only [hval, if_pos (show ch.toNat ≤ 127 by omega)]

theorem strBytes_ascii {text : List Char} (h : ∀ ch ∈ text, ch.toNat < 128) :
    strBytes (String.ofList text) = text.map fun ch => UInt8.ofNat ch.toNat := by
  rw [strBytes_ofList]
  induction text with
  | nil => rfl
  | cons ch text ih =>
      rw [List.flatMap_cons, utf8EncodeChar_ascii (h ch List.mem_cons_self),
        ih fun c hc => h c (List.mem_cons_of_mem _ hc), List.map_cons, List.singleton_append]

-- ============================================================================
-- The order of texts
-- ============================================================================

/-- Behind prefixes of one length, the rest is compared only if these agree. -/
theorem append_lt_append_iff {α : Type*} [LT α] {p q l l' : List α} (h : p.length = q.length) :
    p ++ l < q ++ l' ↔ p < q ∨ p = q ∧ l < l' := by
  induction p generalizing q with
  | nil =>
      obtain rfl : q = [] := List.length_eq_zero_iff.mp h.symm
      simp
  | cons a p ih =>
      cases q with
      | nil => cases h
      | cons b q =>
          rw [List.cons_append, List.cons_append, List.cons_lt_cons_iff, List.cons_lt_cons_iff,
            ih (Nat.succ.inj h), List.cons.injEq]
          tauto

/-- Texts of ASCII characters are ordered as their bytes are. -/
theorem strBytes_lt_iff {a b : List Char} (ha : ∀ ch ∈ a, ch.toNat < 128)
    (hb : ∀ ch ∈ b, ch.toNat < 128) :
    strBytes (String.ofList a) < strBytes (String.ofList b) ↔ a < b := by
  rw [strBytes_ascii ha, strBytes_ascii hb]
  induction a generalizing b with
  | nil => cases b <;> simp
  | cons x a ih =>
      cases b with
      | nil => simp
      | cons y b =>
          have hx := ha x List.mem_cons_self
          have hy := hb y List.mem_cons_self
          have hlt : UInt8.ofNat x.toNat < UInt8.ofNat y.toNat ↔ x < y := by
            rw [UInt8.lt_iff_toNat_lt, UInt8.toNat_ofNat', UInt8.toNat_ofNat',
              Nat.mod_eq_of_lt (by omega), Nat.mod_eq_of_lt (by omega)]
            rfl
          have heq : UInt8.ofNat x.toNat = UInt8.ofNat y.toNat ↔ x = y := by
            rw [← UInt8.toNat_inj, UInt8.toNat_ofNat', UInt8.toNat_ofNat',
              Nat.mod_eq_of_lt (by omega), Nat.mod_eq_of_lt (by omega)]
            exact ⟨fun h => by rw [← Char.ofNat_toNat x, h, Char.ofNat_toNat], congrArg _⟩
          rw [List.map_cons, List.map_cons, List.cons_lt_cons_iff, List.cons_lt_cons_iff, hlt, heq,
            ih (fun c hc => ha c (List.mem_cons_of_mem _ hc)) fun c hc => hb c (List.mem_cons_of_mem _ hc)]

-- ============================================================================
-- Integers
-- ============================================================================

inductive ParseIntError where
  | empty
  | invalidDigit
  | posOverflow
deriving DecidableEq, Repr

namespace ParseIntError

/-- The text of the error (`Display`). -/
def text : ParseIntError → String
  | empty => "cannot parse integer from empty string"
  | invalidDigit => "invalid digit found in string"
  | posOverflow => "number too large to fit in target type"

end ParseIntError

/-- The value of a decimal digit. -/
def digitValue (ch : Char) : Option Nat :=
  if '0' ≤ ch ∧ ch ≤ '9' then some (ch.toNat - '0'.toNat) else none

/-- The digits of a number below `bound`, most significant first. -/
def parseDigits (bound : Nat) : Nat → List Char → Except ParseIntError Nat
  | value, [] => .ok value
  | value, ch :: rest =>
      match digitValue ch with
      | none => .error .invalidDigit
      | some digit =>
          if 10 * value + digit < bound then parseDigits bound (10 * value + digit) rest
          else .error .posOverflow

/-- `str::parse` at an unsigned type with values below `bound`; one leading plus
    sign is allowed. -/
def parseUnsigned (bound : Nat) : List Char → Except ParseIntError Nat
  | [] => .error .empty
  | ['+'] => .error .invalidDigit
  | '+' :: digits => parseDigits bound 0 digits
  | digits => parseDigits bound 0 digits

-- ============================================================================
-- White space
-- ============================================================================

/-- `char::is_whitespace` -/
def isWhitespace (ch : Char) : Bool :=
  let n := ch.toNat
  (9 ≤ n && n ≤ 13) || n == 0x20 || n == 0x85 || n == 0xA0 || n == 0x1680 ||
    (0x2000 ≤ n && n ≤ 0x200A) || n == 0x2028 || n == 0x2029 || n == 0x202F || n == 0x205F ||
    n == 0x3000

/-- `str::split_whitespace` -/
def splitWhitespace (text : List Char) : List (List Char) :=
  (text.splitOnP isWhitespace).filter (· ≠ [])

/-- `str::trim` -/
def trim (text : List Char) : List Char :=
  ((text.dropWhile isWhitespace).reverse.dropWhile isWhitespace).reverse

/-- The text is `core` with nothing but white space around it, and as much of that as
    there is. -/
def Trimmed (text core : List Char) : Prop :=
  ∃ before after, text = before ++ core ++ after ∧
    (∀ ch ∈ before, isWhitespace ch = true) ∧ (∀ ch ∈ after, isWhitespace ch = true) ∧
    (∀ ch, core.head? = some ch → isWhitespace ch = false) ∧
    (∀ ch, core.getLast? = some ch → isWhitespace ch = false)

theorem dropWhile_isWhitespace {text : List Char}
    (h : ∀ ch, text.head? = some ch → isWhitespace ch = false) : text.dropWhile isWhitespace = text := by
  cases text with
  | nil => rfl
  | cons ch rest =>
      rw [List.dropWhile_cons_of_neg]
      rw [h ch rfl]
      exact Bool.false_ne_true

theorem isWhitespace_head?_dropWhile {text : List Char} {ch : Char}
    (h : (text.dropWhile isWhitespace).head? = some ch) : isWhitespace ch = false := by
  have hfirst := List.head?_dropWhile_not isWhitespace text
  rw [h] at hfirst
  exact Bool.not_eq_true' _ |>.mp (by simpa using hfirst)

theorem trim_eq_iff {text core : List Char} : trim text = core ↔ Trimmed text core := by
  constructor
  · rintro rfl
    have hback : trim text ++ ((text.dropWhile isWhitespace).reverse.takeWhile isWhitespace).reverse =
        text.dropWhile isWhitespace := by
      rw [trim, ← List.reverse_append, List.takeWhile_append_dropWhile, List.reverse_reverse]
    refine ⟨text.takeWhile isWhitespace,
      ((text.dropWhile isWhitespace).reverse.takeWhile isWhitespace).reverse, ?_,
      fun ch hch => List.mem_takeWhile_imp hch,
      fun ch hch => List.mem_takeWhile_imp (List.mem_reverse.mp hch), fun ch hch => ?_, fun ch hch => ?_⟩
    · rw [List.append_assoc, hback, List.takeWhile_append_dropWhile]
    · have hfirst : (text.dropWhile isWhitespace).head? = some ch := by
        rw [← hback, List.head?_append, hch]
        rfl
      exact isWhitespace_head?_dropWhile hfirst
    · rw [trim, List.getLast?_reverse] at hch
      exact isWhitespace_head?_dropWhile hch
  · rintro ⟨before, after, rfl, hbefore, hafter, hfirst, hlast⟩
    have hafter' : ∀ ch ∈ after.reverse, isWhitespace ch = true :=
      fun ch hch => hafter ch (List.mem_reverse.mp hch)
    cases core with
    | nil =>
        rw [trim, List.append_nil, List.dropWhile_append_of_pos hbefore,
          List.dropWhile_eq_nil_iff.mpr hafter]
        rfl
    | cons ch rest =>
        have hcut : (before ++ ch :: rest ++ after).dropWhile isWhitespace = ch :: rest ++ after := by
          rw [List.append_assoc, List.dropWhile_append_of_pos hbefore]
          exact dropWhile_isWhitespace hfirst
        rw [trim, hcut, List.reverse_append, List.dropWhile_append_of_pos hafter',
          dropWhile_isWhitespace, List.reverse_reverse]
        rw [List.head?_reverse]
        exact hlast

/-- `char::to_ascii_lowercase` -/
def toAsciiLowercase (ch : Char) : Char :=
  if 'A' ≤ ch && ch ≤ 'Z' then Char.ofNat (ch.toNat + 32) else ch

-- ============================================================================
-- ASCII case
-- ============================================================================

/-- `str::eq_ignore_ascii_case` -/
def eqIgnoreAsciiCase (a b : List Char) : Bool :=
  a.map toAsciiLowercase == b.map toAsciiLowercase

/-- The same character, or the two cases of an ASCII letter. -/
def SameLetter (a b : Char) : Prop :=
  a = b ∨ ('A' ≤ a ∧ a ≤ 'Z' ∧ b.toNat = a.toNat + 32) ∨ ('A' ≤ b ∧ b ≤ 'Z' ∧ a.toNat = b.toNat + 32)

/-- Two texts that differ in the case of ASCII letters only. -/
def CaseVariant (a b : List Char) : Prop := List.Forall₂ SameLetter a b

theorem char_le_iff {a b : Char} : a ≤ b ↔ a.toNat ≤ b.toNat := UInt32.le_iff_toNat_le

theorem toAsciiLowercase_toNat (ch : Char) : (toAsciiLowercase ch).toNat =
    if 65 ≤ ch.toNat ∧ ch.toNat ≤ 90 then ch.toNat + 32 else ch.toNat := by
  have hupper : ('A' ≤ ch && ch ≤ 'Z') = true ↔ 65 ≤ ch.toNat ∧ ch.toNat ≤ 90 := by
    rw [Bool.and_eq_true, decide_eq_true_eq, decide_eq_true_eq, char_le_iff, char_le_iff]
    rfl
  unfold toAsciiLowercase
  by_cases h : 65 ≤ ch.toNat ∧ ch.toNat ≤ 90
  · have hvalid : (ch.toNat + 32).isValidChar := Or.inl (by omega)
    rw [if_pos (hupper.mpr h), if_pos h, Char.ofNat, dif_pos hvalid]
    rfl
  · rw [if_neg (fun hup => h (hupper.mp hup)), if_neg h]

theorem sameLetter_iff {a b : Char} :
    SameLetter a b ↔ toAsciiLowercase a = toAsciiLowercase b := by
  have hA : 'A'.toNat = 65 := rfl
  have hZ : 'Z'.toNat = 90 := rfl
  rw [SameLetter, ← Char.toNat_inj, ← Char.toNat_inj, toAsciiLowercase_toNat, toAsciiLowercase_toNat,
    char_le_iff, char_le_iff, char_le_iff, char_le_iff, hA, hZ]
  split <;> split <;> omega

theorem caseVariant_iff {a b : List Char} :
    CaseVariant a b ↔ a.map toAsciiLowercase = b.map toAsciiLowercase := by
  have heq : (SameLetter : Char → Char → Prop) =
      fun x y => toAsciiLowercase x = toAsciiLowercase y := by
    funext x y
    exact propext sameLetter_iff
  rw [CaseVariant, heq, ← List.forall₂_eq_eq_eq, List.forall₂_map_left_iff,
    List.forall₂_map_right_iff]

/-- A character that is no letter stands for itself. -/
theorem toAsciiLowercase_eq_dot {ch : Char} : toAsciiLowercase ch = '.' ↔ ch = '.' := by
  have hdot : '.'.toNat = 46 := rfl
  rw [← Char.toNat_inj, ← Char.toNat_inj, toAsciiLowercase_toNat, hdot]
  split <;> omega

-- ============================================================================
-- Splitting
-- ============================================================================

section Split

variable {α : Type*} [DecidableEq α] {sep : α}

/-- A part does not contain what was split at. -/
theorem not_mem_of_mem_splitOn {l part : List α} (h : part ∈ l.splitOn sep) : sep ∉ part := by
  induction l generalizing part with
  | nil =>
      rw [List.splitOn_nil, List.mem_singleton] at h
      rw [h]
      exact List.not_mem_nil
  | cons x l ih =>
      rw [List.splitOn_cons_eq_if_modifyHead] at h
      split at h
      · rcases List.mem_cons.mp h with rfl | h
        · exact List.not_mem_nil
        · exact ih h
      · rename_i hne
        cases hsplit : l.splitOn sep with
        | nil => exact absurd hsplit (List.splitOn_ne_nil sep l)
        | cons first rest =>
            rw [hsplit] at h ih
            rcases List.mem_cons.mp h with rfl | h
            · have hx : ¬ x = sep := fun heq => hne (beq_iff_eq.mpr heq)
              rw [List.mem_cons, not_or]
              exact ⟨fun heq => hx heq.symm, ih List.mem_cons_self⟩
            · exact ih (List.mem_cons_of_mem _ h)

/-- Replacing what is not split at leaves the parts where they are. -/
theorem splitOn_map {f : α → α} (hf : ∀ x, f x = sep ↔ x = sep) (l : List α) :
    (l.map f).splitOn sep = (l.splitOn sep).map (List.map f) := by
  induction l with
  | nil => rfl
  | cons x l ih =>
      have hsep : (f x == sep) = (x == sep) := by
        rw [Bool.eq_iff_iff, beq_iff_eq, beq_iff_eq, hf x]
      rw [List.map_cons, List.splitOn_cons_eq_if_modifyHead, List.splitOn_cons_eq_if_modifyHead,
        hsep, ih]
      split
      · rfl
      · cases l.splitOn sep <;> rfl

end Split

-- ============================================================================
-- Hexadecimal
-- ============================================================================

/-- `hex::encode` -/
def hexEncode (bytes : Bytes) : String :=
  String.ofList (bytes.flatMap fun b => [Nat.digitChar (b.toNat / 16), Nat.digitChar (b.toNat % 16)])

example : hexEncode [0, 31, 255] = "001fff" := by decide

/-- The digits of a number are digits. -/
theorem mem_toDigits {b n : Nat} (hb : 1 < b) {ch : Char} (h : ch ∈ Nat.toDigits b n) :
    ∃ d < b, ch = Nat.digitChar d := by
  induction n using Nat.strongRecOn with
  | ind n ih =>
      rw [Nat.toDigits_eq_if hb] at h
      split at h
      · rename_i hlt
        exact ⟨n, hlt, List.mem_singleton.mp h⟩
      · rename_i hge
        rcases List.mem_append.mp h with h | h
        · exact ih (n / b) (Nat.div_lt_self (by omega) hb) h
        · exact ⟨n % b, Nat.mod_lt n (by omega), List.mem_singleton.mp h⟩

theorem hexDigit_length {n : Nat} (h : n < 16) :
    (String.utf8EncodeChar (Nat.digitChar n)).length = 1 := by
  rw [String.length_utf8EncodeChar]
  revert n
  decide

theorem hexEncode_length (bytes : Bytes) : (strBytes (hexEncode bytes)).length = 2 * bytes.length := by
  rw [hexEncode, strBytes_ofList]
  induction bytes with
  | nil => rfl
  | cons b bs ih =>
      have hhigh : b.toNat / 16 < 16 := by have := b.toNat_lt; omega
      have hlow : b.toNat % 16 < 16 := by omega
      rw [List.flatMap_cons, List.flatMap_append, List.length_append, ih]
      simp only [List.flatMap_cons, List.flatMap_nil, List.append_nil, List.length_append,
        List.length_cons, hexDigit_length hhigh, hexDigit_length hlow]
      omega

theorem digitChar_inj {m n : Nat} (hm : m < 16) (hn : n < 16)
    (h : Nat.digitChar m = Nat.digitChar n) : m = n := by
  have hall : ∀ m < 16, ∀ n < 16, Nat.digitChar m = Nat.digitChar n → m = n := by decide
  exact hall m hm n hn h

theorem hexEncode_injective : Function.Injective hexEncode := by
  intro as bs h
  replace h := String.ofList_injective h
  induction as generalizing bs with
  | nil =>
      cases bs with
      | nil => rfl
      | cons b bs => cases h
  | cons a as ih =>
      cases bs with
      | nil => cases h
      | cons b bs =>
          simp only [List.flatMap_cons, List.cons_append, List.nil_append, List.cons.injEq] at h
          obtain ⟨hhigh, hlow, hrest⟩ := h
          have ha := a.toNat_lt
          have hb := b.toNat_lt
          have h₁ := digitChar_inj (by omega) (by omega) hhigh
          have h₂ := digitChar_inj (by omega) (by omega) hlow
          rw [ih hrest, UInt8.toNat_inj.mp (by omega : a.toNat = b.toNat)]

example : splitWhitespace " a  bc ".toList = [['a'], ['b', 'c']] := by decide

end TfScale.Text
