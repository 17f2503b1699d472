/-
  TfScale.Lib.Numerals

  Decimal numerals: what `str::parse` reads at an unsigned type, and what is written for a
  number.

  `Numeral text n` is the grammar, decimal digits after an optional plus sign.  Reading
  accepts the numerals of the numbers that fit (`parseUnsigned_eq_ok_iff`), and the
  digits of a number are a numeral of it (`numeral_toString`).
-/

import TfScale.Lib.Text

namespace TfScale.Text

/-- A decimal digit. -/
def IsDigit (ch : Char) : Prop := '0' ≤ ch ∧ ch ≤ '9'

instance (ch : Char) : Decidable (IsDigit ch) := inferInstanceAs (Decidable (_ ∧ _))

/-- The text is a numeral of `n`: decimal digits, with at most a plus sign before them. -/
def Numeral (text : List Char) (n : Nat) : Prop :=
  ∃ sign digits, text = sign ++ digits ∧ (sign = [] ∨ sign = ['+']) ∧ digits ≠ [] ∧
    (∀ ch ∈ digits, IsDigit ch) ∧ Nat.ofDigitChars 10 digits 0 = n

-- ============================================================================
-- Reading
-- ============================================================================

theorem digitValue_of_isDigit {ch : Char} (h : IsDigit ch) : digitValue ch = some (ch.toNat - 48) :=
  if_pos h

theorem digitValue_of_not_isDigit {ch : Char} (h : ¬ IsDigit ch) : digitValue ch = none :=
  if_neg h

/-- More digits make the number no smaller. -/
theorem le_ofDigitChars (digits : List Char) (value : Nat) : value ≤ Nat.ofDigitChars 10 digits value := by
  induction digits generalizing value with
  | nil => exact Nat.le_refl value
  | cons ch digits ih =>
      rw [Nat.ofDigitChars_cons]
      have hstep : value ≤ 10 * value + (ch.toNat - '0'.toNat) := by omega
      exact hstep.trans (ih _)

/-- The digits are read when all of them are digits and the number stays below the bound. -/
theorem parseDigits_eq_ok_iff {bound value n : Nat} {digits : List Char} :
    parseDigits bound value digits = .ok n ↔
      (∀ ch ∈ digits, IsDigit ch) ∧ Nat.ofDigitChars 10 digits value = n ∧ (digits = [] ∨ n < bound) := by
  induction digits generalizing value with
  | nil =>
      rw [parseDigits, Except.ok.injEq, Nat.ofDigitChars_nil]
      exact ⟨fun h => ⟨nofun, h, Or.inl rfl⟩, fun h => h.2.1⟩
  | cons ch digits ih =>
      rw [parseDigits, Nat.ofDigitChars_cons, List.forall_mem_cons]
      by_cases hdigit : IsDigit ch
      · rw [digitValue_of_isDigit hdigit]
        have hle := le_ofDigitChars digits (10 * value + (ch.toNat - '0'.toNat))
        have hzero : '0'.toNat = 48 := rfl
        rw [hzero] at hle ⊢
        simp only
        split
        · rename_i hlt
          rw [ih]
          constructor
          · rintro ⟨hall, rfl, hbound⟩
            refine ⟨⟨hdigit, hall⟩, rfl, Or.inr ?_⟩
            rcases hbound with rfl | hbound
            · exact hlt
            · exact hbound
          · rintro ⟨⟨-, hall⟩, rfl, hbound⟩
            exact ⟨hall, rfl, Or.inr (hbound.resolve_left (List.cons_ne_nil _ _))⟩
        · rename_i hge
          refine ⟨nofun, ?_⟩
          rintro ⟨-, rfl, hbound⟩
          have hlt := hbound.resolve_left (List.cons_ne_nil _ _)
          omega
      · rw [digitValue_of_not_isDigit hdigit]
        exact ⟨nofun, fun h => absurd h.1.1 hdigit⟩

/-- A numeral that does not begin with a sign is its digits. -/
theorem numeral_cons_iff {ch : Char} {rest : List Char} {n : Nat} (hne : ch ≠ '+') :
    Numeral (ch :: rest) n ↔
      (∀ c ∈ ch :: rest, IsDigit c) ∧ Nat.ofDigitChars 10 (ch :: rest) 0 = n := by
  constructor
  · rintro ⟨sign, digits, htext, rfl | rfl, -, hall, hvalue⟩
    · rw [List.nil_append] at htext
      rw [htext]
      exact ⟨hall, hvalue⟩
    · exact absurd (List.cons.inj htext).1 hne
  · rintro ⟨hall, hvalue⟩
    exact ⟨[], ch :: rest, rfl, Or.inl rfl, List.cons_ne_nil _ _, hall, hvalue⟩

/-- What follows a plus sign are the digits. -/
theorem numeral_plus_iff {rest : List Char} {n : Nat} : Numeral ('+' :: rest) n ↔
    rest ≠ [] ∧ (∀ ch ∈ rest, IsDigit ch) ∧ Nat.ofDigitChars 10 rest 0 = n := by
  constructor
  · rintro ⟨sign, digits, htext, rfl | rfl, hne, hall, hvalue⟩
    · rw [List.nil_append] at htext
      have hplus : IsDigit '+' := hall '+' (htext ▸ List.mem_cons_self)
      exact absurd hplus (by decide)
    · obtain rfl := (List.cons.inj htext).2
      exact ⟨hne, hall, hvalue⟩
  · rintro ⟨hne, hall, hvalue⟩
    exact ⟨['+'], rest, rfl, Or.inr rfl, hne, hall, hvalue⟩

/-- `str::parse` reads the numerals of the numbers that fit. -/
theorem parseUnsigned_eq_ok_iff {bound n : Nat} {text : List Char} :
    parseUnsigned bound text = .ok n ↔ Numeral text n ∧ n < bound := by
  have hdigits : ∀ digits, digits ≠ [] → (parseDigits bound 0 digits = .ok n ↔
      ((∀ ch ∈ digits, IsDigit ch) ∧ Nat.ofDigitChars 10 digits 0 = n) ∧ n < bound) := by
    intro digits hne
    rw [parseDigits_eq_ok_iff, and_assoc, or_iff_right hne]
  cases text with
  | nil =>
      refine ⟨nofun, ?_⟩
      rintro ⟨⟨sign, digits, htext, -, hne, -⟩, -⟩
      exact absurd (List.append_eq_nil_iff.mp htext.symm).2 hne
  | cons ch rest =>
      by_cases hsign : ch = '+'
      · subst hsign
        rw [numeral_plus_iff]
        cases rest with
        | nil => exact ⟨nofun, fun h => absurd rfl h.1.1⟩
        | cons c rest =>
            rw [parseUnsigned, hdigits _ (List.cons_ne_nil _ _)]
            · exact ⟨fun h => ⟨⟨List.cons_ne_nil _ _, h.1⟩, h.2⟩, fun h => ⟨h.1.2, h.2⟩⟩
            · exact nofun
      · have hparse : parseUnsigned bound (ch :: rest) = parseDigits bound 0 (ch :: rest) := by
          rw [parseUnsigned]
          · exact List.cons_ne_nil _ _
          · exact fun h => hsign (List.cons.inj h).1
          · exact fun digits h => hsign (List.cons.inj h).1
        rw [hparse, hdigits _ (List.cons_ne_nil _ _), numeral_cons_iff hsign]

-- ============================================================================
-- Writing
-- ============================================================================

theorem isDigit_of_mem_toDigits {n : Nat} {ch : Char} (h : ch ∈ Nat.toDigits 10 n) : IsDigit ch := by
  have hdigit := Nat.isDigit_of_mem_toDigits (by decide) (by decide) h
  rw [Char.isDigit, Bool.and_eq_true, decide_eq_true_eq, decide_eq_true_eq] at hdigit
  exact hdigit

theorem toString_toList (n : Nat) : (toString n).toList = Nat.toDigits 10 n := by
  rw [Nat.toString_eq_repr, Nat.toList_repr]

/-- A number is written as a numeral. -/
theorem numeral_toString (n : Nat) : Numeral (toString n).toList n := by
  rw [toString_toList]
  exact ⟨[], Nat.toDigits 10 n, rfl, Or.inl rfl, Nat.toDigits_ne_nil,
    fun ch hch => isDigit_of_mem_toDigits hch, Nat.ofDigitChars_ten_toDigits⟩

end TfScale.Text
