/-
  TfScale.Control.Hostnames

  Which texts are host names, and which of them are the same?

  `normalize_hostname` trims, puts ASCII letters in lower case, and then checks what is
  left.  The five checks together are one grammar (`HostGrammar`), and a text that meets
  it is its own normal form.  No character of it is a dot or a capital letter, so the
  agent's `normalize_name` leaves it alone wherever it stands in front of a dot.
-/

import TfScale.Control.Labels

namespace TfScale.Control

open Agent

-- ============================================================================
-- The grammar of host names
-- ============================================================================

/-- A host label: 1 to 63 bytes of lower case letters, digits and hyphens, with no hyphen
    at either end. -/
structure HostGrammar (hostname : String) : Prop where
  size : 1 ≤ hostname.utf8ByteSize ∧ hostname.utf8ByteSize ≤ 63
  chars : ∀ ch ∈ hostname.toList, ('a' ≤ ch ∧ ch ≤ 'z') ∨ ('0' ≤ ch ∧ ch ≤ '9') ∨ ch = '-'
  first : hostname.toList.head? ≠ some '-'
  last : hostname.toList.getLast? ≠ some '-'

/-- The text without the white space around it, with ASCII letters in lower case. -/
def NormalForm (value hostname : String) : Prop :=
  ∃ core, Text.Trimmed value.toList core ∧ hostname = String.ofList (core.map Text.toAsciiLowercase)

/-- Equal up to ASCII case and the white space around. -/
def SameHost (a b : String) : Prop :=
  ∃ core core', Text.Trimmed a.toList core ∧ Text.Trimmed b.toList core' ∧ Text.CaseVariant core core'

theorem normalForm_iff {value hostname : String} : NormalForm value hostname ↔
    hostname = String.ofList ((Text.trim value.toList).map Text.toAsciiLowercase) := by
  simp only [NormalForm, ← Text.trim_eq_iff, exists_eq_left']

theorem sameHost_iff {a b : String} : SameHost a b ↔
    (Text.trim a.toList).map Text.toAsciiLowercase = (Text.trim b.toList).map Text.toAsciiLowercase := by
  simp only [SameHost, ← Text.trim_eq_iff, exists_eq_left', exists_and_left]
  exact Text.caseVariant_iff

theorem isHostnameChar_iff {ch : Char} : isHostnameChar ch = true ↔
    ('a' ≤ ch ∧ ch ≤ 'z') ∨ ('0' ≤ ch ∧ ch ≤ '9') ∨ ch = '-' := by
  rw [isHostnameChar, Bool.or_eq_true, Bool.or_eq_true, Bool.and_eq_true, Bool.and_eq_true,
    beq_iff_eq, or_assoc]
  simp only [decide_eq_true_eq]

/-- The checks accept the normal forms that are host labels. -/
theorem normalizeHostname_eq_ok_iff {value hostname : String} :
    normalizeHostname value = .ok hostname ↔ NormalForm value hostname ∧ HostGrammar hostname := by
  rw [normalForm_iff]
  generalize htext : (Text.trim value.toList).map Text.toAsciiLowercase = text
  have hsize : text = [] ↔ ¬ 1 ≤ (String.ofList text).utf8ByteSize := by
    rw [Nat.not_le, Nat.lt_one_iff, String.utf8ByteSize_eq_zero_iff, ← String.toList_eq_nil_iff,
      String.toList_ofList]
  constructor
  · intro h
    simp only [normalizeHostname, htext] at h
    split_ifs at h with hnil hlong hhyphen hchars
    obtain rfl := Except.ok.inj h
    refine ⟨rfl, ⟨not_not.mp fun hpos => hnil (hsize.mpr hpos), Nat.le_of_not_lt hlong⟩,
      fun ch hch => ?_, ?_, ?_⟩
    · rw [String.toList_ofList] at hch
      rw [Bool.not_eq_true, Bool.not_eq_false', List.all_eq_true] at hchars
      exact isHostnameChar_iff.mp (hchars ch hch)
    · rw [String.toList_ofList]
      exact fun hfirst => hhyphen (Or.inl hfirst)
    · rw [String.toList_ofList]
      exact fun hlast => hhyphen (Or.inr hlast)
  · rintro ⟨rfl, hgrammar⟩
    have hfirst := hgrammar.first
    have hlast := hgrammar.last
    have hchars := hgrammar.chars
    rw [String.toList_ofList] at hfirst hlast hchars
    have hall : text.all isHostnameChar = true :=
      List.all_eq_true.mpr fun ch hch => isHostnameChar_iff.mpr (hchars ch hch)
    simp only [normalizeHostname, htext]
    rw [if_neg fun hnil => hsize.mp hnil hgrammar.size.1, if_neg (Nat.not_lt.mpr hgrammar.size.2),
      if_neg (not_or.mpr ⟨hfirst, hlast⟩), hall]
    rfl

-- ============================================================================
-- Normal forms of host labels
-- ============================================================================

section Label

variable {hostname : String}

/-- A character of a host label is no capital letter and no white space. -/
theorem HostGrammar.plain (h : HostGrammar hostname) : ∀ ch ∈ hostname.toList,
    Text.toAsciiLowercase ch = ch ∧ Text.isWhitespace ch = false ∧ ch ≠ '.' := by
  intro ch hch
  have hrange : ch.toNat = 45 ∨ 48 ≤ ch.toNat ∧ ch.toNat ≤ 57 ∨ 97 ≤ ch.toNat ∧ ch.toNat ≤ 122 := by
    rcases h.chars ch hch with ⟨hlow, hhigh⟩ | ⟨hlow, hhigh⟩ | rfl
    · exact Or.inr (Or.inr ⟨Text.char_le_iff.mp hlow, Text.char_le_iff.mp hhigh⟩)
    · exact Or.inr (Or.inl ⟨Text.char_le_iff.mp hlow, Text.char_le_iff.mp hhigh⟩)
    · exact Or.inl rfl
  refine ⟨?_, ?_, fun hdot => ?_⟩
  · rw [← Char.toNat_inj, Text.toAsciiLowercase_toNat, if_neg (by omega)]
  · rw [← Bool.not_eq_true, Text.isWhitespace]
    simp only [Bool.or_eq_true, Bool.and_eq_true, decide_eq_true_eq, beq_iff_eq]
    omega
  · have hnumber : ch.toNat = 46 := congrArg Char.toNat hdot
    omega

theorem HostGrammar.lower (h : HostGrammar hostname) :
    hostname.toList.map Text.toAsciiLowercase = hostname.toList :=
  (List.map_congr_left fun ch hch => (h.plain ch hch).1).trans (List.map_id' _)

/-- A host label is its own normal form. -/
theorem HostGrammar.normalForm (h : HostGrammar hostname) : NormalForm hostname hostname := by
  refine ⟨hostname.toList, ⟨[], [], (List.append_nil _).symm, nofun, nofun, ?_, ?_⟩, ?_⟩
  · exact fun ch hch => (h.plain ch (List.mem_of_head? hch)).2.1
  · exact fun ch hch => (h.plain ch (List.mem_of_getLast? hch)).2.1
  · rw [h.lower, String.ofList_toList]

theorem HostGrammar.normalizeName (h : HostGrammar hostname) : normalizeName hostname = hostname := by
  rw [normalizeName_eq, h.lower, List.rdropWhile_eq_self_iff.mpr, String.ofList_toList]
  intro hne hdot
  exact (h.plain _ (List.getLast_mem hne)).2.2 (beq_iff_eq.mp hdot)

theorem HostGrammar.normalizeName_dnsName (h : HostGrammar hostname) :
    Agent.normalizeName (dnsName hostname) = dnsName hostname := by
  have hmesh : ".mesh".toList.map Text.toAsciiLowercase = ".mesh".toList := by decide
  have hlist : (dnsName hostname).toList = (hostname.toList ++ ['.', 'm', 'e', 's']) ++ ['h'] := by
    rw [dnsName, String.toList_append, List.append_assoc]
    rfl
  rw [Agent.normalizeName, hlist, List.rdropWhile_concat_neg _ _ _ (by decide), ← hlist, dnsName,
    String.toList_append, List.map_append, h.lower, hmesh, ← String.toList_append, String.ofList_toList]

/-- Dropping the dots at the end leaves a first label without dots alone. -/
theorem head?_splitOn_rdropWhile {label rest : List Char} (h : '.' ∉ label) :
    (((label ++ '.' :: rest).rdropWhile (· == '.')).splitOn '.').head? = some label := by
  obtain ⟨i, hdots⟩ := exists_dots ('.' :: rest)
  cases hbase : ('.' :: rest).rdropWhile (· == '.') with
  | nil =>
      -- nothing but dots follows
      rw [hbase, List.nil_append] at hdots
      have hself : label.rdropWhile (· == '.') = label :=
        List.rdropWhile_eq_self_iff.mpr fun hne hdot => h (beq_iff_eq.mp hdot ▸ List.getLast_mem hne)
      rw [hdots, rdropWhile_append_dots, hself, List.splitOn_eq_singleton h]
      rfl
  | cons ch base =>
      rw [hbase] at hdots
      obtain rfl : '.' = ch := (List.cons.inj hdots).1
      have hself : ('.' :: base).rdropWhile (· == '.') = '.' :: base := by
        rw [← hbase, List.rdropWhile_idempotent]
      have hlast := List.rdropWhile_eq_self_iff.mp hself (List.cons_ne_nil _ _)
      have hwhole : (label ++ '.' :: base).rdropWhile (· == '.') = label ++ '.' :: base := by
        refine List.rdropWhile_eq_self_iff.mpr fun _ => ?_
        rw [List.getLast_append_of_ne_nil]
        exact hlast
      rw [hdots, ← List.append_assoc, rdropWhile_append_dots, hwhole,
        List.splitOn_append_cons_self_of_not_mem h]
      rfl

/-- It is the first label of every name it is put in front of. -/
theorem HostGrammar.firstLabel (h : HostGrammar hostname) (rest : String) :
    (labelsOf (Agent.normalizeName (hostname ++ "." ++ rest))).head? = some hostname.toList := by
  have hlist : (hostname ++ "." ++ rest).toList.map Text.toAsciiLowercase =
      hostname.toList ++ '.' :: rest.toList.map Text.toAsciiLowercase := by
    rw [String.toList_append, String.toList_append, List.map_append, List.map_append, h.lower,
      List.append_assoc]
    rfl
  rw [normalizeName_eq, hlist, labelsOf, String.toList_ofList]
  exact head?_splitOn_rdropWhile fun hdot => (h.plain '.' hdot).2.2 rfl

end Label

-- ============================================================================
-- Main result
-- ============================================================================

/-- **Host names.**  `normalize_hostname` accepts the texts whose normal form is a host
    label, and returns that; what it returns it accepts again as it is.  Two texts have one
    result when they are equal up to ASCII case and the white space around.  The agent
    leaves the result alone, as a name and as the first label of a name. -/
theorem hostnames_normalised :
    (∀ value hostname, normalizeHostname value = .ok hostname ↔
      NormalForm value hostname ∧ HostGrammar hostname) ∧
    (∀ value hostname, normalizeHostname value = .ok hostname →
      normalizeHostname hostname = .ok hostname) ∧
    (∀ value value' hostname hostname', normalizeHostname value = .ok hostname →
      normalizeHostname value' = .ok hostname' → (hostname = hostname' ↔ SameHost value value')) ∧
    ∀ value hostname, normalizeHostname value = .ok hostname →
      normalizeName hostname = hostname ∧ normalizeName (dnsName hostname) = dnsName hostname ∧
        ∀ rest, (labelsOf (normalizeName (hostname ++ "." ++ rest))).head? = some hostname.toList := by
  refine ⟨fun value hostname => normalizeHostname_eq_ok_iff, ?_, ?_, ?_⟩
  · intro value hostname h
    obtain ⟨-, hgrammar⟩ := normalizeHostname_eq_ok_iff.mp h
    exact normalizeHostname_eq_ok_iff.mpr ⟨hgrammar.normalForm, hgrammar⟩
  · intro value value' hostname hostname' h h'
    obtain ⟨hform, -⟩ := normalizeHostname_eq_ok_iff.mp h
    obtain ⟨hform', -⟩ := normalizeHostname_eq_ok_iff.mp h'
    rw [normalForm_iff.mp hform, normalForm_iff.mp hform', String.ofList_inj, sameHost_iff]
  · intro value hostname h
    obtain ⟨-, hgrammar⟩ := normalizeHostname_eq_ok_iff.mp h
    exact ⟨hgrammar.normalizeName, hgrammar.normalizeName_dnsName, hgrammar.firstLabel⟩

end TfScale.Control
