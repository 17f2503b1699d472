/-
  TfScale.Net.AddrText

  The text of an address is read back as the address (`parseIpAddr_display`).

  A number is read back from its digits in front of anything that is no digit.  The text
  of an IPv6 address is groups in hexadecimal with at most one `::` in them: `groupsText`
  follows the recursion of `readGroups`, and a group is never the start of an IPv4
  address because no dot follows.
-/

import TfScale.Net.Addr
import TfScale.Lib.Numerals

namespace TfScale

namespace AddrParser

-- ============================================================================
-- Numbers
-- ============================================================================

theorem toDigit_digitChar {radix d : Nat} (hradix : radix = 10 ∨ radix = 16) (hd : d < radix) :
    toDigit radix (Nat.digitChar d) = some d := by
  rcases hradix with rfl | rfl <;> · revert d; decide

/-- The digits of a number denote it. -/
theorem foldl_toDigits {radix : Nat} (hradix : radix = 10 ∨ radix = 16) (n : Nat) :
    ((Nat.toDigits radix n).filterMap (toDigit radix)).foldl (fun acc digit => acc * radix + digit) 0 =
      n := by
  have hb : 1 < radix := by omega
  induction n using Nat.strongRecOn with
  | ind n ih =>
      rw [Nat.toDigits_eq_if hb]
      split
      · rename_i hlt
        rw [List.filterMap_cons_some (toDigit_digitChar hradix hlt), List.filterMap_nil, List.foldl_cons,
          Nat.zero_mul, Nat.zero_add, List.foldl_nil]
      · rename_i hge
        have hlast := toDigit_digitChar hradix (Nat.mod_lt n (by omega))
        rw [List.filterMap_append, List.foldl_append, ih (n / radix) (Nat.div_lt_self (by omega) hb),
          List.filterMap_cons_some hlast, List.filterMap_nil, List.foldl_cons, List.foldl_nil]
        exact Nat.div_add_mod' n radix

/-- A number of more digits than one does not begin with a zero. -/
theorem head?_toDigits {radix : Nat} (hradix : radix = 10 ∨ radix = 16) {n : Nat}
    (h : (Nat.toDigits radix n).head? = some '0') : n = 0 := by
  have hb : 1 < radix := by omega
  induction n using Nat.strongRecOn with
  | ind n ih =>
      rw [Nat.toDigits_eq_if hb] at h
      split at h
      · rename_i hlt
        have hzero : toDigit radix (Nat.digitChar n) = toDigit radix (Nat.digitChar 0) :=
          congrArg (toDigit radix) (Option.some.inj h)
        rw [toDigit_digitChar hradix hlt, toDigit_digitChar hradix (by omega)] at hzero
        exact Option.some.inj hzero
      · rename_i hge
        rw [List.head?_append_of_ne_nil _ Nat.toDigits_ne_nil] at h
        have hquotient := ih (n / radix) (Nat.div_lt_self (by omega) hb) h
        rcases Nat.div_eq_zero_iff.mp hquotient with hzero | hlt
        · omega
        · exact absurd hlt hge

/-- Nothing but a digit is read as part of a number. -/
def EndsNumber (radix : Nat) (rest : List Char) : Prop :=
  ∀ ch, rest.head? = some ch → toDigit radix ch = none

/-- A number is read back from its digits. -/
theorem readNumber_toDigits {radix maxDigits bound n : Nat} (hradix : radix = 10 ∨ radix = 16)
    (hbound : n < bound) (hdigits : n < radix ^ maxDigits) (hmax : 0 < maxDigits) (allowZeroPrefix : Bool)
    {rest : List Char} (hrest : EndsNumber radix rest) :
    readNumber radix maxDigits allowZeroPrefix bound (Nat.toDigits radix n ++ rest) = some (n, rest) := by
  have hb : 1 < radix := by omega
  have hsome : ∀ ch ∈ Nat.toDigits radix n, (toDigit radix ch).isSome = true := by
    intro ch hch
    obtain ⟨d, hd, rfl⟩ := Text.mem_toDigits hb hch
    rw [toDigit_digitChar hradix hd]
    rfl
  have hend : rest.takeWhile (fun ch => (toDigit radix ch).isSome) = [] := by
    cases rest with
    | nil => rfl
    | cons ch rest =>
        rw [List.takeWhile_cons_of_neg]
        rw [hrest ch rfl]
        exact Bool.false_ne_true
  have htake : (Nat.toDigits radix n ++ rest).takeWhile (fun ch => (toDigit radix ch).isSome) =
      Nat.toDigits radix n := by
    rw [List.takeWhile_append_of_pos hsome, hend, List.append_nil]
  have hlength : ((Nat.toDigits radix n).filterMap (toDigit radix)).length =
      (Nat.toDigits radix n).length := by
    rw [List.length_filterMap_eq_countP, List.countP_eq_length]
    exact hsome
  have hle : (Nat.toDigits radix n).length ≤ maxDigits := (Nat.length_toDigits_le_iff hb hmax).mpr hdigits
  have hpos : 0 < (Nat.toDigits radix n).length := Nat.length_toDigits_pos
  have hzero : (!allowZeroPrefix && (Nat.toDigits radix n ++ rest).head? == some '0' &&
      decide ((Nat.toDigits radix n).length > 1)) = false := by
    rw [Bool.and_eq_false_imp, Bool.and_eq_true]
    rintro ⟨-, hhead⟩
    rw [beq_iff_eq, List.head?_append_of_ne_nil _ Nat.toDigits_ne_nil] at hhead
    rw [head?_toDigits hradix hhead, Nat.toDigits_zero]
    rfl
  simp only [readNumber, htake, hlength, foldl_toDigits hradix]
  rw [if_neg (Nat.not_lt.mpr hle), if_neg (Nat.pos_iff_ne_zero.mp hpos), hzero, if_neg Bool.false_ne_true,
    if_pos hbound, List.drop_left]

/-- What does not begin with a digit is no number. -/
theorem readNumber_eq_none {radix maxDigits bound : Nat} {allowZeroPrefix : Bool} {input : List Char}
    (h : EndsNumber radix input) : readNumber radix maxDigits allowZeroPrefix bound input = none := by
  have htake : input.takeWhile (fun ch => (toDigit radix ch).isSome) = [] := by
    cases input with
    | nil => rfl
    | cons ch rest =>
        rw [List.takeWhile_cons_of_neg]
        rw [h ch rfl]
        exact Bool.false_ne_true
  simp only [readNumber, htake, List.filterMap_nil, List.length_nil, Nat.not_lt_zero, if_false, if_true]

theorem endsNumber_nil (radix : Nat) : EndsNumber radix [] := nofun

theorem endsNumber_cons {radix : Nat} {ch : Char} (h : toDigit radix ch = none) (rest : List Char) :
    EndsNumber radix (ch :: rest) := by
  intro ch' hch'
  rw [← Option.some.inj hch']
  exact h

-- ============================================================================
-- IPv4 addresses
-- ============================================================================

theorem display_toList (x : Ipv4Addr) : x.display.toList =
    Nat.toDigits 10 x.a.toNat ++ '.' :: (Nat.toDigits 10 x.b.toNat ++ '.' ::
      (Nat.toDigits 10 x.c.toNat ++ '.' :: Nat.toDigits 10 x.d.toNat)) := by
  have hdot : ".".toList = ['.'] := rfl
  rw [Ipv4Addr.display]
  simp only [String.toList_append, Text.toString_toList, hdot, List.append_assoc, List.cons_append,
    List.nil_append]

/-- An octet is read back. -/
theorem readOctet {n : UInt8} {rest : List Char} (hrest : EndsNumber 10 rest) :
    readNumber 10 3 false 256 (Nat.toDigits 10 n.toNat ++ rest) = some (n.toNat, rest) := by
  have hn := n.toNat_lt
  exact readNumber_toDigits (Or.inl rfl) hn (hn.trans (by decide)) (by decide) false hrest

/-- An IPv4 address is read back in front of anything but a digit. -/
theorem readIpv4Addr_display (x : Ipv4Addr) {rest : List Char} (hrest : EndsNumber 10 rest) :
    readIpv4Addr (x.display.toList ++ rest) = some (x, rest) := by
  have hdot : ∀ text, EndsNumber 10 ('.' :: text) := endsNumber_cons (by decide)
  rw [display_toList]
  simp only [List.append_assoc, List.cons_append, readIpv4Addr, readSeparator, readGivenChar,
    Nat.lt_irrefl, gt_iff_lt, if_false, if_true, Nat.zero_lt_succ]
  simp only [readOctet (hdot _), readOctet hrest, Option.bind_eq_bind, Option.bind_some, if_true,
    UInt8.ofNat_toNat]

theorem readIpv4Addr_eq_none_of_endsNumber {input : List Char} (h : EndsNumber 10 input) :
    readIpv4Addr input = none := by
  rw [readIpv4Addr, readSeparator, if_neg (Nat.lt_irrefl 0), readNumber_eq_none h]
  rfl

/-- Without a dot there is no IPv4 address. -/
theorem readIpv4Addr_eq_none {input : List Char} (h : '.' ∉ input) : readIpv4Addr input = none := by
  have hrest : ∀ {a rest}, readNumber 10 3 false 256 input = some (a, rest) → '.' ∉ rest := by
    intro a rest hread hdot
    simp only [readNumber] at hread
    split_ifs at hread
    obtain ⟨-, rfl⟩ := Prod.mk.inj (Option.some.inj hread)
    exact h (List.mem_of_mem_drop hdot)
  have hsep : ∀ rest, '.' ∉ rest → readGivenChar '.' rest = none := by
    intro rest hdot
    cases rest with
    | nil => rfl
    | cons ch rest => exact if_neg fun heq : ch = '.' => hdot (List.mem_cons.mpr (Or.inl heq.symm))
  rw [readIpv4Addr, readSeparator, if_neg (Nat.lt_irrefl 0)]
  cases hread : readNumber 10 3 false 256 input with
  | none => rfl
  | some read =>
      obtain ⟨a, rest⟩ := read
      simp only [Option.bind_eq_bind, Option.bind_some, readSeparator, gt_iff_lt, Nat.zero_lt_one,
        if_true, hsep rest (hrest hread), Option.bind_none]

-- ============================================================================
-- Groups
-- ============================================================================

/-- The text of groups in hexadecimal, the first of them being at index `i`. -/
def groupsText : Nat → List Nat → List Char
  | _, [] => []
  | i, group :: groups =>
      (if i > 0 then [':'] else []) ++ (Nat.toDigits 16 group ++ groupsText (i + 1) groups)

theorem groupsText_eq {groups : List Nat} (hne : groups ≠ []) (i : Nat) :
    groupsText i groups =
      (if i > 0 then [':'] else []) ++ (Ipv6Addr.displaySegments groups).toList := by
  have hcolon : ":".toList = [':'] := rfl
  induction groups generalizing i with
  | nil => exact absurd rfl hne
  | cons group groups ih =>
      rw [groupsText, List.append_cancel_left_eq, Ipv6Addr.displaySegments, List.map_cons]
      by_cases hnil : groups = []
      · rw [hnil, List.map_nil, String.intercalate_singleton, String.toList_ofList, groupsText,
          List.append_nil]
      · have hmap : groups.map (fun n => String.ofList (Nat.toDigits 16 n)) ≠ [] :=
          fun hmap => hnil (List.map_eq_nil_iff.mp hmap)
        rw [String.intercalate_cons_of_ne_nil hmap, String.toList_append, String.toList_append,
          String.toList_ofList, hcolon, ih hnil, if_pos (Nat.succ_pos i), List.append_assoc]
        rfl

theorem displaySegments_toList (groups : List Nat) :
    (Ipv6Addr.displaySegments groups).toList = groupsText 0 groups := by
  cases groups with
  | nil => rfl
  | cons group groups =>
      rw [groupsText_eq (List.cons_ne_nil _ _), if_neg (Nat.lt_irrefl 0), List.nil_append]

/-- What follows is no further group: nothing, or two colons. -/
def EndsGroups (rest : List Char) : Prop := rest = [] ∨ ∃ more, rest = ':' :: ':' :: more

theorem EndsGroups.endsNumber {rest : List Char} (h : EndsGroups rest) : EndsNumber 16 rest := by
  rcases h with rfl | ⟨more, rfl⟩
  · exact endsNumber_nil 16
  · exact endsNumber_cons (by decide) _

theorem not_dot_mem_groupsText {groups : List Nat} (i : Nat) : '.' ∉ groupsText i groups := by
  induction groups generalizing i with
  | nil => exact List.not_mem_nil
  | cons group groups ih =>
      rw [groupsText, List.mem_append, List.mem_append, not_or, not_or]
      refine ⟨?_, fun hmem => ?_, ih (i + 1)⟩
      · split
        · decide
        · exact List.not_mem_nil
      · obtain ⟨d, -, hd⟩ := Text.mem_toDigits (by decide) hmem
        exact Nat.digitChar_ne '.' (by decide) hd.symm

/-- No IPv4 address is read where no dot follows. -/
theorem readSeparator_ipv4_eq_none {input : List Char} (h : '.' ∉ input) (i : Nat) :
    readSeparator ':' i readIpv4Addr input = none := by
  unfold readSeparator
  split
  · cases input with
    | nil => rfl
    | cons ch rest =>
        rw [readGivenChar]
        split
        · rename_i heq
          split at heq
          · obtain ⟨-, rfl⟩ := Prod.mk.inj (Option.some.inj heq)
            exact readIpv4Addr_eq_none fun hmem => h (List.mem_cons_of_mem _ hmem)
          · cases heq
        · rfl
  · exact readIpv4Addr_eq_none h

/-- A group is read back, with the colon before it unless it is the first. -/
theorem readGroup {group : Nat} (hgroup : group < 65536) (i : Nat) {rest : List Char}
    (hrest : EndsNumber 16 rest) :
    readSeparator ':' i (readNumber 16 4 true 65536)
      ((if i > 0 then [':'] else []) ++ (Nat.toDigits 16 group ++ rest)) = some (group, rest) := by
  have hread : readNumber 16 4 true 65536 (Nat.toDigits 16 group ++ rest) = some (group, rest) :=
    readNumber_toDigits (Or.inr rfl) hgroup hgroup (by decide) true hrest
  unfold readSeparator
  split
  · exact hread
  · exact hread

theorem readGroup_eq_none {rest : List Char} (h : EndsGroups rest) (i : Nat) :
    readSeparator ':' i (readNumber 16 4 true 65536) rest = none := by
  unfold readSeparator
  split
  · rcases h with rfl | ⟨more, rfl⟩
    · rfl
    · exact readNumber_eq_none (endsNumber_cons (by decide) _)
  · exact readNumber_eq_none h.endsNumber

/-- The groups are read back, up to where they end. -/
theorem readGroups_groupsText (limit : Nat) {groups : List Nat}
    (hgroups : ∀ group ∈ groups, group < 65536) {fuel : Nat} (hfuel : groups.length ≤ fuel) (i : Nat) {rest : List Char} (hdot : '.' ∉ rest)
    (hrest : EndsGroups rest) :
    readGroups limit fuel i (groupsText i groups ++ rest) = (groups, false, rest) := by
  induction groups generalizing fuel i with
  | nil =>
      rw [groupsText, List.nil_append]
      cases fuel with
      | zero => rfl
      | succ fuel =>
          simp only [readGroups, readSeparator_ipv4_eq_none hdot, ite_self, readGroup_eq_none hrest]
  | cons group groups ih =>
      obtain ⟨fuel, rfl⟩ : ∃ k, fuel = k + 1 := ⟨fuel - 1, by rw [List.length_cons] at hfuel; omega⟩
      have hgroup : group < 65536 := hgroups group List.mem_cons_self
      have hnext : EndsNumber 16 (groupsText (i + 1) groups ++ rest) := by
        cases groups with
        | nil => exact hrest.endsNumber
        | cons group' groups' =>
            rw [groupsText, if_pos (Nat.succ_pos i)]
            exact endsNumber_cons (by decide) _
      have hnodot : '.' ∉ groupsText i (group :: groups) ++ rest := by
        rw [List.mem_append, not_or]
        exact ⟨not_dot_mem_groupsText i, hdot⟩
      have hread : readSeparator ':' i (readNumber 16 4 true 65536)
          (groupsText i (group :: groups) ++ rest) = some (group, groupsText (i + 1) groups ++ rest) := by
        rw [groupsText, List.append_assoc, List.append_assoc]
        exact readGroup hgroup i hnext
      have hfuel' : groups.length ≤ fuel := by
        rw [List.length_cons] at hfuel
        omega
      have htail := ih (fun g hg => hgroups g (List.mem_cons_of_mem _ hg)) hfuel' (i + 1)
      simp only [readGroups, readSeparator_ipv4_eq_none hnodot, ite_self, hread, htail]

end AddrParser

-- ============================================================================
-- The longest run of zeros
-- ============================================================================

namespace Ipv6Addr

/-- A run of zeros among the segments. -/
structure ZeroRun (segments : List Nat) (run : Nat × Nat) : Prop where
  le : run.1 + run.2 ≤ segments.length
  zero : ∀ j, run.1 ≤ j → j < run.1 + run.2 → segments[j]? = some 0

theorem zeroRun_empty (segments : List Nat) : ZeroRun segments (0, 0) :=
  ⟨Nat.zero_le _, fun j _ hlt => absurd hlt (Nat.not_lt_zero j)⟩

theorem ZeroRun.append {segments : List Nat} {run : Nat × Nat} (h : ZeroRun segments run) (more : List Nat) :
    ZeroRun (segments ++ more) run := by
  refine ⟨?_, fun j hj hlt => ?_⟩
  · rw [List.length_append]
    exact h.le.trans (Nat.le_add_right _ _)
  · have hle := h.le
    rw [List.getElem?_append_left (by omega)]
    exact h.zero j hj hlt

/-- A zero goes on with a run that ends in front of it, or begins one. -/
theorem ZeroRun.snoc {segments : List Nat} {run : Nat × Nat} (h : ZeroRun segments run)
    (hend : run.2 ≠ 0 → run.1 + run.2 = segments.length) :
    ZeroRun (segments ++ [0]) (if run.2 = 0 then (segments.length, 1) else (run.1, run.2 + 1)) := by
  have hlast : (segments ++ [0])[segments.length]? = some 0 := List.getElem?_concat_length
  split
  · refine ⟨by simp, fun j hj hlt => ?_⟩
    obtain rfl : j = segments.length := by omega
    exact hlast
  · rename_i hne
    have hlength := hend hne
    refine ⟨by rw [List.length_append, List.length_singleton]; omega, fun j hj hlt => ?_⟩
    by_cases hj' : j < run.1 + run.2
    · exact (h.append [0]).zero j hj hj'
    · obtain rfl : j = segments.length := by omega
      exact hlast

/-- The run that is found is one. -/
theorem zeroRun_longestZeroRun {read rest : List Nat} {current longest : Nat × Nat}
    (hcurrent : ZeroRun read current) (hend : current.2 ≠ 0 → current.1 + current.2 = read.length)
    (hlongest : ZeroRun read longest) :
    ZeroRun (read ++ rest) (longestZeroRun rest read.length current longest) := by
  induction rest generalizing read current longest with
  | nil =>
      rw [List.append_nil]
      exact hlongest
  | cons segment rest ih =>
      have hread : read ++ segment :: rest = (read ++ [segment]) ++ rest := by
        rw [List.append_assoc, List.singleton_append]
      have hlength : read.length + 1 = (read ++ [segment]).length := by
        rw [List.length_append, List.length_singleton]
      rw [hread, longestZeroRun, hlength]
      split
      · rename_i hzero
        subst hzero
        have hnext := hcurrent.snoc hend
        have hnextEnd : (if current.2 = 0 then (read.length, 1) else (current.1, current.2 + 1)).1 +
            (if current.2 = 0 then (read.length, 1) else (current.1, current.2 + 1)).2 =
              (read ++ [0]).length := by
          rw [List.length_append, List.length_singleton]
          split
          · rfl
          · rename_i hne
            rw [← hend hne, Nat.add_assoc]
        generalize (if current.2 = 0 then (read.length, 1) else (current.1, current.2 + 1)) = next
          at hnext hnextEnd ⊢
        refine ih hnext (fun _ => hnextEnd) ?_
        split
        · exact hnext
        · exact hlongest.append [0]
      · exact ih (zeroRun_empty _) (fun hne => absurd rfl hne) (hlongest.append [segment])

/-- The segments around a run of zeros. -/
theorem ZeroRun.split {segments : List Nat} {run : Nat × Nat} (h : ZeroRun segments run) :
    segments.take run.1 ++ List.replicate run.2 0 ++ segments.drop (run.1 + run.2) = segments := by
  have hle := h.le
  have hzeros : (segments.drop run.1).take run.2 = List.replicate run.2 0 := by
    refine List.eq_replicate_iff.mpr ⟨?_, fun segment hmem => ?_⟩
    · rw [List.length_take, List.length_drop]
      omega
    · obtain ⟨k, hk⟩ := List.mem_iff_getElem?.mp hmem
      rw [List.getElem?_take] at hk
      split at hk
      · rw [List.getElem?_drop, h.zero (run.1 + k) (by omega) (by omega)] at hk
        exact (Option.some.inj hk).symm
      · cases hk
  calc segments.take run.1 ++ List.replicate run.2 0 ++ segments.drop (run.1 + run.2)
      = segments.take run.1 ++ ((segments.drop run.1).take run.2 ++ (segments.drop run.1).drop run.2) := by
        rw [hzeros, List.drop_drop, List.append_assoc]
    _ = segments := by rw [List.take_append_drop, List.take_append_drop]

-- ============================================================================
-- IPv6 addresses
-- ============================================================================

theorem segments_length (x : Ipv6Addr) : x.segments.length = 8 := by
  rw [segments, List.length_map, List.length_range]

theorem segments_lt (x : Ipv6Addr) : ∀ segment ∈ x.segments, segment < 65536 := by
  intro segment hmem
  obtain ⟨i, -, rfl⟩ := List.mem_map.mp hmem
  have hhigh := (x.octets.val.getD (2 * i) 0).toNat_lt
  have hlow := (x.octets.val.getD (2 * i + 1) 0).toNat_lt
  omega

/-- The two octets of a group. -/
theorem toBe_two (high low : UInt8) : toBe 2 (256 * high.toNat + low.toNat) = [high, low] := by
  have hpair := toBe_ofBe [high, low]
  rwa [ofBe, List.foldl_cons, List.foldl_cons, List.foldl_nil, Nat.mul_zero, Nat.zero_add] at hpair

/-- Octets two by two are the octets. -/
theorem flatMap_pairs {octets : Bytes} {k : Nat} (h : octets.length = 2 * k) :
    ((List.range k).flatMap fun i => [octets.getD (2 * i) 0, octets.getD (2 * i + 1) 0]) = octets := by
  induction k generalizing octets with
  | zero => exact (List.length_eq_zero_iff.mp h).symm
  | succ k ih =>
      match octets, h with
      | high :: low :: octets, h =>
          have hlength : octets.length = 2 * k := by
            simp only [List.length_cons] at h
            omega
          rw [List.range_succ_eq_map, List.flatMap_cons, List.flatMap_map]
          have hrest := ih hlength
          exact congrArg (fun rest => high :: low :: rest) hrest

/-- The segments make up the address. -/
theorem ipv6OfGroups_segments (x : Ipv6Addr) : AddrParser.ipv6OfGroups x.segments = x := by
  have hoctets : ((List.range 8).flatMap fun i => toBe 2 (x.segments.getD i 0)) = x.octets.val := by
    have hpair : ∀ i ∈ List.range 8, toBe 2 (x.segments.getD i 0) =
        [x.octets.val.getD (2 * i) 0, x.octets.val.getD (2 * i + 1) 0] := by
      intro i hi
      rw [segments, List.getD_eq_getElem?_getD, List.getElem?_map, List.getElem?_range (List.mem_range.mp hi)]
      exact toBe_two _ _
    rw [List.flatMap_congr hpair]
    exact flatMap_pairs x.octets.property
  cases x with
  | mk octets =>
      exact congrArg Ipv6Addr.mk (Subtype.ext hoctets)

/-- The segments of an IPv4-mapped address. -/
theorem segments_mapped {x : Ipv6Addr}
    (h : x.octets.val.take 12 = [0, 0, 0, 0, 0, 0, 0, 0, 0, 0, 0xff, 0xff]) :
    x.segments = List.replicate 5 0 ++ [65535,
      (x.octets.val.getD 12 0).toNat * 256 + (x.octets.val.getD 13 0).toNat,
      (x.octets.val.getD 14 0).toNat * 256 + (x.octets.val.getD 15 0).toNat] := by
  have hfirst : ∀ i < 12, x.octets.val.getD i 0 = (x.octets.val.take 12).getD i 0 := by
    intro i hi
    rw [List.getD_eq_getElem?_getD, List.getD_eq_getElem?_getD, List.getElem?_take_of_lt hi]
  have hgroups : ∀ i ∈ List.range 6, 256 * (x.octets.val.getD (2 * i) 0).toNat +
      (x.octets.val.getD (2 * i + 1) 0).toNat = (List.replicate 5 0 ++ [65535]).getD i 0 := by
    intro i hi
    have hlt : i < 6 := List.mem_range.mp hi
    rw [hfirst _ (by omega), hfirst _ (by omega), h]
    revert i
    decide
  have hrange : List.range 8 = List.range 6 ++ [6, 7] := rfl
  rw [segments, hrange, List.map_append, List.map_congr_left hgroups, Nat.mul_comm, Nat.mul_comm _ 256]
  rfl
section Read

open AddrParser

/-- Groups on both sides of two colons. -/
theorem readIpv6Addr_compressed {head tail : List Nat} (hhead : ∀ group ∈ head, group < 65536)
    (htail : ∀ group ∈ tail, group < 65536) (hlength : head.length + tail.length < 8) :
    readIpv6Addr (groupsText 0 head ++ ':' :: ':' :: groupsText 0 tail) =
      some (ipv6OfGroups (head ++ List.replicate (8 - head.length - tail.length) 0 ++ tail), []) := by
  have hdot : '.' ∉ ':' :: ':' :: groupsText 0 tail := by
    rw [List.mem_cons, List.mem_cons, not_or, not_or]
    exact ⟨by decide, by decide, not_dot_mem_groupsText 0⟩
  have hfirst := readGroups_groupsText 8 hhead (show head.length ≤ 8 by omega) 0 hdot
    (Or.inr ⟨_, rfl⟩)
  have hfuel : tail.length ≤ 8 - (head.length + 1) := by omega
  have hsecond := readGroups_groupsText (8 - (head.length + 1)) htail hfuel 0
    List.not_mem_nil (Or.inl rfl)
  rw [List.append_nil] at hsecond
  have hshort : ¬ head.length = 8 := by omega
  simp only [readIpv6Addr, hfirst, if_neg hshort, Bool.false_eq_true, if_false, readGivenChar, if_true,
    Option.bind_eq_bind, Option.bind_some, hsecond]

/-- An IPv4-mapped address. -/
theorem readIpv6Addr_mapped (y : Ipv4Addr) :
    readIpv6Addr (("::ffff:" ++ y.display).toList) =
      some (ipv6OfGroups (List.replicate 5 0 ++ [65535, y.a.toNat * 256 + y.b.toNat,
        y.c.toNat * 256 + y.d.toNat]), []) := by
  have hlist : ("::ffff:" ++ y.display).toList =
      ':' :: ':' :: (Nat.toDigits 16 65535 ++ ':' :: y.display.toList) := by
    rw [String.toList_append]
    rfl
  have hcolons : readGroups 8 8 0 (':' :: ':' :: (Nat.toDigits 16 65535 ++ ':' :: y.display.toList)) =
      ([], false, ':' :: ':' :: (Nat.toDigits 16 65535 ++ ':' :: y.display.toList)) := by
    have hnone : readSeparator ':' 0 readIpv4Addr
        (':' :: ':' :: (Nat.toDigits 16 65535 ++ ':' :: y.display.toList)) = none :=
      readIpv4Addr_eq_none_of_endsNumber (endsNumber_cons (by decide) _)
    simp only [readGroups, hnone, ite_self, readGroup_eq_none (Or.inr ⟨_, rfl⟩) 0]
  have hgroups : readGroups 7 7 0 (Nat.toDigits 16 65535 ++ ':' :: y.display.toList) =
      ([65535, y.a.toNat * 256 + y.b.toNat, y.c.toNat * 256 + y.d.toNat], true, []) := by
    have hnone : readSeparator ':' 0 readIpv4Addr (Nat.toDigits 16 65535 ++ ':' :: y.display.toList) =
        none := readIpv4Addr_eq_none_of_endsNumber (endsNumber_cons (by decide) _)
    have hcolon : EndsNumber 16 (':' :: y.display.toList) := endsNumber_cons (by decide) _
    have hfirst := readGroup (show 65535 < 65536 by decide) 0 hcolon
    rw [if_neg (Nat.lt_irrefl 0), List.nil_append] at hfirst
    have hsecond : readSeparator ':' 1 readIpv4Addr (':' :: y.display.toList) = some (y, []) := by
      have hread := readIpv4Addr_display y (endsNumber_nil 10)
      rw [List.append_nil] at hread
      exact hread
    simp only [readGroups, hnone, ite_self, hfirst, hsecond, Nat.zero_add]
    rfl
  rw [hlist]
  simp only [readIpv6Addr, hcolons, List.length_nil, Bool.false_eq_true, if_false, readGivenChar, if_true,
    Option.bind_eq_bind, Option.bind_some, hgroups]
  rfl

/-- How an address that is not IPv4-mapped is written. -/
theorem display_cases (x : Ipv6Addr) :
    (∃ y : Ipv4Addr, x.display = "::ffff:" ++ y.display ∧ x.segments =
      List.replicate 5 0 ++ [65535, y.a.toNat * 256 + y.b.toNat, y.c.toNat * 256 + y.d.toNat]) ∨
    (∃ head tail, x.display.toList = groupsText 0 head ++ ':' :: ':' :: groupsText 0 tail ∧
      head.length + tail.length < 8 ∧
      x.segments = head ++ List.replicate (8 - head.length - tail.length) 0 ++ tail) ∨
    x.display.toList = groupsText 0 x.segments := by
  have hrun : ZeroRun x.segments (longestZeroRun x.segments 0 (0, 0) (0, 0)) :=
    zeroRun_longestZeroRun (zeroRun_empty []) (fun hne => absurd rfl hne) (zeroRun_empty [])
  rw [display]
  dsimp only
  split
  · rename_i hmapped
    exact Or.inl ⟨_, rfl, segments_mapped hmapped⟩
  · split
    · refine Or.inr (Or.inl ?_)
      generalize longestZeroRun x.segments 0 (0, 0) (0, 0) = run at *
      have hle := hrun.le
      rw [x.segments_length] at hle
      have htake : (x.segments.take run.1).length = run.1 := by
        rw [List.length_take, x.segments_length]
        omega
      have hdrop : (x.segments.drop (run.1 + run.2)).length = 8 - (run.1 + run.2) := by
        rw [List.length_drop, x.segments_length]
      refine ⟨x.segments.take run.1, x.segments.drop (run.1 + run.2), ?_, by omega, ?_⟩
      · rw [String.toList_append, String.toList_append, displaySegments_toList, displaySegments_toList,
          List.append_assoc]
        rfl
      · rw [htake, hdrop, show 8 - run.1 - (8 - (run.1 + run.2)) = run.2 by omega]
        exact hrun.split.symm
    · exact Or.inr (Or.inr (displaySegments_toList _))

/-- What is written for an IPv6 address is read back. -/
theorem readIpv6Addr_display (x : Ipv6Addr) : readIpv6Addr x.display.toList = some (x, []) := by
  rcases x.display_cases with ⟨y, hdisplay, hsegments⟩ | ⟨head, tail, hdisplay, hlength, hsegments⟩ |
    hdisplay
  · rw [hdisplay, readIpv6Addr_mapped, ← hsegments, ipv6OfGroups_segments]
  · have hlt := x.segments_lt
    rw [hsegments] at hlt
    have hhead : ∀ group ∈ head, group < 65536 := fun group hg =>
      hlt group (List.mem_append_left _ (List.mem_append_left _ hg))
    have htail : ∀ group ∈ tail, group < 65536 := fun group hg => hlt group (List.mem_append_right _ hg)
    rw [hdisplay, readIpv6Addr_compressed hhead htail hlength, ← hsegments, ipv6OfGroups_segments]
  · have hread := readGroups_groupsText 8 x.segments_lt
      (show x.segments.length ≤ 8 by rw [x.segments_length]) 0 List.not_mem_nil (Or.inl rfl)
    rw [List.append_nil] at hread
    rw [hdisplay]
    simp only [readIpv6Addr, hread, x.segments_length, if_true, ipv6OfGroups_segments]

end Read

end Ipv6Addr

-- ============================================================================
-- The text of an address
-- ============================================================================

open AddrParser

/-- What is written for an address is read back. -/
theorem parseIpAddr_display (ip : IpAddr) : parseIpAddr ip.display = some ip := by
  cases ip with
  | v4 x =>
      have hread := readIpv4Addr_display x (endsNumber_nil 10)
      rw [List.append_nil] at hread
      simp only [parseIpAddr, IpAddr.display, parseWith, readIpAddr, hread]
  | v6 x =>
      have hnone : readIpv4Addr x.display.toList = none := by
        rcases x.display_cases with ⟨y, hdisplay, -⟩ | ⟨head, tail, hdisplay, -⟩ | hdisplay
        · rw [hdisplay, String.toList_append]
          exact readIpv4Addr_eq_none_of_endsNumber (endsNumber_cons (by decide) _)
        · rw [hdisplay]
          refine readIpv4Addr_eq_none ?_
          rw [List.mem_append, List.mem_cons, List.mem_cons, not_or, not_or, not_or]
          exact ⟨not_dot_mem_groupsText 0, by decide, by decide, not_dot_mem_groupsText 0⟩
        · rw [hdisplay]
          exact readIpv4Addr_eq_none (not_dot_mem_groupsText 0)
      simp only [parseIpAddr, IpAddr.display, parseWith, readIpAddr, hnone, x.readIpv6Addr_display,
        Option.map_some]

/-- A character of the text of an address: a digit, a dot or a colon. -/
def AddrChar (ch : Char) : Prop := ch = '.' ∨ ch = ':' ∨ ∃ d < 16, ch = Nat.digitChar d

theorem AddrChar.of_mem_toDigits {b n : Nat} (hb : 1 < b) (hb' : b ≤ 16) {ch : Char}
    (h : ch ∈ Nat.toDigits b n) : AddrChar ch := by
  obtain ⟨d, hd, rfl⟩ := Text.mem_toDigits hb h
  exact Or.inr (Or.inr ⟨d, hd.trans_le hb', rfl⟩)

/-- It is ASCII, and no white space. -/
theorem AddrChar.plain {ch : Char} (h : AddrChar ch) : ch.toNat < 128 ∧ Text.isWhitespace ch = false := by
  rcases h with rfl | rfl | ⟨d, hd, rfl⟩
  · decide
  · decide
  · revert d
    decide

/-- The text of an address is made of such characters, and is no longer than 40. -/
structure AddrText (text : List Char) : Prop where
  chars : ∀ ch ∈ text, AddrChar ch
  length : text.length ≤ 40

theorem addrText_display_ipv4 (x : Ipv4Addr) : AddrText x.display.toList ∧ x.display.toList.length ≤ 15 := by
  have hlength : ∀ n : UInt8, (Nat.toDigits 10 n.toNat).length ≤ 3 := fun n =>
    (Nat.length_toDigits_le_iff (by decide) (by decide)).mpr (n.toNat_lt.trans (by decide))
  have ha := hlength x.a
  have hb := hlength x.b
  have hc := hlength x.c
  have hd := hlength x.d
  have hle : x.display.toList.length ≤ 15 := by
    rw [display_toList]
    simp only [List.length_append, List.length_cons]
    omega
  refine ⟨⟨?_, hle.trans (by decide)⟩, hle⟩
  have hdigits : ∀ {n : Nat} {ch : Char}, ch ∈ Nat.toDigits 10 n → AddrChar ch := fun h =>
    .of_mem_toDigits (by decide) (by decide) h
  intro ch hch
  rw [display_toList] at hch
  simp only [List.mem_append, List.mem_cons] at hch
  rcases hch with h | rfl | h | rfl | h | rfl | h
  all_goals first | exact hdigits h | exact Or.inl rfl

theorem mem_groupsText {groups : List Nat} {i : Nat} {ch : Char} (h : ch ∈ groupsText i groups) :
    AddrChar ch := by
  induction groups generalizing i with
  | nil => cases h
  | cons group groups ih =>
      rw [groupsText, List.mem_append, List.mem_append] at h
      rcases h with h | h | h
      · split at h
        · exact Or.inr (Or.inl (List.mem_singleton.mp h))
        · cases h
      · exact .of_mem_toDigits (by decide) (by decide) h
      · exact ih h

theorem groupsText_length {groups : List Nat} (hgroups : ∀ group ∈ groups, group < 65536) (i : Nat) :
    (groupsText i groups).length ≤ 5 * groups.length := by
  induction groups generalizing i with
  | nil => exact Nat.le_refl 0
  | cons group groups ih =>
      have hrest := ih (fun g hg => hgroups g (List.mem_cons_of_mem _ hg)) (i + 1)
      have hdigits : (Nat.toDigits 16 group).length ≤ 4 :=
        (Nat.length_toDigits_le_iff (by decide) (by decide)).mpr (hgroups group List.mem_cons_self)
      have hcolon : (if i > 0 then [':'] else []).length ≤ 1 := by
        split <;> decide
      rw [groupsText, List.length_append, List.length_append, List.length_cons]
      omega

theorem addrText_display (ip : IpAddr) : AddrText ip.display.toList := by
  cases ip with
  | v4 x => exact (addrText_display_ipv4 x).1
  | v6 x =>
      have hlt := x.segments_lt
      have hlength := x.segments_length
      show AddrText x.display.toList
      rcases x.display_cases with ⟨y, hdisplay, -⟩ | ⟨head, tail, hdisplay, hshort, hsegments⟩ | hdisplay
      · obtain ⟨hy, hle⟩ := addrText_display_ipv4 y
        have hmapped : "::ffff:".toList = [':', ':', 'f', 'f', 'f', 'f', ':'] := rfl
        have hcolon : AddrChar ':' := Or.inr (Or.inl rfl)
        have hf : AddrChar 'f' := Or.inr (Or.inr ⟨15, by decide, rfl⟩)
        rw [hdisplay, String.toList_append, hmapped]
        refine ⟨fun ch hch => ?_, ?_⟩
        · rcases List.mem_append.mp hch with h | h
          · simp only [List.mem_cons, List.not_mem_nil, or_false] at h
            rcases h with rfl | rfl | rfl | rfl | rfl | rfl | rfl <;> assumption
          · exact hy.chars ch h
        · have hseven : [':', ':', 'f', 'f', 'f', 'f', ':'].length = 7 := rfl
          rw [List.length_append, hseven]
          omega
      · rw [hsegments] at hlt
        have hhead := groupsText_length (fun g hg => hlt g (List.mem_append_left _
          (List.mem_append_left _ hg))) 0
        have htail := groupsText_length (fun g hg => hlt g (List.mem_append_right _ hg)) 0
        rw [hdisplay]
        refine ⟨fun ch hch => ?_, ?_⟩
        · rw [List.mem_append, List.mem_cons, List.mem_cons] at hch
          rcases hch with h | rfl | rfl | h
          · exact mem_groupsText h
          · exact Or.inr (Or.inl rfl)
          · exact Or.inr (Or.inl rfl)
          · exact mem_groupsText h
        · rw [List.length_append, List.length_cons, List.length_cons]
          omega
      · have hle := groupsText_length hlt 0
        rw [hdisplay]
        exact ⟨fun ch hch => mem_groupsText hch, by omega⟩

end TfScale
