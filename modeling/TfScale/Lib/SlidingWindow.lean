/-
  TfScale.Lib.SlidingWindow

  The anti-replay sliding window, as a set of accepted counters and as a bitmap.

  `Fresh w accepted c` says when a window of width `w` lets the counter `c` in
  after the counters in `accepted`: it was not accepted before and it lies less
  than `w` below every accepted counter.  `Tracks w accepted highest seen` ties
  such a set to the pair an implementation keeps: the highest counter and a
  bitmap whose bit `i` stands for `highest - i`.  The three `Tracks` lemmas are
  the moves of every bitmap window: the first counter, a counter above the
  highest one, a counter inside the window.
-/

import Mathlib.Data.List.Basic

namespace TfScale.SlidingWindow

/-- The counter `c` is let in by a window of width `w` that accepted `accepted`. -/
def Fresh (w : Nat) (accepted : List Nat) (c : Nat) : Prop :=
  c ∉ accepted ∧ ∀ h ∈ accepted, h < c + w

instance (w : Nat) (accepted : List Nat) (c : Nat) : Decidable (Fresh w accepted c) :=
  inferInstanceAs (Decidable (_ ∧ _))

@[simp] theorem fresh_nil (w c : Nat) : Fresh w [] c := by simp [Fresh]

/-- A counter above every accepted one is always let in. -/
theorem fresh_of_forall_lt {w : Nat} {accepted : List Nat} {c : Nat}
    (h : ∀ a ∈ accepted, a < c) : Fresh w accepted c := by
  refine ⟨fun hc => Nat.lt_irrefl c (h c hc), fun a ha => ?_⟩
  have := h a ha
  omega

/-- After `c` itself was accepted, another counter is let in only if it was before. -/
theorem Fresh.of_cons {w : Nat} {accepted : List Nat} {a c : Nat}
    (h : Fresh w (a :: accepted) c) : Fresh w accepted c :=
  ⟨fun hc => h.1 (List.mem_cons_of_mem a hc), fun b hb => h.2 b (List.mem_cons_of_mem a hb)⟩

/-- `highest` and `seen` represent the accepted counters of a width-`w` window. -/
structure Tracks (w : Nat) (accepted : List Nat) (highest : Nat) (seen : BitVec w) : Prop where
  mem : highest ∈ accepted
  le : ∀ c ∈ accepted, c ≤ highest
  bit : ∀ i, i < w → (seen.getLsbD i = true ↔ i ≤ highest ∧ highest - i ∈ accepted)

/-- Bit test as the implementations write it: `seen & (1 << k) != 0`. -/
theorem and_shiftLeft_one_ne_zero {w k : Nat} (seen : BitVec w) (hk : k < w) :
    seen &&& (1#w <<< k) ≠ 0#w ↔ seen.getLsbD k = true := by
  have hbit : ∀ i, (seen &&& (1#w <<< k)).getLsbD i = (decide (i = k) && seen.getLsbD k) := by
    intro i
    rw [BitVec.getLsbD_and, BitVec.getLsbD_shiftLeft, BitVec.getLsbD_one]
    by_cases hi : i = k
    · subst hi
      simp [hk]
      omega
    · by_cases hlt : i < k
      · simp [hi, hlt]
      · have : i - k ≠ 0 := by omega
        simp [hi, this]
  constructor
  · intro hne
    by_contra hk0
    apply hne
    apply BitVec.eq_of_getLsbD_eq
    intro i _
    have hclear : seen.getLsbD k = false := by simpa using hk0
    rw [hbit, BitVec.getLsbD_zero, hclear, Bool.and_false]
  · intro hset hzero
    have := hbit k
    rw [hzero, BitVec.getLsbD_zero] at this
    simp [hset] at this

-- ============================================================================
-- The moves of the window
-- ============================================================================

theorem tracks_first {w : Nat} (hw : 0 < w) (c : Nat) : Tracks w [c] c 1#w where
  mem := List.mem_singleton_self c
  le := by simp
  bit := by
    intro i _
    rw [BitVec.getLsbD_one, List.mem_singleton]
    simp only [hw, decide_true, Bool.true_and, decide_eq_true_eq]
    omega

/-- A counter above the highest one: the bitmap is shifted by the distance, or
    emptied when the distance reaches the width. -/
theorem Tracks.advance {w : Nat} {accepted : List Nat} {highest c : Nat} {seen : BitVec w}
    (hw : 0 < w) (ht : Tracks w accepted highest seen) (hc : highest < c) :
    Tracks w (c :: accepted) c
      (if c - highest ≥ w then 1#w else (seen <<< (c - highest)) ||| 1#w) where
  mem := List.mem_cons_self
  le := by
    intro a ha
    rcases List.mem_cons.mp ha with rfl | ha
    · exact Nat.le_refl a
    · exact Nat.le_of_lt (Nat.lt_of_le_of_lt (ht.le a ha) hc)
  bit := by
    intro i hi
    rw [List.mem_cons]
    split
    · -- every accepted counter is now further behind than the window reaches
      have hout : i ≠ 0 → i ≤ c → c - i ∉ accepted := by
        intro _ _ hmem
        have := ht.le _ hmem
        omega
      simp only [BitVec.getLsbD_one, hw, decide_true, Bool.true_and, decide_eq_true_eq]
      constructor
      · intro h0
        subst h0
        exact ⟨Nat.zero_le c, Or.inl (by omega)⟩
      · rintro ⟨hle, heq | hmem⟩
        · omega
        · by_contra h0
          exact hout h0 hle hmem
    · rw [BitVec.getLsbD_or, BitVec.getLsbD_shiftLeft, BitVec.getLsbD_one]
      by_cases h0 : i = 0
      · subst h0
        simp [hw]
      by_cases hlt : i < c - highest
      · -- between the old and the new highest counter nothing was accepted
        have hnot : i ≤ c → c - i ∉ accepted := by
          intro _ hmem
          have := ht.le _ hmem
          omega
        simp only [hi, h0, hlt]
        simp
        intro hle
        exact ⟨by omega, hnot hle⟩
      · have hbit := ht.bit (i - (c - highest)) (by omega)
        have hsub : highest - (i - (c - highest)) = c - i := by omega
        rw [hsub] at hbit
        simp only [hi, h0, hlt]
        simp only [decide_true, decide_false, Bool.and_false, Bool.or_false, Bool.not_false,
          Bool.true_and]
        rw [hbit]
        constructor
        · rintro ⟨hle, hmem⟩
          exact ⟨by omega, Or.inr hmem⟩
        · rintro ⟨hle, heq | hmem⟩
          · omega
          · exact ⟨by omega, hmem⟩

/-- A counter at most the highest one and inside the window: its bit is set. -/
theorem Tracks.fill {w : Nat} {accepted : List Nat} {highest c : Nat} {seen : BitVec w}
    (ht : Tracks w accepted highest seen) (hc : c ≤ highest) (hin : highest - c < w) :
    Tracks w (c :: accepted) highest (seen ||| (1#w <<< (highest - c))) where
  mem := List.mem_cons_of_mem c ht.mem
  le := by
    intro a ha
    rcases List.mem_cons.mp ha with rfl | ha
    · exact hc
    · exact ht.le a ha
  bit := by
    intro i hi
    have hbit := ht.bit i hi
    rw [BitVec.getLsbD_or, BitVec.getLsbD_shiftLeft, BitVec.getLsbD_one, List.mem_cons]
    by_cases heq : i = highest - c
    · subst heq
      have : highest - (highest - c) = c := by omega
      simp [hi, this]
      omega
    · have hne : highest - i = c → ¬ i ≤ highest := by omega
      have hoff : ¬ (i < highest - c) → i - (highest - c) ≠ 0 := by omega
      by_cases hlt : i < highest - c
      · simp [hlt, hbit]
        intro hle hci
        exact absurd hle (hne hci)
      · simp [hlt, hoff hlt, hbit]
        intro hle hci
        exact absurd hle (hne hci)

-- ============================================================================
-- Deciding freshness on the bitmap
-- ============================================================================

theorem Tracks.fresh_of_lt {w : Nat} {accepted : List Nat} {highest c : Nat} {seen : BitVec w}
    (ht : Tracks w accepted highest seen) (hc : highest < c) : Fresh w accepted c :=
  fresh_of_forall_lt fun a ha => Nat.lt_of_le_of_lt (ht.le a ha) hc

/-- At or below the highest counter, freshness is distance and bit. -/
theorem Tracks.fresh_iff {w : Nat} {accepted : List Nat} {highest c : Nat} {seen : BitVec w}
    (ht : Tracks w accepted highest seen) (hc : c ≤ highest) :
    Fresh w accepted c ↔ highest - c < w ∧ seen.getLsbD (highest - c) = false := by
  have hsub : highest - (highest - c) = c := by omega
  constructor
  · rintro ⟨hnew, hnear⟩
    have hin : highest - c < w := by
      have := hnear highest ht.mem
      omega
    refine ⟨hin, ?_⟩
    have hbit := ht.bit _ hin
    rw [hsub] at hbit
    by_contra hset
    exact hnew (hbit.mp (by simpa using hset)).2
  · rintro ⟨hin, hclear⟩
    have hbit := ht.bit _ hin
    rw [hsub, hclear] at hbit
    refine ⟨fun hmem => ?_, fun a ha => ?_⟩
    · exact absurd (hbit.mpr ⟨Nat.sub_le highest c, hmem⟩) (by simp)
    · have := ht.le a ha
      omega

/-- The highest counter is the greatest one that was accepted. -/
theorem Tracks.max?_eq {w : Nat} {accepted : List Nat} {highest : Nat} {seen : BitVec w}
    (ht : Tracks w accepted highest seen) : accepted.max? = some highest :=
  List.max?_eq_some_iff.mpr ⟨ht.mem, ht.le⟩

/-- How far back the window reaches depends on the greatest accepted counter alone. -/
theorem fresh_iff_of_max? {w : Nat} {accepted : List Nat} {highest c : Nat}
    (h : accepted.max? = some highest) :
    Fresh w accepted c ↔ c ∉ accepted ∧ highest < c + w := by
  obtain ⟨hmem, hle⟩ := List.max?_eq_some_iff.mp h
  refine and_congr_right fun _ => ⟨fun hnear => hnear highest hmem, fun hlt a ha => ?_⟩
  have := hle a ha
  omega

end TfScale.SlidingWindow
