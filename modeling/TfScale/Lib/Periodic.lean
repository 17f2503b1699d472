/-
  TfScale.Lib.Periodic

  A loop that runs several jobs, each with its own period.

  A round sleeps until the first job is due, wakes up some time late and runs every job
  that is due by then; such a job is due again one period after the wake.  No job runs
  early, and none waits for longer than it takes to finish the round before:
  `beats_paced` has both bounds for every two runs of a job that follow each other, and
  `rounds_le` says that the loop does not spin.
-/

import Mathlib

namespace TfScale

/-- The clock, and when each job is due. -/
@[ext]
structure Timetable (ι : Type*) where
  now : Nat
  due : ι → Nat

/-- How late a round wakes up, and how long each job takes in it. -/
structure Delay (ι : Type*) where
  late : Nat
  takes : ι → Nat

namespace Timetable

variable {ι : Type*} [Fintype ι] [Nonempty ι]
variable {period takes : ι → Nat} {late last : Nat} {t : Timetable ι} {d : Delay ι} {ds : List (Delay ι)} {i : ι}

def earliest (t : Timetable ι) : Nat := Finset.univ.inf' Finset.univ_nonempty t.due

/-- When the round wakes up. -/
def wake (t : Timetable ι) (d : Delay ι) : Nat := max t.now t.earliest + d.late

/-- How long the jobs of the round take together. -/
def busy (t : Timetable ι) (d : Delay ι) : Nat := ∑ i with t.due i ≤ t.wake d, d.takes i

def round (period : ι → Nat) (t : Timetable ι) (d : Delay ι) : Timetable ι where
  now := t.wake d + t.busy d
  due i := if t.due i ≤ t.wake d then t.wake d + period i else t.due i

/-- The wakes of the rounds that run the job. -/
def beats (period : ι → Nat) (i : ι) : List (Delay ι) → Timetable ι → List Nat
  | [], _ => []
  | d :: ds, t =>
      if t.due i ≤ t.wake d then t.wake d :: beats period i ds (t.round period d)
      else beats period i ds (t.round period d)

theorem beats_cons (period : ι → Nat) (i : ι) (d : Delay ι) (ds : List (Delay ι)) (t : Timetable ι) :
    beats period i (d :: ds) t = (if t.due i ≤ t.wake d then [t.wake d] else []) ++
      beats period i ds (t.round period d) := by
  rw [beats]
  split
  · rfl
  · rfl

/-- The timetable after some rounds. -/
def after (period : ι → Nat) (t : Timetable ι) (ds : List (Delay ι)) : Timetable ι :=
  ds.foldl (round period) t

/-- Every job is due one period from now. -/
def start (period : ι → Nat) (now : Nat) : Timetable ι := ⟨now, fun i => now + period i⟩

-- ============================================================================
-- One round
-- ============================================================================

theorem earliest_le (t : Timetable ι) (i : ι) : t.earliest ≤ t.due i :=
  Finset.inf'_le t.due (Finset.mem_univ i)

/-- A round runs at least one job. -/
theorem exists_due (t : Timetable ι) (d : Delay ι) : ∃ i, t.due i ≤ t.wake d := by
  obtain ⟨i, -, hi⟩ := Finset.exists_mem_eq_inf' Finset.univ_nonempty t.due
  have hearliest : t.earliest = t.due i := hi
  refine ⟨i, ?_⟩
  unfold wake
  omega

theorem now_le_wake : t.now ≤ t.wake d := by
  unfold wake
  omega

/-- The delays of a round are within bounds. -/
structure Within (late : Nat) (takes : ι → Nat) (d : Delay ι) : Prop where
  late : d.late ≤ late
  takes : ∀ i, d.takes i ≤ takes i

variable [DecidableEq ι]

/-- How long the other jobs may take. -/
def others (takes : ι → Nat) (i : ι) : Nat := ∑ j ∈ Finset.univ.erase i, takes j

theorem busy_le (hd : Within late takes d) (i : ι) : t.busy d ≤ takes i + others takes i := by
  have hall : t.busy d ≤ ∑ j, takes j := by
    calc t.busy d ≤ ∑ j, d.takes j := Finset.sum_le_sum_of_subset (Finset.filter_subset _ _)
      _ ≤ ∑ j, takes j := Finset.sum_le_sum fun j _ => hd.takes j
  rw [← Finset.add_sum_erase Finset.univ takes (Finset.mem_univ i)] at hall
  exact hall

/-- A round that does not run the job takes as long as the others do. -/
theorem busy_le_others (hd : Within late takes d) (hnot : ¬ t.due i ≤ t.wake d) :
    t.busy d ≤ others takes i := by
  have hwithout : Finset.univ.filter (fun j => t.due j ≤ t.wake d) ⊆ Finset.univ.erase i := by
    intro j hj
    refine Finset.mem_erase.mpr ⟨?_, Finset.mem_univ j⟩
    rintro rfl
    exact hnot (Finset.mem_filter.mp hj).2
  calc t.busy d ≤ ∑ j ∈ Finset.univ.erase i, d.takes j := Finset.sum_le_sum_of_subset hwithout
    _ ≤ others takes i := Finset.sum_le_sum fun j _ => hd.takes j

-- ============================================================================
-- Pace
-- ============================================================================

/-- How long after its last run the round of the job begins, at most. -/
def gap (period takes : ι → Nat) (i : ι) : Nat := max (period i) (takes i) + others takes i

/-- The job ran last in the round that woke up at `last`. -/
structure Paced (period takes : ι → Nat) (i : ι) (last : Nat) (t : Timetable ι) : Prop where
  due : t.due i = last + period i
  since : last ≤ t.now
  within : t.now ≤ last + gap period takes i

omit [Nonempty ι] in
theorem paced_start (now : Nat) : Paced period takes i now (start period now) :=
  ⟨rfl, Nat.le_refl _, Nat.le_add_right _ _⟩

theorem Paced.wake_le (h : Paced period takes i last t) (hd : Within late takes d) :
    t.wake d ≤ last + gap period takes i + late := by
  have hearliest := t.earliest_le i
  have hlate := hd.late
  have hwithin := h.within
  rw [h.due] at hearliest
  unfold wake gap at *
  omega

/-- The round runs the job. -/
theorem Paced.runs (hd : Within late takes d) (hdue : t.due i ≤ t.wake d) :
    Paced period takes i (t.wake d) (t.round period d) := by
  refine ⟨if_pos hdue, Nat.le_add_right _ _, ?_⟩
  have hbusy : t.busy d ≤ takes i + others takes i := busy_le hd i
  show t.wake d + t.busy d ≤ _
  unfold gap
  omega

/-- The round runs other jobs only. -/
theorem Paced.waits (h : Paced period takes i last t) (hd : Within late takes d)
    (hnot : ¬ t.due i ≤ t.wake d) : Paced period takes i last (t.round period d) := by
  have hbusy := busy_le_others hd hnot
  have hwake : t.now ≤ t.wake d := now_le_wake
  have hsince := h.since
  have hdue := h.due
  refine ⟨(if_neg hnot).trans h.due, ?_, ?_⟩
  · show last ≤ t.wake d + t.busy d
    omega
  · show t.wake d + t.busy d ≤ _
    unfold gap
    omega

/-- One run of the job comes a period after the one before it, or as long after as the
    rounds in between take. -/
def Follows (period takes : ι → Nat) (late : Nat) (i : ι) (s s' : Nat) : Prop :=
  s + period i ≤ s' ∧ s' ≤ s + gap period takes i + late

/-- **The pace of a job**, from its last run on. -/
theorem beats_paced (hds : ∀ d ∈ ds, Within late takes d) (h : Paced period takes i last t) :
    (last :: beats period i ds t).IsChain (Follows period takes late i) ∧
      Paced period takes i ((beats period i ds t).getLastD last) (t.after period ds) := by
  induction ds generalizing last t with
  | nil => exact ⟨List.isChain_singleton _, h⟩
  | cons d ds ih =>
      have hd := hds d List.mem_cons_self
      have hds' := fun d' hd' => hds d' (List.mem_cons_of_mem _ hd')
      simp only [beats, after, List.foldl_cons]
      split
      · rename_i hdue
        obtain ⟨hchain, hpaced⟩ := ih hds' (Paced.runs hd hdue : Paced period takes i _ _)
        rw [List.getLastD_cons]
        refine ⟨List.isChain_cons_cons.mpr ⟨⟨?_, h.wake_le hd⟩, hchain⟩, hpaced⟩
        rw [← h.due]
        exact hdue
      · rename_i hnot
        exact ih hds' (h.waits hd hnot)

-- ============================================================================
-- The number of rounds
-- ============================================================================

/-- Each run of the job takes a period. -/
theorem beats_length_le (hds : ∀ d ∈ ds, Within late takes d) (h : Paced period takes i last t) :
    last + (beats period i ds t).length * period i ≤ (t.after period ds).now := by
  obtain ⟨hchain, hpaced⟩ := beats_paced hds h
  refine Nat.le_trans ?_ hpaced.since
  generalize beats period i ds t = times at hchain
  clear h hpaced
  induction times generalizing last with
  | nil => simp
  | cons time times ih =>
      obtain ⟨hfollows, hrest⟩ := List.isChain_cons_cons.mp hchain
      have hlater := ih hrest
      have hperiod := hfollows.1
      rw [List.getLastD_cons, List.length_cons, Nat.add_mul, Nat.one_mul]
      omega

omit [DecidableEq ι] in
/-- Every round is one of some job. -/
theorem length_le_beats (ds : List (Delay ι)) (t : Timetable ι) :
    ds.length ≤ ∑ i, (beats period i ds t).length := by
  induction ds generalizing t with
  | nil => exact Nat.zero_le _
  | cons d ds ih =>
      obtain ⟨j, hj⟩ := t.exists_due d
      have hlater := ih (t.round period d)
      have hkeep : ∀ i, (beats period i ds (t.round period d)).length ≤ (beats period i (d :: ds) t).length := by
        intro i
        simp only [beats]
        split
        · exact Nat.le_succ _
        · exact Nat.le_refl _
      have hruns : (beats period j ds (t.round period d)).length < (beats period j (d :: ds) t).length := by
        simp only [beats, if_pos hj]
        exact Nat.lt_succ_self _
      have hmore := Finset.sum_lt_sum (fun i _ => hkeep i) ⟨j, Finset.mem_univ j, hruns⟩
      rw [List.length_cons]
      omega

/-- **The loop does not spin**: in each period of a job it has one round for it. -/
theorem rounds_le (hperiod : ∀ i, 0 < period i) (hds : ∀ d ∈ ds, Within late takes d) (now : Nat) :
    ds.length ≤ ∑ i, (((start period now).after period ds).now - now) / period i := by
  calc ds.length ≤ ∑ i, (beats period i ds (start period now)).length := length_le_beats ds _
    _ ≤ _ := Finset.sum_le_sum fun i _ => ?_
  have hlength := beats_length_le hds (paced_start now : Paced period takes i now _)
  rw [Nat.le_div_iff_mul_le (hperiod i)]
  omega

end Timetable

end TfScale
