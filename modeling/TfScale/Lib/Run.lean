/-
  TfScale.Lib.Run

  Runs of a system given by a partial step function.

  `step s e` is the state after event `e`, or `none` when the event cannot
  happen in `s`.  `run step s es` folds a list of events, `Along step P s es`
  says that `P` holds of every state the run passes through together with the
  event taken there, `Throughout step Inv s es` that `Inv` holds in every state
  reached, and the invariant rules turn a one-step fact into a fact about whole
  runs.
-/

import Mathlib.Data.List.Induction

namespace TfScale

variable {S E : Type*}

/-- The state reached from `s` by the events `es`, if all of them can happen. -/
def run (step : S → E → Option S) (s : S) : List E → Option S
  | [] => some s
  | e :: es => (step s e).bind fun t => run step t es

/-- `P` holds at every step of the run of `es` from `s`. -/
def Along (step : S → E → Option S) (P : S → E → Prop) (s : S) : List E → Prop
  | [] => True
  | e :: es => P s e ∧ ∀ t, step s e = some t → Along step P t es

/-- `Inv` holds in every state of the run of `es` from `s`, first and last included. -/
def Throughout (step : S → E → Option S) (Inv : S → Prop) (s : S) : List E → Prop
  | [] => Inv s
  | e :: es => Inv s ∧ ∀ t, step s e = some t → Throughout step Inv t es

variable {step : S → E → Option S} {P : S → E → Prop} {Inv : S → Prop} {s t u : S}

theorem run_cons_eq_some {e : E} {es : List E} :
    run step s (e :: es) = some u ↔ ∃ t, step s e = some t ∧ run step t es = some u :=
  Option.bind_eq_some_iff

theorem run_append_eq_some {es fs : List E} :
    run step s (es ++ fs) = some u ↔ ∃ t, run step s es = some t ∧ run step t fs = some u := by
  induction es generalizing s with
  | nil => exact ⟨fun h => ⟨s, rfl, h⟩, fun ⟨t, ht, h⟩ => Option.some.inj ht ▸ h⟩
  | cons e es ih =>
      rw [List.cons_append, run_cons_eq_some]
      refine ⟨fun ⟨t, ht, h⟩ => ?_, fun ⟨t', hrun, h⟩ => ?_⟩
      · obtain ⟨t', ht', h'⟩ := ih.mp h
        exact ⟨t', run_cons_eq_some.mpr ⟨t, ht, ht'⟩, h'⟩
      · obtain ⟨t, ht, ht'⟩ := run_cons_eq_some.mp hrun
        exact ⟨t, ht, ih.mpr ⟨t', ht', h⟩⟩

theorem Along.mono {Q : S → E → Prop} {es : List E} (h : Along step P s es)
    (hPQ : ∀ s e, P s e → Q s e) : Along step Q s es := by
  induction es generalizing s with
  | nil => trivial
  | cons e es ih => exact ⟨hPQ s e h.1, fun t ht => ih (h.2 t ht)⟩

theorem Along.append {es fs : List E} (h : Along step P s es)
    (hfs : ∀ t, run step s es = some t → Along step P t fs) : Along step P s (es ++ fs) := by
  induction es generalizing s with
  | nil => exact hfs s rfl
  | cons e es ih =>
      refine ⟨h.1, fun t ht => ih (h.2 t ht) fun u hu => hfs u ?_⟩
      exact run_cons_eq_some.mpr ⟨t, ht, hu⟩

/-- `Along` can be evaluated on a given run. -/
instance Along.decidable (step : S → E → Option S) (P : S → E → Prop) [∀ s e, Decidable (P s e)] :
    (s : S) → (es : List E) → Decidable (Along step P s es)
  | _, [] => isTrue trivial
  | s, e :: es =>
      match h : step s e with
      | none => decidable_of_iff (P s e)
          ⟨fun hP => ⟨hP, fun _ ht => nomatch h.symm.trans ht⟩, And.left⟩
      | some t =>
          have := Along.decidable step P t es
          decidable_of_iff (P s e ∧ Along step P t es)
            ⟨fun hand => ⟨hand.1, fun _ ht => Option.some.inj (h.symm.trans ht) ▸ hand.2⟩,
              fun hand => ⟨hand.1, hand.2 t h⟩⟩

-- ============================================================================
-- Invariant rules
-- ============================================================================

/-- An invariant kept by the steps that meet `P` holds after every run whose
    steps all meet `P`. -/
theorem invariant_along (hstep : ∀ s e t, Inv s → P s e → step s e = some t → Inv t)
    {es : List E} (hs : Inv s) (halong : Along step P s es) (hrun : run step s es = some t) :
    Inv t := by
  induction es generalizing s with
  | nil =>
      obtain rfl : s = t := Option.some.inj hrun
      exact hs
  | cons e es ih =>
      obtain ⟨u, hu, hrest⟩ := run_cons_eq_some.mp hrun
      exact ih (hstep s e u hs halong.1 hu) (halong.2 u hu) hrest

/-- Along the runs that keep an invariant, properties that agree under it agree. -/
theorem along_congr {Q : S → E → Prop} {Given : E → Prop}
    (hstep : ∀ s e t, Inv s → Given e → step s e = some t → Inv t)
    (hPQ : ∀ s e, Inv s → Given e → (P s e ↔ Q s e)) {es : List E} (hs : Inv s)
    (hes : ∀ e ∈ es, Given e) : Along step P s es ↔ Along step Q s es := by
  induction es generalizing s with
  | nil => exact Iff.rfl
  | cons e es ih =>
      have he := hes e List.mem_cons_self
      refine and_congr (hPQ s e hs he) (forall₂_congr fun t ht => ?_)
      exact ih (hstep s e t hs he ht) fun e' he' => hes e' (List.mem_cons_of_mem _ he')

/-- If the steps that meet `P` keep an invariant that gives `Q`, a run whose steps all
    meet `P` meets `Q` all along. -/
theorem Along.of_invariant {Q : S → E → Prop} {Given : E → Prop}
    (hstep : ∀ s e t, Inv s → Given e → P s e → step s e = some t → Inv t)
    (hQ : ∀ s e, Inv s → Given e → Q s e) {es : List E} (hs : Inv s) (hes : ∀ e ∈ es, Given e)
    (h : Along step P s es) : Along step Q s es := by
  induction es generalizing s with
  | nil => trivial
  | cons e es ih =>
      have he := hes e List.mem_cons_self
      refine ⟨hQ s e hs he, fun t ht => ?_⟩
      exact ih (hstep s e t hs he h.1 ht) (fun e' he' => hes e' (List.mem_cons_of_mem _ he')) (h.2 t ht)

theorem along_true (es : List E) : Along step (fun _ _ => True) s es := by
  induction es generalizing s with
  | nil => trivial
  | cons e es ih => exact ⟨trivial, fun _ _ => ih⟩

/-- An invariant kept by every step holds after every run. -/
theorem invariant_run (hstep : ∀ s e t, Inv s → step s e = some t → Inv t)
    {es : List E} (hs : Inv s) (hrun : run step s es = some t) : Inv t :=
  invariant_along (fun s e t hi _ ht => hstep s e t hi ht) hs (along_true es) hrun

theorem Throughout.head {es : List E} (h : Throughout step Inv s es) : Inv s := by
  cases es with
  | nil => exact h
  | cons e es => exact h.1

theorem Throughout.last {es : List E} (h : Throughout step Inv s es)
    (hrun : run step s es = some t) : Inv t := by
  induction es generalizing s with
  | nil =>
      obtain rfl : s = t := Option.some.inj hrun
      exact h
  | cons e es ih =>
      obtain ⟨u, hu, hrest⟩ := run_cons_eq_some.mp hrun
      exact ih (h.2 u hu) hrest

/-- What follows from an invariant kept by the steps that meet `P` holds in every
    state of a run whose steps all meet `P`. -/
theorem throughout_of_along {Q : S → Prop}
    (hstep : ∀ s e t, Inv s → P s e → step s e = some t → Inv t) (hQ : ∀ s, Inv s → Q s)
    {es : List E} (hs : Inv s) (halong : Along step P s es) : Throughout step Q s es := by
  induction es generalizing s with
  | nil => exact hQ s hs
  | cons e es ih =>
      exact ⟨hQ s hs, fun t ht => ih (hstep s e t hs halong.1 ht) (halong.2 t ht)⟩

/-- The exact condition for a property of states: if the steps that meet `P` keep
    an invariant that gives `Q`, and every other step breaks `Q`, then `Q` holds
    throughout a run exactly when all its steps meet `P`. -/
theorem throughout_iff_along {Q : S → Prop} (hQ : ∀ s, Inv s → Q s)
    (hkeep : ∀ s e t, Inv s → P s e → step s e = some t → Inv t)
    (hbreak : ∀ s e, Inv s → ¬ P s e → ∃ t, step s e = some t ∧ ¬ Q t)
    (hs : Inv s) (es : List E) :
    Throughout step Q s es ↔ Along step P s es := by
  refine ⟨fun h => ?_, fun h => throughout_of_along hkeep hQ hs h⟩
  induction es generalizing s with
  | nil => trivial
  | cons e es ih =>
      have hP : P s e := by
        by_contra hnot
        obtain ⟨t, ht, hbroken⟩ := hbreak s e hs hnot
        exact hbroken (h.2 t ht).head
      exact ⟨hP, fun t ht => ih (hkeep s e t hs hP ht) (h.2 t ht)⟩

end TfScale
