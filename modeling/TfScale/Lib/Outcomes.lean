/-
  TfScale.Lib.Outcomes

  Machines that take inputs one after another, may refuse an input, and answer
  each of them.

  `outcomes step s inputs` pairs every input with its answer, `after step s inputs`
  is the state the machine ends in.  A machine is `Silent` when a refused input
  leaves its state alone; two inductions say what that is worth:
  inputs that are refused where they stand can be taken out of a run without
  changing the answers to the others or the state at the end.
-/

import Mathlib.Data.List.Basic

namespace TfScale

variable {S I ε α : Type*}

/-- Every input with the answer it got. -/
def outcomes (step : S → I → Except ε α × S) (s : S) : List I → List (I × Except ε α)
  | [] => []
  | i :: inputs => (i, (step s i).1) :: outcomes step (step s i).2 inputs

/-- The state after all inputs. -/
def after (step : S → I → Except ε α × S) (s : S) : List I → S
  | [] => s
  | i :: inputs => after step (step s i).2 inputs

/-- A refused input leaves the state as it was. -/
def Silent (step : S → I → Except ε α × S) : Prop :=
  ∀ s i e, (step s i).1 = .error e → (step s i).2 = s

/-- The inputs of a run that were not refused. -/
def accepted (step : S → I → Except ε α × S) (s : S) (inputs : List I) : List I :=
  ((outcomes step s inputs).filter fun o => o.2.isOk).map Prod.fst

variable {step : S → I → Except ε α × S}

theorem outcomes_cons (s : S) (i : I) (inputs : List I) :
    outcomes step s (i :: inputs) = (i, (step s i).1) :: outcomes step (step s i).2 inputs := rfl

theorem after_cons (s : S) (i : I) (inputs : List I) :
    after step s (i :: inputs) = after step (step s i).2 inputs := rfl

/-- Of a machine's inputs, those refused where they stand leave no trace: the run
    of the accepted inputs alone gives them the same answers and ends in the same
    state. -/
theorem Silent.outcomes_accepted (h : Silent step) (s : S) (inputs : List I) :
    outcomes step s (accepted step s inputs) =
        (outcomes step s inputs).filter (fun o => o.2.isOk) ∧
      after step s (accepted step s inputs) = after step s inputs := by
  induction inputs generalizing s with
  | nil => exact ⟨rfl, rfl⟩
  | cons i inputs ih =>
      obtain ⟨houtcomes, hafter⟩ := ih (step s i).2
      cases hanswer : (step s i).1 with
      | error e =>
          have hstay : (step s i).2 = s := h s i e hanswer
          have hskip : accepted step s (i :: inputs) = accepted step s inputs := by
            simp only [accepted, outcomes_cons, hanswer, hstay]
            rfl
          rw [hstay] at houtcomes hafter
          rw [hskip, outcomes_cons, after_cons, hanswer, hstay]
          exact ⟨houtcomes, hafter⟩
      | ok a =>
          have hkeep : accepted step s (i :: inputs) =
              i :: accepted step (step s i).2 inputs := by
            simp only [accepted, outcomes_cons, hanswer]
            rfl
          rw [hkeep, outcomes_cons, outcomes_cons, after_cons, after_cons, houtcomes, hanswer]
          exact ⟨rfl, hafter⟩

/-- Inputs that are refused whenever they arrive can be added anywhere: `R`
    holds of the states the run passes through, and such a state refuses every
    input of the run that `junk` marks. -/
theorem Silent.outcomes_filter (h : Silent step) {R : S → Prop} {junk : I → Bool}
    (hkeep : ∀ s i, R s → R (step s i).2) {s : S} (hs : R s)
    (inputs : List I)
    (hrefused : ∀ i ∈ inputs, junk i = true → ∀ s, R s → ∃ e, (step s i).1 = .error e) :
    (outcomes step s inputs).filter (fun o => !junk o.1) =
        outcomes step s (inputs.filter fun i => !junk i) ∧
      after step s inputs = after step s (inputs.filter fun i => !junk i) := by
  induction inputs generalizing s with
  | nil => exact ⟨rfl, rfl⟩
  | cons i inputs ih =>
      obtain ⟨houtcomes, hafter⟩ :=
        ih (hkeep s i hs) fun i hi => hrefused i (List.mem_cons_of_mem _ hi)
      cases hjunk : junk i with
      | true =>
          obtain ⟨e, hanswer⟩ := hrefused i List.mem_cons_self hjunk s hs
          have hstay : (step s i).2 = s := h s i e hanswer
          rw [hstay] at houtcomes hafter
          simp only [outcomes_cons, after_cons, hstay, List.filter_cons, hjunk, Bool.not_true,
            Bool.false_eq_true, if_false]
          exact ⟨houtcomes, hafter⟩
      | false =>
          simp only [outcomes_cons, after_cons, List.filter_cons, hjunk, Bool.not_false, if_true]
          exact ⟨by rw [houtcomes], hafter⟩

end TfScale
