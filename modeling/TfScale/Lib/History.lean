/-
  TfScale.Lib.History

  The states that a run passes, by the number of events before them.

  `Passed step s es n t` says that the run of `es` from `s` is in state `t` after
  its first `n` events.  What was passed stays passed when the run goes on, so an
  invariant may relate the present state to the ones before it; `invariant_history`
  is its induction rule.
-/

import TfScale.Lib.Run

namespace TfScale

variable {S E : Type*} {step : S → E → Option S} {s t u v : S} {es fs : List E} {n m : Nat}

/-- The run of `es` from `s` is in state `t` after `n` events. -/
structure Passed (step : S → E → Option S) (s : S) (es : List E) (n : Nat) (t : S) : Prop where
  le : n ≤ es.length
  run : run step s (es.take n) = some t

/-- The run goes on. -/
theorem Passed.append (h : Passed step s es n t) (fs : List E) : Passed step s (es ++ fs) n t where
  le := by
    rw [List.length_append]
    exact Nat.le_add_right_of_le h.le
  run := by
    rw [List.take_append_of_le_length h.le]
    exact h.run

theorem passed_last (h : run step s es = some t) : Passed step s es es.length t where
  le := Nat.le_refl _
  run := by
    rw [List.take_length]
    exact h

/-- The end of the run, seen from a state that it passed. -/
theorem Passed.rest (h : Passed step s es n t) (hrun : TfScale.run step s es = some u) :
    TfScale.run step t (es.drop n) = some u := by
  rw [← List.take_append_drop n es] at hrun
  obtain ⟨t', ht', hrest⟩ := run_append_eq_some.mp hrun
  rw [h.run] at ht'
  rw [Option.some.inj ht']
  exact hrest

/-- The part of the run between two states that it passed. -/
theorem Passed.between (h : Passed step s es n t) (h' : Passed step s es m u) (hle : n ≤ m) :
    TfScale.run step t ((es.take m).drop n) = some u := by
  have hcut : Passed step s (es.take m) n t := by
    refine ⟨?_, ?_⟩
    · rw [List.length_take]
      have := h'.le
      omega
    · rw [List.take_take, Nat.min_eq_left hle]
      exact h.run
  exact hcut.rest h'.run

theorem run_concat_eq_some {e : E} :
    run step s (es ++ [e]) = some u ↔ ∃ t, run step s es = some t ∧ step t e = some u := by
  rw [run_append_eq_some]
  refine exists_congr fun t => and_congr_right fun _ => ?_
  show (step t e).bind some = some u ↔ _
  rw [Option.bind_fun_some]

/-- A relation between the events so far and the state they lead to holds after every
    run, if it holds of no events and is kept by one more. -/
theorem invariant_history {Inv : List E → S → Prop} (hstart : Inv [] s)
    (hstep : ∀ es e t u, run step s es = some t → Inv es t → step t e = some u → Inv (es ++ [e]) u)
    (hrun : run step s es = some t) : Inv es t := by
  induction es using List.reverseRecOn generalizing t with
  | nil =>
      obtain rfl : s = t := Option.some.inj hrun
      exact hstart
  | append_singleton es e ih =>
      obtain ⟨u, hu, hlast⟩ := run_concat_eq_some.mp hrun
      exact hstep es e u t hu (ih hu) hlast

end TfScale
