/-
  TfScale.Custom.WindowRefinement

  Is the receive window the set of the counters that it let in?

  The abstract state is the list of the accepted counters, the concrete one the highest
  counter and the bitmap.  `History.call` takes both along: a counter is recorded when
  `accept` succeeds on it.  One call keeps them together (`History.Faithful.call`), and so
  every sequence of calls does.
-/

import TfScale.Custom.Nonce

namespace TfScale.Custom

namespace ReplayWindow

/-- A window, and the counters that it accepted so far, the last one first. -/
structure History where
  window : ReplayWindow
  accepted : List Nat

namespace History

/-- Before the first call. -/
def start : History := ⟨default, []⟩

/-- A call of `accept`. -/
def call (past : History) (nonce : Nonce) : History :=
  match past.window.accept nonce with
  | (.ok (), window) => ⟨window, (nonceCounter nonce).toNat :: past.accepted⟩
  | (.error _, window) => ⟨window, past.accepted⟩

/-- The calls for the nonces of a list, one after the other. -/
def after (nonces : List Nonce) : History := nonces.foldl call start

/-- The window represents the accepted counters, and is untouched before the first. -/
structure Faithful (past : History) : Prop where
  represents : past.window.Represents past.accepted
  untouched : past.accepted = [] → past.window = default

variable {past : History}

theorem faithful_start : start.Faithful := ⟨default_represents, fun _ => rfl⟩

/-- What one call does. -/
theorem Faithful.call (h : past.Faithful) (nonce : Nonce) : (past.call nonce).Faithful := by
  by_cases hfresh : SlidingWindow.Fresh replayWindowBits past.accepted (nonceCounter nonce).toNat
  · obtain ⟨hok, hnext⟩ := accept_of_fresh h.represents hfresh
    have hcall : past.call nonce =
        ⟨(past.window.accept nonce).2, (nonceCounter nonce).toNat :: past.accepted⟩ := by
      rw [History.call, ← Prod.eta (past.window.accept nonce), hok]
    rw [hcall]
    exact ⟨hnext, fun hnil => absurd hnil (List.cons_ne_nil _ _)⟩
  · obtain ⟨error, hrefused⟩ := accept_of_not_fresh h.represents hfresh
    have hcall : past.call nonce = past := by rw [History.call, hrefused]
    rw [hcall]
    exact h

theorem Faithful.calls (h : past.Faithful) (nonces : List Nonce) :
    (nonces.foldl History.call past).Faithful := by
  induction nonces generalizing past with
  | nil => exact h
  | cons nonce nonces ih => exact ih (h.call nonce)

theorem faithful_after (nonces : List Nonce) : (after nonces).Faithful :=
  faithful_start.calls nonces

-- ============================================================================
-- What the window tells about the accepted counters
-- ============================================================================

/-- The counter is let in after the accepted ones: it is the first, or it is new and
    less than a window below the highest. -/
def LetsIn (accepted : List Nat) (counter : Nat) : Prop :=
  accepted = [] ∨ counter ∉ accepted ∧
    ∃ highest, accepted.max? = some highest ∧ (highest : Int) - replayWindowBits < counter

theorem letsIn_iff {accepted : List Nat} {counter : Nat} :
    LetsIn accepted counter ↔ SlidingWindow.Fresh replayWindowBits accepted counter := by
  cases hmax : accepted.max? with
  | none =>
      obtain rfl := List.max?_eq_none_iff.mp hmax
      exact iff_of_true (Or.inl rfl) (SlidingWindow.fresh_nil _ _)
  | some highest =>
      have hne : accepted ≠ [] := fun hnil => by
        rw [hnil] at hmax
        cases hmax
      rw [LetsIn, SlidingWindow.fresh_iff_of_max? hmax, or_iff_right hne, hmax]
      simp only [Option.some.injEq, exists_eq_left', replayWindowBits]
      refine and_congr_right fun _ => ?_
      omega

/-- The highest counter is the greatest accepted one. -/
theorem Faithful.highest_eq (h : past.Faithful) :
    past.window.highest.map UInt64.toNat = past.accepted.max? := by
  have hrepresents := h.represents
  rw [Represents] at hrepresents
  cases hhighest : past.window.highest with
  | none =>
      rw [hhighest] at hrepresents
      rw [hrepresents]
      rfl
  | some highest =>
      rw [hhighest] at hrepresents
      rw [hrepresents.max?_eq]
      rfl

/-- A bit is set for each accepted counter that the bitmap reaches. -/
theorem Faithful.bit_iff (h : past.Faithful) {i : Nat} (hi : i < replayWindowBits) :
    past.window.seen.getLsbD i = true ↔
      ∃ highest, past.accepted.max? = some highest ∧ i ≤ highest ∧ highest - i ∈ past.accepted := by
  have hrepresents := h.represents
  rw [Represents] at hrepresents
  cases hhighest : past.window.highest with
  | none =>
      rw [hhighest] at hrepresents
      rw [h.untouched hrepresents, hrepresents]
      refine iff_of_false (by simp [default]) ?_
      rintro ⟨highest, hmax, -⟩
      cases hmax
  | some highest =>
      rw [hhighest] at hrepresents
      rw [hrepresents.bit i hi, hrepresents.max?_eq]
      simp only [Option.some.injEq, exists_eq_left']

end History

end ReplayWindow

-- ============================================================================
-- Main result
-- ============================================================================

open ReplayWindow in
/-- **The replay window.**  After any calls, the next one succeeds when its counter is
    the first, or new and less than 64 below the highest accepted one; if it fails, the
    window stays as it was.  Bit `i` of the bitmap is set when the counter `i` below the
    highest was accepted. -/
theorem replay_window_refines_accepted (nonces : List Nonce) :
    (∀ nonce, ((History.after nonces).window.accept nonce).1 = .ok () ↔
      History.LetsIn (History.after nonces).accepted (nonceCounter nonce).toNat) ∧
    (∀ nonce error, ((History.after nonces).window.accept nonce).1 = .error error →
      ((History.after nonces).window.accept nonce).2 = (History.after nonces).window) ∧
    (History.after nonces).window.highest.map UInt64.toNat = (History.after nonces).accepted.max? ∧
    ∀ i < replayWindowBits, ((History.after nonces).window.seen.getLsbD i = true ↔
      ∃ highest, (History.after nonces).accepted.max? = some highest ∧ i ≤ highest ∧
        highest - i ∈ (History.after nonces).accepted) := by
  have h := History.faithful_after nonces
  refine ⟨fun nonce => ?_, fun nonce error => accept_error, h.highest_eq, fun i hi => h.bit_iff hi⟩
  rw [accept_ok_iff h.represents, History.letsIn_iff]

end TfScale.Custom
