/-
  TfScale.Lib.Mutex

  Fallible code of one thread that uses a non-reentrant mutex.

  A program takes what the thread shares with the world (the mutex and some other
  state) to its result and the new world, or to the reason why it never returns:
  it waits for a lock that it holds itself, it panics, or it waits for input that
  has not come.  Sequencing stops at the first error, as `?` does.  `withGuard`
  is the scope of a lock guard; the lock is released when the scope ends, by
  success or by error.
-/

import Mathlib.Tactic.Common

namespace TfScale

/-- A mutex with the value it protects. -/
structure Mutex (σ : Type) where
  value : σ
  held : Bool
  poisoned : Bool

/-- What a thread shares with the rest of the program. -/
structure Shared (δ σ : Type) where
  other : δ
  mutex : Mutex σ

/-- Why a program does not return. -/
inductive Halt where
  | deadlock
  | panicked
  | waiting
deriving DecidableEq, Repr

/-- How a program ends: it does not return, or it returns a result or an error. -/
abbrev Outcome (δ σ ε α : Type) := Except Halt (Except ε α × Shared δ σ)

/-- Programs with results in `α` and errors in `ε`. -/
structure ThreadM (δ σ ε α : Type) where
  run : Shared δ σ → Outcome δ σ ε α

namespace ThreadM

variable {δ σ ε α β : Type}

/-- Return a result or an error. -/
def ofExcept (r : Except ε α) : ThreadM δ σ ε α := ⟨fun w => .ok (r, w)⟩

/-- Go on with the result, stop at an error. -/
def andThen (m : ThreadM δ σ ε α) (f : α → ThreadM δ σ ε β) : ThreadM δ σ ε β :=
  ⟨fun w =>
    match m.run w with
    | .error halt => .error halt
    | .ok (.error e, w) => .ok (.error e, w)
    | .ok (.ok a, w) => (f a).run w⟩

instance : Monad (ThreadM δ σ ε) where
  pure a := ofExcept (.ok a)
  bind := andThen

/-- The result of a program as a value, error or not. -/
def attempt (m : ThreadM δ σ ε α) : ThreadM δ σ ε (Except ε α) :=
  ⟨fun w =>
    match m.run w with
    | .error halt => .error halt
    | .ok (r, w) => .ok (.ok r, w)⟩

/-- The program with its errors converted, as `?` does with `From`. -/
def mapError {ε' : Type} (g : ε → ε') (m : ThreadM δ σ ε α) : ThreadM δ σ ε' α :=
  ⟨fun w =>
    match m.run w with
    | .error halt => .error halt
    | .ok (.error e, w) => .ok (.error (g e), w)
    | .ok (.ok a, w) => .ok (.ok a, w)⟩

/-- The program never returns. -/
def halt (h : Halt) : ThreadM δ σ ε α := ⟨fun _ => .error h⟩

/-- A step on the unprotected part of the world. -/
def other (f : δ → Except ε α × δ) : ThreadM δ σ ε α :=
  ⟨fun w => .ok ((f w.other).1, { w with other := (f w.other).2 })⟩

/-- Replace the protected value. -/
def setValue (w : Shared δ σ) (v : σ) : Shared δ σ := { w with mutex := { w.mutex with value := v } }

/-- A step on the protected value; only used while the lock is held. -/
def protect (f : σ → Except ε α × σ) : ThreadM δ σ ε α :=
  ⟨fun w => .ok ((f w.mutex.value).1, setValue w (f w.mutex.value).2)⟩

/-- The world with the lock taken. -/
def acquired (w : Shared δ σ) : Shared δ σ := { w with mutex := { w.mutex with held := true } }

/-- The world with the lock given back. -/
def released (w : Shared δ σ) : Shared δ σ := { w with mutex := { w.mutex with held := false } }

/-- Run `body` while holding the lock; `poison` is the error of a poisoned lock. -/
def withGuard (poison : ε) (body : ThreadM δ σ ε α) : ThreadM δ σ ε α :=
  ⟨fun w =>
    if w.mutex.held then .error .deadlock
    else if w.mutex.poisoned then .ok (.error poison, w)
    else
      match body.run (acquired w) with
      | .error halt => .error halt
      | .ok (r, w) => .ok (r, released w)⟩

/-- One step on the protected value, under the lock. -/
def withLock (poison : ε) (f : σ → Except ε α × σ) : ThreadM δ σ ε α :=
  withGuard poison (protect f)

-- ============================================================================
-- Running programs
-- ============================================================================

@[simp] theorem setValue_value (w : Shared δ σ) (v : σ) : (setValue w v).mutex.value = v := rfl

@[simp] theorem setValue_other (w : Shared δ σ) (v : σ) : (setValue w v).other = w.other := rfl

@[simp] theorem run_pure (a : α) (w : Shared δ σ) :
    (pure a : ThreadM δ σ ε α).run w = .ok (.ok a, w) := rfl

@[simp] theorem run_ofExcept (r : Except ε α) (w : Shared δ σ) :
    (ofExcept r : ThreadM δ σ ε α).run w = .ok (r, w) := rfl

@[simp] theorem run_other (f : δ → Except ε α × δ) (w : Shared δ σ) :
    (other f : ThreadM δ σ ε α).run w = .ok ((f w.other).1, { w with other := (f w.other).2 }) := rfl

@[simp] theorem run_protect (f : σ → Except ε α × σ) (w : Shared δ σ) :
    (protect f : ThreadM δ σ ε α).run w =
      .ok ((f w.mutex.value).1, setValue w (f w.mutex.value).2) := rfl

theorem run_bind (m : ThreadM δ σ ε α) (f : α → ThreadM δ σ ε β) (w : Shared δ σ) :
    (m >>= f).run w =
      match m.run w with
      | .error halt => .error halt
      | .ok (.error e, w) => .ok (.error e, w)
      | .ok (.ok a, w) => (f a).run w := rfl

theorem bind_ok {m : ThreadM δ σ ε α} {f : α → ThreadM δ σ ε β} {w w' : Shared δ σ} {a : α}
    (h : m.run w = .ok (.ok a, w')) : (m >>= f).run w = (f a).run w' := by
  rw [run_bind, h]

theorem bind_error {m : ThreadM δ σ ε α} {f : α → ThreadM δ σ ε β} {w w' : Shared δ σ} {e : ε}
    (h : m.run w = .ok (.error e, w')) : (m >>= f).run w = .ok (.error e, w') := by
  rw [run_bind, h]

theorem bind_halt {m : ThreadM δ σ ε α} {f : α → ThreadM δ σ ε β} {w : Shared δ σ} {h : Halt}
    (hm : m.run w = .error h) : (m >>= f).run w = .error h := by
  rw [run_bind, hm]

/-- A sequence that returns did so in its first part, with an error, or in its second. -/
theorem bind_returned {m : ThreadM δ σ ε α} {f : α → ThreadM δ σ ε β} {w w' : Shared δ σ}
    {r : Except ε β} (h : (m >>= f).run w = .ok (r, w')) :
    (∃ e, m.run w = .ok (.error e, w') ∧ r = .error e) ∨
      ∃ a w₁, m.run w = .ok (.ok a, w₁) ∧ (f a).run w₁ = .ok (r, w') := by
  rw [run_bind] at h
  split at h
  · cases h
  · rename_i e w₁ hm
    obtain ⟨rfl, rfl⟩ := Prod.mk.inj (Except.ok.inj h)
    exact Or.inl ⟨e, hm, rfl⟩
  · rename_i a w₁ hm
    exact Or.inr ⟨a, w₁, hm, h⟩

/-- A sequence that returns a result went through a result of its first part. -/
theorem bind_eq_ok {m : ThreadM δ σ ε α} {f : α → ThreadM δ σ ε β} {w w' : Shared δ σ} {b : β}
    (h : (m >>= f).run w = .ok (.ok b, w')) :
    ∃ a w₁, m.run w = .ok (.ok a, w₁) ∧ (f a).run w₁ = .ok (.ok b, w') := by
  rcases bind_returned h with ⟨_, -, herror⟩ | hresult
  · cases herror
  · exact hresult

theorem attempt_returned {m : ThreadM δ σ ε α} {w w' : Shared δ σ} {r : Except ε (Except ε α)}
    (h : m.attempt.run w = .ok (r, w')) : ∃ r₁, m.run w = .ok (r₁, w') := by
  simp only [attempt] at h
  split at h
  · cases h
  · rename_i r₁ w₁ hm
    obtain ⟨-, rfl⟩ := Prod.mk.inj (Except.ok.inj h)
    exact ⟨r₁, hm⟩

/-- A guarded scope that returns found the lock free; it refused to enter, or its body
    returned under the lock. -/
theorem withGuard_returned {poison : ε} {body : ThreadM δ σ ε α} {w w' : Shared δ σ} {r : Except ε α}
    (h : (withGuard poison body).run w = .ok (r, w')) :
    w.mutex.held = false ∧
      (w' = w ∨ ∃ w₁, body.run (acquired w) = .ok (r, w₁) ∧ w' = released w₁) := by
  simp only [withGuard] at h
  split at h
  · cases h
  · rename_i hheld
    refine ⟨Bool.eq_false_iff.mpr hheld, ?_⟩
    split at h
    · obtain ⟨-, rfl⟩ := Prod.mk.inj (Except.ok.inj h)
      exact Or.inl rfl
    · split at h
      · cases h
      · rename_i r₁ w₁ hbody
        obtain ⟨rfl, rfl⟩ := Prod.mk.inj (Except.ok.inj h)
        exact Or.inr ⟨w₁, hbody, rfl⟩

theorem mapError_eq_ok {ε' : Type} {g : ε → ε'} {m : ThreadM δ σ ε α} {w w' : Shared δ σ} {a : α}
    (h : (mapError g m).run w = .ok (.ok a, w')) : m.run w = .ok (.ok a, w') := by
  simp only [mapError] at h
  split at h
  · cases h
  · cases h
  · rename_i b w₁ hm
    obtain ⟨hab, rfl⟩ := Prod.mk.inj (Except.ok.inj h)
    obtain rfl := Except.ok.inj hab
    exact hm

/-- The lock is free and not poisoned. -/
structure Ready (w : Shared δ σ) : Prop where
  free : w.mutex.held = false
  sound : w.mutex.poisoned = false

theorem Ready.setValue {w : Shared δ σ} (hw : Ready w) (v : σ) : Ready (setValue w v) :=
  ⟨hw.free, hw.sound⟩

theorem released_acquired {w : Shared δ σ} (hfree : w.mutex.held = false) :
    released (acquired w) = w := by
  obtain ⟨other, value, held, poisoned⟩ := w
  obtain rfl : held = false := hfree
  rfl

/-- Taking a lock that the thread holds. -/
theorem withGuard_held {poison : ε} {body : ThreadM δ σ ε α} {w : Shared δ σ}
    (hheld : w.mutex.held = true) : (withGuard poison body).run w = .error .deadlock :=
  if_pos hheld

/-- A poisoned lock is an error, whatever was to be done under it. -/
theorem withGuard_poisoned {poison : ε} {body : ThreadM δ σ ε α} {w : Shared δ σ}
    (hfree : w.mutex.held = false) (hpoisoned : w.mutex.poisoned = true) :
    (withGuard poison body).run w = .ok (.error poison, w) := by
  simp only [withGuard, hfree, hpoisoned, if_true, if_false, Bool.false_eq_true]

/-- A scope on a free, sound lock that ends. -/
theorem withGuard_ok {poison : ε} {body : ThreadM δ σ ε α} {w w' : Shared δ σ} {r : Except ε α}
    (hw : Ready w) (hbody : body.run (acquired w) = .ok (r, w')) :
    (withGuard poison body).run w = .ok (r, released w') := by
  simp only [withGuard, hw.free, hw.sound, Bool.false_eq_true, if_false, hbody]

/-- A scope on a free, sound lock that does not end. -/
theorem withGuard_halt {poison : ε} {body : ThreadM δ σ ε α} {w : Shared δ σ} {h : Halt}
    (hw : Ready w) (hbody : body.run (acquired w) = .error h) :
    (withGuard poison body).run w = .error h := by
  simp only [withGuard, hw.free, hw.sound, Bool.false_eq_true, if_false, hbody]

/-- A critical section on a free, sound lock. -/
theorem withLock_ready {poison : ε} {f : σ → Except ε α × σ} {w : Shared δ σ} (hw : Ready w) :
    (withLock poison f).run w = .ok ((f w.mutex.value).1, setValue w (f w.mutex.value).2) := by
  obtain ⟨other, value, held, poisoned⟩ := w
  obtain ⟨hfree, hsound⟩ := hw
  obtain rfl : held = false := hfree
  obtain rfl : poisoned = false := hsound
  rfl

-- ============================================================================
-- Programs that leave something alone
-- ============================================================================

/-- Whenever the program returns, what `g` reads of the world is unchanged. -/
def Leaves {γ : Type} (g : Shared δ σ → γ) (m : ThreadM δ σ ε α) : Prop :=
  ∀ w r w', m.run w = .ok (r, w') → g w' = g w

section Leaves

variable {γ : Type} {g : Shared δ σ → γ}

theorem leaves_ofExcept (r : Except ε α) : Leaves g (ofExcept r : ThreadM δ σ ε α) := by
  intro w r' w' h
  obtain ⟨-, rfl⟩ := Prod.mk.inj (Except.ok.inj h)
  rfl

theorem leaves_protect {f : σ → Except ε α × σ} (hf : ∀ w, g (setValue w (f w.mutex.value).2) = g w) :
    Leaves g (protect f : ThreadM δ σ ε α) := by
  intro w r w' h
  obtain ⟨-, rfl⟩ := Prod.mk.inj (Except.ok.inj h)
  exact hf w

theorem leaves_other {f : δ → Except ε α × δ} (hf : ∀ w, g { w with other := (f w.other).2 } = g w) :
    Leaves g (other f : ThreadM δ σ ε α) := by
  intro w r w' h
  obtain ⟨-, rfl⟩ := Prod.mk.inj (Except.ok.inj h)
  exact hf w

theorem Leaves.bind {m : ThreadM δ σ ε α} {f : α → ThreadM δ σ ε β} (hm : Leaves g m)
    (hf : ∀ a, Leaves g (f a)) : Leaves g (m >>= f) := by
  intro w r w' h
  rcases bind_returned h with ⟨_, hmw, -⟩ | ⟨a, w₁, hmw, hfw⟩
  · exact hm w _ _ hmw
  · exact (hf a w₁ r w' hfw).trans (hm w _ _ hmw)

theorem Leaves.attempt {m : ThreadM δ σ ε α} (hm : Leaves g m) : Leaves g m.attempt := by
  intro w r w' h
  obtain ⟨r₁, hmw⟩ := attempt_returned h
  exact hm w r₁ w' hmw

/-- `g` does not read whether the lock is held. -/
structure IgnoresLock (g : Shared δ σ → γ) : Prop where
  acquired : ∀ w, g (acquired w) = g w
  released : ∀ w, g (released w) = g w

theorem Leaves.withGuard {poison : ε} {body : ThreadM δ σ ε α} (hbody : Leaves g body)
    (hlock : IgnoresLock g) : Leaves g (withGuard poison body) := by
  intro w r w' h
  obtain ⟨-, rfl | ⟨w₁, hrun, rfl⟩⟩ := withGuard_returned h
  · rfl
  · rw [hlock.released, hbody (ThreadM.acquired w) r w₁ hrun, hlock.acquired]

end Leaves

/-- Whenever the program returns, what `g` reads outside the lock is unchanged. -/
def Keeps {γ : Type} (g : δ → γ) (m : ThreadM δ σ ε α) : Prop :=
  ∀ w r w', m.run w = .ok (r, w') → g w'.other = g w.other

-- ============================================================================
-- Programs that return with the lock as they found it
-- ============================================================================

/-- Whenever the program returns, the lock is held if it was held before. -/
def Balanced (m : ThreadM δ σ ε α) : Prop :=
  ∀ w r w', m.run w = .ok (r, w') → w'.mutex.held = w.mutex.held

theorem balanced_ofExcept (r : Except ε α) : Balanced (ofExcept r : ThreadM δ σ ε α) :=
  leaves_ofExcept r

theorem balanced_other (f : δ → Except ε α × δ) : Balanced (other f : ThreadM δ σ ε α) :=
  leaves_other fun _ => rfl

theorem Balanced.bind {m : ThreadM δ σ ε α} {f : α → ThreadM δ σ ε β} (hm : Balanced m)
    (hf : ∀ a, Balanced (f a)) : Balanced (m >>= f) :=
  Leaves.bind hm hf

/-- A guard is dropped at the end of its scope, whatever happened inside. -/
theorem balanced_withGuard (poison : ε) (body : ThreadM δ σ ε α) :
    Balanced (withGuard poison body) := by
  intro w r w' h
  obtain ⟨hfree, rfl | ⟨w₁, -, rfl⟩⟩ := withGuard_returned h
  · rfl
  · exact hfree.symm

-- ============================================================================
-- Programs that cannot deadlock on their own lock
-- ============================================================================

/-- The program did not relock, and if it returned, the thread holds nothing. -/
def SafeOutcome : Outcome δ σ ε α → Prop
  | .error h => h ≠ .deadlock
  | .ok (_, w) => w.mutex.held = false

/-- Run from a world in which the thread holds nothing, the program ends safely. -/
def LockSafe (m : ThreadM δ σ ε α) : Prop :=
  ∀ w, w.mutex.held = false → SafeOutcome (m.run w)

theorem lockSafe_ofExcept (r : Except ε α) : LockSafe (ofExcept r : ThreadM δ σ ε α) :=
  fun _ hw => hw

theorem lockSafe_pure (a : α) : LockSafe (pure a : ThreadM δ σ ε α) :=
  fun _ hw => hw

theorem lockSafe_other (f : δ → Except ε α × δ) : LockSafe (other f : ThreadM δ σ ε α) :=
  fun _ hw => hw

/-- A sequence is safe if its first part is and the second part is safe from
    where the first one ends. -/
theorem safeOutcome_bind {m : ThreadM δ σ ε α} {f : α → ThreadM δ σ ε β} {w : Shared δ σ}
    (hm : SafeOutcome (m.run w))
    (hf : ∀ a w₁, m.run w = .ok (.ok a, w₁) → SafeOutcome ((f a).run w₁)) :
    SafeOutcome ((m >>= f).run w) := by
  cases hmw : m.run w with
  | error h =>
      rw [bind_halt hmw]
      rw [hmw] at hm
      exact hm
  | ok p =>
      obtain ⟨e | a, w₁⟩ := p
      · rw [bind_error hmw]
        rw [hmw] at hm
        exact hm
      · rw [bind_ok hmw]
        exact hf a w₁ hmw

theorem LockSafe.bind {m : ThreadM δ σ ε α} {f : α → ThreadM δ σ ε β} (hm : LockSafe m)
    (hf : ∀ a, LockSafe (f a)) : LockSafe (m >>= f) := by
  intro w hw
  refine safeOutcome_bind (hm w hw) fun a w₁ hmw => ?_
  have hsafe := hm w hw
  rw [hmw] at hsafe
  exact hf a w₁ hsafe

theorem lockSafe_withLock (poison : ε) (f : σ → Except ε α × σ) :
    LockSafe (withLock poison f : ThreadM δ σ ε α) := by
  intro w hw
  cases hp : w.mutex.poisoned with
  | true =>
      rw [withLock, withGuard_poisoned hw hp]
      exact hw
  | false =>
      rw [withLock_ready ⟨hw, hp⟩]
      exact hw

end ThreadM

end TfScale
