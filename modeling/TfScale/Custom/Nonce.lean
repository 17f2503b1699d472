/-
  TfScale.Custom.Nonce

  Send nonces and the receive window (`nonce.rs`).

  A nonce is direction prefix (8) ‖ session salt (8) ‖ big-endian counter (8).
  The sender counts up from zero in each session; the receiver keeps the
  highest accepted counter and a 64-bit bitmap of the counters below it.  The
  window reads the counter bytes only: the salt plays no part in it.
-/

import TfScale.Lib.SlidingWindow
import TfScale.Custom.Frame

namespace TfScale.Custom

/-- Width of the receive window: `REPLAY_WINDOW_BITS`. -/
abbrev replayWindowBits : Nat := 64

/-- `u64::MAX` -/
def u64Max : UInt64 := 18446744073709551615

/-- The nonce with the given three parts. -/
def nonceOf (directionPrefix salt : ByteArr 8) (counter : UInt64) : Nonce :=
  ⟨directionPrefix.val ++ (salt.val ++ toBe 8 counter.toNat), by simp⟩

/-- The counter in the last eight bytes of a nonce (`nonce_counter`). -/
def nonceCounter (nonce : Nonce) : UInt64 := UInt64.ofNat (ofBe (nonce.val.drop 16))

@[simp] theorem nonceCounter_nonceOf (directionPrefix salt : ByteArr 8) (counter : UInt64) :
    nonceCounter (nonceOf directionPrefix salt counter) = counter := by
  have hdrop : (directionPrefix.val ++ (salt.val ++ toBe 8 counter.toNat)).drop 16
      = toBe 8 counter.toNat := by
    rw [← List.append_assoc, List.drop_left' (by simp)]
  rw [nonceCounter, nonceOf, hdrop, ofBe_toBe counter.toNat_lt, UInt64.ofNat_toNat]

@[simp] theorem nonceOf_take (directionPrefix salt : ByteArr 8) (counter : UInt64) :
    (nonceOf directionPrefix salt counter).val.take 8 = directionPrefix.val := by
  rw [nonceOf, List.take_left' (by simp)]

/-- A nonce determines its three parts. -/
theorem nonceOf_inj {p p' salt salt' : ByteArr 8} {c c' : UInt64}
    (h : nonceOf p salt c = nonceOf p' salt' c') : p = p' ∧ salt = salt' ∧ c = c' := by
  have hval := congrArg Subtype.val h
  simp only [nonceOf] at hval
  obtain ⟨hp, hrest⟩ := List.append_inj hval (by simp)
  obtain ⟨hs, hc⟩ := List.append_inj hrest (by simp)
  exact ⟨Subtype.ext hp, Subtype.ext hs, UInt64.toNat_inj.mp (toBe_inj c.toNat_lt c'.toNat_lt hc)⟩

-- ============================================================================
-- Send counter
-- ============================================================================

structure SendNonceState where
  directionPrefix : ByteArr 8
  sessionSalt : ByteArr 8
  counter : UInt64
deriving DecidableEq

namespace SendNonceState

/-- `SendNonceState::with_salt` -/
def withSalt (directionPrefix sessionSalt : ByteArr 8) : SendNonceState where
  directionPrefix := directionPrefix
  sessionSalt := sessionSalt
  counter := 0

/-- `SendNonceState::new`; `random` is what `getrandom::fill` produced. -/
def new (directionPrefix : ByteArr 8) (random : Except String (ByteArr 8)) :
    Result SendNonceState :=
  match random with
  | .error message => commandFailed message
  | .ok salt => .ok (withSalt directionPrefix salt)

/-- `SendNonceState::next` -/
def next (s : SendNonceState) : Result Nonce × SendNonceState :=
  if s.counter = u64Max then (commandFailed "send nonce counter exhausted", s)
  else (.ok (nonceOf s.directionPrefix s.sessionSalt s.counter),
    { s with counter := s.counter + 1 })

theorem next_of_ne {s : SendNonceState} (h : s.counter ≠ u64Max) :
    s.next = (.ok (nonceOf s.directionPrefix s.sessionSalt s.counter),
      { s with counter := s.counter + 1 }) :=
  if_neg h

/-- Below its limit the counter does not wrap. -/
theorem toNat_counter_add_one {s : SendNonceState} (h : s.counter ≠ u64Max) :
    (s.counter + 1).toNat = s.counter.toNat + 1 := by
  have hlt := s.counter.toNat_lt
  have hne : s.counter.toNat ≠ 18446744073709551615 := fun h' =>
    h (UInt64.toNat_inj.mp h')
  rw [UInt64.toNat_add]
  exact Nat.mod_eq_of_lt (by simp only [UInt64.toNat_one]; omega)

end SendNonceState

-- ============================================================================
-- Receive window
-- ============================================================================

structure ReplayWindow where
  highest : Option UInt64
  seen : BitVec 64
deriving DecidableEq

namespace ReplayWindow

/-- `ReplayWindow::default` -/
def default : ReplayWindow := ⟨none, 0#64⟩

/-- `ReplayWindow::accept` -/
def accept (w : ReplayWindow) (nonce : Nonce) : Result Unit × ReplayWindow :=
  let counter := nonceCounter nonce
  match w.highest with
  | none => (.ok (), ⟨some counter, 1#64⟩)
  | some highest =>
      if counter > highest then
        let shift := counter.toNat - highest.toNat
        (.ok (), ⟨some counter,
          if shift ≥ replayWindowBits then 1#64 else (w.seen <<< shift) ||| 1#64⟩)
      else
        let behind := highest.toNat - counter.toNat
        if behind ≥ replayWindowBits then (commandFailed "stale frame nonce", w)
        else
          let bit := 1#64 <<< behind
          if w.seen &&& bit ≠ 0#64 then (commandFailed "replayed frame nonce", w)
          else (.ok (), { w with seen := w.seen ||| bit })

/-- The window stands for the counters in `accepted`. -/
def Represents (w : ReplayWindow) (accepted : List Nat) : Prop :=
  match w.highest with
  | none => accepted = []
  | some highest => SlidingWindow.Tracks replayWindowBits accepted highest.toNat w.seen

theorem default_represents : default.Represents [] := rfl

/-- A counter that is refused leaves the window as it was. -/
theorem accept_error {w : ReplayWindow} {nonce : Nonce} {error : BackendError}
    (h : (w.accept nonce).1 = .error error) : (w.accept nonce).2 = w := by
  unfold accept at h ⊢
  cases hhighest : w.highest with
  | none =>
      simp only [hhighest] at h
      cases h
  | some highest =>
      simp only [hhighest] at h ⊢
      split_ifs at h ⊢
      · rfl
      · rfl

/-- A fresh counter is accepted and recorded. -/
theorem accept_of_fresh {w : ReplayWindow} {accepted : List Nat} {nonce : Nonce}
    (hw : w.Represents accepted)
    (hfresh : SlidingWindow.Fresh replayWindowBits accepted (nonceCounter nonce).toNat) :
    (w.accept nonce).1 = .ok () ∧
      (w.accept nonce).2.Represents ((nonceCounter nonce).toNat :: accepted) := by
  obtain ⟨highest, seen⟩ := w
  cases highest with
  | none =>
      obtain rfl : accepted = [] := hw
      exact ⟨rfl, SlidingWindow.tracks_first (by decide) _⟩
  | some highest =>
      have ht : SlidingWindow.Tracks replayWindowBits accepted highest.toNat seen := hw
      by_cases hgt : nonceCounter nonce > highest
      · have hlt : highest.toNat < (nonceCounter nonce).toNat := hgt
        simp only [accept, hgt, if_true]
        exact ⟨trivial, ht.advance (by decide) hlt⟩
      · have hle : (nonceCounter nonce).toNat ≤ highest.toNat := Nat.not_lt.mp hgt
        obtain ⟨hin, hclear⟩ := (ht.fresh_iff hle).mp hfresh
        have hstale : ¬ (highest.toNat - (nonceCounter nonce).toNat ≥ replayWindowBits) :=
          Nat.not_le.mpr hin
        have hbit : ¬ (seen &&& (1#64 <<< (highest.toNat - (nonceCounter nonce).toNat)) ≠ 0#64) := by
          rw [SlidingWindow.and_shiftLeft_one_ne_zero seen hin, hclear]
          exact Bool.false_ne_true
        simp only [accept, hgt, hstale, if_false]
        rw [if_neg hbit]
        exact ⟨rfl, ht.fill hle hin⟩

/-- A counter that is not fresh is refused and leaves the window as it was. -/
theorem accept_of_not_fresh {w : ReplayWindow} {accepted : List Nat} {nonce : Nonce}
    (hw : w.Represents accepted)
    (hstale : ¬ SlidingWindow.Fresh replayWindowBits accepted (nonceCounter nonce).toNat) :
    ∃ error, w.accept nonce = (.error error, w) := by
  obtain ⟨highest, seen⟩ := w
  cases highest with
  | none =>
      obtain rfl : accepted = [] := hw
      exact absurd (SlidingWindow.fresh_nil _ _) hstale
  | some highest =>
      have ht : SlidingWindow.Tracks replayWindowBits accepted highest.toNat seen := hw
      have hgt : ¬ nonceCounter nonce > highest := fun hgt => hstale (ht.fresh_of_lt hgt)
      have hle : (nonceCounter nonce).toNat ≤ highest.toNat := Nat.not_lt.mp hgt
      by_cases hin : highest.toNat - (nonceCounter nonce).toNat ≥ replayWindowBits
      · exact ⟨.commandFailed "stale frame nonce", by
          simp only [accept, hgt, hin, if_true, if_false, commandFailed]⟩
      · have hset : seen &&& (1#64 <<< (highest.toNat - (nonceCounter nonce).toNat)) ≠ 0#64 := by
          rw [SlidingWindow.and_shiftLeft_one_ne_zero seen (Nat.not_le.mp hin)]
          by_contra hclear
          exact hstale ((ht.fresh_iff hle).mpr ⟨Nat.not_le.mp hin, by simpa using hclear⟩)
        refine ⟨.commandFailed "replayed frame nonce", ?_⟩
        simp only [accept, hgt, hin, if_false]
        rw [if_pos hset]
        rfl

/-- `accept` succeeds exactly on fresh counters. -/
theorem accept_ok_iff {w : ReplayWindow} {accepted : List Nat} {nonce : Nonce}
    (hw : w.Represents accepted) :
    (w.accept nonce).1 = .ok () ↔
      SlidingWindow.Fresh replayWindowBits accepted (nonceCounter nonce).toNat := by
  constructor
  · intro hok
    by_contra hstale
    obtain ⟨error, herr⟩ := accept_of_not_fresh hw hstale
    rw [herr] at hok
    cases hok
  · exact fun hfresh => (accept_of_fresh hw hfresh).1

end ReplayWindow

end TfScale.Custom
