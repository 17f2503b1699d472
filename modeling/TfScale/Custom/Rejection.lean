/-
  TfScale.Custom.Rejection

  What a refused frame leaves behind in a peer session: nothing.

  `open_message` checks a frame before it touches the receive window, and the
  window itself is written last and only for an accepted counter, so a session
  is a silent machine in the sense of `Lib.Outcomes`.  Whether a frame is
  authentic does not depend on the window at all; frames nobody holding the
  session key has made are refused wherever they are put into a run.
-/

import TfScale.Lib.Outcomes
import TfScale.Custom.Channel

namespace TfScale.Custom

/-- A byte string that reaches `open_message`, from the peer or put in by a
    third party. -/
structure Delivery where
  frame : Bytes
  injected : Bool
deriving DecidableEq

/-- `open_message` does not see where its input comes from. -/
def PeerCryptoSession.receive (X : Externals) (s : PeerCryptoSession) (a : Delivery) :
    Result OpenFrame × PeerCryptoSession := s.openMessage X a.frame

variable {X : Externals}

theorem silent_openMessage : Silent (PeerCryptoSession.openMessage X) :=
  fun _ _ _ h => PeerCryptoSession.openMessage_error h

/-- A frame the session cannot authenticate is refused, whatever the window holds. -/
theorem openMessage_of_not_authentic {s t : PeerCryptoSession}
    (hst : PeerCryptoSession.SameChannel t s) {frame : Bytes} {error : BackendError}
    (h : s.authenticate X frame = .error error) : (t.openMessage X frame).1 = .error error := by
  rw [PeerCryptoSession.openMessage, hst.authenticate_eq, h]

/-- **Refused frames leave no trace.**  For every session and every sequence of
    byte strings, the accepted ones alone get the same answers and lead to the same
    session; and when the injected ones among the inputs are none the session can
    authenticate, the others are answered as if nothing had been injected. -/
theorem refused_frames_leave_no_trace (s : PeerCryptoSession) :
    (∀ frames : List Bytes,
      outcomes (PeerCryptoSession.openMessage X) s
          (accepted (PeerCryptoSession.openMessage X) s frames) =
        (outcomes (PeerCryptoSession.openMessage X) s frames).filter (fun o => o.2.isOk) ∧
      after (PeerCryptoSession.openMessage X) s
          (accepted (PeerCryptoSession.openMessage X) s frames) =
        after (PeerCryptoSession.openMessage X) s frames) ∧
    (∀ deliveries : List Delivery,
      (∀ a ∈ deliveries, a.injected = true → ∃ error, s.authenticate X a.frame = .error error) →
      (outcomes (PeerCryptoSession.receive X) s deliveries).filter (fun o => !o.1.injected) =
        outcomes (PeerCryptoSession.receive X) s (deliveries.filter fun a => !a.injected) ∧
      after (PeerCryptoSession.receive X) s deliveries =
        after (PeerCryptoSession.receive X) s (deliveries.filter fun a => !a.injected)) := by
  refine ⟨fun frames => silent_openMessage.outcomes_accepted s frames, fun deliveries hforged => ?_⟩
  have hsilent : Silent (PeerCryptoSession.receive X) :=
    fun s a e h => silent_openMessage s a.frame e h
  refine hsilent.outcomes_filter (R := fun t => PeerCryptoSession.SameChannel t s)
    (fun t a ht => (t.openMessage_sameChannel a.frame).trans ht) (.refl s) deliveries ?_
  intro a ha hinjected t ht
  obtain ⟨error, herror⟩ := hforged a ha hinjected
  exact ⟨error, openMessage_of_not_authentic ht herror⟩

open Reference in
/-- A forged copy of a genuine frame, cut short and put in front of it, changes
    nothing about the answer the genuine frame gets. -/
theorem refused_frames_leave_no_trace_reference :
    ∃ frame, frameOf Externals.reference (side 1 2 (.replicate 8 5)) messages 0 = some frame ∧
      (outcomes (PeerCryptoSession.receive Externals.reference) (side 2 1 (.replicate 8 6))
        [⟨frame.dropLast, true⟩, ⟨frame, false⟩]).filter (fun o => !o.1.injected) =
      outcomes (PeerCryptoSession.receive Externals.reference) (side 2 1 (.replicate 8 6))
        [⟨frame, false⟩] := by
  have hsome : (frameOf Externals.reference (side 1 2 (.replicate 8 5)) messages 0).isSome := by
    decide +kernel
  obtain ⟨frame, hframe⟩ := Option.isSome_iff_exists.mp hsome
  have hforged : (PeerCryptoSession.authenticate Externals.reference (side 2 1 (.replicate 8 6))
      frame.dropLast).isOk = false := by
    have hall : (frameOf Externals.reference (side 1 2 (.replicate 8 5)) messages 0).all
        (fun frame => !(PeerCryptoSession.authenticate Externals.reference
          (side 2 1 (.replicate 8 6)) frame.dropLast).isOk) = true := by
      decide +kernel
    rw [hframe] at hall
    simpa using hall
  refine ⟨frame, hframe, ((refused_frames_leave_no_trace _).2 _ ?_).1⟩
  intro d hd hinjected
  obtain rfl | rfl : d = ⟨frame.dropLast, true⟩ ∨ d = ⟨frame, false⟩ := by simpa using hd
  · cases hauth : PeerCryptoSession.authenticate Externals.reference (side 2 1 (.replicate 8 6))
        frame.dropLast with
    | error error => exact ⟨error, rfl⟩
    | ok r =>
        rw [hauth] at hforged
        cases hforged
  · cases hinjected

end TfScale.Custom
