/-
  TfScale.Custom.ProbeDeadline

  Does the probe for the public endpoint end at its deadline?

  Of the four arms of the loop in `probe_public_endpoint` two return, and one looks at
  the deadline.  `PassedOver` are the results after which the loop goes on: nothing was
  there and the deadline is not reached, or a datagram came from another address than
  the probe server's, whatever the time.  The loop has not returned exactly when
  everything it received was passed over (`awaitProbeReply_eq_none_iff`).
-/

import TfScale.Custom.Transport

namespace TfScale.Custom

open TransportRuntime

-- ============================================================================
-- What keeps the loop going
-- ============================================================================

/-- A result of `recv_from` and the reading of the clock at it, after which the loop of
    `probe_public_endpoint` goes on. -/
def PassedOver (probeServer : SocketAddr) (deadline : Nat) : Received × Nat → Prop
  | (.datagram _ source, _) => source ≠ probeServer
  | (.wouldBlock, now) => now < deadline
  | (.failed _, _) => False

variable {t : TransportRuntime} {sendTo : SendTo} {probeServer : SocketAddr} {deadline : Nat}

/-- What is passed over at the deadline comes from elsewhere. -/
theorem PassedOver.foreign {answer : Received × Nat} (h : PassedOver probeServer deadline answer)
    (hlate : deadline ≤ answer.2) :
    ∃ bytes source, answer.1 = .datagram bytes source ∧ source ≠ probeServer := by
  obtain ⟨received, now⟩ := answer
  cases received with
  | datagram bytes source => exact ⟨bytes, source, rfl, h⟩
  | wouldBlock => exact absurd hlate (Nat.not_le.mpr h)
  | failed message => exact h.elim

/-- The loop is still running when it has passed over everything. -/
theorem awaitProbeReply_eq_none_iff {answers : List (Received × Nat)} :
    awaitProbeReply probeServer deadline t answers = none ↔
      ∀ answer ∈ answers, PassedOver probeServer deadline answer := by
  induction answers generalizing t with
  | nil => exact iff_of_true rfl fun answer hmem => nomatch hmem
  | cons answer rest ih =>
      obtain ⟨received, now⟩ := answer
      rw [List.forall_mem_cons]
      cases received with
      | datagram bytes source =>
          by_cases hsource : source = probeServer
          · simp [awaitProbeReply, PassedOver, hsource]
          · simp [awaitProbeReply, PassedOver, hsource, ih]
      | wouldBlock =>
          by_cases hlate : deadline ≤ now
          · simp [awaitProbeReply, PassedOver, hlate]
          · simp [awaitProbeReply, PassedOver, hlate, ih, Nat.lt_of_not_le hlate]
      | failed message => simp [awaitProbeReply, PassedOver]

/-- The probe is still running when its request was sent and everything was passed over. -/
theorem probePublicEndpoint_eq_none_iff {start : Nat} {timeout : Duration}
    {answers : List (Received × Nat)} :
    t.probePublicEndpoint sendTo probeServer start timeout answers = none ↔
      (sendTo probeServer publicEndpointProbeRequest).isOk = true ∧
        ∀ answer ∈ answers, PassedOver probeServer (start + timeout) answer := by
  unfold probePublicEndpoint sendProbeRequest
  cases hsend : sendTo probeServer publicEndpointProbeRequest with
  | error message => simp [commandFailed, Except.isOk, Except.toBool]
  | ok bytes => simp [awaitProbeReply_eq_none_iff, Except.isOk, Except.toBool]

-- ============================================================================
-- Whole sequences
-- ============================================================================

/-- The first `n` results of a sequence. -/
def firstResults (results : Nat → Received × Nat) (n : Nat) : List (Received × Nat) :=
  (List.range n).map results

theorem forall_firstResults {results : Nat → Received × Nat} {n : Nat} {P : Received × Nat → Prop} :
    (∀ answer ∈ firstResults results n, P answer) ↔ ∀ m, m < n → P (results m) := by
  simp only [firstResults, List.forall_mem_map, List.mem_range]

/-- **The deadline of the public probe.**  For every sequence of results of `recv_from`,
    the probe has returned with the first result at or after its deadline if and only if
    that result, when the probe is still waiting for it, is no datagram from another
    address than the probe server's. -/
theorem probe_ends_at_deadline_iff (t : TransportRuntime) (sendTo : SendTo) (probeServer : SocketAddr)
    (start : Nat) (timeout : Duration) (results : Nat → Received × Nat) :
    (∀ n, start + timeout ≤ (results n).2 →
      (t.probePublicEndpoint sendTo probeServer start timeout (firstResults results (n + 1))).isSome =
        true) ↔
    ∀ n, (sendTo probeServer publicEndpointProbeRequest).isOk = true →
      (∀ m, m < n → PassedOver probeServer (start + timeout) (results m)) →
      start + timeout ≤ (results n).2 →
      ∀ bytes source, (results n).1 = .datagram bytes source → source = probeServer := by
  constructor
  · intro hends n hsent hpassed hlate bytes source hreceived
    by_contra hsource
    have hforeign : PassedOver probeServer (start + timeout) (results n) := by
      rw [← Prod.mk.eta (p := results n), hreceived]
      exact hsource
    have hrunning : t.probePublicEndpoint sendTo probeServer start timeout
        (firstResults results (n + 1)) = none := by
      refine probePublicEndpoint_eq_none_iff.mpr ⟨hsent, forall_firstResults.mpr fun m hm => ?_⟩
      rcases Nat.lt_succ_iff_lt_or_eq.mp hm with hlt | rfl
      · exact hpassed m hlt
      · exact hforeign
    have hreturned := hends n hlate
    rw [hrunning] at hreturned
    cases hreturned
  · intro hcond n hlate
    rw [← Option.ne_none_iff_isSome]
    intro hrunning
    obtain ⟨hsent, hall⟩ := probePublicEndpoint_eq_none_iff.mp hrunning
    have hpassed := forall_firstResults.mp hall
    obtain ⟨bytes, source, hreceived, hsource⟩ := (hpassed n (Nat.lt_succ_self n)).foreign hlate
    exact hsource (hcond n hsent (fun m hm => hpassed m (Nat.lt_succ_of_lt hm)) hlate bytes source hreceived)

namespace Reference

/-- A socket, and the address of a probe server. -/
def probeSocket : TransportRuntime := ⟨0, ⟨.lan, .v4 ⟨192, 168, 1, 10⟩, 51820, .udp⟩, .default, []⟩

def probeHost : SocketAddr := ⟨.v4 ⟨203, 0, 113, 1⟩, 3478⟩

/-- A peer floods the socket: its next datagram is queued whenever `recv_from` is called,
    and a call takes a microsecond. -/
def peerTraffic (n : Nat) : Received × Nat :=
  (.datagram [84, 70] ⟨.v4 ⟨192, 168, 1, 30⟩, 51820⟩, 1000 * n)

end Reference

open Reference in
/-- A probe of one second that never returns: a peer keeps the receive queue filled. -/
theorem probe_kept_running_by_peer :
    (∀ n, (peerTraffic n).2 ≤ (peerTraffic (n + 1)).2) ∧
      (∀ n, probeSocket.probePublicEndpoint (fun _ frame => .ok frame.length) probeHost 0 1000000000
        (firstResults peerTraffic n) = none) ∧
      ¬ ∀ n, 0 + 1000000000 ≤ (peerTraffic n).2 →
        (probeSocket.probePublicEndpoint (fun _ frame => .ok frame.length) probeHost 0 1000000000
          (firstResults peerTraffic (n + 1))).isSome = true := by
  have hrunning : ∀ n, probeSocket.probePublicEndpoint (fun _ frame => .ok frame.length) probeHost 0
      1000000000 (firstResults peerTraffic n) = none := by
    intro n
    refine probePublicEndpoint_eq_none_iff.mpr ⟨rfl, forall_firstResults.mpr fun m _ => ?_⟩
    show (⟨.v4 ⟨192, 168, 1, 30⟩, 51820⟩ : SocketAddr) ≠ probeHost
    decide
  refine ⟨fun n => ?_, hrunning, fun hends => ?_⟩
  · show 1000 * n ≤ 1000 * (n + 1)
    omega
  · have hreturned := hends 1000000 (by decide)
    rw [hrunning] at hreturned
    cases hreturned

end TfScale.Custom
