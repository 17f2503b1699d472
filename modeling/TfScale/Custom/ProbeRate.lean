/-
  TfScale.Custom.ProbeRate

  How often is a peer probed?

  A round is quick when the short interval was in force for it: the peer was not Direct
  and had fast probes left.  A quick round uses one of them up, and they are refilled only
  when a Direct path is given up or the runtime is built anew; so until then at most eight
  rounds are quick (`RateInv`), and the others keep the long interval to every round
  before them.  The runtime is built anew by more than a new peer map: the local
  configuration, applied again, fills up the fast probes and forgets the last round.
-/

import TfScale.Custom.PeerTimeline
import TfScale.Custom.Reapply
import TfScale.Custom.StateStore

namespace TfScale.Custom

open RuntimeState

-- ============================================================================
-- Spaced times
-- ============================================================================

section Spacing

variable {gap : Nat} {times : List Int}

/-- Times that keep a gap, in a window: the gaps fit into it. -/
theorem gaps_le_of_spaced (h : times.Pairwise fun t t' : Int => t + gap ≤ t') {a width : Int}
    (hin : ∀ t ∈ times, a ≤ t ∧ t ≤ a + width) (hne : times ≠ []) :
    (((times.length - 1) * gap : Nat) : Int) ≤ width := by
  induction times generalizing a width with
  | nil => exact absurd rfl hne
  | cons t times ih =>
      obtain ⟨hfirst, hrest⟩ := List.pairwise_cons.mp h
      have ht := hin t List.mem_cons_self
      cases times with
      | nil =>
          rw [List.length_singleton, Nat.sub_self, Nat.zero_mul]
          omega
      | cons t' times =>
          -- the rest lies in what the first gap leaves of the window
          have hlater : ∀ u ∈ t' :: times, a + gap ≤ u ∧ u ≤ a + gap + (width - gap) := by
            intro u hu
            have hgap := hfirst u hu
            have hu' := hin u (List.mem_cons_of_mem _ hu)
            omega
          have hnext := ih hrest hlater (List.cons_ne_nil _ _)
          have hlength : ((t :: t' :: times).length - 1) * gap =
              ((t' :: times).length - 1) * gap + gap := by
            rw [List.length_cons, List.length_cons, Nat.add_sub_cancel, Nat.add_sub_cancel, Nat.succ_mul]
          rw [hlength]
          omega

theorem length_le_of_spaced (h : times.Pairwise fun t t' : Int => t + gap ≤ t') (hgap : 0 < gap)
    {a : Int} {width : Nat} (hin : ∀ t ∈ times, a ≤ t ∧ t ≤ a + width) :
    times.length ≤ width / gap + 1 := by
  by_cases hne : times = []
  · rw [hne]
    exact Nat.zero_le _
  · have hle := Int.ofNat_le.mp (gaps_le_of_spaced h hin hne)
    have hdiv := (Nat.le_div_iff_mul_le hgap).mpr hle
    omega

end Spacing

-- ============================================================================
-- Rounds
-- ============================================================================

/-- A completed probe round. -/
structure ProbeRound where
  /-- what the round wrote into `last_probe_at` -/
  time : SystemTime
  direct : Bool
  quick : Bool

/-- The short interval is in force. -/
def PeerPathState.quick (state : PeerPathState) : Bool :=
  decide (state.currentPath ≠ .direct ∧ state.fastProbeAttemptsRemaining > 0)

/-- The round of an event, if it is one. -/
def roundOf (state : PeerPathState) : RecordEvent → List ProbeRound
  | .round _ t _ => [⟨t, decide (state.currentPath = .direct), state.quick⟩]
  | _ => []

def roundsOf (state : PeerPathState) : List RecordEvent → List ProbeRound
  | [] => []
  | e :: events => roundOf state e ++ roundsOf (e.apply state) events

/-- The event does not build the record anew, and does not take it down from Direct. -/
def RecordEvent.gentle (state : PeerPathState) : RecordEvent → Bool
  | .rebuilt => false
  | e => decide (state.currentPath = .direct → (e.apply state).currentPath = .direct)

/-- The record is not built anew, and the path of the peer not taken down from Direct. -/
def undisturbed (state : PeerPathState) : List RecordEvent → Bool
  | [] => true
  | e :: events => e.gentle state && undisturbed (e.apply state) events

/-- The second round comes the due interval after the first one. -/
def Spaced (r r' : ProbeRound) : Prop :=
  r.time + directFastProbeInterval ≤ r'.time ∧
    (r'.quick = false → r.time + directProbeInterval ≤ r'.time)

/-- What holds of a record and the rounds it has seen since its fast probes were filled. -/
structure RateInv (p : TimedPath) (rounds : List ProbeRound) : Prop where
  quick : rounds.countP (·.quick) + p.state.fastProbeAttemptsRemaining.toNat ≤ 8
  spaced : rounds.Pairwise Spaced
  last : ∀ r ∈ rounds, ∃ last, p.state.lastProbeAt = some last ∧ r.time ≤ last ∧ last ≤ p.now
  direct : ∀ r ∈ rounds, r.direct = true → r.quick = false

variable {p p' : TimedPath} {rounds : List ProbeRound} {e : RecordEvent}

/-- The interval that a record is probed at. -/
def PeerPathState.interval (state : PeerPathState) : Nat :=
  if state.quick then directFastProbeInterval else directProbeInterval

/-- A probe is due when the interval is over since the last round. -/
theorem le_of_due {state : PeerPathState} {last checkedAt : Int}
    (hlast : state.lastProbeAt = some last) (hle : last ≤ checkedAt)
    (hdue : peerPathProbeDue state checkedAt = true) : last + state.interval ≤ checkedAt := by
  have hinterval : state.interval = if state.currentPath ≠ .direct ∧ state.fastProbeAttemptsRemaining > 0
      then directFastProbeInterval else directProbeInterval := by
    simp only [PeerPathState.interval, PeerPathState.quick, decide_eq_true_eq]
  simp only [peerPathProbeDue, hlast, Option.bind_some, durationSince, if_pos hle,
    decide_eq_true_eq, ← hinterval] at hdue
  have helapsed : state.interval ≤ (checkedAt - last).toNat := hdue
  omega

/-- A quick round uses up a fast probe. -/
theorem fastProbes_probed (state : PeerPathState) (now : SystemTime) (sentAt : Nat) :
    (if state.quick then 1 else 0) + (state.probed now sentAt).fastProbeAttemptsRemaining.toNat ≤
      state.fastProbeAttemptsRemaining.toNat := by
  have hquick : state.quick = true → state.fastProbeAttemptsRemaining > 0 :=
    fun h => (of_decide_eq_true h).2
  rw [PeerPathState.probed]
  simp only
  by_cases hpos : state.fastProbeAttemptsRemaining > 0
  · have hone : (1 : UInt8) ≤ state.fastProbeAttemptsRemaining := by
      rw [UInt8.le_iff_toNat_le]
      exact UInt8.lt_iff_toNat_lt.mp hpos
    have hpos' : 1 ≤ state.fastProbeAttemptsRemaining.toNat := UInt8.le_iff_toNat_le.mp hone
    have hsub : (1 : UInt8).toNat = 1 := rfl
    rw [if_pos hpos, UInt8.toNat_sub_of_le _ _ hone, hsub]
    split <;> omega
  · rw [if_neg hpos, if_neg fun h => hpos (hquick h), Nat.zero_add]

/-- An expiry that leaves a Direct path Direct counts a failure at most. -/
theorem expire_of_gentle {state : PeerPathState} {relays : List RelayConfig} {t : SystemTime}
    (h : state.currentPath = .direct → (state.expire relays t).currentPath = .direct) :
    ∃ failures, state.expire relays t = { state with failures } := by
  by_cases hdirect : state.currentPath = .direct
  · rcases PeerPathState.expire_cases relays t state with
      hcounted | ⟨failures, path, active, heq, hpath⟩
    · exact hcounted
    · have hstill := h hdirect
      rw [heq] at hstill
      rcases hpath with ⟨rfl, -⟩ | ⟨rfl, -⟩
      · cases hstill
      · cases hstill
  · refine ⟨state.failures, ?_⟩
    rw [PeerPathState.expire, if_pos hdirect]

/-- An event that is no round, and refills no fast probes. -/
theorem RateInv.keep (h : RateInv p rounds)
    (hfast : p'.state.fastProbeAttemptsRemaining.toNat ≤ p.state.fastProbeAttemptsRemaining.toNat)
    (hlast : p'.state.lastProbeAt = p.state.lastProbeAt) (hnow : p.now ≤ p'.now) :
    RateInv p' rounds where
  quick := (Nat.add_le_add_left hfast _).trans h.quick
  spaced := h.spaced
  last := by
    intro r hr
    obtain ⟨last, hlast', hle, hbefore⟩ := h.last r hr
    exact ⟨last, hlast.trans hlast', hle, hbefore.trans hnow⟩
  direct := h.direct

/-- A round that was due. -/
theorem RateInv.round (h : RateInv p rounds) {checkedAt t : SystemTime} (sentAt : Nat)
    (hchecked : p.now ≤ checkedAt) (hover : checkedAt ≤ t)
    (hdue : peerPathProbeDue p.state checkedAt = true) :
    RateInv ⟨p.state.probed t sentAt, t⟩
      (rounds ++ [⟨t, decide (p.state.currentPath = .direct), p.state.quick⟩]) := by
  -- every earlier round is the interval away
  have hspaced : ∀ r ∈ rounds, r.time + p.state.interval ≤ t := by
    intro r hr
    obtain ⟨last, hlast, hle, hbefore⟩ := h.last r hr
    have hgap := le_of_due hlast (hbefore.trans hchecked) hdue
    exact (Int.add_le_add_right hle _).trans (hgap.trans hover)
  have hfast := fastProbes_probed p.state t sentAt
  have hquick := h.quick
  refine ⟨?_, ?_, fun r hr => ?_, fun r hr hdirect => ?_⟩
  · rw [List.countP_append, List.countP_singleton]
    simp only
    omega
  · refine List.pairwise_append.mpr ⟨h.spaced, List.pairwise_singleton _ _, fun r hr r' hr' => ?_⟩
    obtain rfl := List.mem_singleton.mp hr'
    have hgap := hspaced r hr
    rw [PeerPathState.interval] at hgap
    by_cases hq : p.state.quick = true
    · rw [if_pos hq] at hgap
      exact ⟨hgap, fun hslow => absurd (hq.symm.trans hslow) (by decide)⟩
    · rw [if_neg hq] at hgap
      refine ⟨Int.le_trans (Int.add_le_add_left ?_ _) hgap, fun _ => hgap⟩
      decide
  · refine ⟨t, rfl, ?_, le_rfl⟩
    rcases List.mem_append.mp hr with hr | hr
    · have hgap := hspaced r hr
      exact Int.le_trans (Int.le_add_of_nonneg_right (Int.natCast_nonneg _)) hgap
    · obtain rfl := List.mem_singleton.mp hr
      exact le_rfl
  · rcases List.mem_append.mp hr with hr | hr
    · exact h.direct r hr hdirect
    · obtain rfl := List.mem_singleton.mp hr
      have hpath : p.state.currentPath = .direct := of_decide_eq_true hdirect
      exact decide_eq_false fun hquick => hquick.1 hpath

theorem RateInv.step (h : RateInv p rounds) (hgentle : e.gentle p.state = true)
    (hstep : pathStep p e = some p') : RateInv p' (rounds ++ roundOf p.state e) := by
  cases e with
  | expired relays t =>
      obtain ⟨hle, heq⟩ := Option.ite_none_right_eq_some.mp hstep
      obtain rfl := Option.some.inj heq
      obtain ⟨failures, hexpired⟩ := expire_of_gentle (of_decide_eq_true hgentle)
      have hnone : roundOf p.state (.expired relays t) = [] := rfl
      have hstate : (RecordEvent.expired relays t).apply p.state = { p.state with failures } := hexpired
      rw [hnone, List.append_nil, hstate]
      exact h.keep le_rfl rfl hle
  | round checkedAt t sentAt =>
      obtain ⟨⟨hle, hlt, hdue⟩, heq⟩ := Option.ite_none_right_eq_some.mp hstep
      obtain rfl := Option.some.inj heq
      exact h.round sentAt hle hlt hdue
  | contact endpoint rttMs t =>
      obtain ⟨hle, heq⟩ := Option.ite_none_right_eq_some.mp hstep
      obtain rfl := Option.some.inj heq
      have hnone : roundOf p.state (.contact endpoint rttMs t) = [] := rfl
      rw [hnone, List.append_nil]
      exact h.keep (Nat.zero_le _) rfl hle
  | rebuilt => cases hgentle

/-- Events that disturb nothing. -/
theorem RateInv.run {events : List RecordEvent} (h : RateInv p rounds)
    (hgentle : undisturbed p.state events = true) (hrun : TfScale.run pathStep p events = some p') :
    RateInv p' (rounds ++ roundsOf p.state events) := by
  induction events generalizing p rounds with
  | nil =>
      obtain rfl := Option.some.inj hrun
      rw [roundsOf, List.append_nil]
      exact h
  | cons e events ih =>
      obtain ⟨q, hstep, hrest⟩ := run_cons_eq_some.mp hrun
      obtain ⟨hfirst, hothers⟩ := Bool.and_eq_true_iff.mp hgentle
      rw [← pathStep_state hstep] at hothers
      have hnext := ih (h.step hfirst hstep) hothers hrest
      rw [pathStep_state hstep, List.append_assoc] at hnext
      exact hnext

-- ============================================================================
-- Fast probes
-- ============================================================================

/-- No event leaves more than a burst of fast probes. -/
theorem fastProbes_apply {state : PeerPathState} (h : state.fastProbeAttemptsRemaining.toNat ≤ 8)
    (e : RecordEvent) : (e.apply state).fastProbeAttemptsRemaining.toNat ≤ 8 := by
  have hfull : directFastProbeBurstAttempts.toNat ≤ 8 := by decide
  cases e with
  | expired relays t =>
      have heq : (RecordEvent.expired relays t).apply state = state.expire relays t := rfl
      rcases PeerPathState.expire_cases relays t state with
        ⟨failures, hexpired⟩ | ⟨failures, path, active, hexpired, -⟩
      · rw [heq, hexpired]
        exact h
      · rw [heq, hexpired]
        exact hfull
  | round checkedAt t sentAt =>
      have hused := fastProbes_probed state t sentAt
      exact ((Nat.le_add_left _ _).trans hused).trans h
  | contact endpoint rttMs t => exact Nat.zero_le _
  | rebuilt => exact hfull

theorem fastProbes_foldl {state : PeerPathState} (h : state.fastProbeAttemptsRemaining.toNat ≤ 8)
    (events : List RecordEvent) :
    (events.foldl RecordEvent.apply state).fastProbeAttemptsRemaining.toNat ≤ 8 := by
  induction events generalizing state with
  | nil => exact h
  | cons e events ih => exact ih (fastProbes_apply h e)

-- ============================================================================
-- The bound
-- ============================================================================

/-- The round ends within the window of time. -/
def ProbeRound.within (start : SystemTime) (width : Nat) (r : ProbeRound) : Bool :=
  decide (start ≤ r.time ∧ r.time ≤ start + width)

/-- The amortised bound: the quick rounds are paid for by the fast probes, and the others
    by the time that they keep. -/
theorem RateInv.length_within (h : RateInv p rounds) (start : SystemTime) (width : Nat) :
    (rounds.filter (·.within start width)).length ≤ 9 + width / directProbeInterval := by
  have hquick : (rounds.filter (·.within start width)).countP (·.quick) ≤ 8 := by
    have hsub := (List.filter_sublist (p := (·.within start width)) (l := rounds)).countP_le
      (p := (·.quick))
    have hbudget := h.quick
    omega
  -- the others keep the long interval to each other
  have hslow : (rounds.filter (·.within start width)).countP (fun r => !r.quick) ≤
      width / directProbeInterval + 1 := by
    rw [List.countP_eq_length_filter]
    have hspaced : ((rounds.filter (·.within start width)).filter (fun r => !r.quick)).Pairwise
        fun r r' : ProbeRound => r.time + directProbeInterval ≤ r'.time := by
      have hkept := (h.spaced.sublist List.filter_sublist).sublist
        (List.filter_sublist (p := fun r : ProbeRound => !r.quick)
          (l := rounds.filter (·.within start width)))
      refine List.Pairwise.imp_of_mem (fun {r r'} _ hr' hgap => hgap.2 ?_) hkept
      exact Bool.not_eq_true' _ ▸ (List.mem_filter.mp hr').2
    have htimes : (((rounds.filter (·.within start width)).filter (fun r => !r.quick)).map
        (·.time)).Pairwise fun t t' : Int => t + directProbeInterval ≤ t' := List.pairwise_map.mpr hspaced
    have hin : ∀ t ∈ ((rounds.filter (·.within start width)).filter (fun r => !r.quick)).map (·.time),
        start ≤ t ∧ t ≤ start + width := by
      intro t ht
      obtain ⟨r, hr, rfl⟩ := List.mem_map.mp ht
      exact of_decide_eq_true (List.mem_filter.mp (List.mem_filter.mp hr).1).2
    have hle := length_le_of_spaced htimes (by decide) hin
    rwa [List.length_map] at hle
  have hsplit := List.length_eq_countP_add_countP (·.quick) (l := rounds.filter (·.within start width))
  simp only [Bool.not_eq_true, Bool.decide_eq_false] at hsplit
  omega

/-- **The probe rate.**  In a run whose clock does not go back, from whatever moment on and
    for as long as the record of a peer is neither built anew nor taken down from Direct:
    a window of time `width` sees at most nine rounds and one for each five seconds of it,
    any two rounds are 250 ms apart, and a round to a Direct peer comes five seconds
    after every other. -/
theorem probe_rate_bound (X : Externals) (d : String) {sections : List Section}
    {now now' : SystemTime} (hclock : ReadInOrder now now' sections)
    {before window rest : List RecordEvent}
    (htimeline : timeline X d .default sections = before ++ window ++ rest)
    (hwindow : undisturbed (before.foldl RecordEvent.apply .default) window = true) :
    let rounds := roundsOf (before.foldl RecordEvent.apply .default) window
    (∀ start width, (rounds.filter (·.within start width)).length ≤ 9 + width / directProbeInterval) ∧
      rounds.Pairwise (fun r r' : ProbeRound => r.time + directFastProbeInterval ≤ r'.time) ∧
      rounds.Pairwise fun r r' : ProbeRound => r'.direct = true → r.time + directProbeInterval ≤ r'.time := by
  intro rounds
  obtain ⟨n, -, hrun⟩ := timeline_run X .default d hclock le_rfl
  rw [htimeline] at hrun
  obtain ⟨q', hupto, -⟩ := run_append_eq_some.mp hrun
  obtain ⟨q, hbefore, hrounds⟩ := run_append_eq_some.mp hupto
  have hstate : q.state = before.foldl RecordEvent.apply .default := run_pathStep_state hbefore
  have hfast : q.state.fastProbeAttemptsRemaining.toNat ≤ 8 := by
    rw [hstate]
    exact fastProbes_foldl (by decide) before
  -- no round has been seen at the start of the window
  have hstart : RateInv q [] :=
    ⟨by rw [List.countP_nil, Nat.zero_add]; exact hfast, .nil, nofun, nofun⟩
  rw [← hstate] at hwindow
  have hinv := hstart.run hwindow hrounds
  rw [List.nil_append, hstate] at hinv
  refine ⟨hinv.length_within, hinv.spaced.imp And.left, ?_⟩
  exact List.Pairwise.imp_of_mem (fun {r r'} _ hr' hgap hdirect => hgap.2 (hinv.direct r' hr' hdirect))
    hinv.spaced

namespace Reference

/-- A peer that is probed twice. -/
def probing : List Section := [install, bindSocket, probeAt 1, probeAt 2]

def probingEvents : List RecordEvent :=
  timeline Externals.reference "dev_00000000000000000000000000000002" .default probing

/-- The backend after the first of two probe calls. -/
def probedWorld : World := pairedWorld [bindSocket, probeAt 1]

/-- The same configuration, applied again. -/
def reconfigured : Option (Result Unit × World) :=
  ((applyLocalConfig Externals.reference quietBackend env localConfig).run probedWorld).toOption

def roundTimes (rt : RuntimeState) (sections : List Section) : List SystemTime :=
  (roundsOf (rt.pathState "dev_00000000000000000000000000000002")
    (timeline Externals.reference "dev_00000000000000000000000000000002" rt sections)).map (·.time)

end Reference

open Reference in
/-- Two rounds, a second apart, since the stored state was loaded. -/
theorem probe_rate_bound_probing :
    (roundsOf .default (probingEvents.drop 1)).length = 2 ∧
      ∀ start width, ((roundsOf .default (probingEvents.drop 1)).filter
        (·.within start width)).length ≤ 9 + width / directProbeInterval := by
  have hclock : ReadInOrder 0 2000000000 probing := by
    have hfirst : (0 : Int) ≤ (1 : Nat) * 1000000000 ∧ ((1 : Nat) : Int) * 1000000000 ≤ 1000000000 := by decide
    have hsecond : (1000000000 : Int) ≤ (2 : Nat) * 1000000000 ∧
        ((2 : Nat) : Int) * 1000000000 ≤ 2000000000 := by decide
    exact ⟨0, le_refl (0 : Int), 0, le_refl (0 : Int), 1000000000, ⟨monotone_const, fun _ => hfirst⟩,
      2000000000, ⟨monotone_const, fun _ => hsecond⟩, le_refl (2000000000 : Int)⟩
  have hsplit : probingEvents = probingEvents.take 1 ++ probingEvents.drop 1 ++ [] := by
    rw [List.append_nil, List.take_append_drop]
  have hbefore : (probingEvents.take 1).foldl RecordEvent.apply .default = .default := by rfl
  have hwindow : undisturbed ((probingEvents.take 1).foldl RecordEvent.apply .default)
      (probingEvents.drop 1) = true := by decide +kernel
  have hbound := (probe_rate_bound Externals.reference "dev_00000000000000000000000000000002" hclock hsplit
    hwindow).1
  rw [hbefore] at hbound
  exact ⟨by decide +kernel, hbound⟩

open Reference in
/-- The peers stay what they are and no path is Direct, but `apply_local_config` builds
    the runtime anew: the peer is probed twice at the same moment. -/
theorem probed_twice_at_once :
    roundTimes (RuntimeState.fromPersisted Externals.reference env.salts pairedState)
        [bindSocket, probeAt 1] = [1000000000] ∧
      (probedWorld.mutex.value.pathState "dev_00000000000000000000000000000002").currentPath ≠ .direct ∧
      ∃ w', (applyLocalConfig Externals.reference quietBackend env localConfig).run probedWorld =
          .ok (.ok (), w') ∧
        w'.mutex.value.persisted.peers = probedWorld.mutex.value.persisted.peers ∧
        roundTimes w'.mutex.value [probeAt 1] = [1000000000] := by
  have hafter : reconfigured.map (fun p => (p.1, p.2.mutex.value.persisted.peers,
      roundTimes p.2.mutex.value [probeAt 1])) =
        some (.ok (), probedWorld.mutex.value.persisted.peers, [1000000000]) := by decide +kernel
  obtain ⟨⟨r, w'⟩, hrun, hresult⟩ := Option.map_eq_some_iff.mp hafter
  obtain ⟨rfl, hrest⟩ := Prod.mk.inj hresult
  obtain ⟨hpeers, htimes⟩ := Prod.mk.inj hrest
  refine ⟨by decide +kernel, by decide +kernel, w', ?_, hpeers, htimes⟩
  unfold reconfigured at hrun
  cases hres : (applyLocalConfig Externals.reference quietBackend env localConfig).run probedWorld with
  | error e =>
      rw [hres] at hrun
      cases hrun
  | ok p =>
      rw [hres] at hrun
      exact congrArg Except.ok (Option.some.inj hrun)

end TfScale.Custom
