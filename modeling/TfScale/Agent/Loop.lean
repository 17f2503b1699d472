/-
  TfScale.Agent.Loop

  `run_agent_loop`: the agent syncs with the control plane and lets its backend maintain
  the paths to the peers, each with its own interval, until it is told to shut down.

  Both jobs run in one task, and a sync waits for the control plane without a timeout: how
  far apart two ticks for a job are depends on how long both jobs take.
  `agent_loop_keeps_time` has the bounds; what the syncs hand on is `applyEach` of the maps
  they get (`handed_of_run`).
-/

import TfScale.Lib.Periodic
import TfScale.Lib.Run
import TfScale.Agent.AppliedMap
import TfScale.Agent.Enrolment

namespace TfScale.Agent

open TfScale.Custom

/-- Nanoseconds of the monotonic clock. -/
abbrev Instant := Nat

/-- Nanoseconds. -/
abbrev Duration := Nat

def directPathMaintenanceInterval : Duration := 250 * 1000000

def fromSecs (seconds : Nat) : Duration := seconds * 1000000000

-- ============================================================================
-- The timers
-- ============================================================================

/-- `agent_loop_sleep_duration` -/
def agentLoopSleepDuration (now nextSyncAt nextPathMaintenanceAt : Instant) : Duration :=
  min nextSyncAt nextPathMaintenanceAt - now

structure AgentLoopTick where
  sync : Bool
  maintainPaths : Bool
deriving DecidableEq, Repr

/-- `next_agent_loop_tick`, with the two instants that it writes. -/
def nextAgentLoopTick (now : Instant) (syncInterval : Duration)
    (nextSyncAt nextPathMaintenanceAt : Instant) : AgentLoopTick × Instant × Instant :=
  let sync := decide (nextSyncAt ≤ now)
  let nextSyncAt := if sync then now + syncInterval else nextSyncAt
  let maintainPaths := decide (nextPathMaintenanceAt ≤ now)
  let nextPathMaintenanceAt :=
    if maintainPaths then now + directPathMaintenanceInterval else nextPathMaintenanceAt
  (⟨sync, maintainPaths⟩, nextSyncAt, nextPathMaintenanceAt)

-- ============================================================================
-- One sync
-- ============================================================================

/-- `device_credentials` -/
def SavedState.deviceCredentials (state : SavedState) : Except String (String × String) := do
  let deviceId ← withContext "agent state is missing device ID" state.deviceId
  let nodeKey ← withContext "agent state is missing node key" state.nodeKey
  return (deviceId, nodeKey)

/-- How the calls of a sync end: the heartbeat, the request for the map, the calls that
    hand it on, and the maintenance of the paths. -/
structure SyncAnswers where
  heartbeat : Except String Unit
  networkMap : Except String NetworkMapResponse
  apply : Answers
  maintain : Except String Unit

/-- `send_heartbeat` -/
def sendHeartbeat (a : SyncAnswers) (state : SavedState) : Except String Unit := do
  let _ ← state.deviceCredentials
  a.heartbeat

/-- `fetch_network_map` -/
def fetchNetworkMap (a : SyncAnswers) (state : SavedState) : Except String NetworkMapResponse := do
  let _ ← state.deviceCredentials
  a.networkMap

/-- `apply_network_map_and_maintain_paths` -/
def applyNetworkMapAndMaintainPaths (a : SyncAnswers) (state : SavedState) (map : NetworkMapResponse) :
    SyncM Unit := do
  applyNetworkMapIfChanged a.apply state.toAgentState map
  ofResult a.maintain

/-- `sync_agent_once` -/
def syncAgentOnce (a : SyncAnswers) (state : SavedState) : SyncM Unit := do
  ofResult (sendHeartbeat a state)
  let map ← ofResult (fetchNetworkMap a state)
  applyNetworkMapAndMaintainPaths a state map

/-- The map that a sync gets, with how it is handed on. -/
def SyncAnswers.round (a : SyncAnswers) (state : SavedState) : Option Round :=
  match sendHeartbeat a state, fetchNetworkMap a state with
  | .ok _, .ok map => some (a.apply, map)
  | _, _ => none

-- ============================================================================
-- The loop
-- ============================================================================

/-- What one pass of the loop meets: whether a shutdown was requested, how that ends, the
    time that passes besides the sleep, and for each job how it ends and how long it
    takes. -/
structure Pass where
  shutdownRequested : Bool
  shutdown : Except String Unit
  overslept : Duration
  sync : SyncAnswers
  syncTakes : Duration
  maintainPaths : Except String Unit
  maintainTakes : Duration

structure LoopState where
  now : Instant
  nextSyncAt : Instant
  nextPathMaintenanceAt : Instant
  handed : Handed
  /-- what the function has returned -/
  returned : Option (Except String Unit)
  /-- the ticks that asked for a sync, and those that asked for a maintenance -/
  syncTicks : List Instant
  maintenanceTicks : List Instant
  /-- the maps that the syncs got -/
  rounds : List Round

/-- `Duration::from_secs(state.poll_interval_seconds.max(1))` -/
def SavedState.syncInterval (state : SavedState) : Duration :=
  fromSecs (max state.pollIntervalSeconds.toNat 1)

namespace LoopState

/-- The loop is entered at `now`. -/
def start (state : SavedState) (handed : Handed) (now : Instant) : LoopState where
  now := now
  nextSyncAt := now + state.syncInterval
  nextPathMaintenanceAt := now + directPathMaintenanceInterval
  handed := handed
  returned := none
  syncTicks := []
  maintenanceTicks := []
  rounds := []

/-- `if tick.sync`, for the tick at `now`; an error is logged. -/
def sync (state : SavedState) (pass : Pass) (now : Instant) (s : LoopState) : LoopState :=
  { s with
    handed := (syncAgentOnce pass.sync state s.handed).2
    now := s.now + pass.syncTakes
    syncTicks := s.syncTicks ++ [now]
    rounds := s.rounds ++ (pass.sync.round state).toList }

/-- `if tick.maintain_paths`, for the tick at `now`; an error is logged. -/
def maintain (pass : Pass) (now : Instant) (s : LoopState) : LoopState :=
  { s with
    now := s.now + pass.maintainTakes
    maintenanceTicks := s.maintenanceTicks ++ [now] }

/-- A pass of the loop of `run_agent_loop`, unless it has returned. -/
def step (state : SavedState) (s : LoopState) (pass : Pass) : Option LoopState :=
  match s.returned with
  | some _ => none
  | none =>
      if pass.shutdownRequested then some { s with returned := some pass.shutdown }
      else
        let now := s.now + agentLoopSleepDuration s.now s.nextSyncAt s.nextPathMaintenanceAt + pass.overslept
        match nextAgentLoopTick now state.syncInterval s.nextSyncAt s.nextPathMaintenanceAt with
        | (tick, nextSyncAt, nextPathMaintenanceAt) =>
            let s := { s with now, nextSyncAt, nextPathMaintenanceAt }
            let s := if tick.sync then s.sync state pass now else s
            some (if tick.maintainPaths then s.maintain pass now else s)

end LoopState

-- ============================================================================
-- What the loop hands on
-- ============================================================================

variable {state : SavedState} {s s' : LoopState} {pass : Pass} {passes : List Pass}

theorem applyEach_append (state : AgentState) (rounds later : List Round) (h : Handed) :
    applyEach state (rounds ++ later) h = applyEach state later (applyEach state rounds h) := by
  induction rounds generalizing h with
  | nil => rfl
  | cons round rounds ih => exact ih _

/-- A sync hands on the map that it gets, and nothing when it gets none. -/
theorem syncAgentOnce_handed (a : SyncAnswers) (state : SavedState) (h : Handed) :
    (syncAgentOnce a state h).2 = applyEach state.toAgentState (a.round state).toList h := by
  unfold syncAgentOnce SyncAnswers.round
  cases hheartbeat : sendHeartbeat a state with
  | error e => rfl
  | ok _ =>
      rw [ofResult_bind_ok rfl]
      cases hfetch : fetchNetworkMap a state with
      | error e => rfl
      | ok map =>
          rw [ofResult_bind_ok rfl]
          show (applyNetworkMapAndMaintainPaths a state map h).2 =
            (applyNetworkMapIfChanged a.apply state.toAgentState map h).2
          unfold applyNetworkMapAndMaintainPaths
          rw [bind_run]
          split
          · rename_i h' heq
            rw [heq]
            cases a.maintain <;> rfl
          · rename_i e h' heq
            rw [heq]

/-- What a pass keeps of the maps and what became of them. -/
theorem handed_of_step {h₀ : Handed} (hstep : s.step state pass = some s')
    (h : s.handed = applyEach state.toAgentState s.rounds h₀) :
    s'.handed = applyEach state.toAgentState s'.rounds h₀ := by
  unfold LoopState.step at hstep
  split at hstep
  · cases hstep
  split at hstep
  · obtain rfl := Option.some.inj hstep
    exact h
  · have hsync : (syncAgentOnce pass.sync state s.handed).2 =
        applyEach state.toAgentState (s.rounds ++ (pass.sync.round state).toList) h₀ := by
      rw [syncAgentOnce_handed, applyEach_append, h]
    simp only [nextAgentLoopTick, decide_eq_true_eq, Option.some.injEq] at hstep
    subst hstep
    split_ifs
    · exact hsync
    · exact h
    · exact hsync
    · exact h

/-- After any number of passes, what is handed on is what the maps give that the syncs
    got, one after the other. -/
theorem handed_of_run {h₀ : Handed} {now : Instant}
    (hrun : run (LoopState.step state) (.start state h₀ now) passes = some s) :
    s.handed = applyEach state.toAgentState s.rounds h₀ := by
  have hkeep : ∀ t pass t', t.handed = applyEach state.toAgentState t.rounds h₀ →
      LoopState.step state t pass = some t' → t'.handed = applyEach state.toAgentState t'.rounds h₀ :=
    fun _ _ _ h hstep => handed_of_step hstep h
  exact invariant_run (s := LoopState.start state h₀ now) (t := s) hkeep rfl hrun

-- ============================================================================
-- The loop as a loop over periodic jobs
-- ============================================================================

inductive Job where
  | sync
  | maintainPaths
deriving DecidableEq, Repr

instance : Fintype Job := ⟨{.sync, .maintainPaths}, by rintro (_ | _) <;> decide⟩

instance : Nonempty Job := ⟨.sync⟩

/-- One value for each job. -/
def Job.elim {α : Type} (sync maintainPaths : α) : Job → α
  | .sync => sync
  | .maintainPaths => maintainPaths

theorem Job.elim_sync {α : Type} (sync maintainPaths : α) : Job.elim sync maintainPaths .sync = sync := rfl

theorem Job.elim_maintainPaths {α : Type} (sync maintainPaths : α) :
    Job.elim sync maintainPaths .maintainPaths = maintainPaths := rfl

def SavedState.period (state : SavedState) : Job → Duration :=
  Job.elim state.syncInterval directPathMaintenanceInterval

theorem period_sync (state : SavedState) : state.period .sync = state.syncInterval := by
  rw [SavedState.period, Job.elim_sync]

theorem period_maintainPaths (state : SavedState) :
    state.period .maintainPaths = directPathMaintenanceInterval := by
  rw [SavedState.period, Job.elim_maintainPaths]

def LoopState.timetable (s : LoopState) : Timetable Job :=
  ⟨s.now, Job.elim s.nextSyncAt s.nextPathMaintenanceAt⟩

def Pass.delay (pass : Pass) : Delay Job := ⟨pass.overslept, Job.elim pass.syncTakes pass.maintainTakes⟩

theorem sum_job (f : Job → Nat) : ∑ j, f j = f .sync + f .maintainPaths := by
  show ∑ j ∈ {.sync, .maintainPaths}, f j = _
  rw [Finset.sum_insert (by decide), Finset.sum_singleton]

theorem earliest_timetable (s : LoopState) :
    s.timetable.earliest = min s.nextSyncAt s.nextPathMaintenanceAt := by
  have hsync : s.timetable.earliest ≤ s.nextSyncAt := s.timetable.earliest_le .sync
  have hmaintain : s.timetable.earliest ≤ s.nextPathMaintenanceAt := s.timetable.earliest_le .maintainPaths
  obtain ⟨j, -, hj⟩ := Finset.exists_mem_eq_inf' Finset.univ_nonempty s.timetable.due
  have hearliest : s.timetable.earliest = s.timetable.due j := hj
  cases j with
  | sync =>
      have hnext : s.timetable.due .sync = s.nextSyncAt := rfl
      omega
  | maintainPaths =>
      have hnext : s.timetable.due .maintainPaths = s.nextPathMaintenanceAt := rfl
      omega

/-- A pass wakes up when a round of the timetable does. -/
theorem wake_timetable (s : LoopState) (pass : Pass) :
    s.timetable.wake pass.delay =
      s.now + agentLoopSleepDuration s.now s.nextSyncAt s.nextPathMaintenanceAt + pass.overslept := by
  have hnow : s.timetable.now = s.now := rfl
  have hlate : pass.delay.late = pass.overslept := rfl
  have hearliest := earliest_timetable s
  unfold Timetable.wake agentLoopSleepDuration
  omega

theorem busy_timetable (s : LoopState) (pass : Pass) : s.timetable.busy pass.delay =
    (if s.nextSyncAt ≤ s.timetable.wake pass.delay then pass.syncTakes else 0) +
    if s.nextPathMaintenanceAt ≤ s.timetable.wake pass.delay then pass.maintainTakes else 0 := by
  unfold Timetable.busy
  rw [Finset.sum_filter, sum_job]
  rfl

/-- A round of the timetable of a loop. -/
theorem round_timetable {s₁ : LoopState} {now : Instant} (hwake : s.timetable.wake pass.delay = now)
    (hnow : s₁.now = now + ((if s.nextSyncAt ≤ now then pass.syncTakes else 0) +
      if s.nextPathMaintenanceAt ≤ now then pass.maintainTakes else 0))
    (hsync : s₁.nextSyncAt = if s.nextSyncAt ≤ now then now + state.syncInterval else s.nextSyncAt)
    (hmaintain : s₁.nextPathMaintenanceAt = if s.nextPathMaintenanceAt ≤ now
      then now + directPathMaintenanceInterval else s.nextPathMaintenanceAt) :
    s₁.timetable = s.timetable.round state.period pass.delay := by
  subst hwake
  refine Timetable.ext ?_ (funext fun j => ?_)
  · show s₁.now = s.timetable.wake pass.delay + s.timetable.busy pass.delay
    rw [hnow, busy_timetable]
  · cases j with
    | sync =>
        have hround : (s.timetable.round state.period pass.delay).due .sync =
            if s.nextSyncAt ≤ s.timetable.wake pass.delay
              then s.timetable.wake pass.delay + state.period .sync else s.nextSyncAt := rfl
        rw [hround, period_sync, ← hsync]
        rfl
    | maintainPaths =>
        have hround : (s.timetable.round state.period pass.delay).due .maintainPaths =
            if s.nextPathMaintenanceAt ≤ s.timetable.wake pass.delay
              then s.timetable.wake pass.delay + state.period .maintainPaths else s.nextPathMaintenanceAt := rfl
        rw [hround, period_maintainPaths, ← hmaintain]
        rfl

/-- A pass ends the loop, or it is a round. -/
theorem step_cases (hstep : s.step state pass = some s') :
    (∃ result, s' = { s with returned := some result }) ∨
    (s'.timetable = s.timetable.round state.period pass.delay ∧
      s'.syncTicks = s.syncTicks ++ (if s.nextSyncAt ≤ s.timetable.wake pass.delay
        then [s.timetable.wake pass.delay] else []) ∧
      s'.maintenanceTicks = s.maintenanceTicks ++ (if s.nextPathMaintenanceAt ≤ s.timetable.wake pass.delay
        then [s.timetable.wake pass.delay] else [])) := by
  unfold LoopState.step at hstep
  split at hstep
  · cases hstep
  split at hstep
  · exact Or.inl ⟨pass.shutdown, (Option.some.inj hstep).symm⟩
  · right
    have hwake := wake_timetable s pass
    simp only [← hwake, nextAgentLoopTick, decide_eq_true_eq, Option.some.injEq] at hstep
    generalize hnow : s.timetable.wake pass.delay = now at hstep ⊢
    subst hstep
    refine ⟨round_timetable hnow ?_ ?_ ?_, ?_, ?_⟩
    · split_ifs <;> simp only [LoopState.sync, LoopState.maintain, Nat.add_assoc, Nat.add_zero, Nat.zero_add]
    all_goals split_ifs <;> simp only [LoopState.sync, LoopState.maintain, List.append_nil]

/-- The passes from one state to another are rounds with these delays, and perhaps the pass
    that ends the loop. -/
structure Rounds (state : SavedState) (s : LoopState) (passes : List Pass) (s' : LoopState)
    (ds : List (Delay Job)) : Prop where
  delays : ∀ d ∈ ds, ∃ pass ∈ passes, d = pass.delay
  length : passes.length ≤ ds.length + 1
  timetable : s'.timetable = s.timetable.after state.period ds
  syncTicks : s'.syncTicks = s.syncTicks ++ Timetable.beats state.period .sync ds s.timetable
  maintenanceTicks : s'.maintenanceTicks = s.maintenanceTicks ++
    Timetable.beats state.period .maintainPaths ds s.timetable

/-- No round at all. -/
theorem rounds_nil (hlength : passes.length ≤ 1) (htimetable : s'.timetable = s.timetable)
    (hsyncs : s'.syncTicks = s.syncTicks) (hmaintenances : s'.maintenanceTicks = s.maintenanceTicks) :
    Rounds state s passes s' [] where
  delays := List.forall_mem_nil _
  length := hlength
  timetable := htimetable
  syncTicks := hsyncs.trans (List.append_nil _).symm
  maintenanceTicks := hmaintenances.trans (List.append_nil _).symm

theorem run_rounds (hrun : run (LoopState.step state) s passes = some s') :
    ∃ ds, Rounds state s passes s' ds := by
  induction passes generalizing s with
  | nil =>
      obtain rfl := Option.some.inj hrun
      exact ⟨[], rounds_nil (Nat.zero_le _) rfl rfl rfl⟩
  | cons pass passes ih =>
      obtain ⟨s₁, hstep, hrest⟩ := run_cons_eq_some.mp hrun
      rcases step_cases hstep with ⟨result, rfl⟩ | ⟨htimetable, hsyncs, hmaintenances⟩
      · -- nothing comes after the pass that ends the loop
        cases passes with
        | nil =>
            obtain rfl := Option.some.inj hrest
            exact ⟨[], rounds_nil (Nat.le_refl _) rfl rfl rfl⟩
        | cons next later =>
            obtain ⟨s₂, hnone, -⟩ := run_cons_eq_some.mp hrest
            cases hnone
      · obtain ⟨ds, hrounds⟩ := ih hrest
        refine ⟨pass.delay :: ds, ?_, Nat.succ_le_succ hrounds.length, ?_, ?_, ?_⟩
        · refine List.forall_mem_cons.mpr ⟨⟨pass, List.mem_cons_self, rfl⟩, fun d hd => ?_⟩
          obtain ⟨pass', hpass', hdelay⟩ := hrounds.delays d hd
          exact ⟨pass', List.mem_cons_of_mem _ hpass', hdelay⟩
        · rw [hrounds.timetable, htimetable]
          rfl
        · rw [hrounds.syncTicks, hsyncs, htimetable, Timetable.beats_cons, List.append_assoc]
          rfl
        · rw [hrounds.maintenanceTicks, hmaintenances, htimetable, Timetable.beats_cons, List.append_assoc]
          rfl

-- ============================================================================
-- How far apart the ticks for a job are
-- ============================================================================

/-- From `begun` to `now` the job was due at the ticks `times`: never within an interval of
    the tick before, and never later than `longest` after it. -/
structure Spaced (interval longest : Duration) (begun : Instant) (times : List Instant) (now : Instant) :
    Prop where
  chain : (begun :: times).IsChain fun t t' => t + interval ≤ t' ∧ t' ≤ t + longest
  last : now ≤ times.getLastD begun + longest

/-- A pass takes no longer than that. -/
structure Pass.Within (overslept syncTakes maintainTakes : Duration) (pass : Pass) : Prop where
  overslept : pass.overslept ≤ overslept
  syncTakes : pass.syncTakes ≤ syncTakes
  maintainTakes : pass.maintainTakes ≤ maintainTakes

variable {overslept syncTakes maintainTakes : Duration}

theorem Pass.Within.delay (h : pass.Within overslept syncTakes maintainTakes) :
    Timetable.Within overslept (Job.elim syncTakes maintainTakes) pass.delay where
  late := h.overslept
  takes
    | .sync => h.syncTakes
    | .maintainPaths => h.maintainTakes

theorem gap_sync (period : Job → Nat) : Timetable.gap period (Job.elim syncTakes maintainTakes) .sync =
    max (period .sync) syncTakes + maintainTakes := rfl

theorem gap_maintainPaths (period : Job → Nat) :
    Timetable.gap period (Job.elim syncTakes maintainTakes) .maintainPaths =
    max (period .maintainPaths) maintainTakes + syncTakes := rfl

theorem spaced_of_beats (state : SavedState) (now : Instant) (j : Job) {ds : List (Delay Job)}
    {takes : Job → Nat} (hds : ∀ d ∈ ds, Timetable.Within overslept takes d) :
    Spaced (state.period j) (Timetable.gap state.period takes j + overslept) now
      (Timetable.beats state.period j ds (.start state.period now))
      ((Timetable.start state.period now).after state.period ds).now := by
  obtain ⟨hchain, hpaced⟩ := Timetable.beats_paced hds (Timetable.paced_start (i := j) now)
  refine ⟨hchain.imp fun t t' hfollows => ?_, ?_⟩
  · rw [← Nat.add_assoc]
    exact hfollows
  · exact Nat.le_trans hpaced.within (by rw [← Nat.add_assoc]; exact Nat.le_add_right _ _)

theorem Job.elim_add (now sync maintainPaths : Nat) (j : Job) :
    Job.elim (now + sync) (now + maintainPaths) j = now + Job.elim sync maintainPaths j := by
  cases j with
  | sync => rfl
  | maintainPaths => rfl

theorem timetable_start (state : SavedState) (handed : Handed) (now : Instant) :
    (LoopState.start state handed now).timetable = .start state.period now :=
  Timetable.ext rfl (funext (Job.elim_add now _ _))

theorem period_pos (state : SavedState) (j : Job) : 0 < state.period j := by
  cases j with
  | sync =>
      have hseconds : 0 < max state.pollIntervalSeconds.toNat 1 :=
        Nat.lt_of_lt_of_le Nat.zero_lt_one (Nat.le_max_right _ _)
      rw [period_sync, SavedState.syncInterval, fromSecs]
      exact Nat.mul_pos hseconds (by decide)
  | maintainPaths =>
      rw [period_maintainPaths, directPathMaintenanceInterval]
      exact Nat.mul_pos (by decide) (by decide)

/-- **The agent keeps time.**  However its passes go (the syncs and the maintenance of the
    paths fail or succeed, a sleep lasts too long), as long as each takes no longer than the
    bounds say:

    * two ticks for a sync that follow each other are at least the poll interval apart, and
      at most as long as the interval or a sync takes, and the maintenance and the sleep on
      top;
    * so are two ticks for a maintenance, with their 250 milliseconds (a sync that succeeds
      maintains the paths as well, whenever it is);
    * the loop makes one pass for each interval of each of the two, and a last one. -/
theorem agent_loop_keeps_time (state : SavedState) (handed : Handed) (begun : Instant)
    (passes : List Pass) (s : LoopState)
    (hrun : run (LoopState.step state) (.start state handed begun) passes = some s)
    (overslept syncTakes maintainTakes : Duration)
    (hwithin : ∀ pass ∈ passes, pass.Within overslept syncTakes maintainTakes) :
    Spaced state.syncInterval (max state.syncInterval syncTakes + maintainTakes + overslept) begun
      s.syncTicks s.now ∧
    Spaced directPathMaintenanceInterval
      (max directPathMaintenanceInterval maintainTakes + syncTakes + overslept) begun
      s.maintenanceTicks s.now ∧
    passes.length ≤ (s.now - begun) / state.syncInterval +
      (s.now - begun) / directPathMaintenanceInterval + 1 := by
  obtain ⟨ds, hrounds⟩ := run_rounds hrun
  have hds : ∀ d ∈ ds, Timetable.Within overslept (Job.elim syncTakes maintainTakes) d := by
    intro d hd
    obtain ⟨pass, hpass, rfl⟩ := hrounds.delays d hd
    exact (hwithin pass hpass).delay
  have hstart : (LoopState.start state handed begun).timetable = .start state.period begun :=
    timetable_start state handed begun
  have hnow : s.now = ((Timetable.start state.period begun).after state.period ds).now := by
    rw [← hstart]
    exact congrArg Timetable.now hrounds.timetable
  have hsyncs : s.syncTicks = Timetable.beats state.period .sync ds (.start state.period begun) := by
    rw [← hstart]
    exact hrounds.syncTicks
  have hmaintenances : s.maintenanceTicks =
      Timetable.beats state.period .maintainPaths ds (.start state.period begun) := by
    rw [← hstart]
    exact hrounds.maintenanceTicks
  rw [hsyncs, hmaintenances, hnow]
  have hsync := spaced_of_beats state begun .sync hds
  have hmaintain := spaced_of_beats state begun .maintainPaths hds
  have hlength := Timetable.rounds_le (period_pos state) hds begun
  rw [gap_sync, period_sync] at hsync
  rw [gap_maintainPaths, period_maintainPaths] at hmaintain
  rw [sum_job, period_sync, period_maintainPaths] at hlength
  exact ⟨hsync, hmaintain, Nat.le_trans hrounds.length (Nat.add_le_add_right hlength 1)⟩

namespace Reference

def millis (n : Nat) : Duration := n * 1000000

/-- A registered agent that polls every five seconds. -/
def polling : SavedState :=
  { SavedState.new (.replicate 16 1) with deviceId := some "dev_1", nodeKey := some "node_1", ipv4 := some "100.64.0.2" }

/-- Nobody can be reached. -/
def unreachable : SyncAnswers :=
  ⟨.error "connection refused", .error "connection refused", ⟨.ok (), .ok (), .ok (), .ok ()⟩, .ok ()⟩

def passTaking (syncTakes maintainTakes : Duration) : Pass :=
  ⟨false, .ok (), millis 1, unreachable, syncTakes, .ok (), maintainTakes⟩

/-- A maintenance that takes five seconds, a pass with both jobs, and the shutdown. -/
def slowStart : List Pass :=
  [passTaking 0 (millis 5000), passTaking (millis 100) (millis 1),
    { passTaking 0 0 with shutdownRequested := true }]

end Reference

open Reference in
/-- The slow maintenance delays the sync; both are made up for in the next pass. -/
theorem agent_loop_keeps_time_slow :
    ∃ s, run (LoopState.step polling) (.start polling .none 0) slowStart = some s ∧
      s.syncTicks = [millis 5252] ∧ s.maintenanceTicks = [millis 251, millis 5252] ∧
      Spaced polling.syncInterval (max polling.syncInterval (millis 100) + millis 5000 + millis 1) 0
        s.syncTicks s.now := by
  have hrun : (run (LoopState.step polling) (.start polling .none 0) slowStart).any (fun s =>
      decide (s.syncTicks = [millis 5252] ∧ s.maintenanceTicks = [millis 251, millis 5252])) = true := by
    decide +kernel
  obtain ⟨s, hs, hfacts⟩ := (Option.any_eq_true _ _).mp hrun
  obtain ⟨hsyncs, hmaintenances⟩ := of_decide_eq_true hfacts
  have hwithin : ∀ pass ∈ slowStart, pass.Within (millis 1) (millis 100) (millis 5000) := by
    refine List.forall_mem_cons.mpr ⟨?_, List.forall_mem_cons.mpr ⟨?_, List.forall_mem_singleton.mpr ?_⟩⟩
    all_goals exact ⟨by decide +kernel, by decide +kernel, by decide +kernel⟩
  exact ⟨s, hs, hsyncs, hmaintenances, (agent_loop_keeps_time polling .none 0 slowStart s hs (millis 1)
    (millis 100) (millis 5000) hwithin).1⟩

end TfScale.Agent
