/-
  TfScale.Agent.AppliedMap

  Is a map that the agent accepts the map that is in place?

  A round hands on the local configuration, the relays, the peers and the snapshot
  one after the other, and stops at the first failure; the version is kept at the
  end.  A round that fails half-way leaves relays or peers of its own beside the
  version of an older map, and a later map of that version is skipped.  `Stale` is
  that state, and the round that leads to it is one that `Disturbs`.
-/

import TfScale.Lib.Run
import TfScale.Agent.Sync

namespace TfScale.Agent

open TfScale.Custom

-- ============================================================================
-- How far a round gets
-- ============================================================================

/-- One call: how the fallible steps would end, and the map. -/
abbrev Round := Answers × NetworkMapResponse

/-- The round hands on its relays. -/
def ReachesRelays (state : AgentState) (round : Round) : Prop :=
  state.localConfig.isOk = true ∧ round.1.localConfig.isOk = true ∧ round.1.relayMap.isOk = true

/-- The round hands on its peers. -/
def ReachesPeers (state : AgentState) (round : Round) : Prop :=
  ReachesRelays state round ∧ (networkMapToPeerConfigs round.2.peers).isOk = true ∧
    round.1.peerMap.isOk = true

/-- The round gets to its end. -/
def Completes (state : AgentState) (round : Round) : Prop :=
  ReachesPeers state round ∧ round.1.save.isOk = true

instance (state : AgentState) (round : Round) : Decidable (ReachesRelays state round) :=
  inferInstanceAs (Decidable (_ ∧ _))

instance (state : AgentState) (round : Round) : Decidable (ReachesPeers state round) :=
  inferInstanceAs (Decidable (_ ∧ _))

instance (state : AgentState) (round : Round) : Decidable (Completes state round) :=
  inferInstanceAs (Decidable (_ ∧ _))

/-- Everything of the map is in place. -/
structure Handed.Reflects (state : AgentState) (map : NetworkMapResponse) (h : Handed) : Prop where
  localConfig : ∃ config, state.localConfig = .ok config ∧ h.localConfig = some config
  relays : h.relays = networkMapToRelayConfigs map.relays
  peers : networkMapToPeerConfigs map.peers = .ok h.peers
  dnsSnapshot : h.dnsSnapshot = map.dnsRecords
  dnsRecords : h.dnsRecords = map.dnsRecords

/-- What a round that applies its map leaves behind, when it does not get to its end. -/
structure LeftBy (state : AgentState) (round : Round) (h h' : Handed) : Prop where
  localConfig : h'.localConfig = h.localConfig ∨
    ∃ config, state.localConfig = .ok config ∧ h'.localConfig = some config
  relays : h'.relays =
    if ReachesRelays state round then networkMapToRelayConfigs round.2.relays else h.relays
  peers : if ReachesPeers state round then networkMapToPeerConfigs round.2.peers = .ok h'.peers
    else h'.peers = h.peers
  dnsSnapshot : h'.dnsSnapshot = h.dnsSnapshot
  dnsRecords : h'.dnsRecords = h.dnsRecords
  version : h'.lastAppliedNetworkMapVersion = h.lastAppliedNetworkMapVersion
  lastApplied : h'.lastApplied = h.lastApplied

section Rounds

variable {state : AgentState} {round : Round} {h h' : Handed}

/-- A round that stops before its relays are handed on. -/
theorem leftBy_of_not_reachesRelays (hnot : ¬ ReachesRelays state round)
    (hconfig : h'.localConfig = h.localConfig ∨
      ∃ config, state.localConfig = .ok config ∧ h'.localConfig = some config)
    (hrest : h' = { h with localConfig := h'.localConfig }) : LeftBy state round h h' := by
  have hpeers : ¬ ReachesPeers state round := fun hreach => hnot hreach.1
  refine ⟨hconfig, ?_, ?_, ?_, ?_, ?_, ?_⟩
  · rw [if_neg hnot, hrest]
  · rw [if_neg hpeers, hrest]
  all_goals rw [hrest]

/-- A round that stops after its relays were handed on. -/
theorem leftBy_of_reachesRelays {config : LocalBackendConfig} (hreach : ReachesRelays state round)
    (hnot : ¬ ReachesPeers state round) (hconfig : state.localConfig = .ok config) :
    LeftBy state round h { h with
      localConfig := some config
      relays := networkMapToRelayConfigs round.2.relays } := by
  refine ⟨Or.inr ⟨config, hconfig, rfl⟩, ?_, ?_, rfl, rfl, rfl, rfl⟩
  · rw [if_pos hreach]
  · rw [if_neg hnot]

/-- A call that fails is the end of the round it is in. -/
theorem call_bind_error {β : Type} {answer : Except String Unit} {e : String} (hanswer : answer = .error e)
    (effect : Handed → Handed) (f : Unit → SyncM β) (h : Handed) :
    (call answer effect >>= f) h = (.error e, h) := by
  rw [hanswer]
  rfl

/-- A call that succeeds is followed by the rest of the round. -/
theorem call_bind_ok {β : Type} {answer : Except String Unit} (hanswer : answer = .ok ())
    (effect : Handed → Handed) (f : Unit → SyncM β) (h : Handed) :
    (call answer effect >>= f) h = f () (effect h) := by
  rw [hanswer]
  rfl

theorem ofResult_bind_error {α β : Type} {result : Except String α} {e : String}
    (hresult : result = .error e) (f : α → SyncM β) (h : Handed) :
    (ofResult result >>= f) h = (.error e, h) := by
  rw [hresult]
  rfl

theorem ofResult_bind_ok {α β : Type} {result : Except String α} {a : α}
    (hresult : result = .ok a) (f : α → SyncM β) (h : Handed) :
    (ofResult result >>= f) h = f a h := by
  rw [hresult]
  rfl

/-- `apply_network_map_to_backend` hands on all three, or fails and leaves what it had
    handed on. -/
theorem applyNetworkMapToBackend_spec (state : AgentState) (round : Round) (h : Handed) :
    (∃ config peers, ReachesPeers state round ∧ state.localConfig = .ok config ∧
      networkMapToPeerConfigs round.2.peers = .ok peers ∧
      Sync.applyNetworkMapToBackend round.1 state round.2 h = (.ok (), { h with
        localConfig := some config
        relays := networkMapToRelayConfigs round.2.relays
        peers := peers })) ∨
    ∃ e h', ¬ ReachesPeers state round ∧ LeftBy state round h h' ∧
      Sync.applyNetworkMapToBackend round.1 state round.2 h = (.error e, h') := by
  obtain ⟨answers, map⟩ := round
  unfold Sync.applyNetworkMapToBackend
  cases hconfig : state.localConfig with
  | error e =>
      have hnot : ¬ ReachesRelays state (answers, map) := by simp [ReachesRelays, hconfig, Except.isOk, Except.toBool]
      exact Or.inr ⟨e, h, fun hreach => hnot hreach.1,
        leftBy_of_not_reachesRelays hnot (Or.inl rfl) rfl, ofResult_bind_error rfl _ h⟩
  | ok config =>
  rw [ofResult_bind_ok rfl]
  cases hlocal : answers.localConfig with
  | error e =>
      have hnot : ¬ ReachesRelays state (answers, map) := by simp [ReachesRelays, hlocal, Except.isOk, Except.toBool]
      exact Or.inr ⟨e, h, fun hreach => hnot hreach.1,
        leftBy_of_not_reachesRelays hnot (Or.inl rfl) rfl, call_bind_error rfl _ _ h⟩
  | ok _ =>
  rw [call_bind_ok rfl]
  cases hrelay : answers.relayMap with
  | error e =>
      have hnot : ¬ ReachesRelays state (answers, map) := by simp [ReachesRelays, hrelay, Except.isOk, Except.toBool]
      exact Or.inr ⟨e, _, fun hreach => hnot hreach.1,
        leftBy_of_not_reachesRelays hnot (Or.inr ⟨config, hconfig, rfl⟩) rfl, call_bind_error rfl _ _ _⟩
  | ok _ =>
  rw [call_bind_ok rfl]
  have hreach : ReachesRelays state (answers, map) := by
    simp [ReachesRelays, hconfig, hlocal, hrelay, Except.isOk, Except.toBool]
  cases hpeers : networkMapToPeerConfigs map.peers with
  | error e =>
      have hnot : ¬ ReachesPeers state (answers, map) := by simp [ReachesPeers, hpeers, Except.isOk, Except.toBool]
      exact Or.inr ⟨e, _, hnot, leftBy_of_reachesRelays hreach hnot hconfig,
        ofResult_bind_error rfl _ _⟩
  | ok peers =>
  rw [ofResult_bind_ok rfl]
  cases hpeer : answers.peerMap with
  | error e =>
      have hnot : ¬ ReachesPeers state (answers, map) := by simp [ReachesPeers, hpeer, Except.isOk, Except.toBool]
      exact Or.inr ⟨e, _, hnot, leftBy_of_reachesRelays hreach hnot hconfig, rfl⟩
  | ok _ =>
      refine Or.inl ⟨config, peers, ⟨hreach, ?_⟩, rfl, rfl, rfl⟩
      simp [hpeers, hpeer, Except.isOk, Except.toBool]

/-- A round that applies its map gets to its end and everything is in place, or fails
    and leaves what it had handed on. -/
theorem applyNetworkMap_spec (state : AgentState) (round : Round) (h : Handed) :
    (Completes state round ∧ ∃ h', applyNetworkMap round.1 state round.2 h = (.ok (), h') ∧
      h'.Reflects state round.2 ∧ h'.lastApplied = some round.2 ∧
      h'.lastAppliedNetworkMapVersion = some round.2.networkMapVersion) ∨
    (¬ Completes state round ∧ ∃ e h', applyNetworkMap round.1 state round.2 h = (.error e, h') ∧
      LeftBy state round h h') := by
  unfold applyNetworkMap saveDnsSnapshot
  rcases applyNetworkMapToBackend_spec state round h with
    ⟨config, peers, hreach, hconfig, hpeers, hrun⟩ | ⟨e, h', hnot, hleft, hrun⟩
  · rw [bind_run, hrun]
    simp only
    cases hsave : round.1.save with
    | error e =>
        refine Or.inr ⟨fun hall => ?_, e, _, call_bind_error rfl _ _ _, ?_⟩
        · have hok := hall.2
          rw [hsave] at hok
          cases hok
        · refine ⟨Or.inr ⟨config, hconfig, rfl⟩, ?_, ?_, rfl, rfl, rfl, rfl⟩
          · rw [if_pos hreach.1]
          · rw [if_pos hreach]
            exact hpeers
    | ok _ =>
        refine Or.inl ⟨⟨hreach, by rw [hsave]; rfl⟩, _, call_bind_ok rfl _ _ _, ?_, rfl, rfl⟩
        exact ⟨⟨config, hconfig, rfl⟩, rfl, hpeers, rfl, rfl⟩
  · rw [bind_run, hrun]
    exact Or.inr ⟨fun hall => hnot hall.1, e, h', rfl, hleft⟩

/-- Every round skips its map, applies it whole, or fails half-way. -/
theorem applyNetworkMapIfChanged_cases (state : AgentState) (round : Round) (h : Handed) :
    (h.lastAppliedNetworkMapVersion = some round.2.networkMapVersion ∧
      applyNetworkMapIfChanged round.1 state round.2 h = (.ok (), h)) ∨
    (∃ h', h.lastAppliedNetworkMapVersion ≠ some round.2.networkMapVersion ∧
      applyNetworkMapIfChanged round.1 state round.2 h = (.ok (), h') ∧
      h'.Reflects state round.2 ∧ h'.lastApplied = some round.2 ∧
      h'.lastAppliedNetworkMapVersion = some round.2.networkMapVersion) ∨
    ∃ e h', h.lastAppliedNetworkMapVersion ≠ some round.2.networkMapVersion ∧
      ¬ Completes state round ∧
      applyNetworkMapIfChanged round.1 state round.2 h = (.error e, h') ∧ LeftBy state round h h' := by
  have hrun : applyNetworkMapIfChanged round.1 state round.2 h =
      if h.lastAppliedNetworkMapVersion = some round.2.networkMapVersion then (.ok (), h)
      else applyNetworkMap round.1 state round.2 h := by
    unfold applyNetworkMapIfChanged
    rw [bind_run]
    show ite (h.lastAppliedNetworkMapVersion = some round.2.networkMapVersion) (pure ())
      (applyNetworkMap round.1 state round.2) h = _
    split_ifs
    · rfl
    · rfl
  rw [hrun]
  by_cases hversion : h.lastAppliedNetworkMapVersion = some round.2.networkMapVersion
  · rw [if_pos hversion]
    exact Or.inl ⟨hversion, rfl⟩
  · rw [if_neg hversion]
    rcases applyNetworkMap_spec state round h with
      ⟨-, h', hok, hreflects⟩ | ⟨hnot, e, h', herror, hleft⟩
    · exact Or.inr (Or.inl ⟨h', hversion, hok, hreflects⟩)
    · exact Or.inr (Or.inr ⟨e, h', hversion, hnot, herror, hleft⟩)

end Rounds

-- ============================================================================
-- Runs
-- ============================================================================

/-- One round after another. -/
def Round.step (state : AgentState) (h : Handed) (round : Round) : Option Handed :=
  some (applyNetworkMapIfChanged round.1 state round.2 h).2

/-- If the round returns `Ok`, everything of its map is in place. -/
def Round.Accepted (state : AgentState) (h : Handed) (round : Round) : Prop :=
  (applyNetworkMapIfChanged round.1 state round.2 h).1 = .ok () →
    (applyNetworkMapIfChanged round.1 state round.2 h).2.Reflects state round.2

/-- The relays or the peers in place are not those of the map whose version is kept. -/
def Handed.Stale (h : Handed) : Prop :=
  ∃ applied, h.lastApplied = some applied ∧
    ¬ (h.relays = networkMapToRelayConfigs applied.relays ∧
      networkMapToPeerConfigs applied.peers = .ok h.peers)

/-- The round fails after it has handed on relays or peers other than those of the map
    whose version is kept. -/
def Round.Disturbs (state : AgentState) (h : Handed) (round : Round) : Prop :=
  h.lastAppliedNetworkMapVersion ≠ some round.2.networkMapVersion ∧ ¬ Completes state round ∧
    ∃ applied, h.lastApplied = some applied ∧
      ((ReachesRelays state round ∧
          networkMapToRelayConfigs round.2.relays ≠ networkMapToRelayConfigs applied.relays) ∨
        (ReachesPeers state round ∧
          networkMapToPeerConfigs round.2.peers ≠ networkMapToPeerConfigs applied.peers))

/-- The same relays, peers and records. -/
def SameContents (map map' : NetworkMapResponse) : Prop :=
  map.relays = map'.relays ∧ map.peers = map'.peers ∧ map.dnsRecords = map'.dnsRecords

instance (map map' : NetworkMapResponse) : Decidable (SameContents map map') :=
  inferInstanceAs (Decidable (_ ∧ _))

/-- What holds beside the relays and the peers: the kept version is that of a map that
    was given, and the local configuration and both lists of records are its own. -/
structure Handed.Current (state : AgentState) (maps : NetworkMapResponse → Prop) (h : Handed) : Prop
    extends h.Kept maps where
  localConfig : ∀ applied, h.lastApplied = some applied →
    ∃ config, state.localConfig = .ok config ∧ h.localConfig = some config
  records : ∀ applied, h.lastApplied = some applied →
    h.dnsSnapshot = applied.dnsRecords ∧ h.dnsRecords = applied.dnsRecords

section Invariant

variable {state : AgentState} {maps : NetworkMapResponse → Prop} {round : Round} {h h' : Handed}

theorem current_none (state : AgentState) (maps : NetworkMapResponse → Prop) :
    Handed.none.Current state maps where
  toKept := kept_none maps
  localConfig := fun _ happlied => nomatch happlied
  records := fun _ happlied => nomatch happlied

/-- Current maps stay current, whatever a round gives. -/
theorem Handed.Current.step (hcurrent : h.Current state maps) (hmap : maps round.2)
    (hstep : Round.step state h round = some h') : h'.Current state maps := by
  obtain rfl := Option.some.inj hstep
  have hkept := hcurrent.toKept.applyNetworkMapIfChanged round.1 state hmap
  rcases applyNetworkMapIfChanged_cases state round h with
    ⟨-, hrun⟩ | ⟨h', -, hrun, hreflects, happlied', -⟩ | ⟨e, h', -, -, hrun, hleft⟩
  · rw [hrun]
    exact hcurrent
  · rw [hrun] at hkept ⊢
    refine ⟨hkept, fun _ _ => hreflects.localConfig, fun applied happlied => ?_⟩
    obtain rfl := Option.some.inj (happlied'.symm.trans happlied)
    exact ⟨hreflects.dnsSnapshot, hreflects.dnsRecords⟩
  · rw [hrun] at hkept ⊢
    refine ⟨hkept, fun applied happlied => ?_, fun applied happlied => ?_⟩
    · rw [hleft.lastApplied] at happlied
      rcases hleft.localConfig with hsame | hnew
      · rw [hsame]
        exact hcurrent.localConfig applied happlied
      · exact hnew
    · rw [hleft.lastApplied] at happlied
      rw [hleft.dnsSnapshot, hleft.dnsRecords]
      exact hcurrent.records applied happlied

/-- A state turns stale only by a round that disturbs it. -/
theorem not_stale_step (hfresh : ¬ h.Stale) (hquiet : ¬ Round.Disturbs state h round)
    (hstep : Round.step state h round = some h') : ¬ h'.Stale := by
  obtain rfl := Option.some.inj hstep
  rintro ⟨applied, happlied, hother⟩
  rcases applyNetworkMapIfChanged_cases state round h with
    ⟨-, hrun⟩ | ⟨h', -, hrun, hreflects, happlied', -⟩ | ⟨e, h', hversion, hnot, hrun, hleft⟩
  · rw [hrun] at happlied hother
    exact hfresh ⟨applied, happlied, hother⟩
  · rw [hrun] at happlied hother
    obtain rfl := Option.some.inj (happlied'.symm.trans happlied)
    exact hother ⟨hreflects.relays, hreflects.peers⟩
  · rw [hrun] at happlied hother
    have happlied₀ : h.lastApplied = some applied := hleft.lastApplied ▸ happlied
    have hsame : h.relays = networkMapToRelayConfigs applied.relays ∧
        networkMapToPeerConfigs applied.peers = .ok h.peers := by
      by_contra hstale
      exact hfresh ⟨applied, happlied₀, hstale⟩
    refine hother ⟨?_, ?_⟩
    · rw [hleft.relays]
      split_ifs with hreach
      · by_contra hne
        exact hquiet ⟨hversion, hnot, applied, happlied₀, Or.inl ⟨hreach, hne⟩⟩
      · exact hsame.1
    · have hpeers := hleft.peers
      split_ifs at hpeers with hreach
      · by_contra hne
        refine hquiet ⟨hversion, hnot, applied, happlied₀, Or.inr ⟨hreach, fun heq => ?_⟩⟩
        exact hne (heq.symm.trans hpeers)
      · rw [hpeers]
        exact hsame.2

/-- What is in place for the map of the kept version is in place for every map with
    the same contents. -/
theorem Handed.Current.reflects_iff (hcurrent : h.Current state maps) {applied map : NetworkMapResponse}
    (happlied : h.lastApplied = some applied) (hsame : SameContents applied map) :
    h.Reflects state map ↔ ¬ h.Stale := by
  obtain ⟨hrelays, hpeers, hrecords⟩ := hsame
  constructor
  · rintro hreflects ⟨applied', happlied', hother⟩
    obtain rfl := Option.some.inj (happlied.symm.trans happlied')
    exact hother ⟨by rw [hrelays]; exact hreflects.relays, by rw [hpeers]; exact hreflects.peers⟩
  · intro hfresh
    have hin : h.relays = networkMapToRelayConfigs applied.relays ∧
        networkMapToPeerConfigs applied.peers = .ok h.peers := by
      by_contra hother
      exact hfresh ⟨applied, happlied, hother⟩
    obtain ⟨hsnapshot, hdns⟩ := hcurrent.records applied happlied
    exact {
      localConfig := hcurrent.localConfig applied happlied
      relays := hrelays ▸ hin.1
      peers := hpeers ▸ hin.2
      dnsSnapshot := hrecords ▸ hsnapshot
      dnsRecords := hrecords ▸ hdns }

/-- A round is accepted rightly exactly when it does not skip its map in a stale state. -/
theorem accepted_iff (hversions : ∀ map map', maps map → maps map' →
      map.networkMapVersion = map'.networkMapVersion → SameContents map map')
    (hcurrent : h.Current state maps) (hmap : maps round.2) :
    Round.Accepted state h round ↔
      (h.lastAppliedNetworkMapVersion = some round.2.networkMapVersion → ¬ h.Stale) := by
  unfold Round.Accepted
  rcases applyNetworkMapIfChanged_cases state round h with
    ⟨hversion, hrun⟩ | ⟨h', hversion, hrun, hreflects, -⟩ | ⟨e, h', hversion, -, hrun, -⟩
  · have hkept := hcurrent.version
    rw [hversion] at hkept
    obtain ⟨applied, happlied, heq⟩ := Option.map_eq_some_iff.mp hkept.symm
    have hsame := hversions applied round.2 (hcurrent.given applied happlied) hmap heq
    have hiff := hcurrent.reflects_iff happlied hsame
    rw [hrun]
    exact ⟨fun hall _ => hiff.mp (hall rfl), fun hfresh _ => hiff.mpr (hfresh hversion)⟩
  · rw [hrun]
    exact ⟨fun _ hsame => absurd hsame hversion, fun _ _ => hreflects⟩
  · rw [hrun]
    refine ⟨fun _ hsame => absurd hsame hversion, fun _ hok => ?_⟩
    cases hok

/-- Along a run of given maps, rounds are accepted rightly exactly when none skips its
    map in a stale state. -/
theorem along_accepted_iff {rounds : List Round} (hversions : ∀ map map', maps map → maps map' →
      map.networkMapVersion = map'.networkMapVersion → SameContents map map')
    (hgiven : ∀ round ∈ rounds, maps round.2) :
    Along (Round.step state) (Round.Accepted state) .none rounds ↔
      Along (Round.step state) (fun h round =>
        h.lastAppliedNetworkMapVersion = some round.2.networkMapVersion → ¬ h.Stale) .none rounds := by
  have hkeep : ∀ (h : Handed) (round : Round) (h' : Handed), h.Current state maps → maps round.2 →
      Round.step state h round = some h' → h'.Current state maps :=
    fun _ _ _ hcurrent hmap hstep => hcurrent.step hmap hstep
  exact along_congr hkeep (fun _ _ hcurrent hmap => accepted_iff hversions hcurrent hmap)
    (current_none state maps) hgiven

/-- Along a run in which nothing disturbs, all rounds are accepted rightly. -/
theorem along_accepted_of_quiet {rounds : List Round} (hversions : ∀ map map', maps map → maps map' →
      map.networkMapVersion = map'.networkMapVersion → SameContents map map')
    (hgiven : ∀ round ∈ rounds, maps round.2)
    (hquiet : Along (Round.step state) (fun h round => ¬ Round.Disturbs state h round) .none rounds) :
    Along (Round.step state) (Round.Accepted state) .none rounds := by
  have hkeep : ∀ (h : Handed) (round : Round) (h' : Handed), h.Current state maps ∧ ¬ h.Stale →
      maps round.2 → ¬ Round.Disturbs state h round → Round.step state h round = some h' →
      h'.Current state maps ∧ ¬ h'.Stale :=
    fun _ _ _ hinv hmap hq hstep => ⟨hinv.1.step hmap hstep, not_stale_step hinv.2 hq hstep⟩
  have hstart : Handed.none.Current state maps ∧ ¬ Handed.none.Stale :=
    ⟨current_none state maps, fun ⟨_, happlied, _⟩ => nomatch happlied⟩
  refine Along.of_invariant hkeep (fun h round hinv hmap => ?_) hstart hgiven hquiet
  exact (accepted_iff hversions hinv.1 hmap).mpr fun _ => hinv.2

end Invariant

/-- **The accepted map is the applied map.**  For every sequence of rounds, if maps of
    equal versions have equal contents: after every round that returns `Ok` the local
    configuration, the relays, the peers, the saved records and the records in memory
    are those of its map, exactly when no round gives the kept version in a stale state;
    and a state turns stale only by a round that disturbs it, so in a run without such
    rounds every accepted map is in place. -/
theorem accepted_map_in_place_iff (state : AgentState) (rounds : List Round)
    (hversions : ∀ round ∈ rounds, ∀ round' ∈ rounds,
      round.2.networkMapVersion = round'.2.networkMapVersion → SameContents round.2 round'.2) :
    (Along (Round.step state) (Round.Accepted state) .none rounds ↔
      Along (Round.step state) (fun h round =>
        h.lastAppliedNetworkMapVersion = some round.2.networkMapVersion → ¬ h.Stale) .none rounds) ∧
    (Along (Round.step state) (fun h round => ¬ Round.Disturbs state h round) .none rounds →
      Along (Round.step state) (Round.Accepted state) .none rounds) := by
  have hmaps : ∀ map map', (∃ round ∈ rounds, round.2 = map) → (∃ round ∈ rounds, round.2 = map') →
      map.networkMapVersion = map'.networkMapVersion → SameContents map map' := by
    rintro _ _ ⟨round, hround, rfl⟩ ⟨round', hround', rfl⟩ heq
    exact hversions round hround round' hround' heq
  have hgiven : ∀ round ∈ rounds, ∃ round' ∈ rounds, round'.2 = round.2 :=
    fun round hround => ⟨round, hround, rfl⟩
  exact ⟨along_accepted_iff hmaps hgiven, along_accepted_of_quiet hmaps hgiven⟩

namespace Reference

/-- Every call succeeds. -/
def allWell : Answers := ⟨.ok (), .ok (), .ok (), .ok ()⟩

/-- The backend does not take the peers. -/
def peersRefused : Answers := { allWell with peerMap := .error "failed to save state" }

/-- The map of version 1 without relays, a map of version 2 with one, the first again. -/
def thereAndBack (second : Answers) : List Round :=
  [(allWell, networkMap []), (second, { networkMap [relay] with networkMapVersion := 2 }),
    (allWell, networkMap [])]

theorem thereAndBack_versions (second : Answers) : ∀ round ∈ thereAndBack second,
    ∀ round' ∈ thereAndBack second, round.2.networkMapVersion = round'.2.networkMapVersion →
      SameContents round.2 round'.2 := by
  simp only [thereAndBack, List.forall_mem_cons, List.not_mem_nil, false_imp_iff, implies_true,
    and_true]
  decide +kernel

end Reference

open Reference in
/-- The second map fails at its peers, after its relay is in place.  The first map, given
    again, is accepted without being applied, and the relay stays. -/
theorem skipped_map_not_in_place :
    (∀ round ∈ thereAndBack peersRefused, ∀ round' ∈ thereAndBack peersRefused,
      round.2.networkMapVersion = round'.2.networkMapVersion → SameContents round.2 round'.2) ∧
    ¬ Along (Round.step agentState) (Round.Accepted agentState) .none (thereAndBack peersRefused) := by
  refine ⟨thereAndBack_versions peersRefused, fun hall => ?_⟩
  have hthird := ((hall.2 _ rfl).2 _ rfl).1
  have hreflects := hthird (by decide +kernel)
  have hrelays := hreflects.relays
  revert hrelays
  decide +kernel

open Reference in
/-- When the second map goes through, so does the first one again. -/
theorem accepted_map_in_place_there_and_back :
    Along (Round.step agentState) (Round.Accepted agentState) .none (thereAndBack allWell) := by
  refine (accepted_map_in_place_iff agentState (thereAndBack allWell)
    (thereAndBack_versions allWell)).2 ?_
  have hfirst : Completes agentState (allWell, networkMap []) := by decide +kernel
  have hsecond : Completes agentState (allWell, { networkMap [relay] with networkMapVersion := 2 }) := by
    decide +kernel
  exact ⟨fun hdisturbs => hdisturbs.2.1 hfirst, fun _ _ => ⟨fun hdisturbs => hdisturbs.2.1 hsecond,
    fun _ _ => ⟨fun hdisturbs => hdisturbs.2.1 hfirst, fun _ _ => trivial⟩⟩⟩

end TfScale.Agent
