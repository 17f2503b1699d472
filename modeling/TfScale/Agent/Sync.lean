/-
  TfScale.Agent.Sync

  `apply_network_map_if_changed`: the agent applies a map unless its version is that
  of the map it applied last.

  Here the backend, the state directory and the DNS runtime are known only by what
  they have accepted: a call takes effect, or fails and changes nothing.
-/

import TfScale.Agent.NetworkMap

namespace TfScale.Agent

open TfScale.Custom

/-- What the agent has handed on, and the version that it keeps. -/
structure Handed where
  localConfig : Option LocalBackendConfig
  relays : List RelayConfig
  peers : List PeerConfig
  /-- the records of the saved state -/
  dnsSnapshot : List DnsRecord
  /-- the records that the DNS runtime answers with -/
  dnsRecords : List DnsRecord
  lastAppliedNetworkMapVersion : Option Int
  /-- the map that came with that version -/
  lastApplied : Option NetworkMapResponse
deriving DecidableEq

/-- An agent that was just started. -/
def Handed.none : Handed := ⟨.none, [], [], [], [], .none, .none⟩

/-- How the fallible calls of one round end. -/
structure Answers where
  localConfig : Except String Unit
  relayMap : Except String Unit
  peerMap : Except String Unit
  save : Except String Unit

/-- A round of the agent; what was handed on stays when it fails later. -/
abbrev SyncM := ExceptT String (StateM Handed)

/-- `?` on a result. -/
def ofResult {α : Type} : Except String α → SyncM α
  | .ok a => pure a
  | .error error => throw error

/-- A call that takes effect or fails. -/
def call (answer : Except String Unit) (effect : Handed → Handed) : SyncM Unit := do
  ofResult answer
  modify effect

/-- `apply_network_map_to_backend`, over any backend. -/
def Sync.applyNetworkMapToBackend (answers : Answers) (state : AgentState) (map : NetworkMapResponse) :
    SyncM Unit := do
  let config ← ofResult state.localConfig
  call answers.localConfig fun h => { h with localConfig := some config }
  call answers.relayMap fun h => { h with relays := networkMapToRelayConfigs map.relays }
  let peers ← ofResult (networkMapToPeerConfigs map.peers)
  call answers.peerMap fun h => { h with peers }

/-- `save_dns_snapshot` -/
def saveDnsSnapshot (answers : Answers) (dnsRecords : List DnsRecord) : SyncM Unit :=
  call answers.save fun h => { h with dnsSnapshot := dnsRecords }

/-- What `apply_network_map_if_changed` does with a map of another version. -/
def applyNetworkMap (answers : Answers) (state : AgentState) (map : NetworkMapResponse) : SyncM Unit := do
  Sync.applyNetworkMapToBackend answers state map
  saveDnsSnapshot answers map.dnsRecords
  modify fun h => { h with
    dnsRecords := map.dnsRecords
    lastAppliedNetworkMapVersion := some map.networkMapVersion
    lastApplied := some map }

/-- `apply_network_map_if_changed` -/
def applyNetworkMapIfChanged (answers : Answers) (state : AgentState) (map : NetworkMapResponse) :
    SyncM Unit := do
  if (← get).lastAppliedNetworkMapVersion = some map.networkMapVersion then return ()
  applyNetworkMap answers state map

/-- Rounds one after another, whatever becomes of each. -/
def applyEach (state : AgentState) : List (Answers × NetworkMapResponse) → Handed → Handed
  | [], handed => handed
  | (answers, map) :: rounds, handed =>
      applyEach state rounds (applyNetworkMapIfChanged answers state map handed).2

-- ============================================================================
-- The map that the kept version stands for
-- ============================================================================

/-- Programs that leave the version and its map alone. -/
def KeepsApplied {α : Type} (x : SyncM α) : Prop :=
  ∀ h, (x h).2.lastAppliedNetworkMapVersion = h.lastAppliedNetworkMapVersion ∧
    (x h).2.lastApplied = h.lastApplied

theorem bind_run {α β : Type} (x : SyncM α) (f : α → SyncM β) (h : Handed) :
    (x >>= f) h = match x h with
      | (.ok a, h') => f a h'
      | (.error error, h') => (.error error, h') := by
  show ExceptT.bindCont f (x h).1 (x h).2 = _
  rcases x h with ⟨_ | _, h'⟩ <;> rfl

theorem KeepsApplied.bind {α β : Type} {x : SyncM α} {f : α → SyncM β} (hx : KeepsApplied x)
    (hf : ∀ a, KeepsApplied (f a)) : KeepsApplied (x >>= f) := by
  intro h
  have hkept := hx h
  rw [bind_run]
  split
  · rename_i a h' hxh
    rw [hxh] at hkept
    have hkept' := hf a h'
    exact ⟨hkept'.1.trans hkept.1, hkept'.2.trans hkept.2⟩
  · rename_i e h' hxh
    rw [hxh] at hkept
    exact hkept

theorem keepsApplied_ofResult {α : Type} (result : Except String α) : KeepsApplied (ofResult result) := by
  cases result <;> exact fun _ => ⟨rfl, rfl⟩

theorem keepsApplied_call (answer : Except String Unit) {f : Handed → Handed}
    (hf : ∀ h, (f h).lastAppliedNetworkMapVersion = h.lastAppliedNetworkMapVersion ∧
      (f h).lastApplied = h.lastApplied) : KeepsApplied (call answer f) :=
  (keepsApplied_ofResult answer).bind fun _ => hf

theorem keepsApplied_applyNetworkMapToBackend (answers : Answers) (state : AgentState) (map : NetworkMapResponse) :
    KeepsApplied (Sync.applyNetworkMapToBackend answers state map) := by
  refine (keepsApplied_ofResult _).bind fun config => ?_
  refine KeepsApplied.bind (keepsApplied_call _ ?_) fun _ => ?_
  · exact fun _ => ⟨rfl, rfl⟩
  refine KeepsApplied.bind (keepsApplied_call _ ?_) fun _ => ?_
  · exact fun _ => ⟨rfl, rfl⟩
  refine (keepsApplied_ofResult _).bind fun peers => keepsApplied_call _ ?_
  exact fun _ => ⟨rfl, rfl⟩

theorem keepsApplied_saveDnsSnapshot (answers : Answers) (dnsRecords : List DnsRecord) :
    KeepsApplied (saveDnsSnapshot answers dnsRecords) := by
  apply keepsApplied_call
  exact fun _ => ⟨rfl, rfl⟩

/-- The kept version is that of `lastApplied`, and `lastApplied` is one of `maps`. -/
structure Handed.Kept (maps : NetworkMapResponse → Prop) (h : Handed) : Prop where
  version : h.lastAppliedNetworkMapVersion = h.lastApplied.map (·.networkMapVersion)
  given : ∀ map, h.lastApplied = some map → maps map

theorem kept_none (maps : NetworkMapResponse → Prop) : Handed.none.Kept maps :=
  ⟨rfl, fun _ h => by cases h⟩

variable {maps : NetworkMapResponse → Prop} {h : Handed} {map : NetworkMapResponse}

theorem Handed.Kept.congr {h' : Handed} (hkept : h.Kept maps)
    (heq : h'.lastAppliedNetworkMapVersion = h.lastAppliedNetworkMapVersion ∧
      h'.lastApplied = h.lastApplied) : h'.Kept maps := by
  refine ⟨?_, ?_⟩
  · rw [heq.1, heq.2]
    exact hkept.version
  · rw [heq.2]
    exact hkept.given

theorem Handed.Kept.applyNetworkMap (hkept : h.Kept maps) (answers : Answers) (state : AgentState)
    (hmap : maps map) : (applyNetworkMap answers state map h).2.Kept maps := by
  have hhanded := keepsApplied_applyNetworkMapToBackend answers state map h
  unfold Agent.applyNetworkMap
  rw [bind_run]
  split
  · rename_i h₁ hrun₁
    rw [hrun₁] at hhanded
    have hsaved := keepsApplied_saveDnsSnapshot answers map.dnsRecords h₁
    rw [bind_run]
    split
    · exact ⟨rfl, fun map' heq => Option.some.inj heq ▸ hmap⟩
    · rename_i h₂ hrun₂
      rw [hrun₂] at hsaved
      exact (hkept.congr hhanded).congr hsaved
  · rename_i h₁ hrun₁
    rw [hrun₁] at hhanded
    exact hkept.congr hhanded

theorem Handed.Kept.applyNetworkMapIfChanged (hkept : h.Kept maps) (answers : Answers)
    (state : AgentState) (hmap : maps map) :
    (applyNetworkMapIfChanged answers state map h).2.Kept maps := by
  unfold Agent.applyNetworkMapIfChanged
  rw [bind_run]
  show Handed.Kept maps (ite (h.lastAppliedNetworkMapVersion = some map.networkMapVersion) (pure ())
    (Agent.applyNetworkMap answers state map) h).2
  split
  · exact hkept
  · exact hkept.applyNetworkMap answers state hmap

theorem Handed.Kept.applyEach (hkept : h.Kept maps) (state : AgentState)
    {rounds : List (Answers × NetworkMapResponse)} (hmaps : ∀ round ∈ rounds, maps round.2) :
    (applyEach state rounds h).Kept maps := by
  induction rounds generalizing h with
  | nil => exact hkept
  | cons round rounds ih =>
      refine ih (hkept.applyNetworkMapIfChanged round.1 state (hmaps round List.mem_cons_self)) ?_
      exact fun round' hround => hmaps round' (List.mem_cons_of_mem _ hround)

/-- An agent that skips a map holds one of the same version, the last that it applied. -/
theorem skipped_of_version (maps : NetworkMapResponse → Prop) {state : AgentState} {rounds : List (Answers × NetworkMapResponse)}
    (hmaps : ∀ round ∈ rounds, maps round.2)
    (hskip : (applyEach state rounds .none).lastAppliedNetworkMapVersion = some map.networkMapVersion) :
    ∃ applied, (applyEach state rounds .none).lastApplied = some applied ∧ maps applied ∧
      applied.networkMapVersion = map.networkMapVersion := by
  have hkept := (kept_none maps).applyEach state hmaps
  rw [hkept.version, Option.map_eq_some_iff] at hskip
  obtain ⟨applied, happlied, hversion⟩ := hskip
  exact ⟨applied, happlied, hkept.given applied happlied, hversion⟩

end TfScale.Agent
