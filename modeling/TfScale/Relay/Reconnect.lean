/-
  TfScale.Relay.Reconnect

  Which session the relay's map holds for a device.

  A device that reconnects registers a second session under its id.  The map
  should then hold the newest session until that one ends.  `unregister` removes
  the entry of a device whoever put it there, so the property is lost exactly at
  the steps where a session that was superseded leaves while the newest one is
  still there, and `newest_held_iff` says so for whole runs.
-/

import TfScale.Relay.Trace

namespace TfScale.Relay

namespace RelayState

/-- The last session that registered the device. -/
def newest (st : RelayState) (deviceId : String) : Option SessionId :=
  (st.registrations.find? fun r => r.1 = deviceId).map (·.2)

/-- Every device whose newest session has not returned is mapped to it. -/
def NewestHeld (st : RelayState) : Prop :=
  ∀ deviceId s, st.newest deviceId = some s → ¬ st.Ended s →
    st.sessions.lookup deviceId = some s

/-- The step is not the `unregister` of a session whose device has a newer session
    that has not returned. -/
def SparesNewer (st : RelayState) : Event → Prop
  | .unregister s => ∀ deviceId, st.phase s = some (.leaving deviceId) →
      ∀ t, st.newest deviceId = some t → t ≠ s → st.Ended t
  | _ => True

-- ============================================================================
-- What a step does to the map and to the ended tasks
-- ============================================================================

/-- `st'` has the map and the registrations of `st`, and no task came back. -/
structure KeepsMap (st st' : RelayState) : Prop where
  sessions : st'.sessions = st.sessions
  registrations : st'.registrations = st.registrations
  ended : ∀ t, st.Ended t → st'.Ended t

/-- No task comes back, so the map and the registrations are all there is to check. -/
theorem keepsMap_of_step {st st' : RelayState} {event : Event} (h : st.step event = some st')
    (hsessions : st'.sessions = st.sessions) (hregistrations : st'.registrations = st.registrations) :
    KeepsMap st st' where
  sessions := hsessions
  registrations := hregistrations
  ended := fun _ hended => ended_of_moves (moves_of_step h) hended

theorem writeMessage_maps (st : RelayState) (s : SessionId) (message : RelayMessage) (writeOk : Bool)
    (next : Phase) : (st.writeMessage s message writeOk next).sessions = st.sessions ∧
      (st.writeMessage s message writeOk next).registrations = st.registrations := by
  unfold writeMessage
  split
  · exact ⟨rfl, rfl⟩
  · exact ⟨rfl, rfl⟩

theorem onFirstLine_maps (st : RelayState) (s : SessionId) (writeOk : Bool) (input : Inbound) :
    (st.onFirstLine s writeOk input).sessions = st.sessions ∧
      (st.onFirstLine s writeOk input).registrations = st.registrations := by
  unfold onFirstLine
  split
  · exact ⟨rfl, rfl⟩
  · exact ⟨rfl, rfl⟩
  · exact ⟨rfl, rfl⟩
  · exact ⟨rfl, rfl⟩
  · exact writeMessage_maps st s _ writeOk _

theorem onInbound_maps (st : RelayState) (s : SessionId) (deviceId : String) (writeOk : Bool)
    (input : Inbound) : (st.onInbound s deviceId writeOk input).sessions = st.sessions ∧
      (st.onInbound s deviceId writeOk input).registrations = st.registrations := by
  unfold onInbound
  split
  · exact ⟨rfl, rfl⟩
  · exact ⟨rfl, rfl⟩
  · exact ⟨rfl, rfl⟩
  · exact ⟨rfl, rfl⟩
  · exact writeMessage_maps st s _ writeOk _
  · exact ⟨rfl, rfl⟩

theorem sendFrame_maps (st : RelayState) (frame : RelayMessage) (sender : Option SessionId) :
    (st.sendFrame frame sender).1.sessions = st.sessions ∧
      (st.sendFrame frame sender).1.registrations = st.registrations := by
  unfold sendFrame
  split
  · split
    · exact ⟨rfl, rfl⟩
    · exact ⟨rfl, rfl⟩
  · exact ⟨rfl, rfl⟩

theorem send_maps {st st' : RelayState} {s : SessionId} {writeOk : Bool}
    (h : st.step (.send s writeOk) = some st') :
    st'.sessions = st.sessions ∧ st'.registrations = st.registrations := by
  simp only [step] at h
  split at h
  · rename_i deviceId frame sender hphase
    have hsend := sendFrame_maps st frame sender
    split at h
    · rename_i st₁ hst₁
      rw [hst₁] at hsend
      obtain rfl := Option.some.inj h
      exact hsend
    · rename_i st₁ hst₁
      rw [hst₁] at hsend
      obtain rfl := Option.some.inj h
      have hwrite := writeMessage_maps st₁ s (unknownDestination frame) writeOk (.serving deviceId)
      exact ⟨hwrite.1.trans hsend.1, hwrite.2.trans hsend.2⟩
  · cases h

theorem outbound_maps {st st' : RelayState} {s : SessionId} {writeOk : Bool}
    (h : st.step (.outbound s writeOk) = some st') :
    st'.sessions = st.sessions ∧ st'.registrations = st.registrations := by
  simp only [step] at h
  split at h
  · unfold onOutbound at h
    split at h
    · obtain rfl := Option.some.inj h
      exact writeMessage_maps _ s _ writeOk _
    · split at h
      · cases h
      · obtain rfl := Option.some.inj h
        exact ⟨rfl, rfl⟩
  · cases h

/-- Only `register` and `unregister` touch the map. -/
theorem step_cases {st st' : RelayState} {event : Event} (h : st.step event = some st') :
    (∃ s deviceId, event = .register s ∧ st.phase s = some (.registering deviceId) ∧
      st' = (st.register deviceId s).setPhase s (.serving deviceId)) ∨
    (∃ s deviceId, event = .unregister s ∧ st.phase s = some (.leaving deviceId) ∧
      st' = (st.unregister deviceId).setPhase s .ended) ∨
    KeepsMap st st' := by
  have hkeep := keepsMap_of_step h
  cases event with
  | accept =>
      obtain rfl := Option.some.inj h
      exact Or.inr (Or.inr (hkeep rfl rfl))
  | firstLine s input writeOk =>
      simp only [step] at h
      split at h
      · obtain rfl := Option.some.inj h
        obtain ⟨hsessions, hregistrations⟩ := onFirstLine_maps st s writeOk input
        exact Or.inr (Or.inr (hkeep hsessions hregistrations))
      · cases h
  | register s =>
      simp only [step] at h
      split at h
      · rename_i deviceId hphase
        exact Or.inl ⟨s, deviceId, rfl, hphase, (Option.some.inj h).symm⟩
      · cases h
  | inbound s input writeOk =>
      simp only [step] at h
      split at h
      · rename_i deviceId hphase
        obtain rfl := Option.some.inj h
        obtain ⟨hsessions, hregistrations⟩ := onInbound_maps st s deviceId writeOk input
        exact Or.inr (Or.inr (hkeep hsessions hregistrations))
      · cases h
  | lookup s =>
      simp only [step] at h
      split at h
      · obtain rfl := Option.some.inj h
        exact Or.inr (Or.inr (hkeep rfl rfl))
      · cases h
  | send s writeOk =>
      obtain ⟨hsessions, hregistrations⟩ := send_maps h
      exact Or.inr (Or.inr (hkeep hsessions hregistrations))
  | outbound s writeOk =>
      obtain ⟨hsessions, hregistrations⟩ := outbound_maps h
      exact Or.inr (Or.inr (hkeep hsessions hregistrations))
  | unregister s =>
      simp only [step] at h
      split at h
      · rename_i deviceId hphase
        exact Or.inr (Or.inl ⟨s, deviceId, rfl, hphase, (Option.some.inj h).symm⟩)
      · cases h

-- ============================================================================
-- The newest session of a device
-- ============================================================================

theorem newestHeld_initial : initial.NewestHeld := by
  intro deviceId s hnewest
  cases hnewest

theorem newest_register (st : RelayState) (deviceId deviceId' : String) (s : SessionId) :
    (st.register deviceId s).newest deviceId' =
      if deviceId = deviceId' then some s else st.newest deviceId' := by
  simp only [newest, register, List.find?_cons]
  by_cases h : deviceId = deviceId'
  · simp [h]
  · simp [h]

/-- `register` puts the new session under its device. -/
theorem NewestHeld.register {st : RelayState} (h : st.NewestHeld) {s : SessionId}
    {deviceId : String} (hphase : st.phase s = some (.registering deviceId)) :
    ((st.register deviceId s).setPhase s (.serving deviceId)).NewestHeld := by
  intro deviceId' t hnewest hlive
  show (st.sessions.insert deviceId s).lookup deviceId' = some t
  change (st.register deviceId s).newest deviceId' = some t at hnewest
  rw [newest_register] at hnewest
  rw [HashMap.lookup_insert_eq]
  by_cases hd : deviceId = deviceId'
  · rw [if_pos hd] at hnewest
    rw [if_pos hd.symm]
    exact hnewest
  · rw [if_neg hd] at hnewest
    rw [if_neg (Ne.symm hd)]
    refine h deviceId' t hnewest fun hended => hlive ?_
    exact ended_of_moves (.register hphase) hended

/-- After `unregister` and the return of `s`, the other tasks are where they were. -/
theorem ended_unregister_iff {st : RelayState} {s t : SessionId} (deviceId : String) (hne : t ≠ s) :
    ((st.unregister deviceId).setPhase s .ended).Ended t ↔ st.Ended t := by
  rw [Ended, setPhase_eq_update, phase_update_ne (Ne.symm hne)]
  rfl

/-- `unregister` is harmless when no newer session of the device is there. -/
theorem NewestHeld.unregister {st : RelayState} (h : st.NewestHeld) {s : SessionId}
    {deviceId : String} (hphase : st.phase s = some (.leaving deviceId))
    (hspare : ∀ t, st.newest deviceId = some t → t ≠ s → st.Ended t) :
    ((st.unregister deviceId).setPhase s .ended).NewestHeld := by
  intro deviceId' t hnewest hlive
  have hne : t ≠ s := by
    rintro rfl
    apply hlive
    exact phase_update_self (r := st.unregister deviceId) hphase fun _ => rfl
  rw [ended_unregister_iff deviceId hne] at hlive
  show (st.sessions.erase deviceId).lookup deviceId' = some t
  rw [HashMap.lookup_erase_eq]
  by_cases hd : deviceId' = deviceId
  · subst hd
    exact absurd (hspare t hnewest hne) hlive
  · rw [if_neg hd]
    exact h deviceId' t hnewest hlive

theorem NewestHeld.step {st st' : RelayState} {event : Event} (h : st.NewestHeld)
    (hspare : st.SparesNewer event) (hstep : st.step event = some st') : st'.NewestHeld := by
  rcases step_cases hstep with ⟨s, deviceId, rfl, hphase, rfl⟩ | ⟨s, deviceId, rfl, hphase, rfl⟩ | hkeep
  · exact h.register hphase
  · exact h.unregister hphase (hspare deviceId hphase)
  · intro deviceId t hnewest hlive
    rw [hkeep.sessions]
    refine h deviceId t ?_ fun hended => hlive (hkeep.ended t hended)
    rw [newest, ← hkeep.registrations]
    exact hnewest

/-- A step that does not spare the newer session removes its entry. -/
theorem not_newestHeld_of_not_spares {st : RelayState} {event : Event}
    (hspare : ¬ st.SparesNewer event) :
    ∃ st', st.step event = some st' ∧ ¬ st'.NewestHeld := by
  cases event with
  | unregister s =>
      simp only [SparesNewer, not_forall] at hspare
      obtain ⟨deviceId, hphase, t, hnewest, hne, hlive⟩ := hspare
      refine ⟨(st.unregister deviceId).setPhase s .ended, ?_, fun hheld => ?_⟩
      · simp only [RelayState.step, hphase]
      · rw [← ended_unregister_iff deviceId hne] at hlive
        have hlookup : (st.sessions.erase deviceId).lookup deviceId = some t :=
          hheld deviceId t hnewest hlive
        rw [HashMap.lookup_erase_eq, if_pos rfl] at hlookup
        cases hlookup
  | accept => exact absurd trivial hspare
  | firstLine s input writeOk => exact absurd trivial hspare
  | register s => exact absurd trivial hspare
  | inbound s input writeOk => exact absurd trivial hspare
  | lookup s => exact absurd trivial hspare
  | send s writeOk => exact absurd trivial hspare
  | outbound s writeOk => exact absurd trivial hspare

/-- **Reconnects.**  The newest session of every device is held throughout a run
    exactly when no superseded session unregisters while the newest session of its
    device is still running. -/
theorem newest_held_iff (events : List Event) :
    Throughout step NewestHeld initial events ↔ Along step SparesNewer initial events :=
  throughout_iff_along (fun _ h => h) (fun _ _ _ h hspare hstep => h.step hspare hstep)
    (fun _ _ _ hspare => not_newestHeld_of_not_spares hspare) newestHeld_initial events

/-- A device connects twice; its first session sees its sender replaced, leaves
    the loop and removes the entry of the second one. -/
def reconnectEvents : List Event :=
  [.accept, .firstLine 0 (.line (some (.register "dev_a" "key"))) true, .register 0,
   .accept, .firstLine 1 (.line (some (.register "dev_a" "key"))) true, .register 1,
   .outbound 0 true, .unregister 0]

theorem reconnect_lost :
    ∃ st, run step initial reconnectEvents = some st ∧ st.newest "dev_a" = some 1 ∧
      ¬ st.Ended 1 ∧ st.sessions.lookup "dev_a" = none ∧ ¬ st.NewestHeld := by
  have hrun : (run step initial reconnectEvents).any (fun st => decide
      (st.newest "dev_a" = some 1 ∧ ¬ st.Ended 1 ∧ st.sessions.lookup "dev_a" = none)) = true := by
    decide +kernel
  obtain ⟨st, hst, hfacts⟩ := (Option.any_eq_true _ _).mp hrun
  obtain ⟨hnewest, hlive, hgone⟩ := of_decide_eq_true hfacts
  refine ⟨st, hst, hnewest, hlive, hgone, fun hheld => ?_⟩
  rw [hheld "dev_a" 1 hnewest hlive] at hgone
  cases hgone

end RelayState

end TfScale.Relay
