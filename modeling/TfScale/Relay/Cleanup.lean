/-
  TfScale.Relay.Cleanup

  Which ended sessions does the relay's map still hold?

  `handle_session` removes its entry after the loop, and only there: a read error, a
  line that does not decode and a failed write leave the function through `?`, past
  the `unregister`.  When such a session is the one that the map holds for its device,
  the entry stays, and no later step removes it but a registration of the same device.
  `ended_unregistered_iff` says that nothing else leaves an entry behind.
-/

import TfScale.Relay.Reconnect

namespace TfScale.Relay

namespace RelayState

variable {st st' : RelayState} {s t : SessionId} {deviceId : String} {event : Event}

/-- Every session that has returned, and after which no session registered its device,
    is out of the map. -/
def EndedUnregistered (st : RelayState) : Prop :=
  ∀ deviceId s, st.newest deviceId = some s → st.Ended s → st.sessions.lookup deviceId = none

/-- The step is one in which the registered session returns an error: its read fails
    or gives a line that does not decode, or a line cannot be written to it. -/
def ErrorExit (st : RelayState) (s : SessionId) (deviceId : String) : Event → Prop
  | .inbound s' input writeOk =>
      s' = s ∧ st.phase s = some (.serving deviceId) ∧
        (input = .failed ∨ input = .line none ∨
          (∃ device key, input = .line (some (.register device key))) ∧ writeOk = false)
  | .send s' writeOk =>
      s' = s ∧ writeOk = false ∧ ∃ frame sender,
        st.phase s = some (.sending deviceId frame sender) ∧ st.receiver sender = none
  | .outbound s' writeOk =>
      s' = s ∧ writeOk = false ∧ ∃ message rest written,
        st.tasks[s]? = some ⟨.serving deviceId, message :: rest, written⟩
  | _ => False

/-- No session returns an error in this step while the map holds it. -/
def CleanExit (st : RelayState) (event : Event) : Prop :=
  ∀ s deviceId, ErrorExit st s deviceId event → st.sessions.lookup deviceId ≠ some s

-- ============================================================================
-- How a session ends
-- ============================================================================

/-- An update of one task ends no other one. -/
theorem ended_update {f : Session → Session} (hended : (st.update s f).Ended t)
    (hlive : ¬ st.Ended t) : t = s ∧ ∃ task, st.tasks[s]? = some task ∧ (f task).phase = .ended := by
  rw [Ended] at hended
  by_cases hts : s = t
  · subst hts
    rw [phase, task_update, if_pos rfl, Option.map_map] at hended
    obtain ⟨task, htask, hnext⟩ := Option.map_eq_some_iff.mp hended
    exact ⟨rfl, task, htask, hnext⟩
  · rw [phase_update_ne hts] at hended
    exact absurd hended hlive

/-- An update that does not move the task ends none. -/
theorem live_update_same {f : Session → Session} (hlive : ¬ st.Ended t)
    (hf : ∀ task, (f task).phase = task.phase) : ¬ (st.update s f).Ended t := by
  rwa [Ended, phase_update_same hf]

theorem ended_setPhase (st : RelayState) {next : Phase} (hended : (st.setPhase s next).Ended t)
    (hlive : ¬ st.Ended t) : t = s ∧ next = .ended := by
  obtain ⟨hts, _, -, hnext⟩ := ended_update hended hlive
  exact ⟨hts, hnext⟩

theorem ended_writeMessage {message : RelayMessage} {writeOk : Bool} {next : Phase}
    (hended : (st.writeMessage s message writeOk next).Ended t) (hlive : ¬ st.Ended t) :
    t = s ∧ (next = .ended ∨ writeOk = false) := by
  unfold writeMessage at hended
  cases writeOk with
  | false => exact ⟨(ended_setPhase _ hended hlive).1, Or.inr rfl⟩
  | true =>
      obtain ⟨hts, _, -, hnext⟩ := ended_update hended hlive
      exact ⟨hts, Or.inl hnext⟩

/-- Before the first line has been answered there is nothing to unregister. -/
theorem ended_onFirstLine {input : Inbound} {writeOk : Bool}
    (hended : (st.onFirstLine s writeOk input).Ended t) (hlive : ¬ st.Ended t) : t = s := by
  unfold onFirstLine at hended
  split at hended
  · exact (ended_setPhase _ hended hlive).1
  · exact (ended_setPhase _ hended hlive).1
  · exact (ended_setPhase _ hended hlive).1
  · exact (ended_setPhase _ hended hlive).1
  · exact (ended_writeMessage hended hlive).1

theorem ended_onInbound {input : Inbound} {writeOk : Bool}
    (hphase : st.phase s = some (.serving deviceId))
    (hended : (st.onInbound s deviceId writeOk input).Ended t) (hlive : ¬ st.Ended t) :
    ErrorExit st t deviceId (.inbound s input writeOk) := by
  unfold onInbound at hended
  split at hended
  · exact absurd (ended_setPhase _ hended hlive).2 (by simp)
  · obtain ⟨rfl, -⟩ := ended_setPhase _ hended hlive
    exact ⟨rfl, hphase, Or.inl rfl⟩
  · obtain ⟨rfl, -⟩ := ended_setPhase _ hended hlive
    exact ⟨rfl, hphase, Or.inr (Or.inl rfl)⟩
  · exact absurd (ended_setPhase _ hended hlive).2 (by simp)
  · rename_i device key
    obtain ⟨rfl, hwrite⟩ := ended_writeMessage hended hlive
    exact ⟨rfl, hphase, Or.inr (Or.inr ⟨⟨device, key, rfl⟩, hwrite.resolve_left (by simp)⟩)⟩
  · exact absurd hended hlive

theorem ended_send {writeOk : Bool} (h : st.step (.send s writeOk) = some st')
    (hended : st'.Ended t) (hlive : ¬ st.Ended t) :
    ∃ deviceId, ErrorExit st t deviceId (.send s writeOk) := by
  simp only [step] at h
  split at h
  swap
  · cases h
  rename_i deviceId frame sender hphase
  -- a frame without receiver is answered with an error line
  have hdropped : ∀ sender', sender = sender' → st.receiver sender' = none →
      ({ st with droppedFrames := st.droppedFrames + 1 }.writeMessage s (unknownDestination frame)
        writeOk (.serving deviceId)).Ended t → ErrorExit st t deviceId (.send s writeOk) := by
    rintro _ rfl hnone hended
    obtain ⟨rfl, hwrite⟩ := ended_writeMessage hended hlive
    exact ⟨rfl, hwrite.resolve_left (by simp), frame, sender, hphase, hnone⟩
  cases sender with
  | none =>
      obtain rfl := Option.some.inj h
      exact ⟨deviceId, hdropped none rfl rfl hended⟩
  | some target =>
      by_cases hgone : st.phase target = some .ended
      · have hnone : st.receiver (some target) = none := by
          simp [receiver, hgone]
        simp only [sendFrame, if_pos hgone] at h
        obtain rfl := Option.some.inj h
        exact ⟨deviceId, hdropped (some target) rfl hnone hended⟩
      · simp only [sendFrame, if_neg hgone] at h
        obtain rfl := Option.some.inj h
        have hbefore : ¬ (st.update target fun t => { t with queue := t.queue ++ [frame] }).Ended t :=
          live_update_same hlive fun _ => rfl
        exact absurd (ended_setPhase _ hended hbefore).2 (by simp)

theorem ended_outbound {writeOk : Bool} (h : st.step (.outbound s writeOk) = some st')
    (hended : st'.Ended t) (hlive : ¬ st.Ended t) :
    ∃ deviceId, ErrorExit st t deviceId (.outbound s writeOk) := by
  simp only [step] at h
  split at h
  swap
  · cases h
  rename_i deviceId queue written htask
  cases queue with
  | nil =>
      simp only [onOutbound] at h
      split at h
      · cases h
      · obtain rfl := Option.some.inj h
        exact absurd (ended_setPhase _ hended hlive).2 (by simp)
  | cons message rest =>
      simp only [onOutbound] at h
      obtain rfl := Option.some.inj h
      have hbefore : ¬ (st.update s fun t => { t with queue := rest }).Ended t :=
        live_update_same hlive fun _ => rfl
      obtain ⟨rfl, hwrite⟩ := ended_writeMessage hended hbefore
      exact ⟨deviceId, rfl, hwrite.resolve_left (by simp), message, rest, written, htask⟩

/-- A session ends before it is registered, by `unregister`, or with an error. -/
theorem ended_of_step (h : st.step event = some st') (hended : st'.Ended t) (hlive : ¬ st.Ended t) :
    st.phase t = some .connected ∨
    (∃ deviceId, event = .unregister t ∧ st.phase t = some (.leaving deviceId)) ∨
    ∃ deviceId, ErrorExit st t deviceId event := by
  cases event with
  | accept =>
      obtain rfl := Option.some.inj h
      rcases (accept_views st t).1 with hsame | ⟨-, hnew⟩
      · exact absurd (hsame.symm.trans hended) hlive
      · cases hnew.symm.trans hended
  | firstLine s input writeOk =>
      simp only [step] at h
      split at h
      · rename_i hphase
        obtain rfl := Option.some.inj h
        obtain rfl := ended_onFirstLine hended hlive
        exact Or.inl hphase
      · cases h
  | register s =>
      simp only [step] at h
      split at h
      · rename_i deviceId hphase
        obtain rfl := Option.some.inj h
        exact absurd (ended_setPhase (st.register deviceId s) hended hlive).2 (by simp)
      · cases h
  | inbound s input writeOk =>
      simp only [step] at h
      split at h
      · rename_i deviceId hphase
        obtain rfl := Option.some.inj h
        exact Or.inr (Or.inr ⟨deviceId, ended_onInbound hphase hended hlive⟩)
      · cases h
  | lookup s =>
      simp only [step] at h
      split at h
      · obtain rfl := Option.some.inj h
        exact absurd (ended_setPhase _ hended hlive).2 (by simp)
      · cases h
  | send s writeOk => exact Or.inr (Or.inr (ended_send h hended hlive))
  | outbound s writeOk => exact Or.inr (Or.inr (ended_outbound h hended hlive))
  | unregister s =>
      simp only [step] at h
      split at h
      · rename_i deviceId hphase
        obtain rfl := Option.some.inj h
        obtain ⟨rfl, -⟩ := ended_setPhase (st.unregister deviceId) hended hlive
        exact Or.inr (Or.inl ⟨deviceId, rfl, hphase⟩)
      · cases h

-- ============================================================================
-- What the steps keep
-- ============================================================================

/-- The map holds the last session of every device that it holds, and no ended one. -/
structure Cleaned (st : RelayState) : Prop where
  registered : Registered st
  latest : ∀ deviceId s, st.sessions.lookup deviceId = some s → st.newest deviceId = some s
  unregistered : st.EndedUnregistered

theorem cleaned_initial : initial.Cleaned where
  registered := registered_initial
  latest := fun _ _ h => by cases h
  unregistered := fun _ _ h => by cases h

theorem mem_of_newest (h : st.newest deviceId = some s) : (deviceId, s) ∈ st.registrations := by
  obtain ⟨⟨d, s'⟩, hfind, rfl⟩ := Option.map_eq_some_iff.mp h
  obtain rfl : d = deviceId := by simpa using List.find?_some hfind
  exact List.mem_of_find?_eq_some hfind

/-- A session that has registered a device is not at its first line, and not on its
    way out of another device. -/
theorem Cleaned.registeredAs (h : st.Cleaned) (hnewest : st.newest deviceId = some s) :
    RegisteredAs deviceId (st.phase s) :=
  h.registered.phases _ _ (mem_of_newest hnewest)

/-- A session that ends while the map does not hold it leaves no entry of its device. -/
theorem Cleaned.lookup_eq_none (h : st.Cleaned) (hnewest : st.newest deviceId = some s)
    (hnot : st.sessions.lookup deviceId ≠ some s) : st.sessions.lookup deviceId = none := by
  cases hlookup : st.sessions.lookup deviceId with
  | none => rfl
  | some t =>
      have hsame : some s = some t := hnewest.symm.trans (h.latest _ _ hlookup)
      exact absurd (hlookup.trans hsame.symm) hnot

theorem ErrorExit.registeredAs (h : ErrorExit st s deviceId event) {device : String}
    (hphase : RegisteredAs device (st.phase s)) : deviceId = device := by
  cases event with
  | inbound s' input writeOk =>
      obtain ⟨-, hserving, -⟩ := h
      rw [hserving] at hphase
      exact hphase
  | send s' writeOk =>
      obtain ⟨-, -, frame, sender, hsending, -⟩ := h
      rw [hsending] at hphase
      exact hphase
  | outbound s' writeOk =>
      obtain ⟨-, -, message, rest, written, htask⟩ := h
      rw [phase_of_task htask] at hphase
      exact hphase
  | accept => exact h.elim
  | firstLine s' input writeOk => exact h.elim
  | register s' => exact h.elim
  | lookup s' => exact h.elim
  | unregister s' => exact h.elim

theorem Cleaned.register (h : st.Cleaned)
    (hphase : st.phase s = some (.registering deviceId))
    (hregistered : Registered ((st.register deviceId s).setPhase s (.serving deviceId))) :
    ((st.register deviceId s).setPhase s (.serving deviceId)).Cleaned where
  registered := hregistered
  latest := by
    intro d t hlookup
    change (st.sessions.insert deviceId s).lookup d = some t at hlookup
    show (st.register deviceId s).newest d = some t
    rw [HashMap.lookup_insert_eq] at hlookup
    rw [newest_register]
    by_cases hd : d = deviceId
    · rw [if_pos hd] at hlookup
      rw [if_pos hd.symm]
      exact hlookup
    · rw [if_neg hd] at hlookup
      rw [if_neg (Ne.symm hd)]
      exact h.latest d t hlookup
  unregistered := by
    intro d t hnewest hended
    change (st.register deviceId s).newest d = some t at hnewest
    show (st.sessions.insert deviceId s).lookup d = none
    rw [newest_register] at hnewest
    have hlive : ∀ u, ¬ st.Ended u → ¬ ((st.register deviceId s).setPhase s (.serving deviceId)).Ended u :=
      fun u hu h => absurd (ended_setPhase (st.register deviceId s) h hu).2 (by simp)
    by_cases hd : deviceId = d
    · -- the session that registers is running
      rw [if_pos hd] at hnewest
      obtain rfl := Option.some.inj hnewest
      have hrunning : ¬ st.Ended s := by
        rw [Ended, hphase]
        simp
      exact absurd hended (hlive s hrunning)
    · rw [if_neg hd] at hnewest
      rw [HashMap.lookup_insert_eq, if_neg (Ne.symm hd)]
      exact h.unregistered d t hnewest (not_not.mp fun hu => hlive t hu hended)

theorem Cleaned.unregister (h : st.Cleaned)
    (hphase : st.phase s = some (.leaving deviceId))
    (hregistered : Registered ((st.unregister deviceId).setPhase s .ended)) :
    ((st.unregister deviceId).setPhase s .ended).Cleaned where
  registered := hregistered
  latest := by
    intro d t hlookup
    change (st.sessions.erase deviceId).lookup d = some t at hlookup
    rw [HashMap.lookup_erase_eq] at hlookup
    split at hlookup
    · cases hlookup
    · exact h.latest d t hlookup
  unregistered := by
    intro d t hnewest hended
    show (st.sessions.erase deviceId).lookup d = none
    rw [HashMap.lookup_erase_eq]
    by_cases hd : d = deviceId
    · rw [if_pos hd]
    · rw [if_neg hd]
      have hnewest' : st.newest d = some t := hnewest
      refine h.unregistered d t hnewest' (not_not.mp fun hlive => hd ?_)
      -- the session that just ended is on its way out of its own device
      obtain ⟨rfl, -⟩ := ended_setPhase (st.unregister deviceId) hended hlive
      have hsame := h.registeredAs hnewest'
      rw [hphase] at hsame
      exact hsame.symm

theorem Cleaned.step (h : st.Cleaned) (hclean : st.CleanExit event)
    (hstep : st.step event = some st') : st'.Cleaned := by
  have hregistered := h.registered.step (moves_of_step hstep)
  have hends := fun t => ended_of_step (t := t) hstep
  rcases step_cases hstep with ⟨s, deviceId, rfl, hphase, rfl⟩ | ⟨s, deviceId, rfl, hphase, rfl⟩ | hkeep
  · exact h.register hphase hregistered
  · exact h.unregister hphase hregistered
  · have hnewest : ∀ d, st'.newest d = st.newest d := by
      intro d
      rw [newest, newest, hkeep.registrations]
    refine ⟨hregistered, fun d t hlookup => ?_, fun d t hlast hended => ?_⟩
    · rw [hkeep.sessions] at hlookup
      rw [hnewest]
      exact h.latest d t hlookup
    · rw [hnewest] at hlast
      rw [hkeep.sessions]
      by_cases hlive : st.Ended t
      · exact h.unregistered d t hlast hlive
      · have hphase := h.registeredAs hlast
        rcases hends t hended hlive with hconnected | ⟨deviceId, rfl, hleaving⟩ | ⟨deviceId, herror⟩
        · rw [hconnected] at hphase
          exact hphase.elim
        · -- the map is the same after this `unregister`, so it had no entry to remove
          rw [hleaving] at hphase
          obtain rfl : deviceId = d := hphase
          simp only [RelayState.step, hleaving] at hstep
          obtain rfl := Option.some.inj hstep
          have hsame : st.sessions.erase deviceId = st.sessions := hkeep.sessions
          rw [← hsame, HashMap.lookup_erase_eq, if_pos rfl]
        · obtain rfl := herror.registeredAs hphase
          exact h.lookup_eq_none hlast (hclean t deviceId herror)

-- ============================================================================
-- Whole runs
-- ============================================================================

/-- A session that returns an error does so without touching the map. -/
theorem ErrorExit.step (h : ErrorExit st s deviceId event) :
    ∃ st', st.step event = some st' ∧ st'.Ended s ∧ st'.sessions = st.sessions ∧
      st'.registrations = st.registrations := by
  cases event with
  | inbound s' input writeOk =>
      obtain ⟨rfl, hphase, hinput⟩ := h
      obtain ⟨hsessions, hregistrations⟩ := onInbound_maps st s' deviceId writeOk input
      have hsome : st.step (.inbound s' input writeOk) =
          some (st.onInbound s' deviceId writeOk input) := by
        simp only [RelayState.step, hphase]
      have hended : (st.setPhase s' .ended).Ended s' :=
        phase_update_self (r := st) hphase fun _ => rfl
      refine ⟨_, hsome, ?_, hsessions, hregistrations⟩
      rcases hinput with rfl | rfl | ⟨⟨device, key, rfl⟩, rfl⟩
      · exact hended
      · exact hended
      · exact hended
  | send s' writeOk =>
      obtain ⟨rfl, rfl, frame, sender, hphase, hnone⟩ := h
      have hdropped : st.sendFrame frame sender =
          ({ st with droppedFrames := st.droppedFrames + 1 }, false) := by
        cases sender with
        | none => rfl
        | some target =>
            have hgone : st.phase target = some .ended := by
              by_contra hlive
              rw [receiver, Option.filter_some, if_pos (by simpa using hlive)] at hnone
              cases hnone
            rw [sendFrame, if_pos hgone]
      refine ⟨({ st with droppedFrames := st.droppedFrames + 1 }).setPhase s' .ended, ?_, ?_, rfl, rfl⟩
      · simp only [RelayState.step, hphase, hdropped]
        rfl
      · exact phase_update_self (r := { st with droppedFrames := st.droppedFrames + 1 }) hphase
          fun _ => rfl
  | outbound s' writeOk =>
      obtain ⟨rfl, rfl, message, rest, written, htask⟩ := h
      refine ⟨(st.update s' fun t => { t with queue := rest }).setPhase s' .ended, ?_, ?_, rfl, rfl⟩
      · simp only [RelayState.step, htask]
        rfl
      · have hsame : (st.update s' fun t => { t with queue := rest }).phase s' = st.phase s' :=
          phase_update_same fun _ => rfl
        exact phase_update_self (hsame.trans (phase_of_task htask)) fun _ => rfl
  | accept => exact h.elim
  | firstLine s' input writeOk => exact h.elim
  | register s' => exact h.elim
  | lookup s' => exact h.elim
  | unregister s' => exact h.elim

/-- A session that returns an error while the map holds it is left behind there. -/
theorem Cleaned.not_unregistered (h : st.Cleaned) (hexit : ¬ st.CleanExit event) :
    ∃ st', st.step event = some st' ∧ ¬ st'.EndedUnregistered := by
  simp only [CleanExit, not_forall, not_not] at hexit
  obtain ⟨s, deviceId, herror, hlookup⟩ := hexit
  obtain ⟨st', hstep, hended, hsessions, hregistrations⟩ := herror.step
  refine ⟨st', hstep, fun hclean => ?_⟩
  have hnewest : st'.newest deviceId = some s := by
    rw [newest, hregistrations]
    exact h.latest deviceId s hlookup
  have hgone := hclean deviceId s hnewest hended
  rw [hsessions, hlookup] at hgone
  cases hgone

/-- **Cleanup.**  Throughout a run of the relay every ended session without a later
    registration of its device is out of the map exactly when no session returns an
    error while the map holds it for its device. -/
theorem ended_unregistered_iff (events : List Event) :
    Throughout step EndedUnregistered initial events ↔ Along step CleanExit initial events :=
  throughout_iff_along (fun _ h => h.unregistered) (fun _ _ _ h hclean hstep => h.step hclean hstep)
    (fun _ _ h hexit => h.not_unregistered hexit) cleaned_initial events

/-- A device registers and its connection is reset. -/
def resetEvents : List Event :=
  [.accept, .firstLine 0 (.line (some (.register "dev_a" "key"))) true, .register 0,
   .inbound 0 .failed true]

/-- The session has returned, no other has registered the device, and the map still
    holds it. -/
theorem reset_left_registered :
    ∃ st, run step initial resetEvents = some st ∧ st.newest "dev_a" = some 0 ∧ st.Ended 0 ∧
      st.sessions.lookup "dev_a" = some 0 ∧ ¬ st.EndedUnregistered := by
  have hrun : (run step initial resetEvents).any (fun st => decide
      (st.newest "dev_a" = some 0 ∧ st.Ended 0 ∧ st.sessions.lookup "dev_a" = some 0)) = true := by
    decide +kernel
  obtain ⟨st, hst, hfacts⟩ := (Option.any_eq_true _ _).mp hrun
  obtain ⟨hnewest, hended, hheld⟩ := of_decide_eq_true hfacts
  refine ⟨st, hst, hnewest, hended, hheld, fun hclean => ?_⟩
  rw [hclean "dev_a" 0 hnewest hended] at hheld
  cases hheld

end RelayState

end TfScale.Relay
