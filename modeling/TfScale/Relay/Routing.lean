/-
  TfScale.Relay.Routing

  What becomes of the frames that the sessions of the relay read.

  `RoutesExactly` says how the log, the counters and the queues belong together: every
  frame that a session is through with is in the one queue that the lookup found, once,
  or in none, counted either way, and in order.  It holds in every state of every run.
-/

import TfScale.Relay.Trace

namespace TfScale.Relay

-- ============================================================================
-- Frames on their way
-- ============================================================================

open RelayState

/-- The frame that a task has read and not looked up. -/
def Phase.toLookUp : Option Phase → List RelayMessage
  | some (.looking _ frame) => [frame]
  | _ => []

/-- The frame that a task has looked up and not sent, with what it found. -/
def Phase.toSend : Option Phase → List (RelayMessage × Option SessionId)
  | some (.sending _ frame sender) => [(frame, sender)]
  | _ => []

theorem Phase.toLookUp_idles {phase next : Phase} (h : Idles phase next) :
    Phase.toLookUp (some phase) = [] ∧ Phase.toLookUp (some next) = [] ∧
      Phase.toSend (some phase) = [] ∧ Phase.toSend (some next) = [] := by
  cases h <;> exact ⟨rfl, rfl, rfl, rfl⟩

theorem Phase.toLookUp_wrote {deviceId : String} {message : RelayMessage} {next : Phase}
    {lines : List RelayMessage} (h : Wrote deviceId message next lines) :
    Phase.toLookUp (some next) = [] ∧ Phase.toSend (some next) = [] := by
  cases h <;> exact ⟨rfl, rfl⟩

/-- The frames that `t` read are the ones it looked up, in that order, and the one it
    is about to look up; the ones it looked up are the ones it is through with and the
    one it is about to send. -/
structure InOrder (x : Traced) (t : SessionId) : Prop where
  reads : x.reads t = (x.founds t).map Prod.fst ++ Phase.toLookUp (x.st.phase t)
  founds : x.founds t = (x.passes t).map (fun p => (p.frame, p.found)) ++ Phase.toSend (x.st.phase t)

namespace InOrder

variable {x : Traced} {st' : RelayState} {t : SessionId}

/-- Step by step: what was pending and what comes in is what goes out and what is
    pending then. -/
theorem of_flow (h : InOrder x t) {notes : List Note}
    (hlook : Phase.toLookUp (x.st.phase t) ++ notes.filterMap (Note.readBy t) =
      (notes.filterMap (Note.foundBy t)).map Prod.fst ++ Phase.toLookUp (st'.phase t))
    (hsend : Phase.toSend (x.st.phase t) ++ notes.filterMap (Note.foundBy t) =
      (notes.filterMap (Note.passedBy t)).map (fun p => (p.frame, p.found)) ++ Phase.toSend (st'.phase t)) :
    InOrder ⟨st', x.log ++ notes⟩ t where
  reads := by
    show (x.log ++ notes).filterMap (Note.readBy t) =
      ((x.log ++ notes).filterMap (Note.foundBy t)).map Prod.fst ++ Phase.toLookUp (st'.phase t)
    have hbefore : x.log.filterMap (Note.readBy t) =
        (x.log.filterMap (Note.foundBy t)).map Prod.fst ++ Phase.toLookUp (x.st.phase t) := h.reads
    rw [List.filterMap_append, List.filterMap_append, List.map_append, hbefore, List.append_assoc, hlook,
      List.append_assoc]
  founds := by
    show (x.log ++ notes).filterMap (Note.foundBy t) =
      ((x.log ++ notes).filterMap (Note.passedBy t)).map (fun p => (p.frame, p.found)) ++
        Phase.toSend (st'.phase t)
    have hbefore : x.log.filterMap (Note.foundBy t) =
        (x.log.filterMap (Note.passedBy t)).map (fun p => (p.frame, p.found)) ++
          Phase.toSend (x.st.phase t) := h.founds
    rw [List.filterMap_append, List.filterMap_append, List.map_append, hbefore, List.append_assoc, hsend,
      List.append_assoc]

/-- A step of another session. -/
theorem of_other (h : InOrder x t) {s : SessionId} (hst : s ≠ t) {note : Note}
    (hnote : (∃ frame, note = .read s frame) ∨ (∃ frame found, note = .found s frame found) ∨
      (∃ frame found target, note = .passed s frame found target) ∨ ∃ message, note = .taken s message)
    (hphase : st'.phase t = x.st.phase t) : InOrder ⟨st', x.log ++ [note]⟩ t := by
  apply h.of_flow
  all_goals
    rw [hphase]
    rcases hnote with ⟨_, rfl⟩ | ⟨_, _, rfl⟩ | ⟨_, _, _, rfl⟩ | ⟨_, rfl⟩
    all_goals simp [List.filterMap_cons, Note.readBy, Note.foundBy, Note.passedBy, hst]

/-- A session that idles, or registers, or unregisters. -/
theorem of_move (h : InOrder x t) {s : SessionId} {st : RelayState} {phase next : Phase}
    {f : Session → Session} (hsame : st.tasks = x.st.tasks) (hphase : x.st.phase s = some phase)
    (hf : ∀ task, (f task).phase = next)
    (hquiet : Phase.toLookUp (some phase) = [] ∧ Phase.toLookUp (some next) = [] ∧
      Phase.toSend (some phase) = [] ∧ Phase.toSend (some next) = []) :
    InOrder ⟨st.update s f, x.log ++ []⟩ t := by
  have hphases : ∀ u, st.phase u = x.st.phase u := fun u => by rw [RelayState.phase, hsame]; rfl
  by_cases hst : s = t
  · subst hst
    have hnext := phase_update_self ((hphases s).trans hphase) hf
    refine h.of_flow ?_ ?_
    · rw [hnext, hphase, hquiet.1, hquiet.2.1]
      rfl
    · rw [hnext, hphase, hquiet.2.2.1, hquiet.2.2.2]
      rfl
  · have hkept := (phase_update_ne (f := f) hst).trans (hphases t)
    refine h.of_flow ?_ ?_
    · rw [hkept]
      exact List.append_nil _
    · rw [hkept]
      exact List.append_nil _

theorem step (h : InOrder x t) {notes : List Note} (hmove : Moves x.st notes st') :
    InOrder ⟨st', x.log ++ notes⟩ t := by
  cases hmove with
  | accept =>
      refine h.of_flow ?_ ?_
      all_goals
        rcases (accept_views x.st t).1 with hsame | ⟨hnone, hnew⟩
        · rw [hsame]
          exact List.append_nil _
        · rw [hnew, hnone]
          rfl
  | idle hphase hidles => exact h.of_move rfl hphase (fun _ => rfl) (Phase.toLookUp_idles hidles)
  | register hphase => exact h.of_move rfl hphase (fun _ => rfl) ⟨rfl, rfl, rfl, rfl⟩
  | unregister hphase => exact h.of_move rfl hphase (fun _ => rfl) ⟨rfl, rfl, rfl, rfl⟩
  | @read s deviceId source destination payload hphase =>
      by_cases hst : s = t
      · subst hst
        have hnext := phase_update_self (f := fun t =>
          { t with phase := .looking deviceId (.frame source destination payload) }) hphase fun _ => rfl
        apply h.of_flow
        all_goals
          rw [hphase, hnext]
          simp [List.filterMap_cons, Phase.toLookUp, Phase.toSend, Note.readBy, Note.foundBy, Note.passedBy]
      · exact h.of_other hst (Or.inl ⟨_, rfl⟩) (phase_update_ne hst)
  | @lookup s deviceId frame hphase =>
      by_cases hst : s = t
      · subst hst
        have hnext := phase_update_self (f := fun t =>
          { t with phase := .sending deviceId frame (x.st.lookupSender frame) }) hphase fun _ => rfl
        apply h.of_flow
        all_goals
          rw [hphase, hnext]
          simp [List.filterMap_cons, Phase.toLookUp, Phase.toSend, Note.readBy, Note.foundBy, Note.passedBy]
      · exact h.of_other hst (Or.inr (Or.inl ⟨_, _, rfl⟩)) (phase_update_ne hst)
  | @deliver s target deviceId frame hphase hlive =>
      have hqueued : ∀ u, ({ x.st with routedFrames := x.st.routedFrames + 1 }.update target fun t =>
          { t with queue := t.queue ++ [frame] }).phase u = x.st.phase u :=
        fun u => phase_update_same fun _ => rfl
      by_cases hst : s = t
      · subst hst
        have hnext := phase_update_self (f := fun t => { t with phase := .serving deviceId })
          ((hqueued s).trans hphase) fun _ => rfl
        apply h.of_flow
        all_goals
          rw [hphase, hnext]
          simp [List.filterMap_cons, Phase.toLookUp, Phase.toSend, Note.readBy, Note.foundBy, Note.passedBy]
      · exact h.of_other hst (Or.inr (Or.inr (Or.inl ⟨_, _, _, rfl⟩)))
          ((phase_update_ne hst).trans (hqueued t))
  | @drop s deviceId frame sender next lines hphase hgone hwrote =>
      obtain ⟨hlook, hsend⟩ := Phase.toLookUp_wrote hwrote
      by_cases hst : s = t
      · subst hst
        have hnext := phase_update_self (r := { x.st with droppedFrames := x.st.droppedFrames + 1 })
          (f := fun t => { t with phase := next, written := t.written ++ lines }) hphase fun _ => rfl
        apply h.of_flow
        · rw [hphase, hnext, hlook]
          simp [List.filterMap_cons, Phase.toLookUp, Note.readBy, Note.foundBy]
        · rw [hphase, hnext, hsend]
          simp [List.filterMap_cons, Phase.toSend, Note.foundBy, Note.passedBy]
      · exact h.of_other hst (Or.inr (Or.inr (Or.inl ⟨_, _, _, rfl⟩))) (phase_update_ne hst)
  | @take s deviceId message rest written next lines htask hwrote =>
      obtain ⟨hlook, hsend⟩ := Phase.toLookUp_wrote hwrote
      have hphase : x.st.phase s = some (.serving deviceId) := phase_of_task htask
      by_cases hst : s = t
      · subst hst
        have hnext := phase_update_self
          (f := fun t => { t with queue := rest, phase := next, written := t.written ++ lines }) hphase
          fun _ => rfl
        apply h.of_flow
        · rw [hphase, hnext, hlook]
          rfl
        · rw [hphase, hnext, hsend]
          rfl
      · exact h.of_other hst (Or.inr (Or.inr (Or.inr ⟨_, rfl⟩))) (phase_update_ne hst)

end InOrder

-- ============================================================================
-- Queues
-- ============================================================================

/-- What went into the queue of `t` is what `t` took out, and what is still in it. -/
def Accounted (x : Traced) (t : SessionId) : Prop :=
  (x.queued t).map Prod.snd = x.taken t ++ x.st.queueOf t

namespace Accounted

variable {x : Traced} {st' : RelayState} {t : SessionId}

theorem of_flow (h : Accounted x t) {notes : List Note}
    (hflow : x.st.queueOf t ++ (notes.filterMap (Note.queuedTo t)).map Prod.snd =
      notes.filterMap (Note.takenBy t) ++ st'.queueOf t) : Accounted ⟨st', x.log ++ notes⟩ t := by
  show ((x.log ++ notes).filterMap (Note.queuedTo t)).map Prod.snd =
    (x.log ++ notes).filterMap (Note.takenBy t) ++ st'.queueOf t
  have hbefore : (x.log.filterMap (Note.queuedTo t)).map Prod.snd =
      x.log.filterMap (Note.takenBy t) ++ x.st.queueOf t := h
  rw [List.filterMap_append, List.filterMap_append, List.map_append, hbefore, List.append_assoc, hflow,
    List.append_assoc]

/-- A step that leaves the queue of `t` alone. -/
theorem of_same (h : Accounted x t) {notes : List Note}
    (hnotes : notes.filterMap (Note.queuedTo t) = [] ∧ notes.filterMap (Note.takenBy t) = [])
    (hqueue : st'.queueOf t = x.st.queueOf t) : Accounted ⟨st', x.log ++ notes⟩ t := by
  apply h.of_flow
  rw [hnotes.1, hnotes.2, hqueue]
  exact List.append_nil _

/-- The queues after a delivery to a session that exists. -/
theorem queueOf_deliver (st : RelayState) {target : SessionId} {phase : Phase}
    (h : st.phase target = some phase) (s : SessionId) (deviceId : String) (frame : RelayMessage)
    (t : SessionId) :
    (({ st with routedFrames := st.routedFrames + 1 }.update target fun task =>
        { task with queue := task.queue ++ [frame] }).update s fun task =>
          { task with phase := .serving deviceId }).queueOf t =
      if target = t then st.queueOf t ++ [frame] else st.queueOf t := by
  have hphase : ∀ st₀ : RelayState, (st₀.update s fun task =>
      { task with phase := .serving deviceId }).queueOf t = st₀.queueOf t :=
    fun _ => queueOf_update_same fun _ => rfl
  rw [hphase]
  by_cases ht : target = t
  · subst ht
    obtain ⟨task, htask, -⟩ := Option.map_eq_some_iff.mp h
    have htask' : ({ st with routedFrames := st.routedFrames + 1 } : RelayState).tasks[target]? = some task :=
      htask
    rw [queueOf, task_update, if_pos rfl, htask', if_pos rfl, queueOf, htask]
    rfl
  · rw [if_neg ht, queueOf_update_ne ht]
    rfl

theorem queueOf_take (st : RelayState) {s : SessionId} {task : Session} (h : st.tasks[s]? = some task)
    {f : Session → Session} {rest : List RelayMessage} (hf : (f task).queue = rest) :
    (st.update s f).queueOf s = rest := by
  rw [queueOf, task_update, if_pos rfl, h]
  exact hf

theorem step (h : Accounted x t) (hregistered : Registered x.st) {notes : List Note}
    (hmove : Moves x.st notes st') : Accounted ⟨st', x.log ++ notes⟩ t := by
  cases hmove with
  | accept => exact h.of_same ⟨rfl, rfl⟩ (accept_views x.st t).2.1
  | idle hphase hidles => exact h.of_same ⟨rfl, rfl⟩ (queueOf_update_same fun _ => rfl)
  | register hphase => exact h.of_same ⟨rfl, rfl⟩ (queueOf_update_same fun _ => rfl)
  | unregister hphase => exact h.of_same ⟨rfl, rfl⟩ (queueOf_update_same fun _ => rfl)
  | read hphase => exact h.of_same ⟨rfl, rfl⟩ (queueOf_update_same fun _ => rfl)
  | lookup hphase => exact h.of_same ⟨rfl, rfl⟩ (queueOf_update_same fun _ => rfl)
  | drop hphase hgone hwrote =>
      refine h.of_same ⟨?_, rfl⟩ (queueOf_update_same fun _ => rfl)
      simp [Note.queuedTo]
  | @deliver s target deviceId frame hphase hlive =>
      -- the sender leads to a session that registered, so there is a queue
      obtain ⟨source, destination, payload, rfl, hmem⟩ := hregistered.senders s deviceId frame target hphase
      obtain ⟨phase, htarget⟩ := hregistered.exists_phase hmem
      apply h.of_flow
      rw [queueOf_deliver x.st htarget]
      by_cases ht : target = t
      · subst ht
        simp [List.filterMap_cons, Note.queuedTo, Note.takenBy]
      · simp [List.filterMap_cons, Note.queuedTo, Note.takenBy, ht]
  | @take s deviceId message rest written next lines htask hwrote =>
      by_cases hst : s = t
      · subst hst
        apply h.of_flow
        rw [queueOf_take x.st htask rfl, queueOf, htask]
        simp [List.filterMap_cons, Note.queuedTo, Note.takenBy]
      · refine h.of_same ⟨?_, ?_⟩ (queueOf_update_ne hst)
        · simp [List.filterMap_cons, Note.queuedTo]
        · simp [Note.takenBy, hst]

end Accounted

-- ============================================================================
-- Counters and error lines
-- ============================================================================

section Counters

variable {x : Traced} {st' : RelayState} {notes : List Note} {t : SessionId}

/-- The counters count the frames that went into a queue and those that did not. -/
structure Counted (x : Traced) : Prop where
  routed : x.st.routedFrames = UInt64.ofNat (x.log.countP Note.isRouted)
  dropped : x.st.droppedFrames = UInt64.ofNat (x.log.countP Note.isDropped)

theorem Counted.of_same (h : Counted x) (hrouted : st'.routedFrames = x.st.routedFrames)
    (hdropped : st'.droppedFrames = x.st.droppedFrames)
    (hnotes : notes.countP Note.isRouted = 0 ∧ notes.countP Note.isDropped = 0) :
    Counted ⟨st', x.log ++ notes⟩ where
  routed := by
    show st'.routedFrames = UInt64.ofNat ((x.log ++ notes).countP Note.isRouted)
    rw [List.countP_append, hnotes.1, hrouted]
    exact h.routed
  dropped := by
    show st'.droppedFrames = UInt64.ofNat ((x.log ++ notes).countP Note.isDropped)
    rw [List.countP_append, hnotes.2, hdropped]
    exact h.dropped

theorem Counted.step (h : Counted x) (hmove : Moves x.st notes st') : Counted ⟨st', x.log ++ notes⟩ := by
  cases hmove with
  | @deliver s target deviceId frame hphase hlive =>
      refine ⟨?_, ?_⟩
      · show x.st.routedFrames + 1 = UInt64.ofNat ((x.log ++ _).countP Note.isRouted)
        rw [List.countP_append, UInt64.ofNat_add, h.routed]
        rfl
      · show x.st.droppedFrames = UInt64.ofNat ((x.log ++ _).countP Note.isDropped)
        rw [List.countP_append]
        exact h.dropped
  | drop hphase hgone hwrote =>
      refine ⟨?_, ?_⟩
      · show x.st.routedFrames = UInt64.ofNat ((x.log ++ _).countP Note.isRouted)
        rw [List.countP_append]
        exact h.routed
      · show x.st.droppedFrames + 1 = UInt64.ofNat ((x.log ++ _).countP Note.isDropped)
        rw [List.countP_append, UInt64.ofNat_add, h.dropped]
        rfl
  | accept => exact h.of_same rfl rfl ⟨rfl, rfl⟩
  | idle hphase hidles => exact h.of_same rfl rfl ⟨rfl, rfl⟩
  | register hphase => exact h.of_same rfl rfl ⟨rfl, rfl⟩
  | unregister hphase => exact h.of_same rfl rfl ⟨rfl, rfl⟩
  | read hphase => exact h.of_same rfl rfl ⟨rfl, rfl⟩
  | lookup hphase => exact h.of_same rfl rfl ⟨rfl, rfl⟩
  | take htask hwrote => exact h.of_same rfl rfl ⟨rfl, rfl⟩

/-- A frame that a session is through with is routed or dropped. -/
theorem countP_passed (log : List Note) :
    log.countP Note.isPassed = log.countP Note.isRouted + log.countP Note.isDropped := by
  induction log with
  | nil => rfl
  | cons note log ih =>
      rw [List.countP_cons, List.countP_cons, List.countP_cons, ih]
      cases note with
      | passed s frame found target =>
          cases target with
          | none =>
              simp only [Note.isPassed, Note.isRouted, Note.isDropped, Option.isSome_none, Option.isNone_none]
              simp
              omega
          | some target =>
              simp only [Note.isPassed, Note.isRouted, Note.isDropped, Option.isSome_some, Option.isNone_some]
              simp
              omega
      | _ => simp [Note.isPassed, Note.isRouted, Note.isDropped]

/-- The frames of `t` that went into no queue. -/
def Traced.dropped (x : Traced) (t : SessionId) : List RelayMessage :=
  ((x.passes t).filter fun p => p.target.isNone).map (·.frame)

/-- `t` has written an error line for each of them, or it has returned. -/
def Reported (x : Traced) (t : SessionId) : Prop :=
  x.st.Ended t ∨ ((x.dropped t).map unknownDestination).Sublist (x.st.writtenOf t)

theorem writtenOf_update_self {r : RelayState} {phase : Phase} (h : r.phase t = some phase)
    {f : Session → Session} {lines : List RelayMessage}
    (hf : ∀ task, (f task).written = task.written ++ lines) :
    (r.update t f).writtenOf t = r.writtenOf t ++ lines := by
  obtain ⟨task, htask, -⟩ := Option.map_eq_some_iff.mp h
  rw [writtenOf, task_update, if_pos rfl, writtenOf, htask]
  exact hf task

theorem writtenOf_update_sublist {r : RelayState} {s : SessionId} {f : Session → Session}
    (hf : ∀ task : Session, task.written.Sublist (f task).written) :
    (r.writtenOf t).Sublist ((r.update s f).writtenOf t) := by
  rw [writtenOf, writtenOf, task_update]
  split
  · cases r.tasks[t]? with
    | none => exact List.Sublist.refl _
    | some task => exact hf task
  · exact List.Sublist.refl _

/-- No line is taken back. -/
theorem written_of_moves {st : RelayState} (h : Moves st notes st') :
    (st.writtenOf t).Sublist (st'.writtenOf t) := by
  cases h with
  | accept => rw [(accept_views st t).2.2]
  | idle hphase hidles => exact writtenOf_update_sublist fun _ => List.sublist_append_left _ _
  | register hphase => exact writtenOf_update_sublist (r := st.register _ _) fun _ => .refl _
  | unregister hphase => exact writtenOf_update_sublist (r := st.unregister _) fun _ => .refl _
  | read hphase => exact writtenOf_update_sublist fun _ => .refl _
  | lookup hphase => exact writtenOf_update_sublist fun _ => .refl _
  | deliver hphase hlive =>
      refine List.Sublist.trans ?_ (writtenOf_update_sublist fun _ => .refl _)
      exact writtenOf_update_sublist (r := { st with routedFrames := st.routedFrames + 1 }) fun _ => .refl _
  | drop hphase hgone hwrote =>
      exact writtenOf_update_sublist (r := { st with droppedFrames := st.droppedFrames + 1 })
        fun _ => List.sublist_append_left _ _
  | take htask hwrote => exact writtenOf_update_sublist fun _ => List.sublist_append_left _ _

theorem Reported.step (h : Reported x t) (hmove : Moves x.st notes st') :
    Reported ⟨st', x.log ++ notes⟩ t := by
  rcases h with hended | hlines
  · exact Or.inl (ended_of_moves hmove hended)
  have hdropped : (⟨st', x.log ++ notes⟩ : Traced).dropped t =
      x.dropped t ++ ((notes.filterMap (Note.passedBy t)).filter fun p => p.target.isNone).map (·.frame) := by
    simp only [Traced.dropped, Traced.passes, List.filterMap_append, List.filter_append, List.map_append]
  have hkept : (∀ p ∈ notes.filterMap (Note.passedBy t), p.target.isNone = false) →
      Reported ⟨st', x.log ++ notes⟩ t := by
    intro hnone
    right
    rw [hdropped, List.filter_eq_nil_iff.mpr (fun p hp => by rw [hnone p hp]; decide), List.map_nil,
      List.append_nil]
    exact hlines.trans (written_of_moves hmove)
  cases hmove with
  | @drop s deviceId frame sender next lines hphase hgone hwrote =>
      by_cases hst : s = t
      · subst hst
        cases hwrote with
        | failed =>
            left
            exact phase_update_self (r := { x.st with droppedFrames := x.st.droppedFrames + 1 }) hphase
              fun _ => rfl
        | ok =>
            right
            have hwritten := writtenOf_update_self
              (r := { x.st with droppedFrames := x.st.droppedFrames + 1 })
              (f := fun t => { t with phase := .serving deviceId, written := t.written ++ [unknownDestination frame] })
              hphase fun _ => rfl
            rw [hdropped, List.map_append]
            simp only [List.filterMap_cons, Note.passedBy, if_true, List.filterMap_nil]
            rw [hwritten]
            exact hlines.append (List.Sublist.refl _)
      · refine hkept fun p hp => ?_
        simp [Note.passedBy, hst] at hp
  | @deliver s target deviceId frame hphase hlive =>
      refine hkept fun p hp => ?_
      simp only [List.filterMap_cons, Note.passedBy, List.filterMap_nil] at hp
      split at hp
      · cases hp
      · rename_i pass hpass
        obtain rfl := List.mem_singleton.mp hp
        split at hpass
        · obtain rfl := Option.some.inj hpass
          rfl
        · cases hpass
  | accept => exact hkept fun p hp => (by cases hp)
  | idle hphase hidles => exact hkept fun p hp => (by cases hp)
  | register hphase => exact hkept fun p hp => (by cases hp)
  | unregister hphase => exact hkept fun p hp => (by cases hp)
  | read hphase => exact hkept fun p hp => (by cases hp)
  | lookup hphase => exact hkept fun p hp => (by cases hp)
  | take htask hwrote => exact hkept fun p hp => (by cases hp)

end Counters

-- ============================================================================
-- Destinations
-- ============================================================================

section Exact

variable {x : Traced} {st' : RelayState} {notes : List Note} {s t : SessionId}

theorem registrations_of_moves {st : RelayState} (h : Moves st notes st') {r : String × SessionId}
    (hr : r ∈ st.registrations) : r ∈ st'.registrations := by
  cases h with
  | register hphase => exact List.mem_cons_of_mem _ hr
  | _ => exact hr

/-- Only a delivery puts a frame into a queue. -/
theorem queued_of_moves {st : RelayState} (h : Moves st notes st') {frame : RelayMessage}
    (hmem : (s, frame) ∈ notes.filterMap (Note.queuedTo t)) :
    ∃ deviceId, st.phase s = some (.sending deviceId frame (some t)) ∧ ¬ st.Ended t := by
  obtain ⟨note, hnote, hqueued⟩ := List.mem_filterMap.mp hmem
  cases h with
  | @deliver s' target deviceId frame' hphase hlive =>
      obtain rfl := List.mem_singleton.mp hnote
      simp only [Note.queuedTo, Option.some.injEq] at hqueued
      split at hqueued
      · rename_i htarget
        obtain ⟨rfl, rfl⟩ := Prod.mk.inj (Option.some.inj hqueued)
        subst htarget
        exact ⟨deviceId, hphase, hlive⟩
      · cases hqueued
  | drop hphase hgone hwrote =>
      obtain rfl := List.mem_singleton.mp hnote
      cases hqueued
  | read hphase =>
      obtain rfl := List.mem_singleton.mp hnote
      cases hqueued
  | lookup hphase =>
      obtain rfl := List.mem_singleton.mp hnote
      cases hqueued
  | take htask hwrote =>
      obtain rfl := List.mem_singleton.mp hnote
      cases hqueued
  | accept => cases hnote
  | idle hphase hidles => cases hnote
  | register hphase => cases hnote
  | unregister hphase => cases hnote

/-- A message in the queue of `t` is a frame for the device that `t` registered. -/
def Addressed (x : Traced) : Prop :=
  ∀ t s frame, (s, frame) ∈ x.queued t → ∃ source destination payload,
    frame = .frame source destination payload ∧ (destination, t) ∈ x.st.registrations

theorem Addressed.step (h : Addressed x) (hregistered : Registered x.st) (hmove : Moves x.st notes st') :
    Addressed ⟨st', x.log ++ notes⟩ := by
  intro t s frame hmem
  have hmem' : (s, frame) ∈ x.log.filterMap (Note.queuedTo t) ++ notes.filterMap (Note.queuedTo t) := by
    rw [← List.filterMap_append]
    exact hmem
  rcases List.mem_append.mp hmem' with hold | hnew
  · obtain ⟨source, destination, payload, hframe, hdevice⟩ := h t s frame hold
    exact ⟨source, destination, payload, hframe, registrations_of_moves hmove hdevice⟩
  · obtain ⟨deviceId, hphase, -⟩ := queued_of_moves hmove hnew
    obtain ⟨source, destination, payload, hframe, hdevice⟩ := hregistered.senders _ _ _ _ hphase
    exact ⟨source, destination, payload, hframe, registrations_of_moves hmove hdevice⟩

/-- A frame goes into the queue that the lookup found, or into none. -/
def Followed (x : Traced) : Prop := ∀ s, ∀ p ∈ x.passes s, p.target = none ∨ p.target = p.found

theorem Followed.step (h : Followed x) (hmove : Moves x.st notes st') : Followed ⟨st', x.log ++ notes⟩ := by
  have hnew : ∀ s frame found target, Note.passed s frame found target ∈ notes →
      target = none ∨ target = found := by
    intro s frame found target hmem
    cases hmove with
    | deliver hphase hlive =>
        cases List.mem_singleton.mp hmem
        exact Or.inr rfl
    | drop hphase hgone hwrote =>
        cases List.mem_singleton.mp hmem
        exact Or.inl rfl
    | read hphase => cases List.mem_singleton.mp hmem
    | lookup hphase => cases List.mem_singleton.mp hmem
    | take htask hwrote => cases List.mem_singleton.mp hmem
    | accept => cases hmem
    | idle hphase hidles => cases hmem
    | register hphase => cases hmem
    | unregister hphase => cases hmem
  intro s p hp
  have hp' : p ∈ x.log.filterMap (Note.passedBy s) ++ notes.filterMap (Note.passedBy s) := by
    rw [← List.filterMap_append]
    exact hp
  rcases List.mem_append.mp hp' with hold | hnote
  · exact h s p hold
  · obtain ⟨note, hmem, hpass⟩ := List.mem_filterMap.mp hnote
    cases note with
    | passed s' frame found target =>
        simp only [Note.passedBy] at hpass
        split at hpass
        · obtain rfl := Option.some.inj hpass
          exact hnew _ _ _ _ hmem
        · cases hpass
    | read s' frame => cases hpass
    | found s' frame found => cases hpass
    | taken s' message => cases hpass

-- ============================================================================
-- Every run
-- ============================================================================

/-- The frames of `s` in the queue of `t`, told from either end. -/
theorem queued_by (log : List Note) (s t : SessionId) :
    ((log.filterMap (Note.queuedTo t)).filter fun q => decide (q.1 = s)).map Prod.snd =
      ((log.filterMap (Note.passedBy s)).filter fun p => decide (p.target = some t)).map (·.frame) := by
  induction log with
  | nil => rfl
  | cons note log ih =>
      cases note with
      | passed s' frame found target =>
          by_cases hs : s' = s
          · by_cases ht : target = some t
            · simp [Note.queuedTo, Note.passedBy, hs, ht, ih]
            · simp [Note.queuedTo, Note.passedBy, hs, ht, ih]
          · by_cases ht : target = some t
            · simp [Note.queuedTo, Note.passedBy, hs, ht, ih]
            · simp [Note.queuedTo, Note.passedBy, hs, ht, ih]
      | read s' frame => exact ih
      | found s' frame found => exact ih
      | taken s' message => exact ih

/-- Frames of one session for one session are queued in the order they were read. -/
theorem InOrder.queued_sublist (h : InOrder x s) (t : SessionId) :
    (((x.queued t).filter fun q => decide (q.1 = s)).map Prod.snd).Sublist (x.reads s) := by
  have hpasses : ((x.passes s).map (·.frame)).Sublist (x.reads s) := by
    rw [h.reads, h.founds, List.map_append, List.map_map]
    exact (List.sublist_append_left _ _).trans (List.sublist_append_left _ _)
  have hqueued := queued_by x.log s t
  rw [Traced.queued, hqueued]
  exact (List.filter_sublist.map _).trans hpasses

/-- How the log, the counters and the queues belong together. -/
structure RoutesExactly (x : Traced) : Prop where
  /-- a session looks up the frames that it reads in that order, and is through with one
      before it reads the next -/
  inOrder : ∀ s, InOrder x s
  /-- a frame goes into the queue that was found under its destination, or into none -/
  followed : Followed x
  /-- the queue of a session holds what was put into it and not taken out -/
  accounted : ∀ t, Accounted x t
  /-- a frame that went into no queue is reported to its sender -/
  reported : ∀ s, Reported x s
  routed : x.st.routedFrames = UInt64.ofNat (x.log.countP Note.isRouted)
  dropped : x.st.droppedFrames = UInt64.ofNat (x.log.countP Note.isDropped)
  processed : x.st.routedFrames + x.st.droppedFrames = UInt64.ofNat (x.log.countP Note.isPassed)
  /-- what is put into a queue is a frame for the one device that its session registered -/
  addressed : ∀ t s frame, (s, frame) ∈ x.queued t → ∃ source destination payload,
    frame = .frame source destination payload ∧ (destination, t) ∈ x.st.registrations ∧
      ∀ deviceId, (deviceId, t) ∈ x.st.registrations → deviceId = destination
  /-- frames from one session to another are queued in the order they were read -/
  sequence : ∀ s t, (((x.queued t).filter fun q => decide (q.1 = s)).map Prod.snd).Sublist (x.reads s)

/-- What the steps keep. -/
structure Consistent (x : Traced) : Prop where
  registered : Registered x.st
  inOrder : ∀ s, InOrder x s
  followed : Followed x
  accounted : ∀ t, Accounted x t
  reported : ∀ s, Reported x s
  counted : Counted x
  addressed : Addressed x

theorem consistent_initial : Consistent Traced.initial where
  registered := registered_initial
  inOrder := fun _ => ⟨rfl, rfl⟩
  followed := fun _ _ hp => by cases hp
  accounted := fun _ => rfl
  reported := fun _ => Or.inr (List.Sublist.refl _)
  counted := ⟨rfl, rfl⟩
  addressed := fun _ _ _ hmem => by cases hmem

theorem Consistent.step (h : Consistent x) {event : Event} {y : Traced} (hstep : x.step event = some y) :
    Consistent y := by
  obtain ⟨st', hst', rfl⟩ := Option.map_eq_some_iff.mp hstep
  have hmove := moves_of_step hst'
  exact {
    registered := h.registered.step hmove
    inOrder := fun s => (h.inOrder s).step hmove
    followed := h.followed.step hmove
    accounted := fun t => (h.accounted t).step h.registered hmove
    reported := fun s => (h.reported s).step hmove
    counted := h.counted.step hmove
    addressed := h.addressed.step h.registered hmove }

theorem consistent_of_run {events : List Event} (h : run Traced.step Traced.initial events = some x) :
    Consistent x :=
  invariant_run (fun _ _ _ hx hstep => hx.step hstep) consistent_initial h

theorem Consistent.routesExactly (h : Consistent x) : RoutesExactly x where
  inOrder := h.inOrder
  followed := h.followed
  accounted := h.accounted
  reported := h.reported
  routed := h.counted.routed
  dropped := h.counted.dropped
  processed := by rw [countP_passed, UInt64.ofNat_add, h.counted.routed, h.counted.dropped]
  addressed := by
    intro t s frame hmem
    obtain ⟨source, destination, payload, hframe, hdevice⟩ := h.addressed t s frame hmem
    exact ⟨source, destination, payload, hframe, hdevice,
      fun deviceId hother => h.registered.devices _ _ _ hother hdevice⟩
  sequence := fun s t => (h.inOrder s).queued_sublist t

/-- What the end of `route_frame` does: the frame goes into the queue of the session that
    the lookup found, and nothing else into any queue; or no queue changes, and the
    session that sent it gets the error line or returns. -/
def SendsExactly (st st' : RelayState) (s : SessionId) (frame : RelayMessage) (sender : Option SessionId) :
    Prop :=
  (∃ t, sender = some t ∧
      (∀ u, st'.queueOf u = if t = u then st.queueOf u ++ [frame] else st.queueOf u) ∧
      st'.routedFrames = st.routedFrames + 1 ∧ st'.droppedFrames = st.droppedFrames) ∨
    ((∀ u, st'.queueOf u = st.queueOf u) ∧
      st'.routedFrames = st.routedFrames ∧ st'.droppedFrames = st.droppedFrames + 1 ∧
      (st'.writtenOf s = st.writtenOf s ++ [unknownDestination frame] ∨ st'.Ended s))

theorem RelayState.Registered.sendsExactly {st : RelayState} (h : Registered st) {deviceId : String}
    {frame : RelayMessage} {sender : Option SessionId} {writeOk : Bool}
    (hphase : st.phase s = some (.sending deviceId frame sender))
    (hstep : st.step (.send s writeOk) = some st') : SendsExactly st st' s frame sender := by
  have hmove := moves_send hstep
  simp only [RelayState.notes, hphase] at hmove
  generalize hnotes : [Note.passed s frame sender (st.receiver sender)] = notes at hmove
  cases hmove with
  | @deliver s' target d frame' hphase' hlive =>
      obtain ⟨rfl, rfl, rfl, -⟩ := Note.passed.inj (List.head_eq_of_cons_eq hnotes)
      obtain ⟨source, destination, payload, rfl, hmem⟩ := h.senders _ _ _ _ hphase'
      obtain ⟨phase, htarget⟩ := h.exists_phase hmem
      exact Or.inl ⟨target, rfl, Accounted.queueOf_deliver st htarget s d _, rfl, rfl⟩
  | @drop s' d frame' sender' next lines hphase' hgone hwrote =>
      obtain ⟨rfl, rfl, rfl, -⟩ := Note.passed.inj (List.head_eq_of_cons_eq hnotes)
      refine Or.inr ⟨fun u => queueOf_update_same fun _ => rfl, rfl, rfl, ?_⟩
      cases hwrote with
      | ok =>
          exact Or.inl (writtenOf_update_self (r := { st with droppedFrames := st.droppedFrames + 1 }) hphase
            fun _ => rfl)
      | failed =>
          exact Or.inr (phase_update_self (r := { st with droppedFrames := st.droppedFrames + 1 }) hphase
            fun _ => rfl)
  | read hphase' => cases hnotes
  | lookup hphase' => cases hnotes
  | take htask hwrote => cases hnotes
  | accept => cases hnotes
  | idle hphase' hidles => cases hnotes
  | register hphase' => cases hnotes
  | unregister hphase' => cases hnotes

/-- **Exact routing.**  In every state that the relay reaches, under any interleaving of
    its sessions, the log, the counters and the queues belong together; and a session
    that is through with a frame has put it into the one queue that it found, or has
    dropped and reported it. -/
theorem relay_routing_exact (events : List Event) (x : Traced)
    (hrun : run Traced.step Traced.initial events = some x) :
    RoutesExactly x ∧
      ∀ s deviceId frame sender writeOk st', x.st.phase s = some (.sending deviceId frame sender) →
        x.st.step (.send s writeOk) = some st' → SendsExactly x.st st' s frame sender :=
  ⟨(consistent_of_run hrun).routesExactly, fun _ _ _ _ _ _ hphase hstep =>
    (consistent_of_run hrun).registered.sendsExactly hphase hstep⟩

end Exact

/-- Two devices register; the one sends a frame to the other and one to nobody. -/
def twoSessions : List Event :=
  [.accept, .firstLine 0 (.line (some (.register "dev_a" "key"))) true, .register 0,
   .accept, .firstLine 1 (.line (some (.register "dev_b" "key"))) true, .register 1,
   .inbound 0 (.line (some (.frame "dev_a" "dev_b" "AAAA"))) true, .lookup 0, .send 0 true,
   .inbound 0 (.line (some (.frame "dev_a" "dev_c" "BBBB"))) true, .lookup 0, .send 0 true]

theorem relay_routing_exact_two_sessions :
    ∃ x, run Traced.step Traced.initial twoSessions = some x ∧ x.st.routedFrames = 1 ∧
      x.st.droppedFrames = 1 ∧ x.queued 1 = [(0, .frame "dev_a" "dev_b" "AAAA")] ∧ RoutesExactly x := by
  have hrun : (run Traced.step Traced.initial twoSessions).any (fun x => decide
      (x.st.routedFrames = 1 ∧ x.st.droppedFrames = 1 ∧
        x.queued 1 = [(0, .frame "dev_a" "dev_b" "AAAA")])) = true := by decide +kernel
  obtain ⟨x, hx, hfacts⟩ := (Option.any_eq_true _ _).mp hrun
  obtain ⟨hrouted, hdropped, hqueued⟩ := of_decide_eq_true hfacts
  exact ⟨x, hx, hrouted, hdropped, hqueued, (relay_routing_exact twoSessions x hx).1⟩

end TfScale.Relay
