/-
  TfScale.Relay.Trace

  Runs of the relay with a log.

  The log has the frames that a session reads, what the map holds when it looks a
  destination up, the queue that a frame is put into, and the messages that a session
  takes from its own queue.  `Moves` says once what a step can do, to the tasks and to
  the log.
-/

import TfScale.Relay.Session

namespace TfScale.Relay

-- ============================================================================
-- The log
-- ============================================================================

inductive Note where
  /-- `s` read a Frame message -/
  | read (s : SessionId) (frame : RelayMessage)
  /-- `s` looked up its destination, and the map held the sender of `found` -/
  | found (s : SessionId) (frame : RelayMessage) (found : Option SessionId)
  /-- `s` is through with it: it is in the queue of `target`, or in none -/
  | passed (s : SessionId) (frame : RelayMessage) (found target : Option SessionId)
  /-- `t` took a message from its queue -/
  | taken (t : SessionId) (message : RelayMessage)
deriving DecidableEq

/-- A frame that a session is through with. -/
structure Pass where
  frame : RelayMessage
  found : Option SessionId
  target : Option SessionId
deriving DecidableEq

namespace Note

def readBy (s : SessionId) : Note → Option RelayMessage
  | read s' frame => if s' = s then some frame else none
  | _ => none

def foundBy (s : SessionId) : Note → Option (RelayMessage × Option SessionId)
  | found s' frame target => if s' = s then some (frame, target) else none
  | _ => none

def passedBy (s : SessionId) : Note → Option Pass
  | passed s' frame sender target => if s' = s then some ⟨frame, sender, target⟩ else none
  | _ => none

/-- A frame that went into the queue of `t`, with the session that sent it. -/
def queuedTo (t : SessionId) : Note → Option (SessionId × RelayMessage)
  | passed s frame _ target => if target = some t then some (s, frame) else none
  | _ => none

def takenBy (t : SessionId) : Note → Option RelayMessage
  | taken t' message => if t' = t then some message else none
  | _ => none

def isRouted : Note → Bool
  | passed _ _ _ target => target.isSome
  | _ => false

def isDropped : Note → Bool
  | passed _ _ _ target => target.isNone
  | _ => false

def isPassed : Note → Bool
  | passed .. => true
  | _ => false

end Note

namespace RelayState

/-- The session that a send through `sender` reaches: none when its task has returned. -/
def receiver (st : RelayState) (sender : Option SessionId) : Option SessionId :=
  sender.filter fun t => decide (st.phase t ≠ some .ended)

/-- What a step of the relay leaves in the log. -/
def notes (st : RelayState) : Event → List Note
  | .inbound s (.line (some (.frame source destination payload))) _ =>
      [.read s (.frame source destination payload)]
  | .lookup s =>
      match st.phase s with
      | some (.looking _ frame) => [.found s frame (st.lookupSender frame)]
      | _ => []
  | .send s _ =>
      match st.phase s with
      | some (.sending _ frame sender) => [.passed s frame sender (st.receiver sender)]
      | _ => []
  | .outbound s _ =>
      match st.tasks[s]? with
      | some ⟨_, message :: _, _⟩ => [.taken s message]
      | _ => []
  | _ => []

end RelayState

/-- The relay and the log of what happened. -/
structure Traced where
  st : RelayState
  log : List Note

namespace Traced

def initial : Traced := ⟨.initial, []⟩

def step (x : Traced) (event : Event) : Option Traced :=
  (x.st.step event).map fun st => ⟨st, x.log ++ x.st.notes event⟩

/-- The frames that `s` read. -/
def reads (x : Traced) (s : SessionId) : List RelayMessage := x.log.filterMap (Note.readBy s)

/-- What `s` found when it looked them up. -/
def founds (x : Traced) (s : SessionId) : List (RelayMessage × Option SessionId) :=
  x.log.filterMap (Note.foundBy s)

/-- What became of them. -/
def passes (x : Traced) (s : SessionId) : List Pass := x.log.filterMap (Note.passedBy s)

/-- The frames that went into the queue of `t`. -/
def queued (x : Traced) (t : SessionId) : List (SessionId × RelayMessage) :=
  x.log.filterMap (Note.queuedTo t)

/-- The messages that `t` took out of it. -/
def taken (x : Traced) (t : SessionId) : List RelayMessage := x.log.filterMap (Note.takenBy t)

end Traced

-- ============================================================================
-- What a step can do
-- ============================================================================

namespace RelayState

variable {st st' : RelayState} {s t : SessionId}

/-- Rewrite one task. -/
def update (st : RelayState) (s : SessionId) (f : Session → Session) : RelayState :=
  { st with tasks := st.tasks.modify s f }

theorem task_update (st : RelayState) (s t : SessionId) (f : Session → Session) :
    (st.update s f).tasks[t]? = if s = t then st.tasks[t]?.map f else st.tasks[t]? := by
  rw [update, List.getElem?_modify]
  by_cases h : s = t
  · rw [if_pos h]
    simp [h]
  · rw [if_neg h]
    simp [h]

def queueOf (st : RelayState) (t : SessionId) : List RelayMessage :=
  (st.tasks[t]?.map (·.queue)).getD []

def writtenOf (st : RelayState) (t : SessionId) : List RelayMessage :=
  (st.tasks[t]?.map (·.written)).getD []

/-- A task that goes on without having to do with a frame. -/
inductive Idles : Phase → Phase → Prop
  | refused : Idles .connected .ended
  | greeted (deviceId : String) : Idles .connected (.registering deviceId)
  | stayed (deviceId : String) : Idles (.serving deviceId) (.serving deviceId)
  | left (deviceId : String) : Idles (.serving deviceId) (.leaving deviceId)
  | failed (deviceId : String) : Idles (.serving deviceId) .ended

/-- The outcome of a write: the line is out and the task serves on, or it has
    returned. -/
inductive Wrote (deviceId : String) (message : RelayMessage) : Phase → List RelayMessage → Prop
  | ok : Wrote deviceId message (.serving deviceId) [message]
  | failed : Wrote deviceId message .ended []

/-- One step of the relay, with what it leaves in the log. -/
inductive Moves (st : RelayState) : List Note → RelayState → Prop
  | accept : Moves st [] { st with tasks := st.tasks ++ [⟨.connected, [], []⟩] }
  | idle {s : SessionId} {phase next : Phase} {lines : List RelayMessage} (hphase : st.phase s = some phase)
      (hidles : Idles phase next) :
      Moves st [] (st.update s fun t => { t with phase := next, written := t.written ++ lines })
  | register {s : SessionId} {deviceId : String} (hphase : st.phase s = some (.registering deviceId)) :
      Moves st [] ((st.register deviceId s).update s fun t => { t with phase := .serving deviceId })
  | unregister {s : SessionId} {deviceId : String} (hphase : st.phase s = some (.leaving deviceId)) :
      Moves st [] ((st.unregister deviceId).update s fun t => { t with phase := .ended })
  | read {s : SessionId} {deviceId source destination payload : String}
      (hphase : st.phase s = some (.serving deviceId)) :
      Moves st [.read s (.frame source destination payload)]
        (st.update s fun t => { t with phase := .looking deviceId (.frame source destination payload) })
  | lookup {s : SessionId} {deviceId : String} {frame : RelayMessage}
      (hphase : st.phase s = some (.looking deviceId frame)) :
      Moves st [.found s frame (st.lookupSender frame)]
        (st.update s fun t => { t with phase := .sending deviceId frame (st.lookupSender frame) })
  | deliver {s target : SessionId} {deviceId : String} {frame : RelayMessage}
      (hphase : st.phase s = some (.sending deviceId frame (some target))) (hlive : ¬ st.Ended target) :
      Moves st [.passed s frame (some target) (some target)]
        (({ st with routedFrames := st.routedFrames + 1 }.update target fun t =>
          { t with queue := t.queue ++ [frame] }).update s fun t => { t with phase := .serving deviceId })
  | drop {s : SessionId} {deviceId : String} {frame : RelayMessage} {sender : Option SessionId}
      {next : Phase} {lines : List RelayMessage}
      (hphase : st.phase s = some (.sending deviceId frame sender))
      (hgone : ∀ target, sender = some target → st.Ended target)
      (hwrote : Wrote deviceId (unknownDestination frame) next lines) :
      Moves st [.passed s frame sender none]
        ({ st with droppedFrames := st.droppedFrames + 1 }.update s fun t =>
          { t with phase := next, written := t.written ++ lines })
  | take {s : SessionId} {deviceId : String} {message : RelayMessage} {rest written : List RelayMessage}
      {next : Phase} {lines : List RelayMessage}
      (htask : st.tasks[s]? = some ⟨.serving deviceId, message :: rest, written⟩)
      (hwrote : Wrote deviceId message next lines) :
      Moves st [.taken s message]
        (st.update s fun t => { t with queue := rest, phase := next, written := t.written ++ lines })

theorem phase_of_task {task : Session} (h : st.tasks[s]? = some task) : st.phase s = some task.phase := by
  rw [phase, h]
  rfl

theorem setPhase_eq_update (st : RelayState) (s : SessionId) (next : Phase) :
    st.setPhase s next = st.update s fun t => { t with phase := next, written := t.written ++ [] } := by
  simp only [setPhase, update, List.append_nil]

/-- Writing the phase that the task is in. -/
theorem setPhase_self {phase : Phase} (h : st.phase s = some phase) : st.setPhase s phase = st := by
  have htasks : (st.setPhase s phase).tasks = st.tasks := by
    refine List.ext_getElem? fun t => ?_
    rw [setPhase_eq_update, task_update]
    split
    · rename_i hst
      subst hst
      obtain ⟨task, htask, rfl⟩ := Option.map_eq_some_iff.mp h
      rw [htask, Option.map_some, List.append_nil]
    · rfl
  show { st with tasks := (st.setPhase s phase).tasks } = st
  rw [htasks]

theorem moves_setPhase {phase next : Phase} (hphase : st.phase s = some phase) (hidles : Idles phase next) :
    Moves st [] (st.setPhase s next) := by
  rw [setPhase_eq_update]
  exact .idle hphase hidles

theorem moves_writeMessage {phase next : Phase} (hphase : st.phase s = some phase)
    (hidles : Idles phase next) (hended : Idles phase .ended) (message : RelayMessage) (writeOk : Bool) :
    Moves st [] (st.writeMessage s message writeOk next) := by
  unfold writeMessage
  cases writeOk with
  | true => exact .idle hphase hidles
  | false => exact moves_setPhase hphase hended

theorem wrote_writeMessage (st : RelayState) (s : SessionId) (deviceId : String) (message : RelayMessage)
    (writeOk : Bool) :
    ∃ next lines, Wrote deviceId message next lines ∧
      st.writeMessage s message writeOk (.serving deviceId) =
        st.update s fun t => { t with phase := next, written := t.written ++ lines } := by
  unfold writeMessage
  cases writeOk with
  | true => exact ⟨_, _, .ok, rfl⟩
  | false => exact ⟨_, _, .failed, setPhase_eq_update st s .ended⟩

theorem moves_onFirstLine (hphase : st.phase s = some .connected) (writeOk : Bool) (input : Inbound) :
    Moves st [] (st.onFirstLine s writeOk input) := by
  unfold onFirstLine
  split
  · exact moves_setPhase hphase .refused
  · exact moves_setPhase hphase .refused
  · exact moves_setPhase hphase .refused
  · exact moves_setPhase hphase (.greeted _)
  · exact moves_writeMessage hphase .refused .refused _ _

theorem moves_onInbound {deviceId : String} (hphase : st.phase s = some (.serving deviceId)) (writeOk : Bool)
    (input : Inbound) :
    Moves st (st.notes (.inbound s input writeOk)) (st.onInbound s deviceId writeOk input) := by
  unfold onInbound
  split
  · exact moves_setPhase hphase (.left deviceId)
  · exact moves_setPhase hphase (.failed deviceId)
  · exact moves_setPhase hphase (.failed deviceId)
  · exact .read hphase
  · exact moves_writeMessage hphase (.stayed deviceId) (.failed deviceId) _ _
  · have hsame := moves_setPhase hphase (.stayed deviceId)
    rw [setPhase_self hphase] at hsame
    exact hsame

theorem moves_send {writeOk : Bool} (h : st.step (.send s writeOk) = some st') :
    Moves st (st.notes (.send s writeOk)) st' := by
  simp only [step] at h
  split at h
  swap
  · cases h
  rename_i deviceId frame sender hphase
  simp only [notes, hphase]
  cases sender with
  | none =>
      obtain ⟨next, lines, hwrote, heq⟩ := wrote_writeMessage
        { st with droppedFrames := st.droppedFrames + 1 } s deviceId (unknownDestination frame) writeOk
      obtain rfl := Option.some.inj h
      rw [heq]
      exact .drop hphase (fun _ hsome => (by cases hsome)) hwrote
  | some target =>
      by_cases hended : st.phase target = some .ended
      · have hnone : st.receiver (some target) = none := by
          simp [receiver, hended]
        obtain ⟨next, lines, hwrote, heq⟩ := wrote_writeMessage
          { st with droppedFrames := st.droppedFrames + 1 } s deviceId (unknownDestination frame) writeOk
        simp only [sendFrame, if_pos hended] at h
        obtain rfl := Option.some.inj h
        rw [heq, hnone]
        refine .drop hphase (fun t ht => ?_) hwrote
        obtain rfl := Option.some.inj ht
        exact hended
      · have hsome : st.receiver (some target) = some target := by
          simp [receiver, hended]
        simp only [sendFrame, if_neg hended] at h
        obtain rfl := Option.some.inj h
        rw [hsome]
        exact .deliver hphase hended

theorem moves_outbound {writeOk : Bool} (h : st.step (.outbound s writeOk) = some st') :
    Moves st (st.notes (.outbound s writeOk)) st' := by
  simp only [step] at h
  split at h
  swap
  · cases h
  rename_i deviceId queue written htask
  have hphase : st.phase s = some (.serving deviceId) := phase_of_task htask
  simp only [notes, htask]
  cases queue with
  | nil =>
      simp only [onOutbound] at h
      split at h
      · cases h
      · obtain rfl := Option.some.inj h
        exact moves_setPhase hphase (.left deviceId)
  | cons message rest =>
      simp only [onOutbound] at h
      obtain rfl := Option.some.inj h
      obtain ⟨next, lines, hwrote, heq⟩ := wrote_writeMessage
        (st.update s fun t => { t with queue := rest }) s deviceId message writeOk
      have htwice : (st.update s fun t => { t with queue := rest }).update s
          (fun t => { t with phase := next, written := t.written ++ lines }) =
          st.update s fun t => { t with queue := rest, phase := next, written := t.written ++ lines } := by
        simp only [update, List.modify_modify_eq]
        rfl
      have hmove := Moves.take htask hwrote
      rw [← htwice, ← heq] at hmove
      exact hmove

/-- Every step is one of the moves. -/
theorem moves_of_step {event : Event} (h : st.step event = some st') : Moves st (st.notes event) st' := by
  cases event with
  | accept =>
      obtain rfl := Option.some.inj h
      exact .accept
  | firstLine s input writeOk =>
      simp only [step] at h
      split at h
      · rename_i hphase
        obtain rfl := Option.some.inj h
        exact moves_onFirstLine hphase writeOk input
      · cases h
  | register s =>
      simp only [step] at h
      split at h
      · rename_i deviceId hphase
        obtain rfl := Option.some.inj h
        exact .register hphase
      · cases h
  | inbound s input writeOk =>
      simp only [step] at h
      split at h
      · rename_i deviceId hphase
        obtain rfl := Option.some.inj h
        exact moves_onInbound hphase writeOk input
      · cases h
  | lookup s =>
      simp only [step] at h
      split at h
      · rename_i deviceId frame hphase
        obtain rfl := Option.some.inj h
        simp only [notes, hphase]
        exact .lookup hphase
      · cases h
  | send s writeOk => exact moves_send h
  | outbound s writeOk => exact moves_outbound h
  | unregister s =>
      simp only [step] at h
      split at h
      · rename_i deviceId hphase
        obtain rfl := Option.some.inj h
        exact .unregister hphase
      · cases h

-- ============================================================================
-- Views of a task
-- ============================================================================

theorem phase_update_ne {f : Session → Session} (h : s ≠ t) : (st.update s f).phase t = st.phase t := by
  rw [phase, task_update, if_neg h]
  rfl

theorem phase_update_self {r : RelayState} {f : Session → Session} {phase next : Phase}
    (h : r.phase s = some phase) (hf : ∀ task, (f task).phase = next) :
    (r.update s f).phase s = some next := by
  obtain ⟨task, htask, -⟩ := Option.map_eq_some_iff.mp h
  rw [RelayState.phase, task_update, if_pos rfl, htask, Option.map_some, Option.map_some, hf]

/-- A write that leaves the phases alone. -/
theorem phase_update_same {f : Session → Session} (hf : ∀ task, (f task).phase = task.phase) :
    (st.update s f).phase t = st.phase t := by
  rw [phase, task_update]
  split
  · rw [Option.map_map]
    exact congrArg (fun g => st.tasks[t]?.map g) (funext hf)
  · rfl

theorem queueOf_update_same {f : Session → Session} (hf : ∀ task, (f task).queue = task.queue) :
    (st.update s f).queueOf t = st.queueOf t := by
  rw [queueOf, task_update]
  split
  · rw [Option.map_map]
    exact congrArg (fun g => (st.tasks[t]?.map g).getD []) (funext hf)
  · rfl

theorem queueOf_update_ne {f : Session → Session} (h : s ≠ t) : (st.update s f).queueOf t = st.queueOf t := by
  rw [queueOf, task_update, if_neg h]
  rfl

/-- A new task has read nothing, and nobody has sent it anything. -/
theorem accept_views (st : RelayState) (t : SessionId) :
    (({ st with tasks := st.tasks ++ [⟨.connected, [], []⟩] } : RelayState).phase t = st.phase t ∨
      st.phase t = none ∧
        ({ st with tasks := st.tasks ++ [⟨.connected, [], []⟩] } : RelayState).phase t = some .connected) ∧
    ({ st with tasks := st.tasks ++ [⟨.connected, [], []⟩] } : RelayState).queueOf t = st.queueOf t ∧
    ({ st with tasks := st.tasks ++ [⟨.connected, [], []⟩] } : RelayState).writtenOf t = st.writtenOf t := by
  simp only [phase, queueOf, writtenOf, List.getElem?_append, List.getElem?_singleton]
  by_cases hlt : t < st.tasks.length
  · rw [if_pos hlt]
    exact ⟨Or.inl rfl, rfl, rfl⟩
  · have hnone : st.tasks[t]? = none := List.getElem?_eq_none (Nat.not_lt.mp hlt)
    rw [if_neg hlt, hnone]
    by_cases hnew : t - st.tasks.length = 0
    · rw [if_pos hnew]
      exact ⟨Or.inr ⟨rfl, rfl⟩, rfl, rfl⟩
    · rw [if_neg hnew]
      exact ⟨Or.inl rfl, rfl, rfl⟩

end RelayState

-- ============================================================================
-- Who registered what
-- ============================================================================

namespace RelayState

variable {st st' : RelayState} {notes : List Note}

/-- How the phase of a task can change. -/
inductive Goes (st : RelayState) : Phase → Phase → Prop
  | idle {phase next : Phase} (h : Idles phase next) : Goes st phase next
  | registered (deviceId : String) : Goes st (.registering deviceId) (.serving deviceId)
  | unregistered (deviceId : String) : Goes st (.leaving deviceId) .ended
  | read (deviceId : String) (frame : RelayMessage) : Goes st (.serving deviceId) (.looking deviceId frame)
  | looked (deviceId : String) (frame : RelayMessage) :
      Goes st (.looking deviceId frame) (.sending deviceId frame (st.lookupSender frame))
  | sent (deviceId : String) (frame : RelayMessage) (sender : Option SessionId) :
      Goes st (.sending deviceId frame sender) (.serving deviceId)
  | torn (deviceId : String) (frame : RelayMessage) (sender : Option SessionId) :
      Goes st (.sending deviceId frame sender) .ended

/-- A step changes the phase of one task at most, or adds one. -/
theorem phases_of_moves (h : Moves st notes st') (t : SessionId) :
    st'.phase t = st.phase t ∨ (st.phase t = none ∧ st'.phase t = some .connected) ∨
      ∃ phase next, st.phase t = some phase ∧ st'.phase t = some next ∧ Goes st phase next := by
  have change : ∀ {st₀ : RelayState} {s : SessionId} {f : Session → Session} {phase next : Phase},
      (∀ u, st₀.phase u = st.phase u) → st.phase s = some phase → (∀ task, (f task).phase = next) →
      Goes st phase next → (st₀.update s f).phase t = st.phase t ∨
        (st.phase t = none ∧ (st₀.update s f).phase t = some .connected) ∨
        ∃ phase next, st.phase t = some phase ∧ (st₀.update s f).phase t = some next ∧ Goes st phase next := by
    intro st₀ s f phase next hsame hphase hf hgoes
    by_cases hst : s = t
    · subst hst
      exact Or.inr (Or.inr ⟨phase, next, hphase, phase_update_self ((hsame s).trans hphase) hf, hgoes⟩)
    · exact Or.inl ((phase_update_ne hst).trans (hsame t))
  cases h with
  | accept =>
      rcases (accept_views st t).1 with hsame | hnew
      · exact Or.inl hsame
      · exact Or.inr (Or.inl hnew)
  | idle hphase hidles => exact change (fun _ => rfl) hphase (fun _ => rfl) (.idle hidles)
  | register hphase => exact change (fun _ => rfl) hphase (fun _ => rfl) (.registered _)
  | unregister hphase => exact change (fun _ => rfl) hphase (fun _ => rfl) (.unregistered _)
  | read hphase => exact change (fun _ => rfl) hphase (fun _ => rfl) (.read _ _)
  | lookup hphase => exact change (fun _ => rfl) hphase (fun _ => rfl) (.looked _ _)
  | deliver hphase hlive =>
      exact change (fun u => phase_update_same fun _ => rfl) hphase (fun _ => rfl) (.sent _ _ _)
  | drop hphase hgone hwrote =>
      cases hwrote with
      | ok => exact change (fun _ => rfl) hphase (fun _ => rfl) (.sent _ _ _)
      | failed => exact change (fun _ => rfl) hphase (fun _ => rfl) (.torn _ _ _)
  | @take s deviceId message rest written next lines htask hwrote =>
      have hphase : st.phase s = some (.serving deviceId) := phase_of_task htask
      cases hwrote with
      | ok => exact change (fun _ => rfl) hphase (fun _ => rfl) (.idle (.stayed _))
      | failed => exact change (fun _ => rfl) hphase (fun _ => rfl) (.idle (.failed _))

/-- A task that has returned does nothing more. -/
theorem ended_of_moves (h : Moves st notes st') {t : SessionId} (hended : st.Ended t) : st'.Ended t := by
  rcases phases_of_moves h t with hsame | ⟨hnone, -⟩ | ⟨phase, next, hphase, -, hgoes⟩
  · exact hsame.trans hended
  · cases hnone.symm.trans hended
  · obtain rfl := Option.some.inj (hphase.symm.trans hended)
    cases hgoes with
    | idle hidles => cases hidles

/-- A task that is about to send was so before, or has just looked up its sender. -/
theorem sending_of_moves (h : Moves st notes st') {s : SessionId} {deviceId : String}
    {frame : RelayMessage} {sender : Option SessionId}
    (hphase : st'.phase s = some (.sending deviceId frame sender)) :
    st.phase s = some (.sending deviceId frame sender) ∨ st.lookupSender frame = sender := by
  rcases phases_of_moves h s with hsame | ⟨-, hnew⟩ | ⟨phase, next, -, hnext, hgoes⟩
  · exact Or.inl (hsame.symm.trans hphase)
  · cases hnew.symm.trans hphase
  · obtain rfl := Option.some.inj (hnext.symm.trans hphase)
    generalize hsending : Phase.sending deviceId frame sender = sending at hgoes
    cases hgoes with
    | idle hidles => cases hidles <;> cases hsending
    | looked d frame' =>
        injection hsending with _ hframe hsender
        rw [hframe]
        exact Or.inr hsender.symm
    | _ => cases hsending

/-- The task has registered the device. -/
def RegisteredAs (deviceId : String) : Option Phase → Prop
  | some (.serving d) | some (.looking d _) | some (.sending d _ _) | some (.leaving d) => d = deviceId
  | some .ended => True
  | _ => False

theorem registeredAs_of_goes {deviceId : String} {phase next : Phase} (h : Goes st phase next)
    (hphase : RegisteredAs deviceId (some phase)) : RegisteredAs deviceId (some next) := by
  cases h with
  | idle hidles =>
      cases hidles with
      | refused => trivial
      | greeted d => cases hphase
      | stayed d => exact hphase
      | left d => exact hphase
      | failed d => trivial
  | registered d => cases hphase
  | unregistered d => trivial
  | read d frame => exact hphase
  | looked d frame => exact hphase
  | sent d frame sender => exact hphase
  | torn d frame sender => trivial

theorem registeredAs_of_moves {deviceId : String} {t : SessionId} (h : Moves st notes st')
    (hphase : RegisteredAs deviceId (st.phase t)) : RegisteredAs deviceId (st'.phase t) := by
  rcases phases_of_moves h t with hsame | ⟨hnone, -⟩ | ⟨phase, next, hold, hnew, hgoes⟩
  · rw [hsame]
    exact hphase
  · rw [hnone] at hphase
    cases hphase
  · rw [hold] at hphase
    rw [hnew]
    exact registeredAs_of_goes hgoes hphase

/-- The map and the senders in flight lead to sessions that registered the device, and
    a session registers one device. -/
structure Registered (st : RelayState) : Prop where
  held : ∀ deviceId t, st.sessions.lookup deviceId = some t → (deviceId, t) ∈ st.registrations
  phases : ∀ deviceId t, (deviceId, t) ∈ st.registrations → RegisteredAs deviceId (st.phase t)
  devices : ∀ deviceId deviceId' t, (deviceId, t) ∈ st.registrations → (deviceId', t) ∈ st.registrations →
    deviceId = deviceId'
  senders : ∀ s deviceId frame t, st.phase s = some (.sending deviceId frame (some t)) →
    ∃ source destination payload, frame = .frame source destination payload ∧
      (destination, t) ∈ st.registrations

theorem registered_initial : Registered initial where
  held := fun _ _ h => by cases h
  phases := fun _ _ h => by cases h
  devices := fun _ _ _ h => by cases h
  senders := fun _ _ _ _ h => by cases h

theorem Registered.exists_phase (h : Registered st) {deviceId : String} {t : SessionId}
    (hmem : (deviceId, t) ∈ st.registrations) : ∃ phase, st.phase t = some phase := by
  have hphases := h.phases _ _ hmem
  cases hphase : st.phase t with
  | none =>
      rw [hphase] at hphases
      cases hphases
  | some phase => exact ⟨phase, rfl⟩

/-- A sender that a lookup gives. -/
theorem Registered.lookupSender (h : Registered st) {frame : RelayMessage} {t : SessionId}
    (hlookup : st.lookupSender frame = some t) :
    ∃ source destination payload, frame = .frame source destination payload ∧
      (destination, t) ∈ st.registrations := by
  cases frame with
  | frame source destination payload => exact ⟨source, destination, payload, rfl, h.held _ _ hlookup⟩
  | register deviceId nodeKey => cases hlookup
  | error message => cases hlookup

/-- Registrations are only added, and the sender of a task in flight is one that a
    lookup gave. -/
theorem Registered.senders_of_moves (h : Registered st) (hmove : Moves st notes st')
    (hgrow : ∀ r, r ∈ st.registrations → r ∈ st'.registrations) (s : SessionId) (deviceId : String)
    (frame : RelayMessage) (t : SessionId)
    (hphase : st'.phase s = some (.sending deviceId frame (some t))) :
    ∃ source destination payload, frame = .frame source destination payload ∧
      (destination, t) ∈ st'.registrations := by
  have hfound : ∃ source destination payload, frame = .frame source destination payload ∧
      (destination, t) ∈ st.registrations := by
    rcases sending_of_moves hmove hphase with hbefore | hlookup
    · exact h.senders s deviceId frame t hbefore
    · exact h.lookupSender hlookup
  obtain ⟨source, destination, payload, rfl, hmem⟩ := hfound
  exact ⟨source, destination, payload, rfl, hgrow _ hmem⟩

/-- A step that neither registers nor adds to the map. -/
theorem Registered.of_kept (h : Registered st) (hmove : Moves st notes st')
    (hregistrations : st'.registrations = st.registrations)
    (hheld : ∀ deviceId t, st'.sessions.lookup deviceId = some t → st.sessions.lookup deviceId = some t) :
    Registered st' where
  held := by
    intro deviceId t hlookup
    rw [hregistrations]
    exact h.held _ _ (hheld _ _ hlookup)
  phases := by
    intro deviceId t hmem
    rw [hregistrations] at hmem
    exact registeredAs_of_moves hmove (h.phases _ _ hmem)
  devices := by
    intro deviceId deviceId' t hmem hmem'
    rw [hregistrations] at hmem hmem'
    exact h.devices _ _ _ hmem hmem'
  senders := h.senders_of_moves hmove fun r hr => hregistrations ▸ hr

/-- `register` -/
theorem Registered.register (h : Registered st) {s : SessionId} {deviceId : String}
    (hphase : st.phase s = some (.registering deviceId)) :
    Registered ((st.register deviceId s).update s fun t => { t with phase := .serving deviceId }) where
  held := by
    intro d t hlookup
    change (st.sessions.insert deviceId s).lookup d = some t at hlookup
    rw [HashMap.lookup_insert_eq] at hlookup
    split at hlookup
    · rename_i hd
      obtain rfl := Option.some.inj hlookup
      rw [hd]
      exact List.mem_cons_self
    · exact List.mem_cons_of_mem _ (h.held _ _ hlookup)
  phases := by
    intro d t hmem
    rcases List.mem_cons.mp hmem with heq | hold
    · obtain ⟨rfl, rfl⟩ := Prod.mk.inj heq
      have hnext : ((st.register d t).update t fun task => { task with phase := .serving d }).phase t =
          some (.serving d) := phase_update_self (r := st.register d t) hphase fun _ => rfl
      rw [hnext]
      rfl
    · exact registeredAs_of_moves (.register hphase) (h.phases _ _ hold)
  devices := by
    -- before it registers, a session has not registered anything
    have hfresh : ∀ d, (d, s) ∉ st.registrations := by
      intro d hmem
      have hregistered := h.phases _ _ hmem
      rw [hphase] at hregistered
      cases hregistered
    intro d d' t hmem hmem'
    rcases List.mem_cons.mp hmem with heq | hold
    · obtain ⟨rfl, rfl⟩ := Prod.mk.inj heq
      rcases List.mem_cons.mp hmem' with heq' | hold'
      · exact (Prod.mk.inj heq').1.symm
      · exact absurd hold' (hfresh d')
    · rcases List.mem_cons.mp hmem' with heq' | hold'
      · obtain ⟨rfl, rfl⟩ := Prod.mk.inj heq'
        exact absurd hold (hfresh d)
      · exact h.devices _ _ _ hold hold'
  senders := h.senders_of_moves (.register hphase) fun _ hr => List.mem_cons_of_mem _ hr

theorem Registered.step (h : Registered st) (hmove : Moves st notes st') : Registered st' := by
  have hmove' := hmove
  cases hmove with
  | register hphase => exact h.register hphase
  | unregister hphase =>
      refine h.of_kept hmove' rfl fun d t hlookup => ?_
      change (st.sessions.erase _).lookup d = some t at hlookup
      rw [HashMap.lookup_erase_eq] at hlookup
      split at hlookup
      · cases hlookup
      · exact hlookup
  | accept => exact h.of_kept hmove' rfl fun _ _ hlookup => hlookup
  | idle hphase hidles => exact h.of_kept hmove' rfl fun _ _ hlookup => hlookup
  | read hphase => exact h.of_kept hmove' rfl fun _ _ hlookup => hlookup
  | lookup hphase => exact h.of_kept hmove' rfl fun _ _ hlookup => hlookup
  | deliver hphase hlive => exact h.of_kept hmove' rfl fun _ _ hlookup => hlookup
  | drop hphase hgone hwrote => exact h.of_kept hmove' rfl fun _ _ hlookup => hlookup
  | take htask hwrote => exact h.of_kept hmove' rfl fun _ _ hlookup => hlookup

end RelayState

end TfScale.Relay
