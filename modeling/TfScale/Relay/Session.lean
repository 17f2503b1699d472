/-
  TfScale.Relay.Session

  The relay service as a transition system.

  Every accepted connection is one `handle_session` task.  A task awaits a line,
  the lock of the sessions map or its own queue, and between two awaits of one
  task any other task may run; so a step below is what one task does from one
  await to the next.  `route_frame` takes two steps, since the sender it looked
  up is used after the lock is released.

  A sender is named by the session whose queue it feeds.  A channel is closed
  for its receiver when no sender is left (neither in the map nor in the hands
  of a task that has looked it up), and closed for its senders when the task
  that owns the receiver has returned.
-/

import TfScale.Core.Protocol
import TfScale.Lib.HashMap
import TfScale.Lib.Run

namespace TfScale.Relay

/-- The position of a session in the order of acceptance. -/
abbrev SessionId := Nat

/-- What a read of the connection gives: the end of the stream, an I/O error, or
    a line with the message that JSON decoding finds in it, if any. -/
inductive Inbound where
  | eof
  | failed
  | line (message : Option RelayMessage)
deriving DecidableEq, Repr

/-- Where a `handle_session` task stands. -/
inductive Phase where
  /-- before its first line -/
  | connected
  /-- before `register` -/
  | registering (deviceId : String)
  /-- in the `select!` of the loop -/
  | serving (deviceId : String)
  /-- in `route_frame`, before the lookup -/
  | looking (deviceId : String) (frame : RelayMessage)
  /-- in `route_frame`, with the sender that the lookup gave -/
  | sending (deviceId : String) (frame : RelayMessage) (sender : Option SessionId)
  /-- out of the loop, before `unregister` -/
  | leaving (deviceId : String)
  /-- returned -/
  | ended
deriving DecidableEq, Repr

structure Session where
  phase : Phase
  /-- messages sent to `tx` and not yet received from `rx` -/
  queue : List RelayMessage
  /-- lines written to the connection -/
  written : List RelayMessage
deriving DecidableEq, Repr

structure RelayState where
  sessions : HashMap String SessionId
  routedFrames : UInt64
  droppedFrames : UInt64
  tasks : List Session
  /-- every `register` so far, newest first; a history that nothing reads -/
  registrations : List (String × SessionId)

def RelayState.initial : RelayState := ⟨∅, 0, 0, [], []⟩

namespace RelayState

variable (st : RelayState)

def phase (s : SessionId) : Option Phase := st.tasks[s]?.map (·.phase)

def setPhase (s : SessionId) (phase : Phase) : RelayState :=
  { st with tasks := st.tasks.modify s fun session => { session with phase } }

/-- The task has returned. -/
def Ended (s : SessionId) : Prop := st.phase s = some .ended

instance (s : SessionId) : Decidable (st.Ended s) :=
  inferInstanceAs (Decidable (st.phase s = some .ended))

/-- A sender of the session's channel is still held somewhere. -/
def hasSender (s : SessionId) : Bool :=
  st.sessions.values.contains s ||
    st.tasks.any fun task =>
      match task.phase with
      | .sending _ _ sender => sender == some s
      | _ => false

-- ============================================================================
-- RelayState of the source
-- ============================================================================

def register (deviceId : String) (sender : SessionId) : RelayState :=
  { st with
    sessions := st.sessions.insert deviceId sender
    registrations := (deviceId, sender) :: st.registrations }

def unregister (deviceId : String) : RelayState :=
  { st with sessions := st.sessions.erase deviceId }

/-- The lookup of `route_frame`. -/
def lookupSender : RelayMessage → Option SessionId
  | .frame _ destination _ => st.sessions.lookup destination
  | _ => none

/-- `sender.send(frame)` and the counters: the state, and whether the frame was
    delivered. -/
def sendFrame (frame : RelayMessage) (sender : Option SessionId) : RelayState × Bool :=
  match sender with
  | some target =>
      if st.phase target = some .ended then
        ({ st with droppedFrames := st.droppedFrames + 1 }, false)
      else
        ({ st with
            tasks := st.tasks.modify target fun t => { t with queue := t.queue ++ [frame] }
            routedFrames := st.routedFrames + 1 }, true)
  | none => ({ st with droppedFrames := st.droppedFrames + 1 }, false)

/-- `write_message(..)?`: on success the task goes on in phase `next`, on failure
    the task returns. -/
def writeMessage (s : SessionId) (message : RelayMessage) (writeOk : Bool) (next : Phase) :
    RelayState :=
  if writeOk then
    { st with tasks := st.tasks.modify s fun session =>
        { session with phase := next, written := session.written ++ [message] } }
  else st.setPhase s .ended

end RelayState

-- ============================================================================
-- handle_session
-- ============================================================================

inductive Event where
  /-- `listener.accept()` and `tokio::spawn` -/
  | accept
  /-- the first `next_line` -/
  | firstLine (s : SessionId) (input : Inbound) (writeOk : Bool)
  | register (s : SessionId)
  /-- the `next_line` branch of the loop -/
  | inbound (s : SessionId) (input : Inbound) (writeOk : Bool)
  /-- `route_frame` up to the release of the lock -/
  | lookup (s : SessionId)
  /-- `route_frame` from there on, and the error line if it failed -/
  | send (s : SessionId) (writeOk : Bool)
  /-- the `rx.recv()` branch of the loop -/
  | outbound (s : SessionId) (writeOk : Bool)
  | unregister (s : SessionId)
deriving DecidableEq, Repr

/-- The error line for a frame that found no receiver. -/
def unknownDestination : RelayMessage → RelayMessage
  | .frame _ destination _ => .error ("unknown destination device: " ++ destination)
  | _ => .error "unknown destination device: "

namespace RelayState

def onFirstLine (st : RelayState) (s : SessionId) (writeOk : Bool) : Inbound → RelayState
  | .eof | .failed | .line none => st.setPhase s .ended
  | .line (some (.register deviceId _)) => st.setPhase s (.registering deviceId)
  | .line (some _) =>
      st.writeMessage s (.error "first relay message must be register") writeOk .ended

def onInbound (st : RelayState) (s : SessionId) (deviceId : String) (writeOk : Bool) :
    Inbound → RelayState
  | .eof => st.setPhase s (.leaving deviceId)
  -- a failed read or a line that does not decode leaves through `?`, past `unregister`
  | .failed | .line none => st.setPhase s .ended
  | .line (some (.frame source destination payload)) =>
      st.setPhase s (.looking deviceId (.frame source destination payload))
  | .line (some (.register _ _)) =>
      st.writeMessage s (.error "session is already registered") writeOk (.serving deviceId)
  | .line (some (.error _)) => st

/-- `rx.recv()`: a message, the end of the channel, or nothing to receive yet. -/
def onOutbound (st : RelayState) (s : SessionId) (deviceId : String) (queue : List RelayMessage)
    (writeOk : Bool) : Option RelayState :=
  match queue with
  | message :: rest =>
      some ({ st with tasks := st.tasks.modify s fun t => { t with queue := rest } }.writeMessage s
        message writeOk (.serving deviceId))
  | [] => if st.hasSender s then none else some (st.setPhase s (.leaving deviceId))

/-- One step of one task; `none` when the task is not at that point. -/
def step (st : RelayState) : Event → Option RelayState
  | .accept => some { st with tasks := st.tasks ++ [⟨.connected, [], []⟩] }
  | .firstLine s input writeOk =>
      match st.phase s with
      | some .connected => some (st.onFirstLine s writeOk input)
      | _ => none
  | .register s =>
      match st.phase s with
      | some (.registering deviceId) =>
          some ((st.register deviceId s).setPhase s (.serving deviceId))
      | _ => none
  | .inbound s input writeOk =>
      match st.phase s with
      | some (.serving deviceId) => some (st.onInbound s deviceId writeOk input)
      | _ => none
  | .lookup s =>
      match st.phase s with
      | some (.looking deviceId frame) =>
          some (st.setPhase s (.sending deviceId frame (st.lookupSender frame)))
      | _ => none
  | .send s writeOk =>
      match st.phase s with
      | some (.sending deviceId frame sender) =>
          match st.sendFrame frame sender with
          | (st', true) => some (st'.setPhase s (.serving deviceId))
          | (st', false) =>
              some (st'.writeMessage s (unknownDestination frame) writeOk (.serving deviceId))
      | _ => none
  | .outbound s writeOk =>
      match st.tasks[s]? with
      | some ⟨.serving deviceId, queue, _⟩ => st.onOutbound s deviceId queue writeOk
      | _ => none
  | .unregister s =>
      match st.phase s with
      | some (.leaving deviceId) => some ((st.unregister deviceId).setPhase s .ended)
      | _ => none

end RelayState

end TfScale.Relay
