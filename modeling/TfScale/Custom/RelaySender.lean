/-
  TfScale.Custom.RelaySender

  Does the relay sender get over a failed write?

  `ensure_connected` opens a connection only while none is cached, and keeps the new
  one once its Register line is written.  `send_frame` then writes the message to the
  cached connection and passes an error on, but leaves the connection where it is:
  the write may have stopped within a line, and every later line follows that torn
  one.  A failed connect and a failed Register line do no harm, since nothing has been
  cached by then.
-/

import TfScale.Custom.Runtime
import TfScale.Lib.Run

namespace TfScale.Custom

namespace TcpRelayFrameSender

variable {s s' : TcpRelayFrameSender} {net : RelayNet} {message : RelayMessage}

/-- The first line of every connection. -/
def registerLine (s : TcpRelayFrameSender) : RelayMessage := .register s.deviceId s.nodeKey

/-- A connection can be opened and its Register line written. -/
def Opens (s : TcpRelayFrameSender) (net : RelayNet) : Prop :=
  ∃ addr, relayTcpAddr s.relay.url = .ok addr ∧ net.connect addr = .ok () ∧
    net.write [] s.registerLine = .ok ()

/-- What a call of `send_frame` can do: it fails before there is a connection, or the
    message is the next line of the cached connection, or of a new one, and is written
    or not. -/
inductive Sends (s : TcpRelayFrameSender) (net : RelayNet) (message : RelayMessage) :
    Result Nat → TcpRelayFrameSender → Prop
  | refused {error : BackendError} (hwriter : s.writer = none) (hopens : ¬ s.Opens net) :
      Sends s net message (.error error) s
  | wrote {stream : RelayStream} {n : Nat}
      (hstream : s.writer = some stream ∨
        s.writer = none ∧ s.Opens net ∧ stream = ⟨[s.registerLine], false⟩)
      (hwrite : net.write stream.lines message = .ok ()) :
      Sends s net message (.ok n)
        { s with writer := some { stream with lines := stream.lines ++ [message] } }
  | tore {stream : RelayStream} {text : String}
      (hstream : s.writer = some stream ∨
        s.writer = none ∧ s.Opens net ∧ stream = ⟨[s.registerLine], false⟩)
      (hwrite : net.write stream.lines message = .error text) :
      Sends s net message (.error (.commandFailed text))
        { s with writer := some { stream with torn := true } }

theorem writeRelayMessage_written (stream : RelayStream) (h : net.write stream.lines message = .ok ()) :
    writeRelayMessage net stream message =
      (.ok (), { stream with lines := stream.lines ++ [message] }) := by
  rw [writeRelayMessage, h]

theorem writeRelayMessage_torn (stream : RelayStream) {text : String}
    (h : net.write stream.lines message = .error text) :
    writeRelayMessage net stream message = (commandFailed text, { stream with torn := true }) := by
  rw [writeRelayMessage, h]

/-- What `ensure_connected` can do. -/
theorem ensureConnected_cases (s : TcpRelayFrameSender) (net : RelayNet) :
    (s.writer ≠ none ∧ s.ensureConnected net = (.ok (), s)) ∨
    (s.writer = none ∧ s.Opens net ∧ s.ensureConnected net =
      (.ok (), { s with writer := some ⟨[s.registerLine], false⟩ })) ∨
    (s.writer = none ∧ ¬ s.Opens net ∧ ∃ error, s.ensureConnected net = (.error error, s)) := by
  unfold ensureConnected
  cases hwriter : s.writer with
  | some stream => exact Or.inl ⟨by simp, rfl⟩
  | none =>
      refine Or.inr ?_
      cases haddr : relayTcpAddr s.relay.url with
      | error error =>
          refine Or.inr ⟨rfl, ?_, error, rfl⟩
          rintro ⟨addr, hok, -, -⟩
          cases haddr.symm.trans hok
      | ok addr =>
          dsimp only
          have hsame : ∀ addr', relayTcpAddr s.relay.url = .ok addr' → addr' = addr :=
            fun addr' h => Except.ok.inj (h.symm.trans haddr)
          cases hconnect : net.connect addr with
          | error text =>
              refine Or.inr ⟨rfl, ?_, _, rfl⟩
              rintro ⟨addr', hok, hconnected, -⟩
              rw [hsame addr' hok, hconnect] at hconnected
              cases hconnected
          | ok =>
              dsimp only
              cases hwrite : net.write [] (.register s.deviceId s.nodeKey) with
              | error text =>
                  rw [writeRelayMessage_torn ⟨[], false⟩ hwrite]
                  refine Or.inr ⟨rfl, ?_, _, rfl⟩
                  rintro ⟨_, -, -, hwritten⟩
                  cases hwrite.symm.trans hwritten
              | ok =>
                  rw [writeRelayMessage_written ⟨[], false⟩ hwrite]
                  exact Or.inl ⟨rfl, ⟨addr, haddr, hconnect, hwrite⟩, rfl⟩

/-- The message on a connection. -/
theorem sends_stream {stream : RelayStream}
    (hstream : s.writer = some stream ∨
      s.writer = none ∧ s.Opens net ∧ stream = ⟨[s.registerLine], false⟩)
    (hconnected : s.ensureConnected net = (.ok (), { s with writer := some stream })) :
    Sends s net message (s.sendFrame net message).1 (s.sendFrame net message).2 := by
  unfold sendFrame
  rw [hconnected]
  dsimp only
  cases hwrite : net.write stream.lines message with
  | error text =>
      rw [writeRelayMessage_torn stream hwrite]
      exact .tore hstream hwrite
  | ok =>
      rw [writeRelayMessage_written stream hwrite]
      cases message with
      | frame source destination payload => exact .wrote hstream hwrite
      | register deviceId nodeKey => exact .wrote hstream hwrite
      | error text => exact .wrote hstream hwrite

theorem sends_sendFrame (s : TcpRelayFrameSender) (net : RelayNet) (message : RelayMessage) :
    Sends s net message (s.sendFrame net message).1 (s.sendFrame net message).2 := by
  rcases s.ensureConnected_cases net with
    ⟨hcached, hconnected⟩ | ⟨hwriter, hopens, hconnected⟩ | ⟨hwriter, hopens, error, hfailed⟩
  · obtain ⟨stream, hwriter⟩ := Option.ne_none_iff_exists'.mp hcached
    have hsame : s = { s with writer := some stream } := by
      rw [← hwriter]
    rw [hsame] at hconnected
    exact sends_stream (Or.inl hwriter) (by rw [← hsame] at hconnected; rw [hconnected, ← hsame])
  · exact sends_stream (Or.inr ⟨hwriter, hopens, rfl⟩) hconnected
  · unfold sendFrame
    rw [hfailed]
    exact .refused hwriter hopens

/-- The cached connection, if there is one, carries the Register line and after it
    nothing but lines that were written in full. -/
def Intact (s : TcpRelayFrameSender) : Prop :=
  ∀ stream, s.writer = some stream →
    stream.torn = false ∧ stream.lines.head? = some s.registerLine

/-- The message is to be written to a connection, the cached one or one that is opened
    for it, and the write fails. -/
def LosesLine (s : TcpRelayFrameSender) (net : RelayNet) (message : RelayMessage) : Prop :=
  ∃ stream text,
    (s.writer = some stream ∨ s.writer = none ∧ s.Opens net ∧ stream = ⟨[s.registerLine], false⟩) ∧
      net.write stream.lines message = .error text

end TcpRelayFrameSender

-- ============================================================================
-- Histories of calls
-- ============================================================================

/-- One call of `send_frame`: the message, and what the network does during it. -/
structure SendCall where
  net : RelayNet
  message : RelayMessage

/-- The sender after some calls, and whether the last of them returned an error. -/
structure SendHistory where
  sender : TcpRelayFrameSender
  failed : Bool

namespace SendHistory

open TcpRelayFrameSender

variable {h h' : SendHistory} {call : SendCall}

def start (relay : RelayConfig) (deviceId nodeKey : String) : SendHistory :=
  ⟨.new relay deviceId nodeKey, false⟩

def step (h : SendHistory) (call : SendCall) : Option SendHistory :=
  some ⟨(h.sender.sendFrame call.net call.message).2,
    !(h.sender.sendFrame call.net call.message).1.isOk⟩

/-- What a sender that gets over failures does: it keeps no torn connection, it opens
    a new one and registers there after a call that failed, and it sends the message
    whenever connecting and writing succeed. -/
structure Recovers (h : SendHistory) : Prop where
  intact : h.sender.Intact
  reconnects : h.failed = true → ∀ net message n s',
    h.sender.sendFrame net message = (.ok n, s') →
      s'.writer = some ⟨[h.sender.registerLine, message], false⟩
  sends : ∀ net message,
    (∃ addr, relayTcpAddr h.sender.relay.url = .ok addr ∧ net.connect addr = .ok ()) →
    (∀ lines line, net.write lines line = .ok ()) →
      ∃ n, (h.sender.sendFrame net message).1 = .ok n

/-- Nothing torn is cached, and nothing at all after a call that failed. -/
structure Sound (h : SendHistory) : Prop where
  intact : h.sender.Intact
  dropped : h.failed = true → h.sender.writer = none

theorem sound_start (relay : RelayConfig) (deviceId nodeKey : String) :
    (start relay deviceId nodeKey).Sound where
  intact := fun _ hstream => by cases hstream
  dropped := fun hfailed => by cases hfailed

/-- When connecting and writing succeed, so does the call, on whatever connection. -/
theorem sends_of_network (s : TcpRelayFrameSender) {net : RelayNet} (message : RelayMessage)
    (hconnect : ∃ addr, relayTcpAddr s.relay.url = .ok addr ∧ net.connect addr = .ok ())
    (hwrite : ∀ lines line, net.write lines line = .ok ()) :
    ∃ n, (s.sendFrame net message).1 = .ok n := by
  have hsends := s.sends_sendFrame net message
  generalize (s.sendFrame net message).1 = result at hsends ⊢
  generalize (s.sendFrame net message).2 = s' at hsends
  cases hsends with
  | refused hwriter hopens =>
      obtain ⟨addr, haddr, hconnected⟩ := hconnect
      exact absurd ⟨addr, haddr, hconnected, hwrite _ _⟩ hopens
  | wrote hstream hwritten => exact ⟨_, rfl⟩
  | tore hstream hfailed => cases (hwrite _ _).symm.trans hfailed

theorem Sound.recovers (hs : h.Sound) : h.Recovers where
  intact := hs.intact
  reconnects := by
    intro hfailed net message n s' heq
    have hsends := h.sender.sends_sendFrame net message
    have hnone := hs.dropped hfailed
    rw [heq] at hsends
    cases hsends with
    | wrote hstream hwritten =>
        rcases hstream with hcached | ⟨-, -, rfl⟩
        · cases hnone.symm.trans hcached
        · rfl
  sends := fun _ message hconnect hwrite => sends_of_network h.sender message hconnect hwrite

theorem Sound.step (hs : h.Sound) (hspared : ¬ h.sender.LosesLine call.net call.message)
    (hstep : h.step call = some h') : h'.Sound := by
  obtain rfl := Option.some.inj hstep
  have hsends := h.sender.sends_sendFrame call.net call.message
  generalize (h.sender.sendFrame call.net call.message).1 = result at hsends ⊢
  generalize (h.sender.sendFrame call.net call.message).2 = s' at hsends ⊢
  cases hsends with
  | refused hwriter hopens => exact ⟨hs.intact, fun _ => hwriter⟩
  | wrote hstream hwritten =>
      refine ⟨fun stream' hstream' => ?_, fun hfailed => (by cases hfailed)⟩
      obtain rfl := Option.some.inj hstream'
      rcases hstream with hcached | ⟨-, -, rfl⟩
      · obtain ⟨htorn, hregister⟩ := hs.intact _ hcached
        refine ⟨htorn, ?_⟩
        rw [List.head?_append, hregister]
        rfl
      · exact ⟨rfl, rfl⟩
  | tore hstream hfailed => exact absurd ⟨_, _, hstream, hfailed⟩ hspared

/-- A message whose write fails leaves its connection in the cache. -/
theorem not_recovers_of_losesLine (hlost : h.sender.LosesLine call.net call.message) :
    ∃ h', h.step call = some h' ∧ ¬ h'.Recovers := by
  refine ⟨_, rfl, fun hrecovers => ?_⟩
  obtain ⟨stream, text, hstream, hfailed⟩ := hlost
  have hintact := hrecovers.intact
  have hsends := h.sender.sends_sendFrame call.net call.message
  dsimp only at hintact
  generalize (h.sender.sendFrame call.net call.message).1 = result at hsends
  generalize (h.sender.sendFrame call.net call.message).2 = s' at hsends hintact
  have hsame : ∀ stream' : RelayStream, (h.sender.writer = some stream' ∨
      h.sender.writer = none ∧ h.sender.Opens call.net ∧
        stream' = ⟨[h.sender.registerLine], false⟩) → stream' = stream := by
    rintro stream' (hcached' | ⟨hnone', -, rfl⟩)
    · rcases hstream with hcached | ⟨hnone, -, -⟩
      · exact Option.some.inj (hcached'.symm.trans hcached)
      · cases hnone.symm.trans hcached'
    · rcases hstream with hcached | ⟨-, -, rfl⟩
      · cases hnone'.symm.trans hcached
      · rfl
  cases hsends with
  | refused hwriter hopens =>
      rcases hstream with hcached | ⟨-, hopened, -⟩
      · cases hwriter.symm.trans hcached
      · exact hopens hopened
  | wrote hstream' hwritten =>
      obtain rfl := hsame _ hstream'
      cases hwritten.symm.trans hfailed
  | tore hstream' hfailed' =>
      obtain ⟨htorn, -⟩ := hintact _ rfl
      cases htorn

/-- **Recovery.**  Over any history of calls, the sender gets over every failure exactly
    when no message is lost on a connection: the failures it gets over are those before
    its Register line is written. -/
theorem relay_sender_recovers_iff (relay : RelayConfig) (deviceId nodeKey : String)
    (calls : List SendCall) :
    Throughout step Recovers (start relay deviceId nodeKey) calls ↔
      Along step (fun h call => ¬ h.sender.LosesLine call.net call.message)
        (start relay deviceId nodeKey) calls :=
  throughout_iff_along (fun _ hs => hs.recovers) (fun _ _ _ hs hspared hstep => hs.step hspared hstep)
    (fun _ _ _ hlost => not_recovers_of_losesLine (not_not.mp hlost))
    (sound_start relay deviceId nodeKey) calls

/-- The sender has a connection in its cache on which a write failed. -/
def HoldsTorn (h : SendHistory) : Prop :=
  ∃ stream, h.sender.writer = some stream ∧ stream.torn = true

theorem HoldsTorn.step (htorn : h.HoldsTorn) (hstep : h.step call = some h') : h'.HoldsTorn := by
  obtain ⟨stream, hwriter, htorn⟩ := htorn
  obtain rfl := Option.some.inj hstep
  have hsends := h.sender.sends_sendFrame call.net call.message
  unfold HoldsTorn
  generalize (h.sender.sendFrame call.net call.message).1 = result at hsends ⊢
  generalize (h.sender.sendFrame call.net call.message).2 = s' at hsends ⊢
  cases hsends with
  | refused hnone hopens => cases hnone.symm.trans hwriter
  | wrote hstream hwritten =>
      rcases hstream with hcached | ⟨hnone, -, -⟩
      · obtain rfl := Option.some.inj (hcached.symm.trans hwriter)
        exact ⟨_, rfl, htorn⟩
      · cases hnone.symm.trans hwriter
  | tore hstream hfailed => exact ⟨_, rfl, rfl⟩

/-- A torn connection is kept for good, however many calls succeed on it. -/
theorem holdsTorn_of_run {calls : List SendCall} (htorn : h.HoldsTorn)
    (hrun : run step h calls = some h') : h'.HoldsTorn :=
  invariant_run (fun _ _ _ hinv hstep => hinv.step hstep) htorn hrun

def relayFrame (payload : String) : RelayMessage := .frame "dev_a" "dev_b" payload

/-- The second of three frames is lost to a broken pipe. -/
def brokenPipe : List SendCall :=
  [⟨⟨fun _ => .ok (), fun _ _ => .ok ()⟩, relayFrame "one"⟩,
   ⟨⟨fun _ => .ok (), fun _ _ => .error "broken pipe"⟩, relayFrame "two"⟩,
   ⟨⟨fun _ => .ok (), fun _ _ => .ok ()⟩, relayFrame "three"⟩]

/-- The third frame follows the torn one on the same connection. -/
theorem torn_connection_reused :
    ∃ h, run step (start ⟨"relay_1", "tcp://127.0.0.1:7000", "local"⟩ "dev_a" "key") brokenPipe =
        some h ∧ h.failed = false ∧
      h.sender.writer = some ⟨[.register "dev_a" "key", relayFrame "one", relayFrame "three"], true⟩ ∧
      ¬ h.Recovers := by
  have hrun : (run step (start ⟨"relay_1", "tcp://127.0.0.1:7000", "local"⟩ "dev_a" "key")
      brokenPipe).any (fun h => decide (h.failed = false ∧ h.sender.writer =
        some ⟨[.register "dev_a" "key", relayFrame "one", relayFrame "three"], true⟩)) = true := by
    decide +kernel
  obtain ⟨h, hh, hfacts⟩ := (Option.any_eq_true _ _).mp hrun
  obtain ⟨hsucceeded, hwriter⟩ := of_decide_eq_true hfacts
  refine ⟨h, hh, hsucceeded, hwriter, fun hrecovers => ?_⟩
  obtain ⟨htorn, -⟩ := hrecovers.intact _ hwriter
  cases htorn

end SendHistory

end TfScale.Custom
