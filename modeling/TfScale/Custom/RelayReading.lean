/-
  TfScale.Custom.RelayReading

  The read loop of `spawn_relay_to_tun_loop`: which messages of the relay's stream reach
  `open_relay_frame`.

  The line is a new `String` in every iteration, and a read timeout (250 ms) ends an
  iteration wherever the stream stands.  What is left of a line after a timeout inside it is
  taken for a line of its own, so the message is lost, and if the timeout falls inside a
  character the rest is no text and the loop ends.  `relay_reading_iff` has the condition.
-/

import Mathlib.Data.List.Infix
import TfScale.Core.Protocol
import TfScale.Lib.LineReader

namespace TfScale.Custom

open LineReader

-- ============================================================================
-- The loop
-- ============================================================================

/-- `serde_json` at `RelayMessage`: `to_vec`, and `from_str` where it succeeds. -/
structure RelayJson where
  toVec : RelayMessage → Bytes
  fromStr : List Char → Option RelayMessage

namespace RelayJson

variable (J : RelayJson)

/-- What `write_relay_message` and the relay's `write_message` write. -/
def line (message : RelayMessage) : Bytes := J.toVec message ++ [newline]

/-- The messages that the loop gives to `open_relay_frame`, while nothing stops it and the
    lock is not poisoned. -/
def relayLoop (ending : StreamEnd) (reader : BufReader) : List RelayMessage :=
  match _hread : reader.readLine ending with
  | (.ok 0 _, _) => []
  | (.ok (_ + 1) line, reader') => (J.fromStr line).toList ++ relayLoop ending reader'
  | (.timedOut, reader') => relayLoop ending reader'
  | (.failed, _) => []
  | (.waiting, _) => []
termination_by reader.size
decreasing_by
  · exact readLine_size.1 _ _ _hread
  · exact readLine_size.2 _hread

/-- The message that a line is decoded to. -/
def messageOf (piece : Bytes) : Option RelayMessage :=
  match Text.fromUtf8 piece with
  | .ok line => J.fromStr line
  | .error _ => none

/-- The messages of what the calls of `read_line` return; a line that is no text is an error
    and ends the loop. -/
def messagesOf : List Bytes → List RelayMessage
  | [] => []
  | piece :: pieces =>
      match Text.fromUtf8 piece with
      | .ok line => (J.fromStr line).toList ++ messagesOf pieces
      | .error _ => []

variable {J}

/-- One iteration deals with the first piece of what is to come. -/
theorem messagesOf_pieces (ending : StreamEnd) (reader : BufReader) :
    J.messagesOf (pieces ending [] reader.arrivals) =
      match reader.readLine ending with
      | (.ok 0 _, _) => []
      | (.ok (_ + 1) line, reader') =>
          (J.fromStr line).toList ++ J.messagesOf (pieces ending [] reader'.arrivals)
      | (.timedOut, reader') => J.messagesOf (pieces ending [] reader'.arrivals)
      | (.failed, _) => []
      | (.waiting, _) => [] := by
  have hpieces := readUntil_pieces ending [] reader.buffered reader.reads
  unfold BufReader.readLine
  generalize readUntil ending [] reader.buffered reader.reads = next at hpieces
  rw [show reader.arrivals = BufReader.arrivals ⟨reader.buffered, reader.reads⟩ from rfl, hpieces]
  rcases next with ⟨bytes | _ | _ | _, reader'⟩
  · cases bytes with
    | nil => rfl
    | cons byte bytes =>
        dsimp only
        rw [if_neg (List.cons_ne_nil byte bytes), messagesOf]
        cases Text.fromUtf8 (byte :: bytes) with
        | ok line => rfl
        | error e => rfl
  · rfl
  · rfl
  · rfl

theorem relayLoop_eq (ending : StreamEnd) (reader : BufReader) :
    J.relayLoop ending reader = J.messagesOf (pieces ending [] reader.arrivals) := by
  fun_induction relayLoop J ending reader with
  | case1 reader line reader' hread => rw [messagesOf_pieces, hread]
  | case2 reader n line reader' hread ih => rw [messagesOf_pieces, hread, ih]
  | case3 reader reader' hread ih => rw [messagesOf_pieces, hread, ih]
  | case4 reader reader' hread => rw [messagesOf_pieces, hread]
  | case5 reader reader' hread => rw [messagesOf_pieces, hread]

-- ============================================================================
-- Streams of the relay
-- ============================================================================

/-- What the two programs rely on: the JSON of a message is text without a newline, decodes
    to the message with the newline after it, and no proper rest of the line decodes. -/
structure Faithful (J : RelayJson) (message : RelayMessage) : Prop where
  oneLine : newline ∉ J.toVec message
  text : ∃ line, Text.fromUtf8 (J.line message) = .ok line ∧ J.fromStr line = some message
  rest : ∀ rest, rest <:+ J.line message → rest ≠ J.line message → J.messageOf rest = none

/-- The beginning of a line: no newline yet, and no proper rest of it decodes. -/
structure Unfinished (J : RelayJson) (tail : Bytes) : Prop where
  oneLine : newline ∉ tail
  rest : ∀ rest, rest <:+ tail → rest ≠ tail → J.messageOf rest = none

/-- The message of an unfinished line, which the end of the stream lets through. -/
def tailMessage (J : RelayJson) (ending : StreamEnd) (tail : Bytes) : List RelayMessage :=
  if ending = .eof ∧ tail ≠ [] then (J.messageOf tail).toList else []

/-- A timeout after these bytes does no harm: no line has begun, or the `complete` lines are
    through and what follows them gives no message. -/
def Harmless (J : RelayJson) (ending : StreamEnd) (complete tail received : Bytes) : Prop :=
  AtLineEnd received ∨ (complete.length ≤ received.length ∧ J.tailMessage ending tail = [])

theorem messagesOf_singleton (piece : Bytes) : J.messagesOf [piece] = (J.messageOf piece).toList := by
  unfold messagesOf messageOf
  cases Text.fromUtf8 piece with
  | ok line => simp [messagesOf]
  | error e => rfl

theorem messagesOf_unfinished {ending : StreamEnd} {arrivals : List (Option UInt8)}
    (h : newline ∉ arrivals.reduceOption) :
    J.messagesOf (pieces ending [] arrivals) = J.tailMessage ending (sinceTimeout [] arrivals) := by
  have hpieces := pieces_append ending [] [] h
  rw [List.append_nil] at hpieces
  rw [hpieces]
  simp only [pieces, tailMessage]
  split
  · exact messagesOf_singleton _
  · rfl

theorem Unfinished.tailMessage_rest {ending : StreamEnd} {tail rest : Bytes} (h : J.Unfinished tail)
    (hrest : rest <:+ tail) (hne : rest ≠ tail) : J.tailMessage ending rest = [] := by
  unfold tailMessage
  split
  · rw [h.rest rest hrest hne]
    rfl
  · rfl

/-- After the last complete line: the unfinished one is let through if and only if nothing of
    it is lost, or there is nothing to let through. -/
theorem messagesOf_tail {ending : StreamEnd} {tail done : Bytes} (htail : J.Unfinished tail)
    (hdone : AtLineEnd done) {arrivals : List (Option UInt8)} (hbytes : arrivals.reduceOption = tail) :
    (TimeoutsAt (J.Harmless ending done tail) done arrivals →
      J.messagesOf (pieces ending [] arrivals) = J.tailMessage ending tail) ∧
    (¬ TimeoutsAt (J.Harmless ending done tail) done arrivals →
      (J.messagesOf (pieces ending [] arrivals)).length < (J.tailMessage ending tail).length) := by
  subst hbytes
  rw [messagesOf_unfinished htail.oneLine]
  have hsuffix : sinceTimeout [] arrivals <:+ arrivals.reduceOption := sinceTimeout_suffix [] arrivals
  by_cases hnone : J.tailMessage ending arrivals.reduceOption = []
  · have hall : TimeoutsAt (J.Harmless ending done arrivals.reduceOption) done arrivals :=
      TimeoutsAt.of_forall (fun part => Or.inr ⟨by simp, hnone⟩) arrivals
    refine ⟨fun _ => ?_, fun hnot => absurd hall hnot⟩
    by_cases hwhole : sinceTimeout [] arrivals = arrivals.reduceOption
    · rw [hwhole]
    · rw [hnone, htail.tailMessage_rest hsuffix hwhole]
  · have hiff := timeoutsAt_iff_sinceTimeout (J.Harmless ending done arrivals.reduceOption) done
      [] arrivals fun part hpart => by
        refine ⟨fun hharmless => ?_, fun hnil => Or.inl (by rw [hnil, List.append_nil]; exact hdone)⟩
        by_contra hne
        rcases hharmless with hend | ⟨-, hempty⟩
        · exact not_atLineEnd_append hne (fun hmem => htail.oneLine (hpart.subset hmem)) hend
        · exact hnone hempty
    rw [List.append_nil, List.nil_append] at hiff
    rw [hiff]
    refine ⟨fun hwhole => by rw [hwhole], fun hlost => ?_⟩
    rw [htail.tailMessage_rest hsuffix hlost]
    exact List.length_pos_iff.mpr hnone

/-- A line of the relay: its message comes through if and only if nothing of it is lost. -/
theorem messagesOf_line (ending : StreamEnd) {message : RelayMessage} (h : J.Faithful message)
    {first : List (Option UInt8)} (rest : List (Option UInt8)) (hfirst : first.reduceOption = J.toVec message) :
    (sinceTimeout [] first = J.toVec message →
      J.messagesOf (pieces ending [] (first ++ some newline :: rest)) =
        message :: J.messagesOf (pieces ending [] rest)) ∧
    (sinceTimeout [] first ≠ J.toVec message →
      (J.messagesOf (pieces ending [] (first ++ some newline :: rest))).length ≤
        (J.messagesOf (pieces ending [] rest)).length) := by
  have hpieces : pieces ending [] (first ++ some newline :: rest) =
      (sinceTimeout [] first ++ [newline]) :: pieces ending [] rest := by
    rw [pieces_append ending [] _ (hfirst ▸ h.oneLine), pieces, if_pos rfl]
  rw [hpieces]
  constructor
  · intro hwhole
    obtain ⟨line, htext, hline⟩ := h.text
    rw [hwhole, messagesOf, show J.toVec message ++ [newline] = J.line message from rfl, htext]
    dsimp only
    rw [hline]
    rfl
  · intro hlost
    have hrest : J.messageOf (sinceTimeout [] first ++ [newline]) = none := by
      refine h.rest _ ?_ fun heq => hlost (List.append_cancel_right heq)
      obtain ⟨lost, heq⟩ := sinceTimeout_suffix [] first
      rw [List.nil_append, hfirst] at heq
      exact ⟨lost, by rw [← List.append_assoc, heq]; rfl⟩
    unfold messageOf at hrest
    rw [messagesOf]
    cases htext : Text.fromUtf8 (sinceTimeout [] first ++ [newline]) with
    | ok line =>
        rw [htext] at hrest
        dsimp only at hrest ⊢
        rw [hrest]
        exact le_refl _
    | error e => exact Nat.zero_le _

/-- The timeouts before the end of a line are harmless if and only if nothing of it is lost. -/
theorem timeoutsAt_line (ending : StreamEnd) (tail : Bytes) {message : RelayMessage}
    (h : J.Faithful message) {done complete : Bytes} (hdone : AtLineEnd done)
    (hcomplete : (done ++ J.line message).length ≤ complete.length) {first : List (Option UInt8)}
    (hfirst : first.reduceOption = J.toVec message) :
    TimeoutsAt (J.Harmless ending complete tail) done first ↔ sinceTimeout [] first = J.toVec message := by
  have hiff := timeoutsAt_iff_sinceTimeout (J.Harmless ending complete tail) done []
    first fun part hpart => by
      rw [List.nil_append, hfirst] at hpart
      refine ⟨fun hharmless => ?_, fun hnil => Or.inl (by rw [hnil, List.append_nil]; exact hdone)⟩
      by_contra hne
      rcases hharmless with hend | ⟨hthrough, -⟩
      · exact not_atLineEnd_append hne (fun hmem => h.oneLine (hpart.subset hmem)) hend
      · have hshort := hpart.length_le
        simp only [line, List.length_append, List.length_singleton] at hcomplete hthrough
        omega
  rw [List.append_nil, List.nil_append, hfirst] at hiff
  exact hiff

/-- A stream of messages, of which the lines `done` are through. -/
theorem messagesOf_stream (ending : StreamEnd) {tail : Bytes} (htail : J.Unfinished tail)
    (messages : List RelayMessage) (hmessages : ∀ message ∈ messages, J.Faithful message) (done : Bytes)
    (hdone : AtLineEnd done) (arrivals : List (Option UInt8))
    (hbytes : arrivals.reduceOption = messages.flatMap J.line ++ tail) :
    (TimeoutsAt (J.Harmless ending (done ++ messages.flatMap J.line) tail) done arrivals →
      J.messagesOf (pieces ending [] arrivals) = messages ++ J.tailMessage ending tail) ∧
    (¬ TimeoutsAt (J.Harmless ending (done ++ messages.flatMap J.line) tail) done arrivals →
      (J.messagesOf (pieces ending [] arrivals)).length <
        (messages ++ J.tailMessage ending tail).length) := by
  induction messages generalizing done arrivals with
  | nil =>
      rw [List.flatMap_nil, List.append_nil, List.nil_append]
      exact messagesOf_tail htail hdone hbytes
  | cons message messages ih =>
      have hmessage := hmessages message List.mem_cons_self
      rw [List.flatMap_cons, line, List.append_assoc, List.append_assoc, List.singleton_append] at hbytes
      obtain ⟨first, rest, rfl, hfirst, hrest⟩ := exists_first_line hbytes
      obtain ⟨hkept, hless⟩ := ih (fun m hm => hmessages m (List.mem_cons_of_mem _ hm))
        (done ++ J.line message) (by rw [line, ← List.append_assoc]; exact atLineEnd_append_newline _)
        rest hrest
      obtain ⟨hwhole, hlost⟩ := messagesOf_line ending hmessage rest hfirst
      rw [List.append_assoc, ← List.flatMap_cons] at hkept hless
      rw [timeoutsAt_append, hfirst]
      have hcomplete : (done ++ J.line message).length ≤
          (done ++ (message :: messages).flatMap J.line).length := by simp
      rw [timeoutsAt_line ending tail hmessage hdone hcomplete hfirst]
      have hnext : TimeoutsAt (J.Harmless ending (done ++ (message :: messages).flatMap J.line) tail)
          (done ++ J.toVec message) (some newline :: rest) ↔
          TimeoutsAt (J.Harmless ending (done ++ (message :: messages).flatMap J.line) tail)
            (done ++ J.line message) rest := by
        rw [TimeoutsAt, line, List.append_assoc]
      rw [hnext]
      constructor
      · rintro ⟨hfirstWhole, hrestHarmless⟩
        rw [hwhole hfirstWhole, hkept hrestHarmless, List.cons_append]
      · intro hharm
        rw [List.cons_append, List.length_cons]
        by_cases hfirstWhole : sinceTimeout [] first = J.toVec message
        · rw [hwhole hfirstWhole, List.length_cons]
          exact Nat.succ_lt_succ (hless fun hrestHarmless => hharm ⟨hfirstWhole, hrestHarmless⟩)
        · refine Nat.lt_succ_of_le ((hlost hfirstWhole).trans ?_)
          by_cases hrestHarmless : TimeoutsAt (J.Harmless ending
              (done ++ (message :: messages).flatMap J.line) tail) (done ++ J.line message) rest
          · rw [hkept hrestHarmless]
          · exact (hless hrestHarmless).le

end RelayJson

/-- The bytes that the reads give, in one. -/
def streamBytes (reads : List SocketRead) : Bytes :=
  (BufReader.arrivals ⟨[], reads⟩).reduceOption

open RelayJson in
/-- **Reading from the relay.**  For every list of messages that the relay writes, an
    unfinished line after them, every way in which these bytes arrive in reads and timeouts,
    and every end of the stream: at once, every line gives its message; with the timeouts, the
    loop gets the same messages if and only if every timeout is harmless.  And whatever the
    bytes are, timeouts between lines change nothing. -/
theorem relay_reading_iff (J : RelayJson) (messages : List RelayMessage) (tail : Bytes)
    (reads : List SocketRead) (ending : StreamEnd) (hmessages : ∀ message ∈ messages, J.Faithful message)
    (htail : J.Unfinished tail) (hbytes : streamBytes reads = messages.flatMap J.line ++ tail) :
    J.relayLoop ending (atOnce (streamBytes reads)) = messages ++ J.tailMessage ending tail ∧
    (J.relayLoop ending ⟨[], reads⟩ = J.relayLoop ending (atOnce (streamBytes reads)) ↔
      TimeoutsAt (J.Harmless ending (messages.flatMap J.line) tail) []
        (BufReader.arrivals ⟨[], reads⟩)) ∧
    ∀ (bytes : List SocketRead) (end' : StreamEnd),
      TimeoutsAt AtLineEnd [] (BufReader.arrivals ⟨[], bytes⟩) →
        J.relayLoop end' ⟨[], bytes⟩ = J.relayLoop end' (atOnce (streamBytes bytes)) := by
  have hnil : AtLineEnd [] := Or.inl rfl
  have honce : J.relayLoop ending (atOnce (streamBytes reads)) =
      messages ++ J.tailMessage ending tail := by
    rw [relayLoop_eq, atOnce_arrivals]
    refine (messagesOf_stream ending htail messages hmessages [] hnil _ ?_).1 (timeoutsAt_bytes _ _)
    rw [← hbytes]
    simp [List.reduceOption]
  refine ⟨honce, ?_, fun bytes end' hbetween => ?_⟩
  · rw [honce, relayLoop_eq]
    obtain ⟨hkept, hless⟩ := messagesOf_stream ending htail messages hmessages [] hnil _ hbytes
    refine ⟨fun hsame => ?_, hkept⟩
    by_contra hharm
    exact absurd (congrArg List.length hsame) (hless hharm).ne
  · rw [relayLoop_eq, relayLoop_eq, atOnce_arrivals, pieces_of_atLineEnd hbetween fun _ => rfl]
    rfl

namespace Reference

def errorText : String := "\x7b\"type\":\"error\",\"message\":\"x\"\x7d"

/-- `serde_json` on one message and its rests. -/
def errorJson : RelayJson where
  toVec := fun _ => strBytes errorText
  fromStr := fun line =>
    if line = errorText.toList ∨ line = errorText.toList ++ ['\n'] then some (.error "x") else none

def errorLine : Bytes := errorJson.line (.error "x")

theorem errorJson_faithful : errorJson.Faithful (.error "x") where
  oneLine := by decide +kernel
  text := ⟨errorText.toList ++ ['\n'], by decide +kernel, by decide +kernel⟩
  rest := by
    intro rest hrest hne
    have htails : ∀ rest ∈ errorLine.tails, rest ≠ errorLine → errorJson.messageOf rest = none := by
      decide +kernel
    exact htails rest ((List.mem_tails rest errorLine).mpr hrest) hne

/-- The line in two reads, with a timeout between them. -/
def slowLine : List SocketRead :=
  [.chunk 0x7B ((errorLine.take 10).drop 1), .timeout, .chunk 0x72 (errorLine.drop 11)]

/-- Two lines, the first in two reads, with timeouts before, between and after them. -/
def lateLines : List SocketRead :=
  [.timeout, .chunk 0x7B ((errorLine.take 10).drop 1), .chunk 0x72 (errorLine.drop 11), .timeout,
    .timeout, .chunk 0x7B (errorLine.drop 1), .timeout]

end Reference

open Reference RelayJson in
theorem relay_reading_late_lines :
    errorJson.relayLoop .waiting ⟨[], lateLines⟩ =
      errorJson.relayLoop .waiting (atOnce (streamBytes lateLines)) := by
  have harrivals : BufReader.arrivals ⟨[], lateLines⟩ = none :: (errorLine.map some ++
      none :: none :: (errorLine.map some ++ [none])) := by
    decide +kernel
  refine (relay_reading_iff errorJson [.error "x", .error "x"] [] lateLines .waiting ?_ ⟨?_, ?_⟩
    ?_).2.1.mpr ?_
  · intro message hmessage
    obtain rfl : message = .error "x" := by simpa using hmessage
    exact errorJson_faithful
  · exact List.not_mem_nil
  · exact fun rest hrest hne => absurd (List.eq_nil_of_suffix_nil hrest) hne
  · decide +kernel
  · rw [harrivals]
    -- each timeout finds the stream at the end of a line
    have hone : AtLineEnd ([] ++ (errorLine.map some).reduceOption) := Or.inr (by decide +kernel)
    have htwo : AtLineEnd ([] ++ (errorLine.map some).reduceOption ++
        (errorLine.map some).reduceOption) := Or.inr (by decide +kernel)
    refine ⟨Or.inl (Or.inl rfl), (timeoutsAt_append _ _ _).mpr ⟨timeoutsAt_bytes _ _, ?_⟩⟩
    refine ⟨Or.inl hone, Or.inl hone, (timeoutsAt_append _ _ _).mpr ⟨timeoutsAt_bytes _ _, ?_⟩⟩
    exact ⟨Or.inl htwo, trivial⟩

open Reference RelayJson in
/-- The first bytes of the line come before a timeout: its message is lost. -/
theorem slow_line_lost :
    errorJson.relayLoop .waiting ⟨[], slowLine⟩ = [] ∧
      errorJson.relayLoop .waiting (atOnce (streamBytes slowLine)) = [.error "x"] ∧
      ¬ errorJson.relayLoop .waiting ⟨[], slowLine⟩ =
        errorJson.relayLoop .waiting (atOnce (streamBytes slowLine)) := by
  simp only [relayLoop_eq]
  decide +kernel

end TfScale.Custom
