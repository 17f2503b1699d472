/-
  TfScale.Lib.LineReader

  `BufReader::read_line` over a socket with a read timeout.

  A call appends to the line what it takes off the socket, also when a timeout ends it.
  A caller that starts the next call with an empty line has lost those bytes: what the
  successive calls return then is, of every line of the stream, the part after the last
  timeout inside it (`pieces`).
-/

import Mathlib.Data.List.ReduceOption
import TfScale.Lib.Text

namespace TfScale.LineReader

/-- `b'\n'` -/
def newline : UInt8 := 10

/-- What a read of the socket gives while the connection lives: some bytes, or a timeout. -/
inductive SocketRead where
  | chunk (first : UInt8) (rest : Bytes)
  | timeout
deriving DecidableEq

/-- What the reads end with: a read that has not returned, the end of the stream, or an
    error that is no timeout. -/
inductive StreamEnd where
  | waiting
  | eof
  | failed
deriving DecidableEq

structure BufReader where
  buffered : Bytes
  /-- what the socket is going to give -/
  reads : List SocketRead

/-- What `read_until` gives: the bytes that the call appended, or an error. -/
inductive UntilRead where
  | ok (bytes : Bytes)
  | timedOut
  | failed
  | waiting

/-- The bytes before the first newline, and those after it. -/
def splitNewline : Bytes → Option (Bytes × Bytes)
  | [] => none
  | byte :: bytes =>
      if byte = newline then some ([], bytes)
      else (splitNewline bytes).map fun (head, tail) => (byte :: head, tail)

/-- `read_until(b'\n', ..)` with the bytes `line` appended so far. -/
def readUntil (ending : StreamEnd) (line buffered : Bytes) (reads : List SocketRead) :
    UntilRead × BufReader :=
  match splitNewline buffered with
  | some (head, tail) => (.ok (line ++ head ++ [newline]), ⟨tail, reads⟩)
  | none =>
      match reads with
      | .chunk first rest :: reads => readUntil ending (line ++ buffered) (first :: rest) reads
      | .timeout :: reads => (.timedOut, ⟨[], reads⟩)
      | [] =>
          match ending with
          | .waiting => (.waiting, ⟨[], []⟩)
          | .eof => (.ok (line ++ buffered), ⟨[], []⟩)
          | .failed => (.failed, ⟨[], []⟩)

/-- What a call of `read_line` on an empty line gives: the number of bytes and the line, or
    an error. -/
inductive LineRead where
  | ok (bytes : Nat) (line : List Char)
  | timedOut
  | failed
  | waiting

/-- `read_line` on an empty line: the appended bytes must be text. -/
def BufReader.readLine (ending : StreamEnd) (reader : BufReader) : LineRead × BufReader :=
  match readUntil ending [] reader.buffered reader.reads with
  | (.ok bytes, reader) =>
      match Text.fromUtf8 bytes with
      | .ok line => (.ok bytes.length line, reader)
      | .error _ => (.failed, reader)
  | (.timedOut, reader) => (.timedOut, reader)
  | (.failed, reader) => (.failed, reader)
  | (.waiting, reader) => (.waiting, reader)

def SocketRead.size : SocketRead → Nat
  | .chunk _ rest => rest.length + 2
  | .timeout => 1

/-- A bound for the calls that return without an error. -/
def BufReader.size (reader : BufReader) : Nat :=
  reader.buffered.length + (reader.reads.map SocketRead.size).sum

-- ============================================================================
-- Bytes and timeouts
-- ============================================================================

/-- The bytes that a read gives, or the timeout. -/
def SocketRead.arrivals : SocketRead → List (Option UInt8)
  | .chunk first rest => (first :: rest).map some
  | .timeout => [none]

/-- Bytes and timeouts in the order in which they are to come. -/
def BufReader.arrivals (reader : BufReader) : List (Option UInt8) :=
  reader.buffered.map some ++ reader.reads.flatMap SocketRead.arrivals

/-- A reader whose stream comes in one read. -/
def atOnce : Bytes → BufReader
  | [] => ⟨[], []⟩
  | first :: rest => ⟨[], [.chunk first rest]⟩

/-- What the successive calls on empty lines return, if a line of `line` bytes has begun. -/
def pieces (ending : StreamEnd) : Bytes → List (Option UInt8) → List Bytes
  | line, [] => if ending = .eof ∧ line ≠ [] then [line] else []
  | _, none :: arrivals => pieces ending [] arrivals
  | line, some byte :: arrivals =>
      if byte = newline then (line ++ [newline]) :: pieces ending [] arrivals
      else pieces ending (line ++ [byte]) arrivals

/-- The bytes since the last timeout, `line` before the first arrival. -/
def sinceTimeout : Bytes → List (Option UInt8) → Bytes
  | line, [] => line
  | _, none :: arrivals => sinceTimeout [] arrivals
  | line, some byte :: arrivals => sinceTimeout (line ++ [byte]) arrivals

/-- `P` holds of the bytes received before each timeout, `received` before the first
    arrival. -/
def TimeoutsAt (P : Bytes → Prop) : Bytes → List (Option UInt8) → Prop
  | _, [] => True
  | received, none :: arrivals => P received ∧ TimeoutsAt P received arrivals
  | received, some byte :: arrivals => TimeoutsAt P (received ++ [byte]) arrivals

/-- No line has begun. -/
def AtLineEnd (received : Bytes) : Prop := received = [] ∨ received.getLast? = some newline

variable {ending : StreamEnd} {P Q : Bytes → Prop} {received line : Bytes}
  {arrivals rest : List (Option UInt8)}

theorem atOnce_arrivals (bytes : Bytes) : (atOnce bytes).arrivals = bytes.map some := by
  cases bytes with
  | nil => rfl
  | cons first rest => simp [atOnce, BufReader.arrivals, SocketRead.arrivals]

theorem atLineEnd_append_newline (received : Bytes) : AtLineEnd (received ++ [newline]) :=
  Or.inr List.getLast?_concat

theorem not_atLineEnd_append {part : Bytes} (hne : part ≠ []) (hpart : newline ∉ part) :
    ¬ AtLineEnd (received ++ part) := by
  rintro (hnil | hlast)
  · exact hne (List.append_eq_nil_iff.mp hnil).2
  · rw [List.getLast?_append_of_ne_nil _ hne] at hlast
    exact hpart (List.mem_of_getLast? hlast)

-- ============================================================================
-- Pieces
-- ============================================================================

theorem pieces_bytes (bytes : Bytes) (hbytes : newline ∉ bytes) (line : Bytes) :
    pieces ending line (bytes.map some ++ arrivals) = pieces ending (line ++ bytes) arrivals := by
  induction bytes generalizing line with
  | nil => rw [List.map_nil, List.nil_append, List.append_nil]
  | cons byte bytes ih =>
      have hbyte : byte ≠ newline := (List.ne_of_not_mem_cons hbytes).symm
      simp only [List.map_cons, List.cons_append, pieces, if_neg hbyte]
      rw [ih (List.not_mem_of_not_mem_cons hbytes), List.append_assoc, List.singleton_append]

theorem splitNewline_eq_none {bytes : Bytes} (h : splitNewline bytes = none) : newline ∉ bytes := by
  induction bytes with
  | nil => exact List.not_mem_nil
  | cons byte bytes ih =>
      by_cases hbyte : byte = newline
      · simp [splitNewline, hbyte] at h
      · rw [splitNewline, if_neg hbyte, Option.map_eq_none_iff] at h
        exact List.not_mem_cons_of_ne_of_not_mem (Ne.symm hbyte) (ih h)

theorem splitNewline_eq_some {bytes head tail : Bytes} (h : splitNewline bytes = some (head, tail)) :
    bytes = head ++ newline :: tail ∧ newline ∉ head := by
  induction bytes generalizing head with
  | nil => cases h
  | cons byte bytes ih =>
      by_cases hbyte : byte = newline
      · rw [splitNewline, if_pos hbyte] at h
        obtain ⟨rfl, rfl⟩ := Prod.mk.inj (Option.some.inj h)
        exact ⟨by rw [hbyte, List.nil_append], List.not_mem_nil⟩
      · rw [splitNewline, if_neg hbyte] at h
        obtain ⟨⟨head', tail'⟩, hsplit, hpair⟩ := Option.map_eq_some_iff.mp h
        obtain ⟨rfl, rfl⟩ := Prod.mk.inj hpair
        obtain ⟨rfl, hnot⟩ := ih hsplit
        exact ⟨rfl, List.not_mem_cons_of_ne_of_not_mem (Ne.symm hbyte) hnot⟩

theorem arrivals_nil (buffered : Bytes) :
    BufReader.arrivals ⟨buffered, []⟩ = buffered.map some ++ [] := rfl

theorem arrivals_chunk (buffered : Bytes) (first : UInt8) (rest : Bytes) (reads : List SocketRead) :
    BufReader.arrivals ⟨buffered, .chunk first rest :: reads⟩ =
      buffered.map some ++ BufReader.arrivals ⟨first :: rest, reads⟩ := rfl

theorem arrivals_timeout (buffered : Bytes) (reads : List SocketRead) :
    BufReader.arrivals ⟨buffered, .timeout :: reads⟩ =
      buffered.map some ++ none :: BufReader.arrivals ⟨[], reads⟩ := rfl

theorem pieces_line (head : Bytes) (hhead : newline ∉ head) (line : Bytes) :
    pieces ending line (head.map some ++ some newline :: arrivals) =
      (line ++ head ++ [newline]) :: pieces ending [] arrivals := by
  rw [pieces_bytes head hhead, pieces, if_pos rfl]

/-- A call returns the first piece of what is to come, and leaves the others. -/
theorem readUntil_pieces (ending : StreamEnd) (line buffered : Bytes) (reads : List SocketRead) :
    pieces ending line (BufReader.arrivals ⟨buffered, reads⟩) =
      match readUntil ending line buffered reads with
      | (.ok bytes, reader) => if bytes = [] then [] else bytes :: pieces ending [] reader.arrivals
      | (.timedOut, reader) => pieces ending [] reader.arrivals
      | (.failed, _) => []
      | (.waiting, _) => [] := by
  fun_induction readUntil ending line buffered reads with
  | case1 reads line buffered head tail hsplit =>
      obtain ⟨rfl, hhead⟩ := splitNewline_eq_some hsplit
      dsimp only
      rw [if_neg (by simp), ← pieces_line head hhead line]
      simp [BufReader.arrivals]
  | case2 line buffered hsplit first rest reads ih =>
      rw [arrivals_chunk, pieces_bytes buffered (splitNewline_eq_none hsplit), ih]
  | case3 line buffered hsplit reads =>
      rw [arrivals_timeout, pieces_bytes buffered (splitNewline_eq_none hsplit)]
      rfl
  | case4 line buffered hsplit hwaiting =>
      subst hwaiting
      rw [arrivals_nil, pieces_bytes buffered (splitNewline_eq_none hsplit)]
      rfl
  | case5 line buffered hsplit heof =>
      subst heof
      rw [arrivals_nil, pieces_bytes buffered (splitNewline_eq_none hsplit)]
      by_cases hnil : line ++ buffered = []
      · simp [pieces, hnil]
      · simp [pieces, hnil, BufReader.arrivals]
  | case6 line buffered hsplit hfailed =>
      subst hfailed
      rw [arrivals_nil, pieces_bytes buffered (splitNewline_eq_none hsplit)]
      rfl

/-- What a call appends has been taken off the reader, and so has a timeout. -/
theorem readUntil_size (ending : StreamEnd) (line buffered : Bytes) (reads : List SocketRead) :
    match readUntil ending line buffered reads with
    | (.ok bytes, reader) =>
        bytes.length + reader.size ≤ line.length + BufReader.size ⟨buffered, reads⟩
    | (.timedOut, reader) => reader.size < line.length + BufReader.size ⟨buffered, reads⟩
    | _ => True := by
  fun_induction readUntil ending line buffered reads with
  | case1 reads line buffered head tail hsplit =>
      obtain ⟨rfl, -⟩ := splitNewline_eq_some hsplit
      simp only [BufReader.size, List.length_append, List.length_cons, List.length_nil]
      omega
  | case2 line buffered hsplit first rest reads ih =>
      have hless : (line ++ buffered).length + BufReader.size ⟨first :: rest, reads⟩ <
          line.length + BufReader.size ⟨buffered, .chunk first rest :: reads⟩ := by
        simp only [BufReader.size, List.length_append, List.length_cons, List.map_cons, List.sum_cons,
          SocketRead.size]
        omega
      revert ih
      rcases readUntil ending (line ++ buffered) (first :: rest) reads with ⟨_ | _ | _ | _, reader⟩
      · exact fun ih => le_trans ih hless.le
      · exact fun ih => lt_trans ih hless
      · exact fun _ => trivial
      · exact fun _ => trivial
  | case3 line buffered hsplit reads =>
      simp only [BufReader.size, List.length_nil, List.map_cons, List.sum_cons, SocketRead.size]
      omega
  | case4 line buffered hsplit hwaiting => trivial
  | case5 line buffered hsplit heof => simp [BufReader.size]
  | case6 line buffered hsplit hfailed => trivial

/-- A call that returns bytes or times out leaves less to come. -/
theorem readLine_size {reader reader' : BufReader} :
    (∀ n line, reader.readLine ending = (.ok (n + 1) line, reader') → reader'.size < reader.size) ∧
      (reader.readLine ending = (.timedOut, reader') → reader'.size < reader.size) := by
  have hsize := readUntil_size ending [] reader.buffered reader.reads
  unfold BufReader.readLine
  generalize readUntil ending [] reader.buffered reader.reads = next at hsize
  rcases next with ⟨bytes | _ | _ | _, rest⟩
  · dsimp only at hsize ⊢
    cases Text.fromUtf8 bytes with
    | ok text =>
        refine ⟨fun n line h => ?_, fun h => (by cases h)⟩
        obtain ⟨hok, rfl⟩ := Prod.mk.inj h
        obtain ⟨hlength, -⟩ := LineRead.ok.inj hok
        rw [hlength, List.length_nil, Nat.zero_add] at hsize
        exact lt_of_lt_of_le (Nat.lt_add_of_pos_left n.succ_pos) hsize
    | error e => exact ⟨fun n line h => (by cases h), fun h => (by cases h)⟩
  · refine ⟨fun n line h => (by cases h), fun h => ?_⟩
    obtain ⟨-, rfl⟩ := Prod.mk.inj h
    simpa using hsize
  · exact ⟨fun n line h => (by cases h), fun h => (by cases h)⟩
  · exact ⟨fun n line h => (by cases h), fun h => (by cases h)⟩

-- ============================================================================
-- Timeouts
-- ============================================================================

theorem timeoutsAt_append (received : Bytes) (arrivals rest : List (Option UInt8)) :
    TimeoutsAt P received (arrivals ++ rest) ↔
      TimeoutsAt P received arrivals ∧ TimeoutsAt P (received ++ arrivals.reduceOption) rest := by
  induction arrivals generalizing received with
  | nil => simp [TimeoutsAt, List.reduceOption_nil]
  | cons arrival arrivals ih =>
      cases arrival with
      | none =>
          simp only [List.cons_append, TimeoutsAt, List.reduceOption_cons_of_none]
          rw [ih, and_assoc]
      | some byte =>
          simp only [List.cons_append, TimeoutsAt, List.reduceOption_cons_of_some]
          rw [ih, List.append_assoc, List.singleton_append]

theorem timeoutsAt_bytes (received bytes : Bytes) : TimeoutsAt P received (bytes.map some) := by
  induction bytes generalizing received with
  | nil => trivial
  | cons byte bytes ih => exact ih (received ++ [byte])

theorem TimeoutsAt.of_forall (h : ∀ part, P (received ++ part)) (arrivals : List (Option UInt8)) :
    TimeoutsAt P received arrivals := by
  induction arrivals generalizing received with
  | nil => trivial
  | cons arrival arrivals ih =>
      cases arrival with
      | none => exact ⟨by simpa using h [], ih h⟩
      | some byte => exact ih fun part => by rw [List.append_assoc]; exact h _

theorem sinceTimeout_suffix (line : Bytes) (arrivals : List (Option UInt8)) :
    sinceTimeout line arrivals <:+ line ++ arrivals.reduceOption := by
  induction arrivals generalizing line with
  | nil => exact ⟨[], by simp [sinceTimeout, List.reduceOption_nil]⟩
  | cons arrival arrivals ih =>
      cases arrival with
      | none =>
          rw [List.reduceOption_cons_of_none]
          exact (ih []).trans (List.suffix_append line arrivals.reduceOption)
      | some byte =>
          rw [List.reduceOption_cons_of_some, List.append_cons]
          exact ih (line ++ [byte])

/-- Nothing is lost exactly when no timeout comes after a byte. -/
theorem timeoutsAt_iff_sinceTimeout (P : Bytes → Prop) (received line : Bytes) (arrivals : List (Option UInt8))
    (hP : ∀ part, part <+: line ++ arrivals.reduceOption → (P (received ++ part) ↔ part = [])) :
    TimeoutsAt P (received ++ line) arrivals ↔
      sinceTimeout line arrivals = line ++ arrivals.reduceOption := by
  induction arrivals generalizing line with
  | nil => simp [TimeoutsAt, sinceTimeout, List.reduceOption_nil]
  | cons arrival arrivals ih =>
      cases arrival with
      | none =>
          rw [List.reduceOption_cons_of_none] at hP ⊢
          simp only [TimeoutsAt, sinceTimeout]
          rw [hP line (List.prefix_append line _)]
          cases line with
          | nil => exact ⟨fun h => (ih [] hP).mp h.2, fun h => ⟨rfl, (ih [] hP).mpr h⟩⟩
          | cons byte line =>
              refine iff_of_false (fun h => (by cases h.1)) fun h => ?_
              have hlength := (sinceTimeout_suffix [] arrivals).length_le
              rw [h, List.nil_append, List.cons_append, List.length_cons, List.length_append] at hlength
              omega
      | some byte =>
          rw [List.reduceOption_cons_of_some, List.append_cons] at hP ⊢
          simp only [TimeoutsAt, sinceTimeout]
          rw [List.append_assoc]
          exact ih (line ++ [byte]) hP

/-- Inside a line a piece grows by what arrives, and a timeout empties it. -/
theorem pieces_append (ending : StreamEnd) (line : Bytes) (rest : List (Option UInt8))
    (h : newline ∉ arrivals.reduceOption) :
    pieces ending line (arrivals ++ rest) = pieces ending (sinceTimeout line arrivals) rest := by
  induction arrivals generalizing line with
  | nil => rfl
  | cons arrival arrivals ih =>
      cases arrival with
      | none => exact ih [] h
      | some byte =>
          rw [List.reduceOption_cons_of_some] at h
          have hbyte : byte ≠ newline := (List.ne_of_not_mem_cons h).symm
          simp only [List.cons_append, pieces, sinceTimeout, if_neg hbyte]
          exact ih (line ++ [byte]) (List.not_mem_of_not_mem_cons h)

/-- The arrivals up to the first newline. -/
theorem exists_first_line {head tail : Bytes} (h : arrivals.reduceOption = head ++ newline :: tail) :
    ∃ first rest, arrivals = first ++ some newline :: rest ∧ first.reduceOption = head ∧
      rest.reduceOption = tail := by
  induction arrivals generalizing head with
  | nil => simp [List.reduceOption_nil] at h
  | cons arrival arrivals ih =>
      cases arrival with
      | none =>
          rw [List.reduceOption_cons_of_none] at h
          obtain ⟨first, rest, rfl, hfirst, hrest⟩ := ih h
          exact ⟨none :: first, rest, rfl, by rw [List.reduceOption_cons_of_none, hfirst], hrest⟩
      | some byte =>
          rw [List.reduceOption_cons_of_some] at h
          cases head with
          | nil =>
              obtain ⟨rfl, htail⟩ := List.cons.inj h
              exact ⟨[], arrivals, rfl, List.reduceOption_nil, htail⟩
          | cons byte' head =>
              obtain ⟨rfl, htail⟩ := List.cons.inj h
              obtain ⟨first, rest, rfl, hfirst, hrest⟩ := ih htail
              exact ⟨some byte :: first, rest, rfl, by rw [List.reduceOption_cons_of_some, hfirst], hrest⟩

/-- Timeouts between lines change nothing. -/
theorem pieces_of_atLineEnd (h : TimeoutsAt AtLineEnd received arrivals)
    (hline : AtLineEnd received → line = []) :
    pieces ending line arrivals = pieces ending line (arrivals.reduceOption.map some) := by
  induction arrivals generalizing received line with
  | nil => rfl
  | cons arrival arrivals ih =>
      cases arrival with
      | none =>
          obtain rfl := hline h.1
          rw [List.reduceOption_cons_of_none]
          exact ih h.2 hline
      | some byte =>
          rw [List.reduceOption_cons_of_some, List.map_cons]
          simp only [pieces]
          by_cases hbyte : byte = newline
          · rw [if_pos hbyte, if_pos hbyte, ih h fun _ => rfl]
          · rw [if_neg hbyte, if_neg hbyte]
            refine ih h fun hend => ?_
            exact absurd hend (not_atLineEnd_append (List.cons_ne_nil _ _)
              (by simpa using Ne.symm hbyte))

end TfScale.LineReader
