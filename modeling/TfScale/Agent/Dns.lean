/-
  TfScale.Agent.Dns

  The resolver of the agent: the names it answers for, the question it reads from
  a DNS message, and the message it answers with.

  Two names are the same name when they are equal up to the case of ASCII letters
  and dots at the end (`SameName`); `normalizeName` decides that.
-/

import TfScale.Lib.Fallible
import TfScale.Lib.Text
import TfScale.Core.Protocol
import TfScale.Net.Addr

namespace TfScale.Agent

-- ============================================================================
-- Names
-- ============================================================================

/-- `normalize_name` -/
def normalizeName (value : String) : String :=
  String.ofList ((value.toList.rdropWhile (· == '.')).map Text.toAsciiLowercase)

/-- `normalize_suffix` -/
def normalizeSuffix (value : String) : String :=
  String.ofList (((value.toList.dropWhile (· == '.')).rdropWhile (· == '.')).map
    Text.toAsciiLowercase)

/-- A record that answers for a normalised name. -/
def answersFor (queryName : String) (record : DnsRecord) : Bool :=
  Text.eqIgnoreAsciiCase record.recordType.toList "A".toList && normalizeName record.name == queryName

/-- `resolve_a` -/
def resolveA (records : List DnsRecord) (qname suffix : String) : Option Ipv4Addr :=
  let queryName := normalizeName qname
  if !('.' :: (normalizeSuffix suffix).toList).isSuffixOf queryName.toList then none
  else (records.find? (answersFor queryName)).bind fun record => parseIpv4Addr record.value

-- ============================================================================
-- Questions
-- ============================================================================

def typeA : UInt16 := 1
def classIn : UInt16 := 1
def rcodeNxdomain : UInt16 := 3
def rcodeNotimp : UInt16 := 4
def responseTtlSeconds : UInt32 := 30

/-- How reading a message ends early: with an error that is returned, or because an
    index lies outside of it. -/
inductive Fault where
  | bail (message : String)
  | outOfBounds
deriving DecidableEq, Repr

/-- `packet[i]` -/
def byteAt (packet : Bytes) (i : Nat) : Except Fault UInt8 :=
  match packet[i]? with
  | some b => .ok b
  | none => .error .outOfBounds

/-- `&packet[start..stop]` -/
def slice (packet : Bytes) (start stop : Nat) : Except Fault Bytes :=
  if start ≤ stop ∧ stop ≤ packet.length then .ok ((packet.drop start).take (stop - start))
  else .error .outOfBounds

/-- `u16::from_be_bytes([packet[i], packet[i + 1]])` -/
def u16At (packet : Bytes) (i : Nat) : Except Fault UInt16 := do
  let high ← byteAt packet i
  let low ← byteAt packet (i + 1)
  return UInt16.ofNat (ofBe [high, low])

/-- `std::str::from_utf8` with `?` -/
def labelText (bytes : Bytes) : Except Fault (List Char) :=
  match Text.fromUtf8 bytes with
  | .ok text => .ok text
  | .error e => .error (.bail e.text)

structure DnsQuery where
  id : UInt16
  qname : String
  qtype : UInt16
  qclass : UInt16
  questionEnd : Nat
deriving DecidableEq, Repr

/-- The loop of `parse_query`: the labels from `offset` on, and the offset after
    them.  An iteration takes one of the `fuel` bytes left, or more. -/
def readLabels (packet : Bytes) : Nat → Nat → Except Fault (List (List Char) × Nat)
  | 0, _ => .error (.bail "DNS question name is truncated")
  | fuel + 1, offset =>
      if packet.length ≤ offset then .error (.bail "DNS question name is truncated")
      else do
        let len := (← byteAt packet offset).toNat
        let offset := offset + 1
        if len = 0 then return ([], offset)
        else if len &&& 0xC0 ≠ 0 then
          .error (.bail "compressed DNS question names are not supported")
        else if 63 < len ∨ packet.length < offset + len then
          .error (.bail "invalid DNS label length")
        else do
          let label ← labelText (← slice packet offset (offset + len))
          let (labels, stop) ← readLabels packet fuel (offset + len)
          return (label :: labels, stop)

/-- `parse_query` -/
def parseQuery (packet : Bytes) : Except Fault DnsQuery :=
  if packet.length < 12 then .error (.bail "DNS packet is too short")
  else do
    let qdcount ← u16At packet 4
    if qdcount ≠ 1 then .error (.bail "only one DNS question is supported")
    else do
      let id ← u16At packet 0
      let (labels, offset) ← readLabels packet packet.length 12
      if packet.length < offset + 4 then .error (.bail "DNS question type/class is truncated")
      else do
        let qtype ← u16At packet offset
        let qclass ← u16At packet (offset + 2)
        return ⟨id, String.ofList (['.'].intercalate labels), qtype, qclass, offset + 4⟩

-- ============================================================================
-- Answers
-- ============================================================================

/-- The resource record of an answer: the name by a pointer to the question. -/
def answerRecord (address : Ipv4Addr) : Bytes :=
  toBe 2 0xC00C ++ toBe 2 typeA.toNat ++ toBe 2 classIn.toNat ++ toBe 4 responseTtlSeconds.toNat ++
    toBe 2 4 ++ address.octets

/-- `build_response` -/
def buildResponse (request : Bytes) (records : List DnsRecord) (suffix : String) :
    Except Fault Bytes := do
  let query ← parseQuery request
  let answer :=
    if query.qtype = typeA ∧ query.qclass = classIn then resolveA records query.qname suffix else none
  let rcode :=
    if query.qtype = typeA then (if answer.isSome then 0 else rcodeNxdomain) else rcodeNotimp
  let question ← slice request 12 query.questionEnd
  return toBe 2 query.id.toNat ++
    toBe 2 ((0x8000 ||| 0x0400 ||| 0x0080 ||| rcode : UInt16)).toNat ++
    toBe 2 1 ++ toBe 2 answer.toList.length ++ toBe 2 0 ++ toBe 2 0 ++ question ++
    answer.toList.flatMap answerRecord

-- ============================================================================
-- The same name
-- ============================================================================

/-- Equal up to the case of ASCII letters and dots at the end. -/
def SameName (a b : String) : Prop :=
  ∃ (base base' : List Char) (i j : Nat), Text.CaseVariant base base' ∧
    a.toList = base ++ List.replicate i '.' ∧ b.toList = base' ++ List.replicate j '.'

theorem rdropWhile_append_dots (base : List Char) (i : Nat) :
    (base ++ List.replicate i '.').rdropWhile (· == '.') = base.rdropWhile (· == '.') := by
  induction i with
  | zero => rw [List.replicate_zero, List.append_nil]
  | succ i ih =>
      rw [List.replicate_succ', ← List.append_assoc, List.rdropWhile_concat_pos _ _ _ (by rfl), ih]

/-- Case and dots are independent of each other. -/
theorem map_rdropWhile_dot (text : List Char) :
    (text.rdropWhile (· == '.')).map Text.toAsciiLowercase =
      (text.map Text.toAsciiLowercase).rdropWhile (· == '.') := by
  have hdot : ((· == '.') ∘ Text.toAsciiLowercase) = (· == '.') := by
    funext ch
    rw [Function.comp_apply, Bool.eq_iff_iff, beq_iff_eq, beq_iff_eq, Text.toAsciiLowercase_eq_dot]
  rw [List.rdropWhile, List.rdropWhile, List.map_reverse, ← List.map_reverse (l := text),
    List.dropWhile_map, hdot]

theorem normalizeName_eq (value : String) : normalizeName value =
    String.ofList ((value.toList.map Text.toAsciiLowercase).rdropWhile (· == '.')) := by
  rw [normalizeName, map_rdropWhile_dot]

/-- What `normalize_name` drops is dots. -/
theorem exists_dots (text : List Char) :
    ∃ i, text = text.rdropWhile (· == '.') ++ List.replicate i '.' := by
  induction text using List.reverseRecOn with
  | nil => exact ⟨0, rfl⟩
  | append_singleton text ch ih =>
      by_cases hch : (ch == '.') = true
      · obtain ⟨i, hi⟩ := ih
        refine ⟨i + 1, ?_⟩
        rw [List.rdropWhile_concat, if_pos hch, List.replicate_succ', ← List.append_assoc, ← hi,
          beq_iff_eq.mp hch]
      · refine ⟨0, ?_⟩
        rw [List.rdropWhile_concat, if_neg hch, List.replicate_zero, List.append_nil]

/-- `normalize_name` tells names apart as `SameName` does. -/
theorem normalizeName_eq_iff {a b : String} : normalizeName a = normalizeName b ↔ SameName a b := by
  constructor
  · intro h
    obtain ⟨i, ha⟩ := exists_dots a.toList
    obtain ⟨j, hb⟩ := exists_dots b.toList
    exact ⟨_, _, i, j, Text.caseVariant_iff.mpr (String.ofList_injective h), ha, hb⟩
  · rintro ⟨base, base', i, j, hcase, ha, hb⟩
    rw [normalizeName_eq, normalizeName_eq, ha, hb, ← map_rdropWhile_dot, ← map_rdropWhile_dot,
      rdropWhile_append_dots, rdropWhile_append_dots, map_rdropWhile_dot, map_rdropWhile_dot,
      Text.caseVariant_iff.mp hcase]

theorem find?_of_unique {α : Type} {l : List α} {p : α → Bool} {a : α} (hmem : a ∈ l) (ha : p a = true)
    (hunique : ∀ b ∈ l, p b = true → b = a) : l.find? p = some a := by
  cases hfind : l.find? p with
  | none => exact absurd ha (List.find?_eq_none.mp hfind a hmem)
  | some b => rw [hunique b (List.mem_of_find?_eq_some hfind) (List.find?_some hfind)]

/-- A name that one record answers for resolves to the value of the record. -/
theorem resolveA_of_unique {records : List DnsRecord} {qname suffix : String} {record : DnsRecord}
    (hsuffix : '.' :: (normalizeSuffix suffix).toList <:+ (normalizeName qname).toList)
    (hmem : record ∈ records) (hanswers : answersFor (normalizeName qname) record = true)
    (hunique : ∀ r ∈ records, answersFor (normalizeName qname) r = true → r = record) :
    resolveA records qname suffix = parseIpv4Addr record.value := by
  have hsuffix' : (!('.' :: (normalizeSuffix suffix).toList).isSuffixOf
      (normalizeName qname).toList) = false := by
    rw [Bool.not_eq_false', List.isSuffixOf_iff_suffix]
    exact hsuffix
  simp only [resolveA, hsuffix', Bool.false_eq_true, if_false,
    find?_of_unique hmem hanswers hunique, Option.bind_some]

/-- A name under the suffix resolves to the value of the first record that answers for it. -/
theorem resolveA_eq_some_iff {records : List DnsRecord} {qname suffix : String}
    {address : Ipv4Addr} :
    resolveA records qname suffix = some address ↔
      '.' :: (normalizeSuffix suffix).toList <:+ (normalizeName qname).toList ∧
        ∃ record, records.find? (answersFor (normalizeName qname)) = some record ∧
          parseIpv4Addr record.value = some address := by
  simp only [resolveA]
  split
  · rename_i hsuffix
    rw [Bool.not_eq_true', ← Bool.not_eq_true, List.isSuffixOf_iff_suffix] at hsuffix
    exact ⟨nofun, fun h => absurd h.1 hsuffix⟩
  · rename_i hsuffix
    rw [Bool.not_eq_true', Bool.not_eq_false, List.isSuffixOf_iff_suffix] at hsuffix
    rw [Option.bind_eq_some_iff]
    exact ⟨fun h => ⟨hsuffix, h⟩, And.right⟩

/-- A name that no record answers for does not resolve. -/
theorem resolveA_eq_none {records : List DnsRecord} {qname suffix : String}
    (h : ∀ r ∈ records, answersFor (normalizeName qname) r = false) :
    resolveA records qname suffix = none := by
  have hfind : records.find? (answersFor (normalizeName qname)) = none :=
    List.find?_eq_none.mpr fun r hr => by rw [h r hr]; exact Bool.false_ne_true
  simp only [resolveA, hfind, Option.bind_none, ite_self]

-- ============================================================================
-- Questions as they are written
-- ============================================================================

/-- The labels of a name (`split('.')`). -/
def labelsOf (name : String) : List (List Char) := name.toList.splitOn '.'

/-- The number of bytes of a label (`str::len`). -/
def labelLength (label : List Char) : Nat := (strBytes (String.ofList label)).length

def encodeLabel (label : List Char) : Bytes :=
  UInt8.ofNat (labelLength label) :: strBytes (String.ofList label)

/-- The wire encoding of a name. -/
def encodeName (labels : List (List Char)) : Bytes := labels.flatMap encodeLabel ++ [0]

/-- The header of a message with one question. -/
def queryHeader (id : UInt16) : Bytes :=
  toBe 2 id.toNat ++ (toBe 2 0x0100 ++ (toBe 2 1 ++ (toBe 2 0 ++ (toBe 2 0 ++ toBe 2 0))))

/-- `query_packet` -/
def queryPacket (id : UInt16) (name : String) (qtype : UInt16) : Bytes :=
  queryHeader id ++ (encodeName (labelsOf name) ++ (toBe 2 qtype.toNat ++ toBe 2 classIn.toNat))

/-- A label that has a wire encoding, and reads as ASCII. -/
structure WireLabel (label : List Char) : Prop where
  ascii : ∀ ch ∈ label, ch.toNat < 128
  pos : 1 ≤ labelLength label
  le : labelLength label ≤ 63

end TfScale.Agent
