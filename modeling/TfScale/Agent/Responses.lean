/-
  TfScale.Agent.Responses

  Is a response one that the asker can read, and is it about what was asked?

  A response repeats the question of the request behind a header of its own, and an answer
  follows where the request may have had trailing bytes.  So it has the grammar of a
  question itself (`Question.answered`), with the labels, the type and the class of the
  request, and what `parse_query` makes of it is what it made of the request.
-/

import TfScale.Agent.Questions

namespace TfScale.Agent

variable {request : Bytes} {query : DnsQuery} {records : List DnsRecord} {suffix : String}

-- ============================================================================
-- The header
-- ============================================================================

/-- The flags of an authoritative response with the code. -/
def responseFlags (rcode : UInt16) : UInt16 := 0x8000 ||| 0x0400 ||| 0x0080 ||| rcode

/-- The header of a response to the id, with the code, one question and the number of
    answers. -/
def responseHeader (id rcode answers : UInt16) : Bytes :=
  toBe 2 id.toNat ++ (toBe 2 (responseFlags rcode).toNat ++ (toBe 2 (1 : UInt16).toNat ++
    (toBe 2 answers.toNat ++ (toBe 2 0 ++ toBe 2 0))))

theorem responseHeader_length (id rcode answers : UInt16) :
    (responseHeader id rcode answers).length = 12 := by
  simp only [responseHeader, List.length_append, toBe_length]

section Header

variable (id rcode answers : UInt16)

theorem fieldAt_responseHeader_id : fieldAt (responseHeader id rcode answers) 0 = id :=
  fieldAt_toBe id _

theorem fieldAt_responseHeader_flags :
    fieldAt (responseHeader id rcode answers) 2 = responseFlags rcode :=
  (fieldAt_skip id.toNat _ 0).trans (fieldAt_toBe _ _)

theorem fieldAt_responseHeader_questions :
    fieldAt (responseHeader id rcode answers) 4 = 1 :=
  (fieldAt_skip id.toNat _ 2).trans ((fieldAt_skip _ _ 0).trans (fieldAt_toBe 1 _))

theorem fieldAt_responseHeader_answers :
    fieldAt (responseHeader id rcode answers) 6 = answers :=
  (fieldAt_skip id.toNat _ 4).trans ((fieldAt_skip _ _ 2).trans
    ((fieldAt_skip _ _ 0).trans (fieldAt_toBe answers _)))

end Header

-- ============================================================================
-- The message
-- ============================================================================

/-- The answer to a question: for addresses in the Internet class only. -/
def answerFor (query : DnsQuery) (records : List DnsRecord) (suffix : String) : Option Ipv4Addr :=
  if query.qtype = typeA ∧ query.qclass = classIn then resolveA records query.qname suffix else none

/-- The code of the response. -/
def rcodeFor (query : DnsQuery) (answer : Option Ipv4Addr) : UInt16 :=
  if query.qtype = typeA then (if answer.isSome then 0 else rcodeNxdomain) else rcodeNotimp

namespace Question

variable (q : Question)

/-- The question as it stands in the message. -/
def asked : Bytes :=
  encodeName q.labels ++ (toBe 2 q.qtype.toNat ++ toBe 2 q.qclass.toNat)

theorem asked_length : 12 + q.asked.length = q.questionEnd := by
  simp only [asked, questionEnd, List.length_append, toBe_length]
  omega

theorem bytes_eq_asked : q.bytes = q.header.val ++ (q.asked ++ q.trailing) := by
  simp only [bytes, afterName, asked, List.append_assoc]

theorem slice_asked : slice q.bytes 12 q.questionEnd = .ok q.asked := by
  have hlength := q.bytes_length
  have hasked := q.asked_length
  rw [slice, if_pos (by omega), q.bytes_eq_asked, List.drop_left' q.header.length_val,
    show q.questionEnd - 12 = q.asked.length by omega, List.take_left]

/-- The response as a question: a header of its own, and the answer at the end. -/
def answered (rcode : UInt16) (answer : Option Ipv4Addr) : Question where
  header := ⟨responseHeader (fieldAt q.header.val 0) rcode (UInt16.ofNat answer.toList.length),
    responseHeader_length _ _ _⟩
  labels := q.labels
  qtype := q.qtype
  qclass := q.qclass
  trailing := answer.toList.flatMap answerRecord
  count := fieldAt_responseHeader_questions _ _ _
  sized := q.sized

theorem answered_query (rcode : UInt16) (answer : Option Ipv4Addr) :
    (q.answered rcode answer).query = q.query := by
  simp only [query, answered, questionEnd, fieldAt_responseHeader_id]

end Question

/-- The response to a question. -/
theorem buildResponse_bytes (q : Question) (records : List DnsRecord) (suffix : String) :
    buildResponse q.bytes records suffix =
      .ok (q.answered (rcodeFor q.query (answerFor q.query records suffix))
        (answerFor q.query records suffix)).bytes := by
  obtain ⟨answer, hanswer⟩ : ∃ answer, answer = answerFor q.query records suffix := ⟨_, rfl⟩
  have hcount : (UInt16.ofNat answer.toList.length).toNat = answer.toList.length := by
    cases answer with
    | none => rfl
    | some address => rfl
  rw [buildResponse, parseQuery_bytes, ← hanswer]
  show (slice q.bytes 12 q.questionEnd >>= _) = _
  rw [q.slice_asked, Question.bytes_eq_asked]
  show Except.ok _ = Except.ok _
  rw [show (if q.query.qtype = typeA ∧ q.query.qclass = classIn then
    resolveA records q.query.qname suffix else none) = answer from hanswer.symm]
  simp only [Question.answered, Question.asked, responseHeader, responseFlags, rcodeFor, hcount,
    List.append_assoc]
  rfl

-- ============================================================================
-- What the asker sees
-- ============================================================================

/-- The code in the flags of a message. -/
def rcodeOf (message : Bytes) : UInt16 := fieldAt message 2 &&& 0x000F

/-- The question of a message that ends at `stop`. -/
def questionBytes (message : Bytes) (stop : Nat) : Bytes := (message.drop 12).take (stop - 12)

theorem Question.questionBytes_eq (q : Question) : questionBytes q.bytes q.questionEnd = q.asked := by
  have hasked := q.asked_length
  rw [questionBytes, q.bytes_eq_asked, List.drop_left' q.header.length_val,
    show q.questionEnd - 12 = q.asked.length by omega, List.take_left]

theorem Question.take_id (q : Question) :
    q.bytes.take 2 = toBe 2 (fieldAt q.header.val 0).toNat := by
  have hlength : 0 + 2 ≤ q.header.val.length := by
    rw [q.header.length_val]
    omega
  have hheader := toBe_fieldAt_append hlength
  rw [List.drop_zero] at hheader
  rw [bytes, ← hheader, List.append_assoc, List.take_left' (toBe_length 2 _), hheader]

theorem Question.rcodeOf_answered (q : Question) (rcode : UInt16) (answer : Option Ipv4Addr) :
    rcodeOf (q.answered rcode answer).bytes = responseFlags rcode &&& 0x000F := by
  rw [rcodeOf, (q.answered rcode answer).fieldAt_header (by omega)]
  exact congrArg (· &&& 0x000F) (fieldAt_responseHeader_flags _ _ _)

theorem Question.answers_answered (q : Question) (rcode : UInt16) (answer : Option Ipv4Addr) :
    fieldAt (q.answered rcode answer).bytes 6 = UInt16.ofNat answer.toList.length := by
  rw [(q.answered rcode answer).fieldAt_header (by omega)]
  exact fieldAt_responseHeader_answers _ _ _

theorem answerFor_eq_some_iff {address : Ipv4Addr} :
    answerFor query records suffix = some address ↔
      query.qtype = typeA ∧ query.qclass = classIn ∧
        resolveA records query.qname suffix = some address := by
  rw [answerFor]
  split
  · rename_i h
    exact ⟨fun hresolve => ⟨h.1, h.2, hresolve⟩, fun hall => hall.2.2⟩
  · rename_i h
    exact ⟨nofun, fun hall => absurd ⟨hall.1, hall.2.1⟩ h⟩

/-- A name pointer, type, class, TTL, length and four octets. -/
theorem answerRecord_length (address : Ipv4Addr) : (answerRecord address).length = 16 := by
  simp only [answerRecord, List.length_append, toBe_length, Ipv4Addr.octets, List.length_cons,
    List.length_nil]

/-- **Responses repeat the question.**  The response to an accepted request carries its id
    and the bytes of its question, and reads as the same question.  It has one answer
    exactly when an address was asked for in the Internet class and the name resolves: then
    it is the header, the question and the record of that address, with code zero.
    Otherwise it ends at the question, with a code that says whether the name does not
    exist or the type is not served. -/
theorem responses_repeat_question (h : parseQuery request = .ok query) (records : List DnsRecord)
    (suffix : String) :
    ∃ response, buildResponse request records suffix = .ok response ∧
      response.take 2 = request.take 2 ∧
      questionBytes response query.questionEnd = questionBytes request query.questionEnd ∧
      parseQuery response = .ok query ∧
      (fieldAt response 6 = 1 ↔ query.qtype = typeA ∧ query.qclass = classIn ∧
        (resolveA records query.qname suffix).isSome = true) ∧
      (∀ address, query.qtype = typeA → query.qclass = classIn →
        resolveA records query.qname suffix = some address →
          response = responseHeader query.id 0 1 ++ questionBytes request query.questionEnd ++
            answerRecord address ∧
          (answerRecord address).length = 16 ∧ rcodeOf response = 0) ∧
      (¬ (query.qtype = typeA ∧ query.qclass = classIn ∧
          (resolveA records query.qname suffix).isSome = true) →
        response.length = query.questionEnd ∧ fieldAt response 6 = 0 ∧
          rcodeOf response = if query.qtype = typeA then rcodeNxdomain else rcodeNotimp) := by
  obtain ⟨q, rfl, rfl⟩ := question_of_parseQuery h
  refine ⟨_, buildResponse_bytes q records suffix, ?_⟩
  have hsome : ∀ address, answerFor q.query records suffix = some address ↔
      q.query.qtype = typeA ∧ q.query.qclass = classIn ∧
        resolveA records q.query.qname suffix = some address :=
    fun address => answerFor_eq_some_iff
  have hisSome : (answerFor q.query records suffix).isSome = true ↔ q.query.qtype = typeA ∧
      q.query.qclass = classIn ∧ (resolveA records q.query.qname suffix).isSome = true := by
    simp only [Option.isSome_iff_exists, hsome, exists_and_left]
  rw [← hisSome]
  generalize answerFor q.query records suffix = answer at hsome ⊢
  obtain ⟨rcode, hrcode⟩ : ∃ rcode, rcode = rcodeFor q.query answer := ⟨_, rfl⟩
  rw [← hrcode]
  have hend : (q.answered rcode answer).questionEnd = q.query.questionEnd := rfl
  have hasked : questionBytes (q.answered rcode answer).bytes q.query.questionEnd = q.asked := by
    rw [← hend, Question.questionBytes_eq]
    rfl
  have hcount := q.answers_answered rcode answer
  refine ⟨?_, hasked.trans q.questionBytes_eq.symm, ?_, ?_, ?_, ?_⟩
  · rw [Question.take_id, Question.take_id]
    exact congrArg (fun id : UInt16 => toBe 2 id.toNat) (fieldAt_responseHeader_id _ _ _)
  · rw [parseQuery_bytes, q.answered_query]
  · rw [hcount]
    cases answer with
    | none => decide
    | some address => exact iff_of_true rfl rfl
  · intro address hqtype hqclass hresolve
    have hanswer := (hsome address).mpr ⟨hqtype, hqclass, hresolve⟩
    have hzero : rcode = 0 := by
      rw [hrcode, hanswer, rcodeFor, if_pos hqtype]
      rfl
    refine ⟨?_, answerRecord_length address, ?_⟩
    · have hquestion : questionBytes q.bytes q.query.questionEnd = q.asked := q.questionBytes_eq
      rw [Question.bytes_eq_asked, hquestion, hanswer, hzero, List.append_assoc]
      simp only [Question.answered, Option.toList_some, List.flatMap_cons, List.flatMap_nil,
        List.append_nil]
      rfl
    · rw [q.rcodeOf_answered, hzero]
      rfl
  · intro hnone
    obtain rfl : answer = none := Option.not_isSome_iff_eq_none.mp hnone
    refine ⟨?_, hcount, ?_⟩
    · rw [Question.bytes_length]
      rfl
    · rw [q.rcodeOf_answered, hrcode, rcodeFor]
      split <;> rfl

namespace Reference

/-- A question for a name in capitals, with two bytes behind it. -/
def devboxRequest : Bytes := queryPacket 7 "DEVBOX.mesh" typeA ++ [1, 2]

def devboxRecords : List DnsRecord := [⟨"dev_1", "devbox.mesh", "A", "100.64.0.3"⟩]

end Reference

open Reference in
/-- The name resolves, so the response has the record behind the question. -/
theorem responses_repeat_question_devbox :
    ∃ response, buildResponse devboxRequest devboxRecords "mesh" = .ok response ∧
      parseQuery response = parseQuery devboxRequest ∧ fieldAt response 6 = 1 ∧
      response.length = 45 := by
  have hparse : parseQuery devboxRequest = .ok ⟨7, "DEVBOX.mesh", typeA, classIn, 29⟩ := by
    decide +kernel
  obtain ⟨response, hbuild, -, -, hread, hcount, hanswer, -⟩ :=
    responses_repeat_question hparse devboxRecords "mesh"
  have hresolve : resolveA devboxRecords "DEVBOX.mesh" "mesh" = some ⟨100, 64, 0, 3⟩ := by
    decide +kernel
  obtain ⟨hbytes, -, -⟩ := hanswer _ rfl rfl hresolve
  refine ⟨response, hbuild, hread.trans hparse.symm, hcount.mpr ⟨rfl, rfl, ?_⟩, ?_⟩
  · rw [hresolve]
    rfl
  · rw [hbytes]
    decide +kernel

end TfScale.Agent
