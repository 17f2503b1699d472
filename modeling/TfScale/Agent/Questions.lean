/-
  TfScale.Agent.Questions

  Which messages does the resolver read as a question, and as which one?

  `Question` is the grammar: a header that announces one question, labels of at most 63
  bytes, a zero byte, type and class, and whatever follows.  A value of it has nothing in
  it but what the message says, so `parse_query` accepts exactly the bytes of such values
  and a message has at most one of them.  The loop over the labels is described by what is
  left of the message (`readLabels_cons`): one round looks at the byte in front and takes
  the label behind it.
-/

import TfScale.Agent.Dns
import TfScale.Lib.Utf8

namespace TfScale.Agent

variable {packet rest : Bytes} {fuel offset stop i : Nat} {b : UInt8} {labels : List (List Char)}

-- ============================================================================
-- Fields
-- ============================================================================

/-- The two bytes at an offset as a number. -/
def fieldAt (packet : Bytes) (i : Nat) : UInt16 := UInt16.ofNat (ofBe ((packet.drop i).take 2))

theorem byteAt_of_drop (h : packet.drop i = b :: rest) : byteAt packet i = .ok b := by
  have hget : packet[i]? = some b := by
    rw [← Nat.add_zero i, ← List.getElem?_drop, h, List.getElem?_cons_zero]
  simp only [byteAt, hget]

theorem drop_succ_of_drop (h : packet.drop i = b :: rest) : packet.drop (i + 1) = rest := by
  rw [← List.drop_drop, h, List.drop_one, List.tail_cons]

theorem length_of_drop (h : packet.drop i = b :: rest) : packet.length = i + 1 + rest.length := by
  have hlength := congrArg List.length h
  rw [List.length_drop, List.length_cons] at hlength
  omega

/-- Inside of the message the two bytes are there. -/
theorem u16At_eq (h : i + 2 ≤ packet.length) : u16At packet i = .ok (fieldAt packet i) := by
  obtain ⟨high, low, rest, hdrop⟩ : ∃ high low rest, packet.drop i = high :: low :: rest := by
    refine ⟨packet[i], packet[i + 1], packet.drop (i + 2), ?_⟩
    rw [List.drop_eq_getElem_cons (by omega), List.drop_eq_getElem_cons (by omega)]
  rw [u16At, byteAt_of_drop hdrop, fieldAt, hdrop]
  show (byteAt packet (i + 1) >>= _) = _
  rw [byteAt_of_drop (drop_succ_of_drop hdrop)]
  rfl

theorem fieldAt_append_left {front back : Bytes} (h : i + 2 ≤ front.length) :
    fieldAt (front ++ back) i = fieldAt front i := by
  rw [fieldAt, fieldAt, List.drop_append_of_le_length (by omega),
    List.take_append_of_le_length (by rw [List.length_drop]; omega)]

/-- What was written is read back. -/
theorem fieldAt_toBe (v : UInt16) (back : Bytes) : fieldAt (toBe 2 v.toNat ++ back) 0 = v := by
  rw [fieldAt, List.drop_zero, List.take_left' (toBe_length 2 _), ofBe_toBe v.toNat_lt,
    UInt16.ofNat_toNat]

/-- A field in front is skipped. -/
theorem fieldAt_skip (n : Nat) (back : Bytes) (i : Nat) :
    fieldAt (toBe 2 n ++ back) (2 + i) = fieldAt back i := by
  rw [fieldAt, fieldAt, ← List.drop_drop, List.drop_left' (toBe_length 2 n)]

theorem fieldAt_drop (packet : Bytes) (i j : Nat) :
    fieldAt (packet.drop i) j = fieldAt packet (i + j) := by
  rw [fieldAt, fieldAt, List.drop_drop]

/-- What is read back was written. -/
theorem toBe_fieldAt_append (h : i + 2 ≤ packet.length) :
    toBe 2 (fieldAt packet i).toNat ++ packet.drop (i + 2) = packet.drop i := by
  have hlength : ((packet.drop i).take 2).length = 2 := by
    rw [List.length_take, List.length_drop]
    omega
  have hlt : ofBe ((packet.drop i).take 2) < 2 ^ 16 := by
    have hbound := ofBe_lt ((packet.drop i).take 2)
    rw [hlength] at hbound
    exact hbound.trans_eq rfl
  have hround := toBe_ofBe ((packet.drop i).take 2)
  rw [hlength] at hround
  rw [fieldAt, UInt16.toNat_ofNat', Nat.mod_eq_of_lt hlt, hround, ← List.drop_drop,
    List.take_append_drop]

-- ============================================================================
-- The loop over the labels
-- ============================================================================

/-- A label that fits its length byte. -/
structure SizedLabel (label : List Char) : Prop where
  pos : 1 ≤ labelLength label
  le : labelLength label ≤ 63

theorem WireLabel.sized {label : List Char} (h : WireLabel label) : SizedLabel label :=
  ⟨h.pos, h.le⟩

theorem labelText_eq_ok_iff {bytes : Bytes} {label : List Char} :
    labelText bytes = .ok label ↔ bytes = strBytes (String.ofList label) := by
  rw [← Text.fromUtf8_eq_ok_iff, labelText]
  cases Text.fromUtf8 bytes with
  | ok text => simp
  | error e => simp

theorem encodeName_cons (label : List Char) (labels : List (List Char)) :
    encodeName (label :: labels) = encodeLabel label ++ encodeName labels := by
  rw [encodeName, encodeName, List.flatMap_cons, List.append_assoc]

theorem encodeLabel_length (label : List Char) :
    (encodeLabel label).length = 1 + labelLength label := by
  rw [encodeLabel, List.length_cons, labelLength, Nat.add_comm]

/-- One round of the loop: the byte in front, and the label behind it. -/
theorem readLabels_cons (hdrop : packet.drop offset = b :: rest) :
    readLabels packet (fuel + 1) offset =
      if b.toNat = 0 then .ok ([], offset + 1)
      else if b.toNat &&& 0xC0 ≠ 0 then
        .error (.bail "compressed DNS question names are not supported")
      else if 63 < b.toNat ∨ rest.length < b.toNat then .error (.bail "invalid DNS label length")
      else do
        let label ← labelText (rest.take b.toNat)
        let (labels, stop) ← readLabels packet fuel (offset + 1 + b.toNat)
        return (label :: labels, stop) := by
  have hlength := length_of_drop hdrop
  have hrest := drop_succ_of_drop hdrop
  have hbound : (63 < b.toNat ∨ packet.length < offset + 1 + b.toNat) ↔
      (63 < b.toNat ∨ rest.length < b.toNat) := by
    omega
  rw [readLabels, if_neg (by omega), byteAt_of_drop hdrop]
  show (if b.toNat = 0 then _ else if b.toNat &&& 0xC0 ≠ 0 then _
    else if 63 < b.toNat ∨ packet.length < offset + 1 + b.toNat then _ else _) = _
  simp only [hbound]
  split_ifs with hzero hpointer hlong
  · rfl
  · rfl
  · rfl
  · have hslice : slice packet (offset + 1) (offset + 1 + b.toNat) = .ok (rest.take b.toNat) := by
      rw [slice, if_pos (by omega), hrest, Nat.add_sub_cancel_left]
    rw [hslice]
    rfl

/-- At the end of the message the loop ends. -/
theorem readLabels_end (h : packet.length ≤ offset) :
    readLabels packet fuel offset = .error (.bail "DNS question name is truncated") := by
  cases fuel with
  | zero => rfl
  | succ fuel => rw [readLabels, if_pos h]

/-- What the loop returns stands in the message. -/
theorem encodeName_of_readLabels (h : readLabels packet fuel offset = .ok (labels, stop)) :
    ∃ back, packet.drop offset = encodeName labels ++ back ∧
      (∀ label ∈ labels, SizedLabel label) ∧ stop = offset + (encodeName labels).length := by
  induction fuel generalizing offset labels with
  | zero => cases h
  | succ fuel ih =>
      cases hdrop : packet.drop offset with
      | nil =>
          rw [readLabels_end (List.drop_eq_nil_iff.mp hdrop)] at h
          cases h
      | cons b rest =>
          rw [readLabels_cons hdrop] at h
          split_ifs at h with hzero hpointer hlong
          · obtain ⟨rfl, rfl⟩ := Prod.mk.inj (Except.ok.inj h)
            have hb : b = 0 := UInt8.toNat_inj.mp hzero
            exact ⟨rest, by rw [hb]; rfl, by simp, rfl⟩
          · obtain ⟨label, hlabel, h⟩ := Fallible.bind_eq_ok.mp h
            obtain ⟨⟨tail, stop'⟩, hread, h⟩ := Fallible.bind_eq_ok.mp h
            obtain ⟨rfl, rfl⟩ := Prod.mk.inj (Except.ok.inj h)
            obtain ⟨back, hback, hsized, rfl⟩ := ih hread
            have htext := labelText_eq_ok_iff.mp hlabel
            have hlength : labelLength label = b.toNat := by
              rw [labelLength, ← htext, List.length_take]
              omega
            have hencode : encodeLabel label = b :: rest.take b.toNat := by
              rw [encodeLabel, ← htext, hlength, UInt8.ofNat_toNat]
            rw [← List.drop_drop, drop_succ_of_drop hdrop] at hback
            refine ⟨back, ?_, List.forall_mem_cons.mpr ⟨⟨by omega, by omega⟩, hsized⟩, ?_⟩
            · rw [encodeName_cons, hencode, List.append_assoc, ← hback, List.cons_append,
                List.take_append_drop]
            · rw [encodeName_cons, List.length_append, encodeLabel_length, hlength]
              omega

/-- The loop returns what stands in the message. -/
theorem readLabels_of_encodeName {back : Bytes} (hdrop : packet.drop offset = encodeName labels ++ back)
    (hsized : ∀ label ∈ labels, SizedLabel label) (hfuel : packet.length ≤ offset + fuel) :
    readLabels packet fuel offset = .ok (labels, offset + (encodeName labels).length) := by
  induction labels generalizing offset fuel with
  | nil =>
      have hzero : packet.drop offset = 0 :: back := hdrop
      have hlength := length_of_drop hzero
      obtain ⟨fuel, rfl⟩ : ∃ n, fuel = n + 1 := ⟨fuel - 1, by omega⟩
      rw [readLabels_cons hzero]
      rfl
  | cons label labels ih =>
      obtain ⟨hpos, hle⟩ := hsized label List.mem_cons_self
      have hbyte : (UInt8.ofNat (labelLength label)).toNat = labelLength label :=
        Text.toNat_ofNat_of_lt (by omega)
      have hpointer : ∀ len ≤ 63, ¬ len &&& 0xC0 ≠ 0 := by decide
      rw [encodeName_cons, List.append_assoc, encodeLabel, List.cons_append] at hdrop
      have hlength := length_of_drop hdrop
      rw [List.length_append] at hlength
      have htake : (strBytes (String.ofList label) ++ (encodeName labels ++ back)).take
          (labelLength label) = strBytes (String.ofList label) := List.take_left
      have hnext : packet.drop (offset + 1 + labelLength label) = encodeName labels ++ back := by
        rw [← List.drop_drop, drop_succ_of_drop hdrop]
        exact List.drop_left
      obtain ⟨fuel, rfl⟩ : ∃ n, fuel = n + 1 := ⟨fuel - 1, by omega⟩
      have hrest : readLabels packet fuel (offset + 1 + labelLength label) =
          .ok (labels, offset + 1 + labelLength label + (encodeName labels).length) :=
        ih hnext (fun l hl => hsized l (List.mem_cons_of_mem _ hl)) (by omega)
      rw [readLabels_cons hdrop, hbyte, if_neg (by omega), if_neg (hpointer _ hle),
        if_neg (by rw [List.length_append, ← labelLength]; omega), htake,
        labelText_eq_ok_iff.mpr rfl, hrest, encodeName_cons, List.length_append, encodeLabel_length,
        ← Nat.add_assoc, ← Nat.add_assoc]
      rfl

/-- The loop reads inside of the message. -/
theorem readLabels_ne_outOfBounds : readLabels packet fuel offset ≠ .error .outOfBounds := by
  induction fuel generalizing offset with
  | zero => exact nofun
  | succ fuel ih =>
      cases hdrop : packet.drop offset with
      | nil =>
          rw [readLabels_end (List.drop_eq_nil_iff.mp hdrop)]
          exact nofun
      | cons b rest =>
          rw [readLabels_cons hdrop]
          split_ifs
          · exact nofun
          · exact nofun
          · exact nofun
          · rw [labelText]
            cases Text.fromUtf8 (rest.take b.toNat) with
            | error e => exact nofun
            | ok label =>
                have hrest : readLabels packet fuel (offset + 1 + b.toNat) ≠ .error .outOfBounds := ih
                cases hread : readLabels packet fuel (offset + 1 + b.toNat) with
                | error fault =>
                    rw [hread] at hrest
                    exact hrest
                | ok r => exact nofun

/-- Every round takes a byte, so there are no more rounds than bytes. -/
theorem readLabels_add (hfuel : packet.length ≤ offset + fuel) (extra : Nat) :
    readLabels packet (fuel + extra) offset = readLabels packet fuel offset := by
  induction fuel generalizing offset with
  | zero =>
      have hend : packet.length ≤ offset := hfuel
      rw [readLabels_end hend, readLabels_end hend]
  | succ fuel ih =>
      cases hdrop : packet.drop offset with
      | nil =>
          have hend := List.drop_eq_nil_iff.mp hdrop
          rw [readLabels_end hend, readLabels_end hend]
      | cons b rest =>
          have hrest : readLabels packet (fuel + extra) (offset + 1 + b.toNat) =
              readLabels packet fuel (offset + 1 + b.toNat) := ih (by omega)
          rw [show fuel + 1 + extra = fuel + extra + 1 by omega, readLabels_cons hdrop,
            readLabels_cons hdrop, hrest]

-- ============================================================================
-- The grammar
-- ============================================================================

/-- A message with one question: the header, the labels of the name and the zero byte,
    type and class, and what follows. -/
structure Question where
  header : ByteArr 12
  labels : List (List Char)
  qtype : UInt16
  qclass : UInt16
  trailing : Bytes
  /-- the header announces one question -/
  count : fieldAt header.val 4 = 1
  sized : ∀ label ∈ labels, SizedLabel label

namespace Question

/-- Type and class, and what follows. -/
def afterName (q : Question) : Bytes := toBe 2 q.qtype.toNat ++ (toBe 2 q.qclass.toNat ++ q.trailing)

def bytes (q : Question) : Bytes := q.header.val ++ (encodeName q.labels ++ q.afterName)

/-- The offset just after the class. -/
def questionEnd (q : Question) : Nat := 12 + (encodeName q.labels).length + 4

/-- What `parse_query` makes of the message. -/
def query (q : Question) : DnsQuery :=
  ⟨fieldAt q.header.val 0, String.ofList (['.'].intercalate q.labels), q.qtype, q.qclass, q.questionEnd⟩

variable (q : Question)

theorem bytes_drop_header : q.bytes.drop 12 = encodeName q.labels ++ q.afterName :=
  List.drop_left' q.header.length_val

theorem bytes_drop_name :
    q.bytes.drop (12 + (encodeName q.labels).length) = q.afterName := by
  rw [← List.drop_drop, q.bytes_drop_header, List.drop_left]

theorem bytes_length : q.bytes.length = q.questionEnd + q.trailing.length := by
  rw [bytes, List.length_append, List.length_append, afterName, List.length_append,
    List.length_append, toBe_length, toBe_length, ByteArr.length_val, questionEnd]
  omega

theorem readLabels_bytes :
    readLabels q.bytes q.bytes.length 12 = .ok (q.labels, 12 + (encodeName q.labels).length) :=
  readLabels_of_encodeName q.bytes_drop_header q.sized (Nat.le_add_left _ _)

theorem fieldAt_header (h : i + 2 ≤ 12) : fieldAt q.bytes i = fieldAt q.header.val i :=
  fieldAt_append_left (by rwa [q.header.length_val])

theorem fieldAt_qtype : fieldAt q.bytes (12 + (encodeName q.labels).length) = q.qtype := by
  rw [← Nat.add_zero (12 + _), ← fieldAt_drop, q.bytes_drop_name, afterName, fieldAt_toBe]

theorem fieldAt_qclass : fieldAt q.bytes (12 + (encodeName q.labels).length + 2) = q.qclass := by
  rw [← Nat.add_zero (12 + _ + 2), ← fieldAt_drop, ← List.drop_drop, q.bytes_drop_name, afterName,
    List.drop_left' (toBe_length 2 _), fieldAt_toBe]

end Question

/-- `parse_query` on a message that has a header. -/
theorem parseQuery_eq (h : 12 ≤ packet.length) :
    parseQuery packet =
      if fieldAt packet 4 ≠ 1 then .error (.bail "only one DNS question is supported")
      else (do
        let (labels, offset) ← readLabels packet packet.length 12
        if packet.length < offset + 4 then
          .error (.bail "DNS question type/class is truncated")
        else return ⟨fieldAt packet 0, String.ofList (['.'].intercalate labels), fieldAt packet offset,
          fieldAt packet (offset + 2), offset + 4⟩) := by
  rw [parseQuery, if_neg (by omega), u16At_eq (by omega), u16At_eq (by omega)]
  refine if_congr Iff.rfl rfl ?_
  show (readLabels packet packet.length 12 >>= _) = _
  cases readLabels packet packet.length 12 with
  | error fault => rfl
  | ok r =>
      obtain ⟨labels, offset⟩ := r
      show (if packet.length < offset + 4 then _ else _) = if packet.length < offset + 4 then _ else _
      split
      · rfl
      · rw [u16At_eq (by omega), u16At_eq (by omega)]
        rfl

theorem parseQuery_bytes (q : Question) : parseQuery q.bytes = .ok q.query := by
  have hlength := q.bytes_length
  rw [Question.questionEnd] at hlength
  rw [parseQuery_eq (by omega), q.fieldAt_header (by omega), q.count, if_neg (by decide),
    q.readLabels_bytes]
  show (if q.bytes.length < 12 + (encodeName q.labels).length + 4 then _ else _) = _
  rw [if_neg (by omega), q.fieldAt_header (by omega), q.fieldAt_qtype, q.fieldAt_qclass]
  rfl

theorem queryHeader_length (id : UInt16) : (queryHeader id).length = 12 := by
  simp only [queryHeader, List.length_append, toBe_length]

/-- The question that `query_packet` writes. -/
def Question.ofName (id : UInt16) (name : String) (qtype : UInt16)
    (sized : ∀ label ∈ labelsOf name, SizedLabel label) : Question where
  header := ⟨queryHeader id, queryHeader_length id⟩
  labels := labelsOf name
  qtype
  qclass := classIn
  trailing := []
  count := (fieldAt_skip id.toNat _ 2).trans ((fieldAt_skip 0x0100 _ 0).trans (fieldAt_toBe 1 _))
  sized

/-- A question for a name whose labels have a wire encoding is read back. -/
theorem parseQuery_queryPacket {name : String} (h : ∀ label ∈ labelsOf name, WireLabel label)
    (id qtype : UInt16) : parseQuery (queryPacket id name qtype) =
      .ok ⟨id, name, qtype, classIn, (queryPacket id name qtype).length⟩ := by
  obtain ⟨q, hq⟩ : ∃ q, q = Question.ofName id name qtype fun label hmem => (h label hmem).sized :=
    ⟨_, rfl⟩
  have hbytes : queryPacket id name qtype = q.bytes := by
    rw [hq, queryPacket, Question.bytes, Question.afterName, Question.ofName, List.append_nil]
  have hid : fieldAt q.header.val 0 = id := by
    rw [hq]
    exact fieldAt_toBe id _
  have hjoin : String.ofList (['.'].intercalate q.labels) = name := by
    rw [hq]
    show String.ofList (['.'].intercalate (name.toList.splitOn '.')) = name
    rw [List.intercalate_splitOn, String.ofList_toList]
  have hfields : q.qtype = qtype ∧ q.qclass = classIn ∧ q.trailing = [] := by
    rw [hq]
    exact ⟨rfl, rfl, rfl⟩
  obtain ⟨hqtype, hqclass, htrailing⟩ := hfields
  rw [hbytes, parseQuery_bytes, q.bytes_length, Question.query, hid, hjoin, hqtype, hqclass,
    htrailing, List.length_nil, Nat.add_zero]

/-- Every message that is accepted has the shape of a question. -/
theorem question_of_parseQuery {query : DnsQuery} (h : parseQuery packet = .ok query) :
    ∃ q : Question, packet = q.bytes ∧ query = q.query := by
  have hheader : 12 ≤ packet.length := by
    by_contra hshort
    rw [parseQuery, if_pos (by omega)] at h
    cases h
  rw [parseQuery_eq hheader] at h
  split at h
  · cases h
  · rename_i hcount
    obtain ⟨⟨labels, offset⟩, hread, h⟩ := Fallible.bind_eq_ok.mp h
    obtain ⟨back, hback, hsized, rfl⟩ := encodeName_of_readLabels hread
    simp only at h
    split at h
    · cases h
    · rename_i hlong
      obtain rfl := Except.ok.inj h
      have hlength : (packet.take 12).length = 12 := by
        rw [List.length_take]
        omega
      have hfields : ∀ i, i + 2 ≤ 12 → fieldAt (packet.take 12) i = fieldAt packet i := by
        intro i hi
        conv => rhs; rw [← List.take_append_drop 12 packet]
        exact (fieldAt_append_left (by omega)).symm
      have hname : packet.drop (12 + (encodeName labels).length) = back := by
        rw [← List.drop_drop, hback, List.drop_left]
      refine ⟨{
        header := ⟨packet.take 12, hlength⟩
        labels
        qtype := fieldAt packet (12 + (encodeName labels).length)
        qclass := fieldAt packet (12 + (encodeName labels).length + 2)
        trailing := packet.drop (12 + (encodeName labels).length + 2 + 2)
        count := (hfields 4 (by omega)).trans (not_not.mp hcount)
        sized := hsized }, ?_, ?_⟩
      · simp only [Question.bytes, Question.afterName]
        rw [toBe_fieldAt_append (by omega), toBe_fieldAt_append (by omega), hname, ← hback,
          List.take_append_drop]
      · simp only [Question.query, Question.questionEnd, hfields 0 (by omega)]

/-- A message is the bytes of one question at most. -/
theorem Question.bytes_injective : Function.Injective Question.bytes := by
  intro q q' h
  have hread := q.readLabels_bytes
  rw [h, q'.readLabels_bytes] at hread
  have hlabels : q'.labels = q.labels := (Prod.mk.inj (Except.ok.inj hread)).1
  obtain ⟨hheader, hrest⟩ := List.append_inj h
    (q.header.length_val.trans q'.header.length_val.symm)
  rw [hlabels, List.append_cancel_left_eq] at hrest
  obtain ⟨hqtype, hrest⟩ := List.append_inj hrest ((toBe_length 2 _).trans (toBe_length 2 _).symm)
  obtain ⟨hqclass, htrailing⟩ := List.append_inj hrest
    ((toBe_length 2 _).trans (toBe_length 2 _).symm)
  have hnumber : ∀ {v v' : UInt16}, toBe 2 v.toNat = toBe 2 v'.toNat → v = v' := fun heq =>
    UInt16.toNat_inj.mp (toBe_inj (UInt16.toNat_lt _) (UInt16.toNat_lt _) heq)
  have hheader' : q.header = q'.header := Subtype.ext hheader
  have hqtype' := hnumber hqtype
  have hqclass' := hnumber hqclass
  cases q
  cases q'
  simp only [Question.mk.injEq]
  exact ⟨hheader', hlabels.symm, hqtype', hqclass', htrailing⟩

theorem parseQuery_ne_outOfBounds : parseQuery packet ≠ .error .outOfBounds := by
  by_cases hheader : packet.length < 12
  · rw [parseQuery, if_pos hheader]
    exact nofun
  · rw [parseQuery_eq (by omega)]
    split
    · exact nofun
    · have hlabels : readLabels packet packet.length 12 ≠ .error .outOfBounds := readLabels_ne_outOfBounds
      cases hread : readLabels packet packet.length 12 with
      | error fault =>
          rw [hread] at hlabels
          intro heq
          have hfault : (Except.error fault : Except Fault DnsQuery) = .error .outOfBounds := heq
          exact hlabels (congrArg Except.error (Except.error.inj hfault))
      | ok r =>
          show (if packet.length < r.2 + 4 then _ else _) ≠ _
          split <;> exact nofun

/-- **The grammar of questions.**  `parse_query` accepts a message exactly when it is a
    header that announces one question, labels of 1 to 63 bytes of UTF-8, a zero byte,
    type, class and any trailing bytes, and returns the id of the header, the labels
    joined by dots, the type, the class and the offset after it.  No message is that in
    two ways, reading never leaves the message, and the loop over the labels makes no more
    rounds than there are bytes. -/
theorem parse_query_accepts_grammar (packet : Bytes) :
    (∀ query, parseQuery packet = .ok query ↔
      ∃ q : Question, packet = q.bytes ∧ query = q.query) ∧
    (∀ q q' : Question, q.bytes = q'.bytes → q = q') ∧
    parseQuery packet ≠ .error .outOfBounds ∧
    ∀ extra, readLabels packet (packet.length + extra) 12 = readLabels packet packet.length 12 := by
  refine ⟨fun query => ⟨question_of_parseQuery, ?_⟩, fun _ _ h => Question.bytes_injective h,
    parseQuery_ne_outOfBounds, readLabels_add (Nat.le_add_left _ _)⟩
  rintro ⟨q, rfl, rfl⟩
  exact parseQuery_bytes q

end TfScale.Agent
