/-
  TfScale.Control.LabelBoundaries

  Is what a question is answered with the record of the name that was asked for?

  The labels of a question are joined by dots and compared with the names of the records,
  so where a label ended is forgotten.  Labels without dots are found again in what was
  joined (`sameLabels_of_normalizeName_eq`).  A label may hold a dot, though: the bytes of
  a label are any UTF-8.  The labels of a record never do, so then the question is answered
  with a record of other labels whenever what was joined resolves.
-/

import TfScale.Agent.Responses
import TfScale.Control.Resolution

namespace TfScale.Control

open Agent

-- ============================================================================
-- Labels and names
-- ============================================================================

/-- The labels are the same one by one, up to the case of ASCII letters. -/
def SameLabels (labels labels' : List (List Char)) : Prop :=
  List.Forall₂ Text.CaseVariant labels labels'

theorem sameLabels_iff {labels labels' : List (List Char)} :
    SameLabels labels labels' ↔
      labels.map (List.map Text.toAsciiLowercase) = labels'.map (List.map Text.toAsciiLowercase) := by
  have heq : (Text.CaseVariant : List Char → List Char → Prop) =
      fun a b => a.map Text.toAsciiLowercase = b.map Text.toAsciiLowercase := by
    funext a b
    exact propext Text.caseVariant_iff
  rw [SameLabels, heq, ← List.forall₂_eq_eq_eq (α := List Char), List.forall₂_map_left_iff,
    List.forall₂_map_right_iff]

/-- A label with a dot is no label of a name. -/
theorem not_sameLabels_of_dot {labels : List (List Char)} {label : List Char} {name : String}
    (hmem : label ∈ labels) (hdot : '.' ∈ label) : ¬ SameLabels labels (labelsOf name) := by
  intro hsame
  have hlower := List.mem_map_of_mem (f := List.map Text.toAsciiLowercase) hmem
  rw [sameLabels_iff.mp hsame] at hlower
  obtain ⟨label', hmem', heq⟩ := List.mem_map.mp hlower
  have hdot' : '.' ∈ label'.map Text.toAsciiLowercase := by
    rw [heq]
    exact List.mem_map.mpr ⟨'.', hdot, rfl⟩
  obtain ⟨ch, hch, hlow⟩ := List.mem_map.mp hdot'
  rw [Text.toAsciiLowercase_eq_dot] at hlow
  exact Text.not_mem_of_mem_splitOn hmem' (hlow ▸ hch)

variable {labels : List (List Char)} {name : String}

/-- What labels without dots are joined to does not end in a dot. -/
theorem rdropWhile_intercalate (hsized : ∀ label ∈ labels, SizedLabel label)
    (hdots : ∀ label ∈ labels, '.' ∉ label) :
    (['.'].intercalate labels).rdropWhile (· == '.') = ['.'].intercalate labels := by
  rcases eq_or_ne labels [] with rfl | hne
  · rfl
  · rw [List.rdropWhile_eq_self_iff]
    intro hjoined hlast
    rw [beq_iff_eq] at hlast
    -- a dot at the end would be followed by an empty label
    have hsplit := List.splitOn_intercalate '.' hdots hne
    rw [← List.dropLast_append_getLast hjoined, hlast, List.splitOn_append_cons_self,
      List.splitOn_nil] at hsplit
    have hempty : [] ∈ labels := by
      rw [← hsplit]
      exact List.mem_append_right _ (List.mem_singleton_self _)
    exact absurd (hsized [] hempty).pos (by decide)

/-- Labels without dots that are joined to a name of the mesh are its labels. -/
theorem sameLabels_of_normalizeName_eq (hname : MeshName name)
    (hsized : ∀ label ∈ labels, SizedLabel label) (hdots : ∀ label ∈ labels, '.' ∉ label)
    (heq : normalizeName name = normalizeName (String.ofList (['.'].intercalate labels))) :
    SameLabels labels (labelsOf name) := by
  have hlower : name.toList.map Text.toAsciiLowercase =
      (['.'].intercalate labels).map Text.toAsciiLowercase := by
    rw [normalizeName_of_meshName hname, normalizeName, String.toList_ofList,
      rdropWhile_intercalate hsized hdots] at heq
    exact String.ofList_injective heq
  have hne : labels ≠ [] := by
    rintro rfl
    obtain ⟨host, rfl⟩ := hname
    rw [String.toList_append, List.map_append] at hlower
    exact List.cons_ne_nil _ _ (List.append_eq_nil_iff.mp hlower).2
  have hsplit := congrArg (List.splitOn '.') hlower
  rw [Text.splitOn_map fun _ => Text.toAsciiLowercase_eq_dot,
    Text.splitOn_map fun _ => Text.toAsciiLowercase_eq_dot, List.splitOn_intercalate '.' hdots hne]
    at hsplit
  exact sameLabels_iff.mpr hsplit.symm

-- ============================================================================
-- Answers
-- ============================================================================

variable {request response : Bytes} {records : List DnsRecord} {suffix : String}

/-- An answer in the response to a question is that of a record with the labels of the
    question, which is the record that the address was taken from. -/
def RespectsLabels (request : Bytes) (records : List DnsRecord) (suffix : String) : Prop :=
  ∀ (q : Question) (response : Bytes) (address : Ipv4Addr), request = q.bytes →
    buildResponse request records suffix = .ok response →
    response.drop q.questionEnd = answerRecord address →
      ∃ record, records.find? (answersFor (normalizeName q.query.qname)) = some record ∧
        parseIpv4Addr record.value = some address ∧ SameLabels q.labels (labelsOf record.name)

theorem answerRecord_injective : Function.Injective answerRecord := by
  intro a b h
  obtain ⟨-, hoctets⟩ := List.append_inj' h rfl
  obtain ⟨a1, a2, a3, a4⟩ := a
  obtain ⟨b1, b2, b3, b4⟩ := b
  simpa [Ipv4Addr.octets] using hoctets

/-- What follows the question in the response is the record of the answer. -/
theorem drop_response {q : Question} {address : Ipv4Addr}
    (h : buildResponse q.bytes records suffix = .ok response) :
    response.drop q.questionEnd = answerRecord address ↔
      answerFor q.query records suffix = some address := by
  rw [buildResponse_bytes] at h
  obtain rfl := Except.ok.inj h
  generalize answerFor q.query records suffix = answer
  obtain ⟨q', hq'⟩ : ∃ q', q' = q.answered (rcodeFor q.query answer) answer := ⟨_, rfl⟩
  have hend : q'.header.val.length + q'.asked.length = q.questionEnd := by
    rw [q'.header.length_val, q'.asked_length, hq']
    rfl
  have htrailing : q'.trailing = answer.toList.flatMap answerRecord := by
    rw [hq']
    rfl
  rw [← hq', q'.bytes_eq_asked, ← List.append_assoc,
    List.drop_left' (List.length_append.trans hend), htrailing]
  cases answer with
  | none =>
      refine ⟨fun heq => ?_, nofun⟩
      have hlength := congrArg List.length heq
      rw [answerRecord_length] at hlength
      cases hlength
  | some address' =>
      rw [Option.toList_some, List.flatMap_singleton, answerRecord_injective.eq_iff,
        Option.some.injEq]

/-- The first record of the name is an address record of the mesh, under the suffix, and
    its value is an address. -/
def Listed (records : List DnsRecord) (qname suffix : String) : Prop :=
  '.' :: (normalizeSuffix suffix).toList <:+ (normalizeName qname).toList ∧
    ∃ record address, records.find? (answersFor (normalizeName qname)) = some record ∧
      parseIpv4Addr record.value = some address

theorem listed_iff {qname : String} :
    Listed records qname suffix ↔ ∃ address, resolveA records qname suffix = some address := by
  simp only [Listed, resolveA_eq_some_iff]
  constructor
  · rintro ⟨hsuffix, record, address, hfind, hvalue⟩
    exact ⟨address, hsuffix, record, hfind, hvalue⟩
  · rintro ⟨address, hsuffix, record, hfind, hvalue⟩
    exact ⟨hsuffix, record, address, hfind, hvalue⟩

/-- **Label boundaries.**  For records of names that the control plane makes, an answer is
    that of a record with the labels of the question exactly when the request does not ask
    for the address, in the Internet class, of labels of which one holds a dot and which
    are joined to a listed name. -/
theorem answers_respect_labels_iff (request : Bytes) (records : List DnsRecord) (suffix : String)
    (hnames : ∀ record ∈ records, MeshName record.name) :
    RespectsLabels request records suffix ↔
      ¬ ∃ q : Question, request = q.bytes ∧ q.qtype = typeA ∧ q.qclass = classIn ∧
        (∃ label ∈ q.labels, '.' ∈ label) ∧
        Listed records (String.ofList (['.'].intercalate q.labels)) suffix := by
  constructor
  · rintro hrespects ⟨q, rfl, hqtype, hqclass, ⟨label, hmem, hdot⟩, hlisted⟩
    obtain ⟨address, hresolve⟩ := listed_iff.mp hlisted
    have hanswer : answerFor q.query records suffix = some address :=
      answerFor_eq_some_iff.mpr ⟨hqtype, hqclass, hresolve⟩
    have hbuild := buildResponse_bytes q records suffix
    obtain ⟨record, -, -, hsame⟩ :=
      hrespects q _ address rfl hbuild ((drop_response hbuild).mpr hanswer)
    exact not_sameLabels_of_dot hmem hdot hsame
  · rintro hgood q response address rfl hbuild hdrop
    obtain ⟨hqtype, hqclass, hresolve⟩ :=
      answerFor_eq_some_iff.mp ((drop_response hbuild).mp hdrop)
    have hdots : ∀ label ∈ q.labels, '.' ∉ label := fun label hmem hdot =>
      hgood ⟨q, rfl, hqtype, hqclass, ⟨label, hmem, hdot⟩, listed_iff.mpr ⟨address, hresolve⟩⟩
    obtain ⟨-, record, hfind, hvalue⟩ := resolveA_eq_some_iff.mp hresolve
    have hanswers := List.find?_some hfind
    rw [answersFor, Bool.and_eq_true, beq_iff_eq] at hanswers
    exact ⟨record, hfind, hvalue, sameLabels_of_normalizeName_eq
      (hnames record (List.mem_of_find?_eq_some hfind)) q.sized hdots hanswers.2⟩

namespace Reference

/-- A question with the single label `devbox.mesh`. -/
def dottedQuestion : Question where
  header := ⟨queryHeader 7, queryHeader_length 7⟩
  labels := ["devbox.mesh".toList]
  qtype := typeA
  qclass := classIn
  trailing := []
  count := by decide
  sized := by
    intro label hmem
    rw [List.mem_singleton.mp hmem]
    exact ⟨by decide, by decide⟩

/-- A question with the labels of `DEVBOX.mesh`. -/
def capitalsQuestion : Question :=
  Question.ofName 7 "DEVBOX.mesh" typeA (by
    have hlabels : labelsOf "DEVBOX.mesh" = ["DEVBOX".toList, "mesh".toList] := by decide +kernel
    intro label hmem
    rw [hlabels, List.mem_cons, List.mem_singleton] at hmem
    rcases hmem with rfl | rfl
    · exact ⟨by decide, by decide⟩
    · exact ⟨by decide, by decide⟩)

/-- The record of the device `devbox`. -/
def meshRecords : List DnsRecord := [⟨"dev_1", "devbox.mesh", "A", "100.64.0.3"⟩]

theorem meshRecords_meshName : ∀ record ∈ meshRecords, MeshName record.name := by
  intro record hmem
  rw [List.mem_singleton.mp hmem]
  exact ⟨"devbox", rfl⟩

end Reference

open Reference in
/-- The single label is answered with the record of the two labels. -/
theorem dotted_label_answered : ¬ RespectsLabels dottedQuestion.bytes meshRecords "mesh" := by
  intro hrespects
  have hbuild := buildResponse_bytes dottedQuestion meshRecords "mesh"
  have hanswer : answerFor dottedQuestion.query meshRecords "mesh" = some ⟨100, 64, 0, 3⟩ := by
    decide +kernel
  obtain ⟨record, -, -, hsame⟩ :=
    hrespects dottedQuestion _ _ rfl hbuild ((drop_response hbuild).mpr hanswer)
  have hdot : '.' ∈ "devbox.mesh".toList := by decide
  exact not_sameLabels_of_dot (List.mem_singleton_self _) hdot hsame

open Reference in
/-- The question for the two labels is answered with their record. -/
theorem answers_respect_labels_capitals :
    RespectsLabels capitalsQuestion.bytes meshRecords "mesh" ∧
      answerFor capitalsQuestion.query meshRecords "mesh" = some ⟨100, 64, 0, 3⟩ := by
  refine ⟨(answers_respect_labels_iff _ _ _ meshRecords_meshName).mpr ?_, by decide +kernel⟩
  rintro ⟨q, hbytes, -, -, ⟨label, hmem, hdot⟩, -⟩
  rw [← Question.bytes_injective hbytes] at hmem
  exact Text.not_mem_of_mem_splitOn hmem hdot

end TfScale.Control
