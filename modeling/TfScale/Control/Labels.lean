/-
  TfScale.Control.Labels

  Can every stored DNS name be asked for?

  A label of a DNS name has at most 63 bytes.  `normalize_hostname` checks that of the
  host name, but what is stored after a collision is the host name with nine bytes of
  the device's id, and possibly the number of an attempt, behind it.  Whether the
  stored name can be asked for is therefore decided by the length of the host name
  together with the candidates that are free (`LabelFits`).
-/

import TfScale.Agent.Questions
import TfScale.Control.DnsMirror
import TfScale.Control.Registration

namespace TfScale.Control

open ControlState Agent

-- ============================================================================
-- Names that can be asked for
-- ============================================================================

/-- Every label has 1 to 63 bytes, and the agent reads the name back from the
    question for it. -/
structure Queryable (name : String) : Prop where
  labels : ∀ label ∈ labelsOf name, 1 ≤ labelLength label ∧ labelLength label ≤ 63
  read : ∀ id qtype, parseQuery (queryPacket id name qtype) =
    .ok ⟨id, name, qtype, classIn, (queryPacket id name qtype).length⟩

/-- A text of host name characters. -/
def HostText (text : String) : Prop := ∀ ch ∈ text.toList, isHostnameChar ch = true

theorem hostText_append {a b : String} : HostText (a ++ b) ↔ HostText a ∧ HostText b := by
  rw [HostText, String.toList_append, List.forall_mem_append]
  exact Iff.rfl

theorem isHostnameChar_ascii {ch : Char} (h : isHostnameChar ch = true) :
    ch.toNat < 128 ∧ ch ≠ '.' := by
  rw [isHostnameChar, Bool.or_eq_true, Bool.or_eq_true, Bool.and_eq_true, Bool.and_eq_true,
    beq_iff_eq] at h
  simp only [decide_eq_true_eq, Text.char_le_iff] at h
  have hz : 'z'.toNat = 122 := rfl
  have ha : 'a'.toNat = 97 := rfl
  have h9 : '9'.toNat = 57 := rfl
  have h0 : '0'.toNat = 48 := rfl
  have hdot : '.'.toNat = 46 := rfl
  rcases h with (h | h) | rfl
  · refine ⟨by omega, fun heq => ?_⟩
    rw [heq] at h
    omega
  · refine ⟨by omega, fun heq => ?_⟩
    rw [heq] at h
    omega
  · exact ⟨by decide, by decide⟩

/-- Characters and bytes of such a text are the same number. -/
theorem HostText.labelLength {text : String} (h : HostText text) :
    labelLength text.toList = text.toList.length := by
  rw [Agent.labelLength, Text.strBytes_ascii fun ch hch => (isHostnameChar_ascii (h ch hch)).1,
    List.length_map]

theorem HostText.wireLabel {text : String} (h : HostText text) (hpos : 1 ≤ text.toList.length)
    (hle : text.toList.length ≤ 63) : WireLabel text.toList :=
  ⟨fun ch hch => (isHostnameChar_ascii (h ch hch)).1, h.labelLength ▸ hpos, h.labelLength ▸ hle⟩

theorem hostText_of_all {text : String} (h : text.toList.all isHostnameChar = true) : HostText text :=
  List.all_eq_true.mp h

theorem hostText_mesh : HostText "mesh" := hostText_of_all rfl

theorem labelsOf_mesh {host : String} (h : HostText host) :
    labelsOf (host ++ ".mesh") = [host.toList, "mesh".toList] := by
  have hdot : '.' ∉ host.toList := fun hmem => (isHostnameChar_ascii (h _ hmem)).2 rfl
  have hlist : (host ++ ".mesh").toList = host.toList ++ '.' :: "mesh".toList := by
    rw [String.toList_append]
    rfl
  rw [labelsOf, hlist, List.splitOn_append_cons_self_of_not_mem hdot]
  rfl

/-- A name of the mesh can be asked for when its host part has a label's length. -/
theorem queryable_iff {host : String} (h : HostText host) (hpos : 1 ≤ host.toList.length) :
    Queryable (host ++ ".mesh") ↔ host.toList.length ≤ 63 := by
  have hlabels : ∀ label, label ∈ labelsOf (host ++ ".mesh") ↔
      label = host.toList ∨ label = "mesh".toList := by
    intro label
    rw [labelsOf_mesh h, List.mem_cons, List.mem_singleton]
  constructor
  · intro hquery
    rw [← h.labelLength]
    exact (hquery.labels _ ((hlabels _).mpr (Or.inl rfl))).2
  · intro hle
    have hwire : ∀ label ∈ labelsOf (host ++ ".mesh"), WireLabel label := by
      intro label hlabel
      rcases (hlabels label).mp hlabel with rfl | rfl
      · exact h.wireLabel hpos hle
      · have hmesh : "mesh".toList.length = 4 := rfl
        exact hostText_mesh.wireLabel (by omega) (by omega)
    exact ⟨fun label hlabel => ⟨(hwire label hlabel).pos, (hwire label hlabel).le⟩,
      parseQuery_queryPacket hwire⟩

-- ============================================================================
-- Host names and device ids
-- ============================================================================

/-- What `normalize_hostname` returns. -/
structure HostLabel (hostname : String) : Prop where
  text : HostText hostname
  pos : 1 ≤ hostname.toList.length
  le : hostname.toList.length ≤ 63

theorem normalizeHostname_ok {value hostname : String} (h : normalizeHostname value = .ok hostname) :
    HostLabel hostname := by
  simp only [normalizeHostname] at h
  split at h
  · cases h
  · rename_i hnil
    split at h
    · cases h
    · rename_i hsize
      split at h
      · cases h
      · split at h
        · cases h
        · rename_i hall
          obtain rfl := Except.ok.inj h
          rw [Bool.not_eq_true, Bool.not_eq_false', List.all_eq_true] at hall
          have htext : HostText (String.ofList ((Text.trim value.toList).map Text.toAsciiLowercase)) := by
            intro ch hch
            rw [String.toList_ofList] at hch
            exact hall ch hch
          have hbytes := htext.labelLength
          rw [Agent.labelLength, String.ofList_toList] at hbytes
          refine ⟨htext, ?_, ?_⟩
          · rw [String.toList_ofList]
            exact List.length_pos_iff.mpr hnil
          · rw [← hbytes]
            exact Nat.le_of_not_lt hsize

/-- The suffix that the id of a device gives to its name. -/
theorem deviceDnsSuffix_device (uuid : Uuid) :
    HostText (deviceDnsSuffix ("dev_" ++ simple uuid)) ∧
      (deviceDnsSuffix ("dev_" ++ simple uuid)).toList.length = 8 := by
  have hdigit : ∀ n < 16, isHostnameChar (Nat.digitChar n) = true ∧ Nat.digitChar n ≠ '_' := by decide
  have hchars : ∀ ch ∈ (simple uuid).toList, isHostnameChar ch = true ∧ ch ≠ '_' := by
    intro ch hch
    rw [simple, Text.hexEncode, String.toList_ofList] at hch
    obtain ⟨b, -, hch⟩ := List.mem_flatMap.mp hch
    have hb := b.toNat_lt
    rcases List.mem_cons.mp hch with rfl | hch
    · exact hdigit _ (by omega)
    · rw [List.mem_singleton.mp hch]
      exact hdigit _ (by omega)
  have hlength : (simple uuid).toList.length = 32 := by
    rw [simple, Text.hexEncode, String.toList_ofList, List.length_flatMap]
    simp
  have hsuffix : deviceDnsSuffix ("dev_" ++ simple uuid) =
      String.ofList ((simple uuid).toList.take 8) := by
    have hlist : ("dev_" ++ simple uuid).toList.reverse =
        (simple uuid).toList.reverse ++ ['_', 'v', 'e', 'd'] := by
      rw [String.toList_append, List.reverse_append]
      rfl
    have hkept : ∀ ch ∈ (simple uuid).toList.reverse, decide (ch ≠ '_') = true :=
      fun ch hch => decide_eq_true (hchars ch (List.mem_reverse.mp hch)).2
    rw [deviceDnsSuffix, hlist, List.takeWhile_append_of_pos hkept]
    rw [List.takeWhile_cons_of_neg (by decide), List.append_nil, List.reverse_reverse]
  rw [hsuffix]
  refine ⟨fun ch hch => ?_, ?_⟩
  · rw [String.toList_ofList] at hch
    exact (hchars ch (List.mem_of_mem_take hch)).1
  · rw [String.toList_ofList, List.length_take, hlength]
    rfl

-- ============================================================================
-- The name that is taken
-- ============================================================================

section Taken

variable {db : Db} {deviceId hostname name : String}

/-- No other device has the name made from `host`. -/
def FreeName (db : Db) (deviceId host : String) : Prop :=
  db.dnsNameAvailable netDefault deviceId (dnsName host) = true

/-- The host name with the suffix of the device. -/
def suffixed (deviceId hostname : String) : String := hostname ++ "-" ++ deviceDnsSuffix deviceId

/-- The host name with the suffix and the number of an attempt. -/
def numbered (deviceId hostname : String) (k : Nat) : String :=
  suffixed deviceId hostname ++ "-" ++ toString k

/-- The host name is short enough for what has to be put behind it. -/
def LabelFits (db : Db) (deviceId hostname : String) : Prop :=
  FreeName db deviceId hostname ∨
    (hostname.utf8ByteSize ≤ 54 ∧ FreeName db deviceId (suffixed deviceId hostname)) ∨
    (hostname.utf8ByteSize ≤ 52 ∧
      ∃ k, 2 ≤ k ∧ k ≤ 9 ∧ FreeName db deviceId (numbered deviceId hostname k)) ∨
    hostname.utf8ByteSize ≤ 51

/-- Which of the candidates is taken: the first free one. -/
theorem availableDnsName_cases (h : db.availableDnsName netDefault deviceId hostname = .ok name) :
    (FreeName db deviceId hostname ∧ name = dnsName hostname) ∨
      ¬ FreeName db deviceId hostname ∧
        ((FreeName db deviceId (suffixed deviceId hostname) ∧
            name = dnsName (suffixed deviceId hostname)) ∨
          ¬ FreeName db deviceId (suffixed deviceId hostname) ∧
            ∃ k, 2 ≤ k ∧ k ≤ 99 ∧ FreeName db deviceId (numbered deviceId hostname k) ∧
              (∀ j, 2 ≤ j → j < k → ¬ FreeName db deviceId (numbered deviceId hostname j)) ∧
              name = dnsName (numbered deviceId hostname k)) := by
  unfold Db.availableDnsName at h
  split at h
  · rename_i name' hfind
    obtain rfl := Except.ok.inj h
    rw [Db.dnsCandidates, List.find?_cons] at hfind
    split at hfind
    · rename_i hfree
      exact Or.inl ⟨hfree, (Option.some.inj hfind).symm⟩
    · rename_i htaken
      refine Or.inr ⟨by rw [FreeName, htaken]; exact Bool.false_ne_true, ?_⟩
      rw [List.find?_cons] at hfind
      split at hfind
      · rename_i hfree
        exact Or.inl ⟨hfree, (Option.some.inj hfind).symm⟩
      · rename_i htaken'
        refine Or.inr ⟨?_, ?_⟩
        · intro hfree
          exact Bool.false_ne_true (htaken'.symm.trans hfree)
        · rw [List.find?_map] at hfind
          obtain ⟨k, hk, rfl⟩ := Option.map_eq_some_iff.mp hfind
          obtain ⟨hfree, hmem, hfirst⟩ := List.find?_range'_eq_some.mp hk
          have hbounds := List.mem_range'_1.mp hmem
          refine ⟨k, hbounds.1, by omega, hfree, fun j hj hlt hfree => ?_, rfl⟩
          have hnot := hfirst j hj hlt
          rw [Bool.not_eq_true'] at hnot
          exact Bool.false_ne_true (hnot.symm.trans hfree)
  · cases h

theorem hyphen_length : "-".toList.length = 1 := rfl

/-- The number of an attempt has one digit or two. -/
theorem attempt_text {k : Nat} (hle : 2 ≤ k) (hlt : k < 100) : HostText (toString k) ∧
    (toString k).toList.length = if k ≤ 9 then 1 else 2 := by
  have hall : ((List.range' 2 98).all fun k => (toString k).toList.all isHostnameChar &&
      (toString k).toList.length == if k ≤ 9 then 1 else 2) = true := by
    decide +kernel
  have hk := List.all_eq_true.mp hall k (List.mem_range'_1.mpr ⟨hle, by omega⟩)
  rw [Bool.and_eq_true, beq_iff_eq] at hk
  exact ⟨hostText_of_all hk.1, hk.2⟩

/-- The suffix takes nine characters, its hyphen included. -/
theorem suffixed_text {uuid : Uuid} (hid : deviceId = "dev_" ++ simple uuid) (h : HostText hostname) :
    HostText (suffixed deviceId hostname) ∧
      (suffixed deviceId hostname).toList.length = hostname.toList.length + 9 := by
  obtain ⟨hsuffix, height⟩ := deviceDnsSuffix_device uuid
  rw [← hid] at hsuffix height
  have hhyphen : HostText "-" := hostText_of_all rfl
  refine ⟨hostText_append.mpr ⟨hostText_append.mpr ⟨h, hhyphen⟩, hsuffix⟩, ?_⟩
  rw [suffixed, String.toList_append, String.toList_append, List.length_append, List.length_append,
    height, hyphen_length]

/-- The number of an attempt takes two or three more. -/
theorem numbered_text {uuid : Uuid} (hid : deviceId = "dev_" ++ simple uuid) (h : HostText hostname)
    {k : Nat} (hle : 2 ≤ k) (hlt : k < 100) :
    HostText (numbered deviceId hostname k) ∧
      (numbered deviceId hostname k).toList.length =
        hostname.toList.length + 10 + if k ≤ 9 then 1 else 2 := by
  obtain ⟨hsuffixed, hlength⟩ := suffixed_text hid h
  obtain ⟨hattempt, hdigits⟩ := attempt_text hle hlt
  have hhyphen : HostText "-" := hostText_of_all rfl
  refine ⟨hostText_append.mpr ⟨hostText_append.mpr ⟨hsuffixed, hhyphen⟩, hattempt⟩, ?_⟩
  rw [numbered, String.toList_append, String.toList_append, List.length_append, List.length_append,
    hlength, hyphen_length, hdigits]

/-- The name that is taken can be asked for exactly when the host name is short
    enough. -/
theorem queryable_iff_labelFits {uuid : Uuid} (hid : deviceId = "dev_" ++ simple uuid)
    (hlabel : HostLabel hostname) (h : db.availableDnsName netDefault deviceId hostname = .ok name) :
    Queryable name ↔ LabelFits db deviceId hostname := by
  have hsize : hostname.utf8ByteSize = hostname.toList.length := by
    rw [← hlabel.text.labelLength, Agent.labelLength, String.ofList_toList]
    rfl
  have hpos := hlabel.pos
  have hle := hlabel.le
  rw [LabelFits, hsize]
  rcases availableDnsName_cases h with ⟨hfree, rfl⟩ | ⟨htaken, ⟨hfree, rfl⟩ |
    ⟨htaken', k, hk, hk', hfree, hfirst, rfl⟩⟩
  · exact ⟨fun _ => Or.inl hfree, fun _ => (queryable_iff hlabel.text hpos).mpr hle⟩
  · obtain ⟨hsuffixed, hlength⟩ := suffixed_text hid hlabel.text
    rw [dnsName, queryable_iff hsuffixed (by omega), hlength]
    refine ⟨fun hfits => Or.inr (Or.inl ⟨by omega, hfree⟩), ?_⟩
    rintro (hfree' | ⟨hfits, -⟩ | ⟨hfits, -⟩ | hfits)
    · exact absurd hfree' htaken
    all_goals omega
  · obtain ⟨hnumbered, hlength⟩ := numbered_text hid hlabel.text hk (by omega)
    rw [dnsName, queryable_iff hnumbered (by omega), hlength]
    by_cases hk9 : k ≤ 9
    · rw [if_pos hk9]
      refine ⟨fun hfits => Or.inr (Or.inr (Or.inl ⟨by omega, k, hk, hk9, hfree⟩)), ?_⟩
      rintro (hfree' | ⟨-, hfree'⟩ | ⟨hfits, -⟩ | hfits)
      · exact absurd hfree' htaken
      · exact absurd hfree' htaken'
      all_goals omega
    · -- the attempts of one digit were taken, so two digits follow
      rw [if_neg hk9]
      refine ⟨fun hfits => Or.inr (Or.inr (Or.inr (by omega))), ?_⟩
      rintro (hfree' | ⟨-, hfree'⟩ | ⟨-, j, hj, hj9, hfree'⟩ | hfits)
      · exact absurd hfree' htaken
      · exact absurd hfree' htaken'
      · exact absurd hfree' (hfirst j hj (by omega))
      · omega

end Taken

-- ============================================================================
-- Transactions that store a name
-- ============================================================================

section Steps

variable {S : Server} {clock : Nat → Timestamp} {fresh : Fresh} {db db' : Db} {p p' : Process}
variable {deviceId hostname : String} {st st' : ControlState}

/-- The transaction that a request is about to make commits, and stores a name for
    a device with the given host name. -/
inductive Assigns (S : Server) (clock : Nat → Timestamp) (fresh : Fresh) (db : Db) :
    Process → String → String → Prop where
  | register {request : RegisterDeviceRequest} {hostname ipv4 : String}
      (h : (db.registerTx S clock fresh request hostname ipv4).isOk = true) :
      Assigns S clock fresh db (.registerAllocated request hostname ipv4)
        ("dev_" ++ simple fresh.device) hostname
  | rename {deviceId hostname : String} {request : RenameDeviceRequest}
      (hname : normalizeHostname request.hostname = .ok hostname)
      (h : (db.renameTx S clock fresh deviceId hostname).isOk = true) :
      Assigns S clock fresh db (.renameReceived deviceId request) deviceId hostname

/-- The records are as before, but for one of the given name. -/
structure Names (db : Db) (name : String) (db' : Db) : Prop where
  old : ∀ r ∈ db'.dnsRecords.rows, r.name = name ∨ ∃ r' ∈ db.dnsRecords.rows, r'.name = r.name
  new : ∃ r ∈ db'.dnsRecords.rows, r.name = name

theorem dnsUpsert_names {now : Timestamp} {uuid : Uuid} {networkId name ipv4 : String}
    {dnsRecords : Table DnsRecordRow}
    (h : db.dnsUpsert now uuid networkId deviceId name ipv4 = some dnsRecords)
    (hdb' : db'.dnsRecords = dnsRecords) : Names db name db' := by
  refine ⟨?_, ?_⟩
  · rw [hdb']
    exact Table.forall_upsert h (Or.inl rfl) (fun r _ _ => Or.inl rfl) fun r hr => Or.inr ⟨r, hr, rfl⟩
  · rw [hdb']
    exact Table.exists_mem_upsert h rfl fun r _ _ => rfl

/-- What becomes of a request that stores a name. -/
theorem Assigns.next (h : Assigns S clock fresh db p deviceId hostname) :
    ∃ p' db' name, p.next S db clock fresh = some (p', db') ∧
      db.availableDnsName netDefault deviceId hostname = .ok name ∧ Names db name db' := by
  cases h with
  | register h =>
      obtain ⟨⟨response, db'⟩, hok⟩ := Fallible.isOk_iff.mp h
      obtain ⟨_, name, _, _, -, hupsert, -, hdb', -, hname⟩ := Db.registerTx_ok hok
      refine ⟨.done (.registered (.ok response)), db', name, ?_, hname,
        dnsUpsert_names hupsert (by rw [hdb']; rfl)⟩
      simp only [Process.next, Process.registerInsert, hok]
  | @rename deviceId hostname request hname h =>
      obtain ⟨db', hok⟩ := Fallible.isOk_iff.mp h
      obtain ⟨_, name, _, -, havailable, hupsert, hdb'⟩ := Db.renameTx_ok hok
      refine ⟨.renameCommitted deviceId, db', name, ?_, havailable,
        dnsUpsert_names hupsert (by rw [hdb'])⟩
      simp only [Process.next, Process.renameUpdate, hname, hok]

/-- A transaction stores a name, or no name is new after it. -/
theorem Commit.assigns_or (h : Commit S clock fresh db p db') :
    (∃ deviceId hostname, Assigns S clock fresh db p deviceId hostname) ∨
      ∀ r ∈ db'.dnsRecords.rows, r ∈ db.dnsRecords.rows := by
  cases h with
  | createAuthKey hok =>
      obtain ⟨_, _, -, -, -, rfl⟩ := Db.createAuthKey_ok hok
      exact Or.inr fun r hr => hr
  | register hok => exact Or.inl ⟨_, _, .register (Fallible.isOk_iff.mpr ⟨_, hok⟩)⟩
  | rename hname hok => exact Or.inl ⟨_, _, .rename hname (Fallible.isOk_iff.mpr ⟨_, hok⟩)⟩
  | delete hok =>
      obtain rfl := Db.deleteTx_ok hok
      exact Or.inr fun r hr => (List.mem_filter.mp hr).1
  | heartbeat hok =>
      obtain ⟨_, rfl⟩ := Db.storeEndpoints_ok hok
      exact Or.inr fun r hr => hr

-- ============================================================================
-- Whole runs
-- ============================================================================

/-- A host name that a registration has read is normalised. -/
def HoldsLabel : Process → Prop
  | .registerValidated _ hostname | .registerAllocated _ hostname _ => HostLabel hostname
  | _ => True

theorem holdsLabel_of_handler (h : p.handler ≠ .registerDevice) : HoldsLabel p := by
  cases p with
  | registerValidated | registerAllocated => exact absurd rfl h
  | _ => trivial

theorem HoldsLabel.next (h : HoldsLabel p) (hnext : p.next S db clock fresh = some (p', db')) :
    HoldsLabel p' := by
  by_cases hhandler : p'.handler = .registerDevice
  · cases Process.next_register hnext hhandler with
    | validated _ hname => exact normalizeHostname_ok hname
    | allocated _ => exact h
    | found _ | unknown _ | inserted _ | refused => trivial
  · exact holdsLabel_of_handler hhandler

/-- Host names are normalised, and device ids are made from UUIDs. -/
structure NamingInv (st : ControlState) : Prop where
  hostnames : ∀ p ∈ st.requests, HoldsLabel p
  ids : ∀ i ∈ st.db.identities, ∃ uuid, i.2.deviceId = "dev_" ++ simple uuid

theorem NamingInv.step {e : Event} (h : NamingInv st) (hstep : st.step S e = some st') :
    NamingInv st' := by
  refine ⟨fun q hq => ?_, ?_⟩
  · rcases mem_requests_of_step hstep hq with
      hold | ⟨request, rfl⟩ | ⟨_, _, reply, -, rfl⟩ | ⟨p, _, _, hp, hnext⟩
    · exact h.hostnames q hold
    · cases request <;> trivial
    · trivial
    · exact (h.hostnames p hp).next hnext
  · rcases step_db hstep with hsame | ⟨_, _, _, fresh, _, -, -, -, hcommit⟩
    · rw [hsame]
      exact h.ids
    · rcases hcommit.register_or with ⟨_, _, _, _, -, hok⟩ | ⟨hsame, -⟩
      · obtain ⟨_, _, _, _, -, -, -, -, hresponse, -⟩ := Db.registerTx_ok hok
        rw [registerTx_identities hok]
        intro i hi
        rcases List.mem_append.mp hi with hi | hi
        · exact h.ids i hi
        · rw [List.mem_singleton.mp hi, hresponse]
          exact ⟨fresh.device, rfl⟩
      · rw [hsame]
        exact h.ids

theorem Assigns.hostLabel (h : Assigns S clock fresh db p deviceId hostname) (hp : HoldsLabel p) :
    HostLabel hostname := by
  cases h with
  | register _ => exact hp
  | rename hname _ => exact normalizeHostname_ok hname

theorem Assigns.exists_uuid (h : Assigns S clock fresh db p deviceId hostname)
    (hids : ∀ i ∈ db.identities, ∃ uuid, i.2.deviceId = "dev_" ++ simple uuid) :
    ∃ uuid, deviceId = "dev_" ++ simple uuid := by
  cases h with
  | register _ => exact ⟨fresh.device, rfl⟩
  | rename _ h =>
      obtain ⟨_, hok⟩ := Fallible.isOk_iff.mp h
      obtain ⟨d, _, _, ⟨hd, hlive⟩, -⟩ := Db.renameTx_ok hok
      obtain ⟨uuid, huuid⟩ := hids d.identity (List.mem_map_of_mem hd)
      exact ⟨uuid, (Db.isLiveDevice_iff.mp hlive).1.symm.trans huuid⟩

/-- The name that a request stores can be asked for exactly when its label fits. -/
theorem NamingInv.queryable_iff {r : Nat} {name : String} (h : NamingInv st)
    (hp : st.requests[r]? = some p) (hassigns : Assigns S clock fresh st.db p deviceId hostname)
    (hname : st.db.availableDnsName netDefault deviceId hostname = .ok name) :
    Queryable name ↔ LabelFits st.db deviceId hostname := by
  obtain ⟨uuid, huuid⟩ := hassigns.exists_uuid h.ids
  exact queryable_iff_labelFits huuid
    (hassigns.hostLabel (h.hostnames p (List.mem_of_getElem? hp))) hname

namespace ControlState

/-- The label fits whenever an event stores a name. -/
def StoresFitting (S : Server) (st : ControlState) : Event → Prop
  | .advance r fresh elapsed => ∀ p deviceId hostname, st.requests[r]? = some p →
      Assigns S (elapsed.clock st.now) fresh st.db p deviceId hostname →
        LabelFits st.db deviceId hostname
  | _ => True

/-- Every stored name can be asked for. -/
def AllQueryable (st : ControlState) : Prop := ∀ r ∈ st.db.dnsRecords.rows, Queryable r.name

theorem AllQueryable.step {e : Event} (h : AllQueryable st) (hnaming : NamingInv st)
    (hfits : StoresFitting S st e) (hstep : st.step S e = some st') : AllQueryable st' := by
  rcases step_db hstep with hsame | ⟨r, p, _, fresh, elapsed, rfl, hp, hnext, hcommit⟩
  · rw [AllQueryable, hsame]
    exact h
  · rcases hcommit.assigns_or with ⟨deviceId, hostname, hassigns⟩ | hold
    · obtain ⟨_, db', name, hnext', hname, hnames⟩ := hassigns.next
      have hdb : st'.db = db' := (Prod.mk.inj (Option.some.inj (hnext.symm.trans hnext'))).2
      rw [← hdb] at hnames
      intro row hrow
      rcases hnames.old row hrow with heq | ⟨row', hrow', heq⟩
      · rw [heq]
        exact (hnaming.queryable_iff hp hassigns hname).mpr (hfits p deviceId hostname hp hassigns)
      · rw [← heq]
        exact h row' hrow'
    · exact fun row hrow => h row (hold row hrow)

/-- A name whose label does not fit is stored. -/
theorem not_allQueryable {e : Event} (hnaming : NamingInv st) (hfits : ¬ StoresFitting S st e) :
    ∃ st', st.step S e = some st' ∧ ¬ AllQueryable st' := by
  cases e with
  | tick | arrive | abort => exact absurd trivial hfits
  | advance r fresh elapsed =>
      simp only [StoresFitting, not_forall] at hfits
      obtain ⟨p, deviceId, hostname, hp, hassigns, hnot⟩ := hfits
      obtain ⟨p', db', name, hnext, hname, hnames⟩ := hassigns.next
      refine ⟨_, step_advance.mpr ⟨p, p', db', hp, hnext, rfl⟩, fun hall => hnot ?_⟩
      obtain ⟨row, hrow, heq⟩ := hnames.new
      rw [← hnaming.queryable_iff hp hassigns hname, ← heq]
      exact hall row hrow

/-- **When stored names can be asked for.**  In every run from an empty database,
    every label of every stored name has 1 to 63 bytes, and the agent reads the name
    back from the question for it, in every state, exactly when each registration and
    each rename that commits finds the plain name free, or has a host name that leaves
    room for what is put behind it: 54 bytes when the suffixed name is free, 52 when
    one of the attempts 2 to 9 is, 51 otherwise. -/
theorem stored_names_queryable_iff (S : Server) (now : Timestamp) (events : List Event) :
    Throughout (step S) AllQueryable (start .empty now) events ↔
      Along (step S) (StoresFitting S) (start .empty now) events := by
  have hstart : NamingInv (start .empty now) ∧ AllQueryable (start .empty now) := by
    refine ⟨⟨fun p hp => ?_, fun i hi => ?_⟩, fun r hr => ?_⟩
    · cases hp
    · cases hi
    · cases hr
  have hkeep : ∀ s e t, (NamingInv s ∧ AllQueryable s) → StoresFitting S s e → step S s e = some t →
      NamingInv t ∧ AllQueryable t :=
    fun s e t hinv hfits hstep => ⟨hinv.1.step hstep, hinv.2.step hinv.1 hfits hstep⟩
  exact throughout_iff_along (fun _ hinv => hinv.2) hkeep
    (fun _ _ hinv hfits => not_allQueryable hinv.1 hfits) hstart events

end ControlState

end Steps

namespace Reference

/-- A host name of 55 bytes. -/
def longHostname : String := String.ofList (List.replicate 55 'a')

/-- Two machines of that name register one after the other, each with a key of its own. -/
def longNames : List Event :=
  [.arrive .createAuthKey, advance 0, .arrive .createAuthKey, advance 1,
   .arrive (.registerDevice { registration longHostname with machineKey := "first" }),
   advance 2, advance 2, advance 2, advance 2,
   .arrive (.registerDevice { registration longHostname with
     machineKey := "second", authKey := "tfk_" ++ simple (uuids 1).authKeySecret }),
   advance 3, advance 3, advance 3, advance 3]

end Reference

open Reference in
/-- The second one gets a name with a label of 64 bytes, for which no question is
    accepted. -/
theorem long_name_not_queryable :
    ∃ st r, run (step server) (start .empty 0) longNames = some st ∧ r ∈ st.db.dnsRecords.rows ∧
      r.name = longHostname ++ "-03000000.mesh" ∧
      (labelsOf r.name).map labelLength = [64, 4] ∧
      parseQuery (queryPacket 1 r.name typeA) =
        .error (.bail "compressed DNS question names are not supported") ∧
      ¬ AllQueryable st := by
  have hrun : (run (step server) (start .empty 0) longNames).any (fun st =>
      st.db.dnsRecords.rows.any fun r => r.name == longHostname ++ "-03000000.mesh") = true := by
    decide +kernel
  have hlabels : (labelsOf (longHostname ++ "-03000000.mesh")).map labelLength = [64, 4] := by
    decide +kernel
  have hparse : parseQuery (queryPacket 1 (longHostname ++ "-03000000.mesh") typeA) =
      .error (.bail "compressed DNS question names are not supported") := by
    decide +kernel
  obtain ⟨st, hst, hany⟩ := (Option.any_eq_true _ _).mp hrun
  obtain ⟨r, hr, hname⟩ := List.any_eq_true.mp hany
  rw [beq_iff_eq] at hname
  refine ⟨st, r, hst, hr, hname, ?_, ?_, fun hall => ?_⟩
  · rw [hname]
    exact hlabels
  · rw [hname]
    exact hparse
  · have hread := (hall r hr).read 1 typeA
    rw [hname, hparse] at hread
    cases hread

end TfScale.Control
