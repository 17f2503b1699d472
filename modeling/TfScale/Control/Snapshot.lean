/-
  TfScale.Control.Snapshot

  What a network map is a picture of.

  `network_map` is not one transaction: it reads the device itself, the list of its
  peers, the endpoints of one peer after the other, the six terms of the version and
  the DNS records, each in a query of its own, while other requests write.  A served
  map is therefore not one state of the database, but its list of peers is: all the
  rows are those of one state that the control plane passed while the request was
  under way, and the other reads follow it in a fixed order.

  The invariant relates what a request has read to the number of events after which
  it was read (`Reading`).
-/

import TfScale.Lib.History
import TfScale.Control.Acceptance

namespace TfScale.Control

open ControlState

-- ============================================================================
-- Reads
-- ============================================================================

/-- Request `r` has come and has no reply yet. -/
def ControlState.UnderWay (st : ControlState) (r : Nat) : Prop :=
  ∃ p, st.requests[r]? = some p ∧ ∀ reply, p ≠ .done reply

section Reads

variable (S : Server) (s₀ : ControlState) (events : List Event) (r : Nat)

/-- The control plane passes `s` after `n` events, while request `r` is under way. -/
structure ReadAt (n : Nat) (s : ControlState) : Prop where
  passed : Passed (step S) s₀ events n s
  underWay : s.UnderWay r

/-- The device itself, as the first query of a map found it after `n` events. -/
def SelfRead (deviceId : String) (selfDevice : NetworkMapSelf) (n : Nat) : Prop :=
  ∃ s, ReadAt S s₀ events r n s ∧ s.db.selfDevice S deviceId = .ok selfDevice

/-- The rows of the peers, all read after `n` events. -/
def RowsRead (deviceId : String) (rows : List PeerRow) (n : Nat) : Prop :=
  ∃ s, ReadAt S s₀ events r n s ∧ s.db.peerRows deviceId = rows

/-- The endpoints of a peer that had not expired at some time of event `n`. -/
def PeerRead (peer : NetworkMapPeer) (n : Nat) : Prop :=
  ∃ s s' t, ReadAt S s₀ events r n s ∧ Passed (step S) s₀ events (n + 1) s' ∧
    s.now ≤ t ∧ t ≤ s'.now ∧ peer = s.db.networkMapPeer t (entryRow peer)

/-- A term of the version. -/
def TermRead (value : VersionTerm × Nat) (n : Nat) : Prop :=
  ∃ s, ReadAt S s₀ events r n s ∧ s.db.versionTerm value.1 = value.2

def DnsRead (records : List DnsRecord) (n : Nat) : Prop :=
  ∃ s, ReadAt S s₀ events r n s ∧ s.db.loadDnsRecords = records

/-- What a map request has read: itself after `a` events, all the rows after `b`, the
    endpoints of its first peers after `ns`, and the first terms of the version after
    `ms`.  The rows still to be completed are `pending`. -/
structure MapReads (deviceId : String) (selfDevice : NetworkMapSelf) (peers : List NetworkMapPeer)
    (pending : List PeerRow) (values : List (VersionTerm × Nat)) (a b : Nat) (ns ms : List Nat) :
    Prop where
  selfDevice : SelfRead S s₀ events r deviceId selfDevice a
  rows : RowsRead S s₀ events r deviceId (peers.map entryRow ++ pending) b
  peers : List.Forall₂ (PeerRead S s₀ events r) peers ns
  values : List.Forall₂ (TermRead S s₀ events r) values ms
  ordered : (a :: b :: (ns ++ ms)).Pairwise (· < ·)
  past : ∀ n ∈ a :: b :: (ns ++ ms), n < events.length

/-- A request for a map of `query` arrived as number `r`. -/
def Asks (query : NetworkMapQuery) : Prop := (arrivals events)[r]? = some (.networkMap query)

/-- What a request has read where it is now. -/
def Reading : Process → Prop
  | .mapReceived query | .mapValidated query => Asks events r query
  | .mapSelf query selfDevice =>
      Asks events r query ∧ ∃ a < events.length, SelfRead S s₀ events r query.deviceId selfDevice a
  | .mapPeers query selfDevice peers pending =>
      Asks events r query ∧
        ∃ a b ns, MapReads S s₀ events r query.deviceId selfDevice peers pending [] a b ns []
  | .mapVersion query selfDevice peers pending sum =>
      Asks events r query ∧ ∃ values a b ns ms,
        MapReads S s₀ events r query.deviceId selfDevice peers [] values a b ns ms ∧
          values.map Prod.fst ++ pending = VersionTerm.all ∧ sum = (values.map Prod.snd).sum
  | .mapDns query selfDevice peers version =>
      Asks events r query ∧ ∃ values a b ns ms,
        MapReads S s₀ events r query.deviceId selfDevice peers [] values a b ns ms ∧
          values.map Prod.fst = VersionTerm.all ∧ version = (values.map Prod.snd).sum
  | .done (.networkMap (.ok map)) =>
      ∃ query, Asks events r query ∧ map.relays = S.relays ∧ ∃ values a b ns ms d,
        MapReads S s₀ events r query.deviceId map.selfDevice map.peers [] values a b ns ms ∧
          values.map Prod.fst = VersionTerm.all ∧
          map.networkMapVersion = ((values.map Prod.snd).sum : Nat) ∧
          DnsRead S s₀ events r map.dnsRecords d ∧ ∀ n ∈ a :: b :: (ns ++ ms), n < d
  | _ => True

end Reads

variable {S : Server} {s₀ st st' : ControlState} {events : List Event} {e : Event} {r n : Nat}
variable {deviceId : String} {query : NetworkMapQuery} {selfDevice : NetworkMapSelf}
variable {peers : List NetworkMapPeer} {pending : List PeerRow} {values : List (VersionTerm × Nat)}
variable {a b : Nat} {ns ms : List Nat} {clock : Nat → Timestamp} {fresh : Fresh} {db' : Db}
variable {p p' : Process}

-- ============================================================================
-- What was read stays read
-- ============================================================================

theorem ReadAt.append {s : ControlState} (h : ReadAt S s₀ events r n s) (later : List Event) :
    ReadAt S s₀ (events ++ later) r n s := ⟨h.passed.append later, h.underWay⟩

theorem SelfRead.append (h : SelfRead S s₀ events r deviceId selfDevice n) (later : List Event) :
    SelfRead S s₀ (events ++ later) r deviceId selfDevice n := by
  obtain ⟨s, hread, hself⟩ := h
  exact ⟨s, hread.append later, hself⟩

theorem PeerRead.append {peer : NetworkMapPeer} (h : PeerRead S s₀ events r peer n)
    (later : List Event) : PeerRead S s₀ (events ++ later) r peer n := by
  obtain ⟨s, s', t, hread, hnext, hbefore, hafter, hpeer⟩ := h
  exact ⟨s, s', t, hread.append later, hnext.append later, hbefore, hafter, hpeer⟩

theorem TermRead.append {value : VersionTerm × Nat} (h : TermRead S s₀ events r value n)
    (later : List Event) : TermRead S s₀ (events ++ later) r value n := by
  obtain ⟨s, hread, hterm⟩ := h
  exact ⟨s, hread.append later, hterm⟩

theorem DnsRead.append {records : List DnsRecord} (h : DnsRead S s₀ events r records n)
    (later : List Event) : DnsRead S s₀ (events ++ later) r records n := by
  obtain ⟨s, hread, hrecords⟩ := h
  exact ⟨s, hread.append later, hrecords⟩

theorem MapReads.append (h : MapReads S s₀ events r deviceId selfDevice peers pending values a b ns ms)
    (later : List Event) :
    MapReads S s₀ (events ++ later) r deviceId selfDevice peers pending values a b ns ms where
  selfDevice := h.selfDevice.append later
  rows := by
    obtain ⟨s, hread, hrows⟩ := h.rows
    exact ⟨s, hread.append later, hrows⟩
  peers := h.peers.imp fun _ _ hpeer => hpeer.append later
  values := h.values.imp fun _ _ hterm => hterm.append later
  ordered := h.ordered
  past := fun n hn => by
    have := h.past n hn
    rw [List.length_append]
    omega

theorem Asks.append (h : Asks events r query) (later : List Event) :
    Asks (events ++ later) r query := by
  have hlt : r < (arrivals events).length := (List.getElem?_eq_some_iff.mp h).1
  rw [Asks, arrivals_append, List.getElem?_append_left hlt]
  exact h

theorem Reading.append (h : Reading S s₀ events r p) (later : List Event) :
    Reading S s₀ (events ++ later) r p := by
  cases p with
  | mapReceived query => exact Asks.append h later
  | mapValidated query => exact Asks.append h later
  | mapSelf query selfDevice =>
      obtain ⟨hasks, a, ha, hself⟩ := h
      refine ⟨hasks.append later, a, ?_, hself.append later⟩
      rw [List.length_append]
      omega
  | mapPeers query selfDevice peers pending =>
      obtain ⟨hasks, a, b, ns, hreads⟩ := h
      exact ⟨hasks.append later, a, b, ns, hreads.append later⟩
  | mapVersion query selfDevice peers pending sum =>
      obtain ⟨hasks, values, a, b, ns, ms, hreads, hterms⟩ := h
      exact ⟨hasks.append later, values, a, b, ns, ms, hreads.append later, hterms⟩
  | mapDns query selfDevice peers version =>
      obtain ⟨hasks, values, a, b, ns, ms, hreads, hterms⟩ := h
      exact ⟨hasks.append later, values, a, b, ns, ms, hreads.append later, hterms⟩
  | done reply =>
      cases reply with
      | networkMap result =>
          cases result with
          | error _ => trivial
          | ok map =>
              obtain ⟨query, hasks, hrelays, values, a, b, ns, ms, d, hreads, hterms, hversion, hdns,
                hlast⟩ := h
              exact ⟨query, hasks.append later, hrelays, values, a, b, ns, ms, d, hreads.append later,
                hterms, hversion, hdns.append later, hlast⟩
      | _ => trivial
  | _ => trivial

-- ============================================================================
-- One more read
-- ============================================================================

/-- The positions of a list of reads, and of one that comes after them. -/
theorem ordered_concat {l : List Nat} {n m : Nat} (h : l.Pairwise (· < ·)) (hl : ∀ k ∈ l, k < n)
    (hm : n < m) : (l ++ [n]).Pairwise (· < ·) ∧ ∀ k ∈ l ++ [n], k < m := by
  refine ⟨List.pairwise_append.mpr ⟨h, List.pairwise_singleton _ _, ?_⟩, fun k hk => ?_⟩
  · intro k hk k' hk'
    rw [List.mem_singleton.mp hk']
    exact hl k hk
  · rcases List.mem_append.mp hk with hk | hk
    · have := hl k hk
      omega
    · rw [List.mem_singleton.mp hk]
      exact hm

/-- The endpoints of the next peer are read. -/
theorem MapReads.peer {row : PeerRow} {peer : NetworkMapPeer}
    (h : MapReads S s₀ events r deviceId selfDevice peers (row :: pending) [] a b ns [])
    (hentry : entryRow peer = row) (hread : PeerRead S s₀ (events ++ [e]) r peer events.length) :
    MapReads S s₀ (events ++ [e]) r deviceId selfDevice (peers ++ [peer]) pending [] a b
      (ns ++ [events.length]) [] := by
  have h' := h.append [e]
  have hpositions : a :: b :: (ns ++ [events.length] ++ []) = (a :: b :: (ns ++ [])) ++ [events.length] := by
    simp
  have hordered := ordered_concat h.ordered h.past (m := (events ++ [e]).length) (by simp)
  refine ⟨h'.selfDevice, ?_, ?_, .nil, ?_, ?_⟩
  · rw [List.map_append, List.append_assoc]
    show RowsRead S s₀ (events ++ [e]) r deviceId (peers.map entryRow ++ (entryRow peer :: pending)) b
    rw [hentry]
    exact h'.rows
  · exact List.rel_append h'.peers (.cons hread .nil)
  · rw [hpositions]
    exact hordered.1
  · rw [hpositions]
    exact hordered.2

/-- The next term of the version is read. -/
theorem MapReads.term {value : VersionTerm × Nat}
    (h : MapReads S s₀ events r deviceId selfDevice peers pending values a b ns ms)
    (hread : TermRead S s₀ (events ++ [e]) r value events.length) :
    MapReads S s₀ (events ++ [e]) r deviceId selfDevice peers pending (values ++ [value]) a b ns
      (ms ++ [events.length]) := by
  have h' := h.append [e]
  have hpositions : a :: b :: (ns ++ (ms ++ [events.length])) =
      (a :: b :: (ns ++ ms)) ++ [events.length] := by
    simp
  have hordered := ordered_concat h.ordered h.past (m := (events ++ [e]).length) (by simp)
  refine ⟨h'.selfDevice, h'.rows, h'.peers, List.rel_append h'.values (.cons hread .nil), ?_, ?_⟩
  · rw [hpositions]
    exact hordered.1
  · rw [hpositions]
    exact hordered.2

/-- Where a map request goes on when its rows are read, or the endpoints of a peer. -/
theorem reading_afterPeers (hasks : Asks events r query)
    (h : MapReads S s₀ events r query.deviceId selfDevice peers pending [] a b ns []) :
    Reading S s₀ events r (Process.afterPeers query selfDevice peers pending) := by
  cases pending with
  | nil => exact ⟨hasks, [], a, b, ns, [], h, rfl, rfl⟩
  | cons row pending => exact ⟨hasks, a, b, ns, h⟩

/-- One term of the version after the other, and then the DNS records. -/
theorem reading_mapRead {version : List VersionTerm} {sum : Nat}
    (h : Reading S s₀ events r (.mapVersion query selfDevice peers version sum))
    (hread : ReadAt S s₀ (events ++ [e]) r events.length st) :
    Reading S s₀ (events ++ [e]) r (Process.mapRead st.db query selfDevice peers version sum) := by
  obtain ⟨hasks, values, a, b, ns, ms, hreads, hterms, rfl⟩ := h
  have hsum : ∀ value : VersionTerm × Nat,
      (values.map Prod.snd).sum + value.2 = ((values ++ [value]).map Prod.snd).sum := by
    intro value
    rw [List.map_append, List.sum_append]
    rfl
  cases version with
  | nil =>
      rw [List.append_nil] at hterms
      exact ⟨hasks.append [e], values, a, b, ns, ms, hreads.append [e], hterms, rfl⟩
  | cons term version =>
      have hlast : TermRead S s₀ (events ++ [e]) r (term, st.db.versionTerm term) events.length :=
        ⟨st, hread, rfl⟩
      have hterm := hreads.term hlast
      have hall : (values ++ [(term, st.db.versionTerm term)]).map Prod.fst ++ version =
          VersionTerm.all := by
        rw [List.map_append, List.append_assoc]
        exact hterms
      cases version with
      | nil =>
          rw [List.append_nil] at hall
          exact ⟨hasks.append [e], _, a, b, ns, _, hterm, hall,
            hsum (term, _)⟩
      | cons term' version => exact ⟨hasks.append [e], _, a, b, ns, _, hterm, hall, hsum (term, _)⟩

theorem reading_of_handler (h : p.handler ≠ .networkMap) : Reading S s₀ events r p := by
  cases p with
  | done reply =>
      cases reply with
      | networkMap result => exact absurd rfl h
      | _ => trivial
  | mapReceived | mapValidated | mapSelf | mapPeers | mapVersion | mapDns => exact absurd rfl h
  | _ => trivial

theorem reading_failed {error : ApiError} {reply : Reply} (h : p.failed error = some reply) :
    Reading S s₀ events r (.done reply) := by
  rw [Process.failed_eq h]
  cases p.handler <;> trivial

theorem reading_start {request : Request} (h : (arrivals events)[r]? = some request) :
    Reading S s₀ events r request.start := by
  cases request with
  | networkMap query => exact h
  | _ => trivial

/-- A request takes its next query. -/
theorem Reading.next {elapsed : Elapsed} (h : Reading S s₀ events r p)
    (hrun : run (step S) s₀ events = some st) (hp : st.requests[r]? = some p)
    (hstep : st.step S (.advance r fresh elapsed) = some st')
    (hnext : p.next S st.db (elapsed.clock st.now) fresh = some (p', st'.db)) :
    Reading S s₀ (events ++ [.advance r fresh elapsed]) r p' := by
  have hread : ReadAt S s₀ (events ++ [.advance r fresh elapsed]) r events.length st := by
    refine ⟨(passed_last hrun).append _, p, hp, ?_⟩
    rintro reply rfl
    cases hnext
  cases p with
  | mapReceived query =>
      simp only [Process.next] at hnext
      split at hnext
      · obtain ⟨rfl, -⟩ := Prod.mk.inj (Option.some.inj hnext)
        trivial
      · obtain ⟨rfl, -⟩ := Prod.mk.inj (Option.some.inj hnext)
        exact Asks.append h _
  | mapValidated query =>
      simp only [Process.next] at hnext
      split at hnext
      · obtain ⟨rfl, -⟩ := Prod.mk.inj (Option.some.inj hnext)
        trivial
      · rename_i selfDevice hself
        obtain ⟨rfl, -⟩ := Prod.mk.inj (Option.some.inj hnext)
        refine ⟨Asks.append h _, events.length, ?_, st, hread, hself⟩
        rw [List.length_append]
        exact Nat.lt_succ_self _
  | mapSelf query selfDevice =>
      obtain ⟨rfl, -⟩ := Prod.mk.inj (Option.some.inj hnext)
      obtain ⟨hasks, a, ha, hself⟩ := h
      have hordered := ordered_concat (List.pairwise_singleton (· < ·) a)
        (fun k hk => by rw [List.mem_singleton.mp hk]; exact ha)
        (m := (events ++ [Event.advance r fresh elapsed]).length) (by simp)
      exact reading_afterPeers (hasks.append _)
        ⟨hself.append _, ⟨st, hread, rfl⟩, .nil, .nil, hordered.1, hordered.2⟩
  | mapPeers query selfDevice peers pending =>
      obtain ⟨rfl, -⟩ := Prod.mk.inj (Option.some.inj hnext)
      obtain ⟨hasks, a, b, ns, hreads⟩ := h
      cases pending with
      | nil => exact reading_afterPeers (hasks.append _) (hreads.append _)
      | cons row pending =>
          refine reading_afterPeers (hasks.append _) (hreads.peer rfl ?_)
          have hlast : Passed (step S) s₀ (events ++ [.advance r fresh elapsed]) (events.length + 1) st' := by
            have := passed_last (run_concat_eq_some.mpr ⟨st, hrun, hstep⟩)
            rw [List.length_append] at this
            exact this
          obtain ⟨_, _, _, -, -, rfl⟩ := step_advance.mp hstep
          exact ⟨st, _, elapsed.clock st.now 0, hread, hlast, elapsed.le_clock st.now 0,
            elapsed.clock_le st.now 0, rfl⟩
  | mapVersion query selfDevice peers pending sum =>
      obtain ⟨rfl, -⟩ := Prod.mk.inj (Option.some.inj hnext)
      exact reading_mapRead h hread
  | mapDns query selfDevice peers version =>
      obtain ⟨rfl, -⟩ := Prod.mk.inj (Option.some.inj hnext)
      obtain ⟨hasks, values, a, b, ns, ms, hreads, hterms, rfl⟩ := h
      exact ⟨query, hasks.append _, rfl, values, a, b, ns, ms, events.length, hreads.append _, hterms,
        rfl, ⟨st, hread, rfl⟩, hreads.past⟩
  | done reply => cases hnext
  | _ =>
      refine reading_of_handler fun hmap => ?_
      rw [Process.next_handler hnext] at hmap
      cases hmap

-- ============================================================================
-- Runs
-- ============================================================================

namespace ControlState

/-- Where the process of request `r` comes from: it was there, has just arrived, has
    failed, or has taken a step. -/
theorem request_of_step (hstep : st.step S e = some st') (hp : st'.requests[r]? = some p') :
    st.requests[r]? = some p' ∨
      (∃ request : Request, e = .arrive request ∧ r = st.requests.length ∧ p' = request.start) ∨
      (∃ (p : Process) (error : ApiError) (reply : Reply),
        st.requests[r]? = some p ∧ p.failed error = some reply ∧ p' = .done reply) ∨
      ∃ (p : Process) (fresh : Fresh) (elapsed : Elapsed), e = .advance r fresh elapsed ∧
        st.requests[r]? = some p ∧ p.next S st.db (elapsed.clock st.now) fresh = some (p', st'.db) := by
  cases e with
  | tick seconds =>
      obtain rfl := Option.some.inj hstep
      exact Or.inl hp
  | arrive request =>
      obtain rfl := Option.some.inj hstep
      rcases Nat.lt_or_ge r st.requests.length with hlt | hge
      · exact Or.inl ((List.getElem?_append_left hlt).symm.trans hp)
      · have hnew := (List.getElem?_append_right hge).symm.trans hp
        rw [List.getElem?_singleton] at hnew
        split at hnew
        · exact Or.inr (Or.inl ⟨request, rfl, by omega, (Option.some.inj hnew).symm⟩)
        · cases hnew
  | advance q fresh elapsed =>
      obtain ⟨p, p₁, db', hq, hnext, rfl⟩ := step_advance.mp hstep
      rcases getElem?_set_cases hp with ⟨rfl, rfl⟩ | ⟨-, hold⟩
      · exact Or.inr (Or.inr (Or.inr ⟨p, fresh, elapsed, rfl, hq, hnext⟩))
      · exact Or.inl hold
  | abort q message =>
      obtain ⟨p, reply, hq, hfailed, rfl⟩ := step_abort.mp hstep
      rcases getElem?_set_cases hp with ⟨rfl, rfl⟩ | ⟨-, hold⟩
      · exact Or.inr (Or.inr (Or.inl ⟨p, _, reply, hq, hfailed, rfl⟩))
      · exact Or.inl hold

theorem length_of_step (hstep : st.step S e = some st') :
    st'.requests.length = st.requests.length + (arrivals [e]).length := by
  cases e with
  | tick seconds =>
      obtain rfl := Option.some.inj hstep
      rfl
  | arrive request =>
      obtain rfl := Option.some.inj hstep
      exact List.length_append
  | advance q fresh elapsed =>
      obtain ⟨_, _, _, -, -, rfl⟩ := step_advance.mp hstep
      exact List.length_set
  | abort q message =>
      obtain ⟨_, _, -, -, rfl⟩ := step_abort.mp hstep
      exact List.length_set

/-- Every request has read what it holds, in the run so far. -/
structure Pictures (S : Server) (s₀ : ControlState) (events : List Event) (st : ControlState) : Prop where
  length : st.requests.length = (arrivals events).length
  reading : ∀ (r : Nat) p, st.requests[r]? = some p → Reading S s₀ events r p

theorem pictures_start (S : Server) (db : Db) (now : Timestamp) :
    Pictures S (start db now) [] (start db now) := ⟨rfl, fun _ _ h => by cases h⟩

theorem Pictures.step (h : Pictures S s₀ events st) (hrun : run (step S) s₀ events = some st)
    (hstep : st.step S e = some st') : Pictures S s₀ (events ++ [e]) st' := by
  refine ⟨?_, fun r p' hp' => ?_⟩
  · rw [length_of_step hstep, h.length, arrivals_append, List.length_append]
  · rcases request_of_step hstep hp' with
      hold | ⟨request, rfl, hr, rfl⟩ | ⟨p, _, reply, -, hfailed, rfl⟩ |
      ⟨p, fresh, elapsed, rfl, hp, hnext⟩
    · exact (h.reading r p' hold).append _
    · refine reading_start ?_
      rw [arrivals_append, List.getElem?_append_right (by rw [hr, h.length]), hr, h.length,
        Nat.sub_self]
      rfl
    · exact reading_failed hfailed
    · exact (h.reading r p hp).next hrun hp hstep hnext

theorem pictures_of_run {db : Db} {now : Timestamp}
    (h : run (ControlState.step S) (start db now) events = some st) :
    Pictures S (start db now) events st :=
  invariant_history (pictures_start S db now) (fun _ _ _ _ hrun hinv hstep => hinv.step hrun hstep) h

/-- **A served network map is a picture of the control plane.**  For every interleaving
    of requests, what a map says was read while its request was under way, in this
    order: the device itself, the rows of all peers in one state, the endpoints of one
    peer after the other, the terms of the version, and the DNS records. -/
theorem served_map_is_a_picture (S : Server) (db : Db) (now : Timestamp) (events : List Event)
    (st : ControlState) (h : run (step S) (start db now) events = some st) (r : Nat)
    (map : NetworkMapResponse) (hserved : st.served r = some map) :
    ∃ query values a b ns ms d,
      (arrivals events)[r]? = some (.networkMap query) ∧
      (a :: b :: (ns ++ ms ++ [d])).Pairwise (· < ·) ∧
      SelfRead S (start db now) events r query.deviceId map.selfDevice a ∧
      RowsRead S (start db now) events r query.deviceId (map.peers.map entryRow) b ∧
      List.Forall₂ (PeerRead S (start db now) events r) map.peers ns ∧
      List.Forall₂ (TermRead S (start db now) events r) values ms ∧
      values.map Prod.fst = VersionTerm.all ∧
      map.networkMapVersion = ((values.map Prod.snd).sum : Nat) ∧
      DnsRead S (start db now) events r map.dnsRecords d ∧
      map.relays = S.relays := by
  have hdone := done_of_served hserved
  obtain ⟨query, hasks, hrelays, values, a, b, ns, ms, d, hreads, hterms, hversion, hdns, hlast⟩ :=
    (pictures_of_run h).reading r _ hdone
  refine ⟨query, values, a, b, ns, ms, d, hasks, ?_, hreads.selfDevice, ?_, hreads.peers,
    hreads.values, hterms, hversion, hdns, hrelays⟩
  · exact (ordered_concat hreads.ordered hlast (Nat.lt_succ_self d)).1
  · have hrows := hreads.rows
    rw [List.append_nil] at hrows
    exact hrows

end ControlState

namespace Reference

/-- Two devices register, and the second one is deleted while the first one's map is
    being read. -/
def deletedMeanwhile : List Event :=
  [.arrive .createAuthKey, advance 0,
   .arrive (.registerDevice (registration "alpha")), .arrive (.registerDevice (registration "beta")),
   advance 1, advance 1, advance 2, advance 2, advance 1, advance 1, advance 2, advance 2,
   .arrive (.networkMap ⟨"dev_" ++ simple (uuids 1).device, "node_" ++ simple (uuids 1).node⟩),
   advance 3, advance 3, advance 3,
   .arrive (.deleteDevice ("dev_" ++ simple (uuids 2).device)), advance 4] ++
  List.replicate 8 (advance 3)

end Reference

open Reference in
/-- The map lists the second device, as it was, and no name of it any more. -/
theorem served_map_is_a_picture_deleted :
    ∃ st map query b d, run (step server) (start .empty 0) deletedMeanwhile = some st ∧
      st.served 3 = some map ∧
      map.peers.map (·.deviceId) = ["dev_" ++ simple (uuids 2).device] ∧
      map.dnsRecords.map (·.deviceId) = ["dev_" ++ simple (uuids 1).device] ∧
      RowsRead server (start .empty 0) deletedMeanwhile 3 query (map.peers.map entryRow) b ∧
      DnsRead server (start .empty 0) deletedMeanwhile 3 map.dnsRecords d ∧ b < d := by
  have hrun : (run (step server) (start .empty 0) deletedMeanwhile).any (fun st =>
      (st.served 3).any fun map =>
        map.peers.map (·.deviceId) = ["dev_" ++ simple (uuids 2).device] ∧
        map.dnsRecords.map (·.deviceId) = ["dev_" ++ simple (uuids 1).device]) = true := by
    decide +kernel
  obtain ⟨st, hst, hfacts⟩ := (Option.any_eq_true _ _).mp hrun
  obtain ⟨map, hserved, hfacts⟩ := (Option.any_eq_true _ _).mp hfacts
  obtain ⟨hpeers, hrecords⟩ := of_decide_eq_true hfacts
  obtain ⟨query, _, _, b, _, _, d, -, hordered, -, hrows, -, -, -, -, hdns, -⟩ :=
    served_map_is_a_picture server .empty 0 deletedMeanwhile st hst 3 map hserved
  refine ⟨st, map, _, b, d, hst, hserved, hpeers, hrecords, hrows, hdns, ?_⟩
  obtain ⟨-, hlater⟩ := List.pairwise_cons.mp hordered
  exact (List.pairwise_cons.mp hlater).1 d (by simp)

end TfScale.Control
