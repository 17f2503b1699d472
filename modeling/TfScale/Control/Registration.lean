/-
  TfScale.Control.Registration

  What do registrations for one machine key agree on?

  `register_device` looks for a live device in one query and inserts the row in a
  later transaction, so any number of requests for one machine key may be under way
  at once.  The table keeps one row per machine key, deleted rows included, and no
  transaction changes what a registration reports of a row (`identity`); every
  successful response is therefore read from, or becomes, the same row.
-/

import TfScale.Lib.Run
import TfScale.Control.Requests

namespace TfScale.Control

open ControlState

variable {S : Server} {db db' : Db} {clock : Nat → Timestamp} {fresh : Fresh} {p p' : Process}
variable {st st' : ControlState}

-- ============================================================================
-- What stays of a device row
-- ============================================================================

/-- What a registration reports of a device. -/
def DeviceRow.registered (d : DeviceRow) : RegisterDeviceResponse :=
  ⟨d.id, d.nodeKey, d.ipv4, d.networkId, 5⟩

/-- The machine key of a device, and what a registration reports of it. -/
def DeviceRow.identity (d : DeviceRow) : String × RegisterDeviceResponse :=
  (d.machineKey, d.registered)

/-- The devices that were ever registered, oldest first. -/
def Db.identities (db : Db) : List (String × RegisterDeviceResponse) :=
  db.devices.rows.map DeviceRow.identity

theorem registerTx_identities {request : RegisterDeviceRequest} {hostname ipv4 : String}
    {response : RegisterDeviceResponse}
    (h : db.registerTx S clock fresh request hostname ipv4 = .ok (response, db')) :
    db'.identities = db.identities ++ [(request.machineKey, response)] := by
  obtain ⟨devices, _, _, _, hinsert, -, -, rfl, rfl, -⟩ := Db.registerTx_ok h
  show devices.rows.map DeviceRow.identity = _
  rw [(Table.insert_eq_some.mp hinsert).2, List.map_append]
  rfl

/-- A transaction is an insert of a registration, or it leaves the list of devices
    and their addresses alone. -/
theorem Commit.register_or (h : Commit S clock fresh db p db') :
    (∃ request hostname ipv4 response, p = .registerAllocated request hostname ipv4 ∧
        db.registerTx S clock fresh request hostname ipv4 = .ok (response, db')) ∨
      (db'.identities = db.identities ∧ db'.ipAllocations = db.ipAllocations) := by
  cases h with
  | createAuthKey h =>
      obtain ⟨_, _, -, -, -, rfl⟩ := Db.createAuthKey_ok h
      exact Or.inr ⟨rfl, rfl⟩
  | register h => exact Or.inl ⟨_, _, _, _, rfl, h⟩
  | rename _ h =>
      obtain ⟨_, _, _, -, -, -, rfl⟩ := Db.renameTx_ok h
      exact Or.inr ⟨Table.map_updated _ fun _ _ _ => rfl, rfl⟩
  | delete h =>
      obtain rfl := Db.deleteTx_ok h
      exact Or.inr ⟨Table.map_updated _ fun _ _ _ => rfl, rfl⟩
  | heartbeat h =>
      obtain ⟨_, rfl⟩ := Db.storeEndpoints_ok h
      exact Or.inr ⟨Table.map_updated _ fun _ _ _ => rfl, rfl⟩

theorem Commit.identities_le (h : Commit S clock fresh db p db') :
    db.identities <+: db'.identities := by
  rcases h.register_or with ⟨_, _, _, _, -, hok⟩ | ⟨hsame, -⟩
  · exact ⟨_, (registerTx_identities hok).symm⟩
  · exact ⟨[], (List.append_nil _).trans hsame.symm⟩

theorem step_identities {e : Event} (h : st.step S e = some st') :
    st.db.identities <+: st'.db.identities := by
  rcases step_db h with hsame | ⟨_, _, _, _, _, -, -, -, hcommit⟩
  · exact ⟨[], by rw [List.append_nil, hsame]⟩
  · exact hcommit.identities_le

/-- Device rows are only ever added, and none of them changes its identity. -/
theorem run_identities {events : List Event} (h : run (step S) st events = some st') :
    st.db.identities <+: st'.db.identities := by
  have hkeep : ∀ s e t, st.db.identities <+: s.db.identities → step S s e = some t →
      st.db.identities <+: t.db.identities :=
    fun s e t hinv hstep => hinv.trans (step_identities hstep)
  exact invariant_run (s := st) (t := st') hkeep List.prefix_rfl h

/-- No two device rows have one machine key. -/
theorem machineKeys_nodup (db : Db) : (db.identities.map Prod.fst).Nodup := by
  rw [Db.identities, List.map_map]
  refine List.pairwise_map.mpr (db.devices.unique.imp fun {d d'} hclash heq => ?_)
  have hkey : d.machineKey = d'.machineKey := heq
  rw [deviceClash_eq, hkey, beq_self_eq_true, Bool.or_true] at hclash
  cases hclash

/-- So a machine key has one identity. -/
theorem identities_functional {machineKey : String} {a b : RegisterDeviceResponse}
    (ha : (machineKey, a) ∈ db.identities) (hb : (machineKey, b) ∈ db.identities) : a = b := by
  have hinj := List.inj_on_of_nodup_map (machineKeys_nodup db) ha hb rfl
  exact (Prod.mk.inj hinj).2

-- ============================================================================
-- A registration under way
-- ============================================================================

/-- Where a registration for `request` can be; a response that it has returned is
    that of a device row. -/
inductive Registering (db : Db) (request : RegisterDeviceRequest) : Process → Prop where
  | received : Registering db request (.registerReceived request)
  | unknown : Registering db request (.registerUnknown request)
  | validated {hostname : String} : Registering db request (.registerValidated request hostname)
  | allocated {hostname ipv4 : String} :
      Registering db request (.registerAllocated request hostname ipv4)
  | refused {error : ApiError} : Registering db request (.done (.registered (.error error)))
  | registered {response : RegisterDeviceResponse}
      (h : (request.machineKey, response) ∈ db.identities) :
      Registering db request (.done (.registered (.ok response)))

section

variable {request : RegisterDeviceRequest}

theorem Registering.mono (h : Registering db request p) (hle : db.identities <+: db'.identities) :
    Registering db' request p := by
  cases h with
  | received => exact .received
  | unknown => exact .unknown
  | validated => exact .validated
  | allocated => exact .allocated
  | refused => exact .refused
  | registered h => exact .registered (hle.subset h)

theorem findExistingDevice_mem {machineKey : String} {response : RegisterDeviceResponse}
    (h : db.findExistingDevice machineKey = some response) :
    (machineKey, response) ∈ db.identities := by
  obtain ⟨d, hd, rfl⟩ := Option.map_eq_some_iff.mp h
  have hkey := List.find?_some hd
  rw [Bool.and_eq_true, beq_iff_eq] at hkey
  rw [← hkey.1]
  exact List.mem_map_of_mem (List.mem_of_find?_eq_some hd)

theorem Registering.handler (h : Registering db request p) : p.handler = .registerDevice := by
  cases h <;> rfl

/-- A registration takes its next query: it leaves the database alone, or it inserts
    its device and has returned. -/
theorem Registering.next (h : Registering db request p)
    (hnext : p.next S db clock fresh = some (p', db')) :
    Registering db' request p' ∧
      (db' = db ∨ ∃ response, p' = .done (.registered (.ok response))) := by
  cases Process.next_register hnext ((Process.next_handler hnext).trans h.handler) with
  | found hfind =>
      cases h
      exact ⟨.registered (findExistingDevice_mem hfind), Or.inl rfl⟩
  | unknown _ =>
      cases h
      exact ⟨.unknown, Or.inl rfl⟩
  | validated _ _ =>
      cases h
      exact ⟨.validated, Or.inl rfl⟩
  | allocated _ =>
      cases h
      exact ⟨.allocated, Or.inl rfl⟩
  | inserted hok =>
      cases h
      refine ⟨.registered ?_, Or.inr ⟨_, rfl⟩⟩
      rw [registerTx_identities hok]
      exact List.mem_append_right _ (List.mem_singleton.mpr rfl)
  | refused => exact ⟨.refused, Or.inl rfl⟩

theorem Registering.failed {error : ApiError} {reply : Reply} (h : Registering db request p)
    (hfailed : p.failed error = some reply) : Registering db request (.done reply) := by
  cases h with
  | refused => cases hfailed
  | registered _ => cases hfailed
  | _ =>
      obtain rfl := Option.some.inj hfailed
      exact .refused

end

-- ============================================================================
-- Runs
-- ============================================================================

/-- The requests that arrived in a run, by number. -/
def arrivals : List Event → List Request
  | [] => []
  | .arrive request :: events => request :: arrivals events
  | _ :: events => arrivals events

/-- The request that an event is a step of. -/
def Event.request : Event → Option Nat
  | .advance r .. | .abort r _ => some r
  | _ => none

namespace ControlState

/-- The requests `arrived` are the ones that are served, and every registration
    among them is where a registration can be. -/
structure Serves (arrived : List Request) (st : ControlState) : Prop where
  length : st.requests.length = arrived.length
  registering : ∀ (r : Nat) request p, arrived[r]? = some (.registerDevice request) →
    st.requests[r]? = some p → Registering st.db request p

variable {arrived : List Request}

theorem serves_start (db : Db) (now : Timestamp) : Serves [] (start db now) where
  length := rfl
  registering := fun _ _ _ h => by cases h

/-- One request takes a step, and the others see the database that it leaves. -/
theorem Serves.set {r : Nat} (h : Serves arrived st) (hp : st.requests[r]? = some p)
    (hrequests : st'.requests = st.requests.set r p') (hle : st.db.identities <+: st'.db.identities)
    (hstep : ∀ request, Registering st.db request p → Registering st'.db request p') :
    Serves arrived st' := by
  refine ⟨by rw [hrequests, List.length_set, h.length], fun q request process hq hprocess => ?_⟩
  rw [hrequests] at hprocess
  rcases getElem?_set_cases hprocess with ⟨rfl, rfl⟩ | ⟨-, hprocess⟩
  · exact hstep request (h.registering q request p hq hp)
  · exact (h.registering q request process hq hprocess).mono hle

theorem Serves.step {e : Event} (h : Serves arrived st) (hstep : st.step S e = some st') :
    Serves (arrived ++ arrivals [e]) st' := by
  have hle := step_identities hstep
  cases e with
  | tick seconds =>
      obtain rfl := Option.some.inj hstep
      rw [show arrived ++ arrivals [.tick seconds] = arrived from List.append_nil _]
      exact ⟨h.length, h.registering⟩
  | arrive request =>
      obtain rfl := Option.some.inj hstep
      refine ⟨by simp [arrivals, h.length], fun r q p hq hp => ?_⟩
      by_cases hr : r < arrived.length
      · have hr' : r < st.requests.length := h.length ▸ hr
        rw [List.getElem?_append_left hr] at hq
        rw [List.getElem?_append_left hr'] at hp
        exact h.registering r q p hq hp
      · rw [List.getElem?_append_right (by omega), arrivals, arrivals,
          List.getElem?_singleton] at hq
        rw [List.getElem?_append_right (by have := h.length; omega), List.getElem?_singleton,
          h.length] at hp
        split at hq
        · rename_i hzero
          rw [if_pos hzero] at hp
          obtain rfl := Option.some.inj hq
          obtain rfl := Option.some.inj hp
          exact .received
        · cases hq
  | advance r fresh elapsed =>
      rw [show arrived ++ arrivals [.advance r fresh elapsed] = arrived from List.append_nil _]
      obtain ⟨p, p', db', hp, hnext, rfl⟩ := step_advance.mp hstep
      exact h.set hp rfl hle fun _ hreg => (hreg.next hnext).1
  | abort r message =>
      rw [show arrived ++ arrivals [.abort r message] = arrived from List.append_nil _]
      obtain ⟨p, reply, hp, hfailed, rfl⟩ := step_abort.mp hstep
      exact h.set hp rfl hle fun _ hreg => hreg.failed hfailed

theorem arrivals_cons (e : Event) (events : List Event) :
    arrivals (e :: events) = arrivals [e] ++ arrivals events := by
  cases e <;> rfl

theorem arrivals_append (before after : List Event) :
    arrivals (before ++ after) = arrivals before ++ arrivals after := by
  induction before with
  | nil => rfl
  | cons e before ih =>
      rw [List.cons_append, arrivals_cons, ih, ← List.append_assoc, ← arrivals_cons]

theorem Serves.run {events : List Event} (h : Serves arrived st)
    (hrun : run (ControlState.step S) st events = some st') :
    Serves (arrived ++ arrivals events) st' := by
  induction events generalizing arrived st with
  | nil =>
      obtain rfl := Option.some.inj hrun
      rw [arrivals, List.append_nil]
      exact h
  | cons e events ih =>
      obtain ⟨s, hstep, hrest⟩ := run_cons_eq_some.mp hrun
      rw [arrivals_cons, ← List.append_assoc]
      exact ih (h.step hstep) hrest

theorem done_step {e : Event} {r : Nat} {reply : Reply}
    (h : st.requests[r]? = some (.done reply)) (hstep : st.step S e = some st') :
    st'.requests[r]? = some (.done reply) := by
  -- a process that can move is another one
  have hset : ∀ {q : Nat} {p p' : Process}, st.requests[q]? = some p → p ≠ .done reply →
      (st.requests.set q p')[r]? = some (.done reply) := by
    intro q p p' hq hne
    rw [List.getElem?_set_ne, h]
    rintro rfl
    exact hne (Option.some.inj (hq.symm.trans h))
  cases e with
  | tick seconds =>
      obtain rfl := Option.some.inj hstep
      exact h
  | arrive request =>
      obtain rfl := Option.some.inj hstep
      show (st.requests ++ [request.start])[r]? = _
      rw [List.getElem?_append_left (List.getElem?_eq_some_iff.mp h).1]
      exact h
  | advance q fresh elapsed =>
      obtain ⟨p, p', db', hq, hnext, rfl⟩ := step_advance.mp hstep
      refine hset hq ?_
      rintro rfl
      cases hnext
  | abort q message =>
      obtain ⟨p, reply', hq, hfailed, rfl⟩ := step_abort.mp hstep
      refine hset hq ?_
      rintro rfl
      cases hfailed

/-- A reply that was given stays. -/
theorem done_stays {events : List Event} {r : Nat} {reply : Reply}
    (h : st.requests[r]? = some (.done reply)) (hrun : run (step S) st events = some st') :
    st'.requests[r]? = some (.done reply) := by
  have hkeep : ∀ s e t, s.requests[r]? = some (.done reply) → step S s e = some t →
      t.requests[r]? = some (.done reply) := fun s e t hinv hstep => done_step hinv hstep
  exact invariant_run (s := st) (t := st') hkeep h hrun

-- ============================================================================
-- Agreement
-- ============================================================================

/-- Request `r` was a registration for `machineKey` and has returned `response`. -/
def Registered (events : List Event) (st : ControlState) (r : Nat) (machineKey : String)
    (response : RegisterDeviceResponse) : Prop :=
  ∃ request, (arrivals events)[r]? = some (.registerDevice request) ∧
    request.machineKey = machineKey ∧ st.requests[r]? = some (.done (.registered (.ok response)))

/-- Request `r` was a registration and has returned an error. -/
def RegistrationFailed (events : List Event) (st : ControlState) (r : Nat) : Prop :=
  ∃ request error, (arrivals events)[r]? = some (.registerDevice request) ∧
    st.requests[r]? = some (.done (.registered (.error error)))

theorem Registered.identity {events : List Event} {r : Nat} {machineKey : String}
    {response : RegisterDeviceResponse} (h : Registered events st r machineKey response)
    (hserves : Serves (arrivals events) st) : (machineKey, response) ∈ st.db.identities := by
  obtain ⟨request, hrequest, rfl, hdone⟩ := h
  have hreg := hserves.registering r request _ hrequest hdone
  cases hreg with
  | registered hmem => exact hmem

/-- The steps of a registration that fails write nothing. -/
theorem RegistrationFailed.db_eq {before after : List Event} {e : Event} {s s' : ControlState}
    {now : Timestamp} {r : Nat} (h : RegistrationFailed (before ++ e :: after) st r)
    (hbefore : run (step S) (start db now) before = some s) (hstep : s.step S e = some s')
    (hafter : run (step S) s' after = some st) (hr : e.request = some r) : s'.db = s.db := by
  obtain ⟨request, error, hrequest, hfailed⟩ := h
  have hserves : Serves (arrivals before) s := (serves_start db now).run hbefore
  cases e with
  | tick seconds => cases hr
  | arrive request => cases hr
  | abort q message =>
      obtain ⟨_, _, -, -, rfl⟩ := step_abort.mp hstep
      rfl
  | advance q fresh elapsed =>
      obtain rfl := Option.some.inj hr
      obtain ⟨p, p', db', hp, hnext, rfl⟩ := step_advance.mp hstep
      -- the request had arrived before its step
      have hlt : q < (arrivals before).length := hserves.length ▸ (List.getElem?_eq_some_iff.mp hp).1
      have harrived : (arrivals before)[q]? = some (.registerDevice request) := by
        rw [arrivals_append, List.getElem?_append_left hlt] at hrequest
        exact hrequest
      rcases ((hserves.registering q request p harrived hp).next hnext).2 with hsame | ⟨response, rfl⟩
      · exact hsame
      · have hset : (s.requests.set q (.done (.registered (.ok response))))[q]? =
            some (.done (.registered (.ok response))) :=
          List.getElem?_set_self (List.getElem?_eq_some_iff.mp hp).1
        have hdone := done_stays hset hafter
        rw [hfailed] at hdone
        cases hdone

/-- **Registration agreement.**  For every interleaving of requests, from any
    database:

    * successful registrations for one machine key return one response,
    * there is one device row per machine key, and rows that were there stay, with
      what a registration reports of them,
    * no step of a registration that fails writes to the database. -/
theorem registration_agreement (S : Server) (db : Db) (now : Timestamp) (events : List Event)
    (st : ControlState) (h : run (step S) (start db now) events = some st) :
    (∀ r r' machineKey response response', Registered events st r machineKey response →
        Registered events st r' machineKey response' →
        response.deviceId = response'.deviceId ∧ response.nodeKey = response'.nodeKey ∧
          response.ipv4 = response'.ipv4 ∧ response.networkId = response'.networkId) ∧
      (st.db.devices.rows.map (·.machineKey)).Nodup ∧
      (∀ before after s, events = before ++ after → run (step S) (start db now) before = some s →
        s.db.identities <+: st.db.identities) ∧
      ∀ r before e after s s', RegistrationFailed events st r → events = before ++ e :: after →
        run (step S) (start db now) before = some s → s.step S e = some s' → e.request = some r →
        s'.db.devices = s.db.devices ∧ s'.db.dnsRecords = s.db.dnsRecords ∧
          s'.db.ipAllocations = s.db.ipAllocations ∧ s'.db.authKeys = s.db.authKeys := by
  have hserves : Serves (arrivals events) st := (serves_start db now).run h
  refine ⟨?_, ?_, ?_, ?_⟩
  · intro r r' machineKey response response' hr hr'
    obtain rfl := identities_functional (hr.identity hserves) (hr'.identity hserves)
    exact ⟨rfl, rfl, rfl, rfl⟩
  · have hnodup := machineKeys_nodup st.db
    rw [Db.identities, List.map_map] at hnodup
    exact hnodup
  · rintro before after s rfl hs
    obtain ⟨s₁, hs₁, hafter⟩ := run_append_eq_some.mp h
    obtain rfl := Option.some.inj (hs.symm.trans hs₁)
    exact run_identities hafter
  · rintro r before e after s s' hfailed rfl hs hstep hr
    obtain ⟨s₁, hs₁, hrest⟩ := run_append_eq_some.mp h
    obtain rfl := Option.some.inj (hs.symm.trans hs₁)
    obtain ⟨s₂, hs₂, hafter⟩ := run_cons_eq_some.mp hrest
    obtain rfl := Option.some.inj (hstep.symm.trans hs₂)
    rw [hfailed.db_eq hs hstep hafter hr]
    exact ⟨rfl, rfl, rfl, rfl⟩

end ControlState

namespace Reference

/-- Two registrations for one machine key overlap, a third one comes after them. -/
def overlapEvents : List Event :=
  [.arrive .createAuthKey, advance 0,
   .arrive (.registerDevice (registration "alpha")), .arrive (.registerDevice (registration "alpha")),
   advance 1, advance 2, advance 1, advance 2, advance 1, advance 2, advance 1, advance 2,
   .arrive (.registerDevice (registration "alpha")), advance 3]

end Reference

open Reference in
/-- The second insert fails; the first and the third request return one response. -/
theorem registration_agreement_overlap :
    ∃ st response response', run (step server) (start .empty 0) overlapEvents = some st ∧
      Registered overlapEvents st 1 "machine-alpha" response ∧
      RegistrationFailed overlapEvents st 2 ∧
      Registered overlapEvents st 3 "machine-alpha" response' ∧
      response.deviceId = response'.deviceId := by
  have hrun : (run (step server) (start .empty 0) overlapEvents).any (fun st =>
      st.db.devices.rows.any fun d =>
        st.requests[1]? == some (.done (.registered (.ok d.registered))) &&
        st.requests[2]? == some (.done (.registered (.error ⟨.internalServerError, "database error"⟩))) &&
        st.requests[3]? == some (.done (.registered (.ok d.registered)))) = true := by
    decide +kernel
  obtain ⟨st, hst, hfacts⟩ := (Option.any_eq_true _ _).mp hrun
  obtain ⟨d, -, hfacts⟩ := List.any_eq_true.mp hfacts
  rw [Bool.and_eq_true, Bool.and_eq_true, beq_iff_eq, beq_iff_eq, beq_iff_eq] at hfacts
  obtain ⟨⟨h₁, h₂⟩, h₃⟩ := hfacts
  have hfirst : Registered overlapEvents st 1 "machine-alpha" d.registered := ⟨_, rfl, rfl, h₁⟩
  have hthird : Registered overlapEvents st 3 "machine-alpha" d.registered := ⟨_, rfl, rfl, h₃⟩
  have hagree := (registration_agreement server .empty 0 overlapEvents st hst).1
  exact ⟨st, d.registered, d.registered, hst, hfirst, ⟨_, _, rfl, h₂⟩, hthird,
    (hagree _ _ _ _ _ hfirst hthird).1⟩

end TfScale.Control
