/-
  TfScale.System.ClosedLoop

  Can the agents take what the agents send?

  A registration carries the credential that `ensure_credentials` returned, a heartbeat the
  endpoints of the backend and of a probe.  The control plane stores these texts as they
  come and sends them on in its maps.  If all of them come from agents, no agent refuses a
  map: one bad endpoint or credential would make every other agent do so.
-/

import TfScale.Agent.Reporting
import TfScale.Control.Provenance
import TfScale.Custom.StateFile

namespace TfScale.System

open TfScale.Agent TfScale.Control TfScale.Custom ControlState ThreadM

variable {X : Externals} {S : Server}

-- ============================================================================
-- Credentials
-- ============================================================================

/-- A credential that was made from a key is known. -/
theorem credentialFits_encode (hX : X.Lawful) (key : ByteArr 32) :
    CredentialFits X (encodePublicCredential X key) := by
  have hvalid : validatePublicCredential X (encodePublicCredential X key) = .ok () := by
    rw [validatePublicCredential, encodePublicCredential, stripPrefix_append]
    simp [encodeKey, decodeBase64Key, hX.base64_round_trip, bind, Except.bind]
  rw [CredentialFits, hvalid]
  rfl

/-- `ensure_credentials` returns a credential that was made from a key: it has just been
    generated, or it was compared with one. -/
theorem ensureCredentials_encoded {env : Env} {w w' : World} {credential : BackendCredential}
    (h : (ensureCredentials X env).run w = .ok (.ok credential, w')) :
    ∃ key, credential.publicCredential = encodePublicCredential X key := by
  obtain ⟨state, w₁, hload, h₁⟩ := bind_eq_ok h
  obtain ⟨-, rfl⟩ := Prod.mk.inj (Except.ok.inj hload)
  cases hidentity : state.identity with
  | none =>
      rw [hidentity] at h₁
      obtain ⟨_, w₂, -, h₂⟩ := bind_eq_ok h₁
      obtain ⟨hcredential, -⟩ := Prod.mk.inj (Except.ok.inj h₂)
      obtain rfl := Except.ok.inj hcredential
      exact ⟨X.x25519Public env.secret, rfl⟩
  | some identity =>
      rw [hidentity] at h₁
      obtain ⟨derived, w₂, hderive, h₂⟩ := bind_eq_ok h₁
      obtain ⟨hderived, rfl⟩ := Prod.mk.inj (Except.ok.inj hderive)
      split at h₂
      · cases h₂
      · rename_i hmatches
        obtain ⟨_, w₃, -, h₃⟩ := bind_eq_ok h₂
        obtain ⟨hcredential, -⟩ := Prod.mk.inj (Except.ok.inj h₃)
        obtain rfl := Except.ok.inj hcredential
        obtain ⟨key, -, hpublic⟩ := Fallible.bind_eq_ok.mp hderived
        obtain rfl := Except.ok.inj hpublic
        exact ⟨X.x25519Public key, not_not.mp hmatches⟩

-- ============================================================================
-- Agents
-- ============================================================================

/-- The response of a probe request, if there is one, is the control plane's. -/
def Observed (result : Except String EndpointProbeResponse) : Prop :=
  ∀ response, result = .ok response → ∃ db udpProbeAddr addr request,
    endpointProbe db udpProbeAddr addr request = .ok response

/-- What an agent sends: a credential that its backend returned, and the endpoints that
    `send_heartbeat` has found. -/
inductive FromAgent (X : Externals) : Request → Prop where
  | registerDevice {request : RegisterDeviceRequest} {env : Env} {w w' : World}
      {credential : BackendCredential}
      (hensured : (ensureCredentials X env).run w = .ok (.ok credential, w'))
      (hcredential : request.backendPublicCredential = credential.publicCredential) :
      FromAgent X (.registerDevice request)
  | heartbeat {deviceId nodeKey : String} {localEndpoints : List Endpoint}
      {result : Except String EndpointProbeResponse}
      {backend : SocketAddr → Except String (Option PublicEndpointProbe)} (hobserved : Observed result) :
      FromAgent X (.heartbeat
        (heartbeatRequest deviceId nodeKey localEndpoints (Agent.probePublicEndpoint result backend)))
  | networkMap {query : NetworkMapQuery} : FromAgent X (.networkMap query)
  /-- the requests of an administrator -/
  | createAuthKey : FromAgent X .createAuthKey
  | renameDevice {deviceId : String} {request : RenameDeviceRequest} :
      FromAgent X (.renameDevice deviceId request)
  | deleteDevice {deviceId : String} : FromAgent X (.deleteDevice deviceId)

/-- What a request of an agent is about to store, the agents can read. -/
theorem FromAgent.writesReadable (hX : X.Lawful) {db : Db} {clock : Nat → Timestamp} {fresh : Fresh}
    {p : Process} (h : ∀ q, p.carries = some q → FromAgent X q) : WritesReadable X S db clock fresh p := by
  cases p with
  | registerAllocated request hostname ipv4 =>
      intro _
      cases h _ rfl with
      | registerDevice hensured hcredential =>
          obtain ⟨key, hkey⟩ := ensureCredentials_encoded hensured
          rw [hcredential, hkey]
          exact credentialFits_encode hX key
  | heartbeatValidated request =>
      intro _
      cases h _ rfl with
      | heartbeat hobserved =>
          apply endpointFits_heartbeat
          intro e he
          exact endpointFits_probed hobserved he
  | _ => trivial

/-- The processes of the control plane carry requests of agents. -/
def AllFromAgents (X : Externals) (st : ControlState) : Prop :=
  ∀ p ∈ st.requests, ∀ q, p.carries = some q → FromAgent X q

theorem AllFromAgents.step {st st' : ControlState} {e : Event} (h : AllFromAgents X st)
    (he : ∀ request, e = .arrive request → FromAgent X request) (hstep : st.step S e = some st') :
    AllFromAgents X st' := by
  intro p' hp' q hq
  obtain ⟨r, hr⟩ := List.getElem?_of_mem hp'
  rcases request_of_step hstep hr with
    hold | ⟨request, harrive, -, rfl⟩ | ⟨p, _, reply, -, -, rfl⟩ | ⟨p, _, _, -, hp, hnext⟩
  · exact h p' (List.mem_of_getElem? hold) q hq
  · obtain rfl := carries_start hq
    exact he q harrive
  · cases hq
  · exact h p (List.mem_of_getElem? hp) q (carries_next hnext hq)

/-- A run whose requests come from agents stores only what agents can read. -/
theorem storesReadable_of_agents (hX : X.Lawful) {now : Timestamp} {events : List Event}
    (hagents : ∀ request, .arrive request ∈ events → FromAgent X request) :
    Along (ControlState.step S) (StoresReadable X S) (ControlState.start .empty now) events := by
  have hkeep : ∀ (s : ControlState) e t, AllFromAgents X s →
      (∀ request, e = .arrive request → FromAgent X request) → True → s.step S e = some t →
        AllFromAgents X t := fun s e t hinv he _ hstep => hinv.step he hstep
  have hwrites : ∀ (s : ControlState) e, AllFromAgents X s →
      (∀ request, e = .arrive request → FromAgent X request) → StoresReadable X S s e := by
    intro s e hinv _
    cases e with
    | advance r fresh elapsed =>
        rw [StoresReadable]
        split
        · rename_i p hp
          exact FromAgent.writesReadable hX (hinv p (List.mem_of_getElem? hp))
        · trivial
    | _ => trivial
  refine Along.of_invariant hkeep hwrites ?_ ?_ (along_true events)
  · intro p hp
    cases hp
  · rintro e he request rfl
    exact hagents request he

/-- **The agents take what the agents send.**  In every interleaving of requests that come
    from agents and from an administrator, every agent can apply every map that is served:
    it decodes all peers with all their endpoints, and its backend takes them. -/
theorem agents_take_what_agents_send (X : Externals) (hX : X.Lawful) (S : Server) (now : Timestamp)
    (events : List Event) (st : ControlState)
    (h : run (ControlState.step S) (ControlState.start .empty now) events = some st)
    (hagents : ∀ request, .arrive request ∈ events → FromAgent X request) (r : Nat)
    (map : NetworkMapResponse) (hserved : st.served r = some map) : Accepted X map.peers := by
  have hmem := List.mem_of_getElem? (done_of_served hserved)
  have hreadable : ∀ peer ∈ map.peers, EntryOf ReadableIp (fun _ => True) peer :=
    readable_of_run h _ hmem
  have hfits : ∀ peer ∈ map.peers, EntryOf (KnownCredential X) EndpointFits peer :=
    fits_of_run (storesReadable_of_agents hX hagents) h _ hmem
  rw [accepted_iff fun peer hpeer => (hreadable peer hpeer).1]
  exact hfits

namespace Reference

open TfScale.Control.Reference TfScale.Custom.Reference

/-- The environment in which a backend generates the private key `[a; 32]`. -/
def keyEnv (a : UInt8) : Env := { Reference.env with secret := .replicate 32 a }

def agentRegistration (name : String) (a : UInt8) : RegisterDeviceRequest :=
  { Control.Reference.registration name with
    backendPublicCredential := (generateIdentity Externals.reference (keyEnv a)).publicKey }

/-- The response to the probe request of the first device. -/
def observedFrom : EndpointProbeResponse :=
  ⟨"203.0.113.9", 40000, "udp", some "192.0.2.1", some 8081⟩

/-- Two agents register. -/
def twoAgents : List Event :=
  [.arrive .createAuthKey, advance 0,
   .arrive (.registerDevice (agentRegistration "alpha" 1)),
   .arrive (.registerDevice (agentRegistration "beta" 2)),
   advance 1, advance 1, advance 2, advance 2, advance 1, advance 1, advance 2, advance 2]

def agentHeartbeat : HeartbeatRequest :=
  heartbeatRequest ("dev_" ++ simple (uuids 1).device) ("node_" ++ simple (uuids 1).node)
    [⟨.lan, .v4 ⟨192, 168, 1, 20⟩, 51820, .udp⟩]
    (Agent.probePublicEndpoint (.ok observedFrom) fun _ => .ok none)

/-- The first agent reports two endpoints, and the second one asks for its map. -/
def reportAndMap : List Event :=
  twoAgents ++
  [.arrive (.heartbeat agentHeartbeat), advance 3, advance 3,
   .arrive (.networkMap ⟨"dev_" ++ simple (uuids 2).device, "node_" ++ simple (uuids 2).node⟩)] ++
  List.replicate 11 (advance 4)

theorem observed_observedFrom : Observed (.ok observedFrom) := by
  have hrun : (run (ControlState.step server) (ControlState.start .empty 0) twoAgents).any (fun st =>
      decide (endpointProbe st.db ⟨.v4 ⟨192, 0, 2, 1⟩, 8081⟩ ⟨.v4 ⟨203, 0, 113, 9⟩, 40000⟩
        ⟨"dev_" ++ simple (uuids 1).device, "node_" ++ simple (uuids 1).node, "udp"⟩ =
          .ok observedFrom)) = true := by
    decide +kernel
  obtain ⟨st, -, hprobe⟩ := (Option.any_eq_true _ _).mp hrun
  intro response hresponse
  obtain rfl := Except.ok.inj hresponse
  exact ⟨st.db, _, _, _, of_decide_eq_true hprobe⟩

/-- A new backend has generated the credential. -/
theorem fromAgent_registration (name : String) (a : UInt8) :
    FromAgent Externals.reference (.registerDevice (agentRegistration name a)) := by
  have hread : readState ((keyEnv a).readError 0) freshWorld.other.file = .ok .default := rfl
  exact .registerDevice (ensureCredentials_new ⟨rfl, rfl⟩ rfl hread rfl) rfl

theorem fromAgent_reportAndMap :
    ∀ request, .arrive request ∈ reportAndMap → FromAgent Externals.reference request := by
  intro request hmem
  simp only [reportAndMap, twoAgents, Control.Reference.advance, List.mem_append, List.mem_cons,
    List.mem_replicate, List.not_mem_nil, Event.arrive.injEq, reduceCtorEq, or_false, and_false,
    false_or] at hmem
  rcases hmem with (rfl | rfl | rfl) | rfl | rfl
  · exact .createAuthKey
  · exact fromAgent_registration _ _
  · exact fromAgent_registration _ _
  · exact .heartbeat observed_observedFrom
  · exact .networkMap

end Reference

open Reference TfScale.Control.Reference in
/-- The second agent can apply the map, with both endpoints of the first one. -/
theorem agents_take_what_agents_send_two :
    ∃ st map, run (ControlState.step server) (ControlState.start .empty 0) reportAndMap = some st ∧
      st.served 4 = some map ∧ map.peers.map (·.endpoints.length) = [2] ∧
      Accepted Externals.reference map.peers := by
  have hrun : (run (ControlState.step server) (ControlState.start .empty 0) reportAndMap).any
      (fun st : ControlState => (st.served 4).any fun map =>
        decide (map.peers.map (·.endpoints.length) = [2])) = true := by
    decide +kernel
  obtain ⟨st, hst, hfacts⟩ := (Option.any_eq_true _ _).mp hrun
  obtain ⟨map, hserved, hendpoints⟩ := (Option.any_eq_true _ _).mp hfacts
  exact ⟨st, map, hst, hserved, of_decide_eq_true hendpoints,
    agents_take_what_agents_send Externals.reference Externals.reference_lawful server 0 reportAndMap st hst
      fromAgent_reportAndMap 4 map hserved⟩

end TfScale.System
