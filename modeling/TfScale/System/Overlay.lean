/-
  TfScale.System.Overlay

  Do the maps of the control plane make an overlay network?

  A packet passes through all of the programs: the control plane served the maps, the
  agents decoded them and handed them to their backends, one backend seals the packet
  and another one opens it.  Each of them works with names of its own for a device (the
  id, the overlay address as a text and as four bytes, the sixteen bytes in a frame, the
  credential), so the packet arrives only if the names agree.

  A `Member` is a backend whose agent has applied a served map.  Between members the
  names agree (`Member.lists`), whatever requests the control plane served meanwhile,
  so a packet goes to the device that owns its destination at the control plane, and no
  other member can open what is sent.
-/

import TfScale.Control.ServedMaps
import TfScale.Custom.FrameCodec
import TfScale.Custom.StateStore
import TfScale.Custom.Tunnel
import TfScale.Agent.NetworkMap
import TfScale.Net.AddrText

namespace TfScale.System

open Control Control.ControlState Custom Agent
open ThreadM

variable {X : Externals} {S : Server}

-- ============================================================================
-- Applying a map
-- ============================================================================

section Apply

variable {b : CustomBackend} {env envPeers : Env} {w w' : World}

/-- `apply_local_config`, when it succeeds: the file holds what it held before, with the
    new configuration. -/
theorem applyLocalConfig_file {config : LocalBackendConfig} {u : Unit} (hfree : w.mutex.held = false)
    (h : (applyLocalConfig X b env config).run w = .ok (.ok u, w')) :
    ∃ state, readState (env.readError 0) w.other.file = .ok state ∧ Ready w' ∧
      w'.other.file = .stored { state with localConfig := some config } := by
  have hrun := h
  obtain ⟨state, w₁, hload, h₁⟩ := bind_eq_ok h
  rw [loadState_run] at hload
  obtain ⟨hread, rfl⟩ := Prod.mk.inj (Except.ok.inj hload)
  obtain ⟨_, w₂, hreplace, -⟩ := bind_eq_ok h₁
  obtain ⟨hsave, hready, -⟩ := replaceState_eq_ok hfree hreplace
  obtain ⟨hready', hholds⟩ := applyLocalConfig_returned hready hsave hread hrun
  exact ⟨state, hread, hready', hholds.file⟩

/-- `apply_peer_map`, when it succeeds: the runtime is built anew from the file's state
    with the new peers. -/
theorem applyPeerMap_file {peers : List PeerConfig} {u : Unit} {state : CustomBackendState}
    (hready : Ready w) (hversion : state.version = stateVersion) (hfile : w.other.file = .stored state)
    (h : (applyPeerMap X envPeers peers).run w = .ok (.ok u, w')) :
    ∃ sessions, sessions.map storedConfig = peers ∧
      w' = replaced X envPeers { state with peers := sessions } w := by
  obtain ⟨loaded, w₁, hload, h₁⟩ := bind_eq_ok h
  rw [loadState_run, hfile, readState_stored hversion] at hload
  obtain ⟨hstate, rfl⟩ := Prod.mk.inj (Except.ok.inj hload)
  obtain ⟨sessions, w₂, hsessions, h₂⟩ := bind_eq_ok h₁
  obtain ⟨hconfigs, rfl⟩ := Prod.mk.inj (Except.ok.inj hsessions)
  obtain ⟨-, -, rfl⟩ := replaceState_eq_ok hready.free h₂
  cases hread : envPeers.readError 0 with
  | some error =>
      rw [hread] at hstate
      cases hstate
  | none =>
      rw [hread] at hstate
      obtain rfl := Except.ok.inj hstate
      exact ⟨sessions, peersToSessions_config hconfigs, rfl⟩

/-- What the backend holds after a map was applied: the identity that it had, the local
    configuration of the agent, the peers of the map, and a runtime built from these. -/
theorem applyNetworkMap_built {state : AgentState} {map : NetworkMapResponse}
    (hfree : w.mutex.held = false)
    (h : (applyNetworkMapToBackend X b env envPeers state map).run w = .ok (.ok (), w')) :
    ∃ before config persisted rt, readState (env.readError 0) w.other.file = .ok before ∧
      state.localConfig = .ok config ∧ persisted.identity = before.identity ∧
      persisted.localConfig = some config ∧
      networkMapToPeerConfigs map.peers = .ok (persisted.peers.map storedConfig) ∧
      w'.mutex.value = RuntimeState.rebuilt X rt envPeers.salts persisted := by
  obtain ⟨config, w₁, hconfig, h₁⟩ := bind_eq_ok h
  obtain ⟨hlocal, rfl⟩ := Prod.mk.inj (Except.ok.inj hconfig)
  obtain ⟨_, w₂, hset, h₂⟩ := bind_eq_ok h₁
  obtain ⟨before, hread, hready₂, hfile₂⟩ := applyLocalConfig_file hfree (mapError_eq_ok hset)
  obtain ⟨_, w₃, hrelay, h₃⟩ := bind_eq_ok h₂
  have hrelay' := locked_returned (mapError_eq_ok hrelay)
  have hready₃ : Ready w₃ ∧ w₃.other.file = w₂.other.file := by
    rcases hrelay'.2 with ⟨hpoisoned, -, rfl⟩ | ⟨-, -, rfl⟩
    · exact ⟨hready₂, rfl⟩
    · exact ⟨⟨hready₂.free, hready₂.sound⟩, rfl⟩
  obtain ⟨peers, w₄, hpeers, h₄⟩ := bind_eq_ok h₃
  obtain ⟨hdecoded, rfl⟩ := Prod.mk.inj (Except.ok.inj hpeers)
  have hversion : before.version = stateVersion := readState_version hread
  have hversion' : ({ before with localConfig := some config } : CustomBackendState).version =
      stateVersion := hversion
  obtain ⟨sessions, hsessions, rfl⟩ :=
    applyPeerMap_file hready₃.1 hversion' (hready₃.2.trans hfile₂) (mapError_eq_ok h₄)
  refine ⟨before, config, { before with localConfig := some config, peers := sessions }, _, hread,
    hlocal, rfl, rfl, ?_, rfl⟩
  rw [hdecoded]
  exact congrArg Except.ok hsessions.symm

/-- A runtime that was built by `replace_state` is a new one with its socket and its TUN
    device put back. -/
theorem rebuilt_traffic (rt : RuntimeState) (salts : Salts) (persisted : CustomBackendState) :
    ∃ traffic, run (Traffic.step X) (RuntimeState.fromPersisted X salts persisted) traffic =
      some (rt.rebuilt X salts persisted) := by
  refine ⟨(rt.tunStatus.map fun status => .lock (.setTunStatus status)).toList ++
    [.lock (.setTunDevice rt.tunDevice), .lock (.setTransport rt.transport),
      .lock (.setTasks rt.transportTasks)], ?_⟩
  unfold RuntimeState.rebuilt
  cases rt.tunStatus with
  | none => rfl
  | some status => rfl

end Apply

-- ============================================================================
-- The names of a device
-- ============================================================================

/-- `Uuid::parse_str` reads what `Uuid::simple` writes. -/
def ReadsUuids (X : Externals) : Prop := ∀ uuid : Uuid, X.uuidParse (simple uuid) = .ok uuid

/-- The id of a device that the control plane registered has a frame id, and no two have
    the same. -/
theorem frameId_of_fromUuid (huuid : ReadsUuids X) {deviceId : String} (h : FromUuid deviceId) :
    ∃ uuid : Uuid, deviceId = "dev_" ++ simple uuid ∧ fromDeviceId X.uuidParse deviceId = .ok uuid := by
  obtain ⟨uuid, rfl⟩ := h
  refine ⟨uuid, rfl, ?_⟩
  rw [fromDeviceId, stripPrefix_append]
  simp only [huuid uuid]

theorem frameId_injective (huuid : ReadsUuids X) {d d' : String} (h : FromUuid d) (h' : FromUuid d')
    (heq : fromDeviceId X.uuidParse d = fromDeviceId X.uuidParse d') : d = d' := by
  obtain ⟨uuid, hd, hid⟩ := frameId_of_fromUuid huuid h
  obtain ⟨uuid', hd', hid'⟩ := frameId_of_fromUuid huuid h'
  rw [hid, hid'] at heq
  rw [hd, hd', Except.ok.inj heq]

/-- What a decoded peer keeps of its entry. -/
theorem peerToConfig_eq_ok {peer : NetworkMapPeer} {config : PeerConfig}
    (h : peerToConfig peer = .ok config) :
    config.deviceId = peer.deviceId ∧ parseIpv4Addr peer.ipv4 = some config.overlayIp ∧
      config.publicCredential.publicCredential = peer.backendPublicCredential ∧
      config.allowedRoutes = peer.allowedRoutes := by
  obtain ⟨overlayIp, hip, h⟩ := Fallible.bind_eq_ok.mp h
  obtain ⟨endpoints, -, h⟩ := Fallible.bind_eq_ok.mp h
  obtain rfl := Except.ok.inj h
  refine ⟨rfl, ?_, rfl, rfl⟩
  unfold withContext at hip
  split at hip
  · rename_i heq
    rw [heq, Except.ok.inj hip]
  · cases hip

/-- An address of the pool is what its four bytes are displayed as. -/
theorem display_of_pool {text : String} {overlayIp : Ipv4Addr} (hpool : ∃ i < 253, text = poolAddress i)
    (hparse : parseIpv4Addr text = some overlayIp) : overlayIp.display = text := by
  obtain ⟨i, hi, rfl⟩ := hpool
  rw [parseIpv4Addr_poolAddress hi] at hparse
  rw [← Option.some.inj hparse]
  exact display_poolAddress hi

theorem display_injective {ip ip' : Ipv4Addr} (h : ip.display = ip'.display) : ip = ip' := by
  have hread : parseIpAddr (IpAddr.v4 ip).display = some (.v4 ip') := by
    rw [show (IpAddr.v4 ip).display = (IpAddr.v4 ip').display from h]
    exact parseIpAddr_display _
  rw [parseIpAddr_display] at hread
  exact IpAddr.v4.inj (Option.some.inj hread)

-- ============================================================================
-- Members
-- ============================================================================

/-- The state of a backend whose agent has applied a map: the peers are those of the map,
    the local device is the one that asked for it, and the identity is the one whose
    credential the control plane has of that device. -/
structure Member (X : Externals) (db : Db) (map : NetworkMapResponse)
    (persisted : CustomBackendState) : Prop where
  peers : networkMapToPeerConfigs map.peers = .ok (persisted.peers.map storedConfig)
  device : ∀ config, persisted.localConfig = some config → config.deviceId = map.selfDevice.deviceId
  sound : ∀ identity, persisted.identity = some identity →
    derivePublicCredential X identity.privateKey = .ok identity.publicKey
  credential : ∀ identity, persisted.identity = some identity → ∀ d ∈ db.devices.rows,
    d.id = map.selfDevice.deviceId → d.backendPublicCredential = identity.publicKey

section Member

variable {db : Db} {map mapA mapB : NetworkMapResponse} {a b persisted : CustomBackendState}

/-- The stored peers are the entries of the map. -/
theorem Member.entries (h : Member X db map persisted) (hmap : WellFormed db map) :
    persisted.peers.map (fun peer => (peer.deviceId, peer.overlayIp.display, peer.publicKey)) =
      map.peers.map fun peer => (peer.deviceId, peer.ipv4, peer.backendPublicCredential) := by
  have hkeep : ∀ peer ∈ map.peers, ∀ config, peerToConfig peer = .ok config →
      (config.deviceId, config.overlayIp.display, config.publicCredential.publicCredential) =
        (peer.deviceId, peer.ipv4, peer.backendPublicCredential) := by
    intro peer hpeer config hconfig
    obtain ⟨hid, hip, hcredential, -⟩ := peerToConfig_eq_ok hconfig
    have hpool := hmap.pool _ (List.mem_cons_of_mem _ (List.mem_map_of_mem hpeer))
    rw [hid, hcredential, display_of_pool hpool hip]
  have hmapped := Fallible.map_of_mapM hkeep h.peers
  rw [List.map_map] at hmapped
  exact hmapped

theorem Member.deviceIds (h : Member X db map persisted) (hmap : WellFormed db map) :
    persisted.peers.map (·.deviceId) = map.peers.map (·.deviceId) := by
  have hentries := congrArg (List.map Prod.fst) (h.entries hmap)
  rw [List.map_map, List.map_map] at hentries
  exact hentries

theorem Member.addresses (h : Member X db map persisted) (hmap : WellFormed db map) :
    persisted.peers.map (·.overlayIp.display) = map.peers.map (·.ipv4) := by
  have hentries := congrArg (List.map fun entry => entry.2.1) (h.entries hmap)
  rw [List.map_map, List.map_map] at hentries
  exact hentries

theorem Member.deviceIds_nodup (h : Member X db map persisted) (hmap : WellFormed db map) :
    (persisted.peers.map (·.deviceId)).Nodup := by
  rw [h.deviceIds hmap]
  exact (List.nodup_cons.mp hmap.ids).2

theorem Member.overlayIps_nodup (h : Member X db map persisted) (hmap : WellFormed db map) :
    (persisted.peers.map (·.overlayIp)).Nodup := by
  have hdisplays : ((persisted.peers.map (·.overlayIp)).map Ipv4Addr.display).Nodup := by
    rw [List.map_map, show (Ipv4Addr.display ∘ fun peer : StoredPeerSession => peer.overlayIp) =
      fun peer => peer.overlayIp.display from rfl, h.addresses hmap]
    exact (List.nodup_cons.mp hmap.addresses).2
  exact hdisplays.of_map _

/-- The ids in the frames tell the peers apart. -/
theorem Member.frameIds_nodup (h : Member X db map persisted) (hmap : WellFormed db map)
    (huuid : ReadsUuids X) : (persisted.frameIds X).Nodup := by
  have huuids : ∀ peer ∈ persisted.peers, FromUuid peer.deviceId := by
    intro peer hpeer
    refine hmap.uuids _ (List.mem_cons_of_mem _ ?_)
    rw [← h.deviceIds hmap]
    exact List.mem_map_of_mem hpeer
  have hdistinct := List.pairwise_map.mp (h.deviceIds_nodup hmap)
  refine List.pairwise_filterMap.mpr (hdistinct.imp_of_mem ?_)
  rintro peer peer' hpeer hpeer' hne frameId hframe frameId' hframe' rfl
  refine hne (frameId_injective huuid (huuids peer hpeer) (huuids peer' hpeer') ?_)
  rw [Fallible.toOption_eq_some.mp hframe, Fallible.toOption_eq_some.mp hframe']

/-- A device that two maps name, in the one as a peer and in the other as the one that
    asked: the names are the same. -/
theorem Member.lists (hA : Member X db mapA a) (hB : Member X db mapB b) (hmapA : WellFormed db mapA)
    (hlisted : mapB.selfDevice.deviceId ∈ mapA.peers.map (·.deviceId)) :
    ∃ peer, Lists X a peer b ∧ peer.deviceId = mapB.selfDevice.deviceId ∧
      ∃ d ∈ db.devices.rows, d.id = peer.deviceId ∧ d.ipv4 = peer.overlayIp.display := by
  obtain ⟨entry, hentry, hid⟩ := List.mem_map.mp hlisted
  obtain ⟨d, hd, hdid, hdip, -, hdcredential⟩ := hmapA.peerRows entry hentry
  -- the stored peer that the entry became
  have hmem := List.mem_map_of_mem
    (f := fun peer : NetworkMapPeer => (peer.deviceId, peer.ipv4, peer.backendPublicCredential)) hentry
  rw [← hA.entries hmapA] at hmem
  obtain ⟨peer, hpeer, hsame⟩ := List.mem_map.mp hmem
  obtain ⟨hpeerId, hrest⟩ := Prod.mk.inj hsame
  obtain ⟨hpeerIp, hpeerKey⟩ := Prod.mk.inj hrest
  refine ⟨peer, ⟨hpeer, hA.deviceIds_nodup hmapA, ?_, ?_⟩, hpeerId.trans hid, d, hd,
    hdid.trans hpeerId.symm, hdip.trans hpeerIp.symm⟩
  · intro config hconfig
    rw [hB.device config hconfig, hpeerId, hid]
  · intro identity key hidentity hkey
    obtain ⟨key', hkey', hpublic⟩ := Fallible.bind_eq_ok.mp (hB.sound identity hidentity)
    obtain rfl := Except.ok.inj (hkey.symm.trans hkey')
    refine ⟨(Except.ok.inj hpublic).symm, ?_⟩
    rw [hpeerKey, ← hdcredential]
    exact hB.credential identity hidentity d hd (hdid.trans hid)

end Member

-- ============================================================================
-- What a frame shows of its destination
-- ============================================================================

/-- The identity in the backend's file, if there is one, has keys that belong together,
    and its credential is the one that the device registered with. -/
def Enrolled (X : Externals) (db : Db) (deviceId : String) (file : StateFile) : Prop :=
  ∀ identity, file.identity = some identity →
    derivePublicCredential X identity.privateKey = .ok identity.publicKey ∧
    ∀ d ∈ db.devices.rows, d.id = deviceId → d.backendPublicCredential = identity.publicKey

/-- The backend of the device that a map was served to: its agent has applied the map,
    and there was any traffic since. -/
inductive Joined (X : Externals) (db : Db) (map : NetworkMapResponse) : RuntimeState → Prop where
  | intro {state : AgentState} {b : CustomBackend} {env envPeers : Env} {w w' : World}
      {traffic : List Traffic} {rt : RuntimeState} (hfree : w.mutex.held = false)
      (hdevice : state.deviceId = some map.selfDevice.deviceId)
      (henrolled : Enrolled X db map.selfDevice.deviceId w.other.file)
      (happly : (applyNetworkMapToBackend X b env envPeers state map).run w = .ok (.ok (), w'))
      (htraffic : run (Traffic.step X) w'.mutex.value traffic = some rt) : Joined X db map rt

section Joined

variable {db : Db} {map : NetworkMapResponse} {rt : RuntimeState} {persisted : CustomBackendState}

/-- The configuration of an agent names its device. -/
theorem localConfig_deviceId {state : AgentState} {config : LocalBackendConfig}
    (h : state.localConfig = .ok config) : state.deviceId = some config.deviceId := by
  obtain ⟨_, -, h⟩ := Fallible.bind_eq_ok.mp h
  obtain ⟨_, -, h⟩ := Fallible.bind_eq_ok.mp h
  obtain ⟨deviceId, hdevice, h⟩ := Fallible.bind_eq_ok.mp h
  obtain rfl := Except.ok.inj h
  unfold withContext at hdevice
  split at hdevice
  · rename_i heq
    rw [heq, Except.ok.inj hdevice]
  · cases hdevice

theorem Joined.member (h : Joined X db map rt) :
    ∃ persisted salts traffic, Member X db map persisted ∧
      run (Traffic.step X) (RuntimeState.fromPersisted X salts persisted) traffic = some rt := by
  obtain ⟨hfree, hdevice, henrolled, happly, htraffic⟩ := h
  obtain ⟨before, config, persisted, rt₀, hread, hconfig, hidentity, hlocal, hpeers, hvalue⟩ :=
    applyNetworkMap_built hfree happly
  obtain ⟨first, hfirst⟩ := rebuilt_traffic (X := X) rt₀ _ persisted
  rw [hvalue] at htraffic
  have henrolled' : ∀ identity, persisted.identity = some identity → _ := fun identity hsome =>
    henrolled identity ((readState_identity hread).trans (hidentity.symm.trans hsome))
  refine ⟨persisted, _, first ++ _, ⟨hpeers, fun config' hconfig' => ?_, fun identity hsome =>
    (henrolled' identity hsome).1, fun identity hsome => (henrolled' identity hsome).2⟩,
    run_append_eq_some.mpr ⟨_, hfirst, htraffic⟩⟩
  obtain rfl := Option.some.inj (hlocal.symm.trans hconfig')
  exact Option.some.inj ((localConfig_deviceId hconfig).symm.trans hdevice)

end Joined

/-- Whatever is left of a frame, when its header is left it is the header. -/
theorem header_of_take {frame : Bytes} {m : Nat} {header header' : FrameHeader}
    (h : FrameHeader.decode frame = .ok header) (h' : FrameHeader.decode (frame.take m) = .ok header') :
    header' = header := by
  obtain ⟨hvalid, hbytes⟩ := FrameHeader.decode_eq_ok.mp h'
  have hlength := congrArg List.length hbytes
  rw [FrameHeader.bytes_length, List.take_take, List.length_take] at hlength
  have hall : FrameHeader.decode frame = .ok header' := by
    refine FrameHeader.decode_eq_ok.mpr ⟨hvalid, ?_⟩
    rw [hbytes, List.take_take]
    congr 1
    omega
  exact Except.ok.inj (hall.symm.trans h)

/-- A frame that a backend opens names the local device as its destination. -/
theorem destination_of_authentic {persisted : CustomBackendState} {rt : RuntimeState}
    (hrouted : Routed X persisted rt) {frame : Bytes} {m : Nat} {deviceId : String} {opened : OpenFrame}
    {header : FrameHeader} (hheader : FrameHeader.decode frame = .ok header)
    (h : rt.Authentic X (frame.take m) deviceId opened) :
    ∃ config, persisted.localConfig = some config ∧
      fromDeviceId X.uuidParse config.deviceId = .ok header.destination := by
  obtain ⟨decoded, session, _, hdecode, -, hsession, -, hdestination, -⟩ := h
  obtain ⟨peer, -, -, hbuilt⟩ := hrouted.sessions deviceId session hsession
  obtain ⟨config, hconfig, hid⟩ := BuiltFor.localId hbuilt
  rw [header_of_take hheader (EncodedFrame.decode_eq_ok.mp hdecode).1] at hdestination
  refine ⟨config, hconfig, ?_⟩
  rw [hdestination]
  exact hid

-- ============================================================================
-- The overlay
-- ============================================================================

section Delivery

variable {now : Timestamp} {events : List Event} {st : ControlState} {rA rB : Nat}
variable {mapA mapB : NetworkMapResponse} {rtA rtA' rtB : RuntimeState} {a : CustomBackendState}

/-- What a backend sends for a packet to a member that its map lists: one frame, sealed
    by the session of that member and addressed to its frame id. -/
theorem sent_for_owner {peer : StoredPeerSession} (hrouted : Routed X a rtA)
    (hdevices : (a.peers.map (·.deviceId)).Nodup) (hips : (a.peers.map (·.overlayIp)).Nodup)
    (hpeer : peer ∈ a.peers) {sendTo : SendTo} {net : RelayNet} {packet : Bytes} {n : Nat}
    (howns : peer.overlayIp = destinationBytes packet)
    (hsend : rtA.sendOverlayPacket X sendTo net packet = (.ok n, rtA')) :
    ∃ (crypto : PeerCryptoSession) (frame : Bytes), BuiltFor X a peer crypto.asBuilt ∧ (crypto.«seal» X packet).1 = .ok frame ∧
      EmittedTo X rtA rtA' peer.deviceId frame := by
  obtain ⟨deviceId, session, frame, -, hdevice, hsession, hframe, hout⟩ := sendOverlayPacket_ok hsend
  obtain ⟨owner, howner, hip, rfl⟩ := hrouted.overlayIps _ deviceId hdevice
  obtain rfl : owner = peer := List.inj_on_of_nodup_map hips howner hpeer (hip.trans howns.symm)
  obtain ⟨other, hother, hsame, hbuilt⟩ := hrouted.sessions _ session hsession
  obtain rfl : other = owner := List.inj_on_of_nodup_map hdevices hother howner hsame
  refine ⟨session.crypto, frame, hbuilt, hframe, ?_⟩
  rcases hout with ⟨hrelay, relaySender, hsent, rfl⟩ |
    ⟨hdirect, transport, transport', htransport, hsent, rfl⟩
  · rw [EmittedTo, if_pos hrelay]
    exact ⟨rfl, relay_sendFrame_ok hsent⟩
  · obtain ⟨addr, haddr, hlog⟩ := transport_sendFrame_ok hsent
    rw [EmittedTo, if_neg (Bool.eq_false_iff.mp hdirect)]
    refine ⟨rfl, session.endpoint, addr, ?_, haddr, ?_⟩
    · rw [RuntimeState.sessionEndpoint, hsession, Option.map_some]
    · show transport'.sent = rtA.udpSent ++ [(addr, frame)]
      rw [hlog, RuntimeState.udpSent, htransport]

/-- **The overlay delivers to the owner of the address, and to nobody else.**  Two
    members of one control plane whose maps list each other, each in any state of its own
    traffic, and a packet for the overlay address that the control plane gave to the
    second one.  When the first one's backend sends it, it emits one frame;

    * the second one opens that frame, or as much of it as its buffer takes, as the
      packet, exactly when the frame fits, there is a session for the first one, and the
      frame is no replay in it;
    * no other member opens it as a packet. -/
theorem overlay_delivers_to_owner (X : Externals) (hX : X.Lawful) (htag : X.Tagged)
    (huuid : ReadsUuids X) (S : Server) (now : Timestamp) (events : List Event) (st : ControlState)
    (h : run (step S) (start .empty now) events = some st) (rA rB : Nat)
    (mapA mapB : NetworkMapResponse) (hservedA : st.served rA = some mapA)
    (hservedB : st.served rB = some mapB) (rtA rtA' rtB : RuntimeState) (hA : Joined X st.db mapA rtA)
    (hB : Joined X st.db mapB rtB) (hab : mapB.selfDevice.deviceId ∈ mapA.peers.map (·.deviceId))
    (hba : mapA.selfDevice.deviceId ∈ mapB.peers.map (·.deviceId)) (sendTo : SendTo) (net : RelayNet)
    (packet : Bytes) (n : Nat) (howns : (destinationBytes packet).display = mapB.selfDevice.ipv4)
    (hsend : rtA.sendOverlayPacket X sendTo net packet = (.ok n, rtA')) :
    ∃ frame, EmittedTo X rtA rtA' mapB.selfDevice.deviceId frame ∧
      (∀ m sendTo' clock source,
        (rtB.openReceivedFrame X sendTo' clock (frame.take m) source).1 = .ok (some packet) ↔
          packet.length + 76 ≤ m ∧ rtB.Takes mapA.selfDevice.deviceId frame) ∧
      ∀ rC mapC rtC, st.served rC = some mapC → Joined X st.db mapC rtC →
        mapC.selfDevice.deviceId ≠ mapB.selfDevice.deviceId →
        ∀ m sendTo' clock source packet',
          (rtC.openReceivedFrame X sendTo' clock (frame.take m) source).1 ≠ .ok (some packet') := by
  obtain ⟨a, saltsA, trafficA, hmemberA, hrunA⟩ := hA.member
  obtain ⟨b, saltsB, trafficB, hmemberB, hrunB⟩ := hB.member
  have hmapA : WellFormed st.db mapA := wellFormed_of_served h hservedA
  have hmapB : WellFormed st.db mapB := wellFormed_of_served h hservedB
  obtain ⟨peerB, hlistsB, hidB, d, hd, hdid, hdip⟩ := hmemberA.lists hmemberB hmapA hab
  obtain ⟨peerA, hlistsA, hidA, -⟩ := hmemberB.lists hmemberA hmapB hba
  -- the packet is for the overlay address that the map gives to the second device
  have hdest : peerB.overlayIp = destinationBytes packet := by
    obtain ⟨d', hd', hdid', hdip'⟩ := hmapB.selfRow
    obtain rfl := device_unique hd hd' (by rw [hdid, hidB, hdid'])
    refine display_injective ?_
    rw [← hdip, hdip', howns]
  have hroutedA : Routed X a rtA := routed_of_run hrunA
  have hroutedB : Routed X b rtB := routed_of_run hrunB
  obtain ⟨crypto, frame, hbuilt, hseal, hemitted⟩ := sent_for_owner hroutedA hlistsB.devices
    (hmemberA.overlayIps_nodup hmapA) hlistsB.listed hdest hsend
  rw [hidB] at hemitted
  refine ⟨frame, hemitted, fun m sendTo' clock source => ?_,
    fun rC mapC rtC hservedC hC hne m sendTo' clock source packet' hopen => ?_⟩
  · rw [openReceivedFrame_packet_iff, ← hidA]
    exact authentic_take_iff hX htag
      (fun session hsession => matched_session hX hlistsB hlistsA hbuilt hroutedB hsession)
      (frameDevice_of_run hrunB hlistsA hbuilt (hmemberB.frameIds_nodup hmapB huuid)) hseal m
  · obtain ⟨c, saltsC, trafficC, hmemberC, hrunC⟩ := hC.member
    have hmapC : WellFormed st.db mapC := wellFormed_of_served h hservedC
    obtain ⟨deviceId, hauthentic⟩ := (openReceivedFrame_packet_iff rtC _ _ _ _ _).mp hopen
    obtain ⟨_, _, header, _, hbuilt', hpeerId, hdecode, hdestination, -⟩ := sealedFor_of_seal hbuilt hseal
    obtain ⟨config, hconfig, hlocal⟩ := destination_of_authentic (routed_of_run hrunC)
      (EncodedFrame.decode_eq_ok.mp hdecode).1 hauthentic
    rw [hmemberC.device config hconfig, hdestination, ← hpeerId, hidB] at hlocal
    exact hne (frameId_injective huuid (hmapC.uuids _ List.mem_cons_self)
      (hmapB.uuids _ List.mem_cons_self) hlocal)

end Delivery

-- ============================================================================
-- A small overlay
-- ============================================================================

/-- The hexadecimal digits of a byte string, read as digits. -/
theorem hexEncode_digits (bytes : Bytes) :
    (Text.hexEncode bytes).toList.filterMap (AddrParser.toDigit 16) =
      bytes.flatMap fun b => [b.toNat / 16, b.toNat % 16] := by
  rw [Text.hexEncode, String.toList_ofList]
  induction bytes with
  | nil => rfl
  | cons b bytes ih =>
      have hhigh : b.toNat / 16 < 16 := by have := b.toNat_lt; omega
      have hlow : b.toNat % 16 < 16 := by omega
      rw [List.flatMap_cons, List.flatMap_cons, List.filterMap_append, ih,
        List.filterMap_cons_some (AddrParser.toDigit_digitChar (Or.inr rfl) hhigh),
        List.filterMap_cons_some (AddrParser.toDigit_digitChar (Or.inr rfl) hlow), List.filterMap_nil]

/-- Two hexadecimal digits are one byte. -/
theorem foldl_hexDigits (bytes : Bytes) (acc : Nat) :
    (bytes.flatMap fun b => [b.toNat / 16, b.toNat % 16]).foldl (fun acc digit => acc * 16 + digit) acc =
      bytes.foldl (fun acc b => 256 * acc + b.toNat) acc := by
  induction bytes generalizing acc with
  | nil => rfl
  | cons b bytes ih =>
      have hbyte : (acc * 16 + b.toNat / 16) * 16 + b.toNat % 16 = 256 * acc + b.toNat := by omega
      rw [List.flatMap_cons, List.foldl_append, ih, List.foldl_cons, List.foldl_cons, List.foldl_cons,
        List.foldl_nil, hbyte]

theorem readsUuids_reference : ReadsUuids Externals.reference := by
  intro uuid
  have hlength : uuid.val.length = 16 := uuid.property
  have hchars : (simple uuid).toList.length = 32 := by
    rw [simple, Text.hexEncode, String.toList_ofList, List.length_flatMap]
    simp [hlength]
  have hdigits : ((simple uuid).toList.filterMap (AddrParser.toDigit 16)).length = 32 := by
    rw [simple, hexEncode_digits, List.length_flatMap]
    simp [hlength]
  show Custom.Reference.uuidParse (simple uuid) = .ok uuid
  rw [Custom.Reference.uuidParse]
  simp only [hdigits, hchars, and_self, if_true]
  refine congrArg Except.ok (Subtype.ext ?_)
  show toBe 16 _ = uuid.val
  rw [simple, hexEncode_digits, foldl_hexDigits]
  have hread := toBe_ofBe uuid.val
  rw [hlength] at hread
  exact hread

namespace Reference

open Custom.Reference (credential env bindSocket net)
open Control.Reference (secret advance uuids server)

/-- A registration by the device whose private key has the bytes `[a; 32]`. -/
def registration (name : String) (a : UInt8) : RegisterDeviceRequest :=
  ⟨secret, name, "machine-" ++ name, "tfscale", credential a, "linux", "x86_64", "0.2.0"⟩

def deviceId (r : UInt8) : String := "dev_" ++ simple (uuids r).device
def nodeKey (r : UInt8) : String := "node_" ++ simple (uuids r).node

def lanEndpoint (address : String) : EndpointPayload :=
  ⟨"lan", address, 51820, "udp", some "local", some 100, none⟩

/-- Two devices register, report an endpoint each, and ask for a map. -/
def meshEvents : List Event :=
  [.arrive .createAuthKey, advance 0,
   .arrive (.registerDevice (registration "alpha" 1)), .arrive (.registerDevice (registration "beta" 2)),
   advance 1, advance 1, advance 2, advance 2, advance 1, advance 1, advance 2, advance 2,
   .arrive (.heartbeat ⟨deviceId 1, nodeKey 1, [lanEndpoint "192.168.1.20"]⟩),
   .arrive (.heartbeat ⟨deviceId 2, nodeKey 2, [lanEndpoint "192.168.1.30"]⟩),
   advance 3, advance 3, advance 4, advance 4,
   .arrive (.networkMap ⟨deviceId 1, nodeKey 1⟩), .arrive (.networkMap ⟨deviceId 2, nodeKey 2⟩)] ++
  List.replicate 11 (advance 5) ++ List.replicate 11 (advance 6)

/-- The backend of the device with private key `[a; 32]`, when its agent has registered. -/
def enrolledWorld (a : UInt8) : World :=
  ⟨⟨.stored ⟨stateVersion, some ⟨"key", identityScheme, encodeKey Externals.reference (.replicate 32 a),
    credential a, 0, none⟩, none, []⟩, 0, []⟩, ⟨RuntimeState.default, false, false⟩⟩

/-- The world after the agent has applied a map. -/
def applied (a : UInt8) (map : NetworkMapResponse) : Option World :=
  returned ((applyNetworkMapToBackend Externals.reference ⟨"tfscale0", false⟩ env env
    ⟨some map.selfDevice.deviceId, some map.selfDevice.ipv4⟩ map).run (enrolledWorld a))

/-- The rows of the device have the credential of its private key. -/
def credentialOf (a : UInt8) (map : NetworkMapResponse) (db : Db) : Bool :=
  db.devices.rows.all fun d =>
    d.id != map.selfDevice.deviceId || d.backendPublicCredential == credential a

theorem joined_applied {a : UInt8} {map : NetworkMapResponse} {db : Db} {w : World}
    (hcredential : credentialOf a map db = true) (h : applied a map = some w) :
    Joined Externals.reference db map (bindSocket.effect Externals.reference w.mutex.value) := by
  refine .intro rfl rfl (fun identity hidentity => ?_) (returned_eq_some h)
    (show run (Traffic.step Externals.reference) w.mutex.value [.lock bindSocket] = some _ from rfl)
  obtain rfl := Option.some.inj hidentity
  refine ⟨?_, fun d hd hid => ?_⟩
  · show derivePublicCredential Externals.reference (encodeKey Externals.reference _) = _
    rw [derivePublicCredential, decodeKey_encode _ Externals.reference_lawful _]
    rfl
  · have hrow := List.all_eq_true.mp hcredential d hd
    rw [Bool.or_eq_true, bne_iff_ne, beq_iff_eq] at hrow
    exact hrow.resolve_left (not_not_intro hid)

end Reference

open Reference in
open Control.Reference (server) in
open Custom.Reference (env bindSocket net packetOf) in
/-- Both devices have applied their maps; the first one sends a packet of 84 bytes to the
    second one, which opens it if its session takes it. -/
theorem overlay_delivers_to_owner_mesh :
    ∃ (st : ControlState) (mapA mapB : NetworkMapResponse) (rtA rtA' rtB : RuntimeState) (frame : Bytes),
      run (step server) (start .empty 0) meshEvents = some st ∧
      Joined Externals.reference st.db mapA rtA ∧ Joined Externals.reference st.db mapB rtB ∧
      rtA.sendOverlayPacket Externals.reference env.sendTo net (packetOf 84) = (.ok 160, rtA') ∧
      EmittedTo Externals.reference rtA rtA' mapB.selfDevice.deviceId frame ∧
      ((rtB.openReceivedFrame Externals.reference env.sendTo env.clock (frame.take 1500) none).1 =
        .ok (some (packetOf 84)) ↔
          (packetOf 84).length + 76 ≤ 1500 ∧ rtB.Takes mapA.selfDevice.deviceId frame) := by
  have hrun : (run (step server) (start .empty 0) meshEvents).any (fun st =>
      (st.served 5).any fun mapA => (st.served 6).any fun mapB =>
        credentialOf 1 mapA st.db && credentialOf 2 mapB st.db &&
        decide (mapB.selfDevice.deviceId ∈ mapA.peers.map (·.deviceId)) &&
        decide (mapA.selfDevice.deviceId ∈ mapB.peers.map (·.deviceId)) &&
        decide ((destinationBytes (packetOf 84)).display = mapB.selfDevice.ipv4) &&
        (applied 1 mapA).any fun wA => (applied 2 mapB).any fun wB =>
          decide (((bindSocket.effect Externals.reference wA.mutex.value).sendOverlayPacket
            Externals.reference env.sendTo net (packetOf 84)).1 = .ok 160)) = true := by
    decide +kernel
  obtain ⟨st, hst, hfacts⟩ := (Option.any_eq_true _ _).mp hrun
  obtain ⟨mapA, hservedA, hfacts⟩ := (Option.any_eq_true _ _).mp hfacts
  obtain ⟨mapB, hservedB, hfacts⟩ := (Option.any_eq_true _ _).mp hfacts
  simp only [Bool.and_eq_true, decide_eq_true_eq] at hfacts
  obtain ⟨⟨⟨⟨⟨hcredA, hcredB⟩, hab⟩, hba⟩, howns⟩, hfacts⟩ := hfacts
  obtain ⟨wA, hwA, hfacts⟩ := (Option.any_eq_true _ _).mp hfacts
  obtain ⟨wB, hwB, hfacts⟩ := (Option.any_eq_true _ _).mp hfacts
  have hresult := of_decide_eq_true hfacts
  have hA := joined_applied hcredA hwA
  have hB := joined_applied hcredB hwB
  obtain ⟨frame, hemitted, hopened, -⟩ := overlay_delivers_to_owner Externals.reference
    Externals.reference_lawful Externals.reference_tagged readsUuids_reference server 0 meshEvents st hst 5 6
    mapA mapB hservedA hservedB _ _ _ hA hB hab hba env.sendTo net (packetOf 84) 160 howns
    (Prod.ext hresult rfl)
  exact ⟨st, mapA, mapB, _, _, _, frame, hst, hA, hB, Prod.ext hresult rfl, hemitted,
    hopened 1500 env.sendTo env.clock none⟩

end TfScale.System
