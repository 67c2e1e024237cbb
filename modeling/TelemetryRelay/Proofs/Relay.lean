import TelemetryRelay.Proofs.Node.Effects
import TelemetryRelay.Relay

/-!
# What a failed start leaves

The stage that fails leaves nothing behind, but the stages before it are not undone: whatever
they brought up goes on running, and holds on to its socket.  So a failed start is all or
nothing exactly if no enabled service comes before the one that fails.
-/

namespace TelemetryRelay

namespace Node

variable {n n' n'' : Node} {s : Socket} {e : ServiceError}

/-! ## Sockets -/

theorem bind_of_taken (hport : s.port ≠ 0) (htaken : s ∈ n.bound) :
    n.bind s = .error (.bind s.render addressInUse) := by
  simp [bind, hport, htaken]

theorem bind_eq_ok (h : n.bind s = .ok n') : ∃ bound, n' = { n with bound } ∧
    n.bound ⊆ bound ∧ (s.port ≠ 0 → s ∈ bound) := by
  unfold bind at h
  split at h
  · rename_i hport
    obtain rfl := Except.ok.inj h
    exact ⟨n.bound, rfl, List.Subset.refl _, fun hne => absurd hport hne⟩
  · split at h
    · cases h
    · obtain rfl := Except.ok.inj h
      exact ⟨s :: n.bound, rfl, List.subset_cons_self .., fun _ => List.mem_cons_self ..⟩

/-! ## What a further service leaves alone -/

/-- Acceptors, tasks and sockets of a node are still those of the later one. -/
structure Extends (n n' : Node) : Prop where
  acceptors : n'.acceptors = n.acceptors
  fresh : n.fresh ≤ n'.fresh
  tasks : ∀ id, id < n.fresh → n'.tasks.get? id = n.tasks.get? id
  bound : n.bound ⊆ n'.bound

theorem Extends.trans (h : Extends n n') (h' : Extends n' n'') : Extends n n'' := by
  refine ⟨h'.acceptors.trans h.acceptors, Nat.le_trans h.fresh h'.fresh, ?_,
    List.Subset.trans h.bound h'.bound⟩
  intro id hid
  rw [h'.tasks id (Nat.lt_of_lt_of_le hid h.fresh), h.tasks id hid]

theorem extends_spawn (n : Node) (a : Action) (label : Option String)
    (outbox : Option TransportId) : Extends n (n.spawn a label outbox).2 := by
  refine ⟨rfl, Nat.le_succ _, fun id hid => ?_, List.Subset.refl _⟩
  exact (Assoc.get?_set ..).trans (if_neg (Nat.ne_of_lt hid))

theorem extends_addTransport (n : Node) (carrier : Carrier) :
    Extends n (n.addTransport carrier).2 :=
  ⟨rfl, Nat.le_succ _, fun _ _ => rfl, List.Subset.refl _⟩

theorem extends_addBridge (n : Node) (table : MappingTable) (t : TransportId) :
    Extends n (n.addBridge table t).2 :=
  ⟨rfl, Nat.le_succ _, fun _ _ => rfl, List.Subset.refl _⟩

theorem extends_startBridge (n : Node) (b : BridgeId) (label : Option String) :
    Extends n (n.startBridge b label).2 := by
  unfold startBridge
  split
  · exact extends_spawn ..
  · obtain ⟨hacceptors, hfresh, htasks, hbound⟩ := extends_spawn n (.listen b) label none
    exact ⟨hacceptors, hfresh, htasks, hbound⟩

end Node

/-! ## Services that are up -/

/-- The acceptor of the service is open, its task waits for peers, and the socket is taken. -/
structure TcpService.Accepting (service : TcpService) (n : Node) : Prop where
  acceptor : ∃ acceptor loop task, n.acceptors.get? service.acceptor = some acceptor ∧
    acceptor.closed = false ∧ acceptor.loop = some loop ∧ loop < n.fresh ∧
    n.tasks.get? loop = some task ∧ task.activity = .acting (.accept service.acceptor)
  bound : service.socket.port ≠ 0 → service.socket ∈ n.bound

/-- The bridge of the service runs over an open transport, its loop is under way, and the socket
is taken. -/
structure UdpService.Serving (service : UdpService) (n : Node) : Prop where
  bridge : ∃ bridge, n.bridges.get? service.bridge = some bridge ∧ bridge.running = true
  loop : ∃ loop task, service.loop = some loop ∧ n.tasks.get? loop = some task ∧
    task.activity = .acting (.listen service.bridge)
  link : ∃ d, service.link? n = some d ∧ d.closed = false
  bound : service.socket.port ≠ 0 → service.socket ∈ n.bound

theorem TcpService.Accepting.extends {service : TcpService} {n n' : Node}
    (h : service.Accepting n) (hextends : Node.Extends n n') : service.Accepting n' := by
  obtain ⟨acceptor, loop, task, hfound, hopen, hloop, hlt, htask, hacting⟩ := h.acceptor
  constructor
  · refine ⟨acceptor, loop, task, ?_, hopen, hloop, Nat.lt_of_lt_of_le hlt hextends.fresh, ?_,
      hacting⟩
    · rw [hextends.acceptors, hfound]
    · rw [hextends.tasks loop hlt, htask]
  · intro hport
    exact hextends.bound (h.bound hport)

namespace TcpService

variable {service : TcpService} {n n' : Node} {acceptor : Acceptor}

/-- An acceptor that nobody has closed or started is open and accepting once it is started. -/
theorem accepting_startAcceptor (hfound : n.acceptors.get? service.acceptor = some acceptor)
    (hopen : acceptor.closed = false) (hidle : acceptor.loop = none)
    (hbound : service.socket.port ≠ 0 → service.socket ∈ n.bound) :
    service.Accepting (n.startAcceptor service.acceptor) ∧
      (n.startAcceptor service.acceptor).bus = n.bus := by
  have hstart : n.startAcceptor service.acceptor =
      (n.spawn (.accept service.acceptor)).2.setAcceptor service.acceptor
        { acceptor with loop := some n.fresh } := by
    simp only [Node.startAcceptor, hfound, hopen, hidle, Option.isSome_none, Bool.or_self,
      Bool.false_eq_true, if_false]
    rfl
  rw [hstart]
  refine ⟨⟨⟨{ acceptor with loop := some n.fresh }, n.fresh,
    { activity := .acting (.accept service.acceptor) }, ?_, hopen, rfl, Nat.lt_succ_self _, ?_,
    rfl⟩, hbound⟩, rfl⟩
  · exact Assoc.get?_set_self ..
  · exact Assoc.get?_set_self ..

/-- What is bound has an acceptor that nobody has closed or started. -/
theorem bind_eq_ok {settings : TcpSettings} {buffer : BufferSettings} {table : MappingTable}
    (h : TcpService.bind n settings buffer table = .ok (service, n')) :
    service.socket = settings.socket ∧ n'.bus = n.bus ∧
      (service.socket.port ≠ 0 → service.socket ∈ n'.bound) ∧
      ∃ acceptor, n'.acceptors.get? service.acceptor = some acceptor ∧
        acceptor.closed = false ∧ acceptor.loop = none := by
  unfold TcpService.bind at h
  rcases hbind : n.bind settings.socket with e | n₁
  · rw [hbind] at h
    cases h
  · obtain ⟨bound, rfl, -, hbound⟩ := Node.bind_eq_ok hbind
    rw [hbind] at h
    obtain ⟨rfl, rfl⟩ := Prod.mk.inj (Except.ok.inj h)
    exact ⟨rfl, rfl, hbound, _, Assoc.get?_set_self .., rfl, rfl⟩

/-- So it comes up, and binding is all that can fail. -/
theorem start_of_bind {settings : TcpSettings} {buffer : BufferSettings} {table : MappingTable}
    (h : TcpService.bind n settings buffer table = .ok (service, n')) :
    ∃ n'', service.start n' = .ok n'' ∧ service.socket = settings.socket ∧
      service.Accepting n'' ∧ n''.bus = n.bus := by
  obtain ⟨hsocket, hbus, hbound, acceptor, hfound, hopen, hidle⟩ := bind_eq_ok h
  obtain ⟨haccepting, hbus'⟩ := accepting_startAcceptor hfound hopen hidle hbound
  refine ⟨_, ?_, hsocket, haccepting, hbus'.trans hbus⟩
  simp only [start, hfound, hopen, hidle, Option.isSome_none, Bool.false_eq_true, if_false]
  rfl

end TcpService

namespace UdpService

variable {service service' : UdpService} {n n' : Node}

/-- What the bridge of the service asks of the bus when it starts. -/
def arrival (service : UdpService) (table : MappingTable) : List (Bus.Change Listener) :=
  table.advertised.map fun entry =>
    .subscribe ⟨service.bridge⟩ (.bridge service.bridge) entry.type

theorem link?_of_get? {d : DatagramLink} {outbox : Option Outbox}
    (h : n.transports.get? service.transport = some ⟨.datagram d, outbox⟩) :
    service.link? n = some d := by
  simp [link?, h]

/-- What is bound has an open transport and a bridge that has not been started. -/
theorem bind_eq_ok {settings : UdpSettings} {table : MappingTable}
    (h : UdpService.bind n settings table = .ok (service, n')) :
    service.loop = none ∧ Node.Extends n n' ∧ n'.bus = n.bus ∧
      (service.socket.port ≠ 0 → service.socket ∈ n'.bound) ∧
      (∃ d, service.link? n' = some d ∧ d.closed = false) ∧
      n'.bridges.get? service.bridge =
        some { id := ⟨service.bridge⟩, table, transport := service.transport } := by
  unfold UdpService.bind at h
  rcases hbind : n.bind settings.socket with e | n₁
  · rw [hbind] at h
    cases h
  · obtain ⟨bound, rfl, hsubset, hbound⟩ := Node.bind_eq_ok hbind
    rw [hbind] at h
    obtain ⟨rfl, rfl⟩ := Prod.mk.inj (Except.ok.inj h)
    refine ⟨rfl, ?_, rfl, hbound, ?_, ?_⟩
    · have hbinds : Node.Extends n { n with bound } :=
        ⟨rfl, Nat.le_refl _, fun _ _ => rfl, hsubset⟩
      exact (hbinds.trans (Node.extends_addTransport ..)).trans (Node.extends_addBridge ..)
    · exact ⟨_, link?_of_get? (Assoc.get?_set_self ..), rfl⟩
    · exact Assoc.get?_set_self ..

/-- So it comes up, and binding is all that can fail. -/
theorem start_of_bind {settings : UdpSettings} {table : MappingTable}
    (h : UdpService.bind n settings table = .ok (service, n')) :
    ∃ service' n'', service.start n' = .ok (service', n'') ∧
      service'.socket = service.socket ∧ Node.Extends n n'' ∧ service'.Serving n'' ∧
      n''.bus = n.bus.applyAll (service'.arrival table) := by
  obtain ⟨hidle, hextends, hbus, hbound, ⟨d, hlink, hopen⟩, hbridge⟩ := bind_eq_ok h
  have hstart : service.start n' = .ok ({ service with loop := some n'.fresh },
      (n'.startBridge service.bridge).2) := by
    unfold start
    simp only [hlink, hidle, Option.all_some, hopen, Option.isSome_none, Bool.false_eq_true,
      if_false, Node.startBridge, hbridge]
    rfl
  have heq : (n'.startBridge service.bridge).2 = (((n'.setRunning service.bridge true).setBus
      (n'.bus.applyAll (service.arrival table))).spawn (.listen service.bridge)).2 := by
    simp only [Node.startBridge, hbridge, Bridge.interests, Bus.applyAll, arrival, List.foldl_map]
    rfl
  refine ⟨_, _, hstart, rfl, hextends.trans (Node.extends_startBridge ..), ?_, ?_⟩
  · rw [heq]
    refine ⟨⟨{ id := ⟨service.bridge⟩, table, transport := service.transport, running := true },
      (Assoc.get?_modify ..).trans ?_, rfl⟩, ⟨n'.fresh, _, rfl, Assoc.get?_set_self .., rfl⟩,
      ⟨d, hlink, hopen⟩, hbound⟩
    rw [if_pos rfl, hbridge]
    rfl
  · rw [heq, ← hbus]
    rfl

end UdpService

namespace Relay

/-! ## The stages of a start -/

namespace Started

variable {r : Relay} {n : Node} {e : StartError} {stage : Relay → Node → Started}

@[simp] theorem andThen_failed : Started.andThen ⟨r, n, some e⟩ stage = ⟨r, n, some e⟩ := rfl

@[simp] theorem andThen_reached : Started.andThen ⟨r, n, none⟩ stage = stage r n := rfl

end Started

variable {r : Relay} {n n' : Node}

/-- What the first stage comes to: nothing, a socket that is taken, or a service that is up. -/
inductive TcpStage (r : Relay) (n : Node) : Started → Prop
  | skipped (disabled : r.services.tcp = false) : TcpStage r n ⟨r, n, none⟩
  | failed {e : ServiceError} (enabled : r.services.tcp = true) : TcpStage r n ⟨r, n, some (.tcp e)⟩
  | up {service : TcpService} {n' : Node} (enabled : r.services.tcp = true)
      (socket : service.socket = r.settings.tcp.socket) (accepting : service.Accepting n')
      (bus : n'.bus = n.bus) : TcpStage r n ⟨{ r with tcp := some service }, n', none⟩

theorem startTcp_stage (r : Relay) (n : Node) : TcpStage r n (r.startTcp n) := by
  unfold startTcp
  rcases henabled : r.services.tcp
  · exact .skipped henabled
  rcases hbind : TcpService.bind n r.settings.tcp r.settings.buffer r.table with e | ⟨service, n'⟩
  · exact .failed henabled
  · obtain ⟨n'', hstart, hsocket, haccepting, hbus⟩ := TcpService.start_of_bind hbind
    simp only [hstart]
    exact .up henabled hsocket haccepting hbus

/-- What the second stage comes to. -/
inductive UdpStage (r : Relay) (n : Node) : Started → Prop
  | skipped (disabled : r.services.udp = false) : UdpStage r n ⟨r, n, none⟩
  | failed {e : ServiceError} (enabled : r.services.udp = true) : UdpStage r n ⟨r, n, some (.udp e)⟩
  | up {service : UdpService} {n' : Node} (enabled : r.services.udp = true)
      (later : Node.Extends n n') (serving : service.Serving n')
      (bus : n'.bus = n.bus.applyAll (service.arrival r.table)) :
      UdpStage r n ⟨{ r with udp := some service }, n', none⟩

theorem startUdp_stage (r : Relay) (n : Node) : UdpStage r n (r.startUdp n) := by
  unfold startUdp
  rcases henabled : r.services.udp
  · exact .skipped henabled
  rcases hbind : UdpService.bind n r.settings.udp r.table with e | ⟨service, n'⟩
  · exact .failed henabled
  · obtain ⟨service', n'', hstart, -, hextends, hserving, hbus⟩ := UdpService.start_of_bind hbind
    simp only [hstart]
    exact .up henabled hextends hserving hbus

end Relay

namespace Node

variable {n n' : Node}

/-- A dial that fails leaves the node as it was. -/
theorem dial_error {settings : LinkSettings} {buffer : BufferSettings} {e : LinkError}
    (h : n.dial settings buffer = (.error e, n')) : n' = n := by
  unfold dial at h
  split at h
  · exact (Prod.mk.inj h).2.symm
  · rename_i endpoint _
    split at h
    · rename_i cause n₁ hconnect
      obtain ⟨-, rfl⟩ := Prod.mk.inj h
      unfold connect at hconnect
      split at hconnect
      · exact (Prod.mk.inj hconnect).2.symm
      · split at hconnect
        · cases hconnect
        · exact (Prod.mk.inj hconnect).2.symm
    · cases h

/-- So does a bridge that cannot be built. -/
theorem build_error {registry : Registry} {plan : BridgePlan} {e : BridgeError}
    (h : n.build registry plan = (.error e, n')) : n' = n := by
  unfold build at h
  split at h
  · exact (Prod.mk.inj h).2.symm
  · split at h
    · rename_i n₁ hresolve
      obtain ⟨-, rfl⟩ := Prod.mk.inj h
      unfold resolveTransport at hresolve
      split at hresolve
      · cases hresolve
      · rename_i settings buffer _ _
        rcases hdial : n.dial settings buffer with ⟨e' | t, n₂⟩
        · rw [hdial] at hresolve
          obtain ⟨-, rfl⟩ := Prod.mk.inj hresolve
          exact dial_error hdial
        · rw [hdial] at hresolve
          cases hresolve
      · exact (Prod.mk.inj hresolve).2.symm
    · cases h

end Node

namespace Relay

/-- What the third stage comes to. -/
inductive UplinkStage (r : Relay) (n : Node) : Started → Prop
  | skipped : UplinkStage r n ⟨r, n, none⟩
  | failed {target : Endpoint} {cause : BridgeError} :
      UplinkStage r n ⟨r, n, some (.uplink target cause)⟩
  | up {uplink : Uplink} {n' : Node} : UplinkStage r n ⟨{ r with uplink := some uplink }, n', none⟩

theorem startUplink_stage (r : Relay) (n : Node) : UplinkStage r n (r.startUplink n) := by
  unfold startUplink
  split
  · dsimp only
    split
    · rename_i hbuild
      obtain rfl := Node.build_error hbuild
      exact .failed
    · exact .up
  · exact .skipped

/-! ## A start that fails -/

/-- What a start has come to: `stream` and `datagram` say which services it has brought up.
These are all that tells the relay and its node from what they were. -/
structure Up (r : Relay) (n : Node) (stream datagram : Bool) (r' : Relay) (n' : Node) : Prop where
  settings : r'.settings = r.settings
  services : r'.services = r.services
  table : r'.table = r.table
  tcp : r'.tcp.isSome = stream
  udp : r'.udp.isSome = datagram
  uplink : r'.uplink = none
  accepting : ∀ service, r'.tcp = some service →
    service.socket = r.settings.tcp.socket ∧ service.Accepting n'
  serving : ∀ service, r'.udp = some service → service.Serving n'
  bus : n'.bus = n.bus.applyAll ((r'.udp.map (·.arrival r.table)).getD [])
  untouched : stream = false → datagram = false → r' = r ∧ n' = n

variable {r : Relay} {n : Node} {e : StartError}

/-- The first stage fails and leaves all as it was, or brings up its service if there is one. -/
theorem up_startTcp (htcp : r.tcp = none) (hudp : r.udp = none) (huplink : r.uplink = none) :
    (∃ e, r.startTcp n = ⟨r, n, some (.tcp e)⟩ ∧ Up r n false false r n) ∨
    ∃ r' n', r.startTcp n = ⟨r', n', none⟩ ∧ Up r n r.services.tcp false r' n' := by
  have hstart : Up r n false false r n := by
    refine ⟨rfl, rfl, rfl, by rw [htcp]; rfl, by rw [hudp]; rfl, huplink, ?_, ?_,
      by rw [hudp]; rfl, fun _ _ => ⟨rfl, rfl⟩⟩
    · intro service hservice
      rw [htcp] at hservice
      cases hservice
    · intro service hservice
      rw [hudp] at hservice
      cases hservice
  have hstage := startTcp_stage r n
  generalize r.startTcp n = s at hstage ⊢
  rcases hstage with hdisabled | ⟨henabled⟩ | ⟨henabled, hsocket, haccepting, hbus⟩
  · exact .inr ⟨r, n, rfl, hdisabled ▸ hstart⟩
  · exact .inl ⟨_, rfl, hstart⟩
  · refine .inr ⟨_, _, rfl, rfl, rfl, rfl, henabled.symm, hstart.udp, huplink, ?_, ?_, ?_, ?_⟩
    · intro service hservice
      obtain rfl := Option.some.inj hservice
      exact ⟨hsocket, haccepting⟩
    · intro service hservice
      rw [hudp] at hservice
      cases hservice
    · show _ = n.bus.applyAll ((r.udp.map _).getD [])
      rw [hbus, hudp]
      rfl
    · intro hdisabled
      rw [henabled] at hdisabled
      cases hdisabled

/-- So does the second. -/
theorem Up.startUdp {r' : Relay} {n' : Node} {stream : Bool}
    (h : Up r n stream false r' n') :
    (∃ e, r'.startUdp n' = ⟨r', n', some (.udp e)⟩) ∨
    ∃ r'' n'', r'.startUdp n' = ⟨r'', n'', none⟩ ∧ Up r n stream r.services.udp r'' n'' := by
  have hidle : r'.udp = none := Option.isNone_iff_eq_none.mp (by simpa using h.udp)
  have hstage := startUdp_stage r' n'
  generalize r'.startUdp n' = s at hstage ⊢
  rcases hstage with hdisabled | _ | ⟨henabled, hextends, hserving, hbus⟩
  · rw [h.services] at hdisabled
    exact .inr ⟨r', n', rfl, hdisabled ▸ h⟩
  · exact .inl ⟨_, rfl⟩
  · rw [h.services] at henabled
    refine .inr ⟨_, _, rfl, h.settings, h.services, h.table, h.tcp, henabled.symm, h.uplink, ?_,
      ?_, ?_, ?_⟩
    · intro service hservice
      obtain ⟨hsocket, haccepting⟩ := h.accepting service hservice
      exact ⟨hsocket, haccepting.extends hextends⟩
    · intro service hservice
      obtain rfl := Option.some.inj hservice
      exact hserving
    · rw [hbus, h.bus, hidle, h.table]
      rfl
    · intro _ hdisabled
      rw [henabled] at hdisabled
      cases hdisabled

/-- As long as the socket of the first stage is taken no start gets past it. -/
theorem start_of_taken (henabled : r.services.tcp = true) (hport : r.settings.tcp.port ≠ 0)
    (htaken : r.settings.tcp.socket ∈ n.bound) : r.start n =
      ⟨r, n, some (.tcp (.bind r.settings.tcp.socket.render addressInUse))⟩ := by
  have hstage : r.startTcp n =
      ⟨r, n, some (.tcp (.bind r.settings.tcp.socket.render addressInUse))⟩ := by
    unfold startTcp TcpService.bind
    rw [henabled, Node.bind_of_taken hport htaken]
    rfl
  rw [start, hstage]
  rfl

end Relay

/-- Whether the first stage is over when that failure comes. -/
def StartError.pastTcp : StartError → Bool
  | .tcp _ => false
  | .udp _ | .uplink .. => true

/-- Whether the second stage is over as well. -/
def StartError.pastUdp : StartError → Bool
  | .tcp _ | .udp _ => false
  | .uplink .. => true

namespace Relay

variable {r : Relay} {n : Node} {e : StartError}

theorem up_of_failure (htcp : r.tcp = none) (hudp : r.udp = none) (huplink : r.uplink = none)
    (hfailure : (r.start n).failure = some e) :
    Up r n (r.services.tcp && e.pastTcp) (r.services.udp && e.pastUdp)
      (r.start n).relay (r.start n).node := by
  unfold start at hfailure ⊢
  rcases up_startTcp htcp hudp huplink with ⟨cause, hstage, hup⟩ | ⟨r₁, n₁, hstage, hup⟩
  · rw [hstage] at hfailure ⊢
    obtain rfl := Option.some.inj hfailure
    simpa [StartError.pastTcp, StartError.pastUdp] using hup
  rw [hstage, Started.andThen_reached] at hfailure ⊢
  rcases hup.startUdp with ⟨cause, hstage⟩ | ⟨r₂, n₂, hstage, hup⟩
  · rw [hstage] at hfailure ⊢
    obtain rfl := Option.some.inj hfailure
    simpa [StartError.pastTcp, StartError.pastUdp] using hup
  rw [hstage, Started.andThen_reached] at hfailure ⊢
  have hlast := startUplink_stage r₂ n₂
  generalize r₂.startUplink n₂ = s at hlast hfailure ⊢
  rcases hlast with _ | _ | _
  · cases hfailure
  · obtain rfl := Option.some.inj hfailure
    simpa [StartError.pastTcp, StartError.pastUdp] using hup
  · cases hfailure

/-- **What a failed start leaves.**  For every relay that has not been started, all services that
come before the one that fails are up, with their tasks, sockets and subscriptions, and nothing
else is; so all is as before exactly if none of them is enabled.  Once the first service is up
its own socket makes every later start fail, whatever has become of the cause. -/
theorem start_failure (htcp : r.tcp = none) (hudp : r.udp = none) (huplink : r.uplink = none)
    (hfailure : (r.start n).failure = some e) :
    Up r n (r.services.tcp && e.pastTcp) (r.services.udp && e.pastUdp)
      (r.start n).relay (r.start n).node ∧
    ((r.start n).relay = r ∧ (r.start n).node = n ↔
      (r.services.tcp && e.pastTcp) = false ∧ (r.services.udp && e.pastUdp) = false) ∧
    ((r.services.tcp && e.pastTcp) = true → r.settings.tcp.port ≠ 0 →
      r.settings.tcp.socket ∈ (r.start n).node.bound ∧
      ∀ n', r.settings.tcp.socket ∈ n'.bound → ((r.start n).relay.start n').failure =
        some (.tcp (.bind r.settings.tcp.socket.render addressInUse))) := by
  have hup := up_of_failure htcp hudp huplink hfailure
  refine ⟨hup, ?_, ?_⟩
  · constructor
    · rintro ⟨hrelay, -⟩
      rw [← hup.tcp, ← hup.udp, hrelay, htcp, hudp]
      exact ⟨rfl, rfl⟩
    · rintro ⟨htcp', hudp'⟩
      exact hup.untouched htcp' hudp'
  · intro hpast hport
    obtain ⟨service, hservice⟩ := Option.isSome_iff_exists.mp (hup.tcp.trans hpast)
    obtain ⟨hsocket, haccepting⟩ := hup.accepting service hservice
    have hbound := haccepting.bound
    rw [hsocket] at hbound
    refine ⟨hbound hport, fun n' htaken => ?_⟩
    have henabled : (r.start n).relay.services.tcp = true := by
      rw [hup.services]
      exact (Bool.and_eq_true _ _ ▸ hpast : _ ∧ _).1
    rw [← hup.settings] at hport htaken ⊢
    rw [start_of_taken henabled hport htaken]

/-- A relay with both listeners and an uplink to a host that does not listen. -/
def groundStation : Endpoint := .tcp "ground" 9000

def uplinked : Settings :=
  { link := { endpoint := some groundStation },
    mappings := [{ tag := some 13, className := some "CommandData", advertise := true }] }

def uplinkedRelay : Relay :=
  { settings := uplinked, services := {},
    table := ⟨[⟨"#1", 13, Kind.commandData.family, true⟩]⟩ }

def uplinkedNode : Node :=
  { fresh := 1, bus := Bus.empty.subscribe ⟨0⟩ .logger Family.anyMessage }

def uplinkRefused : StartError :=
  .uplink groundStation (.link (.connect groundStation.render refused))

theorem start_failure_refused : make uplinked {} = .ok (uplinkedRelay, uplinkedNode) ∧
    (uplinkedRelay.start uplinkedNode).failure = some uplinkRefused ∧
    Up uplinkedRelay uplinkedNode true true (uplinkedRelay.start uplinkedNode).relay
      (uplinkedRelay.start uplinkedNode).node := by
  have hfailure : (uplinkedRelay.start uplinkedNode).failure = some uplinkRefused := rfl
  exact ⟨rfl, hfailure, (start_failure rfl rfl rfl hfailure).1⟩

/-- **A failed start is not all or nothing.**  Both listeners stay up and the bus has a listener
more.  When the host listens at last, a relay that was not touched would start, but this one fails
at its own socket. -/
theorem uplink_refused_leaves_listeners :
    make uplinked {} = .ok (uplinkedRelay, uplinkedNode) ∧
    let s := uplinkedRelay.start uplinkedNode
    s.failure = some uplinkRefused ∧ s.relay.tcp.isSome = true ∧ s.relay.udp.isSome = true ∧
    uplinkedNode.bus.listenerCount = 1 ∧ s.node.bus.listenerCount = 2 ∧
    let listening := Assoc.empty.set groundStation []
    (uplinkedRelay.start { uplinkedNode with hosts := listening }).failure = none ∧
    (s.relay.start { s.node with hosts := listening }).failure =
      some (.tcp (.bind uplinked.tcp.socket.render addressInUse)) :=
  ⟨rfl, rfl, rfl, rfl, rfl, rfl, rfl, rfl⟩

end Relay

end TelemetryRelay
