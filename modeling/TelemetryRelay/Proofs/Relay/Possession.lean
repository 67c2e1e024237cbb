import TelemetryRelay.Proofs.Node.Admission
import TelemetryRelay.Proofs.Node.Growth
import TelemetryRelay.Proofs.Relay

/-!
# What a relay has on its node

A relay has a logger on the bus, an acceptor with its peers, and at most two bridges of its own.
All of them are known from the moment at which they are set up until the relay is stopped: nobody
else deals with them, and what they ask of the bus they ask under their own ids.
-/

namespace TelemetryRelay

namespace Node

variable {n n' : Node} {id : TaskId} {a : AcceptorId} {b : BridgeId} {m : Move} {loop : Loop}
  {peers : List Loop} {stopper : Option TaskId} {logger : ListenerId}

/-- The logger takes all messages, and neither an actor nor a bridge is called as it is. -/
structure HasLogger (logger : ListenerId) (n : Node) : Prop where
  known : logger.number < n.fresh
  subscribed : ⟨logger, .logger, [Family.anyMessage]⟩ ∈ n.bus.subscribers
  bridges : n.bridges.get? logger.number = none
  actors : ∀ name actor, n.actors.get? name = some actor → actor.id ≠ logger

/-- The task may be over, but it is not halted with an outbox. -/
structure Bare (n : Node) (id : TaskId) : Prop where
  known : id < n.fresh
  bare : ∀ task, n.tasks.get? id = some task → task.outbox = none

/-- A bridge that nobody else starts; the task that stops it has stopped it or is going to. -/
def Owns (stopper : Option TaskId) (b : BridgeId) (n : Node) : Prop :=
  ∃ bridge, n.bridges.get? b = some bridge ∧
    ∀ id, stopper = some id → bridge.running = false ∨ .stop b ∈ n.planOf id

/-- An acceptor that nobody else closes; the task that closes it has closed it or is going to. -/
structure Hosts (stopper : Option TaskId) (a : AcceptorId) (peers : List Loop) (n : Node) :
    Prop where
  closes : ∀ id, .close a ∈ n.planOf id → stopper = some id
  tended : ∃ first limit closers acceptor, n.acceptors.get? a = some acceptor ∧
    Tended a first limit peers closers n acceptor ∧ (∀ id ∈ closers, stopper = some id) ∧
    ∀ id, stopper = some id → id ∈ closers ∨ .close a ∈ n.planOf id

/-! ## The logger -/

theorem HasLogger.move (h : HasLogger logger n) (hnamed : Named n) (hmove : n.move m = some n') :
    HasLogger logger n' := by
  have hspares := spares_move hnamed.numbered hmove
  have hother : ∀ c ∈ changes (n, m), c.id ≠ logger := by
    intro c hc hid
    rcases hnamed.called hmove hc with hcalled | ⟨b, hb, hnew⟩
    · rw [hid] at hcalled
      cases hcalled with
      | actor found => exact h.actors _ _ found rfl
      | bridge found => cases h.bridges.symm.trans found
    · obtain rfl := hid.symm.trans hb
      exact absurd h.known (Nat.not_lt_of_le hnew)
  refine ⟨Nat.lt_of_lt_of_le h.known hspares.fresh, ?_, ?_, ?_⟩
  · rw [bus_move hmove]
    exact Bus.mem_applyAll_of_other h.subscribed hother
  · refine Option.eq_none_iff_forall_ne_some.mpr fun bridge found => ?_
    cases came_of_move hmove found with
    | before hfound => cases h.bridges.symm.trans hfound
    | peer hfound new => exact absurd h.known (Nat.not_lt_of_le (new ▸ Nat.le_add_right _ 2))
  · intro name actor' found
    obtain ⟨actor, hactor, hid, -⟩ := hspares.actor found
    exact hid ▸ h.actors name actor hactor

theorem HasLogger.furnishes (h : HasLogger logger n) (hfurnishes : Furnishes n n') :
    HasLogger logger n' := by
  refine ⟨Nat.lt_of_lt_of_le h.known hfurnishes.spares.fresh, ?_, ?_, ?_⟩
  · rw [hfurnishes.bus]
    exact h.subscribed
  · rw [hfurnishes.bridges _ h.known, h.bridges]
  · intro name actor' found
    obtain ⟨actor, hactor, hid, -⟩ := hfurnishes.spares.actor found
    exact hid ▸ h.actors name actor hactor

/-! ## Tasks and bridges -/

theorem Bare.move (h : Bare n id) (hn : Numbered n) (hmove : n.move m = some n') :
    Bare n' id := by
  refine ⟨Nat.lt_of_lt_of_le h.known (spares_move hn hmove).fresh, fun task' found' => ?_⟩
  cases found : n.tasks.get? id with
  | none => cases (gone_move hn hmove h.known found).symm.trans found'
  | some task =>
      rw [outbox_of_descends hn (descends_of_move hn hmove found') found, h.bare task found]

/-- What the task has planned stays planned until the task is at it. -/
theorem Bare.stays (h : Bare n id) (hn : Numbered n) (hmove : n.move m = some n') {y : Action}
    (hy : y ∈ n.planOf id) : y ∈ n'.planOf id ∨ m = .step id ∧ n.actionOf? id = some y := by
  obtain ⟨task, found, hy⟩ := mem_planOf.mp hy
  exact stays_planned hn hmove found (h.bare task found) hy

theorem Bare.grows (h : Bare n id) (hgrows : Grows n n') : Bare n' id := by
  refine ⟨Nat.lt_of_lt_of_le h.known hgrows.spares.fresh, fun task found => h.bare task ?_⟩
  rw [← found, hgrows.spares.tasks id h.known nofun]

theorem Owns.move (h : Owns stopper b n) (hn : Numbered n) (hmove : n.move m = some n')
    (hstarts : ∀ label, m ≠ .outside (.startBridge b label))
    (hbare : ∀ id, stopper = some id → Bare n id) : Owns stopper b n' := by
  obtain ⟨bridge, found, hstops⟩ := h
  obtain ⟨bridge', found', hbridged⟩ := bridge_move hn hmove found
  have hstays : bridge.running = false → bridge'.running = false := by
    intro hstopped
    cases hbridged with
    | same => exact hstopped
    | stopped => rfl
    | started => exact absurd rfl (hstarts _)
  refine ⟨bridge', found', fun id hid => ?_⟩
  rcases hstops id hid with hstopped | hplanned
  · exact .inl (hstays hstopped)
  · rcases (hbare id hid).stays hn hmove hplanned with hplanned | ⟨rfl, acts⟩
    · exact .inr hplanned
    · obtain ⟨after, next, hact⟩ := act_of_step acts hmove
      obtain ⟨hsilent, -⟩ := stop_silences found acts hact hmove
      obtain rfl := Option.some.inj (found'.symm.trans hsilent)
      exact .inl rfl

theorem Owns.grows (h : Owns stopper b n) (hn : Numbered n) (hgrows : Grows n n') :
    Owns stopper b n' := by
  obtain ⟨bridge, found, hstops⟩ := h
  exact ⟨bridge, hgrows.bridge hn found,
    fun id hid => (hstops id hid).imp_right (hgrows.stays hn)⟩

/-! ## The acceptor -/

/-- Whoever is going to close the acceptor was going to before. -/
theorem close_planned (hn : Numbered n) (hmove : n.move m = some n')
    (hbegins : ∀ x label, m = .outside (.begin x label) → .close a ∉ x.plan)
    (hy : .close a ∈ n'.planOf id) : .close a ∈ n.planOf id := by
  obtain ⟨task, found, hy⟩ := mem_planOf.mp hy
  rcases mem_plan_of_descends (descends_of_move hn hmove found) hy rfl with
    ⟨before, hfound, -, hplanned | ⟨x, -, -, ⟨hclose, -⟩ | ⟨-, hclose⟩⟩⟩ | ⟨-, spawns⟩
  · exact mem_planOf.mpr ⟨before, hfound, hplanned⟩
  · cases hclose
  · cases hclose
  · rcases (spawns.about hy rfl).2 with hclose | ⟨loop, -, -, hclose⟩ | ⟨x, label, hm, hbegun⟩
    · cases hclose
    · cases hclose
    · exact absurd hbegun (hbegins x label hm)

theorem Hosts.move (h : Hosts stopper a peers n) (hmove : n.move m = some n')
    (hgentle : Gentle a peers m) (hbegins : ∀ x label, m = .outside (.begin x label) →
      .close a ∉ x.plan) (hbare : ∀ id, stopper = some id → Bare n id) :
    Hosts stopper a (peers ++ (attached? a (n, m)).toList) n' := by
  obtain ⟨first, limit, closers, acceptor, found, htended, honly, hdue⟩ := h.tended
  have hn := htended.numbered
  obtain ⟨acceptor', found', htended'⟩ := htended.move hmove hgentle found
  have hcloser : ∀ id, closes? a (n, m) = some id → stopper = some id := by
    intro id hcloses
    obtain ⟨rfl, acts, -⟩ := closed_by hcloses
    obtain ⟨rest, hplan⟩ := planOf_of_actionOf? acts
    exact h.closes id (hplan ▸ List.mem_append_left _ (.head _))
  refine ⟨fun id hy => h.closes id (close_planned hn hmove hbegins hy), first, limit, _,
    acceptor', found', htended', ?_, ?_⟩
  · intro id hid
    rcases List.mem_append.mp hid with hid | hid
    · exact honly id hid
    · exact hcloser id (Option.mem_toList.mp hid)
  · intro id hid
    rcases hdue id hid with hcloses | hplanned
    · exact .inl (List.mem_append_left _ hcloses)
    · rcases (hbare id hid).stays hn hmove hplanned with hplanned | ⟨rfl, acts⟩
      · exact .inr hplanned
      · -- The task is at closing the acceptor: either it does so now, or it has been before.
        refine .inl ?_
        cases hclosed : acceptor.closed with
        | false => exact List.mem_append_right _ (by simp [closes?, acts, found, hclosed])
        | true =>
            obtain ⟨id', hid'⟩ := List.exists_mem_of_ne_nil _ (htended.closed.mp hclosed)
            obtain rfl := Option.some.inj (hid.symm.trans (honly id' hid'))
            exact List.mem_append_left _ hid'

theorem Hosts.grows (h : Hosts stopper a peers n) (hgrounded : Grounded n)
    (hgrows : Grows n n') : Hosts stopper a peers n' := by
  obtain ⟨first, limit, closers, acceptor, found, htended, honly, hdue⟩ := h.tended
  refine ⟨fun id hy => h.closes id (hgrows.planned hy rfl ▸ hy), first, limit, closers,
    acceptor, ?_, htended.grows hgrows, honly, ?_⟩
  · rw [hgrows.acceptors a (hgrounded.drawn found), found]
  · exact fun id hid => (hdue id hid).imp_right (hgrows.stays htended.numbered)

theorem planOf_begin {x : Action} {label : Option String} :
    (n.occur (.begin x label)).planOf n.fresh = x.plan := by
  simp [occur, planOf, spawn, draw, Task.plan, Activity.plan]

/-- When a task begins that is to close the acceptor, and does nothing else about it. -/
theorem Hosts.begin {x : Action} {label : Option String} (h : Hosts none a peers n)
    (hclose : .close a ∈ x.plan) (honly : ∀ y ∈ x.plan, y.acceptor? = some a → y = .close a) :
    Hosts (some n.fresh) a peers (n.occur (.begin x label)) := by
  obtain ⟨first, limit, closers, acceptor, found, htended, hnobody, -⟩ := h.tended
  have hmove : n.move (.outside (.begin x label)) = some (n.occur (.begin x label)) := rfl
  have hgentle : Gentle a peers (.outside (.begin x label)) := by
    refine ⟨?_, nofun⟩
    intro x' label' heq y hy about
    cases heq
    exact honly y hy about
  -- Only the task that stops the relay closes the acceptor, and there has been none.
  obtain rfl : closers = [] :=
    List.eq_nil_iff_forall_not_mem.mpr fun id hid => nomatch hnobody id hid
  obtain ⟨acceptor', found', htended'⟩ := htended.move hmove hgentle found
  rw [show attached? a (n, .outside (.begin x label)) = none from rfl,
    show closes? a (n, .outside (.begin x label)) = none from rfl,
    Option.toList_none, Option.toList_none, List.append_nil] at htended'
  refine ⟨fun id hy => ?_, first, limit, [], acceptor', found', htended',
    fun id hid => absurd hid List.not_mem_nil, fun id hid => .inr ?_⟩
  · by_cases hid : id = n.fresh
    · rw [hid]
    · have hsame : (n.occur (.begin x label)).planOf id = n.planOf id := by
        simp [occur, planOf, spawn, draw, hid]
      exact nomatch h.closes id (hsame ▸ hy)
  · obtain rfl := Option.some.inj hid
    rw [planOf_begin]
    exact hclose

/-- An acceptor that is new, and about which nobody has anything to do yet. -/
theorem hosts_of_new {acceptor : Acceptor} (hn : Numbered n)
    (hunplanned : ∀ id, ∀ y ∈ n.planOf id, y.acceptor? ≠ some a)
    (found : n.acceptors.get? a = some acceptor) (opened : acceptor.closed = false)
    (vacant : acceptor.peers = []) : Hosts none a [] n := by
  have hunpeopled : Unpeopled n a acceptor := by
    refine ⟨found, opened, vacant, fun id task htask y hy about => ?_⟩
    exact absurd about (hunplanned id y (mem_planOf.mpr ⟨task, htask, hy⟩))
  exact ⟨fun id hy => absurd rfl (hunplanned id _ hy), _, _, [], acceptor, found,
    hunpeopled.tended hn, by simp, nofun⟩

/-! ## Bridges that are built -/

theorem furnishes_dial (n : Node) (settings : LinkSettings) (buffer : BufferSettings) :
    Furnishes n (n.dial settings buffer).2 := by
  unfold dial
  split
  · exact .refl n
  · rename_i endpoint _
    have hconnect := furnishes_connect n endpoint
    split
    · rename_i hresult
      rw [hresult] at hconnect
      exact hconnect
    · rename_i hresult
      rw [hresult] at hconnect
      exact hconnect.trans (furnishes_addTransport ..)

theorem furnishes_resolveTransport (n : Node) (plan : BridgePlan) :
    Furnishes n (n.resolveTransport plan).2 := by
  unfold resolveTransport
  split
  · exact .refl n
  · exact furnishes_dial ..
  · exact .refl n

theorem addBridge_found (n : Node) (table : MappingTable) (t : TransportId) :
    ∃ bridge, (n.addBridge table t).2.bridges.get? n.fresh = some bridge :=
  ⟨_, Assoc.get?_set_self ..⟩

theorem build_eq_ok {registry : Registry} {plan : BridgePlan}
    (h : n.build registry plan = (.ok b, n')) :
    Furnishes n n' ∧ n.fresh ≤ b ∧ ∃ bridge, n'.bridges.get? b = some bridge := by
  unfold build at h
  split at h
  · cases h
  · have hresolves := furnishes_resolveTransport n plan
    split at h
    · cases h
    · rename_i hresult
      rw [hresult] at hresolves
      cases h
      exact ⟨hresolves.trans (furnishes_addBridge ..), hresolves.spares.fresh, addBridge_found ..⟩

theorem bind_furnishes {s : Socket} (h : n.bind s = .ok n') : Furnishes n n' := by
  obtain ⟨bound, rfl, -⟩ := bind_eq_ok h
  exact furnishes_bound n bound

end Node

/-! ## Services that are bound -/

theorem TcpService.bind_furnishes {service : TcpService} {n n' : Node} {settings : TcpSettings}
    {buffer : BufferSettings} {table : MappingTable}
    (h : TcpService.bind n settings buffer table = .ok (service, n')) :
    Node.Furnishes n n' ∧ n.fresh = service.acceptor ∧ ∃ acceptor,
      n'.acceptors.get? service.acceptor = some acceptor ∧ acceptor.closed = false ∧
        acceptor.peers = [] := by
  unfold TcpService.bind at h
  rcases hbind : n.bind settings.socket with e | n₁
  · rw [hbind] at h
    cases h
  · have hfurnishes := Node.bind_furnishes hbind
    obtain ⟨bound, rfl, -⟩ := Node.bind_eq_ok hbind
    rw [hbind] at h
    obtain ⟨rfl, rfl⟩ := Prod.mk.inj (Except.ok.inj h)
    exact ⟨hfurnishes.trans (Node.furnishes_acceptor ..), rfl, _, Assoc.get?_set_self .., rfl, rfl⟩

theorem TcpService.start_eq_ok {service : TcpService} {n n' : Node}
    (h : service.start n = .ok n') : n' = n.occur (.startAcceptor service.acceptor) := by
  unfold TcpService.start at h
  split at h
  · cases h
  · split at h
    · cases h
    · split at h <;> cases h
      rfl

theorem UdpService.start_eq_ok {service service' : UdpService} {n n' : Node}
    (h : service.start n = .ok (service', n')) :
    service'.bridge = service.bridge ∧ n' = (n.startBridge service.bridge).2 := by
  unfold UdpService.start at h
  split at h
  · cases h
  · split at h <;> cases h
    exact ⟨rfl, rfl⟩

theorem UdpService.bind_furnishes {service : UdpService} {n n' : Node} {settings : UdpSettings}
    {table : MappingTable} (h : UdpService.bind n settings table = .ok (service, n')) :
    Node.Furnishes n n' ∧ n.fresh ≤ service.bridge ∧
      ∃ bridge, n'.bridges.get? service.bridge = some bridge := by
  unfold UdpService.bind at h
  rcases hbind : n.bind settings.socket with e | n₁
  · rw [hbind] at h
    cases h
  · have hfurnishes := Node.bind_furnishes hbind
    rw [hbind] at h
    obtain ⟨rfl, rfl⟩ := Prod.mk.inj (Except.ok.inj h)
    have htransport := hfurnishes.trans (Node.furnishes_addTransport n₁ (.datagram
      { mode := .server settings.clientTimeout, address := addressOf n₁ settings.socket }) none)
    exact ⟨htransport.trans (Node.furnishes_addBridge ..), htransport.spares.fresh,
      Node.addBridge_found ..⟩

namespace Relay

/-- The bridges that a relay has of its own. -/
def bridges (r : Relay) : List BridgeId :=
  (r.udp.map (·.bridge)).toList ++ (r.uplink.map (·.bridge)).toList

/-- The peer that a relay attaches with a move. -/
def attaches? (r : Relay) (x : Node × Move) : Option Loop :=
  r.tcp.bind fun service => Node.attached? service.acceptor x

/-- The ids under which a relay is known to the bus: that of its logger, and those of its bridges
and of its peers. -/
def names (r : Relay) (logger : ListenerId) (peers : List Loop) : List ListenerId :=
  logger :: (r.bridges ++ peers.map (·.b)).map ListenerId.mk

/-- Nobody outside deals with what the relay has, or with acceptors that are not there yet. -/
structure Aloof (r : Relay) (peers : List Loop) (n : Node) (m : Move) : Prop where
  begins : ∀ x label, m = .outside (.begin x label) → ∀ y ∈ x.plan, ∀ a, y.acceptor? = some a →
    a < n.fresh ∧ ∀ service, r.tcp = some service → a ≠ service.acceptor
  starts : ∀ b ∈ r.bridges ++ peers.map (·.b), ∀ label, m ≠ .outside (.startBridge b label)

/-- A relay has what it has set up, and but for that the bus is what others have asked for. -/
structure Kept (logger : ListenerId) (stopper : Option TaskId) (r : Relay)
    (asked : List (Bus.Change Listener)) (peers : List Loop) (n : Node) : Prop where
  roster : ∃ all, Node.Roster all n ∧
    Bus.besides (r.names logger peers) all = Bus.besides (r.names logger peers) asked
  grounded : Node.Grounded n
  logged : Node.HasLogger logger n
  bare : ∀ id, stopper = some id → Node.Bare n id
  hosts : ∀ service, r.tcp = some service → Node.Hosts stopper service.acceptor peers n
  alone : r.tcp = none → peers = []
  owns : ∀ b ∈ r.bridges, Node.Owns stopper b n

variable {logger : ListenerId} {stopper : Option TaskId} {r r' : Relay}
  {asked asked' : List (Bus.Change Listener)} {peers peers' : List Loop} {n n' : Node} {m : Move}
  {ms : List Move} {b : BridgeId}

theorem names_subset (hbridges : r.bridges ⊆ r'.bridges) :
    r.names logger peers ⊆ r'.names logger (peers ++ peers') := by
  refine List.cons_subset_cons _ (List.map_subset _ (List.append_subset.mpr ⟨?_, ?_⟩))
  · exact List.subset_append_of_subset_left _ hbridges
  · refine List.subset_append_of_subset_right _ ?_
    rw [List.map_append]
    exact List.subset_append_left ..

theorem besides_logger (listener : Listener) (type : Family) :
    Bus.besides (r.names logger peers) [.subscribe logger listener type] = [] :=
  Bus.besides_eq_nil fun _ hc => List.mem_singleton.mp hc ▸ List.mem_cons_self

theorem mem_names_of_bridge (hb : b ∈ r.bridges) : ⟨b⟩ ∈ r.names logger peers :=
  .tail _ (List.mem_map_of_mem (List.mem_append_left _ hb))

namespace Kept

theorem numbered (h : Kept logger stopper r asked peers n) : Node.Numbered n := by
  obtain ⟨all, hroster, -⟩ := h.roster
  exact hroster.named.numbered

/-! ## Moves -/

theorem roster_move (h : Kept logger stopper r asked peers n) (hmove : n.move m = some n')
    (newcomers : List Loop) : ∃ all, Node.Roster all n' ∧
      Bus.besides (r.names logger (peers ++ newcomers)) all =
        Bus.besides (r.names logger (peers ++ newcomers)) (asked ++ Node.changes (n, m)) := by
  obtain ⟨all, hroster, hsame⟩ := h.roster
  refine ⟨_, hroster.move hmove, ?_⟩
  rw [Bus.besides_append, Bus.besides_append,
    Bus.besides_congr (names_subset (List.Subset.refl _)) hsame]

theorem hosts_move (h : Kept logger stopper r asked peers n) (hmove : n.move m = some n')
    (haloof : r.Aloof peers n m) {service : TcpService} (hservice : r.tcp = some service) :
    Node.Hosts stopper service.acceptor
      (peers ++ (Node.attached? service.acceptor (n, m)).toList) n' := by
  have hother : ∀ x label, m = .outside (.begin x label) → ∀ y ∈ x.plan,
      y.acceptor? ≠ some service.acceptor := fun x label hm y hy about =>
    (haloof.begins x label hm y hy _ about).2 service hservice rfl
  have hgentle : Node.Gentle service.acceptor peers m := by
    refine ⟨fun x label hm y hy about => absurd about (hother x label hm y hy), ?_⟩
    exact fun loop hloop =>
      haloof.starts loop.b (List.mem_append_right _ (List.mem_map_of_mem hloop))
  exact (h.hosts service hservice).move hmove hgentle
    (fun x label hm hy => hother x label hm _ hy rfl) h.bare

/-- **What a relay has it keeps, as long as nobody outside deals with it.** -/
theorem move (h : Kept logger stopper r asked peers n) (hmove : n.move m = some n')
    (haloof : r.Aloof peers n m) : Kept logger stopper r (asked ++ Node.changes (n, m))
      (peers ++ (r.attaches? (n, m)).toList) n' := by
  have hn := h.numbered
  obtain ⟨all, hroster, -⟩ := h.roster
  refine ⟨h.roster_move hmove _, h.grounded.move hn hmove ?_, h.logged.move hroster.named hmove,
    fun id hid => (h.bare id hid).move hn hmove, ?_, ?_, ?_⟩
  · exact fun x label hm y hy a about => (haloof.begins x label hm y hy a about).1
  · intro service hservice
    rw [attaches?, hservice]
    exact h.hosts_move hmove haloof hservice
  · intro hnone
    simp [attaches?, hnone, h.alone hnone]
  · intro b hb
    exact (h.owns b hb).move hn hmove (haloof.starts b (List.mem_append_left _ hb)) h.bare

/-! ## The stages of a start -/

/-- With what is set up, nothing of it is lost. -/
theorem furnishes (h : Kept logger stopper r asked peers n)
    (hfurnishes : Node.Furnishes n n') : Kept logger stopper r asked peers n' := by
  have hn := h.numbered
  obtain ⟨all, hroster, hsame⟩ := h.roster
  have hgrows := hfurnishes.toGrows
  refine ⟨⟨all, hroster.furnishes hfurnishes, hsame⟩, h.grounded.grows hgrows,
    h.logged.furnishes hfurnishes, fun id hid => (h.bare id hid).grows hgrows, ?_, h.alone, ?_⟩
  · exact fun service hservice => (h.hosts service hservice).grows h.grounded hgrows
  · exact fun b hb => (h.owns b hb).grows hn hgrows

/-- A bridge that has just been built starts, and is the relay's own. -/
theorem startBridge {n₁ : Node} {label : Option String}
    (h : Kept logger none r asked peers n) (hfurnishes : Node.Furnishes n n₁)
    (hnew : n.fresh ≤ b) (hfound : ∃ bridge, n₁.bridges.get? b = some bridge)
    (htcp : r'.tcp = r.tcp) (hbridges : ∀ x, x ∈ r'.bridges ↔ x = b ∨ x ∈ r.bridges) :
    Kept logger none r' asked peers (n₁.startBridge b label).2 := by
  have hn := h.numbered
  obtain ⟨all, hroster, hsame⟩ := h.roster
  obtain ⟨bridge, found⟩ := hfound
  have hgrows := hfurnishes.toGrows.startBridge hnew label
  have hmove : n₁.move (.outside (.startBridge b label)) = some (n₁.startBridge b label).2 := rfl
  have hroster₁ := hroster.furnishes hfurnishes
  have hown : r.names logger peers ⊆ r'.names logger peers := by
    have hsubset := @names_subset logger r r' peers [] fun x hx => (hbridges x).mpr (.inr hx)
    rwa [List.append_nil] at hsubset
  refine ⟨⟨_, hroster₁.move hmove, ?_⟩, h.grounded.grows hgrows,
    (h.logged.furnishes hfurnishes).move hroster₁.named hmove, nofun, ?_, ?_, ?_⟩
  · -- What the bridge asks of the bus it asks under its own id, which is now one of the relay's.
    have harrival : Bus.besides (r'.names logger peers)
        (Node.changes (n₁, .outside (.startBridge b label))) = [] := by
      refine Bus.besides_eq_nil fun c hc => ?_
      have hc : c ∈ bridge.arrival b := by simpa [Node.changes, Node.changesOn, found] using hc
      rw [Node.id_of_mem_arrival hc, hroster₁.named.bridges b bridge found]
      exact mem_names_of_bridge ((hbridges b).mpr (.inl rfl))
    rw [Bus.besides_append, harrival, List.append_nil, Bus.besides_congr hown hsame]
  · intro service hservice
    exact (h.hosts service (htcp ▸ hservice)).grows h.grounded hgrows
  · exact fun hnone => h.alone (htcp ▸ hnone)
  · intro x hx
    rcases (hbridges x).mp hx with rfl | hx
    · obtain ⟨bridge', found', -⟩ := Node.bridge_move hroster₁.named.numbered hmove found
      exact ⟨bridge', found', nofun⟩
    · exact (h.owns x hx).grows hn hgrows

theorem startTcp (h : Kept logger none r asked peers n) (hvacant : r.tcp = none) :
    Kept logger none (r.startTcp n).relay asked peers (r.startTcp n).node := by
  unfold Relay.startTcp
  split
  · exact h
  split
  · exact h
  rename_i service n₁ hbind
  obtain ⟨hfurnishes, hnew, acceptor, found, hopened, hvacant'⟩ := service.bind_furnishes hbind
  have hkept := h.furnishes hfurnishes
  split
  · exact hkept
  · rename_i n₂ hstart
    obtain rfl := service.start_eq_ok hstart
    obtain rfl := h.alone hvacant
    have hhosts : Node.Hosts none service.acceptor [] n₁ :=
      Node.hosts_of_new hkept.numbered (fun id y => h.grounded.unplanned hfurnishes.toGrows
        (Nat.le_of_eq hnew)) found hopened hvacant'
    have hbound : Kept logger none { r with tcp := some service } asked [] n₁ := by
      refine ⟨hkept.roster, hkept.grounded, hkept.logged, nofun, ?_, nofun, hkept.owns⟩
      intro service' hservice
      obtain rfl := Option.some.inj hservice
      exact hhosts
    have hstarted :=
      hbound.move (m := .outside (.startAcceptor service.acceptor)) rfl ⟨nofun, nofun⟩
    simpa [Node.changes, Node.changesOn, attaches?, Node.attached?] using hstarted

theorem startUdp (h : Kept logger none r asked peers n) (hvacant : r.udp = none) :
    Kept logger none (r.startUdp n).relay asked peers (r.startUdp n).node := by
  unfold Relay.startUdp
  split
  · exact h
  split
  · exact h
  rename_i service n₁ hbind
  obtain ⟨hfurnishes, hnew, hfound⟩ := service.bind_furnishes hbind
  split
  · exact h.furnishes hfurnishes
  · rename_i service' n₂ hstart
    obtain ⟨hsame, rfl⟩ := service.start_eq_ok hstart
    refine h.startBridge hfurnishes hnew hfound rfl fun x => ?_
    simp [bridges, hvacant, hsame]

theorem startUplink (h : Kept logger none r asked peers n) (hvacant : r.uplink = none) :
    Kept logger none (r.startUplink n).relay asked peers (r.startUplink n).node := by
  unfold Relay.startUplink
  split
  · dsimp only
    split
    · rename_i n₁ hbuild
      obtain rfl := Node.build_error hbuild
      exact h
    · rename_i b n₁ hbuild
      obtain ⟨hfurnishes, hnew, hfound⟩ := Node.build_eq_ok hbuild
      refine h.startBridge hfurnishes hnew hfound rfl fun x => ?_
      simp [bridges, hvacant, or_comm]
  · exact h

end Kept

/-! ## What a stop plans -/

theorem mem_plan_of_terminate_uplink {uplink : Uplink} {y : Action} :
    y ∈ uplink.terminate.plan ↔ y = .stop uplink.bridge ∨ y = .await uplink.loop := by
  simp [Uplink.terminate, Action.plan, Action.plans]

theorem mem_plan_of_terminate_tcp {service : TcpService} {y : Action} :
    y ∈ service.terminate.plan ↔ y = .close service.acceptor ∨ y = .unbind service.socket := by
  simp [TcpService.terminate, Action.plan, Action.plans]

theorem mem_plan_of_terminate_udp {service : UdpService} {y : Action} :
    y ∈ service.terminate.plan ↔ y = .stop service.bridge ∨
      (∃ loop, service.loop = some loop ∧ y = .await loop) ∨ y = .unbind service.socket := by
  rcases hloop : service.loop with _ | loop <;>
    simp [UdpService.terminate, hloop, Action.plan, Action.plans]

theorem mem_plan_of_stop {y : Action} : y ∈ r.stop.1.plan ↔
    (∃ uplink, r.uplink = some uplink ∧ y ∈ uplink.terminate.plan) ∨
    (∃ service, r.tcp = some service ∧ y ∈ service.terminate.plan) ∨
    ∃ service, r.udp = some service ∧ y ∈ service.terminate.plan := by
  rcases hudp : r.udp with _ | udp <;> rcases htcp : r.tcp with _ | tcp <;>
    rcases huplink : r.uplink with _ | uplink <;>
    simp [stop, hudp, htcp, huplink, Action.plan, Action.plans]

theorem mem_bridges : b ∈ r.bridges ↔ (∃ service, r.udp = some service ∧ service.bridge = b) ∨
    ∃ uplink, r.uplink = some uplink ∧ uplink.bridge = b := by
  simp [bridges]

theorem stop_planned (hb : b ∈ r.bridges) : .stop b ∈ r.stop.1.plan := by
  rcases mem_bridges.mp hb with ⟨service, hservice, rfl⟩ | ⟨uplink, huplink, rfl⟩
  · exact mem_plan_of_stop.mpr
      (.inr (.inr ⟨service, hservice, mem_plan_of_terminate_udp.mpr (.inl rfl)⟩))
  · exact mem_plan_of_stop.mpr (.inl ⟨uplink, huplink, mem_plan_of_terminate_uplink.mpr (.inl rfl)⟩)

theorem close_planned {service : TcpService} (hservice : r.tcp = some service) :
    .close service.acceptor ∈ r.stop.1.plan :=
  mem_plan_of_stop.mpr (.inr (.inl ⟨service, hservice, mem_plan_of_terminate_tcp.mpr (.inl rfl)⟩))

/-- About acceptors a stop does nothing but to close that of the relay. -/
theorem close_of_stop {y : Action} {a : AcceptorId} (hy : y ∈ r.stop.1.plan)
    (about : y.acceptor? = some a) :
    y = .close a ∧ ∃ service, r.tcp = some service ∧ service.acceptor = a := by
  rcases mem_plan_of_stop.mp hy with ⟨uplink, -, hy⟩ | ⟨service, hservice, hy⟩ | ⟨service, -, hy⟩
  · rcases mem_plan_of_terminate_uplink.mp hy with rfl | rfl <;> cases about
  · rcases mem_plan_of_terminate_tcp.mp hy with rfl | rfl <;> cases about
    exact ⟨rfl, service, hservice, rfl⟩
  · rcases mem_plan_of_terminate_udp.mp hy with rfl | ⟨loop, -, rfl⟩ | rfl <;> cases about

end Relay

end TelemetryRelay
