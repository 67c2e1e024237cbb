import TelemetryRelay.Proofs.Node.Connections
import TelemetryRelay.Proofs.Node.Peers

/-!
# Who is admitted

Peers come to an acceptor and leave it, in any order with each other and with its end.  The
invariant of `Peers` holds along every run in which nobody else deals with them, and from
it follows what is seen from outside.
-/

namespace TelemetryRelay

namespace Node

variable {n n' n₀ : Node} {id : TaskId} {a : AcceptorId} {b : BridgeId} {y : Action} {m : Move}
  {ms : List Move} {acceptor : Acceptor} {loop : Loop} {cs : List (Bus.Change Listener)}

/-! ## Runs -/

/-- An acceptor that has no peers yet; whatever tasks there are for it are to accept and to
close it. -/
structure Unpeopled (n : Node) (a : AcceptorId) (acceptor : Acceptor) : Prop where
  found : n.acceptors.get? a = some acceptor
  opened : acceptor.closed = false
  vacant : acceptor.peers = []
  tasks : ∀ id task, n.tasks.get? id = some task → ∀ y ∈ task.plan, y.acceptor? = some a →
    task.outbox = none ∧ (y = .accept a ∨ y = .close a)

theorem Unpeopled.not_planned (h : Unpeopled n a acceptor) (about : y.acceptor? = some a)
    (haccept : y ≠ .accept a) (hclose : y ≠ .close a) : y ∉ n.planOf id := by
  intro hy
  obtain ⟨task, found, hy⟩ := mem_planOf.mp hy
  rcases (h.tasks id task found y hy about).2 with rfl | rfl
  · exact haccept rfl
  · exact hclose rfl

theorem Unpeopled.tended (h : Unpeopled n a acceptor) (hn : Numbered n) :
    Tended a n.fresh acceptor.maxPeers [] [] n acceptor where
  numbered := hn
  since := Nat.le_refl _
  places := rfl
  room := by simp [h.vacant]
  distinct := by simp [h.vacant]
  known := by simp [h.vacant]
  equipped := by simp
  apart := .nil
  retired := by simp
  forgets := fun id b => before_of_not_mem (h.not_planned rfl (by simp) (by simp))
  clears := fun id => before_of_not_mem (h.not_planned rfl (by simp) (by simp))
  closing := fun id hend => hend.elim
    (fun hy => absurd hy (h.not_planned rfl (by simp) (by simp)))
    (fun hy => absurd hy (h.not_planned rfl (by simp) (by simp)))
  bare := fun id task found y hy about => (h.tasks id task found y hy about).1
  closed := by simp [h.opened]
  single := Nat.zero_le _
  due := by simp

/-- **Along every run in which nobody meddles with its peers an acceptor is tended.** -/
theorem Unpeopled.run (h : Unpeopled n₀ a acceptor) (hn : Numbered n₀) (hrun : n₀.run ms = some n)
    (hdiscreet : ∀ m ∈ ms, Discreet a n₀.fresh m) :
    ∃ acceptor', n.acceptors.get? a = some acceptor' ∧
      Tended a n₀.fresh acceptor.maxPeers ((history n₀ ms).filterMap (attached? a))
        ((history n₀ ms).filterMap (closes? a)) n acceptor' := by
  refine run_induction (P := fun ms n => (∀ m ∈ ms, Discreet a n₀.fresh m) →
    ∃ acceptor', n.acceptors.get? a = some acceptor' ∧
      Tended a n₀.fresh acceptor.maxPeers ((history n₀ ms).filterMap (attached? a))
        ((history n₀ ms).filterMap (closes? a)) n acceptor') ?_ ?_ hrun hdiscreet
  · exact fun _ => ⟨acceptor, h.found, h.tended hn⟩
  · intro ms m n n' hrun ih hmove hdiscreet
    obtain ⟨before, hbefore, htended⟩ := ih fun m hm => hdiscreet m (List.mem_append_left _ hm)
    have hlast := hdiscreet m (List.mem_append_right _ (.head _))
    rw [filterMap_history_snoc _ hrun, filterMap_history_snoc _ hrun]
    exact htended.move hmove (htended.gentle hlast) hbefore

/-- Nobody is attached to an acceptor that is closed and has no peers, in whatever run. -/
theorem vacated_run (found : n₀.acceptors.get? a = some acceptor) (closed : acceptor.closed = true)
    (vacant : acceptor.peers = []) (hrun : n₀.run ms = some n) :
    (history n₀ ms).filterMap (attached? a) = [] ∧
      ∃ acceptor', n.acceptors.get? a = some acceptor' ∧ acceptor'.closed = true ∧
        acceptor'.peers = [] := by
  refine run_induction (P := fun ms n => (history n₀ ms).filterMap (attached? a) = [] ∧
    ∃ acceptor', n.acceptors.get? a = some acceptor' ∧ acceptor'.closed = true ∧
      acceptor'.peers = []) ?_ ?_ hrun
  · exact ⟨rfl, acceptor, found, closed, vacant⟩
  · rintro ms m n n' hrun ⟨hnobody, before, hbefore, hclosed, hvacant⟩ hmove
    obtain ⟨hnone, hafter⟩ := vacated_move hmove hbefore hclosed hvacant
    refine ⟨?_, hafter⟩
    rw [filterMap_history_snoc _ hrun, hnobody, hnone]
    rfl

/-! ## Peers that come and go -/

/-- The bridge is off the bus and does not run, and its transport is terminated. -/
structure Offline (n : Node) (loop : Loop) : Prop where
  stopped : n.bridges.get? loop.b = some { loop.bridge with running := false }
  unsubscribed : n.bus.isSubscribed loop.bridge.id = false
  terminated : ∃ tr, n.transports.get? loop.bridge.transport = some tr ∧ tr.isTerminated = true

/-- A peer is admitted: its bridge runs, and its loop begins. -/
structure Admits (n' : Node) (a : AcceptorId) (acceptor : Acceptor) (loop : Loop) : Prop where
  peers : n'.acceptors.get? a = some { acceptor with
    backlog := acceptor.backlog.tail, peers := acceptor.peers ++ [loop.b] }
  bridge : n'.bridges.get? loop.b = some loop.bridge
  runs : loop.bridge.running = true
  begins : n'.tasks.get? loop.id = some (loop.task (.acting (.listen loop.b)) [])

/-- A peer is turned away: its connection is dropped, and there is nothing new for it. -/
structure TurnsAway (n n' : Node) (a : AcceptorId) (acceptor : Acceptor) : Prop where
  bridges : n'.bridges = n.bridges
  transports : n'.transports = n.transports
  bus : n'.bus = n.bus
  peers : n'.acceptors.get? a = some { acceptor with backlog := acceptor.backlog.tail }
  dropped : ∀ c, acceptor.backlog.head? = some c → (n'.connection c).localClosed = true

/-- The task has done with closing the acceptor. -/
def Returned (n : Node) (a : AcceptorId) (id : TaskId) : Prop :=
  .dismiss a ∉ n.planOf id ∧ .clear a ∉ n.planOf id

/-- A bridge that does not run is not subscribed. -/
theorem Roster.unsubscribed {bridge : Bridge} (h : Roster cs n)
    (found : n.bridges.get? b = some bridge) (stopped : bridge.running = false) :
    n.bus.isSubscribed bridge.id = false := by
  rw [Bool.eq_false_iff]
  intro hsubscribed
  obtain ⟨s, hs, hid⟩ := Bus.isSubscribed_iff.mp hsubscribed
  rw [h.named.bridges b bridge found] at hid
  obtain ⟨hrunning, -⟩ : bridge.running = true ∧ s.accepts Family.anyMessage = _ :=
    h.accepts found hs hid
  cases stopped.symm.trans hrunning

theorem Roster.offline (h : Roster cs n) (hretires : Retires n loop [])
    (hbuffered : n.Buffered loop.bridge.transport) : Offline n loop := by
  rcases hretires with hstop | ⟨hsilent, hterminate | ⟨f, hface, hshut⟩⟩
  · cases hstop
  · cases hterminate
  · obtain ⟨tr, o, hget, ho⟩ := hbuffered
    refine ⟨hsilent, ?_, tr, hget, ?_⟩
    · have hunsubscribed := h.unsubscribed hsilent rfl
      exact hunsubscribed
    · rw [face_of_get? hget] at hface
      obtain rfl := Option.some.inj hface
      simpa [Transport.face, Transport.isTerminated, ho] using hshut

theorem attached?_of_room (found : n.acceptors.get? a = some acceptor)
    (acts : n.actionOf? id = some (.accept a)) (opened : acceptor.closed = false)
    (room : acceptor.peers.length < acceptor.maxPeers) (hstep : n.step id = some n') :
    attached? a (n, .step id) = some (n.newcomer acceptor) := by
  obtain ⟨after, next, hact⟩ := act_of_step acts hstep
  rcases accepts_of_accept found hact with hclosed | ⟨-, -, hfull⟩ | ⟨-, hbacklog, -⟩
  · cases opened.symm.trans hclosed
  · exact absurd room (Nat.not_lt_of_le hfull)
  · exact attached?_eq_some acts found opened hbacklog (Nat.not_le_of_lt room)

theorem admits_of_attached (hn : Numbered n) (found : n.acceptors.get? a = some acceptor)
    (hstep : n.step id = some n') (h : attached? a (n, .step id) = some loop) :
    Admits n' a acceptor loop := by
  have hmove : n.move (.step id) = some n' := hstep
  obtain ⟨own, acceptor', c, rest, task, -, found', hbacklog, hroom, rfl, hknown, rfl⟩ :=
    attached_step hmove h
  obtain rfl := Option.some.inj (found.symm.trans found')
  obtain ⟨bridges, hbridges, heq⟩ := attach_eq n a { acceptor with backlog := rest } c hroom
  have hne : n.fresh + 3 ≠ own := fun heq => hknown (heq ▸ hn.tasks _ (Nat.le_add_right _ 3))
  rw [heq]
  refine ⟨?_, (hbridges (n.fresh + 2)).trans (if_pos rfl), rfl, ?_⟩
  · rw [hbacklog]
    exact Assoc.get?_set_self ..
  · simp [setTask, Assoc.get?_set_of_ne hne, newcomer, Loop.task]

theorem turnsAway_of_full (found : n.acceptors.get? a = some acceptor)
    (acts : n.actionOf? id = some (.accept a)) (opened : acceptor.closed = false)
    (full : acceptor.maxPeers ≤ acceptor.peers.length) (hstep : n.step id = some n') :
    TurnsAway n n' a acceptor := by
  obtain ⟨after, next, hact⟩ := act_of_step acts hstep
  obtain ⟨task, rfl⟩ := step_after acts hact hstep
  rcases accepts_of_accept found hact with hclosed | ⟨-, hbacklog, -⟩ | ⟨-, -, hroom⟩
  · cases opened.symm.trans hclosed
  · rename_i c rest
    refine ⟨rfl, rfl, rfl, ?_, ?_⟩
    · rw [hbacklog]
      exact Assoc.get?_set_self ..
    · intro c' hc
      obtain rfl : c = c' := by simpa [hbacklog] using hc
      show ((Node.dropConnection _ c).connection c).localClosed = true
      rw [dropConnection, connection_setConnection, if_pos rfl]
  · exact absurd full hroom

/-- An entry disappears when the peer is forgotten, or when all are. -/
theorem Tended.removed {first limit : Nat} {created : List Loop} {closers : List TaskId}
    {acceptor' : Acceptor} (h : Tended a first limit created closers n acceptor)
    (hroster : Roster cs n) (found : n.acceptors.get? a = some acceptor)
    (hmove : n.move m = some n') (found' : n'.acceptors.get? a = some acceptor')
    (hb : b ∈ acceptor.peers) (hgone : b ∉ acceptor'.peers) :
    (∃ id, closers = [id] ∧ m = .step id ∧ n.actionOf? id = some (.clear a)) ∨
      ∃ loop ∈ created, loop.b = b ∧ n.tasks.get? loop.id = none ∧ Offline n loop := by
  obtain ⟨acceptor'', hget, hosted⟩ := host_move hmove found
  obtain rfl := Option.some.inj (found'.symm.trans hget)
  generalize attached? a (n, m) = newcomer at hosted
  generalize closes? a (n, m) = closer at hosted
  cases hosted with
  | same | closes => exact absurd hb hgone
  | attaches => exact absurd (List.mem_append_left _ hb) hgone
  | @forgets id b' acts =>
      have hsame : b = b' := by
        by_contra hne
        exact hgone ((List.mem_erase_of_ne hne).mpr hb)
      subst hsame
      obtain ⟨loop, hloop, hb, hawait | hover, hretires⟩ := h.released acts
      · cases hawait
      · have hoffline := hroster.offline hretires (h.equipped loop hloop).transport
        exact .inr ⟨loop, hloop, hb, hover, hoffline⟩
  | @clears id acts =>
      have hcloser : id ∈ closers := h.closer_of_action acts (.inr rfl)
      have hone : closers.length = 1 := Nat.le_antisymm h.single (List.length_pos_of_mem hcloser)
      obtain ⟨id', rfl⟩ := List.length_eq_one_iff.mp hone
      obtain rfl := List.mem_singleton.mp hcloser
      exact .inl ⟨id, rfl, rfl, acts⟩

/-- When the task that has closed the acceptor has returned, no peers are left. -/
theorem Tended.vacant {first limit : Nat} {created : List Loop} {closers : List TaskId}
    (h : Tended a first limit created closers n acceptor) (hid : id ∈ closers)
    (hreturned : Returned n a id) : acceptor.closed = true ∧ acceptor.peers = [] := by
  obtain ⟨hdismiss, hclear⟩ := hreturned
  refine ⟨h.closed.mpr (List.ne_nil_of_mem hid), ?_⟩
  rcases h.due id hid with hvacant | hplanned | hplanned
  · exact hvacant
  · exact absurd hplanned hdismiss
  · exact absurd hplanned hclear

/-- **Peers are admitted up to the limit and leave when they are over.** An acceptor starts
without peers, and nobody meddles with them.  Whatever else happens, in any order:

It never has more peers than places.  Who comes when there is room is admitted, and who comes
when all places are taken is turned away.  Every peer has a bridge, a transport and a loop of
its own among those that the acceptor has begun.  An entry disappears only when the loop of
the peer is over and the peer is offline, or when the task that has closed the acceptor clears
them all.  One task at most closes it, and once that task has returned, nobody is attached any
more in whatever follows, there are no peers, and all that have ever been attached are
offline. -/
theorem peers_kept (hroster : Roster cs n₀) (hstart : Unpeopled n₀ a acceptor)
    (hrun : n₀.run ms = some n) (hdiscreet : ∀ m ∈ ms, Discreet a n₀.fresh m) :
    let created := (history n₀ ms).filterMap (attached? a)
    let closers := (history n₀ ms).filterMap (closes? a)
    ∃ now, n.acceptors.get? a = some now ∧
      now.peers.length ≤ acceptor.maxPeers ∧
      (∀ id n', n.actionOf? id = some (.accept a) → now.closed = false → n.step id = some n' →
        (now.peers.length < acceptor.maxPeers →
          ∃ loop, attached? a (n, .step id) = some loop ∧ Admits n' a now loop) ∧
        (acceptor.maxPeers ≤ now.peers.length → TurnsAway n n' a now)) ∧
      (now.peers.Nodup ∧ created.Pairwise Loop.Apart ∧
        ∀ b ∈ now.peers, ∃ loop ∈ created, loop.b = b ∧ Equipped n₀.fresh n loop) ∧
      (∀ m n' then', n.move m = some n' → n'.acceptors.get? a = some then' →
        ∀ b ∈ now.peers, b ∉ then'.peers →
          (∃ id, closers = [id] ∧ m = .step id ∧ n.actionOf? id = some (.clear a)) ∨
          ∃ loop ∈ created, loop.b = b ∧ n.tasks.get? loop.id = none ∧ Offline n loop) ∧
      closers.length ≤ 1 ∧
      ∀ id ∈ closers, Returned n a id → ∀ ms' n', (∀ m ∈ ms', Discreet a n₀.fresh m) →
        n.run ms' = some n' →
        (history n ms').filterMap (attached? a) = [] ∧
        (∃ then', n'.acceptors.get? a = some then' ∧ then'.peers = []) ∧
        ∀ loop ∈ created, Offline n' loop := by
  intro created closers
  obtain ⟨now, hnow, htended⟩ := hstart.run hroster.named.numbered hrun hdiscreet
  have hroster' := hroster.run hrun
  refine ⟨now, hnow, htended.room, ?_, ⟨htended.distinct, htended.apart, ?_⟩, ?_, htended.single,
    ?_⟩
  · intro id n' acts opened hstep
    rw [← htended.places]
    refine ⟨fun room => ?_, fun full => turnsAway_of_full hnow acts opened full hstep⟩
    have hattached := attached?_of_room hnow acts opened room hstep
    exact ⟨_, hattached, admits_of_attached htended.numbered hnow hstep hattached⟩
  · intro b hb
    obtain ⟨loop, hloop, rfl⟩ := htended.known b hb
    exact ⟨loop, hloop, rfl, htended.equipped loop hloop⟩
  · intro m n' then' hmove hthen b hb hgone
    exact htended.removed hroster' hnow hmove hthen hb hgone
  · intro id hid hreturned ms' n' hdiscreet' hrun'
    obtain ⟨hclosed, hvacant⟩ := htended.vacant hid hreturned
    obtain ⟨hnobody, then', hthen, -, hvacant'⟩ := vacated_run hnow hclosed hvacant hrun'
    -- The whole run is tended too, and there is no peer left whose bridge could still be there.
    have hrun'' : n₀.run (ms ++ ms') = some n' := by rw [run_append, hrun]; exact hrun'
    obtain ⟨then'', hthen', htended'⟩ := hstart.run hroster.named.numbered hrun''
      (List.forall_mem_append.mpr ⟨hdiscreet, hdiscreet'⟩)
    obtain rfl := Option.some.inj (hthen.symm.trans hthen')
    refine ⟨hnobody, ⟨then', hthen, hvacant'⟩, fun loop hloop => ?_⟩
    have hloop' : loop ∈ (history n₀ (ms ++ ms')).filterMap (attached? a) := by
      rw [history_append hrun, List.filterMap_append]
      exact List.mem_append_left _ hloop
    have hretires := (htended'.retired loop hloop').resolve_left (by simp [hvacant'])
    exact (hroster.run hrun'').offline hretires (htended'.equipped loop hloop').transport

/-- An acceptor with one place. -/
def berth : Acceptor :=
  { maxPeers := 1, capacity := 1, table := ⟨[⟨"sensors", 4, Kind.enableSensors.family, true⟩]⟩ }

/-- A node that has nothing else. -/
def jetty : Node where
  acceptors := Assoc.empty.set 0 berth

/-- Two peers come, and there is room for one of them; then the acceptor is closed. -/
def visits : List Move :=
  [.outside (.startAcceptor 0), .outside (.dialIn 0 "first"), .outside (.dialIn 0 "second"),
    .step 0, .step 0, .outside (.begin (.close 0) none), .step 6, .step 0, .step 0] ++
  List.replicate 9 (.step 6) ++ [.step 2] ++ List.replicate 7 (.step 6)

/-- Peers come, and the acceptor is started and closed. -/
def isVisit : Move → Bool
  | .step _ | .outside (.startAcceptor _) | .outside (.dialIn ..)
  | .outside (.begin (.close 0) none) => true
  | .outside _ => false

theorem discreet_of_isVisit (h : isVisit m = true) : Discreet 0 0 m := by
  refine ⟨?_, ?_⟩
  · rintro x label rfl y hy -
    unfold isVisit at h
    split at h <;> rename_i heq <;> cases heq
    · exact List.mem_singleton.mp hy
    · cases h
  · rintro b label rfl
    cases h

/-- The first peer is disconnected when the acceptor is closed, the second has never been one. -/
theorem peers_kept_one_place :
    ∃ n, jetty.run visits = some n ∧ (history jetty visits).filterMap (closes? 0) = [6] ∧
      ((history jetty visits).filterMap (attached? 0)).map (·.b) = [3] ∧
      (∃ then', n.acceptors.get? 0 = some then' ∧ then'.peers = []) ∧
      ∀ loop ∈ (history jetty visits).filterMap (attached? 0), Offline n loop := by
  have hn : Numbered jetty := ⟨fun _ _ => rfl, fun _ _ => rfl, fun _ _ => rfl, List.nodup_nil⟩
  have hroster : Roster [] jetty :=
    roster_of_idle ⟨hn, fun _ _ h => (nomatch h), fun _ _ h => (nomatch h)⟩ rfl
      fun _ _ h => (nomatch h)
  have hstart : Unpeopled jetty 0 berth := ⟨rfl, rfl, rfl, fun _ _ h => (nomatch h)⟩
  have hends : (jetty.run visits).map (fun n => (n.tasks.get? 6).isNone) = some true := by
    decide +kernel
  obtain ⟨n, hrun, hover⟩ := Option.map_eq_some_iff.mp hends
  have hgone : n.tasks.get? 6 = none := Option.isNone_iff_eq_none.mp hover
  have hvisits : visits.all isVisit = true := by decide +kernel
  have hdiscreet : ∀ m ∈ visits, Discreet 0 jetty.fresh m :=
    fun m hm => discreet_of_isVisit (List.all_eq_true.mp hvisits m hm)
  have hclosers : (history jetty visits).filterMap (closes? 0) = [6] := by decide +kernel
  have hcreated : ((history jetty visits).filterMap (attached? 0)).map (·.b) = [3] := by
    decide +kernel
  obtain ⟨now, -, -, -, -, -, -, hclosed⟩ := peers_kept hroster hstart hrun hdiscreet
  rw [hclosers] at hclosed
  have hreturned : Returned n 0 6 := by simp [Returned, planOf_of_gone hgone]
  obtain ⟨-, hvacant, hoffline⟩ :=
    hclosed 6 (.head _) hreturned [] n (fun m hm => absurd hm List.not_mem_nil) rfl
  exact ⟨n, hrun, hclosers, hcreated, hvacant, hoffline⟩

end Node

end TelemetryRelay
