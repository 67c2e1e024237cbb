import TelemetryRelay.Node.Assembly
import TelemetryRelay.Proofs.Node.Peers
import TelemetryRelay.Proofs.Node.Sharing
import TelemetryRelay.Service.Basic

/-!
# What is set up between the moves

Sockets, acceptors, transports and bridges are set up between the moves of a node.  What is new
is called by new numbers, and what was there stays as it was; so nothing that has been true of a
bridge, of an acceptor or of the bus is lost by it.
-/

namespace TelemetryRelay

namespace Node

/-- There is more on the node, and all that was there is as before.  Tasks that are new have
nothing to do with acceptors. -/
structure Grows (n n' : Node) : Prop where
  spares : Spares none n n'
  transports : ∀ t < n.fresh, n'.transports.get? t = n.transports.get? t
  bridges : ∀ b < n.fresh, n'.bridges.get? b = n.bridges.get? b
  acceptors : ∀ a < n.fresh, n'.acceptors.get? a = n.acceptors.get? a
  undrawn : ∀ a, n'.fresh ≤ a → n'.acceptors.get? a = n.acceptors.get? a
  tasks : ∀ id task, n'.tasks.get? id = some task →
    n.tasks.get? id = some task ∨ Quiet task.plan

/-- Besides nothing has been asked of the bus: bridges that are new do not run. -/
structure Furnishes (n n' : Node) : Prop extends Grows n n' where
  bus : n'.bus = n.bus
  idle : ∀ b bridge, n'.bridges.get? b = some bridge → n.bridges.get? b = some bridge ∨
    n.fresh ≤ b ∧ bridge.id = ⟨b⟩ ∧ bridge.running = false

/-- Acceptors are called by numbers drawn before, and nobody has anything to do about others. -/
structure Grounded (n : Node) : Prop where
  acceptors : ∀ a, n.fresh ≤ a → n.acceptors.get? a = none
  plans : ∀ id, ∀ y ∈ n.planOf id, ∀ a, y.acceptor? = some a → a < n.fresh

variable {n n' n'' : Node} {id : TaskId} {a : AcceptorId} {b : BridgeId} {y : Action} {m : Move}
  {acceptor : Acceptor} {loop : Loop} {first limit : Nat} {t : TransportId} {pre : List Action}
  {created : List Loop} {closers : List TaskId} {cs : List (Bus.Change Listener)}
  {c : Bus.Change Listener}

/-! ## What is set up -/

theorem Grows.trans (h : Grows n n') (h' : Grows n' n'') : Grows n n'' := by
  have hfresh := h.spares.fresh
  refine ⟨h.spares.trans h'.spares, ?_, ?_, ?_, ?_, ?_⟩
  · intro t ht
    rw [h'.transports t (Nat.lt_of_lt_of_le ht hfresh), h.transports t ht]
  · intro b hb
    rw [h'.bridges b (Nat.lt_of_lt_of_le hb hfresh), h.bridges b hb]
  · intro a ha
    rw [h'.acceptors a (Nat.lt_of_lt_of_le ha hfresh), h.acceptors a ha]
  · intro a ha
    rw [h'.undrawn a ha, h.undrawn a (Nat.le_trans h'.spares.fresh ha)]
  · intro id task found
    rcases h'.tasks id task found with found | hquiet
    · exact h.tasks id task found
    · exact .inr hquiet

theorem Furnishes.trans (h : Furnishes n n') (h' : Furnishes n' n'') : Furnishes n n'' := by
  refine ⟨h.toGrows.trans h'.toGrows, h'.bus.trans h.bus, ?_⟩
  intro b bridge found
  rcases h'.idle b bridge found with found | ⟨hnew, hidle⟩
  · exact h.idle b bridge found
  · exact .inr ⟨Nat.le_trans h.spares.fresh hnew, hidle⟩

/-- Nothing is set up on the node itself. -/
theorem Outdoors.furnishes (h : Outdoors n n') : Furnishes n n' := by
  obtain ⟨connections, hosts, fresh, hfresh, rfl⟩ := h
  exact ⟨⟨spares_of_front hfresh rfl rfl, fun _ _ => rfl, fun _ _ => rfl, fun _ _ => rfl,
    fun _ _ => rfl, fun _ _ found => .inl found⟩, rfl, fun _ _ found => .inl found⟩

theorem Furnishes.refl (n : Node) : Furnishes n n :=
  Outdoors.furnishes ⟨_, _, _, Nat.le_refl _, rfl⟩

theorem furnishes_draw (n : Node) : Furnishes n n.draw.2 :=
  Outdoors.furnishes ⟨_, _, _, Nat.le_succ _, rfl⟩

theorem furnishes_connect (n : Node) (e : Endpoint) : Furnishes n (n.connect e).2 :=
  (connect_dials n e).outdoors.furnishes

theorem furnishes_bound (n : Node) (bound : List Socket) : Furnishes n { n with bound } :=
  ⟨⟨spares_of_front (Nat.le_refl _) rfl rfl, fun _ _ => rfl, fun _ _ => rfl, fun _ _ => rfl,
    fun _ _ => rfl, fun _ _ found => .inl found⟩, rfl, fun _ _ found => .inl found⟩

theorem furnishes_acceptor (n : Node) (acceptor : Acceptor) :
    Furnishes n (n.draw.2.setAcceptor n.fresh acceptor) := by
  have hspares : Spares none n (n.draw.2.setAcceptor n.fresh acceptor) :=
    ⟨Nat.le_succ _, fun h => h.congr (Nat.le_succ _) rfl rfl rfl, fun _ _ _ => rfl, fun _ => rfl⟩
  refine ⟨⟨hspares, fun _ _ => rfl, fun _ _ => rfl, ?_, ?_, fun _ _ found => .inl found⟩, rfl,
    fun _ _ found => .inl found⟩
  · exact fun a ha => Assoc.get?_set_of_ne (Nat.ne_of_lt ha)
  · exact fun a ha => Assoc.get?_set_of_ne (Nat.ne_of_gt ha)

theorem furnishes_addBridge (n : Node) (table : MappingTable) (t : TransportId) :
    Furnishes n (n.addBridge table t).2 := by
  have hnew : ∀ b, (n.addBridge table t).2.bridges.get? b =
      if b = n.fresh then some { id := ⟨n.fresh⟩, table, transport := t } else n.bridges.get? b :=
    fun b => Assoc.get?_set ..
  refine ⟨⟨spares_addBridge n table t, fun _ _ => rfl, ?_, fun _ _ => rfl, fun _ _ => rfl,
    fun _ _ found => .inl found⟩, rfl, ?_⟩
  · intro b hb
    rw [hnew, if_neg (Nat.ne_of_lt hb)]
  · intro b bridge found
    rw [hnew] at found
    split at found
    · rename_i hb
      obtain rfl := Option.some.inj found
      exact .inr ⟨Nat.le_of_eq hb.symm, by rw [hb], rfl⟩
    · exact .inl found

/-- A new transport, with the task that sends for it if it has an outbox. -/
theorem furnishes_addTransport (n : Node) (carrier : Carrier) (outbox : Option Outbox) :
    Furnishes n (n.addTransport carrier outbox).2 := by
  have hget : ∀ x < n.fresh, (n.transports.set n.fresh { carrier, outbox }).get? x =
      n.transports.get? x := fun x hx => Assoc.get?_set_of_ne (Nat.ne_of_lt hx)
  have hspares : Spares none n (n.addTransport carrier outbox).2 := spares_addTransport ..
  cases outbox with
  | none =>
      exact ⟨⟨hspares, hget, fun _ _ => rfl, fun _ _ => rfl, fun _ _ => rfl,
        fun _ _ found => .inl found⟩, rfl, fun _ _ found => .inl found⟩
  | some o =>
      refine ⟨⟨hspares, hget, fun _ _ => rfl, fun _ _ => rfl, fun _ _ => rfl, ?_⟩, rfl,
        fun _ _ found => .inl found⟩
      intro id task found
      rcases task_of_addTransport found with found | ⟨-, rfl⟩
      · exact .inl found
      · exact .inr (quiet_singleton rfl)

/-- A bridge that is new may start at once. -/
theorem Grows.startBridge (h : Grows n n') (hnew : n.fresh ≤ b) (label : Option String) :
    Grows n (n'.startBridge b label).2 := by
  have hspares : Spares none n' (n'.startBridge b label).2 := spares_startBridge n' b label
  have hstarts := occurs_of_startBridge n' b label
  generalize (n'.startBridge b label).2 = n'' at hspares hstarts
  have htasks {n₁ : Node} {x : Action} (hsame : n₁.tasks = n'.tasks) (hquiet : Quiet x.plan)
      (id : TaskId) (task : Task) (found : (n₁.spawn x label).2.tasks.get? id = some task) :
      n.tasks.get? id = some task ∨ Quiet task.plan := by
    rcases task_of_spawn found with found | ⟨-, rfl⟩
    · exact h.tasks id task (hsame ▸ found)
    · exact .inr (by simpa [Task.plan, Activity.plan] using hquiet)
  have hundrawn (x : AcceptorId) (hx : n''.fresh ≤ x) := h.undrawn x (Nat.le_trans hspares.fresh hx)
  cases hstarts with
  | misses misses => cases misses
  | touches remote => cases remote
  | startsNothing =>
      exact ⟨h.spares.trans hspares, h.transports, h.bridges, h.acceptors, hundrawn,
        htasks rfl (quiet_singleton rfl)⟩
  | starts =>
      refine ⟨h.spares.trans hspares, h.transports, fun x hx => ?_, h.acceptors, hundrawn,
        htasks rfl (quiet_singleton rfl)⟩
      have hne : x ≠ b := Nat.ne_of_lt (Nat.lt_of_lt_of_le hx hnew)
      rw [← h.bridges x hx]
      exact (Assoc.get?_modify ..).trans (if_neg hne)

/-! ## What is kept -/

/-- Whoever has something to do about an acceptor has the plan it had. -/
theorem Grows.planned (h : Grows n n') (hy : y ∈ n'.planOf id) (about : y.acceptor? = some a) :
    n'.planOf id = n.planOf id := by
  obtain ⟨task, found, hy⟩ := mem_planOf.mp hy
  rcases h.tasks id task found with hbefore | hquiet
  · rw [planOf_of_found found, planOf_of_found hbefore]
  · cases (hquiet y hy).symm.trans about

theorem Grows.stays (h : Grows n n') (hn : Numbered n) (hy : y ∈ n.planOf id) :
    y ∈ n'.planOf id := by
  obtain ⟨task, found, hy⟩ := mem_planOf.mp hy
  have hfound : n'.tasks.get? id = some task := by
    rw [h.spares.tasks id (hn.lt_of_task found) nofun, found]
  exact mem_planOf.mpr ⟨task, hfound, hy⟩

theorem Grows.bridge (h : Grows n n') (hn : Numbered n) {bridge : Bridge}
    (found : n.bridges.get? b = some bridge) : n'.bridges.get? b = some bridge := by
  rw [h.bridges b (hn.lt_of_bridge found), found]

theorem Grows.transport (h : Grows n n') (hn : Numbered n) {tr : Transport}
    (found : n.transports.get? t = some tr) : n'.transports.get? t = some tr := by
  rw [h.transports t (hn.lt_of_face (face_of_get? found)), found]

theorem Grows.gone (h : Grows n n') (hid : id < n.fresh) (gone : n.tasks.get? id = none) :
    n'.tasks.get? id = none := by
  rw [h.spares.tasks id hid nofun, gone]

theorem Grounded.drawn (h : Grounded n) (found : n.acceptors.get? a = some acceptor) :
    a < n.fresh := by
  by_contra hundrawn
  cases (h.acceptors a (Nat.le_of_not_lt hundrawn)).symm.trans found

theorem Grounded.grows (h : Grounded n) (hgrows : Grows n n') : Grounded n' := by
  refine ⟨?_, ?_⟩
  · intro a ha
    rw [hgrows.undrawn a ha, h.acceptors a (Nat.le_trans hgrows.spares.fresh ha)]
  · intro id y hy a about
    have hbefore := hgrows.planned hy about ▸ hy
    exact Nat.lt_of_lt_of_le (h.plans id y hbefore a about) hgrows.spares.fresh

/-! ### Peers -/

theorem Silent.grows (h : Silent n loop) (hn : Numbered n) (hgrows : Grows n n') :
    Silent n' loop := hgrows.bridge hn h

theorem Shut.grows (h : Shut n t) (hn : Numbered n) (hgrows : Grows n n') : Shut n' t := by
  obtain ⟨f, hface, hshut⟩ := h
  obtain ⟨tr, hget, hsame⟩ := Option.map_eq_some_iff.mp hface
  exact ⟨f, by rw [face_of_get? (hgrows.transport hn hget), hsame], hshut⟩

theorem Equipped.grows (h : Equipped first n loop) (hn : Numbered n) (hgrows : Grows n n') :
    Equipped first n' loop := by
  obtain ⟨running, hbridge⟩ := h.bridge
  obtain ⟨tr, o, hget, ho⟩ := h.transport
  exact ⟨h.later, Nat.lt_of_lt_of_le h.known hgrows.spares.fresh,
    ⟨running, hgrows.bridge hn hbridge⟩, ⟨tr, o, hgrows.transport hn hget, ho⟩⟩

theorem Retires.grows (h : Retires n loop pre) (hn : Numbered n) (hgrows : Grows n n') :
    Retires n' loop pre := by
  refine h.imp_right ?_
  rintro ⟨hsilent, hterminate⟩
  exact ⟨hsilent.grows hn hgrows, hterminate.imp_right fun hshut => hshut.grows hn hgrows⟩

theorem Releases.grows (h : Releases created n b pre) (hn : Numbered n)
    (hequipped : ∀ loop ∈ created, Equipped first n loop) (hgrows : Grows n n') :
    Releases created n' b pre := by
  obtain ⟨loop, hloop, hb, hover, hretires⟩ := h
  exact ⟨loop, hloop, hb, hover.imp_right (hgrows.gone (hequipped loop hloop).known),
    hretires.grows hn hgrows⟩

/-- What comes before an action about an acceptor comes before it still. -/
theorem Before.grows {P Q : List Action → Prop} (h : Before y P (n.planOf id))
    (about : y.acceptor? = some a) (hgrows : Grows n n') (hPQ : ∀ pre, P pre → Q pre) :
    Before y Q (n'.planOf id) := by
  by_cases hy : y ∈ n'.planOf id
  · rw [hgrows.planned hy about]
    exact h.imp hPQ
  · exact before_of_not_mem hy

theorem Tended.grows (h : Tended a first limit created closers n acceptor)
    (hgrows : Grows n n') : Tended a first limit created closers n' acceptor where
  numbered := hgrows.spares.numbered h.numbered
  since := Nat.le_trans h.since hgrows.spares.fresh
  places := h.places
  room := h.room
  distinct := h.distinct
  known := h.known
  equipped := fun loop hloop => (h.equipped loop hloop).grows h.numbered hgrows
  apart := h.apart
  retired := fun loop hloop =>
    (h.retired loop hloop).imp_right fun hretires => hretires.grows h.numbered hgrows
  forgets := fun id b => (h.forgets id b).grows rfl hgrows fun _ hpre =>
    hpre.grows h.numbered h.equipped hgrows
  clears := fun id => (h.clears id).grows rfl hgrows fun _ hpre loop hloop =>
    (hpre loop hloop).grows h.numbered hgrows
  closing := by
    intro id hend
    refine h.closing id (hend.imp ?_ ?_) <;>
    · intro hy
      rwa [hgrows.planned hy rfl] at hy
  bare := by
    intro id task found y hy about
    rcases hgrows.tasks id task found with hbefore | hquiet
    · exact h.bare id task hbefore y hy about
    · cases (hquiet y hy).symm.trans about
  closed := h.closed
  single := h.single
  due := fun id hid => (h.due id hid).imp_right fun hend =>
    hend.imp (hgrows.stays h.numbered) (hgrows.stays h.numbered)

/-! ### The bus -/

theorem Furnishes.named (h : Furnishes n n') (hnamed : Named n) : Named n' := by
  refine ⟨h.spares.numbered hnamed.numbered, ?_, ?_⟩
  · intro b bridge found
    rcases h.idle b bridge found with found | ⟨-, hid, -⟩
    · exact hnamed.bridges b bridge found
    · exact hid
  · intro name actor' found
    obtain ⟨actor, hactor, hid, -⟩ := h.spares.actor found
    obtain ⟨hlt, hnone⟩ := hnamed.actors name actor hactor
    rw [← hid, h.bridges _ hlt]
    exact ⟨Nat.lt_of_lt_of_le hlt h.spares.fresh, hnone⟩

theorem Furnishes.signed (h : Furnishes n n') (hn : Numbered n) (hc : Signed n c) :
    Signed n' c := by
  cases hc with
  | bridge found interest => exact .bridge (h.bridge hn found) interest
  | other off known apart =>
      exact .other off (Nat.lt_of_lt_of_le known h.spares.fresh) (by rw [h.bridges _ known, apart])
  | leaves => exact .leaves

theorem Roster.furnishes (h : Roster cs n) (hfurnishes : Furnishes n n') : Roster cs n' := by
  refine ⟨hfurnishes.named h.named, by rw [hfurnishes.bus, h.bus], ?_, ?_⟩
  · exact fun c hc => hfurnishes.signed h.named.numbered (h.signed c hc)
  · intro b bridge found type
    rcases hfurnishes.idle b bridge found with hbefore | ⟨hnew, -, hidle⟩
    · exact h.asked b bridge hbefore type
    · -- Nobody has asked for anything under the number of a bridge that is new.
      have hnever : ¬ Bus.Asked cs ⟨b⟩ type := fun hasked =>
        absurd (h.known hasked) (Nat.not_lt_of_le hnew)
      simp [hnever, hidle]

/-! ## Moves -/

theorem acceptor_stays_away (hmove : n.move m = some n') (hnone : n.acceptors.get? a = none) :
    n'.acceptors.get? a = none := by
  have htables : n'.front.tables a = n.front.tables a := by rw [tables_move hmove]
  simpa [front, hnone] using htables

/-- It stays so, as long as nobody outside begins anything about such acceptors. -/
theorem Grounded.move (h : Grounded n) (hn : Numbered n) (hmove : n.move m = some n')
    (hbegins : ∀ x label, m = .outside (.begin x label) →
      ∀ y ∈ x.plan, ∀ a, y.acceptor? = some a → a < n.fresh) : Grounded n' := by
  have hfresh := (spares_move hn hmove).fresh
  refine ⟨fun a ha => acceptor_stays_away hmove (h.acceptors a (Nat.le_trans hfresh ha)), ?_⟩
  intro id y hy a about
  refine Nat.lt_of_lt_of_le ?_ hfresh
  -- What a task has to do about an acceptor it had to do before, or has begun with.
  obtain ⟨task, found, hy⟩ := mem_planOf.mp hy
  cases hbefore : n.tasks.get? id with
  | some before =>
      have hplans : ∀ y ∈ before.plan, y.acceptor? = some a → a < n.fresh := fun y hy about =>
        h.plans id y (mem_planOf.mpr ⟨before, hbefore, hy⟩) a about
      rcases mem_plan_of_descends (descends_of_move hn hmove found) hy about with
        ⟨before', hfound, -, hplanned⟩ | ⟨hnew, -⟩
      · obtain rfl := Option.some.inj (hbefore.symm.trans hfound)
        rcases hplanned with hplanned | ⟨x, hx, hxabout, -⟩
        · exact hplans y hplanned about
        · exact hplans x hx hxabout
      · exact absurd (hn.lt_of_task hbefore) (Nat.not_lt_of_le hnew)
  | none =>
      cases newborn_of_move hmove hbefore found with
      | listens | leaves | sends => cases (quiet_singleton rfl y hy).symm.trans about
      | @accepts _ a' acceptor hfound =>
          obtain rfl : y = .accept a' := List.mem_singleton.mp hy
          obtain rfl := Option.some.inj about
          exact h.drawn hfound
      | @watches own a' loop attached =>
          obtain ⟨own', acceptor, -, -, hfound, -⟩ := attached_by attached
          have hy : y ∈ watch a' loop := hy
          simp only [watch, List.mem_cons, List.not_mem_nil, or_false] at hy
          rcases hy with rfl | rfl | rfl
          · cases about
          · cases about
          · obtain rfl := Option.some.inj about
            exact h.drawn hfound
      | @begins x label =>
          have hy : y ∈ x.plan := by simpa [Task.plan, Activity.plan] using hy
          exact hbegins x label rfl y hy a about

/-- About an acceptor that is new nobody has anything to do. -/
theorem Grounded.unplanned (h : Grounded n) (hgrows : Grows n n') (hnew : n.fresh ≤ a)
    (hy : y ∈ n'.planOf id) : y.acceptor? ≠ some a := by
  intro about
  have hbefore := hgrows.planned hy about ▸ hy
  exact absurd (h.plans id y hbefore a about) (Nat.not_lt_of_le hnew)

end Node

end TelemetryRelay
