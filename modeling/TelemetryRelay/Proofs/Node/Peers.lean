import TelemetryRelay.Proofs.Node.Lineage
import TelemetryRelay.Proofs.Node.Roster

/-!
# The peers of an acceptor

Each peer of an acceptor has a bridge, a transport and a loop of its own.  It is forgotten
when its loop is over, or when the acceptor has been closed and its peers are dismissed.
The invariant ties the list of peers to all loops that the acceptor has ever begun, and to
what the tasks have still to do: whoever is going to have a peer forgotten waits for its
loop and stops its bridge before, and whoever is going to clear the list stops them all.
-/

namespace TelemetryRelay

/-- Two peers have nothing in common. -/
structure Loop.Apart (loop loop' : Loop) : Prop where
  b : loop.b ≠ loop'.b
  id : loop.id ≠ loop'.id
  transport : loop.bridge.transport ≠ loop'.bridge.transport

namespace Node

/-- Nobody meddles with the peers of an acceptor: from outside it is only closed, and the
bridges that are started from outside have lower numbers than those of its peers. -/
structure Discreet (a : AcceptorId) (first : Nat) (m : Move) : Prop where
  begins : ∀ x label, m = .outside (.begin x label) →
    ∀ y ∈ x.plan, y.acceptor? = some a → y = .close a
  starts : ∀ b label, m = .outside (.startBridge b label) → b < first

/-- From outside the acceptor is only closed, and none of these bridges is started. -/
structure Gentle (a : AcceptorId) (created : List Loop) (m : Move) : Prop where
  begins : ∀ x label, m = .outside (.begin x label) →
    ∀ y ∈ x.plan, y.acceptor? = some a → y = .close a
  starts : ∀ loop ∈ created, ∀ label, m ≠ .outside (.startBridge loop.b label)

/-- The bridge has stopped. -/
def Silent (n : Node) (loop : Loop) : Prop :=
  n.bridges.get? loop.b = some { loop.bridge with running := false }

/-- The transport is terminated. -/
def Shut (n : Node) (t : TransportId) : Prop := ∃ f, n.face t = some f ∧ f.shut = true

/-- With these actions the bridge stops and its transport is terminated, unless they are
already. -/
def Retires (n : Node) (loop : Loop) (plan : List Action) : Prop :=
  .stop loop.b ∈ plan ∨
    Silent n loop ∧ (.terminate loop.bridge.transport ∈ plan ∨ Shut n loop.bridge.transport)

/-- With these actions the loop of the peer ends and its bridge retires. -/
def Releases (created : List Loop) (n : Node) (b : BridgeId) (plan : List Action) : Prop :=
  ∃ loop ∈ created, loop.b = b ∧
    (.await loop.id ∈ plan ∨ n.tasks.get? loop.id = none) ∧ Retires n loop plan

/-- What a peer has been given is there. -/
structure Equipped (first : Nat) (n : Node) (loop : Loop) : Prop where
  later : first ≤ loop.b
  known : loop.id < n.fresh
  bridge : ∃ running, n.bridges.get? loop.b = some { loop.bridge with running }
  transport : n.Buffered loop.bridge.transport

/-- An acceptor, all loops it has begun, and the tasks that have closed it. -/
structure Tended (a : AcceptorId) (first limit : Nat) (created : List Loop) (closers : List TaskId)
    (n : Node) (acceptor : Acceptor) : Prop where
  numbered : Numbered n
  since : first ≤ n.fresh
  places : acceptor.maxPeers = limit
  room : acceptor.peers.length ≤ limit
  distinct : acceptor.peers.Nodup
  known : ∀ b ∈ acceptor.peers, ∃ loop ∈ created, loop.b = b
  equipped : ∀ loop ∈ created, Equipped first n loop
  apart : created.Pairwise Loop.Apart
  retired : ∀ loop ∈ created, loop.b ∈ acceptor.peers ∨ Retires n loop []
  forgets : ∀ id b, Before (.forget a b) (Releases created n b) (n.planOf id)
  clears : ∀ id, Before (.clear a) (fun pre => ∀ loop ∈ created, Retires n loop pre) (n.planOf id)
  closing : ∀ id, .dismiss a ∈ n.planOf id ∨ .clear a ∈ n.planOf id → id ∈ closers
  bare : ∀ id task, n.tasks.get? id = some task → ∀ y ∈ task.plan, y.acceptor? = some a →
    task.outbox = none
  closed : acceptor.closed = true ↔ closers ≠ []
  single : closers.length ≤ 1
  due : ∀ id ∈ closers,
    acceptor.peers = [] ∨ .dismiss a ∈ n.planOf id ∨ .clear a ∈ n.planOf id

variable {n n' n₀ after : Node} {id : TaskId} {a : AcceptorId} {b : BridgeId} {x y : Action}
  {next : Transition} {m : Move} {ms : List Move} {acceptor acceptor' : Acceptor} {task : Task}
  {loop : Loop} {first limit : Nat} {t : TransportId} {pre pre' : List Action}
  {created before newcomers : List Loop} {closers : List TaskId} {cs : List (Bus.Change Listener)}

/-! ## What lasts -/

theorem gone_move (hn : Numbered n) (hmove : n.move m = some n') (hid : id < n.fresh)
    (gone : n.tasks.get? id = none) : n'.tasks.get? id = none := by
  by_cases hown : m = .step id
  · subst hown
    simp [move, Node.step, gone] at hmove
  · rw [task_of_move hn hmove hid hown, gone]

theorem Silent.move (h : Silent n loop) (hn : Numbered n) (hmove : n.move m = some n')
    (hstarts : ∀ label, m ≠ .outside (.startBridge loop.b label)) : Silent n' loop := by
  obtain ⟨bridge', hbridge', hbridged⟩ := bridge_move hn hmove h
  cases hbridged with
  | same | stopped => exact hbridge'
  | started => exact absurd rfl (hstarts _)

theorem Shut.move (h : Shut n t) (hn : Numbered n) (hmove : n.move m = some n') : Shut n' t := by
  obtain ⟨f, hface, hshut⟩ := h
  rcases face_move hn hmove (hn.lt_of_face hface) with hsame | ⟨g, f', hg, hf', hturns⟩
  · exact ⟨f, hsame.trans hface, hshut⟩
  · obtain rfl := Option.some.inj (hface.symm.trans hg)
    cases hturns with
    | link => exact ⟨_, hf', hshut⟩
    | shut => exact ⟨_, hf', rfl⟩

theorem Equipped.move (h : Equipped first n loop) (hn : Numbered n)
    (hmove : n.move m = some n') : Equipped first n' loop :=
  ⟨h.later, Nat.lt_of_lt_of_le h.known (spares_move hn hmove).fresh,
    bridge_stays hn hmove h.bridge, buffered_move hmove h.transport⟩

theorem Retires.move (h : Retires n loop pre) (hn : Numbered n) (hmove : n.move m = some n')
    (hstarts : ∀ label, m ≠ .outside (.startBridge loop.b label))
    (hsub : ∀ z ∈ pre, z ∈ pre') : Retires n' loop pre' := by
  rcases h with hstop | ⟨hsilent, hterminate⟩
  · exact .inl (hsub _ hstop)
  · exact .inr ⟨hsilent.move hn hmove hstarts,
      hterminate.imp (hsub _) fun hshut => hshut.move hn hmove⟩

theorem Releases.move (h : Releases created n b pre)
    (hcreated : ∀ loop ∈ created, Equipped first n loop) (hn : Numbered n)
    (hmove : n.move m = some n') (hgentle : Gentle a created m)
    (hsub : ∀ z ∈ pre, z ∈ pre') : Releases (created ++ newcomers) n' b pre' := by
  obtain ⟨loop, hloop, hb, hover, hretires⟩ := h
  exact ⟨loop, List.mem_append_left _ hloop, hb,
    hover.imp (hsub _) (gone_move hn hmove (hcreated loop hloop).known),
    hretires.move hn hmove (hgentle.starts loop hloop) hsub⟩

/-! ## What is done -/

/-- Stopping a bridge silences it, and goes on to terminate its transport. -/
theorem stop_silences {bridge : Bridge} (found : n.bridges.get? b = some bridge)
    (acts : n.actionOf? id = some (.stop b)) (hact : n.act id (.stop b) = some (after, next))
    (hstep : n.step id = some n') : n'.bridges.get? b = some { bridge with running := false } ∧
      next.plan = [.terminate bridge.transport] := by
  obtain ⟨task, rfl⟩ := step_after acts hact hstep
  cases Acts.of_act hact with
  | stops found' =>
      cases found.symm.trans found'
      refine ⟨?_, rfl⟩
      simp [setTask, found, setBus, setRunning]
  | proceeds proceeds => cases proceeds

theorem stop_act (hbridge : ∃ running, n.bridges.get? loop.b = some { loop.bridge with running })
    (acts : n.actionOf? id = some (.stop loop.b))
    (hact : n.act id (.stop loop.b) = some (after, next)) (hstep : n.step id = some n') :
    Silent n' loop ∧ next.plan = [.terminate loop.bridge.transport] := by
  obtain ⟨running, hbridge⟩ := hbridge
  obtain ⟨hsilent, hplan⟩ := stop_silences hbridge acts hact hstep
  exact ⟨hsilent, hplan⟩

/-- Terminating a transport with an outbox shuts it. -/
theorem terminate_act (hbuffered : n.Buffered t) (hn : Numbered n)
    (acts : n.actionOf? id = some (.terminate t))
    (hact : n.act id (.terminate t) = some (after, next)) (hstep : n.step id = some n') :
    Shut n' t := by
  obtain ⟨tr, o, hget, ho⟩ := hbuffered
  by_cases hclosed : o.closed = true
  · -- Somebody else has terminated it before, and this step finds nothing to do.
    have hshut : Shut n t := ⟨tr.face, face_of_get? hget, by simp [Transport.face, ho, hclosed]⟩
    exact hshut.move (m := .step id) hn hstep
  · obtain ⟨task, rfl⟩ := step_after acts hact hstep
    cases Acts.of_act hact with
    | closes found has step =>
        cases hget.symm.trans found
        cases ho.symm.trans has
        cases step
        refine ⟨{ tr.face with shut := true }, ?_, rfl⟩
        show (n.setOutbox t { o with closed := true }).face t = _
        rw [face_setOutbox, if_pos rfl, face_of_get? hget]
        rfl
    | proceeds proceeds =>
        cases proceeds with
        | hangsUp found bare =>
            cases hget.symm.trans found
            cases ho.symm.trans bare
        | terminated found has closed =>
            cases hget.symm.trans found
            cases ho.symm.trans has
            exact absurd closed hclosed

theorem Retires.act (h : Retires n loop (x :: pre)) (hloop : Equipped first n loop)
    (hn : Numbered n) (acts : n.actionOf? id = some x) (hact : n.act id x = some (after, next))
    (hstep : n.step id = some n') : Retires n' loop (next.plan ++ pre) := by
  have hmove : n.move (.step id) = some n' := hstep
  rcases h with hstop | ⟨hsilent, hterminate⟩
  · rcases List.mem_cons.mp hstop with rfl | hstop
    · obtain ⟨hsilent, hplan⟩ := stop_act hloop.bridge acts hact hstep
      exact .inr ⟨hsilent, .inl (by simp [hplan])⟩
    · exact .inl (List.mem_append_right _ hstop)
  · refine .inr ⟨hsilent.move hn hmove nofun, ?_⟩
    rcases hterminate with hterminate | hshut
    · rcases List.mem_cons.mp hterminate with rfl | hterminate
      · exact .inr (terminate_act hloop.transport hn acts hact hstep)
      · exact .inl (List.mem_append_right _ hterminate)
    · exact .inr (hshut.move hn hmove)

theorem Releases.act (h : Releases created n b (x :: pre))
    (hcreated : ∀ loop ∈ created, Equipped first n loop) (hn : Numbered n)
    (acts : n.actionOf? id = some x) (hact : n.act id x = some (after, next))
    (hstep : n.step id = some n') :
    Releases (created ++ newcomers) n' b (next.plan ++ pre) := by
  obtain ⟨loop, hloop, hb, hover, hretires⟩ := h
  have hequipped := hcreated loop hloop
  have hmove : n.move (.step id) = some n' := hstep
  refine ⟨loop, List.mem_append_left _ hloop, hb, ?_, hretires.act hequipped hn acts hact hstep⟩
  rcases hover with hawait | hgone
  · rcases List.mem_cons.mp hawait with rfl | hawait
    · cases Acts.of_act hact with
      | proceeds proceeds =>
          cases proceeds with
          | awaits gone => exact .inr (gone_move hn hmove hequipped.known gone)
    · exact .inl (List.mem_append_right _ hawait)
  · exact .inr (gone_move hn hmove hequipped.known hgone)

/-! ## Newcomers -/

theorem attached_by (h : attached? a (n, m) = some loop) : ∃ id acceptor, m = .step id ∧
    n.actionOf? id = some (.accept a) ∧ n.acceptors.get? a = some acceptor ∧
    acceptor.closed = false ∧ acceptor.peers.length < acceptor.maxPeers ∧
    loop = n.newcomer acceptor := by
  cases m with
  | outside o => cases h
  | step id =>
      simp only [attached?] at h
      split at h
      · rename_i a' acceptor hacts hfound
        simp only [Option.ite_none_right_eq_some] at h
        obtain ⟨⟨rfl, hopened, -, hroom⟩, h⟩ := h
        exact ⟨id, acceptor, rfl, hacts, hfound, hopened, hroom, (Option.some.inj h).symm⟩
      · cases h

theorem closed_by (h : closes? a (n, m) = some id) : m = .step id ∧
    n.actionOf? id = some (.close a) ∧
    ∃ acceptor, n.acceptors.get? a = some acceptor ∧ acceptor.closed = false := by
  cases m with
  | outside o => cases h
  | step own =>
      simp only [closes?] at h
      split at h
      · rename_i a' acceptor hacts hfound
        simp only [Option.ite_none_right_eq_some, Option.some.injEq] at h
        obtain ⟨⟨rfl, hopened⟩, rfl⟩ := h
        exact ⟨rfl, hacts, acceptor, hfound, hopened⟩
      · cases h

/-- A step with which a peer is attached does nothing else. -/
theorem attached_step (hmove : n.move m = some n') (h : attached? a (n, m) = some loop) :
    ∃ id acceptor c rest task, m = .step id ∧ n.acceptors.get? a = some acceptor ∧
      acceptor.backlog = c :: rest ∧ ¬ acceptor.maxPeers ≤ acceptor.peers.length ∧
      loop = n.newcomer acceptor ∧ n.tasks.get? id ≠ none ∧
      n' = (n.attach a { acceptor with backlog := rest } c).setTask id task := by
  obtain ⟨id, acceptor, rfl, acts, found, opened, hroom, hloop⟩ := attached_by h
  obtain ⟨task, htask, -⟩ := Option.bind_eq_some_iff.mp acts
  obtain ⟨after, next, hact⟩ := act_of_step acts hmove
  obtain ⟨task', hafter⟩ := step_after acts hact hmove
  rcases accepts_of_accept found hact with hclosed | ⟨-, -, hfull⟩ | ⟨-, hbacklog, hfree⟩
  · cases opened.symm.trans hclosed
  · exact absurd hroom (Nat.not_lt_of_le hfull)
  · exact ⟨id, acceptor, _, _, task', rfl, found, hbacklog, hfree, hloop, by simp [htask], hafter⟩

theorem equipped_newcomer (hmove : n.move m = some n') (since : first ≤ n.fresh)
    (h : attached? a (n, m) = some loop) : Equipped first n' loop := by
  obtain ⟨id, acceptor, c, rest, task, -, -, -, hroom, rfl, -, rfl⟩ := attached_step hmove h
  obtain ⟨bridges, hbridges, heq⟩ := attach_eq n a { acceptor with backlog := rest } c hroom
  rw [heq]
  exact ⟨Nat.le_add_right_of_le since, Nat.add_lt_add_left (by decide) n.fresh,
    ⟨true, (hbridges (n.fresh + 2)).trans (if_pos rfl)⟩, ⟨_, _, Assoc.get?_set_self .., rfl⟩⟩

/-- What a newcomer is given is new. -/
theorem Equipped.apart (h : Equipped first n loop) (hn : Numbered n) (acceptor : Acceptor) :
    loop.Apart (n.newcomer acceptor) := by
  obtain ⟨running, hbridge⟩ := h.bridge
  obtain ⟨tr, o, hget, -⟩ := h.transport
  have hb : loop.b < n.fresh := hn.lt_of_bridge hbridge
  have ht : loop.bridge.transport < n.fresh := hn.lt_of_face (face_of_get? hget)
  exact ⟨Nat.ne_of_lt (Nat.lt_add_right 2 hb), Nat.ne_of_lt (Nat.lt_add_right 3 h.known),
    Nat.ne_of_lt ht⟩

/-! ## What others do -/

/-- Tasks that begin bring nothing of an acceptor's end. -/
theorem closing_of_spawns (hgentle : Gentle a created m) (spawns : Spawns n m task)
    (hy : y ∈ task.plan) : y ≠ .dismiss a ∧ y ≠ .clear a := by
  have hend : ∀ z, z = .dismiss a ∨ z = .clear a → z ∉ task.plan := by
    intro z hz hmem
    have habout : z.acceptor? = some a := by rcases hz with rfl | rfl <;> rfl
    rcases (spawns.about hmem habout).2 with rfl | ⟨loop, -, -, rfl⟩ | ⟨x, label, rfl, hbegun⟩
    · rcases hz with hz | hz <;> cases hz
    · rcases hz with hz | hz <;> cases hz
    · obtain rfl := hgentle.begins x label rfl z hbegun habout
      rcases hz with hz | hz <;> cases hz
  exact ⟨fun heq => hend y (.inl heq) hy, fun heq => hend y (.inr heq) hy⟩

/-- Who is going to have a peer forgotten waits for its loop and stops its bridge before. -/
theorem releases_of_spawns (hgentle : Gentle a before m) (spawns : Spawns n m task)
    (hmem : ∀ loop, attached? a (n, m) = some loop → loop ∈ created) :
    Before (.forget a b) (Releases created n' b) task.plan := by
  by_cases hy : Action.forget a b ∈ task.plan
  · rcases (spawns.about hy rfl).2 with hy | ⟨loop, hattached, hplan, hy⟩ | ⟨x, label, rfl, hbegun⟩
    · cases hy
    · cases hy
      rw [hplan]
      have hwatch : watch a loop = [.await loop.id, .stop loop.b] ++ [.forget a loop.b] := rfl
      rw [hwatch]
      refine before_append (before_of_not_mem (by simp)) (before_singleton ?_)
      exact ⟨loop, hmem loop hattached, rfl, .inl (by simp), .inl (by simp)⟩
    · cases hgentle.begins x label rfl _ hbegun rfl
  · exact before_of_not_mem hy

/-! ## One move -/

theorem Tended.unique {loop' : Loop} (h : Tended a first limit created closers n acceptor)
    (hloop : loop ∈ created) (hloop' : loop' ∈ created) (hb : loop.b = loop'.b) :
    loop = loop' := by
  have hnodup : (created.map (·.b)).Nodup := List.pairwise_map.mpr (h.apart.imp fun h => h.b)
  exact List.inj_on_of_nodup_map hnodup hloop hloop' hb

theorem Tended.lt_of_peer (h : Tended a first limit created closers n acceptor)
    (hb : b ∈ acceptor.peers) : b < n.fresh := by
  obtain ⟨loop, hloop, rfl⟩ := h.known b hb
  obtain ⟨running, hbridge⟩ := (h.equipped loop hloop).bridge
  exact h.numbered.lt_of_bridge hbridge

/-- Who is at an action of an acceptor's end is who has closed it. -/
theorem Tended.closer_of_action (h : Tended a first limit created closers n acceptor)
    (acts : n.actionOf? id = some x) (hx : x = .dismiss a ∨ x = .clear a) : id ∈ closers := by
  obtain ⟨rest, hplan⟩ := planOf_of_actionOf? acts
  refine h.closing id ?_
  rw [hplan]
  rcases hx with rfl | rfl
  · exact .inl (.head _)
  · exact .inr (.head _)

/-- Who forgets a peer does it when the loop of the peer is over and its bridge has retired. -/
theorem Tended.released (h : Tended a first limit created closers n acceptor)
    (acts : n.actionOf? id = some (.forget a b)) : Releases created n b [] := by
  obtain ⟨rest, hplan⟩ := planOf_of_actionOf? acts
  exact (h.forgets id b).head hplan

/-- Who forgets all peers does it when all bridges have retired. -/
theorem Tended.cleared (h : Tended a first limit created closers n acceptor)
    (acts : n.actionOf? id = some (.clear a)) (hloop : loop ∈ created) : Retires n loop [] := by
  obtain ⟨rest, hplan⟩ := planOf_of_actionOf? acts
  exact (h.clears id).head hplan loop hloop

theorem Tended.retires_move (h : Tended a first limit created closers n acceptor)
    (hmove : n.move m = some n') (hgentle : Gentle a created m) (hloop : loop ∈ created)
    (hretires : Retires n loop pre) : Retires n' loop pre :=
  hretires.move h.numbered hmove (hgentle.starts loop hloop) fun _ hz => hz

theorem Tended.equipped_move (h : Tended a first limit created closers n acceptor)
    (hmove : n.move m = some n') :
    ∀ loop ∈ created ++ (attached? a (n, m)).toList, Equipped first n' loop := by
  intro loop hloop
  rcases List.mem_append.mp hloop with hloop | hloop
  · exact (h.equipped loop hloop).move h.numbered hmove
  · exact equipped_newcomer hmove h.since (Option.mem_toList.mp hloop)

theorem Tended.apart_move (h : Tended a first limit created closers n acceptor) :
    (created ++ (attached? a (n, m)).toList).Pairwise Loop.Apart := by
  refine List.pairwise_append.mpr ⟨h.apart, ?_, ?_⟩
  · cases attached? a (n, m) <;> simp
  · intro loop hloop loop' hloop'
    obtain ⟨id, acceptor, -, -, -, -, -, rfl⟩ := attached_by (Option.mem_toList.mp hloop')
    exact (h.equipped loop hloop).apart h.numbered acceptor

/-- Whoever is discreet starts no bridge of a peer. -/
theorem Tended.gentle (h : Tended a first limit created closers n acceptor)
    (hdiscreet : Discreet a first m) : Gentle a created m := by
  refine ⟨hdiscreet.begins, fun loop hloop label hm => ?_⟩
  exact absurd (hdiscreet.starts loop.b label hm) (Nat.not_lt_of_le (h.equipped loop hloop).later)

/-! ### The list of peers -/

section Hosted

variable {newcomer : Option Loop} {closer : Option TaskId}

theorem Tended.places_move (h : Tended a first limit created closers n acceptor)
    (hosted : Hosted n a acceptor m acceptor' newcomer closer) :
    acceptor'.maxPeers = limit ∧ acceptor'.peers.length ≤ limit := by
  have hplaces := h.places
  have hroom := h.room
  cases hosted with
  | same | closes => exact ⟨hplaces, hroom⟩
  | attaches acts opened backlog room =>
      refine ⟨hplaces, ?_⟩
      rw [List.length_append, List.length_singleton, ← hplaces]
      exact Nat.lt_of_not_le room
  | forgets => exact ⟨hplaces, Nat.le_trans List.length_erase_le hroom⟩
  | clears => exact ⟨hplaces, Nat.zero_le _⟩

theorem Tended.distinct_move (h : Tended a first limit created closers n acceptor)
    (hosted : Hosted n a acceptor m acceptor' newcomer closer) : acceptor'.peers.Nodup := by
  have hdistinct := h.distinct
  cases hosted with
  | same | closes => exact hdistinct
  | attaches =>
      refine List.nodup_append.mpr ⟨hdistinct, List.nodup_singleton _, ?_⟩
      intro b hb b' hb'
      rw [List.mem_singleton.mp hb']
      exact Nat.ne_of_lt (Nat.lt_add_right 2 (h.lt_of_peer hb))
  | forgets => exact hdistinct.erase _
  | clears => exact List.nodup_nil

theorem Tended.known_move (h : Tended a first limit created closers n acceptor)
    (hosted : Hosted n a acceptor m acceptor' newcomer closer) :
    ∀ b ∈ acceptor'.peers, ∃ loop ∈ created ++ newcomer.toList, loop.b = b := by
  have hold : ∀ b ∈ acceptor.peers, ∃ loop ∈ created ++ newcomer.toList, loop.b = b := by
    intro b hb
    obtain ⟨loop, hloop, hb⟩ := h.known b hb
    exact ⟨loop, List.mem_append_left _ hloop, hb⟩
  cases hosted with
  | same | closes => exact hold
  | attaches =>
      intro b hb
      rcases List.mem_append.mp hb with hb | hb
      · exact hold b hb
      · exact ⟨n.newcomer acceptor, by simp, (List.mem_singleton.mp hb).symm⟩
  | forgets => exact fun b hb => hold b (List.mem_of_mem_erase hb)
  | clears => exact fun b hb => absurd hb List.not_mem_nil

theorem Tended.retired_move (h : Tended a first limit created closers n acceptor)
    (hmove : n.move m = some n') (hgentle : Gentle a created m)
    (hosted : Hosted n a acceptor m acceptor' newcomer closer) :
    ∀ loop ∈ created ++ newcomer.toList, loop.b ∈ acceptor'.peers ∨ Retires n' loop [] := by
  have hlasts : ∀ loop ∈ created, Retires n loop [] → Retires n' loop [] :=
    fun loop hloop => h.retires_move hmove hgentle hloop
  have hold : ∀ loop ∈ created, loop.b ∈ acceptor.peers ∨ Retires n' loop [] :=
    fun loop hloop => (h.retired loop hloop).imp_right (hlasts loop hloop)
  cases hosted with
  | same | closes => simpa using hold
  | attaches =>
      intro loop hloop
      rcases List.mem_append.mp hloop with hloop | hloop
      · exact (hold loop hloop).imp_left (List.mem_append_left _)
      · obtain rfl := Option.some.inj (Option.mem_toList.mp hloop)
        exact .inl (List.mem_append_right _ (.head _))
  | @forgets id b acts =>
      intro loop hloop
      rw [Option.toList_none, List.append_nil] at hloop
      by_cases hb : loop.b = b
      · -- No two loops have one bridge, so the loop that was waited for is this one.
        obtain ⟨loop', hloop', hb', -, hretires⟩ := h.released acts
        obtain rfl := h.unique hloop' hloop (hb'.trans hb.symm)
        exact .inr (hlasts _ hloop' hretires)
      · exact (hold loop hloop).imp_left fun hmem => (List.mem_erase_of_ne hb).mpr hmem
  | clears acts =>
      intro loop hloop
      rw [Option.toList_none, List.append_nil] at hloop
      exact .inr (hlasts loop hloop (h.cleared acts hloop))

theorem Tended.closed_move (h : Tended a first limit created closers n acceptor)
    (hosted : Hosted n a acceptor m acceptor' newcomer closer) :
    (acceptor'.closed = true ↔ closers ++ closer.toList ≠ []) ∧
      (closers ++ closer.toList).length ≤ 1 := by
  have hclosed := h.closed
  have hsingle := h.single
  cases hosted with
  | same | attaches | forgets | clears => simpa using ⟨hclosed, hsingle⟩
  | closes acts opened =>
      obtain rfl : closers = [] := by simpa [opened] using hclosed
      simp

end Hosted

/-! ### The plans -/

theorem Tended.closing_move (h : Tended a first limit created closers n acceptor)
    (hmove : n.move m = some n') (hgentle : Gentle a created m) (id : TaskId)
    (hend : .dismiss a ∈ n'.planOf id ∨ .clear a ∈ n'.planOf id) :
    id ∈ closers ++ (closes? a (n, m)).toList := by
  obtain ⟨y, hy, hmem⟩ : ∃ y, (y = .dismiss a ∨ y = .clear a) ∧ y ∈ n'.planOf id := by
    rcases hend with hend | hend
    · exact ⟨_, .inl rfl, hend⟩
    · exact ⟨_, .inr rfl, hend⟩
  have habout : y.acceptor? = some a := by rcases hy with rfl | rfl <;> rfl
  obtain ⟨task', found', hmem⟩ := mem_planOf.mp hmem
  rcases mem_plan_of_descends (descends_of_move h.numbered hmove found') hmem habout with
    ⟨before, found, -, hbefore⟩ | ⟨-, spawns⟩
  · have hold : y ∈ before.plan ∨ .dismiss a ∈ before.plan → id ∈ closers := by
      intro hplanned
      refine h.closing id ?_
      rw [planOf_of_found found]
      rcases hplanned with hplanned | hplanned
      · rcases hy with rfl | rfl
        · exact .inl hplanned
        · exact .inr hplanned
      · exact .inl hplanned
    rcases hbefore with hplanned | ⟨x, hx, -, ⟨-, hcloses⟩ | ⟨rfl, -⟩⟩
    · exact List.mem_append_left _ (hold (.inl hplanned))
    · exact List.mem_append_right _ (Option.mem_toList.mpr hcloses)
    · exact List.mem_append_left _ (hold (.inr hx))
  · obtain ⟨hdismiss, hclear⟩ := closing_of_spawns hgentle spawns hmem
    rcases hy with rfl | rfl
    · exact absurd rfl hdismiss
    · exact absurd rfl hclear

theorem Tended.bare_move (h : Tended a first limit created closers n acceptor)
    (hmove : n.move m = some n') (id : TaskId) (task : Task) (found : n'.tasks.get? id = some task)
    (y : Action) (hy : y ∈ task.plan) (about : y.acceptor? = some a) : task.outbox = none := by
  rcases mem_plan_of_descends (descends_of_move h.numbered hmove found) hy about with
    ⟨before, found', hsame, hbefore⟩ | ⟨-, spawns⟩
  · rw [← hsame]
    rcases hbefore with hplanned | ⟨x, hx, hxabout, -⟩
    · exact h.bare id before found' y hplanned about
    · exact h.bare id before found' x hx hxabout
  · exact (spawns.about hy about).1

theorem Tended.forgets_move (h : Tended a first limit created closers n acceptor)
    (hmove : n.move m = some n') (hgentle : Gentle a created m) (id : TaskId) (b : BridgeId) :
    Before (.forget a b) (Releases (created ++ (attached? a (n, m)).toList) n' b)
      (n'.planOf id) := by
  refine (h.forgets id b).move h.numbered hmove rfl (by simp) ?_ ?_ ?_ ?_
  · exact fun pre pre' hsub hpre => hpre.move h.equipped h.numbered hmove hgentle hsub
  · rintro x after next pre rfl hacts hact hpre
    exact hpre.act h.equipped h.numbered hacts hact hmove
  · intro acceptor _ hclear
    cases hclear
  · intro task spawns
    refine releases_of_spawns hgentle spawns fun loop hattached => ?_
    exact List.mem_append_right _ (Option.mem_toList.mpr hattached)

/-- Nobody is attached any more when the peers are going to be forgotten. -/
theorem Tended.clears_move (h : Tended a first limit created closers n acceptor)
    (hmove : n.move m = some n') (hgentle : Gentle a created m)
    (found : n.acceptors.get? a = some acceptor) (id : TaskId) :
    Before (.clear a) (fun pre => ∀ loop ∈ created ++ (attached? a (n, m)).toList,
      Retires n' loop pre) (n'.planOf id) := by
  cases hattached : attached? a (n, m) with
  | some loop =>
      -- Somebody is attached: the acceptor is open, so nobody is going to clear the list.
      obtain ⟨own, acceptor', rfl, acts, found', opened, -⟩ := attached_by hattached
      obtain rfl := Option.some.inj (found.symm.trans found')
      have hnobody : closers = [] := by simpa [opened] using h.closed
      have hcloses : closes? a (n, .step own) = none := closes?_eq_none (by simp [acts])
      refine before_of_not_mem fun hmem => ?_
      have hcloser := h.closing_move hmove hgentle id (.inr hmem)
      simp [hnobody, hcloses] at hcloser
  | none =>
      simp only [Option.toList_none, List.append_nil]
      refine (h.clears id).move h.numbered hmove rfl (by simp) ?_ ?_ ?_ ?_
      · intro pre pre' hsub hpre loop hloop
        exact (hpre loop hloop).move h.numbered hmove (hgentle.starts loop hloop) hsub
      · rintro x after next pre rfl hacts hact hpre loop hloop
        exact (hpre loop hloop).act (h.equipped loop hloop) h.numbered hacts hact hmove
      · intro acceptor' found' _ _ loop hloop
        obtain rfl := Option.some.inj (found.symm.trans found')
        rcases h.retired loop hloop with hpeer | hretires
        · exact .inl (List.mem_map_of_mem hpeer)
        · exact hretires.move h.numbered hmove (hgentle.starts loop hloop)
            fun _ hz => absurd hz List.not_mem_nil
      · intro task spawns
        refine before_of_not_mem fun hmem => ?_
        exact (closing_of_spawns hgentle spawns hmem).2 rfl

theorem dismiss_leads (found : n.acceptors.get? a = some acceptor)
    (acts : n.actionOf? id = some (.dismiss a)) (hstep : n.step id = some n') :
    .clear a ∈ n'.planOf id := by
  obtain ⟨after, next, hact⟩ := act_of_step acts hstep
  refine planned_of_step acts hact hstep ?_
  rw [plan_of_dismiss found hact]
  exact List.mem_append_right _ (.head _)

theorem close_leads (h : closes? a (n, m) = some id) (hmove : n.move m = some n') :
    .dismiss a ∈ n'.planOf id := by
  obtain ⟨rfl, acts, acceptor, found, hopened⟩ := closed_by h
  obtain ⟨after, next, hact⟩ := act_of_step acts hmove
  obtain ⟨first, -, hnext⟩ := plan_of_close found hopened hact
  refine planned_of_step acts hact hmove ?_
  rw [hnext]
  exact List.mem_append_right _ (.head _)

theorem clear_leads (found : n.acceptors.get? a = some acceptor)
    (acts : n.actionOf? id = some (.clear a)) (hstep : n.step id = some n')
    (found' : n'.acceptors.get? a = some acceptor') : acceptor'.peers = [] := by
  obtain ⟨after, next, hact⟩ := act_of_step acts hstep
  obtain ⟨task, rfl⟩ := step_after acts hact hstep
  cases Acts.of_act hact with
  | clears =>
      obtain rfl := Option.some.inj ((Assoc.get?_set_self ..).symm.trans found')
      rfl
  | proceeds proceeds =>
      cases proceeds with
      | clearsNothing unknown => cases found.symm.trans unknown

/-- Who has closed the acceptor still has to forget its peers, as long as there are any. -/
theorem Tended.due_move (h : Tended a first limit created closers n acceptor)
    (hmove : n.move m = some n') (found : n.acceptors.get? a = some acceptor)
    (found' : n'.acceptors.get? a = some acceptor') (id : TaskId)
    (hid : id ∈ closers ++ (closes? a (n, m)).toList) :
    acceptor'.peers = [] ∨ .dismiss a ∈ n'.planOf id ∨ .clear a ∈ n'.planOf id := by
  have hstays : ∀ y, y.acceptor? = some a → y ∈ n.planOf id →
      y ∈ n'.planOf id ∨ m = .step id ∧ n.actionOf? id = some y := by
    intro y habout hy
    obtain ⟨task, htask, hy⟩ := mem_planOf.mp hy
    exact stays_planned h.numbered hmove htask (h.bare id task htask y hy habout) hy
  rcases List.mem_append.mp hid with hid | hid
  · -- To dismiss leads to clearing, and to clear leaves nobody.
    rcases h.due id hid with hvacant | hdismiss | hclear
    · obtain ⟨-, acceptor'', hget, -, hvacant'⟩ :=
        vacated_move hmove found (h.closed.mpr (List.ne_nil_of_mem hid)) hvacant
      obtain rfl := Option.some.inj (found'.symm.trans hget)
      exact .inl hvacant'
    · rcases hstays _ rfl hdismiss with hplanned | ⟨rfl, acts⟩
      · exact .inr (.inl hplanned)
      · exact .inr (.inr (dismiss_leads found acts hmove))
    · rcases hstays _ rfl hclear with hplanned | ⟨rfl, acts⟩
      · exact .inr (.inr hplanned)
      · exact .inl (clear_leads found acts hmove found')
  · exact .inr (.inl (close_leads (Option.mem_toList.mp hid) hmove))

theorem Tended.move (h : Tended a first limit created closers n acceptor)
    (hmove : n.move m = some n') (hgentle : Gentle a created m)
    (found : n.acceptors.get? a = some acceptor) :
    ∃ acceptor', n'.acceptors.get? a = some acceptor' ∧
      Tended a first limit (created ++ (attached? a (n, m)).toList)
        (closers ++ (closes? a (n, m)).toList) n' acceptor' := by
  obtain ⟨acceptor', found', hosted⟩ := host_move hmove found
  obtain ⟨hplaces, hroom⟩ := h.places_move hosted
  obtain ⟨hclosed, hsingle⟩ := h.closed_move hosted
  exact ⟨acceptor', found',
    { numbered := h.numbered.move hmove
      since := Nat.le_trans h.since (spares_move h.numbered hmove).fresh
      places := hplaces
      room := hroom
      distinct := h.distinct_move hosted
      known := h.known_move hosted
      equipped := h.equipped_move hmove
      apart := h.apart_move
      retired := h.retired_move hmove hgentle hosted
      forgets := h.forgets_move hmove hgentle
      clears := h.clears_move hmove hgentle found
      closing := h.closing_move hmove hgentle
      bare := h.bare_move hmove
      closed := hclosed
      single := hsingle
      due := h.due_move hmove found found' }⟩

end Node

end TelemetryRelay
