import TelemetryRelay.Proofs.Node.Effects

/-!
# What a move leaves alone

A move touches the task that makes it and little else: the other tasks stay as they
are, a bridge starts or stops but is otherwise the same, an actor counts its calls,
and a link takes one event at most.  New things get new numbers, so they are not
mistaken for old ones.
-/

namespace TelemetryRelay

open Wire

/-- An actor without its count of calls. -/
def Actor.nature (actor : Actor) : ListenerId × (Nat → Message → Behaviour) :=
  (actor.id, actor.behave)

namespace Node

/-- Everything is called by a number drawn before, and no two transports by the same. -/
structure Numbered (n : Node) : Prop where
  tasks : ∀ x, n.fresh ≤ x → n.tasks.get? x = none
  transports : ∀ x, n.fresh ≤ x → n.transports.get? x = none
  bridges : ∀ x, n.fresh ≤ x → n.bridges.get? x = none
  distinct : n.transports.keys.Nodup

/-- The events that a move may bring to a link. -/
inductive Bears (n : Node) : Move → TransportId → Link.Event → Prop
  | act {id : TaskId} {a : Action} {t : TransportId} {e : Link.Event}
      (acts : n.actionOf? id = some a) (brings : Brings id a t e) : Bears n (.step id) t e
  | halt {id : TaskId} {task : Task} {t : TransportId} (found : n.tasks.get? id = some task)
      (outbox : task.outbox = some t) : Bears n (.step id) t (.drop id)

/-- The outbox of the transport may be closed by this move. -/
def Shuts (n : Node) (m : Move) (t : TransportId) : Prop :=
  ∃ id, m = .step id ∧ n.actionOf? id = some (.terminate t)

/-- What becomes of a bridge. -/
inductive Bridged (n : Node) (b : BridgeId) (bridge : Bridge) : Move → Bridge → Prop
  | same {m : Move} : Bridged n b bridge m bridge
  | stopped {id : TaskId} {a : Action} (acts : n.actionOf? id = some a)
      (ends : a = .leave b ∨ a = .stop b) :
      Bridged n b bridge (.step id) { bridge with running := false }
  | started {label : Option String} :
      Bridged n b bridge (.outside (.startBridge b label)) { bridge with running := true }

variable {n n' n'' n₀ : Node} {id x : TaskId} {a : Action} {m : Move} {ms : List Move}
  {t : TransportId} {b : BridgeId} {bridge : Bridge} {cs : List (Bus.Change Listener)}
  {event : TransportId → Link.Event → Prop} {shuts : TransportId → Prop}

/-- What neither the node nor anything around it does to the tasks, but `own` itself. -/
structure Spares (own : Option TaskId) (n n' : Node) : Prop where
  fresh : n.fresh ≤ n'.fresh
  numbered : Numbered n → Numbered n'
  tasks : ∀ x < n.fresh, own ≠ some x → n'.tasks.get? x = n.tasks.get? x
  actors : ∀ name, (n'.actors.get? name).map (·.nature) = (n.actors.get? name).map (·.nature)

variable {own : Option TaskId}

/-! ## Numbers -/

theorem Spares.trans (h : Spares own n n') (h' : Spares own n' n'') : Spares own n n'' := by
  refine ⟨Nat.le_trans h.fresh h'.fresh, fun hn => h'.numbered (h.numbered hn), ?_, ?_⟩
  · intro x hx hown
    rw [h'.tasks x (Nat.lt_of_lt_of_le hx h.fresh) hown, h.tasks x hx hown]
  · intro name
    rw [h'.actors, h.actors]

/-- Actors are none but those that were there. -/
theorem Spares.actor (h : Spares own n n') {name : String} {actor' : Actor}
    (found : n'.actors.get? name = some actor') :
    ∃ actor, n.actors.get? name = some actor ∧ actor.id = actor'.id ∧
      actor.behave = actor'.behave := by
  have hnature := h.actors name
  rw [found] at hnature
  obtain ⟨actor, hactor, hnature⟩ := Option.map_eq_some_iff.mp hnature.symm
  exact ⟨actor, hactor, congrArg Prod.fst hnature, congrArg Prod.snd hnature⟩

theorem Numbered.congr (h : Numbered n) (hfresh : n.fresh ≤ n'.fresh)
    (htasks : n'.tasks = n.tasks) (hbridges : n'.bridges = n.bridges)
    (hkeys : n'.transports.keys = n.transports.keys) : Numbered n' := by
  refine ⟨?_, ?_, ?_, hkeys ▸ h.distinct⟩
  · intro x hx
    rw [htasks]
    exact h.tasks x (Nat.le_trans hfresh hx)
  · intro x hx
    have hnone := h.transports x (Nat.le_trans hfresh hx)
    rw [Assoc.get?_eq_none_iff] at hnone ⊢
    rw [hkeys]
    exact hnone
  · intro x hx
    rw [hbridges]
    exact h.bridges x (Nat.le_trans hfresh hx)

/-- A node of which only the front and the transports could have changed, and have not. -/
theorem spares_of_front (hfresh : n.fresh ≤ n'.fresh) (hfront : n'.front = n.front)
    (hkeys : n'.transports.keys = n.transports.keys) : Spares own n n' := by
  have htasks : n'.tasks = n.tasks := congrArg Front.tasks hfront
  have hbridges : n'.bridges = n.bridges := congrArg Front.bridges hfront
  have hactors : n'.actors = n.actors := congrArg Front.actors hfront
  refine ⟨hfresh, fun h => h.congr hfresh htasks hbridges hkeys, ?_, ?_⟩
  · intro x _ _
    rw [htasks]
  · intro name
    rw [hactors]

theorem Keeps.spares (h : Keeps n n') : Spares own n n' := spares_of_front h.fresh h.front h.keys

theorem Carries.spares (h : Carries n n' event shuts) : Spares own n n' :=
  spares_of_front h.fresh h.front h.keys

theorem spares_setBus (n : Node) (bus : Bus Listener) : Spares own n (n.setBus bus) :=
  ⟨Nat.le_refl _, fun h => h.congr (Nat.le_refl _) rfl rfl rfl, fun _ _ _ => rfl, fun _ => rfl⟩

theorem spares_setRunning (n : Node) (b : BridgeId) (running : Bool) :
    Spares own n (n.setRunning b running) := by
  refine ⟨Nat.le_refl _, fun h => ⟨h.tasks, h.transports, ?_, h.distinct⟩, fun _ _ _ => rfl,
    fun _ => rfl⟩
  intro x hx
  have hnone := h.bridges x hx
  simp only [setRunning, Assoc.get?_modify]
  split
  · rename_i hxb
    rw [← hxb, hnone]
    rfl
  · exact hnone

/-- A new task. -/
theorem spares_spawn (n : Node) (a : Action) (label : Option String)
    (outbox : Option TransportId) : Spares own n (n.spawn a label outbox).2 := by
  refine ⟨Nat.le_succ _, fun h => ⟨?_, ?_, ?_, h.distinct⟩, ?_, fun _ => rfl⟩
  · intro x hx
    have hx : n.fresh < x := hx
    simp only [spawn, draw, Assoc.get?_set, Nat.ne_of_gt hx, if_false]
    exact h.tasks x (Nat.le_of_lt hx)
  · exact fun x hx => h.transports x (Nat.le_of_succ_le hx)
  · exact fun x hx => h.bridges x (Nat.le_of_succ_le hx)
  · intro x hx _
    simp only [spawn, draw, Assoc.get?_set, Nat.ne_of_lt hx, if_false]

/-- Each task has been there before, or has just begun. -/
theorem task_of_spawn {a : Action} {label : Option String} {outbox : Option TransportId}
    {id : TaskId} {task : Task} (found : (n.spawn a label outbox).2.tasks.get? id = some task) :
    n.tasks.get? id = some task ∨
      id = n.fresh ∧ task = { activity := .acting a, outbox, label } := by
  rw [spawn, draw, Assoc.get?_set] at found
  split at found
  · rename_i hid
    exact .inr ⟨hid, (Option.some.inj found).symm⟩
  · exact .inl found

/-- A new transport, with the task that sends for it if it has an outbox. -/
theorem spares_addTransport (n : Node) (carrier : Carrier) (outbox : Option Outbox) :
    Spares own n (n.addTransport carrier outbox).2 := by
  have hset : Spares own n ({ n with fresh := n.fresh + 1 }.setTransport n.fresh
      { carrier, outbox }) := by
    refine ⟨Nat.le_succ _, fun h => ⟨?_, ?_, ?_, ?_⟩, fun _ _ _ => rfl, fun _ => rfl⟩
    · exact fun x hx => h.tasks x (Nat.le_of_succ_le hx)
    · intro x hx
      have hne : x ≠ n.fresh := Nat.ne_of_gt hx
      simp only [setTransport, Assoc.get?_set_of_ne hne]
      exact h.transports x (Nat.le_of_succ_le hx)
    · exact fun x hx => h.bridges x (Nat.le_of_succ_le hx)
    · exact Assoc.nodup_keys_set h.distinct ..
  cases outbox with
  | none => exact hset
  | some o => exact hset.trans (spares_spawn ..)

theorem task_of_addTransport {carrier : Carrier} {o : Outbox} {id : TaskId} {task : Task}
    (found : (n.addTransport carrier (some o)).2.tasks.get? id = some task) :
    n.tasks.get? id = some task ∨
      id = n.fresh + 1 ∧ task = { activity := .acting (.drain n.fresh), outbox := some n.fresh } :=
  task_of_spawn (n := n.draw.2.setTransport n.fresh { carrier, outbox := some o }) found

/-- A new bridge. -/
theorem spares_addBridge (n : Node) (table : MappingTable) (t : TransportId) :
    Spares own n (n.addBridge table t).2 := by
  refine ⟨Nat.le_succ _, fun h => ⟨?_, ?_, ?_, h.distinct⟩, fun _ _ _ => rfl, fun _ => rfl⟩
  · exact fun x hx => h.tasks x (Nat.le_of_succ_le hx)
  · exact fun x hx => h.transports x (Nat.le_of_succ_le hx)
  · intro x hx
    have hne : x ≠ n.fresh := Nat.ne_of_gt hx
    simp only [addBridge, draw, Assoc.get?_set_of_ne hne]
    exact h.bridges x (Nat.le_of_succ_le hx)

theorem spares_startBridge (n : Node) (b : BridgeId) (label : Option String) :
    Spares own n (n.startBridge b label).2 := by
  cases found : n.bridges.get? b with
  | none =>
      simp only [startBridge, found]
      exact spares_spawn ..
  | some bridge =>
      rw [startBridge_eq found]
      exact ((spares_setRunning ..).trans (spares_setBus ..)).trans (spares_spawn ..)

theorem spares_attach (n : Node) (a : AcceptorId) (acceptor : Acceptor) (c : ConnectionName)
    (room : ¬ acceptor.maxPeers ≤ acceptor.peers.length) :
    Spares own n (n.attach a acceptor c) := by
  obtain ⟨bridges, hbridges, heq⟩ := attach_eq n a acceptor c room
  rw [heq]
  refine ⟨Nat.le_add_right _ 5, fun h => ⟨?_, ?_, ?_, Assoc.nodup_keys_set h.distinct ..⟩, ?_,
    fun _ => rfl⟩
  · intro x hx
    have hx : n.fresh + 5 ≤ x := hx
    have h₁ : x ≠ n.fresh + 1 := by omega
    have h₃ : x ≠ n.fresh + 3 := by omega
    have h₄ : x ≠ n.fresh + 4 := by omega
    have hnone := h.tasks x (by omega)
    simp [h₁, h₃, h₄, hnone]
  · intro x hx
    have hx : n.fresh + 5 ≤ x := hx
    have h₀ : x ≠ n.fresh := by omega
    have hnone := h.transports x (by omega)
    simp [h₀, hnone]
  · intro x hx
    have hx : n.fresh + 5 ≤ x := hx
    have h₂ : x ≠ n.fresh + 2 := by omega
    have hnone := h.bridges x (by omega)
    simp [hbridges, h₂, hnone]
  · intro x hx _
    have h₁ : x ≠ n.fresh + 1 := by omega
    have h₃ : x ≠ n.fresh + 3 := by omega
    have h₄ : x ≠ n.fresh + 4 := by omega
    simp [h₁, h₃, h₄]

theorem Effect.spares (h : Effect n id a n' cs) : Spares own n n' := by
  cases h with
  | carries hcarries => exact hcarries.spares
  | @hands name actor message found =>
      refine ⟨Nat.le_refl _, fun h => h.congr (Nat.le_refl _) rfl rfl rfl, fun _ _ _ => rfl, ?_⟩
      intro name'
      simp only [record, Assoc.get?_set]
      split
      · rename_i hname
        rw [hname, found]
        rfl
      · rfl
  | behaves cs => exact spares_setBus n _
  | silences ends found =>
      rw [silence_of_found found]
      exact (spares_setRunning ..).trans (spares_setBus ..)
  | attaches found room => exact spares_attach n _ _ _ room

theorem Happens.spares {o : Occurrence} (h : Happens n o n' cs) : Spares own n n' := by
  cases h with
  | keeps hkeeps => exact hkeeps.spares
  | begins hkeeps => exact (spares_spawn n _ _ _).trans hkeeps.spares
  | asks cs who => exact spares_setBus n _
  | starts found =>
      exact ((spares_setRunning n _ _).trans (spares_setBus _ _)).trans (spares_spawn _ _ _ _)

theorem spares_setTask (hid : id < n.fresh) (task : Task) :
    Spares (some id) n (n.setTask id task) := by
  refine ⟨Nat.le_refl _, fun h => ⟨?_, h.transports, h.bridges, h.distinct⟩, ?_, fun _ => rfl⟩
  · intro x hx
    have hne : x ≠ id := Nat.ne_of_gt (Nat.lt_of_lt_of_le hid hx)
    simp only [setTask, Assoc.get?_set, hne, if_false]
    exact h.tasks x hx
  · intro x hx hown
    have hne : x ≠ id := fun heq => hown (by rw [heq])
    simp [setTask, hne]

theorem spares_endTask (n : Node) (id : TaskId) : Spares (some id) n (n.endTask id) := by
  refine ⟨Nat.le_refl _, fun h => ⟨?_, h.transports, h.bridges, h.distinct⟩, ?_, fun _ => rfl⟩
  · intro x hx
    simp only [endTask, Assoc.get?_erase, h.tasks x hx, ite_self]
  · intro x hx hown
    have hne : x ≠ id := fun heq => hown (by rw [heq])
    simp [endTask, hne]

/-! ## Moves -/

/-- The task that makes a move. -/
def doer : Move → Option TaskId
  | .step id => some id
  | .outside _ => none

theorem Numbered.lt_of_task (h : Numbered n) {task : Task} (found : n.tasks.get? id = some task) :
    id < n.fresh := by
  apply Nat.lt_of_not_le
  intro hle
  rw [h.tasks id hle] at found
  cases found

theorem Numbered.lt_of_bridge (h : Numbered n) (found : n.bridges.get? b = some bridge) :
    b < n.fresh := by
  apply Nat.lt_of_not_le
  intro hle
  rw [h.bridges b hle] at found
  cases found

theorem Numbered.lt_of_face (h : Numbered n) {f : Face} (found : n.face t = some f) :
    t < n.fresh := by
  apply Nat.lt_of_not_le
  intro hle
  simp [face, h.transports t hle] at found

theorem spares_finish (n : Node) (id : TaskId) (label : Option String) (reply : Reply) :
    Spares (some id) n (n.finish id label reply) := by
  obtain ⟨reports, heq⟩ := finish_eq n id label reply
  have h := spares_endTask n id
  rw [heq]
  exact ⟨h.fresh, fun hn => (h.numbered hn).congr (Nat.le_refl _) rfl rfl rfl, h.tasks, h.actors⟩

/-- **A move leaves alone the tasks that do not make it.** -/
theorem spares_move (hn : Numbered n) (h : n.move m = some n') : Spares (doer m) n n' := by
  cases m with
  | outside o =>
      cases h
      exact (occur_happens n o).spares
  | step id =>
      cases Step.of_step h with
      | halt found outbox halts =>
          exact (Halts.of_haltSender halts).carries.spares.trans (spares_endTask _ id)
      | act found goesOn acting acts =>
          have hspares : Spares (some id) n _ := (act_effect acts).spares
          exact hspares.trans
            (spares_setTask (Nat.lt_of_lt_of_le (hn.lt_of_task found) hspares.fresh) _)
      | finish found goesOn replying last => exact spares_finish n id _ _
      | resume found goesOn replying waits resumes =>
          have hspares : Spares (some id) n _ := (resume_keeps resumes).spares
          exact hspares.trans
            (spares_setTask (Nat.lt_of_lt_of_le (hn.lt_of_task found) hspares.fresh) _)

theorem Numbered.move (h : Numbered n) (hmove : n.move m = some n') : Numbered n' :=
  (spares_move h hmove).numbered h

theorem Numbered.run (h : Numbered n₀) (hrun : n₀.run ms = some n) : Numbered n :=
  run_induction (P := fun _ n => Numbered n) h (fun _ _ _ _ _ hn hmove => hn.move hmove) hrun

theorem task_of_move (hn : Numbered n) (h : n.move m = some n') (hx : x < n.fresh)
    (hother : m ≠ .step x) : n'.tasks.get? x = n.tasks.get? x := by
  refine (spares_move hn h).tasks x hx fun hown => hother ?_
  cases m with
  | step id =>
      cases hown
      rfl
  | outside o => cases hown

/-! ## Links -/

theorem Effect.face (h : Effect n id a n' cs) (hn : Numbered n) (ht : t < n.fresh) :
    n'.face t = n.face t ∨ ∃ f f', n.face t = some f ∧ n'.face t = some f' ∧
      f.Turns (Brings id a t) (a = .terminate t) f' := by
  cases h with
  | carries hcarries => exact hcarries.face hn.distinct t
  | hands found => exact .inl rfl
  | behaves cs => exact .inl rfl
  | silences ends found =>
      rw [silence_of_found found]
      exact .inl rfl
  | @attaches a acceptor c rest found room =>
      obtain ⟨bridges, -, heq⟩ := attach_eq n a { acceptor with backlog := rest } c room
      have hne : t ≠ n.fresh := Nat.ne_of_lt ht
      refine .inl ?_
      simp [heq, Node.face, hne]

theorem Happens.face {o : Occurrence} (h : Happens n o n' cs) (hn : Numbered n) :
    n'.face t = n.face t := by
  cases h with
  | keeps hkeeps => exact hkeeps.face hn.distinct t
  | begins hkeeps => exact hkeeps.face hn.distinct t
  | asks cs who => rfl
  | starts found => rfl

/-- **A move brings one event at most to a link, and closes an outbox only by
terminating its transport.** -/
theorem face_move (hn : Numbered n) (h : n.move m = some n') (ht : t < n.fresh) :
    n'.face t = n.face t ∨ ∃ f f', n.face t = some f ∧ n'.face t = some f' ∧
      f.Turns (Bears n m t) (Shuts n m t) f' := by
  cases m with
  | outside o =>
      cases h
      exact .inl ((occur_happens n o).face hn)
  | step id =>
      cases Step.of_step h with
      | halt found outbox halts =>
          have hcarries := (Halts.of_haltSender halts).carries
          rcases hcarries.face hn.distinct t with hsame | ⟨f, f', hf, hf', hturns⟩
          · exact .inl hsame
          · refine .inr ⟨f, f', hf, hf', ?_⟩
            cases hturns with
            | link hlink brought step =>
                obtain ⟨rfl, rfl⟩ := brought
                exact .link hlink (.halt found outbox) step
            | shut closes => exact closes.elim
      | act found goesOn acting acts =>
          have hacts := actionOf?_of_acting found goesOn acting
          rcases (act_effect acts).face hn ht with hsame | ⟨f, f', hf, hf', hturns⟩
          · exact .inl hsame
          · refine .inr ⟨f, f', hf, hf', ?_⟩
            cases hturns with
            | link hlink brought step => exact .link hlink (.act hacts brought) step
            | shut closes => exact .shut ⟨id, rfl, by rw [hacts, closes]⟩
      | @finish task reply found goesOn replying last =>
          obtain ⟨reports, heq⟩ := finish_eq n id task.label reply
          rw [heq]
          exact .inl rfl
      | resume found goesOn replying waits resumes =>
          exact .inl ((resume_keeps resumes).face hn.distinct t)

theorem link?_move (hn : Numbered n) (h : n.move m = some n') (ht : t < n.fresh) :
    n'.link? t = n.link? t ∨ ∃ l e l', n.link? t = some l ∧ n'.link? t = some l' ∧
      Bears n m t e ∧ Link.Step l e l' := by
  unfold link?
  rcases face_move hn h ht with hsame | ⟨f, f', hf, hf', hturns⟩
  · exact .inl (by rw [hsame])
  · rw [hf, hf']
    cases hturns with
    | link hlink brought step => exact .inr ⟨_, _, _, hlink, rfl, brought, step⟩
    | shut closes => exact .inl rfl

/-- The events of a call come from its own task. -/
theorem Bears.call?_ne {e : Link.Event} (h : Bears n m t e) (hother : m ≠ .step x) :
    e.call? ≠ some x := by
  have hne : ∀ id, m = .step id → id ≠ x := fun id hid heq => hother (by rw [hid, heq])
  cases h with
  | act acts brings =>
      cases brings with
      | send => simpa [Link.Event.call?] using hne _ rfl
      | receive => simpa [Link.Event.call?] using hne _ rfl
      | goOn own underWay =>
          rw [own]
          simpa using hne _ rfl
      | close => simp [Link.Event.call?]
      | detach => simp [Link.Event.call?]
  | halt found outbox => simpa [Link.Event.call?] using hne _ rfl

theorem call?_move (hn : Numbered n) (h : n.move m = some n') (ht : t < n.fresh)
    (hother : m ≠ .step x) : n'.call? t x = n.call? t x := by
  unfold call?
  rcases link?_move hn h ht with hsame | ⟨l, e, l', hl, hl', hbears, hstep⟩
  · rw [hsame]
  · rw [hl, hl']
    exact hstep.calls_of_ne (hbears.call?_ne hother)

/-! ## Bridges -/

theorem Effect.bridged (h : Effect n id a n' cs) (hn : Numbered n)
    (found : n.bridges.get? b = some bridge) (hacts : n.actionOf? id = some a) :
    ∃ bridge', n'.bridges.get? b = some bridge' ∧ Bridged n b bridge (.step id) bridge' := by
  cases h with
  | carries hcarries =>
      exact ⟨bridge, by rw [hcarries.bridges, found], .same⟩
  | hands _ => exact ⟨bridge, found, .same⟩
  | behaves cs => exact ⟨bridge, found, .same⟩
  | @silences _ b' bridge' ends found' =>
      have hbridges : (n.silence b').bridges = n.bridges.modify b' ({ · with running := false }) := by
        rw [silence_of_found found']
        rfl
      by_cases hb : b = b'
      · subst hb
        refine ⟨{ bridge with running := false }, ?_, .stopped hacts ends⟩
        rw [hbridges, Assoc.get?_modify, if_pos rfl, found]
        rfl
      · refine ⟨bridge, ?_, .same⟩
        rw [hbridges, Assoc.get?_modify, if_neg hb, found]
  | @attaches a acceptor c rest _ room =>
      obtain ⟨bridges, hbridges, heq⟩ := attach_eq n a { acceptor with backlog := rest } c room
      have hlt := hn.lt_of_bridge found
      have hne : b ≠ n.fresh + 2 := Nat.ne_of_lt (Nat.lt_add_right 2 hlt)
      refine ⟨bridge, ?_, .same⟩
      rw [heq]
      exact (hbridges b).trans ((if_neg hne).trans found)

theorem Happens.bridged {o : Occurrence} (h : Happens n o n' cs)
    (found : n.bridges.get? b = some bridge) :
    ∃ bridge', n'.bridges.get? b = some bridge' ∧ Bridged n b bridge (.outside o) bridge' := by
  cases h with
  | keeps hkeeps =>
      exact ⟨bridge, by rw [hkeeps.bridges, found], .same⟩
  | begins hkeeps =>
      exact ⟨bridge, by rw [hkeeps.bridges]; exact found, .same⟩
  | asks cs who => exact ⟨bridge, found, .same⟩
  | @starts b' label bridge' found' =>
      by_cases hb : b = b'
      · subst hb
        refine ⟨{ bridge with running := true }, ?_, .started⟩
        simp [spawn, draw, setBus, setRunning, found]
      · refine ⟨bridge, ?_, .same⟩
        simp [spawn, draw, setBus, setRunning, found, hb]

/-- **A bridge stays what it is, but for whether it runs.** -/
theorem bridge_move (hn : Numbered n) (h : n.move m = some n')
    (found : n.bridges.get? b = some bridge) :
    ∃ bridge', n'.bridges.get? b = some bridge' ∧ Bridged n b bridge m bridge' := by
  cases m with
  | outside o =>
      cases h
      exact (occur_happens n o).bridged found
  | step id =>
      cases Step.of_step h with
      | halt _ outbox halts =>
          have hbridges := (Halts.of_haltSender halts).carries.bridges
          exact ⟨bridge, by rw [← found, ← hbridges]; rfl, .same⟩
      | act hfound goesOn acting acts =>
          exact (act_effect acts).bridged hn found (actionOf?_of_acting hfound goesOn acting)
      | @finish task reply _ goesOn replying last =>
          obtain ⟨reports, heq⟩ := finish_eq n id task.label reply
          rw [heq]
          exact ⟨bridge, found, .same⟩
      | resume _ goesOn replying waits resumes =>
          have hbridges := (resume_keeps resumes).bridges
          exact ⟨bridge, by rw [← found, ← hbridges]; rfl, .same⟩

theorem bridge_stays (hn : Numbered n) (hmove : n.move m = some n')
    (known : ∃ running, n.bridges.get? b = some { bridge with running }) :
    ∃ running, n'.bridges.get? b = some { bridge with running } := by
  obtain ⟨running, hbridge⟩ := known
  obtain ⟨bridge', hbridge', hbridged⟩ := bridge_move hn hmove hbridge
  cases hbridged with
  | same => exact ⟨running, hbridge'⟩
  | stopped => exact ⟨false, hbridge'⟩
  | started => exact ⟨true, hbridge'⟩

theorem bridge_of_run (hn : Numbered n₀) (found : n₀.bridges.get? b = some bridge)
    (hrun : n₀.run ms = some n) :
    ∃ running, n.bridges.get? b = some { bridge with running } := by
  refine (run_induction (P := fun _ n => Numbered n ∧
    ∃ running, n.bridges.get? b = some { bridge with running }) ?_ ?_ hrun).2
  · exact ⟨hn, bridge.running, found⟩
  · intro ms m n n' hrun ⟨hn, known⟩ hmove
    exact ⟨hn.move hmove, bridge_stays hn hmove known⟩

end Node

end TelemetryRelay
