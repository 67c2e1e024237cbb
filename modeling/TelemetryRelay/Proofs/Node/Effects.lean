import TelemetryRelay.Proofs.Bus.History
import TelemetryRelay.Proofs.Node.Carriage

/-!
# What the moves of a node do to it

Apart from carrying frames, an action does one of four things: it counts a call of
an actor, it asks something of the bus on behalf of an actor, it takes a bridge off
the bus, or it attaches a peer.  `changes` reads off a move what it asks of the
bus, and `bus_move` says that the bus changes by nothing else.
-/

namespace TelemetryRelay

open Wire

namespace Node

/-! ## What is asked of the bus -/

section Changes

variable (n : Node)

def subscription (who : String) (type : Family) : List (Bus.Change Listener) :=
  ((n.listenerId? who).map fun id => .subscribe id (.actor who) type).toList

def cancellation (who : String) : List (Bus.Change Listener) :=
  ((n.listenerId? who).map .unsubscribe).toList

/-- What a bridge asks of the bus when its loop ends. -/
def departure (b : BridgeId) : List (Bus.Change Listener) :=
  ((n.bridges.get? b).map fun bridge => .unsubscribe bridge.id).toList

/-- What the bridge of the next peer asks of the bus, if there is one and room for it. -/
def admission (a : AcceptorId) : List (Bus.Change Listener) :=
  match n.acceptors.get? a with
  | none => []
  | some acceptor =>
    if acceptor.closed || acceptor.backlog.isEmpty || acceptor.maxPeers ≤ acceptor.peers.length then
      []
    else (n.peerBridge acceptor).arrival (n.fresh + 2)

def changesOf : Action → List (Bus.Change Listener)
  | .behave _ (.subscribe who type _) => n.subscription who type
  | .behave _ (.unsubscribe who _) => n.cancellation who
  | .leave b | .stop b => n.departure b
  | .accept a => n.admission a
  | _ => []

def changesOn : Occurrence → List (Bus.Change Listener)
  | .startBridge b _ => ((n.bridges.get? b).map fun bridge => bridge.arrival b).getD []
  | .subscribe who type => n.subscription who type
  | .unsubscribe who => n.cancellation who
  | _ => []

/-- The action that a task takes a step of, unless its outbox halts it. -/
def actionOf? (id : TaskId) : Option Action := do
  let task ← n.tasks.get? id
  match task.outbox.bind (n.haltSender id), task.activity with
  | none, .acting a => some a
  | _, _ => none

/-- How many replies a task waits for. -/
def depth (id : TaskId) : Nat :=
  ((n.tasks.get? id).map (·.pending.length)).getD 0

/-- The reply that a task goes on with, unless its outbox halts it. -/
def answerOf? (id : TaskId) : Option Reply := do
  let task ← n.tasks.get? id
  match task.outbox.bind (n.haltSender id), task.activity with
  | none, .replying reply => some reply
  | _, _ => none

end Changes

/-- What a move asks of the bus. -/
def changes : Node × Move → List (Bus.Change Listener)
  | (n, .step id) => ((n.actionOf? id).map n.changesOf).getD []
  | (n, .outside o) => n.changesOn o

variable {n n' : Node} {id : TaskId} {a : Action} {next : Transition} {m : Move}

/-! ## Actions -/

/-- What the step of an action does to the node, and what it asks of the bus. -/
inductive Effect (n : Node) (id : TaskId) : Action → Node → List (Bus.Change Listener) → Prop
  | carries {a : Action} {n' : Node} (carries : Carries n n' (Brings id a) (a = .terminate ·)) :
      Effect n id a n' []
  | hands {name : String} {actor : Actor} {message : Message}
      (found : n.actors.get? name = some actor) :
      Effect n id (.hand (.actor name) message)
        ({ n with actors := n.actors.set name { actor with calls := actor.calls + 1 } }.record
          (.received name message)) []
  | behaves {name : String} {behaviour : Behaviour} (cs : List (Bus.Change Listener)) :
      Effect n id (.behave name behaviour) (n.setBus (n.bus.applyAll cs)) cs
  | silences {a : Action} {b : BridgeId} {bridge : Bridge} (ends : a = .leave b ∨ a = .stop b)
      (found : n.bridges.get? b = some bridge) :
      Effect n id a (n.silence b) [.unsubscribe bridge.id]
  | attaches {a : AcceptorId} {acceptor : Acceptor} {c : ConnectionName} {rest : List ConnectionName}
      (found : n.acceptors.get? a = some acceptor)
      (room : ¬ acceptor.maxPeers ≤ acceptor.peers.length) :
      Effect n id (.accept a) (n.attach a { acceptor with backlog := rest } c)
        ((n.peerBridge acceptor).arrival (n.fresh + 2))

theorem effect_of_keeps (h : Keeps n n') : Effect n id a n' [] := .carries h.carries

theorem subscribe_eq (n : Node) (who : String) (type : Family) :
    n.subscribe who type = n.setBus (n.bus.applyAll (n.subscription who type)) := by
  unfold subscribe subscription
  cases n.listenerId? who <;> rfl

theorem unsubscribe_eq (n : Node) (who : String) :
    n.unsubscribe who = n.setBus (n.bus.applyAll (n.cancellation who)) := by
  unfold unsubscribe cancellation
  cases n.listenerId? who <;> rfl

theorem tables_of_get? {a : AcceptorId} {acceptor : Acceptor} {table : MappingTable}
    (found : n.acceptors.get? a = some acceptor) (same : acceptor.table = table) :
    n.front.tables a = some table := by
  simp [front, found, same]

theorem keeps_closeSocket {a : AcceptorId} {acceptor : Acceptor}
    (same : n.front.tables a = some acceptor.table) : Keeps n (n.closeSocket a acceptor) := by
  obtain ⟨connections, heq⟩ := closeSocket_eq n a acceptor
  have hdropped : Keeps n { n with connections } := keeps_of_transports rfl (Nat.le_refl _) rfl
  rw [heq]
  exact hdropped.trans (keeps_setAcceptor same)

theorem Accepts.effect {a : AcceptorId} {acceptor : Acceptor} (h : Accepts n a acceptor n' next)
    (found : n.acceptors.get? a = some acceptor) :
    Effect n id (.accept a) n' (n.admission a) := by
  simp only [admission, found]
  cases h with
  | stops closed =>
      simp only [closed, Bool.true_or, if_true]
      exact effect_of_keeps (keeps_closeSocket (tables_of_get? found rfl))
  | @turnsAway c rest opened backlog full =>
      simp only [full, decide_true, Bool.or_true, if_true]
      have hkept : Keeps n (n.setAcceptor a { acceptor with backlog := rest }) :=
        keeps_setAcceptor (tables_of_get? found rfl)
      exact effect_of_keeps (hkept.trans (keeps_dropConnection c))
  | attaches opened backlog room =>
      have hroom : ¬ (acceptor.closed || acceptor.backlog.isEmpty ||
          decide (acceptor.maxPeers ≤ acceptor.peers.length)) = true := by
        simp [opened, backlog, room]
      rw [if_neg hroom]
      exact .attaches found room

theorem effect_of_silence {b : BridgeId} {bridge : Bridge} (found : n.bridges.get? b = some bridge)
    (ends : a = .leave b ∨ a = .stop b) :
    Effect n id a ((n.setRunning b false).setBus (n.bus.unsubscribe bridge.id))
      (n.departure b) := by
  rw [← silence_of_found found, departure, found]
  exact .silences ends found

/-- An action that leaves the node as it is asks nothing of the bus. -/
theorem Proceeds.changesOf (h : Proceeds n id a next) : n.changesOf a = [] := by
  cases h with
  | leavesNothing unknown => simp [Node.changesOf, departure, unknown]
  | _ => rfl

/-- Every action has one of these effects. -/
theorem act_effect (h : n.act id a = some (n', next)) : Effect n id a n' (n.changesOf a) := by
  cases Acts.of_act h with
  | proceeds proceeds =>
      rw [proceeds.changesOf]
      exact effect_of_keeps (.refl n)
  | offers found has _ step | turnsBack found has step | queues found has step
  | takes found has step | retries found has step =>
      exact effect_of_keeps (keeps_outbox_step found has step (by simp))
  | closes found has step =>
      cases step
      exact .carries (carries_shut (face_of_get? found) rfl rfl)
  | callsToSend found on step =>
      exact .carries (carries_setCarrier found (by rw [on]; rfl) step .send)
  | callsToReceive found on step =>
      exact .carries (carries_setCarrier found (by rw [on]; rfl) step .receive)
  | calls found on call prompts step => exact .carries (prompts.carries found on step)
  | collects found on call step => exact .carries (carries_setLink found on step (.goOn rfl rfl))
  | shuts found on step => exact .carries (carries_setCarrier found (by rw [on]; rfl) step .close)
  | detaches found on step => exact .carries (carries_setLink found on step .detach)
  | spreads found on => exact effect_of_keeps (keeps_spread found on _)
  | records found on | waits found on | fails found on | passesGate found on | reads found on
  | hears found on | ignores found on | breaksOff found on | ends found on =>
      exact effect_of_keeps (keeps_setCarrier found (by rw [on]; rfl))
  | wakes found => exact .hands found
  | subscribes =>
      rw [subscribe_eq]
      exact .behaves _
  | unsubscribes =>
      rw [unsubscribe_eq]
      exact .behaves _
  | leaves found => exact effect_of_silence found (.inl rfl)
  | stops found => exact effect_of_silence found (.inr rfl)
  | accepts found accepts => exact accepts.effect found
  | forgets found | closesLoop found | clears found =>
      exact effect_of_keeps (keeps_setAcceptor (tables_of_get? found rfl))
  | closesSocket found => exact effect_of_keeps (keeps_closeSocket (tables_of_get? found rfl))
  | unbinds => exact effect_of_keeps (keeps_of_transports rfl (Nat.le_refl _) rfl)

/-! ## What comes from outside -/

/-- What an occurrence does to the node, and what it asks of the bus. -/
inductive Happens (n : Node) : Occurrence → Node → List (Bus.Change Listener) → Prop
  | keeps {o : Occurrence} {n' : Node} (keeps : Keeps n n') : Happens n o n' []
  | begins {o : Occurrence} {a : Action} {label : Option String} {n' : Node}
      (keeps : Keeps (n.spawn a label).2 n') : Happens n o n' []
  | asks {o : Occurrence} {who : String} (cs : List (Bus.Change Listener))
      (who : (∃ type, o = .subscribe who type) ∨ o = .unsubscribe who) :
      Happens n o (n.setBus (n.bus.applyAll cs)) cs
  | starts {b : BridgeId} {label : Option String} {bridge : Bridge}
      (found : n.bridges.get? b = some bridge) :
      Happens n (.startBridge b label)
        (((n.setRunning b true).setBus (n.bus.applyAll (bridge.arrival b))).spawn (.listen b)
          label).2 (bridge.arrival b)

theorem Occurs.happens {o : Occurrence} (h : Occurs n o n') : Happens n o n' (n.changesOn o) := by
  cases h with
  | misses misses => cases misses <;> exact .keeps (.refl n)
  | passes => exact .keeps (keeps_of_transports rfl (Nat.le_refl _) rfl)
  | touches remote => cases remote <;> exact .keeps (keeps_setConnection ..)
  | permits found on => exact .keeps (keeps_setCarrier found (by rw [on]; rfl))
  | dialsIn found =>
      exact .keeps ((keeps_setConnection ..).trans (keeps_setAcceptor (tables_of_get? found rfl)))
  | delivers => exact .keeps (keeps_deposit ..)
  | begins => exact .begins (.refl _)
  | startsNothing unknown =>
      simp only [changesOn, unknown, Option.map_none, Option.getD_none]
      exact .begins (.refl _)
  | starts found =>
      simp only [changesOn, found, Option.map_some, Option.getD_some]
      exact .starts found
  | @accepts a acceptor found =>
      exact @Happens.begins n _ (.accept a) none _ (keeps_setAcceptor (tables_of_get? found rfl))
  | subscribes =>
      rw [subscribe_eq]
      exact .asks _ (.inl ⟨_, rfl⟩)
  | unsubscribes =>
      rw [unsubscribe_eq]
      exact .asks _ (.inr rfl)

theorem occur_happens (n : Node) (o : Occurrence) : Happens n o (n.occur o) (n.changesOn o) :=
  (Occurs.of_occur n o).happens

/-! ## The bus -/

theorem bus_attach {a : AcceptorId} {acceptor : Acceptor} {c : ConnectionName}
    (room : ¬ acceptor.maxPeers ≤ acceptor.peers.length) :
    (n.attach a acceptor c).bus =
      n.bus.applyAll ((n.peerBridge acceptor).arrival (n.fresh + 2)) := by
  obtain ⟨bridges, -, heq⟩ := attach_eq n a acceptor c room
  rw [heq]

theorem Effect.bus {cs : List (Bus.Change Listener)} (h : Effect n id a n' cs) :
    n'.bus = n.bus.applyAll cs := by
  cases h with
  | carries hcarries => exact hcarries.bus
  | hands found => rfl
  | behaves cs => rfl
  | silences ends found =>
      rw [silence_of_found found]
      rfl
  | attaches found room => exact bus_attach room

theorem Happens.bus {o : Occurrence} {cs : List (Bus.Change Listener)} (h : Happens n o n' cs) :
    n'.bus = n.bus.applyAll cs := by
  cases h with
  | keeps hkeeps => exact hkeeps.bus
  | begins hkeeps => exact hkeeps.bus
  | asks cs who => rfl
  | starts found => rfl

/-- After a reply a task goes on, and nothing but its outbox or the log changes. -/
theorem resume_keeps {k : Then} {reply : Reply} (h : n.resume k reply = (n', next)) :
    Keeps n n' := by
  cases Resumes.of_resume h with
  | told found has step => exact keeps_outbox_step found has step (by simp)
  | published => exact keeps_of_transports rfl (Nat.le_refl _) rfl
  | _ => exact .refl n

theorem actionOf?_of_acting {task : Task} (found : n.tasks.get? id = some task)
    (goesOn : task.outbox.bind (n.haltSender id) = none) (acting : task.activity = .acting a) :
    n.actionOf? id = some a := by
  simp [actionOf?, found, goesOn, acting]

theorem actionOf?_of_replying {task : Task} {reply : Reply} (found : n.tasks.get? id = some task)
    (replying : task.activity = .replying reply) : n.actionOf? id = none := by
  simp only [actionOf?, found, replying, Option.bind_eq_bind, Option.bind_some]
  split <;> simp_all

theorem actionOf?_of_halts {task : Task} {t : TransportId} (found : n.tasks.get? id = some task)
    (outbox : task.outbox = some t) (halts : n.haltSender id t = some n') :
    n.actionOf? id = none := by
  simp [actionOf?, found, outbox, halts]

/-- **A move changes the bus by what it asks of it, and by nothing else.** -/
theorem bus_move (h : n.move m = some n') : n'.bus = n.bus.applyAll (changes (n, m)) := by
  cases m with
  | outside o =>
      cases h
      exact (occur_happens n o).bus
  | step id =>
      show n'.bus = n.bus.applyAll (((n.actionOf? id).map n.changesOf).getD [])
      cases Step.of_step h with
      | halt found outbox halts =>
          rw [actionOf?_of_halts found outbox halts]
          exact (Halts.of_haltSender halts).carries.bus
      | act found goesOn acting acts =>
          rw [actionOf?_of_acting found goesOn acting]
          exact (act_effect acts).bus
      | @finish task reply found goesOn replying last =>
          rw [actionOf?_of_replying found replying]
          obtain ⟨reports, heq⟩ := finish_eq n id task.label reply
          rw [heq]
          rfl
      | resume found goesOn replying waits resumes =>
          rw [actionOf?_of_replying found replying]
          exact (resume_keeps resumes).bus

/-- After a run the bus is what it was with all that was asked of it meanwhile, in order. -/
theorem bus_run {ms : List Move} (h : n.run ms = some n') :
    n'.bus = n.bus.applyAll ((history n ms).flatMap changes) := by
  refine run_induction (P := fun ms n' => n'.bus = n.bus.applyAll ((history n ms).flatMap changes))
    rfl ?_ h
  intro ms m before after hrun hbus hmove
  rw [bus_move hmove, hbus, history_snoc hrun, List.flatMap_append, Bus.applyAll_append]
  simp

/-! ## The task that makes a move -/

variable {task : Task} {reply : Reply}

theorem depth_of_found (found : n.tasks.get? id = some task) : n.depth id = task.pending.length := by
  simp [depth, found]

theorem answerOf?_of_acting (found : n.tasks.get? id = some task) (acting : task.activity = .acting a) :
    n.answerOf? id = none := by
  simp only [answerOf?, found, acting, Option.bind_eq_bind, Option.bind_some]
  split <;> simp_all

theorem answerOf?_of_replying (found : n.tasks.get? id = some task)
    (goesOn : task.outbox.bind (n.haltSender id) = none)
    (replying : task.activity = .replying reply) : n.answerOf? id = some reply := by
  simp [answerOf?, found, goesOn, replying]

theorem found_of_actionOf? (h : n.actionOf? id = some a) : ∃ task, n.tasks.get? id = some task := by
  obtain ⟨task, hfound, -⟩ := Option.bind_eq_some_iff.mp h
  exact ⟨task, hfound⟩

/-- The action of a task is the one that it is at. -/
theorem actionOf?_eq (found : n.tasks.get? id = some task) (h : n.actionOf? id = some a) :
    task.activity = .acting a ∧ task.outbox.bind (n.haltSender id) = none := by
  simp only [actionOf?, found, Option.bind_eq_bind, Option.bind_some] at h
  split at h
  · rename_i hgoesOn hacting
    cases h
    exact ⟨hacting, hgoesOn⟩
  · cases h

theorem step_of_actionOf? (found : n.tasks.get? id = some task) (acts : n.actionOf? id = some a) :
    n.step id = (n.act id a).map fun (after, next) => after.setTask id (task.advance next) := by
  obtain ⟨hacting, hgoesOn⟩ := actionOf?_eq found acts
  simp [Node.step, found, hgoesOn, hacting]

/-- A task that sends for no outbox is there until it ends. -/
theorem stays_of_step (found : n.tasks.get? id = some task) (bare : task.outbox = none)
    (hstep : n.step id = some n') (goesOn : ∀ r, task.activity = .replying r → task.pending ≠ []) :
    n'.tasks.get? id ≠ none := by
  cases Step.of_step hstep with
  | halt found' outbox =>
      cases found.symm.trans found'
      cases bare.symm.trans outbox
  | finish found' _ replying last =>
      cases found.symm.trans found'
      exact absurd last (goesOn _ replying)
  | act | resume => simp [setTask]

/-- What an own step of a task can be when its action goes on. -/
theorem step_of_acting (found : n.tasks.get? id = some task) (acting : task.activity = .acting a)
    (hstep : n.step id = some n') : n'.tasks.get? id = none ∨
      ∃ after next, n.act id a = some (after, next) ∧ n.actionOf? id = some a ∧
        n' = after.setTask id (task.advance next) := by
  cases Step.of_step hstep with
  | halt =>
      refine .inl ?_
      simp [endTask]
  | act found' goesOn acting' acts =>
      cases found.symm.trans found'
      cases acting.symm.trans acting'
      exact .inr ⟨_, _, acts, actionOf?_of_acting found goesOn acting, rfl⟩
  | finish found' _ replying =>
      cases found.symm.trans found'
      cases acting.symm.trans replying
  | resume found' _ replying =>
      cases found.symm.trans found'
      cases acting.symm.trans replying

/-- What an own step of a task can be when it takes up a reply. -/
theorem step_of_replying {k : Then} {pending : List Then} (found : n.tasks.get? id = some task)
    (replying : task.activity = .replying reply) (waits : task.pending = k :: pending)
    (hstep : n.step id = some n') : n'.tasks.get? id = none ∨
      ∃ after next, n.resume k reply = (after, next) ∧ n.answerOf? id = some reply ∧
        n' = after.setTask id ({ task with pending }.advance next) := by
  cases Step.of_step hstep with
  | halt =>
      refine .inl ?_
      simp [endTask]
  | act found' _ acting =>
      cases found.symm.trans found'
      cases replying.symm.trans acting
  | finish found' _ _ last =>
      cases found.symm.trans found'
      cases waits.symm.trans last
  | resume found' goesOn replying' waits' resumes =>
      cases found.symm.trans found'
      cases replying.symm.trans replying'
      cases waits.symm.trans waits'
      exact .inr ⟨_, _, resumes, answerOf?_of_replying found goesOn replying, rfl⟩

end Node

end TelemetryRelay
