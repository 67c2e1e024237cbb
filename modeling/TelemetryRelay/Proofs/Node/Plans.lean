import TelemetryRelay.Proofs.Node.Aside

/-!
# What tasks have still to do

The plan of a task is what it has still to do, as far as that is settled: the action it is
at, and the actions that wait for it.  A list of actions stands for its members.  An action
that is done leaves the plan; most put something in its place that has nothing to do with
acceptors, and only two put in something that has: to close an acceptor, and to dismiss
its peers.
-/

namespace TelemetryRelay

mutual

/-- An action, or what it is a list of. -/
def Action.plan : Action → List Action
  | .all actions => Action.plans actions
  | a => [a]

def Action.plans : List Action → List Action
  | [] => []
  | a :: others => a.plan ++ Action.plans others

end

def Then.plan : Then → List Action
  | .next a => a.plan
  | _ => []

def Transition.plan : Transition → List Action
  | .go a => a.plan
  | .call a k => a.plan ++ k.plan
  | .reply _ => []

def Activity.plan : Activity → List Action
  | .acting a => a.plan
  | .replying _ => []

def Task.plan (task : Task) : List Action := task.activity.plan ++ task.pending.flatMap Then.plan

theorem Task.plan_advance (task : Task) (next : Transition) :
    (task.advance next).plan = next.plan ++ task.pending.flatMap Then.plan := by
  cases next with
  | go | reply => rfl
  | call a k => simp [Task.plan, Task.advance, Activity.plan, Transition.plan]

theorem Task.outbox_advance (task : Task) (next : Transition) :
    (task.advance next).outbox = task.outbox := by
  cases next <;> rfl

/-- Nothing in it has to do with acceptors. -/
def Quiet (plan : List Action) : Prop := ∀ y ∈ plan, y.acceptor? = none

theorem quiet_nil : Quiet [] := fun _ h => absurd h List.not_mem_nil

theorem Quiet.cons {x : Action} {plan : List Action} (hx : x.acceptor? = none)
    (h : Quiet plan) : Quiet (x :: plan) :=
  List.forall_mem_cons.mpr ⟨hx, h⟩

theorem quiet_singleton {x : Action} (h : x.acceptor? = none) : Quiet [x] := quiet_nil.cons h

namespace Node

/-- What a task has still to do; one that has ended has nothing to do. -/
def planOf (n : Node) (id : TaskId) : List Action := ((n.tasks.get? id).map Task.plan).getD []

/-- How an action goes on. -/
inductive Ensues (n : Node) : Action → Transition → Prop
  | reply {x : Action} (r : Reply) (single : x.plan = [x]) : Ensues n x (.reply r)
  | send {t : TransportId} {f : Wire.Frame} : Ensues n (.send t f) (.go (.transmit t f))
  | offer {t : TransportId} {f : Wire.Frame} : Ensues n (.send t f) (.go (.offered t))
  | callToSend {t : TransportId} {f : Wire.Frame} : Ensues n (.transmit t f) (.go (.onLink t))
  | callToReceive {t : TransportId} : Ensues n (.fetch t) (.go (.onLink t))
  | call {t : TransportId} : Ensues n (.onLink t) (.go (.onLink t))
  | hold {t : TransportId} {f : Wire.Frame} : Ensues n (.transmit t f) (.go (.held t f))
  | receive {t : TransportId} : Ensues n (.receive t) (.go (.fetch t))
  | fetch {t : TransportId} : Ensues n (.fetch t) (.go (.fetch t))
  | terminate {t : TransportId} : Ensues n (.terminate t) (.go (.hangUp t))
  | shut {t : TransportId} :
      Ensues n (.terminate t) (.call (.hangUp t) (.next (.join t)))
  | hangUp {t : TransportId} : Ensues n (.hangUp t) (.go (.detach t))
  | transmit {t : TransportId} {f : Wire.Frame} :
      Ensues n (.drain t) (.call (.transmit t f) (.drained t))
  | drain {t : TransportId} : Ensues n (.drain t) (.go (.drain t))
  | publish {sender : Option ListenerId} {message : Option Message} (d : Delivery Listener) :
      Ensues n (.publish sender message) (.go (.deliver d))
  | deliver {d : Delivery Listener} (listener : Listener) (message : Message)
      (rest : Delivery Listener) : Ensues n (.deliver d) (.call (.hand listener message) (.handed rest))
  | forward {b : BridgeId} {message : Message} :
      Ensues n (.hand (.bridge b) message) (.call (.post b message) .forwarded)
  | behave {name : String} {message : Message} (behaviour : Behaviour) :
      Ensues n (.hand (.actor name) message) (.go (.behave name behaviour))
  | goOn {name : String} {behaviour : Behaviour} (next : Behaviour) :
      Ensues n (.behave name behaviour) (.go (.behave name next))
  | speak {name : String} {behaviour : Behaviour} (sender : Option ListenerId)
      (message : Option Message) (k : Except BusError Nat → Behaviour) :
      Ensues n (.behave name behaviour) (.call (.publish sender message) (.published name k))
  | post {b : BridgeId} {message : Message} {bridge : Bridge} (f : Wire.Frame)
      (found : n.bridges.get? b = some bridge) :
      Ensues n (.post b message) (.call (.send bridge.transport f) .posted)
  | listen {b : BridgeId} {bridge : Bridge} (found : n.bridges.get? b = some bridge) :
      Ensues n (.listen b) (.call (.receive bridge.transport) (.heard b))
  | leave {b : BridgeId} : Ensues n (.listen b) (.go (.leave b))
  | rest {b : BridgeId} : Ensues n (.rest b) (.go (.listen b))
  | stop {b : BridgeId} {bridge : Bridge} (found : n.bridges.get? b = some bridge) :
      Ensues n (.stop b) (.go (.terminate bridge.transport))
  | accept {a : AcceptorId} : Ensues n (.accept a) (.go (.accept a))
  | await {a : AcceptorId} {acceptor : Acceptor} (loop : TaskId)
      (found : n.acceptors.get? a = some acceptor) (opened : acceptor.closed = false) :
      Ensues n (.close a) (.call (.await loop) (.next (.dismiss a)))
  | close {a : AcceptorId} {acceptor : Acceptor} (found : n.acceptors.get? a = some acceptor)
      (opened : acceptor.closed = false) : Ensues n (.close a) (.go (.dismiss a))
  | dismiss {a : AcceptorId} {acceptor : Acceptor} (found : n.acceptors.get? a = some acceptor) :
      Ensues n (.dismiss a) (.go (.all (acceptor.peers.map .stop ++ [.clear a])))
  | first {a : Action} {rest : List Action} : Ensues n (.all (a :: rest)) (.call a (.next (.all rest)))
  | done : Ensues n (.all []) (.reply .done)

/-- How a task goes on that has got the reply that it waits for. -/
inductive TakesUp : Then → Transition → Prop
  | next {a : Action} : TakesUp (.next a) (.go a)
  | drained {t : TransportId} : TakesUp (.drained t) (.go (.drain t))
  | handed {d : Delivery Listener} (rest : Delivery Listener) :
      TakesUp (.handed d) (.go (.deliver rest))
  | published {name : String} {k : Except BusError Nat → Behaviour} (behaviour : Behaviour) :
      TakesUp (.published name k) (.go (.behave name behaviour))
  | heard {b : BridgeId} (sender : ListenerId) (message : Message) :
      TakesUp (.heard b) (.call (.publish (some sender) (some message)) (.next (.listen b)))
  | listen {b : BridgeId} : TakesUp (.heard b) (.go (.listen b))
  | rest {b : BridgeId} : TakesUp (.heard b) (.go (.rest b))
  | leave {b : BridgeId} : TakesUp (.heard b) (.go (.leave b))
  | reply {k : Then} (r : Reply) (last : k.plan = []) : TakesUp k (.reply r)

/-- What one step of an action puts in its place. -/
inductive Unfolds (n : Node) (x : Action) : List Action → Prop
  /-- The next member of a list comes first, or accepting goes on. -/
  | goesOn : Unfolds n x x.plan
  | quiet {plan : List Action} (single : x.plan = [x]) (quiet : Quiet plan) : Unfolds n x plan
  | closes {a : AcceptorId} {acceptor : Acceptor} {first : List Action} (is : x = .close a)
      (found : n.acceptors.get? a = some acceptor) (opened : acceptor.closed = false)
      (quiet : Quiet first) : Unfolds n x (first ++ [.dismiss a])
  | dismisses {a : AcceptorId} {acceptor : Acceptor} (is : x = .dismiss a)
      (found : n.acceptors.get? a = some acceptor) :
      Unfolds n x (acceptor.peers.map .stop ++ [.clear a])

variable {n n' : Node} {id : TaskId} {t : TransportId} {x y : Action} {next : Transition}
  {topic : Topic} {a : AcceptorId}

theorem planOf_of_found {task : Task} (found : n.tasks.get? id = some task) :
    n.planOf id = task.plan := by
  simp [planOf, found]

theorem planOf_of_gone (gone : n.tasks.get? id = none) : n.planOf id = [] := by
  simp [planOf, gone]

theorem mem_planOf :
    y ∈ n.planOf id ↔ ∃ task, n.tasks.get? id = some task ∧ y ∈ task.plan := by
  cases hfound : n.tasks.get? id <;> simp [planOf, hfound]

/-! ## How actions go on -/

theorem Proceeds.ensues (h : Proceeds n id x next) : Ensues n x next := by
  cases h with
  | passesOn => exact .send
  | receives => exact .receive
  | hangsUp => exact .terminate
  | transmits => exact .transmit
  | publishes => exact .publish _
  | delivers => exact .deliver ..
  | forwards => exact .forward
  | speaks => exact .speak ..
  | posts found => exact .post _ found
  | listens found => exact .listen found
  | quits => exact .leave
  | rests => exact .rest
  | dismisses found => exact .dismiss found
  | done => exact .done
  | first => exact .first
  | _ => exact .reply _ rfl

/-- **How one step of an action goes on.** -/
theorem act_ensues (h : n.act id x = some (n', next)) : Ensues n x next := by
  cases Acts.of_act h with
  | proceeds proceeds => exact proceeds.ensues
  | offers => exact .offer
  | callsToSend => exact .callToSend
  | waits => exact .hold
  | callsToReceive => exact .callToReceive
  | ignores => exact .fetch
  | calls => exact .call
  | closes => exact .shut
  | shuts => exact .hangUp
  | takes | retries => exact .drain
  | wakes => exact .behave _
  | subscribes | unsubscribes => exact .goOn _
  | stops found => exact .stop found
  | accepts found accepts =>
      cases accepts with
      | stops => exact .reply _ rfl
      | turnsAway | attaches => exact .accept
  | closesLoop found opened => exact .await _ found opened
  | closesSocket found opened => exact .close found opened
  | _ => exact .reply _ rfl

theorem heard_takesUp (n : Node) (b : BridgeId) (r : Except LinkError Wire.Frame) :
    TakesUp (.heard b) (n.heard b r) := by
  unfold heard
  split
  · exact .leave
  · split
    · split
      · exact .heard ..
      · exact .listen
    · exact .leave
    · split
      · exact .rest
      · exact .leave

/-- **How a task goes on with a reply.** -/
theorem resume_takesUp {k : Then} {reply : Reply} (h : n.resume k reply = (n', next)) :
    TakesUp k next := by
  cases Resumes.of_resume h with
  | next => exact .next
  | told | untold => exact .drained
  | handed => exact .handed _
  | published => exact .published _
  | heard => exact heard_takesUp ..
  | forwarded | posted => exact .reply _ rfl
  | mismatched other =>
      cases k with
      | next => cases other
      | _ => exact .reply _ rfl

/-! ## What actions unfold to -/

theorem plan_of_dismissal (a : AcceptorId) (peers : List BridgeId) :
    (Action.all (peers.map .stop ++ [.clear a])).plan = peers.map .stop ++ [.clear a] := by
  show Action.plans _ = _
  induction peers with
  | nil => rfl
  | cons b rest ih => simp [Action.plans, Action.plan, ih]

/-- To close an open acceptor is to wait until it has stopped accepting, and to dismiss its
peers then. -/
theorem plan_of_close {acceptor : Acceptor} (found : n.acceptors.get? a = some acceptor)
    (opened : acceptor.closed = false) (h : n.act id (.close a) = some (n', next)) :
    ∃ first, Quiet first ∧ next.plan = first ++ [.dismiss a] := by
  cases Acts.of_act h with
  | proceeds proceeds =>
      cases proceeds with
      | isClosed found' closed =>
          cases found.symm.trans found'
          cases opened.symm.trans closed
  | @closesLoop _ _ loop => exact ⟨[.await loop], quiet_singleton rfl, rfl⟩
  | closesSocket => exact ⟨[], quiet_nil, rfl⟩

/-- To dismiss the peers is to stop each of them, and to forget them then. -/
theorem plan_of_dismiss {acceptor : Acceptor} (found : n.acceptors.get? a = some acceptor)
    (h : n.act id (.dismiss a) = some (n', next)) :
    next.plan = acceptor.peers.map .stop ++ [.clear a] := by
  obtain ⟨proceeds⟩ := Acts.of_act h
  cases proceeds with
  | dismisses found' =>
      cases found.symm.trans found'
      exact plan_of_dismissal a acceptor.peers

/-- **What one step of an action puts in its place.** -/
theorem act_unfolds (h : n.act id x = some (n', next)) : Unfolds n x next.plan := by
  cases act_ensues h with
  | reply r single => exact .quiet single quiet_nil
  | done | accept | first => exact .goesOn
  | @await a acceptor loop found opened =>
      have hquiet : Quiet [.await loop] := quiet_singleton rfl
      exact .closes rfl found opened hquiet
  | close found opened => exact .closes rfl found opened quiet_nil
  | dismiss found =>
      rw [Transition.plan, plan_of_dismissal]
      exact .dismisses rfl found
  | shut => exact .quiet rfl ((quiet_singleton rfl).cons rfl)
  | _ => exact .quiet rfl (quiet_singleton rfl)

/-- A reply is taken up by who waits for it, and what that has planned goes on. -/
theorem resume_plan {k : Then} {reply : Reply} (h : n.resume k reply = (n', next)) :
    (∃ a, k = .next a ∧ next.plan = k.plan) ∨ k.plan = [] ∧ Quiet next.plan := by
  cases resume_takesUp h with
  | next => exact .inl ⟨_, rfl, rfl⟩
  | reply r last => exact .inr ⟨last, quiet_nil⟩
  | heard => exact .inr ⟨rfl, (quiet_singleton rfl).cons rfl⟩
  | _ => exact .inr ⟨rfl, quiet_singleton rfl⟩

end Node

end TelemetryRelay
