import TelemetryRelay.Proofs.Bus.History
import TelemetryRelay.Proofs.Link.Steps
import TelemetryRelay.Proofs.Node.Steps
import TelemetryRelay.Proofs.Outbox.Steps

/-!
# The rules of actions

`Acts` lists all that one step of an action can be, one rule for each outcome, with what it
requires, what it leaves of the node and how the task goes on; steps that leave the node as it
is have their rules in `Proceeds`.  So have a call on a link, a dial, a reply that is taken up,
a sender that is halted, and what comes from outside: `Prompts`, `Dials`, `Resumes`, `Halts`,
`Occurs`.  Whoever proves something of all steps takes one case for each rule, and opens none
of the functions behind them.
-/

namespace TelemetryRelay

open Wire

/-- What a bridge asks of the bus when it starts. -/
def Bridge.arrival (bridge : Bridge) (b : BridgeId) : List (Bus.Change Listener) :=
  bridge.interests.map fun type => .subscribe bridge.id (.bridge b) type

/-- What the remote end of a connection does to it. -/
inductive Occurrence.Remote : Occurrence → ConnectionName → (Connection → Connection) → Prop
  | write {c : ConnectionName} {bytes : Bytes} :
      Remote (.write c bytes) c fun x => { x with inbound := x.inbound ++ bytes }
  | close {c : ConnectionName} : Remote (.close c) c fun x => { x with remoteClosed := true }
  | failReads {c : ConnectionName} {e : IoError} :
      Remote (.failReads c e) c fun x => { x with readFault := some e }
  | failWrites {c : ConnectionName} {e : IoError} :
      Remote (.failWrites c e) c fun x => { x with writeFault := some e }
  | credit {c : ConnectionName} {count : Option Nat} :
      Remote (.credit c count) c fun x => { x with credit := count }

/-- Whether who waits takes up such a reply. -/
def Then.takes : Then → Reply → Bool
  | .next _, _ | .drained _, .sent _ | .handed _, .taken _ | .published .., .published _
  | .forwarded, .posted _ | .posted, .sent _ | .heard _, .received _ => true
  | _, _ => false

namespace Node

/-- Nothing changes but the network around the node, and how many numbers were drawn. -/
def Outdoors (n n' : Node) : Prop :=
  ∃ connections hosts fresh, n.fresh ≤ fresh ∧ n' = { n with connections, hosts, fresh }

/-! ## Calls on links -/

/-- What a dial comes to, and what it does to the network. -/
inductive Dials (n : Node) : Except IoError ConnectionName → Node → Prop
  | fails {e : IoError} : Dials n (.error e) n
  | plays {name : ConnectionName} : Dials n (.ok name) (n.setConnection name (n.connection name))
  /-- A dial may take a name that has been taken before. -/
  | connects {e : Endpoint} {backlog : List ConnectionName} {name : ConnectionName}
      (known : n.hosts.get? e = some backlog) (called : name = s!"{e.render} #{n.fresh}") :
      Dials n (.ok name)
        { n.draw.2.setConnection name {} with hosts := n.hosts.set e (backlog ++ [name]) }

/-- What a call brings to its link, and what it does around the link meanwhile. -/
inductive Prompts (n : Node) (l : Link) (dialer : Option Dialer) (id : TaskId) :
    Link.Event → Option Dialer → Node → Prop
  | collect {c : Link.Call} {outcome : Link.Outcome} (call : l.calls.get? id = some c)
      (phase : c.phase = .done outcome) : Prompts n l dialer id (.collect id) dialer n
  | cancel (closed : l.closed = true) : Prompts n l dialer id (.cancel id) dialer n
  | look : Prompts n l dialer id (.look id) dialer n
  | ask : Prompts n l dialer id (.ask id) dialer n
  | lose : Prompts n l dialer id (.lose id) dialer n
  | flushed : Prompts n l dialer id (.flushed id) dialer n
  | wrote {name : ConnectionName} {rest : Bytes} {count : Nat} {c : Connection}
      (writes : (n.connection name).write rest = (.ready count, c)) :
      Prompts n l dialer id (.wrote id count) dialer (n.setConnection name c)
  | writeFails {e : IoError} {g seen : Nat} {rest : Bytes} {lane : Link.Lane} {c : Link.Call}
      (holds : l.Holds id c g seen (.writing rest) lane) :
      Prompts n l dialer id (.broke id e) dialer n
  | parse {c : Link.Call} {g seen : Nat} {progress : Progress} {lane : Link.Lane}
      (holds : l.Holds id c g seen (.reading progress) lane) (unread : lane.unread ≠ []) :
      Prompts n l dialer id (.parse id) dialer n
  | filled {c : Link.Call} {g seen : Nat} {progress : Progress} {lane : Link.Lane} {bytes : Bytes}
      {after : Connection} (holds : l.Holds id c g seen (.reading progress) lane)
      (reads : (n.connection lane.connection).read = (.ready bytes, after)) :
      Prompts n l dialer id (.filled id bytes) dialer (n.setConnection lane.connection after)
  | readFails {e : IoError} {c : Link.Call} {g seen : Nat} {progress : Progress}
      {lane : Link.Lane} {after : Connection} (holds : l.Holds id c g seen (.reading progress) lane)
      (reads : (n.connection lane.connection).read = (.fault e, after)) :
      Prompts n l dialer id (.broke id e) dialer n
  | ended {c : Link.Call} {g seen : Nat} {progress : Progress} {lane : Link.Lane}
      {after : Connection} (holds : l.Holds id c g seen (.reading progress) lane)
      (reads : (n.connection lane.connection).read = (.ended, after)) :
      Prompts n l dialer id (.ended id) dialer n
  | judge : Prompts n l dialer id (.judge id) dialer n
  | enter : Prompts n l dialer id (.enter id n.now) dialer n
  | dial {now : Nat} {dialer' : Option Dialer} : Prompts n l dialer id (.dial id now) dialer' n
  | dialled {result : Except IoError ConnectionName} {dialer' : Option Dialer} {n' : Node}
      (dials : Dials n result n') : Prompts n l dialer id (.dialled id result) dialer' n'

/-! ## Actions -/

/-- The steps of actions that leave the node as it is. -/
inductive Proceeds (n : Node) (id : TaskId) : Action → Transition → Prop
  | passesOn {t : TransportId} {f : Frame} {tr : Transport} (found : n.transports.get? t = some tr)
      (bare : tr.outbox = none) : Proceeds n id (.send t f) (.go (.transmit t f))
  | refused {t : TransportId} {f : Frame} {tr : Transport} {o : Outbox}
      (found : n.transports.get? t = some tr) (has : tr.outbox = some o) (closed : o.closed = true) :
      Proceeds n id (.send t f) (.reply (.sent (.error .closed)))
  | sendsNothing {t : TransportId} {f : Frame} {tr : Transport} {d : DatagramLink}
      (found : n.transports.get? t = some tr) (on : tr.carrier = .datagram d)
      (closed : d.closed = true) :
      Proceeds n id (.transmit t f) (.reply (.sent (.error .closed)))
  | shut {t : TransportId} {tr : Transport} (found : n.transports.get? t = some tr)
      (shut : tr.outbox.any (·.closed) = true) :
      Proceeds n id (.receive t) (.reply (.received (.error .closed)))
  | receives {t : TransportId} {tr : Transport} (found : n.transports.get? t = some tr)
      (opened : tr.outbox.any (·.closed) = false) : Proceeds n id (.receive t) (.go (.fetch t))
  | hearsNothing {t : TransportId} {tr : Transport} {d : DatagramLink}
      (found : n.transports.get? t = some tr) (on : tr.carrier = .datagram d)
      (closed : d.closed = true) :
      Proceeds n id (.fetch t) (.reply (.received (.error .closed)))
  | hangsUp {t : TransportId} {tr : Transport} (found : n.transports.get? t = some tr)
      (bare : tr.outbox = none) : Proceeds n id (.terminate t) (.go (.hangUp t))
  | terminated {t : TransportId} {tr : Transport} {o : Outbox}
      (found : n.transports.get? t = some tr) (has : tr.outbox = some o) (closed : o.closed = true) :
      Proceeds n id (.terminate t) (.reply .done)
  | hungUp {t : TransportId} {tr : Transport} {l : Link} {dialer : Option Dialer}
      (found : n.transports.get? t = some tr) (on : tr.carrier = .link l dialer)
      (closed : l.closed = true) : Proceeds n id (.hangUp t) (.reply .done)
  | offLink {t : TransportId} {tr : Transport} (found : n.transports.get? t = some tr)
      (off : ∀ l dialer, tr.carrier ≠ .link l dialer) : Proceeds n id (.detach t) (.reply .done)
  | joins {t : TransportId} {tr : Transport} (found : n.transports.get? t = some tr)
      (stopped : tr.outbox.all (·.sender = .stopped) = true) :
      Proceeds n id (.join t) (.reply .done)
  | drained {t : TransportId} {tr : Transport} {o : Outbox} (found : n.transports.get? t = some tr)
      (has : tr.outbox = some o) (stopped : o.sender = .stopped) :
      Proceeds n id (.drain t) (.reply .done)
  | transmits {t : TransportId} {f : Frame} {tr : Transport} {o : Outbox}
      (found : n.transports.get? t = some tr) (has : tr.outbox = some o)
      (sending : o.sender = .sending f) :
      Proceeds n id (.drain t) (.call (.transmit t f) (.drained t))
  | declines {sender : Option ListenerId} {message : Option Message} {e : BusError}
      (fails : Delivery.start n.bus sender message = .error e) :
      Proceeds n id (.publish sender message) (.reply (.published (.error e)))
  | publishes {sender : Option ListenerId} {message : Option Message} {d : Delivery Listener}
      (starts : Delivery.start n.bus sender message = .ok d) :
      Proceeds n id (.publish sender message) (.go (.deliver d))
  | delivered {d : Delivery Listener} (exhausted : d.remaining = []) :
      Proceeds n id (.deliver d) (.reply (.published (.ok d.delivered)))
  | delivers {d : Delivery Listener} {s : Subscriber Listener} {rest : List (Subscriber Listener)}
      (remaining : d.remaining = s :: rest) : Proceeds n id (.deliver d)
        (.call (.hand s.listener d.message) (.handed { d with remaining := rest }))
  | logs {message : Message} : Proceeds n id (.hand .logger message) (.reply (.taken true))
  | forwards {b : BridgeId} {message : Message} :
      Proceeds n id (.hand (.bridge b) message) (.call (.post b message) .forwarded)
  | misses {name : String} {message : Message} (unknown : n.actors.get? name = none) :
      Proceeds n id (.hand (.actor name) message) (.reply (.taken false))
  | answers {name : String} {taken : Bool} :
      Proceeds n id (.behave name (.finish taken)) (.reply (.taken taken))
  | speaks {name : String} {sender : Option String} {message : Option Message}
      {k : Except BusError Nat → Behaviour} :
      Proceeds n id (.behave name (.publish sender message k))
        (.call (.publish (sender.bind n.listenerId?) message) (.published name k))
  | unframed {b : BridgeId} {bridge : Bridge} {message : Message} {e : BridgeError}
      (found : n.bridges.get? b = some bridge) (fails : bridge.table.frameOf message = .error e) :
      Proceeds n id (.post b message) (.reply (.posted (.error e)))
  | posts {b : BridgeId} {bridge : Bridge} {message : Message} {f : Frame}
      (found : n.bridges.get? b = some bridge) (frame : bridge.table.frameOf message = .ok f) :
      Proceeds n id (.post b message) (.call (.send bridge.transport f) .posted)
  | listens {b : BridgeId} {bridge : Bridge} (found : n.bridges.get? b = some bridge)
      (running : bridge.running = true) :
      Proceeds n id (.listen b) (.call (.receive bridge.transport) (.heard b))
  | quits {b : BridgeId} {bridge : Bridge} (found : n.bridges.get? b = some bridge)
      (halted : bridge.running = false) : Proceeds n id (.listen b) (.go (.leave b))
  | rests {b : BridgeId} : Proceeds n id (.rest b) (.go (.listen b))
  | leavesNothing {b : BridgeId} (unknown : n.bridges.get? b = none) :
      Proceeds n id (.leave b) (.reply .left)
  | awaits {task : TaskId} (gone : n.tasks.get? task = none) :
      Proceeds n id (.await task) (.reply .done)
  | forgetsNothing {a : AcceptorId} {b : BridgeId} (unknown : n.acceptors.get? a = none) :
      Proceeds n id (.forget a b) (.reply .done)
  | isClosed {a : AcceptorId} {acceptor : Acceptor} (found : n.acceptors.get? a = some acceptor)
      (closed : acceptor.closed = true) : Proceeds n id (.close a) (.reply .done)
  | dismisses {a : AcceptorId} {acceptor : Acceptor} (found : n.acceptors.get? a = some acceptor) :
      Proceeds n id (.dismiss a) (.go (.all (acceptor.peers.map .stop ++ [.clear a])))
  | clearsNothing {a : AcceptorId} (unknown : n.acceptors.get? a = none) :
      Proceeds n id (.clear a) (.reply .done)
  | done : Proceeds n id (.all []) (.reply .done)
  | first {x : Action} {rest : List Action} :
      Proceeds n id (.all (x :: rest)) (.call x (.next (.all rest)))

/-- What one step of accepting comes to. -/
inductive Accepts (n : Node) (a : AcceptorId) (acceptor : Acceptor) : Node → Transition → Prop
  | stops (closed : acceptor.closed = true) :
      Accepts n a acceptor (n.closeSocket a acceptor) (.reply .done)
  | turnsAway {c : ConnectionName} {rest : List ConnectionName} (opened : acceptor.closed = false)
      (backlog : acceptor.backlog = c :: rest) (full : acceptor.maxPeers ≤ acceptor.peers.length) :
      Accepts n a acceptor
        ((n.setAcceptor a { acceptor with backlog := rest }).dropConnection c) (.go (.accept a))
  | attaches {c : ConnectionName} {rest : List ConnectionName} (opened : acceptor.closed = false)
      (backlog : acceptor.backlog = c :: rest)
      (room : ¬ acceptor.maxPeers ≤ acceptor.peers.length) :
      Accepts n a acceptor (n.attach a { acceptor with backlog := rest } c) (.go (.accept a))

/-- The node that has sent a frame to whom it goes. -/
def spread (n : Node) (t : TransportId) (d : DatagramLink) (f : Frame) : Node :=
  ((d.targets n.now).1.filter n.reaches).foldl
    (fun n peer => n.deposit ⟨d.address, f.encode⟩ peer)
    (n.setCarrier t (.datagram (d.targets n.now).2))

/-- All steps of actions. -/
inductive Acts (n : Node) (id : TaskId) : Action → Node → Transition → Prop
  | proceeds {x : Action} {next : Transition} (proceeds : Proceeds n id x next) :
      Acts n id x n next
  | offers {t : TransportId} {f : Frame} {tr : Transport} {o o' : Outbox}
      (found : n.transports.get? t = some tr) (has : tr.outbox = some o) (opened : o.closed = false)
      (step : Outbox.Step o (.offer id f) o') :
      Acts n id (.send t f) (n.setOutbox t o') (.go (.offered t))
  | turnsBack {t : TransportId} {tr : Transport} {o o' : Outbox}
      (found : n.transports.get? t = some tr) (has : tr.outbox = some o)
      (step : Outbox.Step o (.refuse id) o') :
      Acts n id (.offered t) (n.setOutbox t o') (.reply (.sent (.error .closed)))
  | queues {t : TransportId} {tr : Transport} {o o' : Outbox}
      (found : n.transports.get? t = some tr) (has : tr.outbox = some o)
      (step : Outbox.Step o (.accept id) o') :
      Acts n id (.offered t) (n.setOutbox t o') (.reply (.sent (.ok ())))
  | callsToSend {t : TransportId} {f : Frame} {tr : Transport} {l l' : Link}
      {dialer : Option Dialer} (found : n.transports.get? t = some tr)
      (on : tr.carrier = .link l dialer) (step : Link.Step l (.call id (.send f.encode)) l') :
      Acts n id (.transmit t f) (n.setCarrier t (.link l' dialer)) (.go (.onLink t))
  | spreads {t : TransportId} {f : Frame} {tr : Transport} {d : DatagramLink}
      {result : Except LinkError Unit} (found : n.transports.get? t = some tr)
      (on : tr.carrier = .datagram d) (opened : d.closed = false) :
      Acts n id (.transmit t f) (n.spread t d f) (.reply (.sent result))
  | records {t : TransportId} {f : Frame} {tr : Transport} {s : Scripted}
      (found : n.transports.get? t = some tr) (on : tr.carrier = .scripted s)
      (outcome : s.attempt.1 = .ok) : Acts n id (.transmit t f)
        (n.setCarrier t (.scripted (s.attempt.2.record f))) (.reply (.sent (.ok ())))
  | waits {t : TransportId} {f : Frame} {tr : Transport} {s : Scripted}
      (found : n.transports.get? t = some tr) (on : tr.carrier = .scripted s)
      (outcome : s.attempt.1 = .gate) : Acts n id (.transmit t f)
        (n.setCarrier t (.scripted (s.attempt.2.hold id))) (.go (.held t f))
  | fails {t : TransportId} {f : Frame} {tr : Transport} {s : Scripted} {e : LinkError}
      (found : n.transports.get? t = some tr) (on : tr.carrier = .scripted s)
      (outcome : s.attempt.1 = .fail e) : Acts n id (.transmit t f)
        (n.setCarrier t (.scripted s.attempt.2)) (.reply (.sent (.error e)))
  | passesGate {t : TransportId} {f : Frame} {tr : Transport} {s : Scripted}
      (found : n.transports.get? t = some tr) (on : tr.carrier = .scripted s)
      (may : s.mayPass id = true) : Acts n id (.held t f)
        (n.setCarrier t (.scripted ((s.pass id).record f))) (.reply (.sent (.ok ())))
  | callsToReceive {t : TransportId} {tr : Transport} {l l' : Link} {dialer : Option Dialer}
      (found : n.transports.get? t = some tr) (on : tr.carrier = .link l dialer)
      (step : Link.Step l (.call id .receive) l') :
      Acts n id (.fetch t) (n.setCarrier t (.link l' dialer)) (.go (.onLink t))
  | hears {t : TransportId} {tr : Transport} {d : DatagramLink} {result : Except LinkError Frame}
      (found : n.transports.get? t = some tr) (on : tr.carrier = .datagram d)
      (opened : d.closed = false) (inbox : d.inbox ≠ [])
      (received : (d.receive n.now).1 = some result) : Acts n id (.fetch t)
        (n.setCarrier t (.datagram (d.receive n.now).2)) (.reply (.received result))
  | ignores {t : TransportId} {tr : Transport} {d : DatagramLink}
      (found : n.transports.get? t = some tr) (on : tr.carrier = .datagram d)
      (opened : d.closed = false) (inbox : d.inbox ≠ []) (received : (d.receive n.now).1 = none) :
      Acts n id (.fetch t) (n.setCarrier t (.datagram (d.receive n.now).2)) (.go (.fetch t))
  | reads {t : TransportId} {tr : Transport} {s : Scripted} {r : Except LinkError Frame}
      {rest : List (Except LinkError Frame)} (found : n.transports.get? t = some tr)
      (on : tr.carrier = .scripted s) (script : s.receives = r :: rest) : Acts n id (.fetch t)
        (n.setCarrier t (.scripted { s with receives := rest })) (.reply (.received r))
  | calls {t : TransportId} {tr : Transport} {l l' : Link} {dialer dialer' : Option Dialer}
      {c : Link.Call} {e : Link.Event} {n' : Node} (found : n.transports.get? t = some tr)
      (on : tr.carrier = .link l dialer) (call : l.calls.get? id = some c)
      (prompts : Prompts n l dialer id e dialer' n') (step : Link.Step l e l')
      (goesOn : e ≠ .collect id) :
      Acts n id (.onLink t) (n'.setLink t l l' dialer') (.go (.onLink t))
  | collects {t : TransportId} {tr : Transport} {l l' : Link} {dialer : Option Dialer}
      {c : Link.Call} (found : n.transports.get? t = some tr) (on : tr.carrier = .link l dialer)
      (call : l.calls.get? id = some c) (step : Link.Step l (.collect id) l') :
      Acts n id (.onLink t) (n.setLink t l l' dialer) (.reply (replyOf c))
  | closes {t : TransportId} {tr : Transport} {o o' : Outbox} (found : n.transports.get? t = some tr)
      (has : tr.outbox = some o) (step : Outbox.Step o .close o') :
      Acts n id (.terminate t) (n.setOutbox t o') (.call (.hangUp t) (.next (.join t)))
  | breaksOff {t : TransportId} {tr : Transport} {s : Scripted}
      (found : n.transports.get? t = some tr) (on : tr.carrier = .scripted s) :
      Acts n id (.hangUp t) (n.setCarrier t (.scripted { s with closed := true })) (.reply .done)
  | ends {t : TransportId} {tr : Transport} {d : DatagramLink}
      (found : n.transports.get? t = some tr) (on : tr.carrier = .datagram d) :
      Acts n id (.hangUp t) (n.setCarrier t (.datagram d.terminate)) (.reply .done)
  | shuts {t : TransportId} {tr : Transport} {l l' : Link} {dialer : Option Dialer}
      (found : n.transports.get? t = some tr) (on : tr.carrier = .link l dialer)
      (step : Link.Step l .close l') :
      Acts n id (.hangUp t) (n.setCarrier t (.link l' dialer)) (.go (.detach t))
  | detaches {t : TransportId} {tr : Transport} {l l' : Link} {dialer : Option Dialer}
      (found : n.transports.get? t = some tr) (on : tr.carrier = .link l dialer)
      (step : Link.Step l .detach l') :
      Acts n id (.detach t) (n.setLink t l l' dialer) (.reply .done)
  | takes {t : TransportId} {tr : Transport} {o o' : Outbox} (found : n.transports.get? t = some tr)
      (has : tr.outbox = some o) (step : Outbox.Step o .take o') :
      Acts n id (.drain t) (n.setOutbox t o') (.go (.drain t))
  | retries {t : TransportId} {tr : Transport} {o o' : Outbox}
      (found : n.transports.get? t = some tr) (has : tr.outbox = some o)
      (step : Outbox.Step o (.retry (n.now + n.shortfall o.retryPause)) o') :
      Acts n id (.drain t) (n.setOutbox t o') (.go (.drain t))
  | wakes {name : String} {message : Message} {actor : Actor}
      (found : n.actors.get? name = some actor) : Acts n id (.hand (.actor name) message)
        ({ n with actors := n.actors.set name { actor with calls := actor.calls + 1 } }.record
          (.received name message))
        (.go (.behave name (actor.behave (actor.calls + 1) message)))
  | subscribes {name who : String} {type : Family} {k : Behaviour} :
      Acts n id (.behave name (.subscribe who type k)) (n.subscribe who type) (.go (.behave name k))
  | unsubscribes {name who : String} {k : Bool → Behaviour} :
      Acts n id (.behave name (.unsubscribe who k)) (n.unsubscribe who)
        (.go (.behave name (k (n.isSubscribed who))))
  | leaves {b : BridgeId} {bridge : Bridge} (found : n.bridges.get? b = some bridge) :
      Acts n id (.leave b) ((n.setRunning b false).setBus (n.bus.unsubscribe bridge.id))
        (.reply .left)
  | stops {b : BridgeId} {bridge : Bridge} (found : n.bridges.get? b = some bridge) :
      Acts n id (.stop b) ((n.setRunning b false).setBus (n.bus.unsubscribe bridge.id))
        (.go (.terminate bridge.transport))
  | accepts {a : AcceptorId} {acceptor : Acceptor} {n' : Node} {next : Transition}
      (found : n.acceptors.get? a = some acceptor) (accepts : Accepts n a acceptor n' next) :
      Acts n id (.accept a) n' next
  | forgets {a : AcceptorId} {b : BridgeId} {acceptor : Acceptor}
      (found : n.acceptors.get? a = some acceptor) : Acts n id (.forget a b)
        (n.setAcceptor a { acceptor with peers := acceptor.peers.erase b }) (.reply .done)
  | closesLoop {a : AcceptorId} {acceptor : Acceptor} {loop : TaskId}
      (found : n.acceptors.get? a = some acceptor) (opened : acceptor.closed = false)
      (running : acceptor.loop = some loop) :
      Acts n id (.close a) (n.setAcceptor a { acceptor with closed := true })
        (.call (.await loop) (.next (.dismiss a)))
  | closesSocket {a : AcceptorId} {acceptor : Acceptor}
      (found : n.acceptors.get? a = some acceptor) (opened : acceptor.closed = false)
      (idle : acceptor.loop = none) :
      Acts n id (.close a) (n.closeSocket a { acceptor with closed := true }) (.go (.dismiss a))
  | clears {a : AcceptorId} {acceptor : Acceptor} (found : n.acceptors.get? a = some acceptor) :
      Acts n id (.clear a) (n.setAcceptor a { acceptor with peers := [] }) (.reply .done)
  | unbinds {s : Socket} :
      Acts n id (.unbind s) { n with bound := n.bound.erase s } (.reply .done)

/-! ## Replies, and senders that are halted -/

/-- How who waits takes up a reply; a `mismatched` one goes on to who waits next. -/
inductive Resumes (n : Node) : Then → Reply → Node → Transition → Prop
  | next {x : Action} {r : Reply} : Resumes n (.next x) r n (.go x)
  | told {t : TransportId} {result : Except LinkError Unit} {tr : Transport} {o o' : Outbox}
      (found : n.transports.get? t = some tr) (has : tr.outbox = some o)
      (step : Outbox.Step o (.sent (.ofResult tr.canRecover result) n.now) o') :
      Resumes n (.drained t) (.sent result) (n.setOutbox t o') (.go (.drain t))
  | untold {t : TransportId} {result : Except LinkError Unit}
      (idle : ∀ tr o o', n.transports.get? t = some tr → tr.outbox = some o →
        ¬ Outbox.Step o (.sent (.ofResult tr.canRecover result) n.now) o') :
      Resumes n (.drained t) (.sent result) n (.go (.drain t))
  | handed {d : Delivery Listener} {ok : Bool} :
      Resumes n (.handed d) (.taken ok) n (.go (.deliver (d.record ok)))
  | published {name : String} {k : Except BusError Nat → Behaviour} {result : Except BusError Nat} :
      Resumes n (.published name k) (.published result) (n.record (.published name result))
        (.go (.behave name (k result)))
  | forwarded {result : Except BridgeError Unit} :
      Resumes n .forwarded (.posted result) n (.reply (.taken true))
  | posted {result : Except LinkError Unit} :
      Resumes n .posted (.sent result) n (.reply (.posted (result.mapError .link)))
  | heard {b : BridgeId} {result : Except LinkError Frame} :
      Resumes n (.heard b) (.received result) n (n.heard b result)
  | mismatched {k : Then} {r : Reply} (other : k.takes r = false) : Resumes n k r n (.reply r)

/-- What becomes of the carrier of a transport whose sender is halted. -/
inductive Frees (id : TaskId) : Carrier → Carrier → Prop
  | same {c : Carrier} : Frees id c c
  | link {l l' : Link} {dialer : Option Dialer} (step : Link.Step l (.drop id) l') :
      Frees id (.link l dialer) (.link l' dialer)
  | script {s : Scripted} :
      Frees id (.scripted s) (.scripted { s with held := s.held.erase id })

/-- A sender is halted with its outbox, and takes with it what it is at underneath. -/
inductive Halts (n : Node) (id : TaskId) (t : TransportId) : Node → Prop
  | halts {tr : Transport} {o o' : Outbox} {c : Carrier} (found : n.transports.get? t = some tr)
      (has : tr.outbox = some o) (step : Outbox.Step o .halt o') (frees : Frees id tr.carrier c) :
      Halts n id t ((n.setCarrier t c).setOutbox t o')

/-! ## What comes from outside -/

/-- What finds nobody leaves the node as it is. -/
inductive Misses (n : Node) : Occurrence → Prop
  | permit {t : TransportId} {count : Nat}
      (off : ∀ tr s, n.transports.get? t = some tr → tr.carrier ≠ .scripted s) :
      Misses n (.permit t count)
  | dialIn {a : AcceptorId} {c : ConnectionName}
      (closed : ∀ acceptor, n.acceptors.get? a = some acceptor → acceptor.closed = true) :
      Misses n (.dialIn a c)
  | startAcceptor {a : AcceptorId} (busy : ∀ acceptor, n.acceptors.get? a = some acceptor →
      acceptor.closed = true ∨ acceptor.loop ≠ none) : Misses n (.startAcceptor a)

/-- All that comes from outside. -/
inductive Occurs (n : Node) : Occurrence → Node → Prop
  | misses {o : Occurrence} (misses : Misses n o) : Occurs n o n
  | passes {duration : Nat} : Occurs n (.pass duration) { n with now := n.now + duration }
  | touches {o : Occurrence} {c : ConnectionName} {f : Connection → Connection}
      (remote : o.Remote c f) : Occurs n o (n.onConnection c f)
  | permits {t : TransportId} {count : Nat} {tr : Transport} {s : Scripted}
      (found : n.transports.get? t = some tr) (on : tr.carrier = .scripted s) :
      Occurs n (.permit t count)
        (n.setCarrier t (.scripted { s with permits := s.permits + count }))
  | dialsIn {a : AcceptorId} {c : ConnectionName} {acceptor : Acceptor}
      (found : n.acceptors.get? a = some acceptor) (opened : acceptor.closed = false) :
      Occurs n (.dialIn a c)
        ((n.setConnection c {}).setAcceptor a { acceptor with backlog := acceptor.backlog ++ [c] })
  | delivers {g : Datagram} {address : Address} :
      Occurs n (.datagram g address) (n.deposit g address)
  | begins {x : Action} {label : Option String} : Occurs n (.begin x label) (n.spawn x label).2
  | startsNothing {b : BridgeId} {label : Option String} (unknown : n.bridges.get? b = none) :
      Occurs n (.startBridge b label) (n.spawn (.leave b) label).2
  | starts {b : BridgeId} {label : Option String} {bridge : Bridge}
      (found : n.bridges.get? b = some bridge) :
      Occurs n (.startBridge b label)
        (((n.setRunning b true).setBus (n.bus.applyAll (bridge.arrival b))).spawn (.listen b)
          label).2
  | accepts {a : AcceptorId} {acceptor : Acceptor} (found : n.acceptors.get? a = some acceptor)
      (opened : acceptor.closed = false) (idle : acceptor.loop = none) :
      Occurs n (.startAcceptor a)
        ((n.spawn (.accept a)).2.setAcceptor a { acceptor with loop := some n.fresh })
  | subscribes {who : String} {type : Family} :
      Occurs n (.subscribe who type) (n.subscribe who type)
  | unsubscribes {who : String} : Occurs n (.unsubscribe who) (n.unsubscribe who)

/-- The bridge that a peer gets. -/
def peerBridge (n : Node) (acceptor : Acceptor) : Bridge :=
  { id := ⟨n.fresh + 2⟩, table := acceptor.table, transport := n.fresh, running := true }

variable {n n' : Node} {id : TaskId} {t : TransportId} {x : Action} {next : Transition} {l : Link}
  {dialer dialer' : Option Dialer} {e : Link.Event} {a : AcceptorId} {acceptor : Acceptor}

/-! ## The rules of calls -/

theorem connect_dials (n : Node) (endpoint : Endpoint) :
    Dials n (n.connect endpoint).1 (n.connect endpoint).2 := by
  unfold connect
  split
  · exact .fails
  · rename_i known
    split
    · exact .connects known rfl
    · exact .fails

theorem endDial_dials {d d' : Dialer} {result : Except IoError ConnectionName}
    (h : n.endDial d = some (result, d', n')) : Dials n result n' := by
  cases d with
  | endpoint endpoint =>
      cases h
      exact connect_dials n endpoint
  | scripted script calls due =>
      simp only [endDial, Option.ite_none_left_eq_some] at h
      obtain ⟨-, h⟩ := h
      split at h
      · cases h
        exact .fails
      · rename_i d rest
        cases h
        cases d.result with
        | ok name => exact .plays
        | error e => exact .fails

theorem readEvent_prompts {c : Link.Call} {g seen : Nat} {progress : Progress} {lane : Link.Lane}
    (holds : l.Holds id c g seen (.reading progress) lane)
    (h : n.readEvent lane.connection id = some (e, n')) : Prompts n l dialer id e dialer n' := by
  unfold readEvent at h
  split at h
  rename_i reads
  split at h <;> cases h
  · exact .filled holds reads
  · exact .readFails holds reads
  · exact .ended holds reads

theorem writeEvent_prompts {c : Link.Call} {g seen : Nat} {rest : Bytes} {lane : Link.Lane}
    (holds : l.Holds id c g seen (.writing rest) lane)
    (h : n.writeEvent lane.connection id rest = some (e, n')) :
    Prompts n l dialer id e dialer n' := by
  unfold writeEvent at h
  split at h
  rename_i writes
  split at h <;> cases h
  · exact .wrote writes
  · exact .writeFails holds

theorem workEvent_prompts {c : Link.Call} {g seen : Nat} {work : Link.Work}
    (call : l.calls.get? id = some c) (phase : c.phase = .working g seen work)
    (h : n.workEvent l id g work = some (e, n')) : Prompts n l dialer id e dialer n' := by
  obtain ⟨lane, found, h⟩ := Option.bind_eq_some_iff.mp h
  split at h
  · cases h
    exact .lose
  · rename_i hlive
    split at h
    · cases h
    · rename_i hturn
      have holds : l.Holds id c g seen work lane :=
        ⟨call, phase, found, Classical.not_not.mp hturn, Bool.eq_false_iff.mpr hlive⟩
      split at h
      · cases h
        exact .flushed
      · exact writeEvent_prompts holds h
      · split at h
        · rename_i unread
          cases h
          exact .parse holds unread
        · exact readEvent_prompts holds h

theorem Prompts.of_callEvent (h : n.callEvent l dialer id = some (e, dialer', n')) :
    Prompts n l dialer id e dialer' n' := by
  obtain ⟨c, call, h⟩ := Option.bind_eq_some_iff.mp h
  split at h
  · rename_i phase
    cases h
    exact .collect call phase
  · split at h
    · rename_i closed
      cases h
      exact .cancel closed
    · split at h
      · cases h
        exact .look
      · cases h
        split
        · exact .lose
        · exact .ask
      · rename_i phase
        obtain ⟨⟨e', n''⟩, work, h⟩ := Option.map_eq_some_iff.mp h
        cases h
        exact workEvent_prompts call phase work
      · cases h
        exact .judge
      · split at h <;> cases h
        exact .enter
      · split at h <;> cases h
        exact .dial
      · obtain ⟨⟨result, d, n''⟩, ends, h⟩ := Option.map_eq_some_iff.mp h
        cases h
        obtain ⟨d', -, ends⟩ := Option.bind_eq_some_iff.mp ends
        exact .dialled (endDial_dials ends)
      · cases h

/-! ## The rules of actions -/

theorem acts_of_send {f : Frame} (h : n.send id t f = some (n', next)) :
    Acts n id (.send t f) n' next := by
  obtain ⟨tr, found, h⟩ := Option.bind_eq_some_iff.mp h
  split at h
  · rename_i bare
    cases h
    exact .proceeds (.passesOn found bare)
  · rename_i o has
    split at h
    · rename_i closed
      cases h
      exact .proceeds (.refused found has closed)
    · rename_i opened
      obtain ⟨o', step, h⟩ := Option.map_eq_some_iff.mp h
      cases h
      exact .offers found has (Bool.eq_false_iff.mpr opened) (.of_step step)

theorem acts_of_queueUp (h : n.queueUp id t = some (n', next)) :
    Acts n id (.offered t) n' next := by
  obtain ⟨tr, found, h⟩ := Option.bind_eq_some_iff.mp h
  obtain ⟨o, has, h⟩ := Option.bind_eq_some_iff.mp h
  split at h
  · rename_i o' step
    cases h
    exact .turnsBack found has (.of_step step)
  · obtain ⟨o', step, h⟩ := Option.map_eq_some_iff.mp h
    cases h
    exact .queues found has (.of_step step)

/-- A call comes to a link. -/
theorem of_startCall {job : Link.Job} (h : n.startCall id t l dialer job = some (n', next)) :
    ∃ l', Link.Step l (.call id job) l' ∧ n' = n.setCarrier t (.link l' dialer) ∧
      next = .go (.onLink t) := by
  obtain ⟨l', step, h⟩ := Option.bind_eq_some_iff.mp h
  cases h
  exact ⟨l', .of_step step, rfl, rfl⟩

theorem address_targets (d : DatagramLink) (now : Nat) : (d.targets now).2.address = d.address := by
  unfold DatagramLink.targets
  split <;> rfl

/-- Whom an open link sends to gets the frame, one after the other. -/
theorem sendDatagrams_eq (n : Node) (t : TransportId) {d : DatagramLink} (f : Frame)
    (opened : d.closed = false) :
    ∃ result, n.sendDatagrams t d f = (.sent result, n.spread t d f) := by
  unfold spread
  rw [← address_targets d n.now]
  simp only [sendDatagrams, opened, Bool.false_eq_true, if_false]
  split <;> exact ⟨_, rfl⟩

theorem acts_of_transmit {f : Frame} (h : n.transmit id t f = some (n', next)) :
    Acts n id (.transmit t f) n' next := by
  obtain ⟨tr, found, h⟩ := Option.bind_eq_some_iff.mp h
  split at h
  · rename_i on
    obtain ⟨l', step, rfl, rfl⟩ := of_startCall h
    exact .callsToSend found on step
  · rename_i d on
    cases hclosed : d.closed with
    | true =>
        simp only [sendDatagrams, hclosed, if_true] at h
        cases h
        exact .proceeds (.sendsNothing found on hclosed)
    | false =>
        obtain ⟨result, hsent⟩ := sendDatagrams_eq n t f hclosed
        rw [hsent] at h
        cases h
        exact .spreads found on hclosed
  · rename_i s on
    dsimp only at h
    split at h <;> rename_i outcome <;> cases h
    · exact .records found on outcome
    · exact .waits found on outcome
    · exact .fails found on outcome

theorem acts_of_passGate {f : Frame} (h : n.passGate id t f = some (n', next)) :
    Acts n id (.held t f) n' next := by
  obtain ⟨tr, found, h⟩ := Option.bind_eq_some_iff.mp h
  split at h
  · rename_i on
    split at h
    · rename_i may
      cases h
      exact .passesGate found on may
    · cases h
  · cases h

theorem acts_of_receive (h : n.receive t = some (n', next)) : Acts n id (.receive t) n' next := by
  obtain ⟨tr, found, h⟩ := Option.bind_eq_some_iff.mp h
  split at h
  · rename_i shut
    cases h
    exact .proceeds (.shut found shut)
  · rename_i opened
    cases h
    exact .proceeds (.receives found (Bool.eq_false_iff.mpr opened))

theorem acts_of_fetch (h : n.fetch id t = some (n', next)) : Acts n id (.fetch t) n' next := by
  obtain ⟨tr, found, h⟩ := Option.bind_eq_some_iff.mp h
  split at h
  · rename_i on
    obtain ⟨l', step, rfl, rfl⟩ := of_startCall h
    exact .callsToReceive found on step
  · rename_i d on
    unfold fetchDatagram at h
    split at h
    · rename_i closed
      cases h
      exact .proceeds (.hearsNothing found on closed)
    · rename_i opened
      have hopened := Bool.eq_false_iff.mpr opened
      split at h
      · cases h
      · rename_i inbox
        dsimp only at h
        split at h <;> rename_i received <;> cases h
        · exact .hears found on hopened inbox received
        · exact .ignores found on hopened inbox received
  · rename_i on
    split at h
    · cases h
    · rename_i script
      cases h
      exact .reads found on script

theorem acts_of_stepCall (h : n.stepCall id t = some (n', next)) :
    Acts n id (.onLink t) n' next := by
  obtain ⟨tr, found, h⟩ := Option.bind_eq_some_iff.mp h
  split at h
  · rename_i l dialer on
    simp only [Option.bind_eq_bind, Option.bind_eq_some_iff] at h
    obtain ⟨c, call, ⟨e, dialer', n₁⟩, event, l', step, h⟩ := h
    have prompts := Prompts.of_callEvent event
    dsimp only at h
    split at h
    · cases h
      cases prompts with
      | collect => exact .collects found on call (.of_step step)
    · rename_i hcollect
      cases h
      exact .calls found on call prompts (.of_step step) (hcollect id)
  · cases h

theorem acts_of_terminate (h : n.terminate t = some (n', next)) :
    Acts n id (.terminate t) n' next := by
  obtain ⟨tr, found, h⟩ := Option.bind_eq_some_iff.mp h
  split at h
  · rename_i bare
    cases h
    exact .proceeds (.hangsUp found bare)
  · rename_i o has
    split at h
    · rename_i stuck
      cases h
      exact .proceeds (.terminated found has (by simpa [Outbox.step] using stuck))
    · rename_i o' step
      cases h
      exact .closes found has (.of_step step)

theorem acts_of_hangUp (h : n.hangUp t = some (n', next)) : Acts n id (.hangUp t) n' next := by
  obtain ⟨tr, found, h⟩ := Option.bind_eq_some_iff.mp h
  split at h
  · rename_i on
    cases h
    exact .breaksOff found on
  · rename_i on
    cases h
    exact .ends found on
  · rename_i l dialer on
    split at h
    · rename_i stuck
      cases h
      exact .proceeds (.hungUp found on (by simpa [Link.step] using stuck))
    · rename_i l' step
      cases h
      exact .shuts found on (.of_step step)

theorem acts_of_detach (h : n.detach t = some (n', next)) : Acts n id (.detach t) n' next := by
  obtain ⟨tr, found, h⟩ := Option.bind_eq_some_iff.mp h
  split at h
  · rename_i on
    obtain ⟨l', step, h⟩ := Option.bind_eq_some_iff.mp h
    cases h
    exact .detaches found on (.of_step step)
  · rename_i off
    cases h
    exact .proceeds (.offLink found off)

theorem acts_of_join (h : n.join t = some (n', next)) : Acts n id (.join t) n' next := by
  obtain ⟨tr, found, h⟩ := Option.bind_eq_some_iff.mp h
  split at h
  · rename_i stopped
    cases h
    exact .proceeds (.joins found stopped)
  · cases h

theorem acts_of_drain (h : n.drain t = some (n', next)) : Acts n id (.drain t) n' next := by
  obtain ⟨tr, found, h⟩ := Option.bind_eq_some_iff.mp h
  obtain ⟨o, has, h⟩ := Option.bind_eq_some_iff.mp h
  split at h
  · rename_i stopped
    cases h
    exact .proceeds (.drained found has stopped)
  · rename_i sending
    cases h
    exact .proceeds (.transmits found has sending)
  · obtain ⟨o', step, h⟩ := Option.map_eq_some_iff.mp h
    cases h
    exact .takes found has (.of_step step)
  · obtain ⟨o', step, h⟩ := Option.map_eq_some_iff.mp h
    cases h
    exact .retries found has (.of_step step)

theorem proceeds_of_publish (n : Node) (sender : Option ListenerId) (message : Option Message) :
    Proceeds n id (.publish sender message) (n.publish sender message) := by
  unfold publish
  split
  · rename_i fails
    exact .declines fails
  · rename_i starts
    exact .publishes starts

theorem proceeds_of_deliver (n : Node) (d : Delivery Listener) :
    Proceeds n id (.deliver d) (deliver d) := by
  unfold deliver
  split
  · rename_i exhausted
    exact .delivered exhausted
  · rename_i remaining
    exact .delivers remaining

theorem acts_of_hand {listener : Listener} {message : Message}
    (h : n.hand message listener = (n', next)) : Acts n id (.hand listener message) n' next := by
  unfold hand at h
  split at h
  · cases h
    exact .proceeds .logs
  · cases h
    exact .proceeds .forwards
  · split at h
    · rename_i unknown
      cases h
      exact .proceeds (.misses unknown)
    · rename_i found
      cases h
      exact .wakes found

theorem acts_of_behave {name : String} {behaviour : Behaviour}
    (h : n.behave name behaviour = (n', next)) : Acts n id (.behave name behaviour) n' next := by
  cases behaviour with
  | finish taken =>
      cases h
      exact .proceeds .answers
  | subscribe who type k =>
      cases h
      exact .subscribes
  | unsubscribe who k =>
      cases h
      exact .unsubscribes
  | publish sender message k =>
      cases h
      exact .proceeds .speaks

theorem proceeds_of_post {b : BridgeId} {message : Message} (h : n.post b message = some next) :
    Proceeds n id (.post b message) next := by
  obtain ⟨bridge, found, h⟩ := Option.bind_eq_some_iff.mp h
  split at h
  · rename_i fails
    cases h
    exact .unframed found fails
  · rename_i frame
    cases h
    exact .posts found frame

theorem proceeds_of_listen {b : BridgeId} (h : n.listen b = some next) :
    Proceeds n id (.listen b) next := by
  obtain ⟨bridge, found, h⟩ := Option.bind_eq_some_iff.mp h
  split at h
  · rename_i running
    cases h
    exact .listens found running
  · rename_i halted
    cases h
    exact .quits found (Bool.eq_false_iff.mpr halted)

theorem silence_of_found {b : BridgeId} {bridge : Bridge}
    (found : n.bridges.get? b = some bridge) :
    n.silence b = (n.setRunning b false).setBus (n.bus.unsubscribe bridge.id) := by
  simp [silence, found]

theorem acts_of_leave (n : Node) (id : TaskId) (b : BridgeId) :
    Acts n id (.leave b) (n.silence b) (.reply .left) := by
  cases found : n.bridges.get? b with
  | none =>
      have hsame : n.silence b = n := by simp [silence, found]
      rw [hsame]
      exact .proceeds (.leavesNothing found)
  | some bridge =>
      rw [silence_of_found found]
      exact .leaves found

theorem accepts_of_accept (found : n.acceptors.get? a = some acceptor)
    (h : n.accept a = some (n', next)) : Accepts n a acceptor n' next := by
  obtain ⟨acceptor', found', h⟩ := Option.bind_eq_some_iff.mp h
  obtain rfl := Option.some.inj (found.symm.trans found')
  split at h
  · rename_i hclosed
    cases h
    exact .stops hclosed
  · rename_i hopen
    have hopened := Bool.eq_false_iff.mpr hopen
    split at h
    · cases h
    · rename_i c rest hbacklog
      cases h
      by_cases hfull : acceptor.maxPeers ≤ acceptor.peers.length
      · have hdrop : n.attach a { acceptor with backlog := rest } c =
            (n.setAcceptor a { acceptor with backlog := rest }).dropConnection c := by
          simp [attach, hfull]
        rw [hdrop]
        exact .turnsAway hopened hbacklog hfull
      · exact .attaches hopened hbacklog hfull

/-- To close a socket drops the connections at it, and nothing else. -/
theorem closeSocket_eq (n : Node) (a : AcceptorId) (acceptor : Acceptor) :
    ∃ connections, n.closeSocket a acceptor =
      { n with connections, acceptors := n.acceptors.set a { acceptor with backlog := [] } } := by
  have hdrops : ∀ (cs : List ConnectionName) (n : Node),
      ∃ connections, cs.foldl dropConnection n = { n with connections } := by
    intro cs
    induction cs with
    | nil => exact fun n => ⟨n.connections, rfl⟩
    | cons c rest ih => exact fun n => ih (n.dropConnection c)
  obtain ⟨connections, hdropped⟩ := hdrops acceptor.backlog n
  refine ⟨connections, ?_⟩
  rw [closeSocket, hdropped]
  rfl

theorem acts_of_closeAcceptor (h : n.closeAcceptor a = some (n', next)) :
    Acts n id (.close a) n' next := by
  obtain ⟨acceptor, found, h⟩ := Option.bind_eq_some_iff.mp h
  split at h
  · rename_i closed
    cases h
    exact .proceeds (.isClosed found closed)
  · rename_i opened
    have hopened := Bool.eq_false_iff.mpr opened
    dsimp only at h
    split at h <;> rename_i loop <;> cases h
    · exact .closesLoop found hopened loop
    · exact .closesSocket found hopened loop

theorem acts_of_forgetPeer (n : Node) (id : TaskId) (a : AcceptorId) (b : BridgeId) :
    Acts n id (.forget a b) (n.forgetPeer a b) (.reply .done) := by
  unfold forgetPeer
  split
  · rename_i found
    exact .forgets found
  · rename_i unknown
    exact .proceeds (.forgetsNothing unknown)

theorem acts_of_clearPeers (n : Node) (id : TaskId) (a : AcceptorId) :
    Acts n id (.clear a) (n.clearPeers a) (.reply .done) := by
  unfold clearPeers
  split
  · rename_i found
    exact .clears found
  · rename_i unknown
    exact .proceeds (.clearsNothing unknown)

/-- **Every step of an action follows one of the rules.** -/
theorem Acts.of_act (h : n.act id x = some (n', next)) : Acts n id x n' next := by
  cases x with
  | send t f => exact acts_of_send h
  | offered t => exact acts_of_queueUp h
  | transmit t f => exact acts_of_transmit h
  | held t f => exact acts_of_passGate h
  | receive t => exact acts_of_receive h
  | fetch t => exact acts_of_fetch h
  | onLink t => exact acts_of_stepCall h
  | terminate t => exact acts_of_terminate h
  | hangUp t => exact acts_of_hangUp h
  | detach t => exact acts_of_detach h
  | join t => exact acts_of_join h
  | drain t => exact acts_of_drain h
  | publish sender message =>
      cases h
      exact .proceeds (proceeds_of_publish ..)
  | deliver d =>
      cases h
      exact .proceeds (proceeds_of_deliver ..)
  | hand listener message => exact acts_of_hand (Option.some.inj h)
  | behave name behaviour => exact acts_of_behave (Option.some.inj h)
  | post b message =>
      obtain ⟨_, hpost, h⟩ := Option.map_eq_some_iff.mp h
      cases h
      exact .proceeds (proceeds_of_post hpost)
  | listen b =>
      obtain ⟨_, hlisten, h⟩ := Option.map_eq_some_iff.mp h
      cases h
      exact .proceeds (proceeds_of_listen hlisten)
  | rest b =>
      cases h
      exact .proceeds .rests
  | leave b =>
      cases h
      exact acts_of_leave ..
  | stop b =>
      obtain ⟨bridge, found, h⟩ := Option.bind_eq_some_iff.mp h
      cases h
      rw [silence_of_found found]
      exact .stops found
  | await task =>
      simp only [act, Option.ite_none_right_eq_some, Option.isNone_iff_eq_none] at h
      obtain ⟨gone, h⟩ := h
      cases h
      exact .proceeds (.awaits gone)
  | accept a =>
      obtain ⟨acceptor, found, -⟩ := Option.bind_eq_some_iff.mp h
      exact .accepts found (accepts_of_accept found h)
  | forget a b =>
      cases h
      exact acts_of_forgetPeer ..
  | close a => exact acts_of_closeAcceptor h
  | dismiss a =>
      obtain ⟨acceptor, found, h⟩ := Option.bind_eq_some_iff.mp h
      cases h
      exact .proceeds (.dismisses found)
  | clear a =>
      cases h
      exact acts_of_clearPeers ..
  | unbind s =>
      cases h
      exact .unbinds
  | all actions =>
      cases actions with
      | nil =>
          cases h
          exact .proceeds .done
      | cons first rest =>
          cases h
          exact .proceeds .first

/-- On a link, who sends begins a call. -/
theorem calls_of_transmit {f : Frame} {tr : Transport} (found : n.transports.get? t = some tr)
    (on : tr.carrier = .link l dialer) (h : n.act id (.transmit t f) = some (n', next)) :
    ∃ l', Link.Step l (.call id (.send f.encode)) l' ∧ n' = n.setCarrier t (.link l' dialer) ∧
      next = .go (.onLink t) := by
  cases Acts.of_act h with
  | callsToSend found' on' step =>
      cases found.symm.trans found'
      cases on.symm.trans on'
      exact ⟨_, step, rfl, rfl⟩
  | spreads found' on' | records found' on' | waits found' on' | fails found' on' =>
      cases found.symm.trans found'
      cases on.symm.trans on'
  | proceeds proceeds =>
      cases proceeds with
      | sendsNothing found' on' =>
          cases found.symm.trans found'
          cases on.symm.trans on'

/-- On a link, who receives begins a call. -/
theorem calls_of_fetch {tr : Transport} (found : n.transports.get? t = some tr)
    (on : tr.carrier = .link l dialer) (h : n.act id (.fetch t) = some (n', next)) :
    ∃ l', Link.Step l (.call id .receive) l' ∧ n' = n.setCarrier t (.link l' dialer) ∧
      next = .go (.onLink t) := by
  cases Acts.of_act h with
  | callsToReceive found' on' step =>
      cases found.symm.trans found'
      cases on.symm.trans on'
      exact ⟨_, step, rfl, rfl⟩
  | hears found' on' | ignores found' on' | reads found' on' =>
      cases found.symm.trans found'
      cases on.symm.trans on'
  | proceeds proceeds =>
      cases proceeds with
      | hearsNothing found' on' =>
          cases found.symm.trans found'
          cases on.symm.trans on'

/-! ## The rules of replies and of halted senders -/

theorem resumes_of_drained (n : Node) (t : TransportId) (result : Except LinkError Unit) :
    Resumes n (.drained t) (.sent result) (n.drained t result) (.go (.drain t)) := by
  unfold drained
  split
  · rename_i tr found
    split
    · rename_i o' told
      obtain ⟨o, has, step⟩ := Option.bind_eq_some_iff.mp told
      exact .told found has (.of_step step)
    · rename_i idle
      refine .untold fun tr' o o' found' has step => ?_
      cases found.symm.trans found'
      simp [has, Outbox.step_iff.mpr step] at idle
  · rename_i unknown
    exact .untold fun tr o o' found => by cases unknown.symm.trans found

theorem Resumes.of_resume {k : Then} {r : Reply} (h : n.resume k r = (n', next)) :
    Resumes n k r n' next := by
  unfold resume at h
  split at h <;> cases h
  · exact .next
  · exact resumes_of_drained ..
  · exact .handed
  · exact .published
  · exact .forwarded
  · exact .posted
  · exact .heard
  · refine .mismatched ?_
    unfold Then.takes
    split <;> simp_all

theorem Halts.of_haltSender (h : n.haltSender id t = some n') : Halts n id t n' := by
  simp only [haltSender, Option.bind_eq_bind, Option.bind_eq_some_iff] at h
  obtain ⟨tr, found, o, has, o', step, h⟩ := h
  cases h
  refine .halts found has (.of_step step) ?_
  split
  · rename_i l dialer on
    rw [on]
    cases hdrop : l.step (.drop id) with
    | none => exact .same
    | some l' => exact .link (.of_step hdrop)
  · rename_i on
    rw [on]
    exact .script
  · exact .same

/-- A task that is over is gone, and a label is told what became of it. -/
theorem finish_eq (n : Node) (id : TaskId) (label : Option String) (reply : Reply) :
    ∃ reports, n.finish id label reply = { n with tasks := n.tasks.erase id, reports } := by
  cases label with
  | none => exact ⟨n.reports, rfl⟩
  | some label => exact ⟨_, rfl⟩

/-! ## The rules of what comes from outside -/

theorem arrival_eq (bus : Bus Listener) (bridge : Bridge) (b : BridgeId) :
    bridge.interests.foldl (fun bus type => bus.subscribe bridge.id (.bridge b) type) bus =
      bus.applyAll (bridge.arrival b) := by
  unfold Bus.applyAll Bridge.arrival
  rw [List.foldl_map]
  rfl

theorem startBridge_eq {b : BridgeId} {bridge : Bridge} (found : n.bridges.get? b = some bridge)
    (label : Option String) : n.startBridge b label =
      ((n.setRunning b true).setBus (n.bus.applyAll (bridge.arrival b))).spawn (.listen b)
        label := by
  simp only [startBridge, found, arrival_eq]

/-- What a peer gets when there is room for it. -/
theorem attach_eq (n : Node) (a : AcceptorId) (acceptor : Acceptor) (c : ConnectionName)
    (room : ¬ acceptor.maxPeers ≤ acceptor.peers.length) : ∃ bridges : Assoc BridgeId Bridge,
    (∀ b, bridges.get? b =
      if b = n.fresh + 2 then some (n.peerBridge acceptor) else n.bridges.get? b) ∧
    n.attach a acceptor c = { n with
      fresh := n.fresh + 5
      bus := n.bus.applyAll ((n.peerBridge acceptor).arrival (n.fresh + 2))
      transports := n.transports.set n.fresh {
        carrier := .link (.plain c) none
        outbox := some (.make acceptor.capacity peerRetryPause) }
      bridges
      acceptors := n.acceptors.set a { acceptor with peers := acceptor.peers ++ [n.fresh + 2] }
      tasks := ((n.tasks.set (n.fresh + 1)
        { activity := .acting (.drain n.fresh), outbox := some n.fresh }).set (n.fresh + 3)
        { activity := .acting (.listen (n.fresh + 2)) }).set (n.fresh + 4)
        { activity := .acting (.all [.await (n.fresh + 3), .stop (n.fresh + 2),
          .forget a (n.fresh + 2)]) } } := by
  refine ⟨(n.bridges.set (n.fresh + 2) { n.peerBridge acceptor with running := false }).modify
    (n.fresh + 2) ({ · with running := true }), fun b => ?_, ?_⟩
  · by_cases hb : b = n.fresh + 2 <;> simp [hb, peerBridge]
  · rw [← arrival_eq]
    simp only [attach, room, if_false, addTransport, addBridge, draw, spawn, startBridge,
      setTransport, setRunning, setBus, setAcceptor, Assoc.get?_set_self]
    rfl

theorem occurs_of_addPermits (n : Node) (t : TransportId) (count : Nat) :
    Occurs n (.permit t count) (n.addPermits t count) := by
  unfold addPermits
  split
  · rename_i scripted
    obtain ⟨tr, found, on⟩ := Option.map_eq_some_iff.mp scripted
    exact .permits found on
  · rename_i off
    exact .misses (.permit fun tr s found on => off s (by simp [found, on]))

theorem occurs_of_dialIn (n : Node) (a : AcceptorId) (c : ConnectionName) :
    Occurs n (.dialIn a c) (n.dialIn a c) := by
  unfold dialIn
  split
  · rename_i acceptor found
    split
    · rename_i closed
      exact .misses (.dialIn fun acceptor' found' => by cases found.symm.trans found'; exact closed)
    · rename_i opened
      exact .dialsIn found (Bool.eq_false_iff.mpr opened)
  · rename_i unknown
    exact .misses (.dialIn fun acceptor found => by cases unknown.symm.trans found)

theorem occurs_of_startBridge (n : Node) (b : BridgeId) (label : Option String) :
    Occurs n (.startBridge b label) (n.startBridge b label).2 := by
  cases found : n.bridges.get? b with
  | none =>
      simp only [startBridge, found]
      exact .startsNothing found
  | some bridge =>
      rw [startBridge_eq found]
      exact .starts found

theorem occurs_of_startAcceptor (n : Node) (a : AcceptorId) :
    Occurs n (.startAcceptor a) (n.startAcceptor a) := by
  unfold startAcceptor
  split
  · rename_i acceptor found
    split
    · rename_i busy
      refine .misses (.startAcceptor fun acceptor' found' => ?_)
      cases found.symm.trans found'
      simpa [Option.ne_none_iff_isSome] using busy
    · rename_i idle
      simp only [Bool.or_eq_true, not_or, Bool.not_eq_true, Option.isSome_eq_false_iff,
        Option.isNone_iff_eq_none] at idle
      exact .accepts found idle.1 idle.2
  · rename_i unknown
    exact .misses (.startAcceptor fun acceptor found => by cases unknown.symm.trans found)

/-- **All that comes from outside follows one of the rules.** -/
theorem Occurs.of_occur (n : Node) (o : Occurrence) : Occurs n o (n.occur o) := by
  cases o with
  | pass duration => exact .passes
  | write => exact .touches .write
  | close => exact .touches .close
  | failReads => exact .touches .failReads
  | failWrites => exact .touches .failWrites
  | credit => exact .touches .credit
  | permit t count => exact occurs_of_addPermits ..
  | dialIn a c => exact occurs_of_dialIn ..
  | datagram g address => exact .delivers
  | begin x label => exact .begins
  | startBridge b label => exact occurs_of_startBridge ..
  | startAcceptor a => exact occurs_of_startAcceptor ..
  | subscribe who type => exact .subscribes
  | unsubscribe who => exact .unsubscribes

end Node

end TelemetryRelay
