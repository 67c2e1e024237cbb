import TelemetryRelay.Node.State

/-!
# How peers are received

An acceptor takes in the connections at its socket one by one.  Each peer gets a
link that cannot be dialled again, an outbox and a bridge, and is forgotten when
its bridge has stopped listening.
-/

namespace TelemetryRelay

/-- The pause of an outbox whose link cannot be dialled again. -/
def peerRetryPause : Nat := 1000

/-- A link over a connection that cannot be dialled again. -/
def Link.plain (connection : ConnectionName) : Link := Link.start connection false 1000 0

namespace Node

variable (n : Node)

/-- Attaches a peer, or drops its connection if there are too many. -/
def attach (a : AcceptorId) (acceptor : Acceptor) (connection : ConnectionName) : Node :=
  if acceptor.maxPeers ≤ acceptor.peers.length then
    (n.setAcceptor a acceptor).dropConnection connection
  else
    let (t, n) := n.addTransport (.link (.plain connection) none)
      (some (.make acceptor.capacity peerRetryPause))
    let (b, n) := n.addBridge acceptor.table t
    let (loop, n) := n.startBridge b
    let n := n.setAcceptor a { acceptor with peers := acceptor.peers ++ [b] }
    (n.spawn (.all [.await loop, .stop b, .forget a b])).2

/-- Closes the socket: connections that nobody has accepted are dropped. -/
def closeSocket (a : AcceptorId) (acceptor : Acceptor) : Node :=
  (acceptor.backlog.foldl dropConnection n).setAcceptor a { acceptor with backlog := [] }

def accept (a : AcceptorId) : Option (Node × Transition) := do
  let acceptor ← n.acceptors.get? a
  if acceptor.closed then some (n.closeSocket a acceptor, .reply .done)
  else match acceptor.backlog with
    | [] => none
    | c :: rest => some (n.attach a { acceptor with backlog := rest } c, .go (.accept a))

/-- Starts to accept, once and before it is closed. -/
def startAcceptor (a : AcceptorId) : Node :=
  match n.acceptors.get? a with
  | some acceptor =>
    if acceptor.closed || acceptor.loop.isSome then n
    else
      let (loop, n) := n.spawn (.accept a)
      n.setAcceptor a { acceptor with loop := some loop }
  | none => n

/-- Closes an acceptor: nobody is attached any more, and once it has stopped
accepting its peers are stopped. -/
def closeAcceptor (a : AcceptorId) : Option (Node × Transition) := do
  let acceptor ← n.acceptors.get? a
  if acceptor.closed then some (n, .reply .done)
  else
    let acceptor := { acceptor with closed := true }
    match acceptor.loop with
    | some loop => some (n.setAcceptor a acceptor, .call (.await loop) (.next (.dismiss a)))
    | none => some (n.closeSocket a acceptor, .go (.dismiss a))

/-- Stops all peers that are left, and forgets them. -/
def dismiss (a : AcceptorId) : Option (Node × Transition) := do
  let acceptor ← n.acceptors.get? a
  some (n, .go (.all (acceptor.peers.map .stop ++ [.clear a])))

def forgetPeer (a : AcceptorId) (b : BridgeId) : Node :=
  match n.acceptors.get? a with
  | some acceptor => n.setAcceptor a { acceptor with peers := acceptor.peers.erase b }
  | none => n

def clearPeers (a : AcceptorId) : Node :=
  match n.acceptors.get? a with
  | some acceptor => n.setAcceptor a { acceptor with peers := [] }
  | none => n

end Node

end TelemetryRelay
