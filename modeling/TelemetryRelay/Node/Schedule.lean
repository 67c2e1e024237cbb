import TelemetryRelay.Node.Run

/-!
# Schedules

A schedule lets the tasks of a node take their steps in a fixed order.  The task
whose turn it is goes on until it has to wait; those that can go on again queue
up behind the ones that are ready.  The clock stands still meanwhile, and when it
is moved it stops at every timer on its way.
-/

namespace TelemetryRelay

structure Schedule where
  node : Node
  ready : List TaskId := []
  /-- Tasks that could not go on when they were looked at last, in the order in
  which they came to wait. -/
  waiting : List TaskId := []

namespace Schedule

variable (s : Schedule)

/-- Queues up the tasks that can go on again and those that are new. -/
def wake : Schedule :=
  let new := s.node.tasks.keys.filter fun id => !s.ready.contains id && !s.waiting.contains id
  let (able, waiting) := s.waiting.partition fun id => (s.node.step id).isSome
  { s with ready := s.ready ++ able ++ new, waiting }

/-- Whether a task lets the others go first: a bridge that rests, or a sender whose
pause is over as soon as it begins. -/
def isResting (n : Node) (id : TaskId) : Bool :=
  match (n.tasks.get? id).map Task.activity with
  | some (.acting (.rest _)) => true
  | some (.acting (.drain t)) =>
    match (n.transports.get? t).bind Transport.outbox with
    | some o =>
      match o.sender with
      | .pausing _ due => due ≤ n.now + n.shortfall o.retryPause
      | _ => false
    | none => false
  | _ => false

/-- Whether a task keeps its turn. -/
def keepsTurn (n : Node) (id : TaskId) : Bool := (n.tasks.get? id).isSome && !isResting n id

/-- One step of the task whose turn it is; there is none when all tasks wait. -/
def turn : Option Schedule :=
  match s.ready with
  | [] => none
  | id :: rest =>
    match s.node.step id with
    | none => some { s with ready := rest, waiting := s.waiting ++ [id] }
    | some node =>
      some { s with node, ready := if keepsTurn node id then s.ready else rest }.wake

/-- How many rests are left after a turn.  A task that comes to wait or ends has
got somewhere, and starts the count of `patience` anew. -/
def restsLeft (patience rests : Nat) (next : Schedule) : Nat :=
  if s.ready.head?.any (isResting next.node) then rests - 1
  else if next.ready.head? = s.ready.head? then rests
  else patience

/-- Takes turns until all tasks wait, at most `turns` of them and only as long as
there are rests left. -/
def takeTurns (patience : Nat) : Nat → Nat → Schedule → Schedule
  | 0, _, s => s
  | turns + 1, rests, s =>
    match s.turn with
    | none => s
    | some next =>
      let rests := s.restsLeft patience rests next
      if rests = 0 then next else takeTurns patience turns rests next

/-! ### How long to go on

A task that rests has seen something fail.  Either that used up what was there to
be read or a place of a script, or it fails for ever and nothing more comes of it
until something happens outside. -/

def total {α : Type} (f : α → Nat) (xs : List α) : Nat := xs.foldl (fun sum x => sum + f x) 0

/-- What there is to use up on a transport. -/
def stock (t : Transport) : Nat :=
  match t.carrier with
  | .link l dialer =>
    total (fun lane => lane.2.unread.length) l.lanes.entries +
      match dialer with
      | some (.scripted script _ _) => script.length
      | _ => 0
  | .scripted s => s.sends.length + s.receives.length
  | .datagram d => d.inbox.length

def stocks (n : Node) : Nat :=
  total (fun t => stock t.2) n.transports.entries +
    total (fun c => c.2.inbound.length) n.connections.entries

/-- More rests than there can be until a task gets somewhere. -/
def patience (n : Node) : Nat := (stocks n + 16) * (n.tasks.entries.length + 1)

/-- More turns than tasks take that come to wait at all. -/
def maxTurns (n : Node) : Nat := 2000 * (stocks n + 1000)

def settle : Schedule :=
  takeTurns (patience s.node) (maxTurns s.node) (patience s.node) s.wake

/-! ## Time -/

/-- When a call has to be looked at again. -/
def callTimer (n : Node) (l : Link) (dialer : Option Dialer) (c : Link.Call) : Option Nat :=
  match c.phase, dialer with
  | .pausing due, _ => some (due - n.shortfall l.pause)
  | .dialling, some (.scripted _ _ due) => some due
  | _, _ => none

def outboxTimer (n : Node) (o : Outbox) : Option Nat :=
  match o.sender with
  | .pausing _ due => some (due - n.shortfall o.retryPause)
  | _ => none

def timers (n : Node) (t : Transport) : List Nat :=
  let calls := match t.carrier with
    | .link l dialer => l.calls.entries.filterMap fun (_, c) => callTimer n l dialer c
    | _ => []
  calls ++ (t.outbox.bind (outboxTimer n)).toList

/-- The next time at which something is due. -/
def nextDue : Option Nat :=
  let due := (s.node.transports.entries.flatMap fun (_, t) => timers s.node t).filter (s.node.now < ·)
  due.min?

def occur (o : Occurrence) : Schedule := { s with node := s.node.occur o }

/-- Moves the clock, never back. -/
def setClock (now : Nat) : Schedule := s.occur (.pass (now - s.node.now))

/-- Moves the clock to `target`, with at most `fuel` stops before. -/
def runTo (target : Nat) : Nat → Schedule → Schedule
  | 0, s => (s.setClock target).settle
  | fuel + 1, s =>
    match s.nextDue with
    | some due =>
      if due < target then runTo target fuel (s.setClock due).settle
      else (s.setClock target).settle
    | none => (s.setClock target).settle

/-- Lets some milliseconds pass. -/
def advance (duration : Nat) : Schedule :=
  let s := s.settle
  runTo (s.node.now + duration) duration s

/-- Lets time pass, up to `limit`, as long as something is due. -/
def quiesce (limit : Nat) : Nat → Schedule → Schedule
  | 0, s => s.settle
  | fuel + 1, s =>
    let s := s.settle
    match s.nextDue with
    | some due => if due ≤ limit then quiesce limit fuel (s.setClock due) else s
    | none => s

/-! ## Schedules are runs -/

/-- What becomes of the node is what some moves make of it. -/
def Follows (s t : Schedule) : Prop := ∃ ms, s.node.run ms = some t.node

theorem Follows.refl (s : Schedule) : s.Follows s := ⟨[], rfl⟩

theorem Follows.trans {s t u : Schedule} (h : s.Follows t) (h' : t.Follows u) : s.Follows u := by
  obtain ⟨ms, hms⟩ := h
  obtain ⟨ms', hms'⟩ := h'
  exact ⟨ms ++ ms', by simp [Node.run_append, hms, hms']⟩

theorem follows_occur (s : Schedule) (o : Occurrence) : s.Follows (s.occur o) :=
  ⟨[.outside o], rfl⟩

theorem follows_of_turn {s t : Schedule} (h : s.turn = some t) : s.Follows t := by
  unfold turn at h
  split at h
  · simp at h
  · rename_i id rest _
    split at h
    · cases h
      exact ⟨[], rfl⟩
    · rename_i node hn
      cases h
      exact ⟨[.step id], by simp [Node.run, Node.move, hn, wake]⟩

theorem follows_takeTurns (patience turns rests : Nat) (s : Schedule) :
    s.Follows (takeTurns patience turns rests s) := by
  induction turns generalizing rests s with
  | zero => exact .refl s
  | succ turns ih =>
    cases ht : s.turn with
    | none => simpa [takeTurns, ht] using Follows.refl s
    | some t =>
      have h := follows_of_turn ht
      simp only [takeTurns, ht]
      split
      · exact h
      · exact h.trans (ih _ t)

theorem follows_settle (s : Schedule) : s.Follows s.settle :=
  follows_takeTurns _ _ _ s.wake

theorem follows_runTo (target fuel : Nat) (s : Schedule) : s.Follows (runTo target fuel s) := by
  have stop (t : Nat) : s.Follows (s.setClock t).settle :=
    (follows_occur s _).trans (follows_settle _)
  induction fuel generalizing s with
  | zero => exact stop target
  | succ fuel ih =>
    unfold runTo
    split
    · split
      · exact (stop _).trans (ih _ fun t => (follows_occur _ _).trans (follows_settle _))
      · exact stop target
    · exact stop target

/-- Letting time pass is a run of the node. -/
theorem follows_advance (s : Schedule) (duration : Nat) : s.Follows (s.advance duration) :=
  (follows_settle s).trans (follows_runTo _ _ _)

end Schedule

end TelemetryRelay
