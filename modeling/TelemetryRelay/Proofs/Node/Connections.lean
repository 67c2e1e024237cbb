import TelemetryRelay.Proofs.Node.Frames

/-!
# What comes in over a connection

The remote end of a connection writes, closes or breaks it; a call that reads on a
link takes bytes from it; and a name that is drawn for a new connection may stand for
an old one.  Nothing else that happens on a node changes what is to be read from a
connection: calls that write and drops of its local end do not.
-/

namespace TelemetryRelay

open Wire

/-- What is still to be read from a connection, and what follows it. -/
structure Connection.Inflow where
  inbound : Bytes
  remoteClosed : Bool
  readFault : Option IoError

def Connection.inflow (c : Connection) : Connection.Inflow :=
  ⟨c.inbound, c.remoteClosed, c.readFault⟩

/-- What a read comes to, and what it leaves. -/
inductive Connection.Reads (c : Connection) : Connection.Answer Bytes → Connection → Prop
  | ready {bytes rest : Bytes} (split : c.inbound = bytes ++ rest) :
      Reads c (.ready bytes) { c with inbound := rest }
  | fault {e : IoError} (fault : c.readFault = some e) : Reads c (.fault e) c
  | ended (drained : c.inbound = []) (closed : c.remoteClosed = true) : Reads c .ended c
  | wait : Reads c .wait c

theorem Connection.reads_read (c : Connection) : c.Reads c.read.1 c.read.2 := by
  unfold Connection.read
  split
  · exact .ready (List.take_append_drop ..).symm
  · rename_i drained
    split
    · rename_i fault
      exact .fault fault
    · split
      · rename_i closed
        exact .ended (Classical.not_not.mp drained) closed
      · exact .wait

theorem Connection.inflow_write (c : Connection) (bytes : Bytes) :
    (c.write bytes).2.inflow = c.inflow := by
  unfold Connection.write
  split
  · rfl
  · split
    · rfl
    · dsimp only
      split <;> rfl

/-- The connection to which something happens. -/
def Occurrence.connection? : Occurrence → Option ConnectionName
  | .write c _ | .close c | .failReads c _ | .failWrites c _ | .credit c _ | .dialIn _ c => some c
  | _ => none

theorem Occurrence.Remote.connection? {o : Occurrence} {c : ConnectionName}
    {f : Connection → Connection} (h : o.Remote c f) : o.connection? = some c := by
  cases h <;> rfl

namespace Node

/-- Nothing comes in anywhere, and nothing is read. -/
def Still (n n' : Node) : Prop := ∀ c, (n'.connection c).inflow = (n.connection c).inflow

/-- Some bytes are read, at most. -/
def Draws (n n' : Node) (c : ConnectionName) : Prop :=
  (n'.connection c).remoteClosed = (n.connection c).remoteClosed ∧
    (n'.connection c).readFault = (n.connection c).readFault

/-- The moves that may change what is to be read from a connection. -/
inductive Touches (n n' : Node) (c : ConnectionName) : Move → Prop
  | remote {o : Occurrence} (on : o.connection? = some c) : Touches n n' c (.outside o)
  | reads {id : TaskId} {t : TransportId} {l : Link} {call : Link.Call} {g seen : Nat}
      {progress : Progress} {lane : Link.Lane} (acts : n.actionOf? id = some (.onLink t))
      (link : n.link? t = some l) (under : l.calls.get? id = some call)
      (phase : call.phase = .working g seen (.reading progress))
      (found : l.lanes.get? g = some lane) (on : lane.connection = c) (draws : Draws n n' c) :
      Touches n n' c (.step id)
  | dials {id : TaskId} {e : Endpoint} {backlog : List ConnectionName}
      (known : n.hosts.get? e = some backlog) (called : c = s!"{e.render} #{n.fresh}") :
      Touches n n' c (.step id)

variable {n n' n'' : Node} {id : TaskId} {t : TransportId} {a : Action} {next : Transition}
  {m : Move} {l l' : Link} {dialer dialer' : Option Dialer} {e : Link.Event} {c : ConnectionName}

/-! ## Single changes -/

theorem Still.refl (n : Node) : Still n n := fun _ => rfl

theorem Still.trans (h : Still n n') (h' : Still n' n'') : Still n n'' :=
  fun c => (h' c).trans (h c)

theorem still_of_connections (h : n'.connections = n.connections) : Still n n' := by
  intro c
  unfold connection
  rw [h]

theorem connection_setConnection (n : Node) (name : ConnectionName) (x : Connection)
    (c : ConnectionName) :
    (n.setConnection name x).connection c = if c = name then x else n.connection c := by
  simp only [connection, setConnection, Assoc.get?_set]
  split <;> rfl

theorem still_setConnection {name : ConnectionName} {x : Connection}
    (h : x.inflow = (n.connection name).inflow) : Still n (n.setConnection name x) := by
  intro c
  rw [connection_setConnection]
  split
  · rename_i hc
    rw [hc, h]
  · rfl

theorem still_dropConnection (n : Node) (name : ConnectionName) : Still n (n.dropConnection name) :=
  still_setConnection rfl

theorem still_setLink (n : Node) (t : TransportId) (l l' : Link) (dialer : Option Dialer) :
    Still n (n.setLink t l l' dialer) := by
  unfold setLink
  split
  · exact (still_of_connections rfl).trans (still_dropConnection _ _)
  · exact still_of_connections rfl

theorem still_deposit (g : Datagram) (peer : Address) (n : Node) : Still n (n.deposit g peer) := by
  unfold deposit
  split <;> exact still_of_connections rfl

theorem still_deposits (g : Datagram) (peers : List Address) (n : Node) :
    Still n (peers.foldl (fun n peer => n.deposit g peer) n) := by
  induction peers generalizing n with
  | nil => exact .refl n
  | cons peer rest ih => exact (still_deposit g peer n).trans (ih _)

/-! ## Calls on links -/

/-- A dial may take a name that has been taken before. -/
theorem Dials.inflow {result : Except IoError ConnectionName} (h : Dials n result n')
    (c : ConnectionName) : (n'.connection c).inflow = (n.connection c).inflow ∨
      ∃ endpoint backlog, n.hosts.get? endpoint = some backlog ∧
        c = s!"{endpoint.render} #{n.fresh}" := by
  cases h with
  | fails => exact .inl rfl
  | plays => exact .inl (still_setConnection rfl c)
  | @connects endpoint backlog name known called =>
      by_cases hc : c = name
      · exact .inr ⟨endpoint, backlog, known, hc.trans called⟩
      · left
        show ((n.draw.2.setConnection name {}).connection c).inflow = _
        rw [connection_setConnection, if_neg hc]
        rfl

/-- A call takes bytes from the connection that it reads from, and from no other. -/
theorem Prompts.inflow (h : Prompts n l dialer id e dialer' n') (c : ConnectionName) :
    (n'.connection c).inflow = (n.connection c).inflow ∨
      (∃ call g seen progress lane, l.calls.get? id = some call ∧
        call.phase = .working g seen (.reading progress) ∧ l.lanes.get? g = some lane ∧
        lane.connection = c ∧ Draws n n' c) ∨
      ∃ endpoint backlog, n.hosts.get? endpoint = some backlog ∧
        c = s!"{endpoint.render} #{n.fresh}" := by
  cases h with
  | @wrote name rest count x writes =>
      have hsame := Connection.inflow_write (n.connection name) rest
      rw [writes] at hsame
      exact .inl (still_setConnection hsame c)
  | @filled call g seen progress lane bytes x holds reads =>
      by_cases hc : lane.connection = c
      · refine .inr (.inl ⟨call, g, seen, progress, lane, holds.call, holds.phase, holds.found, hc,
          ?_⟩)
        have hreads := Connection.reads_read (n.connection lane.connection)
        rw [reads, hc] at hreads
        rw [Draws, connection_setConnection, if_pos hc.symm]
        cases hreads
        exact ⟨rfl, rfl⟩
      · left
        rw [connection_setConnection, if_neg (Ne.symm hc)]
  | dialled dials => exact (dials.inflow c).imp_right .inr
  | _ => exact .inl rfl

/-- What a step of a call does to a connection. -/
theorem Prompts.touches {tr : Transport} (h : Prompts n l dialer id e dialer' n')
    (found : n.transports.get? t = some tr) (on : tr.carrier = .link l dialer)
    (acts : n.actionOf? id = some (.onLink t)) (c : ConnectionName) :
    ((n'.setLink t l l' dialer').connection c).inflow = (n.connection c).inflow ∨
      ∀ task, Touches n ((n'.setLink t l l' dialer').setTask id task) c (.step id) := by
  have hlink : n.link? t = some l := link?_eq_some.mpr ⟨tr, dialer, found, on⟩
  have hstill := still_setLink n' t l l' dialer' c
  rcases h.inflow c with hsame | ⟨call, g, seen, progress, lane, hcall, hphase, hlane, hon, hclosed,
    hfault⟩ | ⟨endpoint, backlog, hknown, hcalled⟩
  · exact .inl (hstill.trans hsame)
  · refine .inr fun task => .reads acts hlink hcall hphase hlane hon ?_
    simp only [Connection.inflow, Connection.Inflow.mk.injEq] at hstill
    exact ⟨hstill.2.1.trans hclosed, hstill.2.2.trans hfault⟩
  · exact .inr fun task => .dials hknown hcalled

/-! ## Actions -/

theorem still_closeSocket (n : Node) (a : AcceptorId) (acceptor : Acceptor) :
    Still n (n.closeSocket a acceptor) := by
  have hdrops : ∀ (cs : List ConnectionName) (n : Node), Still n (cs.foldl dropConnection n) := by
    intro cs
    induction cs with
    | nil => exact .refl
    | cons c rest ih => exact fun n => (still_dropConnection n c).trans (ih _)
  exact (hdrops _ n).trans (still_of_connections rfl)

theorem Accepts.still {a : AcceptorId} {acceptor : Acceptor} (h : Accepts n a acceptor n' next) :
    Still n n' := by
  cases h with
  | stops => exact still_closeSocket n a acceptor
  | turnsAway => exact (still_of_connections rfl).trans (still_dropConnection _ _)
  | @attaches c rest opened backlog room =>
      obtain ⟨bridges, -, heq⟩ := attach_eq n a { acceptor with backlog := rest } c room
      rw [heq]
      exact still_of_connections rfl

/-- An action that is no call on a link leaves alone what is to be read. -/
theorem Acts.inflow (h : Acts n id a n' next) (acts : n.actionOf? id = some a)
    (c : ConnectionName) : (n'.connection c).inflow = (n.connection c).inflow ∨
      ∀ task, Touches n (n'.setTask id task) c (.step id) := by
  cases h with
  | calls found on call prompts => exact prompts.touches found on acts c
  | collects | detaches => exact .inl (still_setLink _ _ _ _ _ c)
  | spreads => exact .inl (still_deposits _ _ _ c)
  | subscribes =>
      rw [subscribe_eq]
      exact .inl rfl
  | unsubscribes =>
      rw [unsubscribe_eq]
      exact .inl rfl
  | accepts found accepts => exact .inl (accepts.still c)
  | closesSocket => exact .inl (still_closeSocket _ _ _ c)
  | _ => exact .inl rfl

/-! ## Moves -/

theorem Occurs.inflow {o : Occurrence} (h : Occurs n o n') (c : ConnectionName) :
    (n'.connection c).inflow = (n.connection c).inflow ∨ o.connection? = some c := by
  have hset (name : ConnectionName) (x : Connection) (hname : o.connection? = some name) :
      ((n.setConnection name x).connection c).inflow = (n.connection c).inflow ∨
        o.connection? = some c := by
    by_cases hc : c = name
    · exact .inr (by rw [hname, hc])
    · exact .inl (by rw [connection_setConnection, if_neg hc])
  cases h with
  | touches remote => exact hset _ _ remote.connection?
  | dialsIn => exact (hset _ {} rfl).imp_left fun h => h
  | delivers => exact .inl (still_deposit _ _ n c)
  | subscribes =>
      rw [subscribe_eq]
      exact .inl rfl
  | unsubscribes =>
      rw [unsubscribe_eq]
      exact .inl rfl
  | _ => exact .inl rfl

theorem Resumes.still {k : Then} {reply : Reply} (h : Resumes n k reply n' next) :
    Still n n' := by
  cases h <;> exact still_of_connections rfl

theorem Halts.still (h : Halts n id t n') : Still n n' := by
  cases h
  exact still_of_connections rfl

/-- **What is to be read from a connection changes only by its remote end, by a call that
reads from it, or by a dial that takes its name.** -/
theorem inflow_move (hmove : n.move m = some n') (c : ConnectionName) :
    (n'.connection c).inflow = (n.connection c).inflow ∨ Touches n n' c m := by
  cases m with
  | outside o =>
      cases hmove
      exact ((Occurs.of_occur n o).inflow c).imp_right .remote
  | step id =>
      cases Step.of_step hmove with
      | halt found outbox halts => exact .inl ((Halts.of_haltSender halts).still c)
      | @act task a after next found goesOn acting acts =>
          have hacts := actionOf?_of_acting found goesOn acting
          exact ((Acts.of_act acts).inflow hacts c).imp_right fun h => h _
      | @finish task reply found goesOn replying last =>
          obtain ⟨reports, heq⟩ := finish_eq n id task.label reply
          rw [heq]
          exact .inl rfl
      | resume found goesOn replying waits resumes =>
          exact .inl ((Resumes.of_resume resumes).still c)

end Node

end TelemetryRelay
