import TelemetryRelay.Proofs.Assoc
import TelemetryRelay.Proofs.Link.Jobs
import TelemetryRelay.Proofs.Node.Actions

/-!
# What the carriage of frames touches

Most of what a task does is to carry frames.  Such a step leaves the front of the
node alone, which is the bus with all that stands around it and the tasks, and of
the transports it touches one at most: its link takes one event, or its outbox is
closed.
-/

namespace TelemetryRelay

open Wire

def Carrier.link? : Carrier → Option Link
  | .link l _ => some l
  | _ => none

/-- What the others see of a transport. -/
structure Face where
  link : Option Link
  /-- The outbox takes nothing any more. -/
  shut : Bool

def Transport.face (tr : Transport) : Face := ⟨tr.carrier.link?, tr.outbox.any (·.closed)⟩

/-- One link takes an event, or an outbox is closed. -/
inductive Face.Turns (event : Link.Event → Prop) (shuts : Prop) (f : Face) : Face → Prop
  | link {l l' : Link} {e : Link.Event} (found : f.link = some l) (brought : event e)
      (step : Link.Step l e l') : Turns event shuts f { f with link := some l' }
  | shut (closes : shuts) : Turns event shuts f { f with shut := true }

namespace Node

/-- The part of a node that no carriage of frames touches. -/
structure Front where
  bus : Bus Listener
  actors : Assoc String Actor
  bridges : Assoc BridgeId Bridge
  tasks : Assoc TaskId Task
  /-- The tables that acceptors give to their peers. -/
  tables : AcceptorId → Option MappingTable

def front (n : Node) : Front :=
  ⟨n.bus, n.actors, n.bridges, n.tasks, fun a => (n.acceptors.get? a).map (·.table)⟩

def face (n : Node) (t : TransportId) : Option Face := (n.transports.get? t).map (·.face)

/-- The link of a transport. -/
def link? (n : Node) (t : TransportId) : Option Link := (n.face t).bind (·.link)

/-- The call that a task has on the link of a transport. -/
def call? (n : Node) (t : TransportId) (id : TaskId) : Option Link.Call :=
  (n.link? t).bind (·.calls.get? id)

/-- Neither the front nor any link changes. -/
structure Keeps (n n' : Node) : Prop where
  front : n'.front = n.front
  fresh : n.fresh ≤ n'.fresh
  keys : n'.transports.keys = n.transports.keys
  face : n.transports.keys.Nodup → ∀ t, n'.face t = n.face t

/-- Frames are carried: `event` says which events may come to which link, and
`shuts` which outbox may be closed. -/
structure Carries (n n' : Node) (event : TransportId → Link.Event → Prop)
    (shuts : TransportId → Prop) : Prop where
  front : n'.front = n.front
  fresh : n.fresh ≤ n'.fresh
  keys : n'.transports.keys = n.transports.keys
  face : n.transports.keys.Nodup → ∀ t, n'.face t = n.face t ∨
    ∃ f f', n.face t = some f ∧ n'.face t = some f' ∧ f.Turns (event t) (shuts t) f'

/-- The events that the step of an action may bring to a link. -/
inductive Brings (id : TaskId) : Action → TransportId → Link.Event → Prop
  | send {t : TransportId} {f : Frame} :
      Brings id (.transmit t f) t (.call id (.send f.encode))
  | receive {t : TransportId} : Brings id (.fetch t) t (.call id .receive)
  | goOn {t : TransportId} {e : Link.Event} (own : e.call? = some id)
      (underWay : e.underWay = true) : Brings id (.onLink t) t e
  | close {t : TransportId} : Brings id (.hangUp t) t .close
  | detach {t : TransportId} : Brings id (.detach t) t .detach

variable {n n' n'' : Node} {id : TaskId} {t : TransportId} {tr : Transport} {a : Action}
  {next : Transition} {l l' : Link} {dialer : Option Dialer}
  {f : Face} {event : TransportId → Link.Event → Prop} {shuts : TransportId → Prop}

theorem link?_of_get? (h : n.transports.get? t = some tr) : n.link? t = tr.carrier.link? := by
  simp [link?, face, h, Transport.face]

theorem link?_eq_some : n.link? t = some l ↔
    ∃ tr dialer, n.transports.get? t = some tr ∧ tr.carrier = .link l dialer := by
  constructor
  · intro h
    obtain ⟨f, hface, hlink⟩ := Option.bind_eq_some_iff.mp h
    obtain ⟨tr, hget, rfl⟩ := Option.map_eq_some_iff.mp hface
    cases hcarrier : tr.carrier with
    | link l' dialer =>
        simp only [Transport.face, hcarrier, Carrier.link?, Option.some.injEq] at hlink
        exact ⟨tr, dialer, hget, by rw [hcarrier, hlink]⟩
    | _ => simp [Transport.face, hcarrier, Carrier.link?] at hlink
  · rintro ⟨tr, dialer, hget, hcarrier⟩
    rw [link?_of_get? hget, hcarrier]
    rfl

/-! ## Steps that keep the links -/

theorem Keeps.refl (n : Node) : Keeps n n := ⟨rfl, Nat.le_refl _, rfl, fun _ _ => rfl⟩

theorem Keeps.trans (h : Keeps n n') (h' : Keeps n' n'') : Keeps n n'' := by
  refine ⟨h'.front.trans h.front, Nat.le_trans h.fresh h'.fresh, h'.keys.trans h.keys, ?_⟩
  intro hdistinct t
  rw [h'.face (h.keys ▸ hdistinct), h.face hdistinct]

theorem Keeps.carries (h : Keeps n n') : Carries n n' event shuts :=
  ⟨h.front, h.fresh, h.keys, fun hdistinct t => .inl (h.face hdistinct t)⟩

theorem Keeps.bus (h : Keeps n n') : n'.bus = n.bus := congrArg Front.bus h.front

theorem Keeps.bridges (h : Keeps n n') : n'.bridges = n.bridges := congrArg Front.bridges h.front

theorem Carries.bus (h : Carries n n' event shuts) : n'.bus = n.bus := congrArg Front.bus h.front

theorem Carries.bridges (h : Carries n n' event shuts) : n'.bridges = n.bridges :=
  congrArg Front.bridges h.front

/-- What happens around a link before it takes an event. -/
theorem Keeps.then (h : Keeps n n') (h' : Carries n' n'' event shuts) :
    Carries n n'' event shuts := by
  refine ⟨h'.front.trans h.front, Nat.le_trans h.fresh h'.fresh, h'.keys.trans h.keys, ?_⟩
  intro hdistinct t
  rw [← h.face hdistinct t]
  exact h'.face (h.keys ▸ hdistinct) t

/-- What happens around a link after it has taken an event. -/
theorem Carries.then (h : Carries n n' event shuts) (h' : Keeps n' n'') :
    Carries n n'' event shuts := by
  refine ⟨h'.front.trans h.front, Nat.le_trans h.fresh h'.fresh, h'.keys.trans h.keys, ?_⟩
  intro hdistinct t
  rw [h'.face (h.keys ▸ hdistinct) t]
  exact h.face hdistinct t

/-- Nothing that is seen of the transports changes. -/
theorem keeps_of_transports (hfront : n'.front = n.front) (hfresh : n.fresh ≤ n'.fresh)
    (htransports : n'.transports = n.transports) : Keeps n n' := by
  refine ⟨hfront, hfresh, by rw [htransports], fun _ t => ?_⟩
  unfold face
  rw [htransports]

theorem keeps_setConnection (name : ConnectionName) (c : Connection) :
    Keeps n (n.setConnection name c) := keeps_of_transports rfl (Nat.le_refl _) rfl

theorem keeps_dropConnection (name : ConnectionName) : Keeps n (n.dropConnection name) :=
  keeps_setConnection name _

/-- An acceptor goes on with the same table. -/
theorem keeps_setAcceptor {a : AcceptorId} {acceptor : Acceptor}
    (same : n.front.tables a = some acceptor.table) : Keeps n (n.setAcceptor a acceptor) := by
  refine keeps_of_transports ?_ (Nat.le_refl _) rfl
  have htables : (n.setAcceptor a acceptor).front.tables = n.front.tables := by
    funext x
    by_cases hx : x = a
    · rw [hx, same]
      simp [front, setAcceptor]
    · simp [front, setAcceptor, hx]
  exact congrArg (Front.mk n.bus n.actors n.bridges n.tasks) htables

theorem face_of_get? (h : n.transports.get? t = some tr) : n.face t = some tr.face := by
  simp [face, h]

theorem face_setCarrier (n : Node) (t : TransportId) (c : Carrier) (x : TransportId) :
    (n.setCarrier t c).face x =
      if x = t then (n.face t).map ({ · with link := c.link? }) else n.face x := by
  by_cases hx : x = t
  · subst hx
    simp [face, setCarrier, Function.comp_def, Transport.face]
  · simp [face, setCarrier, hx]

theorem face_setOutbox (n : Node) (t : TransportId) (o : Outbox) (x : TransportId) :
    (n.setOutbox t o).face x =
      if x = t then (n.face t).map ({ · with shut := o.closed }) else n.face x := by
  by_cases hx : x = t
  · subst hx
    simp [face, setOutbox, Function.comp_def, Transport.face]
  · simp [face, setOutbox, hx]

@[simp] theorem keys_setCarrier (n : Node) (t : TransportId) (c : Carrier) :
    (n.setCarrier t c).transports.keys = n.transports.keys := Assoc.keys_modify ..

@[simp] theorem keys_setOutbox (n : Node) (t : TransportId) (o : Outbox) :
    (n.setOutbox t o).transports.keys = n.transports.keys := Assoc.keys_modify ..

theorem keeps_setCarrier (h : n.transports.get? t = some tr) {c : Carrier}
    (hlink : c.link? = tr.carrier.link?) : Keeps n (n.setCarrier t c) := by
  refine ⟨rfl, Nat.le_refl _, keys_setCarrier .., fun _ x => ?_⟩
  rw [face_setCarrier]
  split
  · rename_i hx
    simp [hx, face_of_get? h, Transport.face, hlink]
  · rfl

theorem keeps_setOutbox (h : n.transports.get? t = some tr) {o o' : Outbox}
    (ho : tr.outbox = some o) (hclosed : o'.closed = o.closed) : Keeps n (n.setOutbox t o') := by
  refine ⟨rfl, Nat.le_refl _, keys_setOutbox .., fun _ x => ?_⟩
  rw [face_setOutbox]
  split
  · rename_i hx
    simp [hx, face_of_get? h, Transport.face, ho, hclosed]
  · rfl

/-- A link takes one event. -/
theorem carries_setCarrier (h : n.transports.get? t = some tr) (hlink : tr.carrier.link? = some l)
    {e : Link.Event} (hstep : Link.Step l e l') (hevent : event t e) :
    Carries n (n.setCarrier t (.link l' dialer)) event shuts := by
  refine ⟨rfl, Nat.le_refl _, keys_setCarrier .., fun _ x => ?_⟩
  rw [face_setCarrier]
  split
  · rename_i hx
    rw [hx, face_of_get? h]
    exact .inr ⟨_, _, rfl, rfl, .link hlink hevent hstep⟩
  · exact .inl rfl

theorem carries_shut (hface : n.face t = some f) {o : Outbox} (hclosed : o.closed = true)
    (hshuts : shuts t) : Carries n (n.setOutbox t o) event shuts := by
  refine ⟨rfl, Nat.le_refl _, keys_setOutbox .., fun _ x => ?_⟩
  rw [face_setOutbox]
  split
  · rename_i hx
    rw [hx, hface, hclosed]
    exact .inr ⟨_, _, rfl, rfl, .shut hshuts⟩
  · exact .inl rfl

/-! ## The network -/

/-- A datagram reaches datagram transports only. -/
theorem keeps_deposit (n : Node) (g : Datagram) (address : Address) :
    Keeps n (n.deposit g address) := by
  unfold deposit
  split
  · rename_i t d hat
    refine ⟨rfl, Nat.le_refl _, keys_setCarrier .., fun hdistinct x => ?_⟩
    obtain ⟨⟨t', tr⟩, hmem, hfound⟩ := List.exists_of_findSome?_eq_some hat
    have hget : n.transports.get? t' = some tr := Assoc.get?_of_mem hdistinct hmem
    cases hcarrier : tr.carrier with
    | datagram d' =>
        simp only [hcarrier, Option.ite_none_right_eq_some, Option.some.injEq, Prod.mk.injEq]
          at hfound
        obtain ⟨-, rfl, rfl⟩ := hfound
        refine (keeps_setCarrier hget ?_).face hdistinct x
        rw [hcarrier]
        rfl
    | _ => simp [hcarrier] at hfound
  · exact keeps_of_transports rfl (Nat.le_refl _) rfl

theorem keeps_deposits (g : Datagram) (peers : List Address) (n : Node) :
    Keeps n (peers.foldl (fun n peer => n.deposit g peer) n) := by
  induction peers generalizing n with
  | nil => exact .refl n
  | cons peer rest ih => exact (keeps_deposit n g peer).trans (ih _)

theorem keeps_spread {d : DatagramLink} (h : n.transports.get? t = some tr)
    (hcarrier : tr.carrier = .datagram d) (f : Frame) : Keeps n (n.spread t d f) :=
  (keeps_setCarrier h (by rw [hcarrier]; rfl)).trans (keeps_deposits ..)

/-! ## Calls on links -/

section Calls

variable {dialer' : Option Dialer} {e : Link.Event}

theorem Dials.outdoors {result : Except IoError ConnectionName} (h : Dials n result n') :
    Outdoors n n' := by
  cases h with
  | fails | plays => exact ⟨_, _, _, Nat.le_refl _, rfl⟩
  | connects => exact ⟨_, _, _, Nat.le_succ _, rfl⟩

/-- What a call does around its link it does to the network. -/
theorem Prompts.outdoors (h : Prompts n l dialer id e dialer' n') : Outdoors n n' := by
  cases h with
  | dialled dials => exact dials.outdoors
  | _ => exact ⟨_, _, _, Nat.le_refl _, rfl⟩

theorem Prompts.own (h : Prompts n l dialer id e dialer' n') : e.call? = some id := by
  cases h <;> rfl

theorem Prompts.underWay (h : Prompts n l dialer id e dialer' n') : e.underWay = true := by
  cases h <;> rfl

theorem Outdoors.keeps (h : Outdoors n n') : Keeps n n' := by
  obtain ⟨connections, hosts, fresh, hfresh, rfl⟩ := h
  exact keeps_of_transports rfl hfresh rfl

theorem Outdoors.transports (h : Outdoors n n') : n'.transports = n.transports := by
  obtain ⟨connections, hosts, fresh, -, rfl⟩ := h
  rfl

theorem face_setLink (n : Node) (t : TransportId) (l l' : Link) (dialer : Option Dialer) :
    (n.setLink t l l' dialer).face t = (n.face t).map ({ · with link := some l' }) := by
  have hsame : (n.setLink t l l' dialer).face t = (n.setCarrier t (.link l' dialer)).face t := by
    unfold setLink
    split <;> rfl
  rw [hsame, face_setCarrier, if_pos rfl]
  rfl

theorem carries_setLink (h : n.transports.get? t = some tr) (hcarrier : tr.carrier = .link l dialer)
    (hstep : Link.Step l e l') (hevent : event t e) :
    Carries n (n.setLink t l l' dialer') event shuts := by
  have hcarries : Carries n (n.setCarrier t (.link l' dialer')) event shuts :=
    carries_setCarrier h (by rw [hcarrier]; rfl) hstep hevent
  unfold setLink
  split
  · exact hcarries.then (keeps_dropConnection _)
  · exact hcarries

/-- A call goes on with what it hears of its connection. -/
theorem Prompts.carries (h : Prompts n l dialer id e dialer' n')
    (found : n.transports.get? t = some tr) (on : tr.carrier = .link l dialer)
    (hstep : Link.Step l e l') :
    Carries n (n'.setLink t l l' dialer') (Brings id (.onLink t)) shuts := by
  have hget : n'.transports.get? t = some tr := by rw [h.outdoors.transports, found]
  exact h.outdoors.keeps.then (carries_setLink hget on hstep (.goOn h.own h.underWay))

end Calls

/-! ## Outboxes -/

/-- Whatever happens to an outbox but its end. -/
theorem keeps_outbox_step (h : n.transports.get? t = some tr) {o o' : Outbox} {e : Outbox.Event}
    (ho : tr.outbox = some o) (hstep : Outbox.Step o e o') (he : e ≠ .close) :
    Keeps n (n.setOutbox t o') := by
  refine keeps_setOutbox h ho ?_
  cases hstep with
  | close => exact absurd rfl he
  | _ => rfl

/-- A sender that is halted takes its call with it. -/
theorem Halts.carries (h : Halts n id t n') :
    Carries n n' (fun x e => x = t ∧ e = .drop id) fun _ => False := by
  obtain ⟨found, has, step, frees⟩ := h
  rename_i tr o o' c
  have hget : (n.setCarrier t c).transports.get? t = some { tr with carrier := c } := by
    simp [setCarrier, found]
  refine Carries.then ?_ (keeps_outbox_step hget has step (by simp))
  generalize hcarrier : tr.carrier = before at frees
  cases frees with
  | same => exact (keeps_setCarrier found (by rw [hcarrier])).carries
  | script => exact (keeps_setCarrier found (by rw [hcarrier]; rfl)).carries
  | link step => exact carries_setCarrier found (by rw [hcarrier]; rfl) step ⟨rfl, rfl⟩

end Node

end TelemetryRelay
