import TelemetryRelay.Proofs.Node.Intake

/-!
# What leaves the acceptors alone

To carry frames and messages leaves the acceptors of a node alone, and so does whatever is
about no acceptor.  An outbox, once a transport has one, stays with it.
-/

namespace TelemetryRelay

open Wire

/-- The acceptor that an action is about. -/
def Action.acceptor? : Action → Option AcceptorId
  | .accept a | .forget a _ | .close a | .dismiss a | .clear a => some a
  | _ => none

namespace Node

/-- The transport has an outbox. -/
def Buffered (n : Node) (t : TransportId) : Prop :=
  ∃ tr o, n.transports.get? t = some tr ∧ tr.outbox = some o

/-- The acceptors stay as they are, and outboxes stay with their transports. -/
structure Aside (n n' : Node) : Prop where
  acceptors : n'.acceptors = n.acceptors
  buffered : ∀ t, n.Buffered t → n'.Buffered t

variable {n n' n'' : Node} {id : TaskId} {t : TransportId} {a : AcceptorId} {x : Action}
  {next : Transition} {m : Move} {acceptor : Acceptor}

/-! ## Single changes -/

theorem Aside.refl (n : Node) : Aside n n := ⟨rfl, fun _ h => h⟩

theorem Aside.trans (h : Aside n n') (h' : Aside n' n'') : Aside n n'' :=
  ⟨h'.acceptors.trans h.acceptors, fun t ht => h'.buffered t (h.buffered t ht)⟩

theorem buffered_of_transports (h : n'.transports = n.transports) (ht : n.Buffered t) :
    n'.Buffered t := by
  unfold Buffered
  rw [h]
  exact ht

theorem aside_of_transports (hacceptors : n'.acceptors = n.acceptors)
    (htransports : n'.transports = n.transports) : Aside n n' :=
  ⟨hacceptors, fun _ => buffered_of_transports htransports⟩

theorem aside_setCarrier (n : Node) (t : TransportId) (c : Carrier) : Aside n (n.setCarrier t c) := by
  refine ⟨rfl, ?_⟩
  rintro t' ⟨tr, o, hget, ho⟩
  unfold Buffered setCarrier
  simp only [Assoc.get?_modify]
  split
  · exact ⟨{ tr with carrier := c }, o, by simp [← ‹t' = t›, hget], ho⟩
  · exact ⟨tr, o, hget, ho⟩

theorem aside_setOutbox (n : Node) (t : TransportId) (o : Outbox) : Aside n (n.setOutbox t o) := by
  refine ⟨rfl, ?_⟩
  rintro t' ⟨tr, o', hget, ho⟩
  unfold Buffered setOutbox
  simp only [Assoc.get?_modify]
  split
  · exact ⟨{ tr with outbox := some o }, o, by simp [← ‹t' = t›, hget], rfl⟩
  · exact ⟨tr, o', hget, ho⟩

theorem aside_setLink (n : Node) (t : TransportId) (l l' : Link) (dialer : Option Dialer) :
    Aside n (n.setLink t l l' dialer) := by
  have hcarrier := aside_setCarrier n t (.link l' dialer)
  unfold setLink
  split
  · exact hcarrier.trans (aside_of_transports rfl rfl)
  · exact hcarrier

theorem aside_deposit (n : Node) (g : Datagram) (address : Address) :
    Aside n (n.deposit g address) := by
  unfold deposit
  split
  · exact aside_setCarrier ..
  · exact aside_of_transports rfl rfl

theorem aside_deposits (g : Datagram) (peers : List Address) (n : Node) :
    Aside n (peers.foldl (fun n peer => n.deposit g peer) n) := by
  induction peers generalizing n with
  | nil => exact .refl n
  | cons peer rest ih => exact (aside_deposit n g peer).trans (ih _)

theorem acceptors_closeSocket (n : Node) (a : AcceptorId) (acceptor : Acceptor) :
    (n.closeSocket a acceptor).acceptors = n.acceptors.set a { acceptor with backlog := [] } := by
  obtain ⟨connections, heq⟩ := closeSocket_eq n a acceptor
  rw [heq]

theorem buffered_closeSocket (ht : n.Buffered t) : (n.closeSocket a acceptor).Buffered t := by
  obtain ⟨connections, heq⟩ := closeSocket_eq n a acceptor
  rw [heq]
  exact ht

theorem buffered_attach {c : ConnectionName} (ht : n.Buffered t) :
    (n.attach a acceptor c).Buffered t := by
  by_cases room : acceptor.maxPeers ≤ acceptor.peers.length
  · simp only [attach, room, if_true]
    exact ht
  · obtain ⟨bridges, -, heq⟩ := attach_eq n a acceptor c room
    obtain ⟨tr, o, hget, ho⟩ := ht
    rw [heq]
    simp only [Buffered, Assoc.get?_set]
    split
    · exact ⟨_, _, rfl, rfl⟩
    · exact ⟨tr, o, hget, ho⟩

theorem acceptors_attach {c : ConnectionName} {rest : List ConnectionName}
    (room : ¬ acceptor.maxPeers ≤ acceptor.peers.length) :
    (n.attach a { acceptor with backlog := rest } c).acceptors = n.acceptors.set a
      { acceptor with backlog := rest, peers := acceptor.peers ++ [n.fresh + 2] } := by
  obtain ⟨bridges, -, heq⟩ := attach_eq n a { acceptor with backlog := rest } c room
  rw [heq]

/-! ## Actions -/

/-- What is about no acceptor leaves the acceptors alone. -/
theorem act_aside (h : n.act id x = some (n', next)) (hx : x.acceptor? = none) : Aside n n' := by
  cases Acts.of_act h with
  | proceeds => exact .refl n
  | offers | turnsBack | queues | takes | retries | closes => exact aside_setOutbox ..
  | callsToSend | callsToReceive | records | waits | fails | passesGate | hears | ignores | reads
  | breaksOff | ends | shuts => exact aside_setCarrier ..
  | spreads => exact (aside_setCarrier ..).trans (aside_deposits ..)
  | calls found on call prompts =>
      obtain ⟨connections, hosts, fresh, -, rfl⟩ := prompts.outdoors
      have haround : Aside n { n with connections, hosts, fresh } := aside_of_transports rfl rfl
      exact haround.trans (aside_setLink ..)
  | collects | detaches => exact aside_setLink ..
  | subscribes =>
      rw [subscribe_eq]
      exact aside_of_transports rfl rfl
  | unsubscribes =>
      rw [unsubscribe_eq]
      exact aside_of_transports rfl rfl
  | wakes | leaves | stops | unbinds => exact aside_of_transports rfl rfl
  | accepts | forgets | closesLoop | closesSocket | clears => cases hx

theorem act_buffered (h : n.act id x = some (n', next)) (ht : n.Buffered t) : n'.Buffered t := by
  cases hx : x.acceptor? with
  | none => exact (act_aside h hx).buffered t ht
  | some a =>
      cases Acts.of_act h with
      | accepts found accepts =>
          cases accepts with
          | stops => exact buffered_closeSocket ht
          | turnsAway => exact ht
          | attaches => exact buffered_attach ht
      | closesSocket => exact buffered_closeSocket ht
      | proceeds | forgets | closesLoop | clears => exact ht
      | _ => cases hx

/-! ## Moves -/

theorem aside_finish (n : Node) (id : TaskId) (label : Option String) (reply : Reply) :
    Aside n (n.finish id label reply) := by
  obtain ⟨reports, heq⟩ := finish_eq n id label reply
  rw [heq]
  exact aside_of_transports rfl rfl

theorem Occurs.buffered {o : Occurrence} (h : Occurs n o n') (ht : n.Buffered t) :
    n'.Buffered t := by
  cases h with
  | permits => exact (aside_setCarrier ..).buffered t ht
  | delivers => exact (aside_deposit ..).buffered t ht
  | subscribes =>
      rw [subscribe_eq]
      exact ht
  | unsubscribes =>
      rw [unsubscribe_eq]
      exact ht
  | _ => exact ht

theorem Resumes.aside {k : Then} {reply : Reply} (h : Resumes n k reply n' next) : Aside n n' := by
  cases h with
  | told => exact aside_setOutbox ..
  | published => exact aside_of_transports rfl rfl
  | _ => exact .refl n

theorem Halts.aside (h : Halts n id t n') : Aside n n' := by
  cases h
  exact (aside_setCarrier ..).trans (aside_setOutbox ..)

/-- **An outbox stays with its transport.** -/
theorem buffered_move (h : n.move m = some n') (ht : n.Buffered t) : n'.Buffered t := by
  cases m with
  | outside o =>
      cases h
      exact (Occurs.of_occur n o).buffered ht
  | step id =>
      rcases Step.of_step h with ⟨-, -, hhalts⟩ | ⟨-, -, -, hacts⟩ | ⟨-, -, -, -⟩ |
        ⟨-, -, -, -, hresumes⟩
      · have hafter := (Halts.of_haltSender hhalts).aside.buffered t ht
        exact hafter
      · have hafter := act_buffered hacts ht
        exact hafter
      · exact (aside_finish ..).buffered t ht
      · have hafter := (Resumes.of_resume hresumes).aside.buffered t ht
        exact hafter

end Node

end TelemetryRelay
