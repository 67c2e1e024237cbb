import TelemetryRelay.Proofs.Link.Alone
import TelemetryRelay.Proofs.Node.Aside

/-!
# What becomes of a transport

A transport that is there stays, and a move does one thing to it at most: its link takes an
event, datagrams come or go, its outbox takes an event, or what is underneath the outbox
ends.  `Handled` lists all of it, with the action that brings it about; the clock moves only
when time passes.
-/

namespace TelemetryRelay

open Wire

namespace Node

/-- The events that a step of an action may bring to an outbox. -/
inductive Boxes (n : Node) (id : TaskId) : Action → TransportId → Outbox.Event → Prop
  | offer {t : TransportId} {f : Frame} : Boxes n id (.send t f) t (.offer id f)
  | refuse {t : TransportId} : Boxes n id (.offered t) t (.refuse id)
  | accept {t : TransportId} : Boxes n id (.offered t) t (.accept id)
  | close {t : TransportId} : Boxes n id (.terminate t) t .close
  | take {t : TransportId} : Boxes n id (.drain t) t .take
  | retry {t : TransportId} {pause : Nat} :
      Boxes n id (.drain t) t (.retry (n.now + n.shortfall pause))

/-- More datagrams wait at a transport. -/
inductive Swells (tr : Transport) : Transport → Prop
  | more {d : DatagramLink} (more : List Datagram) (on : tr.carrier = .datagram d) :
      Swells tr { tr with carrier := .datagram { d with inbox := d.inbox ++ more } }

/-- What a step of an action does to a transport. -/
inductive Does (n : Node) (id : TaskId) : Action → TransportId → Transport → Transport → Prop
  | link {a : Action} {t : TransportId} {tr : Transport} {l l' : Link}
      {dialer dialer' : Option Dialer} {e : Link.Event} (on : tr.carrier = .link l dialer)
      (brings : Brings id a t e) (step : Link.Step l e l') :
      Does n id a t tr { tr with carrier := .link l' dialer' }
  | script {a : Action} {t : TransportId} {tr : Transport} {s s' : Scripted}
      (on : tr.carrier = .scripted s) (closed : s'.closed = s.closed)
      (recovers : s'.canRecover = s.canRecover) :
      Does n id a t tr { tr with carrier := .scripted s' }
  | swells {t t' : TransportId} {f : Frame} {tr tr' : Transport} (swells : Swells tr tr') :
      Does n id (.transmit t' f) t tr tr'
  | sends {t : TransportId} {f : Frame} {tr : Transport} {d : DatagramLink}
      (on : tr.carrier = .datagram d) (opened : d.closed = false) (more : List Datagram) :
      Does n id (.transmit t f) t tr { tr with
        carrier := .datagram { (d.targets n.now).2 with inbox := (d.targets n.now).2.inbox ++ more } }
  | receives {t : TransportId} {tr : Transport} {d : DatagramLink}
      (on : tr.carrier = .datagram d) (opened : d.closed = false) (waits : d.inbox ≠ []) :
      Does n id (.fetch t) t tr { tr with carrier := .datagram (d.receive n.now).2 }
  | ends {t : TransportId} {tr : Transport} {d : DatagramLink} (on : tr.carrier = .datagram d) :
      Does n id (.hangUp t) t tr { tr with carrier := .datagram d.terminate }
  | breaksOff {t : TransportId} {tr : Transport} {s : Scripted} (on : tr.carrier = .scripted s) :
      Does n id (.hangUp t) t tr { tr with carrier := .scripted { s with closed := true } }
  | outbox {a : Action} {t : TransportId} {tr : Transport} {o o' : Outbox} {e : Outbox.Event}
      (has : tr.outbox = some o) (boxes : Boxes n id a t e) (step : Outbox.Step o e o') :
      Does n id a t tr { tr with outbox := some o' }

/-- What a move does to a transport. -/
inductive Handled (n : Node) (t : TransportId) (tr : Transport) : Move → Transport → Prop
  | same {m : Move} : Handled n t tr m tr
  | act {id : TaskId} {a : Action} {tr' : Transport} (acts : n.actionOf? id = some a)
      (does : Does n id a t tr tr') : Handled n t tr (.step id) tr'
  | sent {id : TaskId} {task : Task} {r : Except LinkError Unit} {pending : List Then}
      {o o' : Outbox} (found : n.tasks.get? id = some task)
      (replying : task.activity = .replying (.sent r)) (waits : task.pending = .drained t :: pending)
      (has : tr.outbox = some o)
      (step : Outbox.Step o (.sent (.ofResult tr.canRecover r) n.now) o') :
      Handled n t tr (.step id) { tr with outbox := some o' }
  | halts {id : TaskId} {task : Task} {c : Carrier} {o o' : Outbox}
      (found : n.tasks.get? id = some task) (outbox : task.outbox = some t)
      (has : tr.outbox = some o) (step : Outbox.Step o .halt o')
      (closed : c.isClosed = tr.carrier.isClosed)
      (same : ∀ d, tr.carrier = .datagram d → c = .datagram d) :
      Handled n t tr (.step id) { tr with carrier := c, outbox := some o' }
  | permits {count : Nat} {s s' : Scripted} (on : tr.carrier = .scripted s)
      (closed : s'.closed = s.closed) :
      Handled n t tr (.outside (.permit t count)) { tr with carrier := .scripted s' }
  | swells {g : Datagram} {address : Address} {tr' : Transport} (swells : Swells tr tr') :
      Handled n t tr (.outside (.datagram g address)) tr'

/-- The clock stands still, and what is done to transports is what `does` says. -/
structure Handles (n n' : Node) (does : TransportId → Transport → Transport → Prop) : Prop where
  now : n'.now = n.now
  there : n.transports.keys.Nodup → ∀ t tr, n.transports.get? t = some tr →
    ∃ tr', n'.transports.get? t = some tr' ∧ (tr' = tr ∨ does t tr tr')

variable {n n' n'' : Node} {id : TaskId} {t : TransportId} {tr tr' : Transport} {a : Action}
  {next : Transition} {m : Move} {l l' : Link} {dialer dialer' : Option Dialer} {e : Link.Event}
  {does does' : TransportId → Transport → Transport → Prop}

/-! ## Single changes -/

theorem handles_of_transports (hnow : n'.now = n.now) (htransports : n'.transports = n.transports) :
    Handles n n' does :=
  ⟨hnow, fun _ _ tr hget => ⟨tr, by rw [htransports, hget], .inl rfl⟩⟩

theorem Handles.refl (n : Node) : Handles n n does := handles_of_transports rfl rfl

/-- What happens around the transports meanwhile. -/
theorem Handles.around (h : Handles n n' does) (hnow : n''.now = n'.now)
    (htransports : n''.transports = n'.transports) : Handles n n'' does := by
  refine ⟨hnow.trans h.now, fun hdistinct t tr hget => ?_⟩
  rw [htransports]
  exact h.there hdistinct t tr hget

theorem Handles.trans (h : Handles n n' does) (h' : Handles n' n'' does)
    (hkeys : n'.transports.keys = n.transports.keys)
    (htrans : ∀ t tr tr' tr'', does t tr tr' → does t tr' tr'' → does t tr tr'') :
    Handles n n'' does := by
  refine ⟨h'.now.trans h.now, fun hdistinct t tr hget => ?_⟩
  obtain ⟨tr', hget', hdone⟩ := h.there hdistinct t tr hget
  obtain ⟨tr'', hget'', hdone'⟩ := h'.there (hkeys ▸ hdistinct) t tr' hget'
  refine ⟨tr'', hget'', ?_⟩
  rcases hdone with rfl | hdone
  · exact hdone'
  · rcases hdone' with rfl | hdone'
    · exact .inr hdone
    · exact .inr (htrans t tr tr' tr'' hdone hdone')

theorem get?_setCarrier (hget : n.transports.get? t = some tr) (c : Carrier) :
    (n.setCarrier t c).transports.get? t = some { tr with carrier := c } := by
  simp [setCarrier, hget]

theorem handles_setCarrier (hget : n.transports.get? t = some tr) {c : Carrier}
    (hdoes : does t tr { tr with carrier := c }) : Handles n (n.setCarrier t c) does := by
  refine ⟨rfl, fun _ t' tr' hget' => ?_⟩
  by_cases ht : t' = t
  · subst ht
    cases hget.symm.trans hget'
    exact ⟨_, get?_setCarrier hget c, .inr hdoes⟩
  · exact ⟨tr', by simp [setCarrier, ht, hget'], .inl rfl⟩

theorem handles_setOutbox (hget : n.transports.get? t = some tr) {o : Outbox}
    (hdoes : does t tr { tr with outbox := some o }) : Handles n (n.setOutbox t o) does := by
  refine ⟨rfl, fun _ t' tr' hget' => ?_⟩
  by_cases ht : t' = t
  · subst ht
    cases hget.symm.trans hget'
    exact ⟨{ tr with outbox := some o }, by simp [setOutbox, hget], .inr hdoes⟩
  · exact ⟨tr', by simp [setOutbox, ht, hget'], .inl rfl⟩

theorem handles_setLink (hget : n.transports.get? t = some tr)
    (hdoes : does t tr { tr with carrier := .link l' dialer }) :
    Handles n (n.setLink t l l' dialer) does := by
  have hset : Handles n (n.setCarrier t (.link l' dialer)) does := handles_setCarrier hget hdoes
  unfold setLink
  split
  · exact hset.around rfl rfl
  · exact hset

/-! ## Datagrams -/

theorem Swells.trans {tr'' : Transport} (h : Swells tr tr') (h' : Swells tr' tr'') :
    Swells tr tr'' := by
  obtain @⟨d, more, on⟩ := h
  obtain @⟨d', more', on'⟩ := h'
  cases on'
  simp only [List.append_assoc]
  exact .more (more ++ more') on

theorem datagramAt?_eq_some {address : Address} {d : DatagramLink}
    (hdistinct : n.transports.keys.Nodup) (h : n.datagramAt? address = some (t, d)) :
    ∃ tr, n.transports.get? t = some tr ∧ tr.carrier = .datagram d ∧ d.address = address := by
  obtain ⟨⟨t', tr⟩, hmem, hfound⟩ := List.exists_of_findSome?_eq_some h
  cases hcarrier : tr.carrier with
  | datagram d' =>
      simp only [hcarrier, Option.ite_none_right_eq_some, Option.some.injEq, Prod.mk.injEq]
        at hfound
      obtain ⟨haddress, rfl, rfl⟩ := hfound
      exact ⟨tr, Assoc.get?_of_mem hdistinct hmem, hcarrier, haddress⟩
  | _ => simp [hcarrier] at hfound

@[simp] theorem keys_deposit (n : Node) (g : Datagram) (address : Address) :
    (n.deposit g address).transports.keys = n.transports.keys := by
  unfold deposit
  split
  · exact keys_setCarrier ..
  · rfl

theorem handles_deposit (n : Node) (g : Datagram) (address : Address) :
    Handles n (n.deposit g address) fun _ => Swells := by
  refine ⟨by unfold deposit; split <;> rfl, fun hdistinct t tr hget => ?_⟩
  unfold deposit
  split
  · rename_i t' d hat
    obtain ⟨tr', hget', hon, -⟩ := datagramAt?_eq_some hdistinct hat
    have hset : Handles n (n.setCarrier t' (.datagram { d with inbox := d.inbox ++ [g] }))
        fun _ => Swells := handles_setCarrier hget' (.more [g] hon)
    exact hset.there hdistinct t tr hget
  · exact ⟨tr, hget, .inl rfl⟩

theorem handles_deposits (g : Datagram) (peers : List Address) (n : Node) :
    Handles n (peers.foldl (fun n peer => n.deposit g peer) n) fun _ => Swells := by
  induction peers generalizing n with
  | nil => exact .refl n
  | cons peer rest ih =>
      exact (handles_deposit n g peer).trans (ih _) (keys_deposit ..)
        fun _ _ _ _ h h' => h.trans h'

theorem handles_spread {d : DatagramLink} (f : Frame) (hget : n.transports.get? t = some tr)
    (hon : tr.carrier = .datagram d) (hopened : d.closed = false) :
    Handles n (n.spread t d f) (Does n id (.transmit t f)) := by
  have hdeposits := handles_deposits ⟨d.address, f.encode⟩ ((d.targets n.now).1.filter n.reaches)
    (n.setCarrier t (.datagram (d.targets n.now).2))
  refine ⟨hdeposits.now, fun hdistinct t' tr' hget' => ?_⟩
  have hthere := hdeposits.there (by rw [keys_setCarrier]; exact hdistinct) t'
  by_cases ht : t' = t
  · subst ht
    cases hget.symm.trans hget'
    obtain ⟨tr'', hget'', hdone⟩ := hthere _ (get?_setCarrier hget _)
    refine ⟨tr'', hget'', .inr ?_⟩
    rcases hdone with rfl | @⟨d', more, on⟩
    · simpa using Does.sends (n := n) hon hopened []
    · cases on
      exact .sends hon hopened more
  · obtain ⟨tr'', hget'', hdone⟩ := hthere tr' (by simp [setCarrier, ht, hget'])
    exact ⟨tr'', hget'', hdone.imp_right .swells⟩

/-! ## Actions -/

theorem handles_closeSocket (n : Node) (a : AcceptorId) (acceptor : Acceptor) :
    Handles n (n.closeSocket a acceptor) does := by
  obtain ⟨connections, heq⟩ := closeSocket_eq n a acceptor
  rw [heq]
  exact handles_of_transports rfl rfl

theorem Accepts.handles {a : AcceptorId} {acceptor : Acceptor} (h : Accepts n a acceptor n' next)
    (hn : Numbered n) : Handles n n' does := by
  cases h with
  | stops => exact handles_closeSocket ..
  | turnsAway => exact handles_of_transports rfl rfl
  | @attaches c rest _ _ room =>
      obtain ⟨bridges, -, heq⟩ := attach_eq n a { acceptor with backlog := rest } c room
      rw [heq]
      refine ⟨rfl, fun _ t tr hget => ⟨tr, ?_, .inl rfl⟩⟩
      have hne : t ≠ n.fresh := by
        rintro rfl
        rw [hn.transports _ (Nat.le_refl _)] at hget
        cases hget
      exact (Assoc.get?_set_of_ne hne).trans hget

/-- A call goes on with what it hears of its connection. -/
theorem Prompts.handles (h : Prompts n l dialer id e dialer' n')
    (hget : n.transports.get? t = some tr) (hon : tr.carrier = .link l dialer)
    (hstep : Link.Step l e l') :
    Handles n (n'.setLink t l l' dialer') (Does n id (.onLink t)) := by
  have hdoes : Does n id (.onLink t) t tr { tr with carrier := .link l' dialer' } :=
    .link hon (.goOn h.own h.underWay) hstep
  obtain ⟨connections, hosts, fresh, -, rfl⟩ := h.outdoors
  have hlink := handles_setLink (n := { n with connections, hosts, fresh }) (l := l) hget hdoes
  exact ⟨hlink.now, hlink.there⟩

/-- **What one step of an action does to the transports.** -/
theorem act_handles (hn : Numbered n) (h : n.act id a = some (n', next)) :
    Handles n n' (Does n id a) := by
  cases Acts.of_act h with
  | proceeds => exact .refl n
  | offers hget has _ step => exact handles_setOutbox hget (.outbox has .offer step)
  | turnsBack hget has step => exact handles_setOutbox hget (.outbox has .refuse step)
  | queues hget has step => exact handles_setOutbox hget (.outbox has .accept step)
  | closes hget has step => exact handles_setOutbox hget (.outbox has .close step)
  | takes hget has step => exact handles_setOutbox hget (.outbox has .take step)
  | retries hget has step => exact handles_setOutbox hget (.outbox has .retry step)
  | callsToSend hget on step => exact handles_setCarrier hget (.link on .send step)
  | callsToReceive hget on step => exact handles_setCarrier hget (.link on .receive step)
  | calls hget on call prompts step => exact prompts.handles hget on step
  | collects hget on call step => exact handles_setLink hget (.link on (.goOn rfl rfl) step)
  | shuts hget on step => exact handles_setCarrier hget (.link on .close step)
  | detaches hget on step => exact handles_setLink hget (.link on .detach step)
  | records hget on | waits hget on | fails hget on | passesGate hget on | reads hget on =>
      exact handles_setCarrier hget (.script on rfl rfl)
  | breaksOff hget on => exact handles_setCarrier hget (.breaksOff on)
  | spreads hget on opened => exact handles_spread _ hget on opened
  | hears hget on opened inbox | ignores hget on opened inbox =>
      exact handles_setCarrier hget (.receives on opened inbox)
  | ends hget on => exact handles_setCarrier hget (.ends on)
  | subscribes =>
      rw [subscribe_eq]
      exact handles_of_transports rfl rfl
  | unsubscribes =>
      rw [unsubscribe_eq]
      exact handles_of_transports rfl rfl
  | accepts found accepts => exact accepts.handles hn
  | closesSocket => exact handles_closeSocket ..
  | wakes | leaves | stops | forgets | closesLoop | clears | unbinds =>
      exact handles_of_transports rfl rfl

/-! ## Moves -/

/-- A sender is told what became of its frame; other replies leave the transports alone. -/
theorem Resumes.handles {k : Then} {reply : Reply} (h : Resumes n k reply n' next) :
    Handles n n' fun t tr tr' => ∃ r o o', k = .drained t ∧ reply = .sent r ∧ tr.outbox = some o ∧
      Outbox.Step o (.sent (.ofResult tr.canRecover r) n.now) o' ∧
      tr' = { tr with outbox := some o' } := by
  cases h with
  | told hget has step =>
      exact handles_setOutbox hget ⟨_, _, _, rfl, rfl, has, step, rfl⟩
  | _ => exact handles_of_transports rfl rfl

theorem Halts.handles (h : Halts n id t n') :
    Handles n n' fun t' tr tr' => ∃ o o' c, t' = t ∧ tr.outbox = some o ∧
      Outbox.Step o .halt o' ∧ c.isClosed = tr.carrier.isClosed ∧
      (∀ d, tr.carrier = .datagram d → c = .datagram d) ∧
      tr' = { tr with carrier := c, outbox := some o' } := by
  obtain @⟨tr, o, o', c, hget, has, step, frees⟩ := h
  refine ⟨rfl, fun _ t' tr' hget' => ?_⟩
  by_cases ht : t' = t
  · subst ht
    cases hget.symm.trans hget'
    have hafter : ((n.setCarrier t' c).setOutbox t' o').transports.get? t' =
        some { carrier := c, outbox := some o' } := by
      simp [setOutbox, setCarrier, hget]
    refine ⟨_, hafter, .inr ⟨o, o', c, rfl, has, step, ?_⟩⟩
    generalize hon : tr.carrier = before at frees
    cases frees with
    | same => exact ⟨rfl, fun d h => h, rfl⟩
    | link step => exact ⟨step.closed_of_own rfl, (fun d h => by cases h), rfl⟩
    | script => exact ⟨rfl, (fun d h => by cases h), rfl⟩
  · exact ⟨tr', by simp [setOutbox, setCarrier, ht, hget'], .inl rfl⟩

theorem Occurs.handled {o : Occurrence} (h : Occurs n o n') (hdistinct : n.transports.keys.Nodup)
    (hget : n.transports.get? t = some tr) :
    ∃ tr', n'.transports.get? t = some tr' ∧ Handled n t tr (.outside o) tr' := by
  cases h with
  | delivers =>
      obtain ⟨tr', hget', rfl | hswells⟩ := (handles_deposit ..).there hdistinct t tr hget
      · exact ⟨_, hget', .same⟩
      · exact ⟨tr', hget', .swells hswells⟩
  | @permits t' count _ _ found on =>
      by_cases ht : t = t'
      · subst ht
        cases hget.symm.trans found
        exact ⟨_, get?_setCarrier hget _, .permits on rfl⟩
      · exact ⟨tr, by simp [setCarrier, ht, hget], .same⟩
  | subscribes =>
      rw [subscribe_eq]
      exact ⟨tr, hget, .same⟩
  | unsubscribes =>
      rw [unsubscribe_eq]
      exact ⟨tr, hget, .same⟩
  | _ => exact ⟨tr, hget, .same⟩

/-- **What becomes of a transport in one move.** -/
theorem handled_move (hn : Numbered n) (h : n.move m = some n')
    (hget : n.transports.get? t = some tr) :
    ∃ tr', n'.transports.get? t = some tr' ∧ Handled n t tr m tr' := by
  cases m with
  | outside o =>
      cases h
      exact (Occurs.of_occur n o).handled hn.distinct hget
  | step id =>
      cases Step.of_step h with
      | @halt task t' after found outbox halts =>
          obtain ⟨tr', hget', hdone⟩ := (Halts.of_haltSender halts).handles.there hn.distinct t tr hget
          refine ⟨tr', hget', ?_⟩
          rcases hdone with rfl | ⟨o, o', c, rfl, ho, hstep, hclosed, hsame, rfl⟩
          · exact .same
          · exact .halts found outbox ho hstep hclosed hsame
      | act found goesOn acting acts =>
          obtain ⟨tr', hget', hdone⟩ := (act_handles hn acts).there hn.distinct t tr hget
          refine ⟨tr', hget', ?_⟩
          rcases hdone with rfl | hdoes
          · exact .same
          · exact .act (actionOf?_of_acting found goesOn acting) hdoes
      | @finish task reply =>
          obtain ⟨reports, heq⟩ := finish_eq n id task.label reply
          rw [heq]
          exact ⟨tr, hget, .same⟩
      | resume found goesOn replying waits resumes =>
          obtain ⟨tr', hget', hdone⟩ := (Resumes.of_resume resumes).handles.there hn.distinct t tr hget
          refine ⟨tr', hget', ?_⟩
          rcases hdone with rfl | ⟨r, o, o', rfl, rfl, ho, hstep, rfl⟩
          · exact .same
          · exact .sent found replying waits ho hstep

theorem Occurs.now {o : Occurrence} (h : Occurs n o n') : n.now ≤ n'.now := by
  cases h with
  | passes => exact Nat.le_add_right ..
  | delivers => exact Nat.le_of_eq (handles_deposit ..).now.symm
  | subscribes =>
      rw [subscribe_eq]
      exact Nat.le_refl _
  | unsubscribes =>
      rw [unsubscribe_eq]
      exact Nat.le_refl _
  | _ => exact Nat.le_refl _

/-- **The clock is never set back.** -/
theorem now_move (hn : Numbered n) (h : n.move m = some n') : n.now ≤ n'.now := by
  cases m with
  | outside o =>
      cases h
      exact (Occurs.of_occur n o).now
  | step id =>
      cases Step.of_step h with
      | halt _ _ halts => exact Nat.le_of_eq (Halts.of_haltSender halts).handles.now.symm
      | act _ _ _ acts => exact Nat.le_of_eq (act_handles hn acts).now.symm
      | @finish task reply =>
          obtain ⟨reports, heq⟩ := finish_eq n id task.label reply
          have hsame : (n.finish id task.label reply).now = n.now := by rw [heq]
          exact Nat.le_of_eq hsame.symm
      | resume _ _ _ _ resumes => exact Nat.le_of_eq (Resumes.of_resume resumes).handles.now.symm

end Node

end TelemetryRelay
