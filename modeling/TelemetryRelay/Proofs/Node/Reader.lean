import TelemetryRelay.Proofs.Link.Position
import TelemetryRelay.Proofs.Node.Connections
import TelemetryRelay.Proofs.Node.Intake

/-!
# The reader of a link

A link that cannot dial is plugged into its connection until it is closed.  If one task
alone receives over it, then nobody else takes bytes from the connection, and a call of
that task goes on whenever there are bytes to read or the remote end has closed.
-/

namespace TelemetryRelay.Node

open Wire

/-- A task has a call on the link only as long as it attends to it. -/
def Attends (n : Node) (id : TaskId) (t : TransportId) : Prop :=
  ∀ call, n.call? t id = some call →
    ∃ task, n.tasks.get? id = some task ∧ task.activity = .acting (.onLink t)

/-- The link of a transport is on that connection for good, its outbox takes what comes, and
everybody on it but one has come to send. -/
structure Plugged (n : Node) (id : TaskId) (t : TransportId) (g : Nat) (c : ConnectionName)
    (unread : Bytes) : Prop where
  attends : Attends n id t
  link : ∃ l, n.face t = some ⟨some l, false⟩ ∧ l.Bound g c unread ∧ l.Sending id

/-- The task has a call on the link that came to receive, on that connection if on any. -/
structure Receiving (n : Node) (id : TaskId) (t : TransportId) (g : Nat) (call : Link.Call) :
    Prop where
  under : n.call? t id = some call
  job : call.job = .receive
  suits : call.Suits
  lane : ∀ g' seen, call.phase.lane? = some (g', seen) → g' = g

variable {n n' : Node} {id x : TaskId} {t : TransportId} {m : Move} {a : Action} {task : Task}
  {next : Transition} {l : Link} {call : Link.Call} {g : Nat} {c : ConnectionName} {unread : Bytes}

/-! ## Calls and the tasks that attend to them -/

/-- With a call on the link an action goes on to attend to it. -/
theorem act_attends (hn : Numbered n) (ht : t < n.fresh) (h : n.act id a = some (n', next))
    (hcall : n'.call? t id = some call) (hbefore : a = .onLink t ∨ n.call? t id = none) :
    next = .go (.onLink t) := by
  by_cases hon : a = .onLink t
  · subst hon
    cases Acts.of_act h with
    | proceeds proceeds => cases proceeds
    | calls => rfl
    | collects found on under step =>
        rw [call?_setLink found] at hcall
        cases step with
        | collect => simp at hcall
  · have hnone := hbefore.resolve_left hon
    rcases (act_effect h).face hn ht with hsame | ⟨f, f', hf, hf', hturns⟩
    · simp only [call?, link?, hsame] at hcall hnone
      cases hcall.symm.trans hnone
    · cases hturns with
      | shut =>
          simp only [call?, link?, hf, hf', Option.bind_some] at hcall hnone
          cases hcall.symm.trans hnone
      | @link l l' e hlink brought step =>
          simp only [call?, link?, hf, hf', hlink, Option.bind_some] at hcall hnone
          have hl : n.link? t = some l := by rw [link?, hf, Option.bind_some, hlink]
          obtain ⟨tr, dialer, hget, hcarrier⟩ := link?_eq_some.mp hl
          have hkept : e.call? ≠ some id → False := by
            intro hother
            rw [step.calls_of_ne hother] at hcall
            cases hcall.symm.trans hnone
          cases brought with
          | send =>
              obtain ⟨-, -, -, hnext⟩ := calls_of_transmit hget hcarrier h
              exact hnext
          | receive =>
              obtain ⟨-, -, -, hnext⟩ := calls_of_fetch hget hcarrier h
              exact hnext
          | goOn => exact absurd rfl hon
          | close => exact (hkept (by simp [Link.Event.call?])).elim
          | detach => exact (hkept (by simp [Link.Event.call?])).elim

theorem Attends.move (h : Attends n id t) (hn : Numbered n) (known : id < n.fresh)
    (ht : t < n.fresh) (bare : ∀ task, n.tasks.get? id = some task → task.outbox = none)
    (hmove : n.move m = some n') : Attends n' id t := by
  intro call hcall
  by_cases hown : m = .step id
  · subst hown
    have hidle : n.actionOf? id = none → n.call? t id = some call := by
      intro hacts
      rcases link?_move hn hmove ht with hsame | ⟨l, e, l', -, -, hbears, -⟩
      · rw [call?, ← hsame]
        exact hcall
      · cases hbears with
        | act acts => cases hacts.symm.trans acts
        | halt found outbox => cases (bare _ found).symm.trans outbox
    cases Step.of_step hmove with
    | halt found outbox => cases (bare _ found).symm.trans outbox
    | @act task a after next found goesOn acting acts =>
        refine ⟨_, found_setTask .., ?_⟩
        have hbefore : a = .onLink t ∨ n.call? t id = none := by
          cases hnone : n.call? t id with
          | none => exact .inr rfl
          | some before =>
              obtain ⟨task', found', acting'⟩ := h before hnone
              cases found.symm.trans found'
              cases acting.symm.trans acting'
              exact .inl rfl
        rw [act_attends hn ht acts hcall hbefore]
        rfl
    | finish found _ replying | resume found _ replying =>
        obtain ⟨task', found', acting⟩ := h call (hidle (actionOf?_of_replying found replying))
        cases found.symm.trans found'
        cases replying.symm.trans acting
  · rw [call?_move hn hmove ht hown] at hcall
    rw [task_of_move hn hmove known hown]
    exact h call hcall

theorem Attends.none_of (h : Attends n id t) (found : n.tasks.get? id = some task)
    (off : task.activity ≠ .acting (.onLink t)) : n.call? t id = none := by
  cases hcall : n.call? t id with
  | none => rfl
  | some call =>
      obtain ⟨task', found', on⟩ := h call hcall
      cases found.symm.trans found'
      exact absurd on off

/-! ## What leaves the connection alone -/

theorem Plugged.lt (h : Plugged n id t g c unread) (hn : Numbered n) : t < n.fresh := by
  obtain ⟨l, hface, -⟩ := h.link
  exact hn.lt_of_face hface

theorem Plugged.link? (h : Plugged n id t g c unread) :
    ∃ l, n.link? t = some l ∧ l.Bound g c unread ∧ l.Sending id := by
  obtain ⟨l, hface, hbound, hsending⟩ := h.link
  exact ⟨l, by rw [Node.link?, hface]; rfl, hbound, hsending⟩

/-- A move that takes nothing from the connection and does not end the link. -/
theorem Plugged.move (h : Plugged n id t g c unread) (hn : Numbered n) (known : id < n.fresh)
    (bare : ∀ task, n.tasks.get? id = some task → task.outbox = none)
    (hmove : n.move m = some n') (hshuts : ¬ Shuts n m t)
    (hquiet : ∀ l e l', n.link? t = some l → l.Sending id → Bears n m t e → Link.Step l e l' →
      e ≠ .close ∧ e.takes = false ∧ ∀ x job, e = .call x job → x ≠ id →
        ∃ bytes, job = .send bytes) : Plugged n' id t g c unread := by
  have ht := h.lt hn
  refine ⟨h.attends.move hn known ht bare hmove, ?_⟩
  obtain ⟨l, hface, hbound, hsending⟩ := h.link
  rcases face_move hn hmove ht with hsame | ⟨f, f', hf, hf', hturns⟩
  · exact ⟨l, by rw [hsame, hface], hbound, hsending⟩
  · cases hface.symm.trans hf
    cases hturns with
    | shut closes => exact absurd closes hshuts
    | @link _ l' e hlink brought step =>
        cases hlink
        have hlink : n.link? t = some l := by
          rw [Node.link?, hface]
          rfl
        obtain ⟨hclose, htakes, hcomes⟩ := hquiet l e l' hlink hsending brought step
        exact ⟨l', hf', hbound.step step hclose htakes, hsending.step step hcomes⟩

/-- What the others do, as long as they neither receive nor end the transport. -/
theorem Plugged.beside (h : Plugged n id t g c unread) (hn : Numbered n) (known : id < n.fresh)
    (bare : ∀ task, n.tasks.get? id = some task → task.outbox = none)
    (hmove : n.move m = some n') (hother : m ≠ .step id)
    (hacts : ∀ x a, m = .step x → n.actionOf? x = some a →
      a ≠ .fetch t ∧ a ≠ .hangUp t ∧ a ≠ .terminate t) : Plugged n' id t g c unread := by
  refine h.move hn known bare hmove ?_ ?_
  · rintro ⟨x, hx, hterminates⟩
    exact (hacts x _ hx hterminates).2.2 rfl
  · intro l e l' hlink hsending hbears hstep
    have hne := hbears.call?_ne hother
    have htakes : e.takes = false := by
      cases hcall : e.call? with
      | none => cases e <;> first | rfl | cases hcall
      | some y =>
          have hy : y ≠ id := fun heq => hne (by rw [hcall, heq])
          exact hstep.takes_of_sends hcall fun call hfound => hsending y call hy hfound
    refine ⟨?_, htakes, ?_⟩
    · rintro rfl
      cases hbears with
      | act acts brings =>
          cases brings with
          | goOn own => cases own
          | close => exact (hacts _ _ rfl acts).2.1 rfl
    · rintro y job rfl -
      cases hbears with
      | act acts brings =>
          cases brings with
          | send => exact ⟨_, rfl⟩
          | receive => exact absurd rfl (hacts _ _ rfl acts).1
          | goOn own underWay => cases underWay

/-- What the task does itself, as long as it does not receive over the link. -/
theorem Plugged.own (h : Plugged n id t g c unread) (hn : Numbered n)
    (found : n.tasks.get? id = some task) (bare : task.outbox = none)
    (hstep : n.step id = some n') (hacts : ∀ a, task.activity = .acting a →
      a ≠ .hangUp t ∧ a ≠ .terminate t ∧ (a = .onLink t → n.Sends id t)) :
    Plugged n' id t g c unread := by
  have hmove : n.move (.step id) = some n' := hstep
  refine h.move hn (hn.lt_of_task found) ?_ hmove ?_ ?_
  · intro task' found'
    cases found.symm.trans found'
    exact bare
  · rintro ⟨x, hx, hterminates⟩
    cases hx
    exact (hacts _ (actionOf?_eq found hterminates).1).2.1 rfl
  · intro l e l' hlink hsending hbears hlinkStep
    cases hbears with
    | halt found' outbox =>
        cases found.symm.trans found'
        cases bare.symm.trans outbox
    | act acts brings =>
        obtain ⟨hhangs, -, hsends⟩ := hacts _ (actionOf?_eq found acts).1
        cases brings with
        | send => exact ⟨by simp, rfl, fun _ _ h hne => by cases h; exact absurd rfl hne⟩
        | receive => exact ⟨by simp, rfl, fun _ _ h hne => by cases h; exact absurd rfl hne⟩
        | close => exact absurd rfl hhangs
        | detach => exact ⟨by simp, rfl, fun _ _ h => by cases h⟩
        | goOn own underWay =>
            obtain ⟨call, bytes, hcall, hjob, hsuits⟩ := hsends rfl
            rw [call?, hlink, Option.bind_some] at hcall
            refine ⟨?_, ?_, ?_⟩
            · rintro rfl
              cases own
            · refine hlinkStep.takes_of_sends own fun call' hfound => ?_
              cases hcall.symm.trans hfound
              exact ⟨hsuits, bytes, hjob⟩
            · rintro y job rfl
              cases underWay

/-! ## Receiving -/

/-- A call comes in to receive. -/
theorem Plugged.fetch (h : Plugged n id t g c unread) (hn : Numbered n)
    (found : n.tasks.get? id = some task) (bare : task.outbox = none)
    (acting : task.activity = .acting (.fetch t)) (hstep : n.step id = some n') :
    Plugged n' id t g c unread ∧ Receiving n' id t g { job := .receive } := by
  refine ⟨h.own hn found bare hstep fun a ha => ?_, ?_⟩
  · cases acting.symm.trans ha
    exact ⟨by simp, by simp, by simp⟩
  · obtain ⟨l, hlink, -, -⟩ := h.link?
    obtain ⟨tr, dialer, hget, hcarrier⟩ := link?_eq_some.mp hlink
    obtain ⟨after, next, hact, rfl⟩ := of_step_acting found bare acting hstep
    obtain ⟨l', step, rfl, -⟩ := calls_of_fetch hget hcarrier hact
    exact ⟨call?_of_comes hget step, rfl, rfl, fun _ _ h => by cases h⟩

/-- What a call that receives hears of the connection. -/
theorem Prompts.answers {e : Link.Event} {dialer dialer' : Option Dialer} {phase : Link.Phase}
    {unread' : Bytes} (h : Prompts n l dialer id e dialer' n') (hbound : l.Bound g c unread)
    (hcall : l.calls.get? id = some call)
    (hadvance : Link.Advance g id call.phase unread e phase unread')
    (healthy : (n.connection c).readFault = none) :
    Link.Answers (n.connection c).inbound ((n.connection c).remoteClosed = true) e
      (n'.connection c).inbound ∧
    (n'.connection c).remoteClosed = (n.connection c).remoteClosed ∧
    (n'.connection c).readFault = none := by
  obtain ⟨lane₀, hlane, hconnection, -, -⟩ := hbound.lane
  -- Whoever reads does so from the connection that the link is on.
  have hsame {call' : Link.Call} {g' seen : Nat} {work : Link.Work} {lane : Link.Lane}
      (holds : l.Holds id call' g' seen work lane)
      (phase : call.phase.lane?.map Prod.fst = some g) : lane.connection = c := by
    cases hcall.symm.trans holds.call
    rw [holds.phase] at phase
    cases phase
    cases hlane.symm.trans holds.found
    exact hconnection
  have hreads := Connection.reads_read (n.connection c)
  generalize hphase : call.phase = before at hadvance hsame
  cases hadvance with
  | look | ask | judge | more | frame | error =>
      cases h
      exact ⟨.aside rfl, rfl, healthy⟩
  | filled =>
      cases h with
      | filled holds reads =>
          obtain rfl := hsame holds rfl
          rw [reads] at hreads
          cases hreads with
          | ready split =>
              rw [connection_setConnection, if_pos rfl]
              exact ⟨.filled split, rfl, healthy⟩
  | ended =>
      cases h with
      | ended holds reads =>
          obtain rfl := hsame holds rfl
          rw [reads] at hreads
          cases hreads with
          | ended drained closed => exact ⟨.ends drained closed, rfl, healthy⟩
  | broke =>
      cases h with
      | readFails holds reads =>
          obtain rfl := hsame holds rfl
          rw [reads] at hreads
          cases hreads with
          | fault fault => cases healthy.symm.trans fault
      | writeFails holds =>
          cases hcall.symm.trans holds.call
          cases hphase.symm.trans holds.phase

/-- **One step of the only reader of a link.** Its call has ended and the task takes the
outcome, or the call reads on. -/
theorem Plugged.read (h : Plugged n id t g c unread) (hn : Numbered n)
    (found : n.tasks.get? id = some task) (bare : task.outbox = none)
    (acting : task.activity = .acting (.onLink t)) (hreceiving : Receiving n id t g call)
    (healthy : (n.connection c).readFault = none) (hstep : n.step id = some n') :
    (∃ outcome, call.phase = .done outcome ∧
      n'.tasks.get? id = some { task with activity := .replying (replyOf call) } ∧
      Plugged n' id t g c unread ∧ (n'.connection c).inflow = (n.connection c).inflow) ∨
    ∃ e phase unread', Link.Advance g id call.phase unread e phase unread' ∧
      n'.tasks.get? id = some task ∧ Receiving n' id t g { call with phase } ∧
      Plugged n' id t g c unread' ∧
      Link.Answers (n.connection c).inbound ((n.connection c).remoteClosed = true) e
        (n'.connection c).inbound ∧
      (n'.connection c).remoteClosed = (n.connection c).remoteClosed ∧
      (n'.connection c).readFault = none := by
  have hmove : n.move (.step id) = some n' := hstep
  have hlt := h.lt hn
  have hattends : Attends n' id t := by
    refine h.attends.move hn (hn.lt_of_task found) hlt ?_ hmove
    intro task' found'
    cases found.symm.trans found'
    exact bare
  obtain ⟨l, hface, hbound, hsending⟩ := h.link
  have hlink : n.link? t = some l := by
    rw [Node.link?, hface]
    rfl
  have hcall : l.calls.get? id = some call := by
    have hcall := hreceiving.under
    rwa [call?, hlink] at hcall
  obtain ⟨after, next, hact, rfl⟩ := of_step_acting found bare acting hstep
  cases Acts.of_act hact with
  | proceeds proceeds => cases proceeds
  | @collects _ tr _ _ dialer _ hget on hcall₀ linkStep =>
      left
      cases hlink.symm.trans (link?_eq_some.mpr ⟨tr, dialer, hget, on⟩)
      cases linkStep with
      | @collect _ _ outcome call' phase =>
          cases hcall.symm.trans call'
          cases hcall.symm.trans hcall₀
          have hstays := Link.Step.collect hcall phase
          have hface' (l' : Link) : (n.setLink t l l' dialer).face t = some ⟨some l', false⟩ := by
            rw [face_setLink, hface]
            rfl
          exact ⟨outcome, phase, found_setTask .., ⟨hattends, _, hface' _,
            hbound.step hstays (by simp) rfl, hsending.step hstays (by simp)⟩,
            still_setLink n t l _ dialer c⟩
  | @calls _ tr _ l' dialer dialer' _ e n₁ hget on hcall₀ prompts linkStep hcollect =>
      right
      cases hlink.symm.trans (link?_eq_some.mpr ⟨tr, dialer, hget, on⟩)
      obtain ⟨phase, unread', hadvance, hcall', hbound'⟩ := hbound.advance hcall hreceiving.job
        hreceiving.suits hreceiving.lane linkStep prompts.own prompts.underWay hcollect
      obtain ⟨hanswers, hclosed, hfault⟩ := prompts.answers hbound hcall hadvance healthy
      -- The link of the transport after the step, seen through all that stands around it.
      have hface' : (n₁.setLink t l l' dialer').face t = some ⟨some l', false⟩ := by
        rw [face_setLink, face, prompts.outdoors.transports]
        show (n.face t).map _ = _
        rw [hface]
        rfl
      have hin := still_setLink n₁ t l l' dialer' c
      simp only [Connection.inflow, Connection.Inflow.mk.injEq] at hin
      obtain ⟨hinbound, hremote, hread⟩ := hin
      have hdrop : e ≠ .drop id := by
        rintro rfl
        cases prompts.underWay
      have hsends : ∀ x job, e = .call x job → x ≠ id → ∃ bytes, job = .send bytes := by
        rintro x job rfl
        cases prompts.underWay
      obtain ⟨call'', hcall'', -, hsuits⟩ := linkStep.stays hcall hcollect hdrop
      cases hcall'.symm.trans hcall''
      refine ⟨e, phase, unread', hadvance, ?_, ⟨?_, hreceiving.job, hsuits hreceiving.suits,
        fun g' seen => hadvance.lane⟩, ⟨hattends, l', hface', hbound',
        hsending.step linkStep hsends⟩, hinbound ▸ hanswers, hremote.trans hclosed,
        hread.trans hfault⟩
      · rw [found_setTask]
        show some { task with activity := .acting (.onLink t) } = some task
        rw [← acting]
      · show (n₁.setLink t l l' dialer').call? t id = _
        rw [call?, Node.link?, hface']
        exact hcall'

/-! ## Going on -/

theorem readEvent_some (healthy : (n.connection c).readFault = none)
    (hclosed : (n.connection c).remoteClosed = true) :
    ∃ e n', n.readEvent c id = some (e, n') ∧
      (e = .ended id ∨ ∃ bytes, bytes ≠ [] ∧ e = .filled id bytes) := by
  unfold readEvent Connection.read
  by_cases hinbound : (n.connection c).inbound = []
  · refine ⟨.ended id, n, ?_, .inl rfl⟩
    simp [hinbound, healthy, hclosed]
  · simp only [hinbound, ne_eq, not_false_eq_true, if_true]
    exact ⟨_, _, rfl, .inr ⟨_, by simp [hinbound, Connection.readSize], rfl⟩⟩

/-- Where the remote end has closed, a reader never has to wait. -/
theorem Plugged.goesOn (h : Plugged n id t g c unread) (hreceiving : Receiving n id t g call)
    (healthy : (n.connection c).readFault = none) (hclosed : (n.connection c).remoteClosed = true) :
    (n.stepCall id t).isSome = true := by
  obtain ⟨l, hlink, hbound, hsending⟩ := h.link?
  obtain ⟨tr, dialer, hget, hcarrier⟩ := link?_eq_some.mp hlink
  have hcall : l.calls.get? id = some call := by
    have hcall := hreceiving.under
    rwa [call?, hlink] at hcall
  -- It is enough that the call has an event, and that the link takes it.
  suffices hevent : ∃ e dialer' n₁ l', n.callEvent l dialer id = some (e, dialer', n₁) ∧
      Link.Step l e l' by
    obtain ⟨e, dialer', n₁, l', hevent, hstep⟩ := hevent
    simp only [stepCall, hget, hcarrier, hcall, hevent, Link.step_iff.mpr hstep,
      Option.bind_eq_bind, Option.bind_some]
    split <;> rfl
  have hgate := hbound.not_atGate hcall
  cases hphase : call.phase with
  | ready =>
      refine ⟨.look id, dialer, n, _, ?_, .lookSome hcall hphase hbound.opened hbound.slot⟩
      simp [callEvent, hcall, hphase, hbound.opened]
  | entering g' seen =>
      obtain rfl := hreceiving.lane g' seen (by rw [hphase]; rfl)
      obtain ⟨lane, hlane, -, -, hlive⟩ := hbound.lane
      refine ⟨.ask id, dialer, n, _, ?_, .ask hcall hphase hlane hlive⟩
      simp [callEvent, hcall, hphase, hbound.opened, Link.isAbandoned, hlane, hlive]
  | failed seen cause =>
      refine ⟨.judge id, dialer, n, _, ?_, .judgeStuck hcall hphase hbound.opened hbound.stuck⟩
      simp [callEvent, hcall, hphase, hbound.opened]
  | done outcome =>
      refine ⟨.collect id, dialer, n, _, ?_, .collect hcall hphase⟩
      simp [callEvent, hcall, hphase]
  | waiting seen | pausing due | dialling =>
      rw [hphase] at hgate
      cases hgate
  | working g' seen work =>
      obtain rfl := hreceiving.lane g' seen (by rw [hphase]; rfl)
      cases work with
      | writing rest =>
          obtain ⟨bytes, hsend⟩ := hreceiving.suits.writes hphase
          cases hreceiving.job.symm.trans hsend
      | reading progress =>
          obtain ⟨lane, hholds, rfl, rfl⟩ := hbound.holds hsending hcall hphase
          have hwork : n.callEvent l dialer id =
              (if lane.unread ≠ [] then some (.parse id, n)
                else n.readEvent lane.connection id).map fun p => (p.1, dialer, p.2) := by
            simp [callEvent, hcall, hphase, hbound.opened, workEvent, hholds.found, hholds.live,
              hholds.turn]
          by_cases hunread : lane.unread = []
          · rw [if_neg (by simp [hunread])] at hwork
            obtain ⟨e, n₁, hread, hheard⟩ :
                ∃ e n₁, n.readEvent lane.connection id = some (e, n₁) ∧
                  (e = .ended id ∨ ∃ bytes, bytes ≠ [] ∧ e = .filled id bytes) :=
              readEvent_some healthy hclosed
            rcases hheard with rfl | ⟨bytes, hbytes, rfl⟩
            · exact ⟨.ended id, dialer, n₁, _, by rw [hwork, hread]; rfl, .ended hholds hunread⟩
            · exact ⟨.filled id bytes, dialer, n₁, _, by rw [hwork, hread]; rfl,
                .filled hholds hunread hbytes⟩
          · refine ⟨.parse id, dialer, n, _, ?_, .of_onParse hholds hunread⟩
            simp [hwork, hunread]

end TelemetryRelay.Node
