import TelemetryRelay.Proofs.Node.Replies

/-!
# The loop of a bridge

The loop of a bridge asks its transport for a frame, decodes it, publishes the message
and asks again, until an error ends it.  `Station` says where it stands: what its task
is at, and that a publish it has begun comes back to it.  `Turn` says how it goes on
from there; what others do leaves it where it is.
-/

namespace TelemetryRelay

open Wire

/-- The loop of a bridge: its task, and the bridge as it was when the loop began. -/
structure Loop where
  id : TaskId
  b : BridgeId
  bridge : Bridge
  label : Option String

inductive Station where
  | listening
  /-- About to ask the transport for a frame. -/
  | asking
  | fetching
  /-- Has a call on the link. -/
  | reading
  | answered (result : Except LinkError Frame)
  | publishing (message : Message)
  /-- The message goes from one listener to the next. -/
  | spreading
  | resting
  | leaving
  | left
  | gone

def Station.frame? : Station → Option Frame
  | .answered (.ok f) => some f
  | _ => none

def Station.message? : Station → Option Message
  | .publishing m => some m
  | _ => none

def Activity.action? : Activity → Option Action
  | .acting a => some a
  | .replying _ => none

def Activity.reply? : Activity → Option Reply
  | .acting _ => none
  | .replying r => some r

def Reply.frame? : Reply → Option Frame
  | .received (.ok f) => some f
  | _ => none

def Action.published? : Action → Option (Option ListenerId × Option Message)
  | .publish sender message => some (sender, message)
  | _ => none

namespace Loop

variable (loop : Loop)

def task (activity : Activity) (pending : List Then) : Task :=
  { activity, pending, label := loop.label }

/-- A message as the bridge publishes it: under its own id. -/
def publication (m : Message) : Option ListenerId × Option Message :=
  (some loop.bridge.id, some m)

/-- The task as long as it publishes; what it waits for brings it back to the loop. -/
def publisher : Task := loop.task (.acting (.listen loop.b)) [.next (.listen loop.b)]

/-- What the task is at, and what waits for it, at a station of the loop itself. -/
def task? : Station → Option Task
  | .listening => some (loop.task (.acting (.listen loop.b)) [])
  | .asking => some (loop.task (.acting (.receive loop.bridge.transport)) [.heard loop.b])
  | .fetching => some (loop.task (.acting (.fetch loop.bridge.transport)) [.heard loop.b])
  | .reading => some (loop.task (.acting (.onLink loop.bridge.transport)) [.heard loop.b])
  | .answered r => some (loop.task (.replying (.received r)) [.heard loop.b])
  | .publishing m =>
    some (loop.task (.acting (.publish (some loop.bridge.id) (some m))) [.next (.listen loop.b)])
  | .resting => some (loop.task (.acting (.rest loop.b)) [])
  | .leaving => some (loop.task (.acting (.leave loop.b)) [])
  | .left => some (loop.task (.replying .left) [])
  | .spreading | .gone => none

end Loop

namespace Node

/-- The task has a call on the link, which came to receive. -/
def Receives (n : Node) (id : TaskId) (t : TransportId) : Prop :=
  ∃ c, n.call? t id = some c ∧ c.job = .receive ∧ c.Suits

inductive Stands (n : Node) (loop : Loop) : Station → Prop
  | within {s : Station} {task : Task} (is : loop.task? s = some task)
      (found : n.tasks.get? loop.id = some task)
      (receives : s = .reading → n.Receives loop.id loop.bridge.transport) : Stands n loop s
  | spreading {frames : List Then} {activity : Activity}
      (speaking : Speaking n loop.id loop.publisher .published frames activity)
      (on : frames = [] → ∀ a, activity = .acting a → a.opens = false) : Stands n loop .spreading
  | gone (found : n.tasks.get? loop.id = none) : Stands n loop .gone

/-- A loop stands there, and its bridge is what it was, but for whether it runs. -/
structure Intake (n : Node) (loop : Loop) (s : Station) : Prop where
  known : loop.id < n.fresh
  bridge : ∃ running, n.bridges.get? loop.b = some { loop.bridge with running }
  stands : Stands n loop s

/-- How a loop goes on from a station of its own. -/
inductive Turn (n : Node) (loop : Loop) : Station → Station → Prop
  | listens : Turn n loop .listening .asking
  | stops (halted : n.bridges.get? loop.b = some { loop.bridge with running := false }) :
      Turn n loop .listening .leaving
  | asks : Turn n loop .asking .fetching
  | refused {f : Face} (face : n.face loop.bridge.transport = some f) (shut : f.shut = true) :
      Turn n loop .asking (.answered (.error .closed))
  | calls : Turn n loop .fetching .reading
  | waits (off : n.link? loop.bridge.transport = none) : Turn n loop .fetching .fetching
  | fetches {r : Except LinkError Frame} (off : n.link? loop.bridge.transport = none) :
      Turn n loop .fetching (.answered r)
  | goesOn : Turn n loop .reading .reading
  | collects {r : Except LinkError Frame} : Turn n loop .reading (.answered r)
  | takes {f : Frame} {m : Message} (decodes : loop.bridge.table.messageOf? f = some m) :
      Turn n loop (.answered (.ok f)) (.publishing m)
  | skips {f : Frame} (decodes : loop.bridge.table.messageOf? f = none) :
      Turn n loop (.answered (.ok f)) .listening
  | rests {e : LinkError}
      (recovers : ∀ l, n.link? loop.bridge.transport = some l → l.canDial = true) :
      Turn n loop (.answered (.error e)) .resting
  | fails {e : LinkError} : Turn n loop (.answered (.error e)) .leaving
  | publishes {m : Message} : Turn n loop (.publishing m) .spreading
  | spreads : Turn n loop .spreading .spreading
  | returns : Turn n loop .spreading .listening
  | resumes : Turn n loop .resting .listening
  | leaves : Turn n loop .leaving .left
  | ends : Turn n loop .left .gone

variable {n n' : Node} {loop : Loop} {id : TaskId} {t : TransportId} {m : Move} {s s' : Station}
  {next : Transition} {task : Task} {a : Action}

/-! ## What the others do -/

theorem Receives.lt (h : n.Receives id t) (hn : Numbered n) : t < n.fresh := by
  obtain ⟨c, hcall, -⟩ := h
  obtain ⟨l, hlink, -⟩ := Option.bind_eq_some_iff.mp hcall
  obtain ⟨f, hface, -⟩ := Option.bind_eq_some_iff.mp hlink
  exact hn.lt_of_face hface

theorem Stands.beside (h : Stands n loop s) (hn : Numbered n) (known : loop.id < n.fresh)
    (hmove : n.move m = some n') (hother : m ≠ .step loop.id) : Stands n' loop s := by
  have htask := task_of_move hn hmove known hother
  cases h with
  | within is found receives =>
      refine .within is (by rw [htask, found]) fun hs => ?_
      have hreceives := receives hs
      unfold Receives
      rw [call?_move hn hmove (hreceives.lt hn) hother]
      exact hreceives
  | spreading speaking on => exact .spreading (speaking.beside hn hmove hother) on
  | gone found => exact .gone (by rw [htask, found])

theorem Intake.beside (h : Intake n loop s) (hn : Numbered n) (hmove : n.move m = some n')
    (hother : m ≠ .step loop.id) : Intake n' loop s :=
  ⟨Nat.lt_of_lt_of_le h.known (spares_move hn hmove).fresh, bridge_stays hn hmove h.bridge,
    h.stands.beside hn h.known hmove hother⟩

/-! ## Receiving -/

/-- A call that came to receive ends with what it has received. -/
theorem stepCall_receives (h : n.stepCall id t = some (n', next)) (hreceives : n.Receives id t) :
    (∃ r, next = .reply (.received r)) ∨ (next = .go (.onLink t) ∧ n'.Receives id t) := by
  obtain ⟨c', hcall, hjob, hsuits⟩ := hreceives
  cases acts_of_stepCall h with
  | proceeds proceeds => cases proceeds
  | @calls _ _ _ _ _ _ c _ _ found on call prompts step goesOn =>
      cases call.symm.trans ((call?_eq found on).symm.trans hcall)
      obtain ⟨c'', hcall'', hjob'', hsuits''⟩ := prompts.stays found call step goesOn
      exact .inr ⟨rfl, c'', hcall'', hjob''.trans hjob, hsuits'' hsuits⟩
  | @collects _ _ _ _ _ c found on call step =>
      cases call.symm.trans ((call?_eq found on).symm.trans hcall)
      rcases replyOf_collect call step hsuits with ⟨bytes, r, hsend, -⟩ | ⟨r, -, hreply⟩
      · cases hjob.symm.trans hsend
      · exact .inl ⟨r, by rw [hreply]⟩

theorem link?_eq_none {tr : Transport} (hget : n.transports.get? t = some tr)
    (hoff : tr.carrier.link? = none) : n.link? t = none := by
  rw [link?_of_get? hget, hoff]

theorem fetch_leads (h : n.fetch id t = some (n', next)) :
    (next = .go (.onLink t) ∧ n'.Receives id t) ∨
      (n.link? t = none ∧ (next = .go (.fetch t) ∨ ∃ r, next = .reply (.received r))) := by
  cases acts_of_fetch h with
  | proceeds proceeds =>
      cases proceeds with
      | hearsNothing found on =>
          exact .inr ⟨link?_eq_none found (by rw [on]; rfl), .inr ⟨_, rfl⟩⟩
  | callsToReceive found on step =>
      exact .inl ⟨rfl, { job := .receive }, call?_of_comes found step, rfl, rfl⟩
  | hears found on | reads found on =>
      exact .inr ⟨link?_eq_none found (by rw [on]; rfl), .inr ⟨_, rfl⟩⟩
  | ignores found on => exact .inr ⟨link?_eq_none found (by rw [on]; rfl), .inl rfl⟩

theorem receive_leads (h : n.act id (.receive t) = some (n', next)) :
    next = .go (.fetch t) ∨
      (next = .reply (.received (.error .closed)) ∧ ∃ f, n.face t = some f ∧ f.shut = true) := by
  obtain ⟨proceeds⟩ := Acts.of_act h
  cases proceeds with
  | shut found shut => exact .inr ⟨rfl, _, face_of_get? found, shut⟩
  | receives => exact .inl rfl

/-! ## What the loop does -/

section Own

variable {running : Bool}

/-- A step of a task that sends for no outbox. -/
theorem of_step_acting (found : n.tasks.get? id = some task) (bare : task.outbox = none)
    (acting : task.activity = .acting a) (hstep : n.step id = some n') :
    ∃ after next, n.act id a = some (after, next) ∧ n' = after.setTask id (task.advance next) := by
  have hacts : n.actionOf? id = some a := actionOf?_of_acting found (by simp [bare]) acting
  rw [step_of_actionOf? found hacts, Option.map_eq_some_iff] at hstep
  obtain ⟨⟨after, next⟩, hact, rfl⟩ := hstep
  exact ⟨after, next, hact, rfl⟩

theorem of_step_replying {r : Reply} {k : Then} {pending : List Then}
    (found : n.tasks.get? id = some task) (bare : task.outbox = none)
    (replying : task.activity = .replying r) (waits : task.pending = k :: pending)
    (hstep : n.step id = some n') : ∃ after next, n.resume k r = (after, next) ∧
      n' = after.setTask id ({ task with pending }.advance next) := by
  have hstays := stays_of_step found bare hstep (by simp [waits])
  rcases step_of_replying found replying waits hstep with hgone | ⟨after, next, hres, -, rfl⟩
  · exact absurd hgone hstays
  · exact ⟨after, next, hres, rfl⟩

theorem step_isSome_of_act (found : n.tasks.get? id = some task) (bare : task.outbox = none)
    (acting : task.activity = .acting a) (hact : (n.act id a).isSome = true) :
    (n.step id).isSome = true := by
  rw [step_of_actionOf? found (actionOf?_of_acting found (by simp [bare]) acting), Option.isSome_map]
  exact hact

theorem step_isSome_of_reply {r : Reply} (found : n.tasks.get? id = some task)
    (bare : task.outbox = none) (replying : task.activity = .replying r) :
    (n.step id).isSome = true := by
  cases hpending : task.pending <;> simp [Node.step, found, bare, replying, hpending]

/-- The task is at that station now. -/
theorem stands_at {n : Node} (id : TaskId) (hid : id = loop.id) (is : loop.task? s = some task)
    (hs : s ≠ .reading) : Stands (n.setTask id task) loop s :=
  .within is (by rw [← hid]; exact found_setTask ..) fun h => absurd h hs

theorem listen_turn (found : n.tasks.get? loop.id = some (loop.task (.acting (.listen loop.b)) []))
    (bridge : n.bridges.get? loop.b = some { loop.bridge with running })
    (hstep : n.step loop.id = some n') : ∃ s, Stands n' loop s ∧ Turn n loop .listening s := by
  obtain ⟨after, next, hact, rfl⟩ := of_step_acting found rfl rfl hstep
  obtain ⟨proceeds⟩ := Acts.of_act hact
  cases proceeds with
  | listens found' halted =>
      cases bridge.symm.trans found'
      exact ⟨.asking, stands_at _ rfl rfl (by simp), .listens⟩
  | quits found' halted =>
      cases bridge.symm.trans found'
      cases halted
      exact ⟨.leaving, stands_at _ rfl rfl (by simp), .stops bridge⟩

theorem hear_turn {r : Except LinkError Frame}
    (found : n.tasks.get? loop.id = some (loop.task (.replying (.received r)) [.heard loop.b]))
    (bridge : n.bridges.get? loop.b = some { loop.bridge with running })
    (hstep : n.step loop.id = some n') : ∃ s, Stands n' loop s ∧ Turn n loop (.answered r) s := by
  obtain ⟨after, next, hres, rfl⟩ := of_step_replying found rfl rfl rfl hstep
  obtain ⟨rfl, rfl⟩ := Prod.mk.inj hres
  simp only [heard, bridge]
  cases r with
  | ok f =>
      cases hdecodes : loop.bridge.table.messageOf? f with
      | some m =>
          simp only [hdecodes]
          exact ⟨.publishing m, stands_at _ rfl rfl (by simp), .takes hdecodes⟩
      | none =>
          simp only [hdecodes]
          exact ⟨.listening, stands_at _ rfl rfl (by simp), .skips hdecodes⟩
  | error e =>
      have hfails : ∃ s, Stands (n.setTask loop.id (loop.task (.acting (.leave loop.b)) [])) loop s ∧
          Turn n loop (.answered (.error e)) s :=
        ⟨.leaving, stands_at _ rfl rfl (by simp), .fails⟩
      cases e with
      | closed => exact hfails
      | _ =>
          simp only
          split
          · rename_i hrecovers
            refine ⟨.resting, stands_at _ rfl rfl (by simp), .rests ?_⟩
            intro l hl
            obtain ⟨tr, dialer, hget, hcarrier⟩ := link?_eq_some.mp hl
            simp only [hget, Option.any_some, Transport.canRecover, hcarrier, Carrier.canRecover,
              Bool.and_eq_true] at hrecovers
            exact hrecovers.1
          · exact hfails

theorem spread_turn {frames : List Then} {activity : Activity}
    (speaking : Speaking n loop.id loop.publisher .published frames activity)
    (hstep : n.step loop.id = some n') : ∃ s, Stands n' loop s ∧ Turn n loop .spreading s := by
  have hstays := stays_of_step speaking.found rfl hstep (by simp [Loop.publisher, Loop.task])
  by_cases hinside : frames = [] → ∃ a, activity = .acting a
  · rcases speaking.step hstep hinside with hgone | ⟨frames', activity', hspeaking, hon⟩
    · exact absurd hgone hstays
    · exact ⟨.spreading, .spreading hspeaking hon, .spreads⟩
  · obtain ⟨rfl, hreplying⟩ := Classical.not_imp.mp hinside
    cases activity with
    | acting a => exact absurd ⟨a, rfl⟩ hreplying
    | replying r =>
        obtain ⟨after, next, hres, rfl⟩ := of_step_replying speaking.found rfl rfl rfl hstep
        cases hres
        exact ⟨.listening, stands_at _ rfl rfl (by simp), .returns⟩

/-- **A loop goes on from one of its stations to the next.** -/
theorem Intake.step (h : Intake n loop s) (hn : Numbered n) (hstep : n.step loop.id = some n') :
    ∃ s', Intake n' loop s' ∧ Turn n loop s s' := by
  obtain ⟨known, ⟨running, hbridge⟩, hstands⟩ := h
  have hmove : n.move (.step loop.id) = some n' := hstep
  suffices hnext : ∃ s', Stands n' loop s' ∧ Turn n loop s s' by
    obtain ⟨s', hs', hturn⟩ := hnext
    exact ⟨s', ⟨Nat.lt_of_lt_of_le known (spares_move hn hmove).fresh,
      bridge_stays hn hmove ⟨running, hbridge⟩, hs'⟩, hturn⟩
  cases hstands with
  | spreading speaking on => exact spread_turn speaking hstep
  | gone found => simp [Node.step, found] at hstep
  | within is found receives =>
      cases s with
      | spreading | gone => cases is
      | listening =>
          cases is
          exact listen_turn found hbridge hstep
      | answered r =>
          cases is
          exact hear_turn found hbridge hstep
      | asking =>
          cases is
          obtain ⟨after, next, hact, rfl⟩ := of_step_acting found rfl rfl hstep
          rcases receive_leads hact with rfl | ⟨rfl, f, hface, hshut⟩
          · exact ⟨.fetching, stands_at _ rfl rfl (by simp), .asks⟩
          · exact ⟨.answered _, stands_at _ rfl rfl (by simp), .refused hface hshut⟩
      | fetching =>
          cases is
          obtain ⟨after, next, hact, rfl⟩ := of_step_acting found rfl rfl hstep
          rcases fetch_leads hact with ⟨rfl, hreceives⟩ | ⟨hoff, rfl | ⟨r, rfl⟩⟩
          · exact ⟨.reading, .within rfl (found_setTask ..) fun _ => hreceives, .calls⟩
          · exact ⟨.fetching, stands_at _ rfl rfl (by simp), .waits hoff⟩
          · exact ⟨.answered r, stands_at _ rfl rfl (by simp), .fetches hoff⟩
      | reading =>
          cases is
          obtain ⟨after, next, hact, rfl⟩ := of_step_acting found rfl rfl hstep
          rcases stepCall_receives hact (receives rfl) with ⟨r, rfl⟩ | ⟨rfl, hreceives⟩
          · exact ⟨.answered r, stands_at _ rfl rfl (by simp), .collects⟩
          · exact ⟨.reading, .within rfl (found_setTask ..) fun _ => hreceives, .goesOn⟩
      | publishing m =>
          cases is
          obtain ⟨after, next, hact, rfl⟩ := of_step_acting found rfl rfl hstep
          cases hact
          refine ⟨.spreading, @Stands.spreading _ _ [] _ ⟨found_setTask .., .published, ?_, .nil⟩ ?_,
            .publishes⟩
          · exact speaks_of_topic rfl (by simp)
          · intro _ a ha
            cases ha
            rfl
      | resting =>
          cases is
          obtain ⟨after, next, hact, rfl⟩ := of_step_acting found rfl rfl hstep
          cases hact
          exact ⟨.listening, stands_at _ rfl rfl (by simp), .resumes⟩
      | leaving =>
          cases is
          obtain ⟨after, next, hact, rfl⟩ := of_step_acting found rfl rfl hstep
          cases hact
          exact ⟨.left, stands_at _ rfl rfl (by simp), .leaves⟩
      | left =>
          cases is
          cases Step.of_step hstep with
          | halt found' outbox =>
              cases found.symm.trans found'
              cases outbox
          | act found' _ acting =>
              cases found.symm.trans found'
              cases acting
          | resume found' _ _ waits =>
              cases found.symm.trans found'
              cases waits
          | @finish before reply =>
              obtain ⟨reports, heq⟩ := finish_eq n loop.id before.label reply
              exact ⟨.gone, .gone (by simp [heq]), .ends⟩

end Own

/-! ## What is seen of a loop -/

section Seen

variable {β : Type}

/-- What a task does with this move, where it waits for so many replies. -/
def does? (f : Action → Option β) (id : TaskId) (depth : Nat) : Node × Move → Option β
  | (n, .step i) => if i = id ∧ n.depth id = depth then (n.actionOf? id).bind f else none
  | (_, .outside _) => none

/-- What a task takes up with this move, where it waits for so many replies. -/
def takes? (f : Reply → Option β) (id : TaskId) (depth : Nat) : Node × Move → Option β
  | (n, .step i) => if i = id ∧ n.depth id = depth then (n.answerOf? id).bind f else none
  | (_, .outside _) => none

/-- The frame that a loop takes from its transport. -/
def receives? (id : TaskId) : Node × Move → Option Frame := takes? Reply.frame? id 1

/-- What a loop publishes, and under which id. -/
def publishes? (id : TaskId) : Node × Move → Option (Option ListenerId × Option Message) :=
  does? Action.published? id 1

variable {f : Action → Option β} {k : Reply → Option β} {depth : Nat}

theorem does?_of_other (hother : m ≠ .step id) : does? f id depth (n, m) = none := by
  cases m with
  | outside o => rfl
  | step i =>
      have hne : i ≠ id := fun h => hother (by rw [h])
      simp [does?, hne]

theorem takes?_of_other (hother : m ≠ .step id) : takes? k id depth (n, m) = none := by
  cases m with
  | outside o => rfl
  | step i =>
      have hne : i ≠ id := fun h => hother (by rw [h])
      simp [takes?, hne]

theorem actionOf?_of_bare (found : n.tasks.get? id = some task) (bare : task.outbox = none) :
    n.actionOf? id = task.activity.action? := by
  cases hactivity : task.activity <;> simp [actionOf?, found, bare, hactivity, Activity.action?]

theorem answerOf?_of_bare (found : n.tasks.get? id = some task) (bare : task.outbox = none) :
    n.answerOf? id = task.activity.reply? := by
  cases hactivity : task.activity <;> simp [answerOf?, found, bare, hactivity, Activity.reply?]

/-- The task of a loop belongs to no outbox. -/
theorem Loop.bare_of_task? (is : loop.task? s = some task) : task.outbox = none := by
  cases s <;> cases is <;> rfl

theorem Stands.bare (h : Stands n loop s) (found : n.tasks.get? loop.id = some task) :
    task.outbox = none := by
  cases h with
  | within is found' =>
      cases found.symm.trans found'
      exact Loop.bare_of_task? is
  | spreading speaking =>
      cases found.symm.trans speaking.found
      rfl
  | gone found' => cases found.symm.trans found'

theorem Speaking.depth_eq_one {frames : List Then} {activity : Activity}
    (h : Speaking n loop.id loop.publisher .published frames activity)
    (hdepth : n.depth loop.id = 1) : frames = [] := by
  rw [depth_of_found h.found] at hdepth
  simpa [Loop.publisher, Loop.task] using hdepth

theorem Stands.receives? (h : Stands n loop s) :
    Node.receives? loop.id (n, .step loop.id) = s.frame? := by
  cases h with
  | within is found =>
      have hanswer := answerOf?_of_bare found (Loop.bare_of_task? is)
      have hdepth := depth_of_found found
      simp only [Node.receives?, takes?, hdepth, hanswer]
      cases s with
      | answered r => cases is; cases r <;> rfl
      | _ => cases is <;> rfl
  | gone found => simp [Node.receives?, takes?, depth, found, Station.frame?]
  | @spreading frames activity speaking on =>
      simp only [Node.receives?, takes?, true_and, Station.frame?, ite_eq_right_iff]
      intro hdepth
      obtain rfl := speaking.depth_eq_one hdepth
      rw [answerOf?_of_bare speaking.found rfl]
      obtain ⟨topic, hspeaks, hchain⟩ := speaking.chain
      cases hchain
      cases hspeaks with
      | acting => rfl
      | @replying r _ about => cases r <;> first | rfl | cases about

theorem Stands.publishes? (h : Stands n loop s) :
    Node.publishes? loop.id (n, .step loop.id) =
      s.message?.map fun m => (some loop.bridge.id, some m) := by
  cases h with
  | within is found =>
      have haction := actionOf?_of_bare found (Loop.bare_of_task? is)
      have hdepth := depth_of_found found
      simp only [Node.publishes?, does?, hdepth, haction]
      cases s <;> cases is <;> rfl
  | gone found => simp [Node.publishes?, does?, depth, found, Station.message?]
  | @spreading frames activity speaking on =>
      simp only [Node.publishes?, does?, true_and, Station.message?, Option.map_none,
        ite_eq_right_iff]
      intro hdepth
      have hon := on (speaking.depth_eq_one hdepth)
      rw [actionOf?_of_bare speaking.found rfl]
      cases activity with
      | replying => rfl
      | acting a =>
          have hopens := hon a rfl
          cases a <;> first | rfl | cases hopens

end Seen

/-! ## Runs of a loop -/

section Runs

variable {n₀ : Node} {ms : List Move}

/-- Where a loop stands after a run: all messages that it has received are published, but
for the one that is next. -/
structure Logged (n₀ : Node) (loop : Loop) (ms : List Move) (n : Node) (s : Station) : Prop where
  numbered : Numbered n
  intake : Intake n loop s
  published : (history n₀ ms).filterMap (publishes? loop.id) ++
      (s.message?.map loop.publication).toList =
    (((history n₀ ms).filterMap (receives? loop.id)).filterMap
      loop.bridge.table.messageOf?).map loop.publication

theorem received_beside (hrun : n₀.run ms = some n) (hother : m ≠ .step loop.id) :
    (history n₀ (ms ++ [m])).filterMap (receives? loop.id) =
      (history n₀ ms).filterMap (receives? loop.id) := by
  rw [filterMap_history_snoc _ hrun, receives?, takes?_of_other hother]
  exact List.append_nil _

theorem received_step (hrun : n₀.run ms = some n) (h : Stands n loop s) :
    (history n₀ (ms ++ [.step loop.id])).filterMap (receives? loop.id) =
      (history n₀ ms).filterMap (receives? loop.id) ++ s.frame?.toList := by
  rw [filterMap_history_snoc _ hrun, h.receives?]

/-- What a loop takes in is what it publishes next. -/
theorem Turn.messages (h : Turn n loop s s') :
    s.frame?.toList.filterMap loop.bridge.table.messageOf? = s'.message?.toList := by
  cases h with
  | takes decodes | skips decodes => simp [Station.frame?, Station.message?, decodes]
  | _ => rfl

theorem Logged.begin (hn : Numbered n)
    (found : n.tasks.get? loop.id = some (loop.task (.acting (.listen loop.b)) []))
    (bridge : n.bridges.get? loop.b = some loop.bridge) : Logged n loop [] n .listening :=
  ⟨hn, ⟨hn.lt_of_task found, ⟨loop.bridge.running, bridge⟩, .within rfl found (by simp)⟩, rfl⟩

theorem Logged.beside (h : Logged n₀ loop ms n s) (hrun : n₀.run ms = some n)
    (hmove : n.move m = some n') (hother : m ≠ .step loop.id) :
    Logged n₀ loop (ms ++ [m]) n' s := by
  refine ⟨h.numbered.move hmove, h.intake.beside h.numbered hmove hother, ?_⟩
  have hpublished : (history n₀ (ms ++ [m])).filterMap (publishes? loop.id) =
      (history n₀ ms).filterMap (publishes? loop.id) := by
    rw [filterMap_history_snoc _ hrun, publishes?, does?_of_other hother]
    exact List.append_nil _
  rw [hpublished, received_beside hrun hother]
  exact h.published

theorem Logged.step (h : Logged n₀ loop ms n s) (hrun : n₀.run ms = some n)
    (hstep : n.step loop.id = some n') :
    ∃ s', Logged n₀ loop (ms ++ [.step loop.id]) n' s' ∧ Turn n loop s s' := by
  have hstands := h.intake.stands
  obtain ⟨s', hintake, hturn⟩ := h.intake.step h.numbered hstep
  refine ⟨s', ⟨h.numbered.move (m := .step loop.id) hstep, hintake, ?_⟩, hturn⟩
  have hpublished : (history n₀ (ms ++ [.step loop.id])).filterMap (publishes? loop.id) =
      (history n₀ ms).filterMap (publishes? loop.id) ++ (s.message?.map loop.publication).toList := by
    rw [filterMap_history_snoc _ hrun, hstands.publishes?]
    rfl
  rw [received_step hrun hstands, hpublished, h.published, List.filterMap_append, List.map_append,
    hturn.messages]
  cases s'.message? <;> rfl

end Runs

end Node

end TelemetryRelay
