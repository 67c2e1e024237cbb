import TelemetryRelay.Proofs.Node.Lineage
import TelemetryRelay.Proofs.Node.Transports
import TelemetryRelay.Proofs.Outbox.Steps

/-!
# What is done to an outbox

A move does one thing to an outbox at most.  `Dealt` lists it together with what becomes of
the task that makes the move, because the two belong together: a frame comes with a task that
begins to wait, and goes with one that is told what became of it.
-/

namespace TelemetryRelay

open Wire

/-- The outbox that an action takes place behind. -/
def Action.behind? : Action → Option TransportId
  | .offered t | .transmit t _ | .drain t => some t
  | _ => none

def Action.behind (x : Action) : List TransportId := x.plan.filterMap Action.behind?

def Then.behind : Then → List TransportId
  | .next a => a.behind
  | .drained t => [t]
  | _ => []

def Activity.behind : Activity → List TransportId
  | .acting x => x.behind
  | .replying _ => []

def Transition.behind : Transition → List TransportId
  | .go x => x.behind
  | .call x k => x.behind ++ k.behind
  | .reply _ => []

namespace Node

/-- The outbox before a transport. -/
def outbox? (n : Node) (t : TransportId) : Option Outbox :=
  (n.transports.get? t).bind (·.outbox)

/-- What an action does to an outbox, and how it goes on. -/
inductive Deals (n : Node) (id : TaskId) (t : TransportId) (o : Outbox) :
    Action → Outbox → Transition → Prop
  | refused {f : Frame} (closed : o.closed = true) :
      Deals n id t o (.send t f) o (.reply (.sent (.error .closed)))
  | offers {f : Frame} {o' : Outbox} (opened : o.closed = false)
      (step : Outbox.Step o (.offer id f) o') : Deals n id t o (.send t f) o' (.go (.offered t))
  | turnedAway {o' : Outbox} (step : Outbox.Step o (.refuse id) o') :
      Deals n id t o (.offered t) o' (.reply (.sent (.error .closed)))
  | accepted {o' : Outbox} (step : Outbox.Step o (.accept id) o') :
      Deals n id t o (.offered t) o' (.reply (.sent (.ok ())))
  | closes {o' : Outbox} (step : Outbox.Step o .close o') :
      Deals n id t o (.terminate t) o' (.call (.hangUp t) (.next (.join t)))
  | closed (closed : o.closed = true) : Deals n id t o (.terminate t) o (.reply .done)
  | stopped : Deals n id t o (.drain t) o (.reply .done)
  | transmits {f : Frame} (sending : o.sender = .sending f) :
      Deals n id t o (.drain t) o (.call (.transmit t f) (.drained t))
  | drains {o' : Outbox} {e : Outbox.Event} (step : Outbox.Step o e o')
      (own : e = .take ∨ e = .retry (n.now + n.shortfall o.retryPause)) :
      Deals n id t o (.drain t) o' (.go (.drain t))
  | aside {x : Action} {next : Transition} (other : ∀ e, ¬ Boxes n id x t e) :
      Deals n id t o x o next

/-- What a move does to an outbox, and to the task that makes it. -/
inductive Dealt (n : Node) (t : TransportId) (o : Outbox) : Move → Node → Outbox → Prop
  | acts {id : TaskId} {task : Task} {x : Action} {next : Transition} {n₁ n' : Node} {o' : Outbox}
      (found : n.tasks.get? id = some task) (acting : task.activity = .acting x)
      (action : n.actionOf? id = some x) (ensues : Ensues n x next)
      (deals : Deals n id t o x o' next) (after : n'.tasks.get? id = some (task.advance next))
      (acts : n.act id x = some (n₁, next)) : Dealt n t o (.step id) n' o'
  | told {id : TaskId} {task : Task} {r : Except LinkError Unit} {pending : List Then}
      {tr : Transport} {n' : Node} {o' : Outbox} (found : n.tasks.get? id = some task)
      (replying : task.activity = .replying (.sent r)) (waits : task.pending = .drained t :: pending)
      (has : n.transports.get? t = some tr)
      (step : Outbox.Step o (.sent (.ofResult tr.canRecover r) n.now) o')
      (after : n'.tasks.get? id = some { task with activity := .acting (.drain t), pending }) :
      Dealt n t o (.step id) n' o'
  | resumes {id : TaskId} {task : Task} {r : Reply} {k : Then} {pending : List Then}
      {next : Transition} {n' : Node} (found : n.tasks.get? id = some task)
      (replying : task.activity = .replying r) (waits : task.pending = k :: pending)
      (takesUp : TakesUp k next)
      (after : n'.tasks.get? id = some ({ task with pending }.advance next))
      (untold : ∀ tr result o', k = .drained t → r = .sent result →
        n.transports.get? t = some tr →
        ¬ Outbox.Step o (.sent (.ofResult tr.canRecover result) n.now) o') :
      Dealt n t o (.step id) n' o
  | ends {id : TaskId} {task : Task} {r : Reply} {n' : Node}
      (found : n.tasks.get? id = some task) (replying : task.activity = .replying r)
      (gone : n'.tasks.get? id = none) (last : task.pending = []) : Dealt n t o (.step id) n' o
  | halts {id : TaskId} {task : Task} {t' : TransportId} {n' : Node} {o' : Outbox}
      (found : n.tasks.get? id = some task) (outbox : task.outbox = some t')
      (gone : n'.tasks.get? id = none)
      (halt : t' = t ∧ Outbox.Step o .halt o' ∨ t' ≠ t ∧ o' = o) : Dealt n t o (.step id) n' o'
  | outside {w : Occurrence} {n' : Node} : Dealt n t o (.outside w) n' o

variable {n n' : Node} {id : TaskId} {t : TransportId} {o o' : Outbox} {x : Action}
  {next : Transition} {k : Then} {m : Move} {tr tr' : Transport}

/-! ## What leads behind an outbox -/

theorem Ensues.behind (h : Ensues n x next) (ht : t ∈ next.behind) :
    t ∈ x.behind ∨ ∃ f, x = .send t f := by
  cases h with
  | send | offer =>
      obtain rfl := List.mem_singleton.mp ht
      exact .inr ⟨_, rfl⟩
  | transmit => exact .inl (by simpa [Transition.behind, Then.behind, Action.behind, Action.plan,
      Action.behind?] using ht)
  | dismiss found =>
      simp only [Transition.behind, Action.behind, plan_of_dismissal] at ht
      simp [Action.behind?] at ht
  | first =>
      refine .inl ?_
      simpa [Transition.behind, Then.behind, Action.behind, Action.plan, Action.plans] using ht
  | drain | accept => exact .inl ht
  | _ => cases ht

theorem TakesUp.behind (h : TakesUp k next) (ht : t ∈ next.behind) : t ∈ k.behind := by
  cases h with
  | next | drained => exact ht
  | _ => cases ht

/-! ## What a move does to an outbox -/

theorem outbox?_eq_some :
    n.outbox? t = some o ↔ ∃ tr, n.transports.get? t = some tr ∧ tr.outbox = some o :=
  Option.bind_eq_some_iff

theorem Numbered.lt_of_outbox (hn : Numbered n) (ho : n.outbox? t = some o) : t < n.fresh := by
  apply Nat.lt_of_not_le
  intro hle
  simp [outbox?, hn.transports t hle] at ho

theorem outbox_of_found (ho : n.outbox? t = some o) (found : n.transports.get? t = some tr) :
    tr.outbox = some o := by
  simpa [outbox?, found] using ho

theorem outbox?_setOutbox (found : n.transports.get? t = some tr) :
    (n.setOutbox t o).outbox? t = some o := by
  simp [outbox?, setOutbox, found]

/-- The actions at an outbox do to it what their rules say. -/
theorem Boxes.deals {e : Outbox.Event} (h : Boxes n id x t e) (ho : n.outbox? t = some o)
    (acts : Acts n id x n' next) : ∃ o', n'.outbox? t = some o' ∧ Deals n id t o x o' next := by
  cases acts with
  | offers found has opened step =>
      cases h
      cases has.symm.trans (outbox_of_found ho found)
      exact ⟨_, outbox?_setOutbox found, .offers opened step⟩
  | turnsBack found has step =>
      cases h <;> cases has.symm.trans (outbox_of_found ho found) <;>
        exact ⟨_, outbox?_setOutbox found, .turnedAway step⟩
  | queues found has step =>
      cases h <;> cases has.symm.trans (outbox_of_found ho found) <;>
        exact ⟨_, outbox?_setOutbox found, .accepted step⟩
  | closes found has step =>
      cases h
      cases has.symm.trans (outbox_of_found ho found)
      exact ⟨_, outbox?_setOutbox found, .closes step⟩
  | takes found has step =>
      cases h <;> cases has.symm.trans (outbox_of_found ho found) <;>
        exact ⟨_, outbox?_setOutbox found, .drains step (.inl rfl)⟩
  | retries found has step =>
      cases h <;> cases has.symm.trans (outbox_of_found ho found) <;>
        exact ⟨_, outbox?_setOutbox found, .drains step (.inr rfl)⟩
  | proceeds proceeds =>
      refine ⟨o, ho, ?_⟩
      cases proceeds with
      | passesOn found bare | hangsUp found bare =>
          cases h
          cases bare.symm.trans (outbox_of_found ho found)
      | refused found has closed =>
          cases h
          cases has.symm.trans (outbox_of_found ho found)
          exact .refused closed
      | terminated found has closed =>
          cases h
          cases has.symm.trans (outbox_of_found ho found)
          exact .closed closed
      | drained => cases h <;> exact .stopped
      | transmits found has sending =>
          cases h <;> cases has.symm.trans (outbox_of_found ho found) <;> exact .transmits sending
      | _ => cases h
  | _ => cases h

/-- An outbox changes by what one of its own events does to it. -/
theorem Does.outbox_eq (h : Does n id x t tr tr') : tr'.outbox = tr.outbox ∨ ∃ e, Boxes n id x t e := by
  cases h with
  | swells h =>
      cases h
      exact .inl rfl
  | outbox has boxes => exact .inr ⟨_, boxes⟩
  | _ => exact .inl rfl

theorem aside_deals (hn : Numbered n) (ho : n.outbox? t = some o)
    (h : n.act id x = some (n', next)) (hother : ∀ e, ¬ Boxes n id x t e) :
    ∃ o', n'.outbox? t = some o' ∧ Deals n id t o x o' next := by
  obtain ⟨tr, hget, hbox⟩ := outbox?_eq_some.mp ho
  obtain ⟨tr', hget', hdone⟩ := (act_handles hn h).there hn.distinct t tr hget
  refine ⟨o, outbox?_eq_some.mpr ⟨tr', hget', ?_⟩, .aside hother⟩
  rcases hdone with rfl | hdoes
  · exact hbox
  · rcases hdoes.outbox_eq with hsame | ⟨e, hboxes⟩
    · exact hsame.trans hbox
    · exact absurd hboxes (hother e)

/-- **What one step of an action does to an outbox.** -/
theorem act_deals (hn : Numbered n) (ho : n.outbox? t = some o)
    (h : n.act id x = some (n', next)) :
    ∃ o', n'.outbox? t = some o' ∧ Deals n id t o x o' next := by
  by_cases hown : ∃ e, Boxes n id x t e
  · obtain ⟨e, hboxes⟩ := hown
    exact hboxes.deals ho (.of_act h)
  · exact aside_deals hn ho h (not_exists.mp hown)

theorem Handled.outbox_eq {w : Occurrence} (h : Handled n t tr (.outside w) tr') :
    tr'.outbox = tr.outbox := by
  cases h with
  | same | permits => rfl
  | swells h =>
      cases h
      rfl

theorem Halts.deals {t' : TransportId} (h : Halts n id t' n') (ho : n.outbox? t = some o) :
    ∃ o', n'.outbox? t = some o' ∧ (t' = t ∧ Outbox.Step o .halt o' ∨ t' ≠ t ∧ o' = o) := by
  obtain ⟨found, has, step, -⟩ := h
  by_cases ht : t' = t
  · subst ht
    cases has.symm.trans (outbox_of_found ho found)
    exact ⟨_, outbox?_setOutbox (get?_setCarrier found _), .inl ⟨rfl, step⟩⟩
  · refine ⟨o, ?_, .inr ⟨ht, rfl⟩⟩
    simpa [outbox?, setOutbox, setCarrier, Ne.symm ht] using ho

/-- Only a reply to the sender changes an outbox: what became of its frame. -/
theorem Resumes.deals {r : Reply} (h : Resumes n k r n' next) (ho : n.outbox? t = some o) :
    (∃ tr result o', k = .drained t ∧ r = .sent result ∧ next = .go (.drain t) ∧
      n.transports.get? t = some tr ∧
      Outbox.Step o (.sent (.ofResult tr.canRecover result) n.now) o' ∧ n'.outbox? t = some o') ∨
    n'.outbox? t = some o ∧ ∀ tr result o', k = .drained t → r = .sent result →
      n.transports.get? t = some tr →
      ¬ Outbox.Step o (.sent (.ofResult tr.canRecover result) n.now) o' := by
  cases h with
  | @told t' result tr _ o' found has step =>
      by_cases ht : t' = t
      · subst ht
        cases has.symm.trans (outbox_of_found ho found)
        exact .inl ⟨tr, result, o', rfl, rfl, rfl, found, step, outbox?_setOutbox found⟩
      · refine .inr ⟨by simpa [outbox?, setOutbox, Ne.symm ht] using ho, fun _ _ _ hk => ?_⟩
        exact absurd (Then.drained.inj hk) ht
  | untold idle =>
      refine .inr ⟨ho, fun tr result o' hk hr found step => ?_⟩
      cases hk
      cases hr
      exact idle tr o o' found (outbox_of_found ho found) step
  | mismatched other =>
      refine .inr ⟨ho, fun tr result o' hk hr => ?_⟩
      subst hk hr
      cases other
  | _ => exact .inr ⟨ho, fun _ _ _ hk => by cases hk⟩

/-- **What one move does to an outbox.** -/
theorem dealt_move (hn : Numbered n) (hmove : n.move m = some n') (ho : n.outbox? t = some o) :
    ∃ o', n'.outbox? t = some o' ∧ Dealt n t o m n' o' := by
  cases m with
  | outside w =>
      obtain ⟨tr, hget, hbox⟩ := outbox?_eq_some.mp ho
      obtain ⟨tr', hget', hhandled⟩ := handled_move hn hmove hget
      exact ⟨o, outbox?_eq_some.mpr ⟨tr', hget', hhandled.outbox_eq.trans hbox⟩, .outside⟩
  | step id =>
      cases Step.of_step hmove with
      | @halt task t' after found outbox halts =>
          obtain ⟨o', ho', hhalt⟩ := (Halts.of_haltSender halts).deals ho
          exact ⟨o', ho', .halts found outbox (by simp [endTask]) hhalt⟩
      | @act task x after next found goesOn acting acts =>
          obtain ⟨o', ho', hdeals⟩ := act_deals hn ho acts
          exact ⟨o', ho', .acts found acting (actionOf?_of_acting found goesOn acting)
            (act_ensues acts) hdeals (found_setTask ..) acts⟩
      | @finish task r found goesOn replying last =>
          obtain ⟨reports, heq⟩ := finish_eq n id task.label r
          rw [heq]
          exact ⟨o, ho, .ends found replying (by simp) last⟩
      | @resume task r k pending after next found goesOn replying waits resumes =>
          rcases (Resumes.of_resume resumes).deals ho with
            ⟨tr, result, o', rfl, rfl, rfl, hget, hstep, ho'⟩ | ⟨ho', untold⟩
          · exact ⟨o', ho', .told found replying waits hget hstep (found_setTask ..)⟩
          · exact ⟨o, ho', .resumes found replying waits (resume_takesUp resumes)
              (found_setTask ..) untold⟩

/-- What a move does to an outbox, the outbox does in one step. -/
theorem Dealt.step (h : Dealt n t o m n' o') : o' = o ∨ ∃ e, Outbox.Step o e o' := by
  cases h with
  | acts _ _ _ _ deals =>
      cases deals with
      | offers _ step | turnedAway step | accepted step | closes step | drains step =>
          exact .inr ⟨_, step⟩
      | _ => exact .inl rfl
  | told _ _ _ _ step => exact .inr ⟨_, step⟩
  | halts _ _ _ halt =>
      rcases halt with ⟨-, step⟩ | ⟨-, rfl⟩
      · exact .inr ⟨_, step⟩
      · exact .inl rfl
  | _ => exact .inl rfl

theorem Dealt.closed (h : Dealt n t o m n' o') (hclosed : o.closed = true) :
    o'.closed = true := by
  rcases h.step with rfl | ⟨e, hstep⟩
  · exact hclosed
  · exact hstep.closed hclosed

theorem Dealt.stopped (h : Dealt n t o m n' o') (hstopped : o.sender = .stopped) :
    o'.sender = .stopped := by
  rcases h.step with rfl | ⟨e, hstep⟩
  · exact hstopped
  · exact hstep.stopped hstopped

end Node

end TelemetryRelay
