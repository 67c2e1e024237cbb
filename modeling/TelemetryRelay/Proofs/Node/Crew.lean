import TelemetryRelay.Proofs.Node.Dealings

/-!
# Who is behind an outbox

Frames go out behind an outbox only by the hands of its sender, of which there is one, and
in its line stand only those who have come with a frame and have not been told yet what
became of it.  `Served` says so, and every move keeps it.
-/

namespace TelemetryRelay

open Wire

namespace Node

/-- What the sender of an outbox can be at, and what waits for it meanwhile. -/
inductive Mans (t : TransportId) : Activity → List Then → Prop
  | drains : Mans t (.acting (.drain t)) []
  | transmits {f : Frame} : Mans t (.acting (.transmit t f)) [.drained t]
  | holds {f : Frame} : Mans t (.acting (.held t f)) [.drained t]
  | calls : Mans t (.acting (.onLink t)) [.drained t]
  | told {r : Reply} : Mans t (.replying r) [.drained t]
  | over {r : Reply} : Mans t (.replying r) []

/-- A task with an outbox sends for it and does nothing else. -/
def Manned (task : Task) : Prop := ∀ t, task.outbox = some t → Mans t task.activity task.pending

/-- A task that sends through an outbox has to do with what is behind it only while it waits
for a place. -/
structure Outside (t : TransportId) (task : Task) : Prop where
  pending : ∀ k ∈ task.pending, t ∉ k.behind
  activity : t ∈ task.activity.behind → task.activity = .acting (.offered t)

/-- Nobody outside begins what takes place behind the outbox: there one sends, receives and
terminates. -/
def Tactful (t : TransportId) (m : Move) : Prop :=
  ∀ x label, m = .outside (.begin x label) → t ∉ x.behind

/-- An outbox and the tasks around it, as every move leaves them. -/
structure Served (n : Node) (t : TransportId) (o : Outbox) : Prop where
  numbered : Numbered n
  has : n.outbox? t = some o
  manned : ∀ id task, n.tasks.get? id = some task → Manned task
  /-- It has one sender at most. -/
  single : ∀ id id' task task', n.tasks.get? id = some task → n.tasks.get? id' = some task' →
    task.outbox = some t → task'.outbox = some t → id = id'
  outside : ∀ id task, n.tasks.get? id = some task → task.outbox ≠ some t → Outside t task
  /-- The sender is out only with the frame that it has. -/
  busy : ∀ id task, n.tasks.get? id = some task → task.outbox = some t → task.pending ≠ [] →
    ∃ f, o.sender = .sending f
  /-- Who stands in line waits for a place. -/
  parked : ∀ id, o.hasInLine id = true ↔
    ∃ task, n.tasks.get? id = some task ∧ task.activity = .acting (.offered t)
  emptied : o.sender = .stopped → o.queue = []

/-- How a sender that is out with a frame after a move came to be so. -/
inductive OutAfter (n : Node) (t : TransportId) (o : Outbox) (id : TaskId) :
    Move → Outbox → Task → Prop
  | acts {task : Task} {x : Action} {o' : Outbox} {next : Transition}
      (found : n.tasks.get? id = some task) (outbox : task.outbox = some t)
      (mans : Mans t (.acting x) task.pending) (acting : task.activity = .acting x)
      (action : n.actionOf? id = some x) (ensues : Ensues n x next)
      (deals : Deals n id t o x o' next) :
      OutAfter n t o id (.step id) o' (task.advance next)
  | stays {m : Move} {o' : Outbox} {task : Task} (found : n.tasks.get? id = some task)
      (same : o'.sender = o.sender) (beside : ∀ id' other, m = .step id' →
        n.tasks.get? id' = some other → other.outbox ≠ some t) : OutAfter n t o id m o' task

variable {n n' : Node} {id : TaskId} {t : TransportId} {o o' : Outbox} {x : Action}
  {next : Transition} {k : Then} {m : Move} {task : Task}

theorem Mans.act (h : Mans t (.acting x) task.pending) (hensues : Ensues n x next) :
    Mans t (task.advance next).activity (task.advance next).pending := by
  generalize hp : task.pending = pending at h
  cases h with
  | drains =>
      cases hensues <;> simp only [Task.advance, hp]
      · exact .over
      · exact .transmits
      · exact .drains
  | transmits =>
      cases hensues <;> simp only [Task.advance, hp]
      · exact .told
      · exact .calls
      · exact .holds
  | holds =>
      cases hensues
      simp only [Task.advance, hp]
      exact .told
  | calls =>
      cases hensues <;> simp only [Task.advance, hp]
      · exact .told
      · exact .calls

theorem Mans.resume {r : Reply} {pending : List Then} (h : Mans t (.replying r) (k :: pending))
    (htakes : TakesUp k next) : pending = [] ∧ (next = .go (.drain t) ∨ ∃ r, next = .reply r) := by
  cases h with
  | told =>
      cases htakes with
      | drained => exact ⟨rfl, .inl rfl⟩
      | reply r => exact ⟨rfl, .inr ⟨r, rfl⟩⟩

/-! ## What stays behind an outbox -/

theorem Outside.of_behind (h : Outside t task) (acting : task.activity = .acting x)
    (hx : t ∈ x.behind) : x = .offered t := by
  have hactivity := h.activity (by rw [acting]; exact hx)
  rw [acting] at hactivity
  exact Activity.acting.inj hactivity

/-- What goes on without a step behind the outbox leaves the task outside. -/
theorem Outside.advance (h : Outside t task) (hnext : t ∉ next.behind) :
    Outside t (task.advance next) := by
  cases next with
  | go x => exact ⟨h.pending, fun hx => absurd hx hnext⟩
  | reply r => exact ⟨h.pending, fun hx => by cases hx⟩
  | call x k =>
      rw [Transition.behind, List.mem_append, not_or] at hnext
      exact ⟨List.forall_mem_cons.mpr ⟨hnext.2, h.pending⟩, fun hx => absurd hx hnext.1⟩

theorem Outside.act (h : Outside t task) (acting : task.activity = .acting x)
    (hensues : Ensues n x next) (hdeals : Deals n id t o x o' next) :
    Outside t (task.advance next) := by
  by_cases hoffer : next = .go (.offered t)
  · subst hoffer
    exact ⟨h.pending, fun _ => rfl⟩
  refine h.advance fun hnext => ?_
  rcases hensues.behind hnext with hx | ⟨f, rfl⟩
  · obtain rfl := h.of_behind acting hx
    cases hensues
    cases hnext
  · cases hdeals with
    | refused => cases hnext
    | offers => exact hoffer rfl
    | aside other => exact other _ .offer

theorem Outside.resume {pending : List Then} (h : Outside t task)
    (waits : task.pending = k :: pending) (htakes : TakesUp k next) :
    Outside t ({ task with pending }.advance next) := by
  have hpending := h.pending
  rw [waits, List.forall_mem_cons] at hpending
  have hrest : Outside t { task with pending } := ⟨hpending.2, h.activity⟩
  exact hrest.advance fun hnext => hpending.1 (htakes.behind hnext)

/-- A task that begins has an outbox of its own only if the outbox begins as well. -/
theorem Newborn.crewed (h : Newborn n m task) (htactful : Tactful t m) (ht : t < n.fresh) :
    Manned task ∧ task.outbox ≠ some t ∧ Outside t task ∧ task.activity ≠ .acting (.offered t) := by
  have hbare {x : Action} {label : Option String} (hx : t ∉ x.behind) :
      Manned { activity := .acting x, label } ∧ none ≠ some t ∧
        Outside t { activity := .acting x, label } ∧
        Activity.acting x ≠ .acting (.offered t) := by
    refine ⟨fun _ h => (by cases h), by simp, ⟨by simp, fun h => absurd h hx⟩, fun h => ?_⟩
    cases h
    exact hx (by simp [Action.behind, Action.plan, Action.behind?])
  cases h with
  | listens | leaves | accepts => exact hbare (by simp [Action.behind, Action.plan, Action.behind?])
  | watches attached =>
      exact hbare (by simp [Action.behind, Action.plan, Action.plans, watch, Action.behind?])
  | begins => exact hbare (htactful _ _ rfl)
  | sends =>
      have hne : n.fresh ≠ t := Nat.ne_of_gt ht
      refine ⟨fun t' h => ?_, by simpa using hne, ⟨by simp, fun h => ?_⟩, by simp⟩
      · cases h
        exact .drains
      · exact absurd (List.mem_singleton.mp h).symm hne

/-! ## What every move keeps -/

theorem Manned.act (h : Manned task) (acting : task.activity = .acting x)
    (hensues : Ensues n x next) : Manned (task.advance next) := by
  intro t ht
  rw [Task.outbox_advance] at ht
  have hmans := h t ht
  rw [acting] at hmans
  exact hmans.act hensues

theorem Manned.resume {r : Reply} {pending : List Then} (h : Manned task)
    (replying : task.activity = .replying r) (waits : task.pending = k :: pending)
    (htakes : TakesUp k next) : Manned ({ task with pending }.advance next) := by
  intro t ht
  rw [Task.outbox_advance] at ht
  have hmans := h t ht
  rw [replying, waits] at hmans
  obtain ⟨rfl, rfl | ⟨r, rfl⟩⟩ := hmans.resume htakes
  · exact .drains
  · exact .over

/-- A sender never waits for a place. -/
theorem Manned.not_offered (h : Manned task) {t' : TransportId} (houtbox : task.outbox = some t') :
    task.activity ≠ .acting (.offered t) := by
  intro hoffered
  have hmans := h t' houtbox
  rw [hoffered] at hmans
  cases hmans

theorem behind_of_offered (h : (task.advance next).activity = .acting (.offered t)) :
    t ∈ next.behind := by
  cases next <;> cases h <;> simp [Transition.behind, Action.behind, Action.plan, Action.behind?]

namespace Served

theorem lt (h : Served n t o) : t < n.fresh := h.numbered.lt_of_outbox h.has

/-- What takes place behind the outbox, the sender does, or who waits for a place. -/
theorem outbox_of_behind (h : Served n t o) (found : n.tasks.get? id = some task)
    (acting : task.activity = .acting x) (hx : t ∈ x.behind) (hother : x ≠ .offered t) :
    task.outbox = some t := by
  by_contra hbare
  exact hother ((h.outside id task found hbare).of_behind acting hx)

theorem outbox_of_drained (h : Served n t o) {pending : List Then}
    (found : n.tasks.get? id = some task) (waits : task.pending = .drained t :: pending) :
    task.outbox = some t := by
  by_contra hbare
  exact (h.outside id task found hbare).pending (.drained t) (by simp [waits]) (by simp [Then.behind])

/-- What the tasks are after a move. -/
theorem crew_move (h : Served n t o) (htactful : Tactful t m) (hmove : n.move m = some n')
    {task' : Task} (found' : n'.tasks.get? id = some task') : Manned task' ∧
      (task'.outbox ≠ some t → Outside t task') ∧
      (task'.outbox = some t → ∃ task, n.tasks.get? id = some task ∧ task.outbox = some t) := by
  cases descends_of_move h.numbered hmove found' with
  | same found => exact ⟨h.manned _ _ found, h.outside _ _ found, fun houtbox => ⟨_, found, houtbox⟩⟩
  | acts own found acting action acts =>
      have hensues := act_ensues acts
      obtain ⟨o', -, hdeals⟩ := act_deals h.numbered h.has acts
      refine ⟨(h.manned _ _ found).act acting hensues, fun houtbox => ?_, fun houtbox => ?_⟩
      · rw [Task.outbox_advance] at houtbox
        exact (h.outside _ _ found houtbox).act acting hensues hdeals
      · exact ⟨_, found, by rwa [Task.outbox_advance] at houtbox⟩
  | resumes own found replying waits resumes =>
      have htakes := resume_takesUp resumes
      refine ⟨(h.manned _ _ found).resume replying waits htakes, fun houtbox => ?_,
        fun houtbox => ?_⟩
      · rw [Task.outbox_advance] at houtbox
        exact (h.outside _ _ found houtbox).resume waits htakes
      · exact ⟨_, found, by rwa [Task.outbox_advance] at houtbox⟩
  | new unknown =>
      have hnewborn := newborn_of_move hmove (h.numbered.tasks _ unknown) found'
      obtain ⟨hmanned, hother, houtside, -⟩ := hnewborn.crewed htactful h.lt
      exact ⟨hmanned, fun _ => houtside, fun houtbox => absurd houtbox hother⟩

theorem single_move (h : Served n t o) (htactful : Tactful t m) (hmove : n.move m = some n')
    {id' : TaskId} {task' : Task} (found : n'.tasks.get? id = some task)
    (found' : n'.tasks.get? id' = some task') (houtbox : task.outbox = some t)
    (houtbox' : task'.outbox = some t) : id = id' := by
  obtain ⟨_, -, hbefore⟩ := h.crew_move htactful hmove found
  obtain ⟨_, -, hbefore'⟩ := h.crew_move htactful hmove found'
  obtain ⟨before, hfound, hsends⟩ := hbefore houtbox
  obtain ⟨before', hfound', hsends'⟩ := hbefore' houtbox'
  exact h.single id id' before before' hfound hfound' hsends hsends'

/-- Only the sender moves the sender. -/
theorem sender_move (h : Served n t o) (hdealt : Dealt n t o m n' o') :
    o'.sender = o.sender ∨ ∃ id task, m = .step id ∧ n.tasks.get? id = some task ∧
      task.outbox = some t := by
  cases hdealt with
  | @acts id task x next _ _ _ found acting action ensues deals after =>
      cases deals with
      | offers _ step => exact .inl (step.sender (.inr (by simp [Outbox.Event.producer?])))
      | turnedAway step => exact .inl (step.sender (.inr (by simp [Outbox.Event.producer?])))
      | accepted step => exact .inl (step.sender (.inr (by simp [Outbox.Event.producer?])))
      | closes step => exact .inl (step.sender (.inl rfl))
      | drains step own =>
          exact .inr ⟨id, task, rfl, found, h.outbox_of_behind found acting
            (by simp [Action.behind, Action.plan, Action.behind?]) (by simp)⟩
      | _ => exact .inl rfl
  | told found replying waits => exact .inr ⟨_, _, rfl, found, h.outbox_of_drained found waits⟩
  | halts found outbox gone halt =>
      rcases halt with ⟨rfl, -⟩ | ⟨-, rfl⟩
      · exact .inr ⟨_, _, rfl, found, outbox⟩
      · exact .inl rfl
  | _ => exact .inl rfl

/-- Who is out with a frame after a move has gone on with an action, or was not concerned. -/
theorem out_after (h : Served n t o) (htactful : Tactful t m) (hmove : n.move m = some n')
    (hdealt : Dealt n t o m n' o') {task' : Task} (found' : n'.tasks.get? id = some task')
    (houtbox' : task'.outbox = some t) (hpending : task'.pending ≠ []) :
    OutAfter n t o id m o' task' := by
  obtain ⟨-, -, hbefore⟩ := h.crew_move htactful hmove found'
  obtain ⟨task, found, houtbox⟩ := hbefore houtbox'
  have hmans := h.manned id task found t houtbox
  by_cases hown : m = .step id
  · subst hown
    cases hdealt with
    | acts found₂ acting action ensues deals after =>
        cases found.symm.trans found₂
        cases found'.symm.trans after
        rw [acting] at hmans
        exact .acts found houtbox hmans acting action ensues deals
    | told found₂ replying waits has step after =>
        cases found.symm.trans found₂
        cases found'.symm.trans after
        rw [replying, waits] at hmans
        cases hmans
        exact absurd rfl hpending
    | resumes found₂ replying waits takesUp after =>
        cases found.symm.trans found₂
        cases found'.symm.trans after
        rw [replying, waits] at hmans
        obtain ⟨rfl, rfl | ⟨r, rfl⟩⟩ := hmans.resume takesUp <;> exact absurd rfl hpending
    | ends _ _ gone => cases found'.symm.trans gone
    | halts _ _ gone => cases found'.symm.trans gone
  · rw [task_of_move h.numbered hmove (h.numbered.lt_of_task found) hown, found] at found'
    cases found'
    have hbeside (id' : TaskId) (other : Task) (hm : m = .step id')
        (hfound : n.tasks.get? id' = some other) : other.outbox ≠ some t := fun hsends =>
      hown (hm.trans (congrArg Move.step (h.single _ _ _ _ hfound found hsends houtbox)))
    refine .stays found ?_ hbeside
    rcases h.sender_move hdealt with hsame | ⟨id', other, hm, hfound, hsends⟩
    · exact hsame
    · exact absurd hsends (hbeside id' other hm hfound)

/-- The sender has the frame that it is out with. -/
theorem busy_move (h : Served n t o) (htactful : Tactful t m) (hmove : n.move m = some n')
    (hdealt : Dealt n t o m n' o') {task' : Task} (found' : n'.tasks.get? id = some task')
    (houtbox' : task'.outbox = some t) (hpending : task'.pending ≠ []) :
    ∃ f, o'.sender = .sending f := by
  cases h.out_after htactful hmove hdealt found' houtbox' hpending with
  | @acts task x _ _ found houtbox mans acting action ensues deals =>
      cases hp : task.pending with
      | nil =>
          rw [hp] at mans
          cases mans
          cases deals with
          | transmits sending => exact ⟨_, sending⟩
          | stopped | drains => exact absurd hp hpending
          | aside other => exact absurd .take (other .take)
      | cons k rest =>
          obtain ⟨f, hsending⟩ := h.busy id task found houtbox (by simp [hp])
          rw [hp] at mans
          cases mans <;> cases deals <;> exact ⟨f, hsending⟩
  | stays found same =>
      rw [same]
      exact h.busy id _ found houtbox' hpending

/-- Who does something else leaves the line as it is, and does not come to stand in it. -/
theorem parked_beside (h : Served n t o) (found : n.tasks.get? id = some task)
    (hbefore : task.activity ≠ .acting (.offered t)) (hsame : o'.hasInLine id = o.hasInLine id)
    (hafter : ∀ task', n'.tasks.get? id = some task' → task'.activity ≠ .acting (.offered t)) :
    o'.hasInLine id = true ↔
      ∃ task, n'.tasks.get? id = some task ∧ task.activity = .acting (.offered t) := by
  rw [hsame, h.parked id]
  constructor
  · rintro ⟨task', found', hoffered⟩
    cases found.symm.trans found'
    exact absurd hoffered hbefore
  · rintro ⟨task', found', hoffered⟩
    exact absurd hoffered (hafter task' found')

/-- A task that goes on with its action stands in line after it if it has come with a frame. -/
theorem parked_act (h : Served n t o) (htactful : Tactful t (.step id))
    (hmove : n.move (.step id) = some n') (found : n.tasks.get? id = some task)
    (acting : task.activity = .acting x) (ensues : Ensues n x next)
    (deals : Deals n id t o x o' next) (after : n'.tasks.get? id = some (task.advance next)) :
    o'.hasInLine id = true ↔
      ∃ task, n'.tasks.get? id = some task ∧ task.activity = .acting (.offered t) := by
  have hbefore (hx : x ≠ .offered t) : task.activity ≠ .acting (.offered t) := by
    rw [acting]
    exact fun heq => hx (Activity.acting.inj heq)
  have hreply {r : Reply} (hnext : next = .reply r) (task' : Task)
      (found' : n'.tasks.get? id = some task') : task'.activity ≠ .acting (.offered t) := by
    cases found'.symm.trans after
    subst hnext
    simp [Task.advance]
  cases deals with
  | refused => exact h.parked_beside found (hbefore (by simp)) rfl (hreply rfl)
  | offers opened step =>
      refine iff_of_true ?_ ⟨_, after, rfl⟩
      cases step
      simp [Outbox.hasInLine]
  | turnedAway step =>
      refine iff_of_false ?_ (not_exists.mpr fun task' h => hreply rfl task' h.1 h.2)
      cases step
      simp
  | accepted step =>
      refine iff_of_false ?_ (not_exists.mpr fun task' h => hreply rfl task' h.1 h.2)
      cases step with
      | @accept _ p => simp [Outbox.hasInLine, Outbox.leave]
  | closes step =>
      refine h.parked_beside found (hbefore (by simp))
        (step.hasInLine (by simp [Outbox.Event.producer?])) fun task' found' => ?_
      cases found'.symm.trans after
      simp [Task.advance]
  | closed => exact h.parked_beside found (hbefore (by simp)) rfl (hreply rfl)
  | stopped => exact h.parked_beside found (hbefore (by simp)) rfl (hreply rfl)
  | transmits =>
      refine h.parked_beside found (hbefore (by simp)) rfl fun task' found' => ?_
      cases found'.symm.trans after
      simp [Task.advance]
  | drains step own =>
      refine h.parked_beside found (hbefore (by simp)) (step.hasInLine ?_) fun task' found' => ?_
      · rcases own with rfl | rfl <;> simp [Outbox.Event.producer?]
      · cases found'.symm.trans after
        simp [Task.advance]
  | aside other =>
      have hx : x ≠ .offered t := by
        rintro rfl
        exact other _ .accept
      refine h.parked_beside found (hbefore hx) rfl fun task' found' hoffered => ?_
      cases found'.symm.trans after
      -- Who stands behind the outbox now stood there before, or has come with a frame.
      by_cases houtbox : task.outbox = some t
      · obtain ⟨hmanned, -⟩ := h.crew_move htactful hmove found'
        exact hmanned.not_offered (by rwa [Task.outbox_advance]) hoffered
      · rcases ensues.behind (behind_of_offered hoffered) with hbehind | ⟨f, rfl⟩
        · exact hx ((h.outside _ _ found houtbox).of_behind acting hbehind)
        · exact other _ .offer

/-- A task that takes a step stands in line after it if it has come with a frame. -/
theorem parked_own (h : Served n t o) (htactful : Tactful t (.step id))
    (hmove : n.move (.step id) = some n') (hdealt : Dealt n t o (.step id) n' o') :
    o'.hasInLine id = true ↔
      ∃ task, n'.tasks.get? id = some task ∧ task.activity = .acting (.offered t) := by
  cases hdealt with
  | acts found acting action ensues deals after =>
      exact h.parked_act htactful hmove found acting ensues deals after
  | told found replying waits has step after =>
      refine h.parked_beside found (by simp [replying])
        (step.hasInLine (by simp [Outbox.Event.producer?])) fun task' found' => ?_
      cases found'.symm.trans after
      simp
  | @resumes _ task r k pending next _ found replying waits takesUp after =>
      refine h.parked_beside found (by simp [replying]) rfl fun task' found' hoffered => ?_
      obtain ⟨hmanned, -⟩ := h.crew_move htactful hmove found'
      cases found'.symm.trans after
      by_cases houtbox : task.outbox = some t
      · exact hmanned.not_offered (by rwa [Task.outbox_advance]) hoffered
      · exact (h.outside _ _ found houtbox).pending k (by simp [waits])
          (takesUp.behind (behind_of_offered hoffered))
  | ends found replying gone =>
      exact h.parked_beside found (by simp [replying]) rfl fun _ found' => by
        cases found'.symm.trans gone
  | halts found outbox gone halt =>
      refine h.parked_beside found ((h.manned _ _ found).not_offered outbox) ?_ fun _ found' => by
        cases found'.symm.trans gone
      rcases halt with ⟨-, step⟩ | ⟨-, rfl⟩
      · exact step.hasInLine (by simp [Outbox.Event.producer?])
      · rfl

/-- Who does not take the step stands in line as before. -/
theorem line_beside (hdealt : Dealt n t o m n' o') (hother : m ≠ .step id) :
    o'.hasInLine id = o.hasInLine id := by
  have hstep {own : TaskId} {e : Outbox.Event} (hown : Move.step own ≠ .step id)
      (hstep : Outbox.Step o e o') (he : ∀ j, e.producer? = some j → j = own) :
      o'.hasInLine id = o.hasInLine id := by
    refine hstep.hasInLine fun hid => ?_
    exact hown (congrArg Move.step (he id hid).symm)
  cases hdealt with
  | acts found acting action ensues deals after =>
      cases deals with
      | offers _ step | turnedAway step | accepted step | closes step =>
          exact hstep hother step (by simp [Outbox.Event.producer?])
      | drains step own =>
          exact hstep hother step (by rcases own with rfl | rfl <;> simp [Outbox.Event.producer?])
      | _ => rfl
  | told _ _ _ _ step => exact hstep hother step (by simp [Outbox.Event.producer?])
  | halts _ _ _ halt =>
      rcases halt with ⟨-, step⟩ | ⟨-, rfl⟩
      · exact hstep hother step (by simp [Outbox.Event.producer?])
      · rfl
  | _ => rfl

theorem parked_move (h : Served n t o) (htactful : Tactful t m) (hmove : n.move m = some n')
    (hdealt : Dealt n t o m n' o') (id : TaskId) : o'.hasInLine id = true ↔
      ∃ task, n'.tasks.get? id = some task ∧ task.activity = .acting (.offered t) := by
  by_cases hown : m = .step id
  · subst hown
    exact h.parked_own htactful hmove hdealt
  rw [line_beside hdealt hown, h.parked id]
  by_cases hid : id < n.fresh
  · rw [task_of_move h.numbered hmove hid hown]
  · -- A task that has just begun has not come with anything yet.
    have hunknown := h.numbered.tasks id (Nat.le_of_not_lt hid)
    refine iff_of_false ?_ ?_
    · rintro ⟨task, found, -⟩
      cases hunknown.symm.trans found
    · rintro ⟨task, found', hoffered⟩
      obtain ⟨-, -, -, hnot⟩ := (newborn_of_move hmove hunknown found').crewed htactful h.lt
      exact hnot hoffered

end Served

/-- **A move keeps the tasks around an outbox in order.** -/
theorem Served.move (h : Served n t o) (htactful : Tactful t m) (hmove : n.move m = some n') :
    ∃ o', Served n' t o' ∧ Dealt n t o m n' o' := by
  obtain ⟨o', ho', hdealt⟩ := dealt_move h.numbered hmove h.has
  refine ⟨o', ⟨h.numbered.move hmove, ho', ?_, ?_, ?_, ?_, h.parked_move htactful hmove hdealt, ?_⟩,
    hdealt⟩
  · exact fun id task found => (h.crew_move htactful hmove found).1
  · exact fun id id' task task' found found' => h.single_move htactful hmove found found'
  · exact fun id task found => (h.crew_move htactful hmove found).2.1
  · exact fun id task found => h.busy_move htactful hmove hdealt found
  · rcases hdealt.step with rfl | ⟨e, hstep⟩
    · exact h.emptied
    · exact hstep.emptied h.emptied

/-- **A new outbox is in order**, if nobody has been waiting for it to come. -/
theorem served_addTransport (hn : Numbered n)
    (hmanned : ∀ id task, n.tasks.get? id = some task → Manned task)
    (hfree : ∀ id task, n.tasks.get? id = some task → task.outbox ≠ some n.fresh ∧
      Outside n.fresh task ∧ task.activity ≠ .acting (.offered n.fresh))
    (carrier : Carrier) (capacity retryPause : Nat) :
    Served (n.addTransport carrier (some (.make capacity retryPause))).2 n.fresh
      (.make capacity retryPause) := by
  have hspares : Spares none n (n.addTransport carrier (some (.make capacity retryPause))).2 :=
    spares_addTransport n carrier _
  refine ⟨hspares.numbered hn, ?_, ?_, ?_, ?_, ?_, ?_, fun h => by cases h⟩
  · simp [outbox?, addTransport, draw, setTransport, spawn]
  · intro x task found
    rcases task_of_addTransport found with found | ⟨-, rfl⟩
    · exact hmanned x task found
    · intro t' ht'
      cases ht'
      exact .drains
  · intro x x' task task' found found' houtbox houtbox'
    rcases task_of_addTransport found with found | ⟨rfl, -⟩
    · exact absurd houtbox (hfree x task found).1
    · rcases task_of_addTransport found' with found' | ⟨rfl, -⟩
      · exact absurd houtbox' (hfree x' task' found').1
      · rfl
  · intro x task found houtbox
    rcases task_of_addTransport found with found | ⟨-, rfl⟩
    · exact (hfree x task found).2.1
    · exact absurd rfl houtbox
  · intro x task found houtbox hpending
    rcases task_of_addTransport found with found | ⟨-, rfl⟩
    · exact absurd houtbox (hfree x task found).1
    · exact absurd rfl hpending
  · intro x
    refine iff_of_false (fun h => by cases h) ?_
    rintro ⟨task, found, hoffered⟩
    rcases task_of_addTransport found with found | ⟨-, rfl⟩
    · exact (hfree x task found).2.2 hoffered
    · cases hoffered

/-- What holds of an outbox in the beginning, and is kept by what a move does to it, holds at
the end of every run. -/
theorem Served.run_induction {n₀ : Node} {o₀ : Outbox} {ms : List Move}
    {P : List Move → Node → Outbox → Prop} (h : Served n₀ t o₀) (hstart : P [] n₀ o₀)
    (hmove : ∀ ms m n n' o o', n₀.run ms = some n → Served n t o → P ms n o → Tactful t m →
      n.move m = some n' → Served n' t o' → Dealt n t o m n' o' → P (ms ++ [m]) n' o')
    (htactful : ∀ m ∈ ms, Tactful t m) (hrun : n₀.run ms = some n) :
    ∃ o, Served n t o ∧ P ms n o := by
  refine Node.run_induction
    (P := fun ms n => (∀ m ∈ ms, Tactful t m) → ∃ o, Served n t o ∧ P ms n o)
    (fun _ => ⟨o₀, h, hstart⟩) ?_ hrun htactful
  intro ms m n n' hrun hbefore hmoves htactful
  obtain ⟨o, hserved, hP⟩ := hbefore fun x hx => htactful x (List.mem_append_left _ hx)
  have htactfully := htactful m (by simp)
  obtain ⟨o', hserved', hdealt⟩ := hserved.move htactfully hmoves
  exact ⟨o', hserved', hmove ms m n n' o o' hrun hserved hP htactfully hmoves hserved' hdealt⟩

end Node

end TelemetryRelay
