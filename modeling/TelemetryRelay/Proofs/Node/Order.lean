import TelemetryRelay.Proofs.Node.Closing
import TelemetryRelay.Proofs.Outbox.Order

/-!
# What goes through an outbox keeps its order

A producer comes with a frame and is told that it was taken in; the sender of the outbox sends
one frame after the other with what is underneath, and is told what became of it.  `accepts?`
and `delivers?` read these replies off the moves of a node.  With `Dealt` they are what the
outbox counts itself, so that what is in it is all that was taken in and is not out yet.
-/

namespace TelemetryRelay

open Wire

namespace Node

/-- The frame with which a task comes to an outbox. -/
def comes? (t : TransportId) (id : TaskId) : Node × Move → Option Frame
  | (n, .step own) =>
    match n.actionOf? own with
    | some (.send t' f) => if own = id ∧ t' = t then some f else none
    | _ => none
  | (_, .outside _) => none

/-- The frame of a producer that is told with a move that it was taken in. -/
def accepts? (t : TransportId) : Node × Move → Option Frame
  | (n, .step id) =>
    match n.actionOf? id, n.act id (.offered t) with
    | some (.offered t'), some (_, .reply (.sent (.ok ()))) =>
      if t' = t then (n.outbox? t).bind (·.waiting? id) else none
    | _, _ => none
  | (_, .outside _) => none

/-- The frame that is begun to be sent with what is underneath. -/
def transmits? (t : TransportId) : Node × Move → Option Frame
  | (n, .step id) =>
    match n.actionOf? id with
    | some (.transmit t' f) => if t' = t then some f else none
    | _ => none
  | (_, .outside _) => none

/-- The frame that the sender is told was sent. -/
def delivers? (t : TransportId) : Node × Move → Option Frame
  | (n, .step id) =>
    match n.tasks.get? id with
    | some { activity := .replying (.sent (.ok ())), pending := .drained t' :: _, .. } =>
      if t' = t then (n.outbox? t).bind (·.sender.frame?) else none
    | _ => none
  | (_, .outside _) => none

/-- A sender that is out with a frame has it from the outbox, and it is the last that was
begun to be sent, or is about to be. -/
def IsOut (t : TransportId) (begun : List Frame) (o : Outbox) (task : Task) : Prop :=
  task.pending ≠ [] → ∃ f, o.sender = .sending f ∧
    (task.activity = .acting (.transmit t f) ∨
      (∀ f, task.activity ≠ .acting (.transmit t f)) ∧ begun.getLast? = some f)

/-- How an outbox stands after a run. -/
structure Flows (n₀ n : Node) (t : TransportId) (capacity : Nat) (ms : List Move) (o : Outbox) :
    Prop where
  /-- As long as it is open and its frames can be sent, all that was taken in is there. -/
  orderly : o.closed = false → (∀ p ∈ history n₀ ms, givesUp t p = false) →
    o.Orderly capacity ((history n₀ ms).filterMap (accepts? t))
      ((history n₀ ms).filterMap (delivers? t))
  comes : ∀ id f, o.waiting? id = some f →
    ((history n₀ ms).filterMap (comes? t id)).getLast? = some f
  out : ∀ id task, n.tasks.get? id = some task → task.outbox = some t →
    IsOut t ((history n₀ ms).filterMap (transmits? t)) o task

variable {n n' n₀ : Node} {id : TaskId} {t : TransportId} {o o' : Outbox} {x : Action}
  {m : Move} {ms : List Move} {task : Task} {f : Frame} {capacity retryPause : Nat}
  {accepted delivered begun : List Frame}

/-! ## What is read off a move -/

theorem accepts?_of_action (acts : n.actionOf? id = some x) (hx : x ≠ .offered t) :
    accepts? t (n, .step id) = none := by
  simp only [accepts?, acts]
  split
  · rename_i heq _
    split
    · rename_i ht
      subst ht
      exact absurd (Option.some.inj heq) hx
    · rfl
  · rfl

theorem accepts?_of_idle (idle : n.actionOf? id = none) : accepts? t (n, .step id) = none := by
  simp [accepts?, idle]

theorem delivers?_eq_some (h : delivers? t (n, .step id) = some f) (ho : n.outbox? t = some o) :
    o.sender.frame? = some f ∧ ∃ task pending, n.tasks.get? id = some task ∧
      task.activity = .replying (.sent (.ok ())) ∧ task.pending = .drained t :: pending := by
  simp only [delivers?] at h
  split at h
  · rename_i found
    simp only [Option.ite_none_right_eq_some] at h
    obtain ⟨rfl, h⟩ := h
    exact ⟨by simpa [ho] using h, _, _, found, rfl, rfl⟩
  · cases h

theorem delivers?_eq_none (ho : n.outbox? t = some o) (found : n.tasks.get? id = some task)
    (h : task.activity = .replying (.sent (.ok ())) →
      ∀ pending, task.pending ≠ .drained t :: pending) :
    delivers? t (n, .step id) = none := by
  cases hdelivers : delivers? t (n, .step id) with
  | none => rfl
  | some f =>
      obtain ⟨-, task', pending, found', replying, waits⟩ := delivers?_eq_some hdelivers ho
      cases found.symm.trans found'
      exact absurd waits (h replying pending)

theorem transmits?_of_action (acts : n.actionOf? id = some x) (hx : ∀ f, x ≠ .transmit t f) :
    transmits? t (n, .step id) = none := by
  simp only [transmits?, acts]
  split
  · rename_i t' f heq
    split
    · rename_i ht
      subst ht
      exact absurd (Option.some.inj heq) (hx f)
    · rfl
  · rfl

/-! ## What a move adds -/

/-- Who stands in line with a frame has just come with it, or stood there before. -/
theorem Dealt.waits (h : Dealt n t o m n' o') (hwaits : o'.waiting? id = some f) :
    comes? t id (n, m) = some f ∨ o.waiting? id = some f := by
  have hstep {e : Outbox.Event} (hother : ∀ id f, e ≠ .offer id f) (hstep : Outbox.Step o e o') :
      comes? t id (n, m) = some f ∨ o.waiting? id = some f := by
    rcases hstep.waits hwaits with heq | ⟨-, -, hwaited⟩
    · exact absurd heq (hother id f)
    · exact .inr hwaited
  cases h with
  | acts found acting action ensues deals =>
      cases deals with
      | offers opened step =>
          rcases step.waits hwaits with heq | ⟨-, -, hwaited⟩
          · cases heq
            exact .inl (by simp [comes?, action])
          · exact .inr hwaited
      | turnedAway step | accepted step | closes step => exact hstep (by simp) step
      | drains step own => exact hstep (by rcases own with rfl | rfl <;> simp) step
      | _ => exact .inr hwaits
  | told _ _ _ _ step => exact hstep (by simp) step
  | halts _ _ _ halt =>
      rcases halt with ⟨-, step⟩ | ⟨-, rfl⟩
      · exact hstep (by simp) step
      · exact .inr hwaits
  | _ => exact .inr hwaits

theorem delivers?_of_told {pending : List Then} (ho : n.outbox? t = some o)
    (found : n.tasks.get? id = some task) (replying : task.activity = .replying (.sent (.ok ())))
    (waits : task.pending = .drained t :: pending) :
    delivers? t (n, .step id) = o.sender.frame? := by
  obtain ⟨activity, frames, outbox, label⟩ := task
  cases replying
  cases waits
  simp [delivers?, found, ho]

/-- What is not given up can be tried again. -/
theorem recovers_of_told {pending : List Then} {tr : Transport} {e : LinkError}
    (found : n.tasks.get? id = some task) (replying : task.activity = .replying (.sent (.error e)))
    (waits : task.pending = .drained t :: pending) (hget : n.transports.get? t = some tr)
    (hgoes : givesUp t (n, .step id) = false) :
    Outbox.Sent.ofResult tr.canRecover (.error e) = .failed true ∧ e ≠ .closed := by
  obtain ⟨activity, frames, outbox, label⟩ := task
  cases replying
  cases waits
  simp only [givesUp, found, hget, decide_true, Bool.true_and, Bool.or_eq_false_iff,
    decide_eq_false_iff_not, Bool.not_eq_false'] at hgoes
  obtain ⟨hopen, hrecovers⟩ := hgoes
  refine ⟨?_, hopen⟩
  rw [hrecovers]
  cases e <;> first | rfl | exact absurd rfl hopen

/-- A move that tells nobody anything adds nothing. -/
theorem orderly_of_quiet (haccepts : accepts? t (n, m) = none)
    (hdelivers : delivers? t (n, m) = none) (h : o.Orderly capacity accepted delivered) :
    o.Orderly capacity (accepted ++ (accepts? t (n, m)).toList)
      (delivered ++ (delivers? t (n, m)).toList) := by
  simpa [haccepts, hdelivers] using h

/-- With an action a producer at most is told something. -/
theorem Deals.orderly (h : Deals n id t o x o' next) (ho : n.outbox? t = some o)
    (action : n.actionOf? id = some x) (acts : n.act id x = some (n', next))
    (hdelivers : delivers? t (n, .step id) = none)
    (horderly : o.Orderly capacity accepted delivered) (hopen : o'.closed = false) :
    o'.Orderly capacity (accepted ++ (accepts? t (n, .step id)).toList)
      (delivered ++ (delivers? t (n, .step id)).toList) := by
  cases h with
  | offers _ step | closes step =>
      exact orderly_of_quiet (accepts?_of_action action (by simp)) hdelivers
        (horderly.beside step hopen trivial rfl rfl)
  | drains step own =>
      refine orderly_of_quiet (accepts?_of_action action (by simp)) hdelivers ?_
      rcases own with rfl | rfl <;> exact horderly.beside step hopen trivial rfl rfl
  | turnedAway step =>
      exact orderly_of_quiet (by simp [accepts?, action, acts]) hdelivers
        (horderly.beside step hopen trivial rfl rfl)
  | accepted step =>
      have haccepts : accepts? t (n, .step id) = o.waiting? id := by
        simp [accepts?, action, acts, ho]
      rw [haccepts, hdelivers]
      exact horderly.step step hopen trivial
  | refused | closed | stopped | transmits =>
      exact orderly_of_quiet (accepts?_of_action action (by simp)) hdelivers horderly
  | aside other =>
      refine orderly_of_quiet (accepts?_of_action action ?_) hdelivers horderly
      rintro rfl
      exact other _ .accept

/-- With a reply the sender at most is told something. -/
theorem orderly_of_told {r : Except LinkError Unit} {pending : List Then} {tr : Transport}
    (ho : n.outbox? t = some o) (found : n.tasks.get? id = some task)
    (replying : task.activity = .replying (.sent r)) (waits : task.pending = .drained t :: pending)
    (hget : n.transports.get? t = some tr)
    (step : Outbox.Step o (.sent (.ofResult tr.canRecover r) n.now) o')
    (horderly : o.Orderly capacity accepted delivered) (hopen : o'.closed = false)
    (hgoes : givesUp t (n, .step id) = false) :
    o'.Orderly capacity (accepted ++ (accepts? t (n, .step id)).toList)
      (delivered ++ (delivers? t (n, .step id)).toList) := by
  have haccepts := accepts?_of_idle (t := t) (actionOf?_of_replying found replying)
  cases r with
  | ok =>
      rw [haccepts, delivers?_of_told ho found replying waits]
      exact horderly.step step hopen ⟨.ok (), by simp, rfl⟩
  | error e =>
      obtain ⟨houtcome, hlost⟩ := recovers_of_told found replying waits hget hgoes
      refine orderly_of_quiet haccepts (delivers?_eq_none ho found fun replying' => ?_) ?_
      · cases replying.symm.trans replying'
      · rw [houtcome] at step
        refine horderly.beside step hopen ⟨.error e, by simpa using hlost, ?_⟩ rfl rfl
        cases e <;> first | rfl | exact absurd rfl hlost

/-- The outbox counts what its producers and its sender are told. -/
theorem Dealt.orderly (h : Dealt n t o m n' o') (hserved : Served n t o)
    (horderly : o.Orderly capacity accepted delivered) (hopen : o'.closed = false)
    (hgoes : givesUp t (n, m) = false) :
    o'.Orderly capacity (accepted ++ (accepts? t (n, m)).toList)
      (delivered ++ (delivers? t (n, m)).toList) := by
  cases h with
  | acts found acting action ensues deals after acts =>
      have hdelivers := delivers?_eq_none hserved.has found fun replying => by
        cases acting.symm.trans replying
      exact deals.orderly hserved.has action acts hdelivers horderly hopen
  | told found replying waits hget step after =>
      exact orderly_of_told hserved.has found replying waits hget step horderly hopen hgoes
  | resumes found replying waits takesUp after untold =>
      refine orderly_of_quiet (accepts?_of_idle (actionOf?_of_replying found replying))
        (delivers?_eq_none hserved.has found fun replying' _ waits' => ?_) horderly
      cases replying.symm.trans replying'
      cases waits.symm.trans waits'
      -- The sender is out, so it could have been told.
      obtain ⟨f, hsending⟩ := hserved.busy _ _ found (hserved.outbox_of_drained found waits)
        (by simp [waits])
      obtain ⟨tr, hget, -⟩ := outbox?_eq_some.mp hserved.has
      exact untold tr (.ok ()) _ rfl rfl hget (.sent hsending)
  | ends found replying gone last =>
      refine orderly_of_quiet (accepts?_of_idle (actionOf?_of_replying found replying))
        (delivers?_eq_none hserved.has found fun _ _ waits => ?_) horderly
      cases last.symm.trans waits
  | @halts id task t' _ _ found outbox gone halt =>
      rcases halt with ⟨-, step⟩ | ⟨hne, rfl⟩
      · cases step with
        | halt closed => cases closed.symm.trans hopen
      · refine orderly_of_quiet ?_ (delivers?_eq_none hserved.has found fun _ _ waits => ?_)
          horderly
        · cases hacts : n.actionOf? id with
          | none => exact accepts?_of_idle hacts
          | some x =>
              refine accepts?_of_action hacts ?_
              rintro rfl
              exact (hserved.manned _ _ found).not_offered outbox (actionOf?_eq found hacts).1
        · cases outbox.symm.trans (hserved.outbox_of_drained found waits)
          exact hne rfl
  | outside => exact orderly_of_quiet rfl rfl horderly

/-- A sender that is out does not begin to send again before it is told. -/
theorem Mans.goesOn (h : Mans t (.acting x) task.pending) (hout : task.pending ≠ [])
    (hensues : Ensues n x next) (f : Frame) :
    (task.advance next).activity ≠ .acting (.transmit t f) := by
  generalize task.pending = pending at h hout
  cases h with
  | drains => exact absurd rfl hout
  | transmits | holds | calls => cases hensues <;> simp [Task.advance]

/-- A sender that goes on is out with the frame that it has from the outbox. -/
theorem IsOut.act (hmans : Mans t (.acting x) task.pending) (acting : task.activity = .acting x)
    (action : n.actionOf? id = some x) (hensues : Ensues n x next)
    (hdeals : Deals n id t o x o' next) (hout : IsOut t begun o task) :
    IsOut t (begun ++ (transmits? t (n, .step id)).toList) o' (task.advance next) := by
  intro hpending
  by_cases hp : task.pending = []
  · rw [hp] at hmans
    cases hmans
    cases hdeals with
    | @transmits f sending => exact ⟨f, sending, .inl rfl⟩
    | stopped | drains => exact absurd hp hpending
    | aside other => exact absurd .take (other .take)
  · obtain ⟨f, hsending, hat⟩ := hout hp
    refine ⟨f, ?_, .inr ⟨hmans.goesOn hp hensues, ?_⟩⟩
    · generalize task.pending = pending at hmans hp
      cases hmans with
      | drains => exact absurd rfl hp
      | transmits | holds | calls =>
          cases hdeals
          exact hsending
    · rcases hat with hat | ⟨hbegun, hlast⟩
      · cases acting.symm.trans hat
        simp [transmits?, action]
      · rw [transmits?_of_action action fun f hx => hbegun f (by rw [acting, hx])]
        simpa using hlast

/-- Only its sender begins to send what is in an outbox. -/
theorem Served.outbox_of_transmits (h : Served n t o) (htransmits : transmits? t (n, m) = some f) :
    ∃ id task, m = .step id ∧ n.tasks.get? id = some task ∧ task.outbox = some t := by
  cases m with
  | outside w => cases htransmits
  | step id =>
      simp only [transmits?] at htransmits
      split at htransmits
      · rename_i t' f' action
        simp only [Option.ite_none_right_eq_some] at htransmits
        obtain ⟨rfl, -⟩ := htransmits
        obtain ⟨task, found, -, houtbox, -⟩ := h.sender_of_transmit action
        exact ⟨id, task, rfl, found, houtbox⟩
      · cases htransmits

theorem Served.out_move (h : Served n t o) (htactful : Tactful t m) (hmove : n.move m = some n')
    (hdealt : Dealt n t o m n' o') (hout : ∀ id task, n.tasks.get? id = some task →
      task.outbox = some t → IsOut t begun o task) (found' : n'.tasks.get? id = some task)
    (houtbox' : task.outbox = some t) :
    IsOut t (begun ++ (transmits? t (n, m)).toList) o' task := by
  intro hpending
  cases h.out_after htactful hmove hdealt found' houtbox' hpending with
  | acts found houtbox mans acting action ensues deals =>
      exact (hout id _ found houtbox).act mans acting action ensues deals hpending
  | stays found same beside =>
      have hquiet : transmits? t (n, m) = none := by
        cases htransmits : transmits? t (n, m) with
        | none => rfl
        | some f =>
            obtain ⟨id', other, hm, hfound, hsends⟩ := h.outbox_of_transmits htransmits
            exact absurd hsends (beside id' other hm hfound)
      rw [hquiet, same]
      simpa using hout id _ found houtbox' hpending

/-! ## Runs -/

theorem Served.waits_of_accepted (h : Served n t o)
    (acts : n.act id (.offered t) = some (n', .reply (.sent (.ok ())))) :
    ∃ f, o.waiting? id = some f := by
  obtain ⟨o', -, hdeals⟩ := act_deals h.numbered h.has acts
  cases hdeals with
  | accepted step =>
      cases step with
      | @accept _ p found => exact ⟨p.2, by simp [Outbox.waiting?, found]⟩
  | aside other => exact absurd .accept (other _)

/-- Who stands in line does not come again before it is told. -/
theorem Served.comes?_eq_none (h : Served n t o) (hwaits : o.waiting? id = some f) :
    comes? t id (n, m) = none := by
  obtain ⟨task, found, hoffered⟩ := (h.parked id).mp (Outbox.hasInLine_of_waiting? hwaits)
  cases m with
  | outside w => rfl
  | step own =>
      simp only [comes?]
      split
      · rename_i action
        refine if_neg fun hown => ?_
        obtain ⟨rfl, -⟩ := hown
        cases hoffered.symm.trans (actionOf?_eq found action).1
      · rfl

theorem flows_of_run (h : Served n₀ t (.make capacity retryPause))
    (htactful : ∀ m ∈ ms, Tactful t m) (hrun : n₀.run ms = some n) :
    ∃ o, Served n t o ∧ Flows n₀ n t capacity ms o := by
  refine h.run_induction (P := fun ms n o => Flows n₀ n t capacity ms o) ⟨?_, ?_, ?_⟩ ?_ htactful
    hrun
  · exact fun _ _ => Outbox.orderly_make capacity retryPause
  · intro id f hwaits
    cases hwaits
  · intro id task found houtbox hpending
    obtain ⟨f, hsending⟩ := h.busy id task found houtbox hpending
    cases hsending
  · intro ms m n n' o o' hrun hserved hflows htactful hmove hserved' hdealt
    have hhistory := history_snoc (m := m) hrun
    refine ⟨fun hopen hgoes => ?_, fun id f hwaits => ?_, fun id task found houtbox => ?_⟩
    · rw [hhistory] at hgoes
      obtain ⟨hbefore, hgoes⟩ := List.forall_mem_append.mp hgoes
      have hopened : o.closed = false := by
        by_contra hclosed
        cases hopen.symm.trans (hdealt.closed (by simpa using hclosed))
      rw [filterMap_history_snoc _ hrun, filterMap_history_snoc _ hrun]
      exact hdealt.orderly hserved (hflows.orderly hopened hbefore) hopen
        (hgoes _ (List.mem_singleton_self _))
    · rw [filterMap_history_snoc _ hrun]
      rcases hdealt.waits hwaits with hcomes | hwaited
      · simp [hcomes]
      · simpa [hserved.comes?_eq_none hwaited] using hflows.comes id f hwaited
    · rw [filterMap_history_snoc _ hrun]
      exact hserved.out_move htactful hmove hdealt hflows.out found houtbox

/-- What is begun with what is underneath is the frame that the sender has. -/
theorem Flows.sends (h : Flows n₀ n t capacity ms o) (hserved : Served n t o)
    (action : n.actionOf? id = some (.transmit t f)) : o.sender = .sending f := by
  obtain ⟨task, found, acting, houtbox, hpending⟩ := hserved.sender_of_transmit action
  obtain ⟨g, hsending, hat | ⟨hbegun, -⟩⟩ := h.out id task found houtbox hpending
  · cases acting.symm.trans hat
    exact hsending
  · exact absurd acting (hbegun f)

theorem sending_of_drain {tr : Transport} {k : Then} (htr : n.transports.get? t = some tr)
    (houtbox : tr.outbox = some o) (hdrain : n.drain t = some (n', .call (.transmit t f) k)) :
    o.sender = .sending f := by
  have hacts : Acts n 0 (.drain t) n' (.call (.transmit t f) k) := acts_of_drain hdrain
  cases hacts with
  | proceeds proceeds =>
      cases proceeds with
      | transmits found has sending =>
          cases htr.symm.trans found
          cases houtbox.symm.trans has
          exact sending

/-- **An outbox loses nothing, sends nothing twice and keeps the order.**

By itself, through whatever happens to it: as long as it is open and what is underneath
recovers, the frames that it accepted are those that were sent, the one that its sender has,
and those in the queue, in this order; each of them is one that its producer came with.  The
queue keeps to its capacity and the sender goes on.  What the sender sends is the oldest frame
that is not out.

In a node, through whatever its tasks do and whatever comes from outside: the same holds of
the frames whose producers were told that they were taken in, and of those that the sender was
told were sent.  Whoever is told that a frame was taken in is counted with the frame that it
came with last, and when the sender is told that a frame was sent, it is the one that was
begun last with what is underneath.  Nothing is begun there but the oldest frame that is not
out. -/
theorem accepted_in_order (capacity retryPause : Nat) :
    (∀ {es : List Outbox.Event} {o : Outbox}, (Outbox.make capacity retryPause).run es = some o →
      o.closed = false → (∀ e ∈ es, e.Recovers) →
      Outbox.accepted (.make capacity retryPause) es =
        Outbox.delivered (.make capacity retryPause) es ++ o.sender.frame?.toList ++ o.queue ∧
      (∀ id f, Outbox.accepts? (o, .accept id) = some f → Outbox.Offers es id f) ∧
      o.queue.length ≤ max capacity 1 ∧
      o.sender ≠ .stopped ∧
      (∀ f, o.sender = .sending f → ((Outbox.accepted (.make capacity retryPause) es).drop
        (Outbox.delivered (.make capacity retryPause) es).length).head? = some f) ∧
      ∀ (n n' : Node) t tr f k, n.transports.get? t = some tr → tr.outbox = some o →
        n.drain t = some (n', .call (.transmit t f) k) →
        ((Outbox.accepted (.make capacity retryPause) es).drop
          (Outbox.delivered (.make capacity retryPause) es).length).head? = some f) ∧
    ∀ {n₀ n : Node} {t : TransportId} {ms : List Move} {o : Outbox},
      Served n₀ t (.make capacity retryPause) → (∀ m ∈ ms, Tactful t m) → n₀.run ms = some n →
      n.outbox? t = some o → o.closed = false → (∀ p ∈ history n₀ ms, givesUp t p = false) →
      (history n₀ ms).filterMap (accepts? t) =
        (history n₀ ms).filterMap (delivers? t) ++ o.sender.frame?.toList ++ o.queue ∧
      o.queue.length ≤ max capacity 1 ∧
      o.sender ≠ .stopped ∧
      (∀ id after, n.actionOf? id = some (.offered t) →
        n.act id (.offered t) = some (after, .reply (.sent (.ok ()))) →
        ∃ f, accepts? t (n, .step id) = some f ∧
          ((history n₀ ms).filterMap (comes? t id)).getLast? = some f) ∧
      (∀ id task pending, n.tasks.get? id = some task →
        task.activity = .replying (.sent (.ok ())) → task.pending = .drained t :: pending →
        ∃ f, delivers? t (n, .step id) = some f ∧
          ((history n₀ ms).filterMap (transmits? t)).getLast? = some f) ∧
      ∀ id f, n.actionOf? id = some (.transmit t f) →
        (((history n₀ ms).filterMap (accepts? t)).drop
          ((history n₀ ms).filterMap (delivers? t)).length).head? = some f := by
  constructor
  · intro es o hrun hopen hrecovers
    have horderly := Outbox.orderly_of_run hrun hopen hrecovers
    have holdest : ∀ f, o.sender = .sending f →
        ((Outbox.accepted (.make capacity retryPause) es).drop
          (Outbox.delivered (.make capacity retryPause) es).length).head? = some f :=
      fun f hsending => horderly.oldest (by rw [hsending]; rfl)
    refine ⟨horderly.inOrder, fun id f hwaits => Outbox.offers_of_run hrun hwaits,
      horderly.bounded, horderly.works, holdest, ?_⟩
    intro n n' t tr f k htr houtbox hdrain
    exact holdest f (sending_of_drain htr houtbox hdrain)
  · intro n₀ n t ms o hserved htactful hrun ho hopen hgoes
    obtain ⟨o', hserved', hflows⟩ := flows_of_run hserved htactful hrun
    cases ho.symm.trans hserved'.has
    have horderly := hflows.orderly hopen hgoes
    refine ⟨horderly.inOrder, horderly.bounded, horderly.works, fun id after action acts => ?_,
      fun id task pending found replying waits => ?_, fun id f action => ?_⟩
    · obtain ⟨f, hwaits⟩ := hserved'.waits_of_accepted acts
      exact ⟨f, by simp [accepts?, action, acts, ho, hwaits], hflows.comes id f hwaits⟩
    · have houtbox := hserved'.outbox_of_drained found waits
      obtain ⟨f, hsending, hat | ⟨-, hlast⟩⟩ :=
        hflows.out id task found houtbox (by simp [waits])
      · cases replying.symm.trans hat
      · exact ⟨f, by rw [delivers?_of_told ho found replying waits, hsending]; rfl, hlast⟩
    · exact horderly.oldest (by rw [hflows.sends hserved' action]; rfl)

/-- The sending of a frame fails while another frame waits behind it. -/
def heldUp : List Outbox.Event :=
  [.offer 1 ⟨1, [], by decide⟩, .accept 1, .take, .offer 2 ⟨2, [5], by decide⟩, .accept 2,
    .sent (.failed true) 3, .retry 10]

/-- What fails with the first send, and recovers. -/
def shaky : Scripted := { sends := [.fail .noConnection], receives := [], canRecover := true }

/-- Another frame to send. -/
def sequel : Frame := ⟨2, [5], by decide⟩

/-- The first frame fails, a second one comes, and the pause of the sender is over. -/
def setback : List Move :=
  offers 2 3 ++ List.replicate 4 (.step 1) ++
    .outside (.begin (.send 0 sequel) none) :: List.replicate 3 (.step 3) ++
    [.outside (.pass 5), .step 1, .step 1]

/-- Whether a frame is begun to be sent. -/
def isBegun (f : Frame) : Option Action → Bool
  | some (.transmit 0 g) => g = f
  | _ => false

theorem eq_of_isBegun {action : Option Action} (h : isBegun f action = true) :
    action = some (.transmit 0 f) := by
  unfold isBegun at h
  split at h
  · rw [of_decide_eq_true h]
  · cases h

/-- The frame that failed is tried again before the other one. -/
theorem accepted_in_order_held_up :
    (∃ o, (Outbox.make 0 7).run heldUp = some o ∧ o.queue.length ≤ 1 ∧
      Outbox.accepted (.make 0 7) heldUp =
        Outbox.delivered (.make 0 7) heldUp ++ [⟨1, [], by decide⟩, ⟨2, [5], by decide⟩]) ∧
    ∃ n, (siphon shaky).run setback = some n ∧ n.actionOf? 1 = some (.transmit 0 token) ∧
      (history (siphon shaky) setback).filterMap (accepts? 0) =
        (history (siphon shaky) setback).filterMap (delivers? 0) ++ [token, sequel] ∧
      (((history (siphon shaky) setback).filterMap (accepts? 0)).drop
        ((history (siphon shaky) setback).filterMap (delivers? 0)).length).head? = some token := by
  constructor
  · have hrun : ∃ o, (Outbox.make 0 7).run heldUp = some o ∧ o.closed = false ∧
        o.sender = .sending ⟨1, [], by decide⟩ ∧ o.queue = [⟨2, [5], by decide⟩] :=
      ⟨_, rfl, rfl, rfl, rfl⟩
    obtain ⟨o, hrun, hopen, hsender, hqueue⟩ := hrun
    have hrecovers : ∀ e ∈ heldUp, e.Recovers := by
      have hfailed : ∃ result : Except LinkError Unit, result ≠ .error .closed ∧
          Outbox.Sent.failed true = .ofResult true result := ⟨.error .noConnection, by simp, rfl⟩
      simpa [heldUp, Outbox.Event.Recovers] using hfailed
    obtain ⟨horder, -, hwithin, -⟩ := (accepted_in_order 0 7).1 hrun hopen hrecovers
    refine ⟨o, hrun, hwithin, ?_⟩
    rw [horder, hsender, hqueue, List.append_assoc]
    rfl
  · have htactful : setback.all isTactful = true := by decide +kernel
    have hgoes : (history (siphon shaky) setback).all (fun p => !givesUp 0 p) = true := by
      decide +kernel
    have hends : ((siphon shaky).run setback).map (fun n => (isBegun token (n.actionOf? 1),
        (n.outbox? 0).map fun o => (o.closed, o.sender.frame?, o.queue))) =
          some (true, some (false, some token, [sequel])) := by
      decide +kernel
    obtain ⟨n, hrun, hover⟩ := Option.map_eq_some_iff.mp hends
    simp only [Prod.mk.injEq, Option.map_eq_some_iff] at hover
    obtain ⟨hbegun, o, ho, hopen, hframe, hqueue⟩ := hover
    have hactions := eq_of_isBegun hbegun
    obtain ⟨horder, -, -, -, -, holdest⟩ := (accepted_in_order 1 5).2 (served_siphon shaky)
      (fun m hm => tactful_of_isTactful (List.all_eq_true.mp htactful m hm)) hrun ho hopen
      (fun p hp => by simpa using List.all_eq_true.mp hgoes p hp)
    refine ⟨n, hrun, hactions, ?_, holdest 1 token hactions⟩
    rw [horder, hframe, hqueue, List.append_assoc]
    rfl

end Node

end TelemetryRelay
