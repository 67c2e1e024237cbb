import TelemetryRelay.Proofs.Link.SingleFlight
import TelemetryRelay.Proofs.Node.Crew

/-!
# An outbox is closed for good

The first call that terminates a transport closes its outbox, ends what is underneath and
waits until the sender has stopped.  Nothing of this is ever undone, and a sender that has
stopped leaves an outbox that takes in nothing: who stands in line is turned away, and so is
who comes later.  A sender also stops, with the outbox open, when its frame cannot be sent
any more.
-/

namespace TelemetryRelay

open Wire

namespace Node

/-- The task that closes the outbox of a transport with a move. -/
def shuts? (t : TransportId) : Node × Move → Option TaskId
  | (n, .step id) =>
    match n.actionOf? id, n.outbox? t with
    | some (.terminate t'), some o => if t' = t ∧ o.closed = false then some id else none
    | _, _ => none
  | _ => none

/-- The call with which a task closed the outbox is over: the task has neither to end what is
underneath any more, nor to wait for the sender. -/
def HasEnded (n : Node) (t : TransportId) (id : TaskId) : Prop :=
  .hangUp t ∉ n.planOf id ∧ .join t ∉ n.planOf id

/-- Whether the sender is told with a move that its frame cannot be sent: what is underneath
is closed, or something has failed there that it cannot recover from. -/
def givesUp (t : TransportId) : Node × Move → Bool
  | (n, .step id) =>
    match n.tasks.get? id, n.transports.get? t with
    | some { activity := .replying (.sent (.error e)), pending := .drained t' :: _, .. }, some tr =>
      t' = t && (e = .closed || !tr.canRecover)
    | _, _ => false
  | _ => false

/-- Nothing is sent through the outbox of a transport any more: who waits for a place is
turned away, who comes with a frame is turned away or waits in vain, and nothing is begun
with what is underneath. -/
structure Refuses (n : Node) (t : TransportId) : Prop where
  empty : ∃ o, n.outbox? t = some o ∧ o.queue = []
  idle : ∀ id f, n.actionOf? id ≠ some (.transmit t f)
  parked : ∀ id, n.actionOf? id = some (.offered t) →
    ∃ n', n.act id (.offered t) = some (n', .reply (.sent (.error .closed)))
  sends : ∀ id f, n.actionOf? id = some (.send t f) → ∃ n' next,
    n.act id (.send t f) = some (n', next) ∧
      (next = .reply (.sent (.error .closed)) ∨ next = .go (.offered t))

/-- The transport is over: what is underneath is closed too, and whoever comes is told so at
once. -/
structure Defunct (n : Node) (t : TransportId) : Prop extends Refuses n t where
  ended : ∃ tr, n.transports.get? t = some tr ∧ tr.carrier.isClosed = true
  refused : ∀ id f, n.act id (.send t f) = some (n, .reply (.sent (.error .closed)))
  received : ∀ id, n.act id (.receive t) = some (n, .reply (.received (.error .closed)))
  terminated : ∀ id, n.act id (.terminate t) = some (n, .reply .done)

/-- How far the task has come that closed the outbox. -/
structure Closing (n : Node) (t : TransportId) (id : TaskId) (o : Outbox) : Prop where
  closed : o.closed = true
  ends : .hangUp t ∈ n.planOf id ∨ ∃ tr, n.transports.get? t = some tr ∧ tr.carrier.isClosed = true
  joins : .join t ∈ n.planOf id ∨ o.sender = .stopped

variable {n n' n₀ : Node} {id : TaskId} {t : TransportId} {o o' o₀ : Outbox} {x : Action}
  {next : Transition} {m : Move} {ms ms' : List Move} {task : Task} {tr tr' : Transport}

/-! ## What is underneath -/

theorem isClosed_terminate (d : DatagramLink) :
    (Carrier.datagram d.terminate).isClosed = true := by
  unfold DatagramLink.terminate
  split
  · assumption
  · rfl

theorem Does.isClosed (h : Does n id x t tr tr') (hclosed : tr.carrier.isClosed = true) :
    tr'.carrier.isClosed = true := by
  cases h with
  | link on brings step =>
      rw [on] at hclosed
      exact step.closed hclosed
  | script on closed =>
      rw [on] at hclosed
      exact closed.trans hclosed
  | swells swells =>
      obtain ⟨more, on⟩ := swells
      rw [on] at hclosed
      exact hclosed
  | sends on opened =>
      rw [on] at hclosed
      exact absurd hclosed (by simp [Carrier.isClosed, opened])
  | receives on opened =>
      rw [on] at hclosed
      exact absurd hclosed (by simp [Carrier.isClosed, opened])
  | ends on => exact isClosed_terminate _
  | breaksOff on => rfl
  | outbox has boxes step => exact hclosed

/-- **What is closed underneath stays closed.** -/
theorem Handled.isClosed (h : Handled n t tr m tr') (hclosed : tr.carrier.isClosed = true) :
    tr'.carrier.isClosed = true := by
  cases h with
  | same | sent => exact hclosed
  | act acts does => exact does.isClosed hclosed
  | halts found outbox has step closed same => exact closed.trans hclosed
  | permits on closed =>
      rw [on] at hclosed
      exact closed.trans hclosed
  | swells swells =>
      obtain ⟨more, on⟩ := swells
      rw [on] at hclosed
      exact hclosed

theorem hangUp_closes (h : n.act id (.hangUp t) = some (n', next)) :
    ∃ tr, n'.transports.get? t = some tr ∧ tr.carrier.isClosed = true := by
  cases Acts.of_act h with
  | breaksOff found => exact ⟨_, get?_setCarrier found _, rfl⟩
  | ends found => exact ⟨_, get?_setCarrier found _, isClosed_terminate _⟩
  | shuts found on step =>
      refine ⟨_, get?_setCarrier found _, ?_⟩
      cases step
      rfl
  | proceeds proceeds =>
      cases proceeds with
      | hungUp found on closed => exact ⟨_, found, by rw [on]; exact closed⟩

theorem join_waits (h : n.act id (.join t) = some (n', next)) (ho : n.outbox? t = some o) :
    o.sender = .stopped := by
  cases Acts.of_act h with
  | proceeds proceeds =>
      cases proceeds with
      | joins found stopped => simpa [outbox_of_found ho found] using stopped

/-! ## An outbox whose sender has stopped -/

/-- Whoever comes with a frame to a closed outbox is turned away at once. -/
theorem send_of_closed (ho : n.outbox? t = some o) (hclosed : o.closed = true) (id : TaskId)
    (f : Frame) : n.act id (.send t f) = some (n, .reply (.sent (.error .closed))) := by
  obtain ⟨tr, hget, hbox⟩ := outbox?_eq_some.mp ho
  simp [act, send, hget, hbox, hclosed]

namespace Served

/-- Who sends on what is underneath is the sender of the outbox, and waits to be told. -/
theorem sender_of_transmit (h : Served n t o) {f : Frame}
    (acts : n.actionOf? id = some (.transmit t f)) : ∃ task, n.tasks.get? id = some task ∧
      task.activity = .acting (.transmit t f) ∧ task.outbox = some t ∧ task.pending ≠ [] := by
  obtain ⟨task, found⟩ := found_of_actionOf? acts
  obtain ⟨acting, -⟩ := actionOf?_eq found acts
  have houtbox : task.outbox = some t := h.outbox_of_behind found acting
    (by simp [Action.behind, Action.plan, Action.behind?]) (by simp)
  have hmans := h.manned id task found t houtbox
  rw [acting] at hmans
  refine ⟨task, found, acting, houtbox, fun hnone => ?_⟩
  rw [hnone] at hmans
  cases hmans

/-- Who sends on what is underneath has the frame from the outbox. -/
theorem sending (h : Served n t o) {f : Frame} (acts : n.actionOf? id = some (.transmit t f)) :
    ∃ f, o.sender = .sending f := by
  obtain ⟨task, found, -, houtbox, hpending⟩ := h.sender_of_transmit acts
  exact h.busy id task found houtbox hpending

theorem send_act (h : Served n t o) {f : Frame} (acts : n.actionOf? id = some (.send t f)) :
    ∃ n' next, n.act id (.send t f) = some (n', next) ∧
      (next = .reply (.sent (.error .closed)) ∨ next = .go (.offered t)) := by
  obtain ⟨task, found⟩ := found_of_actionOf? acts
  obtain ⟨acting, -⟩ := actionOf?_eq found acts
  by_cases hclosed : o.closed = true
  · exact ⟨n, _, send_of_closed h.has hclosed id f, .inl rfl⟩
  · obtain ⟨tr, hget, hbox⟩ := outbox?_eq_some.mp h.has
    have hnew : o.hasInLine id = false := by
      refine Bool.eq_false_iff.mpr fun hline => ?_
      obtain ⟨task', found', hoffered⟩ := (h.parked id).mp hline
      cases found.symm.trans found'
      cases acting.symm.trans hoffered
    have hstep : o.step (.offer id f) = some { o with line := o.line ++ [(id, f)] } := by
      simp only [Outbox.step]
      exact if_neg (Bool.eq_false_iff.mp hnew)
    exact ⟨n.setOutbox t { o with line := o.line ++ [(id, f)] }, _,
      by simp [act, send, hget, hbox, hclosed, hstep], .inr rfl⟩

theorem refuses (h : Served n t o) (hstopped : o.sender = .stopped) : Refuses n t := by
  refine ⟨⟨o, h.has, h.emptied hstopped⟩, fun id f acts => ?_, fun id acts => ?_,
    fun id f => h.send_act⟩
  · obtain ⟨f', hsending⟩ := h.sending acts
    cases hstopped.symm.trans hsending
  · obtain ⟨task, found⟩ := found_of_actionOf? acts
    obtain ⟨acting, -⟩ := actionOf?_eq found acts
    obtain ⟨tr, hget, hbox⟩ := outbox?_eq_some.mp h.has
    have hline : o.hasInLine id = true := (h.parked id).mpr ⟨task, found, acting⟩
    have hstep : o.step (.refuse id) = some (o.leave id) := by
      simp only [Outbox.step]
      exact if_pos ⟨hline, .inr hstopped⟩
    exact ⟨n.setOutbox t (o.leave id), by simp [act, queueUp, hget, hbox, hstep]⟩

theorem defunct (h : Served n t o) (hstopped : o.sender = .stopped) (hclosed : o.closed = true)
    (hget : n.transports.get? t = some tr) (hended : tr.carrier.isClosed = true) :
    Defunct n t := by
  have hbox := outbox_of_found h.has hget
  refine ⟨h.refuses hstopped, ⟨tr, hget, hended⟩, send_of_closed h.has hclosed, fun id => ?_,
    fun id => ?_⟩
  · simp [act, receive, hget, hbox, hclosed]
  · simp [act, terminate, hget, hbox, hclosed, Outbox.step]

end Served

/-! ## The call that closes it -/

theorem shuts?_eq_some (h : shuts? t (n, m) = some id) : m = .step id ∧
    n.actionOf? id = some (.terminate t) ∧ ∃ o, n.outbox? t = some o ∧ o.closed = false := by
  unfold shuts? at h
  split at h
  · rename_i own heq
    cases heq
    split at h
    · rename_i t' o hacts ho
      simp only [Option.ite_none_right_eq_some, Option.some.injEq] at h
      obtain ⟨⟨rfl, hopened⟩, rfl⟩ := h
      exact ⟨rfl, hacts, o, ho, hopened⟩
    · cases h
  · cases h

/-- A sender has nothing else planned than to send. -/
theorem Manned.bare (h : Manned task) (hx : x ∈ task.plan) (hother : x = .hangUp t ∨ x = .join t) :
    task.outbox = none := by
  cases hbox : task.outbox with
  | none => rfl
  | some t' =>
      have hmans := h t' hbox
      have hplan : x ∈ task.activity.plan ++ task.pending.flatMap Then.plan := hx
      generalize task.activity = activity at hmans hplan
      generalize task.pending = pending at hmans hplan
      cases hmans <;> rcases hother with rfl | rfl <;>
        simp [Activity.plan, Action.plan, Then.plan] at hplan

/-- What the task has still to do to terminate the transport stays planned until it is done. -/
theorem Served.stays (h : Served n t o) (hmove : n.move m = some n') (hx : x ∈ n.planOf id)
    (hother : x = .hangUp t ∨ x = .join t) :
    x ∈ n'.planOf id ∨ m = .step id ∧ n.actionOf? id = some x := by
  obtain ⟨task, found, hplan⟩ := mem_planOf.mp hx
  exact stays_planned h.numbered hmove found ((h.manned id task found).bare hplan hother) hplan

theorem Served.closes (h : Served n t o) (hmove : n.move m = some n')
    (ho' : n'.outbox? t = some o') (hshuts : shuts? t (n, m) = some id) : Closing n' t id o' := by
  obtain ⟨rfl, hacts, o₁, ho₁, hopened⟩ := shuts?_eq_some hshuts
  cases h.has.symm.trans ho₁
  obtain ⟨tr, hget, hbox⟩ := outbox?_eq_some.mp h.has
  have hact : n.act id (.terminate t) =
      some (n.setOutbox t { o with closed := true }, .call (.hangUp t) (.next (.join t))) := by
    simp [act, terminate, hget, hbox, Outbox.step, hopened]
  obtain ⟨task, rfl⟩ := step_after hacts hact hmove
  have hbox' : ((n.setOutbox t { o with closed := true }).setTask id task).outbox? t =
      some { o with closed := true } := by
    simp [outbox?, setTask, setOutbox, hget]
  cases ho'.symm.trans hbox'
  exact ⟨rfl, .inl (planned_of_step hacts hact hmove (by simp [Transition.plan, Action.plan])),
    .inl (planned_of_step hacts hact hmove
      (by simp [Transition.plan, Then.plan, Action.plan]))⟩

theorem Closing.move (h : Closing n t id o) (hserved : Served n t o) (hmove : n.move m = some n')
    (hdealt : Dealt n t o m n' o') : Closing n' t id o' := by
  refine ⟨hdealt.closed h.closed, ?_, ?_⟩
  · rcases h.ends with hplanned | ⟨tr, hget, hclosed⟩
    · rcases hserved.stays hmove hplanned (.inl rfl) with hplanned | ⟨rfl, hacts⟩
      · exact .inl hplanned
      · obtain ⟨after, next, hact⟩ := act_of_step hacts hmove
        obtain ⟨task, rfl⟩ := step_after hacts hact hmove
        obtain ⟨tr, hget, hclosed⟩ := hangUp_closes hact
        exact .inr ⟨tr, hget, hclosed⟩
    · obtain ⟨tr', hget', hhandled⟩ := handled_move hserved.numbered hmove hget
      exact .inr ⟨tr', hget', hhandled.isClosed hclosed⟩
  · rcases h.joins with hplanned | hover
    · rcases hserved.stays hmove hplanned (.inr rfl) with hplanned | ⟨rfl, hacts⟩
      · exact .inl hplanned
      · obtain ⟨after, next, hact⟩ := act_of_step hacts hmove
        exact .inr (hdealt.stopped (join_waits hact hserved.has))
    · exact .inr (hdealt.stopped hover)

theorem givesUp_eq_true (h : givesUp t (n, m) = true) : ∃ id task e pending tr, m = .step id ∧
    n.tasks.get? id = some task ∧ task.activity = .replying (.sent (.error e)) ∧
    task.pending = .drained t :: pending ∧ n.transports.get? t = some tr ∧
    (e = .closed ∨ tr.canRecover = false) := by
  unfold givesUp at h
  split at h
  · rename_i id heq
    cases heq
    split at h
    · rename_i e t' pending _ _ tr hfound hget
      simp only [Bool.and_eq_true, Bool.or_eq_true, decide_eq_true_eq, Bool.not_eq_true'] at h
      obtain ⟨rfl, hlost⟩ := h
      exact ⟨id, _, e, pending, tr, rfl, hfound, rfl, rfl, hget, hlost⟩
    · cases h
  · cases h

/-- A frame that cannot be sent stops the sender. -/
theorem Served.stops (h : Served n t o) (hmove : n.move m = some n')
    (ho' : n'.outbox? t = some o') (hgives : givesUp t (n, m) = true) : o'.sender = .stopped := by
  obtain ⟨id, task, e, pending, tr, rfl, found, replying, waits, hget, hlost⟩ :=
    givesUp_eq_true hgives
  have houtbox := h.outbox_of_drained found waits
  obtain ⟨f, hsending⟩ := h.busy id task found houtbox (by simp [waits])
  cases Step.of_step hmove with
  | halt found' outbox halts =>
      cases found.symm.trans found'
      cases houtbox.symm.trans outbox
      obtain ⟨o₁, ho₁, ⟨-, hstep⟩ | ⟨hne, -⟩⟩ :=
        (Halts.of_haltSender halts).deals h.has
      · cases ho'.symm.trans ho₁
        cases hstep
        rfl
      · exact absurd rfl hne
  | act found' _ acting =>
      cases found.symm.trans found'
      cases replying.symm.trans acting
  | finish found' _ _ last =>
      cases found.symm.trans found'
      cases waits.symm.trans last
  | resume found' _ replying' waits' resumes =>
      cases found.symm.trans found'
      cases replying.symm.trans replying'
      cases waits.symm.trans waits'
      cases resumes
      have hbox := outbox_of_found h.has hget
      have hstep : o.step (.sent (.ofResult tr.canRecover (.error e)) n.now) = some o.stop := by
        rcases hlost with rfl | hlost
        · simp [Outbox.step, hsending, Outbox.Sent.ofResult]
        · cases e <;> simp [Outbox.step, hsending, Outbox.Sent.ofResult, hlost]
      have hafter : (n.drained t (.error e)).outbox? t = some o.stop := by
        simp [drained, hget, hbox, hstep, outbox?, setOutbox]
      cases ho'.symm.trans hafter
      rfl

/-! ## Runs -/

/-- What a run leaves of an outbox: its sender goes when its frame cannot be sent, and who has
closed it goes on to end what is underneath and to wait for the sender. -/
structure Left (n₀ n : Node) (t : TransportId) (ms : List Move) (o : Outbox) : Prop where
  stopped : (∃ p ∈ history n₀ ms, givesUp t p = true) → o.sender = .stopped
  closing : ∀ id ∈ (history n₀ ms).filterMap (shuts? t), Closing n t id o

theorem left_of_run (h : Served n₀ t o₀) (htactful : ∀ m ∈ ms, Tactful t m)
    (hrun : n₀.run ms = some n) : ∃ o, Served n t o ∧ Left n₀ n t ms o := by
  refine h.run_induction (P := fun ms n o => Left n₀ n t ms o)
    ⟨?_, fun _ hid => absurd hid List.not_mem_nil⟩ ?_ htactful hrun
  · rintro ⟨p, hp, -⟩
    cases hp
  · intro ms m n n' o o' hrun hserved hleft _ hmove hserved' hdealt
    refine ⟨?_, fun id hid => ?_⟩
    · rintro ⟨p, hp, hgives⟩
      rw [history_snoc hrun, List.mem_append, List.mem_singleton] at hp
      rcases hp with hp | rfl
      · exact hdealt.stopped (hleft.stopped ⟨p, hp, hgives⟩)
      · exact hserved.stops hmove hserved'.has hgives
    · rw [filterMap_history_snoc _ hrun, List.mem_append, Option.mem_toList] at hid
      rcases hid with hid | hid
      · exact (hleft.closing id hid).move hserved hmove hdealt
      · exact hserved.closes hmove hserved'.has hid

/-- What is over stays so. -/
theorem Served.after (h : Served n t o) (htactful : ∀ m ∈ ms, Tactful t m)
    (hrun : n.run ms = some n') (hstopped : o.sender = .stopped) :
    ∃ o', Served n' t o' ∧ o'.sender = .stopped ∧ (o.closed = true → o'.closed = true) ∧
      ∀ tr, n.transports.get? t = some tr → tr.carrier.isClosed = true →
        ∃ tr', n'.transports.get? t = some tr' ∧ tr'.carrier.isClosed = true := by
  refine h.run_induction (P := fun _ n' o' =>
    o'.sender = .stopped ∧ (o.closed = true → o'.closed = true) ∧
      ∀ tr, n.transports.get? t = some tr → tr.carrier.isClosed = true →
        ∃ tr', n'.transports.get? t = some tr' ∧ tr'.carrier.isClosed = true)
    ⟨hstopped, id, fun tr hget hclosed => ⟨tr, hget, hclosed⟩⟩ ?_ htactful hrun
  intro ms m n₁ n₂ o₁ o₂ _ hserved ⟨hstopped₁, hshut, hended⟩ _ hmove _ hdealt
  refine ⟨hdealt.stopped hstopped₁, fun hclosed => hdealt.closed (hshut hclosed),
    fun tr hget hclosed => ?_⟩
  obtain ⟨tr₁, hget₁, hclosed₁⟩ := hended tr hget hclosed
  obtain ⟨tr₂, hget₂, hhandled⟩ := handled_move hserved.numbered hmove hget₁
  exact ⟨tr₂, hget₂, hhandled.isClosed hclosed₁⟩

theorem receive_passes (ho : n.outbox? t = some o) (hopened : o.closed = false) (id : TaskId) :
    n.act id (.receive t) = some (n, .go (.fetch t)) := by
  obtain ⟨tr, hget, hbox⟩ := outbox?_eq_some.mp ho
  simp [act, receive, hget, hbox, hopened]

/-- **An outbox is closed for good.** Producers come and wait, the sender is at whatever it is
at, and calls terminate the transport, in any order.

When the call that closed the outbox has ended, then in whatever follows the transport is
defunct: what is underneath is closed and nothing is sent on it any more, the queue stays
empty, everybody who still waits for a place is told that the transport is closed, and so is
at once whoever comes to send or to receive; to terminate it again changes nothing.

When the sender has given up because what is underneath is closed, or has failed and cannot
recover, then in whatever follows nothing is sent and the queue stays empty, and all who wait
or come with a frame are told that the transport is closed; what is received still comes from
underneath, unless the outbox is closed too. -/
theorem closed_for_good (hserved : Served n₀ t o₀) (htactful : ∀ m ∈ ms ++ ms', Tactful t m)
    (hrun : n₀.run ms = some n) (hlater : n.run ms' = some n') :
    (∀ id ∈ (history n₀ ms).filterMap (shuts? t), HasEnded n t id → Defunct n' t) ∧
    ((∃ p ∈ history n₀ ms, givesUp t p = true) → Refuses n' t ∧
      ∀ o, n'.outbox? t = some o → o.closed = false →
        ∀ id, n'.act id (.receive t) = some (n', .go (.fetch t))) := by
  obtain ⟨htactful, htactful'⟩ := List.forall_mem_append.mp htactful
  obtain ⟨o, hafter, hleft⟩ := left_of_run hserved htactful hrun
  constructor
  · rintro id hid ⟨hhangUp, hjoin⟩
    have hclosing := hleft.closing id hid
    have hstopped := hclosing.joins.resolve_left hjoin
    obtain ⟨tr, hget, hended⟩ := hclosing.ends.resolve_left hhangUp
    obtain ⟨o', hserved', hstopped', hshut, hstays⟩ :=
      hafter.after htactful' hlater hstopped
    obtain ⟨tr', hget', hended'⟩ := hstays tr hget hended
    exact hserved'.defunct hstopped' (hshut hclosing.closed) hget' hended'
  · intro hgives
    obtain ⟨o', hserved', hstopped', -, -⟩ :=
      hafter.after htactful' hlater (hleft.stopped hgives)
    exact ⟨hserved'.refuses hstopped', fun o ho hopened id => receive_passes ho hopened id⟩

/-- A frame to send. -/
def token : Frame := ⟨1, [4, 2, 1], by decide⟩

/-- What holds up the first send. -/
def gated : Scripted := { sends := [.gate], receives := [], canRecover := true }

/-- What fails with the first send, and does not recover. -/
def broken : Scripted := { sends := [.fail .noConnection], receives := [], canRecover := false }

/-- A node with an outbox for one frame and the script for what is underneath. -/
def siphon (script : Scripted) : Node :=
  (({} : Node).addTransport (.scripted script) (some (.make 1 5))).2

/-- A task comes with a frame; `count` says how far it gets. -/
def offers (id : TaskId) (count : Nat) : List Move :=
  .outside (.begin (.send 0 token) none) :: List.replicate count (.step id)

/-- The first frame is held up underneath, the second is in the queue and the third waits for a
place when the transport is terminated. -/
def lastCall : List Move :=
  offers 2 3 ++ List.replicate 3 (.step 1) ++ offers 3 3 ++ offers 4 1 ++
    [.outside (.begin (.terminate 0) none), .step 5, .step 5, .step 5, .step 1, .step 5, .step 5]

/-- The first frame fails for good with the second in the queue and the third waiting. -/
def breakdown : List Move :=
  offers 2 3 ++ List.replicate 3 (.step 1) ++ offers 3 3 ++ offers 4 1 ++ [.step 1]

/-- One more task comes with a frame. -/
def lateOffer : List Move := [.outside (.begin (.send 0 token) none)]

def isTactful : Move → Bool
  | .outside (.begin x _) => !x.behind.contains 0
  | _ => true

theorem tactful_of_isTactful (h : isTactful m = true) : Tactful 0 m := by
  rintro x label rfl
  simpa [isTactful] using h

theorem served_siphon (script : Scripted) : Served (siphon script) 0 (.make 1 5) := by
  have hn : Numbered ({} : Node) :=
    ⟨fun _ _ => rfl, fun _ _ => rfl, fun _ _ => rfl, List.nodup_nil⟩
  exact served_addTransport hn (fun _ _ found => by cases found) (fun _ _ found => by cases found)
    (.scripted script) 1 5

/-- Whether an action waits for a place. -/
def isWaiting : Option Action → Bool
  | some (.offered 0) => true
  | _ => false

theorem eq_of_isWaiting {action : Option Action} (h : isWaiting action = true) :
    action = some (.offered 0) := by
  unfold isWaiting at h
  split at h
  · rfl
  · cases h

/-- Whoever still waits is turned away, after the transport was terminated and after it broke
down. -/
theorem closed_for_good_waiting :
    (∃ n n' after, (siphon gated).run lastCall = some n ∧
      n.run lateOffer = some n' ∧
      n'.act 4 (.offered 0) = some (after, .reply (.sent (.error .closed))) ∧
      n'.act 6 (.send 0 token) = some (n', .reply (.sent (.error .closed)))) ∧
    ∃ n after, (siphon broken).run breakdown = some n ∧
      n.act 4 (.offered 0) = some (after, .reply (.sent (.error .closed))) ∧
      n.act 5 (.receive 0) = some (n, .go (.fetch 0)) := by
  constructor
  · have htactful : (lastCall ++ lateOffer).all isTactful = true := by decide +kernel
    have hends : ((siphon gated).run lastCall).map (fun n => ((n.tasks.get? 5).isNone,
        (n.run lateOffer).map fun n => isWaiting (n.actionOf? 4))) = some (true, some true) := by
      decide +kernel
    have hshuts : ((history (siphon gated) lastCall).filterMap (shuts? 0)) = [5] := by
      decide +kernel
    obtain ⟨n, hrun, hover⟩ := Option.map_eq_some_iff.mp hends
    simp only [Prod.mk.injEq, Option.isNone_iff_eq_none, Option.map_eq_some_iff] at hover
    obtain ⟨hgone, n', hlater, hwaits⟩ := hover
    obtain ⟨hcloses, -⟩ := closed_for_good (served_siphon gated)
      (fun m hm => tactful_of_isTactful (List.all_eq_true.mp htactful m hm)) hrun hlater
    have hdefunct := hcloses 5 (by simp [hshuts]) (by simp [HasEnded, planOf_of_gone hgone])
    obtain ⟨after, hact⟩ := hdefunct.parked 4 (eq_of_isWaiting hwaits)
    exact ⟨n, n', after, hrun, hlater, hact, hdefunct.refused 6 token⟩
  · have htactful : (breakdown ++ []).all isTactful = true := by decide +kernel
    have hends : ((siphon broken).run breakdown).map (fun n => (isWaiting (n.actionOf? 4),
        (n.outbox? 0).map (·.closed))) = some (true, some false) := by
      decide +kernel
    have hgives : (history (siphon broken) breakdown).any (givesUp 0) = true := by
      decide +kernel
    obtain ⟨n, hrun, hover⟩ := Option.map_eq_some_iff.mp hends
    simp only [Prod.mk.injEq, Option.map_eq_some_iff] at hover
    obtain ⟨hwaits, o, ho, hopened⟩ := hover
    have hlater : n.run [] = some n := rfl
    obtain ⟨-, hstops⟩ := closed_for_good (served_siphon broken)
      (fun m hm => tactful_of_isTactful (List.all_eq_true.mp htactful m hm)) hrun hlater
    obtain ⟨hrefuses, hpasses⟩ := hstops (List.any_eq_true.mp hgives)
    obtain ⟨after, hact⟩ := hrefuses.parked 4 (eq_of_isWaiting hwaits)
    exact ⟨n, after, hrun, hact, hpasses o ho hopened 5⟩

end Node

end TelemetryRelay
