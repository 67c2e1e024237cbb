import TelemetryRelay.Proofs.Node.Dues

/-!
# What a loop sends

A loop sends only what it owes to the listeners of the messages that it publishes.
Along any run of a node whose bridges share a table, what its task has sent and what
is still due make up what the publishes so far called for, in this order.
-/

namespace TelemetryRelay

open Wire

namespace Node

/-- What a task sends with this move, and over which transport. -/
def sends? (id : TaskId) : Node × Move → Option (TransportId × Frame)
  | (n, .step i) => if i = id then (n.actionOf? id).bind Action.sent? else none
  | (_, .outside _) => none

/-- What has to be sent because of what a loop publishes with this move. -/
def callsFor (loop : Loop) (x : Node × Move) : List (TransportId × Frame) :=
  match publishes? loop.id x with
  | some (sender, some message) => x.1.dueTo message (x.1.bus.recipients sender message.family)
  | _ => []

variable {n n' n₀ : Node} {id : TaskId} {a : Action} {next : Transition} {m : Move}
  {ms : List Move} {task base : Task} {last : Topic} {frames : List Then} {activity : Activity}
  {loop : Loop} {s s' : Station} {table : MappingTable} {cs : List (Bus.Change Listener)}

theorem sends?_of_other (hother : m ≠ .step id) : sends? id (n, m) = none := by
  cases m with
  | outside o => rfl
  | step i =>
      have hne : i ≠ id := fun h => hother (by rw [h])
      simp [sends?, hne]

theorem sends?_of_bare (found : n.tasks.get? id = some task) (bare : task.outbox = none) :
    sends? id (n, .step id) = task.activity.action?.bind Action.sent? := by
  simp only [sends?, if_true, actionOf?_of_bare found bare]

theorem callsFor_of_other (hother : m ≠ .step loop.id) : callsFor loop (n, m) = [] := by
  simp only [callsFor, publishes?, does?_of_other hother]

theorem Stands.callsFor (h : Stands n loop s) (hs : s.message? = none) :
    Node.callsFor loop (n, .step loop.id) = [] := by
  simp only [Node.callsFor, h.publishes?, hs, Option.map_none]

/-! ## One step of a delivery -/

theorem dues_of_advance (tame : n.TameTask task) (hnext : n.TameNext next) (hn : Numbered n)
    (hmove : n.move m = some n') (found : n'.tasks.get? id = some (task.advance next)) :
    n'.dues id = n.dueNext next ++ task.pending.flatMap n.dueAfter ∧ n'.IsTame id := by
  obtain ⟨htame, hdue⟩ := (tame.advance hnext).move hn hmove
  refine ⟨?_, ?_⟩
  · rw [dues_of_found found, hdue, dueFrom_advance]
  · intro task' found'
    cases found.symm.trans found'
    exact htame

/-- What a task sends with one step is what it has less to send afterwards. -/
theorem Speaking.dues (h : Speaking n id base last frames activity) (bare : base.outbox = none)
    (tame : n.IsTame id) (hshared : Shared table n) (hstep : n.step id = some n')
    (inside : frames = [] → ∃ a, activity = .acting a) :
    (sends? id (n, .step id)).toList ++ n'.dues id = n.dues id ∧ n'.IsTame id := by
  have hn := hshared.numbered
  have htame := tame _ h.found
  have hmove : n.move (.step id) = some n' := hstep
  obtain ⟨topic, hspeaks, hchain⟩ := h.chain
  rw [sends?_of_bare h.found bare, dues_of_found h.found]
  cases activity with
  | acting a =>
      obtain ⟨after, next, hact, rfl⟩ := of_step_acting h.found bare rfl hstep
      have hacting := htame.acting a rfl
      have hpasses := passes_of_act hspeaks hact hacting hshared.quiet
      obtain ⟨hdues, htame'⟩ :=
        dues_of_advance htame (hpasses.tame hacting) hn hmove (found_setTask ..)
      refine ⟨?_, htame'⟩
      rw [hdues, ← List.append_assoc]
      show a.sent?.toList ++ n.dueNext next ++ _ = n.dueAt a ++ _
      rw [hpasses.due]
  | replying r =>
      cases hchain with
      | nil =>
          obtain ⟨a, ha⟩ := inside rfl
          cases ha
      | @cons k _ _ _ rest turns chain =>
          cases hspeaks with
          | replying about =>
              obtain ⟨after, next, hres, rfl⟩ := of_step_replying h.found bare rfl rfl hstep
              obtain ⟨hdue, hnext⟩ := due_of_resume about turns (htame.pending k (.head _)) hres
              have hrest : n.TameTask { base with
                  activity := .replying r, pending := rest ++ base.pending } := by
                refine ⟨?_, fun k hk => htame.pending k (.tail _ hk)⟩
                rintro a ⟨⟩
              obtain ⟨hdues, htame'⟩ := dues_of_advance hrest hnext hn hmove (found_setTask ..)
              refine ⟨?_, htame'⟩
              rw [hdues, hdue]
              show _ = [] ++ (k :: (rest ++ base.pending)).flatMap n.dueAfter
              rw [List.flatMap_cons]
              rfl

/-! ## One step of a loop -/

/-- Outside a delivery a loop has nothing to send, and sends nothing. -/
theorem Stands.dues (h : Stands n loop s) (hs : s ≠ .spreading) :
    n.dues loop.id = [] ∧ Node.sends? loop.id (n, .step loop.id) = none := by
  cases h with
  | spreading => exact absurd rfl hs
  | gone found => simp [Node.dues, found, Node.sends?, actionOf?]
  | within is found =>
      rw [sends?_of_bare found (Loop.bare_of_task? is), dues_of_found found]
      cases s <;> cases is <;> exact ⟨rfl, rfl⟩

/-- A publish begins with everything that it calls for still due. -/
theorem publish_dues {message : Message} (hhub : Hub table cs n)
    (found : n.tasks.get? loop.id = some (loop.task
      (.acting (.publish (some loop.bridge.id) (some message))) [.next (.listen loop.b)]))
    (hstep : n.step loop.id = some n') :
    n'.dues loop.id = n.dueTo message (n.bus.recipients (some loop.bridge.id) message.family) ∧
      n'.IsTame loop.id := by
  obtain ⟨after, next, hact, rfl⟩ := of_step_acting found rfl rfl hstep
  obtain ⟨rfl, rfl⟩ := Prod.mk.inj (Option.some.inj hact)
  have hknows : n.KnowsAll (n.bus.recipients (some loop.bridge.id) message.family) := by
    intro s hs b hb
    have hlistener : s.listener = .bridge b := by
      cases hl : s.listener <;> rw [hl] at hb <;> cases hb
      rfl
    exact (hhub.of_bridge (List.mem_filter.mp hs).1 hlistener).2
  refine ⟨?_, ?_⟩
  · rw [dues_of_found (found_setTask ..)]
    show n.dueTo message _ ++ [] = _
    rw [List.append_nil]
  · intro task' found'
    cases (found_setTask ..).symm.trans found'
    refine ⟨?_, ?_⟩
    · rintro a ⟨⟩
      exact hknows
    · intro k hk
      obtain rfl := List.mem_singleton.mp hk
      exact trivial

/-- A delivery goes on, or comes back to the loop. -/
theorem spread_dues (h : Speaking n loop.id loop.publisher .published frames activity)
    (tame : n.IsTame loop.id) (hshared : Shared table n) (hstep : n.step loop.id = some n') :
    (sends? loop.id (n, .step loop.id)).toList ++ n'.dues loop.id = n.dues loop.id ∧
      n'.IsTame loop.id := by
  by_cases hinside : frames = [] → ∃ a, activity = .acting a
  · exact h.dues rfl tame hshared hstep hinside
  · obtain ⟨rfl, hreplying⟩ := Classical.not_imp.mp hinside
    cases activity with
    | acting a => exact absurd ⟨a, rfl⟩ hreplying
    | replying r =>
        rw [sends?_of_bare h.found rfl, dues_of_found h.found]
        obtain ⟨after, next, hres, rfl⟩ := of_step_replying h.found rfl rfl rfl hstep
        cases hres
        refine ⟨?_, ?_⟩
        · rw [dues_of_found (found_setTask ..)]
          rfl
        · intro task' found'
          cases (found_setTask ..).symm.trans found'
          refine ⟨?_, fun k hk => absurd hk List.not_mem_nil⟩
          rintro a ⟨⟩
          exact trivial

/-! ## Runs of a loop -/

/-- Where a loop stands after a run of a node whose bridges share a table. -/
structure Relayed (table : MappingTable) (cs : List (Bus.Change Listener)) (n₀ : Node) (loop : Loop)
    (ms : List Move) (n : Node) (s : Station) : Prop extends Logged n₀ loop ms n s where
  hub : Hub table (cs ++ (history n₀ ms).flatMap changes) n
  tame : s = .spreading → n.IsTame loop.id
  sent : (history n₀ ms).filterMap (sends? loop.id) ++ n.dues loop.id =
    (history n₀ ms).flatMap (callsFor loop)

theorem Relayed.beside (h : Relayed table cs n₀ loop ms n s) (hrun : n₀.run ms = some n)
    (hmove : n.move m = some n') (hother : m ≠ .step loop.id) :
    Relayed table cs n₀ loop (ms ++ [m]) n' s := by
  have hlogged := h.toLogged.beside hrun hmove hother
  have hkept : n'.dues loop.id = n.dues loop.id ∧ (s = .spreading → n'.IsTame loop.id) := by
    by_cases hs : s = .spreading
    · cases h.intake.stands with
      | within is =>
          rw [hs] at is
          cases is
      | gone => cases hs
      | spreading speaking =>
          have htask := task_of_move h.numbered hmove h.intake.known hother
          rw [speaking.found] at htask
          obtain ⟨htame, hdue⟩ := (h.tame rfl _ speaking.found).move h.numbered hmove
          refine ⟨by rw [dues_of_found htask, dues_of_found speaking.found, hdue], ?_⟩
          intro _ task' found'
          cases htask.symm.trans found'
          exact htame
    · rw [(h.intake.stands.dues hs).1, (hlogged.intake.stands.dues hs).1]
      exact ⟨rfl, fun hs' => absurd hs' hs⟩
  refine ⟨hlogged, h.hub.snoc hrun hmove, hkept.2, ?_⟩
  rw [filterMap_history_snoc _ hrun, history_snoc hrun, List.flatMap_append, sends?_of_other hother,
    hkept.1]
  simpa [callsFor_of_other hother] using h.sent

theorem Relayed.step (h : Relayed table cs n₀ loop ms n s) (hrun : n₀.run ms = some n)
    (hstep : n.step loop.id = some n') :
    ∃ s', Relayed table cs n₀ loop (ms ++ [.step loop.id]) n' s' ∧ Turn n loop s s' := by
  have hstands := h.intake.stands
  have hpublishes := hstands.publishes?
  have hmove : n.move (.step loop.id) = some n' := hstep
  obtain ⟨s', hlogged, hturn⟩ := h.toLogged.step hrun hstep
  -- A step takes off what it sends, and the first step of a publish adds what that calls for.
  suffices hnow : (sends? loop.id (n, .step loop.id)).toList ++ n'.dues loop.id =
      n.dues loop.id ++ callsFor loop (n, .step loop.id) ∧ (s' = .spreading → n'.IsTame loop.id) by
    refine ⟨s', ⟨hlogged, h.hub.snoc hrun hmove, hnow.2, ?_⟩, hturn⟩
    rw [filterMap_history_snoc _ hrun, history_snoc hrun, List.flatMap_append, List.append_assoc,
      hnow.1, ← List.append_assoc, h.sent]
    simp
  by_cases hs : s = .spreading
  · subst hs
    cases hstands with
    | within is => cases is
    | spreading speaking on =>
        obtain ⟨hdues, htame⟩ := spread_dues speaking (h.tame rfl) h.hub.shared hstep
        rw [Stands.callsFor (.spreading speaking on) rfl, List.append_nil]
        exact ⟨hdues, fun _ => htame⟩
  · obtain ⟨hdues, hsends⟩ := hstands.dues hs
    rw [hdues, hsends]
    by_cases hs' : s' = .spreading
    · subst hs'
      cases hturn with
      | spreads => exact absurd rfl hs
      | @publishes message =>
          cases hstands with
          | within is found =>
              cases is
              obtain ⟨hdues', htame'⟩ := publish_dues h.hub found hstep
              refine ⟨?_, fun _ => htame'⟩
              rw [hdues', callsFor, hpublishes]
              rfl
    · have hmessage : s.message? = none := by
        cases hturn with
        | publishes => exact absurd rfl hs'
        | _ => rfl
      rw [(hlogged.intake.stands.dues hs').1, hstands.callsFor hmessage]
      exact ⟨rfl, fun h => absurd h hs'⟩

theorem Relayed.begin (hhub : Hub table cs n)
    (found : n.tasks.get? loop.id = some (loop.task (.acting (.listen loop.b)) []))
    (bridge : n.bridges.get? loop.b = some loop.bridge) :
    Relayed table cs n loop [] n .listening := by
  have hlogged := Logged.begin hhub.shared.numbered found bridge
  refine ⟨hlogged, ?_, by simp, ?_⟩
  · simpa [history, Machine.history] using hhub
  · rw [(hlogged.intake.stands.dues (by simp)).1]
    rfl

/-- **Along every run what a loop has sent and what it still has to send is what its
publishes have called for.** -/
theorem relayed_of_run (hbegin : Relayed table cs n₀ loop [] n₀ s) (hrun : n₀.run ms = some n) :
    ∃ s, Relayed table cs n₀ loop ms n s := by
  refine run_induction (P := fun ms n => ∃ s, Relayed table cs n₀ loop ms n s)
    ⟨s, hbegin⟩ ?_ hrun
  intro ms m n n' hrun ⟨s, h⟩ hmove
  by_cases hown : m = .step loop.id
  · subst hown
    obtain ⟨s', h', -⟩ := h.step hrun hmove
    exact ⟨s', h'⟩
  · exact ⟨s, h.beside hrun hmove hown⟩

end Node

end TelemetryRelay
