import TelemetryRelay.Proofs.Node.Acceptors
import TelemetryRelay.Proofs.Node.Plans

/-!
# How plans go on

A task goes on with its plan: what it has done leaves the plan, and the rest stays in order.
New tasks come with what is begun from outside, with acceptors that are started, and with
peers that are attached: one watches each peer, which waits for its loop, stops its bridge
and has it forgotten.  So what must come before an action in a plan comes before it until
the action is done.
-/

namespace TelemetryRelay

namespace Node

/-- What the task that watches a peer has to do. -/
def watch (a : AcceptorId) (loop : Loop) : List Action :=
  [.await loop.id, .stop loop.b, .forget a loop.b]

/-- The tasks that begin with a move. -/
inductive Spawns (n : Node) : Move → Task → Prop
  | quiet {m : Move} {task : Task} (quiet : Quiet task.plan) : Spawns n m task
  | accepts {m : Move} {a : AcceptorId} : Spawns n m { activity := .acting (.accept a) }
  | watches {id : TaskId} {a : AcceptorId} {loop : Loop}
      (attached : attached? a (n, .step id) = some loop) :
      Spawns n (.step id) { activity := .acting (.all (watch a loop)) }
  | begins {x : Action} {label : Option String} :
      Spawns n (.outside (.begin x label)) { activity := .acting x, label }

/-- The tasks that begin with a move, each as it begins. -/
inductive Newborn (n : Node) : Move → Task → Prop
  | listens {m : Move} {b : BridgeId} {label : Option String} :
      Newborn n m { activity := .acting (.listen b), label }
  | leaves {m : Move} {b : BridgeId} {label : Option String} :
      Newborn n m { activity := .acting (.leave b), label }
  | sends {m : Move} : Newborn n m { activity := .acting (.drain n.fresh), outbox := some n.fresh }
  | accepts {m : Move} {a : AcceptorId} {acceptor : Acceptor}
      (found : n.acceptors.get? a = some acceptor) :
      Newborn n m { activity := .acting (.accept a) }
  | watches {id : TaskId} {a : AcceptorId} {loop : Loop}
      (attached : attached? a (n, .step id) = some loop) :
      Newborn n (.step id) { activity := .acting (.all (watch a loop)) }
  | begins {x : Action} {label : Option String} :
      Newborn n (.outside (.begin x label)) { activity := .acting x, label }

/-- What a task was before a move. -/
inductive Descends (n : Node) (m : Move) (id : TaskId) : Task → Prop
  | same {task : Task} (found : n.tasks.get? id = some task) : Descends n m id task
  | acts {task : Task} {x : Action} {after : Node} {next : Transition} (own : m = .step id)
      (found : n.tasks.get? id = some task) (acting : task.activity = .acting x)
      (action : n.actionOf? id = some x) (acts : n.act id x = some (after, next)) :
      Descends n m id (task.advance next)
  | resumes {task : Task} {reply : Reply} {k : Then} {pending : List Then} {after : Node}
      {next : Transition} (own : m = .step id) (found : n.tasks.get? id = some task)
      (replying : task.activity = .replying reply) (waits : task.pending = k :: pending)
      (resumes : n.resume k reply = (after, next)) :
      Descends n m id ({ task with pending }.advance next)
  | new {task : Task} (unknown : n.fresh ≤ id) (spawns : Spawns n m task) : Descends n m id task

/-- Wherever the action stands in a plan, what is before it has the property. -/
def Before (y : Action) (P : List Action → Prop) (plan : List Action) : Prop :=
  ∀ pre post, plan = pre ++ y :: post → P pre

variable {n n' : Node} {id : TaskId} {a : AcceptorId} {b : BridgeId} {x y : Action}
  {next : Transition} {m : Move} {acceptor : Acceptor} {task : Task}

/-! ## Where tasks come from -/

/-- Only who accepts begins tasks. -/
theorem act_tasks (h : n.act id x = some (n', next)) (hx : ∀ a, x ≠ .accept a) :
    n'.tasks = n.tasks := by
  have heffect := act_effect h
  generalize n.changesOf x = cs at heffect
  cases heffect with
  | carries hcarries => exact congrArg Front.tasks hcarries.front
  | hands | behaves => rfl
  | silences _ found =>
      rw [silence_of_found found]
      rfl
  | attaches => exact absurd rfl (hx _)

/-- An action begins no tasks, but for those of a peer that it attaches. -/
theorem act_newborn (acts : n.actionOf? id = some x) (h : n.act id x = some (n', next))
    {other : TaskId} (unknown : n.tasks.get? other = none)
    (found : n'.tasks.get? other = some task) : Newborn n (.step id) task := by
  have hsame : n'.tasks = n.tasks → Newborn n (.step id) task := by
    intro hsame
    rw [hsame, unknown] at found
    cases found
  by_cases hx : ∃ a, x = .accept a
  · obtain ⟨a, rfl⟩ := hx
    obtain ⟨acceptor, hacceptor, -⟩ := Option.bind_eq_some_iff.mp h
    rcases accepts_of_accept hacceptor h with - | - | ⟨hopened, hbacklog, hroom⟩
    · refine hsame ?_
      obtain ⟨connections, heq⟩ := closeSocket_eq n a acceptor
      rw [heq]
    · exact hsame rfl
    · rename_i c rest
      obtain ⟨bridges, -, heq⟩ := attach_eq n a { acceptor with backlog := rest } c hroom
      simp only [heq, Assoc.get?_set] at found
      split at found
      · obtain rfl := Option.some.inj found
        exact .watches (attached?_eq_some acts hacceptor hopened hbacklog hroom)
      · split at found
        · obtain rfl := Option.some.inj found
          exact .listens
        · split at found
          · obtain rfl := Option.some.inj found
            exact .sends
          · cases unknown.symm.trans found
  · exact hsame (act_tasks h fun a ha => hx ⟨a, ha⟩)

theorem newborn_of_spawn {act : Action} {label : Option String} {other : TaskId}
    (unknown : n.tasks.get? other = none)
    (found : (n.spawn act label).2.tasks.get? other = some task) :
    task = { activity := .acting act, label } := by
  rcases task_of_spawn found with found | ⟨-, rfl⟩
  · cases unknown.symm.trans found
  · rfl

theorem Occurs.newborn {o : Occurrence} (h : Occurs n o n') {other : TaskId}
    (unknown : n.tasks.get? other = none) (found : n'.tasks.get? other = some task) :
    Newborn n (.outside o) task := by
  have hsame (hsame : n'.tasks = n.tasks) : Newborn n (.outside o) task := by
    rw [hsame, unknown] at found
    cases found
  cases h with
  | delivers => exact hsame (congrArg Front.tasks (keeps_deposit ..).front)
  | subscribes => exact hsame (by rw [subscribe_eq]; rfl)
  | unsubscribes => exact hsame (by rw [unsubscribe_eq]; rfl)
  | begins =>
      obtain rfl := newborn_of_spawn unknown found
      exact .begins
  | startsNothing =>
      obtain rfl := newborn_of_spawn unknown found
      exact .leaves
  | starts =>
      obtain rfl := newborn_of_spawn unknown found
      exact .listens
  | @accepts a acceptor hacceptor =>
      have found : (n.spawn (.accept a)).2.tasks.get? other = some task := found
      obtain rfl := newborn_of_spawn unknown found
      exact .accepts hacceptor
  | _ => exact hsame rfl

/-- What a task is after its own step. -/
theorem descends_of_step {id : TaskId} (h : n.step id = some n')
    (found : n'.tasks.get? id = some task) : Descends n (.step id) id task := by
  cases Step.of_step h with
  | halt => simp [endTask] at found
  | act hfound goesOn acting acts =>
      obtain rfl := Option.some.inj ((found_setTask ..).symm.trans found)
      exact .acts rfl hfound acting (actionOf?_of_acting hfound goesOn acting) acts
  | @finish before reply =>
      obtain ⟨reports, heq⟩ := finish_eq n id before.label reply
      simp [heq] at found
  | resume hfound _ replying waits resumes =>
      obtain rfl := Option.some.inj ((found_setTask ..).symm.trans found)
      exact .resumes rfl hfound replying waits resumes

/-- Tasks begin with what somebody does or what happens outside, and with nothing else. -/
theorem newborn_of_move (hmove : n.move m = some n') (unknown : n.tasks.get? id = none)
    (found : n'.tasks.get? id = some task) : Newborn n m task := by
  cases m with
  | outside o =>
      cases hmove
      exact (Occurs.of_occur n o).newborn unknown found
  | step own =>
      -- The task that makes the move was there before it.
      have hne {before : Task} (hfound : n.tasks.get? own = some before) : id ≠ own := by
        rintro rfl
        cases unknown.symm.trans hfound
      cases Step.of_step hmove with
      | halt _ _ halts =>
          have htasks := congrArg Front.tasks (Halts.of_haltSender halts).carries.front
          simp only [endTask, Assoc.get?_erase] at found
          split at found
          · cases found
          · cases unknown.symm.trans ((congrArg (Assoc.get? · id) htasks).symm.trans found)
      | act hfound goesOn acting acts =>
          simp only [setTask, Assoc.get?_set_of_ne (hne hfound)] at found
          exact act_newborn (actionOf?_of_acting hfound goesOn acting) acts unknown found
      | @finish before reply =>
          obtain ⟨reports, heq⟩ := finish_eq n own before.label reply
          simp only [heq, Assoc.get?_erase] at found
          split at found
          · cases found
          · cases unknown.symm.trans found
      | resume hfound _ _ _ resumes =>
          have htasks := congrArg Front.tasks (resume_keeps resumes).front
          simp only [setTask, Assoc.get?_set_of_ne (hne hfound)] at found
          cases unknown.symm.trans ((congrArg (Assoc.get? · id) htasks).symm.trans found)

theorem Newborn.spawns (h : Newborn n m task) : Spawns n m task := by
  cases h with
  | listens | leaves | sends => exact .quiet (quiet_singleton rfl)
  | accepts => exact .accepts
  | watches attached => exact .watches attached
  | begins => exact .begins

/-- **Every task comes from one that was there, or begins with the move.** -/
theorem descends_of_move (hn : Numbered n) (hmove : n.move m = some n')
    (found : n'.tasks.get? id = some task) : Descends n m id task := by
  by_cases hid : id < n.fresh
  · by_cases hown : m = .step id
    · subst hown
      exact descends_of_step hmove found
    · exact .same ((task_of_move hn hmove hid hown).symm.trans found)
  · -- Nobody has drawn the number before, so the task has begun with this move.
    have hunknown := hn.tasks id (Nat.le_of_not_lt hid)
    exact .new (Nat.le_of_not_lt hid) (newborn_of_move hmove hunknown found).spawns

/-- A task keeps its outbox, or has none for good. -/
theorem outbox_of_descends (hn : Numbered n) (h : Descends n m id task) {before : Task}
    (found : n.tasks.get? id = some before) : task.outbox = before.outbox := by
  cases h with
  | same found' => rw [Option.some.inj (found.symm.trans found')]
  | acts own found' | resumes own found' =>
      rw [Task.outbox_advance, Option.some.inj (found.symm.trans found')]
  | new unknown => exact absurd (hn.lt_of_task found) (Nat.not_lt_of_le unknown)

/-! ## What plans hold -/

theorem plan_of_acting (acting : task.activity = .acting x) :
    task.plan = x.plan ++ task.pending.flatMap Then.plan := by
  simp [Task.plan, acting, Activity.plan]

/-- A task about an acceptor that begins with a move accepts for it, watches one of its peers,
or was begun from outside. -/
theorem Spawns.about (h : Spawns n m task) (hy : y ∈ task.plan) (about : y.acceptor? = some a) :
    task.outbox = none ∧ (y = .accept a ∨
      (∃ loop, attached? a (n, m) = some loop ∧ task.plan = watch a loop ∧ y = .forget a loop.b) ∨
      ∃ x label, m = .outside (.begin x label) ∧ y ∈ x.plan) := by
  cases h with
  | quiet quiet => cases (quiet y hy).symm.trans about
  | accepts =>
      obtain rfl : y = .accept _ := by simpa [Task.plan, Activity.plan, Action.plan] using hy
      obtain rfl := Option.some.inj about
      exact ⟨rfl, .inl rfl⟩
  | @watches id a' loop attached =>
      have hy : y ∈ watch a' loop := hy
      simp only [watch, List.mem_cons, List.not_mem_nil, or_false] at hy
      rcases hy with rfl | rfl | rfl
      · cases about
      · cases about
      · obtain rfl := Option.some.inj about
        exact ⟨rfl, .inr (.inl ⟨loop, attached, rfl, rfl⟩)⟩
  | @begins x label =>
      have hplan : Task.plan { activity := .acting x, label } = x.plan := List.append_nil _
      exact ⟨rfl, .inr (.inr ⟨x, label, rfl, hplan ▸ hy⟩)⟩

/-- What is planned about an acceptor was planned before, or closing it has led to it. -/
theorem Unfolds.mem {ys : List Action} (h : Unfolds n x ys) (hy : y ∈ ys)
    (about : y.acceptor? = some a) : y ∈ x.plan ∨
      x.plan = [x] ∧ x.acceptor? = some a ∧ (x = .close a ∧ y = .dismiss a ∧
        (∃ acceptor, n.acceptors.get? a = some acceptor ∧ acceptor.closed = false) ∨
        x = .dismiss a ∧ y = .clear a) := by
  cases h with
  | goesOn => exact .inl hy
  | quiet single quiet => cases (quiet y hy).symm.trans about
  | @closes a' acceptor first is found opened quiet =>
      rcases List.mem_append.mp hy with hy | hy
      · cases (quiet y hy).symm.trans about
      · obtain rfl := List.mem_singleton.mp hy
        obtain rfl := Option.some.inj about
        subst is
        exact .inr ⟨rfl, rfl, .inl ⟨rfl, rfl, acceptor, found, opened⟩⟩
  | @dismisses a' acceptor is found =>
      rcases List.mem_append.mp hy with hy | hy
      · obtain ⟨b, -, rfl⟩ := List.mem_map.mp hy
        cases about
      · obtain rfl := List.mem_singleton.mp hy
        obtain rfl := Option.some.inj about
        subst is
        exact .inr ⟨rfl, rfl, .inr ⟨rfl, rfl⟩⟩

/-- Where the plan of a task comes from: its last plan, or the move. -/
theorem mem_plan_of_descends (h : Descends n m id task) (hy : y ∈ task.plan)
    (about : y.acceptor? = some a) :
    (∃ before, n.tasks.get? id = some before ∧ before.outbox = task.outbox ∧
      (y ∈ before.plan ∨ ∃ x ∈ before.plan, x.acceptor? = some a ∧
        (y = .dismiss a ∧ closes? a (n, m) = some id ∨ x = .dismiss a ∧ y = .clear a))) ∨
    n.fresh ≤ id ∧ Spawns n m task := by
  cases h with
  | same found => exact .inl ⟨task, found, rfl, .inl hy⟩
  | new unknown spawns => exact .inr ⟨unknown, spawns⟩
  | @acts task x after next own found acting action acts =>
      refine .inl ⟨task, found, (Task.outbox_advance ..).symm, ?_⟩
      rw [Task.plan_advance] at hy
      rw [plan_of_acting acting]
      rcases List.mem_append.mp hy with hy | hy
      · rcases (act_unfolds acts).mem hy about with hy | ⟨hsingle, habout, hstep⟩
        · exact .inl (List.mem_append_left _ hy)
        · refine .inr ⟨x, by simp [hsingle], habout, ?_⟩
          rcases hstep with ⟨rfl, rfl, acceptor, hacceptor, hopened⟩ | hdismiss
          · subst own
            exact .inl ⟨rfl, by simp [closes?, action, hacceptor, hopened]⟩
          · exact .inr hdismiss
      · exact .inl (List.mem_append_right _ hy)
  | @resumes task reply k pending after next own found replying waits resumes =>
      have houtbox := Task.outbox_advance { task with pending } next
      refine .inl ⟨task, found, houtbox.symm, .inl ?_⟩
      have hplan : task.plan = k.plan ++ pending.flatMap Then.plan := by
        simp [Task.plan, replying, Activity.plan, waits]
      rw [Task.plan_advance] at hy
      rw [hplan]
      rcases List.mem_append.mp hy with hy | hy
      · rcases resume_plan resumes with ⟨a, -, hsame⟩ | ⟨-, hquiet⟩
        · exact List.mem_append_left _ (hsame ▸ hy)
        · cases (hquiet y hy).symm.trans about
      · exact List.mem_append_right _ hy

theorem act_of_step (acts : n.actionOf? id = some x) (hstep : n.step id = some n') :
    ∃ after next, n.act id x = some (after, next) := by
  obtain ⟨task, found⟩ := found_of_actionOf? acts
  rw [step_of_actionOf? found acts] at hstep
  obtain ⟨⟨after, next⟩, hact, -⟩ := Option.map_eq_some_iff.mp hstep
  exact ⟨after, next, hact⟩

theorem step_after {after : Node} (acts : n.actionOf? id = some x)
    (hact : n.act id x = some (after, next)) (hstep : n.step id = some n') :
    ∃ task, n' = after.setTask id task := by
  obtain ⟨task, found⟩ := found_of_actionOf? acts
  rw [step_of_actionOf? found acts, hact] at hstep
  exact ⟨_, (Option.some.inj hstep).symm⟩

theorem planOf_of_actionOf? (acts : n.actionOf? id = some x) :
    ∃ rest, n.planOf id = x.plan ++ rest := by
  obtain ⟨task, found⟩ := found_of_actionOf? acts
  obtain ⟨acting, -⟩ := actionOf?_eq found acts
  exact ⟨_, (planOf_of_found found).trans (plan_of_acting acting)⟩

/-- What one step of an action puts in its place is planned. -/
theorem planned_of_step {after : Node} (acts : n.actionOf? id = some x)
    (hact : n.act id x = some (after, next)) (hstep : n.step id = some n') (hy : y ∈ next.plan) :
    y ∈ n'.planOf id := by
  obtain ⟨task, found⟩ := found_of_actionOf? acts
  rw [step_of_actionOf? found acts, hact] at hstep
  obtain rfl := Option.some.inj hstep
  rw [planOf_of_found (found_setTask ..), Task.plan_advance]
  exact List.mem_append_left _ hy

/-- What an action is a list of stays planned; only the action itself is done. -/
theorem Unfolds.stays {ys : List Action} (h : Unfolds n x ys) (hy : y ∈ x.plan) :
    y ∈ ys ∨ y = x := by
  have hsingle : x.plan = [x] → y = x := by
    intro hsingle
    rwa [hsingle, List.mem_singleton] at hy
  cases h with
  | goesOn => exact .inl hy
  | quiet single quiet => exact .inr (hsingle single)
  | closes is | dismisses is => exact .inr (hsingle (by rw [is]; rfl))

/-- What a bare task has planned stays planned until the task is at it. -/
theorem stays_planned (hn : Numbered n) (hmove : n.move m = some n')
    (found : n.tasks.get? id = some task) (bare : task.outbox = none) (hy : y ∈ task.plan) :
    y ∈ n'.planOf id ∨ m = .step id ∧ n.actionOf? id = some y := by
  by_cases hown : m = .step id
  · subst hown
    cases Step.of_step hmove with
    | halt hfound houtbox =>
        cases found.symm.trans hfound
        cases bare.symm.trans houtbox
    | @act _ x after next hfound hgoesOn hacting hacts =>
        cases found.symm.trans hfound
        rw [planOf_of_found (found_setTask ..), Task.plan_advance]
        rw [plan_of_acting hacting] at hy
        rcases List.mem_append.mp hy with hy | hy
        · rcases (act_unfolds hacts).stays hy with hy | rfl
          · exact .inl (List.mem_append_left _ hy)
          · exact .inr ⟨rfl, actionOf?_of_acting found hgoesOn hacting⟩
        · exact .inl (List.mem_append_right _ hy)
    | finish hfound _ hreplying hlast =>
        cases found.symm.trans hfound
        simp [Task.plan, hreplying, Activity.plan, hlast] at hy
    | @resume _ reply k pending after next hfound _ hreplying hwaits hresumes =>
        cases found.symm.trans hfound
        rw [planOf_of_found (found_setTask ..), Task.plan_advance]
        simp only [Task.plan, hreplying, Activity.plan, hwaits, List.nil_append,
          List.flatMap_cons] at hy
        rcases List.mem_append.mp hy with hy | hy
        · rcases resume_plan hresumes with ⟨a, -, hsame⟩ | ⟨hnil, -⟩
          · exact .inl (List.mem_append_left _ (hsame ▸ hy))
          · simp [hnil] at hy
        · exact .inl (List.mem_append_right _ hy)
  · left
    rw [planOf, task_of_move hn hmove (hn.lt_of_task found) hown, found]
    exact hy

/-! ## What comes before -/

section Order

variable {P Q : List Action → Prop} {plan rest ys : List Action}

theorem Before.imp (h : Before y P plan) (hPQ : ∀ pre, P pre → Q pre) : Before y Q plan :=
  fun pre post hsplit => hPQ pre (h pre post hsplit)

theorem before_of_not_mem (h : y ∉ plan) : Before y P plan :=
  fun _ _ hsplit => absurd (hsplit ▸ List.mem_append_right _ List.mem_cons_self) h

theorem before_append (h : Before y P ys) (h' : Before y (fun pre => P (ys ++ pre)) rest) :
    Before y P (ys ++ rest) := by
  intro pre post hsplit
  rcases List.append_eq_append_iff.mp hsplit with ⟨more, rfl, hrest⟩ | ⟨more, hys, hmore⟩
  · exact h' more post hrest
  · rcases more with _ | ⟨z, more⟩
    · rw [List.append_nil] at hys
      subst hys
      simpa using h' [] post (by simpa using hmore.symm)
    · obtain ⟨rfl, hmore⟩ := List.cons.inj hmore
      exact h pre more hys

theorem before_singleton (h : P []) : Before y P [y] := by
  intro pre post hsplit
  rcases pre with _ | ⟨z, pre⟩
  · exact h
  · simp at hsplit

theorem Before.tail (h : Before y P (ys ++ rest)) : Before y (fun pre => P (ys ++ pre)) rest :=
  fun pre post hsplit => h (ys ++ pre) post (by rw [hsplit, List.append_assoc])

/-- What is first in a plan has it now. -/
theorem Before.head (h : Before y P plan) (hplan : plan = y :: rest) : P [] := h [] rest hplan

/-- What must come before an action about an acceptor comes before it until it is done: it is
enough to look at what one action does that stands before it, at what is put in by dismissing,
and at the tasks that begin. -/
theorem Before.move (h : Before y P (n.planOf id)) (hn : Numbered n) (hmove : n.move m = some n')
    (about : y.acceptor? = some a) (other : y ≠ .dismiss a)
    (keeps : ∀ pre pre', (∀ z ∈ pre, z ∈ pre') → P pre → Q pre')
    (acts : ∀ x after next pre, m = .step id → n.actionOf? id = some x →
      n.act id x = some (after, next) → P (x :: pre) → Q (next.plan ++ pre))
    (dismisses : ∀ acceptor, n.acceptors.get? a = some acceptor → y = .clear a →
      .dismiss a ∈ n.planOf id → Q (acceptor.peers.map .stop))
    (begins : ∀ task, Spawns n m task → Before y Q task.plan) : Before y Q (n'.planOf id) := by
  cases hfound' : n'.tasks.get? id with
  | none =>
      rw [planOf_of_gone hfound']
      exact before_of_not_mem List.not_mem_nil
  | some task' =>
      rw [planOf_of_found hfound']
      cases descends_of_move hn hmove hfound' with
      | same found =>
          rw [planOf_of_found found] at h
          exact h.imp fun pre => keeps pre pre fun _ hz => hz
      | new unknown spawns => exact begins _ spawns
      | @acts task x after next own found acting action hact =>
          rw [planOf_of_found found, plan_of_acting acting] at h dismisses
          rw [Task.plan_advance]
          have hstep := fun pre => acts x after next pre own action hact
          have hunfolds := act_unfolds hact
          generalize next.plan = ys at hstep hunfolds
          cases hunfolds with
          | goesOn => exact h.imp fun pre => keeps pre pre fun _ hz => hz
          | quiet single quiet =>
              rw [single] at h
              refine before_append (before_of_not_mem fun hy => ?_) (h.tail.imp hstep)
              cases (quiet y hy).symm.trans about
          | @closes a' acceptor first is found' opened quiet =>
              subst is
              refine before_append (before_of_not_mem fun hy => ?_) (h.tail.imp hstep)
              rcases List.mem_append.mp hy with hy | hy
              · cases (quiet y hy).symm.trans about
              · obtain rfl := List.mem_singleton.mp hy
                obtain rfl := Option.some.inj about
                exact other rfl
          | @dismisses a' acceptor is found' =>
              subst is
              refine before_append ?_ (h.tail.imp hstep)
              have hstops : y ∉ acceptor.peers.map .stop := by
                intro hy
                obtain ⟨b, -, rfl⟩ := List.mem_map.mp hy
                cases about
              refine before_append (before_of_not_mem hstops) ?_
              -- To clear the list is the one action that a step can put in here.
              by_cases hy : y = .clear a'
              · subst hy
                obtain rfl := Option.some.inj about
                refine before_singleton ?_
                rw [List.append_nil]
                exact dismisses acceptor found' rfl (List.mem_append_left _ (.head _))
              · exact before_of_not_mem (by simpa using hy)
      | @resumes task reply k pending after next own found replying waits resumes =>
          have hplan : task.plan = k.plan ++ pending.flatMap Then.plan := by
            simp [Task.plan, replying, Activity.plan, waits]
          rw [planOf_of_found found, hplan] at h
          rw [Task.plan_advance]
          rcases resume_plan resumes with ⟨b, -, hsame⟩ | ⟨hnil, hquiet⟩
          · rw [hsame]
            exact h.imp fun pre => keeps pre pre fun _ hz => hz
          · rw [hnil, List.nil_append] at h
            refine before_append (before_of_not_mem fun hy => ?_) (h.imp fun pre hpre => ?_)
            · cases (hquiet y hy).symm.trans about
            · exact keeps pre _ (fun z hz => List.mem_append_right _ hz) hpre

end Order

end Node

end TelemetryRelay
