import TelemetryRelay.Proofs.Node.Replies

/-!
# Publishing

A publish takes its recipients from the bus as it is when it begins, and calls them
one after the other.  A callback may do whatever it likes, to the bus too, and publish
messages of its own: it comes back with an answer, and the publish goes on to the
next of its recipients.
-/

namespace TelemetryRelay

def Action.handed? : Action → Option (Listener × Message)
  | .hand listener message => some (listener, message)
  | _ => none

def Reply.taken? : Reply → Option Bool
  | .taken ok => some ok
  | _ => none

namespace Node

/-- The call of a listener that a task makes with this move, where it waits for so many
replies. -/
def calls? (id : TaskId) (depth : Nat) : Node × Move → Option (Listener × Message)
  | (n, .step i) =>
    if i = id ∧ n.depth id = depth then (n.actionOf? id).bind (·.handed?) else none
  | (_, .outside _) => none

/-- The answer of a listener that a task takes up with this move, where it waits for so
many replies. -/
def answers? (id : TaskId) (depth : Nat) : Node × Move → Option Bool
  | (n, .step i) =>
    if i = id ∧ n.depth id = depth then (n.answerOf? id).bind (·.taken?) else none
  | (_, .outside _) => none

/-- A task comes back from what it was at with this reply, for the first time. -/
structure Returns (n₀ : Node) (ms : List Move) (id : TaskId) (base : Task) (reply : Reply)
    (n : Node) : Prop where
  run : n₀.run ms = some n
  back : n.tasks.get? id = some { base with activity := .replying reply }
  first : ∀ x ∈ history n₀ ms, ∀ r,
    x.1.tasks.get? id ≠ some { base with activity := .replying r }

/-- Where a publish stands that began with the recipients `all`: the listeners that have
been called and the answers that have come back. -/
inductive Publishing (n : Node) (id : TaskId) (base : Task) (message : Message)
    (all : List Listener) (called : List (Listener × Message)) (answers : List Bool) : Prop
  | between {left : List (Subscriber Listener)}
      (found : n.tasks.get? id = some { base with
        activity := .acting (.deliver ⟨message, left, answers.count true⟩) })
      (split : all.map (·, message) = called ++ left.map fun s => (s.listener, message))
      (even : answers.length = called.length) : Publishing n id base message all called answers
  | calling {listener : Listener} {left : List (Subscriber Listener)}
      (found : n.tasks.get? id = some { base with
        activity := .acting (.hand listener message),
        pending := .handed ⟨message, left, answers.count true⟩ :: base.pending })
      (split : all.map (·, message) =
        called ++ (listener, message) :: left.map fun s => (s.listener, message))
      (even : answers.length = called.length) : Publishing n id base message all called answers
  | answering {left : List (Subscriber Listener)} {frames : List Then} {activity : Activity}
      (speaking : Speaking n id
        { base with pending := .handed ⟨message, left, answers.count true⟩ :: base.pending }
        .taken frames activity)
      (on : frames = [] → ∀ a, activity = .acting a → a.opens = false)
      (split : all.map (·, message) = called ++ left.map fun s => (s.listener, message))
      (odd : answers.length + 1 = called.length) : Publishing n id base message all called answers
  | back (found : n.tasks.get? id = some { base with
        activity := .replying (.published (.ok (answers.count true))) })
      (complete : all.map (·, message) = called) (even : answers.length = called.length) :
      Publishing n id base message all called answers
  /-- Its outbox has halted it. -/
  | halted (gone : n.tasks.get? id = none) : Publishing n id base message all called answers

variable {n n' n₀ : Node} {id : TaskId} {base : Task} {message : Message} {all : List Listener}
  {called : List (Listener × Message)} {answers : List Bool} {m : Move} {ms : List Move}
  {a : Action} {reply : Reply} {task : Task}

/-! ## One move -/

theorem calls?_of_depth_ne {depth : Nat} (h : n.depth id ≠ depth) :
    calls? id depth (n, .step id) = none := by
  simp [calls?, h]

theorem calls?_of_acting (found : n.tasks.get? id = some task) (acts : n.actionOf? id = some a) :
    calls? id task.pending.length (n, .step id) = a.handed? := by
  simp [calls?, depth_of_found found, acts]

theorem answers?_of_replying (found : n.tasks.get? id = some task)
    (answers : n.answerOf? id = some reply) :
    answers? id task.pending.length (n, .step id) = reply.taken? := by
  simp [answers?, depth_of_found found, answers]

theorem calls?_of_other {depth : Nat} (hother : m ≠ .step id) : calls? id depth (n, m) = none := by
  cases m with
  | outside o => rfl
  | step i =>
      have hne : i ≠ id := fun h => hother (by rw [h])
      simp [calls?, hne]

theorem answers?_of_other {depth : Nat} (hother : m ≠ .step id) :
    answers? id depth (n, m) = none := by
  cases m with
  | outside o => rfl
  | step i =>
      have hne : i ≠ id := fun h => hother (by rw [h])
      simp [answers?, hne]

/-- Other moves do not interfere with a publish. -/
theorem Publishing.beside (h : Publishing n id base message all called answers) (hn : Numbered n)
    (hid : id < n.fresh) (hmove : n.move m = some n') (hother : m ≠ .step id) :
    Publishing n' id base message all called answers := by
  have htask := task_of_move hn hmove hid hother
  cases h with
  | between found split even => exact .between (by rw [htask, found]) split even
  | calling found split even => exact .calling (by rw [htask, found]) split even
  | answering speaking on split odd =>
      exact .answering (speaking.beside hn hmove hother) on split odd
  | back found complete even => exact .back (by rw [htask, found]) complete even
  | halted gone => exact .halted (by rw [htask, gone])

/-- A publish between two calls calls the next listener, or comes back. -/
theorem Publishing.deliver {left : List (Subscriber Listener)}
    (found : n.tasks.get? id = some { base with
      activity := .acting (.deliver ⟨message, left, answers.count true⟩) })
    (split : all.map (·, message) = called ++ left.map fun s => (s.listener, message))
    (even : answers.length = called.length) (hstep : n.step id = some n') :
    Publishing n' id base message all called answers := by
  rcases step_of_acting found rfl hstep with hgone | ⟨after, next, hact, -, rfl⟩
  · exact .halted hgone
  · obtain ⟨rfl, rfl⟩ := Prod.mk.inj (Option.some.inj hact)
    cases left with
    | nil => exact .back (found_setTask ..) (by simpa using split) even
    | cons s rest => exact .calling (found_setTask ..) (by simpa using split) even

/-- A task that is at an action that hands nobody anything makes no call. -/
theorem Speaking.no_call {last : Topic} {frames : List Then} {activity : Activity}
    (h : Speaking n id base last frames activity)
    (on : frames = [] → ∀ a, activity = .acting a → a.opens = false) :
    calls? id base.pending.length (n, .step id) = none := by
  by_cases hframes : frames = []
  · have hdepth := depth_of_found h.found
    simp only [hframes, List.nil_append] at hdepth
    simp only [calls?, hdepth, and_self, if_true, Option.bind_eq_none_iff]
    intro a ha
    obtain ⟨rfl, -⟩ := actionOf?_eq h.found ha
    cases a with
    | hand l m => cases on hframes _ rfl
    | _ => rfl
  · apply calls?_of_depth_ne
    have hpos : 0 < frames.length := List.length_pos_iff.mpr hframes
    rw [depth_of_found h.found, List.length_append]
    omega

/-- A callback that has not come back has no answer yet. -/
theorem Speaking.no_answer {last : Topic} {frames : List Then} {activity : Activity}
    (h : Speaking n id base last frames activity)
    (inside : frames = [] → ∃ a, activity = .acting a) :
    answers? id base.pending.length (n, .step id) = none := by
  by_cases hframes : frames = []
  · obtain ⟨a, rfl⟩ := inside hframes
    simp [answers?, answerOf?_of_acting h.found rfl]
  · have hpos : 0 < frames.length := List.length_pos_iff.mpr hframes
    have hdepth : n.depth id ≠ base.pending.length := by
      rw [depth_of_found h.found, List.length_append]
      omega
    simp [answers?, hdepth]

/-- The listener that is called gets the message, and is under way to an answer. -/
theorem Publishing.call {listener : Listener} {left : List (Subscriber Listener)}
    (found : n.tasks.get? id = some { base with
      activity := .acting (.hand listener message),
      pending := .handed ⟨message, left, answers.count true⟩ :: base.pending })
    (split : all.map (·, message) =
      called ++ (listener, message) :: left.map fun s => (s.listener, message))
    (even : answers.length = called.length) (hstep : n.step id = some n') :
    Publishing n' id base message all
      (called ++ (calls? id (base.pending.length + 1) (n, .step id)).toList)
      (answers ++ (answers? id (base.pending.length + 1) (n, .step id)).toList) := by
  rcases step_of_acting found rfl hstep with hgone | ⟨after, next, hact, hacts, rfl⟩
  · exact .halted hgone
  · have hcall : calls? id (base.pending.length + 1) (n, .step id) = some (listener, message) :=
      calls?_of_acting found hacts
    have hanswer : answers? id (base.pending.length + 1) (n, .step id) = none := by
      simp [answers?, answerOf?_of_acting found rfl]
    have hspeaks : Speaks n id (.acting (.hand listener message)) .taken :=
      speaks_of_topic rfl (by simp)
    obtain ⟨frames, activity, hspeaking, hon⟩ :=
      @Leads.speaking _ _ _ _ { base with
        pending := .handed ⟨message, left, answers.count true⟩ :: base.pending } _ []
        (.acting (.hand listener message)) (act_leads hspeaks hact) .nil
    rw [hcall, hanswer, Option.toList_none, List.append_nil]
    refine .answering hspeaking hon ?_ ?_
    · simpa using split
    · simpa using even

/-- A callback comes back with an answer, or goes on. -/
theorem Publishing.answer {left : List (Subscriber Listener)} {frames : List Then}
    {activity : Activity}
    (speaking : Speaking n id
      { base with pending := .handed ⟨message, left, answers.count true⟩ :: base.pending }
      .taken frames activity)
    (on : frames = [] → ∀ a, activity = .acting a → a.opens = false)
    (split : all.map (·, message) = called ++ left.map fun s => (s.listener, message))
    (odd : answers.length + 1 = called.length) (hstep : n.step id = some n') :
    Publishing n' id base message all
      (called ++ (calls? id (base.pending.length + 1) (n, .step id)).toList)
      (answers ++ (answers? id (base.pending.length + 1) (n, .step id)).toList) := by
  have hcall : calls? id (base.pending.length + 1) (n, .step id) = none := speaking.no_call on
  rw [hcall]
  by_cases hinside : frames = [] → ∃ a, activity = .acting a
  · have hanswer : answers? id (base.pending.length + 1) (n, .step id) = none :=
      speaking.no_answer hinside
    rw [hanswer, Option.toList_none, Option.toList_none, List.append_nil, List.append_nil]
    rcases speaking.step hstep hinside with hgone | ⟨frames', activity', hspeaking, hon⟩
    · exact .halted hgone
    · exact .answering hspeaking hon split odd
  · obtain ⟨rfl, hreplying⟩ := Classical.not_imp.mp hinside
    obtain ⟨found, topic, speaks, chain⟩ := speaking
    cases chain
    cases speaks with
    | acting about => exact absurd ⟨_, rfl⟩ hreplying
    | @replying r _ about =>
        cases r <;> cases about
        rename_i ok
        rcases step_of_replying found rfl rfl hstep with hgone | ⟨after, next, hres, hanswers, rfl⟩
        · exact .halted hgone
        · obtain ⟨rfl, rfl⟩ := Prod.mk.inj hres
          have hanswer : answers? id (base.pending.length + 1) (n, .step id) = some ok :=
            answers?_of_replying found hanswers
          rw [hanswer]
          have hcount : (answers ++ [ok]).count true = answers.count true + if ok then 1 else 0 := by
            cases ok <;> simp
          refine @Publishing.between _ _ _ _ _ _ _ left ?_ (by simpa using split) (by simpa using odd)
          rw [found_setTask, Option.toList_some, hcount]
          rfl

theorem Publishing.step (h : Publishing n id base message all called answers)
    (hstep : n.step id = some n')
    (hback : ∀ r, n.tasks.get? id ≠ some { base with activity := .replying r }) :
    Publishing n' id base message all
      (called ++ (calls? id (base.pending.length + 1) (n, .step id)).toList)
      (answers ++ (answers? id (base.pending.length + 1) (n, .step id)).toList) := by
  cases h with
  | between found split even =>
      have hdepth : n.depth id ≠ base.pending.length + 1 := by
        rw [depth_of_found found]
        exact Nat.ne_of_lt (Nat.lt_succ_self _)
      have hcall := calls?_of_depth_ne hdepth
      have hanswer : answers? id (base.pending.length + 1) (n, .step id) = none := by
        simp [answers?, hdepth]
      rw [hcall, hanswer]
      simpa using Publishing.deliver found split even hstep
  | calling found split even => exact .call found split even hstep
  | answering speaking on split odd => exact .answer speaking on split odd hstep
  | back found complete even => exact absurd found (hback _)
  | halted gone =>
      cases Step.of_step hstep <;> simp_all

/-- A publish asks something of the bus only where a callback does. -/
theorem Publishing.asks (h : Publishing n id base message all called answers)
    (hasks : changes (n, .step id) ≠ [])
    (hback : ∀ r, n.tasks.get? id ≠ some { base with activity := .replying r }) :
    (∃ name behaviour, n.actionOf? id = some (.behave name behaviour)) ∧
      base.pending.length < n.depth id := by
  obtain ⟨a, hacts⟩ : ∃ a, n.actionOf? id = some a := by
    cases hacts : n.actionOf? id with
    | some a => exact ⟨a, rfl⟩
    | none => simp [changes, hacts] at hasks
  have hchanges : n.changesOf a ≠ [] := by simpa [changes, hacts] using hasks
  cases h with
  | between found split even =>
      obtain ⟨hacting, -⟩ := actionOf?_eq found hacts
      cases hacting
      exact absurd rfl hchanges
  | calling found split even =>
      obtain ⟨hacting, -⟩ := actionOf?_eq found hacts
      cases hacting
      exact absurd rfl hchanges
  | answering speaking on split odd =>
      obtain ⟨hacting, -⟩ := actionOf?_eq speaking.found hacts
      obtain ⟨topic, hspeaks, -⟩ := speaking.chain
      refine ⟨?_, ?_⟩
      · cases hacting
        cases hspeaks with
        | acting about =>
            cases a with
            | behave name behaviour => exact ⟨name, behaviour, hacts⟩
            | leave b => cases about
            | stop b => cases about
            | accept a => cases about
            | _ => exact absurd rfl hchanges
      · rw [depth_of_found speaking.found]
        simp only [List.length_append, List.length_cons]
        omega
  | back found complete even => exact absurd found (hback _)
  | halted gone => simp [actionOf?, gone] at hacts

/-! ## Runs -/

/-- What a publish has done by the end of a run during which it has not come back. -/
structure Published (n₁ : Node) (id : TaskId) (base : Task) (message : Message)
    (all : List Listener) (ms : List Move) (n : Node) : Prop where
  stands : Publishing n id base message all
    ((history n₁ ms).filterMap (calls? id (base.pending.length + 1)))
    ((history n₁ ms).filterMap (answers? id (base.pending.length + 1)))
  asks : ∀ x ∈ history n₁ ms, x.2 = .step id → changes x ≠ [] →
    (∃ name behaviour, x.1.actionOf? id = some (.behave name behaviour)) ∧
      base.pending.length < x.1.depth id

theorem Published.snoc {n₁ : Node} (h : Published n₁ id base message all ms n) (hn : Numbered n)
    (hid : id < n.fresh) (hrun : n₁.run ms = some n) (hmove : n.move m = some n')
    (hback : ∀ r, n.tasks.get? id ≠ some { base with activity := .replying r }) :
    Published n₁ id base message all (ms ++ [m]) n' := by
  refine ⟨?_, ?_⟩
  · rw [filterMap_history_snoc _ hrun, filterMap_history_snoc _ hrun]
    by_cases hown : m = .step id
    · rw [hown] at hmove ⊢
      exact h.stands.step hmove hback
    · rw [calls?_of_other hown, answers?_of_other hown]
      simpa using h.stands.beside hn hid hmove hown
  · rw [history_snoc hrun]
    intro x hx hown hasks
    rcases List.mem_append.mp hx with hbefore | hlast
    · exact h.asks x hbefore hown hasks
    · obtain rfl := List.mem_singleton.mp hlast
      cases hown
      exact h.stands.asks hasks hback

theorem published_of_run {n₁ : Node} (hn : Numbered n₁) (hid : id < n₁.fresh)
    (hstart : Publishing n₁ id base message all [] []) (hrun : n₁.run ms = some n)
    (hfirst : ∀ x ∈ history n₁ ms, ∀ r,
      x.1.tasks.get? id ≠ some { base with activity := .replying r }) :
    Published n₁ id base message all ms n := by
  refine run_induction (P := fun ms n => (∀ x ∈ history n₁ ms, ∀ r,
    x.1.tasks.get? id ≠ some { base with activity := .replying r }) →
      (Numbered n ∧ id < n.fresh) ∧ Published n₁ id base message all ms n) ?_ ?_ hrun hfirst |>.2
  · exact fun _ => ⟨⟨hn, hid⟩, hstart, by simp [history, Machine.history]⟩
  · intro ms m before after hrun ih hmove hfirst
    rw [history_snoc hrun] at hfirst
    obtain ⟨⟨hnumbered, hlt⟩, hpublished⟩ :=
      ih fun x hx => hfirst x (List.mem_append_left _ hx)
    have hback := hfirst (before, m) (by simp)
    have hfresh := (spares_move hnumbered hmove).fresh
    exact ⟨⟨hnumbered.move hmove, Nat.lt_of_lt_of_le hlt hfresh⟩,
      hpublished.snoc hnumbered hlt hrun hmove hback⟩

/-- A publish begins: it has its recipients from the bus as it is now. -/
theorem Publishing.begin {sender : Option ListenerId} (found : n.tasks.get? id = some base)
    (acts : n.actionOf? id = some (.publish sender (some message)))
    (hstep : n.step id = some n') :
    Publishing n' id base message ((n.bus.recipients sender message.family).map (·.listener)) [] [] := by
  rw [step_of_actionOf? found acts] at hstep
  cases hstep
  refine @Publishing.between _ _ _ _ _ _ _ (n.bus.recipients sender message.family) ?_ (by simp) rfl
  exact found_setTask ..

/-- A publish that has come back has called all its recipients. -/
theorem Publishing.end (h : Publishing n id base message all called answers)
    (hback : n.tasks.get? id = some { base with activity := .replying reply }) :
    called = all.map (·, message) ∧ answers.length = all.length ∧
      reply = .published (.ok (answers.count true)) := by
  cases h with
  | between found | calling found => cases found.symm.trans hback
  | answering speaking =>
      have htask := Option.some.inj (speaking.found.symm.trans hback)
      have hlength := congrArg (·.pending.length) htask
      simp only [List.length_append, List.length_cons] at hlength
      omega
  | back found complete even =>
      cases found.symm.trans hback
      refine ⟨complete.symm, ?_, rfl⟩
      rw [even, ← complete, List.length_map]
  | halted gone => cases gone.symm.trans hback

/-- As long as the task is there, its calls are the first ones that it has to make. -/
theorem Publishing.within (h : Publishing n id base message all called answers)
    (hthere : n.tasks.get? id ≠ none) : called <+: all.map (·, message) := by
  cases h with
  | between found split | calling found split | answering speaking on split =>
      rw [split]
      exact List.prefix_append _ _
  | back found complete => exact complete ▸ List.prefix_refl _
  | halted gone => exact absurd gone hthere

/-- **A publish works on a snapshot.** When a publish comes back, it has called
each listener that was a recipient when it began once, in their order, and nobody else;
its result is the number of those calls that were answered well, whatever the other
answers were.  The bus is what it was with all that was asked of it meanwhile, and the
publish itself asked nothing of it but what its callbacks did.  Without a message the
publish fails, and nothing else happens. -/
theorem publish_on_snapshot {sender : Option ListenerId} {message : Option Message}
    (hn : Numbered n₀) (hfound : n₀.tasks.get? id = some base)
    (hacts : n₀.actionOf? id = some (.publish sender message)) :
    (message = none → n₀.step id = some (n₀.setTask id
      { base with activity := .replying (.published (.error .nullMessage)) })) ∧
    ∀ m ms n reply, message = some m → Returns n₀ (.step id :: ms) id base reply n →
      let recipients := n₀.bus.recipients sender m.family
      let moves := history n₀ (.step id :: ms)
      let answers := moves.filterMap (answers? id (base.pending.length + 1))
      moves.filterMap (calls? id (base.pending.length + 1)) =
        recipients.map (fun s => (s.listener, m)) ∧
      (∀ cs, n₀.bus = Bus.after cs → (recipients.map (·.id)).Nodup) ∧
      answers.length = recipients.length ∧
      reply = .published (.ok (answers.count true)) ∧
      n.bus = n₀.bus.applyAll (moves.flatMap changes) ∧
      ∀ x ∈ moves, x.2 = .step id → changes x ≠ [] →
        (∃ name behaviour, x.1.actionOf? id = some (.behave name behaviour)) ∧
          base.pending.length < x.1.depth id := by
  refine ⟨?_, ?_⟩
  · rintro rfl
    rw [step_of_actionOf? hfound hacts]
    rfl
  rintro m ms n reply rfl ⟨hrun, hback, hfirst⟩ recipients moves answers
  obtain ⟨n₁, hstep, hrest⟩ := Option.bind_eq_some_iff.mp hrun
  have hstep : n₀.step id = some n₁ := hstep
  have hmoves : moves = (n₀, .step id) :: history n₁ ms := by
    show Machine.history move n₀ (.step id :: ms) = _
    simp only [Machine.history, move, hstep]
    rfl
  have hid := hn.lt_of_task hfound
  have hn₁ : Numbered n₁ := hn.move (m := .step id) hstep
  have hid₁ : id < n₁.fresh :=
    Nat.lt_of_lt_of_le hid (spares_move (m := .step id) hn hstep).fresh
  have hpublished := published_of_run hn₁ hid₁ (Publishing.begin hfound hacts hstep) hrest
    fun x hx => hfirst x (by rw [show history n₀ _ = moves from rfl, hmoves]; exact .tail _ hx)
  -- The first move is the beginning of the publish: it calls nobody and asks nothing.
  have hdepth : n₀.depth id ≠ base.pending.length + 1 := by
    rw [depth_of_found hfound]
    exact Nat.ne_of_lt (Nat.lt_succ_self _)
  have hcalls : moves.filterMap (calls? id (base.pending.length + 1)) =
      (history n₁ ms).filterMap (calls? id (base.pending.length + 1)) := by
    rw [hmoves, List.filterMap_cons_none (calls?_of_depth_ne hdepth)]
  have hanswers : answers =
      (history n₁ ms).filterMap (answers? id (base.pending.length + 1)) := by
    show moves.filterMap _ = _
    rw [hmoves, List.filterMap_cons_none (by simp [answers?, hdepth])]
  obtain ⟨hcalled, hlength, hreply⟩ := hpublished.stands.end hback
  refine ⟨?_, ?_, ?_, ?_, bus_run hrun, ?_⟩
  · rw [hcalls, hcalled, List.map_map]
    rfl
  · intro cs hcs
    have hnodup := Bus.nodup_after cs
    rw [← hcs] at hnodup
    exact hnodup.sublist (List.filter_sublist.map _)
  · rw [hanswers, hlength, List.length_map]
  · rw [hanswers, hreply]
  · rw [hmoves]
    intro x hx hown hasks
    rcases List.mem_cons.mp hx with rfl | hx
    · exact absurd (by simp [changes, hacts, changesOf]) hasks
    · exact hpublished.asks x hx hown hasks

/-- Unsubscribes the second actor, subscribes the third, publishes nothing and fails. -/
def disturbs : Behaviour :=
  .unsubscribe "second" fun _ => .subscribe "third" Family.anyMessage
    (.publish none none fun _ => .finish false)

/-- Three actors, of which the first two get what a task publishes. -/
def threeActors : Node where
  actors := ((Assoc.empty.set "first" { id := ⟨1⟩, behave := fun _ _ => disturbs }).set "second"
    { id := ⟨2⟩ }).set "third" { id := ⟨3⟩ }
  bus := (Bus.empty.subscribe ⟨1⟩ (.actor "first") Family.anyMessage).subscribe ⟨2⟩
    (.actor "second") Family.anyMessage
  tasks := Assoc.empty.set 0
    { activity := .acting (.publish none (some (.foreign Kind.idleLimit.family []))) }
  fresh := 1

theorem numbered_threeActors : Numbered threeActors := by
  refine ⟨?_, fun _ _ => rfl, fun _ _ => rfl, List.nodup_nil⟩
  intro x hx
  have hne : x ≠ 0 := Nat.ne_of_gt hx
  simp [threeActors, hne]

/-- The task has a reply, and nobody of its own waits for it. -/
def hasResult (task : Task) : Bool :=
  match task.activity, task.pending with
  | .replying _, [] => true
  | _, _ => false

/-- The second actor is called although it has been unsubscribed, the third is not
although it has been subscribed, and the first is not counted. -/
theorem publish_on_snapshot_disturbed :
    let moves := history threeActors (.step 0 :: List.replicate 14 (.step 0))
    ∃ n, threeActors.run (.step 0 :: List.replicate 14 (.step 0)) = some n ∧
      moves.filterMap (calls? 0 1) = [(.actor "first", .foreign Kind.idleLimit.family []),
        (.actor "second", .foreign Kind.idleLimit.family [])] ∧
      moves.filterMap (answers? 0 1) = [false, true] ∧
      (n.tasks.get? 0).map (·.activity) = some (.replying (.published (.ok 1))) ∧
      n.bus.subscribers.map (·.id) = [⟨1⟩, ⟨3⟩] := by
  intro moves
  let base : Task :=
    { activity := .acting (.publish none (some (.foreign Kind.idleLimit.family []))) }
  have hrun : ∃ n, threeActors.run (.step 0 :: List.replicate 14 (.step 0)) = some n ∧
      n.tasks.get? 0 = some { base with activity := .replying (.published (.ok 1)) } ∧
      n.bus.subscribers.map (·.id) = [⟨1⟩, ⟨3⟩] := ⟨_, rfl, rfl, rfl⟩
  obtain ⟨n, hrun, hback, hbus⟩ := hrun
  -- Before the end the task is at an action, or waits for a reply inside the publish.
  have hinside : moves.all (fun x => !(x.1.tasks.get? 0).any hasResult) = true := rfl
  have hfirst : ∀ x ∈ moves, ∀ r, x.1.tasks.get? 0 ≠ some { base with activity := .replying r } := by
    intro x hx r hreplying
    have hx := List.all_eq_true.mp hinside x hx
    rw [hreplying] at hx
    cases hx
  have hreturns : Returns threeActors (.step 0 :: List.replicate 14 (.step 0)) 0 base
      (.published (.ok 1)) n := ⟨hrun, hback, hfirst⟩
  have hfound : threeActors.tasks.get? 0 = some base := rfl
  have hacts : threeActors.actionOf? 0 =
      some (.publish none (some (.foreign Kind.idleLimit.family []))) := rfl
  obtain ⟨-, hpublish⟩ := publish_on_snapshot numbered_threeActors hfound hacts
  obtain ⟨hcalls, -⟩ := hpublish _ _ n _ rfl hreturns
  refine ⟨n, hrun, hcalls.trans rfl, rfl, ?_, hbus⟩
  rw [hback]
  rfl

end Node

end TelemetryRelay
