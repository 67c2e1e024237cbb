import TelemetryRelay.Proofs.Node.Dues
import TelemetryRelay.Proofs.Node.Publishing

/-!
# What goes out when a message is published

A publish calls a bridge if the subscriptions of the bridge take in the type of the message,
and these stand for whole families.  The bridge then looks for a mapping of the type itself,
whether that is advertised or not.  So what its transport is handed is said by both: by the
families that are advertised, and by the mapping of the type.
-/

namespace TelemetryRelay

open Wire

/-- The send that a transition begins. -/
def Transition.sent? : Transition → Option (TransportId × Frame)
  | .call a _ => a.sent?
  | _ => none

/-- What a bridge hands to its transport for a message. -/
def Bridge.sends? (bridge : Bridge) (message : Message) : Option (TransportId × Frame) :=
  (bridge.table.frameOf message).toOption.map (bridge.transport, ·)

/-- What the call of a listener makes bridge `b` hand to its transport. -/
def Bridge.answer (bridge : Bridge) (b : BridgeId) (call : Listener × Message) :
    List (TransportId × Frame) :=
  if call.1 = .bridge b then (bridge.sends? call.2).toList else []

namespace Node

/-- What bridge `b` hands to its transport with the next step of an action. -/
def passes? (n : Node) (b : BridgeId) : Action → Option (TransportId × Frame)
  | .post b' message => if b' = b then (n.post b' message).bind Transition.sent? else none
  | _ => none

/-- What bridge `b` hands to its transport with this move of a task that waits for so many
replies. -/
def forwards? (id : TaskId) (depth : Nat) (b : BridgeId) : Node × Move → Option (TransportId × Frame)
  | (n, .step i) =>
    if i = id ∧ n.depth id = depth then (n.actionOf? id).bind (n.passes? b) else none
  | (_, .outside _) => none

/-- What bridge `b` is about to hand to its transport, where a task waits for so many replies. -/
def passing (n : Node) (id : TaskId) (depth : Nat) (b : BridgeId) : List (TransportId × Frame) :=
  match n.tasks.get? id with
  | none => []
  | some task =>
    if task.pending.length = depth then (task.activity.action?.bind (n.passes? b)).toList else []

variable {n n' n₀ n₁ : Node} {id : TaskId} {b : BridgeId} {bridge : Bridge} {a : Action}
  {m : Move} {ms : List Move} {task base : Task} {message : Message} {all : List Listener}
  {called : List (Listener × Message)} {answers : List Bool} {depth : Nat}

/-! ## One step -/

theorem passes?_post (found : n.bridges.get? b = some bridge) (message : Message) :
    n.passes? b (.post b message) = bridge.sends? message := by
  simp only [passes?, if_true, post, found, Option.bind_eq_bind, Option.bind_some, Bridge.sends?]
  cases bridge.table.frameOf message <;> rfl

theorem passes?_of_bridge (found : ∃ running, n.bridges.get? b = some { bridge with running })
    (found' : ∃ running, n'.bridges.get? b = some { bridge with running }) (a : Action) :
    n'.passes? b a = n.passes? b a := by
  obtain ⟨running, found⟩ := found
  obtain ⟨running', found'⟩ := found'
  cases a with
  | post b' message =>
      by_cases hb : b' = b
      · subst hb
        rw [passes?_post found, passes?_post found']
        rfl
      · simp [passes?, hb]
  | _ => rfl

theorem passes?_of_on (on : a.opens = false) : n.passes? b a = none := by
  cases a <;> first | rfl | cases on

theorem passing_of_found (found : n.tasks.get? id = some task) : n.passing id depth b =
    if task.pending.length = depth then (task.activity.action?.bind (n.passes? b)).toList
    else [] := by
  simp only [passing, found]

theorem passing_of_depth_ne (found : n.tasks.get? id = some task)
    (hne : task.pending.length ≠ depth) : n.passing id depth b = [] := by
  rw [passing_of_found found, if_neg hne]

theorem forwards?_of_depth_ne (found : n.tasks.get? id = some task)
    (hne : task.pending.length ≠ depth) : forwards? id depth b (n, .step id) = none := by
  simp [forwards?, depth_of_found found, hne]

theorem forwards?_of_other (hother : m ≠ .step id) : forwards? id depth b (n, m) = none := by
  cases m with
  | outside o => rfl
  | step i =>
      have hne : i ≠ id := fun h => hother (by rw [h])
      simp [forwards?, hne]

/-- What is handed on is what the task sends next. -/
theorem sends_of_forwards {t : TransportId} {f : Frame}
    (h : forwards? id depth b (n, m) = some (t, f)) (hmove : n.move m = some n') :
    ∃ task, n'.tasks.get? id = some task ∧ task.activity = .acting (.send t f) := by
  cases m with
  | outside w => cases h
  | step i =>
      simp only [forwards?, Option.ite_none_right_eq_some] at h
      obtain ⟨⟨rfl, -⟩, h⟩ := h
      obtain ⟨a, hacts, hpasses⟩ := Option.bind_eq_some_iff.mp h
      have hstep : n.step i = some n' := hmove
      cases a with
      | post b' message =>
          simp only [passes?, Option.ite_none_right_eq_some] at hpasses
          obtain ⟨next, hpost, hsent⟩ := Option.bind_eq_some_iff.mp hpasses.2
          obtain ⟨task, hfound⟩ := found_of_actionOf? hacts
          rw [step_of_actionOf? hfound hacts, act, hpost] at hstep
          cases hstep
          refine ⟨_, found_setTask .., ?_⟩
          cases next with
          | call a k =>
              cases a <;> cases hsent
              rfl
          | _ => cases hsent
      | _ => cases hpasses

/-- A task that is gone after its step has taken no step of an action. -/
theorem actionOf?_of_gone (hstep : n.step id = some n') (hgone : n'.tasks.get? id = none) :
    n.actionOf? id = none := by
  cases hacts : n.actionOf? id with
  | none => rfl
  | some a =>
      obtain ⟨task, hfound⟩ := found_of_actionOf? hacts
      rw [step_of_actionOf? hfound hacts] at hstep
      obtain ⟨⟨after, next⟩, -, rfl⟩ := Option.map_eq_some_iff.mp hstep
      cases (found_setTask ..).symm.trans hgone

/-- What is handed on, is about to be handed on before and after a step, and is called for. -/
def Balanced (n : Node) (id : TaskId) (depth : Nat) (b : BridgeId) (bridge : Bridge) (n' : Node) :
    Prop :=
  (forwards? id (depth + 2) b (n, .step id)).toList ++ n'.passing id (depth + 2) b =
    n.passing id (depth + 2) b ++
      (calls? id (depth + 1) (n, .step id)).toList.flatMap (bridge.answer b)

/-- Between two calls nothing is handed on. -/
theorem balanced_between {left : List (Subscriber Listener)}
    (found : n.tasks.get? id = some { base with
      activity := .acting (.deliver ⟨message, left, answers.count true⟩) })
    (hstep : n.step id = some n') (hstays : n'.tasks.get? id ≠ none) :
    Balanced n id base.pending.length b bridge n' := by
  rcases step_of_acting found rfl hstep with hgone | ⟨after, next, hact, -, rfl⟩
  · exact absurd hgone hstays
  obtain ⟨rfl, rfl⟩ := Prod.mk.inj (Option.some.inj hact)
  have hcalls : calls? id (base.pending.length + 1) (n, .step id) = none :=
    calls?_of_depth_ne (by rw [depth_of_found found]; exact Nat.ne_of_lt (Nat.lt_succ_self _))
  have hshort : base.pending.length ≠ base.pending.length + 2 := by omega
  rw [Balanced, hcalls, forwards?_of_depth_ne found hshort, passing_of_depth_ne found hshort]
  cases left with
  | nil => exact passing_of_depth_ne (found_setTask ..) hshort
  | cons s rest => exact passing_of_depth_ne (found_setTask ..) (by simp [Task.advance, deliver])

/-- A bridge that is called is about to hand on what the call comes to. -/
theorem balanced_calling {listener : Listener} {left : List (Subscriber Listener)}
    (found : n.tasks.get? id = some { base with
      activity := .acting (.hand listener message),
      pending := .handed ⟨message, left, answers.count true⟩ :: base.pending })
    (known : ∃ running, n.bridges.get? b = some { bridge with running })
    (hstep : n.step id = some n') (hstays : n'.tasks.get? id ≠ none) :
    Balanced n id base.pending.length b bridge n' := by
  rcases step_of_acting found rfl hstep with hgone | ⟨after, next, hact, hacts, rfl⟩
  · exact absurd hgone hstays
  have hcalls : calls? id (base.pending.length + 1) (n, .step id) = some (listener, message) :=
    calls?_of_acting found hacts
  have hshort : base.pending.length + 1 ≠ base.pending.length + 2 := by omega
  rw [Balanced, hcalls, forwards?_of_depth_ne found hshort, passing_of_depth_ne found hshort]
  simp only [Option.toList_none, Option.toList_some, List.flatMap_singleton, List.nil_append]
  cases Acts.of_act hact with
  | wakes => exact passing_of_depth_ne (found_setTask ..) hshort
  | proceeds proceeds =>
      cases proceeds with
      | logs | misses => exact passing_of_depth_ne (found_setTask ..) hshort
      | @forwards b' =>
          rw [passing_of_found (found_setTask ..), if_pos (by simp [Task.advance])]
          show (n.passes? b (.post b' message)).toList = _
          by_cases hb : b' = b
          · obtain ⟨running, known⟩ := known
            subst hb
            rw [passes?_post known, Bridge.answer, if_pos rfl]
            rfl
          · simp [passes?, Bridge.answer, hb]

/-- Whoever is in a callback but not at its call is at no message of this publish afterwards. -/
theorem Speaking.passing_act {frames : List Then} {after : Node}
    {next : Transition} (h : Speaking n id base .taken frames (.acting a))
    (on : frames = [] → a.opens = false) (hact : n.act id a = some (after, next)) :
    (after.setTask id ({ base with activity := .acting a, pending := frames ++ base.pending }.advance
      next)).passing id (base.pending.length + 1) b = [] := by
  obtain ⟨found, topic, speaks, chain⟩ := h
  rw [passing_of_found (found_setTask ..)]
  cases act_leads speaks hact with
  | go _ on' =>
      split
      · rw [show (after.setTask id _).passes? b = after.passes? b from rfl]
        simp [Task.advance, Activity.action?, passes?_of_on on']
      · rfl
  | reply => simp [Task.advance, Activity.action?]
  | @call a' k lower _ turns =>
      rw [ite_eq_right_iff]
      intro hdepth
      have hframes : frames = [] := by simpa [Task.advance] using hdepth
      subst hframes
      cases chain
      -- Nobody is called here, so what begins is a publish of an actor.
      cases speaks with
      | acting about sends =>
          cases a with
          | hand listener message => cases on rfl
          | behave name behaviour =>
              have hact : n.behave name behaviour = (after, .call a' k) := Option.some.inj hact
              cases behaviour <;> cases hact
              rfl
          | _ => cases about

/-- To take up a reply is not to be at a message. -/
theorem passing_of_resume {k : Then} {r : Reply} {lower topic : Topic} {after : Node}
    {next : Transition} (about : r.topic? = some lower) (turns : k.turns? = some (lower, topic))
    (hres : n.resume k r = (after, next)) (task : Task) :
    (after.setTask id (task.advance next)).passing id depth b = [] := by
  have hnone : (task.advance next).activity.action?.bind (after.passes? b) = none := by
    cases k with
    | posted | forwarded | handed | published =>
        cases turns
        cases r <;> cases about
        cases hres
        rfl
    | _ => cases turns
  rw [passing_of_found (found_setTask ..)]
  show (if _ then ((task.advance next).activity.action?.bind (after.passes? b)).toList else []) = []
  rw [hnone]
  split <;> rfl

/-- In a callback a bridge hands on what it was about to hand on. -/
theorem balanced_answering {left : List (Subscriber Listener)} {frames : List Then}
    {activity : Activity}
    (speaking : Speaking n id
      { base with pending := .handed ⟨message, left, answers.count true⟩ :: base.pending }
      .taken frames activity)
    (on : frames = [] → ∀ a, activity = .acting a → a.opens = false)
    (hstep : n.step id = some n') (hstays : n'.tasks.get? id ≠ none) :
    Balanced n id base.pending.length b bridge n' := by
  have hcalls : calls? id (base.pending.length + 1) (n, .step id) = none := speaking.no_call on
  have hfound := speaking.found
  rw [Balanced, hcalls, passing_of_found hfound]
  cases activity with
  | acting a =>
      rcases step_of_acting hfound rfl hstep with hgone | ⟨after, next, hact, hacts, rfl⟩
      · exact absurd hgone hstays
      have hnothing := @Speaking.passing_act _ id b a _ _ _ _ speaking (fun h => on h a rfl) hact
      simp only [List.length_cons] at hnothing
      rw [hnothing, forwards?, depth_of_found hfound, hacts]
      simp only [true_and, Option.bind_some, Activity.action?, List.append_nil, Option.toList_none,
        List.flatMap_nil]
      split <;> rfl
  | replying r =>
      have hforwards : forwards? id (base.pending.length + 2) b (n, .step id) = none := by
        simp [forwards?, actionOf?_of_replying hfound rfl]
      obtain ⟨topic, speaks, chain⟩ := speaking.chain
      have hnothing : n'.passing id (base.pending.length + 2) b = [] := by
        cases speaks with
        | replying about =>
            cases chain with
            | nil =>
                rcases step_of_replying hfound rfl rfl hstep with hgone | ⟨after, next, hres, -, rfl⟩
                · exact absurd hgone hstays
                · exact passing_of_resume about rfl hres _
            | cons turns chain =>
                rcases step_of_replying hfound rfl rfl hstep with hgone | ⟨after, next, hres, -, rfl⟩
                · exact absurd hgone hstays
                · exact passing_of_resume about turns hres _
      rw [hforwards, hnothing]
      simp [Activity.action?]

/-- **What is called for is handed on, or about to be.** -/
theorem Publishing.balanced (h : Publishing n id base message all called answers)
    (known : ∃ running, n.bridges.get? b = some { bridge with running })
    (hback : ∀ r, n.tasks.get? id ≠ some { base with activity := .replying r })
    (hstep : n.step id = some n') (hstays : n'.tasks.get? id ≠ none) :
    Balanced n id base.pending.length b bridge n' := by
  cases h with
  | between found => exact balanced_between found hstep hstays
  | calling found => exact balanced_calling found known hstep hstays
  | answering speaking on => exact balanced_answering speaking on hstep hstays
  | back found => exact absurd found (hback _)
  | halted gone => cases Step.of_step hstep <;> simp_all

/-! ## Runs -/

/-- What bridge `b` has handed to its transport in the course of a publish, and what it is about
to hand on as long as the task is there, is what its calls have come to. -/
structure Forwarded (n₁ : Node) (id : TaskId) (base : Task) (message : Message)
    (all : List Listener) (b : BridgeId) (bridge : Bridge) (ms : List Move) (n : Node) : Prop where
  numbered : Numbered n
  known : id < n.fresh
  stays : ∃ running, n.bridges.get? b = some { bridge with running }
  within : (history n₁ ms).filterMap (calls? id (base.pending.length + 1)) <+: all.map (·, message)
  account : ∃ rest, (n.tasks.get? id ≠ none → rest = n.passing id (base.pending.length + 2) b) ∧
    (history n₁ ms).filterMap (forwards? id (base.pending.length + 2) b) ++ rest =
      ((history n₁ ms).filterMap (calls? id (base.pending.length + 1))).flatMap (bridge.answer b)

theorem passing_of_other (hn : Numbered n) (hid : id < n.fresh)
    (known : ∃ running, n.bridges.get? b = some { bridge with running })
    (hmove : n.move m = some n') (hother : m ≠ .step id) :
    n'.passing id depth b = n.passing id depth b := by
  have hpasses := passes?_of_bridge known (bridge_stays hn hmove known)
  simp only [passing, task_of_move hn hmove hid hother, funext hpasses]

/-- A task that is gone calls nobody, and makes nobody hand anything on. -/
theorem silent_of_gone (hmove : n.move m = some n')
    (hgone : n'.tasks.get? id = none) :
    calls? id depth (n, m) = none ∧ forwards? id depth b (n, m) = none := by
  by_cases hown : m = .step id
  · subst hown
    simp [calls?, forwards?, actionOf?_of_gone hmove hgone]
  · exact ⟨calls?_of_other hown, forwards?_of_other hown⟩

theorem Forwarded.snoc (h : Forwarded n₁ id base message all b bridge ms n)
    (hrun : n₁.run ms = some n) (hbefore : Published n₁ id base message all ms n)
    (hafter : Published n₁ id base message all (ms ++ [m]) n')
    (hback : ∀ r, n.tasks.get? id ≠ some { base with activity := .replying r })
    (hmove : n.move m = some n') : Forwarded n₁ id base message all b bridge (ms ++ [m]) n' := by
  refine ⟨h.numbered.move hmove,
    Nat.lt_of_lt_of_le h.known (spares_move h.numbered hmove).fresh,
    bridge_stays h.numbered hmove h.stays, ?_, ?_⟩
  · by_cases hgone : n'.tasks.get? id = none
    · rw [filterMap_history_snoc _ hrun, (@silent_of_gone _ _ _ b _ _ hmove hgone).1]
      simpa using h.within
    · exact hafter.stands.within hgone
  · obtain ⟨rest, hrest, haccount⟩ := h.account
    rw [filterMap_history_snoc _ hrun, filterMap_history_snoc _ hrun, List.flatMap_append,
      ← haccount]
    by_cases hgone : n'.tasks.get? id = none
    · refine ⟨rest, fun hstays => absurd hgone hstays, ?_⟩
      rw [(@silent_of_gone _ _ _ b _ _ hmove hgone).1,
        (silent_of_gone hmove hgone).2]
      simp
    by_cases hown : m = .step id
    · subst hown
      have hthere : n.tasks.get? id ≠ none := by
        intro hnone
        cases Step.of_step hmove <;> simp_all
      have hbalanced := hbefore.stands.balanced h.stays hback hmove hgone
      refine ⟨_, fun _ => rfl, ?_⟩
      rw [List.append_assoc, hbalanced, hrest hthere, List.append_assoc]
    · refine ⟨rest, ?_, ?_⟩
      · intro hstays
        rw [task_of_move h.numbered hmove h.known hown] at hstays
        rw [hrest hstays, passing_of_other h.numbered h.known h.stays hmove hown]
      · simp [forwards?_of_other hown, calls?_of_other hown]

theorem forwarded_of_run (hn : Numbered n₁) (hid : id < n₁.fresh)
    (hstart : Publishing n₁ id base message all [] [])
    (hstill : n₁.passing id (base.pending.length + 2) b = [])
    (found : ∃ running, n₁.bridges.get? b = some { bridge with running })
    (hrun : n₁.run ms = some n)
    (hfirst : ∀ x ∈ history n₁ ms, ∀ r,
      x.1.tasks.get? id ≠ some { base with activity := .replying r }) :
    Forwarded n₁ id base message all b bridge ms n := by
  refine run_induction (P := fun ms n => (∀ x ∈ history n₁ ms, ∀ r,
    x.1.tasks.get? id ≠ some { base with activity := .replying r }) →
      Forwarded n₁ id base message all b bridge ms n) ?_ ?_ hrun hfirst
  · exact fun _ => ⟨hn, hid, found, List.nil_prefix, [], fun _ => hstill.symm, rfl⟩
  · intro ms m n n' hrun ih hmove hfirst
    have hafter := published_of_run hn hid hstart (run_snoc.mpr ⟨n, hrun, hmove⟩) hfirst
    rw [history_snoc hrun] at hfirst
    have hfirst' : ∀ x ∈ history n₁ ms, ∀ r,
        x.1.tasks.get? id ≠ some { base with activity := .replying r } :=
      fun x hx => hfirst x (List.mem_append_left _ hx)
    exact (ih hfirst').snoc hrun (published_of_run hn hid hstart hrun hfirst') hafter
      (hfirst (n, m) (by simp)) hmove

/-- A publish begins with no bridge about to hand anything on. -/
theorem forwarded_of_publish {sender : Option ListenerId} (hn : Numbered n)
    (hbridge : n.bridges.get? b = some bridge) (hfound : n.tasks.get? id = some base)
    (hacts : n.actionOf? id = some (.publish sender (some message))) (hstep : n.step id = some n₁)
    (hrun : n₁.run ms = some n')
    (hfirst : ∀ x ∈ history n₁ ms, ∀ r,
      x.1.tasks.get? id ≠ some { base with activity := .replying r }) :
    Published n₁ id base message
        ((n.bus.recipients sender message.family).map (·.listener)) ms n' ∧
      Forwarded n₁ id base message
        ((n.bus.recipients sender message.family).map (·.listener)) b bridge ms n' := by
  have hmove : n.move (.step id) = some n₁ := hstep
  have hstill : n₁.passing id (base.pending.length + 2) b = [] := by
    rw [step_of_actionOf? hfound hacts] at hstep
    cases hstep
    exact passing_of_depth_ne (found_setTask ..) (by simp [Task.advance, publish, Delivery.start])
  have hid : id < n₁.fresh :=
    Nat.lt_of_lt_of_le (hn.lt_of_task hfound) (spares_move hn hmove).fresh
  have hstart := Publishing.begin hfound hacts hstep
  have hstays := bridge_stays hn hmove ⟨bridge.running, hbridge⟩
  exact ⟨published_of_run (hn.move hmove) hid hstart hrun hfirst,
    forwarded_of_run (hn.move hmove) hid hstart hstill hstays hrun hfirst⟩

/-! ## What goes out -/

variable {cs : List (Bus.Change Listener)} {sender : Option ListenerId}

/-- What the calls of a publish come to for a bridge that runs. -/
theorem Roster.calls_for (h : Roster cs n) (found : n.bridges.get? b = some bridge)
    (hrunning : bridge.running = true) (hother : sender ≠ some ⟨b⟩) (message : Message) :
    (((n.bus.recipients sender message.family).map (·.listener)).map (·, message)).flatMap
        (bridge.answer b) =
      ((bridge.table.outbound? message).map (bridge.transport, ·)).toList := by
  have haside : ∀ listener, listener ≠ .bridge b → bridge.answer b (listener, message) = [] :=
    fun listener hne => if_neg hne
  have hcalls := @Roster.flatMap_calls _ _ _ _ message.family sender _ h found hrunning hother
    (fun listener => bridge.answer b (listener, message)) haside
  rw [List.map_map, List.flatMap_map]
  refine hcalls.trans ?_
  unfold MappingTable.outbound?
  split
  · exact if_pos rfl
  · rfl

/-- **What goes out when somebody else publishes.**  Whoever else publishes a message while a
bridge runs, the transport of the bridge is handed one frame at most, and exactly one if the
publish comes back, a type that the bridge advertises takes in the type of the message, the
type itself is mapped, and the message fits into a frame.  That mapping gives the frame its
tag; it is not asked whether it is advertised.  To be handed on is to be sent next by the task
that publishes. -/
theorem forwarded_by_family {registry : Registry} {configs : List MappingConfig}
    {before : List Move} (hbuild : MappingTable.build registry configs = .ok bridge.table)
    (hroster : Roster cs n₀) (hbefore : n₀.run before = some n)
    (hbridge : n.bridges.get? b = some bridge) (hrunning : bridge.running = true)
    (hfound : n.tasks.get? id = some base)
    (hacts : n.actionOf? id = some (.publish sender (some message)))
    (hother : sender ≠ some bridge.id) (hrun : n.run (.step id :: ms) = some n')
    (hfirst : ∀ x ∈ history n (.step id :: ms), ∀ r,
      x.1.tasks.get? id ≠ some { base with activity := .replying r }) :
    let table := bridge.table
    let type := message.family
    let forwarded :=
      (history n (.step id :: ms)).filterMap (forwards? id (base.pending.length + 2) b)
    let outbound := ((table.outbound? message).map (bridge.transport, ·)).toList
    forwarded <+: outbound ∧
    (∀ reply, n'.tasks.get? id = some { base with activity := .replying reply } →
      forwarded = outbound) ∧
    ((table.outbound? message).isSome = true ↔ table.hears type = true ∧
      (∃ entry ∈ table.entries, entry.type.same type = true) ∧ message.encode.length ≤ 127) ∧
    (∀ f ∈ table.outbound? message, f.payload = message.encode ∧
      ∃ entry ∈ table.entries, entry.type.same type = true ∧ f.tag = entry.tag) ∧
    (table.hears type = true →
      ∃ entry ∈ table.entries, entry.advertise = true ∧ type.isA entry.type = true) ∧
    ((type.isMessage = true ∨ ∃ entry ∈ table.entries, entry.type = type) →
      (∃ entry ∈ table.entries, entry.advertise = true ∧ type.isA entry.type = true) →
        table.hears type = true) ∧
    ∀ x ∈ history n (.step id :: ms), ∀ t f after,
      forwards? id (base.pending.length + 2) b x = some (t, f) → x.1.move x.2 = some after →
        ∃ task, after.tasks.get? id = some task ∧ task.activity = .acting (.send t f) := by
  intro table type forwarded outbound
  have hbuilt := MappingTable.built_of_build hbuild
  have hnow := hroster.run hbefore
  rw [hnow.named.bridges b bridge hbridge] at hother
  obtain ⟨n₁, hstep, hrest⟩ := Option.bind_eq_some_iff.mp hrun
  have hmoves : history n (.step id :: ms) = (n, .step id) :: history n₁ ms := history_cons hstep
  obtain ⟨hpublished, hforwarded⟩ := forwarded_of_publish hnow.named.numbered hbridge hfound hacts
    hstep hrest fun x hx => hfirst x (hmoves ▸ .tail _ hx)
  have hanswers := hnow.calls_for hbridge hrunning hother message
  have hforwards : forwarded =
      (history n₁ ms).filterMap (forwards? id (base.pending.length + 2) b) := by
    show (history n (.step id :: ms)).filterMap _ = _
    rw [hmoves, List.filterMap_cons_none (forwards?_of_depth_ne hfound (by omega))]
  obtain ⟨rest, hpassing, haccount⟩ := hforwarded.account
  refine ⟨?_, ?_, hbuilt.outbound?_isSome, ?_, ?_, ?_,
    fun x _ t f after hforwards hmove => sends_of_forwards hforwards hmove⟩
  · obtain ⟨later, hlater⟩ := hforwarded.within
    rw [hforwards]
    show _ <+: ((bridge.table.outbound? message).map (bridge.transport, ·)).toList
    rw [← hanswers, ← hlater, List.flatMap_append, ← haccount, List.append_assoc]
    exact List.prefix_append _ _
  · intro reply hback
    obtain ⟨hcalled, -, -⟩ := hpublished.stands.end hback
    have hnothing : rest = [] := by
      rw [hpassing (by simp [hback]), passing_of_found hback]
      simp
    rw [hnothing, List.append_nil, hcalled, hanswers] at haccount
    exact hforwards.trans haccount
  · intro f hf
    obtain ⟨-, entry, hmem, hsame, htag, hpayload⟩ := hbuilt.outbound?_eq_some.mp hf
    exact ⟨hpayload, entry, hmem, hsame, htag⟩
  · exact fun hhears => MappingTable.listens_iff.mp (MappingTable.listens_of_hears hhears)
  · intro hrooted hadvertised
    have hrooted : type.isMessage = true := by
      rcases hrooted with hrooted | ⟨entry, hmem, hentry⟩
      · exact hrooted
      · exact hentry ▸ hbuilt.messages entry hmem
    rw [MappingTable.hears_of_rooted hrooted]
    exact MappingTable.listens_iff.mpr hadvertised

/-- A type, and one that belongs to its family. -/
def setpoint : Family := .mk "Setpoint" [Family.anyMessage] (some .idleLimit)

def hover : Family := .mk "Hover" [setpoint] (some .idleLimit)

/-- The family is advertised, the type that belongs to it is not. -/
def flightMappings : List MappingConfig :=
  [{ name := "setpoint", tag := some 4, className := some "Setpoint", advertise := true },
    { name := "hover", tag := some 5, className := some "Hover" }]

def flightRegistry : Registry := (Registry.standard.register setpoint).register hover

def flightTable : MappingTable :=
  ⟨[⟨"setpoint", 4, setpoint, true⟩, ⟨"hover", 5, hover, false⟩]⟩

/-- A bridge that is still to be started. -/
def hangar : Node where
  transports := Assoc.empty.set 0
    { carrier := .scripted { sends := [], receives := [], canRecover := false } }
  bridges := Assoc.empty.set 1 { id := ⟨1⟩, table := flightTable, transport := 0 }
  fresh := 2

/-- The bridge starts, and then somebody publishes a message of that type. -/
def launch (type : Family) : List Move :=
  [.outside (.startBridge 1 none),
    .outside (.begin (.publish none (some (.foreign type [0, 7]))) none)]

/-- The frames that bridge 1 hands on while task 3 publishes. -/
def handedOn (n : Node) : List (TransportId × UInt8 × Bytes) :=
  ((history n (List.replicate 10 (.step 3))).filterMap (forwards? 3 2 1)).map
    fun p => (p.1, p.2.tag, p.2.payload)

/-- The type that is not advertised goes out under its own tag. -/
theorem forwarded_by_family_unadvertised :
    MappingTable.build flightRegistry flightMappings = .ok flightTable ∧
      flightTable.byType? hover = some ⟨"hover", 5, hover, false⟩ ∧
      ∃ n, hangar.run (launch hover) = some n ∧
        (n.bridges.get? 1).map (·.running) = some true ∧
        (n.tasks.get? 3).map (·.activity) =
          some (.acting (.publish none (some (.foreign hover [0, 7])))) ∧
        handedOn n = [(0, 5, [0, 7])] := by
  refine ⟨rfl, rfl, _, rfl, rfl, rfl, ?_⟩
  decide +kernel

theorem roster_hangar : Roster [] hangar := by
  have hbridge : ∀ b bridge, hangar.bridges.get? b = some bridge →
      bridge.id = ⟨b⟩ ∧ bridge.running = false := by
    intro b bridge found
    simp only [hangar, Assoc.get?_set, Assoc.get?_empty] at found
    split at found <;> cases found
    rename_i hb
    exact ⟨hb ▸ rfl, rfl⟩
  have hne : ∀ x k : Nat, hangar.fresh ≤ x → k < 2 → x ≠ k := fun x k hx hk =>
    Nat.ne_of_gt (Nat.lt_of_lt_of_le hk hx)
  have hnumbered : Numbered hangar := by
    refine ⟨fun _ _ => rfl, ?_, ?_, by decide⟩
    · intro x hx
      simp [hangar, hne x 0 hx (by decide)]
    · intro x hx
      simp [hangar, hne x 1 hx (by decide)]
  exact roster_of_idle ⟨hnumbered, fun b bridge found => (hbridge b bridge found).1,
    fun _ _ found => by cases found⟩ rfl
    fun b bridge found => (hbridge b bridge found).2

/-- What is advertised goes out once, when the publish has come back. -/
theorem forwarded_by_family_advertised :
    ∃ n n', hangar.run (launch setpoint) = some n ∧
      n.run (List.replicate 10 (.step 3)) = some n' ∧
      (n'.tasks.get? 3).map (·.activity) = some (.replying (.published (.ok 1))) ∧
      handedOn n = [(0, 4, [0, 7])] := by
  let base : Task :=
    { activity := .acting (.publish none (some (.foreign setpoint [0, 7]))) }
  obtain ⟨n, hbefore, hbridge, hfound, hacts, n', hrun, hback⟩ :
      ∃ n, hangar.run (launch setpoint) = some n ∧
        n.bridges.get? 1 = some { id := ⟨1⟩, table := flightTable, transport := 0, running := true } ∧
        n.tasks.get? 3 = some base ∧
        n.actionOf? 3 = some (.publish none (some (.foreign setpoint [0, 7]))) ∧
        ∃ n', n.run (.step 3 :: List.replicate 9 (.step 3)) = some n' ∧
          n'.tasks.get? 3 = some { base with activity := .replying (.published (.ok 1)) } :=
    ⟨_, rfl, rfl, rfl, rfl, _, rfl, rfl⟩
  have hinside : (history n (.step 3 :: List.replicate 9 (.step 3))).all
      (fun x => !(x.1.tasks.get? 3).any hasResult) = true := by
    cases hbefore
    rfl
  have hfirst : ∀ x ∈ history n (.step 3 :: List.replicate 9 (.step 3)), ∀ r,
      x.1.tasks.get? 3 ≠ some { base with activity := .replying r } := by
    intro x hx r hreplying
    have hx := List.all_eq_true.mp hinside x hx
    rw [hreplying] at hx
    cases hx
  have hbuild : MappingTable.build flightRegistry flightMappings = .ok flightTable := rfl
  obtain ⟨-, hforwarded, -⟩ := forwarded_by_family hbuild roster_hangar hbefore hbridge rfl hfound
    hacts (by simp) hrun hfirst
  refine ⟨n, n', hbefore, hrun, by rw [hback]; rfl, ?_⟩
  exact congrArg (List.map fun p => (p.1, p.2.tag, p.2.payload)) (hforwarded _ hback)

end Node

end TelemetryRelay
