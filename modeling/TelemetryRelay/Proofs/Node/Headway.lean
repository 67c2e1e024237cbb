import TelemetryRelay.Proofs.Node.Relaying

/-!
# A loop goes from transport to transport

Where listeners do not publish, a delivery comes to an end, except that a transport
may hold it up: with each step there are fewer listeners to call, or the one that
is called has less to do.  So a loop that is left to itself gets to a transport again,
or to its end.
-/

namespace TelemetryRelay

/-- The action asks something of a transport, and waits for it. -/
def Action.isAtTransport : Action → Bool
  | .send .. | .offered _ | .transmit .. | .held .. | .receive _ | .fetch _ | .onLink _ => true
  | _ => false

/-! ## What is left of a delivery -/

/-- How many listeners are still to be called. -/
def Action.calls : Action → Nat
  | .deliver d => d.remaining.length
  | .hand .. => 1
  | _ => 0

def Then.calls : Then → Nat
  | .handed d => d.remaining.length
  | _ => 0

/-- How far it is, at most, to the next call of a listener. -/
def Action.toGo : Action → Nat
  | .deliver _ => 1
  | .behave _ behaviour => behaviour.length + 4
  | .post .. => 5
  | _ => 0

def Reply.toGo : Reply → Nat
  | .sent _ => 5
  | .posted _ => 4
  | .taken _ => 3
  | _ => 0

def Activity.calls : Activity → Nat
  | .acting a => a.calls
  | .replying _ => 0

def Activity.toGo : Activity → Nat
  | .acting a => a.toGo
  | .replying r => r.toGo

/-- How many listeners are still to be called when all of these go on. -/
def Then.allCalls : List Then → Nat
  | [] => 0
  | k :: rest => k.calls + allCalls rest

def Task.calls (task : Task) : Nat := task.activity.calls + Then.allCalls task.pending

/-- There are fewer listeners to be called, or the next call is nearer. -/
def Task.IsBelow (task' task : Task) : Prop :=
  task'.calls < task.calls ∨ task'.calls = task.calls ∧ task'.activity.toGo < task.activity.toGo

def Transition.calls : Transition → Nat
  | .go a => a.calls
  | .call a k => a.calls + k.calls
  | .reply _ => 0

def Transition.toGo : Transition → Nat
  | .go a | .call a _ => a.toGo
  | .reply r => r.toGo

def Transition.isAtTransport : Transition → Bool
  | .go a | .call a _ => a.isAtTransport
  | .reply _ => false

theorem Task.calls_advance (task : Task) (next : Transition) :
    (task.advance next).calls = next.calls + Then.allCalls task.pending := by
  cases next with
  | go a => rfl
  | call a k =>
      show a.calls + (k.calls + Then.allCalls task.pending) = a.calls + k.calls + _
      rw [Nat.add_assoc]
  | reply r => rfl

theorem Task.toGo_advance (task : Task) (next : Transition) :
    (task.advance next).activity.toGo = next.toGo := by
  cases next <;> rfl

theorem Action.isAtTransport_of_sent {a : Action} (about : a.topic? = some .sent) :
    a.isAtTransport = true := by
  cases a <;> first | rfl | cases about

namespace Node

variable {n n' n₀ : Node} {id : TaskId} {a : Action} {next : Transition} {m : Move}
  {ms : List Move} {task base : Task} {last topic lower : Topic} {frames : List Then}
  {activity : Activity} {k : Then} {loop : Loop} {s : Station} {table : MappingTable}
  {cs : List (Bus.Change Listener)}

/-- The task has ended, or waits for a transport. -/
def IsHeld (n : Node) (id : TaskId) : Prop :=
  n.tasks.get? id = none ∨ ∃ a, n.actionOf? id = some a ∧ a.isAtTransport = true

/-- Left to itself, a task ends or gets to a transport. -/
def Arrives (n : Node) (id : TaskId) : Prop :=
  ∃ k n', n.run (List.replicate k (.step id)) = some n' ∧ n'.IsHeld id

theorem Arrives.now (h : n.IsHeld id) : n.Arrives id := ⟨0, n, rfl, h⟩

theorem Arrives.step (hstep : n.step id = some n') (h : n'.Arrives id) : n.Arrives id := by
  obtain ⟨k, n'', hrun, hheld⟩ := h
  refine ⟨k + 1, n'', ?_, hheld⟩
  rw [List.replicate_succ, run, move, hstep]
  exact hrun

/-! ## One step -/

/-- **With each step of a delivery less is left of it.** -/
theorem Passes.below (h : Passes n a next) (off : a.isAtTransport = false) :
    next.isAtTransport = true ∨ next.calls < a.calls ∨
      next.calls = a.calls ∧ next.toGo < a.toGo := by
  cases h with
  | goesOn about | sends about =>
      rw [Action.isAtTransport_of_sent about] at off
      cases off
  | posts => exact .inl rfl
  | fails => exact .inr (.inr ⟨rfl, by simp [Transition.toGo, Reply.toGo, Action.toGo]⟩)
  | @calls d s rest remaining =>
      refine .inr (.inr ⟨?_, Nat.one_pos⟩)
      show 1 + rest.length = d.remaining.length
      rw [remaining, List.length_cons, Nat.add_comm]
  | @ends d remaining =>
      refine .inr (.inr ⟨?_, Nat.one_pos⟩)
      show 0 = d.remaining.length
      rw [remaining, List.length_nil]
  | forwards | takes | wakes => exact .inr (.inl Nat.one_pos)
  | behaves quiet less => exact .inr (.inr ⟨rfl, Nat.add_lt_add_right less 4⟩)
  | @answers name behaviour taken =>
      exact .inr (.inr ⟨rfl, Nat.lt_of_lt_of_le (Nat.lt_succ_self 3) (Nat.le_add_left 4 _)⟩)

theorem below_of_resume {r : Reply} (about : r.topic? = some lower)
    (turns : k.turns? = some (lower, topic)) (tame : n.TameAfter k)
    (h : n.resume k r = (n', next)) : next.calls = k.calls ∧ next.toGo < r.toGo := by
  cases k with
  | posted | forwarded =>
      cases turns
      cases r <;> cases about
      cases h
      exact ⟨rfl, Nat.lt_succ_self _⟩
  | handed d =>
      cases turns
      cases r <;> cases about
      cases h
      exact ⟨rfl, by simp [Transition.toGo, Action.toGo, Reply.toGo]⟩
  | published => exact tame.elim
  | _ => cases turns

theorem Speaking.headway (h : Speaking n id base last frames activity) (bare : base.outbox = none)
    (tame : n.IsTame id) (hshared : Shared table n) (hstep : n.step id = some n')
    (inside : frames = [] → ∃ a, activity = .acting a)
    (off : ∀ a, activity = .acting a → a.isAtTransport = false) :
    ∃ task', n'.tasks.get? id = some task' ∧
      ((∃ a, task'.activity = .acting a ∧ a.isAtTransport = true) ∨
        task'.IsBelow { base with activity, pending := frames ++ base.pending }) := by
  have htame := tame _ h.found
  obtain ⟨topic, hspeaks, hchain⟩ := h.chain
  cases activity with
  | acting a =>
      obtain ⟨after, next, hact, rfl⟩ := of_step_acting h.found bare rfl hstep
      have hpasses := passes_of_act hspeaks hact (htame.acting a rfl) hshared.quiet
      refine ⟨_, found_setTask .., ?_⟩
      rcases hpasses.below (off a rfl) with hat | hbelow
      · left
        cases next with
        | go a' | call a' k => exact ⟨a', rfl, hat⟩
        | reply r => cases hat
      · right
        unfold Task.IsBelow
        rw [Task.calls_advance, Task.toGo_advance]
        rcases hbelow with hless | ⟨hsame, hless⟩
        · exact .inl (Nat.add_lt_add_right hless _)
        · exact .inr ⟨congrArg (· + _) hsame, hless⟩
  | replying r =>
      cases hchain with
      | nil =>
          obtain ⟨a, ha⟩ := inside rfl
          cases ha
      | @cons k _ _ _ rest turns chain =>
          cases hspeaks with
          | replying about =>
              obtain ⟨after, next, hres, rfl⟩ := of_step_replying h.found bare rfl rfl hstep
              obtain ⟨hcalls, hless⟩ :=
                below_of_resume about turns (htame.pending k (.head _)) hres
              refine ⟨_, found_setTask .., .inr (.inr ⟨?_, ?_⟩)⟩
              · rw [Task.calls_advance, hcalls]
                show _ = 0 + (k.calls + Then.allCalls (rest ++ base.pending))
                rw [Nat.zero_add]
                rfl
              · rw [Task.toGo_advance]
                exact hless

/-! ## The loop -/

/-- A loop goes on unless it waits for a transport. -/
theorem Relayed.goesOn (h : Relayed table cs n₀ loop ms n s) :
    n.tasks.get? loop.id = none ∨ (n.step loop.id).isSome = true ∨
      ∃ a, n.actionOf? loop.id = some a ∧ a.isAtTransport = true := by
  obtain ⟨running, hbridge⟩ := h.intake.bridge
  cases h.intake.stands with
  | gone found => exact .inl found
  | @spreading frames activity speaking on =>
      have htame := h.tame rfl _ speaking.found
      obtain ⟨topic, hspeaks, hchain⟩ := speaking.chain
      right
      cases hspeaks with
      | replying about => exact .inl (step_isSome_of_reply speaking.found rfl rfl)
      | @acting a _ about =>
          have hacts : n.actionOf? loop.id = some a := actionOf?_of_bare speaking.found rfl
          cases a with
          | send | offered | transmit | held | onLink => exact .inr ⟨_, hacts, rfl⟩
          | publish => exact (htame.acting _ rfl).elim
          | deliver | hand | behave => exact .inl (step_isSome_of_act speaking.found rfl rfl rfl)
          | post b message =>
              obtain ⟨bridge, hfound⟩ := htame.acting _ rfl b rfl
              refine .inl (step_isSome_of_act speaking.found rfl rfl ?_)
              simp only [act, post, hfound, Option.bind_eq_bind, Option.bind_some,
                Option.isSome_map]
              split <;> rfl
          | _ => cases about
  | within is found =>
      right
      have hacts := actionOf?_of_bare found (Loop.bare_of_task? is)
      cases s with
      | spreading | gone => cases is
      | answered | left =>
          cases is
          exact .inl (step_isSome_of_reply found rfl rfl)
      | publishing | resting | leaving =>
          cases is
          exact .inl (step_isSome_of_act found rfl rfl rfl)
      | listening =>
          cases is
          refine .inl (step_isSome_of_act found rfl rfl ?_)
          simp only [act, listen, hbridge, Option.bind_eq_bind, Option.bind_some, Option.isSome_map]
          split <;> rfl
      | asking | fetching | reading =>
          cases is
          exact .inr ⟨_, hacts, rfl⟩

/-- What can be said of every next node, if there is one, can be said now. -/
theorem Relayed.arrives_next (h : Relayed table cs n₀ loop ms n s) (hrun : n₀.run ms = some n)
    (hnext : ∀ n' s', n₀.run (ms ++ [.step loop.id]) = some n' →
      Relayed table cs n₀ loop (ms ++ [.step loop.id]) n' s' → Turn n loop s s' →
      n.step loop.id = some n' → n'.Arrives loop.id) : n.Arrives loop.id := by
  rcases h.goesOn with hgone | hsome | hat
  · exact .now (.inl hgone)
  · obtain ⟨n', hstep⟩ := Option.isSome_iff_exists.mp hsome
    obtain ⟨s', h', hturn⟩ := h.step hrun hstep
    exact .step hstep (hnext n' s' (run_snoc.mpr ⟨n, hrun, hstep⟩) h' hturn hstep)
  · exact .now (.inr hat)

theorem Relayed.arrives_asking (h : Relayed table cs n₀ loop ms n s)
    (hs : s = .asking ∨ s = .fetching ∨ s = .reading) : n.Arrives loop.id := by
  cases h.intake.stands with
  | gone => simp at hs
  | spreading => simp at hs
  | within is found =>
      have hacts := actionOf?_of_bare found (Loop.bare_of_task? is)
      rcases hs with rfl | rfl | rfl <;> cases is <;> exact .now (.inr ⟨_, hacts, rfl⟩)

theorem Relayed.arrives_gone (h : Relayed table cs n₀ loop ms n .gone) : n.Arrives loop.id := by
  cases h.intake.stands with
  | within is => cases is
  | gone found => exact .now (.inl found)

theorem Relayed.arrives_leaving (h : Relayed table cs n₀ loop ms n s) (hrun : n₀.run ms = some n)
    (hs : s = .leaving ∨ s = .left) : n.Arrives loop.id := by
  have hleft : ∀ {ms n}, n₀.run ms = some n → Relayed table cs n₀ loop ms n .left →
      n.Arrives loop.id := by
    intro ms n hrun h
    refine h.arrives_next hrun ?_
    intro n' s' _ h' hturn _
    cases hturn
    exact h'.arrives_gone
  rcases hs with rfl | rfl
  · refine h.arrives_next hrun ?_
    intro n' s' hrun' h' hturn _
    cases hturn
    exact hleft hrun' h'
  · exact hleft hrun h

theorem Relayed.arrives_listening (h : Relayed table cs n₀ loop ms n s)
    (hrun : n₀.run ms = some n) (hs : s = .listening ∨ s = .resting) : n.Arrives loop.id := by
  have hlistening : ∀ {ms n}, n₀.run ms = some n → Relayed table cs n₀ loop ms n .listening →
      n.Arrives loop.id := by
    intro ms n hrun h
    refine h.arrives_next hrun ?_
    intro n' s' hrun' h' hturn _
    cases hturn with
    | listens => exact h'.arrives_asking (.inl rfl)
    | stops => exact h'.arrives_leaving hrun' (.inl rfl)
  rcases hs with rfl | rfl
  · exact hlistening hrun h
  · refine h.arrives_next hrun ?_
    intro n' s' hrun' h' hturn _
    cases hturn
    exact hlistening hrun' h'

/-- A delivery comes to an end, or to a transport. -/
theorem Relayed.arrives_spreading (calls toGo : Nat) :
    ∀ {ms n task}, n₀.run ms = some n → Relayed table cs n₀ loop ms n .spreading →
      n.tasks.get? loop.id = some task → task.calls = calls → task.activity.toGo = toGo →
      n.Arrives loop.id := by
  -- The listeners that are left count first, then what is left of the one that is called.
  induction calls using Nat.strongRecOn generalizing toGo with
  | ind calls ihCalls =>
      induction toGo using Nat.strongRecOn with
      | ind toGo ihToGo =>
          intro ms n task hrun h found hcalls htoGo
          cases h.intake.stands with
          | within is => cases is
          | @spreading frames activity speaking on =>
              cases found.symm.trans speaking.found
              by_cases hat : ∃ a, activity = .acting a ∧ a.isAtTransport = true
              · obtain ⟨a, rfl, hat⟩ := hat
                exact .now (.inr ⟨a, actionOf?_of_bare speaking.found rfl, hat⟩)
              · have hoff : ∀ a, activity = .acting a → a.isAtTransport = false := by
                  intro a ha
                  exact Bool.eq_false_iff.mpr fun htrue => hat ⟨a, ha, htrue⟩
                refine h.arrives_next hrun ?_
                intro n' s' hrun' h' hturn hstep
                cases hturn with
                | returns => exact h'.arrives_listening hrun' (.inl rfl)
                | spreads =>
                    by_cases hinside : frames = [] → ∃ a, activity = .acting a
                    · obtain ⟨task', found', hheadway⟩ :=
                        speaking.headway rfl (h.tame rfl) h.hub.shared hstep hinside hoff
                      rcases hheadway with ⟨a, hacting, hat'⟩ | hless | ⟨hsame, hless⟩
                      · have hacts : n'.actionOf? loop.id = some a := by
                          rw [actionOf?_of_bare found' (h'.intake.stands.bare found'), hacting]
                          rfl
                        exact .now (.inr ⟨a, hacts, hat'⟩)
                      · exact ihCalls _ (hcalls ▸ hless) _ hrun' h' found' rfl rfl
                      · exact ihToGo _ (htoGo ▸ hless) hrun' h' found' (hsame.trans hcalls) rfl
                    · obtain ⟨rfl, hreplying⟩ := Classical.not_imp.mp hinside
                      cases activity with
                      | acting a => exact absurd ⟨a, rfl⟩ hreplying
                      | replying r =>
                          obtain ⟨after, next, hres, rfl⟩ :=
                            of_step_replying speaking.found rfl rfl rfl hstep
                          cases hres
                          cases h'.intake.stands with
                          | within is => cases is
                          | spreading speaking' =>
                              have hsame := (found_setTask ..).symm.trans speaking'.found
                              simp [Task.advance, Loop.publisher, Loop.task] at hsame

/-- **Left to itself, a loop gets to a transport again, or to its end.** -/
theorem Relayed.arrives (h : Relayed table cs n₀ loop ms n s) (hrun : n₀.run ms = some n) :
    n.Arrives loop.id := by
  have hspreading : ∀ {ms n}, n₀.run ms = some n → Relayed table cs n₀ loop ms n .spreading →
      n.Arrives loop.id := by
    intro ms n hrun h
    cases h.intake.stands with
    | within is => cases is
    | spreading speaking => exact Relayed.arrives_spreading _ _ hrun h speaking.found rfl rfl
  have hpublishing : ∀ {ms n message}, n₀.run ms = some n →
      Relayed table cs n₀ loop ms n (.publishing message) → n.Arrives loop.id := by
    intro ms n message hrun h
    refine h.arrives_next hrun ?_
    intro n' s' hrun' h' hturn _
    cases hturn
    exact hspreading hrun' h'
  cases s with
  | asking => exact h.arrives_asking (.inl rfl)
  | fetching => exact h.arrives_asking (.inr (.inl rfl))
  | reading => exact h.arrives_asking (.inr (.inr rfl))
  | listening => exact h.arrives_listening hrun (.inl rfl)
  | resting => exact h.arrives_listening hrun (.inr rfl)
  | leaving => exact h.arrives_leaving hrun (.inl rfl)
  | left => exact h.arrives_leaving hrun (.inr rfl)
  | gone => exact h.arrives_gone
  | spreading => exact hspreading hrun h
  | publishing message => exact hpublishing hrun h
  | answered result =>
      refine h.arrives_next hrun ?_
      intro n' s' hrun' h' hturn _
      cases hturn with
      | takes => exact hpublishing hrun' h'
      | skips => exact h'.arrives_listening hrun' (.inl rfl)
      | rests => exact h'.arrives_listening hrun' (.inr rfl)
      | fails => exact h'.arrives_leaving hrun' (.inl rfl)

end Node

end TelemetryRelay
