import TelemetryRelay.Proofs.Mapping.RoundTrip
import TelemetryRelay.Proofs.Node.Advertising
import TelemetryRelay.Proofs.Node.Relaying

/-!
# The send that a message comes to

A task that sends a message through a bridge looks for the frame of the message first.
Without a frame it is back at once, with nothing else changed.  With a frame it hands that to
the transport of the bridge once, waits for what becomes of it, and comes back with that.  So
a message is refused as unmapped, or as too large, exactly if it is.
-/

namespace TelemetryRelay

open Wire

namespace Node

/-- A task was at sending a message, with `base` to go back to.  This is how far it has come with
the frame, and what it has handed to the transport for it. -/
inductive Posts (n : Node) (id : TaskId) (base : Task) (t : TransportId) (f : Frame) :
    List (TransportId × Frame) → Prop
  | ready (found : n.tasks.get? id = some
        { base with activity := .acting (.send t f), pending := .posted :: base.pending }) :
      Posts n id base t f []
  | sending {activity : Activity}
      (found : n.tasks.get? id = some { base with activity, pending := .posted :: base.pending })
      (speaks : Speaks n id activity .sent)
      (on : ∀ a, activity = .acting a → a.opens = false) : Posts n id base t f [(t, f)]
  | back {result : Except LinkError Unit} (found : n.tasks.get? id =
        some { base with activity := .replying (.posted (result.mapError .link)) }) :
      Posts n id base t f [(t, f)]
  | gone {sent : List (TransportId × Frame)} (found : n.tasks.get? id = none)
      (within : sent <+: [(t, f)]) : Posts n id base t f sent

variable {n n' n₁ : Node} {id : TaskId} {a : Action} {m : Move} {ms : List Move} {b : BridgeId}
  {base : Task} {bridge : Bridge} {message : Message} {t : TransportId} {f : Frame}
  {sent : List (TransportId × Frame)} {next : Transition} {e : BridgeError}

/-! ## The first step -/

theorem step_of_post (found : n.tasks.get? id = some base)
    (acts : n.actionOf? id = some (.post b message))
    (hbridge : n.bridges.get? b = some bridge) : n.step id = some (n.setTask id (base.advance
      (match bridge.table.frameOf message with
        | .error e => .reply (.posted (.error e))
        | .ok f => .call (.send bridge.transport f) .posted))) := by
  rw [step_of_actionOf? found acts]
  simp only [act, post, hbridge, Option.bind_eq_bind, Option.bind_some]
  cases bridge.table.frameOf message <;> rfl

/-- Without a frame the task is back at once. -/
theorem step_of_unframed (found : n.tasks.get? id = some base)
    (acts : n.actionOf? id = some (.post b message)) (hbridge : n.bridges.get? b = some bridge)
    (hframe : bridge.table.frameOf message = .error e) : n.step id =
      some (n.setTask id { base with activity := .replying (.posted (.error e)) }) := by
  rw [step_of_post found acts hbridge, hframe]
  rfl

/-- With a frame it is about to hand that to the transport. -/
theorem step_of_framed (found : n.tasks.get? id = some base)
    (acts : n.actionOf? id = some (.post b message)) (hbridge : n.bridges.get? b = some bridge)
    (hframe : bridge.table.frameOf message = .ok f) :
    ∃ n₁, n.step id = some n₁ ∧ Posts n₁ id base bridge.transport f [] := by
  rw [step_of_post found acts hbridge, hframe]
  exact ⟨_, rfl, .ready (found_setTask ..)⟩

/-! ## What the others do -/

theorem Posts.beside (h : Posts n id base t f sent) (hn : Numbered n) (hid : id < n.fresh)
    (hmove : n.move m = some n') (hother : m ≠ .step id) : Posts n' id base t f sent := by
  have htask := task_of_move hn hmove hid hother
  cases h with
  | ready found => exact .ready (htask.trans found)
  | sending found speaks on =>
      exact .sending (htask.trans found) (speaks.beside hn hmove hother) on
  | back found => exact .back (htask.trans found)
  | gone found within => exact .gone (htask.trans found) within

/-! ## What the task does -/

/-- What one step of sending leads to. -/
theorem Leads.posts {activity : Activity} (h : Leads n id .sent next) : Posts
    (n.setTask id ({ base with activity, pending := .posted :: base.pending }.advance next))
    id base t f [(t, f)] := by
  cases h with
  | go speaks on =>
      refine .sending (found_setTask ..) (speaks.setTask _) ?_
      rintro a' ⟨⟩
      exact on
  | @call a k lower speaks turns => cases k <;> cases turns
  | reply about =>
      refine .sending (found_setTask ..) (.replying about) ?_
      rintro a' ⟨⟩

/-- Handing over is one step, and what follows hands over nothing. -/
theorem Posts.step (h : Posts n id base t f sent)
    (hinside : ∀ r, n.tasks.get? id ≠ some { base with activity := .replying r })
    (hstep : n.step id = some n') :
    Posts n' id base t f (sent ++ (sends? id (n, .step id)).toList) := by
  -- A task that sends for an outbox may be halted with it at any step, before or after the send.
  have hgone {sent : List (TransportId × Frame)} (hwithin : sent <+: [(t, f)])
      (hnone : n'.tasks.get? id = none) :
      Posts n' id base t f (sent ++ (sends? id (n, .step id)).toList) := by
    have hacts := actionOf?_of_gone hstep hnone
    refine .gone hnone ?_
    simpa [sends?, hacts] using hwithin
  cases h with
  | ready found =>
      rcases step_of_acting found rfl hstep with hnone | ⟨after, next, hact, hacts, rfl⟩
      · exact hgone List.nil_prefix hnone
      · have hsends : sends? id (n, .step id) = some (t, f) := by simp [sends?, hacts, Action.sent?]
        rw [hsends]
        exact (act_leads (speaks_of_topic rfl (by simp)) hact).posts
  | @sending activity found speaks on =>
      cases activity with
      | acting a =>
          rcases step_of_acting found rfl hstep with hnone | ⟨after, next, hact, hacts, rfl⟩
          · exact hgone (List.prefix_refl _) hnone
          · have hsends : sends? id (n, .step id) = none := by
              simp [sends?, hacts, sent?_of_on (on a rfl)]
            rw [hsends]
            exact (act_leads speaks hact).posts
      | replying r =>
          have hsends : sends? id (n, .step id) = none := by
            have hnone : n.actionOf? id = none := actionOf?_of_replying found rfl
            simp [sends?, hnone]
          rcases step_of_replying found rfl rfl hstep with hnone | ⟨after, next, hresume, -, rfl⟩
          · exact hgone (List.prefix_refl _) hnone
          · rw [hsends]
            cases speaks with
            | replying about =>
                cases r with
                | sent result =>
                    cases hresume
                    exact .back (found_setTask ..)
                | _ => cases about
  | back found => exact absurd found (hinside _)
  | gone found => cases Step.of_step hstep <;> simp_all

theorem Posts.within (h : Posts n id base t f sent) : sent <+: [(t, f)] := by
  cases h with
  | ready => exact List.nil_prefix
  | sending | back => exact List.prefix_refl _
  | gone found within => exact within

/-- A task that is back has handed the frame over, and says what became of it. -/
theorem Posts.returns {r : Reply} (h : Posts n id base t f sent)
    (hback : n.tasks.get? id = some { base with activity := .replying r }) :
    sent = [(t, f)] ∧ ∃ result : Except LinkError Unit, r = .posted (result.mapError .link) := by
  cases h with
  | ready found => cases found.symm.trans hback
  | sending found =>
      have hpending : Then.posted :: base.pending = base.pending :=
        congrArg Task.pending (Option.some.inj (found.symm.trans hback))
      exact absurd hpending (List.cons_ne_self _ _)
  | back found =>
      cases found.symm.trans hback
      exact ⟨rfl, _, rfl⟩
  | gone found => cases found.symm.trans hback

/-- What it may have to say then is that the transport failed. -/
theorem Posts.error_of_back (h : Posts n id base t f sent)
    (hback : n.tasks.get? id = some { base with activity := .replying (.posted (.error e)) }) :
    ∃ e', e = .link e' := by
  obtain ⟨-, result, hresult⟩ := h.returns hback
  cases result with
  | error e' =>
      cases hresult
      exact ⟨e', rfl⟩
  | ok => cases hresult

/-! ## Runs -/

/-- A run that goes as far as the first reply ends there. -/
theorem eq_nil_of_back {r : Reply}
    (hback : n₁.tasks.get? id = some { base with activity := .replying r })
    (hrun : n₁.run ms = some n)
    (hfirst : ∀ x ∈ history n₁ ms, ∀ r,
      x.1.tasks.get? id ≠ some { base with activity := .replying r }) : ms = [] := by
  cases ms with
  | nil => rfl
  | cons m ms =>
      obtain ⟨n₂, hmove, -⟩ := Option.bind_eq_some_iff.mp hrun
      refine absurd hback (hfirst (n₁, m) ?_ r)
      rw [history_cons hmove]
      exact .head _

/-- **Until it is back a task hands over one frame at most, and it is not back before.** -/
theorem posts_of_run (hn : Numbered n₁) (hid : id < n₁.fresh) (hstart : Posts n₁ id base t f [])
    (hrun : n₁.run ms = some n)
    (hfirst : ∀ x ∈ history n₁ ms, ∀ r,
      x.1.tasks.get? id ≠ some { base with activity := .replying r }) :
    Posts n id base t f ((history n₁ ms).filterMap (sends? id)) := by
  -- The run keeps numbers apart, so that nobody else gets hold of the task.
  suffices h : Numbered n ∧ id < n.fresh ∧
      Posts n id base t f ((history n₁ ms).filterMap (sends? id)) from h.2.2
  refine run_induction (P := fun ms n => (∀ x ∈ history n₁ ms, ∀ r,
    x.1.tasks.get? id ≠ some { base with activity := .replying r }) →
      Numbered n ∧ id < n.fresh ∧
        Posts n id base t f ((history n₁ ms).filterMap (sends? id))) ?_ ?_ hrun hfirst
  · exact fun _ => ⟨hn, hid, hstart⟩
  · intro ms m n n' hrun ih hmove hfirst
    rw [history_snoc hrun] at hfirst
    obtain ⟨hn, hid, h⟩ := ih fun x hx => hfirst x (List.mem_append_left _ hx)
    refine ⟨hn.move hmove, Nat.lt_of_lt_of_le hid (spares_move hn hmove).fresh, ?_⟩
    rw [filterMap_history_snoc _ hrun]
    by_cases hown : m = .step id
    · subst hown
      exact h.step (hfirst (n, .step id) (by simp)) hmove
    · rw [sends?_of_other hown]
      simpa using h.beside hn hid hmove hown

section Called

variable (found : n.tasks.get? id = some base) (acts : n.actionOf? id = some (.post b message))
  (hbridge : n.bridges.get? b = some bridge) (hrun : n.run (.step id :: ms) = some n')
  (hfirst : ∀ x ∈ history n (.step id :: ms), ∀ r,
    x.1.tasks.get? id ≠ some { base with activity := .replying r })

include found acts hbridge hrun hfirst

/-- **A message without a frame is refused, and nothing else happens.** -/
theorem refused_of_run (hframe : bridge.table.frameOf message = .error e) :
    n' = n.setTask id { base with activity := .replying (.posted (.error e)) } ∧
      (history n (.step id :: ms)).filterMap (sends? id) = [] := by
  obtain ⟨n₁, hmove, hrest⟩ := Option.bind_eq_some_iff.mp hrun
  have hstep : n.step id = some n₁ := hmove
  rw [step_of_unframed found acts hbridge hframe] at hstep
  obtain rfl := Option.some.inj hstep
  rw [history_cons hmove] at hfirst ⊢
  obtain rfl : ms = [] :=
    eq_nil_of_back (found_setTask ..) hrest fun x hx => hfirst x (.tail _ hx)
  refine ⟨(Option.some.inj hrest).symm, ?_⟩
  have hsends : sends? id (n, .step id) = none := by simp [sends?, acts, Action.sent?]
  simp [history, Machine.history, hsends]

/-- **A message with a frame is handed over as that frame.** -/
theorem posts_of_post (hn : Numbered n) (hframe : bridge.table.frameOf message = .ok f) :
    Posts n' id base bridge.transport f
      ((history n (.step id :: ms)).filterMap (sends? id)) := by
  obtain ⟨n₁, hmove, hrest⟩ := Option.bind_eq_some_iff.mp hrun
  obtain ⟨n₁', hstep, hstart⟩ := step_of_framed found acts hbridge hframe
  obtain rfl : n₁ = n₁' := Option.some.inj (Eq.trans (Eq.symm hmove) hstep)
  have hid : id < n₁.fresh :=
    Nat.lt_of_lt_of_le (hn.lt_of_task found) (spares_move hn hmove).fresh
  rw [history_cons hmove] at hfirst ⊢
  have hsends : sends? id (n, .step id) = none := by simp [sends?, acts, Action.sent?]
  rw [List.filterMap_cons_none hsends]
  exact posts_of_run (hn.move hmove) hid hstart hrest fun x hx => hfirst x (.tail _ hx)

end Called

/-! ## What a message comes to -/

/-- What has become of a message that a task was to send through a bridge, after a run from `n`
to `n'` that goes no further than to the reply. -/
structure Outcome (n : Node) (id : TaskId) (base : Task) (bridge : Bridge) (message : Message)
    (sent : List (TransportId × Frame)) (n' : Node) : Prop where
  unmapped : ∀ type : String, n'.tasks.get? id =
      some { base with activity := .replying (.posted (.error (.unmapped type))) } ↔
    ¬ bridge.table.Maps message ∧ type = message.family.name
  oversized : ∀ e : FrameError, n'.tasks.get? id =
      some { base with activity := .replying (.posted (.error (.frame e))) } ↔
    bridge.table.Maps message ∧ 127 < message.encode.length ∧ e = .oversized message.encode.length
  refused : ¬ bridge.table.Maps message ∨ 127 < message.encode.length →
    sent = [] ∧ ∃ task, n' = n.setTask id task
  handed : ∀ f : Frame, bridge.table.frameOf message = .ok f → sent <+: [(bridge.transport, f)] ∧
    ∀ r, n'.tasks.get? id = some { base with activity := .replying r } →
      sent = [(bridge.transport, f)]

theorem outcome_of_refused (hframe : bridge.table.frameOf message = .error e) :
    Outcome n id base bridge message []
      (n.setTask id { base with activity := .replying (.posted (.error e)) }) := by
  have hback (r : Reply) :
      (n.setTask id { base with activity := .replying (.posted (.error e)) }).tasks.get? id =
        some { base with activity := .replying r } ↔ r = .posted (.error e) := by
    simp [found_setTask, eq_comm]
  have hnone (f : Frame) : bridge.table.frameOf message ≠ .ok f := by simp [hframe]
  rcases MappingTable.frameOf_eq_error.mp hframe with ⟨hunmapped, rfl⟩ | ⟨hmaps, hlarge, rfl⟩
  · refine ⟨?_, ?_, fun _ => ⟨rfl, _, rfl⟩, fun f hf => absurd hf (hnone f)⟩
    · simp [hback, hunmapped]
    · simp [hback, hunmapped]
  · refine ⟨?_, ?_, fun _ => ⟨rfl, _, rfl⟩, fun f hf => absurd hf (hnone f)⟩
    · simp [hback, hmaps]
    · intro e
      simp only [hback, hmaps, true_and, Reply.posted.injEq, Except.error.injEq,
        BridgeError.frame.injEq]
      exact ⟨fun h => ⟨hlarge, h⟩, And.right⟩

theorem Posts.outcome (h : Posts n' id base bridge.transport f sent)
    (hframe : bridge.table.frameOf message = .ok f) :
    Outcome n id base bridge message sent n' := by
  obtain ⟨hmaps, hfits⟩ := MappingTable.maps_of_frameOf hframe
  -- The transport has errors of its own, and these are no others.
  refine ⟨fun type => ⟨fun hback => ?_, fun hnot => absurd hmaps hnot.1⟩,
    fun e => ⟨fun hback => ?_, fun hnot => absurd hnot.2.1 (Nat.not_lt.mpr hfits)⟩, ?_, ?_⟩
  · obtain ⟨e', he'⟩ := h.error_of_back hback
    cases he'
  · obtain ⟨e', he'⟩ := h.error_of_back hback
    cases he'
  · rintro (hunmapped | hlarge)
    · exact absurd hmaps hunmapped
    · exact absurd hlarge (Nat.not_lt.mpr hfits)
  · intro f' hframe'
    cases hframe.symm.trans hframe'
    exact ⟨h.within, fun r hback => (h.returns hback).1⟩

/-- **A message is refused exactly if it has no frame, and else handed over once.** -/
theorem outcome_of_run (hn : Numbered n) (hbridge : n.bridges.get? b = some bridge)
    (found : n.tasks.get? id = some base) (acts : n.actionOf? id = some (.post b message))
    (hrun : n.run (.step id :: ms) = some n')
    (hfirst : ∀ x ∈ history n (.step id :: ms), ∀ r,
      x.1.tasks.get? id ≠ some { base with activity := .replying r }) :
    Outcome n id base bridge message ((history n (.step id :: ms)).filterMap (sends? id)) n' := by
  cases hframe : bridge.table.frameOf message with
  | error e =>
      obtain ⟨rfl, hnothing⟩ := refused_of_run found acts hbridge hrun hfirst hframe
      rw [hnothing]
      exact outcome_of_refused hframe
  | ok f => exact (posts_of_post found acts hbridge hrun hfirst hn hframe).outcome hframe

end Node

end TelemetryRelay
