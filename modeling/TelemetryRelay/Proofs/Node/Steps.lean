import TelemetryRelay.Node.Run
import TelemetryRelay.Proofs.Machine

/-!
# The rules and the runs of a node

A step of a task is one of four things: its action goes on, a reply is taken up
by what waits for it, the task ends, or it is halted with its outbox.  A node is a
machine, its moves being the steps of its tasks and what comes from outside, so
what every move keeps holds at the end of every run.
-/

namespace TelemetryRelay.Node

variable {n n' n₀ : Node} {id : TaskId} {m : Move} {ms ms' : List Move}

inductive Step (n : Node) (id : TaskId) : Node → Prop
  | halt {task : Task} {t : TransportId} {after : Node} (found : n.tasks.get? id = some task)
      (outbox : task.outbox = some t) (halts : n.haltSender id t = some after) :
      Step n id (after.endTask id)
  | act {task : Task} {a : Action} {after : Node} {next : Transition}
      (found : n.tasks.get? id = some task) (goesOn : task.outbox.bind (n.haltSender id) = none)
      (acting : task.activity = .acting a) (acts : n.act id a = some (after, next)) :
      Step n id (after.setTask id (task.advance next))
  | finish {task : Task} {reply : Reply} (found : n.tasks.get? id = some task)
      (goesOn : task.outbox.bind (n.haltSender id) = none)
      (replying : task.activity = .replying reply) (last : task.pending = []) :
      Step n id (n.finish id task.label reply)
  | resume {task : Task} {reply : Reply} {k : Then} {pending : List Then} {after : Node}
      {next : Transition} (found : n.tasks.get? id = some task)
      (goesOn : task.outbox.bind (n.haltSender id) = none)
      (replying : task.activity = .replying reply) (waits : task.pending = k :: pending)
      (resumes : n.resume k reply = (after, next)) :
      Step n id (after.setTask id ({ task with pending }.advance next))

theorem Step.of_step (h : n.step id = some n') : Step n id n' := by
  obtain ⟨task, hfound, h⟩ := Option.bind_eq_some_iff.mp h
  split at h
  · rename_i after hhalts
    obtain ⟨t, houtbox, hhalts⟩ := Option.bind_eq_some_iff.mp hhalts
    cases h
    exact .halt hfound houtbox hhalts
  · rename_i hgoesOn
    split at h
    · rename_i a _ hacting
      obtain ⟨⟨after, next⟩, hacts, h⟩ := Option.map_eq_some_iff.mp h
      cases h
      exact .act hfound hgoesOn hacting hacts
    · rename_i reply hreplying hlast
      cases h
      exact .finish hfound hgoesOn hreplying hlast
    · rename_i reply k pending hreplying hwaits
      cases h
      exact .resume hfound hgoesOn hreplying hwaits rfl

/-! ## Runs -/

/-- The moves of a run, each with the node it met. -/
def history (n : Node) (ms : List Move) : List (Node × Move) := Machine.history move n ms

theorem run_eq (n : Node) (ms : List Move) : n.run ms = Machine.run move n ms := by
  induction ms generalizing n with
  | nil => rfl
  | cons m ms ih => simp only [run, Machine.run, ih]

theorem run_snoc :
    n₀.run (ms ++ [m]) = some n' ↔ ∃ n, n₀.run ms = some n ∧ n.move m = some n' := by
  simp only [run_eq]
  exact Machine.run_snoc

theorem history_cons (hmove : n.move m = some n') :
    history n (m :: ms) = (n, m) :: history n' ms := by
  simp only [history, Machine.history, hmove]

theorem history_append (hrun : n₀.run ms = some n) :
    history n₀ (ms ++ ms') = history n₀ ms ++ history n ms' := by
  rw [run_eq] at hrun
  exact Machine.history_append hrun

theorem history_snoc (hrun : n₀.run ms = some n) :
    history n₀ (ms ++ [m]) = history n₀ ms ++ [(n, m)] := by
  rw [run_eq] at hrun
  exact Machine.history_snoc hrun

theorem filterMap_history_snoc {β : Type} (f : Node × Move → Option β)
    (hrun : n₀.run ms = some n) : (history n₀ (ms ++ [m])).filterMap f =
      (history n₀ ms).filterMap f ++ (f (n, m)).toList := by
  rw [run_eq] at hrun
  exact Machine.filterMap_history_snoc f hrun

theorem run_induction {P : List Move → Node → Prop} (hstart : P [] n₀)
    (hmove : ∀ ms m n n', n₀.run ms = some n → P ms n → n.move m = some n' → P (ms ++ [m]) n')
    (hrun : n₀.run ms = some n) : P ms n := by
  simp only [run_eq] at hrun hmove
  exact Machine.run_induction hstart hmove hrun

end TelemetryRelay.Node
