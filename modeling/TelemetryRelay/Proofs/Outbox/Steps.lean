import TelemetryRelay.Outbox
import TelemetryRelay.Proofs.Machine

/-!
# The rules and the runs of an outbox

`Step` lists all that can happen to an outbox, one rule for each outcome of an
event, and `step_iff` says that the rules are exactly the steps.  An outbox is a
machine, so what every step keeps holds at the end of every run.
-/

namespace TelemetryRelay.Outbox

open Wire

inductive Step (o : Outbox) : Event → Outbox → Prop
  | offer {id : CallId} {f : Frame} (new : o.line.any (·.1 == id) = false) :
      Step o (.offer id f) { o with line := o.line ++ [(id, f)] }
  | accept {id : CallId} {p : CallId × Frame} (found : o.line.find? (·.1 == id) = some p)
      (admitted : o.isAdmitted id = true) (works : o.sender ≠ .stopped) :
      Step o (.accept id) { o.leave id with queue := o.queue ++ [p.2] }
  | refuse {id : CallId} (waits : o.line.any (·.1 == id) = true)
      (useless : o.closed = true ∨ o.sender = .stopped) : Step o (.refuse id) (o.leave id)
  | take {f : Frame} {rest : List Frame} (idle : o.sender = .idle) (queued : o.queue = f :: rest) :
      Step o .take { o with sender := .sending f, queue := rest }
  | sent {f : Frame} {now : Nat} (sending : o.sender = .sending f) :
      Step o (.sent .ok now) { o with sender := .idle }
  | keep {f : Frame} {now : Nat} (sending : o.sender = .sending f) :
      Step o (.sent (.failed true) now)
        { o with sender := .pausing f (now + o.retryPause) }
  | giveUp {f : Frame} {outcome : Sent} {now : Nat} (sending : o.sender = .sending f)
      (lost : outcome = .closed ∨ outcome = .failed false) : Step o (.sent outcome now) o.stop
  | retry {f : Frame} {due now : Nat} (pausing : o.sender = .pausing f due) (ripe : due ≤ now) :
      Step o (.retry now) { o with sender := .sending f }
  | halt (closed : o.closed = true) (works : o.sender ≠ .stopped) : Step o .halt o.stop
  | close (opened : o.closed = false) : Step o .close { o with closed := true }

variable {o o' o₀ : Outbox} {e : Event} {es : List Event}

theorem Step.of_step (h : o.step e = some o') : Step o e o' := by
  cases e with
  | offer id f =>
      simp only [step] at h
      split at h
      · cases h
      · rename_i hnew
        cases h
        exact .offer (Bool.eq_false_iff.mpr hnew)
  | accept id =>
      simp only [step] at h
      split at h
      · rename_i hfound
        split at h
        · rename_i hadmitted
          cases h
          exact .accept hfound hadmitted.1 hadmitted.2
        · cases h
      · cases h
  | refuse id =>
      simp only [step] at h
      split at h
      · rename_i hover
        cases h
        exact .refuse hover.1 hover.2
      · cases h
  | take =>
      simp only [step] at h
      split at h
      · rename_i hidle hqueue
        cases h
        exact .take hidle hqueue
      · cases h
  | sent outcome now =>
      simp only [step] at h
      split at h
      · rename_i hsending
        split at h <;> cases h
        · exact .sent hsending
        · exact .giveUp hsending (.inl rfl)
        · exact .keep hsending
        · exact .giveUp hsending (.inr rfl)
      · cases h
  | retry now =>
      simp only [step] at h
      split at h
      · rename_i hpausing
        split at h
        · rename_i hripe
          cases h
          exact .retry hpausing hripe
        · cases h
      · cases h
  | halt =>
      simp only [step] at h
      split at h
      · rename_i hclosed
        cases h
        exact .halt hclosed.1 hclosed.2
      · cases h
  | close =>
      simp only [step] at h
      split at h
      · cases h
      · rename_i hopen
        cases h
        exact .close (by simpa using hopen)

/-- The rules are the steps. -/
theorem step_iff : o.step e = some o' ↔ Step o e o' := by
  constructor
  · exact Step.of_step
  · intro h
    cases h with
    | offer new => simp only [step, new, Bool.false_eq_true, if_false]
    | @accept id p found admitted works => simp [step, found, admitted, works]
    | giveUp sending lost =>
        obtain rfl | rfl := lost <;> simp [step, sending]
    | _ => simp_all [step]

/-! ## What a step leaves alone -/

/-- The producer that an event is about. -/
def Event.producer? : Event → Option CallId
  | .offer id _ | .accept id | .refuse id => some id
  | _ => none

/-- Whether a producer stands in line. -/
def hasInLine (o : Outbox) (id : CallId) : Bool := o.line.any (·.1 == id)

@[simp] theorem hasInLine_leave (o : Outbox) (id : CallId) : (o.leave id).hasInLine id = false := by
  simp [hasInLine, leave]

/-- A producer comes and goes by what is about itself. -/
theorem Step.hasInLine (h : Step o e o') {id : CallId} (hother : e.producer? ≠ some id) :
    o'.hasInLine id = o.hasInLine id := by
  have hleave {j : CallId} (hne : j ≠ id) : (o.leave j).hasInLine id = o.hasInLine id := by
    simp only [Outbox.hasInLine, leave, List.any_filter]
    congr 1
    funext p
    by_cases hp : p.1 = id <;> simp [hp, Ne.symm hne]
  cases h with
  | offer new =>
      have hne : _ ≠ id := fun heq => hother (congrArg some heq)
      simp [Outbox.hasInLine, hne]
  | accept found => exact hleave fun heq => hother (congrArg some heq)
  | refuse waits => exact hleave fun heq => hother (congrArg some heq)
  | _ => rfl

theorem Step.closed (h : Step o e o') (hclosed : o.closed = true) : o'.closed = true := by
  cases h with
  | close => rfl
  | _ => exact hclosed

/-- The sender is where it was, unless the event is its own. -/
theorem Step.sender (h : Step o e o') (hother : e = .close ∨ e.producer? ≠ none) :
    o'.sender = o.sender := by
  cases h with
  | offer | accept | refuse | close => rfl
  | _ => simp [Event.producer?] at hother

/-- A sender that has stopped is never heard of again. -/
theorem Step.stopped (h : Step o e o') (hstopped : o.sender = .stopped) :
    o'.sender = .stopped := by
  cases h with
  | offer | accept | refuse | close => exact hstopped
  | giveUp | halt => rfl
  | take hidle => cases hstopped.symm.trans hidle
  | sent hsending | keep hsending => cases hstopped.symm.trans hsending
  | retry hpausing => cases hstopped.symm.trans hpausing

/-- With the sender goes what is in the queue, and nothing comes into it any more. -/
theorem Step.emptied (h : Step o e o') (hempty : o.sender = .stopped → o.queue = [])
    (hstopped : o'.sender = .stopped) : o'.queue = [] := by
  cases h with
  | giveUp | halt => rfl
  | accept found admitted works => exact absurd hstopped works
  | offer | refuse | close => exact hempty hstopped
  | take | sent | keep | retry => cases hstopped

/-! ## Runs -/

/-- The events of a run, each with the outbox it met. -/
def history (o : Outbox) (es : List Event) : List (Outbox × Event) := Machine.history step o es

theorem run_eq (o : Outbox) (es : List Event) : o.run es = Machine.run step o es := by
  induction es generalizing o with
  | nil => rfl
  | cons e es ih => simp only [run, Machine.run, ih]

/-- What a run adds up to event by event. -/
theorem filterMap_history_snoc {β : Type} (f : Outbox × Event → Option β)
    (hrun : o₀.run es = some o) :
    (history o₀ (es ++ [e])).filterMap f = (history o₀ es).filterMap f ++ (f (o, e)).toList := by
  rw [run_eq] at hrun
  exact Machine.filterMap_history_snoc f hrun

theorem run_induction {P : List Event → Outbox → Prop} (hstart : P [] o₀)
    (hstep : ∀ es e o o', o₀.run es = some o → P es o → Step o e o' → P (es ++ [e]) o')
    (hrun : o₀.run es = some o) : P es o := by
  simp only [run_eq, ← step_iff] at hrun hstep
  exact Machine.run_induction hstart hstep hrun

end TelemetryRelay.Outbox
