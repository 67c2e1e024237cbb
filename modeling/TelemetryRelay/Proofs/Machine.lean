import Mathlib.Data.List.Induction

/-!
# Runs of a machine

A machine is a partial step function: what one event does to a state, or that it
cannot happen.  What holds at the start and is kept by every step holds at the
end of every run.  `history` remembers in which state each event of a run
happened, so that a statement can speak about the past.
-/

namespace TelemetryRelay.Machine

variable {σ ε : Type} {step : σ → ε → Option σ} {s₀ s s' : σ} {e : ε} {es es' : List ε}

/-- All events of a run, one after the other. -/
def run (step : σ → ε → Option σ) : σ → List ε → Option σ
  | s, [] => some s
  | s, e :: es => (step s e).bind fun next => run step next es

/-- The events of a run, each with the state it met. -/
def history (step : σ → ε → Option σ) : σ → List ε → List (σ × ε)
  | _, [] => []
  | s, e :: es => (s, e) ::
      match step s e with
      | some next => history step next es
      | none => []

theorem run_append (s : σ) (es es' : List ε) :
    run step s (es ++ es') = (run step s es).bind fun next => run step next es' := by
  induction es generalizing s with
  | nil => rfl
  | cons e es ih => cases h : step s e <;> simp [run, h, ih]

theorem run_snoc :
    run step s₀ (es ++ [e]) = some s' ↔ ∃ s, run step s₀ es = some s ∧ step s e = some s' := by
  simp only [run_append, Option.bind_eq_some_iff]
  constructor
  · rintro ⟨s, hrun, hlast⟩
    obtain ⟨next, hnext, hend⟩ := Option.bind_eq_some_iff.mp hlast
    cases hend
    exact ⟨s, hrun, hnext⟩
  · rintro ⟨s, hrun, hstep⟩
    exact ⟨s, hrun, by simp [run, hstep]⟩

theorem history_append (hrun : run step s₀ es = some s) :
    history step s₀ (es ++ es') = history step s₀ es ++ history step s es' := by
  induction es generalizing s₀ with
  | nil =>
      cases hrun
      rfl
  | cons e es ih =>
      obtain ⟨next, hnext, hrest⟩ := Option.bind_eq_some_iff.mp hrun
      simp only [List.cons_append, history, hnext, ih hrest]

theorem history_snoc (hrun : run step s₀ es = some s) :
    history step s₀ (es ++ [e]) = history step s₀ es ++ [(s, e)] := by
  rw [history_append hrun, history]
  cases step s e <;> rfl

/-- What a run adds up to event by event. -/
theorem filterMap_history_snoc {β : Type} (f : σ × ε → Option β) (hrun : run step s₀ es = some s) :
    (history step s₀ (es ++ [e])).filterMap f =
      (history step s₀ es).filterMap f ++ (f (s, e)).toList := by
  rw [history_snoc hrun, List.filterMap_append]
  congr 1

/-- What the start has and every step keeps. -/
theorem run_induction {P : List ε → σ → Prop} (hstart : P [] s₀)
    (hstep : ∀ es e s s', run step s₀ es = some s → P es s → step s e = some s' →
      P (es ++ [e]) s')
    (hrun : run step s₀ es = some s) : P es s := by
  induction es using List.reverseRecOn generalizing s with
  | nil =>
      cases hrun
      exact hstart
  | append_singleton es e ih =>
      obtain ⟨before, hbefore, hlast⟩ := run_snoc.mp hrun
      exact hstep es e before s hbefore (ih hbefore) hlast

end TelemetryRelay.Machine
