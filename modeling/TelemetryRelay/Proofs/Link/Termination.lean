import TelemetryRelay.Proofs.Link.Runs

/-!
# A link that was terminated

A termination closes the link and then lets go of its connection.  From there on
no connection comes, not even from a dial that was under way, and the calls wind
up: whatever a call was waiting for, it is over after a few steps and its outcome
is that the link is closed.
-/

namespace TelemetryRelay.Link

open Wire

variable {l l' l₀ : Link} {e : Event} {es : List Event} {id : CallId} {c c' : Call} {g seen : Nat}
  {work : Work} {lane : Lane}

/-- The first termination has returned. -/
structure Terminated (l : Link) : Prop where
  sound : Sound l
  closed : l.closed = true
  slot : l.slot = none

/-- How many steps a call takes at most before it finds a link closed that was terminated. -/
def Phase.stepsLeft : Phase → Nat
  | .done _ => 0
  | .ready | .failed .. | .waiting _ | .pausing _ => 1
  | .entering .. | .working .. | .dialling => 2

/-- The outcome of the call is that the link is closed, or it has come nearer to it. -/
def Phase.windsUp (before after : Phase) : Prop :=
  after = .done (.failed .closed) ∨ after.pending = true ∧ after.stepsLeft < before.stepsLeft

theorem Phase.stepsLeft_of_lane? {p : Phase} (h : p.lane? = some (g, seen)) : p.stepsLeft = 2 := by
  cases p <;> first | rfl | cases h

theorem Terminated.of_detach (h : Sound l) (hstep : Step l .detach l') : Terminated l' := by
  have hsound := h.step hstep
  cases hstep with
  | detach closed => exact ⟨hsound, l.closed_abandon.trans closed, l.slot_abandon⟩

theorem Terminated.not_open (h : Terminated l) : l.closed ≠ false := by
  rw [h.closed]
  simp

/-- Nobody is served any more: there is no connection that is not abandoned. -/
theorem Terminated.not_live (h : Terminated l) : l.shared.abandoned? g ≠ some false := by
  intro hlive
  have hslot := (h.sound.installed g).mp hlive
  rw [h.slot] at hslot
  cases hslot

theorem Terminated.not_holds (h : Terminated l) : ¬ Holds l id c g seen work lane := by
  intro hholds
  have hslot := h.sound.slot_of_holds hholds
  rw [h.slot] at hslot
  cases hslot

/-- A link stays as its termination left it. -/
theorem Terminated.step (h : Terminated l) (hstep : Step l e l') :
    Terminated l' ∧ l'.generation = l.generation := by
  have hsound := h.sound.step hstep
  cases hstep with
  | enterFirst call phase turn closed => exact absurd closed h.not_open
  | dialledOpen call phase closed => exact absurd closed h.not_open
  | close closed => exact absurd closed h.not_open
  | detach closed =>
      exact ⟨⟨hsound, l.closed_abandon.trans closed, l.slot_abandon⟩, l.generation_abandon⟩
  | _ => exact ⟨⟨hsound, h.closed, h.slot⟩, rfl⟩

/-- Every step of a pending call brings it nearer to its end. -/
theorem Terminated.windsUp_step (h : Terminated l) (hstep : Step l e l') (hid : e.call? = some id)
    (hcall : l.calls.get? id = some c) (hpending : c.phase.pending = true)
    (hkept : e ≠ .drop id) :
    ∃ c', l'.calls.get? id = some c' ∧ c.phase.windsUp c'.phase := by
  cases hstep with
  | call fresh =>
      cases hid
      rw [fresh] at hcall
      cases hcall
  | cancel | lookClosed | judgeClosed =>
      cases hid
      exact ⟨_, by simp; rfl, .inl rfl⟩
  | lose call phase =>
      cases hid
      rw [call] at hcall
      cases hcall
      refine ⟨_, by simp; rfl, .inr ⟨rfl, ?_⟩⟩
      rw [Phase.stepsLeft_of_lane? phase]
      exact Nat.one_lt_two
  | dialledError call phase | dialledClosed call phase =>
      cases hid
      rw [call] at hcall
      cases hcall
      refine ⟨_, by simp; rfl, .inr ⟨rfl, ?_⟩⟩
      rw [phase]
      exact Nat.one_lt_two
  | @ask _ _ g _ lane call phase found live =>
      exact absurd (show l.shared.abandoned? g = some false by simp [shared, found, live]) h.not_live
  | wrote holds | flushed holds | filled holds | parseMore holds | parseFrame holds
  | parseError holds | ended holds | broke holds => exact absurd holds h.not_holds
  | lookSome call phase closed | lookNone call phase closed | judgeStuck call phase closed
  | judgeSpent call phase closed | judgeRetry call phase closed | enterLate call phase turn closed
  | enterFirst call phase turn closed | dial call phase ripe closed
  | dialledOpen call phase closed => exact absurd closed h.not_open
  | collect call phase =>
      cases hid
      rw [call] at hcall
      cases hcall
      rw [phase] at hpending
      cases hpending
  | drop =>
      cases hid
      exact absurd rfl hkept
  | close | detach => cases hid

/-- A call that is done was done before, or has found the link closed. -/
theorem Terminated.outcome_step (h : Terminated l) (hstep : Step l e l')
    (hcall : l'.calls.get? id = some c') {outcome : Outcome} (hphase : c'.phase = .done outcome) :
    outcome = .failed .closed ∨ l.calls.get? id = some c' := by
  by_cases hid : e.call? = some id
  · left
    rcases hstep.own hid with ⟨job, rfl⟩ | ⟨c, hc⟩
    · have hleaves := hstep.leaves hid hcall
      rw [hphase] at hleaves
      cases hleaves
    · have hpending : c.phase.pending = true := by
        cases hdone : c.phase with
        | done =>
            rw [hstep.gone_of_done hid hc hdone] at hcall
            cases hcall
        | _ => rfl
      have hkept : e ≠ .drop id := by
        rintro rfl
        cases hstep with
        | drop => simp at hcall
      obtain ⟨d, hd, hwinds⟩ := h.windsUp_step hstep hid hc hpending hkept
      rw [hcall] at hd
      cases hd
      rw [hphase] at hwinds
      rcases hwinds with hclosed | ⟨hstill, -⟩
      · exact Phase.done.inj hclosed
      · cases hstill
  · rw [hstep.calls_of_ne hid] at hcall
    exact .inr hcall

theorem Terminated.run (h : Terminated l₀) (hrun : l₀.run es = some l) :
    Terminated l ∧ l.generation = l₀.generation ∧
      ∀ id c outcome, l.calls.get? id = some c → c.phase = .done outcome →
        outcome = .failed .closed ∨ l₀.calls.get? id = some c := by
  refine run_induction (P := fun _ l => Terminated l ∧ l.generation = l₀.generation ∧
    ∀ id c outcome, l.calls.get? id = some c → c.phase = .done outcome →
      outcome = .failed .closed ∨ l₀.calls.get? id = some c) ?_ ?_ hrun
  · exact ⟨h, rfl, fun id c outcome hcall _ => .inr hcall⟩
  · rintro es e l l' - ⟨hover, hgeneration, hbefore⟩ hstep
    obtain ⟨hover', hgeneration'⟩ := hover.step hstep
    refine ⟨hover', hgeneration'.trans hgeneration, ?_⟩
    intro id c outcome hcall hphase
    rcases hover.outcome_step hstep hcall hphase with hclosed | hold
    · exact .inl hclosed
    · exact hbefore id c outcome hold hphase

/-- **Terminated for good.** Once the first termination has returned, whatever
happens then: the link has no connection and gets none, its generation stays,
and a call that is done has found the link closed unless it was done before.
A pending call can always end so at once, and whichever other step it takes
brings it nearer to that end.  Another termination finds nothing to do. -/
theorem terminated_for_good {connection : ConnectionName} {canDial : Bool} {pause budget : Nat}
    {later : List Event} (hrun : (start connection canDial pause budget).run es = some l₀)
    (hdetach : l₀.step .detach = some l) (hlater : l.run later = some l') :
    (l'.closed = true ∧ l'.isConnected = false ∧ l'.generation = l.generation ∧
      ∀ g, l'.shared.abandoned? g ≠ some false) ∧
    (∀ id c outcome, l'.calls.get? id = some c → c.phase = .done outcome →
      outcome = .failed .closed ∨ l.calls.get? id = some c) ∧
    (∀ id c, l'.calls.get? id = some c → c.phase.pending = true →
      (∃ l'', l'.step (.cancel id) = some l'' ∧
        l''.calls.get? id = some { c with phase := .done (.failed .closed) }) ∧
      ∀ e l'', l'.step e = some l'' → e.call? = some id → e ≠ .drop id →
        ∃ c', l''.calls.get? id = some c' ∧ c.phase.windsUp c'.phase) ∧
    l'.step .close = none ∧ l'.step .detach = some l' := by
  have hover := Terminated.of_detach (sound_of_run hrun) (step_iff.mp hdetach)
  obtain ⟨hover', hgeneration, houtcome⟩ := hover.run hlater
  refine ⟨⟨hover'.closed, ?_, hgeneration, fun _ => hover'.not_live⟩, houtcome, ?_, ?_, ?_⟩
  · simp [isConnected, hover'.slot]
  · intro id c hcall hpending
    constructor
    · refine ⟨_, step_iff.mpr (.cancel hcall ?_ hover'.closed), by simp⟩
      intro outcome hdone
      rw [hdone] at hpending
      cases hpending
    · intro e l'' hstep hid hkept
      exact hover'.windsUp_step (step_iff.mp hstep) hid hcall hpending hkept
  · simp [step, hover'.closed]
  · simp [step, hover'.closed, Link.abandon, hover'.slot]

/-- The dial of a receive ends well after the link was terminated. -/
theorem terminated_for_good_late_dial :
    ∃ l₀ l l' c, (start "a" true 0 1).run [.call 1 .receive, .look 1, .ask 1, .ended 1, .judge 1,
        .enter 1 0, .dial 1 0, .close] = some l₀ ∧
      l₀.step .detach = some l ∧ l.run [.dialled 1 (.ok "b"), .look 1] = some l' ∧
      l'.isConnected = false ∧ l'.generation = 1 ∧
      l'.calls.get? 1 = some c ∧ c.phase = .done (.failed .closed) := by
  have hlate : ∃ l₀ l l' c outcome, (start "a" true 0 1).run [.call 1 .receive, .look 1, .ask 1,
        .ended 1, .judge 1, .enter 1 0, .dial 1 0, .close] = some l₀ ∧
      l₀.step .detach = some l ∧ l.run [.dialled 1 (.ok "b"), .look 1] = some l' ∧
      l.generation = 1 ∧ l'.calls.get? 1 = some c ∧ c.phase = .done outcome ∧
      (l.calls.get? 1).map (·.phase) = some .dialling :=
    ⟨_, _, _, _, _, rfl, rfl, rfl, rfl, rfl, rfl, rfl⟩
  obtain ⟨l₀, l, l', c, outcome, hrun, hdetach, hlater, hgeneration, hcall, hphase, hdialling⟩ :=
    hlate
  obtain ⟨⟨-, hconnected, hstays, -⟩, houtcome, -⟩ := terminated_for_good hrun hdetach hlater
  refine ⟨l₀, l, l', c, hrun, hdetach, hlater, hconnected, hstays.trans hgeneration, hcall, ?_⟩
  rcases houtcome 1 c outcome hcall hphase with hclosed | hbefore
  · rw [hphase, hclosed]
  · rw [hbefore, Option.map_some, hphase] at hdialling
    cases hdialling

end TelemetryRelay.Link
