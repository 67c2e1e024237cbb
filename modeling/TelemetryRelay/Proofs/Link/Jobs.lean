import TelemetryRelay.Proofs.Link.Runs

/-!
# Calls do what they came for

A call keeps its job until its caller takes the outcome or gives it up: one that
came to send never reads a frame, and one that came to receive never writes.
-/

namespace TelemetryRelay.Link

open Wire

/-- A call with that job may be in that phase. -/
def Job.allows : Job → Phase → Bool
  | .send _, .working _ _ (.reading _) | .send _, .done (.received _) => false
  | .receive, .working _ _ (.writing _) | .receive, .done .sent => false
  | _, _ => true

/-- A call does what it came for. -/
def Call.Suits (c : Call) : Prop := c.job.allows c.phase = true

/-- An event of a call that has come in and is not given up. -/
def Event.underWay : Event → Bool
  | .call .. | .drop _ | .close | .detach => false
  | _ => true

variable {l l' : Link} {e : Event} {id : CallId} {c c' : Call}

theorem Job.allows_work (job : Job) (g seen : Nat) : job.allows (.working g seen job.work) = true := by
  cases job <;> rfl

theorem Call.Suits.writes {g seen : Nat} {rest : Bytes} (h : c.Suits)
    (hphase : c.phase = .working g seen (.writing rest)) : ∃ bytes, c.job = .send bytes := by
  cases hjob : c.job with
  | send bytes => exact ⟨bytes, rfl⟩
  | receive =>
      rw [Suits, hjob, hphase] at h
      cases h

theorem Call.Suits.reads {g seen : Nat} {progress : Progress} (h : c.Suits)
    (hphase : c.phase = .working g seen (.reading progress)) : c.job = .receive := by
  cases hjob : c.job with
  | receive => rfl
  | send bytes =>
      rw [Suits, hjob, hphase] at h
      cases h

/-- A call goes on with its job unless its caller takes the outcome or gives it up. -/
theorem Step.stays (h : Step l e l') (hcall : l.calls.get? id = some c) (hcollect : e ≠ .collect id)
    (hdrop : e ≠ .drop id) :
    ∃ c', l'.calls.get? id = some c' ∧ c'.job = c.job ∧ (c.Suits → c'.Suits) := by
  by_cases hid : e.call? = some id
  · cases h with
    | call fresh =>
        cases hid
        rw [fresh] at hcall
        cases hcall
    | collect =>
        cases hid
        exact absurd rfl hcollect
    | drop =>
        cases hid
        exact absurd rfl hdrop
    | close | detach => cases hid
    | filled holds =>
        cases hid
        exact ⟨c, hcall, rfl, fun hsuits => hsuits⟩
    | ask call =>
        cases hid
        cases call.symm.trans hcall
        exact ⟨_, Assoc.get?_set_self .., rfl, fun _ => c.job.allows_work _ _⟩
    | wrote holds =>
        cases hid
        cases holds.call.symm.trans hcall
        refine ⟨_, Assoc.get?_set_self .., rfl, fun hsuits => ?_⟩
        obtain ⟨bytes, hjob⟩ := hsuits.writes holds.phase
        simp only [Call.Suits, hjob]
        rfl
    | flushed holds =>
        cases hid
        cases holds.call.symm.trans hcall
        refine ⟨_, Assoc.get?_set_self .., rfl, fun hsuits => ?_⟩
        obtain ⟨bytes, hjob⟩ := hsuits.writes holds.phase
        simp only [Call.Suits, hjob]
        rfl
    | parseMore holds =>
        cases hid
        cases holds.call.symm.trans hcall
        refine ⟨_, Assoc.get?_set_self .., rfl, fun hsuits => ?_⟩
        simp only [Call.Suits, hsuits.reads holds.phase]
        rfl
    | parseFrame holds =>
        cases hid
        cases holds.call.symm.trans hcall
        refine ⟨_, Assoc.get?_set_self .., rfl, fun hsuits => ?_⟩
        simp only [Call.Suits, hsuits.reads holds.phase]
        rfl
    | parseError holds | ended holds | broke holds =>
        cases hid
        cases holds.call.symm.trans hcall
        refine ⟨_, Assoc.get?_set_self .., rfl, fun _ => ?_⟩
        unfold Call.Suits
        cases c.job <;> rfl
    | cancel call | lookClosed call | lookSome call | lookNone call | lose call | judgeClosed call
    | judgeStuck call | judgeSpent call | judgeRetry call | enterLate call | enterFirst call
    | dial call | dialledError call | dialledClosed call | dialledOpen call =>
        cases hid
        cases call.symm.trans hcall
        refine ⟨_, Assoc.get?_set_self .., rfl, fun _ => ?_⟩
        unfold Call.Suits
        cases c.job <;> rfl
  · exact ⟨c, by rw [h.calls_of_ne hid, hcall], rfl, fun hsuits => hsuits⟩

/-- A call has just come in, or it was there and goes on with its job. -/
theorem Step.comes (h : Step l e l') (hcall : l'.calls.get? id = some c') :
    (∃ job, e = .call id job ∧ c' = { job }) ∨
      ∃ c, l.calls.get? id = some c ∧ c'.job = c.job ∧ (c.Suits → c'.Suits) := by
  by_cases hid : e.call? = some id
  · rcases h.own hid with ⟨job, rfl⟩ | ⟨c, hc⟩
    · cases h with
      | call fresh =>
          left
          exact ⟨job, rfl, Assoc.eq_of_get?_set hcall⟩
    · have hgone : l'.calls.get? id ≠ none := by simp [hcall]
      have hcollect : e ≠ .collect id := by
        rintro rfl
        cases h with
        | collect => exact hgone (by simp)
      have hdrop : e ≠ .drop id := by
        rintro rfl
        cases h with
        | drop => exact hgone (by simp)
      obtain ⟨c'', hc'', hjob, hsuits⟩ := h.stays hc hcollect hdrop
      cases hcall.symm.trans hc''
      exact .inr ⟨c, hc, hjob, hsuits⟩
  · right
    exact ⟨c', by rw [← h.calls_of_ne hid, hcall], rfl, fun hsuits => hsuits⟩

/-- All calls do what they came for. -/
def AllSuit (l : Link) : Prop := ∀ id c, l.calls.get? id = some c → c.Suits

theorem AllSuit.step (h : AllSuit l) (hstep : Step l e l') : AllSuit l' := by
  intro id c' hc'
  rcases hstep.comes hc' with ⟨job, -, rfl⟩ | ⟨c, hc, -, hsuits⟩
  · cases job <;> rfl
  · exact hsuits (h id c hc)

theorem allSuit_of_run {connection : ConnectionName} {canDial : Bool} {pause budget : Nat}
    {es : List Event} (hrun : (start connection canDial pause budget).run es = some l) :
    AllSuit l := by
  refine run_induction (P := fun _ l => AllSuit l) ?_ ?_ hrun
  · intro id c hc
    cases hc
  · intro es e l l' _ hbefore hstep
    exact hbefore.step hstep

end TelemetryRelay.Link
