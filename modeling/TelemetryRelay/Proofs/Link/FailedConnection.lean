import TelemetryRelay.Proofs.Link.Lines

/-!
# What becomes of a failed connection

A call whose read or write failed drops the connection only when it gets to the
gate.  Until then, and for good if its budget is spent, the failed connection
stays installed and serves every call that comes.
-/

namespace TelemetryRelay.Link

open Wire

variable {l l' l₀ : Link} {e : Event} {es : List Event} {id : CallId} {c : Call} {g seen k : Nat}
  {work : Work} {lane : Lane}

/-! ## The call that failed -/

/-- As long as the connection stays, a call that has seen no epoch but the present
one sees no other. -/
theorem Sound.seen_of_slot (h : Sound l₀) (hslot₀ : l₀.slot = some g)
    (hseen₀ : ∀ c seen, l₀.calls.get? id = some c → c.phase.seen? = some seen → seen = l₀.epoch)
    (hrun : l₀.run es = some l) (hslot : l.slot = some g) {c : Call} {seen : Nat}
    (hcall : l.calls.get? id = some c) (hseen : c.phase.seen? = some seen) : seen = l₀.epoch := by
  refine run_induction (P := fun _ l => l.slot = some g → ∀ c seen, l.calls.get? id = some c →
    c.phase.seen? = some seen → seen = l₀.epoch) ?_ ?_ hrun hslot c seen hcall hseen
  · intro _ c seen hcall hseen
    exact hseen₀ c seen hcall hseen
  · intro es e l l' hrun hbefore hstep hslot' c' seen' hcall' hseen'
    have hsound := h.run hrun
    rcases h.slot_or_dropped hslot₀ hrun with ⟨hslot, hepoch, -⟩ | ⟨habandoned, -⟩
    · rcases hstep.of_seen hcall' hseen' with hnow | ⟨c, hcall, hseen⟩
      · exact hnow.trans hepoch
      · exact hbefore hslot c seen' hcall hseen
    · exact absurd hslot'
        ((hsound.step hstep).slot_ne_of_abandoned (hsound.abandoned_step hstep habandoned))

/-- The failing call drops the connection when it gets to the gate, unless that was
done before. -/
theorem Sound.slot_ne_of_enter (h : Sound l₀) (hslot₀ : l₀.slot = some g)
    (hseen₀ : ∀ c seen, l₀.calls.get? id = some c → c.phase.seen? = some seen → seen = l₀.epoch)
    (hrun : l₀.run es = some l) {now : Nat} (henter : .enter id now ∈ es) : l.slot ≠ some g := by
  refine run_induction (P := fun es l => .enter id now ∈ es → l.slot ≠ some g) ?_ ?_ hrun henter
  · intro hmem
    cases hmem
  · intro es e l l' hrun hbefore hstep hmem
    have hsound := h.run hrun
    rcases h.slot_or_dropped hslot₀ hrun with ⟨hslot, hepoch, -⟩ | ⟨habandoned, -⟩
    · rcases List.mem_append.mp hmem with hmem | hmem
      · exact absurd hslot (hbefore hmem)
      · rw [List.mem_singleton] at hmem
        subst hmem
        cases hstep with
        | enterLate call phase turn closed late =>
            -- A late call saw an earlier epoch, and in this one only the present was to be seen.
            have hnow := h.seen_of_slot hslot₀ hseen₀ hrun hslot call (by rw [phase]; rfl)
            exact absurd (hepoch.trans hnow.symm) late
        | enterFirst =>
            intro hslot'
            have hnone : l.abandon.slot = some g := hslot'
            rw [slot_abandon] at hnone
            cases hnone
    · exact (hsound.step hstep).slot_ne_of_abandoned (hsound.abandoned_step hstep habandoned)

/-! ## The call that comes next -/

/-- A call that comes while a connection is installed is put on it. -/
theorem Sound.next_call (h : Sound l) (hslot : l.slot = some g) (hopen : l.closed = false)
    {job : Job} (hnew : l.calls.get? id = none)
    (hfree : ∀ lane, l.lanes.get? g = some lane → lane.line job.work = []) :
    ∃ l' lane, l.run [.call id job, .look id, .ask id] = some l' ∧
      Holds l' id { job, phase := .working g l.epoch job.work } g l.epoch job.work lane := by
  obtain ⟨lane, hlane, hlive⟩ : ∃ lane, l.lanes.get? g = some lane ∧ lane.abandoned = false :=
    Option.map_eq_some_iff.mp ((h.installed g).mpr hslot)
  let l₁ := l.setCall id { job }
  let l₂ := l₁.setCall id { job, phase := .entering g l.epoch }
  let l₃ := (l₂.onLane g fun lane => lane.join id job.work).setCall id
    { job, phase := .working g l.epoch job.work }
  have hcall : Step l (.call id job) l₁ := .call hnew
  have hlook : Step l₁ (.look id) l₂ := .lookSome (c := { job }) (by simp [l₁]) rfl hopen hslot
  have hask : Step l₂ (.ask id) l₃ :=
    .ask (c := { job, phase := .entering g l.epoch }) (by simp [l₂]) rfl hlane hlive
  refine ⟨l₃, lane.join id job.work, ?_, ?_⟩
  · exact run_cons hcall (run_cons hlook (run_cons hask rfl))
  · have hlane₂ : l₂.lanes.get? g = some lane := hlane
    constructor
    · simp [l₃]
    · rfl
    · show (l₂.lanes.modify g _).get? g = _
      simp [hlane₂]
    · rw [Lane.line_join, if_pos rfl, hfree lane hlane]
      rfl
    · rw [Lane.abandoned_join]
      exact hlive

/-! ## From the failure on -/

/-- The read or write of a call fails on a connection. -/
structure Fails (l : Link) (e : Event) (l' : Link) (id : CallId) (c : Call) (g seen : Nat)
    (cause : FrameError) : Prop where
  step : l.step e = some l'
  holds : ∃ work lane, Holds l id c g seen work lane
  failed : l'.calls.get? id = some { c with phase := .failed seen cause }

theorem Fails.kept {cause : FrameError} (h : Fails l e l' id c g seen cause) : ¬ l.Drops e := by
  intro hdrops
  obtain ⟨work, lane, hholds⟩ := h.holds
  have hother : e.call? ≠ some id := by
    cases e with
    | enter j now =>
        obtain ⟨d, hd, hphase⟩ := hdrops
        rintro hid
        cases hid
        rw [hholds.call] at hd
        cases hd
        rw [hholds.phase] at hphase
        cases hphase
    | detach => simp [Event.call?]
    | _ => cases hdrops
  have hfailed := h.failed
  rw [(step_iff.mp h.step).calls_of_ne hother, hholds.call] at hfailed
  have hphase := congrArg Call.phase (Option.some.inj hfailed)
  rw [hholds.phase] at hphase
  cases hphase

/-- The failure changes nothing that other calls see: the connection stays. -/
theorem Sound.shared_of_fails {cause : FrameError} (h : Sound l)
    (hfails : Fails l e l' id c g seen cause) :
    l'.shared = l.shared ∧ l.slot = some g ∧ seen = l.epoch := by
  obtain ⟨work, lane, hholds⟩ := hfails.holds
  have hslot := h.slot_of_holds hholds
  have hshared := h.shared_of_kept (step_iff.mp hfails.step) hslot hfails.kept
  exact ⟨hshared, hslot, h.seen_of_holds hholds⟩

/-- **A failed connection is used until it is dropped.** After a read or write
failed, no call is on that connection any more once an event has dropped it.
Until then it is the installed one and the next call is put on it.  The failing
call drops it when it gets to the gate; if its budget is spent it does not go
there, and leaves the connection to the calls after it. -/
theorem failed_connection_until_dropped {connection : ConnectionName} {pause budget : Nat}
    {cause : FrameError} {l₁ : Link} (hrun : (start connection true pause budget).run es = some l)
    (hfails : Fails l e l₁ id c g seen cause) :
    (∀ later l₂, l₁.run later = some l₂ →
      ((∃ p ∈ history l₁ later, p.1.Drops p.2) →
        ∀ j d s work lane, ¬ Holds l₂ j d g s work lane) ∧
      ((∀ p ∈ history l₁ later, ¬ p.1.Drops p.2) → l₂.slot = some g ∧
        ∀ j job, l₂.closed = false → l₂.calls.get? j = none →
          (∀ lane, l₂.lanes.get? g = some lane → lane.line job.work = []) →
          ∃ l₃ lane, l₂.run [.call j job, .look j, .ask j] = some l₃ ∧
            Holds l₃ j { job, phase := .working g seen job.work } g seen job.work lane) ∧
      ∀ now, .enter id now ∈ later → ∃ p ∈ history l₁ later, p.1.Drops p.2) ∧
    (l₁.closed = false →
      (budget ≤ c.attempts → ∃ l₂, l₁.step (.judge id) = some l₂ ∧ l₂.slot = some g ∧
        l₂.calls.get? id =
          some { c with phase := .done (.failed (.exhausted c.attempts cause)) }) ∧
      (c.attempts < budget → ∃ l₂, l₁.step (.judge id) = some l₂ ∧ id ∈ l₂.gate ∧
        l₂.calls.get? id =
          some { c with phase := .waiting seen, attempts := c.attempts + 1 })) := by
  have hsound := sound_of_run hrun
  have hsound₁ := hsound.step (step_iff.mp hfails.step)
  obtain ⟨hshared, hslot, hseen⟩ := hsound.shared_of_fails hfails
  have hslot₁ : l₁.slot = some g := (congrArg Shared.slot hshared).trans hslot
  have hepoch₁ : seen = l₁.epoch := hseen.trans (congrArg Shared.epoch hshared).symm
  constructor
  · intro later l₂ hlater
    have hsound₂ := hsound₁.run hlater
    refine ⟨?_, ?_, ?_⟩
    · rintro ⟨p, hp, hdrops⟩ j d s work lane hholds
      rcases hsound₁.slot_or_dropped hslot₁ hlater with ⟨-, -, hkept⟩ | ⟨habandoned, -⟩
      · exact hkept p hp hdrops
      · exact hsound₂.slot_ne_of_abandoned habandoned (hsound₂.slot_of_holds hholds)
    · intro hkept
      rcases hsound₁.slot_or_dropped hslot₁ hlater with ⟨hslot₂, hepoch₂, -⟩ | ⟨-, p, hp, hdrops⟩
      · refine ⟨hslot₂, ?_⟩
        intro j job hopen hnew hfree
        rw [hepoch₁, ← hepoch₂]
        exact hsound₂.next_call hslot₂ hopen hnew hfree
      · exact absurd hdrops (hkept p hp)
    · intro now henter
      have hseen₁ : ∀ d s, l₁.calls.get? id = some d → d.phase.seen? = some s → s = l₁.epoch := by
        intro d s hd hs
        rw [hfails.failed] at hd
        cases hd
        cases hs
        exact hepoch₁
      have hgone := hsound₁.slot_ne_of_enter hslot₁ hseen₁ hlater henter
      rcases hsound₁.slot_or_dropped hslot₁ hlater with ⟨hslot₂, -, -⟩ | ⟨-, hdropped⟩
      · exact absurd hslot₂ hgone
      · exact hdropped
  · intro hopen
    obtain ⟨hdials, -, hbudget⟩ := settings_of_run hrun
    obtain ⟨hdials₁, -, hbudget₁⟩ := (step_iff.mp hfails.step).settings
    constructor
    · intro hspent
      have hdials₁ := hdials₁.trans hdials
      refine ⟨_, step_iff.mpr (.judgeSpent hfails.failed rfl hopen hdials₁ ?_), ?_, ?_⟩
      · rw [hbudget₁, hbudget]
        exact hspent
      · exact hslot₁
      · simp
    · intro hleft
      have hdials₁ := hdials₁.trans hdials
      refine ⟨_, step_iff.mpr (.judgeRetry hfails.failed rfl hopen hdials₁ ?_), ?_, ?_⟩
      · rw [hbudget₁, hbudget]
        exact hleft
      · simp [setCall]
      · simp

/-- Without any budget the first receive fails on a bad checksum, and the connection
is there for the second. -/
theorem failed_connection_no_budget :
    ∃ l l₁ c, (start "a" true 0 0).run [.call 1 .receive, .look 1, .ask 1,
        .filled 1 [255, 255, 13, 1, 7, 0, 0, 255, 255, 13, 1, 7, 0, 21]] = some l ∧
      Fails l (.parse 1) l₁ 1 c 1 0 (.badChecksum 21 0) ∧
      ∃ l₂, l₁.step (.judge 1) = some l₂ ∧ l₂.slot = some 1 := by
  have hfailure : ∃ l l₁ c, (start "a" true 0 0).run [.call 1 .receive, .look 1, .ask 1,
        .filled 1 [255, 255, 13, 1, 7, 0, 0, 255, 255, 13, 1, 7, 0, 21]] = some l ∧
      Fails l (.parse 1) l₁ 1 c 1 0 (.badChecksum 21 0) ∧ l₁.closed = false :=
    ⟨_, _, _, rfl, ⟨rfl, ⟨_, _, ⟨rfl, rfl, rfl, rfl, rfl⟩⟩, rfl⟩, rfl⟩
  obtain ⟨l, l₁, c, hrun, hfails, hopen⟩ := hfailure
  obtain ⟨l₂, hjudge, hslot, -⟩ :=
    ((failed_connection_until_dropped hrun hfails).2 hopen).1 (Nat.zero_le _)
  exact ⟨l, l₁, c, hrun, hfails, l₂, hjudge, hslot⟩

/-- The second receive takes a frame from behind the corrupt one. -/
theorem failed_connection_read_on :
    ∃ l, (start "a" true 0 0).run [.call 1 .receive, .look 1, .ask 1,
        .filled 1 [255, 255, 13, 1, 7, 0, 0, 255, 255, 13, 1, 7, 0, 21], .parse 1, .judge 1,
        .call 2 .receive, .look 2, .ask 2, .parse 2] = some l ∧
      l.generation = 1 ∧
      (l.calls.get? 1).map (·.phase) =
        some (.done (.failed (.exhausted 0 (.badChecksum 21 0)))) ∧
      (l.calls.get? 2).map (·.phase) = some (.done (.received ⟨13, [7], by decide⟩)) := by
  refine ⟨_, rfl, rfl, rfl, rfl⟩

/-! ## Every budget can be spent -/

/-- A receive, the first call of all, that has reconnected `k` times with success. -/
def retried (k : Nat) (phase : Phase) : Call := { job := .receive, phase, attempts := k }

/-- The receive is the only call and the connection it dialled last is idle. -/
structure Retries (l : Link) (k : Nat) (phase : Phase) : Prop where
  call : l.calls.get? 1 = some (retried k phase)
  next : l.calls.get? 2 = none
  slot : l.slot = some (k + 1)
  generation : l.generation = k + 1
  lane : ∃ connection, l.lanes.get? (k + 1) = some { connection }
  gate : l.gate = []
  opened : l.closed = false
  dials : l.canDial = true

/-- The receive fails on the connection. -/
theorem Retries.fails (h : Retries l k .ready) :
    ∃ l₁ l₂, l.run [.look 1, .ask 1] = some l₁ ∧
      Fails l₁ (.broke 1 replaced) l₂ 1
        (retried k (.working (k + 1) l₂.epoch (.reading .start))) (k + 1) l₂.epoch
        (.io replaced) ∧
      Retries l₂ k (.failed l₂.epoch (.io replaced)) := by
  obtain ⟨connection, hlane⟩ := h.lane
  let l₁ := l.setCall 1 (retried k (.entering (k + 1) l.epoch))
  let l₂ := (l₁.onLane (k + 1) fun lane => lane.join 1 (.reading .start)).setCall 1
    (retried k (.working (k + 1) l.epoch (.reading .start)))
  let l₃ := l₂.fail 1 (retried k (.working (k + 1) l.epoch (.reading .start))) l.epoch
    (.io replaced)
  have hlook : Step l (.look 1) l₁ := .lookSome h.call rfl h.opened h.slot
  have hask : Step l₁ (.ask 1) l₂ :=
    .ask (c := retried k (.entering (k + 1) l.epoch)) (by simp [l₁]) rfl hlane rfl
  have hholds : Holds l₂ 1 (retried k (.working (k + 1) l.epoch (.reading .start))) (k + 1)
      l.epoch (.reading .start) { connection, readers := [1] } := by
    constructor
    · simp [l₂]
    · rfl
    · show (l₁.lanes.modify (k + 1) _).get? (k + 1) = _
      simp [l₁, setCall, hlane, Lane.join]
    · rfl
    · rfl
  have hbroke : Step l₂ (.broke 1 replaced) l₃ := .broke hholds fun _ _ => rfl
  have hfailed : l₃.calls.get? 1 = some (retried k (.failed l.epoch (.io replaced))) := by
    simp [l₃, retried]
  refine ⟨l₂, l₃, run_cons hlook (run_cons hask rfl), ?_, ?_⟩
  · exact ⟨step_iff.mpr hbroke, ⟨_, _, hholds⟩, hfailed⟩
  · constructor
    · exact hfailed
    · simp [l₃, l₂, l₁, h.next]
    · exact h.slot
    · exact h.generation
    · refine ⟨connection, ?_⟩
      simp [l₃, fail, leave, setCall, hholds.found, Lane.leave]
    · show l.gate.erase 1 = []
      rw [h.gate]
      rfl
    · exact h.opened
    · exact h.dials

/-- The receive that failed reconnects. -/
theorem Retries.again {cause : FrameError} (h : Retries l k (.failed l.epoch cause))
    (hleft : k < l.budget) : ∃ es l', l.run es = some l' ∧ Retries l' (k + 1) .ready := by
  let due := 0 + l.pause
  let l₁ := { l with gate := l.gate ++ [1] }.setCall 1 (retried (k + 1) (.waiting l.epoch))
  let l₂ := l₁.abandon.setCall 1 (retried (k + 1) (.pausing due))
  let l₃ := l₂.setCall 1 (retried (k + 1) .dialling)
  let l₄ := { l₃ with
    generation := l₃.generation + 1, slot := some (l₃.generation + 1),
    lanes := l₃.lanes.set (l₃.generation + 1) { connection := "again" },
    lastFailure := none }.endReconnect 1 (retried (k + 1) .dialling) none
  have hjudge : Step l (.judge 1) l₁ := .judgeRetry h.call rfl h.opened h.dials hleft
  have hgate : l₁.gate.head? = some 1 := by
    show (l.gate ++ [1]).head? = some 1
    rw [h.gate]
    rfl
  have hopen₂ : l₂.closed = false := l₁.closed_abandon.trans h.opened
  have henter : Step l₁ (.enter 1 0) l₂ :=
    .enterFirst (c := retried (k + 1) (.waiting l.epoch)) (by simp [l₁]) rfl hgate h.opened rfl
  have hdial : Step l₂ (.dial 1 due) l₃ :=
    .dial (c := retried (k + 1) (.pausing due)) (by simp [l₂]) rfl (Nat.le_refl due) hopen₂
  have hdialled : Step l₃ (.dialled 1 (.ok "again")) l₄ :=
    .dialledOpen (c := retried (k + 1) .dialling) (by simp [l₃]) rfl hopen₂
  have hgeneration : l₃.generation = k + 1 := l₁.generation_abandon.trans h.generation
  refine ⟨[.judge 1, .enter 1 0, .dial 1 due, .dialled 1 (.ok "again")], l₄,
    run_cons hjudge (run_cons henter (run_cons hdial (run_cons hdialled rfl))), ?_⟩
  constructor
  · simp [l₄, retried]
  · simp [l₄, l₃, l₂, l₁, h.next]
  · show some (l₃.generation + 1) = _
    rw [hgeneration]
  · show l₃.generation + 1 = _
    rw [hgeneration]
  · refine ⟨"again", ?_⟩
    show (l₃.lanes.set (l₃.generation + 1) _).get? (k + 1 + 1) = _
    rw [hgeneration]
    simp
  · show l₁.abandon.gate.erase 1 = []
    rw [l₁.gate_abandon]
    show (l.gate ++ [1]).erase 1 = []
    rw [h.gate]
    rfl
  · exact hopen₂
  · have hdials₂ : l₂.canDial = true := henter.settings.1.trans h.dials
    exact hdials₂

theorem retries_of_start (connection : ConnectionName) (pause : Nat) {k budget : Nat}
    (hk : k ≤ budget) : ∃ es l, (start connection true pause budget).run es = some l ∧
      Retries l k .ready := by
  induction k with
  | zero =>
      refine ⟨[.call 1 .receive], _, run_cons (.call rfl) rfl, ?_⟩
      exact ⟨rfl, rfl, rfl, rfl, ⟨connection, rfl⟩, rfl, rfl, rfl⟩
  | succ k ih =>
      obtain ⟨es, l, hrun, hready⟩ := ih (Nat.le_of_succ_le hk)
      obtain ⟨l₁, l₂, hfirst, hfails, hfailed⟩ := hready.fails
      have hrun₂ : (start connection true pause budget).run
          (es ++ [.look 1, .ask 1] ++ [.broke 1 replaced]) = some l₂ := by
        rw [run_append, run_append, hrun]
        simp only [Option.bind_some, hfirst]
        exact run_cons (step_iff.mp hfails.step) rfl
      obtain ⟨-, -, hbudget⟩ := settings_of_run hrun₂
      -- This attempt is one of the first `budget`, so the receive still gets to the gate.
      obtain ⟨more, l', hmore, hagain⟩ := hfailed.again (by omega)
      refine ⟨es ++ [.look 1, .ask 1] ++ [.broke 1 replaced] ++ more, l', ?_, hagain⟩
      rw [run_append, hrun₂]
      exact hmore

/-- Whatever the budget, a call can spend it and leave the connection it failed on
to the next. -/
theorem failed_connection_every_budget (connection : ConnectionName) (pause budget : Nat) :
    ∃ es l l₁ l₂ l₃ seen lane, (start connection true pause budget).run es = some l ∧
      Fails l (.broke 1 replaced) l₁ 1
        (retried budget (.working (budget + 1) seen (.reading .start))) (budget + 1) seen
        (.io replaced) ∧
      l₁.step (.judge 1) = some l₂ ∧
      l₂.calls.get? 1 =
        some (retried budget (.done (.failed (.exhausted budget (.io replaced))))) ∧
      l₂.run [.call 2 .receive, .look 2, .ask 2] = some l₃ ∧
      Holds l₃ 2 (retried 0 (.working (budget + 1) seen (.reading .start))) (budget + 1) seen
        (.reading .start) lane := by
  obtain ⟨es, l₀, hrun₀, hready⟩ := retries_of_start connection pause (Nat.le_refl budget)
  obtain ⟨l, l₁, hfirst, hfails, hfailed⟩ := hready.fails
  have hrun : (start connection true pause budget).run (es ++ [.look 1, .ask 1]) = some l := by
    rw [run_append, hrun₀]
    exact hfirst
  have hsound₁ := (sound_of_run hrun).step (step_iff.mp hfails.step)
  have hspent : l₁.budget ≤ budget := by
    obtain ⟨-, -, hbudget⟩ := settings_of_run hrun
    obtain ⟨-, -, hbudget₁⟩ := (step_iff.mp hfails.step).settings
    omega
  let outcome : Outcome := .failed (.exhausted budget (.io replaced))
  let l₂ := l₁.finish 1 (retried budget (.failed l₁.epoch (.io replaced))) outcome
  -- No attempt is left: the call ends here, and the connection is not touched.
  have hjudge : Step l₁ (.judge 1) l₂ :=
    .judgeSpent hfailed.call rfl hfailed.opened hfailed.dials hspent
  have hnew : l₂.calls.get? 2 = none := by simp [l₂, hfailed.next]
  have hfree : ∀ lane, l₂.lanes.get? (budget + 1) = some lane →
      lane.line Job.receive.work = [] := by
    intro lane hlane
    obtain ⟨connection, hidle⟩ := hfailed.lane
    simp only [l₂, finish, setCall, leave, Assoc.get?_map, hidle, Option.map_some,
      Option.some.injEq] at hlane
    subst hlane
    rfl
  obtain ⟨l₃, lane, hnext, hholds⟩ :=
    (hsound₁.step hjudge).next_call hfailed.slot hfailed.opened hnew hfree
  refine ⟨_, l, l₁, l₂, l₃, l₁.epoch, lane, hrun, hfails, step_iff.mpr hjudge, ?_, hnext, hholds⟩
  simp [l₂, outcome, retried]

end TelemetryRelay.Link
