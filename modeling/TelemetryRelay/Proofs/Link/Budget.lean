import TelemetryRelay.Proofs.Link.Course
import TelemetryRelay.Proofs.Link.FreshConnection
import TelemetryRelay.Proofs.Link.SingleFlight

/-!
# The reconnect budget of a call

A call counts a reconnect when it decides for it, and the reconnect is over for
the call when its own dial ends or when it finds at the gate that another call has
made one since it looked.  The budget bounds what a call counts, and each
reconnect it counts is a later one than those before.
-/

namespace TelemetryRelay.Link

open Wire

/-- What came of the latest reconnect, as a call at the gate finds it. -/
def latest (l : Link) : Except IoError Unit :=
  match l.lastFailure with
  | none => .ok ()
  | some e => .error e

/-- The reconnect that is over for a call with an event: the latest one if the call
comes to the gate late, or its own. -/
def counts? (id : CallId) : Link × Event → Option (Nat × Except IoError Unit)
  | (l, .enter j _) =>
    if j = id ∧ (l.calls.get? id).any (·.phase ≠ .waiting l.epoch) then
      some (l.epoch - 1, l.latest)
    else none
  | (l, .dialled j result) => if j = id then attempt? (l, .dialled j result) else none
  | _ => none

/-- The reconnects of a run that a call counts and that are over for it. -/
def counted (id : CallId) (l : Link) (es : List Event) : List (Nat × Except IoError Unit) :=
  (history l es).filterMap (counts? id)

variable {l l' l₀ l₁ : Link} {e : Event} {es : List Event} {id : CallId} {c c' : Call}

/-! ## What a step of a call counts -/

/-- What one step of a call does to what it counts. -/
inductive Toll (id : CallId) (l : Link) (e : Event) (c c' : Call) : Prop
  | quiet (free : counts? id (l, e) = none) (pending : c.phase.pending = true)
      (attempts : c'.attempts = c.attempts)
      (gate : c'.phase.atGate = c.phase.atGate)
      (plain : ∀ n cause, c'.phase ≠ .done (.failed (.exhausted n cause)))
  | closed (free : counts? id (l, e) = none) (attempts : c'.attempts = c.attempts)
      (phase : c'.phase = .done (.failed .closed))
  | retry {seen : Nat} {cause : FrameError} (free : counts? id (l, e) = none)
      (phase : c.phase = .failed seen cause) (left : c.attempts < l.budget)
      (attempts : c'.attempts = c.attempts + 1) (waits : c'.phase = .waiting seen)
  | spent {seen : Nat} {cause : FrameError} (free : counts? id (l, e) = none)
      (phase : c.phase = .failed seen cause) (spent : l.budget ≤ c.attempts)
      (attempts : c'.attempts = c.attempts)
      (gives : c'.phase = .done (.failed (.exhausted c.attempts cause)))
  | ends {a : Nat × Except IoError Unit} (counts : counts? id (l, e) = some a)
      (gate : c.phase.atGate = true)
      (made : (a = (l.epoch - 1, l.latest) ∧ l.closed = false ∧
          ∃ seen, c.phase = .waiting seen ∧ l.epoch ≠ seen) ∨
        (a.1 = l.epoch ∧ attempt? (l, e) = some a))
      (attempts : c'.attempts = c.attempts) (ready : c'.phase = .ready)

theorem Step.toll (h : Step l e l') (hid : e.call? = some id) (hcall : l.calls.get? id = some c) :
    (l'.calls.get? id = none ∧ counts? id (l, e) = none) ∨
    ∃ c', l'.calls.get? id = some c' ∧ Toll id l e c c' := by
  cases h with
  | call fresh =>
      cases hid
      rw [fresh] at hcall
      cases hcall
  | cancel call | lookClosed call | judgeClosed call =>
      cases hid
      cases hcall.symm.trans call
      exact .inr ⟨_, Assoc.get?_set_self .., .closed rfl rfl rfl⟩
  | lookSome call phase | lookNone call phase | ask call phase | judgeStuck call phase
  | dial call phase =>
      cases hid
      cases hcall.symm.trans call
      exact .inr ⟨_, Assoc.get?_set_self .., .quiet rfl (by rw [phase]; rfl) rfl (by rw [phase]; rfl)
        (by simp)⟩
  | lose call phase =>
      cases hid
      cases hcall.symm.trans call
      obtain ⟨hseen, hgate⟩ := Phase.seen?_of_lane? phase
      have hlooked := Phase.looked_of_seen? hseen
      exact .inr ⟨_, Assoc.get?_set_self .., .quiet rfl (Phase.pending_of_looked hlooked) rfl hgate.symm
        (by simp)⟩
  | filled holds =>
      cases hid
      cases hcall.symm.trans holds.call
      exact .inr ⟨_, hcall, .quiet rfl (by rw [holds.phase]; rfl) rfl rfl (by simp [holds.phase])⟩
  | wrote holds | flushed holds | parseMore holds | parseFrame holds | parseError holds
  | ended holds | broke holds =>
      cases hid
      cases hcall.symm.trans holds.call
      exact .inr ⟨_, Assoc.get?_set_self .., .quiet rfl (by rw [holds.phase]; rfl) rfl
        (by rw [holds.phase]; rfl) (by simp)⟩
  | judgeSpent call phase closed dials spent =>
      cases hid
      cases hcall.symm.trans call
      exact .inr ⟨_, Assoc.get?_set_self .., .spent rfl phase spent rfl rfl⟩
  | judgeRetry call phase closed dials left =>
      cases hid
      cases hcall.symm.trans call
      exact .inr ⟨_, Assoc.get?_set_self .., .retry rfl phase left rfl rfl⟩
  | @enterLate _ _ _ now call phase turn closed late =>
      cases hid
      cases hcall.symm.trans call
      have hcounts : counts? id (l, .enter id now) = some (l.epoch - 1, l.latest) := by
        simp [counts?, call, phase, Ne.symm late]
      exact .inr ⟨_, Assoc.get?_set_self .., .ends hcounts (by rw [phase]; rfl)
        (.inl ⟨rfl, closed, _, phase, late⟩) rfl rfl⟩
  | @enterFirst _ _ _ now call phase turn closed first =>
      cases hid
      cases hcall.symm.trans call
      have hfree : counts? id (l, .enter id now) = none := by
        simp [counts?, call, phase, first]
      exact .inr ⟨_, Assoc.get?_set_self .., .quiet hfree (by rw [phase]; rfl) rfl
        (by rw [phase]; rfl) (by simp)⟩
  | dialledError call phase | dialledClosed call phase | dialledOpen call phase =>
      cases hid
      cases hcall.symm.trans call
      exact .inr ⟨_, Assoc.get?_set_self .., .ends (by simp [counts?]; rfl)
        (by rw [phase]; rfl) (.inr ⟨rfl, rfl⟩) rfl rfl⟩
  | collect | drop =>
      cases hid
      exact .inl ⟨by simp, rfl⟩
  | close | detach => cases hid

theorem counts?_of_other (hid : e.call? ≠ some id) : counts? id (l, e) = none := by
  cases e with
  | enter j now =>
      have hj : j ≠ id := by simpa [Event.call?] using hid
      simp [counts?, hj]
  | dialled j result =>
      have hj : j ≠ id := by simpa [Event.call?] using hid
      simp [counts?, hj]
  | _ => rfl

/-! ## The account of a call -/

/-- What a call counts is what is over for it, and the reconnect it waits for. -/
structure Pays (budget ended : Nat) (c : Call) : Prop where
  within : c.attempts ≤ budget
  ended_le : ended ≤ c.attempts
  pending : c.phase.pending = true → c.attempts = ended + c.phase.atGate.toNat
  exhausted : ∀ n cause, c.phase = .done (.failed (.exhausted n cause)) → n = budget ∧ ended = n

/-- What a call has counted since it came in. -/
structure Account (id : CallId) (l₁ : Link) (es : List Event) (l : Link) : Prop where
  within : (counted id l₁ es).length ≤ l.budget
  increasing : ((counted id l₁ es).map (·.1)).Pairwise (· < ·)
  real : ∀ a ∈ counted id l₁ es, a ∈ attempts l₁ es
  pays : ∀ c, l.calls.get? id = some c → Pays l.budget (counted id l₁ es).length c
  /-- Each look is newer than what was counted before it. -/
  seen : ∀ c seen, l.calls.get? id = some c → c.phase.seen? = some seen →
    l₁.epoch ≤ seen ∧ ∀ a ∈ counted id l₁ es, a.1 < seen

theorem counted_snoc (hrun : l₀.run es = some l) :
    counted id l₀ (es ++ [e]) = counted id l₀ es ++ (counts? id (l, e)).toList :=
  filterMap_history_snoc (counts? id) hrun

theorem mem_attempts_snoc (hrun : l₀.run es = some l) {a : Nat × Except IoError Unit}
    (ha : a ∈ attempts l₀ es) : a ∈ attempts l₀ (es ++ [e]) := by
  rw [attempts_snoc hrun]
  exact List.mem_append_left _ ha

theorem Books.bounds (h : Books l₀ es l) {a : Nat × Except IoError Unit}
    (ha : a ∈ attempts l₀ es) : l₀.epoch ≤ a.1 ∧ a.1 < l.epoch := by
  have hmem : a.1 ∈ (attempts l₀ es).map (·.1) := List.mem_map_of_mem ha
  rw [h.numbered, List.mem_range'_1] at hmem
  rw [h.epoch]
  exact hmem

/-- What a late call takes for the latest reconnect is it. -/
theorem Books.latest_mem (h : Books l₀ es l) (hopen : l.closed = false)
    (hlate : l₀.epoch < l.epoch) : (l.epoch - 1, l.latest) ∈ attempts l₀ es := by
  obtain ⟨outcome, hlast, hfailure⟩ := h.latest_of_late hopen hlate
  have hlatest : l.latest = outcome := by
    rw [Link.latest, hfailure]
    cases outcome <;> rfl
  rw [hlatest]
  exact List.mem_of_getLast? hlast

theorem Toll.pays {n : Nat} (h : Toll id l e c c') (hpays : Pays l.budget n c) :
    Pays l.budget (n + (counts? id (l, e)).toList.length) c' := by
  cases h with
  | quiet free pending attempts gate plain =>
      rw [free]
      refine ⟨attempts ▸ hpays.within, attempts ▸ hpays.ended_le, ?_, ?_⟩
      · intro _
        rw [attempts, gate]
        exact hpays.pending pending
      · intro n cause hphase
        exact absurd hphase (plain n cause)
  | closed free attempts phase =>
      rw [free]
      refine ⟨attempts ▸ hpays.within, attempts ▸ hpays.ended_le, ?_, ?_⟩
      · intro hpending
        rw [phase] at hpending
        cases hpending
      · intro n cause hphase
        rw [phase] at hphase
        cases hphase
  | retry free phase left attempts waits =>
      -- The call counts one more and waits for it.
      have hcount := hpays.pending (by rw [phase]; rfl)
      rw [free]
      refine ⟨attempts ▸ left, attempts ▸ Nat.le_succ_of_le hpays.ended_le, ?_, ?_⟩
      · intro _
        rw [attempts, waits, hcount, phase]
        rfl
      · intro n cause hphase
        rw [waits] at hphase
        cases hphase
  | spent free phase spent attempts gives =>
      have hcount := hpays.pending (by rw [phase]; rfl)
      rw [phase] at hcount
      rw [free]
      refine ⟨attempts ▸ hpays.within, attempts ▸ hpays.ended_le, ?_, ?_⟩
      · intro hpending
        rw [gives] at hpending
        cases hpending
      · intro n cause hphase
        rw [gives] at hphase
        cases hphase
        exact ⟨Nat.le_antisymm hpays.within spent, hcount.symm⟩
  | ends counts gate made attempts ready =>
      -- What the call waited for is over; what it has counted stays.
      have hcount := hpays.pending (Phase.pending_of_looked (Phase.looked_of_atGate gate))
      rw [gate] at hcount
      rw [counts]
      refine ⟨attempts ▸ hpays.within, ?_, ?_, ?_⟩
      · rw [attempts, hcount]
        exact Nat.le_refl _
      · intro _
        rw [attempts, hcount, ready]
        rfl
      · intro n cause hphase
        rw [ready] at hphase
        cases hphase

/-- An event after which nothing more is over for the call. -/
theorem Account.free (h : Account id l₁ es l) (hrun : l₁.run es = some l) (hstep : Step l e l')
    (hfree : counts? id (l, e) = none)
    (hpays : ∀ c, l'.calls.get? id = some c → Pays l.budget (counted id l₁ es).length c) :
    Account id l₁ (es ++ [e]) l' := by
  have hbooks := books_of_run hrun
  have hsame : counted id l₁ (es ++ [e]) = counted id l₁ es := by
    simp [counted_snoc hrun, hfree]
  have hbudget := hstep.settings.2.2
  constructor
  · rw [hsame, hbudget]
    exact h.within
  · rw [hsame]
    exact h.increasing
  · rw [hsame]
    exact fun a ha => mem_attempts_snoc hrun (h.real a ha)
  · rw [hsame, hbudget]
    exact hpays
  · intro c seen hc hseen
    rw [hsame]
    rcases hstep.of_seen hc hseen with rfl | ⟨d, hd, hbefore⟩
    · -- The call has looked just now, when all that it counted was over.
      refine ⟨?_, fun a ha => (hbooks.bounds (h.real a ha)).2⟩
      rw [hbooks.epoch]
      exact Nat.le_add_right _ _
    · exact h.seen d seen hd hbefore

/-- An event with which one more reconnect is over for the call. -/
theorem Account.ends (h : Account id l₁ es l) (hrun : l₁.run es = some l) (hstep : Step l e l')
    {a : Nat × Except IoError Unit} (hcounts : counts? id (l, e) = some a)
    (hreal : a ∈ attempts l₁ (es ++ [e])) (hlater : ∀ b ∈ counted id l₁ es, b.1 < a.1)
    (hcall : l'.calls.get? id = some c') (hready : c'.phase = .ready)
    (hpays : Pays l.budget ((counted id l₁ es).length + 1) c') :
    Account id l₁ (es ++ [e]) l' := by
  have hmore : counted id l₁ (es ++ [e]) = counted id l₁ es ++ [a] := by
    simp [counted_snoc hrun, hcounts]
  have hbudget := hstep.settings.2.2
  constructor
  · rw [hmore, hbudget, List.length_append]
    exact Nat.le_trans hpays.ended_le hpays.within
  · rw [hmore, List.map_append, List.pairwise_append]
    refine ⟨h.increasing, by simp, ?_⟩
    intro x hx y hy
    obtain ⟨b, hb, rfl⟩ := List.mem_map.mp hx
    obtain rfl : y = a.1 := by simpa using hy
    exact hlater b hb
  · rw [hmore]
    exact List.forall_mem_append.mpr
      ⟨fun b hb => mem_attempts_snoc hrun (h.real b hb), by simpa using hreal⟩
  · intro c hc
    obtain rfl := Option.some.inj (hcall.symm.trans hc)
    rw [hmore, hbudget, List.length_append]
    exact hpays
  · intro c seen hc hseen
    obtain rfl := Option.some.inj (hcall.symm.trans hc)
    rw [hready] at hseen
    cases hseen

theorem Account.step (h : Account id l₁ es l) (hsound : Sound l) (hrun : l₁.run es = some l)
    (hstep : Step l e l') (hnew : ∀ job, e ≠ .call id job) : Account id l₁ (es ++ [e]) l' := by
  by_cases hid : e.call? = some id
  · obtain ⟨job, rfl⟩ | ⟨c, hc⟩ := hstep.own hid
    · exact absurd rfl (hnew job)
    rcases hstep.toll hid hc with ⟨hgone, hfree⟩ | ⟨c', hc', htoll⟩
    · refine h.free hrun hstep hfree ?_
      intro d hd
      rw [hgone] at hd
      cases hd
    · have hpays := htoll.pays (h.pays c hc)
      cases hcounts : counts? id (l, e) with
      | none =>
          rw [hcounts] at hpays
          refine h.free hrun hstep hcounts ?_
          intro d hd
          obtain rfl := Option.some.inj (hc'.symm.trans hd)
          exact hpays
      | some a =>
          rw [hcounts] at hpays
          have hbooks := books_of_run hrun
          cases htoll with
          | quiet free | closed free | retry free | spent free =>
              rw [hcounts] at free
              cases free
          | ends counts gate made attempts ready =>
              cases hcounts.symm.trans counts
              rcases made with ⟨rfl, opened, seen, phase, late⟩ | ⟨hepoch, hattempt⟩
              · -- A reconnect has ended since the call looked, after all that it counted.
                have hseen : c.phase.seen? = some seen := by rw [phase]; rfl
                obtain ⟨hfirst, hbefore⟩ := h.seen c seen hc hseen
                have hle : seen ≤ l.epoch := (hsound.fits id c hc).seen_le seen hseen
                have hlate : seen < l.epoch := Nat.lt_of_le_of_ne hle (Ne.symm late)
                have hreal := hbooks.latest_mem opened (Nat.lt_of_le_of_lt hfirst hlate)
                refine h.ends hrun hstep hcounts (mem_attempts_snoc hrun hreal) ?_ hc' ready hpays
                intro b hb
                exact Nat.lt_of_lt_of_le (hbefore b hb) (Nat.le_sub_one_of_lt hlate)
              · refine h.ends hrun hstep hcounts ?_ ?_ hc' ready hpays
                · simp [attempts_snoc hrun, hattempt]
                · intro b hb
                  rw [hepoch]
                  exact (hbooks.bounds (h.real b hb)).2
  · refine h.free hrun hstep (counts?_of_other hid) ?_
    intro c hc
    rw [hstep.calls_of_ne hid] at hc
    exact h.pays c hc

theorem account_of_run {job : Job} (hsound : Sound l₀) (hcall : Step l₀ (.call id job) l₁)
    (hrun : l₁.run es = some l) (hnew : ∀ job, .call id job ∉ es) : Account id l₁ es l := by
  refine run_induction (P := fun es l => (∀ job, .call id job ∉ es) → Account id l₁ es l)
    ?_ ?_ hrun hnew
  · intro _
    have hfresh : ∀ c, l₁.calls.get? id = some c → c = { job } := by
      intro c hc
      cases hcall with
      | call => exact Assoc.eq_of_get?_set hc
    refine ⟨Nat.zero_le _, by simp [counted, history], by simp [counted, history], ?_, ?_⟩
    · intro c hc
      rw [hfresh c hc]
      exact ⟨Nat.zero_le _, Nat.le_refl _, fun _ => rfl, by simp⟩
    · intro c seen hc hseen
      rw [hfresh c hc] at hseen
      cases hseen
  · intro es e l l' hrun hbefore hstep hnew
    have hrest : ∀ job, .call id job ∉ es := fun job hmem => hnew job (List.mem_append_left _ hmem)
    refine (hbefore hrest).step ((hsound.step hcall).run hrun) hrun hstep ?_
    rintro job rfl
    exact hnew job (by simp)

/-! ## The steps of a call -/

/-- The call only carries bytes. -/
def Event.carries : Event → Bool
  | .wrote .. | .filled .. | .parse _ => true
  | _ => false

/-- How many steps a call takes at most before it counts a reconnect or is gone, those
that carry bytes apart.  One that waits at the gate has counted already. -/
def Phase.effort : Phase → Nat
  | .done _ => 1
  | .failed .. => 2
  | .working .. => 3
  | .entering .. => 4
  | .ready => 5
  | .dialling => 6
  | .pausing _ => 7
  | .waiting _ => 8

/-- A reconnect that is still allowed is worth seven steps. -/
def effort (l : Link) (id : CallId) : Nat :=
  match l.calls.get? id with
  | some c => 7 * (l.budget - c.attempts) + c.phase.effort
  | none => 0

theorem effort_of_get? (hcall : l.calls.get? id = some c) :
    l.effort id = 7 * (l.budget - c.attempts) + c.phase.effort := by
  rw [effort, hcall]

theorem Phase.effort_pos (p : Phase) : 0 < p.effort := by
  cases p <;> exact Nat.succ_pos _

theorem Phase.effort_of_lane? {p : Phase} {g seen : Nat} (h : p.lane? = some (g, seen)) :
    3 ≤ p.effort := by
  cases p with
  | entering | working => simp [Phase.effort]
  | _ => cases h

theorem effort_of_gone {n : Nat} (hcall : l.calls.get? id = some c)
    (hgone : l'.calls.get? id = none) (hn : n ≤ 1) : l'.effort id + n ≤ l.effort id := by
  have hpos := c.phase.effort_pos
  rw [effort_of_get? hcall, effort, hgone]
  simp only
  omega

theorem effort_of_phase {n : Nat} (hcall : l.calls.get? id = some c)
    (hcall' : l'.calls.get? id = some c') (hbudget : l'.budget = l.budget)
    (hattempts : c'.attempts = c.attempts) (hphase : c'.phase.effort + n ≤ c.phase.effort) :
    l'.effort id + n ≤ l.effort id := by
  rw [effort_of_get? hcall, effort_of_get? hcall', hbudget, hattempts]
  omega

/-- No step is for nothing. -/
theorem Step.effort (h : Step l e l') (hid : e.call? = some id)
    (hcall : l.calls.get? id = some c) :
    l'.effort id + (!e.carries).toNat ≤ l.effort id := by
  have hbudget := h.settings.2.2
  cases h with
  | call fresh =>
      cases hid
      cases hcall.symm.trans fresh
  | collect | drop =>
      cases hid
      exact effort_of_gone hcall (by simp) (Nat.le_refl 1)
  | close | detach => cases hid
  | cancel call pending =>
      cases hid
      cases hcall.symm.trans call
      refine effort_of_phase hcall (Assoc.get?_set_self ..) hbudget rfl ?_
      cases hphase : c.phase with
      | done outcome => exact absurd hphase (pending outcome)
      | _ => simp [Phase.effort, Event.carries]
  | lose call phase =>
      cases hid
      cases hcall.symm.trans call
      exact effort_of_phase hcall (Assoc.get?_set_self ..) hbudget rfl
        (Phase.effort_of_lane? phase)
  | wrote holds | flushed holds | parseMore holds | parseFrame holds | parseError holds
  | ended holds | broke holds =>
      cases hid
      cases hcall.symm.trans holds.call
      refine effort_of_phase hcall (Assoc.get?_set_self ..) hbudget rfl ?_
      simp [holds.phase, Phase.effort, Event.carries]
  | filled holds =>
      cases hid
      exact effort_of_phase hcall hcall hbudget rfl (Nat.le_refl _)
  | judgeRetry call phase closed dials left =>
      -- The call goes up to the gate, but has one reconnect less ahead of it.
      cases hid
      cases hcall.symm.trans call
      rw [effort_of_get? hcall, effort_of_get? (Assoc.get?_set_self ..), phase]
      simp only [Phase.effort, Event.carries, Bool.not_false, Bool.toNat_true]
      rw [hbudget]
      omega
  | lookClosed call phase | lookSome call phase | lookNone call phase | ask call phase
  | judgeClosed call phase | judgeStuck call phase | judgeSpent call phase
  | enterLate call phase | enterFirst call phase | dial call phase | dialledError call phase
  | dialledClosed call phase | dialledOpen call phase =>
      cases hid
      cases hcall.symm.trans call
      refine effort_of_phase hcall (Assoc.get?_set_self ..) hbudget rfl ?_
      simp [phase, Phase.effort, Event.carries]

/-- The steps of a call, those that carry bytes apart. -/
def stepsOf (id : CallId) (es : List Event) : List Event :=
  es.filter fun e => e.call? = some id && !e.carries

theorem effort_of_run {job : Job} (hcall : Step l₀ (.call id job) l₁) (hrun : l₁.run es = some l)
    (hnew : ∀ job, .call id job ∉ es) :
    (stepsOf id es).length + l.effort id ≤ 7 * l₁.budget + 5 := by
  refine run_induction (P := fun es l => (∀ job, .call id job ∉ es) →
    (stepsOf id es).length + l.effort id ≤ 7 * l₁.budget + 5) ?_ ?_ hrun hnew
  · intro _
    cases hcall with
    | call =>
        rw [effort_of_get? (Assoc.get?_set_self ..)]
        exact Nat.le_of_eq (Nat.zero_add _)
  · intro es e l l' hrun hbefore hstep hnew
    have hle := hbefore fun job hmem => hnew job (List.mem_append_left _ hmem)
    rw [stepsOf, List.filter_append, List.length_append, ← stepsOf]
    by_cases hid : e.call? = some id
    · obtain ⟨job, rfl⟩ | ⟨c, hc⟩ := hstep.own hid
      · exact absurd (by simp) (hnew job)
      have heffort := hstep.effort hid hc
      have hone : ([e].filter fun e => e.call? = some id && !e.carries).length =
          (!e.carries).toNat := by
        cases hcarries : e.carries <;> simp [hid, hcarries]
      omega
    · have hsame : l'.effort id = l.effort id := by
        rw [effort, effort, hstep.calls_of_ne hid, hstep.settings.2.2]
      simp only [hid, hsame, decide_false, Bool.false_and, List.filter_cons_of_neg,
        List.filter_nil, List.length_nil, Bool.false_eq_true, not_false_eq_true]
      omega

/-- A reconnect that is over for a call ended after the call looked. -/
theorem Traced.looked_before (h : Traced l₀ es l) (hsound : Sound l) (hrun : l₀.run es = some l)
    (hstep : Step l e l') {a : Nat × Except IoError Unit} (hcounts : counts? id (l, e) = some a) :
    ∃ l₁, LookedLast l₀ es id l₁ ∧ l₁.epoch ≤ a.1 ∧ a.1 < l'.epoch := by
  have hid : e.call? = some id := by
    by_contra hne
    rw [counts?_of_other hne] at hcounts
    cases hcounts
  obtain ⟨job, rfl⟩ | ⟨c, hc⟩ := hstep.own hid
  · cases hcounts
  rcases hstep.toll hid hc with ⟨-, hfree⟩ | ⟨c', -, htoll⟩
  · rw [hcounts] at hfree
    cases hfree
  cases htoll with
  | quiet free | closed free | retry free | spent free =>
      rw [hcounts] at free
      cases free
  | ends counts gate made =>
      cases hcounts.symm.trans counts
      obtain ⟨l₁, hlast, hseen, -⟩ := h.looked id c hc (Phase.looked_of_atGate gate)
      refine ⟨l₁, hlast, ?_⟩
      rcases made with ⟨rfl, opened, seen, phase, late⟩ | ⟨hepoch, hattempt⟩
      · have hnow := hseen seen (by rw [phase]; rfl)
        have hle := (hsound.fits id c hc).seen_le seen (by rw [phase]; rfl)
        have hsame : l.epoch ≤ l'.epoch := by
          rcases hstep.slot_or_epoch with ⟨hepoch, -⟩ | hepoch <;> omega
        have hle' : seen ≤ l.epoch := hle
        exact ⟨by simp only; omega, by simp only; omega⟩
      · rcases hstep.attempt with ⟨hnone, -⟩ | ⟨_, _, _, -, -, hafter, -⟩
        · rw [hattempt] at hnone
          cases hnone
        · rw [hepoch, hafter]
          exact ⟨(hlast.slot hrun).1, Nat.lt_succ_self _⟩

/-- **The reconnect budget of a call.** Whatever other calls do: a call counts no more
reconnects than the budget allows, each that is over for it ended after the call
looked and is a later one than those before, and a call that says its budget is
spent has counted exactly so many.  It takes no more than a few steps for each
reconnect, apart from those that carry bytes.  A call that is alone makes every
reconnect itself, with one dial as soon as the pause is over after it came to the
gate, and not before: it succeeds with the first try that goes well, on the
connection that the reconnect before it gave, and otherwise fails after as many
reconnects as the budget allows, with what the last try came to. -/
theorem reconnect_budget {connection : ConnectionName} {pause budget : Nat}
    (hrun : (start connection true pause budget).run es = some l) :
    (∀ id job before after l₁, es = before ++ .call id job :: after →
      (∀ job, .call id job ∉ after) →
      (start connection true pause budget).run (before ++ [.call id job]) = some l₁ →
      (counted id l₁ after).length ≤ budget ∧
      ((counted id l₁ after).map (·.1)).Pairwise (· < ·) ∧
      (∀ a ∈ counted id l₁ after, a ∈ attempts l₁ after) ∧
      (stepsOf id after).length ≤ 7 * budget + 5 ∧
      ∀ c, l.calls.get? id = some c → Pays budget (counted id l₁ after).length c) ∧
    (∀ id e l' a, l.step e = some l' → counts? id (l, e) = some a →
      ∃ l₁, LookedLast (start connection true pause budget) es id l₁ ∧ l₁.epoch ≤ a.1 ∧
        a.1 < l'.epoch) ∧
    ∀ id job later l', Alone l id job later l' → ∃ c, l'.calls.get? id = some c ∧
      (c.phase.pending = true → ∃ e l'', l'.step e = some l'' ∧ e.call? = some id ∧
        e ≠ .drop id ∧ e ≠ .collect id) ∧
      (∀ now, (∃ l'', l'.step (.dial id now) = some l'') ↔
        ∃ entered, Pauses id (.call id job :: later) entered ∧ entered + pause ≤ now) ∧
      ∀ outcome, c.phase = .done outcome → ∃ rs causes last,
        Record l id pause (.call id job :: later) rs causes last ∧ rs.length ≤ budget ∧
        (∀ o, last = .ok o → outcome = o ∧ ∀ e, o ≠ .failed e) ∧
        ∀ cause, last = .error cause →
          rs.length = budget ∧ outcome = .failed (.exhausted budget cause) := by
  have hsound := sound_of_run hrun
  obtain ⟨hdials, hpause, hbudget⟩ := settings_of_run hrun
  refine ⟨?_, ?_, ?_⟩
  · rintro id job before after l₁ rfl hnew hfirst
    obtain ⟨l₀, hbefore, hcall⟩ := run_snoc.mp hfirst
    have hlater : l₁.run after = some l := by
      rw [List.append_cons, run_append, hfirst] at hrun
      exact hrun
    have haccount := account_of_run (sound_of_run hbefore) hcall hlater hnew
    have hsteps := effort_of_run hcall hlater hnew
    rw [(settings_of_run hfirst).2.2] at hsteps
    rw [← hbudget]
    refine ⟨haccount.within, haccount.increasing, haccount.real, ?_, haccount.pays⟩
    rw [hbudget]
    exact Nat.le_trans (Nat.le_add_right _ _) hsteps
  · intro id e l' a hevent hcounts
    exact (traced_of_run hrun).looked_before hsound hrun (step_iff.mp hevent) hcounts
  · intro id job later l' halone
    rw [← hbudget, ← hpause]
    exact halone.account hsound (queued_of_run hrun) hdials

/-- The first connection of a receive ends. -/
def severed : List Event := [.look 1, .ask 1, .ended 1, .judge 1, .enter 1 3]

/-- It dials again, which is refused. -/
def refusal : List Event := [.dial 1 8, .dialled 1 (.error neverConnected), .look 1, .judge 1]

/-- A budget of one and a pause of five: the dial comes no sooner than five after the call
came to the gate, and when it is refused the call is over. -/
theorem reconnect_budget_refused :
    ∃ l l' c cause, (start "a" true 5 1).run (.call 1 .receive :: severed) = some l ∧
      l.step (.dial 1 7) = none ∧
      (start "a" true 5 1).run (.call 1 .receive :: (severed ++ refusal)) = some l' ∧
      l'.calls.get? 1 = some c ∧ c.phase = .done (.failed (.exhausted 1 cause)) := by
  have hstart : (start "a" true 5 1).run [] = some (start "a" true 5 1) := rfl
  have hquiet : ∀ j c, (start "a" true 5 1).calls.get? j = some c → c.phase.pending = false :=
    fun _ _ hc => by cases hc
  obtain ⟨-, -, halone⟩ := reconnect_budget hstart
  obtain ⟨l, hcut⟩ : ∃ l, (start "a" true 5 1).run (.call 1 .receive :: severed) = some l := ⟨_, rfl⟩
  obtain ⟨-, -, -, hdials, -⟩ := halone 1 .receive severed l
    ⟨rfl, hquiet, hcut, by simp [severed, Event.call?]⟩
  have hearly : l.step (.dial 1 7) = none := by
    by_contra hsome
    obtain ⟨entered, hpauses, ripe⟩ := (hdials 7).mp (Option.ne_none_iff_exists'.mp hsome)
    cases hpauses
    exact absurd ripe (by decide)
  have hfails : ∃ l' c e,
      (start "a" true 5 1).run (.call 1 .receive :: (severed ++ refusal)) = some l' ∧
      l'.calls.get? 1 = some c ∧ c.phase = .done (.failed e) :=
    ⟨_, _, _, rfl, rfl, rfl⟩
  obtain ⟨l', c, e, hrun, hcall, hphase⟩ := hfails
  obtain ⟨d, hd, -, -, hdone⟩ := halone 1 .receive _ l'
    ⟨rfl, hquiet, hrun, by simp [severed, refusal, Event.call?]⟩
  cases hcall.symm.trans hd
  obtain ⟨rs, causes, last, -, -, hok, herror⟩ := hdone _ hphase
  cases last with
  | ok o =>
      obtain ⟨rfl, hfine⟩ := hok o rfl
      exact absurd rfl (hfine e)
  | error cause =>
      obtain ⟨-, hexhausted⟩ := herror cause rfl
      exact ⟨l, l', c, cause, hcut, hearly, hrun, hcall, by rw [hphase, hexhausted]⟩

end TelemetryRelay.Link
