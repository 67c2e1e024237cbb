import TelemetryRelay.Proofs.Link.Runs

/-!
# One reconnect at a time

However many calls fail on a connection, one of them reconnects and the others
share what came of it.  The epoch counts the reconnects that are over, so it
tells a call at the gate whether the one it needs has been made since it looked.
-/

namespace TelemetryRelay.Link

open Wire

/-! ## The reconnects of a run -/

/-- The reconnect that ends with an event: its epoch, and what came of it. -/
def attempt? : Link × Event → Option (Nat × Except IoError Unit)
  | (l, .dialled _ (.error e)) => some (l.epoch, .error e)
  | (l, .dialled _ (.ok _)) =>
    some (l.epoch, if l.closed then .error terminatedMeanwhile else .ok ())
  | _ => none

/-- The reconnects of a run that are over. -/
def attempts (l : Link) (es : List Event) : List (Nat × Except IoError Unit) :=
  (history l es).filterMap attempt?

def dialEpoch? : Link × Event → Option Nat
  | (l, .dial ..) => some l.epoch
  | _ => none

/-- The epochs at which a run dials. -/
def dials (l : Link) (es : List Event) : List Nat := (history l es).filterMap dialEpoch?

/-- What a call takes away from a reconnect that others may have made. -/
def carriedFrom (outcome : Except IoError Unit) (before : Option FrameError) : Option FrameError :=
  match outcome with
  | .ok () => before
  | .error e => some (.io e)

def Dialling (l : Link) : Prop := ∃ id c, l.calls.get? id = some c ∧ c.phase = .dialling

variable {l l' l₀ : Link} {e : Event} {es : List Event} {id : CallId} {c : Call}

/-- Only a dial lets a call be dialling. -/
theorem Step.dialling_of (h : Step l e l') (hafter : Dialling l') :
    Dialling l ∨ ∃ id now, e = .dial id now := by
  obtain ⟨id, c, hc, hphase⟩ := hafter
  by_cases hid : e.call? = some id
  · right
    have hleaves := h.leaves hid hc
    rw [hphase] at hleaves
    cases e with
    | dial id now => exact ⟨id, now, rfl⟩
    | _ => cases hleaves
  · rw [h.calls_of_ne hid] at hc
    exact .inl ⟨id, c, hc, hphase⟩

/-- A call is dialling until the dial ends or the call does. -/
theorem Step.dialling_stays (h : Step l e l') (hbefore : Dialling l)
    (hkept : ∀ id, e ≠ .drop id) :
    Dialling l' ∨ l.closed = true ∨ ∃ id result, e = .dialled id result := by
  obtain ⟨id, c, hc, hphase⟩ := hbefore
  by_cases hid : e.call? = some id
  · right
    have hfinds := h.finds hid hc
    rw [hphase] at hfinds
    cases e with
    | cancel id =>
        cases h with
        | cancel call pending closed => exact .inl closed
    | drop id => exact absurd rfl (hkept id)
    | dialled id result => exact .inr ⟨id, result, rfl⟩
    | _ => cases hfinds
  · left
    refine ⟨id, c, ?_, hphase⟩
    rw [h.calls_of_ne hid]
    exact hc

/-! ## What one step adds -/

theorem Step.closed (h : Step l e l') (hclosed : l.closed = true) : l'.closed = true := by
  cases h with
  | enterFirst => exact l.closed_abandon.trans hclosed
  | detach => exact l.closed_abandon.trans hclosed
  | close => rfl
  | _ => exact hclosed

theorem Step.opened (h : Step l e l') (hopen : l'.closed = false) : l.closed = false := by
  apply Bool.eq_false_iff.mpr
  intro hclosed
  rw [h.closed hclosed] at hopen
  cases hopen

/-- The failure that calls to come will share. -/
def failure? : Except IoError Unit → Option IoError
  | .ok () => none
  | .error e => some e

/-- Only the end of a dial ends a reconnect; it counts it and keeps what came of it. -/
theorem Step.attempt (h : Step l e l') :
    (attempt? (l, e) = none ∧ (∀ id result, e ≠ .dialled id result) ∧ l'.epoch = l.epoch ∧
      l'.generation = l.generation ∧ l'.lastFailure = l.lastFailure) ∨
    (∃ id result outcome, e = .dialled id result ∧ attempt? (l, e) = some (l.epoch, outcome) ∧
      l'.epoch = l.epoch + 1 ∧ l'.generation = l.generation + outcome.isOk.toNat ∧
      (l'.closed = false → l'.lastFailure = failure? outcome)) := by
  cases h with
  | @dialledError id _ error =>
      right
      exact ⟨id, .error error, .error error, rfl, rfl, rfl, rfl, fun _ => rfl⟩
  | @dialledClosed id _ connection _ _ closed =>
      right
      refine ⟨id, .ok connection, .error terminatedMeanwhile, rfl, by simp [attempt?, closed], rfl,
        rfl, ?_⟩
      intro hopen
      rw [show l.closed = false from hopen] at closed
      cases closed
  | @dialledOpen id _ connection _ _ closed =>
      right
      exact ⟨id, .ok connection, .ok (), rfl, by simp [attempt?, closed], rfl, rfl, fun _ => rfl⟩
  | enterFirst | detach =>
      left
      rw [abandon_eq]
      exact ⟨rfl, by rintro _ _ ⟨⟩, rfl, rfl, rfl⟩
  | _ =>
      left
      exact ⟨rfl, by rintro _ _ ⟨⟩, rfl, rfl, rfl⟩

theorem Sound.not_dialling_of_dial {now : Nat} (h : Sound l) (hstep : Step l (.dial id now) l') :
    ¬ Dialling l ∧ Dialling l' ∧ l.closed = false := by
  cases hstep with
  | dial call phase ripe closed =>
      refine ⟨?_, ⟨id, _, by simp; rfl, rfl⟩, closed⟩
      rintro ⟨j, d, hd, hphase⟩
      have hid : j = id :=
        h.reconnects_unique call hd (by rw [phase]; rfl) (by rw [hphase]; rfl)
      subst hid
      rw [call] at hd
      cases hd
      rw [phase] at hphase
      cases hphase

theorem Sound.not_dialling_of_dialled {result : Except IoError ConnectionName} (h : Sound l)
    (hstep : Step l (.dialled id result) l') : Dialling l ∧ ¬ Dialling l' := by
  obtain ⟨c, hcall, hphase⟩ : ∃ c, l.calls.get? id = some c ∧ c.phase = .dialling := by
    cases hstep with
    | dialledError call phase | dialledClosed call phase | dialledOpen call phase =>
        exact ⟨_, call, phase⟩
  refine ⟨⟨id, c, hcall, hphase⟩, ?_⟩
  rintro ⟨j, d, hd, hdphase⟩
  by_cases hid : j = id
  · subst hid
    have hleaves := hstep.leaves rfl hd
    rw [hdphase] at hleaves
    cases hleaves
  · rw [hstep.calls_of_ne (by simpa [Event.call?] using Ne.symm hid)] at hd
    exact hid (h.reconnects_unique hcall hd (by rw [hphase]; rfl) (by rw [hdphase]; rfl))

/-! ## The books of a run -/

theorem attempts_snoc (hrun : l₀.run es = some l) :
    attempts l₀ (es ++ [e]) = attempts l₀ es ++ (attempt? (l, e)).toList :=
  filterMap_history_snoc attempt? hrun

theorem dials_snoc (hrun : l₀.run es = some l) :
    dials l₀ (es ++ [e]) = dials l₀ es ++ (dialEpoch? (l, e)).toList :=
  filterMap_history_snoc dialEpoch? hrun

/-- What a link knows of its reconnects is what happened in the run. -/
structure Books (l₀ : Link) (es : List Event) (l : Link) : Prop where
  numbered : (attempts l₀ es).map (·.1) = List.range' l₀.epoch (attempts l₀ es).length
  epoch : l.epoch = l₀.epoch + (attempts l₀ es).length
  generation : l.generation = l₀.generation + (attempts l₀ es).countP (·.2.isOk)
  latest : l.closed = false → l.lastFailure =
    ((attempts l₀ es).getLast?.map fun attempt => failure? attempt.2).getD l₀.lastFailure

theorem Books.step (h : Books l₀ es l) (hrun : l₀.run es = some l) (hstep : Step l e l') :
    Books l₀ (es ++ [e]) l' := by
  rcases hstep.attempt with ⟨hnone, -, hepoch, hgeneration, hfailure⟩ |
    ⟨id, result, outcome, rfl, hsome, hepoch, hgeneration, hfailure⟩
  · have hattempts : attempts l₀ (es ++ [e]) = attempts l₀ es := by
      simp [attempts_snoc hrun, hnone]
    constructor
    · rw [hattempts]
      exact h.numbered
    · rw [hattempts, hepoch]
      exact h.epoch
    · rw [hattempts, hgeneration]
      exact h.generation
    · intro hopen
      rw [hattempts, hfailure]
      exact h.latest (hstep.opened hopen)
  · have hattempts : attempts l₀ (es ++ [.dialled id result]) =
        attempts l₀ es ++ [(l.epoch, outcome)] := by
      simp [attempts_snoc hrun, hsome]
    constructor
    · rw [hattempts, List.map_append, h.numbered, List.length_append, List.length_singleton,
        List.range'_concat, Nat.one_mul, ← h.epoch]
      rfl
    · rw [hattempts, hepoch, h.epoch, List.length_append, Nat.add_assoc]
      rfl
    · rw [hattempts, hgeneration, h.generation, List.countP_append, List.countP_singleton,
        Nat.add_assoc]
      cases outcome <;> rfl
    · intro hopen
      rw [hattempts, hfailure hopen]
      simp

theorem books_of_run (hrun : l₀.run es = some l) : Books l₀ es l := by
  refine run_induction (P := fun es l => Books l₀ es l) ⟨rfl, rfl, rfl, fun _ => rfl⟩ ?_ hrun
  intro es e l l' hrun hbefore hstep
  exact hbefore.step hrun hstep

/-- Whoever comes late to the gate finds there what came of the latest reconnect. -/
theorem Books.latest_of_late (h : Books l₀ es l) (hopen : l.closed = false)
    (hlate : l₀.epoch < l.epoch) :
    ∃ outcome, (attempts l₀ es).getLast? = some (l.epoch - 1, outcome) ∧
      l.lastFailure = failure? outcome := by
  have hlength := h.epoch
  have hne : attempts l₀ es ≠ [] := by
    intro hnil
    rw [hnil, List.length_nil] at hlength
    omega
  obtain ⟨⟨k, outcome⟩, hlast⟩ : ∃ attempt, (attempts l₀ es).getLast? = some attempt :=
    ⟨_, List.getLast?_eq_some_getLast hne⟩
  have hk : k = l.epoch - 1 := by
    have hlast' := congrArg List.getLast? h.numbered
    rw [List.getLast?_map, hlast, List.getLast?_range'] at hlast'
    split at hlast'
    · cases hlast'
    · have hnumber : k = l₀.epoch + (attempts l₀ es).length - 1 := Option.some.inj hlast'
      omega
  refine ⟨outcome, by rw [hlast, hk], ?_⟩
  rw [h.latest hopen, hlast]
  rfl

/-- Each epoch is dialled in once, the present one not before somebody dials. -/
def DialsOnce (l₀ : Link) (es : List Event) (l : Link) : Prop :=
  ∃ n, n ≤ 1 ∧ dials l₀ es = List.range (l.epoch + n) ∧ (Dialling l → n = 1) ∧
    (l.closed = false → n = 1 → Dialling l)

theorem DialsOnce.step (h : DialsOnce l₀ es l) (hsound : Sound l) (hrun : l₀.run es = some l)
    (hstep : Step l e l') (hkept : ∀ id, e ≠ .drop id) : DialsOnce l₀ (es ++ [e]) l' := by
  obtain ⟨n, hn, hdials, hdialling, hunder⟩ := h
  rcases hstep.attempt with ⟨-, hne, hepoch, -⟩ | ⟨id, result, outcome, rfl, -, hepoch, -⟩
  · rw [DialsOnce, hepoch]
    by_cases hdial : ∃ id now, e = .dial id now
    · obtain ⟨id, now, rfl⟩ := hdial
      obtain ⟨hnot, hnow, hclosed⟩ := hsound.not_dialling_of_dial hstep
      -- Nobody was dialling, so this is the first dial of the epoch.
      have hzero : n = 0 := by
        by_contra hpos
        exact hnot (hunder hclosed (by omega))
      subst hzero
      refine ⟨1, Nat.le_refl 1, ?_, fun _ => rfl, fun _ _ => hnow⟩
      rw [dials_snoc hrun, hdials, List.range_succ]
      rfl
    · have hquiet : dialEpoch? (l, e) = none := by
        cases e with
        | dial id now => exact absurd ⟨id, now, rfl⟩ hdial
        | _ => rfl
      refine ⟨n, hn, by simp [dials_snoc hrun, hquiet, hdials], ?_, ?_⟩
      · intro hafter
        rcases hstep.dialling_of hafter with hbefore | hdials
        · exact hdialling hbefore
        · exact absurd hdials hdial
      · intro hopen hone
        rcases hstep.dialling_stays (hunder (hstep.opened hopen) hone) hkept with
          hafter | hclosed | ⟨id, result, rfl⟩
        · exact hafter
        · rw [hstep.opened hopen] at hclosed
          cases hclosed
        · exact absurd rfl (hne id result)
  · -- The epoch goes up by the one dial that was ahead of it.
    obtain ⟨hbefore, hafter⟩ := hsound.not_dialling_of_dialled hstep
    refine ⟨0, Nat.zero_le 1, ?_, ?_, ?_⟩
    · rw [dials_snoc hrun, hdials, hepoch, hdialling hbefore]
      exact List.append_nil _
    · intro hdialling'
      exact absurd hdialling' hafter
    · intro _ hone
      cases hone

/-- The books of a link, as long as no call is given up while it dials. -/
structure Tally (l₀ : Link) (es : List Event) (l : Link) : Prop extends Books l₀ es l where
  dialled : DialsOnce l₀ es l

theorem tally_of_run {connection : ConnectionName} {canDial : Bool} {pause budget : Nat}
    (hrun : (start connection canDial pause budget).run es = some l)
    (hkept : ∀ id, .drop id ∉ es) : Tally (start connection canDial pause budget) es l := by
  refine ⟨books_of_run hrun, ?_⟩
  refine run_induction (P := fun es l => (∀ id, .drop id ∉ es) →
    DialsOnce (start connection canDial pause budget) es l) ?_ ?_ hrun hkept
  · intro _
    refine ⟨0, Nat.zero_le 1, rfl, ?_, ?_⟩
    · rintro ⟨id, c, hc, -⟩
      cases hc
    · intro _ hn
      cases hn
  · intro es e l l' hrun hbefore hstep hkept
    have hrest : ∀ id, .drop id ∉ es := fun id hmem => hkept id (List.mem_append_left _ hmem)
    refine (hbefore hrest).step (sound_of_run hrun) hrun hstep ?_
    rintro id rfl
    exact hkept id (by simp)

section Start

variable {connection : ConnectionName} {canDial : Bool} {pause budget : Nat}

theorem Tally.epochs (h : Tally (start connection canDial pause budget) es l) :
    (attempts (start connection canDial pause budget) es).map (·.1) = List.range l.epoch := by
  have hzero : (start connection canDial pause budget).epoch = 0 := rfl
  rw [h.numbered, h.epoch, hzero, Nat.zero_add, List.range_eq_range']

theorem Tally.installed (h : Tally (start connection canDial pause budget) es l) :
    l.generation = 1 + (attempts (start connection canDial pause budget) es).countP (·.2.isOk) :=
  h.generation

/-! ## At the gate -/

theorem Tally.latest_of_late (h : Tally (start connection canDial pause budget) es l)
    (hopen : l.closed = false) {seen : Nat} (hle : seen ≤ l.epoch) (hlate : l.epoch ≠ seen)
    (before : Option FrameError) :
    ∃ k outcome, (attempts (start connection canDial pause budget) es).getLast? =
        some (k, outcome) ∧
      (l.lastFailure.map FrameError.io).or before = carriedFrom outcome before := by
  have hsome : 0 < l.epoch := by omega
  obtain ⟨outcome, hlast, hfailure⟩ := h.toBooks.latest_of_late hopen hsome
  refine ⟨_, outcome, hlast, ?_⟩
  rw [hfailure]
  cases outcome <;> rfl

end Start

/-- **One reconnect at a time, shared by all who need it.** No two calls are dialling.
The reconnects that are over belong to the epochs before the present one, one to
each, and so do the dials, apart from the one that is under way or was cut short
by a termination.  Each success has installed the connection of the next
generation.  A call that comes to the gate with the present epoch drops the
connection and reconnects; one that comes with an old epoch takes away what came
of the latest reconnect and changes nothing else. -/
theorem reconnects_single_flight {connection : ConnectionName} {pause budget : Nat}
    (hrun : (start connection true pause budget).run es = some l) (hkept : ∀ id, .drop id ∉ es) :
    (∀ i j c d, l.calls.get? i = some c → l.calls.get? j = some d →
      c.phase = .dialling → d.phase = .dialling → i = j) ∧
    (attempts (start connection true pause budget) es).map (·.1) = List.range l.epoch ∧
    (∃ n, n ≤ 1 ∧ dials (start connection true pause budget) es = List.range (l.epoch + n) ∧
      (Dialling l → n = 1) ∧ (l.closed = false → n = 1 → Dialling l)) ∧
    l.generation =
      1 + (attempts (start connection true pause budget) es).countP (·.2.isOk) ∧
    (∀ g, l.slot = some g → g = l.generation) ∧
    ∀ id now c seen l', l.calls.get? id = some c → c.phase = .waiting seen →
      l.step (.enter id now) = some l' →
      (seen = l.epoch → l'.slot = none ∧
        l'.calls.get? id = some { c with phase := .pausing (now + pause) }) ∧
      (seen ≠ l.epoch → ∃ k outcome,
        (attempts (start connection true pause budget) es).getLast? = some (k, outcome) ∧
        l' = { l with gate := l.gate.erase id }.setCall id
          { c with phase := .ready, carried := carriedFrom outcome c.carried }) := by
  have hsound := sound_of_run hrun
  have htally := tally_of_run hrun hkept
  refine ⟨?_, htally.epochs, htally.dialled, htally.installed, hsound.current, ?_⟩
  · intro i j c d hc hd hcphase hdphase
    exact (hsound.reconnects_unique hc hd (by rw [hcphase]; rfl) (by rw [hdphase]; rfl)).symm
  · intro id now c seen l' hcall hphase henter
    obtain ⟨-, hpause, -⟩ := settings_of_run hrun
    cases step_iff.mp henter with
    | enterLate call phase turn closed late =>
        rw [call] at hcall
        cases hcall
        rw [phase] at hphase
        cases hphase
        refine ⟨fun hnow => absurd hnow.symm late, ?_⟩
        intro _
        have hle := (hsound.fits id c call).seen_le seen (by rw [phase]; rfl)
        obtain ⟨k, outcome, hlast, hcarried⟩ := htally.latest_of_late closed hle late c.carried
        exact ⟨k, outcome, hlast, by rw [hcarried]⟩
    | enterFirst call phase turn closed first =>
        rw [call] at hcall
        cases hcall
        rw [phase] at hphase
        cases hphase
        refine ⟨?_, fun hlate => absurd first.symm hlate⟩
        intro _
        refine ⟨l.slot_abandon, ?_⟩
        rw [← hpause]
        simp

/-- Two calls fail on one connection, and one of them has reconnected. -/
def twoFailures : List Event :=
  [.call 1 .receive, .look 1, .ask 1, .call 2 .receive, .look 2, .ended 1, .judge 1, .enter 1 0,
    .lose 2, .judge 2, .dial 1 0, .dialled 1 (.ok "b")]

/-- The second of two failed calls shares the reconnect of the first. -/
theorem reconnects_single_flight_two_failures :
    ∃ l, (start "a" true 0 1).run twoFailures = some l ∧
      ∃ l', l.step (.enter 2 0) = some l' ∧ l'.slot = some 2 ∧
        l'.calls.get? 2 = some { job := .receive, attempts := 1 } := by
  have hrun : ∃ l, (start "a" true 0 1).run twoFailures = some l ∧
      l.calls.get? 2 = some { job := .receive, phase := .waiting 0, attempts := 1 } ∧
      l.epoch = 1 ∧ l.slot = some 2 ∧ ∃ l', l.step (.enter 2 0) = some l' :=
    ⟨_, rfl, rfl, rfl, rfl, _, rfl⟩
  obtain ⟨l, hrun, hcall, hepoch, hslot, l', henter⟩ := hrun
  have hkept : ∀ id, .drop id ∉ twoFailures := by simp [twoFailures]
  obtain ⟨-, -, -, -, -, hgate⟩ := reconnects_single_flight hrun hkept
  obtain ⟨k, outcome, hlast, rfl⟩ := (hgate 2 0 _ 0 l' hcall rfl henter).2 (by omega)
  have hlatest : (attempts (start "a" true 0 1) twoFailures).getLast? = some (0, .ok ()) := rfl
  rw [hlatest] at hlast
  cases hlast
  exact ⟨l, hrun, _, henter, hslot, by simp [carriedFrom]⟩

end TelemetryRelay.Link
