import TelemetryRelay.Proofs.Link.FailedConnection

/-!
# Who may drop a connection

A call remembers the epoch at which it looked at the link, and not the connection
it saw.  That is enough: in one epoch there is one connection at most, so a call
that comes to the gate in the epoch it remembers finds the connection it failed
on, or none.  A connection installed since then belongs to a later epoch and is
left alone.
-/

namespace TelemetryRelay.Link

open Wire

variable {l l' l₀ l₁ l₂ : Link} {e : Event} {es : List Event} {id : CallId} {c c' : Call}
  {g seen : Nat}

/-! ## What a call has seen and where it failed -/

/-- The call looked at the link in state `l` and has not looked again since. -/
def LookedLast (l₀ : Link) (es : List Event) (id : CallId) (l : Link) : Prop :=
  ∃ before after, es = before ++ .look id :: after ∧ l₀.run before = some l ∧ .look id ∉ after

/-- The call failed on the connection of generation `g`, and has since only been judged. -/
def FailedOn (l₀ : Link) (es : List Event) (id : CallId) (g : Nat) : Prop :=
  ∃ before e after l₁ l₂ c seen cause, es = before ++ e :: after ∧ l₀.run before = some l₁ ∧
    Fails l₁ e l₂ id c g seen cause ∧ ∀ e' ∈ after, e'.call? = some id → e' = .judge id

theorem LookedLast.now (hrun : l₀.run es = some l) : LookedLast l₀ (es ++ [.look id]) id l :=
  ⟨es, [], rfl, hrun, by simp⟩

theorem LookedLast.snoc (h : LookedLast l₀ es id l) (hne : e ≠ .look id) :
    LookedLast l₀ (es ++ [e]) id l := by
  obtain ⟨before, after, rfl, hbefore, hafter⟩ := h
  refine ⟨before, after ++ [e], by simp, hbefore, ?_⟩
  simp [hafter, Ne.symm hne]

theorem FailedOn.now {cause : FrameError} (hrun : l₀.run es = some l)
    (hfails : Fails l e l' id c g seen cause) : FailedOn l₀ (es ++ [e]) id g :=
  ⟨es, e, [], l, l', c, seen, cause, rfl, hrun, hfails, by simp⟩

theorem FailedOn.snoc (h : FailedOn l₀ es id g) (hown : e.call? = some id → e = .judge id) :
    FailedOn l₀ (es ++ [e]) id g := by
  obtain ⟨before, e', after, l₁, l₂, c, seen, cause, rfl, hbefore, hfails, hafter⟩ := h
  refine ⟨before, e', after ++ [e], l₁, l₂, c, seen, cause, by simp, hbefore, hfails, ?_⟩
  intro x hx
  rcases List.mem_append.mp hx with hx | hx
  · exact hafter x hx
  · rw [List.mem_singleton] at hx
    rw [hx]
    exact hown

/-- A call has one last look. -/
theorem LookedLast.unique (h₁ : LookedLast l₀ es id l₁) (h₂ : LookedLast l₀ es id l₂) :
    l₁ = l₂ := by
  obtain ⟨before₁, after₁, rfl, hrun₁, hafter₁⟩ := h₁
  obtain ⟨before₂, after₂, hsplit, hrun₂, hafter₂⟩ := h₂
  suffices before₁ = before₂ by
    rw [this, hrun₂] at hrun₁
    exact (Option.some.inj hrun₁).symm
  -- If one look came before the other it would not be the last.
  rcases List.append_eq_append_iff.mp hsplit with ⟨rest, hrest, hlook⟩ | ⟨rest, hrest, hlook⟩
  · cases rest with
    | nil => simpa using hrest.symm
    | cons e rest =>
        simp only [List.cons_append, List.cons.injEq] at hlook
        exact absurd (by simp [hlook.2]) hafter₁
  · cases rest with
    | nil => simpa using hrest
    | cons e rest =>
        simp only [List.cons_append, List.cons.injEq] at hlook
        exact absurd (by simp [hlook.2]) hafter₂

/-- The connection of a call that looked in an epoch still under way. -/
theorem LookedLast.slot (h : LookedLast l₀ es id l₁) (hrun : l₀.run es = some l) :
    l₁.epoch ≤ l.epoch ∧ (l.epoch = l₁.epoch → l.slot = l₁.slot ∨ l.slot = none) := by
  obtain ⟨before, after, rfl, hbefore, -⟩ := h
  rw [run_append, hbefore] at hrun
  exact slot_of_epoch hrun

/-! ## The failure behind a reconnect -/

/-- The epoch at which a call that has failed looked at the link. -/
def Phase.fault? : Phase → Option Nat
  | .failed seen _ | .waiting seen => some seen
  | _ => none

theorem Phase.seen?_of_fault? {p : Phase} (h : p.fault? = some seen) : p.seen? = some seen := by
  cases p <;> first | exact h | cases h

/-- How a call comes to have failed. -/
theorem Step.of_fault (h : Step l e l') (hid : e.call? = some id)
    (hcall : l'.calls.get? id = some c') (hfault : c'.phase.fault? = some seen) :
    (e = .look id ∧ l.slot = none) ∨
    (∃ c g, l.calls.get? id = some c ∧ c.phase.lane? = some (g, seen) ∧
      l.shared.abandoned? g = some true) ∨
    (∃ c g cause, Fails l e l' id c g seen cause) ∨
    (e = .judge id ∧ ∃ c, l.calls.get? id = some c ∧ c.phase.fault? = some seen) := by
  cases h with
  | lookNone call phase closed slot =>
      cases hid
      exact .inl ⟨rfl, slot⟩
  | lose call phase found abandoned =>
      cases hid
      obtain rfl := Assoc.eq_of_get?_set hcall
      cases hfault
      exact .inr (.inl ⟨_, _, call, phase, by simp [shared, found, abandoned]⟩)
  | parseError holds some feed =>
      cases hid
      obtain rfl := Assoc.eq_of_get?_set hcall
      cases hfault
      exact .inr (.inr (.inl ⟨_, _, _, step_iff.mpr (.parseError holds some feed), ⟨_, _, holds⟩,
        hcall⟩))
  | ended holds drained =>
      cases hid
      obtain rfl := Assoc.eq_of_get?_set hcall
      cases hfault
      exact .inr (.inr (.inl ⟨_, _, _, step_iff.mpr (.ended holds drained), ⟨_, _, holds⟩,
        hcall⟩))
  | broke holds drained =>
      cases hid
      obtain rfl := Assoc.eq_of_get?_set hcall
      cases hfault
      exact .inr (.inr (.inl ⟨_, _, _, step_iff.mpr (.broke holds drained), ⟨_, _, holds⟩,
        hcall⟩))
  | judgeRetry call phase =>
      cases hid
      obtain rfl := Assoc.eq_of_get?_set hcall
      cases hfault
      exact .inr (.inr (.inr ⟨rfl, _, call, by rw [phase]; rfl⟩))
  | filled holds =>
      cases hid
      rw [calls_onLane, holds.call] at hcall
      cases hcall
      rw [holds.phase] at hfault
      cases hfault
  | close | detach => cases hid
  | collect | drop =>
      cases hid
      simp at hcall
  | _ =>
      cases hid
      obtain rfl := Assoc.eq_of_get?_set hcall
      cases hfault

/-- What the calls of a link know is what happened in the run. -/
structure Traced (l₀ : Link) (es : List Event) (l : Link) : Prop where
  looked : ∀ id c, l.calls.get? id = some c → c.phase.looked = true →
    ∃ l₁, LookedLast l₀ es id l₁ ∧ (∀ seen, c.phase.seen? = some seen → seen = l₁.epoch) ∧
      ∀ g seen, c.phase.lane? = some (g, seen) → l₁.slot = some g
  /-- A failed call that finds a connection in the epoch it remembers failed on that one. -/
  blamed : ∀ id c g, l.calls.get? id = some c → c.phase.fault? = some l.epoch →
    l.slot = some g → FailedOn l₀ es id g

theorem Traced.looked_step (h : Traced l₀ es l) (hrun : l₀.run es = some l)
    (hstep : Step l e l') (hcall : l'.calls.get? id = some c') (hlooked : c'.phase.looked = true) :
    ∃ l₁, LookedLast l₀ (es ++ [e]) id l₁ ∧
      (∀ seen, c'.phase.seen? = some seen → seen = l₁.epoch) ∧
      ∀ g seen, c'.phase.lane? = some (g, seen) → l₁.slot = some g := by
  rcases hstep.of_looked hcall hlooked with
    ⟨rfl, hseen, hlane⟩ | ⟨hne, c, hc, hbefore, hseen, hlane⟩
  · exact ⟨l, .now hrun, hseen, hlane⟩
  · obtain ⟨l₁, hlast, hseen₁, hlane₁⟩ := h.looked id c hc hbefore
    exact ⟨l₁, hlast.snoc hne, fun seen hs => hseen₁ seen (hseen seen hs),
      fun g seen hs => hlane₁ g seen (hlane g seen hs)⟩

/-- A call on an abandoned connection finds no other in the epoch it remembers. -/
theorem Traced.slot_of_lost (h : Traced l₀ es l) (hsound : Sound l) (hrun : l₀.run es = some l)
    (hcall : l.calls.get? id = some c) (hlane : c.phase.lane? = some (g, l.epoch))
    (habandoned : l.shared.abandoned? g = some true) : l.slot = none := by
  have hseen := (Phase.seen?_of_lane? hlane).1
  obtain ⟨l₁, hlast, hseen₁, hlane₁⟩ := h.looked id c hcall (Phase.looked_of_seen? hseen)
  rcases (hlast.slot hrun).2 (hseen₁ _ hseen) with hsame | hnone
  · rw [hlane₁ g _ hlane] at hsame
    exact absurd hsame (hsound.slot_ne_of_abandoned habandoned)
  · exact hnone

theorem Traced.blamed_step (h : Traced l₀ es l) (hsound : Sound l) (hrun : l₀.run es = some l)
    (hstep : Step l e l') (hcall : l'.calls.get? id = some c')
    (hfault : c'.phase.fault? = some l'.epoch) (hslot : l'.slot = some g) :
    FailedOn l₀ (es ++ [e]) id g := by
  -- The end of a reconnect leaves nobody behind who has seen the new epoch.
  have hsame : l'.epoch = l.epoch ∧ l.slot = some g := by
    rcases hstep.slot_or_epoch with ⟨hepoch, hkept | hgone⟩ | hepoch
    · exact ⟨hepoch, hkept ▸ hslot⟩
    · rw [hgone] at hslot
      cases hslot
    · rcases hstep.of_seen hcall (Phase.seen?_of_fault? hfault) with hnow | ⟨c, hc, hs⟩
      · omega
      · have hle : l'.epoch ≤ l.epoch := (hsound.fits id c hc).seen_le _ hs
        omega
  obtain ⟨hepoch, hbefore⟩ := hsame
  rw [hepoch] at hfault
  by_cases hid : e.call? = some id
  · rcases hstep.of_fault hid hcall hfault with
      ⟨-, hnone⟩ | ⟨c, g', hc, hlane, habandoned⟩ | ⟨c, g', cause, hfails⟩ | ⟨rfl, c, hc, hold⟩
    · rw [hbefore] at hnone
      cases hnone
    · rw [h.slot_of_lost hsound hrun hc hlane habandoned] at hbefore
      cases hbefore
    · obtain ⟨-, hslot', -⟩ := hsound.shared_of_fails hfails
      rw [hbefore] at hslot'
      cases hslot'
      exact .now hrun hfails
    · exact (h.blamed id c g hc hold hbefore).snoc fun _ => rfl
  · rw [hstep.calls_of_ne hid] at hcall
    exact (h.blamed id c' g hcall hfault hbefore).snoc fun hown => absurd hown hid

theorem traced_of_run {connection : ConnectionName} {canDial : Bool} {pause budget : Nat}
    (hrun : (start connection canDial pause budget).run es = some l) :
    Traced (start connection canDial pause budget) es l := by
  refine run_induction (P := fun es l => Traced (start connection canDial pause budget) es l)
    ?_ ?_ hrun
  · constructor
    · intro id c hc
      cases hc
    · intro id c g hc
      cases hc
  · intro es e l l' hrun hbefore hstep
    constructor
    · intro id c hc hlooked
      exact hbefore.looked_step hrun hstep hc hlooked
    · intro id c g hc hfault hslot
      exact hbefore.blamed_step (sound_of_run hrun) hrun hstep hc hfault hslot

/-! ## What becomes of the installed connection -/

/-- What an event does to the installed connection it does as a drop. -/
theorem Sound.drops_of_gone (h : Sound l) (hstep : Step l e l')
    (hgone : l.slot = some g ∧ l'.slot ≠ some g ∨
      l.shared.abandoned? g = some false ∧ l'.shared.abandoned? g ≠ some false) :
    l.slot = some g ∧ l.Drops e := by
  have hslot : l.slot = some g := by
    rcases hgone with ⟨hslot, -⟩ | ⟨hlive, -⟩
    · exact hslot
    · exact (h.installed g).mp hlive
  refine ⟨hslot, ?_⟩
  by_contra hkept
  have hshared := h.shared_of_kept hstep hslot hkept
  have hslot' : l'.slot = some g := (congrArg Shared.slot hshared).trans hslot
  rcases hgone with ⟨-, hne⟩ | ⟨-, hne⟩
  · exact hne hslot'
  · exact hne (((h.step hstep).installed g).mpr hslot')

/-- A call that comes to the gate leaves alone what it has not seen. -/
theorem LookedLast.shared_of_enter {now : Nat} (hlast : LookedLast l₀ es id l₁)
    (htraced : Traced l₀ es l) (hrun : l₀.run es = some l) (hstep : Step l (.enter id now) l')
    (hne : l.slot ≠ l₁.slot) : l'.shared = l.shared := by
  cases hstep with
  | enterLate => rfl
  | enterFirst call phase turn closed first =>
      obtain ⟨l₂, hlast₂, hseen₂, -⟩ := htraced.looked id _ call (by rw [phase]; rfl)
      obtain rfl := hlast.unique hlast₂
      have hepoch := hseen₂ _ (by rw [phase]; rfl)
      rcases (hlast.slot hrun).2 (first.trans hepoch) with hsame | hnone
      · exact absurd hsame hne
      · -- There is nothing to drop.
        have hkept : l.abandon = l := by simp only [Link.abandon, hnone]
        rw [hkept, shared_setCall]

/-- A call that has failed is on no connection before it looks again. -/
theorem Fails.lane?_eq_none {cause : FrameError} (h : Fails l₁ e l₂ id c g seen cause)
    (hrun : l₂.run es = some l) (hlook : .look id ∉ es) (hcall : l.calls.get? id = some c') :
    c'.phase.lane? = none := by
  refine run_induction (P := fun es l => .look id ∉ es →
    ∀ c, l.calls.get? id = some c → c.phase.lane? = none) ?_ ?_ hrun hlook c' hcall
  · intro _ d hd
    rw [h.failed] at hd
    cases hd
    rfl
  · intro es e l l' _ hbefore hstep hlook d hd
    cases hlane : d.phase.lane? with
    | none => rfl
    | some on =>
        rcases hstep.of_looked hd (Phase.looked_of_seen? (Phase.seen?_of_lane? hlane).1) with
          ⟨rfl, -⟩ | ⟨-, b, hb, -, -, hsame⟩
        · exact absurd (by simp) hlook
        · have hnone := hbefore (fun hmem => hlook (List.mem_append_left _ hmem)) b hb
          rw [hsame _ _ hlane] at hnone
          cases hnone

/-- **A fresh connection is not dropped for an old failure.** A connection is taken
out and abandoned by a termination, or by a reconnect of a call that failed on
that very connection, and by nothing else.  A call whose last look showed
another connection, or none, changes nothing when it comes to the gate.  A call
is always on the connection that was installed when it looked last, and once it
has failed it is on none before it looks again. -/
theorem fresh_connection_kept {connection : ConnectionName} {canDial : Bool} {pause budget : Nat}
    (hrun : (start connection canDial pause budget).run es = some l) :
    (∀ e l' g, l.step e = some l' →
      (l.slot = some g ∧ l'.slot ≠ some g ∨
        l.shared.abandoned? g = some false ∧ l'.shared.abandoned? g ≠ some false) →
      l.slot = some g ∧ l'.slot = none ∧ l'.shared.abandoned? g = some true ∧
        (e = .detach ∧ l.closed = true ∨ ∃ id now, e = .enter id now ∧
          FailedOn (start connection canDial pause budget) es id g)) ∧
    (∀ id now l₁ l', LookedLast (start connection canDial pause budget) es id l₁ →
      l.step (.enter id now) = some l' → l.slot ≠ l₁.slot → l'.shared = l.shared) ∧
    (∀ id c g seen, l.calls.get? id = some c → c.phase.lane? = some (g, seen) →
      ∃ l₁, LookedLast (start connection canDial pause budget) es id l₁ ∧ l₁.slot = some g ∧
        l₁.epoch = seen) ∧
    ∀ before e after l₁ l₂ id c c' g seen cause, es = before ++ e :: after →
      (start connection canDial pause budget).run before = some l₁ →
      Fails l₁ e l₂ id c g seen cause → .look id ∉ after → l.calls.get? id = some c' →
      c'.phase.lane? = none := by
  have hsound := sound_of_run hrun
  have htraced := traced_of_run hrun
  refine ⟨?_, ?_, ?_, ?_⟩
  · intro e l' g hevent hgone
    have hstep := step_iff.mp hevent
    obtain ⟨hslot, hdrops⟩ := hsound.drops_of_gone hstep hgone
    have hnone : l'.slot = none :=
      (congrArg Shared.slot (hstep.shared_of_drops hdrops)).trans l.slot_abandon
    refine ⟨hslot, hnone, hsound.abandoned_of_drops hstep hslot hdrops, ?_⟩
    cases e with
    | detach =>
        cases hstep with
        | detach closed => exact .inl ⟨rfl, closed⟩
    | enter id now =>
        obtain ⟨c, hc, hphase⟩ := hdrops
        exact .inr ⟨id, now, rfl, htraced.blamed id c g hc (by rw [hphase]; rfl) hslot⟩
    | _ => cases hdrops
  · intro id now l₁ l' hlast henter hne
    exact hlast.shared_of_enter htraced hrun (step_iff.mp henter) hne
  · intro id c g seen hcall hlane
    have hseen := (Phase.seen?_of_lane? hlane).1
    obtain ⟨l₁, hlast, hseen₁, hlane₁⟩ :=
      htraced.looked id c hcall (Phase.looked_of_seen? hseen)
    exact ⟨l₁, hlast, hlane₁ g seen hlane, (hseen₁ seen hseen).symm⟩
  · rintro before e after l₁ l₂ id c c' g seen cause rfl hbefore hfails hlook hcall
    rw [run_append, hbefore, Option.bind_some] at hrun
    obtain ⟨next, hnext, hafter⟩ := Option.bind_eq_some_iff.mp hrun
    rw [hfails.step] at hnext
    cases hnext
    exact hfails.lane?_eq_none hafter hlook hcall

/-- Two calls fail on the first connection and one of them has reconnected: the other
leaves the second connection installed when it comes to the gate. -/
theorem fresh_connection_kept_two_failures :
    ∃ l l', (start "a" true 0 1).run [.call 1 .receive, .look 1, .ask 1, .call 2 .receive, .look 2,
        .ended 1, .judge 1, .enter 1 0, .lose 2, .judge 2, .dial 1 0, .dialled 1 (.ok "b")] =
        some l ∧
      l.step (.enter 2 0) = some l' ∧ l.slot = some 2 ∧ l'.slot = some 2 := by
  have hlooked : ∃ l l₁ l', (start "a" true 0 1).run [.call 1 .receive, .look 1, .ask 1,
        .call 2 .receive, .look 2, .ended 1, .judge 1, .enter 1 0, .lose 2, .judge 2, .dial 1 0,
        .dialled 1 (.ok "b")] = some l ∧
      (start "a" true 0 1).run [.call 1 .receive, .look 1, .ask 1, .call 2 .receive] = some l₁ ∧
      l.step (.enter 2 0) = some l' ∧ l.slot = some 2 ∧ l₁.slot = some 1 :=
    ⟨_, _, _, rfl, rfl, rfl, rfl, rfl⟩
  obtain ⟨l, l₁, l', hrun, hbefore, henter, hslot, hold⟩ := hlooked
  obtain ⟨-, hkept, -⟩ := fresh_connection_kept hrun
  have hshared := hkept 2 0 l₁ l' ⟨_, _, rfl, hbefore, by simp⟩ henter (by rw [hslot, hold]; simp)
  exact ⟨l, l', hrun, henter, hslot, (congrArg Shared.slot hshared).trans hslot⟩

end TelemetryRelay.Link
