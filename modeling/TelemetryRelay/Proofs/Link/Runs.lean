import TelemetryRelay.Proofs.Link.Soundness
import TelemetryRelay.Proofs.Machine

/-!
# Runs of a link

A link is a machine, so what every step keeps holds at the end of every run, and
`history` remembers in which state each event happened.  The rest of the module
says which events change what: the connection and the epoch are changed by
reconnects and terminations alone, and every other event is the business of one
call.
-/

namespace TelemetryRelay.Link

open Wire

/-! ## Runs -/

/-- The events of a run, each with the state it met. -/
def history : Link → List Event → List (Link × Event)
  | _, [] => []
  | l, e :: es => (l, e) ::
      match l.step e with
      | some next => history next es
      | none => []

variable {l l' l₀ : Link} {e : Event} {es es' : List Event}

theorem run_eq (l : Link) (es : List Event) : l.run es = Machine.run step l es := by
  induction es generalizing l with
  | nil => rfl
  | cons e es ih => simp only [run, Machine.run, ih]

theorem history_eq (l : Link) (es : List Event) : history l es = Machine.history step l es := by
  induction es generalizing l with
  | nil => rfl
  | cons e es ih => cases h : l.step e <;> simp [history, Machine.history, h, ih]

theorem run_cons {last : Link} (hstep : Step l e l') (hrun : l'.run es = some last) :
    l.run (e :: es) = some last := by
  simp only [Link.run, step_iff.mpr hstep, Option.bind_some, hrun]

theorem run_append (l : Link) (es es' : List Event) :
    l.run (es ++ es') = (l.run es).bind fun next => next.run es' := by
  simpa only [run_eq] using Machine.run_append l es es'

theorem run_snoc : l₀.run (es ++ [e]) = some l' ↔ ∃ l, l₀.run es = some l ∧ Step l e l' := by
  simp only [run_eq, ← step_iff]
  exact Machine.run_snoc

theorem history_snoc (hrun : l₀.run es = some l) :
    history l₀ (es ++ [e]) = history l₀ es ++ [(l, e)] := by
  simp only [run_eq, history_eq] at hrun ⊢
  exact Machine.history_snoc hrun

/-- What a run adds up to event by event. -/
theorem filterMap_history_snoc {β : Type} (f : Link × Event → Option β)
    (hrun : l₀.run es = some l) :
    (history l₀ (es ++ [e])).filterMap f = (history l₀ es).filterMap f ++ (f (l, e)).toList := by
  simp only [run_eq, history_eq] at hrun ⊢
  exact Machine.filterMap_history_snoc f hrun

/-- What the start has and every step keeps. -/
theorem run_induction {P : List Event → Link → Prop} (hstart : P [] l₀)
    (hstep : ∀ es e l l', l₀.run es = some l → P es l → Step l e l' → P (es ++ [e]) l')
    (hrun : l₀.run es = some l) : P es l := by
  simp only [run_eq, ← step_iff] at hrun hstep
  exact Machine.run_induction hstart hstep hrun

theorem Sound.run (h : Sound l₀) (hrun : l₀.run es = some l) : Sound l := by
  refine run_induction (P := fun _ l => Sound l) h ?_ hrun
  intro es e before after _ hsound hstep
  exact hsound.step hstep

theorem sound_of_run {connection : ConnectionName} {canDial : Bool} {pause budget : Nat}
    (hrun : (start connection canDial pause budget).run es = some l) : Sound l :=
  (sound_start connection canDial pause budget).run hrun

/-! ## The call of an event -/

/-- The call whose event it is. -/
def Event.call? : Event → Option CallId
  | .call id _ | .cancel id | .look id | .ask id | .lose id | .wrote id _ | .flushed id
  | .filled id _ | .parse id | .ended id | .broke id _ | .judge id | .enter id _ | .dial id _
  | .dialled id _ | .collect id | .drop id => some id
  | .close | .detach => none

/-- An event leaves all other calls as they are. -/
theorem Step.calls_of_ne (h : Step l e l') {j : CallId} (hj : e.call? ≠ some j) :
    l'.calls.get? j = l.calls.get? j := by
  cases h <;>
    simp_all [Event.call?, Ne.symm, finish, fail, setCall, leave, onLane, endReconnect]

/-- The phases in which an event finds its call. -/
def Event.finds : Event → Phase → Bool
  | .cancel _, .done _ => false
  | .cancel _, _ | .drop _, _ => true
  | .look _, .ready | .ask _, .entering .. | .judge _, .failed .. | .enter .., .waiting _
  | .dial .., .pausing _ | .dialled .., .dialling | .collect _, .done _ => true
  | .lose _, .entering .. | .lose _, .working .. => true
  | .wrote .., .working .. | .flushed _, .working .. | .filled .., .working ..
  | .parse _, .working .. | .ended _, .working .. | .broke .., .working .. => true
  | _, _ => false

/-- The phases in which an event leaves its call. -/
def Event.leaves : Event → Phase → Bool
  | .call .., .ready | .cancel _, .done _ | .ask _, .working .. | .flushed _, .done _ => true
  | .look _, .entering .. | .look _, .failed .. | .look _, .done _ => true
  | .wrote .., .working .. | .filled .., .working .. => true
  | .parse _, .working .. | .parse _, .failed .. | .parse _, .done _ => true
  | .lose _, .failed .. | .ended _, .failed .. | .broke .., .failed .. => true
  | .judge _, .waiting _ | .judge _, .done _ => true
  | .enter .., .ready | .enter .., .pausing _ | .dial .., .dialling | .dialled .., .ready => true
  | _, _ => false

theorem Step.finds (h : Step l e l') {id : CallId} {c : Call} (hid : e.call? = some id)
    (hcall : l.calls.get? id = some c) : e.finds c.phase = true := by
  cases h with
  | call fresh =>
      cases hid
      rw [fresh] at hcall
      cases hcall
  | cancel call pending =>
      cases hid
      rw [call] at hcall
      cases hcall
      unfold Event.finds
      split <;> simp_all
  | lose call phase =>
      cases hid
      rw [call] at hcall
      cases hcall
      unfold Phase.lane? at phase
      split at phase <;> simp_all [Event.finds]
  | wrote holds | flushed holds | filled holds | parseMore holds | parseFrame holds
  | parseError holds | ended holds | broke holds =>
      cases hid
      rw [holds.call] at hcall
      cases hcall
      rw [holds.phase]
      rfl
  | drop => rfl
  | close | detach => cases hid
  | lookClosed call phase | lookSome call phase | lookNone call phase | ask call phase
  | judgeClosed call phase | judgeStuck call phase | judgeSpent call phase
  | judgeRetry call phase | enterLate call phase | enterFirst call phase | dial call phase
  | dialledError call phase | dialledClosed call phase | dialledOpen call phase
  | collect call phase =>
      cases hid
      rw [call] at hcall
      cases hcall
      rw [phase]
      rfl

theorem Step.leaves (h : Step l e l') {id : CallId} {c : Call} (hid : e.call? = some id)
    (hcall : l'.calls.get? id = some c) : e.leaves c.phase = true := by
  cases h with
  | filled holds =>
      cases hid
      rw [calls_onLane, holds.call] at hcall
      cases hcall
      rw [holds.phase]
      rfl
  | close | detach => cases hid
  | collect | drop =>
      cases hid
      simp at hcall
  | _ =>
      cases hid
      obtain rfl := Assoc.eq_of_get?_set hcall
      rfl

/-- An event is that of a new call, or of one that is there. -/
theorem Step.own (h : Step l e l') {id : CallId} (hid : e.call? = some id) :
    (∃ job, e = .call id job) ∨ ∃ c, l.calls.get? id = some c := by
  cases h with
  | call =>
      cases hid
      exact .inl ⟨_, rfl⟩
  | wrote holds | flushed holds | filled holds | parseMore holds | parseFrame holds
  | parseError holds | ended holds | broke holds =>
      cases hid
      exact .inr ⟨_, holds.call⟩
  | close | detach => cases hid
  | _ =>
      cases hid
      exact .inr ⟨_, ‹_›⟩

/-- A call that is done can only go. -/
theorem Step.gone_of_done (h : Step l e l') {id : CallId} {c : Call} {outcome : Outcome}
    (hid : e.call? = some id) (hcall : l.calls.get? id = some c)
    (hphase : c.phase = .done outcome) : l'.calls.get? id = none := by
  have hfinds := h.finds hid hcall
  rw [hphase] at hfinds
  cases h with
  | collect | drop =>
      cases hid
      simp
  | cancel call pending =>
      cases hid
      rw [call] at hcall
      cases hcall
      exact absurd hphase (pending outcome)
  | _ => cases hfinds

def Phase.pending : Phase → Bool
  | .done _ => false
  | _ => true

/-- Has looked at the link and is not done with what it saw. -/
def Phase.looked : Phase → Bool
  | .ready | .done _ => false
  | _ => true

theorem Phase.pending_of_looked {p : Phase} (h : p.looked = true) : p.pending = true := by
  cases p <;> first | rfl | cases h

theorem Phase.looked_of_atGate {p : Phase} (h : p.atGate = true) : p.looked = true := by
  cases p <;> first | rfl | cases h

theorem Phase.looked_of_seen? {p : Phase} {seen : Nat} (h : p.seen? = some seen) :
    p.looked = true := by
  cases p <;> first | rfl | cases h

/-- What a call knows of the link it sees just now, or knew before. -/
theorem Step.of_looked (h : Step l e l') {id : CallId} {c' : Call}
    (hcall : l'.calls.get? id = some c') (hlooked : c'.phase.looked = true) :
    (e = .look id ∧ (∀ seen, c'.phase.seen? = some seen → seen = l.epoch) ∧
      ∀ g seen, c'.phase.lane? = some (g, seen) → l.slot = some g) ∨
    (e ≠ .look id ∧ ∃ c, l.calls.get? id = some c ∧ c.phase.looked = true ∧
      (∀ seen, c'.phase.seen? = some seen → c.phase.seen? = some seen) ∧
      ∀ g seen, c'.phase.lane? = some (g, seen) → c.phase.lane? = some (g, seen)) := by
  by_cases hid : e.call? = some id
  · cases h with
    | ask call phase | judgeRetry call phase | enterFirst call phase | dial call phase =>
        cases hid
        obtain rfl := Assoc.eq_of_get?_set hcall
        refine .inr ⟨by simp, _, call, by rw [phase]; rfl, ?_, ?_⟩ <;>
          simp [phase, Phase.seen?, Phase.lane?]
    | wrote holds | parseMore holds | parseError holds | ended holds | broke holds =>
        cases hid
        obtain rfl := Assoc.eq_of_get?_set hcall
        refine .inr ⟨by simp, _, holds.call, by rw [holds.phase]; rfl, ?_, ?_⟩ <;>
          simp [holds.phase, Phase.seen?, Phase.lane?]
    | filled holds =>
        cases hid
        exact .inr ⟨by simp, _, hcall, hlooked, fun _ hs => hs, fun _ _ hs => hs⟩
    | lose call phase =>
        cases hid
        obtain rfl := Assoc.eq_of_get?_set hcall
        have hseen := (Phase.seen?_of_lane? phase).1
        refine .inr ⟨by simp, _, call, Phase.looked_of_seen? hseen, ?_, ?_⟩
        · intro s hs
          cases hs
          exact hseen
        · intro g s hs
          cases hs
    | lookSome call phase closed slot =>
        cases hid
        obtain rfl := Assoc.eq_of_get?_set hcall
        refine .inl ⟨rfl, ?_, ?_⟩
        · intro s hs
          cases hs
          rfl
        · intro g s hs
          cases hs
          exact slot
    | lookNone =>
        cases hid
        obtain rfl := Assoc.eq_of_get?_set hcall
        refine .inl ⟨rfl, ?_, ?_⟩
        · intro s hs
          cases hs
          rfl
        · intro g s hs
          cases hs
    | close | detach => cases hid
    | collect | drop =>
        cases hid
        simp at hcall
    | _ =>
        cases hid
        obtain rfl := Assoc.eq_of_get?_set hcall
        cases hlooked
  · rw [h.calls_of_ne hid] at hcall
    refine .inr ⟨?_, c', hcall, hlooked, fun _ hs => hs, fun _ _ hs => hs⟩
    rintro rfl
    exact hid rfl

/-- What a call has seen it saw before, or just now. -/
theorem Step.of_seen (h : Step l e l') {id : CallId} {c' : Call} {seen : Nat}
    (hcall : l'.calls.get? id = some c') (hseen : c'.phase.seen? = some seen) :
    seen = l.epoch ∨ ∃ c, l.calls.get? id = some c ∧ c.phase.seen? = some seen := by
  rcases h.of_looked hcall (Phase.looked_of_seen? hseen) with
    ⟨-, hnow, -⟩ | ⟨-, c, hc, -, hbefore, -⟩
  · exact .inl (hnow seen hseen)
  · exact .inr ⟨c, hc, hbefore seen hseen⟩

/-- What a link was set up with stays. -/
theorem Step.settings (h : Step l e l') :
    l'.canDial = l.canDial ∧ l'.pause = l.pause ∧ l'.budget = l.budget := by
  cases h with
  | enterFirst | detach =>
      rw [abandon_eq]
      exact ⟨rfl, rfl, rfl⟩
  | _ => exact ⟨rfl, rfl, rfl⟩

theorem settings_of_run {connection : ConnectionName} {canDial : Bool} {pause budget : Nat}
    (hrun : (start connection canDial pause budget).run es = some l) :
    l.canDial = canDial ∧ l.pause = pause ∧ l.budget = budget := by
  refine run_induction (P := fun _ l => l.canDial = canDial ∧ l.pause = pause ∧ l.budget = budget)
    ⟨rfl, rfl, rfl⟩ ?_ hrun
  rintro es e l l' - ⟨hdials, hpause, hbudget⟩ hstep
  obtain ⟨hdials', hpause', hbudget'⟩ := hstep.settings
  exact ⟨hdials'.trans hdials, hpause'.trans hpause, hbudget'.trans hbudget⟩

/-! ## What all calls see of an event -/

/-- The event lets go of the installed connection: a termination does, and a call
that comes to the gate without any reconnect having ended since it looked. -/
def Drops (l : Link) : Event → Prop
  | .enter id _ => ∃ c, l.calls.get? id = some c ∧ c.phase = .waiting l.epoch
  | .detach => True
  | _ => False

theorem Step.shared_of_drops (h : Step l e l') (hdrops : l.Drops e) :
    l'.shared = l.abandon.shared := by
  cases h with
  | enterLate call phase turn closed late =>
      obtain ⟨c, hc, hphase⟩ := hdrops
      rw [call] at hc
      cases hc
      rw [phase] at hphase
      cases hphase
      exact absurd rfl late
  | enterFirst => rfl
  | detach => rfl
  | _ => cases hdrops

/-- The end of a dial comes with a new epoch, and maybe a new connection. -/
theorem Step.shared_of_dialled {id : CallId} {result : Except IoError ConnectionName}
    (h : Step l (.dialled id result) l') :
    l'.shared = { l.shared with epoch := l.epoch + 1 } ∨
    l'.shared = { slot := some (l.generation + 1), epoch := l.epoch + 1,
                  generation := l.generation + 1,
                  abandoned? := fun g =>
                    if g = l.generation + 1 then some false else l.shared.abandoned? g } := by
  cases h with
  | dialledError => exact .inl rfl
  | dialledClosed => exact .inl rfl
  | dialledOpen => exact .inr (shared_install ..)

/-- All other events leave alone what the calls share. -/
theorem Step.shared_eq (h : Step l e l') (hdrops : ¬ l.Drops e)
    (hdialled : ∀ id result, e ≠ .dialled id result) : l'.shared = l.shared := by
  cases h with
  | enterFirst call phase turn closed first =>
      subst first
      exact absurd ⟨_, call, phase⟩ hdrops
  | detach => exact absurd trivial hdrops
  | dialledError => exact absurd rfl (hdialled _ _)
  | dialledClosed => exact absurd rfl (hdialled _ _)
  | dialledOpen => exact absurd rfl (hdialled _ _)
  | ask => exact shared_onLane l _ fun lane => lane.abandoned_join _ _
  | filled => exact shared_onLane l _ fun _ => rfl
  | parseMore => exact shared_onLane l _ fun _ => rfl
  | parseFrame => exact (shared_finish ..).trans (shared_onLane l _ fun _ => rfl)
  | parseError => exact (shared_fail ..).trans (shared_onLane l _ fun _ => rfl)
  | cancel => exact shared_finish ..
  | lookClosed => exact shared_finish ..
  | flushed => exact shared_finish ..
  | judgeClosed => exact shared_finish ..
  | judgeStuck => exact shared_finish ..
  | judgeSpent => exact shared_finish ..
  | lose => exact shared_fail ..
  | ended => exact shared_fail ..
  | broke => exact shared_fail ..
  | @drop id => exact shared_leave l id
  | _ => rfl

/-! ## The installed connection -/

variable {id : CallId} {c : Call} {g seen : Nat} {work : Work} {lane : Lane}

theorem Sound.slot_of_holds (h : Sound l) (hholds : Holds l id c g seen work lane) :
    l.slot = some g := by
  apply (h.installed g).mp
  simp [shared, hholds.found, hholds.live]

theorem Sound.seen_of_holds (h : Sound l) (hholds : Holds l id c g seen work lane) :
    seen = l.epoch := by
  have hlive := (h.installed g).mpr (h.slot_of_holds hholds)
  exact ((h.fits id c hholds.call).onLane g seen hholds.lane?).2 hlive

/-- Where a dial ends there is no connection. -/
theorem Sound.slot_of_dialled {result : Except IoError ConnectionName} (h : Sound l)
    (hstep : Step l (.dialled id result) l') : l.slot = none := by
  cases hstep with
  | dialledError call phase | dialledClosed call phase | dialledOpen call phase =>
      exact ((h.fits _ _ call).alone (by rw [phase]; rfl)).2

/-- The installed connection stays where no event drops it. -/
theorem Sound.shared_of_kept (h : Sound l) (hstep : Step l e l') (hslot : l.slot = some g)
    (hkept : ¬ l.Drops e) : l'.shared = l.shared := by
  apply hstep.shared_eq hkept
  rintro id result rfl
  rw [h.slot_of_dialled hstep] at hslot
  cases hslot

theorem Sound.abandoned_of_drops (h : Sound l) (hstep : Step l e l') (hslot : l.slot = some g)
    (hdrops : l.Drops e) : l'.shared.abandoned? g = some true := by
  have hlive := (h.installed g).mpr hslot
  rw [hstep.shared_of_drops hdrops, shared_abandon]
  simp [hslot, hlive]

/-- What is abandoned stays abandoned. -/
theorem Sound.abandoned_step (h : Sound l) (hstep : Step l e l')
    (habandoned : l.shared.abandoned? g = some true) : l'.shared.abandoned? g = some true := by
  by_cases hdrops : l.Drops e
  · rw [hstep.shared_of_drops hdrops, shared_abandon]
    simp only
    split
    · simp [habandoned]
    · exact habandoned
  · -- The connection that the end of a dial installs is a new one.
    by_cases hdialled : ∃ id result, e = .dialled id result
    · obtain ⟨id, result, rfl⟩ := hdialled
      rcases hstep.shared_of_dialled with hshared | hshared
      · rw [hshared]
        exact habandoned
      · have hold : g ≠ l.generation + 1 := by
          rintro rfl
          rw [h.bound _ (Nat.lt_succ_self _)] at habandoned
          cases habandoned
        rw [hshared]
        simp only [if_neg hold]
        exact habandoned
    · rw [hstep.shared_eq hdrops fun id result he => hdialled ⟨id, result, he⟩]
      exact habandoned

theorem Sound.slot_ne_of_abandoned (h : Sound l) (habandoned : l.shared.abandoned? g = some true) :
    l.slot ≠ some g := by
  intro hslot
  rw [(h.installed g).mpr hslot] at habandoned
  cases habandoned

/-- While no reconnect ends, no connection comes; the one that is there may go. -/
theorem Step.slot_or_epoch (h : Step l e l') :
    (l'.epoch = l.epoch ∧ (l'.slot = l.slot ∨ l'.slot = none)) ∨ l'.epoch = l.epoch + 1 := by
  by_cases hdrops : l.Drops e
  · have hshared := h.shared_of_drops hdrops
    have hepoch : l'.epoch = l.abandon.epoch := congrArg Shared.epoch hshared
    have hslot : l'.slot = l.abandon.slot := congrArg Shared.slot hshared
    exact .inl ⟨hepoch.trans l.epoch_abandon, .inr (hslot.trans l.slot_abandon)⟩
  · by_cases hdialled : ∃ id result, e = .dialled id result
    · obtain ⟨id, result, rfl⟩ := hdialled
      right
      rcases h.shared_of_dialled with hshared | hshared <;>
        exact congrArg Shared.epoch hshared
    · have hshared := h.shared_eq hdrops fun id result he => hdialled ⟨id, result, he⟩
      exact .inl ⟨congrArg Shared.epoch hshared, .inl (congrArg Shared.slot hshared)⟩

theorem Step.generation_le (h : Step l e l') : l.generation ≤ l'.generation := by
  cases h with
  | dialledOpen => exact Nat.le_succ _
  | enterFirst => exact Nat.le_of_eq l.generation_abandon.symm
  | detach => exact Nat.le_of_eq l.generation_abandon.symm
  | _ => exact Nat.le_refl _

/-- In one epoch there is never another connection than the one it began with. -/
theorem slot_of_epoch (hrun : l₀.run es = some l) :
    l₀.epoch ≤ l.epoch ∧ (l.epoch = l₀.epoch → l.slot = l₀.slot ∨ l.slot = none) := by
  refine run_induction (P := fun _ l => l₀.epoch ≤ l.epoch ∧
    (l.epoch = l₀.epoch → l.slot = l₀.slot ∨ l.slot = none)) ⟨Nat.le_refl _, fun _ => .inl rfl⟩
    ?_ hrun
  rintro es e l l' - ⟨hle, hslot⟩ hstep
  rcases hstep.slot_or_epoch with ⟨hepoch, hslot'⟩ | hepoch
  · rw [hepoch]
    refine ⟨hle, ?_⟩
    intro hnow
    rcases hslot' with hsame | hnone
    · rw [hsame]
      exact hslot hnow
    · exact .inr hnone
  · rw [hepoch]
    exact ⟨Nat.le_succ_of_le hle, fun hnow => by omega⟩

/-- **A connection is installed exactly until it is dropped.** While it is, no
reconnect ends. -/
theorem Sound.slot_or_dropped (h : Sound l₀) (hslot : l₀.slot = some g)
    (hrun : l₀.run es = some l) :
    (l.slot = some g ∧ l.epoch = l₀.epoch ∧ ∀ p ∈ history l₀ es, ¬ p.1.Drops p.2) ∨
    (l.shared.abandoned? g = some true ∧ ∃ p ∈ history l₀ es, p.1.Drops p.2) := by
  refine run_induction (P := fun es l =>
    (l.slot = some g ∧ l.epoch = l₀.epoch ∧ ∀ p ∈ history l₀ es, ¬ p.1.Drops p.2) ∨
    (l.shared.abandoned? g = some true ∧ ∃ p ∈ history l₀ es, p.1.Drops p.2)) ?_ ?_ hrun
  · left
    exact ⟨hslot, rfl, by simp [history]⟩
  · intro es e l l' hrun hbefore hstep
    have hsound := h.run hrun
    rw [history_snoc hrun]
    rcases hbefore with ⟨hslot, hepoch, hkept⟩ | ⟨habandoned, p, hp, hdrops⟩
    · by_cases hdrops : l.Drops e
      · right
        exact ⟨hsound.abandoned_of_drops hstep hslot hdrops, (l, e), by simp, hdrops⟩
      · left
        have hshared := hsound.shared_of_kept hstep hslot hdrops
        refine ⟨(congrArg Shared.slot hshared).trans hslot,
          (congrArg Shared.epoch hshared).trans hepoch, ?_⟩
        intro p hp
        rcases List.mem_append.mp hp with hp | hp
        · exact hkept p hp
        · rw [List.mem_singleton] at hp
          rw [hp]
          exact hdrops
    · right
      exact ⟨hsound.abandoned_step hstep habandoned, p, List.mem_append_left _ hp, hdrops⟩

end TelemetryRelay.Link
