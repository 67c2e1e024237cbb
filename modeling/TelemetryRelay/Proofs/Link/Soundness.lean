import TelemetryRelay.Proofs.Link.Steps

/-!
# What holds of every link at all times

`Sound` is the invariant of a link: who stands in the line for the gate, who may
reconnect, which connection is installed and which are abandoned, and what the
calls have seen.  Every step keeps it.
-/

namespace TelemetryRelay.Link

open Wire

/-- What the calls on a link share, apart from the line for the gate. -/
structure Shared where
  slot : Option Nat
  epoch : Nat
  generation : Nat
  /-- Whether a connection was abandoned, if there has been one of this generation. -/
  abandoned? : Nat → Option Bool

def shared (l : Link) : Shared where
  slot := l.slot
  epoch := l.epoch
  generation := l.generation
  abandoned? g := (l.lanes.get? g).map (·.abandoned)

/-- Stands in the line for the gate or at its head. -/
def Phase.atGate : Phase → Bool
  | .waiting _ | .pausing _ | .dialling => true
  | _ => false

/-- Has let go of the old connection and not yet got a new one. -/
def Phase.reconnects : Phase → Bool
  | .pausing _ | .dialling => true
  | _ => false

/-- The epoch at which a call looked at the link. -/
def Phase.seen? : Phase → Option Nat
  | .entering _ seen | .working _ seen _ | .failed seen _ | .waiting seen => some seen
  | _ => none

theorem Phase.atGate_of_reconnects (p : Phase) (h : p.reconnects = true) : p.atGate = true := by
  cases p <;> first | rfl | cases h

theorem Phase.seen?_of_lane? {p : Phase} {g seen : Nat} (h : p.lane? = some (g, seen)) :
    p.seen? = some seen ∧ p.atGate = false := by
  cases p <;> cases h <;> exact ⟨rfl, rfl⟩

theorem Holds.lane? {l : Link} {id : CallId} {c : Call} {g seen : Nat} {work : Work} {lane : Lane}
    (h : Holds l id c g seen work lane) : c.phase.lane? = some (g, seen) := by
  rw [h.phase]
  rfl

theorem head?_erase_of_ne {gate : List CallId} {id j : CallId} (hne : j ≠ id)
    (h : gate.head? = some j) : (gate.erase id).head? = some j := by
  cases gate with
  | nil => cases h
  | cons i rest =>
      cases h
      simp [hne]

/-- A call may stand where it does. -/
structure Fits (s : Shared) (gate : List CallId) (id : CallId) (p : Phase) : Prop where
  inLine : id ∈ gate ↔ p.atGate = true
  alone : p.reconnects = true → gate.head? = some id ∧ s.slot = none
  onLane : ∀ g seen, p.lane? = some (g, seen) →
    s.abandoned? g ≠ none ∧ (s.abandoned? g = some false → seen = s.epoch)
  seen_le : ∀ seen, p.seen? = some seen → seen ≤ s.epoch

structure Sound (l : Link) : Prop where
  nodup : l.gate.Nodup
  known : ∀ id ∈ l.gate, ∃ c, l.calls.get? id = some c
  fits : ∀ id c, l.calls.get? id = some c → Fits l.shared l.gate id c.phase
  /-- The installed connection is the one that is not abandoned. -/
  installed : ∀ g, l.shared.abandoned? g = some false ↔ l.slot = some g
  current : ∀ g, l.slot = some g → g = l.generation
  bound : ∀ g, l.generation < g → l.shared.abandoned? g = none

/-! ## What the parts of a step leave alone -/

section Parts

variable (l : Link) (id : CallId) (c : Call) (seen : Nat) (cause : FrameError) (outcome : Outcome)

@[simp] theorem calls_setCall : (l.setCall id c).calls = l.calls.set id c := rfl

@[simp] theorem calls_onLane (g : Nat) (f : Lane → Lane) : (l.onLane g f).calls = l.calls := rfl

@[simp] theorem calls_finish :
    (l.finish id c outcome).calls = l.calls.set id { c with phase := .done outcome } := rfl

@[simp] theorem calls_fail :
    (l.fail id c seen cause).calls = l.calls.set id { c with phase := .failed seen cause } := rfl

@[simp] theorem calls_endReconnect (failure : Option FrameError) :
    (l.endReconnect id c failure).calls =
      l.calls.set id { c with phase := .ready, carried := failure.or c.carried } := rfl

@[simp] theorem shared_setCall : (l.setCall id c).shared = l.shared := rfl

theorem shared_onLane (g : Nat) {f : Lane → Lane}
    (hf : ∀ lane, (f lane).abandoned = lane.abandoned) :
    (l.onLane g f).shared = l.shared := by
  simp only [shared, onLane, Shared.mk.injEq, true_and]
  funext x
  rw [Assoc.get?_modify]
  split
  · rename_i hx
    subst hx
    cases l.lanes.get? x <;> simp [hf]
  · rfl

@[simp] theorem shared_leave : (l.leave id).shared = l.shared := by
  simp only [shared, leave, Shared.mk.injEq, true_and]
  funext x
  rw [Assoc.get?_map, Option.map_map]
  rfl

@[simp] theorem shared_finish : (l.finish id c outcome).shared = l.shared := by
  simp [finish]

@[simp] theorem shared_fail : (l.fail id c seen cause).shared = l.shared := by
  simp [fail]

/-- To abandon a link touches its connections only. -/
theorem abandon_eq : l.abandon = { l with slot := none, lanes := l.abandon.lanes } := by
  obtain ⟨canDial, pause, budget, slot, lanes, epoch, generation, gate, lastFailure, closed,
    calls⟩ := l
  cases slot <;> rfl

@[simp] theorem slot_abandon : l.abandon.slot = none := by rw [abandon_eq]

@[simp] theorem epoch_abandon : l.abandon.epoch = l.epoch := by rw [abandon_eq]

@[simp] theorem generation_abandon : l.abandon.generation = l.generation := by rw [abandon_eq]

@[simp] theorem gate_abandon : l.abandon.gate = l.gate := by rw [abandon_eq]

@[simp] theorem calls_abandon : l.abandon.calls = l.calls := by rw [abandon_eq]

@[simp] theorem closed_abandon : l.abandon.closed = l.closed := by rw [abandon_eq]

@[simp] theorem lastFailure_abandon : l.abandon.lastFailure = l.lastFailure := by rw [abandon_eq]

theorem Lane.abandoned_join (lane : Lane) (work : Work) :
    (lane.join id work).abandoned = lane.abandoned := by
  unfold Lane.join
  split <;> rfl

/-- A reconnect that ends well installs a connection of the next generation. -/
theorem shared_install (connection : ConnectionName) :
    ({ l with generation := l.generation + 1, slot := some (l.generation + 1),
              lanes := l.lanes.set (l.generation + 1) { connection },
              lastFailure := none }.endReconnect id c none).shared =
      { slot := some (l.generation + 1), epoch := l.epoch + 1, generation := l.generation + 1,
        abandoned? := fun g =>
          if g = l.generation + 1 then some false else l.shared.abandoned? g } := by
  simp only [shared, endReconnect, setCall, Shared.mk.injEq, true_and, Assoc.get?_set]
  funext g
  by_cases hg : g = l.generation + 1
  · simp [hg]
  · simp [hg]

/-- An abandoned link has no connection, and the one it had is given up for good. -/
theorem shared_abandon : l.abandon.shared = { l.shared with
    slot := none
    abandoned? := fun g => if l.slot = some g then (l.shared.abandoned? g).map fun _ => true
      else l.shared.abandoned? g } := by
  unfold abandon
  cases hslot : l.slot with
  | none => simp [shared, hslot]
  | some g =>
      simp only [shared, onLane, Shared.mk.injEq, true_and]
      funext x
      rw [Assoc.get?_modify]
      by_cases hx : x = g
      · subst hx
        cases l.lanes.get? x <;> simp
      · have hgx : some g ≠ some x := fun h => hx (Option.some.inj h).symm
        rw [if_neg hx, if_neg hgx]

end Parts

variable {l l' : Link} {id : CallId} {c : Call}

/-! ## Steps of one call as the others see them -/

/-- What the others see of a step that leaves alone what they share: nobody but
the call itself joins or leaves the line for the gate. -/
theorem Sound.beside (h : Sound l) (id : CallId) (hshared : l'.shared = l.shared)
    (hnodup : l'.gate.Nodup)
    (hgate : ∀ j, j ≠ id → (j ∈ l'.gate ↔ j ∈ l.gate))
    (hhead : ∀ j, j ≠ id → l.gate.head? = some j → l'.gate.head? = some j)
    (hcalls : ∀ j, j ≠ id → l'.calls.get? j = l.calls.get? j)
    (hknown : id ∈ l'.gate → ∃ c, l'.calls.get? id = some c)
    (hfits : ∀ c, l'.calls.get? id = some c → Fits l.shared l'.gate id c.phase) : Sound l' := by
  have hslot : l'.slot = l.slot := congrArg Shared.slot hshared
  have hgeneration : l'.generation = l.generation := congrArg Shared.generation hshared
  constructor
  · exact hnodup
  · intro j hj
    by_cases hid : j = id
    · subst hid
      exact hknown hj
    · rw [hcalls j hid]
      exact h.known j ((hgate j hid).mp hj)
  · intro j cj hj
    rw [hshared]
    by_cases hid : j = id
    · subst hid
      exact hfits cj hj
    · rw [hcalls j hid] at hj
      obtain ⟨hline, halone, hlane, hseen⟩ := h.fits j cj hj
      refine ⟨(hgate j hid).trans hline, ?_, hlane, hseen⟩
      intro hreconnects
      exact ⟨hhead j hid (halone hreconnects).1, (halone hreconnects).2⟩
  · rw [hshared, hslot]
    exact h.installed
  · rw [hslot, hgeneration]
    exact h.current
  · rw [hshared, hgeneration]
    exact h.bound

/-- The call goes on to a place that fits. -/
theorem Sound.move (h : Sound l) (hshared : l'.shared = l.shared) (hgate : l'.gate = l.gate)
    (hcalls : l'.calls = l.calls.set id c) (hfits : Fits l.shared l.gate id c.phase) :
    Sound l' := by
  apply h.beside id hshared
  · rw [hgate]
    exact h.nodup
  · intro j _
    rw [hgate]
  · intro j _ hj
    rw [hgate, hj]
  · intro j hj
    rw [hcalls, Assoc.get?_set, if_neg hj]
  · intro _
    exact ⟨c, by rw [hcalls, Assoc.get?_set, if_pos rfl]⟩
  · intro c' hc'
    rw [hcalls] at hc'
    obtain rfl := Assoc.eq_of_get?_set hc'
    rw [hgate]
    exact hfits

/-- The call is in no line any more, or not even a call. -/
theorem Sound.depart (h : Sound l) (hshared : l'.shared = l.shared)
    (hgate : l'.gate = l.gate.erase id) (hcalls : ∀ j, j ≠ id → l'.calls.get? j = l.calls.get? j)
    (hfree : ∀ c, l'.calls.get? id = some c → c.phase.atGate = false ∧ c.phase.lane? = none ∧
      ∀ seen, c.phase.seen? = some seen → seen ≤ l.epoch) : Sound l' := by
  have hnot : id ∉ l'.gate := by
    rw [hgate]
    exact h.nodup.not_mem_erase
  apply h.beside id hshared
  · rw [hgate]
    exact h.nodup.erase id
  · intro j hj
    rw [hgate]
    exact List.mem_erase_of_ne hj
  · intro j hj hhead
    rw [hgate]
    exact head?_erase_of_ne hj hhead
  · exact hcalls
  · intro hmem
    exact absurd hmem hnot
  · intro c hc
    obtain ⟨hat, hlane, hseen⟩ := hfree c hc
    refine ⟨?_, ?_, ?_, hseen⟩
    · simp [hnot, hat]
    · intro hreconnects
      have hatGate := c.phase.atGate_of_reconnects hreconnects
      rw [hat] at hatGate
      cases hatGate
    · intro g seen hsome
      rw [hlane] at hsome
      cases hsome

/-- The call joins the line for the gate. -/
theorem Sound.join (h : Sound l) (hshared : l'.shared = l.shared) (hgate : l'.gate = l.gate ++ [id])
    (hcalls : l'.calls = l.calls.set id c) (hnew : id ∉ l.gate) {seen : Nat}
    (hphase : c.phase = .waiting seen) (hseen : seen ≤ l.epoch) : Sound l' := by
  apply h.beside id hshared
  · rw [hgate, List.nodup_append]
    refine ⟨h.nodup, by simp, ?_⟩
    intro j hj k hk hjk
    rw [List.mem_singleton] at hk
    exact hnew (hk ▸ hjk ▸ hj)
  · intro j hj
    rw [hgate]
    simp [hj]
  · intro j _ hhead
    rw [hgate, List.head?_append, hhead]
    rfl
  · intro j hj
    rw [hcalls, Assoc.get?_set, if_neg hj]
  · intro _
    exact ⟨c, by rw [hcalls, Assoc.get?_set, if_pos rfl]⟩
  · intro c' hc'
    rw [hcalls] at hc'
    obtain rfl := Assoc.eq_of_get?_set hc'
    rw [hgate, hphase]
    constructor
    · simp [Phase.atGate]
    · intro hreconnects
      cases hreconnects
    · intro g seen hlane
      cases hlane
    · intro s hs
      cases hs
      exact hseen

/-! ## Steps that all calls see -/

/-- The installed connection is dropped. -/
theorem Sound.abandon (h : Sound l) : Sound l.abandon := by
  constructor
  · rw [gate_abandon]
    exact h.nodup
  · rw [gate_abandon, calls_abandon]
    exact h.known
  · intro id c hc
    rw [calls_abandon] at hc
    obtain ⟨hline, halone, hlane, hseen⟩ := h.fits id c hc
    rw [gate_abandon, shared_abandon]
    refine ⟨hline, ?_, ?_, hseen⟩
    · intro hreconnects
      exact ⟨(halone hreconnects).1, rfl⟩
    · intro g seen hg
      obtain ⟨hsome, hlive⟩ := hlane g seen hg
      constructor
      · simp only
        split <;> simp [hsome]
      · simp only
        split
        · simp
        · exact hlive
  · intro g
    rw [shared_abandon, slot_abandon]
    simp only [reduceCtorEq, iff_false]
    split
    · simp
    · rename_i hne
      rw [h.installed]
      exact hne
  · intro g hg
    rw [slot_abandon] at hg
    cases hg
  · intro g hg
    rw [generation_abandon] at hg
    rw [shared_abandon]
    simp [h.bound g hg]

/-- A reconnect is over; there is no connection yet. -/
theorem Sound.tick (h : Sound l) (hslot : l.slot = none)
    (hshared : l'.shared = { l.shared with epoch := l.epoch + 1 }) (hgate : l'.gate = l.gate)
    (hcalls : l'.calls = l.calls) : Sound l' := by
  have hslot' : l'.slot = l.slot := congrArg Shared.slot hshared
  have hgeneration : l'.generation = l.generation := congrArg Shared.generation hshared
  constructor
  · rw [hgate]
    exact h.nodup
  · rw [hgate, hcalls]
    exact h.known
  · intro id c hc
    rw [hcalls] at hc
    obtain ⟨hline, halone, hlane, hseen⟩ := h.fits id c hc
    rw [hgate, hshared]
    refine ⟨hline, halone, ?_, ?_⟩
    · intro g seen hg
      refine ⟨(hlane g seen hg).1, ?_⟩
      intro hlive
      have hinstalled := (h.installed g).mp hlive
      rw [hslot] at hinstalled
      cases hinstalled
    · intro seen hs
      exact Nat.le_succ_of_le (hseen seen hs)
  · rw [hshared, hslot']
    exact h.installed
  · rw [hslot', hgeneration]
    exact h.current
  · rw [hshared, hgeneration]
    exact h.bound

/-- A new connection is installed; nobody is dialling any more. -/
theorem Sound.install (h : Sound l) (hslot : l.slot = none)
    (hfree : ∀ id c, l.calls.get? id = some c → c.phase.reconnects = false)
    (hshared : l'.shared = { l.shared with
      slot := some (l.generation + 1), generation := l.generation + 1,
      abandoned? := fun g => if g = l.generation + 1 then some false else l.shared.abandoned? g })
    (hgate : l'.gate = l.gate) (hcalls : l'.calls = l.calls) : Sound l' := by
  have hslot' : l'.slot = some (l.generation + 1) := congrArg Shared.slot hshared
  have hgeneration : l'.generation = l.generation + 1 := congrArg Shared.generation hshared
  have hnone : ∀ g, l.shared.abandoned? g ≠ some false := by
    intro g hlive
    have hinstalled := (h.installed g).mp hlive
    rw [hslot] at hinstalled
    cases hinstalled
  constructor
  · rw [hgate]
    exact h.nodup
  · rw [hgate, hcalls]
    exact h.known
  · intro id c hc
    rw [hcalls] at hc
    obtain ⟨hline, -, hlane, hseen⟩ := h.fits id c hc
    rw [hgate, hshared]
    refine ⟨hline, ?_, ?_, hseen⟩
    · intro hreconnects
      rw [hfree id c hc] at hreconnects
      cases hreconnects
    · intro g seen hg
      have hold : g ≠ l.generation + 1 := by
        rintro rfl
        exact (hlane _ seen hg).1 (h.bound _ (Nat.lt_succ_self _))
      simp only [if_neg hold]
      exact hlane g seen hg
  · intro g
    rw [hshared, hslot']
    by_cases hg : g = l.generation + 1
    · simp [hg]
    · simp [hg, hnone g, Ne.symm hg]
  · intro g hg
    rw [hslot'] at hg
    rw [hgeneration]
    exact (Option.some.inj hg).symm
  · intro g hg
    rw [hgeneration] at hg
    have hold : g ≠ l.generation + 1 := by omega
    rw [hshared]
    simp only [if_neg hold]
    exact h.bound g (by omega)

/-- Nothing changes that the calls can see. -/
theorem Sound.congr (h : Sound l) (hshared : l'.shared = l.shared) (hgate : l'.gate = l.gate)
    (hcalls : l'.calls = l.calls) : Sound l' := by
  have hslot : l'.slot = l.slot := congrArg Shared.slot hshared
  have hgeneration : l'.generation = l.generation := congrArg Shared.generation hshared
  constructor
  · rw [hgate]
    exact h.nodup
  · rw [hgate, hcalls]
    exact h.known
  · rw [hshared, hgate, hcalls]
    exact h.fits
  · rw [hshared, hslot]
    exact h.installed
  · rw [hslot, hgeneration]
    exact h.current
  · rw [hshared, hgeneration]
    exact h.bound

/-! ## Every step -/

theorem Sound.onLane (h : Sound l) (g : Nat) {f : Lane → Lane}
    (hf : ∀ lane, (f lane).abandoned = lane.abandoned) : Sound (l.onLane g f) :=
  h.congr (shared_onLane l g hf) rfl rfl

theorem Sound.unread (h : Sound l) (g : Nat) (bytes : Bytes) :
    Sound (l.onLane g fun lane => { lane with unread := bytes }) :=
  h.onLane g fun _ => rfl

theorem Sound.finish (h : Sound l) (id : CallId) (c : Call) (outcome : Outcome) :
    Sound (l.finish id c outcome) := by
  refine h.depart (shared_finish l id c outcome) rfl ?_ ?_
  · intro j hj
    simp [hj]
  · intro c' hc'
    obtain rfl := Assoc.eq_of_get?_set hc'
    exact ⟨rfl, rfl, fun _ hs => by cases hs⟩

theorem Sound.fail (h : Sound l) (id : CallId) (c : Call) {seen : Nat} (cause : FrameError)
    (hseen : seen ≤ l.epoch) : Sound (l.fail id c seen cause) := by
  refine h.depart (shared_fail l id c seen cause) rfl ?_ ?_
  · intro j hj
    simp [hj]
  · intro c' hc'
    obtain rfl := Assoc.eq_of_get?_set hc'
    refine ⟨rfl, rfl, ?_⟩
    intro s hs
    cases hs
    exact hseen

theorem Sound.endReconnect (h : Sound l) (hcall : l.calls.get? id = some c)
    (hphase : c.phase = .dialling) (failure : Option FrameError) :
    Sound (l.endReconnect id c failure) := by
  have hslot : l.slot = none := ((h.fits id c hcall).alone (by rw [hphase]; rfl)).2
  have hleft : Sound ({ l with gate := l.gate.erase id }.setCall id
      { c with phase := .ready, carried := failure.or c.carried }) := by
    refine h.depart rfl rfl ?_ ?_
    · intro j hj
      simp [hj]
    · intro c' hc'
      obtain rfl := Assoc.eq_of_get?_set hc'
      exact ⟨rfl, rfl, fun _ hs => by cases hs⟩
  exact hleft.tick hslot rfl rfl rfl

/-- Where one call reconnects no other does. -/
theorem Sound.reconnects_unique (h : Sound l) {j : CallId} {c' : Call}
    (hc : l.calls.get? id = some c) (hc' : l.calls.get? j = some c')
    (hphase : c.phase.reconnects = true) (hphase' : c'.phase.reconnects = true) : j = id := by
  have hhead := ((h.fits id c hc).alone hphase).1
  have hhead' := ((h.fits j c' hc').alone hphase').1
  rw [hhead] at hhead'
  exact (Option.some.inj hhead').symm

theorem Sound.not_mem_gate (h : Sound l) (hcall : l.calls.get? id = some c)
    (hat : c.phase.atGate = false) : id ∉ l.gate := by
  intro hmem
  rw [(h.fits id c hcall).inLine, hat] at hmem
  cases hmem

theorem Fits.outside {s : Shared} {gate : List CallId} {p : Phase} (hnot : id ∉ gate)
    (hat : p.atGate = false) (hlane : ∀ g seen, p.lane? = some (g, seen) →
      s.abandoned? g ≠ none ∧ (s.abandoned? g = some false → seen = s.epoch))
    (hseen : ∀ seen, p.seen? = some seen → seen ≤ s.epoch) : Fits s gate id p := by
  refine ⟨by simp [hnot, hat], ?_, hlane, hseen⟩
  intro hreconnects
  rw [p.atGate_of_reconnects hreconnects] at hat
  cases hat

theorem Sound.seen_le (h : Sound l) {g seen : Nat} (hcall : l.calls.get? id = some c)
    (hlane : c.phase.lane? = some (g, seen)) : seen ≤ l.epoch :=
  (h.fits id c hcall).seen_le seen (Phase.seen?_of_lane? hlane).1

/-- A call that stays on its connection stays where it fits. -/
theorem Sound.fits_working (h : Sound l) {g seen : Nat} (hcall : l.calls.get? id = some c)
    (hlane : c.phase.lane? = some (g, seen)) (work : Work) :
    Fits l.shared l.gate id (.working g seen work) := by
  apply Fits.outside (h.not_mem_gate hcall (Phase.seen?_of_lane? hlane).2) rfl
  · intro g' seen' hsome
    cases hsome
    exact (h.fits id c hcall).onLane g seen hlane
  · intro seen' hsome
    cases hsome
    exact h.seen_le hcall hlane

/-- **Every step keeps a link sound.** -/
theorem Sound.step {e : Event} (h : Sound l) (hstep : Step l e l') : Sound l' := by
  cases hstep with
  | call fresh =>
      refine h.move rfl rfl rfl ?_
      apply Fits.outside _ rfl
      · intro g seen hlane
        cases hlane
      · intro seen hseen
        cases hseen
      · intro hmem
        obtain ⟨c, hc⟩ := h.known _ hmem
        rw [fresh] at hc
        cases hc
  | cancel => exact h.finish ..
  | lookClosed => exact h.finish ..
  | @lookSome id c g call phase closed slot =>
      refine h.move rfl rfl rfl ?_
      apply Fits.outside (h.not_mem_gate call (by rw [phase]; rfl)) rfl
      · intro g' seen hlane
        cases hlane
        rw [(h.installed g).mpr slot]
        exact ⟨by simp, fun _ => rfl⟩
      · intro seen hseen
        cases hseen
        exact Nat.le_refl _
  | lookNone call phase closed slot =>
      refine h.move rfl rfl rfl ?_
      apply Fits.outside (h.not_mem_gate call (by rw [phase]; rfl)) rfl
      · intro g seen hlane
        cases hlane
      · intro seen hseen
        cases hseen
        exact Nat.le_refl _
  | @ask id c g seen lane call phase found live =>
      refine h.move (shared_onLane l g fun lane => lane.abandoned_join id _) rfl rfl ?_
      exact h.fits_working call (by rw [phase]; rfl) _
  | lose call phase => exact h.fail _ _ _ (h.seen_le call phase)
  | wrote holds =>
      refine h.move rfl rfl rfl ?_
      exact h.fits_working holds.call holds.lane? _
  | flushed => exact h.finish ..
  | filled => exact h.unread ..
  | @parseMore id c g _ _ _ _ holds =>
      refine h.move (shared_onLane l g fun _ => rfl) rfl rfl ?_
      exact h.fits_working holds.call holds.lane? _
  | parseFrame => exact (h.unread _ _).finish ..
  | parseError holds => exact (h.unread _ _).fail _ _ _ (h.seen_le holds.call holds.lane?)
  | ended holds => exact h.fail _ _ _ (h.seen_le holds.call holds.lane?)
  | broke holds => exact h.fail _ _ _ (h.seen_le holds.call holds.lane?)
  | judgeClosed => exact h.finish ..
  | judgeStuck => exact h.finish ..
  | judgeSpent => exact h.finish ..
  | judgeRetry call phase =>
      refine h.join rfl rfl rfl (h.not_mem_gate call (by rw [phase]; rfl)) rfl ?_
      exact (h.fits _ _ call).seen_le _ (by rw [phase]; rfl)
  | @enterLate id c =>
      refine h.depart rfl rfl ?_ ?_
      · intro j hj
        simp [hj]
      · intro c' hc'
        obtain rfl := Assoc.eq_of_get?_set hc'
        exact ⟨rfl, rfl, fun _ hs => by cases hs⟩
  | enterFirst call phase turn =>
      -- The call reconnects with the connection gone and itself at the head of the line.
      refine h.abandon.move rfl rfl rfl ?_
      rw [gate_abandon, shared_abandon]
      constructor
      · simpa [Phase.atGate] using List.mem_of_head? turn
      · intro _
        exact ⟨turn, rfl⟩
      · intro g seen hlane
        cases hlane
      · intro seen hseen
        cases hseen
  | dial call phase =>
      refine h.move rfl rfl rfl ?_
      have hfits := h.fits _ _ call
      rw [phase] at hfits
      refine ⟨hfits.inLine, hfits.alone, ?_, ?_⟩
      · intro g seen hlane
        cases hlane
      · intro seen hseen
        cases hseen
  | @dialledError id c e call phase =>
      have hl : Sound { l with lastFailure := some e } := h.congr rfl rfl rfl
      exact hl.endReconnect call phase _
  | dialledClosed call phase => exact h.endReconnect call phase _
  | @dialledOpen id c connection call phase =>
      have hreconnects : c.phase.reconnects = true := by rw [phase]; rfl
      -- First the reconnect ends without a connection, then the connection is installed.
      refine (h.endReconnect call phase none).install ((h.fits id c call).alone hreconnects).2
        ?_ ?_ rfl rfl
      · -- Whoever else reconnects would be at the head of the line in this call's place.
        intro j cj hj
        simp only [calls_endReconnect, Assoc.get?_set] at hj
        split at hj
        · cases hj
          rfl
        · rename_i hne
          apply Bool.eq_false_iff.mpr
          intro hother
          exact hne (h.reconnects_unique call hj hreconnects hother)
      · exact shared_install ..
  | @collect id c outcome call phase =>
      have hnot := h.not_mem_gate call (by rw [phase]; rfl)
      refine h.depart rfl (List.erase_of_not_mem hnot).symm ?_ ?_
      · intro j hj
        simp [hj]
      · intro c' hc'
        simp at hc'
  | @drop id c call =>
      refine h.depart (shared_leave l id) rfl ?_ ?_
      · intro j hj
        simp [hj]
      · intro c' hc'
        simp at hc'
  | close => exact h.congr rfl rfl rfl
  | detach => exact h.abandon

theorem sound_start (connection : ConnectionName) (canDial : Bool) (pause budget : Nat) :
    Sound (start connection canDial pause budget) := by
  constructor
  · exact List.nodup_nil
  · intro id hid
    cases hid
  · intro id c hc
    cases hc
  · intro g
    by_cases hg : g = 1
    · simp [shared, start, hg]
    · simp [shared, start, hg, Ne.symm hg]
  · intro g hg
    exact (Option.some.inj hg).symm
  · intro g hg
    have hne : g ≠ 1 := Nat.ne_of_gt hg
    simp [shared, start, hne]

end TelemetryRelay.Link
