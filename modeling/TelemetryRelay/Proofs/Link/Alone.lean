import TelemetryRelay.Proofs.Link.Lines

/-!
# A call that is alone on a link

Where no other call is pending and nobody terminates the link, a call makes one
try after the other: on the connection that is installed, then on what each of its
reconnects gives it.  `Turn` lists the steps that are left to it.  From these
follows what a call that is over has done: its tries in order, all but the last
in vain, and one complete reconnect between two of them.
-/

namespace TelemetryRelay.Link

open Wire

/-! ## Tries and reconnects -/

/-- How the job of a call ends on its connection. -/
def ends? (l : Link) : Event → Option (Except FrameError Outcome)
  | .flushed _ => some (.ok .sent)
  | .broke _ error => some (.error (.io error))
  | .ended id =>
    match l.holding? id with
    | some (_, _, _, .reading progress, _) => some (.error progress.cutOff)
    | _ => none
  | .parse id =>
    match l.holding? id with
    | some (_, _, _, .reading progress, lane) =>
      match progress.feed lane.unread with
      | .hungry _ => none
      | .finished (.ok f) _ => some (.ok (.received f))
      | .finished (.error e) _ => some (.error e)
    | _ => none
  | _ => none

/-- What a try comes to, and on which connection.  A dial that gives no connection is
a try in vain. -/
def trial? : Link × Event → Option (Except FrameError Outcome × Option ConnectionName)
  | (_, .dialled _ (.error e)) => some (.error (.io e), none)
  | (l, e) => (l.ends? e).map (·, l.connection?)

/-- The tries of a run; where no connection is installed the first is in vain. -/
def tries (l : Link) (es : List Event) :
    List (Except FrameError Outcome × Option ConnectionName) :=
  (if l.isConnected then [] else [(.error (.io neverConnected), none)]) ++
    (history l es).filterMap trial?

def Event.reconnects : Event → Bool
  | .judge _ | .enter .. | .dial .. | .dialled .. => true
  | _ => false

/-- A reconnect: when the call came to the gate, when it dialled, and what that gave. -/
structure Reconnect where
  entered : Nat
  dialled : Nat
  result : Except IoError ConnectionName

/-- The connections one after the other: the one that is installed, and what each
reconnect gives. -/
def links (l : Link) (rs : List Reconnect) : List (Option ConnectionName) :=
  l.connection? :: rs.map (·.result.toOption)

def Reconnect.events (id : CallId) (r : Reconnect) : List Event :=
  [.judge id, .enter id r.entered, .dial id r.dialled, .dialled id r.result]

/-- A call comes to an open link where no other is pending, and all that happens
then are steps of this call. -/
structure Alone (l : Link) (id : CallId) (job : Job) (es : List Event) (l' : Link) : Prop where
  opened : l.closed = false
  quiet : ∀ j c, l.calls.get? j = some c → c.phase.pending = false
  run : l.run (.call id job :: es) = some l'
  own : ∀ e ∈ es, e.call? = some id ∧ e ≠ .collect id ∧ e ≠ .drop id

variable {l l' l₀ : Link} {e : Event} {es : List Event} {id : CallId} {c c' : Call}
  {job : Job}

/-! ## The steps that are left -/

theorem Lane.connection_join (lane : Lane) (id : CallId) (work : Work) :
    (lane.join id work).connection = lane.connection := by
  cases work <;> rfl

/-- What matters to a call that is alone is as before. -/
structure Kept (l l' : Link) : Prop where
  slot : l'.slot = l.slot
  epoch : l'.epoch = l.epoch
  connection : l'.connection? = l.connection?

theorem connection?_congr (hslot : l'.slot = l.slot)
    (hlanes : ∀ g, (l'.lanes.get? g).map (·.connection) = (l.lanes.get? g).map (·.connection)) :
    l'.connection? = l.connection? := by
  rw [connection?, connection?, hslot]
  cases l.slot with
  | none => rfl
  | some g => exact hlanes g

theorem connection?_of_slot (hslot : l.slot = none) : l.connection? = none := by
  rw [connection?, hslot]
  rfl

theorem Kept.onLane (l : Link) (g : Nat) {f : Lane → Lane}
    (hf : ∀ lane, (f lane).connection = lane.connection) : Kept l (l.onLane g f) := by
  refine ⟨rfl, rfl, connection?_congr rfl ?_⟩
  intro x
  simp only [Link.onLane, Assoc.get?_modify]
  split
  · rename_i hx
    subst hx
    cases l.lanes.get? x <;> simp [hf]
  · rfl

theorem Kept.leave (l : Link) (id : CallId) : Kept l (l.leave id) := by
  refine ⟨rfl, rfl, connection?_congr rfl ?_⟩
  intro x
  simp only [Link.leave, Assoc.get?_map, Option.map_map]
  rfl

theorem Kept.setCall (h : Kept l l') (id : CallId) (c : Call) : Kept l (l'.setCall id c) :=
  ⟨h.slot, h.epoch, h.connection⟩

theorem Kept.finish (l : Link) (id : CallId) (c : Call) (outcome : Outcome) :
    Kept l (l.finish id c outcome) :=
  (Kept.leave l id).setCall id _

theorem Kept.fail (l : Link) (id : CallId) (c : Call) (seen : Nat) (cause : FrameError) :
    Kept l (l.fail id c seen cause) :=
  (Kept.leave l id).setCall id _

theorem Kept.unread (l : Link) (g : Nat) (bytes : Bytes) :
    Kept l (l.onLane g fun lane => { lane with unread := bytes }) :=
  .onLane l g fun _ => rfl

theorem Kept.trans {l₁ l₂ l₃ : Link} (h : Kept l₁ l₂) (h' : Kept l₂ l₃) : Kept l₁ l₃ :=
  ⟨h'.slot.trans h.slot, h'.epoch.trans h.epoch, h'.connection.trans h.connection⟩

/-- One step of a call that is alone, with what it does to what calls share. -/
inductive Turn (id : CallId) (l : Link) (c : Call) (l' : Link) : Event → Call → Prop
  | lookSome {g : Nat} (phase : c.phase = .ready) (slot : l.slot = some g)
      (kept : Kept l l') :
      Turn id l c l' (.look id) { c with phase := .entering g l.epoch }
  | lookNone (phase : c.phase = .ready) (slot : l.slot = none) (kept : Kept l l') :
      Turn id l c l' (.look id)
        { c with phase := .failed l.epoch (c.carried.getD (.io neverConnected)), carried := none }
  | ask {g : Nat} (phase : c.phase = .entering g l.epoch) (kept : Kept l l') :
      Turn id l c l' (.ask id) { c with phase := .working g l.epoch c.job.work }
  | work {e : Event} {g : Nat} {before : Work} (after : Work)
      (phase : c.phase = .working g l.epoch before) (plain : e.reconnects = false)
      (ends : trial? (l, e) = none) (kept : Kept l l') :
      Turn id l c l' e { c with phase := .working g l.epoch after }
  | succeed {e : Event} {g : Nat} {work : Work} {outcome : Outcome}
      (phase : c.phase = .working g l.epoch work) (plain : e.reconnects = false)
      (ends : trial? (l, e) = some (.ok outcome, l.connection?)) (fine : ∀ e, outcome ≠ .failed e)
      (kept : Kept l l') : Turn id l c l' e { c with phase := .done outcome }
  | fail {e : Event} {g : Nat} {work : Work} {cause : FrameError}
      (phase : c.phase = .working g l.epoch work) (plain : e.reconnects = false)
      (ends : trial? (l, e) = some (.error cause, l.connection?)) (kept : Kept l l') :
      Turn id l c l' e { c with phase := .failed l.epoch cause }
  | spent {cause : FrameError} (phase : c.phase = .failed l.epoch cause)
      (spent : l.budget ≤ c.attempts) (kept : Kept l l') :
      Turn id l c l' (.judge id) { c with phase := .done (.failed (.exhausted c.attempts cause)) }
  | retry {cause : FrameError} (phase : c.phase = .failed l.epoch cause)
      (left : c.attempts < l.budget) (kept : Kept l l') :
      Turn id l c l' (.judge id) { c with phase := .waiting l.epoch, attempts := c.attempts + 1 }
  | enter {now : Nat} (phase : c.phase = .waiting l.epoch) (slot : l'.slot = none) :
      Turn id l c l' (.enter id now) { c with phase := .pausing (now + l.pause) }
  | dial {due now : Nat} (phase : c.phase = .pausing due) (ripe : due ≤ now)
      (kept : Kept l l') : Turn id l c l' (.dial id now) { c with phase := .dialling }
  | refused {error : IoError} (phase : c.phase = .dialling) (slot : l'.slot = none) :
      Turn id l c l' (.dialled id (.error error))
        { c with phase := .ready, carried := some (.io error) }
  | connected {connection : ConnectionName} {g : Nat} (phase : c.phase = .dialling)
      (slot : l'.slot = some g) (given : l'.connection? = some connection) :
      Turn id l c l' (.dialled id (.ok connection)) { c with phase := .ready }

/-- The call is the only one that is pending on an open link. -/
structure Solo (id : CallId) (l : Link) (c : Call) : Prop where
  sound : Sound l
  queued : Queued l
  opened : l.closed = false
  dials : l.canDial = true
  call : l.calls.get? id = some c
  others : ∀ j d, j ≠ id → l.calls.get? j = some d → d.phase.pending = false
  /-- No reconnect has ended and no connection has gone since it looked. -/
  seen : ∀ seen, c.phase.seen? = some seen → seen = l.epoch
  lane : ∀ g seen, c.phase.lane? = some (g, seen) → l.slot = some g

theorem Solo.phase_of_holds {g seen : Nat} {work : Work} {lane : Lane} {d : Call}
    (h : Solo id l c) (hholds : Holds l id d g seen work lane) :
    d = c ∧ c.phase = .working g l.epoch work := by
  obtain rfl : d = c := Option.some.inj (hholds.call.symm.trans h.call)
  refine ⟨rfl, ?_⟩
  rw [← h.seen seen (by rw [hholds.phase]; rfl)]
  exact hholds.phase

theorem Solo.turn (h : Solo id l c) (hstep : Step l e l') (hown : e.call? = some id)
    (hcollect : e ≠ .collect id) (hdrop : e ≠ .drop id) :
    ∃ c', Turn id l c l' e c' ∧ l'.calls.get? id = some c' := by
  have hopen : l.closed ≠ true := by
    rw [h.opened]
    simp
  have hsame : ∀ d, l.calls.get? id = some d → d = c := fun d hd =>
    Option.some.inj (hd.symm.trans h.call)
  cases hstep with
  | call fresh =>
      cases hown
      rw [fresh] at hsame
      exact absurd (h.call.symm.trans fresh) (by simp)
  -- What takes a closed link, or one that cannot dial, does not come up.
  | cancel call pending closed | lookClosed call phase closed | judgeClosed call phase closed
  | dialledClosed call phase closed => exact absurd closed hopen
  | judgeStuck call phase closed stuck =>
      rw [h.dials] at stuck
      cases stuck
  | lookSome call phase closed slot =>
      cases hown
      obtain rfl := hsame _ call
      exact ⟨_, .lookSome phase slot ⟨rfl, rfl, rfl⟩, by simp⟩
  | lookNone call phase closed slot =>
      cases hown
      obtain rfl := hsame _ call
      exact ⟨_, .lookNone phase slot ⟨rfl, rfl, rfl⟩, by simp⟩
  | ask call phase found live =>
      cases hown
      obtain rfl := hsame _ call
      obtain rfl := h.seen _ (by rw [phase]; rfl)
      exact ⟨_, .ask phase ((Kept.onLane l _ fun lane => lane.connection_join _ _).setCall id _), by simp⟩
  | lose call phase found abandoned =>
      -- Its connection is the installed one, which nobody has abandoned.
      cases hown
      obtain rfl := hsame _ call
      exact absurd (h.lane _ _ phase)
        (h.sound.slot_ne_of_abandoned (by simp [shared, found, abandoned]))
  | @wrote _ _ _ _ rest _ count holds =>
      cases hown
      obtain ⟨rfl, phase⟩ := h.phase_of_holds holds
      refine ⟨_, .work (.writing (rest.drop count)) phase rfl rfl ⟨rfl, rfl, rfl⟩, ?_⟩
      simp [h.seen _ (by rw [holds.phase]; rfl)]
  | flushed holds =>
      cases hown
      obtain ⟨rfl, phase⟩ := h.phase_of_holds holds
      have fine : ∀ e, Outcome.sent ≠ .failed e := by simp
      exact ⟨_, .succeed phase rfl rfl fine (.finish ..), by simp⟩
  | @filled _ _ _ _ progress _ _ holds =>
      cases hown
      obtain ⟨rfl, phase⟩ := h.phase_of_holds holds
      refine ⟨_, .work (.reading progress) phase rfl rfl (.unread l _ _), ?_⟩
      rw [← phase]
      exact h.call
  | @parseMore _ _ _ _ _ next _ holds some feed =>
      cases hown
      obtain ⟨rfl, phase⟩ := h.phase_of_holds holds
      refine ⟨_, .work (.reading next) phase rfl ?_ ((Kept.unread l _ _).setCall id _), ?_⟩
      · simp [trial?, ends?, holding?_eq_some.mpr holds, feed]
      · simp [h.seen _ (by rw [holds.phase]; rfl)]
  | @parseFrame _ _ _ _ _ _ f _ holds some feed =>
      cases hown
      obtain ⟨rfl, phase⟩ := h.phase_of_holds holds
      have fine : ∀ e, Outcome.received f ≠ .failed e := by simp
      refine ⟨_, .succeed phase rfl ?_ fine
        ((Kept.unread l _ _).trans (.finish ..)), by simp⟩
      simp [trial?, ends?, holding?_eq_some.mpr holds, feed]
  | @parseError _ _ _ _ _ _ cause _ holds some feed =>
      cases hown
      obtain ⟨rfl, phase⟩ := h.phase_of_holds holds
      have ends : trial? (l, .parse id) = .some (.error cause, l.connection?) := by
        simp [trial?, ends?, holding?_eq_some.mpr holds, feed]
      refine ⟨_, .fail phase rfl ends
        ((Kept.unread l _ _).trans (.fail ..)), ?_⟩
      simp [h.seen _ (by rw [holds.phase]; rfl)]
  | @ended _ _ _ _ progress _ holds =>
      cases hown
      obtain ⟨rfl, phase⟩ := h.phase_of_holds holds
      have ends : trial? (l, .ended id) = some (.error progress.cutOff, l.connection?) := by
        simp [trial?, ends?, holding?_eq_some.mpr holds]
      refine ⟨_, .fail phase rfl ends (.fail ..), ?_⟩
      simp [h.seen _ (by rw [holds.phase]; rfl)]
  | broke holds =>
      cases hown
      obtain ⟨rfl, phase⟩ := h.phase_of_holds holds
      refine ⟨_, .fail phase rfl rfl (.fail ..), ?_⟩
      simp [h.seen _ (by rw [holds.phase]; rfl)]
  | judgeSpent call phase closed dials spent =>
      cases hown
      obtain rfl := hsame _ call
      obtain rfl := h.seen _ (by rw [phase]; rfl)
      exact ⟨_, .spent phase spent (.finish ..), by simp⟩
  | judgeRetry call phase closed dials left =>
      cases hown
      obtain rfl := hsame _ call
      obtain rfl := h.seen _ (by rw [phase]; rfl)
      exact ⟨_, .retry phase left ⟨rfl, rfl, rfl⟩, by simp⟩
  | enterLate call phase turn closed late =>
      -- There is nobody whose reconnect it could share.
      cases hown
      obtain rfl := hsame _ call
      exact absurd (h.seen _ (by rw [phase]; rfl)).symm late
  | enterFirst call phase turn closed first =>
      cases hown
      obtain rfl := hsame _ call
      subst first
      exact ⟨_, .enter phase l.slot_abandon, by simp⟩
  | dial call phase ripe =>
      cases hown
      obtain rfl := hsame _ call
      exact ⟨_, .dial phase ripe ⟨rfl, rfl, rfl⟩, by simp⟩
  | dialledError call phase =>
      cases hown
      obtain rfl := hsame _ call
      have hslot := ((h.sound.fits _ _ call).alone (by rw [phase]; rfl)).2
      exact ⟨_, .refused phase hslot, by simp⟩
  | dialledOpen call phase =>
      cases hown
      obtain rfl := hsame _ call
      exact ⟨_, .connected phase rfl (by simp [connection?, endReconnect, setCall]), by simp⟩
  | collect =>
      cases hown
      exact absurd rfl hcollect
  | drop =>
      cases hown
      exact absurd rfl hdrop
  | close | detach => cases hown

/-- What a call keeps in mind after its step still fits the link. -/
theorem Turn.seen (h : Turn id l c l' e c') :
    ∀ seen, c'.phase.seen? = some seen → seen = l'.epoch := by
  intro seen hseen
  cases h with
  | lookSome _ _ kept | lookNone _ _ kept | ask _ kept | work _ _ _ _ kept | fail _ _ _ kept
  | retry _ _ kept =>
      cases hseen
      exact kept.epoch.symm
  | _ => cases hseen

theorem Turn.lane (h : Turn id l c l' e c')
    (hbefore : ∀ g seen, c.phase.lane? = some (g, seen) → l.slot = some g) :
    ∀ g seen, c'.phase.lane? = some (g, seen) → l'.slot = some g := by
  intro g seen hlane
  cases h with
  | lookSome _ slot kept =>
      cases hlane
      exact kept.slot.trans slot
  | ask phase kept | work _ phase _ _ kept =>
      cases hlane
      rw [phase] at hbefore
      exact kept.slot.trans (hbefore _ _ rfl)
  | _ => cases hlane

theorem Step.closed_of_own (h : Step l e l') (hown : e.call? = some id) :
    l'.closed = l.closed := by
  cases h with
  | enterFirst => exact l.closed_abandon
  | close | detach => cases hown
  | _ => rfl

theorem Solo.step (h : Solo id l c) (hstep : Step l e l') (hown : e.call? = some id)
    (hcollect : e ≠ .collect id) (hdrop : e ≠ .drop id) :
    ∃ c', Turn id l c l' e c' ∧ Solo id l' c' := by
  obtain ⟨c', hturn, hcall⟩ := h.turn hstep hown hcollect hdrop
  refine ⟨c', hturn, h.sound.step hstep, h.queued.step h.sound hstep,
    (hstep.closed_of_own hown).trans h.opened, hstep.settings.1.trans h.dials, hcall, ?_,
    hturn.seen, hturn.lane h.lane⟩
  intro j d hj hd
  rw [hstep.calls_of_ne (by rw [hown]; simpa using Ne.symm hj)] at hd
  exact h.others j d hj hd

theorem Solo.start (hsound : Sound l) (hqueued : Queued l) (hdials : l.canDial = true)
    (hopened : l.closed = false)
    (hquiet : ∀ j d, l.calls.get? j = some d → d.phase.pending = false)
    (hstep : Step l (.call id job) l') : Solo id l' { job } := by
  have hsound' := hsound.step hstep
  have hqueued' := hqueued.step hsound hstep
  cases hstep with
  | call fresh =>
      refine ⟨hsound', hqueued', hopened, hdials, by simp, ?_, ?_, ?_⟩
      · intro j d hj hd
        simp only [calls_setCall, Assoc.get?_set, if_neg hj] at hd
        exact hquiet j d hd
      · intro seen hseen
        cases hseen
      · intro g seen hlane
        cases hlane

/-! ## A call that is alone goes on -/

theorem Phase.looked_of_work? {p : Phase} {g : Nat} {work : Work} (h : p.work? = some (g, work)) :
    p.looked = true := by
  cases p <;> first | rfl | cases h

/-- In a line of calls that have looked it is at the head. -/
theorem Solo.head? (h : Solo id l c) {line : List CallId} (hmem : id ∈ line)
    (hline : ∀ j ∈ line, ∃ d, l.calls.get? j = some d ∧ d.phase.looked = true) :
    line.head? = some id := by
  cases line with
  | nil => cases hmem
  | cons j rest =>
      obtain ⟨d, hd, hlooked⟩ := hline j (by simp)
      have hpending := Phase.pending_of_looked hlooked
      by_contra hne
      rw [h.others j d (by simpa using hne) hd] at hpending
      cases hpending

theorem Solo.turn_at_gate (h : Solo id l c) (hat : c.phase.atGate = true) :
    l.gate.head? = some id := by
  refine h.head? ((h.sound.fits id c h.call).inLine.mpr hat) ?_
  intro j hj
  obtain ⟨d, hd⟩ := h.sound.known j hj
  exact ⟨d, hd, Phase.looked_of_atGate ((h.sound.fits j d hd).inLine.mp hj)⟩

theorem Solo.holds (h : Solo id l c) {g seen : Nat} {work : Work}
    (phase : c.phase = .working g seen work) : ∃ lane, Holds l id c g seen work lane := by
  have hlive := (h.sound.installed g).mpr (h.lane g seen (by rw [phase]; rfl))
  obtain ⟨lane, hlane, habandoned⟩ := Option.map_eq_some_iff.mp hlive
  refine ⟨lane, h.call, phase, hlane, ?_, habandoned⟩
  rw [← line_of_get? hlane]
  refine h.head? (h.queued.inLine id c g work h.call (by rw [phase]; rfl)) ?_
  intro j hj
  obtain ⟨d, work', hd, hwork, -⟩ := h.queued.served g work j hj
  exact ⟨d, hd, Phase.looked_of_work? hwork⟩

theorem Solo.dials_iff (h : Solo id l c) {now : Nat} :
    (∃ l', l.step (.dial id now) = some l') ↔ ∃ due, c.phase = .pausing due ∧ due ≤ now := by
  constructor
  · rintro ⟨l', hstep⟩
    cases step_iff.mp hstep with
    | dial call phase ripe =>
        cases call.symm.trans h.call
        exact ⟨_, phase, ripe⟩
  · rintro ⟨due, phase, ripe⟩
    exact ⟨_, step_iff.mpr (.dial h.call phase ripe h.opened)⟩

/-- While it is pending it waits for no other call. -/
theorem Solo.progress (h : Solo id l c) (hpending : c.phase.pending = true) :
    ∃ e l', Step l e l' ∧ e.call? = some id ∧ e ≠ .drop id ∧ e ≠ .collect id := by
  cases hphase : c.phase with
  | ready => exact ⟨.look id, _, .of_onLook h.call hphase, rfl, by simp, by simp⟩
  | entering g seen =>
      have hlive := (h.sound.installed g).mpr (h.lane g seen (by rw [hphase]; rfl))
      obtain ⟨lane, hlane, habandoned⟩ := Option.map_eq_some_iff.mp hlive
      exact ⟨.ask id, _, .ask h.call hphase hlane habandoned, rfl, by simp, by simp⟩
  | working g seen work =>
      obtain ⟨lane, hholds⟩ := h.holds hphase
      cases work with
      | writing rest =>
          cases rest with
          | nil => exact ⟨.flushed id, _, .flushed hholds, rfl, by simp, by simp⟩
          | cons b rest =>
              exact ⟨.wrote id 1, _, .wrote hholds Nat.one_pos (by simp), rfl, by simp, by simp⟩
      | reading progress =>
          by_cases hunread : lane.unread = []
          · exact ⟨.ended id, _, .ended hholds hunread, rfl, by simp, by simp⟩
          · exact ⟨.parse id, _, .of_onParse hholds hunread, rfl, by simp, by simp⟩
  | failed seen cause =>
      exact ⟨.judge id, _, .of_onJudge h.call hphase, rfl, by simp, by simp⟩
  | waiting seen =>
      have hturn := h.turn_at_gate (by rw [hphase]; rfl)
      exact ⟨.enter id 0, _, .of_onEnter h.call hphase hturn h.opened, rfl, by simp, by simp⟩
  | pausing due =>
      exact ⟨.dial id due, _, .dial h.call hphase (Nat.le_refl due) h.opened, rfl, by simp, by simp⟩
  | dialling =>
      exact ⟨.dialled id (.error neverConnected), _, .dialledError h.call hphase, rfl, by simp,
        by simp⟩
  | done outcome =>
      rw [hphase] at hpending
      cases hpending

end TelemetryRelay.Link
