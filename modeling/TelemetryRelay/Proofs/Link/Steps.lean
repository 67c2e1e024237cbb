import TelemetryRelay.Link.Step

/-!
# The rules of a link

`Step` lists all that can happen to a link, one rule for each outcome of an
event, with what the event requires and what it leaves.  `step_iff` says that
the rules are exactly the steps, so a proof about all steps is one case for
each rule.
-/

namespace TelemetryRelay.Link

open Wire

/-- The connection a call is on, and the epoch at which it saw it. -/
def Phase.lane? : Phase → Option (Nat × Nat)
  | .entering g seen => some (g, seen)
  | .working g seen _ => some (g, seen)
  | _ => none

/-- The call has its turn on a connection that is not abandoned. -/
structure Holds (l : Link) (id : CallId) (c : Call) (g seen : Nat) (work : Work) (lane : Lane) :
    Prop where
  call : l.calls.get? id = some c
  phase : c.phase = .working g seen work
  found : l.lanes.get? g = some lane
  turn : (lane.line work).head? = some id
  live : lane.abandoned = false

variable {l l' : Link} {id : CallId} {c : Call} {g seen : Nat} {work : Work} {lane : Lane}

theorem holding?_eq_some :
    l.holding? id = some (c, g, seen, work, lane) ↔ Holds l id c g seen work lane := by
  constructor
  · intro h
    simp only [holding?, Option.bind_eq_bind, Option.bind_eq_some_iff] at h
    obtain ⟨c', hcall, h⟩ := h
    split at h
    · rename_i hphase
      obtain ⟨lane', hlane, h⟩ := Option.bind_eq_some_iff.mp h
      split at h
      · rename_i hturn
        cases h
        exact ⟨hcall, hphase, hlane, hturn.1, hturn.2⟩
      · cases h
    · cases h
  · rintro ⟨hcall, hphase, hlane, hturn, hlive⟩
    simp [holding?, hcall, hphase, hlane, hturn, hlive]

inductive Step (l : Link) : Event → Link → Prop
  | call {id : CallId} {job : Job} (fresh : l.calls.get? id = none) :
      Step l (.call id job) (l.setCall id { job })
  | cancel {id : CallId} {c : Call} (call : l.calls.get? id = some c)
      (pending : ∀ outcome, c.phase ≠ .done outcome) (closed : l.closed = true) :
      Step l (.cancel id) (l.finish id c (.failed .closed))
  | lookClosed {id : CallId} {c : Call} (call : l.calls.get? id = some c)
      (phase : c.phase = .ready) (closed : l.closed = true) :
      Step l (.look id) (l.finish id c (.failed .closed))
  | lookSome {id : CallId} {c : Call} {g : Nat} (call : l.calls.get? id = some c)
      (phase : c.phase = .ready) (closed : l.closed = false) (slot : l.slot = some g) :
      Step l (.look id) (l.setCall id { c with phase := .entering g l.epoch })
  | lookNone {id : CallId} {c : Call} (call : l.calls.get? id = some c)
      (phase : c.phase = .ready) (closed : l.closed = false) (slot : l.slot = none) :
      Step l (.look id) (l.setCall id
        { c with phase := .failed l.epoch (c.carried.getD (.io neverConnected)), carried := none })
  | ask {id : CallId} {c : Call} {g seen : Nat} {lane : Lane} (call : l.calls.get? id = some c)
      (phase : c.phase = .entering g seen) (found : l.lanes.get? g = some lane)
      (live : lane.abandoned = false) :
      Step l (.ask id) ((l.onLane g fun lane => lane.join id c.job.work).setCall id
        { c with phase := .working g seen c.job.work })
  | lose {id : CallId} {c : Call} {g seen : Nat} {lane : Lane} (call : l.calls.get? id = some c)
      (phase : c.phase.lane? = some (g, seen)) (found : l.lanes.get? g = some lane)
      (abandoned : lane.abandoned = true) :
      Step l (.lose id) (l.fail id c seen (.io replaced))
  | wrote {id : CallId} {c : Call} {g seen : Nat} {rest : Bytes} {lane : Lane} {count : Nat}
      (holds : Holds l id c g seen (.writing rest) lane)
      (some : 0 < count) (fits : count ≤ rest.length) :
      Step l (.wrote id count)
        (l.setCall id { c with phase := .working g seen (.writing (rest.drop count)) })
  | flushed {id : CallId} {c : Call} {g seen : Nat} {lane : Lane}
      (holds : Holds l id c g seen (.writing []) lane) :
      Step l (.flushed id) (l.finish id c .sent)
  | filled {id : CallId} {c : Call} {g seen : Nat} {progress : Progress} {lane : Lane}
      {bytes : Bytes} (holds : Holds l id c g seen (.reading progress) lane)
      (drained : lane.unread = []) (some : bytes ≠ []) :
      Step l (.filled id bytes) (l.onLane g fun lane => { lane with unread := bytes })
  | parseMore {id : CallId} {c : Call} {g seen : Nat} {progress next : Progress} {lane : Lane}
      (holds : Holds l id c g seen (.reading progress) lane) (some : lane.unread ≠ [])
      (feed : progress.feed lane.unread = .hungry next) :
      Step l (.parse id) ((l.onLane g fun lane => { lane with unread := [] }).setCall id
        { c with phase := .working g seen (.reading next) })
  | parseFrame {id : CallId} {c : Call} {g seen : Nat} {progress : Progress} {lane : Lane}
      {f : Frame} {rest : Bytes} (holds : Holds l id c g seen (.reading progress) lane)
      (some : lane.unread ≠ []) (feed : progress.feed lane.unread = .finished (.ok f) rest) :
      Step l (.parse id)
        ((l.onLane g fun lane => { lane with unread := rest }).finish id c (.received f))
  | parseError {id : CallId} {c : Call} {g seen : Nat} {progress : Progress} {lane : Lane}
      {e : FrameError} {rest : Bytes} (holds : Holds l id c g seen (.reading progress) lane)
      (some : lane.unread ≠ []) (feed : progress.feed lane.unread = .finished (.error e) rest) :
      Step l (.parse id) ((l.onLane g fun lane => { lane with unread := rest }).fail id c seen e)
  | ended {id : CallId} {c : Call} {g seen : Nat} {progress : Progress} {lane : Lane}
      (holds : Holds l id c g seen (.reading progress) lane) (drained : lane.unread = []) :
      Step l (.ended id) (l.fail id c seen progress.cutOff)
  | broke {id : CallId} {c : Call} {g seen : Nat} {work : Work} {lane : Lane} {error : IoError}
      (holds : Holds l id c g seen work lane)
      (drained : ∀ progress, work = .reading progress → lane.unread = []) :
      Step l (.broke id error) (l.fail id c seen (.io error))
  | judgeClosed {id : CallId} {c : Call} {seen : Nat} {cause : FrameError}
      (call : l.calls.get? id = some c) (phase : c.phase = .failed seen cause)
      (closed : l.closed = true) :
      Step l (.judge id) (l.finish id c (.failed .closed))
  | judgeStuck {id : CallId} {c : Call} {seen : Nat} {cause : FrameError}
      (call : l.calls.get? id = some c) (phase : c.phase = .failed seen cause)
      (closed : l.closed = false) (stuck : l.canDial = false) :
      Step l (.judge id) (l.finish id c (.failed (.broken cause)))
  | judgeSpent {id : CallId} {c : Call} {seen : Nat} {cause : FrameError}
      (call : l.calls.get? id = some c) (phase : c.phase = .failed seen cause)
      (closed : l.closed = false) (dials : l.canDial = true) (spent : l.budget ≤ c.attempts) :
      Step l (.judge id) (l.finish id c (.failed (.exhausted c.attempts cause)))
  | judgeRetry {id : CallId} {c : Call} {seen : Nat} {cause : FrameError}
      (call : l.calls.get? id = some c) (phase : c.phase = .failed seen cause)
      (closed : l.closed = false) (dials : l.canDial = true) (left : c.attempts < l.budget) :
      Step l (.judge id) ({ l with gate := l.gate ++ [id] }.setCall id
        { c with phase := .waiting seen, attempts := c.attempts + 1 })
  | enterLate {id : CallId} {c : Call} {seen now : Nat} (call : l.calls.get? id = some c)
      (phase : c.phase = .waiting seen) (turn : l.gate.head? = some id)
      (closed : l.closed = false) (late : l.epoch ≠ seen) :
      Step l (.enter id now) ({ l with gate := l.gate.erase id }.setCall id
        { c with phase := .ready, carried := (l.lastFailure.map FrameError.io).or c.carried })
  | enterFirst {id : CallId} {c : Call} {seen now : Nat} (call : l.calls.get? id = some c)
      (phase : c.phase = .waiting seen) (turn : l.gate.head? = some id)
      (closed : l.closed = false) (first : l.epoch = seen) :
      Step l (.enter id now)
        (l.abandon.setCall id { c with phase := .pausing (now + l.pause) })
  | dial {id : CallId} {c : Call} {due now : Nat} (call : l.calls.get? id = some c)
      (phase : c.phase = .pausing due) (ripe : due ≤ now) (closed : l.closed = false) :
      Step l (.dial id now) (l.setCall id { c with phase := .dialling })
  | dialledError {id : CallId} {c : Call} {e : IoError} (call : l.calls.get? id = some c)
      (phase : c.phase = .dialling) :
      Step l (.dialled id (.error e))
        ({ l with lastFailure := some e }.endReconnect id c (some (.io e)))
  | dialledClosed {id : CallId} {c : Call} {connection : ConnectionName}
      (call : l.calls.get? id = some c) (phase : c.phase = .dialling) (closed : l.closed = true) :
      Step l (.dialled id (.ok connection)) (l.endReconnect id c (some (.io terminatedMeanwhile)))
  | dialledOpen {id : CallId} {c : Call} {connection : ConnectionName}
      (call : l.calls.get? id = some c) (phase : c.phase = .dialling) (closed : l.closed = false) :
      Step l (.dialled id (.ok connection))
        ({ l with generation := l.generation + 1, slot := some (l.generation + 1),
                  lanes := l.lanes.set (l.generation + 1) { connection },
                  lastFailure := none }.endReconnect id c none)
  | collect {id : CallId} {c : Call} {outcome : Outcome} (call : l.calls.get? id = some c)
      (phase : c.phase = .done outcome) :
      Step l (.collect id) { l with calls := l.calls.erase id }
  | drop {id : CallId} {c : Call} (call : l.calls.get? id = some c) :
      Step l (.drop id) { l.leave id with calls := l.calls.erase id }
  | close (closed : l.closed = false) : Step l .close { l with closed := true }
  | detach (closed : l.closed = true) : Step l .detach l.abandon

theorem Step.of_onParse {progress : Progress}
    (holds : Holds l id c g seen (.reading progress) lane) (some : lane.unread ≠ []) :
    Step l (.parse id) (l.onParse id c g seen progress lane.unread) := by
  unfold onParse
  split
  · rename_i hfeed
    exact .parseMore holds some hfeed
  · rename_i hfeed
    exact .parseFrame holds some hfeed
  · rename_i hfeed
    exact .parseError holds some hfeed

theorem Step.of_onLook (call : l.calls.get? id = some c) (phase : c.phase = .ready) :
    Step l (.look id) (l.onLook id c) := by
  unfold onLook
  cases hclosed : l.closed with
  | true => exact .lookClosed call phase hclosed
  | false =>
      cases hslot : l.slot with
      | some g => exact .lookSome call phase hclosed hslot
      | none => exact .lookNone call phase hclosed hslot

theorem Step.of_onJudge {cause : FrameError} (call : l.calls.get? id = some c)
    (phase : c.phase = .failed seen cause) : Step l (.judge id) (l.onJudge id c seen cause) := by
  unfold onJudge
  split
  · exact .judgeClosed call phase ‹_›
  · rename_i hclosed
    have hopen : l.closed = false := by simpa using hclosed
    split
    · rename_i hstuck
      exact .judgeStuck call phase hopen (by simpa using hstuck)
    · rename_i hdials
      have hdials : l.canDial = true := by simpa using hdials
      split
      · exact .judgeSpent call phase hopen hdials ‹_›
      · rename_i hleft
        exact .judgeRetry call phase hopen hdials (Nat.lt_of_not_le hleft)

theorem Step.of_onEnter {now : Nat} (call : l.calls.get? id = some c)
    (phase : c.phase = .waiting seen) (turn : l.gate.head? = some id) (closed : l.closed = false) :
    Step l (.enter id now) (l.onEnter id c seen now) := by
  unfold onEnter
  split
  · rename_i hlate
    exact .enterLate call phase turn closed hlate
  · rename_i hfirst
    exact .enterFirst call phase turn closed (Decidable.not_not.mp hfirst)

theorem Step.of_onDialled {result : Except IoError ConnectionName}
    (call : l.calls.get? id = some c) (phase : c.phase = .dialling) :
    Step l (.dialled id result) (l.onDialled id c result) := by
  cases result with
  | error e => exact .dialledError call phase
  | ok connection =>
      cases hclosed : l.closed with
      | true => simpa [onDialled, hclosed] using Step.dialledClosed call phase hclosed
      | false => simpa [onDialled, hclosed] using Step.dialledOpen call phase hclosed

/-- A step of a call that requires something of its phase. -/
theorem of_bind_call {α : Type} {f : Call → Option α} {a : α}
    (h : (do let c ← l.calls.get? id; f c) = some a) :
    ∃ c, l.calls.get? id = some c ∧ f c = some a :=
  Option.bind_eq_some_iff.mp h

theorem of_bind_holds {α : Type} {f : Call × Nat × Nat × Work × Lane → Option α} {a : α}
    (h : (do let t ← l.holding? id; f t) = some a) :
    ∃ c g seen work lane, Holds l id c g seen work lane ∧ f (c, g, seen, work, lane) = some a := by
  obtain ⟨⟨c, g, seen, work, lane⟩, hholding, h⟩ := Option.bind_eq_some_iff.mp h
  exact ⟨c, g, seen, work, lane, holding?_eq_some.mp hholding, h⟩

theorem Step.of_step {e : Event} (h : l.step e = some l') : Step l e l' := by
  cases e with
  | call id job =>
      simp only [step] at h
      split at h
      · cases h
      · cases h
        exact .call ‹_›
  | cancel id =>
      obtain ⟨c, hcall, h⟩ := of_bind_call h
      split at h
      · cases h
      · rename_i hpending
        split at h
        · cases h
          exact .cancel hcall hpending ‹_›
        · cases h
  | look id =>
      obtain ⟨c, hcall, h⟩ := of_bind_call h
      split at h
      · cases h
        exact .of_onLook hcall ‹_›
      · cases h
  | ask id =>
      obtain ⟨c, hcall, h⟩ := of_bind_call h
      split at h
      · rename_i hphase
        obtain ⟨lane, hlane, h⟩ := Option.bind_eq_some_iff.mp h
        split at h
        · cases h
        · rename_i hlive
          cases h
          exact .ask hcall hphase hlane (by simpa using hlive)
      · cases h
  | lose id =>
      obtain ⟨c, hcall, h⟩ := of_bind_call h
      split at h
      · rename_i hphase
        obtain ⟨lane, hlane, h⟩ := Option.bind_eq_some_iff.mp h
        split at h
        · cases h
          exact .lose hcall (by rw [hphase]; rfl) hlane ‹_›
        · cases h
      · rename_i hphase
        obtain ⟨lane, hlane, h⟩ := Option.bind_eq_some_iff.mp h
        split at h
        · cases h
          exact .lose hcall (by rw [hphase]; rfl) hlane ‹_›
        · cases h
      · cases h
  | wrote id count =>
      obtain ⟨c, g, seen, work, lane, hholds, h⟩ := of_bind_holds h
      cases work with
      | reading => cases h
      | writing rest =>
          simp only at h
          split at h
          · rename_i hcount
            cases h
            exact .wrote hholds hcount.1 hcount.2
          · cases h
  | flushed id =>
      obtain ⟨c, g, seen, work, lane, hholds, h⟩ := of_bind_holds h
      cases work with
      | reading => cases h
      | writing rest =>
          cases rest with
          | cons => cases h
          | nil =>
              cases h
              exact .flushed hholds
  | filled id bytes =>
      obtain ⟨c, g, seen, work, lane, hholds, h⟩ := of_bind_holds h
      cases work with
      | writing => cases h
      | reading =>
          simp only at h
          split at h
          · rename_i hsome
            cases h
            exact .filled hholds hsome.1 hsome.2
          · cases h
  | parse id =>
      obtain ⟨c, g, seen, work, lane, hholds, h⟩ := of_bind_holds h
      cases work with
      | writing => cases h
      | reading =>
          simp only at h
          split at h
          · cases h
          · cases h
            exact .of_onParse hholds ‹_›
  | ended id =>
      obtain ⟨c, g, seen, work, lane, hholds, h⟩ := of_bind_holds h
      cases work with
      | writing => cases h
      | reading =>
          simp only at h
          split at h
          · cases h
            exact .ended hholds ‹_›
          · cases h
  | broke id error =>
      obtain ⟨c, g, seen, work, lane, hholds, h⟩ := of_bind_holds h
      cases work with
      | writing =>
          cases h
          exact .broke hholds fun _ hreading => by cases hreading
      | reading =>
          simp only at h
          split at h
          · cases h
            exact .broke hholds fun _ _ => ‹_›
          · cases h
  | judge id =>
      obtain ⟨c, hcall, h⟩ := of_bind_call h
      split at h
      · cases h
        exact .of_onJudge hcall ‹_›
      · cases h
  | enter id now =>
      obtain ⟨c, hcall, h⟩ := of_bind_call h
      split at h
      · rename_i hphase
        split at h
        · rename_i hturn
          cases h
          exact .of_onEnter hcall hphase hturn.1 hturn.2
        · cases h
      · cases h
  | dial id now =>
      obtain ⟨c, hcall, h⟩ := of_bind_call h
      split at h
      · rename_i hphase
        split at h
        · rename_i hripe
          cases h
          exact .dial hcall hphase hripe.1 hripe.2
        · cases h
      · cases h
  | dialled id result =>
      obtain ⟨c, hcall, h⟩ := of_bind_call h
      split at h
      · cases h
        exact .of_onDialled hcall ‹_›
      · cases h
  | collect id =>
      obtain ⟨c, hcall, h⟩ := of_bind_call h
      split at h
      · cases h
        exact .collect hcall ‹_›
      · cases h
  | drop id =>
      obtain ⟨c, hcall, h⟩ := of_bind_call h
      cases h
      exact .drop hcall
  | close =>
      simp only [step] at h
      split at h
      · cases h
      · rename_i hopen
        cases h
        exact .close (by simpa using hopen)
  | detach =>
      simp only [step] at h
      split at h
      · cases h
        exact .detach ‹_›
      · cases h

/-- The rules are the steps. -/
theorem step_iff {e : Event} : l.step e = some l' ↔ Step l e l' := by
  constructor
  · exact Step.of_step
  · intro h
    cases h with
    | call fresh => simp [step, fresh]
    | cancel call pending closed =>
        simp only [step, call, Option.bind_eq_bind, Option.bind_some, closed, if_true]
    | wrote holds some fits => simp [step, holding?_eq_some.mpr holds, some, fits]
    | flushed holds => simp [step, holding?_eq_some.mpr holds]
    | filled holds drained some => simp [step, holding?_eq_some.mpr holds, drained, some]
    | parseMore holds some feed =>
        simp [step, holding?_eq_some.mpr holds, some, onParse, feed]
    | parseFrame holds some feed =>
        simp [step, holding?_eq_some.mpr holds, some, onParse, feed]
    | parseError holds some feed =>
        simp [step, holding?_eq_some.mpr holds, some, onParse, feed]
    | ended holds drained => simp [step, holding?_eq_some.mpr holds, drained]
    | @broke _ _ _ _ work _ _ holds drained =>
        cases work with
        | writing => simp [step, holding?_eq_some.mpr holds]
        | reading progress => simp [step, holding?_eq_some.mpr holds, drained progress rfl]
    | lose call phase found abandoned =>
        simp only [step, call, Option.bind_eq_bind, Option.bind_some]
        unfold Phase.lane? at phase
        split at phase
        · cases phase
          simp_all
        · cases phase
          simp_all
        · cases phase
    | judgeRetry call phase closed dials left =>
        simp [step, call, phase, onJudge, closed, dials, Nat.not_le_of_lt left]
    | _ => simp_all [step, onLook, onJudge, onEnter, onDialled]

end TelemetryRelay.Link
