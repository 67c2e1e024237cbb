import TelemetryRelay.Proofs.Link.Jobs
import TelemetryRelay.Proofs.Link.PerConnection
import TelemetryRelay.Proofs.Wire.Resumption

/-!
# What a step has to do with receiving

A call that receives reads on one connection, from the bytes that the connection
gave and nobody has read yet, until it has a frame or fails.  `ReadTurn` says what one
step does to that; most steps do nothing to it.
-/

namespace TelemetryRelay.Link

open Wire

/-! ## Receiving as it is seen from outside -/

/-- The connection a call reads on, and how far it is in a frame. -/
def Phase.reads? : Phase → Option (Nat × Progress)
  | .working g _ (.reading progress) => some (g, progress)
  | _ => none

/-- The frame a call has for its caller. -/
def Phase.frame? : Phase → Option Frame
  | .done (.received f) => some f
  | _ => none

def reads? (l : Link) (id : CallId) : Option (Nat × Progress) :=
  (l.calls.get? id).bind (·.phase.reads?)

def frame? (l : Link) (id : CallId) : Option Frame := (l.calls.get? id).bind (·.phase.frame?)

/-- The bytes of a connection that nobody has read yet. -/
def unread? (l : Link) (g : Nat) : Option Bytes := (l.lanes.get? g).map (·.unread)

/-- What a read of a connection comes to. -/
def Event.chunk? : Event → Option Chunk
  | .filled _ bytes => some (.bytes bytes)
  | .ended _ => some (.bytes [])
  | .broke _ e => some (.fault e)
  | _ => none

/-- What a connection gave to a call that reads on it. -/
def gave? (x : Link × Event) : Option (Nat × Chunk) := do
  let chunk ← x.2.chunk?
  let id ← x.2.call?
  let (g, _) ← x.1.reads? id
  some (g, chunk)

/-- The frame that a call has come to, and the connection on which it was reading. -/
def received? (x : Link × Event) : Option (Nat × Frame) := do
  let id ← x.2.call?
  let (g, _) ← x.1.reads? id
  let next ← x.1.step x.2
  let f ← next.frame? id
  some (g, f)

/-- The frame that a caller takes. -/
def returned? (x : Link × Event) : Option Frame :=
  match x.2 with
  | .collect id => x.1.frame? id
  | _ => none

/-- What the reads on a connection came to: bytes, its failures and the ends of its stream. -/
def inbound (h : List (Link × Event)) (g : Nat) : Source := observedOn gave? g h

/-- The frames that calls came to on a connection. -/
def receivedOn (h : List (Link × Event)) (g : Nat) : List Frame := observedOn received? g h

/-- The frames that the callers got. -/
def returned (h : List (Link × Event)) : List Frame := h.filterMap returned?

variable {l l' : Link} {e : Event} {id : CallId} {c : Call} {g seen : Nat} {work : Work}
  {lane : Lane} {progress : Progress} {f : Frame}

theorem reads?_of_get? (h : l.calls.get? id = some c) : l.reads? id = c.phase.reads? := by
  simp [reads?, h]

theorem frame?_of_get? (h : l.calls.get? id = some c) : l.frame? id = c.phase.frame? := by
  simp [frame?, h]

theorem unread?_of_get? (h : l.lanes.get? g = some lane) : l.unread? g = some lane.unread := by
  simp [unread?, h]

theorem reads?_eq_some (h : l.reads? id = some (g, progress)) : ∃ c seen,
    l.calls.get? id = some c ∧ c.phase = .working g seen (.reading progress) := by
  obtain ⟨c, hcall, hreads⟩ := Option.bind_eq_some_iff.mp h
  unfold Phase.reads? at hreads
  split at hreads
  · rename_i hphase
    cases hreads
    exact ⟨c, _, hcall, hphase⟩
  · cases hreads

theorem frame?_eq_some (h : l.frame? id = some f) : ∃ c,
    l.calls.get? id = some c ∧ c.phase = .done (.received f) := by
  obtain ⟨c, hcall, hframe⟩ := Option.bind_eq_some_iff.mp h
  unfold Phase.frame? at hframe
  split at hframe
  · rename_i hphase
    cases hframe
    exact ⟨c, hcall, hphase⟩
  · cases hframe

theorem Holds.reads? (h : Holds l id c g seen (.reading progress) lane) :
    l.reads? id = some (g, progress) := by
  rw [reads?_of_get? h.call, h.phase]
  rfl

theorem Holds.unread? (h : Holds l id c g seen work lane) : l.unread? g = some lane.unread :=
  unread?_of_get? h.found

/-! ## What the parts of a step do to it -/

/-- Of all calls only this one reads otherwise than before, or has another frame. -/
structure Alters (l l' : Link) (id : CallId) (reads : Option (Nat × Progress))
    (frame : Option Frame) : Prop where
  reads : ∀ j, l'.reads? j = if j = id then reads else l.reads? j
  frame : ∀ j, l'.frame? j = if j = id then frame else l.frame? j

theorem Alters.set {reads : Option (Nat × Progress)} {frame : Option Frame}
    (hcalls : l'.calls = l.calls.set id c) (hreads : c.phase.reads? = reads)
    (hframe : c.phase.frame? = frame) : Alters l l' id reads frame where
  reads j := by
    simp only [Link.reads?, hcalls, Assoc.get?_set]
    split
    · exact hreads
    · rfl
  frame j := by
    simp only [Link.frame?, hcalls, Assoc.get?_set]
    split
    · exact hframe
    · rfl

/-- The calls stay as they are. -/
theorem Alters.same {reads : Option (Nat × Progress)} {frame : Option Frame}
    (hcalls : l'.calls = l.calls) (hreads : l.reads? id = reads) (hframe : l.frame? id = frame) :
    Alters l l' id reads frame where
  reads j := by
    split
    · rename_i hj
      rw [hj, ← hreads, Link.reads?, Link.reads?, hcalls]
    · rw [Link.reads?, Link.reads?, hcalls]
  frame j := by
    split
    · rename_i hj
      rw [hj, ← hframe, Link.frame?, Link.frame?, hcalls]
    · rw [Link.frame?, Link.frame?, hcalls]

theorem Alters.erase (h : l'.calls = l.calls.erase id) : Alters l l' id none none where
  reads j := by
    simp only [Link.reads?, h, Assoc.get?_erase]
    split <;> rfl
  frame j := by
    simp only [Link.frame?, h, Assoc.get?_erase]
    split <;> rfl

theorem unread?_onLane (l : Link) (g : Nat) {f : Lane → Lane}
    (hf : ∀ lane, (f lane).unread = lane.unread) (x : Nat) :
    (l.onLane g f).unread? x = l.unread? x := by
  simp only [unread?, onLane, Assoc.get?_modify]
  split
  · rename_i hx
    subst hx
    cases l.lanes.get? x <;> simp [hf]
  · rfl

theorem unread?_leave (l : Link) (id : CallId) (x : Nat) :
    (l.leave id).unread? x = l.unread? x := by
  simp only [unread?, leave, Assoc.get?_map, Option.map_map]
  rfl

theorem unread?_abandon (l : Link) (x : Nat) : l.abandon.unread? x = l.unread? x := by
  unfold abandon
  cases l.slot with
  | none => rfl
  | some g =>
      have hlane : ∀ lane : Lane, { lane with abandoned := true }.unread = lane.unread :=
        fun _ => rfl
      exact unread?_onLane l g hlane x

theorem unread?_join (l : Link) (id : CallId) (g : Nat) (work : Work) (x : Nat) :
    (l.onLane g fun lane => lane.join id work).unread? x = l.unread? x :=
  unread?_onLane l g (fun lane => by cases work <;> rfl) x

/-- The bytes that are left over on one connection are others now. -/
def Unread (l l' : Link) (g : Nat) (bytes : Bytes) : Prop :=
  ∀ x, l'.unread? x = if x = g then some bytes else l.unread? x

theorem Unread.set (hfound : l.lanes.get? g = some lane) (bytes : Bytes) :
    Unread l (l.onLane g fun lane => { lane with unread := bytes }) g bytes := by
  intro x
  simp only [unread?, onLane, Assoc.get?_modify, hfound]
  split <;> rfl

theorem Unread.same {bytes : Bytes} (hfound : l.unread? g = some bytes)
    (hsame : ∀ x, l'.unread? x = l.unread? x) : Unread l l' g bytes := by
  intro x
  split
  · rename_i hx
    rw [hsame, hx, hfound]
  · exact hsame x

theorem Unread.leave {bytes : Bytes} (h : Unread l l' g bytes) (id : CallId) :
    Unread l (l'.leave id) g bytes := by
  intro x
  rw [unread?_leave, h x]

/-! ## What is seen of a step -/

theorem gave?_eq (l : Link) (hid : e.call? = some id) :
    gave? (l, e) = e.chunk?.bind fun chunk => (l.reads? id).map fun r => (r.1, chunk) := by
  simp only [gave?, hid, Option.bind_eq_bind, Option.bind_some]
  cases e.chunk? <;> cases l.reads? id <;> rfl

theorem received?_eq (h : Step l e l') (hid : e.call? = some id) :
    received? (l, e) = (l.reads? id).bind fun r => (l'.frame? id).map fun f => (r.1, f) := by
  simp only [received?, hid, step_iff.mpr h, Option.bind_eq_bind, Option.bind_some]
  cases l.reads? id <;> cases l'.frame? id <;> rfl

/-- Nothing is seen of a step. -/
structure Unseen (l : Link) (e : Event) : Prop where
  gave : gave? (l, e) = none
  received : received? (l, e) = none
  returned : returned? (l, e) = none

theorem Unseen.of_idle (h : Step l e l') (hid : e.call? = some id) (hreads : l.reads? id = none)
    (hframe : l.frame? id = none) : Unseen l e where
  gave := by
    rw [gave?_eq l hid, hreads]
    cases e.chunk? <;> rfl
  received := by rw [received?_eq h hid, hreads]; rfl
  returned := by
    unfold returned?
    split
    · rename_i hcollect
      cases hcollect
      cases hid
      exact hframe
    · rfl

/-! ## The turns of a receiver -/

/-- The receive is given up in the middle of a frame, or with a frame. -/
def givesUp (x : Link × Event) : Bool :=
  match x.2 with
  | .drop id => (x.1.reads? id).any (·.2 != .start) || (x.1.frame? id).isSome
  | _ => false

inductive ReadTurn (l : Link) (e : Event) (l' : Link) : Prop
  /-- Nothing that has to do with receiving; there may be a new connection. -/
  | quiet (reads : ∀ id, l'.reads? id = l.reads? id) (frame : ∀ id, l'.frame? id = l.frame? id)
      (unread : (∀ g, l'.unread? g = l.unread? g) ∨ Unread l l' (l.generation + 1) [])
      (unseen : Unseen l e)
  /-- A call begins to read. -/
  | begin {id : CallId} {g seen : Nat} {c : Call} (call : l.calls.get? id = some c)
      (job : c.job = .receive) (lane : c.phase.lane? = some (g, seen))
      (live : l.shared.abandoned? g = some false) (idle : l.reads? id = none)
      (alters : Alters l l' id (some (g, .start)) none) (frame : l.frame? id = none)
      (unread : ∀ g, l'.unread? g = l.unread? g) (unseen : Unseen l e)
  /-- A call is given some bytes, or reads what it was given, or its connection fails or is
  at its end. -/
  | read {id : CallId} {g : Nat} {progress : Progress} {before after : Bytes}
      (next : Option Progress) (chunk : Option Chunk) (result : Option (Except FrameError Frame))
      (reads : l.reads? id = some (g, progress)) (slot : l.shared.abandoned? g = some false)
      (found : l.unread? g = some before)
      (stands : ∀ {source rs}, Stands source rs progress before →
        Stands (source ++ chunk.toList) (rs ++ result.toList) (next.getD .start) after)
      (alters : Alters l l' id (next.map (g, ·)) (result.bind Except.toOption))
      (unread : Unread l l' g after)
      (gave : gave? (l, e) = chunk.map (g, ·))
      (received : received? (l, e) = (result.bind Except.toOption).map (g, ·))
      (returned : returned? (l, e) = none)
  /-- A call stops reading where it is. -/
  | leave {id : CallId} {g : Nat} {progress : Progress} (reads : l.reads? id = some (g, progress))
      (why : progress = .start ∨ l.shared.abandoned? g = some true ∨ l.closed = true ∨
        givesUp (l, e) = true)
      (off : ∀ c, l'.calls.get? id = some c → c.phase.lane? = none)
      (alters : Alters l l' id none none) (unread : ∀ g, l'.unread? g = l.unread? g)
      (unseen : Unseen l e)
  /-- A frame is taken, or the call that has it is given up. -/
  | take {id : CallId} {f : Frame} (frame : l.frame? id = some f)
      (alters : Alters l l' id none none) (unread : ∀ g, l'.unread? g = l.unread? g)
      (gave : gave? (l, e) = none) (received : received? (l, e) = none)
      (returned : returned? (l, e) = some f ∨ returned? (l, e) = none ∧ givesUp (l, e) = true)

theorem Phase.frame?_of_reads? {p : Phase} {r : Nat × Progress} (h : p.reads? = some r) :
    p.frame? = none := by
  unfold Phase.reads? at h
  split at h
  · rfl
  · cases h

theorem frame?_of_reads? {r : Nat × Progress} (h : l.reads? id = some r) : l.frame? id = none := by
  obtain ⟨c, hcall, hreads⟩ := Option.bind_eq_some_iff.mp h
  rw [frame?_of_get? hcall]
  exact Phase.frame?_of_reads? hreads

/-- Who neither reads nor has a frame and does not come to it either. -/
theorem ReadTurn.idle (h : Step l e l') (hid : e.call? = some id) (hreads : l.reads? id = none)
    (hframe : l.frame? id = none) (halters : Alters l l' id none none)
    (hunread : (∀ g, l'.unread? g = l.unread? g) ∨ Unread l l' (l.generation + 1) []) :
    ReadTurn l e l' := by
  refine .quiet ?_ ?_ hunread (.of_idle h hid hreads hframe)
  · intro j
    rw [halters.reads]
    split
    · rename_i hj
      rw [hj, hreads]
    · rfl
  · intro j
    rw [halters.frame]
    split
    · rename_i hj
      rw [hj, hframe]
    · rfl

/-- A call that reads and then does not, without having a frame. -/
theorem ReadTurn.letGo (h : Step l e l') (hid : e.call? = some id) (hchunk : e.chunk? = none)
    (hcollect : ∀ id, e ≠ .collect id) (hframe : l.frame? id = none)
    (hoff : ∀ c, l'.calls.get? id = some c → c.phase.lane? = none)
    (halters : Alters l l' id none none) (hunread : ∀ g, l'.unread? g = l.unread? g)
    (hwhy : ∀ g progress, l.reads? id = some (g, progress) → progress = .start ∨
      l.shared.abandoned? g = some true ∨ l.closed = true ∨ givesUp (l, e) = true) :
    ReadTurn l e l' := by
  cases hreads : l.reads? id with
  | none => exact .idle h hid hreads hframe halters (.inl hunread)
  | some r =>
      refine .leave hreads (hwhy r.1 r.2 hreads) hoff halters hunread ⟨?_, ?_, ?_⟩
      · rw [gave?_eq l hid, hchunk]
        rfl
      · rw [received?_eq h hid, halters.frame, if_pos rfl]
        cases l.reads? id <;> rfl
      · unfold returned?
        split
        · exact absurd ‹_› (hcollect _)
        · rfl

theorem unread?_finish (l : Link) (id : CallId) (c : Call) (outcome : Outcome) :
    ∀ g, (l.finish id c outcome).unread? g = l.unread? g :=
  unread?_leave l id

theorem unread?_fail (l : Link) (id : CallId) (c : Call) (seen : Nat) (cause : FrameError) :
    ∀ g, (l.fail id c seen cause).unread? g = l.unread? g :=
  unread?_leave l id

theorem off_of_set (hcalls : l'.calls = l.calls.set id c) (hlane : c.phase.lane? = none) :
    ∀ d, l'.calls.get? id = some d → d.phase.lane? = none := by
  intro d hd
  rw [hcalls] at hd
  rw [Assoc.eq_of_get?_set hd, hlane]

theorem idle_of_phase {p : Phase} (hcall : l.calls.get? id = some c) (hphase : c.phase = p)
    (hreads : p.reads? = none) (hframe : p.frame? = none) :
    l.reads? id = none ∧ l.frame? id = none := by
  rw [reads?_of_get? hcall, frame?_of_get? hcall, hphase]
  exact ⟨hreads, hframe⟩

/-- A reader of a source goes on with what its connection gives. -/
theorem ReadTurn.of_holds {before after : Bytes} (next : Option Progress) (chunk : Option Chunk)
    (result : Option (Except FrameError Frame)) (h : Step l e l') (hid : e.call? = some id)
    (holds : Holds l id c g seen (.reading progress) lane) (hcollect : ∀ id, e ≠ .collect id)
    (hbefore : lane.unread = before)
    (hstands : ∀ {source rs}, Stands source rs progress before →
      Stands (source ++ chunk.toList) (rs ++ result.toList) (next.getD .start) after)
    (halters : Alters l l' id (next.map (g, ·)) (result.bind Except.toOption))
    (hunread : Unread l l' g after) (hchunk : e.chunk? = chunk) : ReadTurn l e l' := by
  refine .read next chunk result holds.reads? ?_ (hbefore ▸ holds.unread?) hstands halters hunread
    ?_ ?_ ?_
  · simp [shared, holds.found, holds.live]
  · rw [gave?_eq l hid, hchunk, holds.reads?]
    cases chunk <;> rfl
  · rw [received?_eq h hid, holds.reads?, halters.frame, if_pos rfl]
    rfl
  · unfold returned?
    split
    · exact absurd ‹_› (hcollect _)
    · rfl

/-- Every step is a turn. -/
theorem Step.readTurn (h : Step l e l') : ReadTurn l e l' := by
  have hstep := h
  cases h with
  | @call id job fresh =>
      have hidle : l.reads? id = none ∧ l.frame? id = none := by
        simp [Link.reads?, Link.frame?, fresh]
      exact .idle hstep rfl hidle.1 hidle.2 (.set rfl rfl rfl) (.inl fun _ => rfl)
  | lookSome call phase | lookNone call phase | judgeRetry call phase | enterLate call phase
  | dial call phase | dialledError call phase | dialledClosed call phase =>
      have hidle := idle_of_phase call phase rfl rfl
      exact .idle hstep rfl hidle.1 hidle.2 (.set rfl rfl rfl) (.inl fun _ => rfl)
  | lookClosed call phase | judgeClosed call phase | judgeStuck call phase
  | judgeSpent call phase =>
      have hidle := idle_of_phase call phase rfl rfl
      exact .idle hstep rfl hidle.1 hidle.2 (.set rfl rfl rfl) (.inl (unread?_finish _ _ _ _))
  | enterFirst call phase =>
      have hidle := idle_of_phase call phase rfl rfl
      exact .idle hstep rfl hidle.1 hidle.2 (.set (by rw [calls_setCall, calls_abandon]) rfl rfl)
        (.inl (unread?_abandon l))
  | dialledOpen call phase =>
      have hidle := idle_of_phase call phase rfl rfl
      refine .idle hstep rfl hidle.1 hidle.2 (.set rfl rfl rfl) (.inr ?_)
      intro g
      show ((l.lanes.set _ _).get? g).map (·.unread) = _
      rw [Assoc.get?_set]
      split <;> rfl
  | cancel call pending closed =>
      refine .letGo hstep rfl rfl (by simp) ?_ (off_of_set rfl rfl) (.set rfl rfl rfl)
        (unread?_finish _ _ _ _) fun _ _ _ => .inr (.inr (.inl closed))
      rw [frame?_of_get? call]
      unfold Phase.frame?
      split
      · exact absurd ‹_› (pending _)
      · rfl
  | @lose id c g seen lane call phase found abandoned =>
      refine .letGo hstep rfl rfl (by simp) ?_ (off_of_set rfl rfl) (.set rfl rfl rfl)
        (unread?_fail _ _ _ _ _) ?_
      · rw [frame?_of_get? call]
        unfold Phase.frame?
        split
        · rename_i hphase
          rw [hphase] at phase
          cases phase
        · rfl
      · intro g' progress hreads
        obtain ⟨c', seen', hcall, hphase⟩ := reads?_eq_some hreads
        cases call.symm.trans hcall
        rw [hphase] at phase
        cases phase
        exact .inr (.inl (by simp [shared, found, abandoned]))
  | @ask id c g seen lane call phase found live =>
      have hidle := idle_of_phase call phase rfl rfl
      have hunread := unread?_join l id g c.job.work
      cases hjob : c.job with
      | receive =>
          rw [hjob] at hunread hstep
          exact .begin call hjob (by rw [phase]; rfl) (by simp [shared, found, live]) hidle.1
            (.set rfl rfl rfl) hidle.2 hunread (.of_idle hstep rfl hidle.1 hidle.2)
      | send bytes =>
          rw [hjob] at hunread hstep
          exact .idle hstep rfl hidle.1 hidle.2 (.set rfl rfl rfl) (.inl hunread)
  | wrote holds =>
      have hidle := idle_of_phase holds.call holds.phase rfl rfl
      exact .idle hstep rfl hidle.1 hidle.2 (.set rfl rfl rfl) (.inl fun _ => rfl)
  | flushed holds =>
      have hidle := idle_of_phase holds.call holds.phase rfl rfl
      exact .idle hstep rfl hidle.1 hidle.2 (.set rfl rfl rfl) (.inl (unread?_finish _ _ _ _))
  | @filled id c g seen progress lane bytes holds drained some =>
      refine .of_holds progress _ none hstep rfl holds (by simp) drained ?_ ?_
        (.set holds.found bytes) rfl
      · intro source rs hstands
        rw [Option.toList_none, List.append_nil]
        exact hstands.filled some
      · exact .same rfl holds.reads? (frame?_of_reads? holds.reads?)
  | @parseMore id c g seen progress next lane holds some feed =>
      refine .of_holds next none none hstep rfl holds (by simp) rfl ?_ (.set rfl rfl rfl)
        (.set holds.found _) rfl
      intro source rs hstands
      simpa using hstands.more feed
  | @parseFrame id c g seen progress lane f rest holds some feed =>
      refine .of_holds none none (Option.some (.ok f)) hstep rfl holds (by simp) rfl ?_
        (.set rfl rfl rfl) ((Unread.set holds.found _).leave _) rfl
      intro source rs hstands
      simpa using hstands.finished feed
  | @parseError id c g seen progress lane e rest holds some feed =>
      refine .of_holds none none (Option.some (.error e)) hstep rfl holds (by simp) rfl ?_
        (.set rfl rfl rfl) ((Unread.set holds.found _).leave _) rfl
      intro source rs hstands
      simpa using hstands.finished feed
  | @ended id c g seen progress lane holds drained =>
      refine .of_holds none (Option.some (.bytes [])) (Option.some (.error progress.cutOff)) hstep
        rfl holds (by simp) drained (fun hstands => hstands.ended) (.set rfl rfl rfl) ?_ rfl
      exact .same (drained ▸ holds.unread?) (unread?_fail _ _ _ _ _)
  | @broke id c g seen work lane error holds drained =>
      cases work with
      | writing rest =>
          have hidle := idle_of_phase holds.call holds.phase rfl rfl
          exact .idle hstep rfl hidle.1 hidle.2 (.set rfl rfl rfl) (.inl (unread?_fail _ _ _ _ _))
      | reading progress =>
          have hunread := drained progress rfl
          refine .of_holds none (Option.some (.fault error)) (Option.some (.error (.io error)))
            hstep rfl holds (by simp) hunread (fun hstands => hstands.broke) (.set rfl rfl rfl) ?_
            rfl
          exact .same (hunread ▸ holds.unread?) (unread?_fail _ _ _ _ _)
  | @collect id c outcome call phase =>
      have hreads : l.reads? id = none := by
        rw [reads?_of_get? call, phase]
        rfl
      cases hframe : l.frame? id with
      | none => exact .idle hstep rfl hreads hframe (.erase rfl) (.inl fun _ => rfl)
      | some f =>
          refine .take hframe (.erase rfl) (fun _ => rfl) rfl ?_ (.inl hframe)
          rw [received?_eq hstep rfl, hreads]
          rfl
  | @drop id c call =>
      cases hframe : l.frame? id with
      | none =>
          refine .letGo hstep rfl rfl (by simp) hframe (by simp) (.erase rfl)
            (unread?_leave l id) ?_
          intro g progress hreads
          by_cases hstart : progress = .start
          · exact .inl hstart
          · exact .inr (.inr (.inr (by simp [givesUp, hreads, hstart])))
      | some f =>
          refine .take hframe (.erase rfl) (unread?_leave l id) rfl ?_
            (.inr ⟨rfl, by simp [givesUp, hframe]⟩)
          rw [received?_eq hstep rfl, (Alters.erase rfl).frame, if_pos rfl]
          cases l.reads? id <;> rfl
  | close closed => exact .quiet (fun _ => rfl) (fun _ => rfl) (.inl fun _ => rfl) ⟨rfl, rfl, rfl⟩
  | detach closed =>
      refine .quiet ?_ ?_ (.inl (unread?_abandon l)) ⟨rfl, rfl, rfl⟩ <;>
        (intro j; simp only [Link.reads?, Link.frame?, calls_abandon])

end TelemetryRelay.Link
