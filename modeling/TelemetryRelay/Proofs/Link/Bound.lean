import TelemetryRelay.Proofs.Link.Jobs
import TelemetryRelay.Proofs.Link.Lines
import TelemetryRelay.Proofs.Link.SingleFlight

/-!
# Links that are bound to their connection

A link that cannot dial stays on its one connection until it is closed: no call comes
to the gate, and none is ever told that its connection was replaced.  The bytes that
have come from the connection and are not yet read go from one reader to the next.
-/

namespace TelemetryRelay.Link

open Wire

/-- A connection of a link and the bytes from it that are not yet read. -/
def contents (l : Link) (g : Nat) : Option (ConnectionName × Bytes) :=
  (l.lanes.get? g).map fun lane => (lane.connection, lane.unread)

/-- The link is on that connection, and cannot get off it. -/
structure Bound (l : Link) (g : Nat) (name : ConnectionName) (unread : Bytes) : Prop where
  sound : Sound l
  queued : Queued l
  stuck : l.canDial = false
  opened : l.closed = false
  gate : l.gate = []
  slot : l.slot = some g
  contents : l.contents g = some (name, unread)

/-- The event takes bytes from the connection, or reads some. -/
def Event.takes : Event → Bool
  | .filled .. | .parse _ => true
  | _ => false

/-- The event belongs to a reconnect, or to the end of a link. -/
def Event.getsOff : Event → Bool
  | .enter .. | .dial .. | .dialled .. | .detach => true
  | _ => false

variable {l l' : Link} {e : Event} {id : CallId} {c : Call} {g x : Nat} {name : ConnectionName}
  {unread bytes : Bytes}

/-! ## What the parts of a step do to the contents -/

theorem contents_onLane (l : Link) (g x : Nat) {f : Lane → Lane}
    (hf : ∀ lane, (f lane).connection = lane.connection ∧ (f lane).unread = lane.unread) :
    (l.onLane g f).contents x = l.contents x := by
  simp only [contents, onLane, Assoc.get?_modify]
  split
  · rename_i hx
    subst hx
    cases l.lanes.get? x <;> simp [hf]
  · rfl

theorem contents_unread (l : Link) (g : Nat) (bytes : Bytes) :
    (l.onLane g fun lane => { lane with unread := bytes }).contents g =
      (l.contents g).map fun p => (p.1, bytes) := by
  simp only [contents, onLane, Assoc.get?_modify, if_true, Option.map_map]
  rfl

@[simp] theorem contents_leave (l : Link) (id : CallId) (x : Nat) :
    (l.leave id).contents x = l.contents x := by
  simp only [contents, leave, Assoc.get?_map, Option.map_map]
  rfl

@[simp] theorem contents_setCall (l : Link) (id : CallId) (c : Call) (x : Nat) :
    (l.setCall id c).contents x = l.contents x := rfl

@[simp] theorem contents_finish (l : Link) (id : CallId) (c : Call) (outcome : Outcome) (x : Nat) :
    (l.finish id c outcome).contents x = l.contents x := contents_leave l id x

@[simp] theorem contents_fail (l : Link) (id : CallId) (c : Call) (seen : Nat) (cause : FrameError)
    (x : Nat) : (l.fail id c seen cause).contents x = l.contents x := contents_leave l id x

/-! ## Steps -/

theorem bound_start (name : ConnectionName) (pause budget : Nat) :
    Bound (start name false pause budget) 1 name [] :=
  ⟨sound_start .., queued_start .., rfl, rfl, rfl, rfl, rfl⟩

/-- Nobody stands at the gate. -/
theorem Bound.not_atGate (h : Bound l g name unread) (hcall : l.calls.get? id = some c) :
    c.phase.atGate = false := by
  apply Bool.eq_false_iff.mpr
  intro hgate
  have hmem := (h.sound.fits id c hcall).inLine.mpr hgate
  rw [h.gate] at hmem
  cases hmem

/-- Nobody is on another connection that could still be used. -/
theorem Bound.lane (h : Bound l g name unread) : ∃ lane, l.lanes.get? g = some lane ∧
    lane.connection = name ∧ lane.unread = unread ∧ lane.abandoned = false := by
  obtain ⟨lane, hlane, hcontents⟩ := Option.map_eq_some_iff.mp h.contents
  obtain ⟨rfl, rfl⟩ := Prod.mk.inj hcontents
  have hlive := (h.sound.installed g).mpr h.slot
  have habandoned : lane.abandoned = false := by simpa [shared, hlane] using hlive
  exact ⟨lane, hlane, rfl, rfl, habandoned⟩

theorem Bound.not_getsOff (h : Bound l g name unread) (hstep : Step l e l') :
    e.getsOff = false := by
  have hhead : ∀ id, l.gate.head? ≠ some id := by simp [h.gate]
  cases hstep with
  | enterLate _ _ turn | enterFirst _ _ turn => exact absurd turn (hhead _)
  | dial call phase | dialledError call phase | dialledClosed call phase
  | dialledOpen call phase =>
      have hgate := h.not_atGate call
      rw [phase] at hgate
      cases hgate
  | detach closed =>
      rw [h.opened] at closed
      cases closed
  | _ => rfl

/-- Whoever holds the reader or writer of a connection holds that of this one. -/
theorem Bound.of_holds (h : Bound l g name unread) {g' seen : Nat} {work : Work} {lane : Lane}
    (holds : Holds l id c g' seen work lane) : g' = g ∧ lane.unread = unread := by
  obtain ⟨lane', hlane, -, hunread, -⟩ := h.lane
  cases (h.sound.slot_of_holds holds).symm.trans h.slot
  cases holds.found.symm.trans hlane
  exact ⟨rfl, hunread⟩

theorem Bound.stays (h : Bound l g name unread) (hstep : Step l e l') (hclose : e ≠ .close) :
    l'.closed = false ∧ l'.gate = [] ∧ l'.slot = some g := by
  have hstuck := h.not_getsOff hstep
  have hgate : ∀ id, l.gate.erase id = [] := by simp [h.gate]
  cases hstep with
  | enterLate | enterFirst | dial | dialledError | dialledClosed | dialledOpen | detach =>
      cases hstuck
  | judgeRetry _ _ _ dials =>
      rw [h.stuck] at dials
      cases dials
  | close => exact absurd rfl hclose
  | cancel | lookClosed | flushed | judgeClosed | judgeStuck | judgeSpent | lose | ended | broke
  | parseFrame | parseError | drop => exact ⟨h.opened, hgate _, h.slot⟩
  | _ => exact ⟨h.opened, h.gate, h.slot⟩

/-- Bytes that nobody reads are left where they are. -/
theorem Step.contents (h : Step l e l') (htakes : e.takes = false)
    (hstuck : e.getsOff = false) (x : Nat) : l'.contents x = l.contents x := by
  cases h with
  | enterLate | enterFirst | dial | dialledError | dialledClosed | dialledOpen | detach =>
      cases hstuck
  | filled | parseMore | parseFrame | parseError => cases htakes
  | ask =>
      rw [contents_setCall]
      refine contents_onLane l _ x fun lane => ?_
      unfold Lane.join
      split <;> exact ⟨rfl, rfl⟩
  | lookSome | lookNone | wrote | judgeRetry | call | collect | close => rfl
  | drop => exact contents_leave l _ x
  | lose | ended | broke => exact contents_fail ..
  | _ => exact contents_finish ..

theorem Bound.congr (h : Bound l g name unread) (hstep : Step l e l') (hclose : e ≠ .close)
    (hcontents : l'.contents g = some (name, bytes)) : Bound l' g name bytes := by
  obtain ⟨hopened, hgate, hslot⟩ := h.stays hstep hclose
  exact ⟨h.sound.step hstep, h.queued.step h.sound hstep, hstep.settings.1.trans h.stuck, hopened,
    hgate, hslot, hcontents⟩

/-- A step that takes nothing from the connection. -/
theorem Bound.step (h : Bound l g name unread) (hstep : Step l e l') (hclose : e ≠ .close)
    (htakes : e.takes = false) : Bound l' g name unread := by
  refine h.congr hstep hclose ?_
  rw [hstep.contents htakes (h.not_getsOff hstep), h.contents]

/-- Only a call that came to receive takes bytes. -/
theorem Step.job_of_takes (h : Step l e l') (hid : e.call? = some id)
    (htakes : e.takes = true) : ∃ c, l.calls.get? id = some c ∧ (c.Suits → c.job = .receive) := by
  cases h with
  | filled holds | parseMore holds | parseFrame holds | parseError holds =>
      cases hid
      exact ⟨_, holds.call, fun hsuits => hsuits.reads holds.phase⟩
  | _ => cases htakes

/-! ## The steps of a reader -/

/-- A step of a call that came to receive: how it goes on from the bytes that are not yet
read, and which bytes it leaves. -/
inductive Advance (g : Nat) (id : CallId) : Phase → Bytes → Event → Phase → Bytes → Prop
  | look {seen : Nat} {unread : Bytes} :
      Advance g id .ready unread (.look id) (.entering g seen) unread
  | ask {seen : Nat} {unread : Bytes} : Advance g id (.entering g seen) unread (.ask id)
      (.working g seen (.reading .start)) unread
  | filled {seen : Nat} {progress : Progress} {bytes : Bytes} (some : bytes ≠ []) :
      Advance g id (.working g seen (.reading progress)) [] (.filled id bytes)
        (.working g seen (.reading progress)) bytes
  | more {seen : Nat} {progress next : Progress} {unread : Bytes} (some : unread ≠ [])
      (feed : progress.feed unread = .hungry next) :
      Advance g id (.working g seen (.reading progress)) unread (.parse id)
        (.working g seen (.reading next)) []
  | frame {seen : Nat} {progress : Progress} {unread rest : Bytes} {f : Frame}
      (feed : progress.feed unread = .finished (.ok f) rest) :
      Advance g id (.working g seen (.reading progress)) unread (.parse id) (.done (.received f))
        rest
  | error {seen : Nat} {progress : Progress} {unread rest : Bytes} {cause : FrameError}
      (feed : progress.feed unread = .finished (.error cause) rest) :
      Advance g id (.working g seen (.reading progress)) unread (.parse id) (.failed seen cause)
        rest
  | ended {seen : Nat} {progress : Progress} :
      Advance g id (.working g seen (.reading progress)) [] (.ended id)
        (.failed seen progress.cutOff) []
  | broke {seen : Nat} {progress : Progress} {error : IoError} :
      Advance g id (.working g seen (.reading progress)) [] (.broke id error)
        (.failed seen (.io error)) []
  | judge {seen : Nat} {cause : FrameError} {unread : Bytes} :
      Advance g id (.failed seen cause) unread (.judge id) (.done (.failed (.broken cause))) unread

/-- **A call that receives on a link bound to its connection goes straight on:** it takes
what the connection gives, reads what it has taken, and fails for good. -/
theorem Bound.advance (h : Bound l g name unread) (hcall : l.calls.get? id = some c)
    (hjob : c.job = .receive) (hsuits : c.Suits)
    (hlane : ∀ g' seen, c.phase.lane? = some (g', seen) → g' = g) (hstep : Step l e l')
    (hown : e.call? = some id) (hway : e.underWay = true) (hcollect : e ≠ .collect id) :
    ∃ phase unread', Advance g id c.phase unread e phase unread' ∧
      l'.calls.get? id = some { c with phase } ∧ Bound l' g name unread' := by
  have hclose : e ≠ .close := by
    rintro rfl
    cases hown
  have hstuck := h.not_getsOff hstep
  obtain ⟨lane, hfound, -, -, hlive⟩ := h.lane
  have hwrites : ∀ g' seen rest, c.phase ≠ .working g' seen (.writing rest) := by
    intro g' seen rest hphase
    obtain ⟨bytes, hsend⟩ := hsuits.writes hphase
    cases hjob.symm.trans hsend
  have hbound := h.step hstep hclose
  have hcongr : ∀ bytes, l'.contents g = some (name, bytes) → Bound l' g name bytes :=
    fun _ => h.congr hstep hclose
  cases hstep with
  | call | drop => cases hway
  | close | detach => cases hown
  | cancel _ _ closed | lookClosed _ _ closed | judgeClosed _ _ closed =>
      cases h.opened.symm.trans closed
  | judgeSpent _ _ _ dials | judgeRetry _ _ _ dials => cases h.stuck.symm.trans dials
  | enterLate | enterFirst | dial | dialledError | dialledClosed | dialledOpen => cases hstuck
  | collect =>
      cases hown
      exact absurd rfl hcollect
  | lookNone call phase closed slot => cases h.slot.symm.trans slot
  | lose call phase found abandoned =>
      cases hown
      cases hcall.symm.trans call
      obtain rfl := hlane _ _ phase
      cases hfound.symm.trans found
      cases hlive.symm.trans abandoned
  | wrote holds | flushed holds =>
      cases hown
      cases hcall.symm.trans holds.call
      exact absurd holds.phase (hwrites _ _ _)
  | lookSome call phase closed slot =>
      cases hown
      cases hcall.symm.trans call
      cases h.slot.symm.trans slot
      refine ⟨_, unread, ?_, Assoc.get?_set_self .., hbound rfl⟩
      rw [phase]
      exact .look
  | ask call phase found live =>
      cases hown
      cases hcall.symm.trans call
      obtain rfl := hlane _ _ (by rw [phase]; rfl)
      refine ⟨_, unread, ?_, Assoc.get?_set_self .., hbound rfl⟩
      rw [phase, hjob]
      exact .ask
  | filled holds drained some =>
      cases hown
      cases hcall.symm.trans holds.call
      obtain ⟨rfl, hunread⟩ := h.of_holds holds
      have hcontents := hcongr _ (by rw [contents_unread, h.contents]; rfl)
      obtain rfl : unread = [] := hunread.symm.trans drained
      refine ⟨c.phase, _, ?_, hcall, hcontents⟩
      rw [holds.phase]
      exact .filled some
  | parseMore holds some feed =>
      cases hown
      cases hcall.symm.trans holds.call
      obtain ⟨rfl, hunread⟩ := h.of_holds holds
      have hcontents := hcongr _ (by rw [contents_setCall, contents_unread, h.contents]; rfl)
      rw [hunread] at some feed
      refine ⟨_, _, ?_, Assoc.get?_set_self .., hcontents⟩
      rw [holds.phase]
      exact .more some feed
  | parseFrame holds some feed =>
      cases hown
      cases hcall.symm.trans holds.call
      obtain ⟨rfl, hunread⟩ := h.of_holds holds
      have hcontents := hcongr _ (by rw [contents_finish, contents_unread, h.contents]; rfl)
      rw [hunread] at feed
      refine ⟨_, _, ?_, Assoc.get?_set_self .., hcontents⟩
      rw [holds.phase]
      exact .frame feed
  | parseError holds some feed =>
      cases hown
      cases hcall.symm.trans holds.call
      obtain ⟨rfl, hunread⟩ := h.of_holds holds
      have hcontents := hcongr _ (by rw [contents_fail, contents_unread, h.contents]; rfl)
      rw [hunread] at feed
      refine ⟨_, _, ?_, Assoc.get?_set_self .., hcontents⟩
      rw [holds.phase]
      exact .error feed
  | ended holds drained =>
      cases hown
      cases hcall.symm.trans holds.call
      obtain ⟨rfl, hunread⟩ := h.of_holds holds
      obtain rfl : unread = [] := hunread.symm.trans drained
      refine ⟨_, _, ?_, Assoc.get?_set_self .., hbound rfl⟩
      rw [holds.phase]
      exact .ended
  | @broke _ _ _ _ work _ _ holds drained =>
      cases hown
      cases hcall.symm.trans holds.call
      obtain ⟨rfl, hunread⟩ := h.of_holds holds
      cases work with
      | writing rest => exact absurd holds.phase (hwrites _ _ _)
      | reading progress =>
          obtain rfl : unread = [] := hunread.symm.trans (drained progress rfl)
          refine ⟨_, _, ?_, Assoc.get?_set_self .., hbound rfl⟩
          rw [holds.phase]
          exact .broke
  | judgeStuck call phase =>
      cases hown
      cases hcall.symm.trans call
      refine ⟨_, unread, ?_, Assoc.get?_set_self .., hbound rfl⟩
      rw [phase]
      exact .judge

/-- A call stays on the connection of its link. -/
theorem Advance.lane {phase phase' : Phase} {unread' : Bytes}
    (h : Advance g id phase unread e phase' unread') {g' seen : Nat}
    (hlane : phase'.lane? = some (g', seen)) : g' = g := by
  cases h <;> cases hlane <;> rfl

/-! ## One reader among senders -/

/-- Everybody on the link but one has come to send. -/
def Sending (l : Link) (id : CallId) : Prop :=
  ∀ x c, x ≠ id → l.calls.get? x = some c → c.Suits ∧ ∃ bytes, c.job = .send bytes

theorem Sending.step (h : l.Sending id) (hstep : Step l e l')
    (hcomes : ∀ x job, e = .call x job → x ≠ id → ∃ bytes, job = .send bytes) :
    l'.Sending id := by
  intro x c' hx hcall'
  rcases hstep.comes hcall' with ⟨job, rfl, rfl⟩ | ⟨c, hcall, hjob, hsuits⟩
  · obtain ⟨bytes, rfl⟩ := hcomes x job rfl hx
    exact ⟨rfl, bytes, rfl⟩
  · obtain ⟨hsuits', bytes, hsends⟩ := h x c hx hcall
    exact ⟨hsuits hsuits', bytes, hjob.trans hsends⟩

/-- Who sends takes nothing from the connection. -/
theorem Step.takes_of_sends (h : Step l e l') (hid : e.call? = some id)
    (hcall : ∀ c, l.calls.get? id = some c → c.Suits ∧ ∃ bytes, c.job = .send bytes) :
    e.takes = false := by
  apply Bool.eq_false_iff.mpr
  intro htakes
  obtain ⟨c, hfound, hreceives⟩ := h.job_of_takes hid htakes
  obtain ⟨hsuits, bytes, hsends⟩ := hcall c hfound
  cases hsends.symm.trans (hreceives hsuits)

theorem Phase.eq_of_work? {phase : Phase} {work : Work} (h : phase.work? = some (g, work)) :
    ∃ seen, phase = .working g seen work := by
  cases phase <;> cases h
  exact ⟨_, rfl⟩

/-- The only reader of a link is never kept waiting by another. -/
theorem Bound.holds (h : Bound l g name unread) (hsending : l.Sending id) {seen : Nat}
    {progress : Progress} (hcall : l.calls.get? id = some c)
    (hphase : c.phase = .working g seen (.reading progress)) :
    ∃ lane, Holds l id c g seen (.reading progress) lane ∧ lane.connection = name ∧
      lane.unread = unread := by
  obtain ⟨lane, hlane, hconnection, hunread, hlive⟩ := h.lane
  refine ⟨lane, ⟨hcall, hphase, hlane, ?_, hlive⟩, hconnection, hunread⟩
  have hline := line_of_get? hlane (.reading progress)
  have hmem : id ∈ l.line g (.reading progress) :=
    h.queued.inLine id c g _ hcall (by rw [hphase]; rfl)
  have hall : ∀ x ∈ l.line g (.reading progress), x = id := by
    intro x hx
    obtain ⟨c', work, hcall', hwork, hreads⟩ := h.queued.served g _ x hx
    by_contra hne
    obtain ⟨hsuits, bytes, hsends⟩ := hsending x c' hne hcall'
    cases work with
    | writing rest => cases hreads
    | reading progress' =>
        obtain ⟨seen', hphase'⟩ := Phase.eq_of_work? hwork
        cases hsends.symm.trans (hsuits.reads hphase')
  rw [hline] at hmem hall
  cases hreaders : lane.line (.reading progress) with
  | nil =>
      rw [hreaders] at hmem
      cases hmem
  | cons x rest =>
      rw [hreaders] at hall
      simp [hall x (List.mem_cons_self ..)]

end TelemetryRelay.Link
