import TelemetryRelay.Proofs.Link.Runs

/-!
# The lines for readers and writers

A call that works on a connection stands in the line for its reader or its
writer, once, and nobody else does.  So whoever is alone on a link is at the head
of the line as soon as it asks.
-/

namespace TelemetryRelay.Link

open Wire

def Work.reads : Work → Bool
  | .reading _ => true
  | .writing _ => false

/-- What a call does on a connection. -/
def Phase.work? : Phase → Option (Nat × Work)
  | .working g _ work => some (g, work)
  | _ => none

/-- The line for the reader or writer of a connection. -/
def line (l : Link) (g : Nat) (work : Work) : List CallId :=
  ((l.lanes.get? g).map (·.line work)).getD []

/-- Those who work are in line, and those in line work. -/
structure Queued (l : Link) : Prop where
  nodup : ∀ g work, (l.line g work).Nodup
  served : ∀ g work, ∀ id ∈ l.line g work, ∃ c work', l.calls.get? id = some c ∧
    c.phase.work? = some (g, work') ∧ work'.reads = work.reads
  inLine : ∀ id c g work, l.calls.get? id = some c → c.phase.work? = some (g, work) →
    id ∈ l.line g work

variable {l l' l₀ : Link} {e : Event} {es : List Event} {id : CallId} {c : Call} {g : Nat}
  {work work' : Work} {lane : Lane}

/-! ## What the parts of a step do to the lines -/

theorem Lane.line_congr (lane : Lane) (h : work'.reads = work.reads) :
    lane.line work' = lane.line work := by
  cases work <;> cases work' <;> first | rfl | cases h

theorem Lane.line_join (lane : Lane) (id : CallId) (work work' : Work) :
    (lane.join id work).line work' =
      if work'.reads = work.reads then lane.line work' ++ [id] else lane.line work' := by
  cases work <;> cases work' <;> rfl

theorem Lane.line_leave (lane : Lane) (id : CallId) (work : Work) :
    (lane.leave id).line work = (lane.line work).erase id := by
  cases work <;> rfl

theorem line_of_get? (h : l.lanes.get? g = some lane) (work : Work) :
    l.line g work = lane.line work := by
  rw [line, h]
  rfl

theorem line_congr (l : Link) (g : Nat) (h : work'.reads = work.reads) :
    l.line g work' = l.line g work := by
  simp only [line, fun lane : Lane => lane.line_congr h]

theorem line_onLane (l : Link) (g : Nat) {f : Lane → Lane}
    (hf : ∀ lane work, (f lane).line work = lane.line work) : (l.onLane g f).line = l.line := by
  funext x work
  simp only [line, onLane, Assoc.get?_modify]
  split
  · rename_i hx
    subst hx
    cases l.lanes.get? x <;> simp [hf]
  · rfl

theorem line_leave (l : Link) (id : CallId) (g : Nat) (work : Work) :
    (l.leave id).line g work = (l.line g work).erase id := by
  simp only [line, leave, Assoc.get?_map]
  cases l.lanes.get? g <;> simp [Lane.line_leave]

theorem line_abandon (l : Link) : l.abandon.line = l.line := by
  unfold abandon
  cases l.slot with
  | none => rfl
  | some g => exact line_onLane l g fun lane work => by cases work <;> rfl

theorem line_join (l : Link) (id : CallId) (hlane : l.lanes.get? g = some lane) (x : Nat)
    (work' : Work) :
    (l.onLane g fun lane => lane.join id work).line x work' =
      if x = g ∧ work'.reads = work.reads then l.line x work' ++ [id] else l.line x work' := by
  simp only [line, onLane, Assoc.get?_modify]
  by_cases hx : x = g
  · subst hx
    simp [hlane, Lane.line_join]
  · simp [hx]

/-- A new connection has nobody in line, and had no line before. -/
theorem Sound.line_install (h : Sound l) (connection : ConnectionName) :
    ({ l with generation := l.generation + 1, slot := some (l.generation + 1),
              lanes := l.lanes.set (l.generation + 1) { connection },
              lastFailure := none } : Link).line = l.line := by
  funext g work
  simp only [line, Assoc.get?_set]
  split
  · rename_i hg
    have hnone : l.lanes.get? g = none :=
      Option.map_eq_none_iff.mp (h.bound g (by omega))
    rw [hnone]
    cases work <;> rfl
  · rfl

/-! ## Steps of one call -/

theorem Queued.beside (h : Queued l) (id : CallId) (hnodup : ∀ g work, (l'.line g work).Nodup)
    (hline : ∀ g work j, j ≠ id → (j ∈ l'.line g work ↔ j ∈ l.line g work))
    (hcalls : ∀ j, j ≠ id → l'.calls.get? j = l.calls.get? j)
    (hserved : ∀ g work, id ∈ l'.line g work → ∃ c work', l'.calls.get? id = some c ∧
      c.phase.work? = some (g, work') ∧ work'.reads = work.reads)
    (hinLine : ∀ c g work, l'.calls.get? id = some c → c.phase.work? = some (g, work) →
      id ∈ l'.line g work) : Queued l' := by
  refine ⟨hnodup, ?_, ?_⟩
  · intro g work j hj
    by_cases hid : j = id
    · subst hid
      exact hserved g work hj
    · rw [hcalls j hid]
      exact h.served g work j ((hline g work j hid).mp hj)
  · intro j c g work hcall hwork
    by_cases hid : j = id
    · subst hid
      exact hinLine c g work hcall hwork
    · rw [hcalls j hid] at hcall
      exact (hline g work j hid).mpr (h.inLine j c g work hcall hwork)

/-- Who does not work is in no line. -/
theorem Queued.not_mem (h : Queued l) (hidle : ∀ c, l.calls.get? id = some c →
    c.phase.work? = none) (g : Nat) (work : Work) : id ∉ l.line g work := by
  intro hmem
  obtain ⟨c, work', hcall, hwork, -⟩ := h.served g work id hmem
  rw [hidle c hcall] at hwork
  cases hwork

/-- A call in no line goes where there is none. -/
theorem Queued.pass (h : Queued l) (hline : l'.line = l.line)
    (hcalls : ∀ j, j ≠ id → l'.calls.get? j = l.calls.get? j)
    (hbefore : ∀ c, l.calls.get? id = some c → c.phase.work? = none)
    (hafter : ∀ c, l'.calls.get? id = some c → c.phase.work? = none) : Queued l' := by
  refine h.beside id ?_ ?_ hcalls ?_ ?_
  · rw [hline]
    exact h.nodup
  · intro g work j _
    rw [hline]
  · intro g work hmem
    rw [hline] at hmem
    exact absurd hmem (h.not_mem hbefore g work)
  · intro c g work hcall hwork
    rw [hafter c hcall] at hwork
    cases hwork

/-- A call leaves its line. -/
theorem Queued.depart (h : Queued l) (hline : ∀ g work, l'.line g work = (l.line g work).erase id)
    (hcalls : ∀ j, j ≠ id → l'.calls.get? j = l.calls.get? j)
    (hafter : ∀ c, l'.calls.get? id = some c → c.phase.work? = none) : Queued l' := by
  refine h.beside id ?_ ?_ hcalls ?_ ?_
  · intro g work
    rw [hline]
    exact (h.nodup g work).erase id
  · intro g work j hj
    rw [hline]
    exact List.mem_erase_of_ne hj
  · intro g work hmem
    rw [hline] at hmem
    exact absurd hmem (h.nodup g work).not_mem_erase
  · intro c g work hcall hwork
    rw [hafter c hcall] at hwork
    cases hwork

/-- A call goes on with its work. -/
theorem Queued.proceed (h : Queued l) {c' : Call} (hline : l'.line = l.line)
    (hcalls : l'.calls = l.calls.set id c') (hcall : l.calls.get? id = some c)
    (hbefore : c.phase.work? = some (g, work)) (hafter : c'.phase.work? = some (g, work'))
    (hkind : work'.reads = work.reads) : Queued l' := by
  have hcall' : l'.calls.get? id = some c' := by simp [hcalls]
  refine h.beside id ?_ ?_ ?_ ?_ ?_
  · rw [hline]
    exact h.nodup
  · intro g work j _
    rw [hline]
  · intro j hj
    simp [hcalls, hj]
  · intro x kind hmem
    rw [hline] at hmem
    obtain ⟨d, w, hd, hw, hsame⟩ := h.served x kind id hmem
    rw [hcall] at hd
    cases hd
    rw [hbefore] at hw
    cases hw
    exact ⟨c', work', hcall', hafter, hkind.trans hsame⟩
  · intro d x w hd hw
    rw [hcall'] at hd
    cases hd
    rw [hafter] at hw
    cases hw
    rw [hline, line_congr l g hkind]
    exact h.inLine id c g work hcall hbefore

/-- A call gets into line. -/
theorem Queued.ask (h : Queued l) {seen : Nat} (hcall : l.calls.get? id = some c)
    (hphase : c.phase = .entering g seen) (hlane : l.lanes.get? g = some lane) (work : Work) :
    Queued ((l.onLane g fun lane => lane.join id work).setCall id
      { c with phase := .working g seen work }) := by
  have hnew : ∀ x w, id ∉ l.line x w := by
    refine h.not_mem ?_
    intro d hd
    rw [hcall] at hd
    cases hd
    rw [hphase]
    rfl
  have hjoin : ∀ x w, ((l.onLane g fun lane => lane.join id work).setCall id
      { c with phase := .working g seen work }).line x w =
        if x = g ∧ w.reads = work.reads then l.line x w ++ [id] else l.line x w :=
    fun x w => line_join l id hlane x w
  refine h.beside id ?_ ?_ ?_ ?_ ?_
  · intro x w
    rw [hjoin]
    split
    · refine List.nodup_append.mpr ⟨h.nodup x w, by simp, ?_⟩
      intro a ha b hb hab
      rw [List.mem_singleton] at hb
      exact hnew x w (hb ▸ hab ▸ ha)
    · exact h.nodup x w
  · intro x w j hj
    rw [hjoin]
    split <;> simp [hj]
  · intro j hj
    simp [hj]
  · intro x w hmem
    rw [hjoin] at hmem
    split at hmem
    · rename_i hsame
      obtain ⟨rfl, hkind⟩ := hsame
      exact ⟨_, work, by simp; rfl, rfl, hkind.symm⟩
    · exact absurd hmem (hnew x w)
  · intro d x w hd hw
    obtain rfl := Assoc.eq_of_get?_set hd
    cases hw
    rw [hjoin]
    simp

theorem Holds.work? {seen : Nat} (h : Holds l id c g seen work lane) :
    c.phase.work? = some (g, work) := by
  rw [h.phase]
  rfl

theorem Queued.finish (h : Queued l) (id : CallId) (c : Call) (outcome : Outcome) :
    Queued (l.finish id c outcome) := by
  refine h.depart (line_leave l id) ?_ ?_
  · intro j hj
    simp [hj]
  · intro c' hc'
    obtain rfl := Assoc.eq_of_get?_set hc'
    rfl

theorem Queued.fail (h : Queued l) (id : CallId) (c : Call) (seen : Nat) (cause : FrameError) :
    Queued (l.fail id c seen cause) := by
  refine h.depart (line_leave l id) ?_ ?_
  · intro j hj
    simp [hj]
  · intro c' hc'
    obtain rfl := Assoc.eq_of_get?_set hc'
    rfl

theorem Queued.congr (h : Queued l) (hline : l'.line = l.line) (hcalls : l'.calls = l.calls) :
    Queued l' := by
  constructor
  · rw [hline]
    exact h.nodup
  · rw [hline, hcalls]
    exact h.served
  · rw [hline, hcalls]
    exact h.inLine

theorem Queued.unread (h : Queued l) (g : Nat) (bytes : Bytes) :
    Queued (l.onLane g fun lane => { lane with unread := bytes }) :=
  h.congr (line_onLane l g fun lane work => by cases work <;> rfl) rfl

/-- A call that does not work goes on to where it does not work either. -/
theorem Queued.move (h : Queued l) {c' : Call} (hcall : ∀ c, l.calls.get? id = some c →
    c.phase.work? = none) (hline : l'.line = l.line) (hcalls : l'.calls = l.calls.set id c')
    (hafter : c'.phase.work? = none) : Queued l' := by
  refine h.pass hline ?_ hcall ?_
  · intro j hj
    simp [hcalls, hj]
  · intro d hd
    rw [hcalls] at hd
    obtain rfl := Assoc.eq_of_get?_set hd
    exact hafter

theorem work?_of_get? {p : Phase} (hcall : l.calls.get? id = some c) (hphase : c.phase = p)
    (hwork : p.work? = none) : ∀ d, l.calls.get? id = some d → d.phase.work? = none := by
  intro d hd
  rw [hcall] at hd
  cases hd
  rw [hphase]
  exact hwork

/-- **Every step keeps the lines.** -/
theorem Queued.step (h : Queued l) (hsound : Sound l) (hstep : Step l e l') : Queued l' := by
  cases hstep with
  | call fresh =>
      refine h.move ?_ rfl rfl rfl
      intro d hd
      rw [fresh] at hd
      cases hd
  | cancel | lookClosed | flushed | judgeClosed | judgeStuck | judgeSpent => exact h.finish ..
  | parseFrame => exact (h.unread _ _).finish ..
  | parseError => exact (h.unread _ _).fail ..
  | lose | ended | broke => exact h.fail ..
  | filled => exact h.unread ..
  | ask call phase found live => exact h.ask call phase found _
  | wrote holds => exact h.proceed rfl rfl holds.call holds.work? rfl rfl
  | parseMore holds =>
      exact h.proceed (line_onLane l _ fun lane work => by cases work <;> rfl) rfl holds.call
        holds.work? rfl rfl
  -- Neither before nor after these steps does the call work.
  | lookSome call phase | lookNone call phase | judgeRetry call phase | enterLate call phase
  | dial call phase | dialledError call phase | dialledClosed call phase =>
      exact h.move (work?_of_get? call phase rfl) rfl rfl rfl
  | enterFirst call phase =>
      have habandoned : Queued l.abandon := h.congr l.line_abandon l.calls_abandon
      refine habandoned.move ?_ rfl rfl rfl
      rw [calls_abandon]
      exact work?_of_get? call phase rfl
  | dialledOpen call phase =>
      exact h.move (work?_of_get? call phase rfl) (hsound.line_install _) rfl rfl
  | collect call phase =>
      refine h.pass rfl ?_ (work?_of_get? call phase rfl) ?_
      · intro j hj
        simp [hj]
      · intro d hd
        simp at hd
  | @drop id =>
      refine h.depart (line_leave l id) ?_ ?_
      · intro j hj
        simp [hj]
      · intro d hd
        simp at hd
  | close => exact h.congr rfl rfl
  | detach => exact h.congr l.line_abandon (by simp)

theorem queued_start (connection : ConnectionName) (canDial : Bool) (pause budget : Nat) :
    Queued (start connection canDial pause budget) := by
  have hline : ∀ g work, (start connection canDial pause budget).line g work = [] := by
    intro g work
    simp only [line, start, Assoc.get?_set]
    split
    · cases work <;> rfl
    · rfl
  constructor
  · intro g work
    rw [hline]
    exact List.nodup_nil
  · intro g work id hid
    rw [hline] at hid
    cases hid
  · intro id c g work hc
    cases hc

theorem queued_of_run {connection : ConnectionName} {canDial : Bool} {pause budget : Nat}
    (hrun : (start connection canDial pause budget).run es = some l) : Queued l := by
  refine run_induction (P := fun _ l => Queued l) (queued_start ..) ?_ hrun
  intro es e l l' hrun hbefore hstep
  exact hbefore.step (sound_of_run hrun) hstep

end TelemetryRelay.Link
