import TelemetryRelay.Proofs.Link.Alone

/-!
# The course of a call that is alone

What a call has done is a list of reconnects that are over, one that is not, and
the outcomes of its tries.  Every step of the call adds to one of them, so the
events of a call that is done are known from its tries.
-/

namespace TelemetryRelay.Link

open Wire

/-! ## The course of a call -/

/-- So many tries, all in vain. -/
def InVain (n : Nat) (tried : List (Except FrameError Outcome)) : Prop :=
  ∃ causes : List FrameError, causes.length = n ∧ tried = causes.map .error

/-- What is there of a reconnect that is not over. -/
def Half (id : CallId) (pause : Nat) : Phase → List Event → Prop
  | .waiting _, half => half = [.judge id]
  | .pausing due, half => ∃ now, due = now + pause ∧ half = [.judge id, .enter id now]
  | .dialling, half => ∃ now later, now + pause ≤ later ∧
      half = [.judge id, .enter id now, .dial id later]
  -- The budget did not allow it.
  | .done (.failed _), half => half = [.judge id]
  | _, half => half = []

/-- What a call has tried after so many reconnects. -/
def Tried (n : Nat) (budget : Nat) (slot : Option Nat) (c : Call)
    (tried : List (Except FrameError Outcome)) : Prop :=
  match c.phase with
  | .ready => match slot with
    | some _ => InVain n tried
    | none => ∃ before, InVain n before ∧
        tried = before ++ [.error (c.carried.getD (.io neverConnected))]
  | .entering .. | .working .. => InVain n tried
  | .failed _ cause => ∃ before, InVain n before ∧ tried = before ++ [.error cause]
  | .waiting _ | .pausing _ | .dialling => InVain (n + 1) tried
  | .done (.failed e) => n = budget ∧ ∃ before cause, InVain n before ∧
      tried = before ++ [.error cause] ∧ e = .exhausted n cause
  | .done outcome => ∃ before, InVain n before ∧ tried = before ++ [.ok outcome]

/-- What a call that is alone has done since it came to a link. -/
structure Course (id : CallId) (l₀ : Link) (es : List Event) (l : Link) (c : Call)
    (rs : List Reconnect) (half : List Event) (tried : List (Except FrameError Outcome)) :
    Prop where
  settings : l.pause = l₀.pause ∧ l.budget = l₀.budget
  events : es.filter Event.reconnects = rs.flatMap (·.events id) ++ half
  paused : ∀ r ∈ rs, r.entered + l₀.pause ≤ r.dialled
  attempts : c.attempts = rs.length + c.phase.atGate.toNat
  budget : c.attempts ≤ l₀.budget
  outcomes : (l₀.tries es).map (·.1) = tried
  /-- Each try was on the next connection. -/
  links : (l₀.tries es).map (·.2) = (l₀.links rs).take tried.length
  /-- The connection that is installed is what the latest reconnect gave. -/
  current : c.phase.atGate = false → (l₀.links rs)[rs.length]? = some l.connection?
  half : Half id l₀.pause c.phase half
  tried : Tried rs.length l₀.budget l.slot c tried

variable {l l' l₀ : Link} {e : Event} {es : List Event} {id : CallId} {c c' : Call} {n : Nat}
  {job : Job} {rs rs' : List Reconnect} {half half' : List Event}
  {tried new : List (Except FrameError Outcome)} {cause : FrameError}

theorem length_links (l : Link) (rs : List Reconnect) : (l.links rs).length = rs.length + 1 := by
  simp [links]

theorem links_snoc (l : Link) (rs : List Reconnect) (r : Reconnect) :
    l.links (rs ++ [r]) = l.links rs ++ [r.result.toOption] := by
  simp [links]

theorem InVain.length (h : InVain n tried) : tried.length = n := by
  obtain ⟨causes, rfl, rfl⟩ := h
  simp

theorem InVain.snoc (h : InVain n tried) (cause : FrameError) :
    InVain (n + 1) (tried ++ [.error cause]) := by
  obtain ⟨causes, rfl, rfl⟩ := h
  exact ⟨causes ++ [cause], by simp, by simp⟩

theorem tries_snoc (hrun : l₀.run es = some l) :
    l₀.tries (es ++ [e]) = l₀.tries es ++ (trial? (l, e)).toList := by
  rw [tries, tries, filterMap_history_snoc trial? hrun, List.append_assoc]

/-- One more event of a course. -/
theorem Course.snoc (h : Course id l₀ es l c rs half tried) (hrun : l₀.run es = some l)
    (hsettings : l'.pause = l.pause ∧ l'.budget = l.budget)
    (hevents : rs.flatMap (·.events id) ++ half ++ [e].filter Event.reconnects =
      rs'.flatMap (·.events id) ++ half')
    (hpaused : ∀ r ∈ rs', r.entered + l₀.pause ≤ r.dialled)
    (hattempts : c'.attempts = rs'.length + c'.phase.atGate.toNat)
    (hbudget : c'.attempts ≤ l₀.budget)
    (hnew : (trial? (l, e)).toList.map (·.1) = new)
    (hlinks : (l₀.links rs').take (tried.length + new.length) =
      (l₀.links rs).take tried.length ++ (trial? (l, e)).toList.map (·.2))
    (hcurrent : c'.phase.atGate = false → (l₀.links rs')[rs'.length]? = some l'.connection?)
    (hhalf : Half id l₀.pause c'.phase half')
    (htried : Tried rs'.length l₀.budget l'.slot c' (tried ++ new)) :
    Course id l₀ (es ++ [e]) l' c' rs' half' (tried ++ new) where
  settings := ⟨hsettings.1.trans h.settings.1, hsettings.2.trans h.settings.2⟩
  events := by rw [List.filter_append, h.events, hevents]
  paused := hpaused
  attempts := hattempts
  budget := hbudget
  outcomes := by rw [tries_snoc hrun, List.map_append, h.outcomes, hnew]
  links := by rw [tries_snoc hrun, List.map_append, h.links, List.length_append, hlinks]
  current := hcurrent
  half := hhalf
  tried := htried

/-- A step that neither is one of a reconnect nor ends a try. -/
theorem Course.quiet (h : Course id l₀ es l c rs half tried) (hrun : l₀.run es = some l)
    (hsettings : l'.pause = l.pause ∧ l'.budget = l.budget) (plain : e.reconnects = false)
    (ends : trial? (l, e) = none) (kept : Kept l l')
    (hattempts : c'.attempts = c.attempts) (hgate : c'.phase.atGate = c.phase.atGate)
    (hhalf : Half id l₀.pause c'.phase half)
    (htried : Tried rs.length l₀.budget l.slot c' tried) :
    Course id l₀ (es ++ [e]) l' c' rs half tried := by
  have hcurrent : c'.phase.atGate = false → (l₀.links rs)[rs.length]? = some l'.connection? := by
    rw [hgate, kept.connection]
    exact h.current
  have hnone : (trial? (l, e)).toList.map (·.1) = [] := by simp [ends]
  simpa using h.snoc hrun hsettings (by simp [plain]) h.paused
    (by rw [hattempts, hgate, h.attempts]) (hattempts ▸ h.budget) hnone (by simp [ends]) hcurrent
    hhalf (by simpa [kept.slot] using htried)

/-- The end of a try on the connection that is installed. -/
theorem Course.ended (h : Course id l₀ es l c rs half tried) (hrun : l₀.run es = some l)
    (hsettings : l'.pause = l.pause ∧ l'.budget = l.budget) (plain : e.reconnects = false)
    {result : Except FrameError Outcome} (ends : trial? (l, e) = some (result, l.connection?))
    (kept : Kept l l') (hlength : tried.length = rs.length) (hgate : c.phase.atGate = false)
    (hattempts : c'.attempts = c.attempts) (hgate' : c'.phase.atGate = false)
    (hhalf : Half id l₀.pause c'.phase half)
    (htried : Tried rs.length l₀.budget l.slot c' (tried ++ [result])) :
    Course id l₀ (es ++ [e]) l' c' rs half (tried ++ [result]) := by
  have hcurrent := h.current hgate
  refine h.snoc hrun hsettings (by simp [plain]) h.paused ?_ (hattempts ▸ h.budget) (by simp [ends])
    ?_ ?_ hhalf (kept.slot ▸ htried)
  · rw [hattempts, hgate', h.attempts, hgate]
  · simp [List.take_add_one, hlength, hcurrent, ends]
  · intro _
    rw [kept.connection]
    exact hcurrent

/-- A step of a reconnect that does not end it. -/
theorem Course.pace (h : Course id l₀ es l c rs half tried) (hrun : l₀.run es = some l)
    (hsettings : l'.pause = l.pause ∧ l'.budget = l.budget) (pace : e.reconnects = true)
    (ends : trial? (l, e) = none) (hattempts : c'.attempts = rs.length + c'.phase.atGate.toNat)
    (hbudget : c'.attempts ≤ l₀.budget)
    (hcurrent : c'.phase.atGate = false → c.phase.atGate = false ∧ Kept l l')
    (hhalf : Half id l₀.pause c'.phase (half ++ [e]))
    (htried : Tried rs.length l₀.budget l'.slot c' tried) :
    Course id l₀ (es ++ [e]) l' c' rs (half ++ [e]) tried := by
  have hcurrent' : c'.phase.atGate = false → (l₀.links rs)[rs.length]? = some l'.connection? := by
    intro hgate
    rw [(hcurrent hgate).2.connection]
    exact h.current (hcurrent hgate).1
  have hnone : (trial? (l, e)).toList.map (·.1) = [] := by simp [ends]
  simpa using h.snoc hrun hsettings (by simp [pace]) h.paused hattempts hbudget hnone
    (by simp [ends]) hcurrent' hhalf (by simpa using htried)

/-- The end of a reconnect. -/
theorem Course.whole (h : Course id l₀ es l c rs half tried) (hrun : l₀.run es = some l)
    (hsettings : l'.pause = l.pause ∧ l'.budget = l.budget) (r : Reconnect)
    (he : e = .dialled id r.result) (hhalf : half ++ [e] = r.events id)
    (ripe : r.entered + l₀.pause ≤ r.dialled) (hgate : c.phase.atGate = true)
    (hattempts : c'.attempts = c.attempts) (hphase : c'.phase = .ready)
    (hlength : tried.length = rs.length + 1) (hnew : (trial? (l, e)).toList.map (·.1) = new)
    (hlinks : (trial? (l, e)).toList.map (·.2) = [r.result.toOption].take new.length)
    (hgiven : l'.connection? = r.result.toOption)
    (htried : Tried (rs.length + 1) l₀.budget l'.slot c' (tried ++ new)) :
    Course id l₀ (es ++ [e]) l' c' (rs ++ [r]) [] (tried ++ new) := by
  have hbefore := h.attempts
  rw [hgate] at hbefore
  refine h.snoc hrun hsettings ?_ (List.forall_mem_append.mpr ⟨h.paused, by simpa using ripe⟩) ?_
    (hattempts ▸ h.budget) hnew ?_ ?_ ?_ (by simpa using htried)
  · simp [he, Event.reconnects, ← hhalf]
  · simp [hattempts, hphase, hbefore, Phase.atGate]
  · have hall : (l₀.links rs).length = tried.length := by rw [length_links, hlength]
    rw [hlinks, links_snoc, List.take_append, ← hall, Nat.add_sub_cancel_left, List.take_length,
      List.take_of_length_le (Nat.le_add_right _ _)]
  · intro _
    simp [links_snoc, length_links, hgiven]
  · rw [hphase]
    rfl

theorem Course.step (h : Course id l₀ es l c rs half tried) (hrun : l₀.run es = some l)
    (hturn : Turn id l c l' e c') (hsettings : l'.pause = l.pause ∧ l'.budget = l.budget) :
    ∃ rs' half' tried', Course id l₀ (es ++ [e]) l' c' rs' half' tried' := by
  have hhalf := h.half
  have htried := h.tried
  have hattempts := h.attempts
  cases hturn with
  | lookSome phase slot kept | lookNone phase slot kept =>
      rw [phase] at hhalf
      simp only [Tried, phase, slot] at htried
      exact ⟨rs, half, tried, h.quiet hrun hsettings rfl rfl kept rfl (by rw [phase]; rfl) hhalf
        htried⟩
  | ask phase kept =>
      rw [phase] at hhalf
      simp only [Tried, phase] at htried
      exact ⟨rs, half, tried, h.quiet hrun hsettings rfl rfl kept rfl (by rw [phase]; rfl) hhalf
        htried⟩
  | work after phase plain ends kept =>
      rw [phase] at hhalf
      simp only [Tried, phase] at htried
      exact ⟨rs, half, tried, h.quiet hrun hsettings plain ends kept rfl (by rw [phase]; rfl) hhalf
        htried⟩
  | @succeed _ _ _ outcome phase plain ends fine kept =>
      rw [phase] at hhalf
      simp only [Tried, phase] at htried
      -- `Half` and `Tried` look at the outcome, and a job that is done never gives a failure.
      refine ⟨rs, half, _, h.ended hrun hsettings plain ends kept htried.length (by rw [phase]; rfl)
        rfl rfl ?_ ?_⟩
      · cases outcome with
        | failed e => exact absurd rfl (fine e)
        | _ => exact hhalf
      · cases outcome with
        | failed e => exact absurd rfl (fine e)
        | _ => exact ⟨tried, htried, rfl⟩
  | fail phase plain ends kept =>
      rw [phase] at hhalf
      simp only [Tried, phase] at htried
      exact ⟨rs, half, _, h.ended hrun hsettings plain ends kept htried.length (by rw [phase]; rfl)
        rfl rfl hhalf ⟨tried, htried, rfl⟩⟩
  | @spent cause phase spent kept =>
      rw [phase] at hhalf hattempts
      simp only [Tried, phase] at htried
      obtain rfl : half = [] := hhalf
      -- The call has never counted more than the budget, and now has counted no less.
      have hspent : rs.length = l₀.budget := by
        have hwithin := h.budget
        rw [hattempts] at hwithin
        rw [hattempts, h.settings.2] at spent
        exact Nat.le_antisymm hwithin spent
      obtain ⟨before, hbefore, hlast⟩ := htried
      refine ⟨rs, _, tried, h.pace hrun hsettings rfl rfl hattempts h.budget ?_ rfl ?_⟩
      · exact fun _ => ⟨by rw [phase]; rfl, kept⟩
      · exact ⟨hspent, before, cause, hbefore, hlast, by simp [hattempts, Phase.atGate]⟩
  | @retry cause phase left kept =>
      rw [phase] at hhalf hattempts
      simp only [Tried, phase] at htried
      obtain rfl : half = [] := hhalf
      obtain ⟨before, hbefore, rfl⟩ := htried
      -- The last failure becomes one of those that a reconnect follows.
      exact ⟨rs, _, _, h.pace hrun hsettings rfl rfl (congrArg (· + 1) hattempts)
        (h.settings.2 ▸ left) (by simp [Phase.atGate]) rfl (hbefore.snoc cause)⟩
  | @enter now phase slot =>
      rw [phase] at hhalf hattempts
      simp only [Tried, phase] at htried
      obtain rfl : half = [.judge id] := hhalf
      exact ⟨rs, _, tried, h.pace hrun hsettings rfl rfl hattempts h.budget (by simp [Phase.atGate])
        ⟨now, by rw [h.settings.1], rfl⟩ htried⟩
  | @dial due later phase ripe kept =>
      rw [phase] at hhalf hattempts
      simp only [Tried, phase] at htried
      obtain ⟨now, rfl, rfl⟩ := hhalf
      exact ⟨rs, _, tried, h.pace hrun hsettings rfl rfl hattempts h.budget (by simp [Phase.atGate])
        ⟨now, later, ripe, rfl⟩ htried⟩
  | @refused error phase slot =>
      rw [phase] at hhalf
      simp only [Tried, phase] at htried
      obtain ⟨now, later, ripe, rfl⟩ := hhalf
      refine ⟨_, _, _, h.whole hrun hsettings ⟨now, later, .error error⟩ rfl rfl ripe
        (by rw [phase]; rfl) rfl rfl htried.length rfl rfl (connection?_of_slot slot) ?_⟩
      rw [slot]
      exact ⟨tried, htried, rfl⟩
  | @connected connection g phase slot given =>
      rw [phase] at hhalf
      simp only [Tried, phase] at htried
      obtain ⟨now, later, ripe, rfl⟩ := hhalf
      refine ⟨_, _, _, h.whole hrun hsettings ⟨now, later, .ok connection⟩ rfl rfl ripe
        (by rw [phase]; rfl) rfl rfl htried.length rfl rfl given ?_⟩
      rw [slot]
      exact (List.append_nil tried).symm ▸ htried

theorem Course.start (hstep : Step l (.call id job) l') :
    ∃ tried, Course id l [.call id job] l' { job } [] [] tried := by
  have hnow : l.run [] = some l := rfl
  have htries : l.tries [.call id job] = l.tries [] :=
    (tries_snoc hnow).trans (List.append_nil _)
  cases hstep with
  | call =>
      have hcurrent : (l.links [])[0]? = some (l.setCall id { job }).connection? := rfl
      cases hslot : l.slot with
      | none =>
          have hfirst : l.tries [] = [(.error (.io neverConnected), none)] := by
            simp [Link.tries, isConnected, hslot, history]
          have hlinks : l.links [] = [none] := by simp [Link.links, connection?_of_slot hslot]
          refine ⟨[.error (.io neverConnected)], ⟨rfl, rfl⟩, rfl, by simp, rfl, Nat.zero_le _, ?_,
            ?_, fun _ => hcurrent, rfl, ?_⟩
          · rw [htries, hfirst]
            rfl
          · rw [htries, hfirst, hlinks]
            rfl
          · rw [show (l.setCall id { job }).slot = none from hslot]
            exact ⟨[], ⟨[], rfl, rfl⟩, rfl⟩
      | some g =>
          have hfirst : l.tries [] = [] := by simp [Link.tries, isConnected, hslot, history]
          refine ⟨[], ⟨rfl, rfl⟩, rfl, by simp, rfl, Nat.zero_le _, ?_, ?_, fun _ => hcurrent, rfl,
            ?_⟩
          · rw [htries, hfirst]
            rfl
          · rw [htries, hfirst]
            rfl
          · rw [show (l.setCall id { job }).slot = some g from hslot]
            exact ⟨[], rfl, rfl⟩

theorem Alone.course (h : Alone l id job es l') (hsound : Sound l) (hqueued : Queued l)
    (hdials : l.canDial = true) :
    ∃ c rs half tried, Solo id l' c ∧ Course id l (.call id job :: es) l' c rs half tried := by
  obtain ⟨l₁, hcall, hrun⟩ := Option.bind_eq_some_iff.mp h.run
  have hfirst := step_iff.mp hcall
  obtain ⟨tried, hcourse⟩ := Course.start hfirst
  -- The induction is on the steps after the call came in; the course counts from before.
  refine run_induction (P := fun es l' => (∀ e ∈ es, e.call? = some id ∧ e ≠ .collect id ∧
    e ≠ .drop id) → ∃ c rs half tried, Solo id l' c ∧
      Course id l (.call id job :: es) l' c rs half tried) ?_ ?_ hrun h.own
  · intro _
    exact ⟨_, [], [], tried, Solo.start hsound hqueued hdials h.opened h.quiet hfirst, hcourse⟩
  · intro es e l₂ l₃ hrun hbefore hstep hown
    obtain ⟨c, rs, half, tried, hsolo, hcourse⟩ :=
      hbefore fun e he => hown e (List.mem_append_left _ he)
    obtain ⟨hid, hcollect, hdrop⟩ := hown e (by simp)
    obtain ⟨c', hturn, hsolo'⟩ := hsolo.step hstep hid hcollect hdrop
    obtain ⟨rs', half', tried', hcourse'⟩ :=
      hcourse.step (run_cons hfirst hrun) hturn hstep.settings.2
    exact ⟨c', rs', half', tried', hsolo', hcourse'⟩

/-- A call that is alone has come to the gate last of all, and when it did. -/
def Pauses (id : CallId) (es : List Event) (entered : Nat) : Prop :=
  (es.filter Event.reconnects).getLast? = some (.enter id entered)

theorem Course.half_of_pausing (h : Course id l₀ es l c rs half tried) {due : Nat}
    (hphase : c.phase = .pausing due) :
    ∃ now, due = now + l₀.pause ∧ half = [.judge id, .enter id now] := by
  have hhalf := h.half
  rw [hphase] at hhalf
  exact hhalf

theorem getLast?_of_whole (id : CallId) (rs : List Reconnect) :
    (rs.flatMap (·.events id)).getLast? = rs.getLast?.map fun r => .dialled id r.result := by
  rcases List.eq_nil_or_concat rs with rfl | ⟨before, r, rfl⟩
  · rfl
  · simp [Reconnect.events]

/-- It sleeps exactly from when it came to the gate until the pause is over. -/
theorem Course.pauses_iff (h : Course id l₀ es l c rs half tried) {entered : Nat} :
    Pauses id es entered ↔ c.phase = .pausing (entered + l₀.pause) := by
  have hhalf := h.half
  rw [Pauses, h.events, List.getLast?_append]
  cases hphase : c.phase with
  | pausing due =>
      rw [hphase] at hhalf
      obtain ⟨now, rfl, rfl⟩ := hhalf
      simp
  | waiting =>
      rw [hphase] at hhalf
      obtain rfl := hhalf
      simp
  | dialling =>
      rw [hphase] at hhalf
      obtain ⟨now, later, -, rfl⟩ := hhalf
      simp
  | ready | entering | working | failed =>
      rw [hphase] at hhalf
      obtain rfl := hhalf
      simp [getLast?_of_whole]
  | done outcome =>
      rw [hphase] at hhalf
      cases outcome with
      | failed e =>
          obtain rfl := hhalf
          simp
      | sent | received f =>
          obtain rfl := hhalf
          simp [getLast?_of_whole]

/-- What a call has done that is over: tries in vain, each followed by a pause and one
dial, and a last try on what the last dial gave. -/
structure Record (l : Link) (id : CallId) (pause : Nat) (es : List Event) (rs : List Reconnect)
    (causes : List FrameError) (last : Except FrameError Outcome) : Prop where
  outcomes : (l.tries es).map (·.1) = causes.map .error ++ [last]
  links : (l.tries es).map (·.2) = l.links rs
  connects : rs.length = causes.length
  /-- A call that may not reconnect any more has asked in vain. -/
  events : es.filter Event.reconnects =
    rs.flatMap (·.events id) ++ if last.isOk then [] else [.judge id]
  paused : ∀ r ∈ rs, r.entered + pause ≤ r.dialled

theorem Course.record {last : Except FrameError Outcome} {before : List (Except FrameError Outcome)}
    (h : Course id l₀ es l c rs half tried) (hbefore : InVain rs.length before)
    (htried : tried = before ++ [last]) (hhalf : half = if last.isOk then [] else [.judge id]) :
    ∃ causes, Record l₀ id l₀.pause es rs causes last := by
  have hlength : tried.length = (l₀.links rs).length := by
    simp [htried, hbefore.length, length_links]
  obtain ⟨causes, hconnects, rfl⟩ := hbefore
  refine ⟨causes, h.outcomes.trans htried, ?_, hconnects.symm, hhalf ▸ h.events, h.paused⟩
  rw [h.links, hlength, List.take_length]

/-- **What a call that is alone comes to.** While it is pending it can go on.  It can
dial when it has come to the gate and its pause is over since, and at no other time.  Once
it is done it has made a whole reconnect after each try in vain but the last; a last
try that went well gives its outcome, and one in vain has used up the budget. -/
theorem Alone.account (h : Alone l id job es l') (hsound : Sound l) (hqueued : Queued l)
    (hdials : l.canDial = true) :
    ∃ c, l'.calls.get? id = some c ∧
      (c.phase.pending = true → ∃ e l'', l'.step e = some l'' ∧ e.call? = some id ∧
        e ≠ .drop id ∧ e ≠ .collect id) ∧
      (∀ now, (∃ l'', l'.step (.dial id now) = some l'') ↔
        ∃ entered, Pauses id (.call id job :: es) entered ∧ entered + l.pause ≤ now) ∧
      ∀ outcome, c.phase = .done outcome → ∃ rs causes last,
        Record l id l.pause (.call id job :: es) rs causes last ∧ rs.length ≤ l.budget ∧
        (∀ o, last = .ok o → outcome = o ∧ ∀ e, o ≠ .failed e) ∧
        ∀ cause, last = .error cause →
          rs.length = l.budget ∧ outcome = .failed (.exhausted l.budget cause) := by
  obtain ⟨c, rs, half, tried, hsolo, hcourse⟩ := h.course hsound hqueued hdials
  refine ⟨c, hsolo.call, ?_, ?_, ?_⟩
  · intro hpending
    obtain ⟨e, l'', hstep, hown⟩ := hsolo.progress hpending
    exact ⟨e, l'', step_iff.mpr hstep, hown⟩
  · intro now
    rw [hsolo.dials_iff]
    simp only [hcourse.pauses_iff]
    constructor
    · rintro ⟨due, hphase, ripe⟩
      obtain ⟨entered, rfl, -⟩ := hcourse.half_of_pausing hphase
      exact ⟨entered, hphase, ripe⟩
    · rintro ⟨entered, hphase, ripe⟩
      exact ⟨_, hphase, ripe⟩
  · intro outcome hphase
    have hhalf := hcourse.half
    have htried := hcourse.tried
    have hbudget := hcourse.budget
    rw [hcourse.attempts] at hbudget
    have hwithin : rs.length ≤ l.budget := Nat.le_trans (Nat.le_add_right _ _) hbudget
    rw [hphase] at hhalf
    cases outcome with
    | failed e =>
        simp only [Tried, hphase] at htried
        obtain ⟨hspent, before, cause, hbefore, hlast, rfl⟩ := htried
        obtain ⟨causes, hrecord⟩ := hcourse.record hbefore hlast hhalf
        refine ⟨rs, causes, .error cause, hrecord, hwithin, by simp, ?_⟩
        rintro _ ⟨⟩
        exact ⟨hspent, by rw [hspent]⟩
    | sent | received f =>
        simp only [Tried, hphase] at htried
        obtain ⟨before, hbefore, hlast⟩ := htried
        obtain ⟨causes, hrecord⟩ := hcourse.record hbefore hlast hhalf
        refine ⟨rs, causes, .ok _, hrecord, hwithin, ?_, by simp⟩
        rintro _ ⟨⟩
        exact ⟨rfl, by simp⟩

end TelemetryRelay.Link
