import TelemetryRelay.Proofs.Link.Jobs
import TelemetryRelay.Proofs.Link.Lines
import TelemetryRelay.Proofs.Link.PerConnection

/-!
# Who writes on a connection

The calls that want to write on a connection stand in one line, and only the head of
the line writes.  So what a connection takes comes in blocks, one for each call that
came to the head, and a block is what was taken of the bytes of that call.
-/

namespace TelemetryRelay.Link

open Wire

/-! ## Writing as it is seen from outside -/

/-- The connection a call writes on, and what is still to be written. -/
def Phase.writes? : Phase → Option (Nat × Bytes)
  | .working g _ (.writing rest) => some (g, rest)
  | _ => none

def writes? (l : Link) (id : CallId) : Option (Nat × Bytes) :=
  (l.calls.get? id).bind (·.phase.writes?)

/-- What a call came to send. -/
def Job.bytes? : Job → Option Bytes
  | .send bytes => some bytes
  | .receive => none

def sends? (l : Link) (id : CallId) : Option Bytes := (l.calls.get? id).bind (·.job.bytes?)

/-- The line for the writer of a connection. -/
def writers (l : Link) (g : Nat) : List CallId := l.line g (.writing [])

/-- The bytes a connection takes. -/
def accepted? (x : Link × Event) : Option (Nat × Bytes) :=
  match x.2 with
  | .wrote id count => (x.1.writes? id).map fun r => (r.1, r.2.take count)
  | _ => none

/-- A call and what it has sent. -/
def sent? (x : Link × Event) : Option (Nat × CallId × Bytes) :=
  match x.2 with
  | .flushed id => do
    let (g, _) ← x.1.writes? id
    let bytes ← x.1.sends? id
    some (g, id, bytes)
  | _ => none

/-- The call that gets the writer of a connection, and what it came to send. -/
def turn? (g : Nat) (x : Link × Event) : Option (CallId × Bytes) := do
  let next ← x.1.step x.2
  let id ← (next.writers g).head?
  if (x.1.writers g).head? = some id then none
  else (next.sends? id).map fun bytes => (id, bytes)

/-- The calls that got the writer of a connection, in that order. -/
def turns (h : List (Link × Event)) (g : Nat) : List (CallId × Bytes) := h.filterMap (turn? g)

/-- All bytes a connection took. -/
def acceptedOn (h : List (Link × Event)) (g : Nat) : Bytes := (observedOn accepted? g h).flatten

/-- The calls that sent all they had on a connection. -/
def sentOn (h : List (Link × Event)) (g : Nat) : List (CallId × Bytes) := observedOn sent? g h

/-! ## Blocks -/

/-- What a connection took of one call. -/
structure Block where
  id : CallId
  bytes : Bytes
  accepted : Bytes
  sent : Bool

def Block.attempt (b : Block) : CallId × Bytes := (b.id, b.bytes)

/-- What a connection took is a block for each call that got its writer; each is a
beginning of what the call came to send, and all of it if the call has sent it. -/
structure Blocks (turns : List (CallId × Bytes)) (accepted : Bytes) (sent : List (CallId × Bytes))
    (blocks : List Block) : Prop where
  turns : blocks.map (·.attempt) = turns
  accepted : blocks.flatMap (·.accepted) = accepted
  part : ∀ b ∈ blocks, b.accepted <+: b.bytes
  whole : ∀ b ∈ blocks, b.sent = true → b.accepted = b.bytes
  sent : (blocks.filter (·.sent)).map (·.attempt) = sent

/-- The blocks on a connection. -/
abbrev Written (h : List (Link × Event)) (g : Nat) (blocks : List Block) : Prop :=
  Blocks (turns h g) (acceptedOn h g) (sentOn h g) blocks

section

variable {turns sent : List (CallId × Bytes)} {accepted bytes taken : Bytes}
  {blocks settled : List Block} {id : CallId}

theorem Blocks.none : Blocks [] [] [] [] where
  turns := rfl
  accepted := rfl
  part := by simp
  whole := by simp
  sent := rfl

/-- Another call gets the writer. -/
theorem Blocks.begin (h : Blocks turns accepted sent blocks) (id : CallId) (bytes : Bytes) :
    Blocks (turns ++ [(id, bytes)]) accepted sent (blocks ++ [⟨id, bytes, [], false⟩]) where
  turns := by rw [List.map_append, h.turns]; rfl
  accepted := by simp [h.accepted]
  part b hb := by
    rcases List.mem_append.mp hb with hb | hb
    · exact h.part b hb
    · obtain rfl := List.mem_singleton.mp hb
      exact List.nil_prefix
  whole b hb hsent := by
    rcases List.mem_append.mp hb with hb | hb
    · exact h.whole b hb hsent
    · obtain rfl := List.mem_singleton.mp hb
      cases hsent
  sent := by simp [h.sent]

/-- The call that has the writer goes on, or is done. -/
theorem Blocks.last (h : Blocks turns accepted sent (settled ++ [⟨id, bytes, taken, false⟩]))
    (more : Bytes) (flag : Bool) (hpart : taken ++ more <+: bytes) (hwhole : flag = true → taken ++ more = bytes) :
    Blocks turns (accepted ++ more) (if flag then sent ++ [(id, bytes)] else sent)
      (settled ++ [⟨id, bytes, taken ++ more, flag⟩]) where
  turns := by
    rw [← h.turns]
    simp [Block.attempt]
  accepted := by
    rw [← h.accepted]
    simp
  part b hb := by
    rcases List.mem_append.mp hb with hb | hb
    · exact h.part b (List.mem_append_left _ hb)
    · obtain rfl := List.mem_singleton.mp hb
      exact hpart
  whole b hb hsent := by
    rcases List.mem_append.mp hb with hb | hb
    · exact h.whole b (List.mem_append_left _ hb) hsent
    · obtain rfl := List.mem_singleton.mp hb
      exact hwhole hsent
  sent := by
    rw [← h.sent]
    cases flag <;> simp [Block.attempt]

end

/-! ## The turns of a writer -/

variable {l l' l₀ : Link} {e : Event} {es : List Event} {id j : CallId} {c : Call} {g g' seen : Nat}
  {work : Work} {lane : Lane} {rest bytes : Bytes} {h : List (Link × Event)} {blocks : List Block}

theorem writes?_of_get? (h : l.calls.get? id = some c) : l.writes? id = c.phase.writes? := by
  simp [writes?, h]

theorem sends?_of_get? (h : l.calls.get? id = some c) : l.sends? id = c.job.bytes? := by
  simp [sends?, h]

theorem writes?_eq_some (h : l.writes? id = some (g, rest)) : ∃ c seen,
    l.calls.get? id = some c ∧ c.phase = .working g seen (.writing rest) := by
  obtain ⟨c, hcall, hwrites⟩ := Option.bind_eq_some_iff.mp h
  unfold Phase.writes? at hwrites
  split at hwrites
  · rename_i hphase
    cases hwrites
    exact ⟨c, _, hcall, hphase⟩
  · cases hwrites

theorem AllSuit.sends (h : AllSuit l) (hwrites : l.writes? id = some (g, rest)) :
    ∃ bytes, l.sends? id = some bytes := by
  obtain ⟨c, seen, hcall, hphase⟩ := writes?_eq_some hwrites
  obtain ⟨bytes, hjob⟩ := (h id c hcall).writes hphase
  exact ⟨bytes, by rw [sends?_of_get? hcall, hjob]; rfl⟩

/-- Those in line write. -/
theorem Queued.writes (h : Queued l) (hmem : id ∈ l.writers g) :
    ∃ rest, l.writes? id = some (g, rest) := by
  obtain ⟨c, work, hcall, hwork, hkind⟩ := h.served g (.writing []) id hmem
  rw [writes?_of_get? hcall]
  unfold Phase.work? at hwork
  split at hwork
  · rename_i hphase
    cases hwork
    cases work with
    | reading => cases hkind
    | writing rest => exact ⟨rest, by rw [hphase]; rfl⟩
  · cases hwork

theorem Holds.writes? (h : Holds l id c g seen (.writing rest) lane) :
    l.writes? id = some (g, rest) := by
  rw [writes?_of_get? h.call, h.phase]
  rfl

theorem Holds.head (h : Holds l id c g seen (.writing rest) lane) :
    (l.writers g).head? = some id := by
  rw [writers, line_of_get? h.found]
  exact h.turn

/-- What one step does to those who write. -/
inductive WriteTurn (l : Link) (e : Event) (l' : Link) : Prop
  /-- Nothing. -/
  | quiet (writers : ∀ g, l'.writers g = l.writers g)
      (kept : ∀ j r, l.writes? j = some r → l'.calls.get? j = l.calls.get? j)
      (accepted : accepted? (l, e) = none) (sent : sent? (l, e) = none)
  /-- A call gets into line. -/
  | join (id : CallId) (g : Nat) (bytes : Bytes)
      (writers : ∀ x, l'.writers x = if x = g then l.writers x ++ [id] else l.writers x)
      (kept : ∀ j r, l.writes? j = some r → l'.calls.get? j = l.calls.get? j)
      (writes : l'.writes? id = some (g, bytes)) (sends : l'.sends? id = some bytes)
      (accepted : accepted? (l, e) = none) (sent : sent? (l, e) = none)
  /-- A connection takes some bytes. -/
  | accept (id : CallId) (g count : Nat) (rest : Bytes) (head : (l.writers g).head? = some id)
      (before : l.writes? id = some (g, rest)) (after : l'.writes? id = some (g, rest.drop count))
      (sends : l'.sends? id = l.sends? id) (writers : ∀ g, l'.writers g = l.writers g)
      (kept : ∀ j, j ≠ id → l'.calls.get? j = l.calls.get? j)
      (accepted : accepted? (l, e) = some (g, rest.take count)) (sent : sent? (l, e) = none)
  /-- A call leaves every line. -/
  | leave (id : CallId) (writers : ∀ g, l'.writers g = (l.writers g).erase id)
      (kept : ∀ j, j ≠ id → l'.calls.get? j = l.calls.get? j)
      (accepted : accepted? (l, e) = none)
      (sent : sent? (l, e) = none ∨ ∃ g bytes, (l.writers g).head? = some id ∧
        l.writes? id = some (g, []) ∧ l.sends? id = some bytes ∧
        sent? (l, e) = some (g, id, bytes))

theorem Step.calls_of_other (hstep : Step l e l') (hid : e.call? = some id) (hj : j ≠ id) :
    l'.calls.get? j = l.calls.get? j := by
  refine hstep.calls_of_ne ?_
  rw [hid]
  exact fun hid => hj (Option.some.inj hid).symm

theorem Step.calls_of_writes (hstep : Step l e l') (hid : e.call? = some id)
    (hidle : l.writes? id = none) {r : Nat × Bytes} (hwrites : l.writes? j = some r) :
    l'.calls.get? j = l.calls.get? j := by
  refine hstep.calls_of_other hid ?_
  rintro rfl
  rw [hidle] at hwrites
  cases hwrites

/-- A call that does not write goes where it does not write either, or comes in. -/
theorem WriteTurn.aside (hstep : Step l e l') (hid : e.call? = some id)
    (hidle : l.writes? id = none) (hline : ∀ g, l'.writers g = l.writers g)
    (haccepted : accepted? (l, e) = none) (hsent : sent? (l, e) = none) : WriteTurn l e l' :=
  .quiet hline (fun _ _ => hstep.calls_of_writes hid hidle) haccepted hsent

/-- A call leaves, and has sent nothing. -/
theorem WriteTurn.off (hstep : Step l e l') (hid : e.call? = some id)
    (hline : ∀ g, l'.writers g = (l.writers g).erase id) (haccepted : accepted? (l, e) = none)
    (hsent : sent? (l, e) = none) : WriteTurn l e l' :=
  .leave id hline (fun _ => hstep.calls_of_other hid) haccepted (.inl hsent)

theorem not_writes {p : Phase} (hcall : l.calls.get? id = some c) (hphase : c.phase = p)
    (hp : p.writes? = none) : l.writes? id = none := by
  rw [writes?_of_get? hcall, hphase, hp]

theorem writers_unread (l : Link) (g : Nat) (bytes : Bytes) (x : Nat) :
    (l.onLane g fun lane => { lane with unread := bytes }).writers x = l.writers x :=
  congrFun (congrFun (line_onLane l g fun _ work => by cases work <;> rfl) x) _

theorem writers_leave (l : Link) (id : CallId) (x : Nat) :
    (l.leave id).writers x = (l.writers x).erase id :=
  line_leave l id x _

/-- Every step is a turn. -/
theorem Step.writeTurn (h : Step l e l') (hsound : Sound l) (hsuits : AllSuit l) :
    WriteTurn l e l' := by
  have hstep := h
  cases h with
  | call fresh => exact .aside hstep rfl (by simp [writes?, fresh]) (fun _ => rfl) rfl rfl
  | lookSome call phase | lookNone call phase | judgeRetry call phase | enterLate call phase
  | dial call phase | dialledError call phase | dialledClosed call phase =>
      exact .aside hstep rfl (not_writes call phase rfl) (fun _ => rfl) rfl rfl
  | collect call phase =>
      exact .aside hstep rfl (not_writes call phase rfl) (fun _ => rfl) rfl rfl
  | enterFirst call phase =>
      exact .aside hstep rfl (not_writes call phase rfl)
        (fun g => congrFun (congrFun l.line_abandon g) _) rfl rfl
  | @dialledOpen id c connection call phase =>
      exact .aside hstep rfl (not_writes call phase rfl)
        (fun g => congrFun (congrFun (hsound.line_install connection) g) _) rfl rfl
  | filled holds =>
      exact .aside hstep rfl (not_writes holds.call holds.phase rfl) (writers_unread l _ _) rfl rfl
  | parseMore holds =>
      exact .aside hstep rfl (not_writes holds.call holds.phase rfl) (writers_unread l _ _) rfl rfl
  | cancel | lookClosed | judgeClosed | judgeStuck | judgeSpent | lose | ended | broke =>
      exact .off hstep rfl (writers_leave l _) rfl rfl
  | @drop id c call => exact .off hstep rfl (writers_leave l id) rfl rfl
  | @parseFrame id c g seen progress lane f rest | @parseError id c g seen progress lane f rest =>
      refine .off hstep rfl (fun x => ?_) rfl rfl
      exact (writers_leave _ id x).trans (by rw [writers_unread])
  | @ask id c g seen lane call phase found live =>
      have hidle : l.writes? id = none := not_writes call phase rfl
      have hline : ∀ x, (l.onLane g fun lane => lane.join id c.job.work).writers x =
          if x = g ∧ false = c.job.work.reads then l.writers x ++ [id] else l.writers x :=
        fun x => line_join l id found x (.writing [])
      cases hjob : c.job with
      | receive =>
          rw [hjob] at hstep hline
          exact .aside hstep rfl hidle (fun x => (hline x).trans (if_neg (by simp [Job.work,
            Work.reads]))) rfl rfl
      | send bytes =>
          rw [hjob] at hstep hline
          refine .join id g bytes (fun x => ?_) (fun _ _ => hstep.calls_of_writes rfl hidle) ?_ ?_
            rfl rfl
          · refine (hline x).trans ?_
            simp [writers, Job.work, Work.reads]
          · rw [writes?_of_get? (Assoc.get?_set_self ..)]
            rfl
          · rw [sends?_of_get? (Assoc.get?_set_self ..)]
            rfl
  | @wrote id c g seen rest lane count holds some fits =>
      refine .accept id g count rest holds.head holds.writes? ?_ ?_ (fun _ => rfl)
        (fun _ => hstep.calls_of_other rfl) ?_ rfl
      · rw [writes?_of_get? (Assoc.get?_set_self ..)]
        rfl
      · rw [sends?_of_get? (Assoc.get?_set_self ..), sends?_of_get? holds.call]
      · simp [accepted?, holds.writes?]
  | @flushed id c g seen lane holds =>
      obtain ⟨bytes, hsends⟩ := hsuits.sends holds.writes?
      refine .leave id (writers_leave l id) (fun _ => hstep.calls_of_other rfl) rfl
        (.inr ⟨g, bytes, holds.head, holds.writes?, hsends, ?_⟩)
      simp [sent?, holds.writes?, hsends]
  | close => exact .quiet (fun _ => rfl) (fun _ _ _ => rfl) rfl rfl
  | detach =>
      exact .quiet (fun g => congrFun (congrFun l.line_abandon g) _)
        (fun _ _ _ => by rw [calls_abandon]) rfl rfl

/-! ## Blocks and those who write -/

theorem turns_snoc (h : List (Link × Event)) (g : Nat) (x : Link × Event) :
    turns (h ++ [x]) g = turns h g ++ (turn? g x).toList := by
  cases hx : turn? g x <;> simp [turns, hx]

/-- The head of the line stays, or there is none. -/
theorem turn?_none (hstep : Step l e l')
    (hhead : ∀ id, (l'.writers g).head? = some id → (l.writers g).head? = some id) :
    turn? g (l, e) = none := by
  simp only [turn?, step_iff.mpr hstep, Option.bind_eq_bind, Option.bind_some]
  cases hnow : (l'.writers g).head? with
  | none => rfl
  | some id => simp [hhead id hnow]

theorem turn?_some (hstep : Step l e l') (hnow : (l'.writers g).head? = some id)
    (hbefore : (l.writers g).head? ≠ some id) (hsends : l'.sends? id = some bytes) :
    turn? g (l, e) = some (id, bytes) := by
  simp [turn?, step_iff.mpr hstep, hnow, hbefore, hsends]

/-- A call in line that has not written yet. -/
def Waits (l : Link) (g : Nat) (id : CallId) : Prop :=
  ∃ bytes, l.sends? id = some bytes ∧ l.writes? id = some (g, bytes)

/-- The last block is that of the head of the line, up to what it has still to write. -/
def Current (l : Link) (g : Nat) (blocks : List Block) (id : CallId) : Prop :=
  ∃ settled bytes taken rest, blocks = settled ++ [⟨id, bytes, taken, false⟩] ∧
    l.sends? id = some bytes ∧ l.writes? id = some (g, rest) ∧ taken ++ rest = bytes

/-- Where the line for the writer stands. -/
def Stage (l : Link) (g : Nat) (blocks : List Block) : Prop :=
  ∀ id behind, l.writers g = id :: behind →
    Current l g blocks id ∧ ∀ j ∈ behind, Waits l g j

theorem Waits.keep (hwaits : Waits l g id) (hkept : l'.calls.get? id = l.calls.get? id) :
    Waits l' g id := by
  simpa only [Waits, sends?, writes?, hkept] using hwaits

theorem Current.keep (hcurrent : Current l g blocks id)
    (hkept : l'.calls.get? id = l.calls.get? id) : Current l' g blocks id := by
  simpa only [Current, sends?, writes?, hkept] using hcurrent

/-- The account of a connection at some point of a run. -/
def Accounted (h : List (Link × Event)) (l : Link) (g : Nat) : Prop :=
  ∃ blocks, Written h g blocks ∧ Stage l g blocks

theorem Stage.keep (hstage : Stage l g blocks) (hline : l'.writers g = l.writers g)
    (hkept : ∀ j ∈ l.writers g, l'.calls.get? j = l.calls.get? j) : Stage l' g blocks := by
  intro id behind hwriters
  rw [hline] at hwriters
  obtain ⟨hcurrent, hwaits⟩ := hstage id behind hwriters
  refine ⟨hcurrent.keep (hkept id (by simp [hwriters])), ?_⟩
  intro j hj
  exact (hwaits j hj).keep (hkept j (by simp [hwriters, hj]))

/-- What has nothing to do with a connection leaves its account alone. -/
theorem Accounted.keep (haccounted : Accounted h l g) (hstep : Step l e l')
    (hline : l'.writers g = l.writers g)
    (hkept : ∀ j ∈ l.writers g, l'.calls.get? j = l.calls.get? j)
    (haccepted : acceptedOn (h ++ [(l, e)]) g = acceptedOn h g)
    (hsent : sentOn (h ++ [(l, e)]) g = sentOn h g) : Accounted (h ++ [(l, e)]) l' g := by
  obtain ⟨blocks, hwritten, hstage⟩ := haccounted
  have hturn : turn? g (l, e) = none := turn?_none hstep fun id hid => by rwa [hline] at hid
  refine ⟨blocks, ?_, hstage.keep hline hkept⟩
  rw [Written, turns_snoc, hturn, haccepted, hsent, Option.toList_none, List.append_nil]
  exact hwritten

theorem acceptedOn_none (hx : accepted? (l, e) = none) :
    acceptedOn (h ++ [(l, e)]) g = acceptedOn h g := by
  rw [acceptedOn, observedOn_none hx, acceptedOn]

theorem sentOn_none (hx : sent? (l, e) = none) : sentOn (h ++ [(l, e)]) g = sentOn h g :=
  observedOn_none hx g h

/-- A call gets into line. -/
theorem Accounted.join (haccounted : Accounted h l g) (hstep : Step l e l')
    (hline : l'.writers g = l.writers g ++ [id])
    (hkept : ∀ j ∈ l.writers g, l'.calls.get? j = l.calls.get? j)
    (hwrites : l'.writes? id = some (g, bytes)) (hsends : l'.sends? id = some bytes)
    (haccepted : accepted? (l, e) = none) (hsent : sent? (l, e) = none) :
    Accounted (h ++ [(l, e)]) l' g := by
  obtain ⟨blocks, hwritten, hstage⟩ := haccounted
  cases hwriters : l.writers g with
  | nil =>
      -- Nobody is in front of it.
      have hturn : turn? g (l, e) = some (id, bytes) :=
        turn?_some hstep (by simp [hline, hwriters]) (by simp [hwriters]) hsends
      refine ⟨blocks ++ [⟨id, bytes, [], false⟩], ?_, ?_⟩
      · rw [Written, turns_snoc, hturn, acceptedOn_none haccepted, sentOn_none hsent]
        exact hwritten.begin id bytes
      · intro j behind hj
        rw [hline, hwriters, List.nil_append] at hj
        obtain ⟨rfl, rfl⟩ : id = j ∧ [] = behind := by simpa using hj
        exact ⟨⟨blocks, bytes, [], bytes, rfl, hsends, hwrites, rfl⟩, by simp⟩
  | cons head behind =>
      have hturn : turn? g (l, e) = none :=
        turn?_none hstep fun j hj => by simpa [hline, hwriters] using hj
      obtain ⟨hcurrent, hwaits⟩ := hstage head behind hwriters
      refine ⟨blocks, ?_, ?_⟩
      · rw [Written, turns_snoc, hturn, acceptedOn_none haccepted, sentOn_none hsent,
          Option.toList_none, List.append_nil]
        exact hwritten
      · intro j behind' hj
        rw [hline, hwriters, List.cons_append] at hj
        obtain ⟨rfl, rfl⟩ := List.cons.inj hj
        refine ⟨hcurrent.keep (hkept _ (by simp [hwriters])), ?_⟩
        intro k hk
        rcases List.mem_append.mp hk with hk | hk
        · exact (hwaits k hk).keep (hkept k (by simp [hwriters, hk]))
        · obtain rfl := List.mem_singleton.mp hk
          exact ⟨bytes, hsends, hwrites⟩

/-- The head of the line writes some bytes. -/
theorem Accounted.accept (haccounted : Accounted h l g) (hstep : Step l e l') {count : Nat}
    (hnodup : (l.writers g).Nodup) (hhead : (l.writers g).head? = some id)
    (hbefore : l.writes? id = some (g, rest)) (hafter : l'.writes? id = some (g, rest.drop count))
    (hsends : l'.sends? id = l.sends? id) (hline : l'.writers g = l.writers g)
    (hkept : ∀ j, j ≠ id → l'.calls.get? j = l.calls.get? j)
    (haccepted : accepted? (l, e) = some (g, rest.take count)) (hsent : sent? (l, e) = none) :
    Accounted (h ++ [(l, e)]) l' g := by
  obtain ⟨blocks, hwritten, hstage⟩ := haccounted
  obtain ⟨behind, hwriters⟩ := List.head?_eq_some_iff.mp hhead
  obtain ⟨⟨settled, bytes, taken, rest', rfl, hbytes, hwrites, hwhole⟩, hwaits⟩ :=
    hstage id behind hwriters
  obtain rfl : rest = rest' := by simpa [hbefore] using hwrites
  have hturn : turn? g (l, e) = none := turn?_none hstep fun j hj => by rwa [hline] at hj
  have htaken : (taken ++ rest.take count) ++ rest.drop count = bytes := by
    rw [List.append_assoc, List.take_append_drop, hwhole]
  have hbytesOn : acceptedOn (h ++ [(l, e)]) g = acceptedOn h g ++ rest.take count := by
    rw [acceptedOn, observedOn_self (a := some (rest.take count)) haccepted, acceptedOn]
    simp
  refine ⟨settled ++ [⟨id, bytes, taken ++ rest.take count, false⟩], ?_, ?_⟩
  · rw [Written, turns_snoc, hturn, hbytesOn, sentOn_none hsent, Option.toList_none,
      List.append_nil]
    exact hwritten.last _ false (htaken ▸ List.prefix_append ..) (by simp)
  · intro j behind' hj
    rw [hline, hwriters] at hj
    obtain ⟨rfl, rfl⟩ := List.cons.inj hj
    refine ⟨⟨settled, bytes, _, rest.drop count, rfl, hsends.trans hbytes, hafter, htaken⟩, ?_⟩
    intro k hk
    rw [hwriters, List.nodup_cons] at hnodup
    refine (hwaits k hk).keep (hkept k ?_)
    rintro rfl
    exact hnodup.1 hk

/-- The head of the line leaves, and the next call comes to write. -/
theorem Accounted.handOver (haccounted : Accounted h l g) (hstep : Step l e l')
    {behind : List CallId} (hwriters : l.writers g = id :: behind) (hnodup : (l.writers g).Nodup)
    (hline : l'.writers g = behind) (hkept : ∀ j, j ≠ id → l'.calls.get? j = l.calls.get? j)
    (haccepted : accepted? (l, e) = none)
    (hsent : sent? (l, e) = none ∨ ∃ g bytes, (l.writers g).head? = some id ∧
      l.writes? id = some (g, []) ∧ l.sends? id = some bytes ∧
      sent? (l, e) = some (g, id, bytes)) : Accounted (h ++ [(l, e)]) l' g := by
  obtain ⟨blocks, hwritten, hstage⟩ := haccounted
  obtain ⟨⟨settled, bytes, taken, rest, rfl, hbytes, hwrites, hwhole⟩, hwaits⟩ :=
    hstage id behind hwriters
  rw [hwriters, List.nodup_cons] at hnodup
  -- The block of the call is closed, as sent or not.
  obtain ⟨flag, hclosed⟩ : ∃ flag, Blocks (turns h g) (acceptedOn h g)
      (sentOn (h ++ [(l, e)]) g) (settled ++ [⟨id, bytes, taken, flag⟩]) := by
    rcases hsent with hsent | ⟨g', bytes', -, hdone, hbytes', hsent⟩
    · refine ⟨false, ?_⟩
      rw [sentOn_none hsent]
      exact hwritten
    · obtain ⟨rfl, rfl⟩ : g = g' ∧ rest = [] := by simpa [hwrites] using hdone
      obtain rfl : bytes = bytes' := by simpa [hbytes] using hbytes'
      rw [List.append_nil] at hwhole
      have hlast := hwritten.last [] true (by simp [hwhole]) (by simp [hwhole])
      rw [List.append_nil, List.append_nil, if_pos rfl] at hlast
      refine ⟨true, ?_⟩
      rw [sentOn, observedOn_self (a := some (id, bytes)) hsent]
      exact hlast
  cases behind with
  | nil =>
      have hturn : turn? g (l, e) = none := turn?_none hstep fun j hj => by simp [hline] at hj
      refine ⟨settled ++ [⟨id, bytes, taken, flag⟩], ?_, fun j more hj => ?_⟩
      · rw [Written, turns_snoc, hturn, acceptedOn_none haccepted, Option.toList_none,
          List.append_nil]
        exact hclosed
      · rw [hline] at hj
        cases hj
  | cons next more =>
      have hne : ∀ j ∈ next :: more, j ≠ id := by
        rintro j hj rfl
        exact hnodup.1 hj
      have hwaits' : ∀ j ∈ next :: more, Waits l' g j :=
        fun j hj => (hwaits j hj).keep (hkept j (hne j hj))
      obtain ⟨bytes', hsends', hwrites'⟩ := hwaits' next List.mem_cons_self
      have hturn : turn? g (l, e) = some (next, bytes') := by
        refine turn?_some hstep (by rw [hline]; rfl) ?_ hsends'
        rw [hwriters]
        exact fun hid => hne next List.mem_cons_self (Option.some.inj hid).symm
      refine ⟨settled ++ [⟨id, bytes, taken, flag⟩] ++ [⟨next, bytes', [], false⟩], ?_, ?_⟩
      · rw [Written, turns_snoc, hturn, acceptedOn_none haccepted]
        exact hclosed.begin next bytes'
      · intro j more' hj
        rw [hline] at hj
        obtain ⟨rfl, rfl⟩ := List.cons.inj hj
        exact ⟨⟨_, bytes', [], bytes', rfl, hsends', hwrites', rfl⟩,
          fun k hk => hwaits' k (List.mem_cons_of_mem _ hk)⟩

/-- A call behind the head leaves. -/
theorem Accounted.giveWay (haccounted : Accounted h l g) (hstep : Step l e l') {head : CallId}
    {behind : List CallId} (hwriters : l.writers g = head :: behind) (hne : head ≠ id)
    (hline : l'.writers g = (l.writers g).erase id)
    (hkept : ∀ j, j ≠ id → l'.calls.get? j = l.calls.get? j) (hnodup : (l.writers g).Nodup)
    (haccepted : accepted? (l, e) = none)
    (hsent : sentOn (h ++ [(l, e)]) g = sentOn h g) : Accounted (h ++ [(l, e)]) l' g := by
  obtain ⟨blocks, hwritten, hstage⟩ := haccounted
  obtain ⟨hcurrent, hwaits⟩ := hstage head behind hwriters
  have hline' : l'.writers g = head :: behind.erase id := by
    rw [hline, hwriters, List.erase_cons_tail (by simpa using hne)]
  have hturn : turn? g (l, e) = none :=
    turn?_none hstep fun j hj => by simpa [hline', hwriters] using hj
  refine ⟨blocks, ?_, ?_⟩
  · rw [Written, turns_snoc, hturn, acceptedOn_none haccepted, hsent, Option.toList_none,
      List.append_nil]
    exact hwritten
  · intro j behind' hj
    rw [hline'] at hj
    obtain ⟨rfl, rfl⟩ := List.cons.inj hj
    refine ⟨hcurrent.keep (hkept _ hne), ?_⟩
    intro k hk
    rw [hwriters, List.nodup_cons] at hnodup
    obtain ⟨hkid, hk⟩ := (hnodup.2.mem_erase_iff).mp hk
    exact (hwaits k hk).keep (hkept k hkid)

/-- **Every step keeps the account of every connection.** -/
theorem Accounted.step (haccounted : Accounted h l g) (hsound : Sound l) (hqueued : Queued l)
    (hsuits : AllSuit l) (hstep : Step l e l') : Accounted (h ++ [(l, e)]) l' g := by
  have hnodup : (l.writers g).Nodup := hqueued.nodup g _
  cases hstep.writeTurn hsound hsuits with
  | quiet writers kept accepted sent =>
      refine haccounted.keep hstep (writers g) ?_ (acceptedOn_none accepted) (sentOn_none sent)
      intro j hj
      obtain ⟨rest, hrest⟩ := hqueued.writes hj
      exact kept j _ hrest
  | join id g' bytes writers kept writes sends accepted sent =>
      have hkept : ∀ j ∈ l.writers g, l'.calls.get? j = l.calls.get? j := by
        intro j hj
        obtain ⟨rest, hrest⟩ := hqueued.writes hj
        exact kept j _ hrest
      by_cases hg : g = g'
      · subst hg
        exact haccounted.join hstep (by rw [writers, if_pos rfl]) hkept writes sends accepted sent
      · exact haccounted.keep hstep (by rw [writers, if_neg hg]) hkept (acceptedOn_none accepted)
          (sentOn_none sent)
  | accept id g' count rest head before after sends writers kept accepted sent =>
      by_cases hg : g = g'
      · subst hg
        exact haccounted.accept hstep hnodup head before after sends (writers g) kept accepted sent
      · refine haccounted.keep hstep (writers g) (fun j hj => kept j ?_) ?_ (sentOn_none sent)
        · -- The call that writes is in no other line.
          rintro rfl
          obtain ⟨rest', hrest⟩ := hqueued.writes hj
          rw [before] at hrest
          cases hrest
          exact hg rfl
        · rw [acceptedOn, observedOn_other (a := some (rest.take count)) accepted hg, acceptedOn]
  | leave id writers kept accepted sent =>
      -- Whoever has sent all was at the head of its line.
      have hsent : (l.writers g).head? ≠ some id → sentOn (h ++ [(l, e)]) g = sentOn h g := by
        intro hhead
        rcases sent with hsent | ⟨g', bytes, hhead', -, -, hsent⟩
        · exact sentOn_none hsent
        · refine observedOn_other (a := some (id, bytes)) hsent ?_ h
          rintro rfl
          exact hhead hhead'
      cases hwriters : l.writers g with
      | nil =>
          refine haccounted.keep hstep (by rw [writers, hwriters]; rfl) (by simp [hwriters])
            (acceptedOn_none accepted) (hsent (by simp [hwriters]))
      | cons head behind =>
          by_cases hid : head = id
          · subst hid
            refine haccounted.handOver hstep hwriters hnodup ?_ kept accepted sent
            rw [writers, hwriters, List.erase_cons_head]
          · exact haccounted.giveWay hstep hwriters hid (writers g) kept hnodup accepted
              (hsent (by simp [hwriters, hid]))

theorem accounted_of_run {connection : ConnectionName} {canDial : Bool} {pause budget : Nat}
    (hrun : (start connection canDial pause budget).run es = some l) (g : Nat) :
    Accounted (history (start connection canDial pause budget) es) l g := by
  refine run_induction (P := fun es l =>
    Accounted (history (start connection canDial pause budget) es) l g) ?_ ?_ hrun
  · refine ⟨[], .none, ?_⟩
    intro id behind hline
    have hmem : id ∈ (start connection canDial pause budget).writers g := by
      rw [hline]
      exact List.mem_cons_self
    obtain ⟨c, -, hcall, -⟩ := (queued_start connection canDial pause budget).served g _ id hmem
    cases hcall
  · intro es e l l' hrun hbefore hstep
    rw [history_snoc hrun]
    exact hbefore.step (sound_of_run hrun) (queued_of_run hrun) (allSuit_of_run hrun) hstep

end TelemetryRelay.Link
