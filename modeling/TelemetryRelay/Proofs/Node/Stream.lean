import TelemetryRelay.Proofs.Node.Reader

/-!
# Where a loop stands in its stream

A bridge whose link cannot dial takes in one stream of bytes, as the remote end of its
connection writes it.  `Flow` says how much of the stream its loop has read, and how many
steps it still has to go at most; what others do, and what the loop does itself, keeps it
so.
-/

namespace TelemetryRelay

open Wire

/-- What the remote end of a connection writes with this move. -/
def arrives (c : ConnectionName) : Move → Bytes
  | .outside (.write name bytes) => if name = c then bytes else []
  | _ => []

namespace Station

/-- How many steps it is from here to the end at most, if nothing more is received. -/
def steps : Station → Nat
  | .answered (.ok _) => 12
  | .asking => 10
  | .fetching => 9
  | .answered (.error _) => 3
  | .leaving => 2
  | .left => 1
  | .gone => 0
  | _ => 11

/-- Between two frames. -/
def isBetween : Station → Bool
  | .listening | .asking | .fetching | .publishing _ | .spreading => true
  | _ => false

/-- Behind the last frame. -/
def isOver : Station → Bool
  | .leaving | .left | .gone => true
  | _ => false

/-- Off the bus. -/
def isPast : Station → Bool
  | .left | .gone => true
  | _ => false

def isSpreading : Station → Bool
  | .publishing _ | .spreading => true
  | _ => false

end Station

namespace Node

/-- The loop of a bridge is about to begin, over a fresh link that cannot dial. -/
structure Begins (n : Node) (loop : Loop) (c : ConnectionName) : Prop where
  numbered : Numbered n
  found : n.tasks.get? loop.id = some (loop.task (.acting (.listen loop.b)) [])
  bridge : n.bridges.get? loop.b = some loop.bridge
  running : loop.bridge.running = true
  link : ∃ pause budget, n.face loop.bridge.transport =
    some ⟨some (.start c false pause budget), false⟩
  healthy : (n.connection c).readFault = none

/-- A move that leaves the bridge to its loop, and the connection to its link. -/
structure Undisturbed (loop : Loop) (c : ConnectionName) (x : Node × Move) : Prop where
  /-- Nobody else receives over the transport, terminates it or stops the bridge meanwhile. -/
  acts : x.1.tasks.get? loop.id ≠ none → ∀ id a, x.2 = .step id → id ≠ loop.id →
    x.1.actionOf? id = some a → a ≠ .fetch loop.bridge.transport ∧
      a ≠ .hangUp loop.bridge.transport ∧ a ≠ .terminate loop.bridge.transport ∧
      a ≠ .leave loop.b ∧ a ≠ .stop loop.b
  once : ∀ label, x.2 ≠ .outside (.startBridge loop.b label)
  /-- Nobody else subscribes under the id of the bridge. -/
  apart : ∀ listener type, .subscribe loop.bridge.id listener type ∉ changes x
  alone : ∀ t l g lane, x.1.link? t = some l → l.lanes.get? g = some lane →
    lane.connection = c → t = loop.bridge.transport
  unnamed : ∀ e backlog, x.1.hosts.get? e = some backlog → c ≠ s!"{e.render} #{x.1.fresh}"
  /-- The remote end writes until it closes. -/
  remote : ∀ o, x.2 = .outside o → o.connection? = some c →
    (∃ bytes, o = .write c bytes ∧ (x.1.connection c).remoteClosed = false) ∨ o = .close c ∨
      (∃ count, o = .credit c count) ∨ ∃ e, o = .failWrites c e

/-- The link of the loop is on its connection, and the connection is all right. -/
structure Tapped (n : Node) (loop : Loop) (c : ConnectionName) (unread : Bytes) : Prop where
  plugged : Plugged n loop.id loop.bridge.transport 1 c unread
  healthy : (n.connection c).readFault = none

/-- Where a loop stands in the stream `b` after it has received the frames `fs`, and what it
still has to do at most. -/
inductive Flow (n : Node) (loop : Loop) (c : ConnectionName) (b : Bytes) (fs : List Frame) :
    Station → Nat → Prop
  | between {s : Station} {unread : Bytes} (here : s.isBetween = true)
      (tapped : Tapped n loop c unread)
      (reads : Reads b fs (unread ++ (n.connection c).inbound)) :
      Flow n loop c b fs s (Link.remaining s.steps unread (n.connection c).inbound)
  | reading {call : Link.Call} {unread : Bytes} (tapped : Tapped n loop c unread)
      (receiving : Receiving n loop.id loop.bridge.transport 1 call)
      (position : Link.Position b fs ((n.connection c).remoteClosed = true) call.phase
        (unread ++ (n.connection c).inbound)) :
      Flow n loop c b fs .reading
        (Link.remaining call.phase.weight unread (n.connection c).inbound)
  | answered {f : Frame} {unread : Bytes} (tapped : Tapped n loop c unread)
      (reads : Reads b (fs ++ [f]) (unread ++ (n.connection c).inbound)) :
      Flow n loop c b fs (.answered (.ok f))
        (Link.remaining 12 unread (n.connection c).inbound)
  | failed {e : LinkError} {rest unread : Bytes} (tapped : Tapped n loop c unread)
      (reads : Reads b fs rest) (stops : Stops ((n.connection c).remoteClosed = true) rest) :
      Flow n loop c b fs (.answered (.error e)) 3
  | done {s : Station} {rest : Bytes} (here : s.isOver = true) (reads : Reads b fs rest)
      (stops : Stops ((n.connection c).remoteClosed = true) rest) : Flow n loop c b fs s s.steps

variable {n n' n₀ : Node} {loop : Loop} {c : ConnectionName} {b unread : Bytes} {fs : List Frame}
  {m : Move} {ms : List Move} {s s' : Station} {w : Nat} {id : TaskId} {call : Link.Call}
  {task : Task}

/-! ## The connection -/

theorem Undisturbed.hears {o : Occurrence} (h : Undisturbed loop c (n, .outside o)) :
    ((n.occur o).connection c).inbound = (n.connection c).inbound ++ arrives c (.outside o) ∧
    ((n.occur o).connection c).readFault = (n.connection c).readFault ∧
    ((n.connection c).remoteClosed = true →
      ((n.occur o).connection c).remoteClosed = true ∧ arrives c (.outside o) = []) := by
  by_cases hon : o.connection? = some c
  · rcases h.remote o rfl hon with ⟨bytes, rfl, hopen⟩ | rfl | ⟨count, rfl⟩ | ⟨e, rfl⟩
    all_goals
      simp only [occur, onConnection, connection_setConnection, if_true, arrives, List.append_nil]
    · refine ⟨trivial, trivial, fun hclosed => ?_⟩
      cases hopen.symm.trans hclosed
    · exact ⟨trivial, trivial, fun _ => ⟨trivial, trivial⟩⟩
    · exact ⟨trivial, trivial, fun hclosed => ⟨hclosed, trivial⟩⟩
    · exact ⟨trivial, trivial, fun hclosed => ⟨hclosed, trivial⟩⟩
  · have hsame := ((Occurs.of_occur n o).inflow c).resolve_right hon
    simp only [Connection.inflow, Connection.Inflow.mk.injEq] at hsame
    obtain ⟨hinbound, hclosed, hfault⟩ := hsame
    have harrives : arrives c (.outside o) = [] := by
      cases o with
      | write name bytes =>
          have hne : name ≠ c := fun heq => hon (by rw [heq]; rfl)
          simp [arrives, hne]
      | _ => rfl
    rw [hinbound, hclosed, hfault, harrives, List.append_nil]
    exact ⟨rfl, rfl, fun h => ⟨h, rfl⟩⟩

/-- A step changes what is to be read only by a call that reads on the link of the loop. -/
theorem Undisturbed.inflow_step (h : Undisturbed loop c (n, .step id)) (hstep : n.step id = some n') :
    (n'.connection c).inflow = (n.connection c).inflow ∨
      (Draws n n' c ∧ ∃ call g seen progress, n.call? loop.bridge.transport id = some call ∧
        call.phase = .working g seen (.reading progress)) := by
  rcases inflow_move (m := .step id) hstep c with hsame | htouches
  · exact .inl hsame
  · cases htouches with
    | reads acts link under phase found on draws =>
        obtain rfl := h.alone _ _ _ _ link found on
        exact .inr ⟨draws, _, _, _, _, by rw [call?, link]; exact under, phase⟩
    | dials known called => exact absurd called (h.unnamed _ _ known)

/-- Once the remote end has closed nothing more comes in. -/
theorem Undisturbed.closed (h : Undisturbed loop c (n, m)) (hmove : n.move m = some n')
    (hclosed : (n.connection c).remoteClosed = true) :
    (n'.connection c).remoteClosed = true ∧ arrives c m = [] := by
  cases m with
  | outside o =>
      cases hmove
      exact h.hears.2.2 hclosed
  | step id =>
      refine ⟨?_, rfl⟩
      rcases h.inflow_step hmove with hsame | ⟨⟨hsame, -⟩, -⟩
      · exact (congrArg Connection.Inflow.remoteClosed hsame).trans hclosed
      · exact hsame.trans hclosed

theorem Tapped.inflow (h : Tapped n loop c unread) (hund : Undisturbed loop c (n, m))
    (hmove : n.move m = some n')
    (hidle : m = .step loop.id → ∀ call, n.call? loop.bridge.transport loop.id = some call →
      call.Suits ∧ ∃ bytes, call.job = .send bytes) :
    (n'.connection c).inbound = (n.connection c).inbound ++ arrives c m ∧
      (n'.connection c).readFault = none := by
  cases m with
  | outside o =>
      cases hmove
      obtain ⟨hinbound, hfault, -⟩ := hund.hears
      exact ⟨hinbound, hfault.trans h.healthy⟩
  | step id =>
      have hsame : (n'.connection c).inflow = (n.connection c).inflow := by
        refine (hund.inflow_step hmove).resolve_right ?_
        rintro ⟨-, call, g, seen, progress, hcall, hphase⟩
        have hsends : call.Suits ∧ ∃ bytes, call.job = .send bytes := by
          by_cases hown : id = loop.id
          · subst hown
            exact hidle rfl call hcall
          · obtain ⟨l, hlink, -, hsending⟩ := h.plugged.link?
            rw [call?, hlink, Option.bind_some] at hcall
            exact hsending id call hown hcall
        obtain ⟨hsuits, bytes, hjob⟩ := hsends
        cases hjob.symm.trans (hsuits.reads hphase)
      simp only [Connection.inflow, Connection.Inflow.mk.injEq] at hsame
      obtain ⟨hinbound, -, hfault⟩ := hsame
      exact ⟨hinbound.trans (List.append_nil _).symm, hfault.trans h.healthy⟩

theorem Tapped.beside (h : Tapped n loop c unread) (hn : Numbered n) (hintake : Intake n loop s)
    (there : n.tasks.get? loop.id ≠ none) (hund : Undisturbed loop c (n, m))
    (hmove : n.move m = some n') (hother : m ≠ .step loop.id) :
    Tapped n' loop c unread ∧
      (n'.connection c).inbound = (n.connection c).inbound ++ arrives c m := by
  obtain ⟨hinbound, hfault⟩ := h.inflow hund hmove fun hown => absurd hown hother
  refine ⟨⟨h.plugged.beside hn hintake.known (fun task => hintake.stands.bare) hmove hother ?_,
    hfault⟩, hinbound⟩
  intro x a hx hacts
  have hne : x ≠ loop.id := fun heq => hother (by rw [hx, heq])
  obtain ⟨hfetch, hhangs, hterminates, -⟩ := hund.acts there x a hx hne hacts
  exact ⟨hfetch, hhangs, hterminates⟩

/-- What the loop does itself, as long as it does not receive over the link. -/
theorem Tapped.own (h : Tapped n loop c unread) (hn : Numbered n)
    (found : n.tasks.get? loop.id = some task) (bare : task.outbox = none)
    (hund : Undisturbed loop c (n, .step loop.id)) (hstep : n.step loop.id = some n')
    (hacts : ∀ a, task.activity = .acting a → a ≠ .hangUp loop.bridge.transport ∧
      a ≠ .terminate loop.bridge.transport ∧
      (a = .onLink loop.bridge.transport → n.Sends loop.id loop.bridge.transport)) :
    Tapped n' loop c unread ∧ (n'.connection c).inbound = (n.connection c).inbound := by
  have hinflow := h.inflow hund (m := .step loop.id) hstep ?_
  · obtain ⟨hinbound, hfault⟩ := hinflow
    exact ⟨⟨h.plugged.own hn found bare hstep hacts, hfault⟩,
      hinbound.trans (List.append_nil _)⟩
  · intro _ call hcall
    obtain ⟨task', found', hon⟩ := h.plugged.attends call hcall
    cases found.symm.trans found'
    obtain ⟨call', bytes, hcall', hjob, hsuits⟩ := (hacts _ hon).2.2 rfl
    cases hcall.symm.trans hcall'
    exact ⟨hsuits, bytes, hjob⟩

/-! ## The stream -/

theorem Stands.there (h : Stands n loop s) (hs : s ≠ .gone) : n.tasks.get? loop.id ≠ none := by
  cases h with
  | within is found => simp [found]
  | spreading speaking => simp [speaking.found]
  | gone => exact absurd rfl hs

theorem Flow.reads (h : Flow n loop c b fs s w) : ∃ rest, Reads b fs rest := by
  cases h with
  | between here tapped reads => exact ⟨_, reads⟩
  | reading tapped receiving position => exact position.reads
  | answered tapped reads => exact reads.init
  | failed tapped reads stops => exact ⟨_, reads⟩
  | done here reads stops => exact ⟨_, reads⟩

/-- What the others do leaves the loop where it is; it may get more to read. -/
theorem Flow.beside (h : Flow n loop c b fs s w) (hn : Numbered n) (hintake : Intake n loop s)
    (hund : Undisturbed loop c (n, m)) (hmove : n.move m = some n') (hother : m ≠ .step loop.id) :
    ∃ w', Flow n' loop c (b ++ arrives c m) fs s w' ∧ w' ≤ w + 9 * (arrives c m).length := by
  have hclosed : (n.connection c).remoteClosed = true → (n'.connection c).remoteClosed = true :=
    fun h => (hund.closed hmove h).1
  have hends : (n.connection c).remoteClosed = true → arrives c m = [] :=
    fun h => (hund.closed hmove h).2
  have htapped : s ≠ .gone → ∀ unread, Tapped n loop c unread → Tapped n' loop c unread ∧
      (n'.connection c).inbound = (n.connection c).inbound ++ arrives c m :=
    fun hs unread h => h.beside hn hintake (hintake.stands.there hs) hund hmove hother
  cases h with
  | @between _ unread here tapped reads =>
      obtain ⟨tapped', hinbound⟩ := htapped (by rintro rfl; cases here) unread tapped
      refine ⟨_, .between here tapped' ?_, ?_⟩
      · rw [hinbound, ← List.append_assoc]
        exact reads.append _
      · exact Nat.le_of_eq (by rw [hinbound, Link.remaining_append])
  | @reading call unread tapped receiving position =>
      obtain ⟨tapped', hinbound⟩ := htapped (by simp) unread tapped
      refine ⟨_, .reading tapped' ⟨?_, receiving.job, receiving.suits, receiving.lane⟩ ?_, ?_⟩
      · rw [call?_move hn hmove (tapped.plugged.lt hn) hother]
        exact receiving.under
      · rw [hinbound, ← List.append_assoc]
        exact position.append hclosed hends
      · exact Nat.le_of_eq (by rw [hinbound, Link.remaining_append])
  | @answered f unread tapped reads =>
      obtain ⟨tapped', hinbound⟩ := htapped (by simp) unread tapped
      refine ⟨_, .answered tapped' ?_, ?_⟩
      · rw [hinbound, ← List.append_assoc]
        exact reads.append _
      · exact Nat.le_of_eq (by rw [hinbound, Link.remaining_append])
  | @failed e rest unread tapped reads stops =>
      obtain ⟨tapped', -⟩ := htapped (by simp) unread tapped
      exact ⟨3, .failed tapped' (reads.append _) ((stops.append hends).mono hclosed),
        Nat.le_add_right _ _⟩
  | done here reads stops =>
      exact ⟨_, .done here (reads.append _) ((stops.append hends).mono hclosed),
        Nat.le_add_right _ _⟩

/-- What a loop does itself, apart from calls that receive. -/
theorem Stands.own_acts (h : Stands n loop s) (hs : s ≠ .reading)
    (found : n.tasks.get? loop.id = some task) {a : Action} (acting : task.activity = .acting a) :
    a ≠ .hangUp loop.bridge.transport ∧ a ≠ .terminate loop.bridge.transport ∧
      (a = .onLink loop.bridge.transport → n.Sends loop.id loop.bridge.transport) := by
  cases h with
  | gone found' => cases found.symm.trans found'
  | within is found' =>
      cases found.symm.trans found'
      cases s with
      | reading => exact absurd rfl hs
      | _ => cases is <;> cases acting <;> exact ⟨by simp, by simp, by simp⟩
  | spreading speaking =>
      cases found.symm.trans speaking.found
      cases acting
      obtain ⟨topic, hspeaks, -⟩ := speaking.chain
      cases hspeaks with
      | acting about sends =>
          refine ⟨?_, ?_, fun hon => sends _ hon⟩
          · rintro rfl
            cases about
          · rintro rfl
            cases about

/-- A call that has ended leaves its task with what it has received. -/
theorem Flow.collect {outcome : Link.Outcome} {r : Except LinkError Frame}
    (tapped : Tapped n' loop c unread) (receiving : Receiving n loop.id loop.bridge.transport 1 call)
    (hinflow : (n'.connection c).inflow = (n.connection c).inflow)
    (position : Link.Position b fs ((n.connection c).remoteClosed = true) call.phase
      (unread ++ (n.connection c).inbound)) (phase : call.phase = .done outcome)
    (hreply : replyOf call = .received r) :
    ∃ w', Flow n' loop c b fs (.answered r) w' ∧
      w' < Link.remaining call.phase.weight unread (n.connection c).inbound := by
  simp only [Connection.inflow, Connection.Inflow.mk.injEq] at hinflow
  obtain ⟨hinbound, hclosed, -⟩ := hinflow
  rw [phase] at position ⊢
  rw [replyOf, phase, receiving.job] at hreply
  cases outcome with
  | sent => cases hreply
  | received f =>
      cases hreply
      refine ⟨_, .answered tapped ?_, ?_⟩
      · rw [hinbound]
        exact position.of_got
      · rw [hinbound]
        simp only [Link.remaining, Link.Phase.weight]
        omega
  | failed e =>
      cases hreply
      obtain ⟨rest, reads, stops⟩ := position.of_stopped (.inr ⟨e, rfl⟩)
      rw [← hclosed] at stops
      refine ⟨3, .failed tapped reads stops, ?_⟩
      simp only [Link.remaining, Link.Phase.weight]
      omega

/-- **A loop goes on in the stream**, and has less to do then, unless it publishes. -/
theorem Flow.step (h : Flow n loop c b fs s w) (hn : Numbered n) (hstands : Stands n loop s)
    (runs : s.isPast = false → n.bridges.get? loop.b = some { loop.bridge with running := true })
    (hund : Undisturbed loop c (n, .step loop.id)) (hstep : n.step loop.id = some n')
    (hstands' : Stands n' loop s') (hturn : Turn n loop s s') :
    ∃ w', Flow n' loop c b (fs ++ s.frame?.toList) s' w' ∧
      w' + (if s.isSpreading then 0 else 1) ≤ w := by
  obtain ⟨task, found⟩ : ∃ task, n.tasks.get? loop.id = some task := by
    cases Step.of_step hstep <;> exact ⟨_, by assumption⟩
  have bare := hstands.bare found
  have htapped : s ≠ .reading → ∀ unread, Tapped n loop c unread → Tapped n' loop c unread ∧
      (n'.connection c).inbound = (n.connection c).inbound :=
    fun hs unread h => h.own hn found bare hund hstep fun a ha => hstands.own_acts hs found ha
  cases h with
  | @between _ unread here tapped reads =>
      obtain ⟨tapped', hinbound⟩ := htapped (by rintro rfl; cases here) unread tapped
      have hgoes : s'.isBetween = true → s.frame? = none → ∃ w', Flow n' loop c b
          (fs ++ s.frame?.toList) s' w' ∧ w' = Link.remaining s'.steps unread (n.connection c).inbound := by
        intro here' hframe
        rw [hframe, Option.toList_none, List.append_nil]
        refine ⟨_, .between here' tapped' ?_, ?_⟩
        · rw [hinbound]
          exact reads
        · rw [hinbound]
      have hoff : n.link? loop.bridge.transport ≠ none := by
        obtain ⟨l, hlink, -⟩ := tapped.plugged.link?
        simp [hlink]
      cases hturn with
      | stops halted =>
          cases (runs rfl).symm.trans halted
      | refused face shut =>
          obtain ⟨l, hface, -⟩ := tapped.plugged.link
          cases hface.symm.trans face
          cases shut
      | waits off | fetches off => exact absurd off hoff
      | listens | asks | publishes | spreads | returns =>
          obtain ⟨w', hflow, rfl⟩ := hgoes rfl rfl
          refine ⟨_, hflow, ?_⟩
          simp only [Link.remaining, Station.steps, Station.isSpreading, if_true, Bool.false_eq_true,
            if_false]
          omega
      | calls =>
          cases hstands with
          | within is found' =>
              cases is
              obtain ⟨hplugged, hreceiving⟩ := tapped.plugged.fetch hn found' rfl rfl hstep
              refine ⟨_, .reading tapped' hreceiving (.before (.inl rfl) ?_), ?_⟩
              · rw [hinbound]
                simpa [Station.frame?] using reads
              · rw [hinbound]
                simp only [Link.remaining, Station.steps, Link.Phase.weight, Station.isSpreading,
                  Bool.false_eq_true, if_false]
                omega
      | goesOn | collects | takes | skips | rests | fails | resumes | leaves | ends => cases here
  | @reading call unread tapped receiving position =>
      cases hstands with
      | within is found' =>
          cases is
          have hframe : fs ++ Station.reading.frame?.toList = fs := List.append_nil fs
          rw [hframe]
          rcases tapped.plugged.read hn found' rfl rfl receiving tapped.healthy hstep with
            ⟨outcome, hdone, hreplying, hplugged, hinflow⟩ |
              ⟨e, phase, unread', hadvance, hgoes, hreceiving, hplugged, hanswers, hclosed, hfault⟩
          · have hhealthy : (n'.connection c).readFault = none :=
              (congrArg Connection.Inflow.readFault hinflow).trans tapped.healthy
            cases hturn with
            | goesOn =>
                cases hstands' with
                | within is' found'' =>
                    cases is'
                    cases hreplying.symm.trans found''
            | @collects r =>
                cases hstands' with
                | within is' found'' =>
                    cases is'
                    have hreply : replyOf call = .received r := by
                      have htask := Option.some.inj (hreplying.symm.trans found'')
                      have hactivity := congrArg Task.activity htask
                      exact Activity.replying.inj hactivity
                    obtain ⟨w', hflow, hless⟩ :=
                      Flow.collect ⟨hplugged, hhealthy⟩ receiving hinflow position hdone hreply
                    exact ⟨w', hflow, hless⟩
          · cases hturn with
            | collects =>
                cases hstands' with
                | within is' found'' =>
                    cases is'
                    cases hgoes.symm.trans found''
            | goesOn =>
                refine ⟨_, .reading ⟨hplugged, hfault⟩ hreceiving ?_, hadvance.remaining hanswers⟩
                rw [hclosed]
                exact position.advance hadvance hanswers
  | @answered f unread tapped reads =>
      obtain ⟨tapped', hinbound⟩ := htapped (by simp) unread tapped
      rw [← hinbound] at reads
      cases hturn with
      | takes decodes =>
          refine ⟨_, .between rfl tapped' reads, ?_⟩
          rw [hinbound]
          simp only [Link.remaining, Station.steps, Station.isSpreading, Bool.false_eq_true, if_false]
          omega
      | skips decodes =>
          refine ⟨_, .between rfl tapped' reads, ?_⟩
          rw [hinbound]
          simp only [Link.remaining, Station.steps, Station.isSpreading, Bool.false_eq_true, if_false]
          omega
  | @failed e rest unread tapped reads stops =>
      have hclosed : (n.connection c).remoteClosed = true → (n'.connection c).remoteClosed = true :=
        fun h => (hund.closed (m := .step loop.id) hstep h).1
      cases hturn with
      | rests recovers =>
          obtain ⟨l, hlink, hbound, -⟩ := tapped.plugged.link?
          cases hbound.stuck.symm.trans (recovers l hlink)
      | fails =>
          refine ⟨_, .done rfl ?_ (stops.mono hclosed), Nat.le_refl _⟩
          simpa [Station.frame?] using reads
  | @done _ rest here reads stops =>
      have hclosed : (n.connection c).remoteClosed = true → (n'.connection c).remoteClosed = true :=
        fun h => (hund.closed (m := .step loop.id) hstep h).1
      have hframe : fs ++ s.frame?.toList = fs := by
        cases s <;> first | exact List.append_nil fs | cases here
      rw [hframe]
      cases hturn with
      | leaves => exact ⟨_, .done rfl reads (stops.mono hclosed), Nat.le_refl _⟩
      | ends => exact ⟨_, .done rfl reads (stops.mono hclosed), Nat.le_refl _⟩
      | _ => cases here

end Node

end TelemetryRelay
