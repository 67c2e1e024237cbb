import TelemetryRelay.Proofs.Node.Stream

/-!
# From bytes to messages

The loop of a bridge whose link cannot dial publishes the messages that the frames of its
stream decode to, each once and in order, and nothing else; frames that decode to nothing
it skips.  The first frame that cannot be read ends the loop, and the bridge is off the
bus then.
-/

namespace TelemetryRelay

open Wire
open Source (Delivers)

namespace Node

/-- All that has come in over a connection: what was there before, and what was written. -/
def stream (n₀ : Node) (c : ConnectionName) (ms : List Move) : Bytes :=
  (n₀.connection c).inbound ++ ms.flatMap (arrives c)

/-- A step of a loop that is not part of a publish. -/
def advances (id : TaskId) : Node × Move → Bool
  | (n, .step i) => i == id && decide (n.depth id ≤ 1) &&
      (n.actionOf? id).all (·.topic? != some .published) &&
      (n.answerOf? id).all (·.topic? != some .published)
  | (_, .outside _) => false

/-- The bridge runs until its loop has left, and is off the bus from then on. -/
structure Serves (n : Node) (loop : Loop) (s : Station) : Prop where
  bridge : n.bridges.get? loop.b = some { loop.bridge with running := !s.isPast }
  bus : s.isPast = true → n.bus.isSubscribed loop.bridge.id = false

/-- What a loop has made of its stream when it stands at a station. -/
structure Pipeline (n₀ : Node) (loop : Loop) (c : ConnectionName) (ms : List Move) (n : Node)
    (s : Station) (w : Nat) : Prop extends Logged n₀ loop ms n s where
  serves : Serves n loop s
  flow : Flow n loop c (stream n₀ c ms) ((history n₀ ms).filterMap (receives? loop.id)) s w
  recent : s.isSpreading = true → ∃ f,
    ((history n₀ ms).filterMap (receives? loop.id)).getLast? = some f ∧
      loop.bridge.table.messageOf? f ≠ none
  bounded : (history n₀ ms).countP (advances loop.id) + w ≤ 9 * (stream n₀ c ms).length + 11

variable {n n' n₀ : Node} {loop : Loop} {c : ConnectionName} {m : Move} {ms : List Move}
  {s s' : Station} {w : Nat} {task : Task} {a : Action} {id : TaskId}

/-! ## The bridge -/

theorem Serves.congr (h : Serves n loop s) (hpast : s'.isPast = s.isPast) : Serves n loop s' := by
  obtain ⟨hbridge, hbus⟩ := h
  rw [← hpast] at hbridge hbus
  exact ⟨hbridge, hbus⟩

/-- Unless its loop leaves or somebody stops it, a bridge is kept as it is. -/
theorem Serves.move (h : Serves n loop s) (hn : Numbered n) (hund : Undisturbed loop c (n, m))
    (hmove : n.move m = some n') (hstops : s.isPast = false → ∀ id a, m = .step id →
      n.actionOf? id = some a → a ≠ .leave loop.b ∧ a ≠ .stop loop.b) : Serves n' loop s := by
  obtain ⟨bridge', hbridge', hbridged⟩ := bridge_move hn hmove h.bridge
  refine ⟨?_, fun hpast => ?_⟩
  · rw [hbridge']
    cases hbridged with
    | same => rfl
    | started => exact absurd rfl (hund.once _)
    | stopped acts ends =>
        cases hpast : s.isPast with
        | true => rfl
        | false =>
            obtain ⟨hleaves, hstops⟩ := hstops hpast _ _ rfl acts
            rcases ends with rfl | rfl
            · exact absurd rfl hleaves
            · exact absurd rfl hstops
  · rw [bus_move hmove]
    exact Bus.isSubscribed_applyAll (h.bus hpast) hund.apart

theorem Serves.beside (h : Serves n loop s) (hn : Numbered n) (hintake : Intake n loop s)
    (hund : Undisturbed loop c (n, m)) (hmove : n.move m = some n') (hother : m ≠ .step loop.id) :
    Serves n' loop s := by
  refine h.move hn hund hmove fun hpast id a hid hacts => ?_
  have hthere : n.tasks.get? loop.id ≠ none := by
    apply hintake.stands.there
    rintro rfl
    cases hpast
  have hne : id ≠ loop.id := fun heq => hother (by rw [hid, heq])
  exact (hund.acts hthere id a hid hne hacts).2.2.2

/-- Only at its end a loop takes its bridge off the bus. -/
theorem Stands.stays_acts (h : Stands n loop s) (hs : s ≠ .leaving)
    (hacts : n.actionOf? loop.id = some a) : a ≠ .leave loop.b ∧ a ≠ .stop loop.b := by
  cases h with
  | gone found => simp [actionOf?, found] at hacts
  | within is found =>
      obtain ⟨acting, -⟩ := actionOf?_eq found hacts
      cases s with
      | leaving => exact absurd rfl hs
      | _ => cases is <;> cases acting <;> exact ⟨by simp, by simp⟩
  | spreading speaking =>
      obtain ⟨rfl, -⟩ := actionOf?_eq speaking.found hacts
      obtain ⟨topic, hspeaks, -⟩ := speaking.chain
      cases hspeaks with
      | acting about => constructor <;> (rintro rfl; cases about)

theorem Serves.step (h : Serves n loop s) (hn : Numbered n) (hstands : Stands n loop s)
    (hund : Undisturbed loop c (n, .step loop.id)) (hstep : n.step loop.id = some n')
    (hturn : Turn n loop s s') : Serves n' loop s' := by
  have hmove : n.move (.step loop.id) = some n' := hstep
  by_cases hs : s = .leaving
  · subst hs
    cases hturn with
    | leaves =>
        cases hstands with
        | within is found =>
            cases is
            obtain ⟨after, next, hact, rfl⟩ := of_step_acting found rfl rfl hstep
            cases hact
            have hbridge := h.bridge
            refine ⟨?_, fun _ => ?_⟩
            · show (n.silence loop.b).bridges.get? loop.b = _
              simp [silence_of_found hbridge, setBus, setRunning, hbridge, Station.isPast]
            · show (n.silence loop.b).bus.isSubscribed loop.bridge.id = false
              rw [silence_of_found hbridge]
              exact Bus.isSubscribed_unsubscribe _ _
  · have hserves : Serves n' loop s := by
      refine h.move hn hund hmove fun _ id a hid hacts => ?_
      cases hid
      exact hstands.stays_acts hs hacts
    refine hserves.congr ?_
    cases hturn <;> first | rfl | exact absurd rfl hs

/-! ## The pipeline -/

theorem stream_snoc (n₀ : Node) (c : ConnectionName) (ms : List Move) (m : Move) :
    stream n₀ c (ms ++ [m]) = stream n₀ c ms ++ arrives c m := by
  simp [stream]

theorem advances_of_other (hother : m ≠ .step id) : advances id (n, m) = false := by
  cases m with
  | outside o => rfl
  | step i =>
      have hne : i ≠ id := fun h => hother (by rw [h])
      simp [advances, hne]

theorem Stands.advances (h : Stands n loop s) (hspreads : s.isSpreading = true) :
    Node.advances loop.id (n, .step loop.id) = false := by
  cases h with
  | gone => cases hspreads
  | within is found =>
      cases s with
      | publishing m =>
          cases is
          simp [Node.advances, actionOf?_of_bare found rfl, Loop.task, Activity.action?, Action.topic?]
      | spreading => cases is
      | _ => cases hspreads
  | @spreading frames activity speaking on =>
      by_cases hdepth : n.depth loop.id ≤ 1
      · have hframes : frames = [] := by
          rw [depth_of_found speaking.found] at hdepth
          simpa [Loop.publisher, Loop.task] using hdepth
        subst hframes
        obtain ⟨topic, hspeaks, hchain⟩ := speaking.chain
        cases hchain
        have hacts := actionOf?_of_bare speaking.found rfl
        have hanswers := answerOf?_of_bare speaking.found rfl
        cases hspeaks with
        | acting about => simp [Node.advances, hacts, Activity.action?, about]
        | replying about => simp [Node.advances, hanswers, Activity.reply?, about]
      · simp [Node.advances, hdepth]

/-- What the others do. -/
theorem Pipeline.beside (h : Pipeline n₀ loop c ms n s w) (hrun : n₀.run ms = some n)
    (hund : Undisturbed loop c (n, m)) (hmove : n.move m = some n') (hother : m ≠ .step loop.id) :
    ∃ w', Pipeline n₀ loop c (ms ++ [m]) n' s w' := by
  obtain ⟨w', hflow, hless⟩ := h.flow.beside h.numbered h.intake hund hmove hother
  have hreceived := received_beside hrun hother
  have hcount : (history n₀ (ms ++ [m])).countP (advances loop.id) =
      (history n₀ ms).countP (advances loop.id) := by
    simp [history_snoc hrun, List.countP_append, advances_of_other hother]
  have hbounded := h.bounded
  refine ⟨w', h.toLogged.beside hrun hmove hother,
    h.serves.beside h.numbered h.intake hund hmove hother, ?_, ?_, ?_⟩
  · rw [hreceived, stream_snoc]
    exact hflow
  · rw [hreceived]
    exact h.recent
  · rw [hcount, stream_snoc, List.length_append]
    omega

/-- What the loop does. -/
theorem Pipeline.step (h : Pipeline n₀ loop c ms n s w) (hrun : n₀.run ms = some n)
    (hund : Undisturbed loop c (n, .step loop.id)) (hstep : n.step loop.id = some n') :
    ∃ s' w', Pipeline n₀ loop c (ms ++ [.step loop.id]) n' s' w' := by
  have hstands := h.intake.stands
  obtain ⟨s', hlogged, hturn⟩ := h.toLogged.step hrun hstep
  have hruns : s.isPast = false →
      n.bridges.get? loop.b = some { loop.bridge with running := true } := by
    intro hpast
    rw [h.serves.bridge, hpast]
    rfl
  obtain ⟨w', hflow, hless⟩ :=
    h.flow.step h.numbered hstands hruns hund hstep hlogged.intake.stands hturn
  have hreceived := received_step hrun hstands
  have hstream : stream n₀ c (ms ++ [.step loop.id]) = stream n₀ c ms :=
    (stream_snoc ..).trans (List.append_nil _)
  refine ⟨s', w', hlogged, h.serves.step h.numbered hstands hund hstep hturn, ?_, ?_, ?_⟩
  · rw [hreceived, hstream]
    exact hflow
  · intro hspreads
    rw [hreceived]
    cases hturn with
    | @takes f m decodes => exact ⟨f, by simp [Station.frame?], by simp [decodes]⟩
    | publishes | spreads =>
        simp only [Station.frame?, Option.toList_none, List.append_nil]
        exact h.recent rfl
    | _ => cases hspreads
  · have hbounded := h.bounded
    have hcount : (history n₀ (ms ++ [.step loop.id])).countP (advances loop.id) ≤
        (history n₀ ms).countP (advances loop.id) + if s.isSpreading then 0 else 1 := by
      rw [history_snoc hrun, List.countP_append, List.countP_singleton]
      cases hspreads : s.isSpreading with
      | true => simp [hstands.advances hspreads]
      | false => split <;> simp
    rw [hstream]
    omega

theorem Pipeline.begin (h : Begins n₀ loop c) : Pipeline n₀ loop c [] n₀ .listening
    (Link.remaining 11 [] (n₀.connection c).inbound) := by
  obtain ⟨pause, budget, hface⟩ := h.link
  have hbridge : n₀.bridges.get? loop.b = some { loop.bridge with running := true } := by
    rw [h.bridge, ← h.running]
  have hattends : Attends n₀ loop.id loop.bridge.transport := by
    intro call hcall
    simp only [call?, link?, hface, Option.bind_some] at hcall
    cases hcall
  have htapped : Tapped n₀ loop c [] :=
    ⟨⟨hattends, _, hface, Link.bound_start c pause budget, fun x call _ h => by cases h⟩,
      h.healthy⟩
  refine ⟨.begin h.numbered h.found h.bridge, ⟨hbridge, by simp [Station.isPast]⟩, ?_,
    by simp [Station.isSpreading], ?_⟩
  · refine .between rfl htapped ?_
    show Reads (stream n₀ c []) [] ([] ++ (n₀.connection c).inbound)
    have hstream : stream n₀ c [] = (n₀.connection c).inbound := List.append_nil _
    rw [hstream]
    exact .nil
  · simp only [stream, Link.remaining, history, Machine.history, List.countP_nil, List.length_append,
      List.flatMap_nil, List.length_nil]
    omega

theorem pipeline_of_run (hbegins : Begins n₀ loop c) (hrun : n₀.run ms = some n)
    (hund : ∀ x ∈ history n₀ ms, Undisturbed loop c x) :
    ∃ s w, Pipeline n₀ loop c ms n s w := by
  refine run_induction (P := fun ms n => (∀ x ∈ history n₀ ms, Undisturbed loop c x) →
    ∃ s w, Pipeline n₀ loop c ms n s w) ?_ ?_ hrun hund
  · exact fun _ => ⟨_, _, .begin hbegins⟩
  · intro ms m before after hrun ih hmove hund
    rw [history_snoc hrun] at hund
    obtain ⟨s, w, h⟩ := ih fun x hx => hund x (List.mem_append_left _ hx)
    have hlast := hund (before, m) (by simp)
    by_cases hown : m = .step loop.id
    · subst hown
      exact h.step hrun hlast hmove
    · obtain ⟨w', h'⟩ := h.beside hrun hlast hmove hown
      exact ⟨s, w', h'⟩

/-! ## Progress -/

/-- Once the remote end has closed, a loop goes on whenever its publish is not held up. -/
theorem Pipeline.goesOn (h : Pipeline n₀ loop c ms n s w)
    (hclosed : (n.connection c).remoteClosed = true) :
    n.tasks.get? loop.id = none ∨ 1 < n.depth loop.id ∨ (n.step loop.id).isSome = true := by
  have hbridge := h.serves.bridge
  have hflow := h.flow
  cases h.intake.stands with
  | gone found => exact .inl found
  | @spreading frames activity speaking on =>
      right
      by_cases hframes : frames = []
      · right
        subst hframes
        obtain ⟨topic, hspeaks, hchain⟩ := speaking.chain
        cases hchain
        cases hspeaks with
        | replying about => exact step_isSome_of_reply speaking.found rfl rfl
        | @acting a _ about =>
            have hopens := on rfl a rfl
            cases a with
            | deliver d => exact step_isSome_of_act speaking.found rfl rfl rfl
            | publish => cases hopens
            | _ => cases about
      · left
        have hpos := List.length_pos_iff.mpr hframes
        rw [depth_of_found speaking.found, List.length_append]
        exact Nat.lt_add_of_pos_left hpos
  | within is found =>
      right; right
      cases s with
      | spreading | gone => cases is
      | answered r =>
          cases is
          exact step_isSome_of_reply found rfl rfl
      | left =>
          cases is
          exact step_isSome_of_reply found rfl rfl
      | publishing m =>
          cases is
          exact step_isSome_of_act found rfl rfl rfl
      | resting =>
          cases is
          exact step_isSome_of_act found rfl rfl rfl
      | leaving =>
          cases is
          exact step_isSome_of_act found rfl rfl rfl
      | listening =>
          cases is
          refine step_isSome_of_act found rfl rfl ?_
          simp [act, listen, hbridge, Station.isPast]
      | asking =>
          cases is
          refine step_isSome_of_act found rfl rfl ?_
          cases hflow with
          | between _ tapped =>
              obtain ⟨l, hlink, -⟩ := tapped.plugged.link?
              obtain ⟨tr, dialer, hget, -⟩ := link?_eq_some.mp hlink
              simp only [act, receive, hget, Option.bind_eq_bind, Option.bind_some]
              split <;> rfl
          | done here => cases here
      | fetching =>
          cases is
          refine step_isSome_of_act found rfl rfl ?_
          cases hflow with
          | between _ tapped =>
              obtain ⟨l, hlink, -⟩ := tapped.plugged.link?
              obtain ⟨tr, dialer, hget, hcarrier⟩ := link?_eq_some.mp hlink
              have hnone := tapped.plugged.attends.none_of found (by simp [Loop.task])
              rw [call?, hlink, Option.bind_some] at hnone
              have hcomes := Link.step_iff.mpr (Link.Step.call hnone : Link.Step l (.call loop.id .receive) _)
              simp [act, fetch, hget, hcarrier, startCall, hcomes]
          | done here => cases here
      | reading =>
          cases is
          refine step_isSome_of_act found rfl rfl ?_
          cases hflow with
          | between here => cases here
          | done here => cases here
          | reading tapped receiving => exact tapped.plugged.goesOn receiving tapped.healthy hclosed

/-! ## The loop of a bridge over a stream -/

/-- **From bytes to messages.** A bridge has just been started over a link that cannot dial,
and nobody interferes with it.  Whatever has come in over the connection, in whatever pieces,
its loop has received what a reader of all these bytes reads frame by frame.  It has
published what these frames decode to, each once and in order, under the id of the bridge,
but for the message that it is just about to publish.  It calls a listener only if the
latest frame decodes.  When the loop is over, all messages are published, the next
frame cannot be read, and the bridge does not run and is not subscribed any more.  And the
loop does come to its end: once the remote end has closed, it can always take a step unless
a publish is held up, and there are only so many steps outside of publishes. -/
theorem inbound_pipeline (hbegins : Begins n₀ loop c) (hrun : n₀.run ms = some n)
    (hund : ∀ x ∈ history n₀ ms, Undisturbed loop c x) {source : Source}
    (hsource : Delivers [] source (stream n₀ c ms)) :
    let received := (history n₀ ms).filterMap (receives? loop.id)
    let published := (history n₀ ms).filterMap (publishes? loop.id)
    let messages := (received.filterMap loop.bridge.table.messageOf?).map loop.publication
    (∀ k (hk : k < received.length), (readFrame (source.after k)).1 = .ok received[k]) ∧
    (published = messages ∨ ∃ m, published ++ [loop.publication m] = messages ∧
      n.actionOf? loop.id = some (.publish (some loop.bridge.id) (some m))) ∧
    (∀ listener m, n.actionOf? loop.id = some (.hand listener m) →
      ∃ f, received.getLast? = some f ∧ loop.bridge.table.messageOf? f ≠ none) ∧
    (n.tasks.get? loop.id = none → published = messages ∧
      (∃ e, (readFrame (source.after received.length)).1 = .error e) ∧
      n.bridges.get? loop.b = some { loop.bridge with running := false } ∧
      n.bus.isSubscribed loop.bridge.id = false) ∧
    ((n.connection c).remoteClosed = true →
      n.tasks.get? loop.id = none ∨ 1 < n.depth loop.id ∨ (n.step loop.id).isSome = true) ∧
    (history n₀ ms).countP (advances loop.id) ≤ 9 * (stream n₀ c ms).length + 11 := by
  intro received published messages
  obtain ⟨s, w, h⟩ := pipeline_of_run hbegins hrun hund
  obtain ⟨rest, hreads⟩ := h.flow.reads
  have hread := (hreads.readFrame hsource).1
  refine ⟨hread, ?_, ?_, ?_, h.goesOn, Nat.le_trans (Nat.le_add_right _ w) h.bounded⟩
  · have hpublished := h.published
    cases hmessage : s.message? with
    | none =>
        rw [hmessage] at hpublished
        exact .inl ((List.append_nil _).symm.trans hpublished)
    | some m =>
        rw [hmessage] at hpublished
        refine .inr ⟨m, hpublished, ?_⟩
        cases h.intake.stands with
        | gone | spreading => cases hmessage
        | within is found =>
            cases s with
            | publishing m' =>
                cases hmessage
                cases is
                exact actionOf?_of_bare found rfl
            | _ => cases hmessage
  · intro listener m hacts
    apply h.recent
    cases h.intake.stands with
    | gone found => simp [actionOf?, found] at hacts
    | spreading => rfl
    | within is found =>
        obtain ⟨acting, -⟩ := actionOf?_eq found hacts
        cases s <;> cases is <;> cases acting
  · intro hgone
    have hs : s = .gone := by
      cases h.intake.stands with
      | gone => rfl
      | within is found => cases hgone.symm.trans found
      | spreading speaking => cases hgone.symm.trans speaking.found
    subst hs
    refine ⟨(List.append_nil _).symm.trans h.published, ?_, h.serves.bridge, h.serves.bus rfl⟩
    cases h.flow with
    | between here => cases here
    | done here reads stops => exact stops.readFrame (reads.readFrame hsource).2

/-! ## Peers -/

/-- A peer that is attached gets a bridge whose loop is about to begin. -/
theorem attach_begins {a : AcceptorId} {acceptor : Acceptor} (hn : Numbered n)
    (room : ¬ acceptor.maxPeers ≤ acceptor.peers.length)
    (healthy : (n.connection c).readFault = none) :
    Begins (n.attach a acceptor c) ⟨n.fresh + 3, n.fresh + 2, n.peerBridge acceptor, none⟩ c := by
  obtain ⟨bridges, hbridges, heq⟩ := attach_eq n a acceptor c room
  have hspares : Spares none n (n.attach a acceptor c) := spares_attach n a acceptor c room
  have hnumbered := hspares.numbered hn
  rw [heq] at hnumbered ⊢
  refine ⟨hnumbered, ?_, (hbridges _).trans (if_pos rfl), rfl, ⟨1000, 0, ?_⟩, healthy⟩
  · simp [Loop.task]
  · simp only [face, peerBridge, Assoc.get?_set_self]
    rfl

/-- A family with a decoder of its own, which refuses nothing but the empty payload. -/
def beacon : Family :=
  .declare "Beacon" [Family.anyMessage] (some fun payload =>
    if payload = [] then .error (.payloadLength "Beacon" 1 0) else .ok (.own payload))

/-- An acceptor whose peers are beacons. -/
def beaconAcceptor : Acceptor :=
  { maxPeers := 1, capacity := 1, table := ⟨[⟨"beacon", 4, beacon, false⟩]⟩ }

/-- A node with an actor that hears everything. -/
def quay : Node where
  bus := Bus.empty.subscribe ⟨9⟩ (.actor "ear") Family.anyMessage
  actors := Assoc.empty.set "ear" { id := ⟨9⟩ }

/-- The loop of the first peer. -/
def peerLoop (acceptor : Acceptor) : Loop := ⟨3, 2, quay.peerBridge acceptor, none⟩

/-- A peer that sends a frame with an unmapped tag, one with a payload that cannot be decoded, a
good one and the beginning of another, in two pieces that tear the first frame. -/
def interrupted : List Move :=
  .outside (.write "peer" [0xFF, 0xFF, 9, 0, 0]) :: List.replicate 7 (.step 3) ++
    [.outside (.write "peer" [9, 0xFF, 0xFF, 4, 0, 0, 4, 0xFF, 0xFF, 4, 1, 1, 0, 6, 0xFF, 0xFF, 4]),
      .outside (.close "peer")] ++ List.replicate 39 (.step 3)

/-- Nothing happens but steps of the loop, and writes of the peer before it closes. -/
def isCalm (x : Node × Move) : Bool :=
  (match x.2 with
    | .step id => id == 3
    | .outside (.write name _) => name == "peer" && !(x.1.connection "peer").remoteClosed
    | .outside (.close name) => name == "peer"
    | .outside _ => false) &&
  x.1.transports.keys == [0] && x.1.hosts.entries.isEmpty &&
  (changes x).all fun change => match change with
    | .subscribe .. => false
    | .unsubscribe _ => true

theorem undisturbed_of_isCalm {acceptor : Acceptor} {x : Node × Move} (h : isCalm x = true) :
    Undisturbed (peerLoop acceptor) "peer" x := by
  obtain ⟨n, m⟩ := x
  simp only [isCalm, Bool.and_eq_true, beq_iff_eq, List.isEmpty_iff, List.all_eq_true] at h
  obtain ⟨⟨⟨hmove, hkeys⟩, hhosts⟩, hchanges⟩ := h
  refine ⟨?_, ?_, ?_, ?_, ?_, ?_⟩
  · rintro - id a rfl hne
    have hid : id = 3 := by simpa using hmove
    exact absurd hid hne
  · rintro label rfl
    cases hmove
  · intro listener type hmem
    cases hchanges _ hmem
  · intro t l g lane hlink
    obtain ⟨tr, dialer, hget, -⟩ := link?_eq_some.mp hlink
    have hmem : t ∈ n.transports.keys := by
      by_contra hnot
      cases (Assoc.get?_eq_none_iff.mpr hnot).symm.trans hget
    rw [hkeys, List.mem_singleton] at hmem
    exact fun _ _ => hmem
  · intro e backlog hknown
    have hnone : n.hosts.get? e = none := Assoc.get?_eq_none_iff.mpr (by simp [Assoc.keys, hhosts])
    cases hnone.symm.trans hknown
  · rintro o rfl hon
    cases o with
    | write name bytes =>
        simp only [Bool.and_eq_true, beq_iff_eq, Bool.not_eq_true'] at hmove
        obtain ⟨rfl, hopen⟩ := hmove
        exact .inl ⟨bytes, rfl, hopen⟩
    | close name =>
        obtain rfl : name = "peer" := by simpa using hmove
        exact .inr (.inl rfl)
    | _ => cases hmove

/-- The frames that the peer has sent. -/
def sentFrames : List Frame :=
  [Frame.make 9 [], Frame.make 4 [], Frame.make 4 [1]].filterMap Except.toOption

/-- Of three frames one is published, the fourth ends the loop. -/
theorem inbound_pipeline_interrupted :
    let n₀ := quay.attach 0 beaconAcceptor "peer"
    ∃ n, n₀.run interrupted = some n ∧
      (history n₀ interrupted).filterMap (receives? 3) = sentFrames ∧
      (history n₀ interrupted).filterMap (publishes? 3) =
        [(some ⟨2⟩, some (.foreign beacon [1]))] ∧
      n.tasks.get? 3 = none ∧ n.bus.isSubscribed ⟨2⟩ = false := by
  intro n₀
  have hn : Numbered quay := ⟨fun _ _ => rfl, fun _ _ => rfl, fun _ _ => rfl, List.nodup_nil⟩
  have hbegins : Begins n₀ (peerLoop beaconAcceptor) "peer" := attach_begins hn (by decide) rfl
  have hends : (n₀.run interrupted).map (fun n => (n.tasks.get? 3).isNone) = some true := by
    decide +kernel
  obtain ⟨n, hrun, hgone⟩ := Option.map_eq_some_iff.mp hends
  have hgone : n.tasks.get? 3 = none := Option.isNone_iff_eq_none.mp hgone
  have hcalm : (history n₀ interrupted).all isCalm = true := by decide +kernel
  have hund : ∀ x ∈ history n₀ interrupted, Undisturbed (peerLoop beaconAcceptor) "peer" x :=
    fun x hx => undisturbed_of_isCalm (List.all_eq_true.mp hcalm x hx)
  have hreceived : (history n₀ interrupted).filterMap (receives? 3) = sentFrames := by
    decide +kernel
  have hsource : Delivers [] [.bytes (stream n₀ "peer" interrupted)]
      (stream n₀ "peer" interrupted) := by
    have hchunk : Delivers [] [.bytes (stream n₀ "peer" interrupted)]
        (stream n₀ "peer" interrupted ++ []) := .chunk (by decide) .done
    rwa [List.append_nil] at hchunk
  obtain ⟨-, -, -, hover, -⟩ := inbound_pipeline hbegins hrun hund hsource
  obtain ⟨hpublished, -, -, hbus⟩ := hover hgone
  have hreceived' :
      (history n₀ interrupted).filterMap (receives? (peerLoop beaconAcceptor).id) = sentFrames :=
    hreceived
  rw [hreceived'] at hpublished
  exact ⟨n, hrun, hreceived, hpublished, hgone, hbus⟩

end Node

end TelemetryRelay
