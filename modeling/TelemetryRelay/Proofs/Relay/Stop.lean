import TelemetryRelay.Proofs.Relay.Possession

/-!
# What a stop leaves

However far a start has got, and whatever has happened since, a stop takes all bridges of the relay
and of its peers off the bus, and nobody else.
-/

namespace TelemetryRelay

namespace Relay

/-! ## The life of a relay -/

/-- The stages of a start. -/
inductive Stage where
  | tcp
  | udp
  | uplink

def Stage.start : Stage → Relay → Node → Started
  | .tcp => startTcp
  | .udp => startUdp
  | .uplink => startUplink

/-- The service of the stage is not there yet. -/
def Stage.Vacant (r : Relay) : Stage → Prop
  | .tcp => r.tcp = none
  | .udp => r.udp = none
  | .uplink => r.uplink = none

/-- A start goes through them in this order. -/
def stages : List Stage := [.tcp, .udp, .uplink]

/-- The stop begins, as a task of its own. -/
def Started.stopping (s : Started) (label : Option String) : Started :=
  { s with node := s.node.occur (.begin s.relay.stop.1 label) }

/-- What has become of a relay that has been made.  Its start goes through the stages that are
`left` until one of them fails, and with `stops` its stop begins, whether the start has come to its
end or not.  In between and afterwards the node makes any moves with which nobody else deals with
what the relay has, and other things may be set up on it.  `asked` is what the moves have asked of
the bus, and `peers` are those that the relay has attached. -/
inductive Life (r : Relay) (n : Node) :
    Option TaskId → List Stage → Started → List (Bus.Change Listener) → List Loop → Prop
  | made : Life r n none stages ⟨r, n, none⟩ [] []
  | stage {stage : Stage} {left : List Stage} {s : Started} {asked : List (Bus.Change Listener)}
      {peers : List Loop} (before : Life r n none (stage :: left) s asked peers) :
      Life r n none left (s.andThen stage.start) asked peers
  | moves {stopper : Option TaskId} {left : List Stage} {s : Started}
      {asked : List (Bus.Change Listener)} {peers : List Loop} {m : Move} {n' : Node}
      (before : Life r n stopper left s asked peers) (move : s.node.move m = some n')
      (aloof : s.relay.Aloof peers s.node m) :
      Life r n stopper left { s with node := n' } (asked ++ Node.changes (s.node, m))
        (peers ++ (s.relay.attaches? (s.node, m)).toList)
  | joins {stopper : Option TaskId} {left : List Stage} {s : Started}
      {asked : List (Bus.Change Listener)} {peers : List Loop} {n' : Node}
      (before : Life r n stopper left s asked peers) (furnishes : Node.Furnishes s.node n') :
      Life r n stopper left { s with node := n' } asked peers
  | stops {left : List Stage} {s : Started} {asked : List (Bus.Change Listener)}
      {peers : List Loop} {label : Option String} (before : Life r n none left s asked peers) :
      Life r n (some s.node.fresh) [] (s.stopping label) asked peers

/-- A start with which nothing interferes goes through the stages at once. -/
theorem Life.of_start (r : Relay) (n : Node) : Life r n none [] (r.start n) [] [] :=
  .stage (.stage (.stage .made))

variable {logger : ListenerId} {stopper : Option TaskId} {r : Relay}
  {asked cs : List (Bus.Change Listener)} {peers : List Loop} {n n₀ n' : Node} {id : TaskId}
  {left : List Stage} {s : Started} {ms : List Move} {settings : Settings} {services : Services}
  {b : BridgeId} {loop : Loop}

/-- A relay that has been made has its logger on the bus, and nothing else. -/
theorem kept_of_make (hroster : Node.Roster cs n₀) (hgrounded : Node.Grounded n₀)
    (hmake : make settings services n₀ = .ok (r, n)) :
    Kept ⟨n₀.fresh⟩ none r cs [] n ∧ ∀ stage, Stage.Vacant r stage := by
  unfold make at hmake
  rcases htable : MappingTable.build .standard settings.mappings with e | table
  · rw [htable] at hmake
    cases hmake
  rw [htable] at hmake
  obtain ⟨rfl, rfl⟩ := Prod.mk.inj (Except.ok.inj hmake)
  have hdraws := Node.furnishes_draw n₀
  have hn := hroster.named.numbered
  have hsigned : Node.Signed n₀.draw.2 (.subscribe ⟨n₀.fresh⟩ .logger Family.anyMessage) :=
    .other rfl (Nat.lt_succ_self _) (hn.bridges _ (Nat.le_refl _))
  have hunknown : n₀.bus.isSubscribed ⟨n₀.fresh⟩ = false := by
    rw [Bool.eq_false_iff]
    intro hsubscribed
    obtain ⟨s, hs, hid⟩ := Bus.isSubscribed_iff.mp hsubscribed
    exact absurd (hroster.lt_of_subscribed hs) (by rw [hid]; exact Nat.lt_irrefl _)
  have hapart : ∀ b bridge, n₀.draw.2.bridges.get? b = some bridge →
      (⟨n₀.fresh⟩ : ListenerId) ≠ ⟨b⟩ := by
    intro b bridge found hid
    obtain rfl : n₀.fresh = b := congrArg ListenerId.number hid
    exact absurd (hn.lt_of_bridge found) (Nat.lt_irrefl _)
  have hasks := (hroster.furnishes hdraws).asks (List.forall_mem_singleton.mpr hsigned)
    (List.forall_mem_singleton.mpr hapart)
  refine ⟨⟨⟨_, hasks, ?_⟩, ?_, ?_, nofun, nofun, fun _ => rfl, nofun⟩, ?_⟩
  · rw [Bus.besides_append, besides_logger, List.append_nil]
  · have hdrawn := hgrounded.grows hdraws.toGrows
    exact ⟨hdrawn.acceptors, hdrawn.plans⟩
  · refine ⟨Nat.lt_succ_self _, ?_, hn.bridges _ (Nat.le_refl _), ?_⟩
    · simp [Node.setBus, Bus.subscribe, hunknown]
    · intro name actor found hid
      exact absurd (hroster.named.actors name actor found).1 (by rw [hid]; exact Nat.lt_irrefl _)
  · intro stage
    cases stage <;> rfl

/-- One stage sets up one service. -/
theorem Stage.vacant_start {stage stage' : Stage} (hother : stage' ≠ stage)
    (h : stage'.Vacant r) : stage'.Vacant (stage.start r n).relay := by
  cases stage with
  | tcp =>
      have hstage : TcpStage r n (Stage.tcp.start r n) := startTcp_stage r n
      generalize Stage.tcp.start r n = s at hstage
      cases hstage with
      | skipped | failed => exact h
      | up => cases stage' with
        | tcp => exact absurd rfl hother
        | udp | uplink => exact h
  | udp =>
      have hstage : UdpStage r n (Stage.udp.start r n) := startUdp_stage r n
      generalize Stage.udp.start r n = s at hstage
      cases hstage with
      | skipped | failed => exact h
      | up => cases stage' with
        | udp => exact absurd rfl hother
        | tcp | uplink => exact h
  | uplink =>
      have hstage : UplinkStage r n (Stage.uplink.start r n) := startUplink_stage r n
      generalize Stage.uplink.start r n = s at hstage
      cases hstage with
      | skipped | failed => exact h
      | up => cases stage' with
        | uplink => exact absurd rfl hother
        | tcp | udp => exact h

theorem Kept.start {stage : Stage} (h : Kept logger none r asked peers n)
    (hvacant : stage.Vacant r) :
    Kept logger none (stage.start r n).relay asked peers (stage.start r n).node := by
  cases stage with
  | tcp => exact h.startTcp hvacant
  | udp => exact h.startUdp hvacant
  | uplink => exact h.startUplink hvacant

/-! ## The stop -/

/-- When the stop begins, all is planned that ends what the relay has. -/
theorem Kept.stop (h : Kept logger none r asked peers n) (label : Option String) :
    Kept logger (some n.fresh) r asked peers (n.occur (.begin r.stop.1 label)) := by
  have hn := h.numbered
  have hmove : n.move (.outside (.begin r.stop.1 label)) =
      some (n.occur (.begin r.stop.1 label)) := rfl
  obtain ⟨all, hroster, -⟩ := h.roster
  refine ⟨?_, ?_, h.logged.move hroster.named hmove, ?_, ?_, h.alone, ?_⟩
  · simpa [Node.changes, Node.changesOn] using h.roster_move hmove []
  · refine h.grounded.move hn hmove fun x label' heq y hy a about => ?_
    cases heq
    obtain ⟨-, service, hservice, rfl⟩ := close_of_stop hy about
    obtain ⟨-, -, -, acceptor, found, -⟩ := (h.hosts service hservice).tended
    exact h.grounded.drawn found
  · intro id hid
    obtain rfl := Option.some.inj hid
    refine ⟨Nat.lt_succ_self _, fun task found => ?_⟩
    obtain rfl := Node.newborn_of_spawn (hn.tasks _ (Nat.le_refl _)) found
    rfl
  · intro service hservice
    exact (h.hosts service hservice).begin (close_planned hservice)
      fun y hy about => (close_of_stop hy about).1
  · intro b hb
    obtain ⟨bridge, found, -⟩ := h.owns b hb
    refine ⟨bridge, found, fun id hid => .inr ?_⟩
    obtain rfl := Option.some.inj hid
    rw [Node.planOf_begin]
    exact stop_planned hb

/-- **A relay has all that it has set up**, however far it has got and whatever has happened. -/
theorem Life.kept (h : Life r n stopper left s asked peers)
    (hmade : Kept logger none r cs [] n) (hvacant : ∀ stage, Stage.Vacant r stage) :
    Kept logger stopper s.relay (cs ++ asked) peers s.node ∧ left.Nodup ∧
      ∀ stage ∈ left, stage.Vacant s.relay := by
  induction h with
  | made =>
      rw [List.append_nil]
      exact ⟨hmade, by simp [stages], fun stage _ => hvacant stage⟩
  | @stage stage left s asked peers _ ih =>
      -- No stage comes twice, so none takes the place of what an earlier one has set up.
      obtain ⟨hkept, hnodup, hvacant⟩ := ih
      obtain ⟨hnew, hnodup⟩ := List.nodup_cons.mp hnodup
      unfold Started.andThen
      split
      · exact ⟨hkept, hnodup, fun stage' hmem => hvacant stage' (.tail _ hmem)⟩
      · refine ⟨hkept.start (hvacant stage (.head _)), hnodup, fun stage' hmem => ?_⟩
        exact Stage.vacant_start (fun heq => hnew (heq ▸ hmem)) (hvacant stage' (.tail _ hmem))
  | moves _ move aloof ih =>
      obtain ⟨hkept, hnodup, hvacant⟩ := ih
      rw [← List.append_assoc]
      exact ⟨hkept.move move aloof, hnodup, hvacant⟩
  | joins _ furnishes ih =>
      obtain ⟨hkept, hnodup, hvacant⟩ := ih
      exact ⟨hkept.furnishes furnishes, hnodup, hvacant⟩
  | stops _ ih => exact ⟨ih.1.stop _, List.nodup_nil, nofun⟩

/-- Moves with which nobody deals with a relay belong to its life. -/
theorem Life.run (h : Life r n stopper left s asked peers)
    (haloof : ∀ m ∈ ms, ∀ peers n, s.relay.Aloof peers n m) (hrun : s.node.run ms = some n') :
    Life r n stopper left { s with node := n' }
      (asked ++ (Node.history s.node ms).flatMap Node.changes)
      (peers ++ (Node.history s.node ms).filterMap s.relay.attaches?) := by
  revert haloof
  refine Node.run_induction (P := fun ms n' => (∀ m ∈ ms, ∀ peers n, s.relay.Aloof peers n m) →
    Life r n stopper left { s with node := n' }
      (asked ++ (Node.history s.node ms).flatMap Node.changes)
      (peers ++ (Node.history s.node ms).filterMap s.relay.attaches?)) ?_ ?_ hrun
  · intro _
    simpa [Node.history, Machine.history] using h
  · intro ms m n₁ n₂ hbefore ih hmove haloof
    obtain ⟨haloof, hlast⟩ := List.forall_mem_append.mp haloof
    have hmoved := Life.moves (ih haloof) hmove (hlast m (.head _) _ _)
    rw [Node.filterMap_history_snoc _ hbefore, Node.history_snoc hbefore, List.flatMap_append,
      List.flatMap_singleton, ← List.append_assoc, ← List.append_assoc]
    exact hmoved

/-- Who has peers has an acceptor for them. -/
theorem Kept.host (h : Kept logger stopper r asked peers n) (hloop : loop ∈ peers) :
    ∃ service, r.tcp = some service ∧ Node.Hosts stopper service.acceptor peers n := by
  cases hservice : r.tcp with
  | none =>
      rw [h.alone hservice] at hloop
      cases hloop
  | some service => exact ⟨service, rfl, h.hosts service hservice⟩

/-- All bridges of the relay and of its peers are there. -/
theorem Kept.bridge (h : Kept logger stopper r asked peers n)
    (hb : b ∈ r.bridges ++ peers.map (·.b)) : ∃ bridge, n.bridges.get? b = some bridge := by
  rcases List.mem_append.mp hb with hb | hb
  · obtain ⟨bridge, found, -⟩ := h.owns b hb
    exact ⟨bridge, found⟩
  · obtain ⟨loop, hloop, rfl⟩ := List.mem_map.mp hb
    obtain ⟨service, -, hhosts⟩ := h.host hloop
    obtain ⟨_, _, _, _, -, htended, -⟩ := hhosts.tended
    obtain ⟨running, found⟩ := (htended.equipped loop hloop).bridge
    exact ⟨_, found⟩

/-- When the task that stops the relay is over, none of them runs any more. -/
theorem Kept.silent (h : Kept logger (some id) r asked peers n)
    (hgone : n.tasks.get? id = none) (hb : b ∈ r.bridges ++ peers.map (·.b)) :
    ∃ bridge, n.bridges.get? b = some bridge ∧ bridge.running = false := by
  have hplan := Node.planOf_of_gone hgone
  rcases List.mem_append.mp hb with hb | hb
  · obtain ⟨bridge, found, hstops⟩ := h.owns b hb
    exact ⟨bridge, found, (hstops id rfl).resolve_right (by simp [hplan])⟩
  · obtain ⟨loop, hloop, rfl⟩ := List.mem_map.mp hb
    obtain ⟨service, -, hhosts⟩ := h.host hloop
    obtain ⟨first, limit, closers, acceptor, found, htended, -, hdue⟩ := hhosts.tended
    have hcloser : id ∈ closers := (hdue id rfl).resolve_right (by simp [hplan])
    -- No peer is left in an acceptor that has been closed, and those that were are retired.
    obtain ⟨-, hvacant⟩ := htended.vacant hcloser (by simp [Node.Returned, hplan])
    have hretires := (htended.retired loop hloop).resolve_left (by simp [hvacant])
    rcases hretires with hstop | ⟨hsilent, -⟩
    · cases hstop
    · exact ⟨_, hsilent, rfl⟩

/-- So the bus has the logger, and whoever else has asked for it. -/
theorem Kept.restored (h : Kept logger (some id) r asked peers n)
    (hgone : n.tasks.get? id = none) (sub : Subscriber Listener) :
    sub ∈ n.bus.subscribers ↔ sub = ⟨logger, .logger, [Family.anyMessage]⟩ ∨
      sub ∈ (Bus.after (Bus.besides (r.names logger peers) asked)).subscribers := by
  obtain ⟨all, hroster, hsame⟩ := h.roster
  rw [← hsame, Bus.mem_after_besides, ← hroster.bus]
  constructor
  · intro hsub
    by_cases hid : sub.id ∈ r.names logger peers
    · rcases List.mem_cons.mp hid with hlogger | hid
      · -- The logger is there, and nobody else is called as it is.
        have hnodup : (n.bus.subscribers.map (·.id)).Nodup := hroster.bus ▸ Bus.nodup_after all
        exact .inl (List.inj_on_of_nodup_map hnodup hsub h.logged.subscribed hlogger)
      · obtain ⟨b, hb, hid⟩ := List.mem_map.mp hid
        obtain ⟨bridge, found, hstopped⟩ := h.silent hgone hb
        have hoff := hroster.unsubscribed found hstopped
        rw [hroster.named.bridges b bridge found, hid,
          Bus.isSubscribed_iff.mpr ⟨sub, hsub, rfl⟩] at hoff
        cases hoff
    · exact .inr ⟨hsub, hid⟩
  · rintro (rfl | ⟨hsub, -⟩)
    · exact h.logged.subscribed
    · exact hsub

/-- Nobody else has a name of the relay's, so nothing of what others have asked for is left out. -/
theorem Kept.apart (h : Kept logger stopper r asked peers n) {who : String} {actor : Actor}
    (found : n.actors.get? who = some actor) : actor.id ∉ r.names logger peers := by
  obtain ⟨all, hroster, -⟩ := h.roster
  intro hid
  rcases List.mem_cons.mp hid with hid | hid
  · exact h.logged.actors who actor found hid
  · obtain ⟨b, hb, hid⟩ := List.mem_map.mp hid
    obtain ⟨bridge, hbridge⟩ := h.bridge hb
    have hnone := (hroster.named.actors who actor found).2
    rw [← hid, hbridge] at hnone
    cases hnone

/-! ### Once more -/

theorem stop_stop (r : Relay) : r.stop.2.stop = (.all [], r.stop.2) := rfl

/-- To do nothing takes a number, and that is all. -/
theorem run_nothing (hn : Node.Numbered n) (label : Option String) :
    n.run [.outside (.begin (.all []) label), .step n.fresh, .step n.fresh] = some { n with
      fresh := n.fresh + 1, reports := n.reports ++ (label.map (·, Reply.done)).toList } := by
  have hnew := hn.tasks n.fresh (Nat.le_refl _)
  have herase : ∀ task task' : Task,
      ((n.tasks.set n.fresh task).set n.fresh task').erase n.fresh = n.tasks := by
    intro task task'
    rw [Assoc.set_set, Assoc.erase_set hnew]
  cases label <;>
    simp [Node.run, Node.move, Node.occur, Node.spawn, Node.draw, Node.step, Node.act, Node.setTask,
      Node.finish, Node.endTask, Task.advance, herase]

/-- **A stop restores the bus.**  A relay is made on any node, and starts once: its start comes to
its end or fails at any stage.  Whatever happens while it starts, runs and stops, when the task that
stops it is over, there is nobody on the bus but the logger and whoever has asked for it without
being one of the bridges of the relay or of its peers; none of these runs any more.  No actor goes
by one of the names that are left out here.  Neither service is there any more, the uplink does not
run, and a second stop takes a number and does nothing else. -/
theorem stop_restores (hroster : Node.Roster cs n₀) (hgrounded : Node.Grounded n₀)
    (hmake : make settings services n₀ = .ok (r, n))
    (hlife : Life r n (some id) left s asked peers) (hreturned : s.node.tasks.get? id = none) :
    let logger : ListenerId := ⟨n₀.fresh⟩
    let names := s.relay.names logger peers
    let stopped := s.relay.stop.2
    (∀ sub, sub ∈ s.node.bus.subscribers ↔ sub = ⟨logger, .logger, [Family.anyMessage]⟩ ∨
      sub ∈ (Bus.after (Bus.besides names (cs ++ asked))).subscribers) ∧
    (∀ who actor, s.node.actors.get? who = some actor → actor.id ∉ names) ∧
    (∀ b ∈ s.relay.bridges ++ peers.map (·.b),
      ∃ bridge, s.node.bridges.get? b = some bridge ∧ bridge.running = false) ∧
    stopped.tcp = none ∧ stopped.udp = none ∧ stopped.isUplinkRunning s.node = false ∧
    stopped.stop.2 = stopped ∧
    ∀ label, s.node.run [.outside (.begin stopped.stop.1 label), .step s.node.fresh,
        .step s.node.fresh] = some { s.node with
      fresh := s.node.fresh + 1
      reports := s.node.reports ++ (label.map (·, Reply.done)).toList } := by
  obtain ⟨hmade, hvacant⟩ := kept_of_make hroster hgrounded hmake
  obtain ⟨hkept, -⟩ := hlife.kept hmade hvacant
  refine ⟨hkept.restored hreturned, fun who actor found => hkept.apart found,
    fun b hb => hkept.silent hreturned hb, rfl, rfl, rfl, rfl, fun label => ?_⟩
  rw [stop_stop]
  exact run_nothing hkept.numbered label

/-- A node on which somebody watches all messages. -/
def overlooked : Node := { fresh := 1, actors := Assoc.empty.set "watch" { id := ⟨0⟩ } }

/-- The same node with the logger of a relay. -/
def overlookedNode : Node :=
  { overlooked with fresh := 2, bus := Bus.empty.subscribe ⟨1⟩ .logger Family.anyMessage }

theorem roster_overlooked : Node.Roster [] overlooked := by
  have hn : Node.Numbered overlooked := ⟨fun _ _ => rfl, fun _ _ => rfl, fun _ _ => rfl, by decide⟩
  refine Node.roster_of_idle ⟨hn, nofun, fun who actor found => ?_⟩ rfl nofun
  have found : (Assoc.empty.set "watch" ({ id := ⟨0⟩ } : Actor)).get? who = some actor := found
  rw [Assoc.get?_set] at found
  split at found
  · obtain rfl := Option.some.inj found
    exact ⟨Nat.one_pos, rfl⟩
  · cases found

/-- The start has come as far as its first service. -/
def halfway : Started := Started.andThen ⟨uplinkedRelay, overlookedNode, none⟩ Stage.tcp.start

/-- A peer is attached, and the watcher subscribes. -/
def arrivals : List Move :=
  [.outside (.dialIn 2 "peer"), .step 3, .outside (.subscribe "watch" Family.anyMessage)]

/-- The start goes on from there to its end, and the relay is stopped. -/
def recalled (n : Node) : Started :=
  let s := (Started.andThen { halfway with node := n } Stage.udp.start).andThen Stage.uplink.start
  s.stopping none

/-- The acceptor is closed with its peer, and then the other service. -/
def departures : List Move :=
  List.replicate 3 (.step 12) ++ List.replicate 2 (.step 3) ++ List.replicate 9 (.step 12) ++
    [.step 5] ++ List.replicate 19 (.step 12) ++ List.replicate 3 (.step 11) ++
    List.replicate 9 (.step 12)

/-- What arrivals and departures ask of the bus. -/
def requests (n : Node) : List (Bus.Change Listener) :=
  (Node.history halfway.node arrivals).flatMap Node.changes ++
    (Node.history (recalled n).node departures).flatMap Node.changes

/-- The peers that come with them. -/
def visitors (n : Node) : List Loop :=
  (Node.history halfway.node arrivals).filterMap halfway.relay.attaches? ++
    (Node.history (recalled n).node departures).filterMap (recalled n).relay.attaches?

/-- Steps, and what comes from outside without tasks or bridges being started. -/
def isTraffic : Move → Bool
  | .outside (.begin ..) | .outside (.startBridge ..) => false
  | _ => true

theorem aloof_of_traffic (h : ms.all isTraffic = true) :
    ∀ m ∈ ms, ∀ peers n, r.Aloof peers n m := by
  intro m hm peers n
  have htraffic := List.all_eq_true.mp h m hm
  constructor
  · rintro x label rfl
    cases htraffic
  · rintro b - label rfl
    cases htraffic

theorem life_recalled {n₁ n₂ : Node} (harrive : halfway.node.run arrivals = some n₁)
    (hdepart : (recalled n₁).node.run departures = some n₂)
    (hfresh : (recalled n₁).node.fresh = id + 1) :
    Life uplinkedRelay overlookedNode (some id) [] { recalled n₁ with node := n₂ } (requests n₁)
      (visitors n₁) := by
  have hhalfway : Life uplinkedRelay overlookedNode none [.udp, .uplink] halfway [] [] :=
    .stage .made
  have hstarted := (hhalfway.run (aloof_of_traffic rfl) harrive).stage.stage
  have hstopping : Life _ _ _ [] (recalled n₁) _ _ := hstarted.stops
  obtain rfl := Nat.succ.inj hfresh
  exact hstopping.run (aloof_of_traffic rfl) hdepart

/-- A peer has come while the relay started, and the start has failed at the uplink: the stop takes
the bridge of the other service and that of the peer off the bus, and the watcher stays. -/
theorem stop_restores_refused_uplink : ∃ s asked peers,
    Life uplinkedRelay overlookedNode (some 12) [] s asked peers ∧
    s.failure.map (·.message) = some "Failed to connect uplink to tcp://ground:9000" ∧
    s.relay.bridges = [10] ∧ peers.map (·.b) = [6] ∧
    (∀ id, s.node.bus.isSubscribed id = true ↔ id = ⟨1⟩ ∨ id = ⟨0⟩) ∧
    ∀ b ∈ [10, 6], ∃ bridge, s.node.bridges.get? b = some bridge ∧ bridge.running = false := by
  have hgrounded : Node.Grounded overlooked := ⟨fun _ _ => rfl, nofun⟩
  have hmake : make uplinked {} overlooked = .ok (uplinkedRelay, overlookedNode) := rfl
  -- The run is evaluated once, with all that the general theorem leaves open.
  have hends : ((halfway.node.run arrivals).bind fun n₁ =>
      ((recalled n₁).node.run departures).map fun n₂ =>
        (((recalled n₁).node.fresh, (n₂.tasks.get? 12).isNone,
          (recalled n₁).failure.map (·.message)), (recalled n₁).relay.bridges,
          (visitors n₁).map (·.b),
          (Bus.after (Bus.besides ((recalled n₁).relay.names ⟨1⟩ (visitors n₁))
            (requests n₁))).subscribers.map (·.id))) =
      some ((13, true, some "Failed to connect uplink to tcp://ground:9000"), [10], [6],
        [⟨0⟩]) := by
    decide +kernel
  obtain ⟨n₁, harrive, hends⟩ := Option.bind_eq_some_iff.mp hends
  obtain ⟨n₂, hdepart, hends⟩ := Option.map_eq_some_iff.mp hends
  simp only [Prod.mk.injEq, Option.isNone_iff_eq_none] at hends
  obtain ⟨⟨hfresh, hgone, hfailure⟩, hbridges, hpeers, hothers⟩ := hends
  have hlife := life_recalled harrive hdepart hfresh
  obtain ⟨hsubscribed, -, hstopped, -⟩ :=
    stop_restores roster_overlooked hgrounded hmake hlife hgone
  refine ⟨_, _, _, hlife, hfailure, hbridges, hpeers, ?_, ?_⟩
  · intro id
    rw [Bus.isSubscribed_iff]
    constructor
    · rintro ⟨sub, hsub, rfl⟩
      rcases (hsubscribed sub).mp hsub with rfl | hother
      · exact .inl rfl
      · exact .inr (List.mem_singleton.mp (hothers ▸ List.mem_map_of_mem hother))
    · rintro (rfl | rfl)
      · exact ⟨_, (hsubscribed _).mpr (.inl rfl), rfl⟩
      · obtain ⟨sub, hother, hid⟩ := List.mem_map.mp (hothers ▸ List.mem_singleton_self _)
        exact ⟨sub, (hsubscribed sub).mpr (.inr hother), hid⟩
  · intro b hb
    refine hstopped b ?_
    rwa [hbridges, hpeers]

end Relay

end TelemetryRelay
