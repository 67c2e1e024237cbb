import Mathlib.Data.List.Nodup
import TelemetryRelay.Proofs.Mapping
import TelemetryRelay.Proofs.Node.Frames

/-!
# Who stands on the bus under which id

A bridge subscribes under the id that goes with its number, and nobody else does.  So its
entry on the bus is its own doing: while the bridge runs it has asked for what its table
advertises, and when it has stopped it has asked for nothing.
-/

namespace TelemetryRelay

def Listener.bridge? : Listener → Option BridgeId
  | .bridge b => some b
  | _ => none

namespace Node

/-- Bridges are called on the bus by their numbers, and actors are not. -/
structure Named (n : Node) : Prop where
  numbered : Numbered n
  bridges : ∀ b bridge, n.bridges.get? b = some bridge → bridge.id = ⟨b⟩
  actors : ∀ name actor, n.actors.get? name = some actor →
    actor.id.number < n.fresh ∧ n.bridges.get? actor.id.number = none

/-- Bridges ask for what they advertise under their own ids, others ask under other ids. -/
inductive Signed (n : Node) : Bus.Change Listener → Prop
  | bridge {b : BridgeId} {bridge : Bridge} {type : Family}
      (found : n.bridges.get? b = some bridge) (interest : type ∈ bridge.interests) :
      Signed n (.subscribe ⟨b⟩ (.bridge b) type)
  | other {id : ListenerId} {listener : Listener} {type : Family}
      (off : listener.bridge? = none) (known : id.number < n.fresh)
      (apart : n.bridges.get? id.number = none) : Signed n (.subscribe id listener type)
  | leaves {id : ListenerId} : Signed n (.unsubscribe id)

/-- The bus is what signed changes have made of it, and of the bridges those that run have
asked for what they advertise. -/
structure Roster (cs : List (Bus.Change Listener)) (n : Node) : Prop where
  named : Named n
  bus : n.bus = Bus.after cs
  signed : ∀ c ∈ cs, Signed n c
  asked : ∀ b bridge, n.bridges.get? b = some bridge → ∀ type,
    Bus.Asked cs ⟨b⟩ type ↔ bridge.running = true ∧ type ∈ bridge.interests

/-- What a move does to the bridges and to the acceptors, and what it asks of the bus. -/
inductive Moved (n : Node) : Move → Node → List (Bus.Change Listener) → Prop
  | keeps {m : Move} {n' : Node} (bridges : n'.bridges = n.bridges)
      (tables : n'.front.tables = n.front.tables) : Moved n m n' []
  | acts {id : TaskId} {a : Action} {after : Node} {task : Task}
      (effect : Effect n id a after (n.changesOf a)) :
      Moved n (.step id) (after.setTask id task) (n.changesOf a)
  | happens {o : Occurrence} {n' : Node} (happens : Happens n o n' (n.changesOn o)) :
      Moved n (.outside o) n' (n.changesOn o)

variable {n n' n₀ : Node} {id : TaskId} {a : Action} {m : Move} {ms : List Move} {b : BridgeId}
  {bridge : Bridge} {cs cs' : List (Bus.Change Listener)} {c : Bus.Change Listener}
  {type : Family}

theorem moved_of_move (h : n.move m = some n') : Moved n m n' (changes (n, m)) := by
  cases m with
  | outside o =>
      cases h
      exact .happens (occur_happens n o)
  | step id =>
      cases Step.of_step h with
      | halt found outbox halts =>
          have hchanges : changes (n, .step id) = [] := by
            simp [changes, actionOf?_of_halts found outbox halts]
          have hcarries := (Halts.of_haltSender halts).carries
          have htables := congrArg Front.tables hcarries.front
          rw [hchanges]
          exact .keeps hcarries.bridges htables
      | @act task a after next found goesOn acting acts =>
          have hchanges : changes (n, .step id) = n.changesOf a := by
            simp only [changes, actionOf?_of_acting found goesOn acting]
            rfl
          rw [hchanges]
          exact .acts (act_effect acts)
      | @finish task reply found goesOn replying last =>
          have hchanges : changes (n, .step id) = [] := by
            simp [changes, actionOf?_of_replying found replying]
          obtain ⟨reports, heq⟩ := finish_eq n id task.label reply
          rw [hchanges, heq]
          exact .keeps rfl rfl
      | resume found goesOn replying waits resumes =>
          have hchanges : changes (n, .step id) = [] := by
            simp [changes, actionOf?_of_replying found replying]
          have hkeeps := resume_keeps resumes
          have htables := congrArg Front.tables hkeeps.front
          rw [hchanges]
          exact .keeps hkeeps.bridges htables

/-! ## Where bridges come from -/

/-- A bridge was there before, or it belongs to a new peer. -/
inductive Came (n : Node) (b : BridgeId) : Bridge → Prop
  | before {bridge : Bridge} {running : Bool} (found : n.bridges.get? b = some bridge) :
      Came n b { bridge with running }
  | peer {a : AcceptorId} {acceptor : Acceptor} (found : n.acceptors.get? a = some acceptor)
      (new : b = n.fresh + 2) : Came n b (n.peerBridge acceptor)

theorem Came.same (found : n.bridges.get? b = some bridge) : Came n b bridge :=
  @Came.before _ _ bridge bridge.running found

theorem came_of_setRunning {b' : BridgeId} {running : Bool}
    (found : (n.bridges.modify b' ({ · with running })).get? b = some bridge) :
    Came n b bridge := by
  rw [Assoc.get?_modify] at found
  split at found
  · rename_i hb
    obtain ⟨old, hold, rfl⟩ := Option.map_eq_some_iff.mp found
    exact .before (hb ▸ hold)
  · exact .same found

theorem Effect.came (h : Effect n id a n' cs) (found : n'.bridges.get? b = some bridge) :
    Came n b bridge := by
  cases h with
  | carries hcarries => exact .same (by rw [← hcarries.bridges, found])
  | hands _ => exact .same found
  | behaves cs => exact .same found
  | silences ends found' =>
      rw [silence_of_found found'] at found
      exact came_of_setRunning found
  | @attaches a acceptor c rest found' room =>
      obtain ⟨bridges, hbridges, heq⟩ := attach_eq n a { acceptor with backlog := rest } c room
      rw [heq] at found
      have found := (hbridges b).symm.trans found
      split at found
      · rename_i hb
        cases found
        have hpeer : Came n b (n.peerBridge acceptor) := .peer found' hb
        exact hpeer
      · exact .same found

theorem Happens.came {o : Occurrence} (h : Happens n o n' cs)
    (found : n'.bridges.get? b = some bridge) : Came n b bridge := by
  cases h with
  | keeps hkeeps => exact .same (by rw [← hkeeps.bridges, found])
  | begins hkeeps =>
      rw [hkeeps.bridges] at found
      exact .same found
  | asks cs who => exact .same found
  | starts found' => exact came_of_setRunning found

/-- **New bridges come with new peers only.** -/
theorem came_of_move (h : n.move m = some n') (found : n'.bridges.get? b = some bridge) :
    Came n b bridge := by
  have hmoved := moved_of_move h
  generalize changes (n, m) = cs at hmoved
  cases hmoved with
  | keeps bridges tables => exact .same (by rw [← bridges, found])
  | acts effect => exact effect.came found
  | happens happens => exact happens.came found

/-! ## Names -/

theorem Named.move (h : Named n) (hmove : n.move m = some n') : Named n' := by
  have hspares := spares_move h.numbered hmove
  refine ⟨h.numbered.move hmove, ?_, ?_⟩
  · intro b bridge found
    cases came_of_move hmove found with
    | before hfound =>
        have hid := h.bridges _ _ hfound
        exact hid
    | peer hfound new => exact new ▸ rfl
  · intro name actor' hget
    obtain ⟨actor, hactor, hid, -⟩ := hspares.actor hget
    obtain ⟨hlt, hnone⟩ := h.actors name actor hactor
    rw [← hid]
    refine ⟨Nat.lt_of_lt_of_le hlt hspares.fresh, Option.eq_none_iff_forall_ne_some.mpr ?_⟩
    intro bridge found
    cases came_of_move hmove found with
    | before hfound => cases hnone.symm.trans hfound
    | peer hfound new =>
        rw [new] at hlt
        exact absurd hlt (Nat.not_lt_of_le (Nat.le_add_right _ 2))

theorem Signed.move (h : Signed n c) (hn : Numbered n) (hmove : n.move m = some n') :
    Signed n' c := by
  cases h with
  | bridge found interest =>
      obtain ⟨running, found'⟩ := bridge_stays hn hmove ⟨_, found⟩
      exact .bridge found' interest
  | other off known apart =>
      refine .other off (Nat.lt_of_lt_of_le known (spares_move hn hmove).fresh)
        (Option.eq_none_iff_forall_ne_some.mpr ?_)
      intro bridge found
      cases came_of_move hmove found with
      | before hfound => cases apart.symm.trans hfound
      | peer hfound new =>
          rw [new] at known
          exact absurd known (Nat.not_lt_of_le (Nat.le_add_right _ 2))
  | leaves => exact .leaves

/-! ## What is asked of the bus -/

theorem Named.apart (h : Named n) {who : String} {id : ListenerId}
    (hid : n.listenerId? who = some id) :
    id.number < n.fresh ∧ n.bridges.get? id.number = none := by
  obtain ⟨actor, hactor, rfl⟩ := Option.map_eq_some_iff.mp hid
  exact h.actors who actor hactor

theorem mem_subscription {who : String} : c ∈ n.subscription who type ↔
    ∃ id, n.listenerId? who = some id ∧ c = .subscribe id (.actor who) type := by
  rw [subscription, Option.mem_toList, Option.map_eq_some_iff]
  exact exists_congr fun _ => and_congr_right fun _ => eq_comm

theorem mem_cancellation {who : String} : c ∈ n.cancellation who ↔
    ∃ id, n.listenerId? who = some id ∧ c = .unsubscribe id := by
  rw [cancellation, Option.mem_toList, Option.map_eq_some_iff]
  exact exists_congr fun _ => and_congr_right fun _ => eq_comm

theorem Named.signed_subscription {who : String} (h : Named n)
    (hc : c ∈ n.subscription who type) : Signed n c := by
  obtain ⟨id, hid, rfl⟩ := mem_subscription.mp hc
  obtain ⟨known, apart⟩ := h.apart hid
  exact .other rfl known apart

theorem signed_cancellation {who : String} (hc : c ∈ n.cancellation who) : Signed n c := by
  obtain ⟨id, -, rfl⟩ := mem_cancellation.mp hc
  exact .leaves

theorem signed_arrival (found : n.bridges.get? b = some bridge) (hid : bridge.id = ⟨b⟩)
    (hc : c ∈ bridge.arrival b) : Signed n c := by
  obtain ⟨type, htype, rfl⟩ := List.mem_map.mp hc
  rw [hid]
  exact .bridge found htype

/-- What an actor asks for in the course of a callback. -/
theorem Named.signed_behave {name : String} {behaviour : Behaviour} (h : Named n)
    (hc : c ∈ n.changesOf (.behave name behaviour)) : Signed n c := by
  cases behaviour with
  | finish taken => cases hc
  | publish sender message next => cases hc
  | subscribe who type next => exact h.signed_subscription hc
  | unsubscribe who next => exact signed_cancellation hc

/-- **Whatever a move asks of the bus is signed.** -/
theorem Named.signed (h : Named n) (hmove : n.move m = some n') (hc : c ∈ changes (n, m)) :
    Signed n' c := by
  have hkept : Signed n c → Signed n' c := fun hc => hc.move h.numbered hmove
  have hmoved := moved_of_move hmove
  generalize changes (n, m) = cs at hmoved hc
  cases hmoved with
  | keeps => cases hc
  | @acts id a after task effect =>
      generalize hcs : n.changesOf a = cs at effect hc
      cases effect with
      | carries | hands => cases hc
      | behaves => exact hkept (h.signed_behave (hcs ▸ hc))
      | silences =>
          obtain rfl := List.mem_singleton.mp hc
          exact .leaves
      | @attaches a acceptor c' rest found room =>
          obtain ⟨bridges, hbridges, heq⟩ := attach_eq n a { acceptor with backlog := rest } c' room
          have hfound : (n.attach a { acceptor with backlog := rest } c').bridges.get?
              (n.fresh + 2) = some (n.peerBridge acceptor) := by
            rw [heq]
            exact (hbridges _).trans (if_pos rfl)
          exact signed_arrival hfound rfl hc
  | @happens o n' happens =>
      generalize hcs : n.changesOn o = cs at happens hc
      cases happens with
      | keeps | begins => cases hc
      | asks cs who =>
          refine hkept ?_
          subst hcs
          rcases who with ⟨type, rfl⟩ | rfl
          · exact h.signed_subscription hc
          · exact signed_cancellation hc
      | starts found => exact hkept (signed_arrival found (h.bridges _ _ found) hc)

theorem id_of_mem_arrival (hc : c ∈ bridge.arrival b) : c.id = bridge.id := by
  obtain ⟨type, -, rfl⟩ := List.mem_map.mp hc
  rfl

/-- The ids of actors and of bridges. -/
inductive Called (n : Node) : ListenerId → Prop
  | actor {who : String} {actor : Actor} (found : n.actors.get? who = some actor) : Called n actor.id
  | bridge {b : BridgeId} {bridge : Bridge} (found : n.bridges.get? b = some bridge) : Called n ⟨b⟩

theorem called_of_subscription {who : String} (hc : c ∈ n.subscription who type) :
    Called n c.id := by
  obtain ⟨id, hid, rfl⟩ := mem_subscription.mp hc
  obtain ⟨actor, hactor, rfl⟩ := Option.map_eq_some_iff.mp hid
  exact .actor hactor

theorem called_of_cancellation {who : String} (hc : c ∈ n.cancellation who) : Called n c.id := by
  obtain ⟨id, hid, rfl⟩ := mem_cancellation.mp hc
  obtain ⟨actor, hactor, rfl⟩ := Option.map_eq_some_iff.mp hid
  exact .actor hactor

/-- **Only actors and bridges ask anything of the bus**, if not a bridge that comes with the move. -/
theorem Named.called (h : Named n) (hmove : n.move m = some n') (hc : c ∈ changes (n, m)) :
    Called n c.id ∨ ∃ b, c.id = ⟨b⟩ ∧ n.fresh ≤ b := by
  have hmoved := moved_of_move hmove
  generalize changes (n, m) = cs at hmoved hc
  cases hmoved with
  | keeps => cases hc
  | @acts id a after task effect =>
      generalize hcs : n.changesOf a = cs at effect hc
      cases effect with
      | carries | hands => cases hc
      | @behaves name behaviour =>
          subst hcs
          cases behaviour with
          | finish | publish => cases hc
          | subscribe => exact .inl (called_of_subscription hc)
          | unsubscribe => exact .inl (called_of_cancellation hc)
      | silences ends found =>
          obtain rfl := List.mem_singleton.mp hc
          rw [h.bridges _ _ found]
          exact .inl (.bridge found)
      | attaches found room =>
          exact .inr ⟨n.fresh + 2, id_of_mem_arrival hc, Nat.le_add_right _ 2⟩
  | @happens o n' happens =>
      generalize hcs : n.changesOn o = cs at happens hc
      cases happens with
      | keeps | begins => cases hc
      | asks cs who =>
          subst hcs
          rcases who with ⟨type, rfl⟩ | rfl
          · exact .inl (called_of_subscription hc)
          · exact .inl (called_of_cancellation hc)
      | starts found =>
          rw [id_of_mem_arrival hc, h.bridges _ _ found]
          exact .inl (.bridge found)

/-! ## What bridges have asked for -/

/-- Actors ask for nothing under the id of a bridge. -/
theorem Named.ne_of_actor (h : Named n) {who : String} {id : ListenerId}
    (hid : n.listenerId? who = some id) (found : n.bridges.get? b = some bridge) : id ≠ ⟨b⟩ := by
  rintro rfl
  cases (h.apart hid).2.symm.trans found

theorem Named.aside_subscription (h : Named n) {who : String}
    (found : n.bridges.get? b = some bridge) (hc : c ∈ n.subscription who type) : c.id ≠ ⟨b⟩ := by
  obtain ⟨id, hid, rfl⟩ := mem_subscription.mp hc
  exact h.ne_of_actor hid found

theorem Named.aside_cancellation (h : Named n) {who : String}
    (found : n.bridges.get? b = some bridge) (hc : c ∈ n.cancellation who) : c.id ≠ ⟨b⟩ := by
  obtain ⟨id, hid, rfl⟩ := mem_cancellation.mp hc
  exact h.ne_of_actor hid found

theorem Named.aside_behave {name : String} {behaviour : Behaviour} (h : Named n)
    (found : n.bridges.get? b = some bridge) (hc : c ∈ n.changesOf (.behave name behaviour)) :
    c.id ≠ ⟨b⟩ := by
  cases behaviour with
  | finish taken => cases hc
  | publish sender message next => cases hc
  | subscribe who type next => exact h.aside_subscription found hc
  | unsubscribe who next => exact h.aside_cancellation found hc

theorem mem_arrival (hid : bridge.id = ⟨b⟩) :
    (∃ listener, .subscribe ⟨b⟩ listener type ∈ bridge.arrival b) ↔ type ∈ bridge.interests := by
  simp [Bridge.arrival, hid]

theorem asked_arrival (hid : bridge.id = ⟨b⟩) : Bus.Asked (cs ++ bridge.arrival b) ⟨b⟩ type ↔
    Bus.Asked cs ⟨b⟩ type ∨ type ∈ bridge.interests := by
  rw [Bus.asked_append (by simp [Bridge.arrival]), mem_arrival hid]

/-- Nothing has been asked for under a number that is not drawn yet. -/
theorem Roster.known {id : ListenerId} (h : Roster cs n) (hasked : Bus.Asked cs id type) :
    id.number < n.fresh := by
  obtain ⟨before, listener, after, rfl, -⟩ := hasked
  cases h.signed (.subscribe id listener type) (by simp) with
  | bridge found interest => exact h.named.numbered.lt_of_bridge found
  | other off known apart => exact known

theorem Roster.asked_beside (h : Roster cs n) (found : n.bridges.get? b = some bridge)
    (hother : ∀ c ∈ cs', c.id ≠ ⟨b⟩) : Bus.Asked (cs ++ cs') ⟨b⟩ type ↔
      bridge.running = true ∧ type ∈ bridge.interests :=
  (Bus.asked_append_of_other hother).trans (h.asked b bridge found type)

theorem Effect.asked (heffect : Effect n id a n' (n.changesOf a)) (h : Roster cs n)
    (found : n'.bridges.get? b = some bridge) : Bus.Asked (cs ++ n.changesOf a) ⟨b⟩ type ↔
      bridge.running = true ∧ type ∈ bridge.interests := by
  generalize hcs : n.changesOf a = cs' at heffect
  cases heffect with
  | carries hcarries =>
      rw [hcarries.bridges] at found
      exact h.asked_beside found (by simp)
  | hands =>
      have found : n.bridges.get? b = some bridge := found
      exact h.asked_beside found (by simp)
  | behaves =>
      have found : n.bridges.get? b = some bridge := found
      subst hcs
      exact h.asked_beside found fun c hc => h.named.aside_behave found hc
  | @silences _ b' bridge' ends found' =>
      have hid := h.named.bridges _ _ found'
      rw [silence_of_found found'] at found
      have found := (Assoc.get?_modify ..).symm.trans found
      split at found
      · rename_i hb
        subst hb
        obtain ⟨old, hold, rfl⟩ := Option.map_eq_some_iff.mp found
        simp [hid, Bus.not_asked_unsubscribe]
      · rename_i hb
        refine h.asked_beside found ?_
        intro c hc
        obtain rfl := List.mem_singleton.mp hc
        rw [hid]
        simpa [Bus.Change.id] using Ne.symm hb
  | @attaches a acceptor c' rest found' room =>
      obtain ⟨bridges, hbridges, heq⟩ := attach_eq n a { acceptor with backlog := rest } c' room
      rw [heq] at found
      have found := (hbridges b).symm.trans found
      split at found
      · rename_i hb
        cases found
        subst hb
        have hnever : ¬ Bus.Asked cs ⟨n.fresh + 2⟩ type := fun hasked =>
          absurd (h.known hasked) (Nat.not_lt_of_le (Nat.le_add_right _ 2))
        have harrival := @asked_arrival (n.fresh + 2) (n.peerBridge acceptor) cs type rfl
        simp only [hnever, false_or] at harrival
        simpa [peerBridge] using harrival
      · refine h.asked_beside found ?_
        intro c hc
        rw [id_of_mem_arrival hc]
        intro hid
        have hb : n.fresh + 2 = b := congrArg ListenerId.number hid
        have hlt := h.named.numbered.lt_of_bridge found
        exact absurd hlt (Nat.not_lt_of_le (hb ▸ Nat.le_add_right _ 2))

theorem Happens.asked {o : Occurrence} (hhappens : Happens n o n' (n.changesOn o))
    (h : Roster cs n) (found : n'.bridges.get? b = some bridge) :
    Bus.Asked (cs ++ n.changesOn o) ⟨b⟩ type ↔
      bridge.running = true ∧ type ∈ bridge.interests := by
  generalize hcs : n.changesOn o = cs' at hhappens
  cases hhappens with
  | keeps hkeeps =>
      rw [hkeeps.bridges] at found
      exact h.asked_beside found (by simp)
  | begins hkeeps =>
      rw [hkeeps.bridges] at found
      exact h.asked_beside found (by simp)
  | asks cs' who =>
      have found : n.bridges.get? b = some bridge := found
      refine h.asked_beside found ?_
      subst hcs
      rcases who with ⟨type, rfl⟩ | rfl
      · exact fun c hc => h.named.aside_subscription found hc
      · exact fun c hc => h.named.aside_cancellation found hc
  | @starts b' label bridge' found' =>
      have hid := h.named.bridges _ _ found'
      have found : (n.bridges.modify b' ({ · with running := true })).get? b = some bridge := found
      rw [Assoc.get?_modify] at found
      split at found
      · rename_i hb
        subst hb
        rw [found'] at found
        cases found
        rw [asked_arrival hid, h.asked b _ found' type]
        simp [Bridge.interests]
      · rename_i hb
        refine h.asked_beside found ?_
        intro c hc
        rw [id_of_mem_arrival hc, hid]
        simpa using Ne.symm hb

theorem Roster.move (h : Roster cs n) (hmove : n.move m = some n') :
    Roster (cs ++ changes (n, m)) n' := by
  refine ⟨h.named.move hmove, ?_, ?_, ?_⟩
  · rw [bus_move hmove, h.bus, ← Bus.after_append]
  · intro c hc
    rcases List.mem_append.mp hc with hc | hc
    · exact (h.signed c hc).move h.named.numbered hmove
    · exact h.named.signed hmove hc
  · intro b bridge found type
    have hmoved := moved_of_move hmove
    generalize changes (n, m) = cs' at hmoved
    cases hmoved with
    | keeps bridges tables =>
        rw [bridges] at found
        exact h.asked_beside found (by simp)
    | acts effect => exact effect.asked h found
    | happens happens => exact happens.asked h found

/-- **Along every run the bridges that run have asked for what they advertise.** -/
theorem Roster.run (h : Roster cs n₀) (hrun : n₀.run ms = some n) :
    Roster (cs ++ (history n₀ ms).flatMap changes) n := by
  refine run_induction (P := fun ms n => Roster (cs ++ (history n₀ ms).flatMap changes) n) ?_ ?_ hrun
  · simpa [history, Machine.history] using h
  · intro ms m n n' hrun h hmove
    have hmoved := h.move hmove
    rw [history_snoc hrun, List.flatMap_append, ← List.append_assoc]
    simpa using hmoved

/-- It is so at first, when nobody has subscribed and no bridge runs yet. -/
theorem roster_of_idle (h : Named n) (hbus : n.bus = .empty)
    (hidle : ∀ b bridge, n.bridges.get? b = some bridge → bridge.running = false) :
    Roster [] n := by
  refine ⟨h, hbus, fun c hc => absurd hc List.not_mem_nil, ?_⟩
  intro b bridge found type
  rw [hidle b bridge found]
  simp [Bus.Asked]

/-- Others than bridges may ask for something at any time. -/
theorem Roster.asks (h : Roster cs n) (hsigned : ∀ c ∈ cs', Signed n c)
    (hother : ∀ c ∈ cs', ∀ b bridge, n.bridges.get? b = some bridge → c.id ≠ ⟨b⟩) :
    Roster (cs ++ cs') (n.setBus (n.bus.applyAll cs')) := by
  have hsame : Signed (n.setBus (n.bus.applyAll cs')) = Signed n := by
    funext c
    refine propext ⟨fun hc => ?_, fun hc => ?_⟩ <;>
    · cases hc with
      | bridge found interest => exact .bridge found interest
      | other off known apart => exact .other off known apart
      | leaves => exact .leaves
  refine ⟨⟨?_, h.named.bridges, h.named.actors⟩, ?_, ?_, ?_⟩
  · exact h.named.numbered.congr (Nat.le_refl _) rfl rfl rfl
  · show n.bus.applyAll cs' = _
    rw [h.bus, ← Bus.after_append]
  · rw [hsame]
    exact List.forall_mem_append.mpr ⟨h.signed, hsigned⟩
  · intro b bridge found type
    have found : n.bridges.get? b = some bridge := found
    exact h.asked_beside found fun c hc => hother c hc b bridge found

/-! ## Who is called -/

variable {s : Subscriber Listener} {sender : Option ListenerId}

/-- Whoever is subscribed has asked for it in a signed way. -/
theorem signed_of_subscribed (hbus : n.bus = Bus.after cs) (hsigned : ∀ c ∈ cs, Signed n c)
    (hs : s ∈ n.bus.subscribers) : ∃ type, Signed n (.subscribe s.id s.listener type) := by
  rw [hbus, Bus.after_eq_ledger] at hs
  obtain ⟨entry, hentry, rfl⟩ := List.mem_map.mp hs
  obtain ⟨position, before, type, after, hsplit, -⟩ := (Bus.records_ledger cs).joined entry hentry
  rw [entry.id_collapse, entry.listener_collapse]
  exact ⟨type, hsigned _ (by simp [hsplit])⟩

/-- Nobody is subscribed under a number that is not drawn yet. -/
theorem Roster.lt_of_subscribed (h : Roster cs n) (hs : s ∈ n.bus.subscribers) :
    s.id.number < n.fresh := by
  obtain ⟨type, hsigned⟩ := signed_of_subscribed h.bus h.signed hs
  obtain ⟨id, listener, types⟩ := s
  cases hsigned with
  | bridge found => exact h.named.numbered.lt_of_bridge found
  | other off known => exact known

theorem Signed.of_bridge {id : ListenerId} (h : Signed n (.subscribe id (.bridge b) type)) :
    id = ⟨b⟩ ∧ ∃ bridge, n.bridges.get? b = some bridge := by
  cases h with
  | bridge found interest => exact ⟨rfl, _, found⟩
  | other off => cases off

theorem Signed.is_bridge {listener : Listener} (h : Signed n (.subscribe ⟨b⟩ listener type))
    (found : n.bridges.get? b = some bridge) : listener = .bridge b := by
  cases h with
  | bridge => rfl
  | other off known apart => cases apart.symm.trans found

/-- A bridge that is on the bus runs, and takes in what its table hears. -/
theorem Roster.accepts (h : Roster cs n) (found : n.bridges.get? b = some bridge)
    (hs : s ∈ n.bus.subscribers) (hid : s.id = ⟨b⟩) :
    bridge.running = true ∧ s.accepts type = bridge.table.hears type := by
  rw [h.bus, Bus.after_eq_ledger] at hs
  obtain ⟨entry, hentry, rfl⟩ := List.mem_map.mp hs
  rw [entry.id_collapse] at hid
  have hrecords := Bus.records_ledger cs
  have hrunning : bridge.running = true := by
    obtain ⟨position, hjoined⟩ := hrecords.joined entry hentry
    obtain ⟨type, hasked⟩ := Bus.exists_asked_iff.mpr ⟨_, _, hjoined⟩
    rw [hid] at hasked
    exact ((h.asked b bridge found type).mp hasked).1
  -- The entry holds what the bridge has asked for, and that is what it advertises.
  have htypes : ∀ f, f ∈ entry.types ↔ f ∈ bridge.interests := by
    intro f
    have hasked := h.asked b bridge found f
    rw [hrecords.asked, hrunning] at hasked
    simp only [true_and] at hasked
    rw [← hasked]
    constructor
    · exact fun hf => ⟨entry, hentry, hid, hf⟩
    · rintro ⟨entry', hentry', hid', hf⟩
      rwa [← List.inj_on_of_nodup_map hrecords.nodup hentry' hentry (hid'.trans hid.symm)]
  have hany : ∀ p : Family → Bool, entry.types.any p = bridge.table.interests.any p := by
    intro p
    rw [Bool.eq_iff_iff, List.any_eq_true, List.any_eq_true]
    exact exists_congr fun f => and_congr_left fun _ => htypes f
  refine ⟨hrunning, ?_⟩
  rw [Subscriber.accepts_collapse]
  simp only [Subscriber.holds, Subscriber.accepts, hany]
  rfl

/-- **A bridge that runs is called for what its table hears, and for nothing else.** -/
theorem Roster.calls_iff (h : Roster cs n) (found : n.bridges.get? b = some bridge)
    (hrunning : bridge.running = true) (hother : sender ≠ some ⟨b⟩) :
    (∃ s ∈ n.bus.recipients sender type, s.listener = .bridge b) ↔
      bridge.table.hears type = true := by
  constructor
  · rintro ⟨s, hs, hlistener⟩
    obtain ⟨hs, haccepts⟩ := List.mem_filter.mp hs
    obtain ⟨asked, hsigned⟩ := signed_of_subscribed h.bus h.signed hs
    rw [hlistener] at hsigned
    rw [Bool.and_eq_true] at haccepts
    rw [← (h.accepts found hs hsigned.of_bridge.1).2]
    exact haccepts.2
  · intro hhears
    obtain ⟨interest, hinterest, -⟩ := List.any_eq_true.mp (MappingTable.listens_of_hears hhears)
    have hasked := (h.asked b bridge found interest).mpr ⟨hrunning, hinterest⟩
    obtain ⟨entry, hentry, hid, -⟩ := ((Bus.records_ledger cs).asked _ _).mp hasked
    have hid : entry.collapse.id = ⟨b⟩ := by rw [entry.id_collapse, hid]
    have hs : entry.collapse ∈ n.bus.subscribers := by
      rw [h.bus, Bus.after_eq_ledger]
      exact List.mem_map_of_mem hentry
    obtain ⟨asked, hsigned⟩ := signed_of_subscribed h.bus h.signed hs
    rw [hid] at hsigned
    refine ⟨entry.collapse, List.mem_filter.mpr ⟨hs, ?_⟩, hsigned.is_bridge found⟩
    rw [Bool.and_eq_true, bne_iff_ne, hid, (h.accepts found hs hid).2]
    exact ⟨Ne.symm hother, hhears⟩

/-- Where one element alone contributes, the whole is what it contributes. -/
theorem flatMap_of_unique {α β : Type} {l : List α} {g : α → List β} {x : α} (hnodup : l.Nodup)
    (hx : x ∈ l) (hother : ∀ y ∈ l, y ≠ x → g y = []) : l.flatMap g = g x := by
  obtain ⟨before, after, rfl⟩ := List.append_of_mem hx
  obtain ⟨-, hafter, hdisjoint⟩ := List.nodup_append.mp hnodup
  have hbefore : before.flatMap g = [] := by
    rw [List.flatMap_eq_nil_iff]
    intro y hy
    exact hother y (List.mem_append_left _ hy) (hdisjoint y hy x (.head _))
  have hrest : after.flatMap g = [] := by
    rw [List.flatMap_eq_nil_iff]
    intro y hy
    refine hother y (List.mem_append_right _ (.tail _ hy)) ?_
    rintro rfl
    exact (List.nodup_cons.mp hafter).1 hy
  rw [List.flatMap_append, List.flatMap_cons, hbefore, hrest, List.nil_append, List.append_nil]

/-- What each call of a bridge comes to is what one call does, or nothing. -/
theorem Roster.flatMap_calls {β : Type} (h : Roster cs n)
    (found : n.bridges.get? b = some bridge) (hrunning : bridge.running = true)
    (hother : sender ≠ some ⟨b⟩) (g : Listener → List β)
    (haside : ∀ listener, listener ≠ .bridge b → g listener = []) :
    (n.bus.recipients sender type).flatMap (fun s => g s.listener) =
      if bridge.table.hears type then g (.bridge b) else [] := by
  have hcalls := @Roster.calls_iff _ _ _ _ type sender h found hrunning hother
  split
  · rename_i hhears
    obtain ⟨s, hs, hlistener⟩ := hcalls.mpr hhears
    have hids : (n.bus.subscribers.map (·.id)).Nodup := by
      rw [h.bus]
      exact Bus.nodup_after cs
    have hnodup : (n.bus.recipients sender type).Nodup := (List.Nodup.of_map _ hids).filter _
    rw [flatMap_of_unique hnodup hs, hlistener]
    intro s' hs' hne
    refine haside _ fun hlistener' => hne ?_
    obtain ⟨hs, -⟩ := List.mem_filter.mp hs
    obtain ⟨hs', -⟩ := List.mem_filter.mp hs'
    obtain ⟨asked, hsigned⟩ := signed_of_subscribed h.bus h.signed hs
    obtain ⟨asked', hsigned'⟩ := signed_of_subscribed h.bus h.signed hs'
    rw [hlistener] at hsigned
    rw [hlistener'] at hsigned'
    exact List.inj_on_of_nodup_map hids hs' hs (hsigned'.of_bridge.1.trans hsigned.of_bridge.1.symm)
  · rename_i hdeaf
    rw [List.flatMap_eq_nil_iff]
    exact fun s hs => haside _ fun hlistener => hdeaf (hcalls.mp ⟨s, hs, hlistener⟩)

end Node

end TelemetryRelay
