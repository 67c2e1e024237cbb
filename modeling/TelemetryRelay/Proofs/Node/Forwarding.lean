import Mathlib.Data.List.Flatten
import Mathlib.Data.List.Nodup
import TelemetryRelay.Proofs.Node.Headway

/-!
# Frames from one bridge to the others

Bridges share a table of the standard registry and a bus, and nobody else publishes.
For a frame that a loop receives, the other bridges are sent the message that it
carries, encoded again under the same tag, each of them once and in the order in which
the frames came; its own transport is sent nothing.
-/

namespace TelemetryRelay

open Wire

/-- The loop is at no message: it waits for a frame, or is between two of them, or over. -/
def Loop.Idle (loop : Loop) (n : Node) : Prop := ∀ task, n.tasks.get? loop.id = some task →
  task.pending = [] ∨ task.pending = [.heard loop.b]

namespace Node

/-- The frame, if it goes over that transport. -/
def over? (t : TransportId) (p : TransportId × Frame) : Option Frame :=
  if p.1 = t then some p.2 else none

/-- The frame that a task sends with this move over a transport. -/
def sendsOver? (id : TaskId) (t : TransportId) (x : Node × Move) : Option Frame :=
  (sends? id x).bind (over? t)

/-- The frame as which a message goes out that a loop publishes with this move. -/
def carried? (table : MappingTable) (loop : Loop) (x : Node × Move) : Option Frame :=
  (publishes? loop.id x).bind fun p => p.2.bind table.carries?

variable {n n' n₀ : Node} {id : TaskId} {m : Move} {ms : List Move} {loop : Loop} {s : Station}
  {table : MappingTable} {cs : List (Bus.Change Listener)} {b : BridgeId} {bridge : Bridge}
  {message : Message} {sender : Option ListenerId} {t : TransportId}
  {r : Subscriber Listener}

/-! ## One publish -/

/-- A bridge that is called is sent the message over its own transport only. -/
theorem Hub.over_due (h : Hub table cs n) (hrooted : message.family.isMessage = true)
    (hr : r ∈ n.bus.recipients sender message.family) (hlistener : r.listener = .bridge b)
    (found : n.bridges.get? b = some bridge) (t : TransportId) :
    (n.due message r.listener).filterMap (over? t) =
      if bridge.transport = t then (table.carries? message).toList else [] := by
  have hlistens := h.listens hrooted hr hlistener
  obtain ⟨-, htable, -⟩ := h.shared.bridges b bridge found
  have hcarries : table.carries? message = (table.frameOf message).toOption := by
    rw [MappingTable.carries?, if_pos hlistens]
  rw [hlistener, hcarries]
  simp only [due, found, Option.bind_some, htable]
  cases (table.frameOf message).toOption with
  | none => simp
  | some f => by_cases ht : bridge.transport = t <;> simp [over?, ht]

theorem Hub.over_due_eq_nil (h : Hub table cs n) (hrooted : message.family.isMessage = true)
    (hr : r ∈ n.bus.recipients sender message.family)
    (haside : ∀ b bridge, r.listener = .bridge b → n.bridges.get? b = some bridge →
      bridge.transport ≠ t) : (n.due message r.listener).filterMap (over? t) = [] := by
  cases hlistener : r.listener with
  | actor name => rfl
  | logger => rfl
  | bridge b =>
      obtain ⟨-, bridge, found⟩ := h.of_bridge (List.mem_filter.mp hr).1 hlistener
      rw [← hlistener, h.over_due hrooted hr hlistener found,
        if_neg (haside b bridge hlistener found)]

/-- One recipient at most is reached over a transport. -/
theorem Hub.over_dueTo (h : Hub table cs n) (hrooted : message.family.isMessage = true)
    (hr : r ∈ n.bus.recipients sender message.family) (hlistener : r.listener = .bridge b)
    (found : n.bridges.get? b = some bridge) :
    (n.dueTo message (n.bus.recipients sender message.family)).filterMap (over? bridge.transport) =
      (table.carries? message).toList := by
  have hids : (n.bus.recipients sender message.family).Pairwise fun r r' => r.id ≠ r'.id :=
    (List.pairwise_map.mp h.nodup).filter _
  have hnodup : (n.bus.recipients sender message.family).Nodup :=
    hids.imp fun hne heq => hne (by rw [heq])
  -- Each bridge is on the bus once and has a transport of its own.
  rw [dueTo, List.filterMap_flatMap, flatMap_of_unique hnodup hr,
    h.over_due hrooted hr hlistener found, if_pos rfl]
  intro r' hr' hne
  refine h.over_due_eq_nil hrooted hr' ?_
  intro b' bridge' hlistener' found' hsame
  obtain rfl := h.shared.apart _ _ _ _ found' found hsame
  have hid := (h.of_bridge (List.mem_filter.mp hr).1 hlistener).1
  have hid' := (h.of_bridge (List.mem_filter.mp hr').1 hlistener').1
  have hinj := List.inj_on_of_nodup_map h.nodup (List.mem_filter.mp hr').1 (List.mem_filter.mp hr).1
  exact hne (hinj (hid'.trans hid.symm))

/-- **Over each transport a message goes at most once.** -/
theorem Hub.over_sublist (h : Hub table cs n) (hrooted : message.family.isMessage = true)
    (sender : Option ListenerId) (t : TransportId) :
    ((n.dueTo message (n.bus.recipients sender message.family)).filterMap (over? t)).Sublist
      (table.carries? message).toList := by
  by_cases haside : ∀ r ∈ n.bus.recipients sender message.family, ∀ b bridge,
      r.listener = .bridge b → n.bridges.get? b = some bridge → bridge.transport ≠ t
  · have hnil :
        (n.dueTo message (n.bus.recipients sender message.family)).filterMap (over? t) = [] := by
      rw [dueTo, List.filterMap_flatMap, List.flatMap_eq_nil_iff]
      exact fun r hr => h.over_due_eq_nil hrooted hr (haside r hr)
    rw [hnil]
    exact List.nil_sublist _
  · push Not at haside
    obtain ⟨r, hr, b, bridge, hlistener, found, rfl⟩ := haside
    rw [h.over_dueTo hrooted hr hlistener found]

/-- **The sender is not sent its own message.** -/
theorem Hub.over_own (h : Hub table cs n) (hrooted : message.family.isMessage = true)
    (found : n.bridges.get? b = some bridge) :
    (n.dueTo message (n.bus.recipients (some ⟨b⟩) message.family)).filterMap
      (over? bridge.transport) = [] := by
  rw [dueTo, List.filterMap_flatMap, List.flatMap_eq_nil_iff]
  intro r hr
  refine h.over_due_eq_nil hrooted hr ?_
  intro b' bridge' hlistener found' hsame
  obtain rfl := h.shared.apart _ _ _ _ found' found hsame
  have hid := (h.of_bridge (List.mem_filter.mp hr).1 hlistener).1
  have hother : some r.id ≠ some ⟨b'⟩ := by
    have haccepts := (List.mem_filter.mp hr).2
    rw [Bool.and_eq_true, bne_iff_ne] at haccepts
    exact haccepts.1
  exact hother (by rw [hid])

/-- **Another bridge that listens is sent each message that is advertised.** -/
theorem Hub.over_other (h : Hub table cs n) (hrooted : message.family.isMessage = true)
    (hattuned : Attuned table cs b) (found : n.bridges.get? b = some bridge)
    (hother : some ⟨b⟩ ≠ sender) :
    (n.dueTo message (n.bus.recipients sender message.family)).filterMap (over? bridge.transport) =
      (table.carries? message).toList := by
  by_cases hlistens : table.listens message.family = true
  · obtain ⟨r, hr, hlistener⟩ := h.calls hrooted hattuned found hother hlistens
    exact h.over_dueTo hrooted hr hlistener found
  · have hnone : table.carries? message = none := by rw [MappingTable.carries?, if_neg hlistens]
    have hsublist := h.over_sublist hrooted sender bridge.transport
    rw [hnone] at hsublist ⊢
    exact List.sublist_nil.mp hsublist

/-! ## Runs -/

/-- A loop is at a publish of a message that a frame has brought, or calls for nothing. -/
theorem Relayed.occasion (h : Relayed table cs n₀ loop ms n s) (hbuilt : table.Built .standard)
    (m : Move) : (callsFor loop (n, m) = [] ∧ carried? table loop (n, m) = none) ∨
      ∃ message : Message, message.family.isMessage = true ∧
        callsFor loop (n, m) =
          n.dueTo message (n.bus.recipients (some ⟨loop.b⟩) message.family) ∧
        carried? table loop (n, m) = table.carries? message := by
  by_cases hown : m = .step loop.id
  · subst hown
    have hpublishes := h.intake.stands.publishes?
    cases hs : s.message? with
    | none =>
        rw [hs] at hpublishes
        refine .inl ⟨h.intake.stands.callsFor hs, ?_⟩
        rw [carried?, hpublishes]
        rfl
    | some message =>
        obtain ⟨running, hbridge⟩ := h.intake.bridge
        obtain ⟨hid, htable, -⟩ := h.hub.shared.bridges _ _ hbridge
        have hid : loop.bridge.id = ⟨loop.b⟩ := hid
        have htable : loop.bridge.table = table := htable
        -- What is published has come out of a frame, so its type is one of the registry.
        have hlast : loop.publication message ∈
            (((history n₀ ms).filterMap (receives? loop.id)).filterMap
              loop.bridge.table.messageOf?).map loop.publication := by
          rw [← h.published, hs]
          simp
        obtain ⟨message', hmessage', hsame⟩ := List.mem_map.mp hlast
        obtain ⟨f, -, hcarries⟩ := List.mem_filterMap.mp hmessage'
        cases hsame
        rw [htable] at hcarries
        rw [hs, Option.map_some, hid] at hpublishes
        refine .inr ⟨message, hbuilt.rooted hcarries, ?_, ?_⟩
        · rw [callsFor, hpublishes]
        · rw [carried?, hpublishes]
          rfl
  · refine .inl ⟨callsFor_of_other hown, ?_⟩
    rw [carried?, publishes?, does?_of_other hown]
    rfl

/-- What a loop has received goes out as what it publishes, but for the message that is next. -/
theorem Relayed.carried (h : Relayed table cs n₀ loop ms n s) (hbuilt : table.Built .standard) :
    (history n₀ ms).filterMap (carried? table loop) ++ (s.message?.bind table.carries?).toList =
      ((history n₀ ms).filterMap (receives? loop.id)).filterMap table.relay? := by
  obtain ⟨running, hbridge⟩ := h.intake.bridge
  have htable : loop.bridge.table = table := (h.hub.shared.bridges _ _ hbridge).2.1
  have hrelay : table.relay? = fun f => (table.messageOf? f).bind table.carries? :=
    funext hbuilt.relay?_eq
  have hpublished := congrArg (List.filterMap fun p : Option ListenerId × Option Message =>
    p.2.bind table.carries?) h.published
  rw [List.filterMap_append, List.filterMap_filterMap, List.filterMap_map, htable] at hpublished
  rw [hrelay, ← List.filterMap_filterMap]
  refine Eq.trans ?_ hpublished
  congr 1
  cases hs : s.message? with
  | none => rfl
  | some message => cases hcarries : table.carries? message <;> simp [Loop.publication, hcarries]

/-- What holds at every node that a run comes by holds all along it. -/
theorem forall_of_relayed {H : List (Node × Move)} {Q : Node × Move → Prop}
    (hbegin : Relayed table cs n₀ loop [] n₀ s)
    (hall : ∀ ms n s m, n₀.run ms = some n → (∀ x ∈ history n₀ ms, x ∈ H) →
      Relayed table cs n₀ loop ms n s → Q (n, m))
    (hrun : n₀.run ms = some n) (hwithin : ∀ x ∈ history n₀ ms, x ∈ H) :
    ∀ x ∈ history n₀ ms, Q x := by
  revert hwithin
  refine run_induction
    (P := fun ms _ => (∀ x ∈ history n₀ ms, x ∈ H) → ∀ x ∈ history n₀ ms, Q x) ?_ ?_ hrun
  · intro _ x hx
    cases hx
  · intro ms m n n' hrun ih hmove hwithin x hx
    rw [history_snoc hrun] at hwithin hx
    have hbefore : ∀ x ∈ history n₀ ms, x ∈ H := fun x hx => hwithin x (List.mem_append_left _ hx)
    rcases List.mem_append.mp hx with hx | hx
    · exact ih hbefore x hx
    · obtain rfl := List.mem_singleton.mp hx
      obtain ⟨s, h⟩ := relayed_of_run hbegin hrun
      exact hall ms n s m hrun hbefore h

/-- What a loop sends over a transport, and has still to send over it. -/
theorem Relayed.over (h : Relayed table cs n₀ loop ms n s) (t : TransportId) :
    (history n₀ ms).filterMap (sendsOver? loop.id t) ++ (n.dues loop.id).filterMap (over? t) =
      (history n₀ ms).flatMap fun x => (callsFor loop x).filterMap (over? t) := by
  have hsent := congrArg (List.filterMap (over? t)) h.sent
  rw [List.filterMap_append, List.filterMap_filterMap, List.filterMap_flatMap] at hsent
  exact hsent

theorem Relayed.idle (h : Relayed table cs n₀ loop ms n s) (hidle : loop.Idle n) :
    n.dues loop.id = [] ∧ s.message? = none := by
  cases h.intake.stands with
  | gone found => exact ⟨by simp [dues, found], rfl⟩
  | spreading speaking =>
      have hpending := hidle _ speaking.found
      simp [Loop.publisher, Loop.task, List.append_eq_singleton_iff] at hpending
  | within is found =>
      have hpending := hidle _ found
      have hs : s ≠ .spreading := by
        rintro rfl
        cases is
      refine ⟨(h.intake.stands.dues hs).1, ?_⟩
      cases s <;> cases is <;> first | rfl | simp [Loop.task] at hpending

/-- Where a loop is at no message, the account can be opened anew. -/
theorem Relayed.reopen (h : Relayed table cs n₀ loop ms n s) (hidle : loop.Idle n) :
    Relayed table (cs ++ (history n₀ ms).flatMap changes) n loop [] n s := by
  obtain ⟨hdues, hmessage⟩ := h.idle hidle
  -- The changes on the bus so far are kept; what was received and sent so far is left out.
  refine ⟨⟨h.numbered, h.intake, ?_⟩, ?_, h.tame, ?_⟩
  · rw [hmessage]
    rfl
  · simpa [history, Machine.history] using h.hub
  · rw [hdues]
    rfl

/-- What a loop has sent over a transport is part of what goes out. -/
theorem Relayed.sublist_of_over (h : Relayed table cs n₀ loop ms n s)
    (hbuilt : table.Built .standard)
    (hpoint : ∀ x ∈ history n₀ ms,
      ((callsFor loop x).filterMap (over? t)).Sublist (carried? table loop x).toList) :
    ((history n₀ ms).filterMap (sendsOver? loop.id t)).Sublist
      (((history n₀ ms).filterMap (receives? loop.id)).filterMap table.relay?) := by
  have hsublist := List.Sublist.flatMap_right (history n₀ ms) hpoint
  rw [← h.over t, ← List.filterMap_eq_flatMap_toList] at hsublist
  rw [← h.carried hbuilt]
  exact ((List.sublist_append_left _ _).trans hsublist).trans (List.sublist_append_left _ _)

/-- What a loop has sent over a transport is, as far as it has come, what goes out. -/
theorem Relayed.prefix_of_over (h : Relayed table cs n₀ loop ms n s)
    (hbuilt : table.Built .standard)
    (hpoint : ∀ x ∈ history n₀ ms,
      (callsFor loop x).filterMap (over? t) = (carried? table loop x).toList) :
    (history n₀ ms).filterMap (sendsOver? loop.id t) <+:
        ((history n₀ ms).filterMap (receives? loop.id)).filterMap table.relay? ∧
      (loop.Idle n → (history n₀ ms).filterMap (sendsOver? loop.id t) =
        ((history n₀ ms).filterMap (receives? loop.id)).filterMap table.relay?) := by
  have hcarried := h.carried hbuilt
  have hover := h.over t
  rw [List.flatMap_congr hpoint, ← List.filterMap_eq_flatMap_toList] at hover
  refine ⟨?_, ?_⟩
  · rw [← hcarried, ← hover, List.append_assoc]
    exact List.prefix_append _ _
  · intro hidle
    obtain ⟨hdues, hmessage⟩ := h.idle hidle
    rw [hdues, List.filterMap_nil, List.append_nil] at hover
    rw [hmessage, Option.bind_none, Option.toList_none, List.append_nil, ← hover] at hcarried
    exact hcarried

/-- Whatever is published while a loop is on its way, its own transport is not to be sent it. -/
theorem Relayed.over_own (h : Relayed table cs n₀ loop ms n s) (hbuilt : table.Built .standard)
    (m : Move) : (callsFor loop (n, m)).filterMap (over? loop.bridge.transport) = [] := by
  obtain ⟨running, hbridge⟩ := h.intake.bridge
  rcases h.occasion hbuilt m with ⟨hnothing, -⟩ | ⟨message, hrooted, hcalls, -⟩
  · rw [hnothing]
    rfl
  · rw [hcalls]
    have hnone := h.hub.over_own hrooted hbridge
    exact hnone

theorem Relayed.over_sublist (h : Relayed table cs n₀ loop ms n s) (hbuilt : table.Built .standard)
    (m : Move) (t : TransportId) :
    ((callsFor loop (n, m)).filterMap (over? t)).Sublist (carried? table loop (n, m)).toList := by
  rcases h.occasion hbuilt m with ⟨hnothing, -⟩ | ⟨message, hrooted, hcalls, hcarries⟩
  · rw [hnothing]
    exact List.nil_sublist _
  · rw [hcalls, hcarries]
    exact h.hub.over_sublist hrooted _ t

/-- Another bridge that listens is to be sent what goes out. -/
theorem Relayed.over_other (h : Relayed table cs n₀ loop ms n s) (hbuilt : table.Built .standard)
    (hattuned : Attuned table (cs ++ (history n₀ ms).flatMap changes) b)
    (hother : ∃ running, n.bridges.get? b = some { bridge with running }) (hne : b ≠ loop.b)
    (m : Move) : (callsFor loop (n, m)).filterMap (over? bridge.transport) =
      (carried? table loop (n, m)).toList := by
  obtain ⟨running, hbridge⟩ := hother
  have hsender : some (⟨b⟩ : ListenerId) ≠ some ⟨loop.b⟩ := by
    intro hsame
    cases hsame
    exact hne rfl
  rcases h.occasion hbuilt m with ⟨hnothing, hcarries⟩ | ⟨message, hrooted, hcalls, hcarries⟩
  · rw [hnothing, hcarries]
    rfl
  · rw [hcalls, hcarries]
    have hone := h.hub.over_other hrooted hattuned hbridge hsender
    exact hone

/-! ## The relay -/

/-- **What one bridge receives goes to the others, and not back.**  From any time on at which the
loop of a bridge is at no message, the bridges that are running then are sent what it receives. -/
theorem relay_without_echo {configs : List MappingConfig} {before : List Move} {n₁ : Node}
    (hbuild : MappingTable.build .standard configs = .ok table) (hhub : Hub table cs n₀)
    (found : n₀.tasks.get? loop.id = some (loop.task (.acting (.listen loop.b)) []))
    (bridge : n₀.bridges.get? loop.b = some loop.bridge) (hbefore : n₀.run before = some n₁)
    (hfree : loop.Idle n₁) (hrun : n₁.run ms = some n) :
    let received := (history n₁ ms).filterMap (receives? loop.id)
    let sentOver := fun t => (history n₁ ms).filterMap (sendsOver? loop.id t)
    sentOver loop.bridge.transport = [] ∧
    (∀ t, (sentOver t).Sublist (received.filterMap table.relay?)) ∧
    (∀ b other, n₁.bridges.get? b = some other → b ≠ loop.b →
      Attuned table (cs ++ (history n₀ before).flatMap changes) b →
      (∀ x ∈ history n₁ ms, .unsubscribe ⟨b⟩ ∉ changes x) →
      sentOver other.transport <+: received.filterMap table.relay? ∧
        (loop.Idle n → sentOver other.transport = received.filterMap table.relay?)) ∧
    n.Arrives loop.id := by
  intro received sentOver
  have hbuilt := MappingTable.built_of_build hbuild
  obtain ⟨s₀, hopened⟩ := relayed_of_run (.begin hhub found bridge) hbefore
  have hbegin := hopened.reopen hfree
  obtain ⟨s, h⟩ := relayed_of_run hbegin hrun
  refine ⟨?_, ?_, ?_, h.arrives hrun⟩
  · have hown : ∀ x ∈ history n₁ ms,
        (callsFor loop x).filterMap (over? loop.bridge.transport) = [] :=
      forall_of_relayed hbegin (fun _ _ _ m _ _ h => h.over_own hbuilt m) hrun fun _ hx => hx
    have hover := h.over loop.bridge.transport
    rw [List.flatMap_eq_nil_iff.mpr hown] at hover
    exact (List.append_eq_nil_iff.mp hover).1
  · intro t
    exact h.sublist_of_over hbuilt <| forall_of_relayed hbegin
      (fun _ _ _ m _ _ h => h.over_sublist hbuilt m t) hrun fun _ hx => hx
  · intro b other hother hne hattuned hstays
    refine h.prefix_of_over hbuilt (forall_of_relayed hbegin ?_ hrun fun _ hx => hx)
    intro ms' n s m hrun' hwithin h
    have hbridge := bridge_of_run hbegin.numbered hother hrun'
    refine h.over_other hbuilt (hattuned.append ?_) hbridge hne m
    rw [List.mem_flatMap]
    rintro ⟨x, hx, hleaves⟩
    exact hstays x (hwithin x hx) hleaves

/-- One type that is advertised and one that is not. -/
def twoMappings : List MappingConfig :=
  [{ name := "switch", tag := some 4, className := some "EnableSensors", advertise := true },
    { name := "limit", tag := some 5, className := some "IdleLimit" }]

def twoEntries : MappingTable :=
  ⟨[⟨"switch", 4, Kind.enableSensors.family, true⟩, ⟨"limit", 5, Kind.idleLimit.family, false⟩]⟩

/-- A frame that is not mapped, a good one, one that cannot be decoded, one of a type that is
not advertised, and a good one again. -/
def fiveFrames : List Frame :=
  [Frame.make 9 [], Frame.make 4 [1], Frame.make 4 [], Frame.make 5 [0, 7],
    Frame.make 4 [0]].filterMap Except.toOption

def joinings : List (Bus.Change Listener) :=
  [.subscribe ⟨3⟩ (.bridge 3) Kind.enableSensors.family,
    .subscribe ⟨7⟩ (.actor "ear") Family.anyMessage,
    .subscribe ⟨5⟩ (.bridge 5) Kind.enableSensors.family]

def wire (frames : List Frame) : Transport :=
  { carrier := .scripted { sends := [], receives := frames.map .ok, canRecover := false } }

def crossingBridge (b : BridgeId) (t : TransportId) (running : Bool) : Bridge :=
  ⟨⟨b⟩, twoEntries, t, running⟩

/-- Three bridges, the first of which gets frames and the second of which is still to be started,
and an actor that hears everything. -/
def crossing : Node where
  bus := Bus.after joinings
  actors := Assoc.empty.set "ear" { id := ⟨7⟩ }
  transports := ((Assoc.empty.set 0 (wire fiveFrames)).set 1 (wire [])).set 2 (wire [])
  bridges := ((Assoc.empty.set 3 (crossingBridge 3 0 true)).set 4 (crossingBridge 4 1 false)).set 5
    (crossingBridge 5 2 true)
  tasks := Assoc.empty.set 6 { activity := .acting (.listen 3) }
  fresh := 8

def crossingLoop : Loop := ⟨6, 3, crossingBridge 3 0 true, none⟩

theorem bridges_crossing (found : crossing.bridges.get? b = some bridge) :
    (b = 3 ∧ bridge = crossingBridge 3 0 true) ∨ (b = 4 ∧ bridge = crossingBridge 4 1 false) ∨
      (b = 5 ∧ bridge = crossingBridge 5 2 true) := by
  simp only [crossing, Assoc.get?_set, Assoc.get?_empty] at found
  split at found
  · cases found
    exact .inr (.inr ⟨‹_›, rfl⟩)
  · split at found
    · cases found
      exact .inr (.inl ⟨‹_›, rfl⟩)
    · split at found
      · cases found
        exact .inl ⟨‹_›, rfl⟩
      · cases found

theorem numbered_crossing : Numbered crossing := by
  have hne : ∀ x k : Nat, crossing.fresh ≤ x → k < 8 → x ≠ k := by
    intro x k hx hk
    exact Nat.ne_of_gt (Nat.lt_of_lt_of_le hk hx)
  refine ⟨?_, ?_, ?_, by decide⟩
  · intro x hx
    simp [crossing, hne x 6 hx (by decide)]
  · intro x hx
    simp [crossing, hne x 0 hx (by decide), hne x 1 hx (by decide), hne x 2 hx (by decide)]
  · intro x hx
    simp [crossing, hne x 3 hx (by decide), hne x 4 hx (by decide), hne x 5 hx (by decide)]

theorem hub_crossing : Hub twoEntries joinings crossing := by
  have hactor : ∀ name actor, crossing.actors.get? name = some actor → actor = { id := ⟨7⟩ } := by
    intro name actor found
    simp only [crossing, Assoc.get?_set, Assoc.get?_empty] at found
    split at found <;> cases found
    rfl
  refine ⟨⟨numbered_crossing, ?_, ?_, ?_, ?_, ?_⟩, rfl, ?_⟩
  · intro b bridge found
    rcases bridges_crossing found with ⟨rfl, rfl⟩ | ⟨rfl, rfl⟩ | ⟨rfl, rfl⟩ <;>
      exact ⟨rfl, rfl, by decide⟩
  · intro b b' bridge bridge' found found' hsame
    rcases bridges_crossing found with ⟨rfl, rfl⟩ | ⟨rfl, rfl⟩ | ⟨rfl, rfl⟩ <;>
      rcases bridges_crossing found' with ⟨rfl, rfl⟩ | ⟨rfl, rfl⟩ | ⟨rfl, rfl⟩ <;>
        first | rfl | cases hsame
  · intro name actor found
    rw [hactor name actor found]
    exact ⟨by decide, rfl⟩
  · intro name actor found calls message
    rw [hactor name actor found]
    exact .finish
  · intro a acceptor found
    cases found
  · intro c hc
    have hinterest : Kind.enableSensors.family ∈ twoEntries.interests := .head _
    simp only [joinings, List.mem_cons, List.not_mem_nil, or_false] at hc
    rcases hc with rfl | rfl | rfl
    · exact @Orderly.bridge _ _ _ (crossingBridge 3 0 true) _ rfl hinterest
    · exact .other rfl (by decide) rfl
    · exact @Orderly.bridge _ _ _ (crossingBridge 5 2 true) _ rfl hinterest

/-- The loop has nothing to go back to but the next frame. -/
def waitsAgain (n : Node) : Bool :=
  match n.tasks.get? 6 with
  | some task =>
      match task.pending with
      | [] => true
      | [.heard b] => b == 3
      | _ => false
  | none => true

theorem idle_of_waitsAgain (hwaits : waitsAgain n = true) : crossingLoop.Idle n := by
  intro task found
  have found : n.tasks.get? 6 = some task := found
  simp only [waitsAgain, found] at hwaits
  split at hwaits
  · exact .inl ‹_›
  · have hpending : task.pending = _ := ‹_›
    rw [beq_iff_eq] at hwaits
    rw [hpending, hwaits]
    exact .inr rfl
  · cases hwaits

/-- The loop begins to wait for a frame, and then the second bridge starts. -/
def lateStart : List Move := [.step 6, .outside (.startBridge 4 none)]

def crossed : Node := (crossing.run lateStart).getD crossing

/-- Of five frames two go to the second bridge, and none back to the first. -/
theorem relay_without_echo_three_bridges :
    let moves := history crossed (List.replicate 74 (.step 6))
    (∃ n, crossed.run (List.replicate 74 (.step 6)) = some n ∧ waitsAgain n = true) ∧
      moves.filterMap (receives? 6) = fiveFrames ∧
      moves.filterMap (sendsOver? 6 0) = [] ∧
      (moves.filterMap (sendsOver? 6 1)).map (fun f => (f.tag, f.payload)) =
        [(4, [1]), (4, [0])] := by
  intro moves
  have hbefore : crossing.run lateStart = some crossed := rfl
  have hfree : crossingLoop.Idle crossed := idle_of_waitsAgain (by decide +kernel)
  have hends : (crossed.run (List.replicate 74 (.step 6))).map waitsAgain = some true := by
    decide +kernel
  obtain ⟨n, hrun, hwaits⟩ := Option.map_eq_some_iff.mp hends
  have hreceived : moves.filterMap (receives? 6) = fiveFrames := by decide +kernel
  have hbuild : MappingTable.build .standard twoMappings = .ok twoEntries := rfl
  have hattuned :
      Attuned twoEntries (joinings ++ (history crossing lateStart).flatMap changes) 4 := by
    intro type htype
    obtain rfl := List.mem_singleton.mp htype
    exact ⟨joinings, .bridge 4, [], rfl, List.not_mem_nil⟩
  have hcalm : moves.all (fun x => (changes x).isEmpty) = true := by decide +kernel
  have hstays : ∀ x ∈ moves, .unsubscribe ⟨4⟩ ∉ changes x := by
    intro x hx hleaves
    have hempty := List.all_eq_true.mp hcalm x hx
    rw [List.isEmpty_iff.mp hempty] at hleaves
    cases hleaves
  obtain ⟨hown, -, hothers, -⟩ :=
    @relay_without_echo _ _ _ crossingLoop _ _ _ _ _ hbuild hub_crossing rfl rfl hbefore hfree hrun
  obtain ⟨-, hall⟩ := hothers 4 (crossingBridge 4 1 true) rfl (by decide) hattuned hstays
  have hsent : moves.filterMap (sendsOver? 6 1) =
      (moves.filterMap (receives? 6)).filterMap twoEntries.relay? :=
    hall (idle_of_waitsAgain hwaits)
  refine ⟨⟨n, hrun, hwaits⟩, hreceived, hown, ?_⟩
  rw [hsent, hreceived]
  decide +kernel

end Node

end TelemetryRelay
