import TelemetryRelay.Proofs.Datagram
import TelemetryRelay.Proofs.Node.Inbound
import TelemetryRelay.Proofs.Node.Posting

/-!
# From one bridge to another

Two bridges have the same table of the standard registry.  A message of the catalogue that is
sent through the first one is refused, and its transport left alone, exactly if its type is
not mapped or it does not fit into a frame.  Else the transport is handed one frame, and
whoever gets the bytes of that frame publishes one message: the one that was sent.
-/

namespace TelemetryRelay

open Wire
open Source (Delivers)

/-! ## The bytes of one frame -/

namespace Wire

variable {f : Frame} {fs : List Frame} {rest : Bytes} {source tail : Source}

theorem readFrame_encode (h : Delivers tail source (f.encode ++ rest)) :
    ∃ left, readFrame source = (.ok f, left) ∧ Delivers tail left rest :=
  readFrame_of_skipped ⟨not_markerAt_nil, by simp⟩ h

theorem Frame.delivers_encode (f : Frame) : Delivers [] [.bytes f.encode] (f.encode ++ []) :=
  .chunk (by simp [Frame.encode]) .done

/-- The bytes of one frame are read as that frame at most. -/
theorem Reads.of_encode (h : Reads f.encode fs rest) : fs = [] ∨ fs = [f] := by
  obtain ⟨left, hfirst, hend⟩ := readFrame_encode f.delivers_encode
  obtain rfl := hend.eq_tail
  have hsource := f.delivers_encode
  rw [List.append_nil] at hsource
  have hread := (h.readFrame hsource).1
  match fs, hread with
  | [], _ => exact .inl rfl
  | [g], hread =>
      have hg := hread 0 (by simp)
      rw [Source.after, hfirst] at hg
      cases hg
      exact .inr rfl
  | g :: g' :: fs, hread =>
      -- Behind the frame the bytes are at their end.
      obtain ⟨left, hempty, -⟩ := readFrame_eq_parse .done
      have hg := hread 1 (by simp)
      rw [Source.after, Source.after, hfirst, hempty] at hg
      cases hg

/-- Before the frame is read it can be read. -/
theorem Reads.encode_goesOn (h : Reads f.encode [] rest) {ended : Prop} : ¬ Stops ended rest := by
  intro hstops
  have hsource := f.delivers_encode
  rw [List.append_nil] at hsource
  obtain ⟨e, he⟩ := hstops.readFrame (h.readFrame hsource).2
  obtain ⟨left, hfirst, -⟩ := readFrame_encode f.delivers_encode
  rw [List.length_nil, Source.after, hfirst] at he
  cases he

end Wire

/-! ## A loop that gets one frame -/

namespace Node

variable {n n' n₀ : Node} {loop : Loop} {c : ConnectionName} {ms : List Move} {s : Station}
  {w : Nat} {f : Frame} {m : Message} {id : TaskId}

/-- What is published next can be published. -/
theorem step_of_publishes {p : Option ListenerId × Option Message}
    (h : publishes? id (n, .step id) = some p) : (n.step id).isSome = true := by
  simp only [publishes?, does?, Option.ite_none_right_eq_some] at h
  obtain ⟨a, hacts, hpublished⟩ := Option.bind_eq_some_iff.mp h.2
  cases a with
  | publish sender message =>
      obtain ⟨task, found⟩ := found_of_actionOf? hacts
      rw [step_of_actionOf? found hacts]
      rfl
  | _ => cases hpublished

/-- A loop that has received one frame has published its message, or does so with its next step. -/
theorem Logged.published_of_one (h : Logged n₀ loop ms n s)
    (hreceived : (history n₀ ms).filterMap (receives? loop.id) = [f])
    (hcarries : loop.bridge.table.messageOf? f = some m) :
    (history n₀ ms).filterMap (publishes? loop.id) = [loop.publication m] ∨
      (history n₀ ms).filterMap (publishes? loop.id) = [] ∧
        publishes? loop.id (n, .step loop.id) = some (loop.publication m) := by
  have hpublished := h.published
  have hnext := h.intake.stands.publishes?
  rw [hreceived] at hpublished
  simp only [List.filterMap_cons, hcarries, List.filterMap_nil, List.map_cons, List.map_nil]
    at hpublished
  cases hs : s.message? with
  | none =>
      rw [hs] at hpublished
      exact .inl ((List.append_nil _).symm.trans hpublished)
  | some m' =>
      rw [hs] at hpublished hnext
      obtain ⟨hnone, hlast⟩ := List.append_eq_singleton_iff.mp hpublished |>.resolve_right (by simp)
      refine .inr ⟨hnone, ?_⟩
      rw [hnext, ← List.singleton_inj.mp hlast]
      rfl

theorem Stands.gone_of_get? (h : Stands n loop s) (hgone : n.tasks.get? loop.id = none) :
    s = .gone := by
  cases h with
  | gone => rfl
  | within is found => cases hgone.symm.trans found
  | spreading speaking => cases hgone.symm.trans speaking.found

/-- Only a loop that has published waits for more than one reply. -/
theorem Stands.spreading_of_depth (h : Stands n loop s) (hdepth : 1 < n.depth loop.id) :
    s = .spreading := by
  cases h with
  | spreading => rfl
  | gone found => simp [depth, found] at hdepth
  | within is found =>
      rw [depth_of_found found] at hdepth
      cases s <;> cases is <;> simp [Loop.task] at hdepth

/-- A loop that gets the bytes of one frame publishes its message once: before it is over, and
before it stands still at the end of the stream. -/
theorem Pipeline.published_of_one (h : Pipeline n₀ loop c ms n s w)
    (hbytes : stream n₀ c ms = f.encode) (hcarries : loop.bridge.table.messageOf? f = some m) :
    let published := (history n₀ ms).filterMap (publishes? loop.id)
    published <+: [loop.publication m] ∧
    (n.tasks.get? loop.id = none → published = [loop.publication m]) ∧
    ((n.connection c).remoteClosed = true →
      published = [loop.publication m] ∨ (n.step loop.id).isSome = true) := by
  intro published
  obtain ⟨rest, hreads⟩ := h.flow.reads
  rw [hbytes] at hreads
  have hone (hreceived : (history n₀ ms).filterMap (receives? loop.id) = [f])
      (hs : s.message? = none) : published = [loop.publication m] := by
    rcases h.toLogged.published_of_one hreceived hcarries with hdone | ⟨-, hnext⟩
    · exact hdone
    · rw [h.intake.stands.publishes?, hs] at hnext
      cases hnext
  have hover (hgone : n.tasks.get? loop.id = none) : published = [loop.publication m] := by
    obtain rfl := h.intake.stands.gone_of_get? hgone
    refine hone ?_ rfl
    cases h.flow with
    | between here => cases here
    | done here reads stops =>
        -- An error ends the loop, and before the frame there is none.
        rw [hbytes] at reads
        rcases reads.of_encode with hnone | hreceived
        · rw [hnone] at reads
          exact absurd stops reads.encode_goesOn
        · exact hreceived
  refine ⟨?_, hover, ?_⟩
  · rcases hreads.of_encode with hreceived | hreceived
    · have hpublished := h.published
      rw [hreceived] at hpublished
      have hnone : published = [] := (List.append_eq_nil_iff.mp hpublished).1
      rw [hnone]
      exact List.nil_prefix
    · rcases h.toLogged.published_of_one hreceived hcarries with hdone | ⟨hnone, -⟩
      · exact hdone ▸ List.prefix_refl _
      · exact hnone ▸ List.nil_prefix
  · intro hclosed
    rcases h.goesOn hclosed with hgone | hdepth | hstep
    · exact .inl (hover hgone)
    · -- Whoever waits for a listener has published.
      obtain rfl := h.intake.stands.spreading_of_depth hdepth
      obtain ⟨g, hlast, -⟩ := h.recent rfl
      refine .inl (hone ?_ rfl)
      rcases hreads.of_encode with hreceived | hreceived
      · rw [hreceived] at hlast
        cases hlast
      · exact hreceived
    · exact .inr hstep

theorem logged_of_run (hbegin : Logged n₀ loop [] n₀ s) (hrun : n₀.run ms = some n) :
    ∃ s, Logged n₀ loop ms n s := by
  refine run_induction (P := fun ms n => ∃ s, Logged n₀ loop ms n s) ⟨s, hbegin⟩ ?_ hrun
  intro ms m n n' hrun ⟨s, h⟩ hmove
  by_cases hown : m = .step loop.id
  · subst hown
    obtain ⟨s', h', -⟩ := h.step hrun hmove
    exact ⟨s', h'⟩
  · exact ⟨s, h.beside hrun hmove hown⟩

/-! ## Out and in -/

/-- What the bytes of a frame come to where they arrive. -/
structure Conveys (table : MappingTable) (f : Frame) (m : Message) : Prop where
  /-- They are read as the frame, whatever follows. -/
  read : ∀ {tail source : Source} {rest : Bytes}, Delivers tail source (f.encode ++ rest) →
    ∃ left, readFrame source = (.ok f, left) ∧ Delivers tail left rest
  datagram : ∀ trailing : Bytes,
    DatagramLink.decode ((f.encode ++ trailing).take maxDatagram) = .ok f
  /-- Whatever its transport is, a bridge that receives the frame publishes the message, once. -/
  received : ∀ {n₀ n : Node} {loop : Loop} {ms : List Move}, loop.bridge.table = table →
    Numbered n₀ → n₀.tasks.get? loop.id = some (loop.task (.acting (.listen loop.b)) []) →
    n₀.bridges.get? loop.b = some loop.bridge → n₀.run ms = some n →
    (history n₀ ms).filterMap (receives? loop.id) = [f] →
    let published := (history n₀ ms).filterMap (publishes? loop.id)
    published = [loop.publication m] ∨ published = [] ∧ (n.step loop.id).isSome = true ∧
      publishes? loop.id (n, .step loop.id) = some (loop.publication m)
  /-- A bridge over a link that cannot dial gets the bytes, in whatever pieces, and then the end
  of its stream: it publishes the message, once, before it is over or waits for anything. -/
  streamed : ∀ {n₀ n : Node} {loop : Loop} {c : ConnectionName} {ms : List Move},
    loop.bridge.table = table → Begins n₀ loop c → n₀.run ms = some n →
    (∀ x ∈ history n₀ ms, Undisturbed loop c x) → stream n₀ c ms = f.encode →
    let published := (history n₀ ms).filterMap (publishes? loop.id)
    published <+: [loop.publication m] ∧
    (n.tasks.get? loop.id = none → published = [loop.publication m]) ∧
    ((n.connection c).remoteClosed = true →
      published = [loop.publication m] ∨ (n.step loop.id).isSome = true) ∧
    (history n₀ ms).countP (advances loop.id) ≤ 9 * f.encode.length + 11

theorem conveys_of_frameOf {table : MappingTable} {body : Body} (hbuilt : table.Built .standard)
    (hframe : table.frameOf (.known body) = .ok f) : Conveys table f (.known body) := by
  have hcarries : table.messageOf? f = some (.known body) := hbuilt.messageOf?_frameOf hframe
  refine ⟨readFrame_encode, DatagramLink.decode_encode f, ?_, ?_⟩
  · rintro n₀ n loop ms rfl hn found hbridge hrun hreceived
    obtain ⟨s, h⟩ := logged_of_run (.begin hn found hbridge) hrun
    rcases h.published_of_one hreceived hcarries with hdone | ⟨hnone, hnext⟩
    · exact .inl hdone
    · exact .inr ⟨hnone, step_of_publishes hnext, hnext⟩
  · rintro n₀ n loop c ms rfl hbegins hrun hund hbytes
    obtain ⟨s, w, h⟩ := pipeline_of_run hbegins hrun hund
    obtain ⟨hwithin, hover, hgoesOn⟩ := h.published_of_one hbytes hcarries
    have hbounded := Nat.le_trans (Nat.le_add_right _ w) h.bounded
    exact ⟨hwithin, hover, hgoesOn, hbytes ▸ hbounded⟩

variable {b : BridgeId} {bridge : Bridge} {base : Task} {body : Body} {configs : List MappingConfig}

/-- **What is sent through one bridge is published by the other, and what fails sends nothing.**
A message whose type is not mapped, or that does not fit, is refused as such, and its transport
is handed nothing.  Any other is handed over as one frame, whose bytes make every bridge of
that table publish the message, once. -/
theorem post_conveys (hbuild : MappingTable.build .standard configs = .ok bridge.table)
    (hn : Numbered n) (hbridge : n.bridges.get? b = some bridge)
    (found : n.tasks.get? id = some base)
    (acts : n.actionOf? id = some (.post b (.known body))) :
    let table := bridge.table
    let message := Message.known body
    (n.step id).isSome = true ∧
    (∀ {ms n'}, n.run (.step id :: ms) = some n' →
      (∀ x ∈ history n (.step id :: ms), ∀ r,
        x.1.tasks.get? id ≠ some { base with activity := .replying r }) →
      Outcome n id base bridge message
        ((history n (.step id :: ms)).filterMap (sends? id)) n') ∧
    (table.Maps message → message.encode.length ≤ 127 → ∃ f, table.frameOf message = .ok f ∧
      (∃ n₁, n.step id = some n₁ ∧ n₁.tasks.get? id = some { base with
        activity := .acting (.send bridge.transport f), pending := .posted :: base.pending }) ∧
      Conveys table f message) ∧
    (body.kind = .simulationData → 127 < message.encode.length) := by
  intro table message
  have hbuilt := MappingTable.built_of_build hbuild
  have hstep := step_of_post found acts hbridge
  refine ⟨by simp [hstep], outcome_of_run hn hbridge found acts, ?_,
    MappingTable.oversized_of_simulationData⟩
  intro hmaps hfits
  obtain ⟨entry, -, -, hframe⟩ := MappingTable.exists_frameOf hmaps hfits
  refine ⟨_, hframe, ?_, conveys_of_frameOf hbuilt hframe⟩
  rw [hstep, hframe]
  exact ⟨_, rfl, found_setTask ..⟩

/-- An acceptor whose peers can switch the sensors. -/
def sensorAcceptor : Acceptor :=
  { maxPeers := 1, capacity := 1, table := ⟨[⟨"sensors", 4, Kind.enableSensors.family, false⟩]⟩ }

/-- A bridge with the table of the acceptor, through which a task switches the sensors on. -/
def switchboard : Node where
  transports := Assoc.empty.set 0
    { carrier := .scripted { sends := [], receives := [], canRecover := false } }
  bridges := Assoc.empty.set 1 { id := ⟨1⟩, table := sensorAcceptor.table, transport := 0 }
  tasks := Assoc.empty.set 2 { activity := .acting (.post 1 (.known (.enableSensors ⟨true⟩))) }
  fresh := 3

theorem numbered_switchboard : Numbered switchboard := by
  have hne : ∀ x k : Nat, switchboard.fresh ≤ x → k < 3 → x ≠ k := fun x k hx hk =>
    Nat.ne_of_gt (Nat.lt_of_lt_of_le hk hx)
  refine ⟨?_, ?_, ?_, by decide⟩
  · intro x hx
    simp [switchboard, hne x 2 hx (by decide)]
  · intro x hx
    simp [switchboard, hne x 0 hx (by decide)]
  · intro x hx
    simp [switchboard, hne x 1 hx (by decide)]

/-- A peer sends the frame for that in two pieces, and then closes. -/
def switching : List Move :=
  [.outside (.write "peer" [0xFF, 0xFF, 4]), .outside (.write "peer" [1, 1, 0, 6]),
    .outside (.close "peer")] ++ List.replicate 27 (.step 3)

/-- What switches the sensors on is handed over once, and its bytes switch them on elsewhere. -/
theorem post_conveys_switch :
    let on : Message := .known (.enableSensors ⟨true⟩)
    let n₀ := quay.attach 0 sensorAcceptor "peer"
    ∃ n n' f, switchboard.run (List.replicate 4 (.step 2)) = some n ∧
      n.tasks.get? 2 = some { activity := .replying (.posted (.ok ())) } ∧
      (history switchboard (List.replicate 4 (.step 2))).filterMap (sends? 2) = [(0, f)] ∧
      n₀.run switching = some n' ∧ stream n₀ "peer" switching = f.encode ∧
      n'.tasks.get? 3 = none ∧
      (history n₀ switching).filterMap (publishes? 3) = [(some ⟨2⟩, some on)] := by
  intro on n₀
  let base : Task := { activity := .acting (.post 1 on) }
  have hbuild : MappingTable.build .standard
      [{ name := "sensors", tag := some 4, className := some "EnableSensors" }] =
        .ok sensorAcceptor.table := rfl
  obtain ⟨-, hruns, hframed, -⟩ := @post_conveys switchboard 2 1
    { id := ⟨1⟩, table := sensorAcceptor.table, transport := 0 } base (.enableSensors ⟨true⟩) _
    hbuild numbered_switchboard rfl rfl rfl
  obtain ⟨f, hframe, -, hconveys⟩ := hframed ⟨_, .head _, rfl⟩ (by decide)
  obtain ⟨n, hrun, hback⟩ : ∃ n, switchboard.run (List.replicate 4 (.step 2)) = some n ∧
      n.tasks.get? 2 = some { base with activity := .replying (.posted (.ok ())) } := ⟨_, rfl, rfl⟩
  have hinside : (history switchboard (List.replicate 4 (.step 2))).all
      (fun x => (x.1.tasks.get? 2).any fun task =>
        task.activity.action?.isSome || !task.pending.isEmpty) = true := by
    decide +kernel
  have hfirst : ∀ x ∈ history switchboard (List.replicate 4 (.step 2)), ∀ r,
      x.1.tasks.get? 2 ≠ some { base with activity := .replying r } := by
    intro x hx r hreplying
    have hx := List.all_eq_true.mp hinside x hx
    rw [hreplying] at hx
    cases hx
  have hsent := ((hruns hrun hfirst).handed f hframe).2 _ hback
  have hends : (n₀.run switching).map (fun n => (n.tasks.get? 3).isNone) = some true := by
    decide +kernel
  obtain ⟨n', hrun', hgone⟩ := Option.map_eq_some_iff.mp hends
  have hgone : n'.tasks.get? 3 = none := Option.isNone_iff_eq_none.mp hgone
  have hbytes : stream n₀ "peer" switching = f.encode := by
    cases hframe
    decide +kernel
  have hn : Numbered quay := ⟨fun _ _ => rfl, fun _ _ => rfl, fun _ _ => rfl, List.nodup_nil⟩
  have hcalm : (history n₀ switching).all isCalm = true := by decide +kernel
  have hbegins : Begins n₀ (peerLoop sensorAcceptor) "peer" := attach_begins hn (by decide) rfl
  obtain ⟨-, hover, -⟩ := hconveys.streamed rfl hbegins hrun'
    (fun x hx => undisturbed_of_isCalm (List.all_eq_true.mp hcalm x hx)) hbytes
  exact ⟨n, n', f, hrun, hback, hsent, hrun', hbytes, hgone, hover hgone⟩

end Node

end TelemetryRelay
