import TelemetryRelay.Proofs.Node.Roster

/-!
# Bridges that share a table and a bus

Here all bridges have the same table, each has a transport of its own and subscribes
under the id that goes with its number, and the other listeners do not publish.  It
stays so, with the bridges of new peers too, and whoever is subscribed has asked for
it in such a way.
-/

namespace TelemetryRelay

/-- What an actor does that publishes nothing. -/
inductive Behaviour.Quiet : Behaviour → Prop
  | finish {taken : Bool} : Quiet (.finish taken)
  | subscribe {who : String} {type : Family} {next : Behaviour} (goesOn : next.Quiet) :
      Quiet (.subscribe who type next)
  | unsubscribe {who : String} {next : Bool → Behaviour} (goesOn : ∀ was, (next was).Quiet) :
      Quiet (.unsubscribe who next)

namespace Node

structure Shared (table : MappingTable) (n : Node) : Prop where
  numbered : Numbered n
  /-- The bridges have the table, an id of their own, and a transport that is known. -/
  bridges : ∀ b bridge, n.bridges.get? b = some bridge →
    bridge.id = ⟨b⟩ ∧ bridge.table = table ∧ bridge.transport < n.fresh
  apart : ∀ b b' bridge bridge', n.bridges.get? b = some bridge →
    n.bridges.get? b' = some bridge' → bridge.transport = bridge'.transport → b = b'
  actors : ∀ name actor, n.actors.get? name = some actor →
    actor.id.number < n.fresh ∧ n.bridges.get? actor.id.number = none
  quiet : ∀ name actor, n.actors.get? name = some actor →
    ∀ calls message, (actor.behave calls message).Quiet
  acceptors : ∀ a acceptor, n.acceptors.get? a = some acceptor → acceptor.table = table

/-- Bridges ask for advertised types under their own ids, others ask under other ids. -/
inductive Orderly (table : MappingTable) (n : Node) : Bus.Change Listener → Prop
  | bridge {b : BridgeId} {bridge : Bridge} {type : Family}
      (found : n.bridges.get? b = some bridge) (interest : type ∈ table.interests) :
      Orderly table n (.subscribe ⟨b⟩ (.bridge b) type)
  | other {id : ListenerId} {listener : Listener} {type : Family}
      (off : listener.bridge? = none) (known : id.number < n.fresh)
      (apart : n.bridges.get? id.number = none) : Orderly table n (.subscribe id listener type)
  | leaves {id : ListenerId} : Orderly table n (.unsubscribe id)

/-- The bus is what orderly changes have made of it. -/
structure Hub (table : MappingTable) (cs : List (Bus.Change Listener)) (n : Node) : Prop where
  shared : Shared table n
  bus : n.bus = Bus.after cs
  orderly : ∀ c ∈ cs, Orderly table n c

variable {n n' n₀ : Node} {id : TaskId} {a : Action} {m : Move} {ms : List Move} {b : BridgeId}
  {bridge : Bridge} {table : MappingTable} {cs : List (Bus.Change Listener)}
  {c : Bus.Change Listener}

/-! ## The tables of acceptors -/

theorem Effect.tables (h : Effect n id a n' cs) : n'.front.tables = n.front.tables := by
  cases h with
  | carries hcarries => rw [hcarries.front]
  | hands found => rfl
  | behaves cs => rfl
  | silences ends found =>
      rw [silence_of_found found]
      rfl
  | @attaches a acceptor c rest found room =>
      obtain ⟨bridges, -, heq⟩ := attach_eq n a { acceptor with backlog := rest } c room
      rw [heq]
      funext x
      by_cases hx : x = a
      · simp [front, hx, found]
      · simp [front, hx]

theorem Happens.tables {o : Occurrence} (h : Happens n o n' cs) :
    n'.front.tables = n.front.tables := by
  cases h with
  | keeps hkeeps => rw [hkeeps.front]
  | begins hkeeps =>
      rw [hkeeps.front]
      rfl
  | asks cs who => rfl
  | starts found => rfl

theorem tables_move (h : n.move m = some n') : n'.front.tables = n.front.tables := by
  have hmoved := moved_of_move h
  generalize changes (n, m) = cs at hmoved
  cases hmoved with
  | keeps bridges tables => exact tables
  | acts effect => exact effect.tables
  | happens happens => exact happens.tables

/-! ## What is shared stays shared -/

theorem Shared.named (h : Shared table n) : Named n :=
  ⟨h.numbered, fun b bridge found => (h.bridges b bridge found).1, h.actors⟩

theorem Shared.move (h : Shared table n) (hmove : n.move m = some n') : Shared table n' := by
  have hnamed := h.named.move hmove
  have hspares := spares_move h.numbered hmove
  have hcame {b : BridgeId} {bridge : Bridge} (found : n'.bridges.get? b = some bridge) :=
    came_of_move hmove found
  refine ⟨hnamed.numbered, ?_, ?_, hnamed.actors, ?_, ?_⟩
  · intro b bridge found
    refine ⟨hnamed.bridges b bridge found, ?_⟩
    cases hcame found with
    | before hfound =>
        obtain ⟨-, htable, hlt⟩ := h.bridges _ _ hfound
        exact ⟨htable, Nat.lt_of_lt_of_le hlt hspares.fresh⟩
    | @peer a acceptor hfound new =>
        have hlt := hnamed.numbered.lt_of_bridge found
        rw [new] at hlt
        exact ⟨h.acceptors a acceptor hfound, Nat.lt_of_le_of_lt (Nat.le_add_right _ 2) hlt⟩
  · intro b b' bridge bridge' found found' hsame
    cases hcame found with
    | before hfound =>
        cases hcame found' with
        | before hfound' => exact h.apart _ _ _ _ hfound hfound' hsame
        | peer hfound' new =>
            -- The transport of a new peer is not yet known to any bridge.
            have hlt := (h.bridges _ _ hfound).2.2
            exact absurd hsame (Nat.ne_of_lt hlt)
    | peer hfound new =>
        cases hcame found' with
        | before hfound' =>
            have hlt := (h.bridges _ _ hfound').2.2
            exact absurd hsame.symm (Nat.ne_of_lt hlt)
        | peer hfound' new' => rw [new, new']
  · intro name actor' hget
    obtain ⟨actor, hactor, -, hbehave⟩ := hspares.actor hget
    rw [← hbehave]
    exact h.quiet name actor hactor
  · intro a acceptor found
    have htables := congrFun (tables_move hmove) a
    rw [tables_of_get? found rfl] at htables
    obtain ⟨acceptor', hfound, hsame⟩ := Option.map_eq_some_iff.mp htables.symm
    rw [← hsame]
    exact h.acceptors a acceptor' hfound

/-- Where all bridges have the table, to ask for what one advertises is to ask for what the
table advertises. -/
theorem Shared.orderly_iff (h : Shared table n) : Orderly table n c ↔ Signed n c := by
  constructor <;> rintro (⟨found, interest⟩ | ⟨off, known, apart⟩ | _)
  · refine .bridge found ?_
    rw [← (h.bridges _ _ found).2.1] at interest
    exact interest
  · exact .other off known apart
  · exact .leaves
  · refine .bridge found ?_
    rw [← (h.bridges _ _ found).2.1]
    exact interest
  · exact .other off known apart
  · exact .leaves

theorem Hub.signed (h : Hub table cs n) : ∀ c ∈ cs, Signed n c :=
  fun c hc => h.shared.orderly_iff.mp (h.orderly c hc)

theorem Hub.move (h : Hub table cs n) (hmove : n.move m = some n') :
    Hub table (cs ++ changes (n, m)) n' := by
  refine ⟨h.shared.move hmove, ?_, ?_⟩
  · rw [bus_move hmove, h.bus, ← Bus.after_append]
  · intro c hc
    refine (h.shared.move hmove).orderly_iff.mpr ?_
    rcases List.mem_append.mp hc with hc | hc
    · exact (h.signed c hc).move h.shared.numbered hmove
    · exact h.shared.named.signed hmove hc

/-- **Along every run the bus is what orderly changes have made of it.** -/
theorem Hub.snoc (h : Hub table (cs ++ (history n₀ ms).flatMap changes) n)
    (hrun : n₀.run ms = some n) (hmove : n.move m = some n') :
    Hub table (cs ++ (history n₀ (ms ++ [m])).flatMap changes) n' := by
  have hmoved := h.move hmove
  rw [history_snoc hrun, List.flatMap_append, ← List.append_assoc]
  simpa using hmoved

/-! ## Who is called -/

variable {s : Subscriber Listener} {sender : Option ListenerId} {type : Family}

/-- A bridge has asked for all types that are advertised, and has not left since. -/
def Attuned (table : MappingTable) (cs : List (Bus.Change Listener)) (b : BridgeId) : Prop :=
  ∀ type ∈ table.interests, Bus.Asked cs ⟨b⟩ type

theorem Attuned.append {cs' : List (Bus.Change Listener)} (h : Attuned table cs b)
    (hstays : .unsubscribe ⟨b⟩ ∉ cs') : Attuned table (cs ++ cs') b := by
  intro type htype
  obtain ⟨before, listener, after, rfl, hafter⟩ := h type htype
  refine ⟨before, listener, after ++ cs', by simp, ?_⟩
  rw [List.mem_append]
  exact fun hmem => hmem.elim hafter hstays

theorem Hub.of_bridge (h : Hub table cs n) (hs : s ∈ n.bus.subscribers)
    (hlistener : s.listener = .bridge b) :
    s.id = ⟨b⟩ ∧ ∃ bridge, n.bridges.get? b = some bridge := by
  obtain ⟨type, hsigned⟩ := signed_of_subscribed h.bus h.signed hs
  rw [hlistener] at hsigned
  exact hsigned.of_bridge

theorem Hub.is_bridge (h : Hub table cs n) (hs : s ∈ n.bus.subscribers) (hid : s.id = ⟨b⟩)
    (found : n.bridges.get? b = some bridge) : s.listener = .bridge b := by
  obtain ⟨type, hsigned⟩ := signed_of_subscribed h.bus h.signed hs
  rw [hid] at hsigned
  exact hsigned.is_bridge found

/-- A bridge gets only messages that are advertised. -/
theorem Hub.listens (h : Hub table cs n) (hrooted : type.isMessage = true)
    (hs : s ∈ n.bus.recipients sender type) (hlistener : s.listener = .bridge b) :
    table.listens type = true := by
  obtain ⟨hid, bridge, found⟩ := h.of_bridge (List.mem_filter.mp hs).1 hlistener
  have hcalled : (s.id, s.listener) ∈ n.bus.callees sender type := List.mem_map.mpr ⟨s, hs, rfl⟩
  rw [h.bus, Bus.callees_ledger hrooted, hid] at hcalled
  obtain ⟨-, asked, hasked, hmember⟩ :=
    ((Bus.records_ledger cs).mem_callees_iff _).mp ⟨_, hcalled⟩
  obtain ⟨before, listener, after, hsplit, -⟩ := hasked
  have horderly := h.orderly (.subscribe ⟨b⟩ listener asked) (by simp [hsplit])
  cases horderly with
  | bridge _ interest => exact List.any_eq_true.mpr ⟨asked, interest, hmember⟩
  | other _ _ apart => cases apart.symm.trans found

/-- **A bridge that has asked for all that is advertised is called for all of it.** -/
theorem Hub.calls (h : Hub table cs n) (hrooted : type.isMessage = true)
    (hattuned : Attuned table cs b) (found : n.bridges.get? b = some bridge)
    (hother : some ⟨b⟩ ≠ sender) (hlistens : table.listens type = true) :
    ∃ s ∈ n.bus.recipients sender type, s.listener = .bridge b := by
  obtain ⟨interest, hinterest, hmember⟩ := List.any_eq_true.mp hlistens
  have hasked := hattuned interest hinterest
  obtain ⟨listener, hcalled⟩ :=
    ((Bus.records_ledger cs).mem_callees_iff ⟨b⟩).mpr ⟨hother, interest, hasked, hmember⟩
  rw [← Bus.callees_ledger hrooted, ← h.bus] at hcalled
  obtain ⟨s, hs, hpair⟩ := List.mem_map.mp hcalled
  obtain ⟨hid, -⟩ := Prod.mk.inj hpair
  exact ⟨s, hs, h.is_bridge (List.mem_filter.mp hs).1 hid found⟩

theorem Hub.nodup (h : Hub table cs n) : (n.bus.subscribers.map (·.id)).Nodup := by
  rw [h.bus]
  exact Bus.nodup_after cs

end Node

end TelemetryRelay
