import TelemetryRelay.Proofs.Bus.Entries
import TelemetryRelay.Proofs.Node.Effects

/-!
# Who gets a message

Whatever has been asked of the bus of a node, by itself or from outside, between
messages or while one is delivered: who gets a message is said by the history of
subscriptions, as if every one of them had been kept as it was made.  The bus itself
keeps one entry for each listener, and no type in it that it can do without.
-/

namespace TelemetryRelay.Node

variable {n₀ n : Node} {ms : List Move} {cs : List (Bus.Change Listener)}

/-- **Subscriptions mean what was asked for.** After any run, a listener that is not the
sender gets a message of a type that is a member of the root exactly if it has asked,
since it was unsubscribed last, for a family that the type is a member of.  The
listener that is called is the one that came with the first of these subscriptions,
and these first subscriptions put the recipients in order.  The bus that keeps every
subscription as it was made has the same recipients. -/
theorem recipients_of_history (hstart : n₀.bus = Bus.after cs) (hrun : n₀.run ms = some n)
    (sender : Option ListenerId) {message : Message} (hrooted : message.family.isMessage = true) :
    let asked := cs ++ (history n₀ ms).flatMap changes
    let called := n.bus.callees sender message.family
    (∀ id, (∃ listener, (id, listener) ∈ called) ↔
      some id ≠ sender ∧ ∃ type, Bus.Asked asked id type ∧ message.family.isA type = true) ∧
    (∀ id listener, (id, listener) ∈ called → ∃ position, Bus.Joined asked id listener position) ∧
    (called.Pairwise fun p p' => ∀ position position', Bus.Joined asked p.1 p.2 position →
      Bus.Joined asked p'.1 p'.2 position' → position < position') ∧
    called = (Bus.ledger asked).callees sender message.family ∧
    n.publish sender (some message) =
      .go (.deliver ⟨message, n.bus.recipients sender message.family, 0⟩) := by
  intro asked called
  have hbus : n.bus = Bus.after asked := by
    rw [bus_run hrun, hstart, ← Bus.after_append]
  have hcalled : called = (Bus.ledger asked).callees sender message.family := by
    rw [← Bus.callees_ledger hrooted, ← hbus]
  have hrecords := Bus.records_ledger asked
  rw [hcalled]
  refine ⟨hrecords.mem_callees_iff, ?_, ?_, rfl, rfl⟩
  · intro id listener hmem
    obtain ⟨s, hs, rfl, rfl, -⟩ := Bus.mem_callees.mp hmem
    exact hrecords.joined s hs
  · refine List.pairwise_map.mpr ((hrecords.ordered.filter _).imp ?_)
    intro s s' hlt position position' hjoined hjoined'
    exact hlt _ _ _ _ hjoined hjoined'

/-- Subscribes another actor and takes the message. -/
def invites : Behaviour := .subscribe "second" Kind.idleLimit.family (.finish true)

/-- Two actors, of which the first invites the second whenever it gets a message. -/
def twoActors : Node where
  actors := (Assoc.empty.set "first" { id := ⟨1⟩, behave := fun _ _ => invites }).set "second"
    { id := ⟨2⟩ }

/-- The second actor is unsubscribed and then subscribed again by the first. -/
def rejoined : List Move :=
  [.outside (.subscribe "second" Family.anyMessage),
    .outside (.subscribe "first" Kind.idleLimit.family),
    .outside (.subscribe "first" Family.anyMessage), .outside (.unsubscribe "second"),
    .outside (.begin (.publish none (some (.foreign Kind.idleLimit.family []))) none),
    .step 0, .step 0, .step 0, .step 0]

/-- The narrower subscription is still worth a message, and the second actor stands
behind the first. -/
theorem recipients_of_history_rejoined :
    ∃ n, twoActors.run rejoined = some n ∧
      n.bus.callees (some ⟨3⟩) Kind.idleLimit.family =
        [(⟨1⟩, .actor "first"), (⟨2⟩, .actor "second")] ∧
      ∃ type, Bus.Asked ((history twoActors rejoined).flatMap changes) ⟨2⟩ type ∧
        Kind.idleLimit.family.isA type = true := by
  have hrun : ∃ n, twoActors.run rejoined = some n ∧
      n.bus.callees (some ⟨3⟩) Kind.idleLimit.family =
        [(⟨1⟩, .actor "first"), (⟨2⟩, .actor "second")] := ⟨_, rfl, by decide⟩
  obtain ⟨n, hrun, hcalled⟩ := hrun
  have hrooted : (Message.foreign Kind.idleLimit.family []).family.isMessage = true := by decide
  have hempty : twoActors.bus = Bus.after [] := rfl
  obtain ⟨hwho, -⟩ := recipients_of_history hempty hrun (some ⟨3⟩) hrooted
  refine ⟨n, hrun, hcalled, ((hwho ⟨2⟩).mp ⟨.actor "second", ?_⟩).2⟩
  show _ ∈ n.bus.callees (some ⟨3⟩) Kind.idleLimit.family
  rw [hcalled]
  decide

/-! ## What the bus keeps -/

theorem listenerCount_unsubscribe (h : n.bus.Tidy) (who : String) :
    (n.unsubscribe who).bus.listenerCount + (if n.isSubscribed who then 1 else 0) =
      n.bus.listenerCount := by
  unfold unsubscribe isSubscribed
  cases n.listenerId? who with
  | none => rfl
  | some id => exact h.listenerCount_unsubscribe id

/-- **A bus has one entry for each listener and no type in it twice.** After any run no two
entries stand under one id, and each holds at least one type, no two types of one name, and
nothing besides the root if it holds that.  So the counts are those of the ids that have asked
for something since they were unsubscribed last, and of the pairs of an id and the name of a
type.  Whoever unsubscribes learns whether it was subscribed, and leaves one listener less
exactly then.  No id gets a message twice. -/
theorem one_entry_each (hstart : n₀.bus = Bus.after cs) (hrun : n₀.run ms = some n) :
    let asked := cs ++ (history n₀ ms).flatMap changes
    (n.bus.subscribers.map (·.id)).Nodup ∧
    (∀ s ∈ n.bus.subscribers, s.types ≠ [] ∧ (s.types.map Family.name).Nodup ∧
      ∀ type ∈ s.types, type.same Family.anyMessage = true → s.types = [type]) ∧
    (∀ id, n.bus.isSubscribed id = true ↔ ∃ type, Bus.Asked asked id type) ∧
    n.bus.listenerCount = Set.ncard {id | n.bus.isSubscribed id = true} ∧
    n.bus.subscriptionCount = Set.ncard {p : ListenerId × String | ∃ s ∈ n.bus.subscribers,
      s.id = p.1 ∧ p.2 ∈ s.types.map Family.name} ∧
    n.bus.listenerCount ≤ n.bus.subscriptionCount ∧
    (∀ id, (n.bus.unsubscribe id).listenerCount + (if n.bus.isSubscribed id then 1 else 0) =
      n.bus.listenerCount) ∧
    (∀ name who next, n.behave name (.unsubscribe who next) =
        (n.unsubscribe who, .go (.behave name (next (n.isSubscribed who)))) ∧
      (n.isSubscribed who = true ↔ ∃ id ∈ n.listenerId? who, n.bus.isSubscribed id = true) ∧
      (n.unsubscribe who).bus.listenerCount + (if n.isSubscribed who then 1 else 0) =
        n.bus.listenerCount) ∧
    ∀ sender message, ∃ d, n.publish sender (some message) = .go (.deliver d) ∧
      (d.remaining.map (·.id)).Nodup := by
  intro asked
  have hbus : n.bus = Bus.after asked := by
    rw [bus_run hrun, hstart, ← Bus.after_append]
  have htidy : n.bus.Tidy := hbus ▸ Bus.tidy_after asked
  refine ⟨htidy.ids, fun s hs => ?_, fun id => ?_, htidy.listenerCount_eq,
    htidy.subscriptionCount_eq, htidy.listenerCount_le, htidy.listenerCount_unsubscribe,
    fun name who next => ⟨rfl, ?_, listenerCount_unsubscribe htidy who⟩, fun sender message => ?_⟩
  · have hentry := htidy.entries s hs
    exact ⟨hentry.some_type, hentry.apart, hentry.root_alone⟩
  · rw [hbus]
    exact Bus.isSubscribed_after_iff
  · simp [isSubscribed, Option.any_eq_true]
  · exact ⟨_, rfl, htidy.nodup_recipients sender message.family⟩

/-- The first actor asks for one type and then for everything, which takes its place; the second
leaves and is invited again while a message is delivered. -/
theorem one_entry_each_rejoined :
    ∃ n, twoActors.run rejoined = some n ∧ n.bus.subscriptionCount = 2 ∧
      (n.bus.unsubscribe ⟨2⟩).listenerCount = 1 ∧
      Set.ncard {id | n.bus.isSubscribed id = true} = 2 := by
  have hrun : ∃ n, twoActors.run rejoined = some n ∧ n.bus.subscriptionCount = 2 ∧
      n.bus.listenerCount = 2 ∧ n.bus.isSubscribed ⟨2⟩ = true := ⟨_, rfl, by decide⟩
  obtain ⟨n, hrun, htypes, hcount, hthere⟩ := hrun
  have hempty : twoActors.bus = Bus.after [] := rfl
  obtain ⟨-, -, -, hlisteners, -, -, hleaves, -⟩ := one_entry_each hempty hrun
  have hleft := hleaves ⟨2⟩
  rw [hthere, if_pos rfl, hcount] at hleft
  exact ⟨n, hrun, htypes, Nat.succ.inj hleft, hlisteners.symm.trans hcount⟩

end TelemetryRelay.Node
