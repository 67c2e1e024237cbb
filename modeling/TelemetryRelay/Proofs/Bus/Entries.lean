import Mathlib.Data.Set.Card
import TelemetryRelay.Proofs.Bus.History

/-!
# The entries of a bus

A bus has one entry for each listener, and in it no more types than it needs: at least one, none
twice, and the root on its own.  So its counts are those of the subscriptions, however often one
was made.
-/

namespace TelemetryRelay

variable {α : Type}

/-- What a subscriber keeps of its types. -/
structure Subscriber.Tidy (s : Subscriber α) : Prop where
  some_type : s.types ≠ []
  apart : (s.types.map Family.name).Nodup
  root_alone : ∀ type ∈ s.types, type.same Family.anyMessage = true → s.types = [type]

namespace Subscriber

theorem tidy_singleton (id : ListenerId) (listener : α) (type : Family) :
    Tidy ⟨id, listener, [type]⟩ := by
  refine ⟨by simp, by simp, fun type' htype _ => ?_⟩
  obtain rfl : type' = type := by simpa using htype
  rfl

/-- A further type keeps an entry tidy. -/
theorem Tidy.widen {s : Subscriber α} (h : s.Tidy) (type : Family) : (s.widen type).Tidy := by
  unfold Subscriber.widen
  split
  · exact h
  · rename_i hnew
    obtain ⟨hroot, htype⟩ : s.holds Family.anyMessage = false ∧ s.holds type = false := by
      simpa using hnew
    split
    · exact tidy_singleton s.id s.listener type
    · rename_i hother
      have hname : ∀ held ∈ s.types, held.name ≠ type.name := by
        intro held hheld
        simpa [Family.same] using List.any_eq_false.mp htype held hheld
      refine ⟨by simp, ?_, fun held hheld hsame => ?_⟩
      · rw [List.map_append, List.map_singleton]
        refine List.nodup_append.mpr ⟨h.apart, List.nodup_singleton _, ?_⟩
        simpa using hname
      · rcases List.mem_append.mp hheld with hheld | hheld
        · exact absurd hsame (List.any_eq_false.mp hroot held hheld)
        · obtain rfl : held = type := by simpa using hheld
          exact absurd hsame hother

end Subscriber

namespace Bus

variable {b : Bus α}

/-! ## What every change keeps -/

/-- A bus with one entry for each listener, and each of them tidy. -/
structure Tidy (b : Bus α) : Prop where
  ids : (b.subscribers.map (·.id)).Nodup
  entries : ∀ s ∈ b.subscribers, s.Tidy

theorem Tidy.subscribe (h : b.Tidy) (id : ListenerId) (listener : α) (type : Family) :
    (b.subscribe id listener type).Tidy := by
  unfold Bus.subscribe
  split
  · refine ⟨?_, fun s hs => ?_⟩
    · rw [List.map_map]
      exact (List.map_congr_left fun s _ => id_ite_widen s id type) ▸ h.ids
    · obtain ⟨s, hmem, rfl⟩ := List.mem_map.mp hs
      split
      · exact (h.entries s hmem).widen type
      · exact h.entries s hmem
  · rename_i hnew
    refine ⟨?_, fun s hs => ?_⟩
    · rw [List.map_append, List.map_singleton]
      refine List.nodup_append.mpr ⟨h.ids, List.nodup_singleton _, ?_⟩
      have hother : ∀ s ∈ b.subscribers, s.id ≠ id := by
        simpa [isSubscribed] using hnew
      simpa using hother
    · rcases List.mem_append.mp hs with hs | hs
      · exact h.entries s hs
      · obtain rfl : s = ⟨id, listener, [type]⟩ := by simpa using hs
        exact Subscriber.tidy_singleton id listener type

theorem Tidy.unsubscribe (h : b.Tidy) (id : ListenerId) : (b.unsubscribe id).Tidy :=
  ⟨h.ids.sublist (List.filter_sublist.map _), fun s hs => h.entries s (List.mem_filter.mp hs).1⟩

theorem Tidy.apply (h : b.Tidy) (c : Change α) : (b.apply c).Tidy := by
  cases c with
  | subscribe id listener type => exact h.subscribe id listener type
  | unsubscribe id => exact h.unsubscribe id

theorem tidy_after (cs : List (Change α)) : (after cs).Tidy := by
  induction cs using List.reverseRecOn with
  | nil => exact ⟨.nil, by simp [after, applyAll, empty]⟩
  | append_singleton cs c ih =>
      rw [after_snoc]
      exact ih.apply c

/-! ## What is counted -/

/-- Who subscribed, and to a type of which name. -/
def pairs (b : Bus α) : List (ListenerId × String) :=
  b.subscribers.flatMap fun s => s.types.map fun type => (s.id, type.name)

theorem mem_pairs {p : ListenerId × String} : p ∈ b.pairs ↔
    ∃ s ∈ b.subscribers, s.id = p.1 ∧ p.2 ∈ s.types.map Family.name := by
  obtain ⟨id, name⟩ := p
  simp only [pairs, List.mem_flatMap, List.mem_map, Prod.mk.injEq]
  refine exists_congr fun s => and_congr_right fun _ => ?_
  exact ⟨fun ⟨type, htype, hid, hname⟩ => ⟨hid, type, htype, hname⟩,
    fun ⟨hid, type, htype, hname⟩ => ⟨type, htype, hid, hname⟩⟩

theorem length_pairs (b : Bus α) : b.pairs.length = b.subscriptionCount := by
  obtain ⟨ss⟩ := b
  induction ss with
  | nil => rfl
  | cons s ss ih =>
    simp only [pairs, subscriptionCount, List.flatMap_cons, List.length_append, List.length_map,
      List.foldr_cons] at ih ⊢
    rw [ih]

theorem Tidy.nodup_pairs (h : b.Tidy) : b.pairs.Nodup := by
  refine List.nodup_flatMap.mpr ⟨fun s hs => ?_, ?_⟩
  · have hnames := (h.entries s hs).apart
    have hpairs : s.types.map (fun type => (s.id, type.name)) =
        (s.types.map Family.name).map (Prod.mk s.id) := by
      rw [List.map_map]
      rfl
    rw [hpairs]
    exact hnames.map (Prod.mk_right_injective s.id)
  · refine (List.pairwise_map.mp h.ids).imp fun hne => ?_
    intro p hp hp'
    obtain ⟨type, -, rfl⟩ := List.mem_map.mp hp
    obtain ⟨type', -, hsame⟩ := List.mem_map.mp hp'
    exact hne (congrArg Prod.fst hsame).symm

/-- The subscriptions are as many as there are pairs of a listener and a type's name. -/
theorem Tidy.subscriptionCount_eq (h : b.Tidy) : b.subscriptionCount =
    Set.ncard {p : ListenerId × String | ∃ s ∈ b.subscribers, s.id = p.1 ∧
      p.2 ∈ s.types.map Family.name} := by
  have hset : {p : ListenerId × String | ∃ s ∈ b.subscribers, s.id = p.1 ∧
      p.2 ∈ s.types.map Family.name} = ↑b.pairs.toFinset := by
    ext p
    rw [List.coe_toFinset, Set.mem_ofPred_eq, Set.mem_ofPred_eq, mem_pairs]
  rw [hset, Set.ncard_coe_finset, List.toFinset_card_of_nodup h.nodup_pairs, length_pairs]

/-- The listeners are as many as there are ids subscribed. -/
theorem Tidy.listenerCount_eq (h : b.Tidy) :
    b.listenerCount = Set.ncard {id | b.isSubscribed id = true} := by
  have hset : {id | b.isSubscribed id = true} = ↑(b.subscribers.map (·.id)).toFinset := by
    ext id
    simp [isSubscribed]
  rw [hset, Set.ncard_coe_finset, List.toFinset_card_of_nodup h.ids, List.length_map, listenerCount]

theorem Tidy.listenerCount_le (h : b.Tidy) : b.listenerCount ≤ b.subscriptionCount := by
  have hsome : ∀ s ∈ b.subscribers, s.types ≠ [] := fun s hs => (h.entries s hs).some_type
  obtain ⟨ss⟩ := b
  clear h
  induction ss with
  | nil => exact Nat.le_refl _
  | cons s ss ih =>
    have hs : 0 < s.types.length := List.length_pos_of_ne_nil (hsome s (.head _))
    have hss := ih fun s hmem => hsome s (.tail _ hmem)
    simp only [listenerCount, subscriptionCount, List.length_cons, List.foldr_cons] at hss ⊢
    omega

/-- Whoever leaves was one listener, or none. -/
theorem Tidy.listenerCount_unsubscribe (h : b.Tidy) (id : ListenerId) :
    (b.unsubscribe id).listenerCount + (if b.isSubscribed id then 1 else 0) = b.listenerCount := by
  have hleft := List.length_eq_length_filter_add (l := b.subscribers) (·.id != id)
  have hgone : (b.subscribers.filter fun s => !(s.id != id)).length =
      if b.isSubscribed id then 1 else 0 := by
    have hcount : (b.subscribers.filter fun s => !(s.id != id)).length =
        (b.subscribers.map (·.id)).count id := by
      rw [List.count, List.countP_map, List.countP_eq_length_filter]
      simp [Function.comp_def, bne]
    have hmem : id ∈ b.subscribers.map (·.id) ↔ b.isSubscribed id = true := by
      simp [isSubscribed]
    rw [hcount, h.ids.count]
    simp only [hmem]
  rw [listenerCount, listenerCount, hleft, Bus.unsubscribe, hgone]

theorem Tidy.nodup_recipients (h : b.Tidy) (sender : Option ListenerId) (type : Family) :
    ((b.recipients sender type).map (·.id)).Nodup :=
  h.ids.sublist (List.filter_sublist.map _)

/-- Who is subscribed has asked for something. -/
theorem isSubscribed_after_iff {cs : List (Change α)} {id : ListenerId} :
    (after cs).isSubscribed id = true ↔ ∃ type, Asked cs id type := by
  rw [← (records_ledger cs).subscribed_iff]
  simp [isSubscribed, after_eq_ledger, Function.comp_def, Subscriber.id_collapse]

end Bus

end TelemetryRelay
