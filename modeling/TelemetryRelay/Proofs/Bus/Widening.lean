import Mathlib.Data.List.Nodup
import TelemetryRelay.Proofs.Bus.History

/-!
# What a further subscription changes

A listener gets the members of every type that it has asked for, unless one of these types is
the root: then it gets the members of the root, whatever else it has asked for.  So for members
of the root subscriptions add up, and only an unsubscription takes anything away.  A type that
is no member of the root is lost with the root subscription and cannot be had beside it.
-/

namespace TelemetryRelay

namespace Bus

variable {α : Type}

/-- A publish of the message by that sender is handed to the listener of that id. -/
def Reaches (b : Bus α) (sender : Option ListenerId) (id : ListenerId) (m : Message) : Prop :=
  ∃ d, Delivery.start b sender (some m) = .ok d ∧ ∃ s ∈ d.remaining, s.id = id

/-- The root is among the types that were asked for under an id. -/
def Rooted (cs : List (Change α)) (id : ListenerId) : Prop :=
  ∃ root, Asked cs id root ∧ root.same Family.anyMessage = true

variable {cs cs' : List (Change α)} {b : Bus α} {sender : Option ListenerId} {id : ListenerId}
  {listener : α} {type : Family} {m : Message}

theorem reaches_iff_recipient :
    Reaches b sender id m ↔ ∃ s ∈ b.recipients sender m.family, s.id = id := by
  simp [Reaches, Delivery.start]

instance : Decidable (Reaches b sender id m) := decidable_of_iff' _ reaches_iff_recipient

/-! ## Who is reached, by the history -/

/-- There is one entry under an id, so what it holds is what was asked for. -/
theorem Records.holds_root_iff (h : Records cs b) {s : Subscriber α} (hs : s ∈ b.subscribers) :
    s.holds Family.anyMessage = true ↔ Rooted cs s.id := by
  rw [Subscriber.holds_iff]
  constructor
  · rintro ⟨root, hroot, hsame⟩
    exact ⟨root, (h.asked s.id root).mpr ⟨s, hs, rfl, hroot⟩, hsame⟩
  · rintro ⟨root, hasked, hsame⟩
    obtain ⟨s', hs', hid, hroot⟩ := (h.asked s.id root).mp hasked
    obtain rfl : s' = s := List.inj_on_of_nodup_map h.nodup hs' hs hid
    exact ⟨root, hroot, hsame⟩

/-- **A message reaches whoever has asked for a type that it is a member of, unless the root was
asked for as well and the message is no member of that.** -/
theorem reaches_after_iff : Reaches (after cs) sender id m ↔ sender ≠ some id ∧
    (∃ asked, Asked cs id asked ∧ m.family.isA asked = true) ∧
      (Rooted cs id → m.family.isMessage = true) := by
  have hrecords := records_ledger cs
  simp only [reaches_iff_recipient, recipients, after_eq_ledger, List.mem_filter, List.mem_map,
    Bool.and_eq_true, bne_iff_ne]
  constructor
  · rintro ⟨_, ⟨⟨s, hs, rfl⟩, hsender, haccepts⟩, hid⟩
    rw [Subscriber.id_collapse] at hsender hid
    subst hid
    rw [Subscriber.accepts_collapse] at haccepts
    refine ⟨Ne.symm hsender, ?_, ?_⟩
    · obtain ⟨asked, hasked, hmember⟩ : ∃ asked ∈ s.types, m.family.isA asked = true := by
        split at haccepts
        · rename_i hroot
          obtain ⟨root, hheld, hsame⟩ := Subscriber.holds_iff.mp hroot
          exact ⟨root, hheld, by rw [Family.isA_of_same hsame]; exact haccepts⟩
        · exact List.any_eq_true.mp haccepts
      exact ⟨asked, (hrecords.asked s.id asked).mpr ⟨s, hs, rfl, hasked⟩, hmember⟩
    · intro hrooted
      rwa [(hrecords.holds_root_iff hs).mpr hrooted, if_pos rfl] at haccepts
  · rintro ⟨hsender, ⟨asked, hasked, hmember⟩, hrooted⟩
    obtain ⟨s, hs, rfl, hheld⟩ := (hrecords.asked id asked).mp hasked
    refine ⟨s.collapse, ⟨⟨s, hs, rfl⟩, ?_, ?_⟩, s.id_collapse⟩
    · rw [Subscriber.id_collapse]
      exact Ne.symm hsender
    · rw [Subscriber.accepts_collapse]
      split
      · rename_i hroot
        exact hrooted ((hrecords.holds_root_iff hs).mp hroot)
      · exact List.any_eq_true.mpr ⟨asked, hheld, hmember⟩

/-! ## One subscription more -/

theorem rooted_append (hstays : .unsubscribe id ∉ cs') : Rooted (cs ++ cs') id ↔ Rooted cs id ∨
    ∃ listener root, .subscribe id listener root ∈ cs' ∧ root.same Family.anyMessage = true := by
  simp only [Rooted, asked_append hstays]
  constructor
  · rintro ⟨root, hasked | ⟨listener, hmem⟩, hsame⟩
    · exact .inl ⟨root, hasked, hsame⟩
    · exact .inr ⟨listener, root, hmem, hsame⟩
  · rintro (⟨root, hasked, hsame⟩ | ⟨listener, root, hmem, hsame⟩)
    · exact ⟨root, .inl hasked, hsame⟩
    · exact ⟨root, .inr ⟨listener, hmem⟩, hsame⟩

/-- What reached a listener goes on reaching it until it is unsubscribed, or until it asks for
the root without the message being a member of that. -/
theorem reaches_applyAll (hstays : .unsubscribe id ∉ cs')
    (hreaches : Reaches (after cs) sender id m) :
    Reaches ((after cs).applyAll cs') sender id m ↔ m.family.isMessage = true ∨
      ∀ listener root, .subscribe id listener root ∈ cs' →
        root.same Family.anyMessage = false := by
  obtain ⟨hsender, ⟨asked, hasked, hmember⟩, hrooted⟩ := reaches_after_iff.mp hreaches
  rw [← after_append, reaches_after_iff, rooted_append hstays]
  constructor
  · rintro ⟨-, -, hall⟩
    refine or_iff_not_imp_left.mpr fun hforeign listener root hmem => ?_
    rw [← Bool.not_eq_true]
    intro hsame
    exact hforeign (hall (.inr ⟨listener, root, hmem, hsame⟩))
  · intro hkept
    refine ⟨hsender, ⟨asked, (asked_append hstays).mpr (.inl hasked), hmember⟩, ?_⟩
    rintro (hheld | ⟨listener, root, hmem, hsame⟩)
    · exact hrooted hheld
    · rcases hkept with hmessage | hnever
      · exact hmessage
      · rw [hnever listener root hmem] at hsame
        exact absurd hsame Bool.false_ne_true

theorem reaches_subscribe : Reaches ((after cs).subscribe id listener type) sender id m ↔
    sender ≠ some id ∧
      ((∃ asked, Asked cs id asked ∧ m.family.isA asked = true) ∨ m.family.isA type = true) ∧
      (Rooted cs id ∨ type.same Family.anyMessage = true → m.family.isMessage = true) := by
  have hstays : .unsubscribe id ∉ [Change.subscribe id listener type] := by simp
  have happly : (after cs).subscribe id listener type =
      after (cs ++ [.subscribe id listener type]) := by
    rw [after_snoc]
    rfl
  rw [happly, reaches_after_iff, rooted_append hstays]
  simp only [asked_append hstays, List.mem_singleton, Change.subscribe.injEq, true_and]
  refine and_congr_right fun _ => and_congr ?_ ?_
  · constructor
    · rintro ⟨asked, hasked | ⟨_, -, rfl⟩, hmember⟩
      · exact .inl ⟨asked, hasked, hmember⟩
      · exact .inr hmember
    · rintro (⟨asked, hasked, hmember⟩ | hmember)
      · exact ⟨asked, .inl hasked, hmember⟩
      · exact ⟨type, .inr ⟨listener, rfl, rfl⟩, hmember⟩
  · refine imp_congr_left (or_congr_right ?_)
    constructor
    · rintro ⟨_, _, ⟨-, rfl⟩, hsame⟩
      exact hsame
    · intro hsame
      exact ⟨listener, type, ⟨rfl, rfl⟩, hsame⟩

/-- **What one more subscription does to a listener**, in every history and for every type of
message, of the root or not.  The listener then gets the members of the type that it asks for,
and keeps what it got before, exactly as far as the root does not stand in the way: a root
subscription takes in the members of the root and nothing else, and drops what was asked for
beside it.  Nothing more is lost by any further change short of an unsubscription. -/
theorem subscription_effect (cs : List (Change α)) (listener : α) (type : Family) (m : Message)
    (hsender : sender ≠ some id) :
    (m.family.isA type = true →
      (Reaches ((after cs).subscribe id listener type) sender id m ↔
        m.family.isMessage = true ∨ ¬ Rooted cs id)) ∧
    (type.same Family.anyMessage = true →
      (Reaches ((after cs).subscribe id listener type) sender id m ↔
        m.family.isMessage = true)) ∧
    (Reaches (after cs) sender id m →
      (Reaches ((after cs).subscribe id listener type) sender id m ↔
        m.family.isMessage = true ∨ type.same Family.anyMessage = false)) ∧
    (Reaches ((after cs).subscribe id listener type) sender id m →
      Reaches (after cs) sender id m ∨ m.family.isA type = true) ∧
    ∀ cs', .unsubscribe id ∉ cs' → Reaches (after cs) sender id m →
      (Reaches ((after cs).applyAll cs') sender id m ↔ m.family.isMessage = true ∨
        ∀ listener root, .subscribe id listener root ∈ cs' →
          root.same Family.anyMessage = false) := by
  have hroot (hsame : type.same Family.anyMessage = true) :
      m.family.isA type = m.family.isMessage := Family.isA_of_same hsame
  refine ⟨?_, ?_, ?_, ?_, fun cs' => reaches_applyAll⟩
  · intro hmember
    rw [reaches_subscribe, or_comm (a := m.family.isMessage = true),
      ← imp_iff_not_or]
    constructor
    · rintro ⟨-, -, hall⟩ hrooted
      exact hall (.inl hrooted)
    · intro hrooted
      exact ⟨hsender, .inr hmember, fun h => h.elim hrooted fun hsame => hroot hsame ▸ hmember⟩
  · intro hsame
    rw [reaches_subscribe]
    constructor
    · rintro ⟨-, -, hall⟩
      exact hall (.inr hsame)
    · intro hmessage
      exact ⟨hsender, .inr ((hroot hsame).trans hmessage), fun _ => hmessage⟩
  · intro hreaches
    obtain ⟨-, hasked, hrooted⟩ := reaches_after_iff.mp hreaches
    rw [reaches_subscribe, or_comm (a := m.family.isMessage = true),
      ← Bool.not_eq_true, ← imp_iff_not_or]
    constructor
    · rintro ⟨-, -, hall⟩ hsame
      exact hall (.inr hsame)
    · intro hnew
      exact ⟨hsender, .inl hasked, fun h => h.elim hrooted hnew⟩
  · intro hreaches
    obtain ⟨-, hasked | hmember, hall⟩ := reaches_subscribe.mp hreaches
    · exact .inl (reaches_after_iff.mpr ⟨hsender, hasked, fun hrooted => hall (.inl hrooted)⟩)
    · exact .inr hmember

/-- A type without parents, and one that descends from it. -/
def waypoint : Family := .mk "Waypoint" [] none

def leg : Family := .mk "Leg" [waypoint] none

/-- A listener that has asked for the one. -/
def waypointAsked : List (Change Unit) := [.subscribe ⟨1⟩ () waypoint]

theorem subscription_effect_leg : (none : Option ListenerId) ≠ some ⟨1⟩ ∧
    Reaches (after waypointAsked) none ⟨1⟩ (.foreign leg []) ∧
    Reaches ((after waypointAsked).subscribe ⟨1⟩ () Kind.sensorData.family) none ⟨1⟩
      (.foreign leg []) := by
  have hsender : (none : Option ListenerId) ≠ some ⟨1⟩ := by decide
  have hreaches : Reaches (after waypointAsked) none ⟨1⟩ (.foreign leg []) := by decide +kernel
  have heffect := subscription_effect waypointAsked () Kind.sensorData.family (.foreign leg [])
    hsender
  exact ⟨hsender, hreaches, (heffect.2.2.1 hreaches).mpr (.inr (by decide +kernel))⟩

/-- **A subscription can narrow.**  The listener asks for all messages and stops getting what it
got before; asking for it once more does not bring it back. -/
theorem waypoint_lost :
    Reaches (after waypointAsked) none ⟨1⟩ (.foreign waypoint []) ∧
    ¬ Reaches ((after waypointAsked).subscribe ⟨1⟩ () Family.anyMessage) none ⟨1⟩
      (.foreign waypoint []) ∧
    waypoint.isA waypoint = true ∧
    ¬ Reaches (((after waypointAsked).subscribe ⟨1⟩ () Family.anyMessage).subscribe ⟨1⟩ ()
      waypoint) none ⟨1⟩ (.foreign waypoint []) := by
  decide +kernel

end Bus

end TelemetryRelay
