import Mathlib.Data.List.Induction
import TelemetryRelay.Bus

/-!
# What a bus remembers of its subscriptions

A bus keeps as few types of a listener as it can: it skips repeated ones, and a
subscription to all messages takes the place of all others.  `ledger` is the bus
that keeps every subscription as it was made.  For messages that are members of
the root the two cannot be told apart, so who gets them is said by the history of
subscriptions alone.
-/

namespace TelemetryRelay

namespace Bus

/-- What can be asked of a bus. -/
inductive Change (α : Type) where
  | subscribe (id : ListenerId) (listener : α) (type : Family)
  | unsubscribe (id : ListenerId)

variable {α : Type}

/-- Whose subscriptions a change is about. -/
def Change.id : Change α → ListenerId
  | .subscribe id _ _ => id
  | .unsubscribe id => id

def apply (b : Bus α) : Change α → Bus α
  | .subscribe id listener type => b.subscribe id listener type
  | .unsubscribe id => b.unsubscribe id

/-- All changes, one after the other. -/
def applyAll (b : Bus α) (cs : List (Change α)) : Bus α := cs.foldl apply b

/-- The bus that the changes lead to. -/
def after (cs : List (Change α)) : Bus α := empty.applyAll cs

theorem applyAll_append (b : Bus α) (cs cs' : List (Change α)) :
    b.applyAll (cs ++ cs') = (b.applyAll cs).applyAll cs' := List.foldl_append

theorem after_append (cs cs' : List (Change α)) : after (cs ++ cs') = (after cs).applyAll cs' :=
  applyAll_append empty cs cs'

/-! ## The history of subscriptions -/

/-- A type was subscribed to under an id that has not been unsubscribed since. -/
def Asked (cs : List (Change α)) (id : ListenerId) (type : Family) : Prop :=
  ∃ before listener after, cs = before ++ .subscribe id listener type :: after ∧
    .unsubscribe id ∉ after

/-- The first subscription under an id since it was unsubscribed last: the listener that
came with it, and where in the history it stands. -/
def Joined (cs : List (Change α)) (id : ListenerId) (listener : α) (position : Nat) : Prop :=
  ∃ before type after, cs = before ++ .subscribe id listener type :: after ∧
    before.length = position ∧ .unsubscribe id ∉ after ∧ ∀ earlier, ¬ Asked before id earlier

variable {cs : List (Change α)} {c : Change α} {b : Bus α} {id : ListenerId} {listener : α}
  {type : Family} {position : Nat} {s : Subscriber α}

/-- A history whose last change is not the one looked for has it before. -/
theorem split_snoc {x : Change α} {before rest : List (Change α)}
    (h : cs ++ [c] = before ++ x :: rest) :
    (rest = [] ∧ c = x ∧ cs = before) ∨
      ∃ rest', rest = rest' ++ [c] ∧ cs = before ++ x :: rest' := by
  induction rest using List.reverseRecOn with
  | nil =>
      obtain ⟨hcs, hc⟩ := List.append_inj' h rfl
      exact .inl ⟨rfl, by simpa using hc, hcs⟩
  | append_singleton rest' y _ =>
      have hsplit : cs ++ [c] = (before ++ x :: rest') ++ [y] := by simpa using h
      obtain ⟨hcs, hc⟩ := List.append_inj' hsplit rfl
      obtain rfl : c = y := by simpa using hc
      exact .inr ⟨rest', rfl, hcs⟩

theorem asked_snoc : Asked (cs ++ [c]) id type ↔
    (∃ listener, c = .subscribe id listener type) ∨ (Asked cs id type ∧ c ≠ .unsubscribe id) := by
  constructor
  · rintro ⟨before, listener, rest, hsplit, hrest⟩
    rcases split_snoc hsplit with ⟨-, hc, -⟩ | ⟨rest', rfl, hcs⟩
    · exact .inl ⟨listener, hc⟩
    · simp only [List.mem_append, List.mem_singleton, not_or] at hrest
      exact .inr ⟨⟨before, listener, rest', hcs, hrest.1⟩, Ne.symm hrest.2⟩
  · rintro (⟨listener, rfl⟩ | ⟨⟨before, listener, rest, rfl, hrest⟩, hc⟩)
    · exact ⟨cs, listener, [], rfl, by simp⟩
    · exact ⟨before, listener, rest ++ [c], by simp, by simp [hrest, Ne.symm hc]⟩

theorem not_asked_unsubscribe : ¬ Asked (cs ++ [.unsubscribe id]) id type := by
  simp [asked_snoc]

/-- Whoever is not unsubscribed has asked for what it asked for before, and for what it asks now. -/
theorem asked_append {cs' : List (Change α)} (hstays : .unsubscribe id ∉ cs') :
    Asked (cs ++ cs') id type ↔
      Asked cs id type ∨ ∃ listener, .subscribe id listener type ∈ cs' := by
  induction cs' using List.reverseRecOn with
  | nil => simp
  | append_singleton cs' c ih =>
      simp only [List.mem_append, List.mem_singleton, not_or] at hstays ⊢
      rw [← List.append_assoc, asked_snoc, ih hstays.1]
      constructor
      · rintro (⟨listener, rfl⟩ | ⟨hbefore | ⟨listener, hmem⟩, -⟩)
        · exact .inr ⟨listener, .inr rfl⟩
        · exact .inl hbefore
        · exact .inr ⟨listener, .inl hmem⟩
      · rintro (hbefore | ⟨listener, hmem | hlast⟩)
        · exact .inr ⟨.inl hbefore, Ne.symm hstays.2⟩
        · exact .inr ⟨.inr ⟨listener, hmem⟩, Ne.symm hstays.2⟩
        · exact .inl ⟨listener, hlast.symm⟩

theorem asked_append_of_other {cs' : List (Change α)} (hother : ∀ c ∈ cs', c.id ≠ id) :
    Asked (cs ++ cs') id type ↔ Asked cs id type := by
  rw [asked_append fun hleaves => hother _ hleaves rfl]
  refine ⟨?_, .inl⟩
  rintro (hbefore | ⟨listener, hmem⟩)
  · exact hbefore
  · exact absurd rfl (hother _ hmem)

theorem joined_snoc : Joined (cs ++ [c]) id listener position ↔
    ((∃ type, c = .subscribe id listener type) ∧ position = cs.length ∧
      ∀ earlier, ¬ Asked cs id earlier) ∨
    (Joined cs id listener position ∧ c ≠ .unsubscribe id) := by
  constructor
  · rintro ⟨before, type, rest, hsplit, hposition, hrest, hearlier⟩
    rcases split_snoc hsplit with ⟨-, hc, rfl⟩ | ⟨rest', rfl, hcs⟩
    · exact .inl ⟨⟨type, hc⟩, hposition.symm, hearlier⟩
    · simp only [List.mem_append, List.mem_singleton, not_or] at hrest
      exact .inr ⟨⟨before, type, rest', hcs, hposition, hrest.1, hearlier⟩, Ne.symm hrest.2⟩
  · rintro (⟨⟨type, rfl⟩, rfl, hearlier⟩ | ⟨⟨before, type, rest, rfl, hposition, hrest, hearlier⟩, hc⟩)
    · exact ⟨cs, type, [], rfl, rfl, by simp, hearlier⟩
    · exact ⟨before, type, rest ++ [c], by simp, hposition, by simp [hrest, Ne.symm hc], hearlier⟩

theorem Joined.lt (h : Joined cs id listener position) : position < cs.length := by
  obtain ⟨before, type, rest, rfl, rfl, -⟩ := h
  simp

/-- Whoever asks for something has joined, and the other way round. -/
theorem exists_asked_iff : (∃ type, Asked cs id type) ↔ ∃ listener position,
    Joined cs id listener position := by
  induction cs using List.reverseRecOn with
  | nil =>
      constructor
      · rintro ⟨type, before, listener, rest, h, -⟩
        simp at h
      · rintro ⟨listener, position, before, type, rest, h, -⟩
        simp at h
  | append_singleton cs c ih =>
      simp only [asked_snoc, joined_snoc]
      by_cases hasked : ∃ type, Asked cs id type
      · obtain ⟨listener, position, hjoined⟩ := ih.mp hasked
        obtain ⟨type, htype⟩ := hasked
        have hnot : ¬ ∀ earlier, ¬ Asked cs id earlier := fun h => h type htype
        simp only [hnot, and_false, false_or]
        constructor
        · rintro ⟨type', ⟨listener', rfl⟩ | ⟨-, hc⟩⟩
          · exact ⟨listener, position, hjoined, by simp⟩
          · exact ⟨listener, position, hjoined, hc⟩
        · rintro ⟨-, -, -, hc⟩
          exact ⟨type, .inr ⟨htype, hc⟩⟩
      · have hnone : ∀ listener position, ¬ Joined cs id listener position :=
          fun listener position h => hasked (ih.mpr ⟨listener, position, h⟩)
        have hnever : ∀ type, ¬ Asked cs id type := fun type h => hasked ⟨type, h⟩
        simp only [hnone, hnever, false_and, or_false, not_false_eq_true, implies_true, and_true]
        constructor
        · rintro ⟨type, listener, rfl⟩
          exact ⟨listener, cs.length, ⟨type, rfl⟩, rfl⟩
        · rintro ⟨listener, -, ⟨type, rfl⟩, -⟩
          exact ⟨type, listener, rfl⟩

/-! ## The bus that keeps every subscription -/

def enter (b : Bus α) : Change α → Bus α
  | .subscribe id listener type =>
    if b.isSubscribed id then
      ⟨b.subscribers.map fun s => if s.id == id then { s with types := s.types ++ [type] } else s⟩
    else ⟨b.subscribers ++ [⟨id, listener, [type]⟩]⟩
  | .unsubscribe id => b.unsubscribe id

/-- Every subscription as it was made, in the order of the first ones. -/
def ledger (cs : List (Change α)) : Bus α := cs.foldl enter empty

theorem after_snoc (cs : List (Change α)) (c : Change α) :
    after (cs ++ [c]) = (after cs).apply c := after_append cs [c]

theorem ledger_snoc (cs : List (Change α)) (c : Change α) :
    ledger (cs ++ [c]) = (ledger cs).enter c := List.foldl_append

theorem isSubscribed_iff : b.isSubscribed id = true ↔ ∃ s ∈ b.subscribers, s.id = id := by
  simp [isSubscribed]

/-- The ledger says what the history says. -/
structure Records (cs : List (Change α)) (b : Bus α) : Prop where
  asked : ∀ id type, Asked cs id type ↔ ∃ s ∈ b.subscribers, s.id = id ∧ type ∈ s.types
  joined : ∀ s ∈ b.subscribers, ∃ position, Joined cs s.id s.listener position
  ordered : b.subscribers.Pairwise fun s s' => ∀ listener position listener' position',
    Joined cs s.id listener position → Joined cs s'.id listener' position' → position < position'

theorem Records.subscribed_iff (h : Records cs b) :
    b.isSubscribed id = true ↔ ∃ type, Asked cs id type := by
  rw [isSubscribed_iff]
  constructor
  · rintro ⟨s, hs, rfl⟩
    obtain ⟨position, hjoined⟩ := h.joined s hs
    exact exists_asked_iff.mpr ⟨_, _, hjoined⟩
  · rintro ⟨type, hasked⟩
    obtain ⟨s, hs, hid, -⟩ := (h.asked id type).mp hasked
    exact ⟨s, hs, hid⟩

/-- One more type for a listener that is there already. -/
theorem Records.again (h : Records cs b) (hthere : b.isSubscribed id = true) :
    Records (cs ++ [.subscribe id listener type]) (b.enter (.subscribe id listener type)) := by
  have hasked := h.subscribed_iff.mp hthere
  have hjoined : ∀ id' listener' position',
      Joined (cs ++ [.subscribe id listener type]) id' listener' position' ↔
        Joined cs id' listener' position' := by
    intro id' listener' position'
    rw [joined_snoc]
    constructor
    · rintro (⟨⟨type', hc⟩, -, hnever⟩ | ⟨hjoined, -⟩)
      · cases hc
        obtain ⟨type', hasked⟩ := hasked
        exact absurd hasked (hnever type')
      · exact hjoined
    · intro hjoined
      exact .inr ⟨hjoined, by simp⟩
  simp only [enter, hthere, if_true]
  refine ⟨?_, ?_, ?_⟩
  · intro id' type'
    rw [asked_snoc, h.asked]
    constructor
    · rintro (⟨listener', hc⟩ | ⟨⟨s, hs, rfl, htype⟩, -⟩)
      · cases hc
        obtain ⟨s, hs, rfl⟩ := isSubscribed_iff.mp hthere
        exact ⟨_, List.mem_map.mpr ⟨s, hs, rfl⟩, by simp, by simp⟩
      · refine ⟨_, List.mem_map.mpr ⟨s, hs, rfl⟩, ?_⟩
        split
        · exact ⟨rfl, List.mem_append_left _ htype⟩
        · exact ⟨rfl, htype⟩
    · rintro ⟨s', hs', rfl, htype⟩
      obtain ⟨s, hs, rfl⟩ := List.mem_map.mp hs'
      by_cases hid : s.id = id
      · simp only [hid, beq_self_eq_true, if_true, List.mem_append, List.mem_singleton] at htype ⊢
        rcases htype with htype | rfl
        · exact .inr ⟨⟨s, hs, hid, htype⟩, by simp⟩
        · exact .inl ⟨listener, rfl⟩
      · simp only [beq_iff_eq, hid, if_false] at htype ⊢
        exact .inr ⟨⟨s, hs, rfl, htype⟩, by simp⟩
  · intro s' hs'
    obtain ⟨s, hs, rfl⟩ := List.mem_map.mp hs'
    obtain ⟨position, hposition⟩ := h.joined s hs
    refine ⟨position, (hjoined _ _ _).mpr ?_⟩
    split <;> exact hposition
  · refine List.pairwise_map.mpr (h.ordered.imp ?_)
    intro s s' hlt
    simp only [hjoined]
    split <;> split <;> exact hlt

/-- A listener that comes last stands last. -/
theorem Records.first (h : Records cs b) (hnew : b.isSubscribed id = false) :
    Records (cs ++ [.subscribe id listener type]) (b.enter (.subscribe id listener type)) := by
  have hnever : ∀ earlier, ¬ Asked cs id earlier := by
    intro earlier hasked
    rw [h.subscribed_iff.mpr ⟨earlier, hasked⟩] at hnew
    cases hnew
  have hother : ∀ s ∈ b.subscribers, s.id ≠ id := by
    intro s hs hid
    rw [isSubscribed_iff.mpr ⟨s, hs, hid⟩] at hnew
    cases hnew
  have hsame : ∀ id' listener' position', id' ≠ id →
      Joined (cs ++ [.subscribe id listener type]) id' listener' position' →
        Joined cs id' listener' position' := by
    intro id' listener' position' hid hjoined
    rcases joined_snoc.mp hjoined with ⟨⟨type', hc⟩, -⟩ | ⟨hjoined, -⟩
    · cases hc
      exact absurd rfl hid
    · exact hjoined
  simp only [enter, hnew, Bool.false_eq_true, if_false]
  refine ⟨?_, ?_, ?_⟩
  · intro id' type'
    rw [asked_snoc, h.asked]
    simp only [List.mem_append, List.mem_singleton]
    constructor
    · rintro (⟨listener', hc⟩ | ⟨⟨s, hs, hid, htype⟩, -⟩)
      · cases hc
        exact ⟨_, .inr rfl, rfl, by simp⟩
      · exact ⟨s, .inl hs, hid, htype⟩
    · rintro ⟨s, hs | rfl, rfl, htype⟩
      · exact .inr ⟨⟨s, hs, rfl, htype⟩, by simp⟩
      · obtain rfl : type' = type := by simpa using htype
        exact .inl ⟨listener, rfl⟩
  · intro s hs
    simp only [List.mem_append, List.mem_singleton] at hs
    rcases hs with hs | rfl
    · obtain ⟨position, hposition⟩ := h.joined s hs
      exact ⟨position, joined_snoc.mpr (.inr ⟨hposition, by simp⟩)⟩
    · exact ⟨cs.length, joined_snoc.mpr (.inl ⟨⟨type, rfl⟩, rfl, hnever⟩)⟩
  · refine List.pairwise_append.mpr ⟨?_, List.pairwise_singleton _ _, ?_⟩
    · refine h.ordered.imp_of_mem ?_
      intro s s' hs hs' hlt l p l' p' hp hp'
      exact hlt l p l' p' (hsame _ _ _ (hother s hs) hp) (hsame _ _ _ (hother s' hs') hp')
    · intro s hs s' hs' l p l' p' hp hp'
      obtain rfl : s' = ⟨id, listener, [type]⟩ := by simpa using hs'
      have hlt := (hsame _ _ _ (hother s hs) hp).lt
      rcases joined_snoc.mp hp' with ⟨-, rfl, -⟩ | ⟨hjoined, -⟩
      · exact hlt
      · obtain ⟨type', hasked⟩ := exists_asked_iff.mpr ⟨_, _, hjoined⟩
        exact absurd hasked (hnever type')

theorem Records.leave (h : Records cs b) :
    Records (cs ++ [.unsubscribe id]) (b.enter (.unsubscribe id)) := by
  have hjoined : ∀ id' listener' position',
      Joined (cs ++ [.unsubscribe id]) id' listener' position' ↔
        Joined cs id' listener' position' ∧ id' ≠ id := by
    intro id' listener' position'
    rw [joined_snoc]
    constructor
    · rintro (⟨⟨type', hc⟩, -⟩ | ⟨hjoined, hc⟩)
      · cases hc
      · exact ⟨hjoined, fun hid => hc (by rw [hid])⟩
    · rintro ⟨hjoined, hid⟩
      refine .inr ⟨hjoined, fun hc => hid ?_⟩
      cases hc
      rfl
  have hmem : ∀ s, s ∈ (b.enter (.unsubscribe id)).subscribers ↔ s ∈ b.subscribers ∧ s.id ≠ id := by
    simp [enter, unsubscribe]
  refine ⟨?_, ?_, ?_⟩
  · intro id' type'
    rw [asked_snoc, h.asked]
    constructor
    · rintro (⟨listener', hc⟩ | ⟨⟨s, hs, rfl, htype⟩, hc⟩)
      · cases hc
      · exact ⟨s, (hmem s).mpr ⟨hs, fun hid => hc (by rw [hid])⟩, rfl, htype⟩
    · rintro ⟨s, hs, rfl, htype⟩
      obtain ⟨hs, hid⟩ := (hmem s).mp hs
      refine .inr ⟨⟨s, hs, rfl, htype⟩, fun hc => hid ?_⟩
      cases hc
      rfl
  · intro s hs
    obtain ⟨hs, hid⟩ := (hmem s).mp hs
    obtain ⟨position, hposition⟩ := h.joined s hs
    exact ⟨position, (hjoined _ _ _).mpr ⟨hposition, hid⟩⟩
  · refine (h.ordered.filter _).imp ?_
    intro s s' hlt l p l' p' hp hp'
    exact hlt l p l' p' ((hjoined _ _ _).mp hp).1 ((hjoined _ _ _).mp hp').1

theorem records_ledger (cs : List (Change α)) : Records cs (ledger cs) := by
  induction cs using List.reverseRecOn with
  | nil =>
      refine ⟨?_, ?_, List.Pairwise.nil⟩
      · intro id type
        simp [Asked, ledger, empty]
      · simp [ledger, empty]
  | append_singleton cs c ih =>
      rw [ledger_snoc]
      cases c with
      | subscribe id listener type =>
          cases hthere : (ledger cs).isSubscribed id with
          | true => exact ih.again hthere
          | false => exact ih.first hthere
      | unsubscribe id => exact ih.leave

end Bus

/-! ## The bus and the ledger -/

/-- Membership in a family hangs on its name. -/
theorem Family.isA_of_same {t f g : Family} (h : f.same g = true) : t.isA f = t.isA g := by
  have hname : f.name = g.name := by simpa [same] using h
  simp only [isA, hname]

namespace Subscriber

variable {α : Type} {t : Family}

@[simp] theorem id_widen (s : Subscriber α) (type : Family) : (s.widen type).id = s.id := by
  unfold widen
  split
  · rfl
  · split <;> rfl

@[simp] theorem listener_widen (s : Subscriber α) (type : Family) :
    (s.widen type).listener = s.listener := by
  unfold widen
  split
  · rfl
  · split <;> rfl

theorem holds_iff {s : Subscriber α} {type : Family} :
    s.holds type = true ↔ ∃ f ∈ s.types, f.same type = true := List.any_eq_true

/-- A type that is held adds no members. -/
theorem accepts_of_holds {s : Subscriber α} {type : Family} (h : s.holds type = true)
    (hmember : t.isA type = true) : s.accepts t = true := by
  obtain ⟨f, hf, hname⟩ := holds_iff.mp h
  exact List.any_eq_true.mpr ⟨f, hf, by rw [Family.isA_of_same hname]; exact hmember⟩

/-- One more type adds its members, unless the root is held and stands for all. -/
theorem accepts_widen (s : Subscriber α) (type : Family) (hroot : s.holds Family.anyMessage = false) :
    (s.widen type).holds Family.anyMessage = type.same Family.anyMessage ∧
      (s.widen type).accepts t =
        if type.same Family.anyMessage then t.isMessage else s.accepts t || t.isA type := by
  unfold widen
  rw [hroot, Bool.false_or]
  split
  · rename_i hheld
    have hother : type.same Family.anyMessage = false := by
      obtain ⟨f, hf, hname⟩ := holds_iff.mp hheld
      have hf := List.any_eq_false.mp hroot f hf
      simp only [Family.same, beq_iff_eq] at hname hf ⊢
      rwa [← hname, beq_eq_false_iff_ne]
    refine ⟨by rw [hroot, hother], ?_⟩
    rw [hother]
    cases hmember : t.isA type with
    | true => simp [accepts_of_holds hheld hmember]
    | false => simp
  · split
    · rename_i hsame
      refine ⟨by simp [holds, hsame], ?_⟩
      simp [accepts, Family.isMessage, Family.isA_of_same hsame]
    · rename_i hother
      refine ⟨?_, by simp [accepts]⟩
      show (s.types ++ [type]).any (·.same Family.anyMessage) = _
      rw [List.any_append, show s.types.any (·.same Family.anyMessage) = false from hroot]
      simp

/-- What is left of a listener's types when each goes through `widen`. -/
def collapse (s : Subscriber α) : Subscriber α := s.types.foldl widen { s with types := [] }

theorem collapse_snoc (s : Subscriber α) (type : Family) :
    collapse { s with types := s.types ++ [type] } = s.collapse.widen type := List.foldl_append

theorem collapse_singleton (id : ListenerId) (listener : α) (type : Family) :
    collapse ⟨id, listener, [type]⟩ = ⟨id, listener, [type]⟩ := by
  simp [collapse, widen, holds]

theorem id_collapse (s : Subscriber α) : s.collapse.id = s.id := by
  obtain ⟨id, listener, types⟩ := s
  induction types using List.reverseRecOn with
  | nil => rfl
  | append_singleton types type ih => simpa [collapse] using ih

theorem listener_collapse (s : Subscriber α) : s.collapse.listener = s.listener := by
  obtain ⟨id, listener, types⟩ := s
  induction types using List.reverseRecOn with
  | nil => rfl
  | append_singleton types type ih => simpa [collapse] using ih

/-- What is left of the types of a listener has the members that all of them have, or those of
the root if that is one of them. -/
theorem accepts_collapse (s : Subscriber α) (t : Family) :
    s.collapse.accepts t = if s.holds Family.anyMessage then t.isMessage else s.accepts t := by
  obtain ⟨id, listener, types⟩ := s
  suffices h : (collapse ⟨id, listener, types⟩).holds Family.anyMessage =
      (⟨id, listener, types⟩ : Subscriber α).holds Family.anyMessage ∧
        (collapse ⟨id, listener, types⟩).accepts t =
          if (⟨id, listener, types⟩ : Subscriber α).holds Family.anyMessage then t.isMessage
          else (⟨id, listener, types⟩ : Subscriber α).accepts t from h.2
  induction types using List.reverseRecOn with
  | nil => exact ⟨rfl, rfl⟩
  | append_singleton types type ih =>
      obtain ⟨hroot, haccepts⟩ := ih
      have hsnoc := collapse_snoc ⟨id, listener, types⟩ type
      have hholds : (⟨id, listener, types ++ [type]⟩ : Subscriber α).holds Family.anyMessage =
          ((⟨id, listener, types⟩ : Subscriber α).holds Family.anyMessage ||
            type.same Family.anyMessage) := by
        simp [holds]
      rw [hsnoc, hholds]
      cases hheld : (⟨id, listener, types⟩ : Subscriber α).holds Family.anyMessage with
      | true =>
          rw [hheld] at hroot haccepts
          simp [widen, hroot, haccepts]
      | false =>
          rw [hheld] at hroot haccepts
          obtain ⟨hholds', haccepts'⟩ := @accepts_widen _ t _ type hroot
          refine ⟨hholds', haccepts'.trans ?_⟩
          rw [haccepts]
          simp [accepts]

/-- For a member of the root it makes no difference which types are left. -/
theorem accepts_collapse_of_rooted (hrooted : t.isMessage = true) (s : Subscriber α) :
    s.collapse.accepts t = s.accepts t := by
  rw [accepts_collapse]
  cases hroot : s.holds Family.anyMessage with
  | true => simp [hrooted, accepts_of_holds hroot hrooted]
  | false => simp

end Subscriber

namespace Bus

variable {α : Type}

/-- The bus holds what is left of each entry of the ledger. -/
theorem after_eq_ledger (cs : List (Change α)) :
    (after cs).subscribers = (ledger cs).subscribers.map Subscriber.collapse := by
  induction cs using List.reverseRecOn with
  | nil => rfl
  | append_singleton cs c ih =>
      rw [after_snoc, ledger_snoc]
      cases c with
      | subscribe id listener type =>
          have hthere : (after cs).isSubscribed id = (ledger cs).isSubscribed id := by
            simp [isSubscribed, ih, Function.comp_def, Subscriber.id_collapse]
          simp only [apply, subscribe, enter, hthere]
          split
          · simp only [ih, List.map_map]
            refine List.map_congr_left fun s _ => ?_
            simp only [Function.comp_apply, Subscriber.id_collapse]
            split
            · exact (Subscriber.collapse_snoc s type).symm
            · rfl
          · simp [ih, Subscriber.collapse_singleton]
      | unsubscribe id =>
          simp [apply, enter, unsubscribe, ih, List.filter_map, Function.comp_def,
            Subscriber.id_collapse]

/-- Who is called, in order. -/
def callees (b : Bus α) (sender : Option ListenerId) (type : Family) : List (ListenerId × α) :=
  (b.recipients sender type).map fun s => (s.id, s.listener)

/-- For members of the root it makes no difference which types are skipped and
which take the place of others. -/
theorem callees_ledger {type : Family} (hrooted : type.isMessage = true) (cs : List (Change α))
    (sender : Option ListenerId) :
    (after cs).callees sender type = (ledger cs).callees sender type := by
  simp [callees, recipients, after_eq_ledger, List.filter_map, Function.comp_def,
    Subscriber.id_collapse, Subscriber.listener_collapse, Subscriber.accepts_collapse_of_rooted hrooted]

theorem mem_callees {b : Bus α} {sender : Option ListenerId} {type : Family} {id : ListenerId}
    {listener : α} : (id, listener) ∈ b.callees sender type ↔
      ∃ s ∈ b.subscribers, s.id = id ∧ s.listener = listener ∧ some id ≠ sender ∧
        s.accepts type = true := by
  simp only [callees, recipients, List.mem_map, List.mem_filter, Bool.and_eq_true, bne_iff_ne,
    Prod.mk.injEq]
  constructor
  · rintro ⟨s, ⟨hs, hsender, haccepts⟩, rfl, rfl⟩
    exact ⟨s, hs, rfl, rfl, hsender, haccepts⟩
  · rintro ⟨s, hs, rfl, rfl, hsender, haccepts⟩
    exact ⟨s, ⟨hs, hsender, haccepts⟩, rfl, rfl⟩

/-- Who is called is said by the history of subscriptions. -/
theorem Records.mem_callees_iff {cs : List (Change α)} {b : Bus α} (h : Records cs b)
    {sender : Option ListenerId} {type : Family} (id : ListenerId) :
    (∃ listener, (id, listener) ∈ b.callees sender type) ↔
      some id ≠ sender ∧ ∃ asked, Asked cs id asked ∧ type.isA asked = true := by
  simp only [mem_callees, h.asked]
  constructor
  · rintro ⟨listener, s, hs, hid, -, hsender, haccepts⟩
    obtain ⟨asked, hasked, hmember⟩ := List.any_eq_true.mp haccepts
    exact ⟨hsender, asked, ⟨s, hs, hid, hasked⟩, hmember⟩
  · rintro ⟨hsender, asked, ⟨s, hs, hid, hasked⟩, hmember⟩
    have haccepts : s.accepts type = true := List.any_eq_true.mpr ⟨asked, hasked, hmember⟩
    exact ⟨s.listener, s, hs, hid, rfl, hsender, haccepts⟩

/-- No two entries stand under one id. -/
theorem Records.nodup {cs : List (Change α)} {b : Bus α} (h : Records cs b) :
    (b.subscribers.map (·.id)).Nodup := by
  refine List.pairwise_map.mpr (h.ordered.imp_of_mem ?_)
  intro s s' hs hs' hlt hid
  obtain ⟨position, hposition⟩ := h.joined s hs
  have hagain : Joined cs s'.id s.listener position := hid ▸ hposition
  exact Nat.lt_irrefl position (hlt _ _ _ _ hposition hagain)

theorem nodup_after (cs : List (Change α)) : ((after cs).subscribers.map (·.id)).Nodup := by
  have hids : (after cs).subscribers.map (·.id) = (ledger cs).subscribers.map (·.id) := by
    rw [after_eq_ledger, List.map_map]
    exact List.map_congr_left fun s _ => s.id_collapse
  rw [hids]
  exact (records_ledger cs).nodup

/-! ## Who is not subscribed -/

variable {b : Bus α} {id : ListenerId} {cs : List (Change α)}

theorem isSubscribed_unsubscribe (b : Bus α) (id : ListenerId) :
    (b.unsubscribe id).isSubscribed id = false := by
  simp [unsubscribe, isSubscribed]

/-- A further type leaves a subscriber its id. -/
theorem id_ite_widen (s : Subscriber α) (id : ListenerId) (type : Family) :
    (if s.id == id then s.widen type else s).id = s.id := by
  split
  · exact s.id_widen type
  · rfl

theorem isSubscribed_subscribe (b : Bus α) (id id' : ListenerId) (listener : α) (type : Family)
    (hne : id' ≠ id) : (b.subscribe id' listener type).isSubscribed id = b.isSubscribed id := by
  unfold subscribe
  split
  · simp only [isSubscribed, List.any_map, Function.comp_def, id_ite_widen]
  · simp [isSubscribed, hne]

/-- Whoever is not subscribed stays so until a subscription under its id. -/
theorem isSubscribed_applyAll (h : b.isSubscribed id = false)
    (hnever : ∀ listener type, .subscribe id listener type ∉ cs) :
    (b.applyAll cs).isSubscribed id = false := by
  induction cs generalizing b with
  | nil => exact h
  | cons c cs ih =>
      refine ih (b := b.apply c) ?_ fun listener type hmem => hnever listener type (.tail _ hmem)
      cases c with
      | unsubscribe id' =>
          simp only [isSubscribed, List.any_eq_false] at h ⊢
          exact fun s hs => h s (List.mem_filter.mp hs).1
      | subscribe id' listener type =>
          have hne : id' ≠ id := by
            rintro rfl
            exact hnever listener type (.head _)
          show (b.subscribe id' listener type).isSubscribed id = false
          rw [isSubscribed_subscribe b id id' listener type hne, h]

/-! ## Some of the listeners -/

/-- The subscribers with certain ids. -/
def restrict (b : Bus α) (p : ListenerId → Bool) : Bus α := ⟨b.subscribers.filter fun s => p s.id⟩

/-- The changes that are not about these ids. -/
def besides (ids : List ListenerId) (cs : List (Change α)) : List (Change α) :=
  cs.filter fun c => decide (c.id ∉ ids)

variable {p : ListenerId → Bool} {c : Change α} {ids ids' : List ListenerId}
  {cs' : List (Change α)} {s : Subscriber α}

theorem mem_restrict : s ∈ (b.restrict p).subscribers ↔ s ∈ b.subscribers ∧ p s.id = true :=
  List.mem_filter

theorem isSubscribed_restrict (h : p id = true) :
    (b.restrict p).isSubscribed id = b.isSubscribed id := by
  rw [Bool.eq_iff_iff, isSubscribed_iff, isSubscribed_iff]
  simp only [mem_restrict]
  constructor
  · rintro ⟨s, ⟨hs, -⟩, hid⟩
    exact ⟨s, hs, hid⟩
  · rintro ⟨s, hs, rfl⟩
    exact ⟨s, ⟨hs, h⟩, rfl⟩

/-- A subscription of a listener that is there changes nothing but its types. -/
theorem restrict_map (b : Bus α) (p : ListenerId → Bool) (id : ListenerId) (type : Family) :
    restrict ⟨b.subscribers.map fun s => if s.id == id then s.widen type else s⟩ p =
      ⟨(b.restrict p).subscribers.map fun s => if s.id == id then s.widen type else s⟩ := by
  simp only [restrict, List.filter_map, Function.comp_def, id_ite_widen]

/-- A change is about one id, and what stands under others is as if it had not been made. -/
theorem restrict_apply (b : Bus α) (c : Change α) (p : ListenerId → Bool) :
    (b.apply c).restrict p = if p c.id then (b.restrict p).apply c else b.restrict p := by
  cases c with
  | unsubscribe id =>
      simp only [apply, unsubscribe, restrict, Change.id, List.filter_filter]
      split
      · exact congrArg Bus.mk (List.filter_congr fun s _ => Bool.and_comm ..)
      · rename_i hp
        refine congrArg Bus.mk (List.filter_congr fun s _ => ?_)
        by_cases hid : s.id = id
        · simp [hid, hp]
        · simp [hid]
  | subscribe id listener type =>
      by_cases hp : p id = true
      · simp only [apply, subscribe, Change.id, hp, if_true, isSubscribed_restrict hp]
        split
        · exact restrict_map b p id type
        · simp [restrict, hp]
      · simp only [apply, subscribe, Change.id, hp, if_false, Bool.false_eq_true]
        split
        · rw [restrict_map]
          refine congrArg Bus.mk ((List.map_congr_left fun s hs => ?_).trans (List.map_id _))
          have hne : s.id ≠ id := fun hid => hp (hid ▸ (mem_restrict.mp hs).2)
          simp [hne]
        · simp [restrict, hp]

theorem restrict_after (cs : List (Change α)) (p : ListenerId → Bool) :
    (after cs).restrict p = after (cs.filter fun c => p c.id) := by
  induction cs using List.reverseRecOn with
  | nil => rfl
  | append_singleton cs c ih =>
      rw [after_snoc, restrict_apply, ih, List.filter_append]
      by_cases hp : p c.id = true
      · have hlast : [c].filter (fun c => p c.id) = [c] := by simp [hp]
        rw [if_pos hp, hlast, after_snoc]
      · have hlast : [c].filter (fun c => p c.id) = [] := by simp [hp]
        rw [if_neg hp, hlast, List.append_nil]

/-- Who is subscribed under other ids is said by the changes that are about these. -/
theorem mem_after_besides : s ∈ (after (besides ids cs)).subscribers ↔
    s ∈ (after cs).subscribers ∧ s.id ∉ ids := by
  rw [besides, ← restrict_after cs fun id => decide (id ∉ ids), mem_restrict, decide_eq_true_iff]

/-- Changes about others leave a subscriber as it is. -/
theorem mem_applyAll_of_other (hs : s ∈ b.subscribers) (hother : ∀ c ∈ cs, c.id ≠ s.id) :
    s ∈ (b.applyAll cs).subscribers := by
  induction cs generalizing b with
  | nil => exact hs
  | cons c cs ih =>
      refine ih (b := b.apply c) ?_ fun c hc => hother c (.tail _ hc)
      have hsame : (b.apply c).restrict (· == s.id) = b.restrict (· == s.id) := by
        rw [restrict_apply, if_neg]
        simpa using hother c (.head _)
      have hmem : s ∈ (b.restrict (· == s.id)).subscribers := mem_restrict.mpr ⟨hs, by simp⟩
      rw [← hsame] at hmem
      exact (mem_restrict.mp hmem).1

theorem besides_append (ids : List ListenerId) (cs cs' : List (Change α)) :
    besides ids (cs ++ cs') = besides ids cs ++ besides ids cs' := List.filter_append ..

theorem besides_eq_nil (h : ∀ c ∈ cs, c.id ∈ ids) : besides ids cs = [] := by
  simpa [besides, List.filter_eq_nil_iff] using h

/-- Histories that agree but for some ids agree but for more of them. -/
theorem besides_congr (hsub : ids ⊆ ids') (h : besides ids cs = besides ids cs') :
    besides ids' cs = besides ids' cs' := by
  have hless : ∀ cs : List (Change α), besides ids' cs = besides ids' (besides ids cs) := by
    intro cs
    rw [besides, besides, besides, List.filter_filter]
    refine List.filter_congr fun c _ => ?_
    by_cases hid : c.id ∈ ids'
    · simp [hid]
    · have hless : c.id ∉ ids := fun hmem => hid (hsub hmem)
      simp [hid, hless]
  rw [hless cs, hless cs', h]

end Bus

end TelemetryRelay
