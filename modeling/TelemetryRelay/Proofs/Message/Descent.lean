import Mathlib.Data.Fintype.Card
import Mathlib.Data.Fintype.EquivFin
import Mathlib.Logic.Relation
import TelemetryRelay.Message.Family

/-!
# Descent of families

Families are described by descriptors that refer to their parents: descriptors may share
ancestors, and several may bear one name.  A descriptor belongs to the families that its
ancestors are called after.  Membership follows the references and compares names; the two
fit together where descriptors of one name have parents of the same names.
-/

namespace TelemetryRelay

open Relation

namespace Family

theorem isNamed_iff (name : String) (t : Family) :
    isNamed name t = true ↔ t.name = name ∨ ∃ parent ∈ t.parents, isNamed name parent = true := by
  obtain ⟨own, parents, decoder⟩ := t
  simp [isNamed, anyNamed_eq_any, Family.name, Family.parents]

end Family

/-- Descriptors of families, each with references to its parents.  Names may repeat, but no
descriptor is an ancestor of its own. -/
structure Pedigree (n : Nat) where
  name : Fin n → String
  parents : Fin n → List (Fin n)
  decoder : Fin n → Option Decoder
  acyclic : ∀ i, ¬ TransGen (fun i p => p ∈ parents i) i i

namespace Pedigree

variable {n : Nat} (g : Pedigree n)

/-- One step from a descriptor to a parent of it. -/
def Descends (i p : Fin n) : Prop := p ∈ g.parents i

/-- Any number of such steps. -/
def Reaches : Fin n → Fin n → Prop := ReflTransGen g.Descends

/-- Descriptors of one name have parents of the same names. -/
def Coherent : Prop :=
  ∀ i j, g.name i = g.name j →
    ∀ name, name ∈ (g.parents i).map g.name ↔ name ∈ (g.parents j).map g.name

theorem wellFounded_ancestors : WellFounded fun a i => TransGen g.Descends i a := by
  have hirrefl : Std.Irrefl fun a i => TransGen g.Descends i a := ⟨g.acyclic⟩
  have htrans : IsTrans (Fin n) fun a i => TransGen g.Descends i a :=
    ⟨fun _ _ _ hab hbc => hbc.trans hab⟩
  exact Finite.wellFounded_of_trans_of_irrefl _

/-- The family that a descriptor describes. -/
def family (i : Fin n) : Family :=
  .declare (g.name i) ((g.parents i).attach.map fun p => family p.1) (g.decoder i)
termination_by g.wellFounded_ancestors.wrap i
decreasing_by exact TransGen.single p.2

variable {g} {i j : Fin n} {name : String}

@[simp] theorem name_family (i : Fin n) : (g.family i).name = g.name i := by
  rw [family, Family.name]

@[simp] theorem parents_family (i : Fin n) :
    (g.family i).parents = (g.parents i).map g.family := by
  rw [family, Family.parents]
  simp

/-! ## Names that are reached -/

variable (g) in
/-- Some descriptor of that name is reached. -/
def ReachesName (i : Fin n) (name : String) : Prop := ∃ a, g.Reaches i a ∧ g.name a = name

theorem ReachesName.self (i : Fin n) : g.ReachesName i (g.name i) := ⟨i, .refl, rfl⟩

theorem reachesName_iff :
    g.ReachesName i name ↔ g.name i = name ∨ ∃ p ∈ g.parents i, g.ReachesName p name := by
  constructor
  · rintro ⟨a, hreaches, rfl⟩
    rcases ReflTransGen.cases_head hreaches with rfl | ⟨p, hp, hreaches⟩
    · exact .inl rfl
    · exact .inr ⟨p, hp, a, hreaches, rfl⟩
  · rintro (rfl | ⟨p, hp, a, hreaches, rfl⟩)
    · exact .self i
    · exact ⟨a, .head hp hreaches, rfl⟩

/-- The families of a descriptor are the names that it reaches. -/
theorem isNamed_family_iff (i : Fin n) (name : String) :
    Family.isNamed name (g.family i) = true ↔ g.ReachesName i name := by
  induction i using g.wellFounded_ancestors.induction with
  | _ i ih =>
    rw [Family.isNamed_iff, reachesName_iff, name_family, parents_family]
    refine or_congr_right ?_
    simp only [List.mem_map, exists_exists_and_eq_and]
    exact exists_congr fun p => and_congr_right fun hp => ih p (.single hp)

/-! ## Descriptors of one name -/

namespace Coherent

variable (h : g.Coherent)
include h

/-- What one of them reaches, the other does. -/
theorem reachesName (hname : g.name i = g.name j) (hreaches : g.ReachesName i name) :
    g.ReachesName j name := by
  obtain ⟨a, hreaches, rfl⟩ := hreaches
  induction hreaches using ReflTransGen.head_induction_on generalizing j with
  | refl => exact ⟨j, .refl, hname.symm⟩
  | head hp _ ih =>
    obtain ⟨p', hp', hsame⟩ := List.mem_map.mp ((h _ _ hname _).mp (List.mem_map_of_mem hp))
    exact reachesName_iff.mpr (.inr ⟨p', hp', ih hsame.symm⟩)

theorem trans (hreaches : g.ReachesName i (g.name j)) (hreaches' : g.ReachesName j name) :
    g.ReachesName i name := by
  obtain ⟨a, hreaches, hname⟩ := hreaches
  obtain ⟨b, hbeyond, hnamed⟩ := h.reachesName hname.symm hreaches'
  exact ⟨b, hreaches.trans hbeyond, hnamed⟩

/-- No descriptor bears the name of one below it: if an ancestor did, that ancestor would have a
parent like the one that led to it, and so on for ever. -/
theorem not_reachesName_of_parent (hp : j ∈ g.parents i) : ¬ g.ReachesName j (g.name i) := by
  induction i using g.wellFounded_ancestors.induction generalizing j with
  | _ i ih =>
    rintro ⟨a, hreaches, hname⟩
    obtain ⟨p, hp', hsame⟩ := List.mem_map.mp ((h _ _ hname.symm _).mp (List.mem_map_of_mem hp))
    refine ih a (.head' hp hreaches) hp' ?_
    rw [hname]
    exact h.reachesName hsame.symm ⟨a, hreaches, hname⟩

theorem antisymm (hreaches : g.ReachesName i (g.name j)) (hreaches' : g.ReachesName j (g.name i)) :
    g.name i = g.name j := by
  rcases reachesName_iff.mp hreaches with hname | ⟨p, hp, hreaches⟩
  · exact hname
  · exact absurd (h.trans hreaches hreaches') (h.not_reachesName_of_parent hp)

end Coherent

/-! ## Membership -/

/-- **Membership is reachability by name.** A descriptor belongs to a family exactly if it reaches
a descriptor of that family's name.  So it belongs to its own family, and only the name of a
family counts.  Where descriptors of one name have parents of the same names, membership is
transitive, and two that belong to each other bear one name.  The messages are what reaches a
descriptor called after the root. -/
theorem membership_by_name {n : Nat} (g : Pedigree n) :
    (∀ t f, (g.family t).isA (g.family f) = true ↔ ∃ a, g.Reaches t a ∧ g.name a = g.name f) ∧
    (∀ t, (g.family t).isA (g.family t) = true) ∧
    (∀ (t : Fin n) (f f' : Family), f.name = f'.name →
      (g.family t).isA f = (g.family t).isA f') ∧
    (g.Coherent →
      (∀ t f f', (g.family t).isA (g.family f) = true → (g.family f).isA (g.family f') = true →
        (g.family t).isA (g.family f') = true) ∧
      ∀ t f, (g.family t).isA (g.family f) = true → (g.family f).isA (g.family t) = true →
        g.name t = g.name f) ∧
    (∀ t, (g.family t).isMessage = true ↔
      ∃ a, g.Reaches t a ∧ g.name a = Family.anyMessage.name) := by
  have hmember : ∀ t f, (g.family t).isA (g.family f) = true ↔ g.ReachesName t (g.name f) := by
    intro t f
    rw [Family.isA, name_family]
    exact isNamed_family_iff t (g.name f)
  refine ⟨hmember, fun t => (hmember t t).mpr (.self t), ?_, fun h => ⟨?_, ?_⟩, ?_⟩
  · intro t f f' hname
    rw [Family.isA, Family.isA, hname]
  · intro t f f'
    simp only [hmember]
    exact h.trans
  · intro t f
    simp only [hmember]
    exact h.antisymm
  · intro t
    exact isNamed_family_iff t Family.anyMessage.name

/-- References to what stands further in front lead into no circle. -/
theorem not_transGen_self_of_lt {parents : Fin n → List (Fin n)}
    (h : ∀ i, ∀ p ∈ parents i, p < i) (i : Fin n) :
    ¬ TransGen (fun i p => p ∈ parents i) i i := by
  intro hcircle
  have hlt : ∀ {a}, TransGen (fun i p => p ∈ parents i) i a → a < i := by
    intro a hreaches
    induction hreaches with
    | single hp => exact h _ _ hp
    | tail _ hp ih => exact (h _ _ hp).trans ih
  exact (hlt hcircle).false

/-- Two descriptors of set points and two of hovers, one below each, under one root. -/
def hovers : Pedigree 5 where
  name := [Family.anyMessage.name, "Setpoint", "Setpoint", "Hover", "Hover"].get
  parents := [[], [0], [0], [1], [2]].get
  decoder := fun _ => none
  acyclic := not_transGen_self_of_lt (by decide)

/-- The first of the hovers is a set point of either descriptor, since these bear one name. -/
theorem membership_by_name_hovers :
    hovers.Coherent ∧ hovers.parents 3 = [1] ∧
      (hovers.family 3).isA (hovers.family 2) = true ∧
      (hovers.family 3).isA (hovers.family 0) = true ∧
      (hovers.family 2).isA (hovers.family 3) = false := by
  have hcoherent : hovers.Coherent := by
    have hlists : ∀ i j, hovers.name i = hovers.name j →
        (hovers.parents i).map hovers.name = (hovers.parents j).map hovers.name := by decide
    intro i j hname name
    rw [hlists i j hname]
  obtain ⟨hmember, -, -, horder, -⟩ := membership_by_name hovers
  obtain ⟨htrans, hantisymm⟩ := horder hcoherent
  have hup : (hovers.family 3).isA (hovers.family 2) = true :=
    (hmember 3 2).mpr ⟨1, .single (show 1 ∈ hovers.parents 3 by decide), rfl⟩
  have hroot : (hovers.family 2).isA (hovers.family 0) = true :=
    (hmember 2 0).mpr ⟨0, .single (show 0 ∈ hovers.parents 2 by decide), rfl⟩
  refine ⟨hcoherent, rfl, hup, htrans 3 2 0 hup hroot, ?_⟩
  rw [← Bool.not_eq_true]
  exact fun hdown => absurd (hantisymm 3 2 hup hdown) (by decide)

end Pedigree

end TelemetryRelay
