import Mathlib.Data.List.Basic
import TelemetryRelay.Proofs.Link.Runs

/-!
# What happens on each connection

Some events of a run happen on a connection.  What is observed of them is a list
of things by generation; `observedOn` is the part of one connection.  Where the
generations never fall, the whole list is its parts one after the other.
-/

namespace TelemetryRelay.Link

variable {α : Type}

/-- A thing of that generation. -/
def ofGeneration (g : Nat) (x : Nat × α) : Option α := if x.1 = g then some x.2 else none

/-- What `f` makes of the events on one connection. -/
def observedOn (f : Link × Event → Option (Nat × α)) (g : Nat) (h : List (Link × Event)) : List α :=
  (h.filterMap f).filterMap (ofGeneration g)

section

variable {f : Link × Event → Option (Nat × α)} {g g' : Nat} {x : Link × Event}

theorem observedOn_snoc (f : Link × Event → Option (Nat × α)) (g : Nat) (h : List (Link × Event))
    (x : Link × Event) :
    observedOn f g (h ++ [x]) = observedOn f g h ++ ((f x).bind (ofGeneration g)).toList := by
  rw [observedOn, List.filterMap_append, List.filterMap_append]
  congr 1
  cases hx : f x with
  | none => simp [hx]
  | some y => cases hy : ofGeneration g y <;> simp [hx, hy]

/-- An event that is not observed. -/
theorem observedOn_none (hx : f x = none) (g : Nat) (h : List (Link × Event)) :
    observedOn f g (h ++ [x]) = observedOn f g h := by
  simp [observedOn_snoc, hx]

theorem observedOn_self {a : Option α} (hx : f x = a.map (g, ·)) (h : List (Link × Event)) :
    observedOn f g (h ++ [x]) = observedOn f g h ++ a.toList := by
  cases a <;> simp [observedOn_snoc, hx, ofGeneration]

/-- An event on another connection. -/
theorem observedOn_other {a : Option α} (hx : f x = a.map (g', ·)) (hne : g ≠ g')
    (h : List (Link × Event)) : observedOn f g (h ++ [x]) = observedOn f g h := by
  cases a <;> simp [observedOn_snoc, hx, ofGeneration, Ne.symm hne]

end

/-! ## One connection after the other -/

variable {xs : List (Nat × α)}

theorem filterMap_ofGeneration_of_lt {g : Nat} (hlt : ∀ x ∈ xs, g < x.1) :
    xs.filterMap (ofGeneration g) = [] := by
  rw [List.filterMap_eq_nil_iff]
  intro x hx
  exact if_neg (Nat.ne_of_gt (hlt x hx))

theorem filterMap_ofGeneration_cons (x : Nat × α) (g : Nat) :
    (x :: xs).filterMap (ofGeneration g) =
      if x.1 = g then x.2 :: xs.filterMap (ofGeneration g) else xs.filterMap (ofGeneration g) := by
  by_cases hx : x.1 = g <;> simp [ofGeneration, hx]

/-- Where generations never fall, all things are those of each generation in turn. -/
theorem map_snd_eq_flatMap {first count : Nat} (hsorted : xs.Pairwise fun x y => x.1 ≤ y.1)
    (hrange : ∀ x ∈ xs, first ≤ x.1 ∧ x.1 < first + count) :
    xs.map (·.2) =
      (List.range' first count).flatMap fun g => xs.filterMap (ofGeneration g) := by
  induction count generalizing first xs with
  | zero =>
      cases xs with
      | nil => rfl
      | cons x xs =>
          have hx := hrange x List.mem_cons_self
          omega
  | succ count ih =>
      rw [List.range'_succ, List.flatMap_cons]
      -- The things of the first generation come first.
      induction xs with
      | nil => simp
      | cons x xs ihxs =>
          rw [List.pairwise_cons] at hsorted
          have hrest : ∀ y ∈ xs, first ≤ y.1 ∧ y.1 < first + (count + 1) :=
            fun y hy => hrange y (List.mem_cons_of_mem x hy)
          obtain ⟨hle, hlt⟩ := hrange x List.mem_cons_self
          rcases Nat.eq_or_lt_of_le hle with hfirst | hlater
          · have hothers : ∀ g ∈ List.range' (first + 1) count,
                (x :: xs).filterMap (ofGeneration g) = xs.filterMap (ofGeneration g) := by
              intro g hg
              rw [List.mem_range'_1] at hg
              rw [filterMap_ofGeneration_cons, if_neg (by omega)]
            rw [List.map_cons, ihxs hsorted.2 hrest, filterMap_ofGeneration_cons,
              if_pos hfirst.symm, List.flatMap_congr hothers, List.cons_append]
          · have hall : ∀ y ∈ x :: xs, first < y.1 := by
              intro y hy
              rcases List.mem_cons.mp hy with rfl | hy
              · exact hlater
              · exact Nat.lt_of_lt_of_le hlater (hsorted.1 y hy)
            rw [filterMap_ofGeneration_of_lt hall, List.nil_append]
            refine ih (List.pairwise_cons.mpr hsorted) ?_
            intro y hy
            have hy' := hall y hy
            have hy'' := (hrange y hy).2
            omega

end TelemetryRelay.Link
