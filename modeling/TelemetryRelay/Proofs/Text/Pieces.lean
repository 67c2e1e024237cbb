import Mathlib.Data.List.DropRight
import Mathlib.Data.List.Infix
import TelemetryRelay.Text.Blank

/-!
# Pieces of a text

What the pieces between separators, the text without blanks at its ends and the part in front of
a pattern are, without the loops that find them.
-/

namespace TelemetryRelay.Text

variable {separator c : Char} {p : Char → Bool} {a b cs piece pattern u x : List Char}

/-! ## Pieces between separators -/

theorem splitAt_ne_nil (separator : Char) (cs : List Char) : splitAt separator cs ≠ [] := by
  cases cs with
  | nil => simp [splitAt]
  | cons c cs =>
    rw [splitAt]
    split
    · simp
    · split <;> simp

/-- Text is split at a separator whatever stands around it. -/
theorem splitAt_append (separator : Char) (a b : List Char) :
    splitAt separator (a ++ separator :: b) = splitAt separator a ++ splitAt separator b := by
  induction a with
  | nil => simp [splitAt]
  | cons c a ih =>
    rw [List.cons_append, splitAt, splitAt, ih]
    split
    · rfl
    · cases h : splitAt separator a with
      | nil => exact absurd h (splitAt_ne_nil separator a)
      | cons piece pieces => rfl

theorem splitAt_of_not_mem (h : separator ∉ cs) : splitAt separator cs = [cs] := by
  induction cs with
  | nil => rfl
  | cons c cs ih =>
    obtain ⟨hc, hcs⟩ := List.ne_and_not_mem_of_not_mem_cons h
    rw [splitAt, if_neg (Ne.symm hc), ih hcs]

/-- Pieces that are put together with separators come apart again. -/
theorem splitAt_intercalate {pieces : List (List Char)} (hne : pieces ≠ [])
    (h : ∀ piece ∈ pieces, separator ∉ piece) :
    splitAt separator ([separator].intercalate pieces) = pieces := by
  induction pieces with
  | nil => exact absurd rfl hne
  | cons piece pieces ih =>
    have hpiece := splitAt_of_not_mem (h piece (.head _))
    cases pieces with
    | nil => rw [List.intercalate_singleton, hpiece]
    | cons next pieces =>
      rw [List.intercalate_cons_cons, List.append_assoc, List.singleton_append, splitAt_append,
        hpiece, ih (by simp) fun piece hmem => h piece (.tail _ hmem), List.singleton_append]

theorem not_mem_of_mem_splitAt (h : piece ∈ splitAt separator cs) : separator ∉ piece := by
  induction cs generalizing piece with
  | nil =>
    obtain rfl : piece = [] := by simpa [splitAt] using h
    exact List.not_mem_nil
  | cons c cs ih =>
    rw [splitAt] at h
    split at h
    · rcases List.mem_cons.mp h with rfl | h
      · simp
      · exact ih h
    · rename_i hc
      cases hrest : splitAt separator cs with
      | nil => exact absurd hrest (splitAt_ne_nil separator cs)
      | cons first pieces =>
        rw [hrest] at h ih
        rcases List.mem_cons.mp h with rfl | h
        · simp [Ne.symm hc, ih (.head _)]
        · exact ih (.tail _ h)

/-! ## Without blanks at the ends -/

theorem trimList_eq (p : Char → Bool) (cs : List Char) :
    trimList p cs = (cs.dropWhile p).rdropWhile p := rfl

theorem not_of_head?_dropWhile (h : c ∈ (cs.dropWhile p).head?) : p c = false := by
  have hnot := List.head?_dropWhile_not p cs
  rwa [Option.mem_def.mp h] at hnot

theorem not_of_head?_trimList (h : c ∈ (trimList p cs).head?) : p c = false := by
  obtain ⟨dropped, hdropped⟩ := List.rdropWhile_prefix p (cs.dropWhile p)
  refine @not_of_head?_dropWhile c p cs ?_
  rw [← hdropped, List.head?_append, ← trimList_eq, Option.mem_def.mp h]
  rfl

theorem not_of_getLast?_trimList (h : c ∈ (trimList p cs).getLast?) : p c = false := by
  rw [trimList, List.getLast?_reverse] at h
  exact not_of_head?_dropWhile h

theorem trimList_sublist (p : Char → Bool) (cs : List Char) : (trimList p cs).Sublist cs :=
  (List.rdropWhile_prefix p _).sublist.trans (List.dropWhile_sublist p)

theorem dropWhile_append_cons (h : p c = false) (a b : List Char) :
    (a ++ c :: b).dropWhile p = a.dropWhile p ++ c :: b := by
  rw [List.dropWhile_append, List.dropWhile_cons_of_neg (by simp [h])]
  split
  · rename_i hempty
    rw [List.isEmpty_iff.mp hempty, List.nil_append]
  · rfl

/-- What is not blank keeps what stands in front of it apart from what stands behind. -/
theorem trimList_append_cons (h : p c = false) (a b : List Char) :
    trimList p (a ++ c :: b) = a.dropWhile p ++ c :: b.rdropWhile p := by
  have hreverse : (a.dropWhile p ++ c :: b).reverse =
      b.reverse ++ c :: (a.dropWhile p).reverse := by
    simp
  rw [trimList, dropWhile_append_cons h, hreverse, dropWhile_append_cons h]
  simp [List.rdropWhile]

theorem trimList_concat (h : p c = true) (cs : List Char) :
    trimList p (cs ++ [c]) = trimList p cs := by
  rw [trimList_eq, trimList_eq, List.dropWhile_append]
  split
  · rename_i hempty
    simp [List.isEmpty_iff.mp hempty, h]
  · rw [List.rdropWhile_concat_pos _ _ _ h]

theorem trimList_eq_self (hfirst : ∀ c ∈ cs.head?, p c = false)
    (hlast : ∀ c ∈ cs.getLast?, p c = false) : trimList p cs = cs := by
  have hfront : cs.dropWhile p = cs := by
    cases cs with
    | nil => rfl
    | cons c cs => simp [hfirst c rfl]
  rw [trimList_eq, hfront]
  cases cs using List.reverseRecOn with
  | nil => rfl
  | append_singleton cs c =>
    rw [List.rdropWhile_concat_neg]
    simp [hlast c (by simp)]

/-! ## Stretches -/

theorem occursIn_iff : occursIn pattern cs = true ↔ pattern <:+: cs := by
  induction cs with
  | nil => simp [occursIn]
  | cons c cs ih => simp [occursIn, ih, List.infix_cons_iff]

/-- `front` is what stands in front of the first `pattern` in `cs`; all of it if there is none. -/
def InFront (pattern cs front : List Char) : Prop :=
  (¬ pattern <:+: cs ∧ front = cs) ∨
    ∃ rest, cs = front ++ pattern ++ rest ∧ ¬ pattern <:+: front ++ pattern.dropLast

theorem before_of_absent (h : ¬ pattern <:+: cs) : before pattern cs = cs := by
  induction cs with
  | nil => rfl
  | cons c cs ih =>
    obtain ⟨hstart, hoccurs⟩ := not_or.mp (mt List.infix_cons_iff.mpr h)
    rw [before, if_neg (by simpa using hstart), ih hoccurs]

/-- The text up to the last character of a pattern is a prefix of any text with that pattern. -/
theorem cons_dropLast_isPrefix (c : Char) (u pattern x : List Char) :
    c :: (u ++ pattern.dropLast) <+: c :: (u ++ pattern ++ x) := by
  have hpattern : pattern.dropLast <+: pattern ++ x :=
    (List.dropLast_prefix pattern).trans (List.prefix_append pattern x)
  rw [List.append_assoc]
  exact (List.prefix_cons_inj c).mpr ((List.prefix_append_right_inj u).mpr hpattern)

/-- A pattern that does not begin in the front together with all but its own last character does
not begin there at all. -/
theorem not_isPrefix_cons (h : ¬ pattern <:+: c :: (u ++ pattern.dropLast)) (x : List Char) :
    ¬ pattern <+: c :: (u ++ pattern ++ x) := by
  intro hstart
  have hlength : pattern.length ≤ (c :: (u ++ pattern.dropLast)).length := by
    simp only [List.length_cons, List.length_append, List.length_dropLast]
    omega
  exact h (List.prefix_of_prefix_length_le hstart (cons_dropLast_isPrefix c u pattern x)
    hlength).isInfix

theorem before_append (hne : pattern ≠ []) (h : ¬ pattern <:+: u ++ pattern.dropLast)
    (x : List Char) : before pattern (u ++ pattern ++ x) = u := by
  induction u with
  | nil =>
    cases pattern with
    | nil => exact absurd rfl hne
    | cons c pattern => simp [before]
  | cons c u ih =>
    have hstart := not_isPrefix_cons h x
    rw [List.cons_append] at h
    rw [List.cons_append, List.cons_append, before, if_neg (by simpa using hstart),
      ih fun hoccurs => h (List.infix_cons hoccurs)]

theorem inFront_before (hne : pattern ≠ []) (cs : List Char) :
    InFront pattern cs (before pattern cs) := by
  induction cs with
  | nil => exact .inl ⟨by simpa using hne, rfl⟩
  | cons c cs ih =>
    rw [before]
    split
    · rename_i hhere
      obtain ⟨rest, hrest⟩ := List.isPrefixOf_iff_prefix.mp hhere
      refine .inr ⟨rest, hrest.symm, fun hoccurs => ?_⟩
      have hlength := hoccurs.length_le
      rw [List.nil_append, List.length_dropLast] at hlength
      have hpos := List.length_pos_of_ne_nil hne
      omega
    · rename_i hhere
      rw [List.isPrefixOf_iff_prefix] at hhere
      rcases ih with ⟨hnone, hfront⟩ | ⟨rest, hrest, hfirst⟩
      · refine .inl ⟨fun hoccurs => ?_, by rw [hfront]⟩
        exact (List.infix_cons_iff.mp hoccurs).elim hhere hnone
      · refine .inr ⟨rest, by rw [List.cons_append, List.cons_append, ← hrest], fun hoccurs => ?_⟩
        rcases List.infix_cons_iff.mp hoccurs with hstart | hoccurs
        · have hlong := hstart.trans (cons_dropLast_isPrefix c _ pattern rest)
          rw [← hrest] at hlong
          exact hhere hlong
        · exact hfirst hoccurs

theorem inFront_iff (hne : pattern ≠ []) : InFront pattern cs u ↔ u = before pattern cs := by
  constructor
  · rintro (⟨hnone, rfl⟩ | ⟨rest, rfl, hfirst⟩)
    · exact (before_of_absent hnone).symm
    · exact (before_append hne hfirst rest).symm
  · rintro rfl
    exact inFront_before hne cs

end TelemetryRelay.Text
