import TelemetryRelay.Assoc

/-!
# The keys of association lists

What changes a value leaves the keys alone, and where no key comes twice an entry
is what its key leads to.
-/

namespace TelemetryRelay.Assoc

variable {κ α : Type} [DecidableEq κ] {a : Assoc κ α} {k : κ} {v : α}

theorem get?_set_of_ne {x : κ} (h : x ≠ k) : (a.set k v).get? x = a.get? x := by
  rw [get?_set, if_neg h]

theorem replace_replace (k : κ) (v w : α) (es : List (κ × α)) :
    replace k w (replace k v es) = replace k w es := by
  induction es with
  | nil => simp [replace]
  | cons e es ih => by_cases h : e.1 = k <;> simp [replace, h, ih]

theorem set_set (a : Assoc κ α) (k : κ) (v w : α) : (a.set k v).set k w = a.set k w :=
  congrArg Assoc.mk (replace_replace k v w a.entries)

theorem mem_of_find {es : List (κ × α)} (h : find k es = some v) : (k, v) ∈ es := by
  induction es with
  | nil => cases h
  | cons e es ih =>
      unfold find at h
      split at h
      · rename_i hk
        cases h
        rw [← hk]
        exact List.mem_cons_self
      · exact List.mem_cons_of_mem e (ih h)

theorem find_of_mem {es : List (κ × α)} (hdistinct : (es.map (·.1)).Nodup) (h : (k, v) ∈ es) :
    find k es = some v := by
  induction es with
  | nil => cases h
  | cons e es ih =>
      rw [List.map_cons, List.nodup_cons] at hdistinct
      unfold find
      rcases List.mem_cons.mp h with rfl | hmem
      · simp
      · have hne : e.1 ≠ k := by
          rintro rfl
          exact hdistinct.1 (List.mem_map.mpr ⟨_, hmem, rfl⟩)
        rw [if_neg hne]
        exact ih hdistinct.2 hmem

theorem get?_of_mem (hdistinct : a.keys.Nodup) (h : (k, v) ∈ a.entries) : a.get? k = some v :=
  find_of_mem hdistinct h

theorem keys_replace (k : κ) (v : α) (es : List (κ × α)) :
    (replace k v es).map (·.1) =
      if (find k es).isSome then es.map (·.1) else es.map (·.1) ++ [k] := by
  induction es with
  | nil => rfl
  | cons e es ih =>
      by_cases hk : e.1 = k
      · simp [replace, find, hk]
      · simp only [replace, find, hk, if_false, List.map_cons, ih]
        split <;> rfl

theorem keys_set (a : Assoc κ α) (k : κ) (v : α) :
    (a.set k v).keys = if (a.get? k).isSome then a.keys else a.keys ++ [k] :=
  keys_replace k v a.entries

@[simp] theorem keys_modify (a : Assoc κ α) (k : κ) (f : α → α) : (a.modify k f).keys = a.keys := by
  unfold modify
  split
  · rename_i v hk
    rw [keys_set, hk]
    rfl
  · rfl

theorem get?_eq_none_iff : a.get? k = none ↔ k ∉ a.keys := by
  obtain ⟨es⟩ := a
  show find k es = none ↔ k ∉ es.map (·.1)
  induction es with
  | nil => simp [find]
  | cons e es ih =>
      by_cases hk : e.1 = k
      · simp [find, hk]
      · simp [find, hk, ih, Ne.symm hk]

theorem mem_keys_iff : k ∈ a.keys ↔ ∃ v, a.get? k = some v := by
  rw [← Option.ne_none_iff_exists', ne_eq, get?_eq_none_iff, Classical.not_not]

theorem filter_replace {es : List (κ × α)} (hnew : find k es = none) (v : α) :
    (replace k v es).filter (fun e => e.1 != k) = es := by
  induction es with
  | nil => simp [replace]
  | cons e es ih =>
      by_cases h : e.1 = k
      · simp [find, h] at hnew
      · rw [find, if_neg h] at hnew
        simp [replace, h, ih hnew]

/-- What was not there before is gone without a trace. -/
theorem erase_set (hnew : a.get? k = none) (v : α) : (a.set k v).erase k = a :=
  congrArg Assoc.mk (filter_replace hnew v)

theorem nodup_keys_set (hdistinct : a.keys.Nodup) (k : κ) (v : α) : (a.set k v).keys.Nodup := by
  rw [keys_set]
  split
  · exact hdistinct
  · rename_i hnew
    have hk : k ∉ a.keys := get?_eq_none_iff.mp (by simpa using hnew)
    exact List.nodup_append.mpr ⟨hdistinct, by simp, by
      intro x hx y hy hxy
      rw [List.mem_singleton.mp hy] at hxy
      exact hk (hxy ▸ hx)⟩

omit [DecidableEq κ] in
theorem nodup_keys_filter (hdistinct : a.keys.Nodup) (p : κ × α → Bool) :
    (Assoc.mk (a.entries.filter p)).keys.Nodup :=
  hdistinct.sublist (List.Sublist.map _ List.filter_sublist)

/-- What a key leads to where some entries are left out. -/
theorem get?_filter (hdistinct : a.keys.Nodup) (p : κ × α → Bool) (k : κ) :
    (Assoc.mk (a.entries.filter p)).get? k = (a.get? k).filter fun v => p (k, v) := by
  apply Option.ext
  intro v
  constructor
  · intro h
    obtain ⟨hmem, hp⟩ := List.mem_filter.mp (mem_of_find h)
    simp [get?_of_mem hdistinct hmem, hp]
  · intro h
    obtain ⟨hget, hp⟩ := Option.filter_eq_some_iff.mp h
    exact get?_of_mem (nodup_keys_filter hdistinct p)
      (List.mem_filter.mpr ⟨mem_of_find hget, hp⟩)

/-- What is found first where one value is another. -/
theorem findSome?_set {β : Type} {g : κ × α → Option β} {f : β → β} {w : α}
    (hdistinct : a.keys.Nodup) (hget : a.get? k = some v) (hself : g (k, w) = (g (k, v)).map f)
    (hother : ∀ e, e.1 ≠ k → (g e).map f = g e) :
    (a.set k w).entries.findSome? g = (a.entries.findSome? g).map f := by
  obtain ⟨es⟩ := a
  replace hget : find k es = some v := hget
  replace hdistinct : (es.map (·.1)).Nodup := hdistinct
  show (replace k w es).findSome? g = (es.findSome? g).map f
  induction es with
  | nil => cases hget
  | cons e es ih =>
      rw [List.map_cons, List.nodup_cons] at hdistinct
      by_cases hk : e.1 = k
      · have he : e = (k, v) := by
          simp only [find, hk, if_true, Option.some.injEq] at hget
          exact Prod.ext hk hget
        have hrest : (es.findSome? g).map f = es.findSome? g := by
          cases hfound : es.findSome? g with
          | none => rfl
          | some b =>
              obtain ⟨e', hmem, hg⟩ := List.exists_of_findSome?_eq_some hfound
              have hne : e'.1 ≠ k := by
                rintro rfl
                exact hdistinct.1 (hk ▸ List.mem_map.mpr ⟨e', hmem, rfl⟩)
              rw [← hg, hother e' hne]
        subst he
        simp only [replace, if_true, List.findSome?_cons, hself]
        cases g (k, v) with
        | some b => rfl
        | none => exact hrest.symm
      · simp only [replace, hk, if_false, List.findSome?_cons]
        simp only [find, hk, if_false] at hget
        have he := hother e hk
        cases hg : g e with
        | some b =>
            rw [hg] at he
            exact he.symm
        | none => exact ih hget hdistinct.2

end TelemetryRelay.Assoc
