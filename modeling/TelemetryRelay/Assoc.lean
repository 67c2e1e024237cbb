/-!
# Values by key

An association list that keeps the order in which its keys came.
-/

namespace TelemetryRelay

structure Assoc (κ α : Type) where
  entries : List (κ × α)
  deriving Repr

namespace Assoc

variable {κ α : Type} [DecidableEq κ]

def empty : Assoc κ α := ⟨[]⟩

def find (k : κ) : List (κ × α) → Option α
  | [] => none
  | e :: es => if e.1 = k then some e.2 else find k es

def get? (a : Assoc κ α) (k : κ) : Option α := find k a.entries

def replace (k : κ) (v : α) : List (κ × α) → List (κ × α)
  | [] => [(k, v)]
  | e :: es => if e.1 = k then (k, v) :: es else e :: replace k v es

def set (a : Assoc κ α) (k : κ) (v : α) : Assoc κ α := ⟨replace k v a.entries⟩

def modify (a : Assoc κ α) (k : κ) (f : α → α) : Assoc κ α :=
  match a.get? k with
  | some v => a.set k (f v)
  | none => a

def erase (a : Assoc κ α) (k : κ) : Assoc κ α :=
  ⟨a.entries.filter fun e => e.1 != k⟩

def map {β : Type} (f : α → β) (a : Assoc κ α) : Assoc κ β := ⟨a.entries.map fun e => (e.1, f e.2)⟩

def keys (a : Assoc κ α) : List κ := a.entries.map (·.1)

theorem find_replace (k : κ) (v : α) (x : κ) (es : List (κ × α)) :
    find x (replace k v es) = if x = k then some v else find x es := by
  induction es with
  | nil => by_cases h : x = k <;> simp [replace, find, h, Ne.symm]
  | cons e es ih =>
    by_cases he : e.1 = k
    · by_cases hx : x = k
      · simp [replace, find, he, hx]
      · have hxk : ¬k = x := fun h => hx h.symm
        simp [replace, find, he, hx, hxk]
    · by_cases hx : e.1 = x
      · have hxk : ¬x = k := fun h => he (hx.trans h)
        simp [replace, find, hx, hxk]
      · simp [replace, find, he, hx, ih]

@[simp] theorem get?_set (a : Assoc κ α) (k : κ) (v : α) (x : κ) :
    (a.set k v).get? x = if x = k then some v else a.get? x :=
  find_replace k v x a.entries

theorem get?_set_self (a : Assoc κ α) (k : κ) (v : α) : (a.set k v).get? k = some v := by
  rw [get?_set, if_pos rfl]

theorem eq_of_get?_set {a : Assoc κ α} {k : κ} {v w : α} (h : (a.set k v).get? k = some w) :
    w = v := by
  rw [get?_set, if_pos rfl] at h
  exact (Option.some.inj h).symm

@[simp] theorem get?_modify (a : Assoc κ α) (k : κ) (f : α → α) (x : κ) :
    (a.modify k f).get? x = if x = k then (a.get? k).map f else a.get? x := by
  unfold modify
  cases hk : a.get? k with
  | some v => simp
  | none =>
    by_cases h : x = k
    · simp [h, hk]
    · simp [h]

@[simp] theorem get?_map {β : Type} (f : α → β) (a : Assoc κ α) (x : κ) :
    (a.map f).get? x = (a.get? x).map f := by
  simp only [get?, map]
  induction a.entries with
  | nil => rfl
  | cons e es ih => by_cases h : e.1 = x <;> simp [find, h, ih]

@[simp] theorem get?_erase (a : Assoc κ α) (k x : κ) :
    (a.erase k).get? x = if x = k then none else a.get? x := by
  simp only [get?, erase]
  induction a.entries with
  | nil => simp [find]
  | cons e es ih =>
    by_cases hk : e.1 = k
    · by_cases hx : x = k
      · simp_all
      · have hex : e.1 ≠ x := fun h => hx (h.symm.trans hk)
        simp [hk, ih, hx, find, Ne.symm hx]
    · by_cases hx : e.1 = x
      · have hxk : x ≠ k := fun h => hk (hx.trans h)
        simp [hx, hxk, find]
      · simp [hk, hx, ih, find]

@[simp] theorem get?_empty (x : κ) : (empty : Assoc κ α).get? x = none := rfl

end Assoc

end TelemetryRelay
