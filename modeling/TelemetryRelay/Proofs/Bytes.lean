import Mathlib.Data.List.Induction
import TelemetryRelay.Bytes

/-!
# Byte strings as numbers

Reading the number that a byte string spells and spelling it again gives the
byte string back.
-/

namespace TelemetryRelay.Bytes

theorem ofNat_toNat (bs : Bytes) : ofNat bs.length (toNat bs) = bs := by
  induction bs using List.reverseRecOn with
  | nil => rfl
  | append_singleton bs b ih =>
      have hb : b.toNat < 256 := b.toNat_lt
      have hdiv : (toNat bs * 256 + b.toNat) / 256 = toNat bs := by omega
      have hmod : (toNat bs * 256 + b.toNat) % 256 = b.toNat := by omega
      rw [toNat_append_one, List.length_append, List.length_singleton, ofNat, hdiv, hmod, ih]
      simp

theorem toNat_lt (bs : Bytes) : toNat bs < Nat.pow 256 bs.length := by
  have h : toNat (ofNat bs.length (toNat bs)) = _ := toNat_ofNat _ _
  rw [ofNat_toNat] at h
  rw [h]
  exact Nat.mod_lt _ (Nat.pow_pos (by decide))

end TelemetryRelay.Bytes
