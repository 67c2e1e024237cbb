/-!
# Byte strings

Byte strings and the numbers spelled in them, most significant byte first.
-/

namespace TelemetryRelay

abbrev Bytes := List UInt8

namespace Bytes

/-- The number that a byte string spells in base 256. -/
def toNat (bs : Bytes) : Nat :=
  bs.foldl (fun n b => n * 256 + b.toNat) 0

/-- The last `width` base 256 digits of `n`. -/
def ofNat : (width : Nat) → (n : Nat) → Bytes
  | 0, _ => []
  | width + 1, n => ofNat width (n / 256) ++ [UInt8.ofNat (n % 256)]

/-- The sum of all bytes. -/
def sum : Bytes → Nat
  | [] => 0
  | b :: bs => b.toNat + sum bs

@[simp] theorem length_ofNat (width n : Nat) : (ofNat width n).length = width := by
  induction width generalizing n with
  | zero => rfl
  | succ width ih => simp [ofNat, ih]

theorem toNat_append_one (bs : Bytes) (b : UInt8) :
    toNat (bs ++ [b]) = toNat bs * 256 + b.toNat := by
  simp [toNat, List.foldl_append]

/-- Spelling a number and reading it back keeps it up to the width. -/
theorem toNat_ofNat (width n : Nat) : toNat (ofNat width n) = n % Nat.pow 256 width := by
  induction width generalizing n with
  | zero => simp [ofNat, toNat, Nat.mod_one]
  | succ width ih =>
    rw [ofNat, toNat_append_one, ih]
    have hb : (UInt8.ofNat (n % 256)).toNat = n % 256 := by simp
    rw [hb, Nat.pow_eq, Nat.pow_eq, Nat.pow_succ', Nat.mod_mul, Nat.mul_comm]
    omega

end Bytes

end TelemetryRelay
