import TelemetryRelay.Bytes
import TelemetryRelay.Number.Binary64

/-!
# Laser positions

A position is eight decimal digits of millimetres, most significant first.
Reading takes any bytes: one that is no digit counts as its distance from `0`.
-/

namespace TelemetryRelay.Message

structure LaserPosition where
  digits : Bytes
  width : digits.length = 8
  deriving DecidableEq, Repr

namespace LaserPosition

/-- The signed weight of one byte as a digit. -/
def digitValue (b : UInt8) : Int := (b.toNat : Int) - 48

def accumulate (digits : Bytes) : Int :=
  digits.foldl (fun n b => n * 10 + digitValue b) 0

/-- The last `width` decimal digits of `n`. -/
def digitsOf : (width : Nat) → (n : Nat) → Bytes
  | 0, _ => []
  | width + 1, n => digitsOf width (n / 10) ++ [48 + UInt8.ofNat (n % 10)]

@[simp] theorem length_digitsOf (width n : Nat) : (digitsOf width n).length = width := by
  induction width generalizing n with
  | zero => rfl
  | succ width ih => simp [digitsOf, ih]

def millimetres (p : LaserPosition) : Int := accumulate p.digits

def ofMillimetres (n : Nat) : LaserPosition := ⟨digitsOf 8 n, length_digitsOf 8 n⟩

def zero : LaserPosition := ofMillimetres 0

/-- `accumulate` in double precision. -/
def accumulateDouble (digits : Bytes) : Double :=
  digits.foldl (fun n b => (n.mul (Double.const 10.0)).add (Double.ofInt (digitValue b)))
    (Double.const 0.0)

def metres (p : LaserPosition) : Double :=
  (accumulateDouble p.digits).div (Double.const 1000.0)

def ofMetres (d : Double) : LaserPosition :=
  ofMillimetres ((d.mul (Double.const 1000.0)).truncate 0 (UInt64.size - 1 : Nat)).toNat

def encode (p : LaserPosition) : Bytes := p.digits

/-- The eight bytes of `payload` from `start` on. -/
def slice (payload : Bytes) (start : Nat) (h : start + 8 ≤ payload.length) : LaserPosition :=
  ⟨(payload.drop start).take 8, by simp; omega⟩

end LaserPosition

end TelemetryRelay.Message
