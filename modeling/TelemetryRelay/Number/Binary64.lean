/-!
# Double precision numbers

A double is kept as its 64 bits, so that the bits of one that is only passed on
are never touched.  `parts` gives its exact value, `truncate` the nearest
integer towards zero inside a range, `fixed` its text with a fixed number of
decimal places.
-/

namespace TelemetryRelay

abbrev Double := UInt64

namespace Double

/-- `± significand · 2 ^ exponent` -/
structure Parts where
  negative : Bool
  significand : Nat
  exponent : Int
  deriving Repr, DecidableEq

inductive Kind where
  | nan
  | infinite (negative : Bool)
  | finite (parts : Parts)
  deriving Repr, DecidableEq

def kind (d : Double) : Kind :=
  let n : Nat := d.toNat
  let negative : Bool := n / Nat.pow 2 63 = 1
  let exponent : Nat := n / Nat.pow 2 52 % 2048
  let fraction : Nat := n % Nat.pow 2 52
  if exponent = 2047 then if fraction = 0 then .infinite negative else .nan
  else if exponent = 0 then .finite ⟨negative, fraction, -1074⟩
  else .finite ⟨negative, fraction + Nat.pow 2 52, (exponent : Int) - 1075⟩

def isNaN (d : Double) : Bool := d.kind = .nan

/-- Equality of values: zeros are equal whatever their sign, a NaN equals nothing. -/
def equal (a b : Double) : Bool :=
  match a.kind, b.kind with
  | .nan, _ | _, .nan => false
  | .finite p, .finite q => a = b || (p.significand = 0 && q.significand = 0)
  | _, _ => a = b

/-- `num / den` rounded to the nearest integer, a half to the even neighbour. -/
def roundDiv (num den : Nat) : Nat :=
  let q := num / den
  let twice := 2 * (num % den)
  if twice < den then q else if den < twice then q + 1 else q + q % 2

/-- `num / den` as a fraction of naturals, for a finite double without its sign. -/
def Parts.ratio (p : Parts) : Nat × Nat :=
  if 0 ≤ p.exponent then (p.significand * Nat.pow 2 p.exponent.toNat, 1)
  else (p.significand, Nat.pow 2 (-p.exponent).toNat)

def clamp (low high n : Int) : Int := max low (min high n)

/-- The integer part, kept between `low` and `high`; a NaN counts as zero. -/
def truncate (low high : Int) (d : Double) : Int :=
  match d.kind with
  | .nan => 0
  | .infinite negative => if negative then low else high
  | .finite p =>
    let (num, den) := p.ratio
    let whole : Int := (num / den : Nat)
    clamp low high (if p.negative then -whole else whole)

/-- `n` written with the last `places` digits behind a point. -/
def withPoint (places n : Nat) : String :=
  let digits := toString (n % Nat.pow 10 places)
  let filled := String.ofList (List.replicate (places - digits.length) '0') ++ digits
  if places = 0 then toString n else toString (n / Nat.pow 10 places) ++ "." ++ filled

/-- The exact value rounded to `places` decimal places.  The sign of a number
that rounds to zero stays. -/
def fixed (places : Nat) (d : Double) : String :=
  match d.kind with
  | .nan => "NaN"
  | .infinite negative => if negative then "-inf" else "inf"
  | .finite p =>
    let (num, den) := p.ratio
    (if p.negative then "-" else "") ++ withPoint places (roundDiv (num * Nat.pow 10 places) den)

/-- A decimal constant as the nearest double. -/
def const (x : Float) : Double := x.toBits

def ofInt (n : Int) : Double := (Float.ofInt n).toBits

def add (a b : Double) : Double := (Float.ofBits a + Float.ofBits b).toBits

def mul (a b : Double) : Double := (Float.ofBits a * Float.ofBits b).toBits

def div (a b : Double) : Double := (Float.ofBits a / Float.ofBits b).toBits

/-- The circle number. -/
def pi : Double := 0x400921FB54442D18

end Double

end TelemetryRelay
