import TelemetryRelay.Bytes
import TelemetryRelay.Number.Binary64

/-!
# Fields

Payloads are laid out as fields of equal width: signed 16-bit words or doubles,
most significant byte first.
-/

namespace TelemetryRelay

/-- The first `count` pieces of `width` bytes each. -/
def Bytes.pieces (width : Nat) : (count : Nat) → Bytes → List Bytes
  | 0, _ => []
  | count + 1, bs => bs.take width :: pieces width count (bs.drop width)

@[simp] theorem Bytes.length_pieces (width count : Nat) (bs : Bytes) :
    (bs.pieces width count).length = count := by
  induction count generalizing bs with
  | zero => rfl
  | succ count ih => simp [pieces, ih]

/-- How numbers of one type are spelled in a payload. -/
structure Field (φ : Type) where
  width : Nat
  encode : φ → Bytes
  decode : Bytes → φ

namespace Field

variable {φ : Type} (f : Field φ) {count : Nat}

def encodeRow (row : Vector φ count) : Bytes := row.toList.flatMap f.encode

def decodeRow (count : Nat) (bs : Bytes) : Vector φ count :=
  ⟨((bs.pieces f.width count).map f.decode).toArray, by simp⟩

def word : Field Int16 where
  width := 2
  encode w := Bytes.ofNat 2 w.toUInt16.toNat
  decode bs := (UInt16.ofNat (Bytes.toNat bs)).toInt16

def double : Field Double where
  width := 8
  encode d := Bytes.ofNat 8 d.toNat
  decode bs := UInt64.ofNat (Bytes.toNat bs)

end Field

namespace Words

/-- The nearest word towards zero. -/
def ofDouble (d : Double) : Int16 := Int16.ofInt (d.truncate (-32768) 32767)

def toDouble (w : Int16) : Double := Double.ofInt w.toInt

end Words

end TelemetryRelay
