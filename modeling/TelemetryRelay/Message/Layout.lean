import TelemetryRelay.Message.Kind
import TelemetryRelay.Number.Word

/-!
# Layouts

Most messages are records that are laid out as a row of fields of one width.  A
payload that does not have the length of the row is refused under the name of
the kind that it was read as.
-/

namespace TelemetryRelay

inductive MessageError where
  | payloadLength (type : String) (expected actual : Nat)
  | undecodable (type : String)
  deriving DecidableEq, Repr

def MessageError.message : MessageError → String
  | .payloadLength type expected actual =>
      s!"{type}: payload length of {actual} bytes does not match the expected {expected} bytes"
  | .undecodable type => s!"{type} is a message family and cannot be decoded"

namespace Kind

variable {φ : Type} (k : Kind)

def wrongLength (expected : Nat) (payload : Bytes) : MessageError :=
  .payloadLength k.name expected payload.length

/-- Reads a payload that has to be a row of `count` fields. -/
def readRow (f : Field φ) (count : Nat) (payload : Bytes) :
    Except MessageError (Vector φ count) :=
  if payload.length = count * f.width then .ok (f.decodeRow count payload)
  else .error (k.wrongLength (count * f.width) payload)

end Kind

namespace Message

/-- How a record is laid out as a row of fields.  The row may have fields that
the record does not keep. -/
structure Layout (α φ : Type) where
  field : Field φ
  count : Nat
  row : α → Vector φ count
  ofRow : Vector φ count → α
  ofRow_row : ∀ a, ofRow (row a) = a

namespace Layout

variable {α φ : Type} (l : Layout α φ)

def fields (a : α) : List φ := (l.row a).toList

def encode (a : α) : Bytes := l.field.encodeRow (l.row a)

def decode (k : Kind) (payload : Bytes) : Except MessageError α :=
  (k.readRow l.field l.count payload).map l.ofRow

/-- The record with these fields, if there are as many as it takes. -/
def ofFields? (fields : List φ) : Option α :=
  if h : fields.length = l.count then some (l.ofRow ⟨fields.toArray, h⟩) else none

end Layout

end Message

end TelemetryRelay
