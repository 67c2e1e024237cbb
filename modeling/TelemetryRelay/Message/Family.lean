import TelemetryRelay.Message.Body
import TelemetryRelay.Text.Quoted

/-!
# Messages and their families

Every message type is a family: it has a name, the families it belongs to and,
when its messages can be decoded, a decoder.  A type is a member of itself and of
every family that its parents lead to.  Families are told apart by their names
alone.

A message is a body, or bytes under the name of some other family.  Whoever declares
a family says how its payloads are decoded, and to what: to messages of that family
or of any other.
-/

namespace TelemetryRelay

mutual

inductive Family where
  | declare (name : String) (parents : List Family)
      (decoder : Option (Bytes → Except MessageError Content))

/-- What a payload is decoded to. -/
inductive Content where
  /-- A message of the family that decodes it. -/
  | own (payload : Bytes)
  | other (message : Message)

inductive Message where
  | known (body : Body)
  | foreign (family : Family) (payload : Bytes)

end

/-- Reads a payload, or refuses it. -/
abbrev Decoder := Bytes → Except MessageError Content

/-- The decoder of a kind. -/
def Kind.decoder (k : Kind) : Decoder :=
  fun payload => (k.decode payload).map fun body => .other (.known body)

/-- The message that a family takes some content for. -/
def Content.under (t : Family) : Content → Message
  | .own payload => .foreign t payload
  | .other message => message

namespace Family

/-- A family whose payloads, if they can be decoded, are of one of the kinds. -/
def mk (name : String) (parents : List Family) (kind : Option Kind) : Family :=
  .declare name parents (kind.map Kind.decoder)

def name : Family → String
  | .declare name _ _ => name

def parents : Family → List Family
  | .declare _ parents _ => parents

def decoder : Family → Option Decoder
  | .declare _ _ decoder => decoder

mutual

/-- Whether a family is called `family` or has an ancestor of that name. -/
def isNamed (family : String) : Family → Bool
  | .declare name parents _ => name == family || anyNamed family parents

def anyNamed (family : String) : List Family → Bool
  | [] => false
  | parent :: parents => isNamed family parent || anyNamed family parents

end

/-- Membership of `t` in the family `f`. -/
def isA (t f : Family) : Bool := isNamed f.name t

/-- Families are equal when their names are. -/
def same (t f : Family) : Bool := t.name == f.name

def isAbstract (t : Family) : Bool := t.decoder.isNone

/-- The root of all families. -/
def anyMessage : Family := .mk "Message" [] none

def isMessage (t : Family) : Bool := t.isA anyMessage

/-- A description of name, parents and decodability. -/
def describe (t : Family) : String :=
  "MessageType \x7b name: " ++ Text.quoted t.name ++ ", parents: " ++
    Text.quotedList (t.parents.map name) ++ ", abstract: " ++ toString t.isAbstract ++ " \x7d"

/-- Decodes a payload with the decoder of the family. -/
def decode (t : Family) (payload : Bytes) : Except MessageError Message :=
  match t.decoder with
  | none => .error (.undecodable t.name)
  | some decoder => (decoder payload).map (Content.under t)

theorem anyNamed_eq_any (family : String) (parents : List Family) :
    anyNamed family parents = parents.any (isNamed family) := by
  induction parents with
  | nil => simp [anyNamed]
  | cons parent parents ih => simp [anyNamed, ih]

end Family

namespace Kind

def controllerParameters : Family := .mk "ControllerParameters" [Family.anyMessage] none

def parent : Kind → Family
  | .positionControllerParameters | .yawControllerParameters => controllerParameters
  | _ => Family.anyMessage

def family (k : Kind) : Family := .mk k.name [k.parent] (some k)

theorem decode_family (k : Kind) (payload : Bytes) :
    k.family.decode payload = (k.decode payload).map .known := by
  show ((k.decode payload).map _).map _ = _
  cases k.decode payload <;> rfl

end Kind

/-- The families that every party knows. -/
def Family.catalogue : List Family :=
  Family.anyMessage :: Kind.controllerParameters :: Kind.all.map Kind.family

namespace Message

def family : Message → Family
  | .known body => body.kind.family
  | .foreign family _ => family

def encode : Message → Bytes
  | .known body => body.encode
  | .foreign _ payload => payload

end Message

end TelemetryRelay
