import TelemetryRelay.Message.Registry
import TelemetryRelay.Text.Blank

/-!
# Mapping tables

A table ties the tag of a frame to a message type, both ways, and says which
types are advertised.  It is built from a list of settings that is checked as a
whole: the first setting that offends is reported, by its first offence.
-/

namespace TelemetryRelay

/-- One mapping as it was configured. -/
structure MappingConfig where
  name : String := ""
  tag : Option Int := none
  className : Option String := none
  advertise : Bool := false
  deriving DecidableEq, Repr

inductive MappingError where
  | empty
  | duplicateName (mapping : String)
  | missingTag (mapping : String)
  | nonPositiveTag (mapping : String) (tag : Int)
  | tagOutOfRange (mapping : String) (tag : Int)
  | missingClassName (mapping : String)
  | unknownClass (mapping className : String)
  | notAMessage (mapping className : String)
  | abstractClass (mapping className : String)
  | duplicateTag (mapping : String) (tag : UInt8) (existing : String)
  | duplicateClass (mapping className existing : String)
  deriving DecidableEq, Repr

def MappingError.message : MappingError → String
  | .empty => "no mappings configured"
  | .duplicateName m => s!"mapping name '{m}' is used more than once"
  | .missingTag m => s!"mapping '{m}': tag not configured"
  | .nonPositiveTag m tag => s!"mapping '{m}' has not been assigned a tag > 0 (got {tag})"
  | .tagOutOfRange m tag => s!"mapping '{m}' has tag {tag}, which does not fit in one byte"
  | .missingClassName m => s!"mapping '{m}': class name not configured"
  | .unknownClass m c => s!"mapping '{m}': class {c} is not registered"
  | .notAMessage m c => s!"mapping '{m}': class {c} is no derivative of Message"
  | .abstractClass m c => s!"mapping '{m}': class {c} is a message family and cannot be mapped"
  | .duplicateTag m tag existing => s!"mapping '{m}' reuses tag {tag.toNat} of mapping '{existing}'"
  | .duplicateClass m c existing => s!"mapping '{m}' reuses class {c} of mapping '{existing}'"

structure MappingEntry where
  name : String
  tag : UInt8
  type : Family
  advertise : Bool

structure MappingTable where
  entries : List MappingEntry

namespace MappingTable

def byTag? (t : MappingTable) (tag : UInt8) : Option MappingEntry :=
  t.entries.find? (·.tag == tag)

def byType? (t : MappingTable) (type : Family) : Option MappingEntry :=
  t.entries.find? (·.type.same type)

def advertised (t : MappingTable) : List MappingEntry :=
  t.entries.filter (·.advertise)

/-- What a mapping is called: its name, or its position counted from one. -/
def effectiveName (position : Nat) (config : MappingConfig) : String :=
  if config.name.isEmpty then s!"#{position + 1}" else config.name

def checkTag (mapping : String) : Option Int → Except MappingError UInt8
  | none => .error (.missingTag mapping)
  | some tag =>
    if tag ≤ 0 then .error (.nonPositiveTag mapping tag)
    else if 255 < tag then .error (.tagOutOfRange mapping tag)
    else .ok (UInt8.ofNat tag.toNat)

/-- The type of that name, which has to be a message that can be decoded. -/
def checkClass (registry : Registry) (mapping : String) (className : Option String) :
    Except MappingError Family :=
  let name := Text.trimmed (className.getD "")
  if name.isEmpty then .error (.missingClassName mapping)
  else match registry.get? name with
    | none => .error (.unknownClass mapping name)
    | some type =>
      if !type.isMessage then .error (.notAMessage mapping name)
      else if type.isAbstract then .error (.abstractClass mapping name)
      else .ok type

/-- Checks one more mapping against those accepted so far. -/
def accept (registry : Registry) (t : MappingTable) (config : MappingConfig) :
    Except MappingError MappingTable := do
  let mapping := effectiveName t.entries.length config
  if t.entries.any (·.name == mapping) then throw (.duplicateName mapping)
  let tag ← checkTag mapping config.tag
  let type ← checkClass registry mapping config.className
  match t.byTag? tag, t.byType? type with
  | some existing, _ => throw (.duplicateTag mapping tag existing.name)
  | none, some existing => throw (.duplicateClass mapping type.name existing.name)
  | none, none => return ⟨t.entries ++ [⟨mapping, tag, type, config.advertise⟩]⟩

def build (registry : Registry) (configs : List MappingConfig) :
    Except MappingError MappingTable :=
  if configs.isEmpty then .error .empty
  else configs.foldlM (accept registry) ⟨[]⟩

end MappingTable

end TelemetryRelay
