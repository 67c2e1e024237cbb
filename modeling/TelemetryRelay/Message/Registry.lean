import TelemetryRelay.Message.Family

/-!
# Registries

The families that can be looked up by name.  A family registered under a name
that is taken replaces the one before it.
-/

namespace TelemetryRelay

structure Registry where
  families : List Family

namespace Registry

def empty : Registry := ⟨[]⟩

def get? (r : Registry) (name : String) : Option Family :=
  r.families.find? (·.name == name)

def register (r : Registry) (t : Family) : Registry :=
  if (r.get? t.name).isSome then
    ⟨r.families.map fun old => if old.name == t.name then t else old⟩
  else ⟨r.families ++ [t]⟩

def ofFamilies (families : List Family) : Registry :=
  families.foldl register empty

/-- What every party knows. -/
def standard : Registry := ofFamilies Family.catalogue

def size (r : Registry) : Nat := r.families.length

end Registry

end TelemetryRelay
