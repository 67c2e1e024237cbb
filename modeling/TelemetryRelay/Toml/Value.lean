/-!
# TOML values

The value a document stands for, and the rules by which keys and headers may
add to it.  A table remembers how it came to be: a table that was written out
is closed to dotted keys, one that only lies on the way of a header may still
be given a header of its own, and one made by dotted keys takes only these.
-/

namespace TelemetryRelay.Toml

inductive Origin where
  /-- Written between braces; closed for good. -/
  | inline
  /-- Opened by a header. -/
  | header
  /-- On the way of a longer header. -/
  | implied
  /-- On the way of a dotted key. -/
  | dotted
  deriving DecidableEq, Repr

inductive Value where
  | text (s : String)
  | integer (n : Int)
  | float
  | boolean (b : Bool)
  | datetime
  | array (items : List Value)
  | table (origin : Origin) (entries : List (String × Value))
  /-- The tables of a repeated header, the latest last. -/
  | tables (rows : List (List (String × Value)))

abbrev Entries := List (String × Value)

namespace Entries

def get? (entries : Entries) (key : String) : Option Value :=
  (entries.find? (·.1 == key)).map (·.2)

def set (entries : Entries) (key : String) (value : Value) : Entries :=
  if (entries.get? key).isSome then
    entries.map fun entry => if entry.1 == key then (key, value) else entry
  else entries ++ [(key, value)]

/-- Changes the table at the end of `path`, making tables of the given origin on
the way.  The change is told whether the table was made by dotted keys. -/
def within (made : Origin) (change : Bool → Entries → Option Entries) :
    (path : List String) → (isDotted : Bool) → Entries → Option Entries
  | [], isDotted, entries => change isDotted entries
  | key :: path, _, entries => do
    match entries.get? key with
    | none =>
      let inner ← within made change path (made == .dotted) []
      some (entries.set key (.table made inner))
    | some (.table origin inner) =>
      let closed := origin == .inline || (made == .dotted && origin == .header)
      if closed then none
      else
        let inner ← within made change path (origin == .dotted) inner
        some (entries.set key (.table origin inner))
    | some (.tables rows) =>
      let inner ← within made change path false (rows.getLast?.getD [])
      some (entries.set key (.tables (rows.dropLast ++ [inner])))
    | some _ => none

/-- `path.key = value`.  A dotted key may only end in a table made by dotted
keys, a plain one only in a table that was not, and neither is taken. -/
def assign (path : List String) (key : String) (value : Value) (entries : Entries) :
    Option Entries :=
  within .dotted (fun isDotted inner =>
    if isDotted == path.isEmpty then none
    else if (inner.get? key).isSome then none
    else some (inner ++ [(key, value)])) path false entries

/-- `[path.key]` -/
def openTable (path : List String) (key : String) (entries : Entries) : Option Entries :=
  within .implied (fun _ inner =>
    match inner.get? key with
    | none => some (inner ++ [(key, .table .header [])])
    | some (.table .implied old) => some (inner.set key (.table .header old))
    | some _ => none) path false entries

/-- `[[path.key]]` -/
def openRow (path : List String) (key : String) (entries : Entries) : Option Entries :=
  within .implied (fun _ inner =>
    match inner.get? key with
    | none => some (inner ++ [(key, .tables [[]])])
    | some (.tables rows) => some (inner.set key (.tables (rows ++ [[]])))
    | some _ => none) path false entries

end Entries

end TelemetryRelay.Toml
