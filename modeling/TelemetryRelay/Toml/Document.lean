import TelemetryRelay.Toml.Scalar

/-!
# TOML documents

A document is read line by line: comments, headers and assignments.  Values may
be nested up to a fixed depth.
-/

namespace TelemetryRelay.Toml

/-- How deep arrays and inline tables, or the parts of a key, may be nested. -/
def maxDepth : Nat := 79

def comment : List Char → Option (List Char)
  | '#' :: rest => some (rest.dropWhile isPlain)
  | _ => none

/-- Spaces, line ends and comments, which separate the items of an array. -/
def skipBlank : (fuel : Nat) → List Char → List Char
  | 0, cs => cs
  | fuel + 1, cs =>
    let cs := skipSpace cs
    match newline? cs, comment cs with
    | some rest, _ => skipBlank fuel rest
    | none, some rest => match newline? rest with
      | some rest => skipBlank fuel rest
      | none => cs
    | none, none => cs

/-! ## Keys -/

def isBare (c : Char) : Bool := c.isAlphanum || c = '-' || c = '_'

def simpleKey (cs : List Char) : Option (String × List Char) :=
  match cs with
  | '"' :: rest => (basicString rest.length rest).map fun r => (String.ofList r.1, r.2)
  | '\'' :: rest => (literalString rest).map fun r => (String.ofList r.1, r.2)
  | cs =>
    let bare := cs.takeWhile isBare
    if bare.isEmpty then none else some (String.ofList bare, cs.drop bare.length)

/-- The parts of a dotted key, with the spaces around them. -/
def keyParts : (fuel : Nat) → Reader (List String)
  | 0, _ => none
  | fuel + 1, cs => do
    let (part, rest) ← simpleKey (skipSpace cs)
    match skipSpace rest with
    | '.' :: rest =>
      let (parts, rest) ← keyParts fuel rest
      some (part :: parts, rest)
    | rest => some ([part], rest)

/-- A key as the path to a table and a name in it. -/
def key (cs : List Char) : Option ((List String × String) × List Char) := do
  let (parts, rest) ← keyParts (maxDepth + 1) cs
  if maxDepth < parts.length then none
  else some ((parts.dropLast, parts.getLast?.getD ""), rest)

/-! ## Values -/

/-- Items up to the closing bracket, a comma behind each but perhaps the last. -/
def items (item : Reader Value) : (fuel : Nat) → Reader (List Value)
  | 0, _ => none
  | fuel + 1, cs =>
    match skipBlank cs.length cs with
    | ']' :: rest => some ([], rest)
    | cs => do
      let (value, rest) ← item cs
      match skipBlank rest.length rest with
      | ',' :: rest =>
        let (values, rest) ← items item fuel rest
        some (value :: values, rest)
      | ']' :: rest => some ([value], rest)
      | _ => none

def assignment (item : Reader Value) (cs : List Char) :
    Option ((List String × String × Value) × List Char) := do
  let ((path, name), rest) ← key cs
  let (value, rest) ← item (skipSpace (← literal "=" rest))
  some ((path, name, value), rest)

/-- The assignments of an inline table, which has at least one. -/
def pairs (item : Reader Value) : (fuel : Nat) → Entries → Reader Entries
  | 0, _, _ => none
  | fuel + 1, entries, cs => do
    let ((path, name, value), rest) ← assignment item cs
    let entries ← entries.assign path name value
    match skipSpace rest with
    | ',' :: rest => pairs item fuel entries rest
    | '}' :: rest => some (entries, rest)
    | _ => none

def inlineTable (item : Reader Value) (cs : List Char) : Option (Value × List Char) :=
  match skipSpace cs with
  | '}' :: rest => some (.table .inline [], rest)
  | cs => (pairs item cs.length [] cs).map fun (entries, rest) => (.table .inline entries, rest)

/-- A value whose own parts are nested at most `depth` deep. -/
def value : (depth : Nat) → Reader Value
  | depth, cs =>
    match cs with
    | '[' :: rest =>
      match depth with
      | 0 => none
      | depth + 1 => (items (value depth) rest.length rest).map fun (vs, r) => (.array vs, r)
    | '{' :: rest =>
      match depth with
      | 0 => none
      | depth + 1 => inlineTable (value depth) rest
    | '"' :: _ | '\'' :: _ => (string cs).map fun (s, r) => (.text s, r)
    | 't' :: _ => (literal "true" cs).map fun rest => (.boolean true, rest)
    | 'f' :: _ => (literal "false" cs).map fun rest => (.boolean false, rest)
    | _ => (datetime cs).or ((float cs).or (integer cs))

/-! ## Lines -/

/-- What may still stand at the end of a line. -/
def lineEnd (cs : List Char) : Option (List Char) :=
  let rest := skipSpace cs
  let rest := (comment rest).getD rest
  if rest.isEmpty then some [] else newline? rest

/-- The tables read so far and the one that assignments go to. -/
structure Draft where
  root : Entries
  current : List String

def Draft.assign (d : Draft) (path : List String) (name : String) (v : Value) : Option Draft :=
  (Entries.within .implied (fun _ inner => inner.assign path name v) d.current false d.root).map
    fun root => { d with root }

def header (cs : List Char) (d : Draft) : Option (Draft × List Char) :=
  match cs with
  | '[' :: '[' :: rest => do
    let ((path, name), rest) ← key rest
    let root ← d.root.openRow path name
    some (⟨root, path ++ [name]⟩, ← literal "]]" rest)
  | '[' :: rest => do
    let ((path, name), rest) ← key rest
    let root ← d.root.openTable path name
    some (⟨root, path ++ [name]⟩, ← literal "]" rest)
  | _ => none

def line (d : Draft) (cs : List Char) : Option (Draft × List Char) := do
  let cs := skipSpace cs
  let (d, rest) ← match cs with
    | [] => some (d, [])
    | '[' :: _ => header cs d
    | c :: _ =>
      if c = '#' || (newline? cs).isSome then some (d, cs)
      else do
        let ((path, name, v), rest) ← assignment (value maxDepth) cs
        some (← d.assign path name v, rest)
  some (d, ← lineEnd rest)

def lines : (fuel : Nat) → Draft → List Char → Option Entries
  | _, d, [] => some d.root
  | 0, _, _ => none
  | fuel + 1, d, cs => do
    let (d, rest) ← line d cs
    lines fuel d rest

/-- The entries of a document; a byte order mark in front is ignored. -/
def parse? (document : String) : Option Entries :=
  let cs := match document.toList with
    | c :: rest => if c = Char.ofNat 0xFEFF then rest else c :: rest
    | [] => []
  lines (cs.length + 1) ⟨[], []⟩ cs

end TelemetryRelay.Toml
