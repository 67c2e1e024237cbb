import TelemetryRelay.Text.Blank

/-!
# Scanning sources for forbidden code

A rule forbids patterns in the code of a source text.  Comments are no code, and
nothing from the first test section on is looked at.
-/

namespace TelemetryRelay.SourceScan

structure Rule where
  name : String
  patterns : List String
  deriving DecidableEq, Repr

/-- A line of a text that breaks a rule. -/
structure Finding where
  line : Nat
  rule : String
  text : String
  deriving DecidableEq, Repr

/-- What is found in the file at a path. -/
structure Violation extends Finding where
  path : String
  deriving DecidableEq, Repr

def testSection : String := "#[cfg(test)]"

def comment : String := "//"

/-- The lines of a text without their ends; a carriage return belongs to the end
of a line that a line feed closes. -/
def lines (content : String) : List String :=
  let pieces := Text.splitAt '\n' content.toList
  let closed := pieces.dropLast.map fun piece =>
    if piece.getLast? = some '\r' then piece.dropLast else piece
  let last := pieces.getLast?.getD []
  (closed ++ if last.isEmpty then [] else [last]).map String.ofList

def codePart (line : String) : List Char := Text.before comment.toList line.toList

def Rule.breaks (rule : Rule) (line : String) : Bool :=
  rule.patterns.any fun pattern => Text.occursIn pattern.toList (codePart line)

/-- What is found in one line, in the order of the rules. -/
def scanLine (rules : List Rule) (number : Nat) (line : String) : List Finding :=
  let text := Text.trimmed line
  if comment.toList.isPrefixOf text.toList then []
  else (rules.filter (·.breaks line)).map fun rule => ⟨number, rule.name, text⟩

def opensTests (line : String) : Bool :=
  testSection.toList.isPrefixOf (Text.trimmed line).toList

def scanLines (rules : List Rule) (lines : List String) : List Finding :=
  ((lines.takeWhile fun line => !opensTests line).zipIdx 1).flatMap fun (line, number) =>
    scanLine rules number line

def scan (rules : List Rule) (content : String) : List Finding :=
  scanLines rules (lines content)

def Finding.inFile (path : String) (f : Finding) : Violation := { f with path }

/-- The violations in the file at a path that has that content. -/
def scanSource (path content : String) (rules : List Rule) : List Violation :=
  (scan rules content).map (Finding.inFile path)

def Violation.render (v : Violation) : String :=
  s!"{v.path}:{v.line} - {v.rule}: {v.text}"

def Finding.render (path : String) (f : Finding) : String := (f.inFile path).render

end TelemetryRelay.SourceScan
