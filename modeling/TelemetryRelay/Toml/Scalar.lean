import TelemetryRelay.Toml.Value

/-!
# TOML scalars

Readers for strings, numbers, dates and times.  A reader takes what it
understands from the front of a text and returns the rest.
-/

namespace TelemetryRelay.Toml

abbrev Reader (α : Type) := List Char → Option (α × List Char)

def isSpace (c : Char) : Bool := c = ' ' || c = '\t'

def skipSpace (cs : List Char) : List Char := cs.dropWhile isSpace

/-- A line feed, with or without a carriage return in front. -/
def newline? : List Char → Option (List Char)
  | '\n' :: rest => some rest
  | '\r' :: '\n' :: rest => some rest
  | _ => none

/-- Characters that stand for themselves in comments and strings. -/
def isPlain (c : Char) : Bool :=
  c = '\t' || (0x20 ≤ c.toNat && c.toNat ≤ 0x7E) || 0x80 ≤ c.toNat

def literal (text : String) (cs : List Char) : Option (List Char) :=
  if text.toList.isPrefixOf cs then some (cs.drop text.length) else none

/-! ## Numbers -/

def digitValue (c : Char) : Nat :=
  if c.isDigit then c.toNat - 48
  else if 'a' ≤ c ∧ c ≤ 'f' then c.toNat - 87 else c.toNat - 55

def isHexDigit (c : Char) : Bool :=
  c.isDigit || ('a' ≤ c && c ≤ 'f') || ('A' ≤ c && c ≤ 'F')

def valueOf (base : Nat) (digits : List Char) : Nat :=
  digits.foldl (fun n c => n * base + digitValue c) 0

/-- More digits of a number, each underscore between two of them. -/
def moreDigits (isDigit : Char → Bool) : List Char → Option (List Char × List Char)
  | '_' :: c :: rest =>
      if isDigit c then (moreDigits isDigit rest).map fun (ds, r) => (c :: ds, r) else none
  | ['_'] => none
  | c :: rest =>
      if isDigit c then (moreDigits isDigit rest).map fun (ds, r) => (c :: ds, r)
      else some ([], c :: rest)
  | [] => some ([], [])

/-- One digit and then more. -/
def digits (isDigit : Char → Bool) : Reader (List Char)
  | c :: rest =>
      if isDigit c then (moreDigits isDigit rest).map fun (ds, r) => (c :: ds, r) else none
  | [] => none

def sign : List Char → Bool × List Char
  | '-' :: rest => (true, rest)
  | '+' :: rest => (false, rest)
  | cs => (false, cs)

/-- A decimal integer without leading zeros: its sign and its digits. -/
def decimal (cs : List Char) : Option ((Bool × List Char) × List Char) :=
  match sign cs with
  | (negative, '0' :: rest) => some ((negative, ['0']), rest)
  | (negative, rest) => (digits Char.isDigit rest).map fun (ds, r) => ((negative, ds), r)

def inRange (n : Int) : Option Value :=
  if Int64.minValue.toInt ≤ n ∧ n ≤ Int64.maxValue.toInt then some (.integer n) else none

def radix (base : Nat) (isDigit : Char → Bool) (cs : List Char) : Option (Value × List Char) := do
  let (ds, rest) ← digits isDigit cs
  let value ← inRange (valueOf base ds)
  some (value, rest)

def integer : Reader Value
  | '0' :: 'x' :: rest => radix 16 isHexDigit rest
  | '0' :: 'o' :: rest => radix 8 (fun c => '0' ≤ c && c ≤ '7') rest
  | '0' :: 'b' :: rest => radix 2 (fun c => c = '0' || c = '1') rest
  | cs => do
    let ((negative, ds), rest) ← decimal cs
    let n : Int := valueOf 10 ds
    let value ← inRange (if negative then -n else n)
    some (value, rest)

/-- Whether `digits · 10 ^ exponent` rounds to a number beyond the largest double. -/
def overflows (digits : Nat) (exponent : Int) : Bool :=
  let limit := (Nat.pow 2 54 - 1) * Nat.pow 2 970
  if digits = 0 then false
  else if 400 < exponent then true
  else if 0 ≤ exponent then limit ≤ digits * Nat.pow 10 exponent.toNat
  else if exponent < -100000 then false
  else limit * Nat.pow 10 (-exponent).toNat ≤ digits

def exponentPart : List Char → Option (Option Int × List Char)
  | e :: rest =>
    if e = 'e' || e = 'E' then do
      let (negative, rest) := sign rest
      let (ds, rest) ← digits Char.isDigit rest
      let n : Int := valueOf 10 ds
      some (some (if negative then -n else n), rest)
    else some (none, e :: rest)
  | [] => some (none, [])

/-- A float has a fraction, an exponent or both.  One too large for a double is
refused unless it is negative. -/
def float (cs : List Char) : Option (Value × List Char) := do
  let unsigned := (sign cs).2
  match (literal "inf" unsigned).or (literal "nan" unsigned) with
  | some rest => some (.float, rest)
  | none =>
    let ((negative, whole), rest) ← decimal cs
    let (fraction, rest) ← match rest with
      | '.' :: rest => (digits Char.isDigit rest).map fun (ds, r) => (ds, r)
      | rest => some ([], rest)
    let (exponent, rest) ← exponentPart rest
    if fraction.isEmpty && exponent.isNone then none
    else if !negative &&
        overflows (valueOf 10 (whole ++ fraction)) (exponent.getD 0 - fraction.length) then none
    else some (.float, rest)

/-! ## Dates and times -/

/-- Exactly `count` digits, as a number within bounds. -/
def fixedDigits (count low high : Nat) (cs : List Char) : Option (Nat × List Char) :=
  let ds := cs.take count
  let n := valueOf 10 ds
  if ds.length = count ∧ ds.all Char.isDigit ∧ low ≤ n ∧ n ≤ high then some (n, cs.drop count)
  else none

def daysIn (year month : Nat) : Nat :=
  if month = 2 then
    if year % 4 = 0 ∧ (year % 100 ≠ 0 ∨ year % 400 = 0) then 29 else 28
  else if month = 4 ∨ month = 6 ∨ month = 9 ∨ month = 11 then 30 else 31

def date (cs : List Char) : Option (List Char) := do
  let (year, rest) ← fixedDigits 4 0 9999 cs
  let (month, rest) ← fixedDigits 2 1 12 (← literal "-" rest)
  let (_, rest) ← fixedDigits 2 1 (daysIn year month) (← literal "-" rest)
  some rest

def time (cs : List Char) : Option (List Char) := do
  let (_, rest) ← fixedDigits 2 0 23 cs
  let (_, rest) ← fixedDigits 2 0 59 (← literal ":" rest)
  let (_, rest) ← fixedDigits 2 0 60 (← literal ":" rest)
  match rest with
  | '.' :: c :: more => if c.isDigit then some (more.dropWhile Char.isDigit) else some rest
  | _ => some rest

def offset : List Char → List Char
  | c :: rest =>
    if c = 'Z' || c = 'z' then rest
    else if c = '+' || c = '-' then
      ((do
        let (_, r) ← fixedDigits 2 0 23 rest
        let (_, r) ← fixedDigits 2 0 59 (← literal ":" r)
        some r) : Option (List Char)).getD (c :: rest)
    else c :: rest
  | [] => []

def datetime (cs : List Char) : Option (Value × List Char) :=
  match date cs with
  | some (c :: rest) =>
    if c = 'T' || c = 't' || c = ' ' then
      match time rest with
      | some rest => some (.datetime, offset rest)
      | none => some (.datetime, c :: rest)
    else some (.datetime, c :: rest)
  | some [] => some (.datetime, [])
  | none => (time cs).map fun rest => (.datetime, rest)

/-! ## Strings -/

def scalarValue (n : Nat) : Option Char :=
  if n < 0xD800 ∨ (0xDFFF < n ∧ n < 0x110000) then some (Char.ofNat n) else none

/-- The character that the escape behind a backslash stands for. -/
def escaped : Reader Char
  | 'b' :: rest => some ('\x08', rest)
  | 't' :: rest => some ('\t', rest)
  | 'n' :: rest => some ('\n', rest)
  | 'f' :: rest => some ('\x0c', rest)
  | 'r' :: rest => some ('\r', rest)
  | '"' :: rest => some ('"', rest)
  | '\\' :: rest => some ('\\', rest)
  | 'u' :: rest => point 4 rest
  | 'U' :: rest => point 8 rest
  | _ => none
where
  point (width : Nat) (rest : List Char) : Option (Char × List Char) :=
    let ds := rest.take width
    if ds.length = width ∧ ds.all isHexDigit then
      (scalarValue (valueOf 16 ds)).map (·, rest.drop width)
    else none

/-- The rest of a string on one line, up to the closing quote. -/
def basicString : (fuel : Nat) → Reader (List Char)
  | _, '"' :: rest => some ([], rest)
  | fuel + 1, '\\' :: rest => do
    let (c, rest) ← escaped rest
    let (cs, rest) ← basicString fuel rest
    some (c :: cs, rest)
  | fuel + 1, c :: rest =>
    if isPlain c then (basicString fuel rest).map fun (cs, r) => (c :: cs, r) else none
  | _, _ => none

def literalString : Reader (List Char)
  | '\'' :: rest => some ([], rest)
  | c :: rest =>
    if isPlain c then (literalString rest).map fun (cs, r) => (c :: cs, r) else none
  | [] => none

/-- A run of quotes inside a long string: up to two are content, and so are up to
two in front of the closing three. -/
def quoteRun (quote : Char) (cs : List Char) : Option (Sum Nat Nat × List Char) :=
  let count := (cs.takeWhile (· = quote)).length
  let rest := cs.drop count
  if count < 3 then some (.inl count, rest)
  else if count < 6 then some (.inr (count - 3), rest)
  else none

/-- Blank space behind a backslash at the end of a line, and all that follows. -/
def lineEndingBackslash (cs : List Char) : Option (List Char) :=
  (newline? (skipSpace cs)).map (skip cs.length)
where
  skip : Nat → List Char → List Char
    | 0, cs => cs
    | fuel + 1, cs =>
      match newline? (skipSpace cs) with
      | some rest => skip fuel rest
      | none => skipSpace cs

/-- The rest of a string between triple quotes.  `escapes` tells the basic kind
from the literal one. -/
def longString (quote : Char) (escapes : Bool) : (fuel : Nat) → Reader (List Char)
  | 0, _ => none
  | fuel + 1, cs =>
    match cs with
    | [] => none
    | c :: rest =>
      if c = quote then
        match quoteRun quote cs with
        | none => none
        | some (.inr count, rest) => some (List.replicate count quote, rest)
        | some (.inl count, rest) =>
          (longString quote escapes fuel rest).map fun (cs, r) =>
            (List.replicate count quote ++ cs, r)
      else if escapes && c = '\\' then
        match lineEndingBackslash rest with
        | some rest => longString quote escapes fuel rest
        | none => do
          let (c, rest) ← escaped rest
          let (cs, rest) ← longString quote escapes fuel rest
          some (c :: cs, rest)
      else match newline? cs with
        | some rest => (longString quote escapes fuel rest).map fun (cs, r) => ('\n' :: cs, r)
        | none =>
          if isPlain c then
            (longString quote escapes fuel rest).map fun (cs, r) => (c :: cs, r)
          else none

/-- Any string, from its opening quote on. -/
def string (cs : List Char) : Option (String × List Char) :=
  let fuel := cs.length
  let finish := fun (r : List Char × List Char) => (String.ofList r.1, r.2)
  match cs with
  | '"' :: '"' :: '"' :: rest =>
      (longString '"' true fuel ((newline? rest).getD rest)).map finish
  | '\'' :: '\'' :: '\'' :: rest =>
      (longString '\'' false fuel ((newline? rest).getD rest)).map finish
  | '"' :: rest => (basicString fuel rest).map finish
  | '\'' :: rest => (literalString rest).map finish
  | _ => none

end TelemetryRelay.Toml
