import TelemetryRelay.Bytes

/-!
# UTF-8

Decoding byte strings into characters.  `decodeLossy` puts one replacement
character in the place of every maximal ill-formed sequence, `decode?` refuses
a text that holds one.
-/

namespace TelemetryRelay.Text.Utf8

def isTail (b : UInt8) : Bool := 0x80 ≤ b && b ≤ 0xBF

/-- How many tail bytes a lead byte announces and between which bounds the
first of them lies; the bounds rule out overlong forms, surrogates and what is
beyond the last code point. -/
def lead (b : UInt8) : Option (Nat × UInt8 × UInt8) :=
  if b < 0x80 then some (0, 0x80, 0xBF)
  else if b < 0xC2 then none
  else if b < 0xE0 then some (1, 0x80, 0xBF)
  else if b = 0xE0 then some (2, 0xA0, 0xBF)
  else if b = 0xED then some (2, 0x80, 0x9F)
  else if b < 0xF0 then some (2, 0x80, 0xBF)
  else if b = 0xF0 then some (3, 0x90, 0xBF)
  else if b < 0xF4 then some (3, 0x80, 0xBF)
  else if b = 0xF4 then some (3, 0x80, 0x8F)
  else none

/-- The longest stretch of at most `count` tail bytes at the front, the first
one within bounds. -/
def tails (count : Nat) (low high : UInt8) (rest : Bytes) : Bytes :=
  match count, rest with
  | count + 1, b :: rest =>
      if low ≤ b && b ≤ high then b :: (rest.take count).takeWhile isTail else []
  | _, _ => []

/-- The payload bits of a sequence, six from each tail byte. -/
def codePoint (first : UInt8) (tail : Bytes) : Nat :=
  let lead := match tail.length with
    | 0 => first.toNat
    | 1 => first.toNat % 0x20
    | 2 => first.toNat % 0x10
    | _ => first.toNat % 0x08
  tail.foldl (fun n b => n * 64 + b.toNat % 64) lead

/-- The sequence that `first` opens: its character unless it is ill-formed, and
how many bytes of `rest` belong to it. -/
def sequence (first : UInt8) (rest : Bytes) : Option Char × Nat :=
  match lead first with
  | none => (none, 0)
  | some (count, low, high) =>
    let tail := tails count low high rest
    (if tail.length = count then some (Char.ofNat (codePoint first tail)) else none, tail.length)

/-- The characters of a text, `none` for every ill-formed sequence. -/
def scan : Bytes → List (Option Char)
  | [] => []
  | b :: rest =>
    let (c, used) := sequence b rest
    c :: scan (rest.drop used)
  termination_by bs => bs.length
  decreasing_by grind

def replacement : Char := Char.ofNat 0xFFFD

def decodeLossy (bs : Bytes) : String :=
  String.ofList ((scan bs).map (·.getD replacement))

def decode? (bs : Bytes) : Option String :=
  ((scan bs).mapM id).map String.ofList

def encode (s : String) : Bytes := s.toUTF8.toList

end TelemetryRelay.Text.Utf8
