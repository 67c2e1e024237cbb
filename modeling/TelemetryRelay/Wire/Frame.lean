import TelemetryRelay.Wire.Fault

/-!
# Frames

One typed, checksummed unit on the wire:

    FF FF | tag | length | payload | checksum, high byte first

The checksum adds up tag, length and payload modulo 2¹⁶, the tag as a signed
byte and the payload bytes as unsigned ones.
-/

namespace TelemetryRelay.Wire

/-- The byte that, written twice, opens a frame. -/
def markerByte : UInt8 := 0xFF

def maxPayload : Nat := 127

structure Frame where
  tag : UInt8
  payload : Bytes
  fits : payload.length ≤ maxPayload
  deriving DecidableEq, Repr

/-- The tag as it enters the checksum. -/
def signedTag (tag : UInt8) : UInt16 := tag.toInt8.toInt16.toUInt16

/-- Running 16-bit sum over tag, length and payload. -/
def checksum (tag : UInt8) (payload : Bytes) : UInt16 :=
  payload.foldl (fun sum b => sum + b.toUInt16) (signedTag tag + UInt16.ofNat payload.length)

namespace Frame

def make (tag : UInt8) (payload : Bytes) : Except FrameError Frame :=
  if fits : payload.length ≤ maxPayload then .ok ⟨tag, payload, fits⟩
  else .error (.oversized payload.length)

def checksum (f : Frame) : UInt16 := Wire.checksum f.tag f.payload

def encodedLength (f : Frame) : Nat := f.payload.length + 6

def encode (f : Frame) : Bytes :=
  [markerByte, markerByte, f.tag, UInt8.ofNat f.payload.length] ++ f.payload ++
    Bytes.ofNat 2 f.checksum.toNat

/-- The encoded bytes as a decimal list. -/
def render (f : Frame) : String :=
  "[" ++ ",".intercalate (f.encode.map fun b => toString b.toNat) ++ "]"

theorem make_tag_payload (f : Frame) : make f.tag f.payload = .ok f := by
  simp [make, f.fits]

theorem length_encode (f : Frame) : f.encode.length = f.encodedLength := by
  simp [encode, encodedLength]

end Frame

end TelemetryRelay.Wire
