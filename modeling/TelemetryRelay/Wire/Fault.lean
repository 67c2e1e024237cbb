import TelemetryRelay.Bytes
import TelemetryRelay.Text.Hex

/-!
# What goes wrong on a wire

`IoError` is a failure of the connection underneath, `FrameError` a failure to
build a frame or to read one.  Every point at which a stream may end early has
its own constructor.
-/

namespace TelemetryRelay.Wire

inductive IoKind where
  | refused | reset | timeout | brokenPipe | notConnected | aborted | unreachable | notFound | other
  deriving DecidableEq, Repr, Inhabited

structure IoError where
  kind : IoKind
  message : String
  deriving DecidableEq, Repr, Inhabited

inductive FrameError where
  | oversized (length : Nat)
  | noMarker
  | noTag
  | noLength
  | shortPayload (tag : UInt8) (expected received : Nat)
  | noChecksum
  | badChecksum (computed received : UInt16)
  | io (error : IoError)
  deriving DecidableEq, Repr

/-- A 16-bit word the way checksums are reported. -/
def showWord (w : UInt16) : String := "0x" ++ Text.hex 4 w.toNat

def FrameError.message : FrameError → String
  | .oversized length => s!"payload of {length} bytes exceeds the maximum of 127 bytes"
  | .noMarker => "premature end of stream while reading the frame marker"
  | .noTag => "premature end of stream while reading the frame type"
  | .noLength => "premature end of stream while reading the payload length"
  | .shortPayload tag expected received =>
      "premature end of stream while reading the payload: " ++
        s!"type={tag.toNat}, length={expected}, received={received}"
  | .noChecksum => "premature end of stream while reading the checksum"
  | .badChecksum computed received =>
      s!"checksum mismatch: computed {showWord computed}, received {showWord received}"
  | .io error => s!"I/O error: {error.message}"

end TelemetryRelay.Wire
