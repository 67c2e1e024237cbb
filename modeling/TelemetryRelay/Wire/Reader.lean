import TelemetryRelay.Wire.Frame

/-!
# Reading frames

`readFrame` reads one frame from a source that hands out its bytes in chunks:
it looks for the marker, skipping what precedes it, and takes tag, length,
payload and checksum from behind it.

A call on a link may have to wait anywhere inside a frame.  `Progress` says how
far it has come; `feed` runs it over a stretch of bytes.  The two agree on what
a stretch of bytes is read as.
-/

namespace TelemetryRelay.Wire

/-- What one read of a source yields: no bytes stand for the end of the stream. -/
inductive Chunk where
  | bytes (bs : Bytes)
  | fault (error : IoError)
  deriving DecidableEq, Repr

abbrev Source := List Chunk

namespace Source

/-- The source after `rest` of its first chunk was left over. -/
def putBack (rest : Bytes) (source : Source) : Source :=
  if rest.isEmpty then source else .bytes rest :: source

/-- Bytes that are still to be had. -/
def size : Source → Nat
  | [] => 0
  | .bytes bs :: rest => bs.length + size rest
  | .fault _ :: rest => size rest

/-- One read of at most `room` bytes.  A drained source is at the end of its stream. -/
def read (room : Nat) : Source → Except IoError Bytes × Source
  | [] => (.ok [], [])
  | .fault error :: source => (.error error, source)
  | .bytes bs :: source => (.ok (bs.take room), putBack (bs.drop room) source)

theorem size_putBack (rest : Bytes) (source : Source) :
    size (putBack rest source) = rest.length + size source := by
  unfold putBack
  split <;> simp_all [size]

theorem size_of_read {room : Nat} {source left : Source} {bs : Bytes}
    (h : source.read room = (.ok bs, left)) : source.size = bs.length + left.size := by
  match source with
  | [] =>
      simp only [read, Prod.mk.injEq, Except.ok.injEq] at h
      obtain ⟨rfl, rfl⟩ := h
      rfl
  | .fault _ :: _ => simp [read] at h
  | .bytes _ :: _ =>
      simp only [read, Prod.mk.injEq, Except.ok.injEq] at h
      obtain ⟨rfl, rfl⟩ := h
      simp only [size_putBack, size, List.length_take, List.length_drop]
      omega

end Source

/-- Compares the checksum on the wire with the one of the content. -/
def verify (tag : UInt8) (payload : Bytes) (received : UInt16) : Except FrameError Frame :=
  let computed := checksum tag payload
  if computed = received then Frame.make tag payload
  else .error (.badChecksum computed received)

/-! ## Reading from a source -/

/-- What reads from a source leaves the rest of it behind, also when it fails. -/
abbrev Reading (α : Type) := ExceptT FrameError (StateM Source) α

def readSome (room : Nat) : Reading Bytes := fun source =>
  match source.read room with
  | (.ok bs, left) => (.ok bs, left)
  | (.error e, left) => (.error (.io e), left)

/-- `missing` is what is wrong if the stream ends here. -/
def readByte (missing : FrameError) : Reading UInt8 := do
  match ← readSome 1 with
  | [] => throw missing
  | b :: _ => pure b

/-- Reads up to the end of the marker; `half` of it has been seen or not.  A byte
that breaks a half seen marker starts the search afresh. -/
def synchronize (half : Bool) (source : Source) : Except FrameError Unit × Source :=
  match _h : source.read 1 with
  | (.error e, left) => (.error (.io e), left)
  | (.ok [], left) => (.error .noMarker, left)
  | (.ok (b :: _), left) =>
    if b = markerByte then if half then (.ok (), left) else synchronize true left
    else synchronize false left
termination_by source.size
decreasing_by
  all_goals
    have := Source.size_of_read _h
    simp only [List.length_cons] at this
    omega

/-- Reads until the payload is complete, as many bytes at a time as there are. -/
def readPayload (tag : UInt8) (length : Nat) (received : Bytes) (source : Source) :
    Except FrameError Bytes × Source :=
  if received.length < length then
    match source.read (length - received.length) with
    | (.error e, left) => (.error (.io e), left)
    | (.ok [], left) => (.error (.shortPayload tag length received.length), left)
    | (.ok (b :: bs), left) => readPayload tag length (received ++ b :: bs) left
  else (.ok received, source)
termination_by length - received.length
decreasing_by
  simp only [List.length_append, List.length_cons]
  omega

/-- Reads payload and checksum. -/
def readBody (tag : UInt8) (length : Nat) : Reading Frame := do
  let payload ← readPayload tag length []
  let high ← readByte .noChecksum
  let low ← readByte .noChecksum
  MonadExcept.ofExcept (verify tag payload (UInt16.ofNat (Bytes.toNat [high, low])))

/-- Reads what follows the marker. -/
def readContent : Reading Frame := do
  let tag ← readByte .noTag
  let length ← readByte .noLength
  if length.toNat > maxPayload then throw (.oversized length.toNat)
  else readBody tag length.toNat

def readFrame : Reading Frame := do
  synchronize false
  readContent

/-- Reads frame after frame, at most `limit`, each with the number of bytes that
are left behind it; the last read is the first one that found nothing. -/
def readFrames : (limit : Nat) → Source → List (Except FrameError Frame × Nat)
  | 0, _ => []
  | limit + 1, source =>
    let (result, rest) := readFrame source
    (result, rest.size) :: if source.isEmpty then [] else readFrames limit rest

/-! ## Reading on from the middle of a frame -/

inductive Progress where
  /-- Looking for the marker; `half` of it has been seen or not. -/
  | seeking (half : Bool)
  | atTag
  | atLength (tag : UInt8)
  | inPayload (tag : UInt8) (length : Nat) (received : Bytes)
  | atChecksum (tag : UInt8) (payload : Bytes)
  | inChecksum (tag : UInt8) (payload : Bytes) (high : UInt8)
  deriving DecidableEq, Repr

namespace Progress

def start : Progress := .seeking false

inductive Step where
  | more (next : Progress)
  | done (result : Except FrameError Frame)

/-- One byte. -/
def step : Progress → UInt8 → Step
  | .seeking false, b => .more (.seeking (b == markerByte))
  | .seeking true, b => .more (if b == markerByte then .atTag else .seeking false)
  | .atTag, b => .more (.atLength b)
  | .atLength tag, b =>
      if b.toNat > maxPayload then .done (.error (.oversized b.toNat))
      else if b.toNat = 0 then .more (.atChecksum tag [])
      else .more (.inPayload tag b.toNat [])
  | .inPayload tag length received, b =>
      let received := received ++ [b]
      if received.length < length then .more (.inPayload tag length received)
      else .more (.atChecksum tag received)
  | .atChecksum tag payload, b => .more (.inChecksum tag payload b)
  | .inChecksum tag payload high, b =>
      .done (verify tag payload (UInt16.ofNat (Bytes.toNat [high, b])))

/-- What is missing when the stream ends here. -/
def cutOff : Progress → FrameError
  | .seeking _ => .noMarker
  | .atTag => .noTag
  | .atLength _ => .noLength
  | .inPayload tag length received => .shortPayload tag length received.length
  | .atChecksum _ _ => .noChecksum
  | .inChecksum _ _ _ => .noChecksum

inductive Fed where
  /-- All bytes are used up and the frame is not complete. -/
  | hungry (next : Progress)
  | finished (result : Except FrameError Frame) (rest : Bytes)

def feed (p : Progress) : Bytes → Fed
  | [] => .hungry p
  | b :: bs =>
    match p.step b with
    | .more next => next.feed bs
    | .done result => .finished result bs

end Progress

end TelemetryRelay.Wire
