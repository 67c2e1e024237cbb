import TelemetryRelay.Proofs.Wire.Progress
import TelemetryRelay.Proofs.Wire.Stream

/-!
# Reading on from anywhere

Whoever reads one frame after the other from a source also meets the ends and the
failures of its stream.  `Progress.readOn` says what is read from the middle of a
frame, and `readFrame` reads on from the start; that holds of every source, also
of one that goes on behind an end or a failure.

`Stands` ties a reader that is fed its chunks as they come to one who has the
whole source: which results it has had, and where in the next frame it is.
-/

namespace TelemetryRelay.Wire

open Source (putBack)

variable {source left later : Source} {p next : Progress} {b : UInt8} {bs rest unread : Bytes}

/-! ## One read -/

namespace Source

@[simp] theorem putBack_nil (source : Source) : putBack [] source = source := rfl

theorem putBack_of_ne (hne : bs ≠ []) (source : Source) :
    putBack bs source = .bytes bs :: source := by
  simp [putBack, hne]

end Source

theorem readByte_bytes (missing : FrameError) :
    readByte missing (.bytes (b :: bs) :: source) = (.ok b, putBack bs source) := by
  have hsome : readSome 1 (.bytes (b :: bs) :: source) = (.ok [b], putBack bs source) := rfl
  rw [readByte, Reading.bind_ok hsome]
  rfl

/-- A source that gives no byte now: its stream is at an end, or it failed. -/
inductive Source.Stops (missing : FrameError) : Source → FrameError → Source → Prop
  | drained : Stops missing [] missing []
  | ended {source : Source} : Stops missing (.bytes [] :: source) missing source
  | fault {error : IoError} {source : Source} :
      Stops missing (.fault error :: source) (.io error) source

open Source (Stops)

theorem readByte_stops {missing e : FrameError} (h : Stops missing source e left) :
    readByte missing source = (.error e, left) := by
  cases h <;> rfl

theorem synchronize_stops {e : FrameError} (h : Stops .noMarker source e left) (half : Bool) :
    synchronize half source = (.error e, left) := by
  cases h <;> rw [synchronize] <;> rfl

theorem readPayload_stops {tag : UInt8} {length : Nat} {received : Bytes} {e : FrameError}
    (h : Stops (.shortPayload tag length received.length) source e left)
    (hshort : received.length < length) :
    readPayload tag length received source = (.error e, left) := by
  rw [readPayload, if_pos hshort]
  cases h <;> simp [Source.read]

theorem synchronize_bytes (half : Bool) (b : UInt8) (bs : Bytes) (source : Source) :
    synchronize half (.bytes (b :: bs) :: source) =
      if b = markerByte then if half then (.ok (), putBack bs source)
        else synchronize true (putBack bs source)
      else synchronize false (putBack bs source) :=
  synchronize_cons rfl

theorem readPayload_all (tag : UInt8) {length : Nat} {received : Bytes}
    (hall : ¬ received.length < length) (source : Source) :
    readPayload tag length received source = (.ok received, source) := by
  rw [readPayload, if_neg hall]

/-- A payload may be read byte by byte. -/
theorem readPayload_bytes (tag : UInt8) {length : Nat} {received : Bytes}
    (hshort : received.length < length) (b : UInt8) (bs : Bytes) (source : Source) :
    readPayload tag length received (.bytes (b :: bs) :: source) =
      readPayload tag length (received ++ [b]) (putBack bs source) := by
  have hlen : (received ++ [b]).length = received.length + 1 := by simp
  obtain ⟨room, hroom⟩ : ∃ room, length - received.length = room + 1 :=
    ⟨length - received.length - 1, by omega⟩
  -- All that is there is taken at once: `b` and as much of `bs` as is missing then.
  have hread : readPayload tag length received (.bytes (b :: bs) :: source) =
      readPayload tag length (received ++ b :: bs.take room) (putBack (bs.drop room) source) := by
    rw [readPayload, if_pos hshort, hroom]
    rfl
  rw [hread]
  rcases Nat.eq_zero_or_pos room with rfl | hpos
  · rfl
  · cases bs with
    | nil => simp
    | cons x bs =>
        obtain ⟨room, rfl⟩ : ∃ n, room = n + 1 := ⟨room - 1, by omega⟩
        have hmore : length - (received ++ [b]).length = room + 1 := by omega
        conv_rhs => rw [Source.putBack_of_ne (by simp), readPayload, if_pos (by omega), hmore]
        simp only [Source.read, List.take_succ_cons, List.append_assoc, List.cons_append,
          List.nil_append, List.drop_succ_cons]

/-! ## The rest of a frame -/

/-- Reads the checksum of a frame and compares it. -/
def readTrailer (tag : UInt8) (payload : Bytes) : Reading Frame := do
  let high ← readByte .noChecksum
  let low ← readByte .noChecksum
  MonadExcept.ofExcept (verify tag payload (UInt16.ofNat (Bytes.toNat [high, low])))

namespace Progress

/-- What a reader of sources still has to do. -/
def resume : Progress → Reading Frame
  | .seeking half => do
    synchronize half
    readContent
  | .atTag => readContent
  | .atLength tag => do
    let length ← readByte .noLength
    if length.toNat > maxPayload then throw (.oversized length.toNat)
    else readBody tag length.toNat
  | .inPayload tag length received => do
    let payload ← readPayload tag length received
    readTrailer tag payload
  | .atChecksum tag payload => readTrailer tag payload
  | .inChecksum tag payload high => do
    let low ← readByte .noChecksum
    MonadExcept.ofExcept (verify tag payload (UInt16.ofNat (Bytes.toNat [high, low])))

/-- There is something missing in a payload that is being read. -/
def Proper : Progress → Prop
  | .inPayload _ length received => received.length < length
  | _ => True

theorem Proper.step (h : p.Proper) (hstep : p.step b = .more next) : next.Proper := by
  cases p with
  | inPayload tag length received =>
      simp only [Progress.step] at hstep
      split at hstep <;> cases hstep
      · assumption
      · trivial
  | atLength tag =>
      simp only [Progress.step] at hstep
      split at hstep
      · cases hstep
      · split at hstep <;> cases hstep
        · trivial
        · exact Nat.pos_of_ne_zero ‹_›
  | seeking half =>
      cases half <;> cases hstep
      · trivial
      · split <;> trivial
  | atTag | atChecksum =>
      cases hstep
      trivial
  | inChecksum => cases hstep

/-- Where a source stops, the frame is cut off there. -/
theorem resume_stops {e : FrameError} (hp : p.Proper) (h : Stops p.cutOff source e left) :
    p.resume source = (.error e, left) := by
  cases p with
  | seeking half => exact Reading.bind_error (synchronize_stops h half)
  | inPayload tag length received => exact Reading.bind_error (readPayload_stops h hp)
  | atTag | atLength | atChecksum | inChecksum => exact Reading.bind_error (readByte_stops h)

/-- A result is there, or the frame goes on. -/
def Step.goOn (rest : Source) : Step → Except FrameError Frame × Source
  | .more next => next.resume rest
  | .done result => (result, rest)

/-- A source that gives a byte is read as the byte says. -/
theorem resume_bytes (hp : p.Proper) :
    p.resume (.bytes (b :: bs) :: source) = (p.step b).goOn (putBack bs source) := by
  cases p with
  | seeking half =>
      have hsync := synchronize_bytes half b bs source
      by_cases hb : b = markerByte
      · subst hb
        rw [if_pos rfl] at hsync
        cases half with
        | false => exact Reading.bind_congr hsync
        | true => exact Reading.bind_ok hsync
      · rw [if_neg hb] at hsync
        have hne : (b == markerByte) = false := beq_false_of_ne hb
        cases half <;>
          (simp only [step, hne, Step.goOn]
           exact Reading.bind_congr hsync)
  | atTag => exact Reading.bind_ok (readByte_bytes _)
  | atLength tag =>
      refine (Reading.bind_ok (readByte_bytes _)).trans ?_
      simp only [step]
      by_cases hlarge : maxPayload < b.toNat
      · rw [if_pos hlarge, if_pos hlarge]
        rfl
      · rw [if_neg hlarge, if_neg hlarge]
        by_cases hzero : b.toNat = 0
        · -- A frame without a payload goes on with its checksum.
          rw [if_pos hzero, hzero]
          exact Reading.bind_ok (readPayload_all tag (Nat.lt_irrefl 0) _)
        · rw [if_neg hzero]
          rfl
  | inPayload tag length received =>
      have hpayload := readPayload_bytes tag hp b bs source
      simp only [step]
      split
      · exact Reading.bind_congr hpayload
      · rename_i hall
        rw [readPayload_all tag hall] at hpayload
        exact Reading.bind_ok hpayload
  | atChecksum tag payload => exact Reading.bind_ok (readByte_bytes _)
  | inChecksum tag payload high =>
      refine (Reading.bind_ok (readByte_bytes _)).trans ?_
      simp only [step, Step.goOn]
      cases verify tag payload (UInt16.ofNat (Bytes.toNat [high, b])) <;> rfl

/-! ## The middle of a frame -/

/-- What is read from here, and what is left then. -/
def readOn : Progress → Source → Except FrameError Frame × Source
  | p, [] => (.error p.cutOff, [])
  | _, .fault e :: source => (.error (.io e), source)
  | p, .bytes [] :: source => (.error p.cutOff, source)
  | p, .bytes (b :: bs) :: source =>
    match p.feed (b :: bs) with
    | .hungry next => next.readOn source
    | .finished result rest => (result, putBack rest source)

theorem readOn_putBack (p : Progress) (bs : Bytes) (source : Source) :
    p.readOn (putBack bs source) =
      match p.feed bs with
      | .hungry next => next.readOn source
      | .finished result rest => (result, putBack rest source) := by
  cases bs with
  | nil => rfl
  | cons b bs =>
      rw [Source.putBack_of_ne (by simp), readOn]

theorem resume_eq_readOn (hp : p.Proper) (source : Source) : p.resume source = p.readOn source := by
  induction source generalizing p with
  | nil => exact resume_stops hp .drained
  | cons chunk source ih =>
      cases chunk with
      | fault e => exact resume_stops hp .fault
      | bytes bs =>
          -- The bytes of the chunk one by one, and then what stands behind it.
          induction bs generalizing p with
          | nil => exact resume_stops hp .ended
          | cons b bs ihb =>
              rw [resume_bytes hp, readOn, feed]
              cases hstep : p.step b with
              | done result => rfl
              | more next =>
                  have hnext := hp.step hstep
                  show next.resume (putBack bs source) = _
                  rw [← readOn_putBack]
                  cases bs with
                  | nil => exact ih hnext
                  | cons x bs => exact ihb hnext

/-- **Reading is reading on from the start**, whatever the source. -/
theorem readFrame_eq_readOn (source : Source) : readFrame source = start.readOn source :=
  resume_eq_readOn (p := start) trivial source

end Progress

/-! ## One frame after the other -/

/-- The results of the first `count` reads of a source. -/
def results (count : Nat) (source : Source) : List (Except FrameError Frame) :=
  (List.range count).map fun k => (readFrame (source.after k)).1

theorem results_succ (count : Nat) (source : Source) :
    results (count + 1) source = results count source ++ [(readFrame (source.after count)).1] := by
  simp [results, List.range_succ]

/-- The frames among some results. -/
def framesIn (rs : List (Except FrameError Frame)) : List Frame := rs.filterMap Except.toOption

theorem framesIn_append (rs more : List (Except FrameError Frame)) :
    framesIn (rs ++ more) = framesIn rs ++ framesIn more :=
  List.filterMap_append

/-- A reader has been given the chunks of `source`, has come to the results `rs` and
on to `p` in the next frame, and has `unread` left over.  Nothing of that depends
on what the source gives later. -/
structure Stands (source : Source) (rs : List (Except FrameError Frame)) (p : Progress)
    (unread : Bytes) : Prop where
  results : ∀ later, results rs.length (source ++ later) = rs
  position : ∀ later,
    readFrame ((source ++ later).after rs.length) = p.readOn (putBack unread later)

namespace Stands

variable {rs : List (Except FrameError Frame)} {result : Except FrameError Frame} {e : IoError}

theorem start : Stands [] [] .start [] where
  results _ := rfl
  position later := Progress.readFrame_eq_readOn later

/-- More bytes come. -/
theorem filled (h : Stands source rs p []) (hne : bs ≠ []) :
    Stands (source ++ [.bytes bs]) rs p bs where
  results later := by
    rw [List.append_assoc]
    exact h.results _
  position later := by
    rw [List.append_assoc, h.position, Source.putBack_of_ne hne]
    rfl

/-- All bytes are used up. -/
theorem more (h : Stands source rs p unread) (hfeed : p.feed unread = .hungry next) :
    Stands source rs next [] where
  results := h.results
  position later := by
    rw [h.position, Progress.readOn_putBack, hfeed]
    rfl

/-- A read is over, and the next one begins with what is left. -/
theorem close (more : Source) (h : Stands source rs p unread)
    (hread : ∀ later, p.readOn (putBack unread (more ++ later)) = (result, putBack rest later)) :
    Stands (source ++ more) (rs ++ [result]) .start rest where
  results later := by
    rw [List.length_append, List.length_singleton, results_succ, List.append_assoc, h.results,
      h.position, hread]
  position later := by
    rw [List.length_append, List.length_singleton, Source.after, List.append_assoc, h.position,
      hread, Progress.readFrame_eq_readOn]

theorem finished (h : Stands source rs p unread) (hfeed : p.feed unread = .finished result rest) :
    Stands source (rs ++ [result]) .start rest := by
  have hclose : Stands (source ++ []) (rs ++ [result]) .start rest := h.close [] fun later => by
    rw [List.nil_append, Progress.readOn_putBack, hfeed]
  rwa [List.append_nil] at hclose

theorem ended (h : Stands source rs p []) :
    Stands (source ++ [.bytes []]) (rs ++ [.error p.cutOff]) .start [] :=
  h.close _ fun _ => by rfl

theorem broke (h : Stands source rs p []) :
    Stands (source ++ [.fault e]) (rs ++ [.error (.io e)]) .start [] :=
  h.close _ fun _ => by cases p <;> rfl

end Stands

end TelemetryRelay.Wire
