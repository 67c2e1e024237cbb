import Mathlib.Data.List.Basic
import TelemetryRelay.Proofs.Wire.Grammar

/-!
# Streams of frames

Encoded frames with garbage between them come out of one reader again, each read
ending exactly behind its frame.  Garbage may be anything without a marker in
it, except that its last byte must not be half a marker: such a byte would be
taken for the first half of the marker that follows.
-/

namespace TelemetryRelay.Wire

open Source (Delivers)

/-- The source after `count` frames were read from it. -/
def Source.after : (count : Nat) → Source → Source
  | 0, source => source
  | count + 1, source => (readFrame (source.after count)).2

/-- Garbage in front of a frame that a reader skips. -/
def Skipped (garbage : Bytes) : Prop := Quiet garbage ∧ garbage.getLast? ≠ some markerByte

instance (garbage : Bytes) : Decidable (Skipped garbage) := inferInstanceAs (Decidable (_ ∧ _))

/-- Frames on the wire, each behind its garbage, and what follows the last one. -/
def stream : (pieces : List (Bytes × Frame)) → (trail : Bytes) → Bytes
  | [], trail => trail
  | (garbage, f) :: pieces, trail => garbage ++ (f.encode ++ stream pieces trail)

variable {tail source : Source} {garbage rest bs : Bytes} {f : Frame}

theorem Frame.encode_append (f : Frame) (rest : Bytes) :
    f.encode ++ rest = markerByte :: markerByte :: f.tag :: UInt8.ofNat f.payload.length ::
      (f.payload ++ (Bytes.ofNat 2 f.checksum.toNat ++ rest)) := by
  simp [Frame.encode]

theorem toNat_ofNat_length {payload : Bytes} (hfits : payload.length ≤ maxPayload) :
    (UInt8.ofNat payload.length).toNat = payload.length := by
  rw [UInt8.toNat_ofNat', Nat.mod_eq_of_lt]
  unfold maxPayload at hfits
  omega

/-! ## Where the first marker stands -/

/-- A marker that begins in `garbage` lies in it, or takes the next byte as its second half. -/
theorem MarkerAt.of_append {p : Nat} (h : MarkerAt (garbage ++ bs) p) (hp : p < garbage.length) :
    MarkerAt garbage p ∨ (p + 1 = garbage.length ∧ garbage.getLast? = some markerByte) := by
  have hfirst : garbage[p]? = some markerByte := by rw [← h.1, List.getElem?_append_left hp]
  by_cases hlast : p + 1 < garbage.length
  · left
    exact ⟨hfirst, by rw [← h.2, List.getElem?_append_left hlast]⟩
  · right
    have hend : p + 1 = garbage.length := by omega
    refine ⟨hend, ?_⟩
    rw [List.getLast?_eq_getElem?, ← hend, Nat.add_sub_cancel]
    exact hfirst

theorem Skipped.firstMarker (h : Skipped garbage) :
    FirstMarker (garbage ++ markerByte :: markerByte :: bs) garbage.length := by
  constructor
  · constructor
    · simp
    · rw [List.getElem?_append_right (Nat.le_succ _)]
      simp
  · intro q hq hmarker
    rcases hmarker.of_append hq with hin | ⟨-, hlast⟩
    · exact h.1 q hin
    · exact h.2 hlast

/-- Garbage that ends in half a marker moves the first marker up by one byte. -/
theorem Quiet.firstMarker_early (h : Quiet garbage) (hlast : garbage.getLast? = some markerByte) :
    FirstMarker (garbage ++ markerByte :: bs) (garbage.length - 1) := by
  have hpos : 0 < garbage.length := by
    cases garbage with
    | nil => simp at hlast
    | cons _ _ => simp
  constructor
  · constructor
    · rw [List.getElem?_append_left (by omega), ← List.getLast?_eq_getElem?]
      exact hlast
    · rw [Nat.sub_add_cancel hpos]
      simp
  · intro q hq hmarker
    rcases hmarker.of_append (by omega) with hin | ⟨hend, -⟩
    · exact h q hin
    · omega

/-! ## One frame -/

/-- What stands behind garbage that is skipped is checked as a frame, and nothing behind it is
touched. -/
theorem readFrame_of_content {tag high low : UInt8} {payload : Bytes} (hskipped : Skipped garbage)
    (hfits : payload.length ≤ maxPayload)
    (h : Delivers tail source (garbage ++ markerByte :: markerByte :: tag ::
      UInt8.ofNat payload.length :: (payload ++ high :: low :: rest))) :
    ∃ left, readFrame source =
        (verify tag payload (UInt16.ofNat (Bytes.toNat [high, low])), left) ∧
      Delivers tail left rest := by
  obtain ⟨content, hframe, h⟩ := readFrame_of_marker h hskipped.firstMarker
  rw [List.drop_length_add_append] at h
  obtain ⟨body, hcontent, h⟩ := readContent_cons h
  obtain ⟨left, hbody, h⟩ := readBody_complete tag h
  refine ⟨left, ?_, h⟩
  rw [hframe, hcontent, toNat_ofNat_length hfits, if_neg (Nat.not_lt_of_le hfits), hbody]

/-- A frame behind garbage that is skipped is read, and nothing behind it is touched. -/
theorem readFrame_of_skipped (hskipped : Skipped garbage)
    (h : Delivers tail source (garbage ++ (f.encode ++ rest))) :
    ∃ left, readFrame source = (.ok f, left) ∧ Delivers tail left rest := by
  obtain ⟨high, low, htrailer⟩ : ∃ high low, Bytes.ofNat 2 f.checksum.toNat = [high, low] :=
    List.length_eq_two.mp (Bytes.length_ofNat 2 f.checksum.toNat)
  rw [f.encode_append, htrailer] at h
  obtain ⟨left, hread, h⟩ := readFrame_of_content hskipped f.fits h
  refine ⟨left, ?_, h⟩
  have hchecksum : [high, low] = Bytes.ofNat 2 (checksum f.tag f.payload).toNat := htrailer.symm
  rw [hread, verify_eq f.fits, if_pos hchecksum]

theorem verify_tag {tag : UInt8} {payload : Bytes} {received : UInt16}
    (h : verify tag payload received = .ok f) : f.tag = tag := by
  simp only [verify, Frame.make] at h
  split at h
  · split at h
    · cases h
      rfl
    · cases h
  · cases h

theorem readBody_tag {tag : UInt8} {length : Nat} {left : Source}
    (h : readBody tag length source = (.ok f, left)) : f.tag = tag := by
  obtain ⟨payload, afterPayload, -, h⟩ := Reading.of_bind_ok h
  obtain ⟨high, afterHigh, -, h⟩ := Reading.of_bind_ok h
  obtain ⟨low, afterLow, -, h⟩ := Reading.of_bind_ok h
  cases hverify : verify tag payload (UInt16.ofNat (Bytes.toNat [high, low])) with
  | error e =>
      rw [hverify] at h
      cases h
  | ok g =>
      rw [hverify] at h
      cases h
      exact verify_tag hverify

/-- Half a marker in front of a frame shifts all that is read by one byte: the
second half of the marker is the tag, and the tag the length.  A frame tagged
so is too long for its own length. -/
theorem readFrame_ne_of_half (hquiet : Quiet garbage)
    (hlast : garbage.getLast? = some markerByte)
    (h : Delivers tail source (garbage ++ (f.encode ++ rest))) : (readFrame source).1 ≠ .ok f := by
  intro hread
  -- The marker is read one byte early, from the garbage's last byte on.
  rw [f.encode_append] at h
  obtain ⟨content, hframe, h⟩ := readFrame_of_marker h (hquiet.firstMarker_early hlast)
  have hpos : 0 < garbage.length := by
    cases garbage with
    | nil => simp at hlast
    | cons _ _ => simp
  have hshift : garbage.length - 1 + 2 = garbage.length + 1 := by omega
  rw [hshift, List.drop_length_add_append] at h
  obtain ⟨body, hcontent, -⟩ := readContent_cons h
  rw [hframe, hcontent] at hread
  split at hread
  · cases hread
  · rename_i hsmall
    have htag : f.tag = markerByte := readBody_tag (Prod.ext hread rfl)
    rw [htag] at hsmall
    exact hsmall (by decide)

/-! ## All frames -/

theorem stream_drop {pieces : List (Bytes × Frame)} {k : Nat} (hk : k < pieces.length)
    (trail : Bytes) : stream (pieces.drop k) trail =
      pieces[k].1 ++ (pieces[k].2.encode ++ stream (pieces.drop (k + 1)) trail) := by
  rw [List.drop_eq_getElem_cons hk, stream]

/-- Each read leaves the stream of the pieces that are still to come. -/
theorem after_delivers {pieces : List (Bytes × Frame)} {trail : Bytes}
    (hskipped : ∀ piece ∈ pieces, Skipped piece.1)
    (h : Delivers tail source (stream pieces trail)) {k : Nat} (hk : k ≤ pieces.length) :
    Delivers tail (source.after k) (stream (pieces.drop k) trail) := by
  induction k with
  | zero => exact h
  | succ k ih =>
      have hrest := ih (Nat.le_of_succ_le hk)
      rw [stream_drop hk] at hrest
      obtain ⟨left, hread, hleft⟩ := readFrame_of_skipped (hskipped _ (List.getElem_mem hk)) hrest
      rw [Source.after, hread]
      exact hleft

/-- **Round trip with resynchronization.** Every frame of a stream is read in its
turn, the reader standing right behind it, and past the last one there is no
marker; garbage whose last byte is half a marker always costs the frame. -/
theorem readFrame_stream :
    (∀ (pieces : List (Bytes × Frame)) (trail : Bytes) (source : Source),
      (∀ piece ∈ pieces, Skipped piece.1) → Quiet trail →
      Delivers [] source (stream pieces trail) →
      (∀ k (_ : k < pieces.length), (readFrame (source.after k)).1 = .ok pieces[k].2 ∧
        Delivers [] (source.after (k + 1)) (stream (pieces.drop (k + 1)) trail)) ∧
      (readFrame (source.after pieces.length)).1 = .error .noMarker) ∧
    ∀ (garbage : Bytes) (f : Frame) (rest : Bytes) (tail source : Source),
      Quiet garbage → garbage.getLast? = some markerByte →
      Delivers tail source (garbage ++ (f.encode ++ rest)) → (readFrame source).1 ≠ .ok f := by
  constructor
  · intro pieces trail source hskipped htrail h
    constructor
    · intro k hk
      have hrest := after_delivers hskipped h (Nat.le_of_lt hk)
      rw [stream_drop hk] at hrest
      obtain ⟨left, hread, -⟩ := readFrame_of_skipped (hskipped _ (List.getElem_mem hk)) hrest
      exact ⟨by rw [hread], after_delivers hskipped h hk⟩
    · have hrest := after_delivers hskipped h (Nat.le_refl pieces.length)
      rw [List.drop_length] at hrest
      rw [readFrame_of_quiet hrest htrail]
  · intro garbage f rest tail source hquiet hlast h
    exact readFrame_ne_of_half hquiet hlast h

/-- A payload that looks like a marker does not mislead the reader; half a marker
in front of the same frame does. -/
theorem readFrame_stream_marker_inside :
    (readFrame (Source.after 1 [.bytes [1, 255, 2, 255], .bytes [255, 2, 2, 255],
      .bytes [255, 2, 2, 9, 255, 255, 13, 0], .bytes [0, 13, 255]])).1 =
      .ok ⟨13, [], by decide⟩ ∧
    (readFrame [.bytes [255], .bytes [255, 255, 2, 2, 255, 255, 2, 2]]).1 ≠
      .ok ⟨2, [255, 255], by decide⟩ := by
  let inside : Frame := ⟨2, [255, 255], by decide⟩
  let empty : Frame := ⟨13, [], by decide⟩
  constructor
  · have hskipped : ∀ piece ∈ [([1, 255, 2], inside), ([9], empty)], Skipped piece.1 := by decide
    have htrail : Quiet [255] := by decide
    have hbytes : stream [([1, 255, 2], inside), ([9], empty)] [255] =
        [1, 255, 2, 255, 255, 2, 2, 255, 255, 2, 2, 9, 255, 255, 13, 0, 0, 13, 255] := by decide
    have h : Delivers [] [.bytes [1, 255, 2, 255], .bytes [255, 2, 2, 255],
        .bytes [255, 2, 2, 9, 255, 255, 13, 0], .bytes [0, 13, 255]]
        [1, 255, 2, 255, 255, 2, 2, 255, 255, 2, 2, 9, 255, 255, 13, 0, 0, 13, 255] :=
      .chunk (by simp) (.chunk (by simp) (.chunk (by simp) (.chunk (by simp) .done)))
    rw [← hbytes] at h
    exact ((readFrame_stream.1 _ _ _ hskipped htrail h).1 1 (by decide)).1
  · have hquiet : Quiet [255] := by decide
    have hbytes : [255] ++ (inside.encode ++ []) = [255, 255, 255, 2, 2, 255, 255, 2, 2] := by
      decide
    have h : Delivers [] [.bytes [255], .bytes [255, 255, 2, 2, 255, 255, 2, 2]]
        [255, 255, 255, 2, 2, 255, 255, 2, 2] :=
      .chunk (by simp) (.chunk (by simp) .done)
    rw [← hbytes] at h
    exact readFrame_stream.2 _ _ _ _ _ hquiet rfl h

end TelemetryRelay.Wire
