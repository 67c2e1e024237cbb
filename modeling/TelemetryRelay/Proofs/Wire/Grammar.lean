import TelemetryRelay.Proofs.Bytes
import TelemetryRelay.Proofs.Wire.Reading

/-!
# The grammar of the wire

`parse` says in one stroke what a finite byte string is read as and how many of
its bytes that takes.  Reading gives exactly this from every source of these
bytes, in whatever chunks they come.
-/

namespace TelemetryRelay.Wire

open Source (Delivers)

/-- Where the first marker stands. -/
def marker? (b : Bytes) : Option Nat := (List.range b.length).find? fun p => MarkerAt b p

/-- What the bytes behind tag and length are read as, and how many of them are
taken. -/
def parseBody (tag : UInt8) (length : Nat) (body : Bytes) : Except FrameError Frame × Nat :=
  let payload := body.take length
  let trailer := (body.drop length).take 2
  if large : maxPayload < length then (.error (.oversized length), 0)
  else if body.length < length then (.error (.shortPayload tag length body.length), body.length)
  else if body.length - length < 2 then (.error .noChecksum, body.length)
  else
    (if trailer = Bytes.ofNat 2 (checksum tag payload).toNat then
      .ok ⟨tag, payload, Nat.le_trans (List.length_take_le _ _) (Nat.le_of_not_lt large)⟩
    else .error (.badChecksum (checksum tag payload) (UInt16.ofNat (Bytes.toNat trailer))),
      length + 2)

/-- What `b` and the end of the stream behind it are read as, and how many bytes
are taken. -/
def parse (b : Bytes) : Except FrameError Frame × Nat :=
  match marker? b with
  | none => (.error .noMarker, b.length)
  | some p =>
    match b.drop (p + 2) with
    | [] => (.error .noTag, b.length)
    | [_] => (.error .noLength, b.length)
    | tag :: length :: body =>
      let (result, taken) := parseBody tag length.toNat body
      (result, p + 4 + taken)

theorem MarkerAt.lt {b : Bytes} {p : Nat} (h : MarkerAt b p) : p + 1 < b.length :=
  (List.getElem?_eq_some_iff.mp h.2).1

theorem marker?_eq_some {b : Bytes} {p : Nat} : marker? b = some p ↔ FirstMarker b p := by
  simp only [marker?, List.find?_range_eq_some, decide_eq_true_eq, List.mem_range,
    Bool.not_eq_true', decide_eq_false_iff_not]
  constructor
  · rintro ⟨hp, -, hfirst⟩
    exact ⟨hp, hfirst⟩
  · rintro ⟨hp, hfirst⟩
    exact ⟨hp, Nat.lt_of_succ_lt hp.lt, hfirst⟩

theorem marker?_eq_none {b : Bytes} : marker? b = none ↔ Quiet b := by
  simp only [marker?, List.find?_range_eq_none, Bool.not_eq_true', decide_eq_false_iff_not]
  constructor
  · intro h p hp
    exact h p (Nat.lt_of_succ_lt hp.lt) hp
  · intro h p _
    exact h p

instance (b : Bytes) : Decidable (Quiet b) := decidable_of_iff _ marker?_eq_none

theorem MarkerAt.drop {b : Bytes} {p : Nat} (h : MarkerAt b p) :
    b.drop p = markerByte :: markerByte :: b.drop (p + 2) := by
  obtain ⟨h0, hp0⟩ := List.getElem?_eq_some_iff.mp h.1
  obtain ⟨h1, hp1⟩ := List.getElem?_eq_some_iff.mp h.2
  rw [List.drop_eq_getElem_cons h0, List.drop_eq_getElem_cons h1, hp0, hp1]

/-- The trailer of a frame is its checksum exactly if the number it spells is. -/
theorem eq_ofNat_checksum_iff {w : UInt16} {high low : UInt8} :
    w = UInt16.ofNat (Bytes.toNat [high, low]) ↔ [high, low] = Bytes.ofNat 2 w.toNat := by
  have hlt : Bytes.toNat [high, low] < 65536 := by
    simpa [Nat.pow_eq] using Bytes.toNat_lt [high, low]
  constructor
  · rintro rfl
    rw [UInt16.toNat_ofNat_of_lt' hlt]
    exact (Bytes.ofNat_toNat [high, low]).symm
  · intro h
    rw [h, Bytes.toNat_ofNat]
    simp

theorem verify_eq {tag high low : UInt8} {payload : Bytes} (hfits : payload.length ≤ maxPayload) :
    verify tag payload (UInt16.ofNat (Bytes.toNat [high, low])) =
      if [high, low] = Bytes.ofNat 2 (checksum tag payload).toNat then .ok ⟨tag, payload, hfits⟩
      else .error (.badChecksum (checksum tag payload)
        (UInt16.ofNat (Bytes.toNat [high, low]))) := by
  simp only [verify, eq_ofNat_checksum_iff, Frame.make, dif_pos hfits]

theorem exists_trailer {body : Bytes} {length : Nat} (h : length + 2 ≤ body.length) :
    ∃ high low, body.drop length = high :: low :: body.drop (length + 2) := by
  refine ⟨body[length], body[length + 1], ?_⟩
  rw [List.drop_eq_getElem_cons (by omega), List.drop_eq_getElem_cons (by omega)]

theorem readBody_eq_parseBody {source : Source} {tag : UInt8} {length : Nat} {body : Bytes}
    (h : Delivers [] source body) (hfits : length ≤ maxPayload) :
    ∃ left, readBody tag length source = ((parseBody tag length body).1, left) ∧
      Delivers [] left (body.drop (parseBody tag length body).2) := by
  simp only [parseBody, dif_neg (Nat.not_lt_of_le hfits)]
  by_cases hshort : body.length < length
  · refine ⟨[], ?_, ?_⟩
    · simp [hshort, readBody_short tag h hshort]
    · simpa [hshort] using Delivers.done
  by_cases hcut : body.length - length < 2
  · refine ⟨[], ?_, ?_⟩
    · simp [hshort, hcut, readBody_noChecksum tag h (Nat.le_of_not_lt hshort) (by omega)]
    · simpa [hshort, hcut] using Delivers.done
  have hlong : length + 2 ≤ body.length := by omega
  obtain ⟨high, low, htrailer⟩ := exists_trailer hlong
  have hpayload : (body.take length).length = length := by
    rw [List.length_take]
    omega
  rw [← List.take_append_drop length body, htrailer] at h
  obtain ⟨left, hbody, h⟩ := readBody_complete tag h
  rw [hpayload, verify_eq (by omega)] at hbody
  rw [if_neg hshort, if_neg hcut, hbody, htrailer]
  exact ⟨left, rfl, h⟩

/-- **Reading is parsing.** -/
theorem readFrame_eq_parse {source : Source} {b : Bytes} (h : Delivers [] source b) :
    ∃ left, readFrame source = ((parse b).1, left) ∧
      Delivers [] left (b.drop (parse b).2) := by
  cases hmarker : marker? b with
  | none =>
      refine ⟨[], ?_, ?_⟩
      · simpa [parse, hmarker] using readFrame_of_quiet h (marker?_eq_none.mp hmarker)
      · simpa [parse, hmarker] using Delivers.done
  | some p =>
      obtain ⟨content, hframe, h⟩ := readFrame_of_marker h (marker?_eq_some.mp hmarker)
      rw [hframe]
      match hr : b.drop (p + 2) with
      | [] =>
          rw [hr] at h
          refine ⟨[], ?_, ?_⟩
          · simp [parse, hmarker, hr, h.eq_tail, readContent_nil]
          · simpa [parse, hmarker, hr] using Delivers.done
      | [tag] =>
          rw [hr] at h
          refine ⟨[], ?_, ?_⟩
          · simp [parse, hmarker, hr, readContent_singleton h]
          · simpa [parse, hmarker, hr] using Delivers.done
      | tag :: length :: body =>
          rw [hr] at h
          obtain ⟨left, hcontent, h⟩ := readContent_cons h
          have hdrop (k : Nat) : b.drop (p + 4 + k) = body.drop k := by
            have hbody : body = (b.drop (p + 2)).drop 2 := by rw [hr]; rfl
            rw [hbody, List.drop_drop, List.drop_drop]
            congr 1
            omega
          simp only [parse, hmarker, hr, hdrop]
          by_cases hlarge : maxPayload < length.toNat
          · refine ⟨left, ?_, ?_⟩
            · simp [hcontent, hlarge, parseBody]
            · simpa [hlarge, parseBody] using h
          · rw [hcontent, if_neg hlarge]
            exact readBody_eq_parseBody h (Nat.le_of_not_lt hlarge)

/-! ## What is accepted -/

theorem parseBody_ok {tag : UInt8} {length : Nat} {body : Bytes} {f : Frame}
    (h : (parseBody tag length body).1 = .ok f) :
    f.tag = tag ∧ f.payload.length = length ∧ (parseBody tag length body).2 = length + 2 ∧
      body.take (length + 2) = f.payload ++ Bytes.ofNat 2 f.checksum.toNat := by
  by_cases hlarge : maxPayload < length
  · simp [parseBody, hlarge] at h
  by_cases hshort : body.length < length
  · simp [parseBody, hlarge, hshort] at h
  by_cases hcut : body.length - length < 2
  · simp [parseBody, hlarge, hshort, hcut] at h
  by_cases hsum : (body.drop length).take 2 =
      Bytes.ofNat 2 (checksum tag (body.take length)).toNat
  · have hfits : (body.take length).length ≤ maxPayload := by
      rw [List.length_take]
      omega
    have hbody : parseBody tag length body = (.ok ⟨tag, body.take length, hfits⟩, length + 2) := by
      simp [parseBody, hlarge, hshort, hcut, hsum]
    rw [hbody] at h ⊢
    obtain rfl := Except.ok.inj h
    refine ⟨rfl, ?_, rfl, ?_⟩
    · rw [List.length_take]
      omega
    · rw [List.take_add, hsum]
      rfl
  · simp [parseBody, hlarge, hshort, hcut, hsum] at h

/-- A frame that is read stands at the first marker, byte for byte. -/
theorem parse_ok {b : Bytes} {f : Frame} (h : (parse b).1 = .ok f) :
    ∃ p, marker? b = some p ∧ (parse b).2 = p + f.encodedLength ∧
      (b.drop p).take f.encodedLength = f.encode := by
  cases hmarker : marker? b with
  | none => simp [parse, hmarker] at h
  | some p =>
      have hp := (marker?_eq_some.mp hmarker).1
      refine ⟨p, rfl, ?_⟩
      match hr : b.drop (p + 2) with
      | [] => simp [parse, hmarker, hr] at h
      | [tag] => simp [parse, hmarker, hr] at h
      | tag :: length :: body =>
          simp only [parse, hmarker, hr] at h ⊢
          obtain ⟨rfl, hlength, htaken, htake⟩ := parseBody_ok h
          have hencoded : f.encodedLength = length.toNat + 2 + 2 + 2 := by
            simp only [Frame.encodedLength, hlength]
          refine ⟨?_, ?_⟩
          · rw [htaken, hencoded]
            omega
          · rw [hp.drop, hr, hencoded]
            simp only [List.take_succ_cons, htake, Frame.encode, hlength]
            simp

theorem parseBody_le (tag : UInt8) (length : Nat) (body : Bytes) :
    (parseBody tag length body).2 ≤ body.length := by
  by_cases hlarge : maxPayload < length
  · simp [parseBody, hlarge]
  by_cases hshort : body.length < length
  · simp [parseBody, hlarge, hshort]
  by_cases hcut : body.length - length < 2
  · simp [parseBody, hlarge, hshort, hcut]
  · simp only [parseBody, hlarge, hshort, hcut, dite_false, if_false]
    omega

theorem parse_le (b : Bytes) : (parse b).2 ≤ b.length := by
  cases hmarker : marker? b with
  | none => simp [parse, hmarker]
  | some p =>
      match hr : b.drop (p + 2) with
      | [] => simp [parse, hmarker, hr]
      | [tag] => simp [parse, hmarker, hr]
      | tag :: length :: body =>
          have hlength := congrArg List.length hr
          simp only [List.length_drop, List.length_cons] at hlength
          have hbody := parseBody_le tag length.toNat body
          simp only [parse, hmarker, hr]
          omega

/-- **The grammar of the wire.** Whatever the chunks, a finite byte string is read
as `parse` says and exactly as many bytes are taken; a frame that is read encodes
to the bytes taken from the marker on. -/
theorem readFrame_grammar {source : Source} {b : Bytes} (h : Delivers [] source b) :
    (∃ left, readFrame source = ((parse b).1, left) ∧
      Delivers [] left (b.drop (parse b).2) ∧ (parse b).2 ≤ b.length) ∧
    (∀ other, Delivers [] other b → (readFrame other).1 = (readFrame source).1 ∧
      (readFrame other).2.size = (readFrame source).2.size) ∧
    ∀ f, (readFrame source).1 = .ok f →
      ∃ p, marker? b = some p ∧ (b.take (parse b).2).drop p = f.encode := by
  obtain ⟨left, hread, hleft⟩ := readFrame_eq_parse h
  refine ⟨⟨left, hread, hleft, parse_le b⟩, ?_, ?_⟩
  · intro other hother
    obtain ⟨left', hread', hleft'⟩ := readFrame_eq_parse hother
    rw [hread, hread']
    exact ⟨rfl, hleft'.size_eq.trans hleft.size_eq.symm⟩
  · intro f hf
    rw [hread] at hf
    obtain ⟨p, hmarker, htaken, hencode⟩ := parse_ok hf
    refine ⟨p, hmarker, ?_⟩
    rw [List.drop_take, htaken, Nat.add_sub_cancel_left, hencode]

/-- The marker is cut in two, garbage precedes it and more bytes follow the frame. -/
theorem readFrame_grammar_cut_marker :
    Delivers [] [.bytes [7, 255], .bytes [255, 13, 3, 1], .bytes [2, 3, 0, 22, 42]]
      [7, 255, 255, 13, 3, 1, 2, 3, 0, 22, 42] ∧
    (readFrame [.bytes [7, 255], .bytes [255, 13, 3, 1], .bytes [2, 3, 0, 22, 42]]).1 =
      .ok ⟨13, [1, 2, 3], by decide⟩ := by
  have h : Delivers [] [.bytes [7, 255], .bytes [255, 13, 3, 1], .bytes [2, 3, 0, 22, 42]]
      [7, 255, 255, 13, 3, 1, 2, 3, 0, 22, 42] :=
    .chunk (by simp) (.chunk (by simp) (.chunk (by simp) .done))
  obtain ⟨⟨left, hread, -⟩, -⟩ := readFrame_grammar h
  refine ⟨h, ?_⟩
  rw [hread]
  rfl

end TelemetryRelay.Wire
