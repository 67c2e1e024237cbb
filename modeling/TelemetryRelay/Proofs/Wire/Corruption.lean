import TelemetryRelay.Proofs.Wire.Checksum
import TelemetryRelay.Proofs.Wire.Stream

/-!
# Damaged frames

What a reader makes of a frame some of whose bytes were replaced on the way.  Under the same
length byte it refuses the frame exactly if the sum of its content no longer is the one that
was sent.  Another length byte moves the checksum to another place: a longer frame is never
complete, a shorter one is judged by two bytes that were something else.
-/

namespace TelemetryRelay.Wire

open Source (Delivers)

/-- The bytes of a frame that carries this checksum, be it right or wrong. -/
def image (tag : UInt8) (payload : Bytes) (carried : UInt16) : Bytes :=
  [markerByte, markerByte, tag, UInt8.ofNat payload.length] ++ payload ++
    Bytes.ofNat 2 carried.toNat

variable {tail source : Source} {tag b : UInt8} {payload rest : Bytes} {carried : UInt16} {k : Nat}

theorem Frame.encode_eq_image (f : Frame) : f.encode = image f.tag f.payload f.checksum := rfl

theorem length_image : (image tag payload carried).length = payload.length + 6 := by
  simp [image]

/-! ## Under the same length byte -/

/-- An image is read as its content under its checksum, whatever follows it. -/
theorem readFrame_of_image (hfits : payload.length ≤ maxPayload)
    (h : Delivers tail source (image tag payload carried ++ rest)) :
    ∃ left, readFrame source = (verify tag payload carried, left) ∧ Delivers tail left rest := by
  obtain ⟨high, low, htrailer⟩ : ∃ high low, Bytes.ofNat 2 carried.toNat = [high, low] :=
    List.length_eq_two.mp (Bytes.length_ofNat 2 carried.toNat)
  have hcarried : UInt16.ofNat (Bytes.toNat [high, low]) = carried :=
    (eq_ofNat_checksum_iff.mpr htrailer.symm).symm
  have hbytes : image tag payload carried ++ rest = [] ++ markerByte :: markerByte :: tag ::
      UInt8.ofNat payload.length :: (payload ++ high :: low :: rest) := by
    simp [image, htrailer]
  rw [hbytes] at h
  have hskipped : Skipped [] := by decide
  have hread := readFrame_of_content hskipped hfits h
  rwa [hcarried] at hread

/-- Another content passes for a frame exactly if it has the sum of that frame. -/
theorem verify_other_content (f : Frame) (hlength : payload.length = f.payload.length) :
    verify tag payload f.checksum =
      if contentSum tag payload = contentSum f.tag f.payload then
        .ok ⟨tag, payload, Nat.le_trans (Nat.le_of_eq hlength) f.fits⟩
      else .error (.badChecksum (checksum tag payload) f.checksum) := by
  have hsum : checksum tag payload = f.checksum ↔
      contentSum tag payload = contentSum f.tag f.payload := checksum_inj hlength f.fits
  have hfits : payload.length ≤ maxPayload := Nat.le_trans (Nat.le_of_eq hlength) f.fits
  simp only [verify, hsum, Frame.make, dif_pos hfits]

theorem verify_other_checksum (f : Frame) (hne : carried ≠ f.checksum) :
    verify f.tag f.payload carried = .error (.badChecksum f.checksum carried) :=
  if_neg fun h => hne h.symm

/-! ## A single byte -/

theorem image_set_tag : (image tag payload carried).set 2 b = image b payload carried := rfl

theorem image_set_payload (hk : k < payload.length) :
    (image tag payload carried).set (4 + k) b = image tag (payload.set k b) carried := by
  rw [image, image, List.append_assoc, List.append_assoc, List.length_set,
    List.set_append_right _ _ (Nat.le_add_right 4 k), List.set_append_left _ _ (by simpa using hk)]
  simp

/-- Any two bytes are a checksum that a frame may carry. -/
theorem exists_carried {trailer : Bytes} (h : trailer.length = 2) :
    ∃ carried : UInt16, Bytes.ofNat 2 carried.toNat = trailer := by
  obtain ⟨high, low, rfl⟩ := List.length_eq_two.mp h
  exact ⟨_, (eq_ofNat_checksum_iff.mp rfl).symm⟩

theorem image_set_trailer (hk : payload.length ≤ k) :
    ∃ carried', (image tag payload carried).set (4 + k) b = image tag payload carried' := by
  obtain ⟨carried', hcarried⟩ : ∃ carried' : UInt16, Bytes.ofNat 2 carried'.toNat =
      (Bytes.ofNat 2 carried.toNat).set (k - payload.length) b := exists_carried (by simp)
  refine ⟨carried', ?_⟩
  rw [image, image, List.append_assoc, List.append_assoc,
    List.set_append_right _ _ (Nat.le_add_right 4 k), List.set_append_right _ _ (by simpa using hk)]
  simp [hcarried]

/-- One byte of tag, payload or checksum has become another one. -/
theorem readFrame_of_byte {f : Frame} (hplace : k = 2 ∨ 4 ≤ k)
    (hchanged : f.encode.set k b ≠ f.encode) (h : Delivers tail source (f.encode.set k b ++ rest)) :
    ∃ computed received left, readFrame source = (.error (.badChecksum computed received), left) ∧
      Delivers tail left rest := by
  rw [f.encode_eq_image] at hchanged h
  have hcontent {tag : UInt8} {payload : Bytes} (hlength : payload.length = f.payload.length)
      (hsum : contentSum tag payload ≠ contentSum f.tag f.payload)
      (h : Delivers tail source (image tag payload f.checksum ++ rest)) :
      ∃ computed received left, readFrame source =
          (.error (.badChecksum computed received), left) ∧ Delivers tail left rest := by
    obtain ⟨left, hread, hleft⟩ := readFrame_of_image (Nat.le_trans (Nat.le_of_eq hlength) f.fits) h
    rw [verify_other_content f hlength, if_neg hsum] at hread
    exact ⟨_, _, left, hread, hleft⟩
  rcases hplace with rfl | hk
  · rw [image_set_tag] at hchanged h
    refine hcontent rfl (fun hsum => hchanged ?_) h
    rw [contentSum_tag.mp hsum]
  obtain ⟨k, rfl⟩ := Nat.exists_eq_add_of_le hk
  by_cases hinside : k < f.payload.length
  · rw [image_set_payload hinside] at hchanged h
    refine hcontent List.length_set (fun hsum => hchanged ?_) h
    rw [(contentSum_set hinside).mp hsum, List.set_getElem_self]
  · obtain ⟨carried, himage⟩ := @image_set_trailer f.tag b f.payload f.checksum k
      (Nat.le_of_not_lt hinside)
    rw [himage] at hchanged h
    have hne : carried ≠ f.checksum := fun heq => hchanged (by rw [heq])
    obtain ⟨left, hread, hleft⟩ := readFrame_of_image f.fits h
    rw [verify_other_checksum f hne] at hread
    exact ⟨_, _, left, hread, hleft⟩

/-- **What the checksum detects.**  Another content of the same length is read, as if it had
been sent, exactly if its tag, as a signed byte, and its payload bytes add up to what those of
the frame add up to: no other difference is lost by wrapping around.  A checksum that is not
that of the content is always seen, and so is the change of any single byte of tag, payload or
checksum.  Whatever is read or refused, the bytes of one frame are taken and no others. -/
theorem corruption_detected (f : Frame) :
    (∀ (tag : UInt8) (payload : Bytes) (hlength : payload.length = f.payload.length),
      (image tag payload f.checksum).length = f.encodedLength ∧
      (checksum tag payload = f.checksum ↔ contentSum tag payload = contentSum f.tag f.payload) ∧
      ∀ (rest : Bytes) (tail source : Source),
        Delivers tail source (image tag payload f.checksum ++ rest) →
        ∃ left, Delivers tail left rest ∧ readFrame source =
          (if contentSum tag payload = contentSum f.tag f.payload then
            .ok ⟨tag, payload, Nat.le_trans (Nat.le_of_eq hlength) f.fits⟩
          else .error (.badChecksum (checksum tag payload) f.checksum), left)) ∧
    (∀ (carried : UInt16) (rest : Bytes) (tail source : Source), carried ≠ f.checksum →
      Delivers tail source (image f.tag f.payload carried ++ rest) →
      ∃ left, Delivers tail left rest ∧
        readFrame source = (.error (.badChecksum f.checksum carried), left)) ∧
    ∀ (k : Nat) (b : UInt8) (rest : Bytes) (tail source : Source), k = 2 ∨ 4 ≤ k →
      f.encode.set k b ≠ f.encode → Delivers tail source (f.encode.set k b ++ rest) →
      ∃ computed received left, Delivers tail left rest ∧
        readFrame source = (.error (.badChecksum computed received), left) := by
  refine ⟨fun tag payload hlength => ⟨?_, checksum_inj hlength f.fits, ?_⟩, ?_, ?_⟩
  · rw [length_image, hlength, Frame.encodedLength]
  · intro rest tail source h
    obtain ⟨left, hread, hleft⟩ := readFrame_of_image (Nat.le_trans (Nat.le_of_eq hlength) f.fits) h
    exact ⟨left, hleft, by rw [hread, verify_other_content f hlength]⟩
  · intro carried rest tail source hne h
    obtain ⟨left, hread, hleft⟩ := readFrame_of_image f.fits h
    exact ⟨left, hleft, by rw [hread, verify_other_checksum f hne]⟩
  · intro k b rest tail source hplace hchanged h
    obtain ⟨computed, received, left, hread, hleft⟩ := readFrame_of_byte hplace hchanged h
    exact ⟨computed, received, left, hleft, hread⟩

/-- Payload bytes that have changed places go unnoticed, one that has become the half of a marker
does not. -/
theorem corruption_detected_swapped :
    (readFrame [.bytes [255, 255, 13, 4, 2, 1], .bytes [3, 254, 1, 21, 9]]).1 =
      .ok ⟨13, [2, 1, 3, 254], by decide⟩ ∧
    ∃ computed received, (readFrame [.bytes [255, 255, 13, 4, 1, 2, 255], .bytes [254, 1, 21]]).1 =
      .error (.badChecksum computed received) := by
  let f : Frame := ⟨13, [1, 2, 3, 254], by decide⟩
  obtain ⟨hcontent, -, hbyte⟩ := corruption_detected f
  constructor
  · have hbytes : image 13 [2, 1, 3, 254] f.checksum ++ [9] =
        [255, 255, 13, 4, 2, 1, 3, 254, 1, 21, 9] := by decide
    have h : Delivers [] [.bytes [255, 255, 13, 4, 2, 1], .bytes [3, 254, 1, 21, 9]]
        [255, 255, 13, 4, 2, 1, 3, 254, 1, 21, 9] :=
      .chunk (by simp) (.chunk (by simp) .done)
    rw [← hbytes] at h
    obtain ⟨-, -, hread⟩ := hcontent 13 [2, 1, 3, 254] rfl
    obtain ⟨left, -, hread⟩ := hread _ _ _ h
    rw [hread]
    rfl
  · have hbytes : f.encode.set 6 255 ++ [] = [255, 255, 13, 4, 1, 2, 255, 254, 1, 21] := by decide
    have h : Delivers [] [.bytes [255, 255, 13, 4, 1, 2, 255], .bytes [254, 1, 21]]
        [255, 255, 13, 4, 1, 2, 255, 254, 1, 21] :=
      .chunk (by simp) (.chunk (by simp) .done)
    rw [← hbytes] at h
    obtain ⟨computed, received, left, -, hread⟩ := hbyte 6 255 _ _ _ (by decide) (by decide) h
    exact ⟨computed, received, by rw [hread]⟩

/-! ## Another length byte -/

/-- What is read of a frame under another length byte. -/
theorem parse_set_length (f : Frame) (length : UInt8) :
    parse (f.encode.set 3 length) =
      ((parseBody f.tag length.toNat (f.payload ++ Bytes.ofNat 2 f.checksum.toNat)).1,
        4 + (parseBody f.tag length.toNat (f.payload ++ Bytes.ofNat 2 f.checksum.toNat)).2) := by
  have hbytes : f.encode.set 3 length = markerByte :: markerByte :: f.tag :: length ::
      (f.payload ++ Bytes.ofNat 2 f.checksum.toNat) := by
    simp [Frame.encode]
  have hmarker : marker? (f.encode.set 3 length) = some 0 := by
    rw [marker?_eq_some, hbytes]
    exact ⟨markerAt_zero.mpr ⟨rfl, rfl⟩, fun q hq => absurd hq (Nat.not_lt_zero q)⟩
  simp only [parse, hmarker]
  rw [hbytes]
  simp

/-- The two bytes that stand where a shorter frame has its checksum. -/
def Frame.misplaced (f : Frame) (length : Nat) : Bytes :=
  ((f.payload ++ Bytes.ofNat 2 f.checksum.toNat).drop length).take 2

theorem Frame.parseBody_shorter (f : Frame) {length : Nat} (hlt : length < f.payload.length) :
    (parseBody f.tag length (f.payload ++ Bytes.ofNat 2 f.checksum.toNat)).1 =
      if f.misplaced length = Bytes.ofNat 2 (Wire.checksum f.tag (f.payload.take length)).toNat then
        .ok ⟨f.tag, f.payload.take length, Nat.le_trans (List.length_take_le' ..) f.fits⟩
      else .error (.badChecksum (Wire.checksum f.tag (f.payload.take length))
        (UInt16.ofNat (Bytes.toNat (f.misplaced length)))) := by
  have hfits := f.fits
  have hlarge : ¬ maxPayload < length := by omega
  have hshort : ¬ (f.payload ++ Bytes.ofNat 2 f.checksum.toNat).length < length := by
    rw [List.length_append]
    omega
  have hcut : ¬ (f.payload ++ Bytes.ofNat 2 f.checksum.toNat).length - length < 2 := by
    rw [List.length_append, Bytes.length_ofNat]
    omega
  have hkept : (f.payload ++ Bytes.ofNat 2 f.checksum.toNat).take length = f.payload.take length :=
    List.take_append_of_le_length (Nat.le_of_lt hlt)
  simp only [parseBody, dif_neg hlarge, if_neg hshort, if_neg hcut, hkept, misplaced]
  rfl

theorem Frame.parseBody_longer (f : Frame) {length : Nat} (hlt : f.payload.length < length) :
    (parseBody f.tag length (f.payload ++ Bytes.ofNat 2 f.checksum.toNat)).1 =
      .error (if maxPayload < length then .oversized length
        else if f.payload.length + 2 < length then .shortPayload f.tag length (f.payload.length + 2)
        else .noChecksum) := by
  have hlength : (f.payload ++ Bytes.ofNat 2 f.checksum.toNat).length = f.payload.length + 2 := by
    simp
  have hcut : f.payload.length + 2 - length < 2 := by omega
  simp only [parseBody, hlength, if_pos hcut]
  split
  · rfl
  · split <;> rfl

/-- **What another length byte comes to.**  At the end of the stream a frame under another length
byte is refused, unless that byte is too small and the two bytes that then stand for the
checksum are the checksum of what is kept; exactly then what is kept is read.  A length that is
too small is refused by the checksum and by nothing else, one that is too large for what is
missing. -/
theorem length_byte_corrupted {f : Frame} {length : UInt8} {source : Source}
    (hne : length.toNat ≠ f.payload.length) (h : Delivers [] source (f.encode.set 3 length)) :
    let kept := f.payload.take length.toNat
    let computed := checksum f.tag kept
    let trailer := f.misplaced length.toNat
    (∀ g, (readFrame source).1 = .ok g ↔ length.toNat < f.payload.length ∧
      trailer = Bytes.ofNat 2 computed.toNat ∧ g.tag = f.tag ∧ g.payload = kept) ∧
    (length.toNat < f.payload.length → trailer ≠ Bytes.ofNat 2 computed.toNat →
      (readFrame source).1 =
        .error (.badChecksum computed (UInt16.ofNat (Bytes.toNat trailer)))) ∧
    (f.payload.length < length.toNat → (readFrame source).1 =
      .error (if 127 < length.toNat then .oversized length.toNat
        else if f.payload.length + 2 < length.toNat then
          .shortPayload f.tag length.toNat (f.payload.length + 2)
        else .noChecksum)) := by
  intro kept computed trailer
  obtain ⟨left, hread, -⟩ := readFrame_eq_parse h
  have hresult := congrArg Prod.fst hread
  simp only [parse_set_length] at hresult
  rcases Nat.lt_or_gt_of_ne hne with hlt | hgt
  · rw [hresult, f.parseBody_shorter hlt]
    refine ⟨fun g => ?_, fun _ hmismatch => if_neg hmismatch,
      fun h => absurd h (Nat.not_lt_of_lt hlt)⟩
    by_cases hmatch : trailer = Bytes.ofNat 2 computed.toNat
    · rw [if_pos hmatch]
      obtain ⟨tag, payload, hfits⟩ := g
      simp only [Except.ok.injEq, Frame.mk.injEq, hlt, hmatch, true_and]
      exact and_congr eq_comm eq_comm
    · rw [if_neg hmatch]
      simp [hmatch]
  · rw [hresult, f.parseBody_longer hgt]
    refine ⟨fun g => ?_, fun h => absurd h (Nat.not_lt_of_lt hgt), fun _ => rfl⟩
    simp [Nat.not_lt_of_lt hgt]

/-- Of the known frame a shorter one is refused, and so is one that takes the checksum for
payload. -/
theorem length_byte_corrupted_refused :
    (readFrame [.bytes [255, 255, 13, 2, 1], .bytes [2, 3, 0, 22]]).1 =
      .error (.badChecksum 18 768) ∧
    (readFrame [.bytes [255, 255, 13, 5, 1], .bytes [2, 3, 0, 22]]).1 = .error .noChecksum := by
  let f : Frame := ⟨13, [1, 2, 3], by decide⟩
  constructor
  · have h : Delivers [] [.bytes [255, 255, 13, 2, 1], .bytes [2, 3, 0, 22]]
        [255, 255, 13, 2, 1, 2, 3, 0, 22] :=
      .chunk (by simp) (.chunk (by simp) .done)
    have hbytes : f.encode.set 3 2 = [255, 255, 13, 2, 1, 2, 3, 0, 22] := by decide
    rw [← hbytes] at h
    have hcomputed : checksum f.tag (f.payload.take (UInt8.toNat 2)) = 18 := by decide
    have htrailer : UInt16.ofNat (Bytes.toNat (f.misplaced (UInt8.toNat 2))) = 768 := by decide
    have hread := (length_byte_corrupted (by decide) h).2.1 (by decide) (by decide)
    rwa [hcomputed, htrailer] at hread
  · have h : Delivers [] [.bytes [255, 255, 13, 5, 1], .bytes [2, 3, 0, 22]]
        [255, 255, 13, 5, 1, 2, 3, 0, 22] :=
      .chunk (by simp) (.chunk (by simp) .done)
    have hbytes : f.encode.set 3 5 = [255, 255, 13, 5, 1, 2, 3, 0, 22] := by decide
    rw [← hbytes] at h
    exact (length_byte_corrupted (by decide) h).2.2 (by decide)

/-- A frame whose payload spells the checksum of the empty payload is cut down to that. -/
theorem length_byte_unnoticed :
    let f : Frame := ⟨13, [0, 13], by decide⟩
    f.encode = [255, 255, 13, 2, 0, 13, 0, 28] ∧
    f.encode.set 3 0 = [255, 255, 13, 0, 0, 13, 0, 28] ∧
    (readFrame [.bytes [255, 255, 13, 0, 0, 13, 0, 28]]).1 = .ok ⟨13, [], by decide⟩ := by
  refine ⟨by decide, by decide, ?_⟩
  have h : Delivers [] [.bytes [255, 255, 13, 0, 0, 13, 0, 28]] [255, 255, 13, 0, 0, 13, 0, 28] :=
    .chunk (by simp) .done
  obtain ⟨left, hread, -⟩ := readFrame_eq_parse h
  rw [hread]
  rfl

end TelemetryRelay.Wire
