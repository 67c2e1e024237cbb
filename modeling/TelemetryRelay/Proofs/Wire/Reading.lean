import TelemetryRelay.Wire.Reader

/-!
# What the reading loops take from a source

One lemma for each function that reads, over a source that hands out given
bytes in chunks of any sizes.  What is read depends on the bytes alone, and
what is left is again a source of the bytes that follow.
-/

namespace TelemetryRelay.Wire

/-- The source hands out `bs`, cut into non-empty chunks in some way, and goes on
with `tail`. -/
inductive Source.Delivers (tail : Source) : Source → Bytes → Prop
  | done : Delivers tail tail []
  | chunk {bs rest : Bytes} {source : Source} :
      bs ≠ [] → Delivers tail source rest → Delivers tail (.bytes bs :: source) (bs ++ rest)

/-! ## Chains of reads -/

namespace Reading

variable {α β : Type} {x : Reading α} {f : α → Reading β} {source left : Source}

theorem bind_ok {a : α} (h : x source = (.ok a, left)) : (x >>= f) source = f a left := by
  simp only [bind, ExceptT.bind, ExceptT.mk, StateT.bind, h]
  rfl

theorem bind_error {e : FrameError} (h : x source = (.error e, left)) :
    (x >>= f) source = (.error e, left) := by
  simp only [bind, ExceptT.bind, ExceptT.mk, StateT.bind, h]
  rfl

/-- What follows cannot tell how a result came about. -/
theorem bind_congr {y : Reading α} {other : Source} (h : x source = y other) :
    (x >>= f) source = (y >>= f) other := by
  simp only [bind, ExceptT.bind, ExceptT.mk, StateT.bind, h]

theorem of_bind_ok {b : β} (h : (x >>= f) source = (.ok b, left)) :
    ∃ a between, x source = (.ok a, between) ∧ f a between = (.ok b, left) := by
  match hx : x source with
  | (.ok a, between) => exact ⟨a, between, rfl, (bind_ok hx).symm.trans h⟩
  | (.error e, between) =>
      rw [bind_error hx] at h
      cases h

end Reading

namespace Source.Delivers

variable {tail source : Source} {bs : Bytes}

theorem eq_tail (h : Delivers tail source []) : source = tail := by
  generalize hbs : ([] : Bytes) = bs at h
  cases h with
  | done => rfl
  | chunk hne _ => exact absurd (List.append_eq_nil_iff.mp hbs.symm).1 hne

theorem size_eq (h : Delivers [] source bs) : source.size = bs.length := by
  induction h with
  | done => rfl
  | chunk _ _ ih => rw [Source.size, ih, List.length_append]

/-- A read gives some of the next bytes, as many as there is room for at most. -/
theorem read (h : Delivers tail source bs) {room : Nat} (hroom : 0 < room) (hbs : bs ≠ []) :
    ∃ c rest left, source.read room = (.ok c, left) ∧ c ≠ [] ∧ c.length ≤ room ∧
      bs = c ++ rest ∧ Delivers tail left rest := by
  cases h with
  | done => exact absurd rfl hbs
  | @chunk c rest source hc hrest =>
      have htake : c.take room ≠ [] := by
        intro hnil
        rcases List.take_eq_nil_iff.mp hnil with hzero | hnil
        · omega
        · exact hc hnil
      refine ⟨c.take room, c.drop room ++ rest, Source.putBack (c.drop room) source, rfl, htake,
        List.length_take_le room c, by rw [← List.append_assoc, List.take_append_drop], ?_⟩
      by_cases hdrop : c.drop room = []
      · simpa [Source.putBack, hdrop] using hrest
      · simpa [Source.putBack, hdrop] using chunk hdrop hrest

/-- The first byte that a source of some bytes hands out. -/
theorem read_one {b : UInt8} (h : Delivers tail source (b :: bs)) :
    ∃ left, source.read 1 = (.ok [b], left) ∧ Delivers tail left bs := by
  obtain ⟨c, rest, left, hread, hc, hlen, heq, hleft⟩ := h.read (Nat.one_pos) (by simp)
  match c, hc, hlen with
  | [x], _, _ =>
      obtain ⟨rfl, rfl⟩ : b = x ∧ bs = rest := by simpa using heq
      exact ⟨left, hread, hleft⟩

end Source.Delivers

open Source (Delivers)

variable {tail source : Source} {bs : Bytes}

/-! ## Single bytes -/

theorem readByte_cons {b : UInt8} (h : Delivers tail source (b :: bs)) (missing : FrameError) :
    ∃ left, readByte missing source = (.ok b, left) ∧ Delivers tail left bs := by
  obtain ⟨left, hread, hleft⟩ := h.read_one
  refine ⟨left, ?_, hleft⟩
  have hsome : readSome 1 source = (.ok [b], left) := by simp [readSome, hread]
  rw [readByte, Reading.bind_ok hsome]
  rfl

theorem readByte_nil (missing : FrameError) : readByte missing [] = (.error missing, []) := rfl

/-! ## The marker -/

/-- The marker stands at `p`. -/
def MarkerAt (bs : Bytes) (p : Nat) : Prop :=
  bs[p]? = some markerByte ∧ bs[p + 1]? = some markerByte

instance (bs : Bytes) (p : Nat) : Decidable (MarkerAt bs p) :=
  inferInstanceAs (Decidable (_ ∧ _))

/-- No two adjacent bytes are a marker. -/
def Quiet (bs : Bytes) : Prop := ∀ p, ¬ MarkerAt bs p

/-- The first marker stands at `p`. -/
def FirstMarker (bs : Bytes) (p : Nat) : Prop := MarkerAt bs p ∧ ∀ q < p, ¬ MarkerAt bs q

@[simp] theorem not_markerAt_nil (p : Nat) : ¬ MarkerAt [] p := by simp [MarkerAt]

@[simp] theorem markerAt_zero {a b : UInt8} :
    MarkerAt (a :: b :: bs) 0 ↔ a = markerByte ∧ b = markerByte := by
  simp [MarkerAt]

@[simp] theorem markerAt_succ {a : UInt8} {p : Nat} :
    MarkerAt (a :: bs) (p + 1) ↔ MarkerAt bs p := by
  simp [MarkerAt]

theorem not_markerAt_singleton (a : UInt8) (p : Nat) : ¬ MarkerAt [a] p := by
  simp [MarkerAt]

theorem MarkerAt.head {a : UInt8} (h : MarkerAt (a :: bs) 0) : a = markerByte := by
  simpa using h.1

theorem FirstMarker.of_cons {a : UInt8} {p : Nat} (h : FirstMarker (a :: bs) (p + 1)) :
    FirstMarker bs p :=
  ⟨markerAt_succ.mp h.1, fun q hq hm => h.2 (q + 1) (by omega) (markerAt_succ.mpr hm)⟩

theorem Quiet.of_cons {a : UInt8} (h : Quiet (a :: bs)) : Quiet bs :=
  fun p hm => h (p + 1) (markerAt_succ.mpr hm)

/-- What a reader has kept of the bytes before. -/
def seen (half : Bool) : Bytes := if half then [markerByte] else []

/-- The bytes behind the first marker, `half` of which may have been seen. -/
def seek (half : Bool) : Bytes → Option Bytes
  | [] => none
  | b :: bs =>
    if b = markerByte then if half then some bs else seek true bs
    else seek false bs

theorem seek_of_firstMarker {half : Bool} {p : Nat} (hp : FirstMarker (seen half ++ bs) p) :
    seek half bs = some ((seen half ++ bs).drop (p + 2)) := by
  induction bs generalizing half p with
  | nil =>
      cases half with
      | false => exact absurd hp.1 (not_markerAt_nil p)
      | true => exact absurd hp.1 (not_markerAt_singleton _ p)
  | cons b bs ih =>
      rw [seek]
      by_cases hb : b = markerByte
      · subst hb
        cases half with
        | false =>
            have hseen : FirstMarker (seen true ++ bs) p := hp
            exact ih hseen
        | true =>
            cases p with
            | zero => rfl
            | succ p => exact absurd ⟨rfl, rfl⟩ (hp.2 0 (Nat.succ_pos p))
      · rw [if_neg hb]
        cases half with
        | false =>
            cases p with
            | zero => exact absurd hp.1.head hb
            | succ p =>
                have hrest : FirstMarker (seen false ++ bs) p := hp.of_cons
                exact ih hrest
        | true =>
            -- The half that was seen is of no use any more, so the marker stands two bytes on.
            match p with
            | 0 => exact absurd (markerAt_zero.mp hp.1).2 hb
            | 1 => exact absurd hp.of_cons.1.head hb
            | p + 2 =>
                have hrest : FirstMarker (seen false ++ bs) p := hp.of_cons.of_cons
                exact ih hrest

theorem seek_of_quiet {half : Bool} (hq : Quiet (seen half ++ bs)) : seek half bs = none := by
  induction bs generalizing half with
  | nil => rfl
  | cons b bs ih =>
      rw [seek]
      by_cases hb : b = markerByte
      · subst hb
        cases half with
        | false =>
            have hseen : Quiet (seen true ++ bs) := hq
            exact ih hseen
        | true => exact absurd ⟨rfl, rfl⟩ (hq 0)
      · rw [if_neg hb]
        cases half with
        | false =>
            have hrest : Quiet (seen false ++ bs) := hq.of_cons
            exact ih hrest
        | true =>
            have hrest : Quiet (seen false ++ bs) := hq.of_cons.of_cons
            exact ih hrest

theorem synchronize_cons {half : Bool} {b : UInt8} {left : Source}
    (hread : source.read 1 = (.ok [b], left)) :
    synchronize half source =
      if b = markerByte then if half then (.ok (), left) else synchronize true left
      else synchronize false left := by
  rw [synchronize]
  split
  · rename_i h
    simp [h] at hread
  · rename_i h
    simp [h] at hread
  · rename_i h
    rw [hread] at h
    obtain ⟨⟨rfl, -⟩, rfl⟩ : (_ ∧ _) ∧ _ := by simpa using h
    rfl

/-- The reader stops behind the first marker. -/
theorem synchronize_of_seek {half : Bool} {rest : Bytes} (h : Delivers tail source bs)
    (hseek : seek half bs = some rest) :
    ∃ left, synchronize half source = (.ok (), left) ∧ Delivers tail left rest := by
  induction bs generalizing source half with
  | nil => cases hseek
  | cons b bs ih =>
      obtain ⟨left, hread, hleft⟩ := h.read_one
      rw [synchronize_cons hread]
      rw [seek] at hseek
      by_cases hb : b = markerByte
      · rw [if_pos hb] at hseek ⊢
        cases half with
        | false => exact ih hleft hseek
        | true =>
            cases hseek
            exact ⟨left, rfl, hleft⟩
      · rw [if_neg hb] at hseek ⊢
        exact ih hleft hseek

/-- Without a marker the reader takes all there is. -/
theorem synchronize_of_seek_none {half : Bool} (h : Delivers [] source bs)
    (hseek : seek half bs = none) : synchronize half source = (.error .noMarker, []) := by
  induction bs generalizing source half with
  | nil =>
      rw [h.eq_tail, synchronize]
      rfl
  | cons b bs ih =>
      obtain ⟨left, hread, hleft⟩ := h.read_one
      rw [synchronize_cons hread]
      rw [seek] at hseek
      by_cases hb : b = markerByte
      · rw [if_pos hb] at hseek ⊢
        cases half with
        | false => exact ih hleft hseek
        | true => cases hseek
      · rw [if_neg hb] at hseek ⊢
        exact ih hleft hseek

/-! ## The payload -/

/-- The payload is complete as soon as there are bytes enough, however they come. -/
theorem readPayload_complete (tag : UInt8) (length : Nat) (received : Bytes)
    (h : Delivers tail source bs) (hreceived : received.length ≤ length)
    (hbs : length ≤ received.length + bs.length) :
    ∃ left, readPayload tag length received source =
        (.ok (received ++ bs.take (length - received.length)), left) ∧
      Delivers tail left (bs.drop (length - received.length)) := by
  -- On what is missing: a read that is not the end of the stream takes some of it.
  induction hn : length - received.length using Nat.strongRecOn generalizing received source bs with
  | ind n ih =>
      rw [readPayload]
      by_cases hlt : received.length < length
      · have hne : bs ≠ [] := by
          rintro rfl
          simp at hbs
          omega
        obtain ⟨c, rest, left, hread, hc, hlen, rfl, hleft⟩ := h.read (Nat.sub_pos_of_lt hlt) hne
        obtain ⟨b, c, rfl⟩ := List.exists_cons_of_ne_nil hc
        rw [if_pos hlt, hread]
        simp only [List.length_cons, List.length_append] at hlen hbs
        obtain ⟨last, hlast, hdelivers⟩ := ih (length - (received ++ b :: c).length)
          (by simp only [List.length_append, List.length_cons]; omega) _ hleft
          (by simp only [List.length_append, List.length_cons]; omega)
          (by simp only [List.length_append, List.length_cons]; omega) rfl
        have hmissing : n = (b :: c).length + (length - (received ++ b :: c).length) := by
          simp only [List.length_append, List.length_cons]
          omega
        refine ⟨last, ?_, ?_⟩
        · show readPayload tag length (received ++ b :: c) left = _
          rw [hlast, hmissing, List.take_length_add_append, List.append_assoc]
        · rw [hmissing, List.drop_length_add_append]
          exact hdelivers
      · have hzero : n = 0 := by omega
        subst hzero
        exact ⟨source, by simp [if_neg hlt], by simpa using h⟩

theorem readPayload_short (tag : UInt8) (length : Nat) (received : Bytes)
    (h : Delivers [] source bs) (hbs : received.length + bs.length < length) :
    readPayload tag length received source =
      (.error (.shortPayload tag length (received.length + bs.length)), []) := by
  induction hn : bs.length using Nat.strongRecOn generalizing received source bs with
  | ind n ih =>
      have hlt : received.length < length := by omega
      rw [readPayload, if_pos hlt]
      by_cases hne : bs = []
      · subst hne
        rw [h.eq_tail]
        simp [Source.read, ← hn]
      · obtain ⟨c, rest, left, hread, hc, hlen, rfl, hleft⟩ := h.read (Nat.sub_pos_of_lt hlt) hne
        obtain ⟨b, c, rfl⟩ := List.exists_cons_of_ne_nil hc
        rw [hread]
        simp only [List.length_append, List.length_cons] at hbs hn
        have hshort : (received ++ b :: c).length + rest.length < length := by
          simp only [List.length_append, List.length_cons]
          omega
        simp only [ih rest.length (by omega) _ hleft hshort rfl, List.length_append,
          List.length_cons]
        congr 3
        omega

/-! ## What follows the marker -/

theorem readBody_complete (tag : UInt8) {high low : UInt8} {payload rest : Bytes}
    (h : Delivers tail source (payload ++ high :: low :: rest)) :
    ∃ left, readBody tag payload.length source =
        (verify tag payload (UInt16.ofNat (Bytes.toNat [high, low])), left) ∧
      Delivers tail left rest := by
  obtain ⟨afterPayload, hpayload, h⟩ :=
    readPayload_complete tag payload.length [] h (Nat.zero_le _) (by simp)
  simp only [List.length_nil, Nat.sub_zero, List.take_left, List.drop_left,
    List.nil_append] at hpayload h
  obtain ⟨afterHigh, hhigh, h⟩ := readByte_cons h .noChecksum
  obtain ⟨left, hlow, h⟩ := readByte_cons h .noChecksum
  refine ⟨left, ?_, h⟩
  rw [readBody, Reading.bind_ok hpayload, Reading.bind_ok hhigh, Reading.bind_ok hlow]
  cases verify tag payload (UInt16.ofNat (Bytes.toNat [high, low])) <;> rfl

theorem readBody_short {length : Nat} (tag : UInt8) (h : Delivers [] source bs)
    (hbs : bs.length < length) :
    readBody tag length source = (.error (.shortPayload tag length bs.length), []) := by
  have hpayload := readPayload_short tag length [] h (by simpa using hbs)
  rw [readBody, Reading.bind_error hpayload]
  simp

/-- The stream ends before the second byte of the checksum. -/
theorem readBody_noChecksum {length : Nat} (tag : UInt8) (h : Delivers [] source bs)
    (hle : length ≤ bs.length) (hlt : bs.length < length + 2) :
    readBody tag length source = (.error .noChecksum, []) := by
  obtain ⟨afterPayload, hpayload, h⟩ :=
    readPayload_complete tag length [] h (Nat.zero_le _) (by simpa using hle)
  simp only [List.length_nil, Nat.sub_zero, List.nil_append] at hpayload h
  rw [readBody, Reading.bind_ok hpayload]
  match htrailer : bs.drop length with
  | [] =>
      rw [htrailer] at h
      rw [h.eq_tail, Reading.bind_error (readByte_nil _)]
  | [high] =>
      rw [htrailer] at h
      obtain ⟨afterHigh, hhigh, h⟩ := readByte_cons h .noChecksum
      rw [Reading.bind_ok hhigh, h.eq_tail, Reading.bind_error (readByte_nil _)]
  | high :: low :: rest =>
      have hlen := congrArg List.length htrailer
      simp only [List.length_drop, List.length_cons] at hlen
      omega

theorem readContent_nil : readContent [] = (.error .noTag, []) := rfl

theorem readContent_singleton {tag : UInt8} (h : Delivers [] source [tag]) :
    readContent source = (.error .noLength, []) := by
  obtain ⟨afterTag, htag, h⟩ := readByte_cons h .noTag
  rw [readContent, Reading.bind_ok htag, h.eq_tail]
  rfl

theorem readContent_cons {tag length : UInt8} (h : Delivers tail source (tag :: length :: bs)) :
    ∃ left, readContent source =
        (if length.toNat > maxPayload then (.error (.oversized length.toNat), left)
          else readBody tag length.toNat left) ∧
      Delivers tail left bs := by
  obtain ⟨afterTag, htag, h⟩ := readByte_cons h .noTag
  obtain ⟨left, hlength, h⟩ := readByte_cons h .noLength
  refine ⟨left, ?_, h⟩
  rw [readContent, Reading.bind_ok htag, Reading.bind_ok hlength]
  split <;> rfl

theorem readFrame_of_marker {p : Nat} (h : Delivers tail source bs) (hp : FirstMarker bs p) :
    ∃ left, readFrame source = readContent left ∧ Delivers tail left (bs.drop (p + 2)) := by
  have hseen : FirstMarker (seen false ++ bs) p := hp
  obtain ⟨left, hsync, h⟩ := synchronize_of_seek h (seek_of_firstMarker hseen)
  exact ⟨left, by rw [readFrame, Reading.bind_ok hsync], h⟩

theorem readFrame_of_quiet (h : Delivers [] source bs) (hq : Quiet bs) :
    readFrame source = (.error .noMarker, []) := by
  have hseen : Quiet (seen false ++ bs) := hq
  rw [readFrame, Reading.bind_error (synchronize_of_seek_none h (seek_of_quiet hseen))]

end TelemetryRelay.Wire
