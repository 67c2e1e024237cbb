import TelemetryRelay.Proofs.Wire.Grammar

/-!
# Reading on is reading

A reader that is fed a stretch of bytes, one at a time and with waits in between,
comes to what a reader makes of them who has all of them at hand: `feed` agrees
with `parse`, and so with `readFrame`.
-/

namespace TelemetryRelay.Wire

open Source (Delivers)

namespace Progress

variable {tag : UInt8} {length : Nat} {b : Bytes}

/-- What a stretch of `available` bytes is read as if the stream ends behind it,
and how many of them are taken. -/
def Fed.outcome (available : Nat) : Fed → Except FrameError Frame × Nat
  | .hungry next => (.error next.cutOff, available)
  | .finished result rest => (result, available - rest.length)

/-- Bytes that are left over stand at the end. -/
theorem suffix_of_feed {p : Progress} {result : Except FrameError Frame} {rest : Bytes}
    (h : p.feed b = .finished result rest) : rest <:+ b := by
  induction b generalizing p with
  | nil => cases h
  | cons x b ih =>
      rw [feed] at h
      split at h
      · exact (ih h).trans (List.suffix_cons x b)
      · cases h
        exact List.suffix_cons x _

theorem outcome_of_suffix (p : Progress) (skipped : Nat) (b : Bytes) :
    (p.feed b).outcome (skipped + b.length) =
      (((p.feed b).outcome b.length).1, skipped + ((p.feed b).outcome b.length).2) := by
  cases h : p.feed b with
  | hungry next => rfl
  | finished result rest =>
      have hle := (suffix_of_feed h).length_le
      simp only [Fed.outcome, Prod.mk.injEq, true_and]
      omega

/-! ## The parts of a frame -/

theorem feed_seeking_cons (half : Bool) (x : UInt8) :
    (seeking half).feed (x :: b) =
      if x = markerByte then if half then atTag.feed b else (seeking true).feed b
      else (seeking false).feed b := by
  by_cases hx : x = markerByte
  · subst hx
    cases half <;> rfl
  · have hne : (x == markerByte) = false := beq_false_of_ne hx
    cases half <;> simp [feed, step, hx, hne]

theorem feed_of_seek {half : Bool} {rest : Bytes} (hseek : seek half b = some rest) :
    (seeking half).feed b = atTag.feed rest := by
  induction b generalizing half with
  | nil => cases hseek
  | cons x b ih =>
      rw [feed_seeking_cons]
      rw [seek] at hseek
      by_cases hx : x = markerByte
      · rw [if_pos hx] at hseek ⊢
        cases half with
        | false => exact ih hseek
        | true =>
            cases hseek
            rfl
      · rw [if_neg hx] at hseek ⊢
        exact ih hseek

theorem feed_of_seek_none {half : Bool} (hseek : seek half b = none) :
    ∃ half', (seeking half).feed b = .hungry (.seeking half') := by
  induction b generalizing half with
  | nil => exact ⟨half, rfl⟩
  | cons x b ih =>
      rw [feed_seeking_cons]
      rw [seek] at hseek
      by_cases hx : x = markerByte
      · rw [if_pos hx] at hseek ⊢
        cases half with
        | false => exact ih hseek
        | true => cases hseek
      · rw [if_neg hx] at hseek ⊢
        exact ih hseek

theorem feed_inPayload_short {received : Bytes} (h : received.length + b.length < length) :
    (inPayload tag length received).feed b = .hungry (.inPayload tag length (received ++ b)) := by
  induction b generalizing received with
  | nil => simp [feed]
  | cons x b ih =>
      rw [List.length_cons] at h
      have hlen : (received ++ [x]).length = received.length + 1 := by simp
      have hnext : (inPayload tag length received).feed (x :: b) =
          (inPayload tag length (received ++ [x])).feed b := by
        simp only [feed, step]
        rw [if_pos (by omega)]
      rw [hnext, ih (by omega), List.append_assoc]
      rfl

theorem feed_inPayload_complete {received more rest : Bytes} (hmissing : more ≠ [])
    (h : received.length + more.length = length) :
    (inPayload tag length received).feed (more ++ rest) =
      (atChecksum tag (received ++ more)).feed rest := by
  induction more generalizing received with
  | nil => exact absurd rfl hmissing
  | cons x more ih =>
      rw [List.length_cons] at h
      have hlen : (received ++ [x]).length = received.length + 1 := by simp
      cases more with
      | nil =>
          simp only [List.length_nil] at h
          simp only [List.cons_append, List.nil_append, feed, step]
          rw [if_neg (by omega)]
      | cons y more =>
          rw [List.length_cons] at h
          have hnext : (inPayload tag length received).feed (x :: y :: more ++ rest) =
              (inPayload tag length (received ++ [x])).feed (y :: more ++ rest) := by
            simp only [List.cons_append, feed, step]
            rw [if_pos (by omega)]
          rw [hnext, ih (by simp) (by rw [hlen, List.length_cons]; omega), List.append_assoc]
          rfl

/-- Where a reader stands behind the length. -/
def bodyStart (tag : UInt8) (length : Nat) : Progress :=
  if length = 0 then .atChecksum tag [] else .inPayload tag length []

theorem feed_bodyStart_short (h : b.length < length) :
    (bodyStart tag length).feed b = .hungry (.inPayload tag length b) := by
  rw [bodyStart, if_neg (by omega), feed_inPayload_short (by simpa using h)]
  rfl

theorem feed_bodyStart_complete (tag : UInt8) (payload rest : Bytes) :
    (bodyStart tag payload.length).feed (payload ++ rest) = (atChecksum tag payload).feed rest := by
  cases payload with
  | nil => rfl
  | cons x payload =>
      rw [bodyStart, if_neg (by simp), feed_inPayload_complete (by simp) (by simp)]
      rfl

theorem feed_atLength (b : Bytes) {size : UInt8} :
    (atLength tag).feed (size :: b) =
      if maxPayload < size.toNat then .finished (.error (.oversized size.toNat)) b
      else (bodyStart tag size.toNat).feed b := by
  simp only [feed, step, bodyStart]
  by_cases hlarge : maxPayload < size.toNat
  · simp [hlarge]
  · by_cases hzero : size.toNat = 0
    · simp [hzero]
    · simp [hlarge, hzero]

/-! ## Whole frames -/

theorem feed_bodyStart (hfits : length ≤ maxPayload) (body : Bytes) :
    ((bodyStart tag length).feed body).outcome body.length = parseBody tag length body := by
  simp only [parseBody, dif_neg (Nat.not_lt_of_le hfits)]
  by_cases hshort : body.length < length
  · rw [feed_bodyStart_short hshort, if_pos hshort]
    rfl
  have hpayload : (body.take length).length = length := by
    rw [List.length_take]
    omega
  have hfeed : (bodyStart tag length).feed body =
      (atChecksum tag (body.take length)).feed (body.drop length) := by
    have hcomplete := feed_bodyStart_complete tag (body.take length) (body.drop length)
    rwa [hpayload, List.take_append_drop] at hcomplete
  rw [hfeed, if_neg hshort]
  have hlength := List.length_drop (i := length) (l := body)
  rcases htrailer : body.drop length with _ | ⟨high, _ | ⟨low, rest⟩⟩
  · rw [htrailer, List.length_nil] at hlength
    rw [if_pos (by omega)]
    rfl
  · rw [htrailer, List.length_singleton] at hlength
    rw [if_pos (by omega)]
    rfl
  · rw [htrailer, List.length_cons, List.length_cons] at hlength
    have hlarge : (body.take length).length ≤ maxPayload := by omega
    rw [if_neg (by omega)]
    simp only [feed, step, Fed.outcome, verify_eq hlarge, List.take_succ_cons, List.take_zero]
    refine Prod.ext rfl ?_
    show body.length - rest.length = length + 2
    omega

/-- **Feeding is parsing.** -/
theorem feed_start (b : Bytes) : (start.feed b).outcome b.length = parse b := by
  cases hmarker : marker? b with
  | none =>
      have hquiet : Quiet (seen false ++ b) := marker?_eq_none.mp hmarker
      obtain ⟨half, hfeed⟩ := feed_of_seek_none (seek_of_quiet hquiet)
      rw [start, hfeed, parse, hmarker]
      rfl
  | some p =>
      have hfirst : FirstMarker (seen false ++ b) p := marker?_eq_some.mp hmarker
      have hfeed : start.feed b = atTag.feed (b.drop (p + 2)) :=
        feed_of_seek (seek_of_firstMarker hfirst)
      rw [hfeed]
      rcases hr : b.drop (p + 2) with _ | ⟨tag, _ | ⟨size, body⟩⟩
      · simp [parse, hmarker, hr, feed, Fed.outcome, cutOff]
      · simp [parse, hmarker, hr, feed, step, Fed.outcome, cutOff]
      · have hlength : b.length = p + 4 + body.length := by
          have hdrop := congrArg List.length hr
          simp only [List.length_drop, List.length_cons] at hdrop
          omega
        have hnext : atTag.feed (tag :: size :: body) = (atLength tag).feed (size :: body) := rfl
        simp only [parse, hmarker, hr]
        rw [hnext, feed_atLength, hlength]
        by_cases hlarge : maxPayload < size.toNat
        · rw [if_pos hlarge]
          simp [Fed.outcome, parseBody, hlarge]
        · rw [if_neg hlarge, outcome_of_suffix, feed_bodyStart (Nat.le_of_not_lt hlarge)]

end Progress

/-- **Reading on is reading.** Whatever a stretch of bytes is fed to is what is read
of it: the same frame or failure with the same bytes left over, and where the
bytes do not suffice, the failure of a stream that ends there. -/
theorem readFrame_eq_feed {source : Source} {b : Bytes} (h : Delivers [] source b) :
    match Progress.start.feed b with
    | .hungry next => readFrame source = (.error next.cutOff, [])
    | .finished result rest =>
      ∃ left, readFrame source = (result, left) ∧ Delivers [] left rest := by
  obtain ⟨left, hread, hleft⟩ := readFrame_eq_parse h
  have hparse := Progress.feed_start b
  cases hfeed : Progress.start.feed b with
  | hungry next =>
      rw [hfeed] at hparse
      rw [← hparse, Progress.Fed.outcome, List.drop_length] at hleft
      rw [← hparse, hleft.eq_tail] at hread
      exact hread
  | finished result rest =>
      obtain ⟨taken, rfl⟩ := Progress.suffix_of_feed hfeed
      rw [hfeed] at hparse
      have htaken : (parse (taken ++ rest)).2 = taken.length := by
        rw [← hparse, Progress.Fed.outcome, List.length_append]
        omega
      rw [htaken, List.drop_left] at hleft
      rw [← hparse] at hread
      exact ⟨left, hread, hleft⟩

end TelemetryRelay.Wire
