import TelemetryRelay.Proofs.Wire.Progress
import TelemetryRelay.Proofs.Wire.Stream

/-!
# One frame after the other

A reader that is fed a stretch of bytes as it comes in reads one frame after the
other from it.  `Reads` says which frames these are and where the reader stands
behind them; bytes that come in later do not change what has been read.
-/

namespace TelemetryRelay.Wire

open Source (Delivers)

namespace Progress

variable {p q : Progress} {b rest : Bytes} {result : Except FrameError Frame}

/-- A reader that has waited goes on where it was. -/
theorem feed_append_of_hungry (h : p.feed b = .hungry q) (more : Bytes) :
    p.feed (b ++ more) = q.feed more := by
  induction b generalizing p with
  | nil =>
      cases h
      rfl
  | cons x b ih =>
      rw [feed] at h
      split at h
      · rename_i next hnext
        rw [List.cons_append, feed, hnext]
        exact ih h
      · cases h

/-- What comes in behind a frame does not change it. -/
theorem feed_append_of_finished (h : p.feed b = .finished result rest) (more : Bytes) :
    p.feed (b ++ more) = .finished result (rest ++ more) := by
  induction b generalizing p with
  | nil => cases h
  | cons x b ih =>
      rw [feed] at h
      rw [List.cons_append, feed]
      split at h
      · exact ih h
      · cases h
        rfl

/-- A frame takes some bytes at least. -/
theorem length_of_finished (h : p.feed b = .finished result rest) : rest.length < b.length := by
  induction b generalizing p with
  | nil => cases h
  | cons x b ih =>
      rw [feed] at h
      split at h
      · exact Nat.lt_succ_of_lt (ih h)
      · cases h
        exact Nat.lt_succ_self _

end Progress

/-- The first frames that a stretch of bytes is read as, and the bytes behind them. -/
inductive Reads (b : Bytes) : List Frame → Bytes → Prop
  | nil : Reads b [] b
  | snoc {fs : List Frame} {bs rest : Bytes} {f : Frame} (before : Reads b fs bs)
      (next : Progress.start.feed bs = .finished (.ok f) rest) : Reads b (fs ++ [f]) rest

/-- No frame follows: the bytes are no frame, or they are at their end. -/
inductive Stops (ended : Prop) (bs : Bytes) : Prop
  | failed {e : FrameError} {rest : Bytes}
      (next : Progress.start.feed bs = .finished (.error e) rest) : Stops ended bs
  | cut {p : Progress} (closed : ended) (next : Progress.start.feed bs = .hungry p) : Stops ended bs

variable {b rest : Bytes} {fs : List Frame} {source : Source} {ended : Prop}

theorem Reads.append (h : Reads b fs rest) (more : Bytes) : Reads (b ++ more) fs (rest ++ more) := by
  induction h with
  | nil => exact .nil
  | snoc before next ih => exact .snoc ih (Progress.feed_append_of_finished next more)

/-- Before the last frame the others were read. -/
theorem Reads.init {f : Frame} (h : Reads b (fs ++ [f]) rest) : ∃ bs, Reads b fs bs := by
  generalize hall : fs ++ [f] = all at h
  cases h with
  | nil => simp at hall
  | snoc before next =>
      obtain ⟨rfl, -⟩ := List.append_inj' hall rfl
      exact ⟨_, before⟩

theorem Stops.append (h : Stops ended rest) {more : Bytes} (hmore : ended → more = []) :
    Stops ended (rest ++ more) := by
  cases h with
  | failed next => exact .failed (Progress.feed_append_of_finished next more)
  | cut hended next =>
      rw [hmore hended, List.append_nil]
      exact .cut hended next

theorem Stops.mono {ended' : Prop} (h : Stops ended rest) (himp : ended → ended') :
    Stops ended' rest := by
  cases h with
  | failed next => exact .failed next
  | cut closed next => exact .cut (himp closed) next

/-- What is read as it comes in is what a reader reads who has all of it at hand. -/
theorem Reads.readFrame (h : Reads b fs rest) (hsource : Delivers [] source b) :
    (∀ k (hk : k < fs.length), (readFrame (source.after k)).1 = .ok fs[k]) ∧
      Delivers [] (source.after fs.length) rest := by
  induction h with
  | nil =>
      refine ⟨?_, hsource⟩
      intro k hk
      cases hk
  | @snoc fs bs rest f before next ih =>
      obtain ⟨hread, hstands⟩ := ih
      have hnext := readFrame_eq_feed hstands
      rw [next] at hnext
      obtain ⟨left, hlast, hleft⟩ := hnext
      refine ⟨fun k hk => ?_, ?_⟩
      · rcases Nat.lt_or_ge k fs.length with hbefore | hlength
        · rw [List.getElem_append_left hbefore]
          exact hread k hbefore
        · obtain rfl : k = fs.length := by
            rw [List.length_append, List.length_singleton] at hk
            omega
          rw [hlast, List.getElem_concat_length rfl]
      · rw [List.length_append, List.length_singleton, Source.after, hlast]
        exact hleft

/-- Where no frame follows the next read fails. -/
theorem Stops.readFrame (h : Stops ended rest) (hsource : Delivers [] source rest) :
    ∃ e, (readFrame source).1 = .error e := by
  have hread := readFrame_eq_feed hsource
  cases h with
  | @failed e rest' next =>
      rw [next] at hread
      obtain ⟨left, hread, -⟩ := hread
      exact ⟨e, by rw [hread]⟩
  | @cut p hended next =>
      rw [next] at hread
      exact ⟨p.cutOff, by rw [hread]⟩

end TelemetryRelay.Wire
