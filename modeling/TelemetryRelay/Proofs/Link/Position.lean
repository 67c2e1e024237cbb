import TelemetryRelay.Proofs.Link.Bound
import TelemetryRelay.Proofs.Wire.Sequence

/-!
# How far a call has come in a stream

What a link takes from its connection is one stretch of bytes, and a call that receives
reads on in it from where the call before it has stopped.  `Position` ties the phase of
the call to the bytes of the stream that it has used up, and every step of the call keeps
it.  The steps of a call are few: each of them costs some of the bytes, or brings the
call nearer to its end.
-/

namespace TelemetryRelay.Link

open Wire

/-- Where a call stands in the stream `b` after the frames `fs` were read off it, if the
bytes `left` are still to be had and nothing comes behind them once `ended`. -/
inductive Position (b : Bytes) (fs : List Frame) (ended : Prop) : Phase → Bytes → Prop
  | before {phase : Phase} {left : Bytes}
      (early : phase = .ready ∨ ∃ g seen, phase = .entering g seen) (reads : Reads b fs left) :
      Position b fs ended phase left
  | inside {g seen : Nat} {progress : Progress} {used left : Bytes}
      (reads : Reads b fs (used ++ left)) (fed : Progress.start.feed used = .hungry progress) :
      Position b fs ended (.working g seen (.reading progress)) left
  | got {f : Frame} {left : Bytes} (reads : Reads b (fs ++ [f]) left) :
      Position b fs ended (.done (.received f)) left
  | stopped {phase : Phase} {rest left : Bytes}
      (late : (∃ seen cause, phase = .failed seen cause) ∨ ∃ e, phase = .done (.failed e))
      (reads : Reads b fs rest) (stops : Stops ended rest) : Position b fs ended phase left

/-- An event with which a connection answers a reader. -/
def Event.hears : Event → Bool
  | .filled .. | .ended _ | .broke .. => true
  | _ => false

/-- A connection that has not failed answers: what is left of its bytes. -/
inductive Answers (inbound : Bytes) (ended : Prop) : Event → Bytes → Prop
  | filled {id : CallId} {bytes rest : Bytes} (split : inbound = bytes ++ rest) :
      Answers inbound ended (.filled id bytes) rest
  | ends {id : CallId} (drained : inbound = []) (closed : ended) :
      Answers inbound ended (.ended id) inbound
  | aside {e : Event} (deaf : e.hears = false) : Answers inbound ended e inbound

/-- How many steps a call is from its end at most, if it gets no more bytes; a call that
has received a frame stands before all that may follow. -/
def Phase.weight : Phase → Nat
  | .done (.received _) => 13
  | .ready => 8
  | .entering .. => 7
  | .working .. => 6
  | .failed .. => 5
  | _ => 4

/-- What is still to be done: some bytes have been taken from the connection, the others not. -/
def remaining (steps : Nat) (unread inbound : Bytes) : Nat :=
  steps + 8 * unread.length + 9 * inbound.length

theorem remaining_append (steps : Nat) (unread inbound more : Bytes) :
    remaining steps unread (inbound ++ more) = remaining steps unread inbound + 9 * more.length := by
  unfold remaining
  rw [List.length_append, Nat.mul_add]
  omega

variable {b left more unread unread' inbound inbound' : Bytes} {fs : List Frame}
  {ended ended' : Prop} {phase phase' : Phase} {g : Nat} {id : CallId} {e : Event}

/-- More bytes come in, or the stream comes to its end. -/
theorem Position.append (h : Position b fs ended phase left) (hended : ended → ended')
    (hmore : ended → more = []) : Position (b ++ more) fs ended' phase (left ++ more) := by
  cases h with
  | before early reads => exact .before early (reads.append more)
  | inside reads fed =>
      refine .inside ?_ fed
      rw [← List.append_assoc]
      exact reads.append more
  | got reads => exact .got (reads.append more)
  | stopped late reads stops =>
      exact .stopped late (reads.append more) ((stops.append hmore).mono hended)

theorem Position.of_early (h : Position b fs ended phase left)
    (early : phase = .ready ∨ ∃ g seen, phase = .entering g seen) : Reads b fs left := by
  cases h with
  | before _ reads => exact reads
  | inside | got => rcases early with h | ⟨_, _, h⟩ <;> cases h
  | stopped late =>
      rcases early with rfl | ⟨_, _, rfl⟩ <;> rcases late with ⟨_, _, h⟩ | ⟨_, h⟩ <;> cases h

theorem Position.of_working {seen : Nat} {progress : Progress}
    (h : Position b fs ended (.working g seen (.reading progress)) left) :
    ∃ used, Reads b fs (used ++ left) ∧ Progress.start.feed used = .hungry progress := by
  cases h with
  | inside reads fed => exact ⟨_, reads, fed⟩
  | before early => rcases early with h | ⟨_, _, h⟩ <;> cases h
  | stopped late => rcases late with ⟨_, _, h⟩ | ⟨_, h⟩ <;> cases h

theorem Position.of_stopped
    (h : Position b fs ended phase left)
    (late : (∃ seen cause, phase = .failed seen cause) ∨ ∃ e, phase = .done (.failed e)) :
    ∃ rest, Reads b fs rest ∧ Stops ended rest := by
  cases h with
  | stopped _ reads stops => exact ⟨_, reads, stops⟩
  | before early =>
      rcases early with rfl | ⟨_, _, rfl⟩ <;> rcases late with ⟨_, _, h⟩ | ⟨_, h⟩ <;> cases h
  | inside | got => rcases late with ⟨_, _, h⟩ | ⟨_, h⟩ <;> cases h

theorem Position.of_got {f : Frame} (h : Position b fs ended (.done (.received f)) left) :
    Reads b (fs ++ [f]) left := by
  cases h with
  | got reads => exact reads
  | before early => rcases early with h | ⟨_, _, h⟩ <;> cases h
  | stopped late => rcases late with ⟨_, _, h⟩ | ⟨_, h⟩ <;> cases h

theorem Position.reads (h : Position b fs ended phase left) : ∃ rest, Reads b fs rest := by
  cases h with
  | before early reads => exact ⟨_, reads⟩
  | inside reads fed => exact ⟨_, reads⟩
  | got reads => exact reads.init
  | stopped late reads stops => exact ⟨_, reads⟩

/-- **A call reads on in the stream.** -/
theorem Position.advance (h : Position b fs ended phase (unread ++ inbound))
    (hadvance : Advance g id phase unread e phase' unread')
    (hanswers : Answers inbound ended e inbound') :
    Position b fs ended phase' (unread' ++ inbound') := by
  cases hadvance with
  | look =>
      cases hanswers
      exact .before (.inr ⟨_, _, rfl⟩) (h.of_early (.inl rfl))
  | ask =>
      cases hanswers
      have hreads : Reads b fs ([] ++ (unread ++ inbound)) := h.of_early (.inr ⟨_, _, rfl⟩)
      exact .inside hreads rfl
  | filled =>
      cases hanswers with
      | aside deaf => cases deaf
      | filled split =>
          obtain ⟨used, reads, fed⟩ := h.of_working
          rw [List.nil_append, split] at reads
          exact .inside reads fed
  | more some feed =>
      cases hanswers
      obtain ⟨used, reads, fed⟩ := h.of_working
      rw [← List.append_assoc] at reads
      exact .inside reads ((Progress.feed_append_of_hungry fed unread).trans feed)
  | frame feed =>
      cases hanswers
      obtain ⟨used, reads, fed⟩ := h.of_working
      have hfinished := (Progress.feed_append_of_hungry fed (unread ++ inbound)).trans
        (Progress.feed_append_of_finished feed inbound)
      exact .got (.snoc reads hfinished)
  | error feed =>
      cases hanswers
      obtain ⟨used, reads, fed⟩ := h.of_working
      have hfinished := (Progress.feed_append_of_hungry fed (unread ++ inbound)).trans
        (Progress.feed_append_of_finished feed inbound)
      exact .stopped (.inl ⟨_, _, rfl⟩) reads (.failed hfinished)
  | ended =>
      cases hanswers with
      | aside deaf => cases deaf
      | ends drained closed =>
          obtain ⟨used, reads, fed⟩ := h.of_working
          rw [drained, List.append_nil, List.append_nil] at reads
          exact .stopped (.inl ⟨_, _, rfl⟩) reads (.cut closed fed)
  | broke =>
      cases hanswers with
      | aside deaf => cases deaf
  | judge =>
      cases hanswers
      obtain ⟨rest, reads, stops⟩ := h.of_stopped (.inl ⟨_, _, rfl⟩)
      exact .stopped (.inr ⟨_, rfl⟩) reads stops

/-- **Every step of a call leaves less to be done.** -/
theorem Advance.remaining (hadvance : Advance g id phase unread e phase' unread')
    (hanswers : Answers inbound ended e inbound') :
    remaining phase'.weight unread' inbound' < remaining phase.weight unread inbound := by
  unfold Link.remaining
  cases hadvance with
  | look | ask | judge =>
      cases hanswers
      simp only [Phase.weight]
      omega
  | filled some =>
      cases hanswers with
      | aside deaf => cases deaf
      | filled split =>
          have hpos := List.length_pos_iff.mpr some
          rw [split, List.length_append, List.length_nil]
          omega
  | more some feed =>
      cases hanswers
      have hpos := List.length_pos_iff.mpr some
      simp only [Phase.weight, List.length_nil]
      omega
  | frame feed =>
      cases hanswers
      have hless := Progress.length_of_finished feed
      simp only [Phase.weight]
      omega
  | error feed =>
      cases hanswers
      have hless := Progress.length_of_finished feed
      simp only [Phase.weight]
      omega
  | ended =>
      cases hanswers <;>
      · simp only [Phase.weight]
        omega
  | broke =>
      cases hanswers
      simp only [Phase.weight]
      omega

end TelemetryRelay.Link
