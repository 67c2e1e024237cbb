import TelemetryRelay.Proofs.Bytes
import TelemetryRelay.Wire.Frame

/-!
# The checksum as a number

The running 16-bit sum is the sum of signed tag, length and payload bytes modulo 2¹⁶.  Over
payloads of one length that fit into a frame these sums lie too close together to wrap around
onto each other, so there the checksum tells as much as the sum itself.
-/

namespace TelemetryRelay

namespace Bytes

theorem sum_append (bs more : Bytes) : sum (bs ++ more) = sum bs + sum more := by
  induction bs with
  | nil => exact (Nat.zero_add _).symm
  | cons b bs ih => rw [List.cons_append, sum, sum, ih, Nat.add_assoc]

theorem sum_perm {bs shuffled : Bytes} (h : shuffled.Perm bs) : sum shuffled = sum bs := by
  induction h with
  | nil => rfl
  | cons b _ ih => rw [sum, sum, ih]
  | swap a b bs =>
      simp only [sum]
      omega
  | trans _ _ ih ih' => exact ih.trans ih'

theorem sum_le (bs : Bytes) : sum bs ≤ 255 * bs.length := by
  induction bs with
  | nil => exact Nat.le_refl _
  | cons b bs ih =>
      have hb := b.toNat_lt
      rw [sum, List.length_cons]
      omega

/-- Another byte in one place. -/
theorem sum_set {bs : Bytes} {k : Nat} (hk : k < bs.length) (b : UInt8) :
    sum (bs.set k b) + bs[k].toNat = sum bs + b.toNat := by
  induction bs generalizing k with
  | nil => cases hk
  | cons a bs ih =>
      cases k with
      | zero =>
          simp only [List.set_cons_zero, List.getElem_cons_zero, sum]
          omega
      | succ k =>
          have hrest := ih (Nat.lt_of_succ_lt_succ hk)
          simp only [List.set_cons_succ, List.getElem_cons_succ, sum]
          omega

end Bytes

namespace Wire

/-- What tag and payload add up to: the tag as a signed byte, the payload bytes as unsigned ones. -/
def contentSum (tag : UInt8) (payload : Bytes) : Int := tag.toInt8.toInt + Bytes.sum payload

variable {tag tag' : UInt8} {payload payload' : Bytes}

theorem toNat_signedTag (tag : UInt8) :
    ((signedTag tag).toNat : Int) = tag.toInt8.toInt % 65536 := by
  rw [← Int8.toInt_toInt16]
  show (tag.toInt8.toInt16.toBitVec.toNat : Int) = tag.toInt8.toInt16.toBitVec.toInt % 65536
  rw [BitVec.toInt_eq_toNat_cond]
  have hlt := tag.toInt8.toInt16.toBitVec.isLt
  split <;> omega

theorem toNat_foldl_add (payload : Bytes) (w : UInt16) :
    (payload.foldl (fun sum b => sum + b.toUInt16) w).toNat =
      (w.toNat + Bytes.sum payload) % 65536 := by
  induction payload generalizing w with
  | nil => exact (Nat.mod_eq_of_lt w.toNat_lt).symm
  | cons b payload ih =>
      rw [List.foldl_cons, ih, UInt16.toNat_add, UInt8.toNat_toUInt16, Bytes.sum]
      omega

/-- **The checksum is the sum modulo 2¹⁶**, whatever the length of the payload. -/
theorem toNat_checksum (tag : UInt8) (payload : Bytes) :
    ((checksum tag payload).toNat : Int) = (contentSum tag payload + payload.length) % 65536 := by
  have htag := toNat_signedTag tag
  rw [checksum, toNat_foldl_add, UInt16.toNat_add, UInt16.toNat_ofNat', contentSum]
  omega

theorem contentSum_bounds (tag : UInt8) (payload : Bytes) :
    -128 ≤ contentSum tag payload ∧ contentSum tag payload ≤ 127 + 255 * payload.length := by
  have hlow := tag.toInt8.le_toInt
  have hhigh := tag.toInt8.toInt_lt
  have hsum := Bytes.sum_le payload
  unfold contentSum
  omega

/-- No difference of sums that fit into a frame is lost by wrapping around. -/
theorem checksum_inj (hlength : payload'.length = payload.length)
    (hfits : payload.length ≤ maxPayload) :
    checksum tag' payload' = checksum tag payload ↔
      contentSum tag' payload' = contentSum tag payload := by
  have hsum := toNat_checksum tag payload
  have hsum' := toNat_checksum tag' payload'
  have hbounds := contentSum_bounds tag payload
  have hbounds' := contentSum_bounds tag' payload'
  unfold maxPayload at hfits
  rw [← UInt16.toNat_inj]
  omega

/-- Another tag alone, or another byte of the payload alone, changes the sum. -/
theorem contentSum_tag : contentSum tag' payload = contentSum tag payload ↔ tag' = tag := by
  have hinj : tag'.toInt8 = tag.toInt8 ↔ tag' = tag :=
    ⟨fun h => congrArg Int8.toUInt8 h, fun h => congrArg UInt8.toInt8 h⟩
  rw [← hinj, ← Int8.toInt_inj, contentSum, contentSum]
  omega

theorem contentSum_set {k : Nat} {b : UInt8} (hk : k < payload.length) :
    contentSum tag (payload.set k b) = contentSum tag payload ↔ b = payload[k] := by
  have hset := Bytes.sum_set hk b
  rw [← UInt8.toNat_inj, contentSum, contentSum]
  omega

/-! ## Payloads of any length -/

/-- The order of the payload bytes does not count. -/
theorem checksum_perm (tag : UInt8) {shuffled : Bytes} (h : shuffled.Perm payload) :
    checksum tag shuffled = checksum tag payload := by
  have hsum := toNat_checksum tag shuffled
  rw [contentSum, Bytes.sum_perm h, h.length_eq] at hsum
  rw [← UInt16.toNat_inj, ← Int.ofNat_inj, hsum, toNat_checksum, contentSum]

/-- Bytes behind the payload add their number and their sum. -/
theorem toNat_checksum_append (tag : UInt8) (payload more : Bytes) :
    (checksum tag (payload ++ more)).toNat =
      ((checksum tag payload).toNat + more.length + Bytes.sum more) % 65536 := by
  have hall := toNat_checksum tag (payload ++ more)
  have hfront := toNat_checksum tag payload
  rw [contentSum, Bytes.sum_append, List.length_append] at hall
  rw [contentSum] at hfront
  omega

/-- A 16-bit number in two bytes, the high one first, and put together again. -/
theorem exists_high_low (w : UInt16) :
    ∃ high low, Bytes.ofNat 2 w.toNat = [high, low] ∧ high.toNat = w.toNat / 256 ∧
      low.toNat = w.toNat % 256 ∧ UInt16.ofNat (Bytes.toNat [high, low]) = w := by
  have hlt := w.toNat_lt
  refine ⟨UInt8.ofNat (w.toNat / 256 % 256), UInt8.ofNat (w.toNat % 256), rfl, ?_, ?_, ?_⟩
  · rw [UInt8.toNat_ofNat']
    omega
  · rw [UInt8.toNat_ofNat']
    omega
  · have hjoined : Bytes.toNat (Bytes.ofNat 2 w.toNat) = w.toNat := by
      rw [Bytes.toNat_ofNat]
      exact Nat.mod_eq_of_lt hlt
    show UInt16.ofNat (Bytes.toNat (Bytes.ofNat 2 w.toNat)) = w
    rw [hjoined, UInt16.ofNat_toNat]

/-- **What the checksum adds up.**  For a payload of any length it is the tag as a signed byte,
the length and the payload bytes modulo 2¹⁶: so it does not see their order, takes in further
bytes by their number and sum, and is what its two bytes on the wire, the high one first, spell. -/
theorem checksum_arithmetic (tag : UInt8) (payload : Bytes) :
    let sum := checksum tag payload
    (sum.toNat : Int) = (tag.toInt8.toInt + payload.length + Bytes.sum payload) % 65536 ∧
    (∀ shuffled, shuffled.Perm payload → checksum tag shuffled = sum) ∧
    (∀ more, (checksum tag (payload ++ more)).toNat =
      (sum.toNat + more.length + Bytes.sum more) % 65536) ∧
    ∃ high low, Bytes.ofNat 2 sum.toNat = [high, low] ∧ high.toNat = sum.toNat / 256 ∧
      low.toNat = sum.toNat % 256 ∧ UInt16.ofNat (Bytes.toNat [high, low]) = sum := by
  intro sum
  have hsum : (sum.toNat : Int) =
      (tag.toInt8.toInt + payload.length + Bytes.sum payload) % 65536 := by
    rw [toNat_checksum, contentSum, Int.add_right_comm]
  exact ⟨hsum, fun _ hperm => checksum_perm tag hperm, toNat_checksum_append tag payload,
    exists_high_low sum⟩

/-- A negative tag against a sum that does not make up for it, in either order of the bytes. -/
theorem checksum_arithmetic_negative :
    ([2, 1] : Bytes).Perm [1, 2] ∧ checksum 0x80 [2, 1] = checksum 0x80 [1, 2] ∧
    (checksum 0x80 [1, 2]).toNat = 65413 :=
  have hperm : ([2, 1] : Bytes).Perm [1, 2] := .swap ..
  ⟨hperm, (checksum_arithmetic 0x80 [1, 2]).2.1 _ hperm, by decide⟩

end Wire

end TelemetryRelay
