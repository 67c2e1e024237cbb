import Mathlib.Data.List.TakeWhile
import Mathlib.Tactic.SplitIfs
import TelemetryRelay.Text.Utf8

/-!
# Encoded text is well-formed

What is encoded decodes to itself: no sequence of it is replaced.
-/

namespace TelemetryRelay.Text.Utf8

/-! ## The bytes of a text -/

theorem toList_loop (bs : ByteArray) (i : Nat) (seen : List UInt8) :
    ByteArray.toList.loop bs i seen = seen.reverse ++ bs.data.toList.drop i := by
  fun_induction ByteArray.toList.loop bs i seen with
  | case1 i seen hlt ih =>
    have hi : i < bs.data.toList.length := by simpa using hlt
    rw [ih, List.drop_eq_getElem_cons hi]
    simp [ByteArray.get!, hlt]
  | case2 i seen hge =>
    rw [List.drop_eq_nil_of_le (by simpa using Nat.le_of_not_lt hge)]
    simp

theorem encode_eq_flatMap (s : String) : encode s = s.toList.flatMap String.utf8EncodeChar := by
  have hbytes : s.toByteArray = (s.toList.flatMap String.utf8EncodeChar).toByteArray := by
    rw [← String.utf8Encode_toList]
    rfl
  rw [encode, String.toUTF8_eq_toByteArray, hbytes, ByteArray.toList, toList_loop]
  simp

/-! ## One character -/

variable {first : UInt8} {tail rest : Bytes} {low high : UInt8}

theorem toNat_ofNat_of_lt {n : Nat} (h : n < 256) : (UInt8.ofNat n).toNat = n := by
  simp [Nat.mod_eq_of_lt h]

theorem lead_one (first : UInt8) (h : first.toNat < 0x80) : lead first = some (0, 0x80, 0xBF) := by
  simp only [lead, UInt8.lt_iff_toNat_lt, ← UInt8.toNat_inj, UInt8.reduceToNat]
  rw [if_pos h]

theorem lead_two (first : UInt8) (h : 0xC2 ≤ first.toNat) (h' : first.toNat < 0xE0) :
    lead first = some (1, 0x80, 0xBF) := by
  simp only [lead, UInt8.lt_iff_toNat_lt, ← UInt8.toNat_inj, UInt8.reduceToNat]
  rw [if_neg (by omega), if_neg (by omega), if_pos h']

/-- After `E0` a tail would be overlong below `A0`, after `ED` a surrogate above `9F`. -/
theorem lead_three (first : UInt8) (h : 0xE0 ≤ first.toNat) (h' : first.toNat < 0xF0) :
    lead first = some (2, if first.toNat = 0xE0 then 0xA0 else 0x80,
      if first.toNat = 0xED then 0x9F else 0xBF) := by
  simp only [lead, UInt8.lt_iff_toNat_lt, ← UInt8.toNat_inj, UInt8.reduceToNat]
  rw [if_neg (by omega), if_neg (by omega), if_neg (by omega)]
  by_cases hlow : first.toNat = 0xE0
  · simp [hlow]
  · by_cases hhigh : first.toNat = 0xED
    · simp [hhigh]
    · simp [hlow, hhigh, h']

/-- After `F0` a tail would be overlong below `90`, after `F4` beyond the last code point above
`8F`. -/
theorem lead_four (first : UInt8) (h : 0xF0 ≤ first.toNat) (h' : first.toNat < 0xF5) :
    lead first = some (3, if first.toNat = 0xF0 then 0x90 else 0x80,
      if first.toNat = 0xF4 then 0x8F else 0xBF) := by
  simp only [lead, UInt8.lt_iff_toNat_lt, ← UInt8.toNat_inj, UInt8.reduceToNat]
  rw [if_neg (by omega), if_neg (by omega), if_neg (by omega), if_neg (by omega), if_neg (by omega),
    if_neg (by omega)]
  by_cases hlow : first.toNat = 0xF0
  · simp [hlow]
  · by_cases hhigh : first.toNat = 0xF4
    · simp [hhigh]
    · have hbetween : first.toNat < 0xF4 := by omega
      simp [hlow, hhigh, hbetween]

/-- The tail byte with the last six bits of `n`. -/
def tailByte (n : Nat) : UInt8 := UInt8.ofNat (n % 64 + 0x80)

theorem toNat_tailByte (n : Nat) : (tailByte n).toNat = n % 64 + 0x80 :=
  toNat_ofNat_of_lt (by omega)

theorem isTail_tailByte (n : Nat) : isTail (tailByte n) = true := by
  simp only [isTail, UInt8.le_iff_toNat_le, toNat_tailByte, UInt8.reduceToNat, Bool.and_eq_true,
    decide_eq_true_eq]
  omega

/-- As many tail bytes as a lead byte announces, within bounds, are taken in full. -/
theorem sequence_append (tail : Bytes) (hlead : lead first = some (tail.length, low, high))
    (hbounds : ∀ b ∈ tail.head?, low.toNat ≤ b.toNat ∧ b.toNat ≤ high.toNat)
    (htail : ∀ b ∈ tail, isTail b = true) (rest : Bytes) :
    sequence first (tail ++ rest) = (some (Char.ofNat (codePoint first tail)), tail.length) := by
  have htaken : tails tail.length low high (tail ++ rest) = tail := by
    cases tail with
    | nil => rfl
    | cons b tail =>
      obtain ⟨hlow, hhigh⟩ := hbounds b rfl
      rw [List.length_cons, List.cons_append, tails, List.take_left,
        List.takeWhile_eq_self_iff.mpr fun b hb => htail b (.tail _ hb), if_pos]
      simpa [UInt8.le_iff_toNat_le] using ⟨hlow, hhigh⟩
  simp [sequence, hlead, htaken]

variable {v : Nat}

theorem sequence_one (h : v < 0x80) (hfirst : first.toNat = v) (rest : Bytes) :
    sequence first ([] ++ rest) = (some (Char.ofNat v), 0) := by
  have hpoint : codePoint first [] = v := by simp [codePoint, hfirst]
  have hseq := sequence_append [] (lead_one first (by omega)) (by simp) (by simp) rest
  rwa [hpoint] at hseq

theorem sequence_two (h : 0x80 ≤ v) (h' : v < 0x800) (hfirst : first.toNat = v / 64 + 0xC0)
    (rest : Bytes) : sequence first ([tailByte v] ++ rest) = (some (Char.ofNat v), 1) := by
  have hpoint : codePoint first [tailByte v] = v := by
    simp only [codePoint, List.length_singleton, List.foldl_cons, List.foldl_nil, hfirst,
      toNat_tailByte]
    omega
  have hseq := sequence_append [tailByte v]
    (lead_two first (by omega) (by omega)) ?_ ?_ rest
  · rwa [hpoint] at hseq
  · simp only [List.head?_cons, Option.mem_some_iff, forall_eq', toNat_tailByte, UInt8.reduceToNat]
    omega
  · simp [isTail_tailByte]

theorem sequence_three (h : 0x800 ≤ v) (h' : v < 0x10000) (hno : v < 0xD800 ∨ 0xDFFF < v)
    (hfirst : first.toNat = v / 4096 + 0xE0) (rest : Bytes) :
    sequence first ([tailByte (v / 64), tailByte v] ++ rest) = (some (Char.ofNat v), 2) := by
  have hpoint : codePoint first [tailByte (v / 64), tailByte v] = v := by
    simp only [codePoint, List.length_cons, List.length_nil, List.foldl_cons, List.foldl_nil,
      hfirst, toNat_tailByte]
    omega
  have hseq := sequence_append [tailByte (v / 64), tailByte v]
    (lead_three first (by omega) (by omega)) ?_ ?_ rest
  · rwa [hpoint] at hseq
  · simp only [List.head?_cons, Option.mem_some_iff, forall_eq', toNat_tailByte]
    split_ifs <;> simp only [UInt8.reduceToNat] <;> omega
  · simp [isTail_tailByte]

theorem sequence_four (h : 0x10000 ≤ v) (h' : v < 0x110000)
    (hfirst : first.toNat = v / 262144 + 0xF0) (rest : Bytes) :
    sequence first ([tailByte (v / 4096), tailByte (v / 64), tailByte v] ++ rest) =
      (some (Char.ofNat v), 3) := by
  have hpoint : codePoint first [tailByte (v / 4096), tailByte (v / 64), tailByte v] = v := by
    simp only [codePoint, List.length_cons, List.length_nil, List.foldl_cons, List.foldl_nil,
      hfirst, toNat_tailByte]
    omega
  have hseq := sequence_append [tailByte (v / 4096), tailByte (v / 64), tailByte v]
    (lead_four first (by omega) (by omega)) ?_ ?_ rest
  · rwa [hpoint] at hseq
  · simp only [List.head?_cons, Option.mem_some_iff, forall_eq', toNat_tailByte]
    split_ifs <;> simp only [UInt8.reduceToNat] <;> omega
  · simp [isTail_tailByte]

/-- An encoded character is read back, and no more than it is used up. -/
theorem sequence_encodeChar (c : Char) : ∃ first tail, String.utf8EncodeChar c = first :: tail ∧
    ∀ rest, sequence first (tail ++ rest) = (some c, tail.length) := by
  have hc : Char.ofNat c.val.toNat = c := Char.ofNat_toNat c
  have hvalid : c.val.toNat < 0xD800 ∨ 0xDFFF < c.val.toNat ∧ c.val.toNat < 0x110000 := c.valid
  unfold String.utf8EncodeChar
  generalize c.val.toNat = v at hc hvalid ⊢
  subst hc
  dsimp only
  split_ifs with hone htwo hthree
  · exact ⟨_, _, rfl, sequence_one (by omega) (toNat_ofNat_of_lt (by omega))⟩
  · refine ⟨_, _, rfl, sequence_two (by omega) (by omega) ?_⟩
    rw [toNat_ofNat_of_lt (by omega)]
    omega
  · refine ⟨_, _, rfl, sequence_three (by omega) (by omega) (by omega) ?_⟩
    rw [toNat_ofNat_of_lt (by omega)]
    omega
  · refine ⟨_, _, rfl, sequence_four (by omega) (by omega) ?_⟩
    rw [toNat_ofNat_of_lt (by omega)]
    omega

/-! ## A text -/

theorem scan_encodeChar (c : Char) (rest : Bytes) :
    scan (String.utf8EncodeChar c ++ rest) = some c :: scan rest := by
  obtain ⟨first, tail, hbytes, hsequence⟩ := sequence_encodeChar c
  rw [hbytes, List.cons_append, scan, hsequence]
  simp

theorem scan_encode (s : String) : scan (encode s) = s.toList.map some := by
  rw [encode_eq_flatMap]
  induction s.toList with
  | nil => simp [scan]
  | cons c cs ih => rw [List.flatMap_cons, scan_encodeChar, ih, List.map_cons]

theorem decodeLossy_encode (s : String) : decodeLossy (encode s) = s := by
  simp [decodeLossy, scan_encode, Function.comp_def]

end TelemetryRelay.Text.Utf8
