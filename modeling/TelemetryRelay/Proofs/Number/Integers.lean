import Mathlib
import TelemetryRelay.Number.Binary64

/-!
# Integers in double precision

A double has a significand of 53 bits, so it holds every integer of that size, and sums and
products of such integers are exact as long as they are of that size themselves.  An integer has
one form as an unpacked double: its significand is moved up until it takes all 53 bits.  An
operation comes to that form again without a bit to round off.
-/

namespace TelemetryRelay.Double

open Float.Model Float.Model.UnpackedFloat

variable {s : Sign} {k i : Nat} {a b n : Int}

/-! ## Significands of full width -/

/-- By how many places the significand of `k` is moved up to take all 53 bits. -/
def spare (k : Nat) : Nat := 52 - k.log2

theorem log2_add_spare (hpos : 0 < k) (hlt : k < 2 ^ 53) : k.log2 + spare k = 52 :=
  Nat.add_sub_cancel' (Nat.le_of_lt_succ ((Nat.log2_lt (Nat.ne_of_gt hpos)).mpr hlt))

theorem significand_width (hpos : 0 < k) (hlt : k < 2 ^ 53) :
    2 ^ 52 ≤ k * 2 ^ spare k ∧ k * 2 ^ spare k < 2 ^ 53 := by
  have hsplit := log2_add_spare hpos hlt
  constructor
  · calc 2 ^ 52 = 2 ^ k.log2 * 2 ^ spare k := by rw [← Nat.pow_add, hsplit]
      _ ≤ k * 2 ^ spare k := Nat.mul_le_mul_right _ (Nat.log2_self_le (Nat.ne_of_gt hpos))
  · calc k * 2 ^ spare k < 2 ^ (k.log2 + 1) * 2 ^ spare k :=
          Nat.mul_lt_mul_of_pos_right Nat.lt_log2_self (Nat.two_pow_pos _)
      _ = 2 ^ 53 := by rw [← Nat.pow_add, Nat.add_right_comm, hsplit]

theorem log2_mul_two_pow (hpos : 0 < k) (i : Nat) : (k * 2 ^ i).log2 = k.log2 + i := by
  induction i with
  | zero => rw [Nat.pow_zero, Nat.mul_one, Nat.add_zero]
  | succ i ih =>
      have hne : k * 2 ^ i ≠ 0 := Nat.ne_of_gt (Nat.mul_pos hpos (Nat.two_pow_pos i))
      rw [Nat.pow_succ, ← Nat.mul_assoc, Nat.mul_comm _ 2, Nat.log2_two_mul hne, ih,
        Nat.add_assoc]

/-! ## Rounding where there is nothing to round -/

/-- Empty places are dropped without a trace in the round and sticky bits. -/
theorem shiftRight_empty (k t : Nat) :
    ExtendedMantissa.mk (k * 2 ^ t) false false >>> t = ⟨k, false, false⟩ := by
  show Nat.repeat ExtendedMantissa.shiftRightOne t _ = _
  induction t generalizing k with
  | zero => simp [Nat.repeat]
  | succ t ih =>
      rw [Nat.repeat, Nat.pow_succ', ← Nat.mul_assoc, ih (k * 2)]
      simp [ExtendedMantissa.shiftRightOne]

theorem targetExponent_whole (hpos : 0 < k) (hlt : k < 2 ^ 53) (i : Nat) :
    Format.binary64.targetExponent (totalExponent (k * 2 ^ i) (-i)) = -(spare k : Int) := by
  have hsplit := log2_add_spare hpos hlt
  have hbits : Format.binary64.mantissaBits = 53 := rfl
  have hmin : Format.binary64.minExponent = -1074 := rfl
  rw [Format.targetExponent, totalExponent, log2_mul_two_pow hpos, hbits, hmin]
  omega

theorem shiftToTargetExponent_whole (hpos : 0 < k) (hlt : k < 2 ^ 53) (hi : spare k ≤ i) :
    shiftToTargetExponent .binary64 (k * 2 ^ i) (-i) .exact =
      (⟨k * 2 ^ spare k, false, false⟩, -(spare k : Int)) := by
  have hplaces : (-(spare k : Int) - -(i : Int)).toNat = i - spare k := by omega
  have hwidth : k * 2 ^ i = k * 2 ^ spare k * 2 ^ (i - spare k) := by
    rw [Nat.mul_assoc, ← Nat.pow_add, Nat.add_sub_cancel' hi]
  rw [shiftToTargetExponent, targetExponent_whole hpos hlt, shiftToExponent, hplaces]
  refine Prod.ext ?_ (by show -(i : Int) + (i - spare k : Nat) = _; omega)
  show ExtendedMantissa.mk (k * 2 ^ i) false false >>> (i - spare k) = _
  rw [hwidth, shiftRight_empty]

/-- A positive integer with a sign, in the form that rounding leaves behind. -/
def whole (s : Sign) (k : Nat) (hpos : 0 < k) : UnpackedFloat :=
  .finite s (k * 2 ^ spare k) (-(spare k : Int)) (Nat.mul_pos hpos (Nat.two_pow_pos _))

theorem roundWithAccuracy_whole (hpos : 0 < k) (hlt : k < 2 ^ 53) (hi : spare k ≤ i) :
    roundWithAccuracy .binary64 s (k * 2 ^ i) (-i) .exact = whole s k hpos := by
  have hne : k * 2 ^ spare k ≠ 0 := Nat.ne_of_gt (Nat.mul_pos hpos (Nat.two_pow_pos _))
  have hrounded : (ExtendedMantissa.mk (k * 2 ^ spare k) false false).roundedMantissa =
      k * 2 ^ spare k := rfl
  rw [roundWithAccuracy, shiftToTargetExponent_whole hpos hlt hi]
  simp only [hrounded, shiftToTargetExponent_whole hpos hlt (Nat.le_refl _), dif_neg hne, whole]

/-- At a smaller exponent the significand has more places. -/
theorem decreaseExponent_places (k i j : Nat) :
    decreaseExponent (k * 2 ^ i) (-i) (-j) = (k * 2 ^ max i j, -((max i j : Nat) : Int)) := by
  have hplaces : (-(i : Int) - -(j : Int)).toNat = j - i := by omega
  have hexponent : -(i : Int) - (j - i : Nat) = -(max i j : Nat) := by omega
  rw [decreaseExponent, hplaces, hexponent, Nat.shiftLeft_eq, Nat.mul_assoc, ← Nat.pow_add,
    Nat.add_comm, Nat.sub_add_eq_max, Nat.max_comm]

theorem round_whole (hpos : 0 < k) (hlt : k < 2 ^ 53) (i : Nat) :
    UnpackedFloat.round .binary64 s (k * 2 ^ i) (-i) = whole s k hpos := by
  rw [UnpackedFloat.round, targetExponent_whole hpos hlt, decreaseExponent_places]
  exact roundWithAccuracy_whole hpos hlt (Nat.le_max_right ..)

/-! ## Integers as unpacked doubles -/

def unpacked : Int → UnpackedFloat
  | 0 => .zero .positive
  | .ofNat (k + 1) => whole .positive (k + 1) (Nat.succ_pos k)
  | .negSucc k => whole .negative (k + 1) (Nat.succ_pos k)

theorem unpacked_apply (s : Sign) (hpos : 0 < k) : unpacked (s.apply k) = whole s k hpos := by
  obtain ⟨k, rfl⟩ : ∃ m, k = m + 1 := ⟨k - 1, (Nat.sub_add_cancel hpos).symm⟩
  cases s <;> rfl

/-- Every integer is zero or a positive one with a sign. -/
theorem exists_apply (hn : n ≠ 0) : ∃ (s : Sign) (k : Nat), 0 < k ∧ s.apply k = n := by
  rcases Int.lt_or_gt_of_ne hn with hneg | hpos
  · exact ⟨.negative, n.natAbs, by omega, by simp only [Sign.apply]; omega⟩
  · exact ⟨.positive, n.natAbs, by omega, by simp only [Sign.apply]; omega⟩

theorem natAbs_apply (s : Sign) (k : Nat) : (s.apply k).natAbs = k := by
  cases s <;> simp [Sign.apply]

theorem apply_mul (s : Sign) (k l : Nat) : s.apply (k * l : Nat) = s.apply k * l := by
  cases s with
  | negative => rw [Sign.apply, Sign.apply, Int.natCast_mul, Int.neg_mul]
  | positive => rfl

theorem neg_unpacked (hn : n ≠ 0) : (unpacked n).neg = unpacked (-n) := by
  obtain ⟨s, k, hpos, rfl⟩ := exists_apply hn
  have hneg : -s.apply k = (-s).apply k := by
    cases s with
    | negative => exact Int.neg_neg _
    | positive => rfl
  rw [hneg, unpacked_apply s hpos, unpacked_apply _ hpos]
  rfl

theorem normalize_unpacked (hlt : n.natAbs < 2 ^ 53) (i : Nat) :
    UnpackedFloat.normalize .binary64 (n * (2 ^ i : Nat)) (-i) .positive = unpacked n := by
  by_cases hn : n = 0
  · subst hn
    rw [Int.zero_mul]
    rfl
  obtain ⟨s, k, hpos, rfl⟩ := exists_apply hn
  rw [natAbs_apply] at hlt
  have hplaced : 0 < k * 2 ^ i := Nat.mul_pos hpos (Nat.two_pow_pos i)
  rw [unpacked_apply s hpos, ← apply_mul, UnpackedFloat.normalize]
  cases s with
  | negative =>
      have hsign : compare (Sign.negative.apply (k * 2 ^ i : Nat)) 0 = .lt := by
        rw [Int.compare_eq_lt]
        simp only [Sign.apply]
        omega
      rw [hsign]
      simp only [Sign.apply, Int.neg_neg, Int.toNat_natCast]
      exact round_whole hpos hlt i
  | positive =>
      have hsign : compare (Sign.positive.apply (k * 2 ^ i : Nat)) 0 = .gt := by
        rw [Int.compare_eq_gt]
        simp only [Sign.apply]
        omega
      rw [hsign]
      simp only [Sign.apply, Int.toNat_natCast]
      exact round_whole hpos hlt i

theorem zero_add_unpacked (b : Int) :
    UnpackedFloat.add .binary64 (unpacked 0) (unpacked b) = unpacked b := by
  by_cases hb : b = 0
  · subst hb
    rfl
  · obtain ⟨t, l, hl, rfl⟩ := exists_apply hb
    rw [unpacked_apply t hl]
    rfl

theorem add_zero_unpacked (ha : a ≠ 0) :
    UnpackedFloat.add .binary64 (unpacked a) (unpacked 0) = unpacked a := by
  obtain ⟨s, k, hk, rfl⟩ := exists_apply ha
  rw [unpacked_apply s hk]
  rfl

theorem add_unpacked (hab : (a + b).natAbs < 2 ^ 53) :
    UnpackedFloat.add .binary64 (unpacked a) (unpacked b) = unpacked (a + b) := by
  by_cases ha : a = 0
  · rw [ha, Int.zero_add, zero_add_unpacked]
  by_cases hb : b = 0
  · rw [hb, Int.add_zero, add_zero_unpacked ha]
  obtain ⟨s, k, hk, rfl⟩ := exists_apply ha
  obtain ⟨t, l, hl, rfl⟩ := exists_apply hb
  -- at the smaller of the exponents both significands are integers, and so is their sum
  have hexponent : min (-(spare k : Int)) (-(spare l)) = -(max (spare k) (spare l) : Nat) := by
    omega
  rw [unpacked_apply s hk, unpacked_apply t hl, whole, whole, UnpackedFloat.add]
  simp only [hexponent, decreaseExponent_places, Nat.max_eq_right (Nat.le_max_left ..),
    Nat.max_eq_right (Nat.le_max_right ..), apply_mul, ← Int.add_mul]
  exact normalize_unpacked hab _

/-- The second factor is positive: zero times a negative number is the other zero. -/
theorem mul_unpacked (hb : 0 < b) (hab : (a * b).natAbs < 2 ^ 53) :
    UnpackedFloat.mul .binary64 (unpacked a) (unpacked b) = unpacked (a * b) := by
  obtain ⟨l, rfl⟩ := Int.eq_ofNat_of_zero_le (Int.le_of_lt hb)
  have hl : 0 < l := Int.natCast_pos.mp hb
  have hpositive : unpacked l = whole .positive l hl := unpacked_apply .positive hl
  by_cases hazero : a = 0
  · subst hazero
    rw [Int.zero_mul, hpositive]
    rfl
  obtain ⟨s, k, hk, rfl⟩ := exists_apply hazero
  have hkl : 0 < k * l := Nat.mul_pos hk hl
  have hspare : spare (k * l) ≤ spare k + spare l := by
    have hlog : k.log2 ≤ (k * l).log2 :=
      (Nat.le_log2 (Nat.ne_of_gt hkl)).mpr
        (Nat.le_trans (Nat.log2_self_le (Nat.ne_of_gt hk)) (Nat.le_mul_of_pos_right k hl))
    unfold spare
    omega
  have hsign : s * .positive = s := by cases s <;> rfl
  have hexponent : -(spare k : Int) + -(spare l) = -(spare k + spare l : Nat) := by omega
  have hsignificand : k * 2 ^ spare k * (l * 2 ^ spare l) = k * l * 2 ^ (spare k + spare l) := by
    rw [Nat.pow_add, Nat.mul_mul_mul_comm]
  rw [← apply_mul, natAbs_apply] at hab
  rw [← apply_mul, unpacked_apply s hkl, unpacked_apply s hk, hpositive, whole, whole,
    UnpackedFloat.mul]
  simp only [hsign, hexponent, hsignificand]
  exact roundWithAccuracy_whole hkl hab hspare

/-! ## Integers as 64 bits -/

/-- The bit that is not stored. -/
theorem toNat_one_append (v : BitVec 52) : (1#1 ++ v).toNat = 2 ^ 52 + v.toNat := by
  rw [BitVec.toNat_append, ← Nat.shiftLeft_add_eq_or_of_lt v.isLt]
  rfl

theorem pack_whole (hpos : 0 < k) (hlt : k < 2 ^ 53) :
    UnpackedFloat.pack .binary64 (whole s k hpos) =
      packComponents .binary64 s (BitVec.ofNat 11 (1075 - spare k))
        (BitVec.ofNat 52 (k * 2 ^ spare k)) := by
  have hsplit := log2_add_spare hpos hlt
  have hlog : (k * 2 ^ spare k).log2 + 1 = Format.binary64.mantissaBits := by
    rw [log2_mul_two_pow hpos, hsplit]
    rfl
  have hbiased : (-(spare k : Int) + Format.binary64.exponentBias +
      Format.binary64.mantissaBitsWithoutImplicit).toNat = 1075 - spare k := by
    show (-(spare k : Int) + 1023 + 52).toNat = _
    omega
  have hroom : ¬ 2 ^ Format.binary64.exponentBits ≤ 1075 - spare k + 1 := by
    show ¬ 2048 ≤ _
    omega
  rw [whole, UnpackedFloat.pack]
  simp only [hlog, hbiased, if_neg hroom, if_true]

theorem unpack_whole (hpos : 0 < k) (hlt : k < 2 ^ 53) :
    UnpackedFloat.unpack .binary64 (packComponents .binary64 s (BitVec.ofNat 11 (1075 - spare k))
      (BitVec.ofNat 52 (k * 2 ^ spare k))) = whole s k hpos := by
  obtain ⟨hlow, hhigh⟩ := significand_width hpos hlt
  have hsplit := log2_add_spare hpos hlt
  have hbiased : (BitVec.ofNat 11 (1075 - spare k)).toNat = 1075 - spare k := by
    rw [BitVec.toNat_ofNat]
    omega
  have hfinite : BitVec.ofNat 11 (1075 - spare k) ≠ -1#11 := by
    rw [Ne, ← BitVec.toNat_inj, hbiased]
    show ¬ 1075 - spare k = 2047
    omega
  have hnormal : BitVec.ofNat 11 (1075 - spare k) ≠ 0#11 := by
    rw [Ne, ← BitVec.toNat_inj, hbiased]
    show ¬ 1075 - spare k = 0
    omega
  have hsignificand : (1#1 ++ BitVec.ofNat 52 (k * 2 ^ spare k)).toNat = k * 2 ^ spare k := by
    rw [toNat_one_append, BitVec.toNat_ofNat]
    omega
  have hexponent : ((1075 - spare k : Nat) : Int) - (Format.binary64.exponentBias + 52) =
      -(spare k : Int) := by
    show ((1075 - spare k : Nat) : Int) - (1023 + 52) = _
    omega
  rw [UnpackedFloat.unpack]
  simp only [unpackMantissa_packComponents, unpackExponent_packComponents,
    unpackSign_packComponents, hfinite, hnormal, if_false, hsignificand, hbiased,
    Sign.ofBitVec_toBitVec, whole]
  congr 1

theorem unpack_pack_unpacked (hlt : n.natAbs < 2 ^ 53) :
    UnpackedFloat.unpack .binary64 (UnpackedFloat.pack .binary64 (unpacked n)) = unpacked n := by
  by_cases hn : n = 0
  · subst hn
    rfl
  obtain ⟨s, k, hpos, rfl⟩ := exists_apply hn
  rw [natAbs_apply] at hlt
  rw [unpacked_apply s hpos, pack_whole hpos hlt, unpack_whole hpos hlt]

def packed (n : Int) : Float := ⟨pack (unpacked n)⟩

theorem packed_add (ha : a.natAbs < 2 ^ 53) (hb : b.natAbs < 2 ^ 53)
    (hab : (a + b).natAbs < 2 ^ 53) : packed a + packed b = packed (a + b) := by
  show Float.ofModel (pack (UnpackedFloat.add .binary64
    (UnpackedFloat.unpack .binary64 (UnpackedFloat.pack .binary64 (unpacked a)))
    (UnpackedFloat.unpack .binary64 (UnpackedFloat.pack .binary64 (unpacked b))))) = _
  rw [unpack_pack_unpacked ha, unpack_pack_unpacked hb, add_unpacked hab, packed]

theorem packed_mul (ha : a.natAbs < 2 ^ 53) (hb : b.natAbs < 2 ^ 53) (hpos : 0 < b)
    (hab : (a * b).natAbs < 2 ^ 53) : packed a * packed b = packed (a * b) := by
  show Float.ofModel (pack (UnpackedFloat.mul .binary64
    (UnpackedFloat.unpack .binary64 (UnpackedFloat.pack .binary64 (unpacked a)))
    (UnpackedFloat.unpack .binary64 (UnpackedFloat.pack .binary64 (unpacked b))))) = _
  rw [unpack_pack_unpacked ha, unpack_pack_unpacked hb, mul_unpacked hpos hab, packed]

/-- A natural number is converted as a word and multiplied by the zeroth power of ten. -/
theorem ofNat_eq_packed {m : Nat} (hlt : m < 2 ^ 53) : Float.ofNat m = packed m := by
  have hword : m.toUInt64.toNat = m := Nat.mod_eq_of_lt (by omega)
  have hconverted : m.toUInt64.toFloat = packed m := by
    show Float.ofModel (pack (UnpackedFloat.normalize .binary64 m.toUInt64.toNat 0 .positive)) = _
    have hnormal := normalize_unpacked (n := m) (by omega) 0
    rw [Nat.pow_zero, Int.natCast_one, Int.mul_one] at hnormal
    rw [hword, packed, ← hnormal]
    rfl
  have hone : Float.exactlyRepresentablePowersOfTen[0] = packed 1 := by decide
  have hsmall : m < 2 ^ 53 ∧ 0 ≤ 22 := ⟨hlt, Nat.zero_le _⟩
  show Float.ofScientific m false 0 = _
  rw [Float.ofScientific, dif_pos hsmall]
  show m.toUInt64.toFloat * Float.exactlyRepresentablePowersOfTen[0] = _
  rw [hconverted, hone, packed_mul (by omega) (by decide) (by decide) (by omega), Int.mul_one]

theorem ofInt_eq_packed (hlt : n.natAbs < 2 ^ 53) : Float.ofInt n = packed n := by
  cases n with
  | ofNat m => exact ofNat_eq_packed hlt
  | negSucc m =>
      have hmagnitude : Float.ofNat (m + 1) = packed (m + 1 : Nat) := ofNat_eq_packed hlt
      show (Float.ofNat (m + 1)).neg = _
      rw [hmagnitude]
      show Float.ofModel (pack (UnpackedFloat.unpack .binary64
        (UnpackedFloat.pack .binary64 (unpacked (m + 1 : Nat)))).neg) = _
      rw [unpack_pack_unpacked (n := (m + 1 : Nat)) hlt, neg_unpacked (by omega)]
      rfl

theorem ofBits_ofInt (hlt : n.natAbs < 2 ^ 53) : Float.ofBits (ofInt n) = packed n := by
  rw [ofInt, ofInt_eq_packed hlt, Float.ofBits_toBits]

/-- **Sums of integers are exact**, as long as they have at most 53 bits. -/
theorem add_ofInt (ha : a.natAbs < 2 ^ 53) (hb : b.natAbs < 2 ^ 53)
    (hab : (a + b).natAbs < 2 ^ 53) : (ofInt a).add (ofInt b) = ofInt (a + b) := by
  rw [add, ofBits_ofInt ha, ofBits_ofInt hb, packed_add ha hb hab, ofInt, ofInt_eq_packed hab]

/-- **Products with a positive integer are exact**, as long as they have at most 53 bits. -/
theorem mul_ofInt (ha : a.natAbs < 2 ^ 53) (hb : b.natAbs < 2 ^ 53) (hpos : 0 < b)
    (hab : (a * b).natAbs < 2 ^ 53) : (ofInt a).mul (ofInt b) = ofInt (a * b) := by
  rw [mul, ofBits_ofInt ha, ofBits_ofInt hb, packed_mul ha hb hpos hab, ofInt, ofInt_eq_packed hab]

/-! ## Doubles as integers -/

theorem truncate_bounds {low high : Int} (d : Double) (hlow : low ≤ 0) (hhigh : 0 ≤ high) :
    low ≤ d.truncate low high ∧ d.truncate low high ≤ high := by
  have hclamp (n : Int) : low ≤ clamp low high n ∧ clamp low high n ≤ high := by
    unfold clamp
    omega
  rw [truncate]
  cases d.kind with
  | nan => exact ⟨hlow, hhigh⟩
  | infinite negative => cases negative <;> simp <;> omega
  | finite parts => exact hclamp _

end TelemetryRelay.Double
