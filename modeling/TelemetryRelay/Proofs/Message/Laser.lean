import Mathlib
import TelemetryRelay.Message.Laser
import TelemetryRelay.Proofs.Number.Integers

/-!
# Laser positions as numbers

A count of millimetres is written from its last digit to the first, by division, and read from
the first byte to the last, by Horner's rule.  The two meet in the sum of the bytes by place, each
weighted by its distance from `0`, which is what is read of any bytes, digits or not.
-/

namespace TelemetryRelay.Message.LaserPosition

variable {b : UInt8} {digits : Bytes} {p : LaserPosition} {n : Nat}

/-! ## Reading -/

theorem digitValue_bounds (b : UInt8) : -48 ≤ digitValue b ∧ digitValue b ≤ 207 := by
  have hlt := b.toNat_lt
  unfold digitValue
  omega

/-- The weight of a byte is a difference of signed words. -/
theorem toInt_word (b : UInt8) : (b.toUInt16.toInt16 - 48).toInt = digitValue b := by
  have hlt := b.toNat_lt
  have hword : b.toUInt16.toInt16.toInt = b.toNat := by
    show b.toUInt16.toBitVec.toInt = _
    have hnat : b.toUInt16.toBitVec.toNat = b.toNat := b.toNat_toUInt16
    rw [BitVec.toInt_eq_toNat_of_lt (by omega), hnat]
  rw [Int16.toInt_sub, hword, digitValue]
  exact Int.bmod_eq_of_le (by show -32768 ≤ (b.toNat : Int) - 48; omega)
    (by show (b.toNat : Int) - 48 < 32768; omega)

theorem accumulate_append_one (digits : Bytes) (b : UInt8) :
    accumulate (digits ++ [b]) = accumulate digits * 10 + digitValue b := by
  rw [accumulate, List.foldl_append]
  rfl

theorem accumulate_cons (b : UInt8) (digits : Bytes) :
    accumulate (b :: digits) = digitValue b * 10 ^ digits.length + accumulate digits := by
  induction digits using List.reverseRecOn with
  | nil => simp [accumulate]
  | append_singleton digits c ih =>
      rw [← List.cons_append, accumulate_append_one, ih, accumulate_append_one,
        List.length_append, List.length_singleton, Int.pow_succ, ← Int.mul_assoc, Int.add_mul,
        Int.add_assoc]

/-- The bytes weighted by their places. -/
theorem accumulate_eq_sum (digits : Bytes) :
    accumulate digits =
      ∑ k : Fin digits.length, digitValue (digits.get k) * 10 ^ (digits.length - 1 - k) := by
  induction digits with
  | nil => rfl
  | cons b digits ih =>
      show _ = ∑ k : Fin (digits.length + 1),
        digitValue ((b :: digits).get k) * 10 ^ (digits.length - k.val)
      rw [accumulate_cons, ih, Fin.sum_univ_succ]
      congr 1
      refine Finset.sum_congr rfl fun k _ => ?_
      rw [Fin.val_succ, Nat.add_comm, Nat.sub_add_eq]
      rfl

/-- A byte counts for at most 207 = 9 · 23 and for at least -48 = -9 · 16 / 3. -/
theorem accumulate_bounds (digits : Bytes) :
    -16 * (10 ^ digits.length - 1) ≤ 3 * accumulate digits ∧
      accumulate digits ≤ 23 * (10 ^ digits.length - 1) := by
  induction digits using List.reverseRecOn with
  | nil => decide
  | append_singleton digits b ih =>
      have hb := digitValue_bounds b
      rw [accumulate_append_one, List.length_append, List.length_singleton, Int.pow_succ]
      omega

/-- Both bounds are met, the upper one above what 32 bits with a sign can hold. -/
example : accumulate (List.replicate 8 255) = 2299999977 ∧
    accumulate (List.replicate 8 0) = -533333328 := by decide

theorem natAbs_accumulate_lt (h : digits.length ≤ 8) :
    (accumulate digits * 10).natAbs < 23 * 10 ^ 9 := by
  have hbounds := accumulate_bounds digits
  have hpower : (10 : Int) ^ digits.length ≤ 10 ^ 8 := by
    exact_mod_cast Nat.pow_le_pow_right (by decide) h
  omega

/-- Up to eight bytes are accumulated in double precision without a rounding error. -/
theorem accumulateDouble_eq (h : digits.length ≤ 8) :
    accumulateDouble digits = Double.ofInt (accumulate digits) := by
  induction digits using List.reverseRecOn with
  | nil => decide
  | append_singleton digits b ih =>
      have hb := digitValue_bounds b
      rw [List.length_append, List.length_singleton] at h
      have hlength : digits.length ≤ 8 := by omega
      have hfront := natAbs_accumulate_lt hlength
      have hten : Double.const 10.0 = Double.ofInt 10 := by decide
      have hexact := ih hlength
      rw [accumulateDouble] at hexact
      rw [accumulateDouble, List.foldl_append, List.foldl_cons, List.foldl_nil, hexact, hten,
        Double.mul_ofInt, Double.add_ofInt, accumulate_append_one] <;> omega

theorem metres_eq (p : LaserPosition) :
    p.metres = (Double.ofInt p.millimetres).div (Double.const 1000.0) := by
  rw [metres, accumulateDouble_eq (Nat.le_of_eq p.width), millimetres]

/-! ## Writing -/

/-- One of the characters `0` to `9`. -/
def IsDigit (b : UInt8) : Prop := 48 ≤ b.toNat ∧ b.toNat ≤ 57

theorem toNat_digit (n : Nat) : (48 + UInt8.ofNat (n % 10)).toNat = 48 + n % 10 := by
  rw [UInt8.toNat_add, UInt8.toNat_ofNat']
  show (48 + _) % 256 = _
  omega

theorem isDigit_digit (n : Nat) : IsDigit (48 + UInt8.ofNat (n % 10)) := by
  have hlt := Nat.mod_lt n (by decide : 0 < 10)
  rw [IsDigit, toNat_digit]
  omega

/-- The digits stand with the most significant one first. -/
theorem digitsOf_eq_map (width n : Nat) :
    digitsOf width n =
      (List.range width).map fun k => 48 + UInt8.ofNat (n / 10 ^ (width - 1 - k) % 10) := by
  induction width generalizing n with
  | zero => rfl
  | succ width ih =>
      rw [digitsOf, ih, List.range_succ, List.map_append]
      congr 1
      · refine List.map_congr_left fun k hk => ?_
        have hlt := List.mem_range.mp hk
        have hplace : width + 1 - 1 - k = width - 1 - k + 1 := by omega
        rw [hplace, Nat.div_div_eq_div_mul, Nat.pow_succ']
      · simp

theorem accumulate_digitsOf (width n : Nat) :
    accumulate (digitsOf width n) = (n % 10 ^ width : Nat) := by
  induction width generalizing n with
  | zero => simp [digitsOf, accumulate, Nat.mod_one]
  | succ width ih =>
      rw [digitsOf, accumulate_append_one, ih, digitValue, toNat_digit, Nat.pow_succ', Nat.mod_mul]
      omega

/-- Bytes that are digits are written again as they were read. -/
theorem digitsOf_accumulate (h : ∀ b ∈ digits, IsDigit b) :
    0 ≤ accumulate digits ∧ digitsOf digits.length (accumulate digits).toNat = digits := by
  induction digits using List.reverseRecOn with
  | nil => exact ⟨Int.le_refl 0, rfl⟩
  | append_singleton digits b ih =>
      obtain ⟨hnonneg, hback⟩ := ih fun c hc => h c (List.mem_append_left _ hc)
      obtain ⟨hlow, hhigh⟩ := h b (by simp)
      have hdigit : digitValue b = (b.toNat - 48 : Nat) := by rw [digitValue]; omega
      have hdiv : (accumulate (digits ++ [b])).toNat / 10 = (accumulate digits).toNat := by
        rw [accumulate_append_one]
        omega
      have hmod : (accumulate (digits ++ [b])).toNat % 10 = b.toNat - 48 := by
        rw [accumulate_append_one]
        omega
      have hbyte : 48 + UInt8.ofNat (b.toNat - 48) = b := by
        rw [← UInt8.toNat_inj, UInt8.toNat_add, UInt8.toNat_ofNat']
        show (48 + _) % 256 = _
        omega
      refine ⟨by rw [accumulate_append_one]; omega, ?_⟩
      rw [List.length_append, List.length_singleton, digitsOf, hdiv, hmod, hback, hbyte]

/-! ## Positions and counts -/

/-- The byte in place `k`, the most significant one first. -/
def digit (p : LaserPosition) (k : Fin 8) : UInt8 := p.digits.get (k.cast p.width.symm)

theorem millimetres_eq_sum (p : LaserPosition) :
    p.millimetres = ∑ k : Fin 8, digitValue (p.digit k) * 10 ^ (7 - k.val) := by
  rw [millimetres, accumulate_eq_sum]
  refine Fintype.sum_equiv (finCongr p.width) _ _ fun k => ?_
  have hplace : p.digits.length - 1 - k = 7 - (finCongr p.width k).val := by
    have hwidth := p.width
    show p.digits.length - 1 - k.val = 7 - k.val
    omega
  rw [hplace]
  rfl

theorem digit_ofMillimetres (n : Nat) (k : Fin 8) :
    (ofMillimetres n).digit k = 48 + UInt8.ofNat (n / 10 ^ (7 - k.val) % 10) := by
  simp only [digit, ofMillimetres, digitsOf_eq_map, List.get_eq_getElem, List.getElem_map,
    List.getElem_range]
  rfl

theorem isDigit_of_mem_ofMillimetres (h : b ∈ (ofMillimetres n).digits) : IsDigit b := by
  have hmem : b ∈ digitsOf 8 n := h
  rw [digitsOf_eq_map] at hmem
  obtain ⟨k, -, rfl⟩ := List.mem_map.mp hmem
  exact isDigit_digit _

theorem millimetres_ofMillimetres (n : Nat) :
    (ofMillimetres n).millimetres = (n % 10 ^ 8 : Nat) := accumulate_digitsOf 8 n

/-- A position of digits is that of a count with at most eight of them. -/
theorem eq_ofMillimetres (h : ∀ b ∈ p.digits, IsDigit b) :
    0 ≤ p.millimetres ∧ p.millimetres < 10 ^ 8 ∧ p = ofMillimetres p.millimetres.toNat := by
  obtain ⟨hnonneg, hback⟩ := digitsOf_accumulate h
  rw [p.width] at hback
  have heq : p = ofMillimetres p.millimetres.toNat := by
    obtain ⟨digits, width⟩ := p
    rw [ofMillimetres, LaserPosition.mk.injEq]
    exact hback.symm
  have hvalue := millimetres_ofMillimetres p.millimetres.toNat
  rw [← heq] at hvalue
  exact ⟨hnonneg, by omega, heq⟩

theorem ofMillimetres_inj {m n : Nat} :
    ofMillimetres m = ofMillimetres n ↔ m % 10 ^ 8 = n % 10 ^ 8 := by
  have hreduced (n : Nat) : ofMillimetres n = ofMillimetres (n % 10 ^ 8) := by
    obtain ⟨-, -, heq⟩ := eq_ofMillimetres (p := ofMillimetres n)
      fun _ => isDigit_of_mem_ofMillimetres
    rwa [millimetres_ofMillimetres, Int.toNat_natCast] at heq
  constructor
  · intro h
    have hvalue := congrArg millimetres h
    rwa [millimetres_ofMillimetres, millimetres_ofMillimetres, Int.natCast_inj] at hvalue
  · intro h
    rw [hreduced m, h, ← hreduced]

/-- A length is written as the count that its millimetres are truncated to. -/
theorem ofMetres_eq (d : Double) :
    ∃ n : UInt64, (n.toNat : Int) =
        (d.mul (Double.const 1000.0)).truncate 0 (UInt64.size - 1 : Nat) ∧
      ofMetres d = ofMillimetres n.toNat := by
  obtain ⟨hlow, hhigh⟩ := Double.truncate_bounds (d.mul (Double.const 1000.0)) (Int.le_refl 0)
    (Int.natCast_nonneg (UInt64.size - 1))
  obtain ⟨count, hcount⟩ := Int.eq_ofNat_of_zero_le hlow
  have hword : (UInt64.ofNat count).toNat = count := by
    rw [hcount, Int.ofNat_le] at hhigh
    exact UInt64.toNat_ofNat_of_lt' (Nat.lt_of_le_of_lt hhigh (by decide))
  refine ⟨UInt64.ofNat count, by rw [hword, hcount], ?_⟩
  rw [hword, ofMetres, hcount, Int.toNat_natCast]

/-- **Digits and counts.**  Of a count of 64 bits the eight last decimal digits are written, most
significant first, so counts are told apart modulo 10⁸ and those below 10⁸ are read as they were
written; as digits, and only as digits, such a count is written again.  Of any eight bytes what is
read is their sum by place, each weighted by its distance from `0`: all numbers on the way have
fewer than 53 bits, and so the double precision in which they are added up is exact. -/
theorem counts_through_digits (n : UInt64) (p : LaserPosition) (d : Double) :
    let written := ofMillimetres n.toNat
    ((∀ b ∈ written.digits, IsDigit b) ∧
      (∀ k : Fin 8, (written.digit k).toNat = 48 + n.toNat / 10 ^ (7 - k.val) % 10) ∧
      written.millimetres = (n.toNat % 10 ^ 8 : Nat) ∧
      (n.toNat < 10 ^ 8 → written.millimetres = n.toNat) ∧
      ∀ m : UInt64, ofMillimetres m.toNat = written ↔ m.toNat % 10 ^ 8 = n.toNat % 10 ^ 8) ∧
    ((∀ b ∈ p.digits, IsDigit b) →
      0 ≤ p.millimetres ∧ p.millimetres < 10 ^ 8 ∧ p = ofMillimetres p.millimetres.toNat) ∧
    (p.millimetres = ∑ k : Fin 8, (((p.digit k).toNat : Int) - 48) * 10 ^ (7 - k.val) ∧
      (∀ b : UInt8, (b.toUInt16.toInt16 - 48).toInt = digitValue b) ∧
      (∀ k, (accumulate (p.digits.take k) * 10).natAbs < 2 ^ 53 ∧
        accumulateDouble (p.digits.take k) = Double.ofInt (accumulate (p.digits.take k))) ∧
      p.metres = (Double.ofInt p.millimetres).div (Double.const 1000.0)) ∧
    ∃ m : UInt64, (m.toNat : Int) =
        (d.mul (Double.const 1000.0)).truncate 0 (UInt64.size - 1 : Nat) ∧
      ofMetres d = ofMillimetres m.toNat := by
  intro written
  refine ⟨⟨fun _ => isDigit_of_mem_ofMillimetres, fun k => ?_, millimetres_ofMillimetres _,
    fun hlt => ?_, fun m => ofMillimetres_inj⟩, eq_ofMillimetres,
    ⟨millimetres_eq_sum p, toInt_word, fun k => ?_, metres_eq p⟩, ofMetres_eq d⟩
  · rw [digit_ofMillimetres, toNat_digit]
  · rw [millimetres_ofMillimetres, Nat.mod_eq_of_lt hlt]
  · have hwidth := p.width
    have hlength : (p.digits.take k).length ≤ 8 := by
      rw [List.length_take]
      omega
    have hlt := natAbs_accumulate_lt hlength
    exact ⟨by omega, accumulateDouble_eq hlength⟩

/-- A count above 10⁸ and the eight bytes of its last digits. -/
theorem counts_through_digits_wrapped :
    let p : LaserPosition := ⟨[48, 48, 48, 49, 50, 53, 48, 48], rfl⟩
    (ofMillimetres 12500).millimetres = 12500 ∧ ofMillimetres 300012500 = ofMillimetres 12500 ∧
      (∀ b ∈ p.digits, IsDigit b) ∧ p = ofMillimetres 12500 := by
  intro p
  have hsmall : UInt64.toNat 12500 = 12500 := rfl
  have hlarge : UInt64.toNat 300012500 = 300012500 := rfl
  have hdigits : ∀ b ∈ p.digits, IsDigit b := by simp [p, IsDigit]
  obtain ⟨⟨-, -, -, hread, hwrap⟩, hback, -⟩ :=
    counts_through_digits 12500 p (Double.const 12.5)
  have hwrapped := hwrap 300012500
  rw [hsmall] at hread hwrapped
  rw [hlarge] at hwrapped
  obtain ⟨-, -, heq⟩ := hback hdigits
  exact ⟨hread (by decide), hwrapped.mpr (by decide), hdigits, heq⟩

end TelemetryRelay.Message.LaserPosition
