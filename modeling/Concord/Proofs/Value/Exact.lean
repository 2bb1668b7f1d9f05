import Concord.Proofs.Value.Agreement
import Mathlib.Algebra.Order.Field.Rat
import Mathlib.Tactic.FieldSimp

/-!
# Integers and floats agree exactly

A 64-bit integer agrees with a float when the float's bits denote that very
number. The rational number denoted is read off the sign, the exponent and the
fraction, so nothing here depends on how a float is converted or compared.
-/

namespace Concord
namespace Binary64

/-! ## Bit fields -/

/-- The eleven bits after the sign. -/
def exponentField (bits : BitVec 64) : Nat :=
  (bits.extractLsb' 52 11).toNat

/-- The low bits. -/
def fractionField (bits : BitVec 64) : Nat :=
  (bits.extractLsb' 0 52).toNat

/-- The rational number with a biased exponent and a fraction. A leading one
stands before the fraction, except under the least exponent. -/
def exactMagnitude (exponent fraction : Nat) : ℚ :=
  if exponent = 0 then fraction / 2 ^ 52 * 2 ^ (-1022 : ℤ)
  else (1 + fraction / 2 ^ 52) * 2 ^ ((exponent : ℤ) - 1023)

/-- The rational number that the bits denote, unless the exponent is all
ones. -/
def exactValue (bits : BitVec 64) : ℚ :=
  let magnitude := exactMagnitude (exponentField bits) (fractionField bits)
  if bits.msb then -magnitude else magnitude

theorem exponentField_eq (bits : BitVec 64) :
    exponentField bits = bits.toNat / 2 ^ 52 % 2 ^ 11 := by
  rw [exponentField, BitVec.extractLsb'_toNat, Nat.shiftRight_eq_div_pow]

theorem fractionField_eq (bits : BitVec 64) :
    fractionField bits = bits.toNat % 2 ^ 52 := by
  rw [fractionField, BitVec.extractLsb'_toNat, Nat.shiftRight_zero]

theorem exponentField_lt (bits : BitVec 64) : exponentField bits < 2048 :=
  (bits.extractLsb' 52 11).isLt

theorem exponentField_lt_of_ne {bits : BitVec 64}
    (h : exponentField bits ≠ 2047) : exponentField bits < 2047 := by
  have hlt := exponentField_lt bits
  omega

theorem fractionField_lt (bits : BitVec 64) :
    fractionField bits < fractionCount :=
  (bits.extractLsb' 0 52).isLt

theorem toNat_eq_fields (bits : BitVec 64) :
    bits.toNat = (if bits.msb then signBit else 0) +
      (exponentField bits * fractionCount + fractionField bits) := by
  have hlt := bits.isLt
  rw [BitVec.msb_eq_decide, exponentField_eq, fractionField_eq, signBit]
  simp only [decide_eq_true_eq]
  unfold fractionCount
  split <;> omega

theorem ofBits_signed (negative : Bool) {i : Nat} (h : i < signBit) :
    ofBits ((if negative then signBit else 0) + i) =
      if magnitudeCount < i then .nan else ofIndex negative i := by
  cases negative with
  | false => simp [ofBits, Nat.mod_eq_of_lt h, Nat.div_eq_of_lt h]
  | true =>
      have hdiv : (signBit + i) / signBit = 1 := by
        rw [Nat.add_div_left i (Nat.zero_lt_of_lt h), Nat.div_eq_of_lt h]
      simp [ofBits, hdiv, Nat.mod_eq_of_lt h]

/-- The fields below the sign are the place of the magnitude. -/
theorem ofBits_eq_of_fields (bits : BitVec 64) :
    ofBits bits.toNat =
      if magnitudeCount < exponentField bits * fractionCount +
        fractionField bits then .nan
      else ofIndex bits.msb
        (exponentField bits * fractionCount + fractionField bits) := by
  have hexponent := exponentField_lt bits
  have hfraction := fractionField_lt bits
  have hlt : exponentField bits * fractionCount + fractionField bits <
      signBit := by
    unfold signBit fractionCount at *
    omega
  rw [← ofBits_signed bits.msb hlt, ← toNat_eq_fields]

theorem ofBits_eq_finite {bits : BitVec 64} (h : exponentField bits < 2047) :
    ofBits bits.toNat =
      .finite bits.msb ⟨exponentField bits, h⟩
        ⟨fractionField bits, fractionField_lt bits⟩ := by
  have hfraction := fractionField_lt bits
  have hle : ¬magnitudeCount <
      exponentField bits * fractionCount + fractionField bits := by
    unfold magnitudeCount fractionCount at *
    omega
  rw [ofBits_eq_of_fields, if_neg hle]
  exact ofIndex_eq_finite bits.msb ⟨_, h⟩ ⟨_, fractionField_lt bits⟩

theorem isFinite_ofBits {bits : BitVec 64} :
    (ofBits bits.toNat).isFinite = true ↔ exponentField bits ≠ 2047 := by
  by_cases h : exponentField bits = 2047
  · have hinfinite : ofIndex bits.msb
        (exponentField bits * fractionCount + fractionField bits) =
        .infinite bits.msb :=
          ofIndex_eq_infinite _ (by rw [h]; exact Nat.le_add_right _ _)
    rw [ofBits_eq_of_fields, hinfinite]
    split <;> simp [isFinite, h]
  · rw [ofBits_eq_finite (exponentField_lt_of_ne h)]
    simp [isFinite, h]

theorem exists_signed_toBits (x : Binary64) :
    ∃ (negative : Bool) (i : Nat), i < signBit ∧
      x.toBits = (if negative then signBit else 0) + i ∧
      (if magnitudeCount < i then .nan else ofIndex negative i) = x := by
  cases x with
  | nan =>
      exact ⟨false, _, by decide, (Nat.zero_add _).symm, if_pos (by decide)⟩
  | infinite negative =>
      refine ⟨negative, magnitudeCount, by decide, rfl, ?_⟩
      rw [if_neg (Nat.lt_irrefl _)]
      exact ofIndex_eq_infinite negative (Nat.le_refl _)
  | finite negative e f =>
      have he := e.isLt
      have hf := f.isLt
      have hlt : e * fractionCount + f < magnitudeCount := by
        unfold magnitudeCount fractionCount at *
        omega
      refine ⟨negative, e * fractionCount + f, hlt.trans (by decide),
        Nat.add_assoc _ _ _, ?_⟩
      rw [if_neg (Nat.not_lt.mpr hlt.le), ofIndex_eq_finite]

/-- Every number has its bits. -/
theorem exists_bits (x : Binary64) :
    ∃ bits : BitVec 64, ofBits bits.toNat = x := by
  obtain ⟨negative, i, hi, hbits, hx⟩ := exists_signed_toBits x
  have hlt : x.toBits < 2 ^ 64 := by
    rw [hbits]
    unfold signBit fractionCount at *
    split <;> omega
  refine ⟨BitVec.ofNat 64 x.toBits, ?_⟩
  rw [BitVec.toNat_ofNat, Nat.mod_eq_of_lt hlt, hbits,
    ofBits_signed negative hi, hx]

/-! ## Exact values -/

theorem exactMagnitude_eq (e f : Nat) :
    exactMagnitude e f = units e f / unitsPerOne := by
  have hsplit : (2 : ℚ) ^ 1074 = 2 ^ 52 * 2 ^ 1022 := pow_add 2 52 1022
  rw [unitsPerOne_eq, Nat.cast_pow, Nat.cast_ofNat, hsplit]
  cases e with
  | zero =>
      rw [exactMagnitude, if_pos rfl, units_subnormal, zpow_neg, zpow_ofNat,
        ← div_eq_mul_inv, div_div]
  | succ n =>
      have hexponent : ((n + 1 : Nat) : ℤ) - 1023 = n - 1022 := by omega
      rw [exactMagnitude, if_neg n.succ_ne_zero, units_normal, hexponent,
        zpow_sub₀ two_ne_zero, zpow_natCast, zpow_ofNat, fractionCount_eq]
      push_cast
      field_simp
      norm_num

theorem exactValue_eq (bits : BitVec 64) :
    exactValue bits =
      signedInt bits.msb (units (exponentField bits) (fractionField bits)) /
        unitsPerOne := by
  rw [exactValue, exactMagnitude_eq]
  generalize unitsPerOne = k
  cases bits.msb with
  | false => simp [signedInt]
  | true => simp [signedInt, neg_div]

theorem exactValue_eq_iff {bits : BitVec 64} {m : Int} :
    exactValue bits = m ↔
      signedInt bits.msb (units (exponentField bits) (fractionField bits)) =
        m * unitsPerOne := by
  have hne : (unitsPerOne : ℚ) ≠ 0 := Nat.cast_ne_zero.mpr unitsPerOne_pos.ne'
  rw [exactValue_eq, div_eq_iff hne]
  exact_mod_cast Iff.rfl

theorem ofBits_eq_negZero_iff {bits : BitVec 64} :
    ofBits bits.toNat = .negZero ↔ bits = 0x8000000000000000#64 := by
  constructor
  · intro h
    have hfinite : exponentField bits ≠ 2047 :=
      isFinite_ofBits.mp (by rw [h]; rfl)
    rw [ofBits_eq_finite (exponentField_lt_of_ne hfinite), negZero,
      finite.injEq] at h
    obtain ⟨hsign, hexponent, hfraction⟩ := h
    have hzero : exponentField bits = 0 := congrArg Fin.val hexponent
    have hzero' : fractionField bits = 0 := congrArg Fin.val hfraction
    apply BitVec.eq_of_toNat_eq
    rw [toNat_eq_fields, hsign, hzero, hzero']
    rfl
  · rintro rfl
    rfl

end Binary64

namespace Value

open Binary64

theorem intEqualsFloat_ofBits_iff {n : Int64} {bits : BitVec 64} :
    intEqualsFloat n (ofBits bits.toNat) = true ↔
      exponentField bits ≠ 2047 ∧ bits ≠ 0x8000000000000000#64 ∧
        exactValue bits = n.toInt := by
  rw [intEqualsFloat_iff_position?, isFinite_ofBits]
  refine and_congr_right fun hfinite =>
    and_congr (not_congr ofBits_eq_negZero_iff) ?_
  rw [ofBits_eq_finite (exponentField_lt_of_ne hfinite), exactValue_eq_iff,
    position?, Option.some.injEq]

/-- An integer and a float agree, on either side, exactly when the float is
finite and no negative zero and its bits denote the integer. Every float has
bits. -/
theorem equivalent_int_float_iff_exact :
    (∀ (n : Int64) (bits : BitVec 64),
      (equivalent (.int n) (.float (ofBits bits.toNat)) = true ↔
        exponentField bits ≠ 2047 ∧ bits ≠ 0x8000000000000000#64 ∧
          exactValue bits = n.toInt) ∧
      (equivalent (.float (ofBits bits.toNat)) (.int n) = true ↔
        exponentField bits ≠ 2047 ∧ bits ≠ 0x8000000000000000#64 ∧
          exactValue bits = n.toInt)) ∧
    ∀ x : Binary64, ∃ bits : BitVec 64, ofBits bits.toNat = x := by
  refine ⟨fun n bits => ⟨?_, ?_⟩, exists_bits⟩
  · rw [equivalent]
    exact intEqualsFloat_ofBits_iff
  · rw [equivalent]
    exact intEqualsFloat_ofBits_iff

example :
    equivalent (.int Int64.maxValue) (.float (ofBits 0x43e0000000000000)) =
      false ∧
      equivalent (.int Int64.minValue) (.float (ofBits 0xc3e0000000000000)) =
        true := by
  decide +kernel

end Value
end Concord
