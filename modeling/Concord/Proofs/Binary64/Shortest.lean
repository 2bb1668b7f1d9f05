import Concord.Binary64.Shortest
import Concord.Proofs.Binary64.Rounding

/-!
# Decimals that read back

The binary64 nearest to a decimal depends on the decimal's value only: moving
a factor of ten between coefficient and exponent changes nothing. The decimal
chosen as the shortest one of a finite number reads back as that number.
-/

namespace Concord
namespace Decimal

open Binary64

/-! ## The value of a decimal -/

theorem withSign_toBinary64 (d : Decimal) (negative other : Bool) :
    withSign negative (d.toBinary64 other) = d.toBinary64 negative := by
  unfold toBinary64
  split
  · exact withSign_ofIndex negative other 0
  · split
    · rfl
    · split
      · exact withSign_ofIndex negative other 0
      · split
        · exact withSign_ofRatio negative other _ _
        · exact withSign_ofRatio negative other _ _

theorem toBinary64_of_coefficient_zero (e : Int) (negative : Bool) :
    toBinary64 ⟨0, e⟩ negative = ofIndex negative 0 := by
  rw [toBinary64, if_pos rfl]

theorem digitCount_mul_ten {c : Nat} (hc : 0 < c) :
    digitCount (c * 10) = digitCount c + 1 := by
  have happend := Nat.toDigits_append_toDigits (b := 10) (by omega) hc
    (show 0 < 10 by omega)
  have hlength := congrArg List.length happend
  rw [List.length_append, Nat.toDigits_zero, Nat.add_zero,
    Nat.mul_comm] at hlength
  exact hlength.symm

theorem two_pow_le_ten_pow : 2 ^ 1024 ≤ 10 ^ 309 := by
  calc
    2 ^ 1024 = (2 ^ 128) ^ 8 := by rw [← pow_mul]
    _ ≤ (4 * 10 ^ 38) ^ 8 := Nat.pow_le_pow_left (by norm_num) 8
    _ = 4 ^ 8 * 10 ^ 304 := by rw [mul_pow, ← pow_mul]
    _ ≤ 10 ^ 5 * 10 ^ 304 := Nat.mul_le_mul_right _ (by norm_num)
    _ = 10 ^ 309 := by rw [← pow_add]

theorem ofRatio_infinite_of_ten_pow
    (negative : Bool) {num : Nat} (h : 10 ^ 309 ≤ num) :
    ofRatio negative num 1 = .infinite negative := by
  apply ofRatio_eq_infinite negative Nat.one_pos
  rw [Nat.one_mul]
  exact two_pow_le_ten_pow.trans h

/-! The branches of `toBinary64`, for a coefficient that is not zero. -/

theorem toBinary64_of_large
    {c : Nat} {e : Int} (negative : Bool) (hc : 0 < c) (he : 308 < e) :
    toBinary64 ⟨c, e⟩ negative = .infinite negative := by
  rw [toBinary64, if_neg (Nat.ne_of_gt hc), if_pos he]

theorem toBinary64_of_small
    {c : Nat} {e : Int} (negative : Bool) (h : e + digitCount c < -324) :
    toBinary64 ⟨c, e⟩ negative = ofIndex negative 0 := by
  have hle : ¬308 < e := by omega
  by_cases hc : c = 0
  · rw [toBinary64, if_pos hc]
  · rw [toBinary64, if_neg hc, if_neg hle, if_pos h]

theorem toBinary64_of_nonneg
    {c n : Nat} (negative : Bool) (hc : 0 < c) (hn : n ≤ 308) :
    toBinary64 ⟨c, n⟩ negative = ofRatio negative (c * 10 ^ n) 1 := by
  rw [toBinary64, if_neg (Nat.ne_of_gt hc), if_neg (by dsimp only; omega),
    if_neg (by dsimp only; omega), if_pos (Int.natCast_nonneg n)]
  rfl

theorem toBinary64_of_neg
    {c n : Nat} (negative : Bool) (hc : 0 < c) (hn : 0 < n)
    (h : n ≤ digitCount c + 324) :
    toBinary64 ⟨c, -n⟩ negative = ofRatio negative c (10 ^ n) := by
  rw [toBinary64, if_neg (Nat.ne_of_gt hc), if_neg (by dsimp only; omega),
    if_neg (by dsimp only; omega), if_neg (by dsimp only; omega)]
  simp only [Int.neg_neg, Int.toNat_natCast, Nat.pow_eq]

/-- A factor of ten may stand in the coefficient or in the exponent. -/
theorem toBinary64_mul_ten (c : Nat) (e : Int) (negative : Bool) :
    toBinary64 ⟨c * 10, e⟩ negative = toBinary64 ⟨c, e + 1⟩ negative := by
  rcases Nat.eq_zero_or_pos c with rfl | hc
  · rw [Nat.zero_mul, toBinary64_of_coefficient_zero,
      toBinary64_of_coefficient_zero]
  have hcount := digitCount_mul_ten hc
  have hc10 : 0 < c * 10 := by omega
  rcases lt_or_ge 308 e with hlarge | hle
  · rw [toBinary64_of_large _ hc10 hlarge, toBinary64_of_large _ hc (by omega)]
  rcases lt_or_ge (e + 1 + digitCount c) (-324) with hsmall | hge
  · rw [toBinary64_of_small _ hsmall, toBinary64_of_small _ (by omega)]
  rcases lt_or_ge e 0 with hneg | hnonneg
  · obtain ⟨n, rfl⟩ : ∃ n : Nat, e = -((n + 1 : Nat) : Int) :=
      ⟨(-e).toNat - 1, by omega⟩
    rw [toBinary64_of_neg _ hc10 (by omega) (by omega), pow_succ,
      ofRatio_mul_right _ _ _ (by omega)]
    rcases Nat.eq_zero_or_pos n with rfl | hn
    · rw [show -((0 + 1 : Nat) : Int) + 1 = (0 : Nat) by omega,
        toBinary64_of_nonneg _ hc (by omega), pow_zero, Nat.mul_one]
    · rw [show -((n + 1 : Nat) : Int) + 1 = -(n : Int) by omega,
        toBinary64_of_neg _ hc hn (by omega)]
  · obtain ⟨n, rfl⟩ := Int.eq_ofNat_of_zero_le hnonneg
    have hn : n ≤ 308 := by omega
    have hpow : c * 10 * 10 ^ n = c * 10 ^ (n + 1) := by ring
    rw [toBinary64_of_nonneg _ hc10 hn, hpow,
      show (n : Int) + 1 = ((n + 1 : Nat) : Int) by omega]
    rcases Nat.lt_or_ge n 308 with hlt | hedge
    · rw [toBinary64_of_nonneg _ hc hlt]
    · -- The one exponent between the two cuts: there the quotient overflows.
      obtain rfl : n = 308 := by omega
      rw [toBinary64_of_large _ hc (by omega)]
      exact ofRatio_infinite_of_ten_pow negative (Nat.le_mul_of_pos_left _ hc)

theorem toBinary64_mul_pow_ten (c n : Nat) (e : Int) (negative : Bool) :
    toBinary64 ⟨c * 10 ^ n, e⟩ negative = toBinary64 ⟨c, e + n⟩ negative := by
  induction n generalizing e with
  | zero => simp
  | succ n ih =>
      rw [pow_succ, ← Nat.mul_assoc, toBinary64_mul_ten, ih]
      congr 2
      push_cast
      ring

theorem toBinary64_strip (fuel : Nat) (d : Decimal) (negative : Bool) :
    (d.strip fuel).toBinary64 negative = d.toBinary64 negative := by
  induction fuel generalizing d with
  | zero => rfl
  | succ fuel ih =>
      obtain ⟨c, e⟩ := d
      rw [strip]
      split
      · rename_i h
        have hten : c % 10 = 0 := by simpa using (Bool.and_eq_true_iff.mp h).2
        rw [ih, ← toBinary64_mul_ten,
          Nat.div_mul_cancel (Nat.dvd_of_mod_eq_zero hten)]
      · rfl

/-! ## The shortest decimal -/

theorem lt_digitCount {n k : Nat} (hk : 0 < k) (h : 10 ^ k ≤ n) :
    k < digitCount n := by
  by_contra hle
  have := (Nat.length_toDigits_le_iff (by omega) hk).mp (Nat.not_lt.mp hle)
  omega

theorem ten_pow_le_five_pow : 10 ^ 750 ≤ 5 ^ 1074 := by
  calc
    10 ^ 750 = (10 ^ 102) ^ 7 * 10 ^ 36 := by rw [← pow_mul, ← pow_add]
    _ ≤ (5 ^ 146) ^ 7 * 5 ^ 52 :=
      Nat.mul_le_mul (Nat.pow_le_pow_left (by norm_num) 7) (by norm_num)
    _ = 5 ^ 1074 := by rw [← pow_mul, ← pow_add]

/-- The exact expansion to any number of places, where units are `2 ^ -n`. -/
theorem toBinary64_exact
    {n : Nat} (hn : 0 < n) (hone : unitsPerOne = 2 ^ n)
    (e : Fin 2047) (f : Fin fractionCount) (hunits : 0 < units e f)
    (hcount : n ≤ digitCount (units e f * 5 ^ n) + 324) :
    toBinary64 ⟨units e f * 5 ^ n, -n⟩ false = .finite false e f := by
  have hfive : 0 < 5 ^ n := Nat.pow_pos (by omega)
  have hten : 10 ^ n = unitsPerOne * 5 ^ n := by
    rw [hone, ← mul_pow, show 2 * 5 = 10 from rfl]
  rw [toBinary64_of_neg false (Nat.mul_pos hunits hfive) hn hcount, hten,
    ofRatio_mul_right _ _ _ hfive, ofRatio_units]

theorem toBinary64_expansion
    (e : Fin 2047) (f : Fin fractionCount) (hunits : 0 < units e f) :
    (expansion (units e f)).toBinary64 false = .finite false e f := by
  have hcount : 750 < digitCount (units e f * 5 ^ 1074) :=
    lt_digitCount (by omega)
      (ten_pow_le_five_pow.trans (Nat.le_mul_of_pos_left _ hunits))
  exact toBinary64_exact (by omega) unitsPerOne_eq e f hunits (by omega)

theorem toBinary64_of_neighbour?
    {tie : TieRule} {x : Binary64} {units : Nat} {e : Int} {d : Decimal}
    (h : neighbour? tie x units e = some d) :
    d.toBinary64 false = x := by
  simp only [neighbour?] at h
  grind

/-- The decimal chosen for a finite number that is not zero reads back. -/
theorem toBinary64_shortest
    (tie : TieRule) (e : Fin 2047) (f : Fin fractionCount)
    (hunits : 0 < units e f) :
    (shortest tie (.finite false e f) (units e f)).toBinary64 false =
      .finite false e f := by
  rw [shortest]
  cases hfound : (List.range 17).findSome? fun (n : Nat) =>
      neighbour? tie (.finite false e f) (units e f)
        (leadingExponent (units e f) - n) with
  | none =>
      exact toBinary64_expansion e f hunits
  | some d =>
      obtain ⟨n, -, hn⟩ := List.exists_of_findSome?_eq_some hfound
      exact toBinary64_of_neighbour? hn

end Decimal
end Concord
