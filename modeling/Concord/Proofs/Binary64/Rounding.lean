import Concord.Binary64.Basic
import Mathlib.Tactic.Linarith
import Mathlib.Tactic.Ring

/-!
# Rounding quotients to binary64

Rounding a quotient does not depend on how the quotient is written, gives back
every finite number from its own magnitude, and overflows to infinity from
`2 ^ 1024` on. The sign plays no part in any of this.
-/

namespace Concord
namespace Binary64

/-! ## Signs -/

/-- The number with its sign replaced. -/
def withSign (negative : Bool) : Binary64 → Binary64
  | .nan => .nan
  | .infinite _ => .infinite negative
  | .finite _ e f => .finite negative e f

theorem withSign_ofIndex (negative other : Bool) (i : Nat) :
    withSign negative (ofIndex other i) = ofIndex negative i := by
  unfold ofIndex
  split <;> rfl

theorem withSign_ofRatio (negative other : Bool) (num den : Nat) :
    withSign negative (ofRatio other num den) = ofRatio negative num den :=
  withSign_ofIndex negative other _

theorem signedInt_mul (negative : Bool) (q k : Nat) :
    signedInt negative (q * k) = signedInt negative q * k := by
  cases negative with
  | false => exact Int.natCast_mul q k
  | true =>
      change -((q * k : Nat) : Int) = -(q : Int) * k
      rw [Int.natCast_mul, Int.neg_mul]

theorem natAbs_signedInt (negative : Bool) (q : Nat) :
    (signedInt negative q).natAbs = q := by
  cases negative with
  | false => rfl
  | true => exact Int.natAbs_neg q

/-- The sign of a whole number can be read off, unless it is a zero with a
sign. -/
theorem ofInt_signedInt {negative : Bool} {n : Nat}
    (h : negative = true → n ≠ 0) :
    ofInt (signedInt negative n) = ofRatio negative n 1 := by
  have hsign : decide (signedInt negative n < 0) = negative := by
    cases negative with
    | false => exact decide_eq_false (Int.not_lt.mpr (Int.natCast_nonneg n))
    | true =>
        have hpos : 0 < (n : Int) :=
          Int.natCast_pos.mpr (Nat.pos_of_ne_zero (h rfl))
        exact decide_eq_true (Int.neg_neg_of_pos hpos)
  rw [ofInt, hsign, natAbs_signedInt]

/-! ## Indices -/

theorem ofIndex_eq_finite
    (negative : Bool) (e : Fin 2047) (f : Fin fractionCount) :
    ofIndex negative (e * fractionCount + f) = .finite negative e f := by
  have he := e.isLt
  have hf := f.isLt
  have hlt : e * fractionCount + f < 2047 * fractionCount := by
    unfold fractionCount at hf ⊢
    omega
  have hdiv : (e * fractionCount + f : Nat) / fractionCount = e := by
    unfold fractionCount at hf ⊢
    omega
  have hmod : (e * fractionCount + f : Nat) % fractionCount = f := by
    unfold fractionCount at hf ⊢
    omega
  simp only [ofIndex, hlt, ↓reduceDIte, hdiv, hmod]

theorem ofIndex_eq_infinite
    (negative : Bool) {i : Nat} (h : 2047 * fractionCount ≤ i) :
    ofIndex negative i = .infinite negative := by
  rw [ofIndex, dif_neg (by omega)]

/-! ## Rounding to whole numbers -/

theorem roundHalfEven_mul_right
    (num den : Nat) {k : Nat} (hk : 0 < k) :
    roundHalfEven (num * k) (den * k) = roundHalfEven num den := by
  have hrest : num * k % (den * k) = num % den * k :=
    Nat.mul_mod_mul_right k num den
  have hlow : 2 * (num % den * k) < den * k ↔ 2 * (num % den) < den := by
    rw [← Nat.mul_assoc]
    exact Nat.mul_lt_mul_right hk
  have hhigh : den * k < 2 * (num % den * k) ↔ den < 2 * (num % den) := by
    rw [← Nat.mul_assoc]
    exact Nat.mul_lt_mul_right hk
  simp only [roundHalfEven, Nat.mul_div_mul_right num den hk, hrest,
    hlow, hhigh]

theorem roundHalfEven_mul_self
    (q : Nat) {den : Nat} (hden : 0 < den) :
    roundHalfEven (q * den) den = q := by
  simp [roundHalfEven, Nat.mul_div_cancel q hden, hden]

theorem div_le_roundHalfEven (num den : Nat) :
    num / den ≤ roundHalfEven num den := by
  unfold roundHalfEven
  dsimp only
  split
  · exact Nat.le_refl _
  · split
    · exact Nat.le_succ _
    · split
      · exact Nat.le_refl _
      · exact Nat.le_succ _

/-! ## Rounding to binary64 -/

theorem unitsPerOne_eq : unitsPerOne = 2 ^ 1074 := by
  rw [unitsPerOne, Nat.pow_eq]

theorem unitsPerOne_pos : 0 < unitsPerOne := by
  rw [unitsPerOne_eq]
  exact Nat.two_pow_pos 1074

theorem fractionCount_eq : fractionCount = 2 ^ 52 := rfl

/-- Only the quotient counts, not how it is written. -/
theorem ofRatio_mul_right
    (negative : Bool) (num den : Nat) {k : Nat} (hk : 0 < k) :
    ofRatio negative (num * k) (den * k) = ofRatio negative num den := by
  have hscaled : num * k * unitsPerOne = num * unitsPerOne * k := by ring
  have hstep (s : Nat) : den * k * Nat.pow 2 s = den * Nat.pow 2 s * k := by
    ring
  simp only [ofRatio, hscaled, hstep, roundHalfEven_mul_right _ _ hk,
    Nat.mul_div_mul_right _ _ hk]

theorem units_subnormal (f : Nat) : units 0 f = f := rfl

theorem units_normal (n f : Nat) :
    units (n + 1) f = (fractionCount + f) * 2 ^ n := rfl

theorem units_eq_zero_iff {e f : Nat} : units e f = 0 ↔ e = 0 ∧ f = 0 := by
  cases e with
  | zero =>
      rw [units_subnormal]
      exact (and_iff_right rfl).symm
  | succ n =>
      have hpos : 0 < units (n + 1) f := by
        rw [units_normal]
        exact Nat.mul_pos (Nat.add_pos_left (by decide) f) (Nat.two_pow_pos n)
      exact iff_of_false hpos.ne' nofun

/-- The index of a magnitude computed from its units is its own. -/
theorem index_units
    (e : Nat) {f : Nat} (hf : f < fractionCount) :
    (Nat.log2 (units e f) - 52) * fractionCount +
        roundHalfEven (units e f) (2 ^ (Nat.log2 (units e f) - 52)) =
      e * fractionCount + f := by
  cases e with
  | zero =>
      have hshift : Nat.log2 (units 0 f) - 52 = 0 := by
        rw [units_subnormal]
        rcases Nat.eq_zero_or_pos f with rfl | hpos
        · simp
        · have : Nat.log2 f < 52 := (Nat.log2_lt (by omega)).mpr hf
          omega
      rw [hshift, units_subnormal]
      simpa using roundHalfEven_mul_self f Nat.one_pos
  | succ n =>
      have hlog : Nat.log2 (units (n + 1) f) = 52 + n := by
        have hlow : 2 ^ (52 + n) ≤ units (n + 1) f := by
          rw [units_normal, pow_add, ← fractionCount_eq]
          exact Nat.mul_le_mul_right _ (Nat.le_add_right _ _)
        have hhigh : units (n + 1) f < 2 ^ (52 + n + 1) := by
          rw [units_normal, show 52 + n + 1 = 53 + n by omega, pow_add]
          apply Nat.mul_lt_mul_of_pos_right _ (Nat.two_pow_pos n)
          unfold fractionCount at hf ⊢
          omega
        have hne : units (n + 1) f ≠ 0 := by
          have := Nat.two_pow_pos (52 + n)
          omega
        exact (Nat.log2_eq_iff hne).mpr ⟨hlow, hhigh⟩
      rw [hlog, show 52 + n - 52 = n by omega, units_normal,
        roundHalfEven_mul_self _ (Nat.two_pow_pos n)]
      ring

/-- A finite number is the rounding of its own magnitude. -/
theorem ofRatio_units
    (negative : Bool) (e : Fin 2047) (f : Fin fractionCount) :
    ofRatio negative (units e f) unitsPerOne = .finite negative e f := by
  have hquot : units e f * unitsPerOne / unitsPerOne = units e f :=
    Nat.mul_div_cancel _ unitsPerOne_pos
  have hstep (s : Nat) :
      roundHalfEven (units e f * unitsPerOne) (unitsPerOne * Nat.pow 2 s) =
        roundHalfEven (units e f) (2 ^ s) := by
    rw [Nat.mul_comm unitsPerOne]
    exact roundHalfEven_mul_right _ _ unitsPerOne_pos
  rw [ofRatio]
  simp only [hquot, hstep]
  rw [index_units e f.isLt, ofIndex_eq_finite]

/-- From `2 ^ 1024` on a quotient rounds to infinity. -/
theorem ofRatio_eq_infinite
    (negative : Bool) {num den : Nat} (hden : 0 < den)
    (h : den * 2 ^ 1024 ≤ num) :
    ofRatio negative num den = .infinite negative := by
  have hquot : 2 ^ 2098 ≤ num * unitsPerOne / den := by
    rw [Nat.le_div_iff_mul_le hden, unitsPerOne_eq]
    calc
      2 ^ 2098 * den = den * 2 ^ 1024 * 2 ^ 1074 := by
        rw [Nat.mul_assoc, ← pow_add, Nat.mul_comm]
      _ ≤ num * 2 ^ 1074 := Nat.mul_le_mul_right _ h
  have hne : num * unitsPerOne / den ≠ 0 := by
    have := Nat.two_pow_pos 2098
    omega
  have hlog : 2098 ≤ Nat.log2 (num * unitsPerOne / den) :=
    (Nat.le_log2 hne).mpr hquot
  obtain ⟨s, hs⟩ : ∃ s, Nat.log2 (num * unitsPerOne / den) = s + 52 :=
    ⟨_, (Nat.sub_add_cancel (by omega)).symm⟩
  have hround : fractionCount ≤
      roundHalfEven (num * unitsPerOne) (den * Nat.pow 2 s) := by
    refine le_trans ?_ (div_le_roundHalfEven _ _)
    rw [← Nat.div_div_eq_div_mul, Nat.pow_eq, fractionCount_eq]
    apply (Nat.le_div_iff_mul_le (Nat.two_pow_pos s)).mpr
    calc
      2 ^ 52 * 2 ^ s = 2 ^ (s + 52) := by rw [← pow_add, Nat.add_comm]
      _ ≤ num * unitsPerOne / den := by
        rw [← hs]
        exact Nat.log2_self_le hne
  rw [ofRatio]
  simp only [hs, Nat.add_sub_cancel]
  apply ofIndex_eq_infinite
  have hmul : 2046 * fractionCount ≤ s * fractionCount :=
    Nat.mul_le_mul_right _ (by omega)
  omega

end Binary64
end Concord
