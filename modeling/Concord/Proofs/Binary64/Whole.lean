import Concord.Proofs.Binary64.Rounding

/-!
# Whole numbers in binary64

A finite number that is not a negative zero is equal to a whole number when its
place is a multiple of one. Within the bounds of the 64-bit integers, conversion
keeps such a number, so no number outside them is taken for the integer at the
end.
-/

namespace Concord
namespace Binary64

/-- The whole number this number is equal to. Negative zero is equal to none. -/
def toInt? : Binary64 → Option Int
  | .finite negative e f =>
    let u := units e f
    if u % unitsPerOne = 0 then
      let n := u / unitsPerOne
      if negative then (if n = 0 then none else some (-(n : Int))) else some n
    else none
  | _ => none

/-! ## Places -/

variable {negative : Bool} {e : Fin 2047} {f : Fin fractionCount} {q : Nat}
  {m : Int}

theorem position?_finite (hq : units e f = q * unitsPerOne) :
    (finite negative e f).position? =
      some (signedInt negative q * unitsPerOne) := by
  rw [position?, hq, signedInt_mul]

/-- A place that is a multiple of one has units that are. -/
theorem exists_units_of_position?
    (h : (finite negative e f).position? = some (m * unitsPerOne)) :
    ∃ q, units e f = q * unitsPerOne := by
  have hplace := congrArg Int.natAbs (Option.some.inj h)
  rw [natAbs_signedInt, Int.natAbs_mul, Int.natAbs_natCast] at hplace
  exact ⟨m.natAbs, hplace⟩

theorem mul_unitsPerOne_inj {m n : Int} :
    m * unitsPerOne = n * unitsPerOne ↔ m = n :=
  Int.mul_eq_mul_right_iff (Int.natCast_ne_zero.mpr unitsPerOne_pos.ne')

theorem mod_unitsPerOne_eq_zero_iff {u : Nat} :
    u % unitsPerOne = 0 ↔ ∃ q, u = q * unitsPerOne := by
  rw [← Nat.dvd_iff_mod_eq_zero]
  exact exists_congr fun q => by rw [Nat.mul_comm]

theorem isWhole_finite_iff (negative : Bool) :
    (finite negative e f).isWhole = true ↔
      ∃ q, units e f = q * unitsPerOne := by
  rw [isWhole, beq_iff_eq, mod_unitsPerOne_eq_zero_iff]

theorem finite_eq_negZero_iff (hq : units e f = q * unitsPerOne) :
    finite negative e f = negZero ↔ negative = true ∧ q = 0 := by
  have hzero : q = 0 ↔ (e : Nat) = 0 ∧ (f : Nat) = 0 := by
    rw [← units_eq_zero_iff, hq, Nat.mul_eq_zero]
    exact (or_iff_left unitsPerOne_pos.ne').symm
  rw [hzero, negZero, finite.injEq, Fin.ext_iff, Fin.ext_iff]
  rfl

theorem toInt?_finite (hq : units e f = q * unitsPerOne) :
    (finite negative e f).toInt? =
      if finite negative e f = negZero then none
      else some (signedInt negative q) := by
  have hmod : units e f % unitsPerOne = 0 := by rw [hq, Nat.mul_mod_left]
  have hdiv : units e f / unitsPerOne = q := by
    rw [hq, Nat.mul_div_cancel q unitsPerOne_pos]
  simp only [toInt?, hmod, hdiv, finite_eq_negZero_iff hq, signedInt]
  cases negative <;> simp

/-- Equality with a whole number is equality of places. -/
theorem toInt?_eq_some_iff {x : Binary64} :
    x.toInt? = some m ↔
      x.isFinite = true ∧ x ≠ negZero ∧
        x.position? = some (m * unitsPerOne) := by
  cases x with
  | nan | infinite _ =>
      -- Infinity stands at a multiple of one too, so its place alone does not
      -- tell.
      refine iff_of_false (Option.some_ne_none m).symm ?_
      rintro ⟨hfinite, -⟩
      exact Bool.false_ne_true hfinite
  | finite negative e f =>
      by_cases hwhole : ∃ q, units e f = q * unitsPerOne
      · obtain ⟨q, hq⟩ := hwhole
        rw [toInt?_finite hq, position?_finite hq, Option.some.injEq,
          mul_unitsPerOne_inj]
        simp [isFinite]
      · have hnone : (finite negative e f).toInt? = none :=
          if_neg (mt mod_unitsPerOne_eq_zero_iff.mp hwhole)
        rw [hnone]
        refine iff_of_false (Option.some_ne_none m).symm ?_
        rintro ⟨-, -, hplace⟩
        exact hwhole (exists_units_of_position? hplace)

/-- A number equal to a whole number is the one nearest to it, so no other
number is equal to it. -/
theorem eq_ofInt_of_toInt? {x : Binary64} (h : x.toInt? = some m) :
    x = ofInt m := by
  obtain ⟨hfinite, hne, hplace⟩ := toInt?_eq_some_iff.mp h
  cases x with
  | nan | infinite _ => exact absurd hfinite Bool.false_ne_true
  | finite negative e f =>
      obtain ⟨q, hq⟩ := exists_units_of_position? hplace
      have hsigned : negative = true → q ≠ 0 := by
        intro hnegative hzero
        exact hne ((finite_eq_negZero_iff hq).mpr ⟨hnegative, hzero⟩)
      rw [position?_finite hq, Option.some.injEq, mul_unitsPerOne_inj] at hplace
      rw [← hplace, ofInt_signedInt hsigned,
        ← ofRatio_mul_right _ _ _ unitsPerOne_pos, Nat.one_mul,
        ← hq, ofRatio_units]

/-! ## Conversion to 64 bits -/

theorem position?_int64Bound (negative : Bool) :
    (int64Bound negative).position? =
      some (signedInt negative (2 ^ 63) * unitsPerOne) := by
  apply position?_finite
  have hexponent : ((1086 : Fin 2047) : Nat) = 1085 + 1 := rfl
  rw [hexponent, units_normal, Fin.val_zero, Nat.add_zero, fractionCount_eq,
    unitsPerOne_eq, ← Nat.pow_add, ← Nat.pow_add]

theorem int64Bound_le_iff (hq : units e f = q * unitsPerOne) :
    (int64Bound true).le (finite negative e f) = true ↔
      -2 ^ 63 ≤ signedInt negative q := by
  have hpos : (0 : Int) < unitsPerOne := Int.natCast_pos.mpr unitsPerOne_pos
  rw [le, position?_int64Bound, position?_finite hq]
  exact decide_eq_true_iff.trans (Int.mul_le_mul_right hpos)

theorem lt_int64Bound_iff (hq : units e f = q * unitsPerOne) :
    (finite negative e f).lt (int64Bound false) = true ↔
      signedInt negative q < 2 ^ 63 := by
  have hpos : (0 : Int) < unitsPerOne := Int.natCast_pos.mpr unitsPerOne_pos
  rw [lt, position?_int64Bound, position?_finite hq]
  exact decide_eq_true_iff.trans (Int.mul_lt_mul_right hpos)

theorem toInt64_finite (hq : units e f = q * unitsPerOne) :
    (finite negative e f).toInt64 =
      Int64.ofIntClamp (signedInt negative q) := by
  rw [toInt64, hq, Nat.mul_div_cancel q unitsPerOne_pos]

/-- Clamping is exact between the bounds, and no integer lies outside them. -/
theorem ofIntClamp_eq_iff {n : Int64} :
    (-2 ^ 63 ≤ m ∧ m < 2 ^ 63) ∧ Int64.ofIntClamp m = n ↔ m = n.toInt := by
  constructor
  · rintro ⟨⟨hlow, hhigh⟩, rfl⟩
    exact (Int64.toInt_ofIntClamp hlow (Int.le_of_lt_add_one hhigh)).symm
  · rintro rfl
    exact ⟨⟨n.le_toInt, n.toInt_lt⟩, Int64.ofIntClamp_toInt n⟩

/-- Within the bounds a whole number is converted to the integer it is equal
to. -/
theorem toInt64_within_bounds_iff (hq : units e f = q * unitsPerOne)
    {n : Int64} :
    ((int64Bound true).le (finite negative e f) &&
      (finite negative e f).lt (int64Bound false) &&
        (finite negative e f).toInt64 == n) = true ↔
          signedInt negative q = n.toInt := by
  rw [Bool.and_eq_true, Bool.and_eq_true, int64Bound_le_iff hq,
    lt_int64Bound_iff hq, beq_iff_eq, toInt64_finite hq]
  exact ofIntClamp_eq_iff

end Binary64
end Concord
