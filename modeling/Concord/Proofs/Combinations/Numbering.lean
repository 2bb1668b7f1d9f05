import Concord.Proofs.Combinations
import Mathlib.Algebra.BigOperators.Ring.List
import Mathlib.Algebra.GroupWithZero.Nat
import Mathlib.Data.List.Lex

/-!
# The numbers of combinations

The combinations of a list of pools are numbered in lexicographic order. Written
in mixed radix with the sizes of the pools as its radices, the number of a
combination has the places of its items as digits, the last pool giving the
least significant one.
-/

namespace Concord

variable {α : Type}

/-! ## Digits in mixed radix -/

/-- The digits of a number in mixed radix, the last one being the least
significant. -/
def mixedDigits : (radices : List Nat) → Nat → List Nat
  | [], _ => []
  | radix :: radices, i => i / radices.prod % radix :: mixedDigits radices i

/-- The digits do not see multiples of the product of the radices. -/
theorem mixedDigits_mod_mul (radices : List Nat) (i k : Nat) :
    mixedDigits radices (i % (radices.prod * k)) = mixedDigits radices i := by
  induction radices generalizing k with
  | nil => rfl
  | cons radix radices ih =>
      have hproduct : (radix :: radices).prod * k =
          radices.prod * (radix * k) := by
        rw [List.prod_cons, Nat.mul_comm radix, Nat.mul_assoc]
      rw [mixedDigits, mixedDigits, hproduct, ih, Nat.mod_mul_right_div_self,
        Nat.mod_mul_right_mod]

theorem mixedDigits_mod (radices : List Nat) (i : Nat) :
    mixedDigits radices (i % radices.prod) = mixedDigits radices i := by
  simpa using mixedDigits_mod_mul radices i 1

/-- Below the product of the radices the first digit is the quotient itself. -/
theorem mixedDigits_cons_of_lt {radix : Nat} {radices : List Nat} {i : Nat}
    (hi : i < (radix :: radices).prod) :
    mixedDigits (radix :: radices) i =
      i / radices.prod :: mixedDigits radices (i % radices.prod) := by
  rw [List.prod_cons, Nat.mul_comm] at hi
  rw [mixedDigits, mixedDigits_mod, Nat.mod_eq_of_lt (Nat.div_lt_of_lt_mul hi)]

/-- Every list of places is the digits of some number. -/
theorem exists_mixedDigits_eq {places radices : List Nat}
    (h : List.Forall₂ (· < ·) places radices) :
    ∃ i < radices.prod, mixedDigits radices i = places := by
  induction h with
  | nil => exact ⟨0, Nat.one_pos, rfl⟩
  | @cons place radix places radices hplace _ ih =>
      obtain ⟨i, hi, hdigits⟩ := ih
      have hpos : 0 < radices.prod := Nat.lt_of_le_of_lt (Nat.zero_le i) hi
      have hquotient : (radices.prod * place + i) / radices.prod = place := by
        rw [Nat.mul_add_div hpos, Nat.div_eq_of_lt hi, Nat.add_zero]
      have hremainder : (radices.prod * place + i) % radices.prod = i := by
        rw [Nat.mul_add_mod, Nat.mod_eq_of_lt hi]
      have hlt : radices.prod * place + i < (radix :: radices).prod := by
        calc radices.prod * place + i < radices.prod * place + radices.prod :=
              Nat.add_lt_add_left hi _
          _ = radices.prod * (place + 1) := rfl
          _ ≤ radices.prod * radix := Nat.mul_le_mul_left _ hplace
          _ = (radix :: radices).prod := Nat.mul_comm _ _
      refine ⟨radices.prod * place + i, hlt, ?_⟩
      rw [mixedDigits_cons_of_lt hlt, hquotient, hremainder, hdigits]

/-- A greater number has lexicographically greater digits. -/
theorem mixedDigits_lt_mixedDigits {radices : List Nat} {i j : Nat}
    (hij : i < j) (hj : j < radices.prod) :
    mixedDigits radices i < mixedDigits radices j := by
  induction radices generalizing i j with
  | nil =>
      rw [List.prod_nil] at hj
      omega
  | cons radix radices ih =>
      have hpos : 0 < radices.prod := Nat.pos_of_lt_mul_left hj
      rw [mixedDigits_cons_of_lt hj, mixedDigits_cons_of_lt (hij.trans hj),
        List.cons_lt_cons_iff]
      rcases (Nat.div_le_div_right (c := radices.prod) hij.le).lt_or_eq with
        hquotient | hquotient
      · exact Or.inl hquotient
      · refine Or.inr ⟨hquotient, ih ?_ (Nat.mod_lt j hpos)⟩
        have hi := Nat.div_add_mod i radices.prod
        have hj := Nat.div_add_mod j radices.prod
        rw [hquotient] at hi
        omega

theorem mixedDigits_injective {radices : List Nat} {i j : Nat}
    (hi : i < radices.prod) (hj : j < radices.prod)
    (h : mixedDigits radices i = mixedDigits radices j) : i = j := by
  rcases Nat.lt_trichotomy i j with hij | hij | hij
  · exact absurd (mixedDigits_lt_mixedDigits hij hj) (h ▸ List.lt_irrefl _)
  · exact hij
  · exact absurd (mixedDigits_lt_mixedDigits hij hi) (h ▸ List.lt_irrefl _)

/-! ## Combinations by number -/

/-- Extending every front by every item of the next pool, pool after pool, gives
the combinations. -/
theorem foldl_extend_eq (pools : List (List α)) (fronts : List (List α)) :
    pools.foldl (fun fronts pool => fronts.flatMap fun front =>
      pool.map fun a => front ++ [a])
        fronts =
      fronts.flatMap fun front => (combinations pools).map (front ++ ·) := by
  induction pools generalizing fronts with
  | nil => simp [combinations]
  | cons pool pools ih =>
      rw [List.foldl_cons, ih, List.flatMap_assoc]
      refine List.flatMap_congr fun front _ => ?_
      simp [combinations, List.flatMap_map, List.map_flatMap, Function.comp_def]

theorem combinations_eq_foldl (pools : List (List α)) :
    combinations pools =
      pools.foldl (fun fronts pool => fronts.flatMap fun front =>
        pool.map fun a => front ++ [a])
        [[]] := by
  rw [foldl_extend_eq]
  simp

/-- The combination with a given number has the item at the place of each
digit. -/
theorem exists_getElem?_combinations (pools : List (List α)) {i : Nat}
    (hi : i < (pools.map List.length).prod) :
    ∃ items, (combinations pools)[i]? = some items ∧
      items.map some =
        List.zipWith (fun pool place => pool[place]?) pools
          (mixedDigits (pools.map List.length) i) := by
  rw [getElem?_combinations]
  induction pools generalizing i with
  | nil =>
      refine ⟨[], ?_, rfl⟩
      rw [combinationAt, if_pos (Nat.lt_one_iff.mp hi)]
  | cons pool pools ih =>
      rw [List.map_cons] at hi
      have hpos : 0 < (pools.map List.length).prod := Nat.pos_of_lt_mul_left hi
      have hquotient : i / (pools.map List.length).prod < pool.length := by
        rw [Nat.div_lt_iff_lt_mul hpos]
        exact hi
      obtain ⟨items, hitems, hplaces⟩ := ih (Nat.mod_lt i hpos)
      refine ⟨pool[i / (pools.map List.length).prod] :: items, ?_, ?_⟩
      · simp [combinationAt, hitems, hquotient]
      · rw [List.map_cons, List.map_cons, mixedDigits_cons_of_lt hi,
          List.zipWith_cons_cons, hplaces, List.getElem?_eq_getElem hquotient]

theorem combinations_eq_nil_iff {pools : List (List α)} :
    combinations pools = [] ↔ [] ∈ pools := by
  rw [← List.length_eq_zero_iff, length_combinations, List.prod_eq_zero_iff,
    List.mem_map]
  simp

/-- The combinations are the cartesian product of the pools in lexicographic
order. Each choice of places has one number, whose digits are the places. -/
theorem combinations_lexicographic (pools : List (List α)) :
    let radices := pools.map List.length
    combinations pools =
      pools.foldl (fun fronts pool => fronts.flatMap fun front =>
        pool.map fun a => front ++ [a])
        [[]] ∧
    (combinations pools).length = radices.prod ∧
    (combinations pools = [] ↔ [] ∈ pools) ∧
    (∀ i < radices.prod, ∃ items, (combinations pools)[i]? = some items ∧
      items.map some =
        List.zipWith (fun pool place => pool[place]?) pools
          (mixedDigits radices i)) ∧
    (∀ places, List.Forall₂ (· < ·) places radices →
      ∃! i, i < radices.prod ∧ mixedDigits radices i = places) ∧
    (∀ i j, i < j → j < radices.prod →
      mixedDigits radices i < mixedDigits radices j) ∧
    (∀ items, items ∈ combinations pools ↔
      List.Forall₂ (· ∈ ·) items pools) := by
  refine ⟨combinations_eq_foldl pools, length_combinations pools,
    combinations_eq_nil_iff,
    fun i hi => exists_getElem?_combinations pools hi, ?_,
    fun i j hij hj => mixedDigits_lt_mixedDigits hij hj,
    fun items => mem_combinations⟩
  intro places hplaces
  obtain ⟨i, hi, hdigits⟩ := exists_mixedDigits_eq hplaces
  refine ⟨i, ⟨hi, hdigits⟩, ?_⟩
  rintro j ⟨hj, hsame⟩
  exact mixedDigits_injective hj hi (hsame.trans hdigits.symm)

theorem combinations_lexicographic_three_by_two :
    (∃ items, (combinations [["a", "b", "c"], ["x", "y"]])[3]? = some items ∧
      items.map some = [some "b", some "y"]) ∧
    (∃! i, i < 6 ∧ mixedDigits [3, 2] i = [1, 1]) ∧
    mixedDigits [3, 2] 3 < mixedDigits [3, 2] 4 := by
  obtain ⟨-, -, -, hitems, hunique, horder, -⟩ :=
    combinations_lexicographic [["a", "b", "c"], ["x", "y"]]
  exact ⟨hitems 3 (by decide), hunique [1, 1] (by decide),
    horder 3 4 (by decide) (by decide)⟩

end Concord
