import Concord.Proofs.FirstFit
import Concord.Proofs.Value.Children
import Concord.Value.Equivalent
import Mathlib.Data.List.Find

/-!
# Depth of the comparison

The comparison of two values enters itself once for every level of nesting, on
items that are lower than the values on either side. So the height of the lower
value bounds how many comparisons are ever under way at once: what the
comparison would answer below that level does not matter.
-/

namespace Concord
namespace Value

section Congruence

variable {eqv : Value → Value → Bool}

/-- `equivalentInOrder` with another comparison of the items. -/
def inOrderBy (eqv : Value → Value → Bool) : List Value → List Value → Bool
  | [], [] => true
  | a :: as, b :: bs => eqv a b && inOrderBy eqv as bs
  | _, _ => false

/-- `equivalentUnordered` with another comparison of the items. -/
def unorderedBy (eqv : Value → Value → Bool) : List Value → List Value → Bool
  | [], bs => bs.isEmpty
  | a :: as, bs =>
    match eraseFirst? (eqv a) bs with
    | some rest => unorderedBy eqv as rest
    | none => false

/-- `includesEntries` with another comparison of keys and values. -/
def includesBy (eqv : Value → Value → Bool) :
    List (Value × Value) → List (Value × Value) → Bool
  | [], _ => true
  | (k, v) :: rest, bs =>
    (match bs.find? fun e => eqv k e.1 with
      | some e => eqv v e.2
      | none => false) && includesBy eqv rest bs

theorem inOrderBy_eq {as bs : List Value}
    (h : ∀ a ∈ as, ∀ b ∈ bs, eqv a b = equivalent a b) :
    inOrderBy eqv as bs = equivalentInOrder as bs := by
  induction as generalizing bs with
  | nil =>
      cases bs with
      | nil => rw [inOrderBy, equivalentInOrder]
      | cons b bs => rw [inOrderBy, equivalentInOrder] <;> simp
  | cons a as ih =>
      cases bs with
      | nil => rw [inOrderBy, equivalentInOrder] <;> simp
      | cons b bs =>
          have htail : inOrderBy eqv as bs = equivalentInOrder as bs := by
            apply ih
            intro a' ha' b' hb'
            exact h a' (List.mem_cons_of_mem a ha') b'
              (List.mem_cons_of_mem b hb')
          rw [inOrderBy, equivalentInOrder,
            h a List.mem_cons_self b List.mem_cons_self, htail]

theorem eraseFirst?_congr {α : Type} {p q : α → Bool} {xs : List α}
    (h : ∀ x ∈ xs, p x = q x) : eraseFirst? p xs = eraseFirst? q xs := by
  induction xs with
  | nil => rfl
  | cons x xs ih =>
      rw [eraseFirst?, eraseFirst?, h x List.mem_cons_self,
        ih fun y hy => h y (List.mem_cons_of_mem x hy)]

theorem mem_of_mem_eraseFirst? {α : Type} {p : α → Bool} {xs rest : List α}
    (h : eraseFirst? p xs = some rest) {x : α} (hx : x ∈ rest) : x ∈ xs := by
  obtain ⟨before, a, after, rfl, -, -, rfl⟩ := exists_of_eraseFirst? h
  rcases List.mem_append.mp hx with hbefore | hafter
  · exact List.mem_append_left _ hbefore
  · exact List.mem_append_right _ (List.mem_cons_of_mem a hafter)

theorem unorderedBy_eq {as bs : List Value}
    (h : ∀ a ∈ as, ∀ b ∈ bs, eqv a b = equivalent a b) :
    unorderedBy eqv as bs = equivalentUnordered as bs := by
  induction as generalizing bs with
  | nil => rw [unorderedBy, equivalentUnordered]
  | cons a as ih =>
      rw [unorderedBy, equivalentUnordered,
        eraseFirst?_congr (h a List.mem_cons_self)]
      cases hrest : eraseFirst? (equivalent a) bs with
      | none => rfl
      | some rest =>
          apply ih
          intro a' ha' b hb
          exact h a' (List.mem_cons_of_mem a ha') b
            (mem_of_mem_eraseFirst? hrest hb)

theorem includesBy_eq {as bs : List (Value × Value)}
    (hkeys : ∀ e ∈ as, ∀ f ∈ bs, eqv e.1 f.1 = equivalent e.1 f.1)
    (hvalues : ∀ e ∈ as, ∀ f ∈ bs, eqv e.2 f.2 = equivalent e.2 f.2) :
    includesBy eqv as bs = includesEntries as bs := by
  induction as with
  | nil => rw [includesBy, includesEntries]
  | cons e as ih =>
      obtain ⟨k, v⟩ := e
      have htail : includesBy eqv as bs = includesEntries as bs := by
        apply ih
        · intro e he
          exact hkeys e (List.mem_cons_of_mem _ he)
        · intro e he
          exact hvalues e (List.mem_cons_of_mem _ he)
      rw [includesBy, includesEntries, htail,
        List.find?_congr (hkeys (k, v) List.mem_cons_self)]
      cases hfind : bs.find? fun f => equivalent k f.1 with
      | none => rfl
      | some f =>
          dsimp only
          rw [hvalues (k, v) List.mem_cons_self f
            (List.mem_of_find?_eq_some hfind)]

end Congruence

/-- Compares two values and leaves the comparison of the values inside them to
`eqv`. -/
def compareBy (eqv : Value → Value → Bool) : Value → Value → Bool
  | .list a, .list b => inOrderBy eqv a b
  | .tuple a, .tuple b => inOrderBy eqv a b
  | .set a, .set b => unorderedBy eqv a b
  | .frozenSet a, .frozenSet b => unorderedBy eqv a b
  | .dict a, .dict b => a.length == b.length && includesBy eqv a b
  | .call f a, .call g b => f == g && inOrderBy eqv a b
  | a, b => equivalent a b

/-- Compares two values with at most `levels` comparisons under way at once.
Below them, `cutOff` answers. -/
def equivalentWithin (cutOff : Value → Value → Bool) :
    (levels : Nat) → Value → Value → Bool
  | 0 => cutOff
  | levels + 1 => compareBy (equivalentWithin cutOff levels)

theorem compareBy_eq {eqv : Value → Value → Bool} {a b : Value}
    (h : ∀ u ∈ a.children, ∀ v ∈ b.children, eqv u v = equivalent u v) :
    compareBy eqv a b = equivalent a b := by
  unfold compareBy
  split
  · rw [equivalent]
    exact inOrderBy_eq h
  · rw [equivalent]
    exact inOrderBy_eq h
  · rw [equivalent]
    exact unorderedBy_eq h
  · rw [equivalent]
    exact unorderedBy_eq h
  · rw [equivalent, includesBy_eq]
    · intro e he f hf
      exact h e.1 (key_mem_children he) f.1 (key_mem_children hf)
    · intro e he f hf
      exact h e.2 (value_mem_children he) f.2 (value_mem_children hf)
  · rw [equivalent]
    exact congrArg _ (inOrderBy_eq h)
  · rfl

theorem height_pos (v : Value) : 0 < v.height := by
  cases v <;> simp [height]

/-- The lower of the two values bounds the depth of their comparison. -/
theorem equivalentWithin_eq (cutOff : Value → Value → Bool) {levels : Nat}
    {a b : Value} (h : min a.height b.height ≤ levels) :
    equivalentWithin cutOff levels a b = equivalent a b := by
  induction levels generalizing a b with
  | zero =>
      have ha := height_pos a
      have hb := height_pos b
      omega
  | succ levels ih =>
      apply compareBy_eq
      intro u hu v hv
      have hua := height_lt_of_mem_children hu
      have hvb := height_lt_of_mem_children hv
      exact ih (by omega)

end Value
end Concord
