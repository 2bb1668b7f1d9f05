import Concord.Proofs.Binary64.Whole
import Concord.Proofs.FirstFit
import Concord.Proofs.Value.Children

/-!
# What agreement amounts to

Atoms agree when they denote the same. Containers agree when they are of the
same kind and their items agree in order, in some order, or under their keys.
-/

namespace Concord
namespace Value

/-- The two values agree. -/
abbrev Agree (a b : Value) : Prop :=
  a.equivalent b = true

attribute [local simp] equivalent

/-! ## Atoms -/

/-- The value is not a container. -/
def IsAtom : Value → Prop
  | .list _ | .tuple _ | .set _ | .frozenSet _ | .dict _ | .call _ _ => False
  | _ => True

theorem IsAtom.children_eq {v : Value} (h : IsAtom v) : v.children = [] := by
  cases v with
  | list _ | tuple _ | set _ | frozenSet _ | dict _ | call _ _ => exact h.elim
  | _ => rfl

/-- What a float denotes: the 64-bit integer it is equal to, or else itself. -/
def floatMeaning (x : Binary64) : Value :=
  match x.toInt? with
  | some n =>
    if (Int64.ofInt n).toInt = n then .int (Int64.ofInt n) else .float x
  | none => .float x

/-- What an atom denotes. Addresses in text do not count. -/
def meaning : Value → Value
  | .float x => floatMeaning x
  | .verbatim text => .verbatim (Address.normalise text)
  | v => v

theorem floatMeaning_cases (x : Binary64) :
    (∃ n : Int64, x.toInt? = some n.toInt ∧ floatMeaning x = .int n) ∨
      (∀ n : Int64, x.toInt? ≠ some n.toInt) ∧ floatMeaning x = .float x := by
  rw [floatMeaning]
  cases hx : x.toInt? with
  | none => exact Or.inr ⟨nofun, rfl⟩
  | some n =>
      by_cases hn : (Int64.ofInt n).toInt = n
      · exact Or.inl ⟨Int64.ofInt n, by rw [hn], if_pos hn⟩
      · refine Or.inr ⟨fun m hm => hn ?_, if_neg hn⟩
        rw [Option.some.inj hm, Int64.ofInt_toInt]

/-- An integer is equal to the float at its own place, unless that is a negative
zero. -/
theorem intEqualsFloat_iff_position? {n : Int64} {x : Binary64} :
    intEqualsFloat n x = true ↔ x.isFinite = true ∧ x ≠ .negZero ∧
      x.position? = some (n.toInt * Binary64.unitsPerOne) := by
  cases x with
  | nan | infinite _ =>
      refine iff_of_false Bool.false_ne_true ?_
      rintro ⟨hfinite, -⟩
      exact Bool.false_ne_true hfinite
  | finite negative e f =>
      by_cases hwhole : ∃ q, Binary64.units e f = q * Binary64.unitsPerOne
      · obtain ⟨q, hq⟩ := hwhole
        have hwhole := (Binary64.isWhole_finite_iff negative).mpr ⟨q, hq⟩
        rw [Binary64.position?_finite hq, Option.some.injEq,
          Binary64.mul_unitsPerOne_inj, ← Binary64.toInt64_within_bounds_iff hq]
        simp [intEqualsFloat, Binary64.isFinite, hwhole]
      · have hnot := mt (Binary64.isWhole_finite_iff negative).mp hwhole
        refine iff_of_false (by simp [intEqualsFloat, hnot]) ?_
        rintro ⟨-, -, hplace⟩
        exact hwhole (Binary64.exists_units_of_position? hplace)

theorem intEqualsFloat_iff_toInt? {n : Int64} {x : Binary64} :
    intEqualsFloat n x = true ↔ x.toInt? = some n.toInt := by
  rw [intEqualsFloat_iff_position?, Binary64.toInt?_eq_some_iff]

theorem intEqualsFloat_iff {n : Int64} {x : Binary64} :
    intEqualsFloat n x = true ↔ floatMeaning x = .int n := by
  rw [intEqualsFloat_iff_toInt?]
  rcases floatMeaning_cases x with ⟨m, hm, hden⟩ | ⟨hne, hden⟩
  · rw [hm, hden, Option.some.injEq, Value.int.injEq, Int64.toInt_inj]
  · rw [hden]
    exact iff_of_false (hne n) nofun

theorem floatMeaning_inj {x y : Binary64} :
    floatMeaning x = floatMeaning y ↔ x = y := by
  refine ⟨fun h => ?_, fun h => h ▸ rfl⟩
  rcases floatMeaning_cases x with ⟨m, hm, hx⟩ | ⟨-, hx⟩
  · -- Two floats that are equal to one integer are the same.
    have hy : y.toInt? = some m.toInt :=
      intEqualsFloat_iff_toInt?.mp (intEqualsFloat_iff.mpr (h.symm.trans hx))
    rw [Binary64.eq_ofInt_of_toInt? hm, Binary64.eq_ofInt_of_toInt? hy]
  · rcases floatMeaning_cases y with ⟨n, -, hy⟩ | ⟨-, hy⟩
    · exact nomatch hx.symm.trans (h.trans hy)
    · exact Value.float.inj (hx.symm.trans (h.trans hy))

theorem ne_floatMeaning {x : Binary64} {v : Value} (hint : ∀ n, v ≠ .int n)
    (hfloat : ∀ y, v ≠ .float y) : v ≠ floatMeaning x := by
  rcases floatMeaning_cases x with ⟨n, -, hx⟩ | ⟨-, hx⟩
  · exact hx ▸ hint n
  · exact hx ▸ hfloat x

/-- An atom agrees with exactly the values that denote the same. -/
theorem agree_iff_meaning {a : Value} (ha : IsAtom a) (b : Value) :
    Agree a b ↔ meaning a = meaning b := by
  cases a with
  | float x =>
      cases b with
      | int n => simp only [Agree, equivalent, meaning, intEqualsFloat_iff]
      | float y =>
          simp only [Agree, equivalent, meaning, floatMeaning_inj, beq_iff_eq]
      | _ =>
          refine iff_of_false (by simp) (ne_floatMeaning ?_ ?_).symm
          all_goals simp [meaning]
  | int n =>
      cases b with
      | float x =>
          rw [Agree, equivalent, intEqualsFloat_iff]
          exact eq_comm
      | _ => simp [Agree, meaning]
  | list _ | tuple _ | set _ | frozenSet _ | dict _ | call _ _ => exact ha.elim
  | _ =>
      cases b with
      | float x =>
          refine iff_of_false (by simp) (ne_floatMeaning ?_ ?_)
          all_goals simp [meaning]
      | _ => simp [Agree, meaning]

theorem IsAtom.of_agree {a b : Value} (ha : IsAtom a) (h : Agree a b) :
    IsAtom b := by
  cases b with
  | list _ | tuple _ | set _ | frozenSet _ | dict _ | call _ _ =>
      cases a with
      | list _ | tuple _ | set _ | frozenSet _ | dict _ | call _ _ =>
          exact ha.elim
      | _ => simp [Agree] at h
  | _ => trivial

/-! ## Containers -/

theorem agree_list_iff {as : List Value} {b : Value} :
    Agree (.list as) b ↔
      ∃ bs, b = .list bs ∧ equivalentInOrder as bs = true := by
  cases b <;> simp [Agree]

theorem agree_tuple_iff {as : List Value} {b : Value} :
    Agree (.tuple as) b ↔
      ∃ bs, b = .tuple bs ∧ equivalentInOrder as bs = true := by
  cases b <;> simp [Agree]

theorem agree_call_iff {f : String} {as : List Value} {b : Value} :
    Agree (.call f as) b ↔
      ∃ bs, b = .call f bs ∧ equivalentInOrder as bs = true := by
  cases b with
  | call g bs =>
      simp only [Agree, equivalent, Bool.and_eq_true, beq_iff_eq,
        Value.call.injEq]
      constructor
      · rintro ⟨rfl, h⟩
        exact ⟨bs, ⟨rfl, rfl⟩, h⟩
      · rintro ⟨bs', ⟨rfl, rfl⟩, h⟩
        exact ⟨rfl, h⟩
  | _ => simp [Agree]

theorem agree_set_iff {as : List Value} {b : Value} :
    Agree (.set as) b ↔
      ∃ bs, b = .set bs ∧ equivalentUnordered as bs = true := by
  cases b <;> simp [Agree]

theorem agree_frozenSet_iff {as : List Value} {b : Value} :
    Agree (.frozenSet as) b ↔
      ∃ bs, b = .frozenSet bs ∧ equivalentUnordered as bs = true := by
  cases b <;> simp [Agree]

theorem agree_dict_iff {as : List (Value × Value)} {b : Value} :
    Agree (.dict as) b ↔
      ∃ bs, b = .dict bs ∧ as.length = bs.length ∧
        includesEntries as bs = true := by
  cases b <;> simp [Agree]

theorem equivalentInOrder_iff {as bs : List Value} :
    equivalentInOrder as bs = true ↔ List.Forall₂ Agree as bs := by
  induction as generalizing bs with
  | nil => cases bs <;> simp [equivalentInOrder]
  | cons a as ih =>
      cases bs with
      | nil => simp [equivalentInOrder]
      | cons b bs =>
          rw [equivalentInOrder, Bool.and_eq_true, ih, List.forall₂_cons]

theorem equivalentUnordered_iff {as bs : List Value} :
    equivalentUnordered as bs = true ↔ FirstFit Agree as bs := by
  constructor
  · intro h
    induction as generalizing bs with
    | nil =>
        rw [equivalentUnordered, List.isEmpty_iff] at h
        rw [h]
        exact .nil
    | cons a as ih =>
        rw [equivalentUnordered] at h
        cases hfirst : eraseFirst? (equivalent a) bs with
        | none => simp [hfirst] at h
        | some rest =>
            rw [hfirst] at h
            obtain ⟨before, b, after, rfl, hbefore, hab, rfl⟩ :=
              exists_of_eraseFirst? hfirst
            exact .cons hbefore hab (ih h)
  · intro h
    induction h with
    | nil => simp [equivalentUnordered]
    | cons hbefore hab _ ih =>
        rw [equivalentUnordered, eraseFirst?_append hbefore hab]
        exact ih

theorem agree_of_find? {k : Value} {bs : List (Value × Value)}
    {f : Value × Value} (h : bs.find? (fun g => k.equivalent g.1) = some f) :
    f ∈ bs ∧ Agree k f.1 := by
  have hagree := List.find?_some h
  exact ⟨List.mem_of_find?_eq_some h, hagree⟩

theorem exists_find?_of_agree {k : Value} {bs : List (Value × Value)}
    {f : Value × Value} (hf : f ∈ bs) (h : Agree k f.1) :
    ∃ g, bs.find? (fun g => k.equivalent g.1) = some g :=
  Option.isSome_iff_exists.mp (List.find?_isSome.mpr ⟨f, hf, h⟩)

theorem includesEntries_iff {as bs : List (Value × Value)} :
    includesEntries as bs = true ↔
      ∀ e ∈ as, ∃ f, bs.find? (fun g => e.1.equivalent g.1) = some f ∧
        Agree e.2 f.2 := by
  induction as with
  | nil => simp [includesEntries]
  | cons e as ih =>
      rw [includesEntries, Bool.and_eq_true, ih, List.forall_mem_cons]
      refine and_congr_left fun _ => ?_
      cases bs.find? (fun g => e.1.equivalent g.1) <;> simp [Agree]

end Value
end Concord
