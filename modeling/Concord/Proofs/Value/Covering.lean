import Concord.Proofs.Value.Equivalence

/-!
# Covered values

Agreement looks the entries of one dictionary up in the other, in one direction
only. A value *covers* another one when each entry of the latter is found again
in the former. Between values of one shape this is agreement in the other
direction, and a value agrees with itself exactly when it covers itself.
-/

namespace Concord
namespace Value

/-- Every entry of the second value is found again in the first: under the first
key that agrees with its own stands a value that agrees with its value. -/
inductive Covers : Value → Value → Prop where
  | atom {a b : Value} (h : IsAtom a) : Covers a b
  | list {as bs : List Value} (h : ∀ p ∈ as.zip bs, Covers p.1 p.2) :
      Covers (.list as) (.list bs)
  | tuple {as bs : List Value} (h : ∀ p ∈ as.zip bs, Covers p.1 p.2) :
      Covers (.tuple as) (.tuple bs)
  | call {f g : String} {as bs : List Value}
      (h : ∀ p ∈ as.zip bs, Covers p.1 p.2) :
      Covers (.call f as) (.call g bs)
  | set {as bs : List Value} (h : FirstFit Agree bs as) :
      Covers (.set as) (.set bs)
  | frozenSet {as bs : List Value} (h : FirstFit Agree bs as) :
      Covers (.frozenSet as) (.frozenSet bs)
  | dict {as bs : List (Value × Value)}
      (h : ∀ f ∈ bs, ∃ e, as.find? (fun g => f.1.equivalent g.1) = some e ∧
        Agree f.2 e.2) : Covers (.dict as) (.dict bs)

section Inversion

variable {as bs : List Value}

theorem covers_list_iff :
    Covers (.list as) (.list bs) ↔ ∀ p ∈ as.zip bs, Covers p.1 p.2 := by
  refine ⟨fun h => ?_, .list⟩
  cases h with
  | atom h => exact h.elim
  | list h => exact h

theorem covers_tuple_iff :
    Covers (.tuple as) (.tuple bs) ↔ ∀ p ∈ as.zip bs, Covers p.1 p.2 := by
  refine ⟨fun h => ?_, .tuple⟩
  cases h with
  | atom h => exact h.elim
  | tuple h => exact h

theorem covers_call_iff {f g : String} :
    Covers (.call f as) (.call g bs) ↔ ∀ p ∈ as.zip bs, Covers p.1 p.2 := by
  refine ⟨fun h => ?_, .call⟩
  cases h with
  | atom h => exact h.elim
  | call h => exact h

theorem covers_set_iff : Covers (.set as) (.set bs) ↔ FirstFit Agree bs as := by
  refine ⟨fun h => ?_, .set⟩
  cases h with
  | atom h => exact h.elim
  | set h => exact h

theorem covers_frozenSet_iff :
    Covers (.frozenSet as) (.frozenSet bs) ↔ FirstFit Agree bs as := by
  refine ⟨fun h => ?_, .frozenSet⟩
  cases h with
  | atom h => exact h.elim
  | frozenSet h => exact h

theorem covers_dict_iff {as bs : List (Value × Value)} :
    Covers (.dict as) (.dict bs) ↔ includesEntries bs as = true := by
  rw [includesEntries_iff]
  refine ⟨fun h => ?_, .dict⟩
  cases h with
  | atom h => exact h.elim
  | dict h => exact h

end Inversion

/-! ## Covering and agreement -/

/-- The values are the same or agree, so they have the same shape. -/
def Alike (a b : Value) : Prop :=
  a = b ∨ Agree a b

theorem forall₂_alike {as bs : List Value}
    (h : as = bs ∨ equivalentInOrder as bs = true) :
    List.Forall₂ Alike as bs := by
  rcases h with rfl | h
  · exact List.forall₂_same.mpr fun _ _ => Or.inl rfl
  · exact (equivalentInOrder_iff.mp h).imp fun _ _ => Or.inr

theorem equivalentInOrder_iff_covers {as bs : List Value}
    (ih : ∀ a ∈ as, ∀ b, Alike a b → (Agree b a ↔ Covers a b))
    (h : as = bs ∨ equivalentInOrder as bs = true) :
    equivalentInOrder bs as = true ↔ ∀ p ∈ as.zip bs, Covers p.1 p.2 := by
  have halike := List.forall₂_iff_zip.mp (forall₂_alike h)
  have hpair {a b : Value} (hp : (a, b) ∈ as.zip bs) : Agree b a ↔ Covers a b :=
    ih a (List.of_mem_zip hp).1 b (halike.2 hp)
  rw [equivalentInOrder_iff]
  constructor
  · rintro hba ⟨a, b⟩ hp
    exact (hpair hp).mp (List.forall₂_zip hba.flip hp)
  · intro hcovers
    refine List.Forall₂.flip (List.forall₂_iff_zip.mpr ⟨halike.1, fun hp => ?_⟩)
    exact (hpair hp).mpr (hcovers _ hp)

theorem exists_of_alike {α : Type} {f : α → Value} {R : α → Prop} {x : α}
    (hf : ∀ {b}, Agree (f x) b ↔ ∃ y, b = f y ∧ R y) {b : Value}
    (h : Alike (f x) b) : ∃ y, b = f y ∧ (x = y ∨ R y) := by
  rcases h with rfl | h
  · exact ⟨x, rfl, Or.inl rfl⟩
  · obtain ⟨y, rfl, hy⟩ := hf.mp h
    exact ⟨y, rfl, Or.inr hy⟩

theorem IsAtom.agree_of_alike {a b : Value} (ha : IsAtom a) (h : Alike a b) :
    Agree b a := by
  rcases h with rfl | h
  · exact (regular_of_isAtom ha).refl
  · exact (regular_of_isAtom ha).symm h

/-- Between values of one shape, agreement in the other direction is
covering. -/
theorem agree_iff_covers {a b : Value} (h : Alike a b) :
    Agree b a ↔ Covers a b := by
  induction a using induction_on_children generalizing b with
  | step a ih =>
      by_cases hatom : IsAtom a
      · exact iff_of_true (hatom.agree_of_alike h) (.atom hatom)
      have hchildren : ∀ u ∈ a.children, ∀ v, Alike u v →
          (Agree v u ↔ Covers u v) :=
        fun u hu _ => ih u hu
      cases a with
      | list as =>
          obtain ⟨bs, rfl, hbs⟩ := exists_of_alike agree_list_iff h
          rw [Agree, equivalent, covers_list_iff]
          exact equivalentInOrder_iff_covers hchildren hbs
      | tuple as =>
          obtain ⟨bs, rfl, hbs⟩ := exists_of_alike agree_tuple_iff h
          rw [Agree, equivalent, covers_tuple_iff]
          exact equivalentInOrder_iff_covers hchildren hbs
      | call f as =>
          obtain ⟨bs, rfl, hbs⟩ := exists_of_alike agree_call_iff h
          rw [Agree, equivalent, beq_self_eq_true, Bool.true_and,
            covers_call_iff]
          exact equivalentInOrder_iff_covers hchildren hbs
      | set as =>
          obtain ⟨bs, rfl, -⟩ := exists_of_alike agree_set_iff h
          rw [covers_set_iff, ← equivalentUnordered_iff, Agree, equivalent]
      | frozenSet as =>
          obtain ⟨bs, rfl, -⟩ := exists_of_alike agree_frozenSet_iff h
          rw [covers_frozenSet_iff, ← equivalentUnordered_iff, Agree,
            equivalent]
      | dict as =>
          obtain ⟨bs, rfl, hbs⟩ := exists_of_alike agree_dict_iff h
          have hlength : bs.length = as.length := by
            rcases hbs with rfl | ⟨hlength, -⟩
            · rfl
            · exact hlength.symm
          rw [covers_dict_iff, Agree, equivalent, hlength, beq_self_eq_true,
            Bool.true_and]
      | _ => exact absurd trivial hatom

theorem agree_self_iff_covers {v : Value} : Agree v v ↔ Covers v v :=
  agree_iff_covers (Or.inl rfl)

/-! ## Unambiguous values -/

/-- No entry of the value, if it is a dictionary, disagrees with an earlier one
whose key agrees with its own. -/
def IsUnshadowed : Value → Prop
  | .dict entries => entries.Pairwise fun e f => Agree f.1 e.1 → Agree f.2 e.2
  | _ => True

/-- In every dictionary in the value, at any depth and inside keys too, entries
with agreeing keys have agreeing values. -/
inductive Unambiguous : Value → Prop where
  | intro {v : Value} (entries : IsUnshadowed v)
      (children : ∀ u ∈ v.children, Unambiguous u) : Unambiguous v

theorem IsAtom.unambiguous {v : Value} (h : IsAtom v) : Unambiguous v := by
  have hunshadowed : IsUnshadowed v := by
    cases v with
    | dict _ => exact h.elim
    | _ => trivial
  refine .intro hunshadowed ?_
  rw [h.children_eq]
  exact nofun

theorem unambiguous_dict_of_isAtom {entries : List (Value × Value)}
    (hentries : IsUnshadowed (.dict entries))
    (h : ∀ e ∈ entries, IsAtom e.1 ∧ IsAtom e.2) :
    Unambiguous (.dict entries) := by
  refine .intro hentries fun v hv => ?_
  obtain ⟨e, he, rfl | rfl⟩ := mem_children_dict.mp hv
  · exact (h e he).1.unambiguous
  · exact (h e he).2.unambiguous

theorem includesEntries_self {entries : List (Value × Value)}
    (hentries : IsUnshadowed (.dict entries))
    (hself : ∀ e ∈ entries, Agree e.1 e.1 ∧ Agree e.2 e.2) :
    includesEntries entries entries = true := by
  refine includesEntries_iff.mpr fun e he => ?_
  obtain ⟨f, hf⟩ := exists_find?_of_agree he (hself e he).1
  refine ⟨f, hf, ?_⟩
  obtain ⟨hagree, before, after, rfl, hbefore⟩ :=
    List.find?_eq_some_iff_append.mp hf
  -- The entry found is `e` itself or stands before it.
  rcases List.mem_append.mp he with hmem | hmem
  · have hnot := hbefore e hmem
    rw [(hself e he).1] at hnot
    exact nomatch hnot
  · rcases List.mem_cons.mp hmem with rfl | hafter
    · exact (hself e he).2
    · have hpair := (List.pairwise_append.mp hentries).2.1
      exact (List.pairwise_cons.mp hpair).1 e hafter hagree

theorem Unambiguous.agree_self {v : Value} (h : Unambiguous v) : Agree v v := by
  induction h with
  | @intro v entries _ ih =>
      by_cases hatom : IsAtom v
      · exact (regular_of_isAtom hatom).refl
      have hinOrder : equivalentInOrder v.children v.children = true :=
        equivalentInOrder_iff.mpr (List.forall₂_same.mpr ih)
      have hunordered : equivalentUnordered v.children v.children = true :=
        equivalentUnordered_iff.mpr (.refl ih)
      cases v with
      | list items => exact agree_list_iff.mpr ⟨items, rfl, hinOrder⟩
      | tuple items => exact agree_tuple_iff.mpr ⟨items, rfl, hinOrder⟩
      | call f args => exact agree_call_iff.mpr ⟨args, rfl, hinOrder⟩
      | set items => exact agree_set_iff.mpr ⟨items, rfl, hunordered⟩
      | frozenSet items =>
          exact agree_frozenSet_iff.mpr ⟨items, rfl, hunordered⟩
      | dict es =>
          have hself : ∀ e ∈ es, Agree e.1 e.1 ∧ Agree e.2 e.2 := fun e he =>
            ⟨ih _ (key_mem_children he), ih _ (value_mem_children he)⟩
          exact agree_dict_iff.mpr
            ⟨es, rfl, rfl, includesEntries_self entries hself⟩
      | _ => exact absurd trivial hatom

end Value
end Concord
