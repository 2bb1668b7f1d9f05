import Concord.Proofs.Value.Covering
import Concord.Proofs.Value.RoundTrip
import Concord.Verdict

/-!
# Laws of verdicts

An outcome compared with itself, and two outcomes compared in both orders. The
laws hold where an outcome that agrees covers the other one. They fail only
where the keys of one dictionary agree with each other, since entries are looked
up in one direction and the same entry may be found twice.
-/

namespace Concord
namespace Outcome

variable {a b : Outcome}

theorem compare_value_eq_same_iff {t t' p p' : String} :
    (value t p).compare (value t' p') = .same ↔
      t = t' ∧ Value.Agree (Value.read p) (Value.read p') := by
  simp [compare]

theorem exists_value_of_compare_eq_same (h : a.compare b = .same) :
    ∃ t p p', a = value t p ∧ b = value t p' ∧
      Value.Agree (Value.read p) (Value.read p') := by
  cases a with
  | failure k m =>
      cases b with
      | failure k' m' =>
          simp only [compare] at h
          split_ifs at h
      | value t' p' => exact nomatch h
  | value t p =>
      cases b with
      | failure k' m' => exact nomatch h
      | value t' p' =>
          obtain ⟨rfl, hagree⟩ := compare_value_eq_same_iff.mp h
          exact ⟨t, p, p', rfl, rfl, hagree⟩

/-- Every entry of the value of the second outcome is found again in that of the
first. Failures hold no entries. -/
def Covers : Outcome → Outcome → Prop
  | .value _ printed, .value _ printed' =>
    (Value.read printed).Covers (Value.read printed')
  | _, _ => True

/-! ## An outcome and itself -/

/-- The verdict on two outcomes of this kind that agree. -/
def agreement : Outcome → Verdict
  | .value _ _ => .same
  | .failure _ _ => .bothFailedAlike

/-- Entries of one dictionary with agreeing keys have agreeing values. -/
def Unambiguous : Outcome → Prop
  | .value _ printed => (Value.read printed).Unambiguous
  | .failure _ _ => True

/-- An outcome agrees with itself exactly when it covers itself. Every failure
does, and so does a value whose dictionaries are unambiguous. -/
theorem compare_self_iff (o : Outcome) :
    (o.compare o = o.agreement ↔ o.Covers o) ∧
      (o.Unambiguous → o.compare o = o.agreement) := by
  cases o with
  | failure kind message =>
      have hself : (failure kind message).compare (failure kind message) =
          .bothFailedAlike := if_pos rfl
      exact ⟨iff_of_true hself trivial, fun _ => hself⟩
  | value t p =>
      have hsame : (value t p).compare (value t p) = .same ↔
          Value.Agree (Value.read p) (Value.read p) := by
        rw [compare_value_eq_same_iff]
        exact and_iff_right rfl
      refine ⟨hsame.trans Value.agree_self_iff_covers, fun h => hsame.mpr ?_⟩
      exact Value.Unambiguous.agree_self h

theorem read_of_literal? {v : Value} {printed : String}
    (hprinted : v.literal? = some printed)
    (hnesting : v.nesting ≤ Value.nestingLimit) : Value.read printed = v := by
  obtain ⟨cs, hcs, rfl⟩ := Option.map_eq_some_iff.mp hprinted
  rw [(Value.literalWritten _ cs hcs).read_eq, if_pos hnesting]

/-- Two keys that agree, with one value under both. -/
theorem compare_self_agreeing_keys :
    (value "dict" "\x7b1: 'x', 1.0: 'x', 'k': None\x7d").compare
      (value "dict" "\x7b1: 'x', 1.0: 'x', 'k': None\x7d") = .same := by
  refine (compare_self_iff _).2 ?_
  have hread : Value.read "\x7b1: 'x', 1.0: 'x', 'k': None\x7d" =
      .dict [(.int 1, .str "x"), (.float (Binary64.ofInt 1), .str "x"),
        (.str "k", .null)] :=
    read_of_literal? (by decide +kernel) (by decide +kernel)
  rw [Unambiguous, hread]
  exact Value.unambiguous_dict_of_isAtom
    (by simp [Value.IsUnshadowed, Value.Agree, Value.equivalent])
    (by simp [Value.IsAtom])

/-- Two entries under NaN with different values: the second one is looked up
under the first key, so the outcome differs from itself. -/
theorem compare_self_repeated_nan :
    (value "dict" "\x7bnan: 1, nan: 2\x7d").compare
      (value "dict" "\x7bnan: 1, nan: 2\x7d") = .different := by
  decide +kernel

/-! ## Two outcomes in both orders -/

/-- The outcome is a failure, or the dictionaries of its value have distinct
keys. -/
def WellFormed : Outcome → Prop
  | .value _ printed => (Value.read printed).WellFormed
  | .failure _ _ => True

/-- Only agreement of values depends on the order. -/
theorem compare_comm_iff_same :
    a.compare b = b.compare a ↔
      (a.compare b = .same ↔ b.compare a = .same) := by
  refine ⟨fun h => h ▸ Iff.rfl, fun h => ?_⟩
  cases a with
  | failure k m =>
      cases b with
      | failure k' m' => simp only [compare, eq_comm]
      | value t' p' => rfl
  | value t p =>
      cases b with
      | failure k' m' => rfl
      | value t' p' =>
          simp only [compare] at h ⊢
          split_ifs at h ⊢ <;> simp_all

/-- The outcome that agrees with another one covers it exactly when they also
agree in the other order. -/
theorem compare_eq_same_iff_covers (h : a.compare b = .same) :
    b.compare a = .same ↔ a.Covers b := by
  obtain ⟨t, p, p', rfl, rfl, hagree⟩ := exists_value_of_compare_eq_same h
  rw [compare_value_eq_same_iff, and_iff_right rfl]
  exact Value.agree_iff_covers (Or.inr hagree)

theorem WellFormed.of_compare_eq_same (ha : a.WellFormed)
    (h : a.compare b = .same) : a.Covers b ∧ b.WellFormed := by
  obtain ⟨t, p, p', rfl, rfl, hagree⟩ := exists_value_of_compare_eq_same h
  have hp : (Value.read p).WellFormed := ha
  refine ⟨?_, hp.of_agree hagree⟩
  exact (Value.agree_iff_covers (Or.inr hagree)).mp (hp.regular.symm hagree)

/-- Two outcomes have one verdict in both orders exactly when an outcome that
agrees with the other one covers it. A well-formed outcome does, and only agrees
with well-formed ones. -/
theorem compare_comm_iff (a b : Outcome) :
    (a.compare b = b.compare a ↔
      (a.compare b = .same → a.Covers b) ∧ (b.compare a = .same → b.Covers a)) ∧
    (a.WellFormed → a.compare b = .same → a.Covers b ∧ b.WellFormed) ∧
    (a.WellFormed → b.WellFormed → a.compare b = b.compare a) := by
  have hiff : a.compare b = b.compare a ↔
      (a.compare b = .same → a.Covers b) ∧
        (b.compare a = .same → b.Covers a) := by
    rw [compare_comm_iff_same]
    constructor
    · intro hsame
      refine ⟨fun hab => ?_, fun hba => ?_⟩
      · exact (compare_eq_same_iff_covers hab).mp (hsame.mp hab)
      · exact (compare_eq_same_iff_covers hba).mp (hsame.mpr hba)
    · rintro ⟨hcovers, hcovers'⟩
      refine ⟨fun hab => ?_, fun hba => ?_⟩
      · exact (compare_eq_same_iff_covers hab).mpr (hcovers hab)
      · exact (compare_eq_same_iff_covers hba).mpr (hcovers' hba)
  refine ⟨hiff, fun ha => ha.of_compare_eq_same, fun ha hb => hiff.mpr ⟨?_, ?_⟩⟩
  · exact fun h => (ha.of_compare_eq_same h).1
  · exact fun h => (hb.of_compare_eq_same h).1

/-- Two entries under NaN are both looked up under the same key, so an entry
that only the other outcome holds goes unnoticed in one order. -/
theorem compare_comm_fails_repeated_nan :
    (value "dict" "\x7bnan: 1, nan: 1\x7d").compare
        (value "dict" "\x7bnan: 1, 2: 3\x7d") = .same ∧
      (value "dict" "\x7bnan: 1, 2: 3\x7d").compare
        (value "dict" "\x7bnan: 1, nan: 1\x7d") = .different := by
  decide +kernel

/-- A dictionary of atoms with distinct keys, printed as its literal. -/
theorem wellFormed_of_literal? (es : List (Value × Value)) {t printed : String}
    (hprinted : (Value.dict es).literal? = some printed)
    (hnesting : (Value.dict es).nesting ≤ Value.nestingLimit)
    (hkeys : Value.DistinctKeys es) (hes : ∀ e ∈ es, e.1.IsAtom ∧ e.2.IsAtom) :
    (value t printed).WellFormed := by
  rw [WellFormed, read_of_literal? hprinted hnesting]
  exact Value.wellFormed_dict_of_isAtom hkeys hes

/-- Dictionaries in different order, with a whole number as an integer and as a
float, have one verdict in both orders. -/
theorem compare_comm_reordered :
    (value "dict" "\x7b1: 'x', 'k': None\x7d").compare
        (value "dict" "\x7b'k': None, 1.0: 'x'\x7d") =
      (value "dict" "\x7b'k': None, 1.0: 'x'\x7d").compare
        (value "dict" "\x7b1: 'x', 'k': None\x7d") := by
  refine (compare_comm_iff _ _).2.2 ?_ ?_
  · exact wellFormed_of_literal? [(.int 1, .str "x"), (.str "k", .null)]
      (by decide +kernel) (by decide +kernel)
      (by simp [Value.DistinctKeys, Value.equivalent]) (by simp [Value.IsAtom])
  · exact wellFormed_of_literal?
      [(.str "k", .null), (.float (Binary64.ofInt 1), .str "x")]
      (by decide +kernel) (by decide +kernel)
      (by simp [Value.DistinctKeys, Value.equivalent]) (by simp [Value.IsAtom])

end Outcome
end Concord
