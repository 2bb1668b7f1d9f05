import Concord.Proofs.Value.Equivalence

/-!
# Agreement up to reordering

The search for partners is greedy, and the lookup of keys never marks an entry
as used. On well-formed values neither misses a matching nor finds a false one,
so sets agree when their items agree one by one in some order, and dictionaries
when their entries do.
-/

namespace Concord
namespace Value

variable {as bs : List (Value × Value)}

/-- The keys agree, and so do the values. -/
def AgreeEntry (e f : Value × Value) : Prop :=
  Agree e.1 f.1 ∧ Agree e.2 f.2

theorem matching_regularEntry_iff
    (hregular : ∀ e ∈ as, Regular e.1 ∧ Regular e.2) :
    Matching RegularEntry as bs ↔ Matching AgreeEntry as bs := by
  constructor
  · intro h
    exact h.mono fun e f hef => ⟨hef.1.2, hef.2.2⟩
  · intro h
    refine (h.and_left hregular).mono ?_
    rintro e f ⟨⟨hkey, hvalue⟩, hef⟩
    exact ⟨⟨hkey, hef.1⟩, hvalue, hef.2⟩

/-- Looking up distinct keys finds the matchings of entries, and only them. -/
theorem includesEntries_iff_matching (hkeys : DistinctKeys as)
    (hregular : ∀ e ∈ as, Regular e.1 ∧ Regular e.2) :
    as.length = bs.length ∧ includesEntries as bs = true ↔
      Matching AgreeEntry as bs := by
  rw [← matching_regularEntry_iff hregular]
  constructor
  · rintro ⟨hlength, h⟩
    exact matching_of_includesEntries hkeys hregular hlength h
  · intro h
    -- The keys on the right are distinct as well, since they agree with those
    -- on the left.
    exact includesEntries_of_matching (hkeys.of_matching h) h

theorem WellFormed.regular_children {v : Value} (h : WellFormed v) :
    ∀ u ∈ v.children, Regular u := by
  intro u hu
  obtain ⟨-, hchildren⟩ := h
  exact (hchildren u hu).regular

theorem agree_set_iff_matching {as bs : List Value} (h : WellFormed (.set as)) :
    Agree (.set as) (.set bs) ↔ Matching Agree as bs := by
  rw [Agree, equivalent]
  exact equivalentUnordered_iff_matching h.regular_children

theorem agree_frozenSet_iff_matching {as bs : List Value}
    (h : WellFormed (.frozenSet as)) :
    Agree (.frozenSet as) (.frozenSet bs) ↔ Matching Agree as bs := by
  rw [Agree, equivalent]
  exact equivalentUnordered_iff_matching h.regular_children

theorem agree_dict_iff_matching (h : WellFormed (.dict as)) :
    Agree (.dict as) (.dict bs) ↔ Matching AgreeEntry as bs := by
  have hregular : ∀ e ∈ as, Regular e.1 ∧ Regular e.2 := by
    intro e he
    constructor
    · exact h.regular_children _ (key_mem_children he)
    · exact h.regular_children _ (value_mem_children he)
  obtain ⟨hkeys, -⟩ := h
  rw [Agree, equivalent, Bool.and_eq_true, beq_iff_eq]
  exact includesEntries_iff_matching hkeys hregular

/-- Sets agree exactly when the items of one agree, place by place, with those
of a permutation of the other; dictionaries exactly when keys and values do.
Only the value on the left has to be well formed. -/
theorem equivalent_iff_permuted :
    (∀ as bs : List Value, WellFormed (.set as) →
      (equivalent (.set as) (.set bs) = true ↔
        ∃ bs', List.Forall₂ (fun a b => equivalent a b = true) as bs' ∧
          bs'.Perm bs)) ∧
    (∀ as bs : List Value, WellFormed (.frozenSet as) →
      (equivalent (.frozenSet as) (.frozenSet bs) = true ↔
        ∃ bs', List.Forall₂ (fun a b => equivalent a b = true) as bs' ∧
          bs'.Perm bs)) ∧
    (∀ as bs : List (Value × Value), WellFormed (.dict as) →
      (equivalent (.dict as) (.dict bs) = true ↔
        ∃ bs', List.Forall₂ (fun e f => equivalent e.1 f.1 = true ∧
          equivalent e.2 f.2 = true)
          as bs' ∧ bs'.Perm bs)) := by
  refine ⟨?_, ?_, ?_⟩
  · intro as bs h
    exact agree_set_iff_matching h
  · intro as bs h
    exact agree_frozenSet_iff_matching h
  · intro as bs h
    exact agree_dict_iff_matching h

theorem wellFormed_set_of_isAtom {items : List Value}
    (h : ∀ v ∈ items, IsAtom v) : WellFormed (.set items) :=
  .intro trivial fun v hv => (h v hv).wellFormed

/-- A set with one item in two spellings agrees with a reordering of it, and not
with the set that holds the other item twice. The entries of two dictionaries
that agree can be put in one order. -/
theorem equivalent_iff_permuted_duplicates :
    let one := Value.float (Binary64.ofInt 1)
    equivalent (.set [.int 1, one, .int 2]) (.set [.int 2, .int 1, .int 1]) =
      true ∧
    (¬∃ bs', List.Forall₂ (fun a b => equivalent a b = true)
      [.int 1, one, .int 2] bs' ∧
      bs'.Perm [.int 2, .int 1, .int 2]) ∧
    ∃ bs', List.Forall₂ (fun e f => equivalent e.1 f.1 = true ∧
      equivalent e.2 f.2 = true)
        [(.int 1, .str "x"), (.str "k", .float .nan)] bs' ∧
      bs'.Perm [(.str "k", .float .nan), (one, .str "x")] := by
  intro one
  have hset : WellFormed (.set [.int 1, one, .int 2]) :=
    wellFormed_set_of_isAtom (by simp [one, IsAtom])
  have hdict :
      WellFormed (.dict [(.int 1, .str "x"), (.str "k", .float .nan)]) :=
    wellFormed_dict_of_isAtom (by simp [DistinctKeys, Agree, equivalent])
      (by simp [IsAtom])
  have hevaluated : equivalent one (.int 1) = true ∧
      equivalent (.set [.int 1, one, .int 2]) (.set [.int 2, .int 1, .int 2]) =
        false ∧
      equivalent (.dict [(.int 1, .str "x"), (.str "k", .float .nan)])
        (.dict [(.str "k", .float .nan), (one, .str "x")]) = true := by
    decide +kernel
  obtain ⟨hone, hnot, hentries⟩ := hevaluated
  obtain ⟨hsets, -, hdicts⟩ := equivalent_iff_permuted
  refine ⟨(hsets _ _ hset).mpr ⟨[.int 1, .int 1, .int 2], ?_, ?_⟩, ?_, ?_⟩
  · simp [hone, equivalent]
  · exact List.perm_append_singleton (Value.int 2) [.int 1, .int 1]
  · intro hpermuted
    exact absurd ((hsets _ _ hset).mpr hpermuted) (by simp [hnot])
  · exact (hdicts _ _ hdict).mp hentries

end Value
end Concord
