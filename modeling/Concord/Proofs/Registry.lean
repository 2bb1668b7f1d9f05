import Concord.Expectation
import Concord.Proofs.Text.Lines

/-!
# What a registry holds

An entry is kept without its mark, and a label is looked up without its mark. So
a registration is found again under every label that is the same without a mark,
and nowhere else. The entries stay in increasing order, so a registry is
determined by what it holds.
-/

namespace Concord

/-! ## Entries without their mark -/

@[simp] theorem normaliseEntry_append (label : String) :
    normaliseEntry (testMark ++ label) = label := by
  have hafter : Text.after? testMark.toList (testMark ++ label).toList =
      some label.toList :=
    Text.after?_eq_some_iff.mpr (by simp)
  rw [normaliseEntry, hafter]
  exact String.ofList_toList

theorem normaliseEntry_eq_self {entry : String}
    (h : ∀ label, entry ≠ testMark ++ label) :
    normaliseEntry entry = entry := by
  have hafter : Text.after? testMark.toList entry.toList = none := by
    rw [Text.after?_eq_none_iff]
    rintro ⟨label, hlabel⟩
    refine h (String.ofList label) (String.toList_inj.mp ?_)
    simpa using hlabel.symm
  rw [normaliseEntry, hafter]

/-- An entry has a mark, which is dropped, or it has none. -/
theorem normaliseEntry_cases (entry : String) :
    (∃ label, entry = testMark ++ label ∧ normaliseEntry entry = label) ∨
      (∀ label, entry ≠ testMark ++ label) ∧ normaliseEntry entry = entry := by
  by_cases h : ∃ label, entry = testMark ++ label
  · obtain ⟨label, rfl⟩ := h
    exact Or.inl ⟨label, rfl, normaliseEntry_append label⟩
  · have hnone : ∀ label, entry ≠ testMark ++ label := not_exists.mp h
    exact Or.inr ⟨hnone, normaliseEntry_eq_self hnone⟩

/-! ## Registrations -/

namespace Registry

theorem mem_insertEntry {entry e : String × String}
    {entries : List (String × String)} :
    e ∈ insertEntry entry entries ↔ e = entry ∨ e ∈ entries := by
  induction entries with
  | nil => simp [insertEntry]
  | cons first rest ih =>
      rw [insertEntry]
      split_ifs with hsame hbefore
      · rw [hsame, List.mem_cons, or_self_left]
      · exact List.mem_cons
      · rw [List.mem_cons, ih, List.mem_cons, or_left_comm]

variable {function label : String}

theorem contains_iff {r : Registry} :
    r.contains function label = true ↔
      (function, normaliseEntry label) ∈ r.entries := by
  rw [contains, List.contains_iff_mem]

theorem mem_entries_insert {r : Registry} {e : String × String} :
    e ∈ (r.insert function label).entries ↔
      e = (function, normaliseEntry label) ∨ e ∈ r.entries :=
  mem_insertEntry

/-- A registration is found under its function and every label that is the same
without a mark; whatever else was registered stays. -/
theorem contains_insert {r : Registry} {registered entry : String} :
    (r.insert registered entry).contains function label = true ↔
      (function = registered ∧ normaliseEntry label = normaliseEntry entry) ∨
        r.contains function label = true := by
  rw [contains_iff, contains_iff, mem_entries_insert, Prod.mk.injEq]

theorem not_contains_empty : ¬({} : Registry).contains function label = true :=
  fun h => List.not_mem_nil (contains_iff.mp h)

/-- What a sequence of registrations holds, if each adds what `P` says. -/
theorem mem_entries_foldl {α : Type} {add : Registry → α → Registry}
    {P : α → Prop} {e : String × String}
    (hadd : ∀ r a, e ∈ (add r a).entries ↔ P a ∨ e ∈ r.entries) (as : List α)
    (r : Registry) :
    e ∈ (as.foldl add r).entries ↔ (∃ a ∈ as, P a) ∨ e ∈ r.entries := by
  induction as generalizing r with
  | nil => simp
  | cons a as ih =>
      rw [List.foldl_cons, ih, hadd, List.exists_mem_cons_iff, or_assoc,
        or_left_comm]

/-! ## The order of entries -/

variable {a b c : String × String}

theorem precedes_iff :
    precedes a b = true ↔ a.1 < b.1 ∨ a.1 = b.1 ∧ a.2 < b.2 := by
  simp [precedes]

theorem precedes_irrefl (a : String × String) : ¬precedes a a = true := by
  rw [precedes_iff]
  rintro (hlt | ⟨-, hlt⟩)
  · exact String.lt_irrefl _ hlt
  · exact String.lt_irrefl _ hlt

theorem precedes_trans (hab : precedes a b = true) (hbc : precedes b c = true) :
    precedes a c = true := by
  rw [precedes_iff] at *
  rcases hab with hab | ⟨hab, hab'⟩
  · rcases hbc with hbc | ⟨hbc, -⟩
    · exact Or.inl (String.lt_trans hab hbc)
    · exact Or.inl (hbc ▸ hab)
  · rcases hbc with hbc | ⟨hbc, hbc'⟩
    · exact Or.inl (hab ▸ hbc)
    · exact Or.inr ⟨hab.trans hbc, String.lt_trans hab' hbc'⟩

theorem eq_of_not_precedes (hab : ¬precedes a b = true)
    (hba : ¬precedes b a = true) : a = b := by
  simp only [precedes_iff, not_or, not_and, String.not_lt] at hab hba
  have hfirst : a.1 = b.1 := String.le_antisymm hba.1 hab.1
  have hsecond : a.2 = b.2 :=
    String.le_antisymm (hba.2 hfirst.symm) (hab.2 hfirst)
  exact Prod.ext hfirst hsecond

/-- The entries are in increasing order. -/
def IsOrdered (r : Registry) : Prop :=
  r.entries.Pairwise fun a b => precedes a b = true

theorem isOrdered_empty : ({} : Registry).IsOrdered :=
  List.Pairwise.nil

theorem pairwise_insertEntry {entry : String × String}
    {entries : List (String × String)}
    (h : entries.Pairwise fun a b => precedes a b = true) :
    (insertEntry entry entries).Pairwise fun a b => precedes a b = true := by
  induction entries with
  | nil => simp [insertEntry]
  | cons first rest ih =>
      obtain ⟨hfirst, hrest⟩ := List.pairwise_cons.mp h
      rw [insertEntry]
      split_ifs with hsame hbefore
      · exact h
      · refine List.pairwise_cons.mpr ⟨?_, h⟩
        intro e he
        rcases List.mem_cons.mp he with rfl | he
        · exact hbefore
        · exact precedes_trans hbefore (hfirst e he)
      · refine List.pairwise_cons.mpr ⟨?_, ih hrest⟩
        intro e he
        rcases mem_insertEntry.mp he with rfl | he
        · by_contra hafter
          exact hsame (eq_of_not_precedes hbefore hafter)
        · exact hfirst e he

theorem IsOrdered.insert {r : Registry} (h : r.IsOrdered)
    (function label : String) : (r.insert function label).IsOrdered :=
  pairwise_insertEntry h

theorem IsOrdered.nodup {r : Registry} (h : r.IsOrdered) : r.entries.Nodup := by
  refine List.Pairwise.imp ?_ h
  rintro a _ hprecedes rfl
  exact precedes_irrefl a hprecedes

theorem IsOrdered.eq_of_mem_iff {r r' : Registry} (h : r.IsOrdered)
    (h' : r'.IsOrdered) (hmem : ∀ e, e ∈ r.entries ↔ e ∈ r'.entries) :
    r = r' := by
  have hperm : r.entries.Perm r'.entries :=
    (List.perm_ext_iff_of_nodup h.nodup h'.nodup).mpr hmem
  have hentries : r.entries = r'.entries := by
    refine List.Perm.eq_of_pairwise ?_ h h' hperm
    intro a b _ _ hab hba
    exact absurd (precedes_trans hab hba) (precedes_irrefl a)
  exact congrArg Registry.mk hentries

end Registry
end Concord
