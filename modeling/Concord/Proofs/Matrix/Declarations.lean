import Concord.Proofs.Matrix
import Mathlib.Data.Finset.Card

/-!
# Matrices as ordered maps

A matrix that is built by declarations maps each declared type to the samples of
its last declaration. Its types stand in the order of their last declarations.

Declaring a type removes it first, so one step changes the samples of that type
only and moves its name to the end. What holds after every sequence of
declarations follows from that step by induction on the sequence, from its end.
-/

namespace Concord.TypeMatrix

/-- The type is declared with these samples, and not once more after that. -/
def LastDeclared (declarations : List (String × List Sample))
    (typeName : String) (samples : List Sample) : Prop :=
  ∃ before after, declarations = before ++ (typeName, samples) :: after ∧
    typeName ∉ after.map Prod.fst

/-- The second type is declared after the last declaration of the first. -/
def DeclaredLater (declarations : List (String × List Sample))
    (first second : String) : Prop :=
  ∃ before samples after, declarations = before ++ (first, samples) :: after ∧
    first ∉ after.map Prod.fst ∧ second ∈ after.map Prod.fst

/-! ## One declaration -/

section Declare

variable (m : TypeMatrix) (typeName : String) (samples : List Sample)

theorem samples?_declare (t : String) :
    (m.declare typeName samples).samples? t =
      if t = typeName then some samples else m.samples? t := by
  rw [samples?, declare, List.find?_append, samples?]
  by_cases ht : t = typeName
  · have hremoved :
        (m.entries.filter fun e => e.1 ≠ typeName).find? (fun e => e.1 = t) =
          none := by
      rw [List.find?_eq_none]
      intro e he
      simpa [ht] using (List.mem_filter.mp he).2
    rw [if_pos ht, hremoved]
    simp [ht]
  · have hkept :
        (m.entries.filter fun e => e.1 ≠ typeName).find? (fun e => e.1 = t) =
        m.entries.find? fun e => e.1 = t := by
      rw [List.find?_filter]
      congr 1
      funext e
      by_cases he : e.1 = t
      · simp [he, ht]
      · simp [he]
    have hlast : [(typeName, samples)].find? (fun e => decide (e.1 = t)) =
        none := by
      simp [Ne.symm ht]
    rw [if_neg ht, hkept, hlast, Option.or_none]

theorem contains_iff_mem_typeNames {m : TypeMatrix} {t : String} :
    m.contains t = true ↔ t ∈ m.typeNames := by
  simp [contains, typeNames]

theorem mem_typeNames_declare {t : String} :
    t ∈ (m.declare typeName samples).typeNames ↔
      t ∈ m.typeNames ∨ t = typeName := by
  rw [typeNames_declare, List.mem_append, List.mem_filter, List.mem_singleton]
  by_cases ht : t = typeName
  · simp [ht]
  · simp [ht]

end Declare

/-! ## A sequence of declarations -/

section Sequence

variable {declarations : List (String × List Sample)}

theorem ofDeclarations_concat (declarations : List (String × List Sample))
    (typeName : String) (samples : List Sample) :
    ofDeclarations (declarations ++ [(typeName, samples)]) =
      (ofDeclarations declarations).declare typeName samples :=
  List.foldl_concat _ _ _ _

theorem mem_typeNames_ofDeclarations {t : String} :
    t ∈ (ofDeclarations declarations).typeNames ↔
      t ∈ declarations.map Prod.fst := by
  induction declarations using List.reverseRecOn with
  | nil => exact Iff.rfl
  | append_singleton declarations d ih =>
      rw [ofDeclarations_concat, mem_typeNames_declare, ih, List.map_append,
        List.mem_append, List.map_singleton, List.mem_singleton]

theorem LastDeclared.concat {t : String} {ts : List Sample}
    (h : LastDeclared declarations t ts) {typeName : String}
    (hne : t ≠ typeName) (samples : List Sample) :
    LastDeclared (declarations ++ [(typeName, samples)]) t ts := by
  obtain ⟨before, after, rfl, hafter⟩ := h
  refine ⟨before, after ++ [(typeName, samples)], by simp, ?_⟩
  rw [List.map_append, List.mem_append, List.map_singleton,
    List.mem_singleton, not_or]
  exact ⟨hafter, hne⟩

/-- The last declaration of a type is the one at the end, or it is found before
that one. -/
theorem LastDeclared.of_concat {t typeName : String} {ts samples : List Sample}
    (h : LastDeclared (declarations ++ [(typeName, samples)]) t ts) :
    (t = typeName ∧ ts = samples) ∨
      (t ≠ typeName ∧ LastDeclared declarations t ts) := by
  obtain ⟨before, after, heq, hafter⟩ := h
  induction after using List.reverseRecOn with
  | nil =>
      obtain ⟨-, hlast⟩ := List.append_inj' heq rfl
      have hpair := Prod.mk.inj (List.cons.inj hlast).1
      exact Or.inl ⟨hpair.1.symm, hpair.2.symm⟩
  | append_singleton front last _ =>
      rw [← List.cons_append, ← List.append_assoc] at heq
      obtain ⟨hfront, hlast⟩ := List.append_inj' heq rfl
      rw [List.map_append, List.mem_append, not_or, ← hlast] at hafter
      exact Or.inr ⟨by simpa using hafter.2, before, front, hfront, hafter.1⟩

theorem lastDeclared_concat_iff {t typeName : String}
    {ts samples : List Sample} :
    LastDeclared (declarations ++ [(typeName, samples)]) t ts ↔
      if t = typeName then ts = samples
      else LastDeclared declarations t ts := by
  by_cases ht : t = typeName
  · rw [if_pos ht]
    constructor
    · intro h
      exact (h.of_concat.resolve_right fun hother => hother.1 ht).2
    · intro hts
      rw [ht, hts]
      exact ⟨declarations, [], rfl, List.not_mem_nil⟩
  · rw [if_neg ht]
    constructor
    · intro h
      exact (h.of_concat.resolve_left fun hsame => ht hsame.1).2
    · intro h
      exact h.concat ht samples

/-- A lookup finds the samples of the last declaration. -/
theorem samples?_ofDeclarations_eq_some_iff {t : String} {ts : List Sample} :
    (ofDeclarations declarations).samples? t = some ts ↔
      LastDeclared declarations t ts := by
  induction declarations using List.reverseRecOn with
  | nil => simp [ofDeclarations, empty, samples?, LastDeclared]
  | append_singleton declarations d ih =>
      rw [ofDeclarations_concat, samples?_declare, lastDeclared_concat_iff]
      by_cases ht : t = d.1
      · rw [if_pos ht, if_pos ht, Option.some_inj, eq_comm]
      · rw [if_neg ht, if_neg ht, ih]

theorem exists_lastDeclared_of_mem {t : String}
    (h : t ∈ declarations.map Prod.fst) :
    ∃ ts, LastDeclared declarations t ts := by
  obtain ⟨ts, hts⟩ :=
    exists_samples?_of_mem (mem_typeNames_ofDeclarations.mpr h)
  exact ⟨ts, samples?_ofDeclarations_eq_some_iff.mp hts⟩

/-- Only a declared type has samples. -/
theorem samples?_ofDeclarations_eq_none_iff {t : String} :
    (ofDeclarations declarations).samples? t = none ↔
      t ∉ declarations.map Prod.fst := by
  constructor
  · intro hnone hmem
    obtain ⟨ts, hts⟩ :=
      exists_samples?_of_mem (mem_typeNames_ofDeclarations.mpr hmem)
    rw [hnone] at hts
    cases hts
  · intro hmem
    rw [Option.eq_none_iff_forall_ne_some]
    intro ts hts
    exact hmem (mem_typeNames_ofDeclarations.mp (List.mem_map_of_mem
      (mem_entries_of_samples?_eq_some hts)))

/-! ## The order of the types -/

theorem DeclaredLater.concat {a b : String} (h : DeclaredLater declarations a b)
    {typeName : String} (hne : a ≠ typeName) (samples : List Sample) :
    DeclaredLater (declarations ++ [(typeName, samples)]) a b := by
  obtain ⟨before, ts, after, rfl, hfirst, hsecond⟩ := h
  refine ⟨before, ts, after ++ [(typeName, samples)], by simp, ?_, ?_⟩
  · rw [List.map_append, List.mem_append, List.map_singleton,
      List.mem_singleton, not_or]
    exact ⟨hfirst, hne⟩
  · rw [List.map_append]
    exact List.mem_append_left _ hsecond

theorem LastDeclared.declaredLater_concat {t : String} {ts : List Sample}
    (h : LastDeclared declarations t ts) {typeName : String}
    (hne : t ≠ typeName) (samples : List Sample) :
    DeclaredLater (declarations ++ [(typeName, samples)]) t typeName := by
  obtain ⟨before, after, rfl, hafter⟩ := h
  refine ⟨before, ts, after ++ [(typeName, samples)], by simp, ?_, by simp⟩
  rw [List.map_append, List.mem_append, List.map_singleton,
    List.mem_singleton, not_or]
  exact ⟨hafter, hne⟩

/-- The types stand in the order of their last declarations. -/
theorem pairwise_declaredLater_typeNames
    (declarations : List (String × List Sample)) :
    (ofDeclarations declarations).typeNames.Pairwise
      (DeclaredLater declarations) := by
  induction declarations using List.reverseRecOn with
  | nil => exact List.Pairwise.nil
  | append_singleton declarations d ih =>
      have hne {t : String}
          (ht : t ∈ (ofDeclarations declarations).typeNames.filter (· ≠ d.1)) :
            t ≠ d.1 := by
        simpa using (List.mem_filter.mp ht).2
      rw [ofDeclarations_concat, typeNames_declare, List.pairwise_append]
      refine ⟨?_, List.pairwise_singleton _ _, ?_⟩
      · refine (ih.filter (· ≠ d.1)).imp_of_mem ?_
        intro a b ha _ hab
        exact hab.concat (hne ha) d.2
      · intro a ha b hb
        rw [List.mem_singleton] at hb
        obtain ⟨ts, hts⟩ := exists_lastDeclared_of_mem
          (mem_typeNames_ofDeclarations.mp (List.mem_filter.mp ha).1)
        rw [hb]
        exact hts.declaredLater_concat (hne ha) d.2

end Sequence

theorem size_ofDeclarations (declarations : List (String × List Sample)) :
    (ofDeclarations declarations).size =
      (declarations.map Prod.fst).toFinset.card := by
  have hnames : (declarations.map Prod.fst).toFinset =
      (ofDeclarations declarations).typeNames.toFinset := by
    ext t
    rw [List.mem_toFinset, List.mem_toFinset, mem_typeNames_ofDeclarations]
  rw [hnames, List.toFinset_card_of_nodup
    (nodup_typeNames_ofDeclarations declarations), length_typeNames]

theorem samplesFor_eq_error_iff {m : TypeMatrix} {t : String} {fault : Fault} :
    m.samplesFor t = .error fault ↔
      fault = .unknownType t ∧ m.samples? t = none := by
  rw [samplesFor]
  cases m.samples? t with
  | none => simp [eq_comm]
  | some samples => simp

/-- A matrix is an ordered map, whatever was declared, how often and in which
order: it names each declared type once, in the order of the last declarations,
and a lookup gives the samples of the last declaration of a type or the fault
that names a type never declared. -/
theorem ofDeclarations_ordered_map
    (declarations : List (String × List Sample)) :
    let m := ofDeclarations declarations
    let declared := declarations.map Prod.fst
    m.typeNames.Nodup ∧
    (∀ t, t ∈ m.typeNames ↔ t ∈ declared) ∧
    m.typeNames.Pairwise (DeclaredLater declarations) ∧
    m.size = declared.toFinset.card ∧
    (∀ t, m.contains t = true ↔ t ∈ declared) ∧
    (∀ t samples, m.samplesFor t = .ok samples ↔
      LastDeclared declarations t samples) ∧
    (∀ t fault, m.samplesFor t = .error fault ↔ fault = .unknownType t ∧
      t ∉ declared) := by
  refine ⟨nodup_typeNames_ofDeclarations declarations,
    fun t => mem_typeNames_ofDeclarations,
    pairwise_declaredLater_typeNames declarations,
      size_ofDeclarations declarations, ?_, ?_, ?_⟩
  · intro t
    rw [contains_iff_mem_typeNames, mem_typeNames_ofDeclarations]
  · intro t samples
    rw [samplesFor_eq_ok_iff, samples?_ofDeclarations_eq_some_iff]
  · intro t fault
    rw [samplesFor_eq_error_iff, samples?_ofDeclarations_eq_none_iff]

example :
    (ofDeclarations [("int", []), ("str", []),
      ("int", [.ofExpression "int" "1"])]).typeNames =
      ["str", "int"] := by decide

end Concord.TypeMatrix
