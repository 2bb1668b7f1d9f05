import Concord.Case.Key
import Concord.Proofs.Combinations
import Mathlib.Algebra.BigOperators.Group.List.Basic

/-!
# The types of a matrix and the keys over them

A matrix that is built by declarations names each type once. The keys of an
arity over it are all tuples of type names, each once and in matrix order.
-/

namespace Concord.TypeMatrix

/-! ## Type names -/

@[simp] theorem length_typeNames (m : TypeMatrix) :
    m.typeNames.length = m.size :=
  List.length_map _

theorem typeNames_declare (m : TypeMatrix) (typeName : String)
    (samples : List Sample) :
    (m.declare typeName samples).typeNames =
      m.typeNames.filter (· ≠ typeName) ++ [typeName] := by
  rw [typeNames, declare, List.map_append, typeNames, List.filter_map]
  rfl

theorem nodup_typeNames_declare {m : TypeMatrix} (h : m.typeNames.Nodup)
    (typeName : String) (samples : List Sample) :
    (m.declare typeName samples).typeNames.Nodup := by
  rw [typeNames_declare, List.nodup_append]
  refine ⟨h.filter _, List.nodup_singleton _, ?_⟩
  intro a ha b hb
  rw [List.mem_singleton] at hb
  subst hb
  simpa using (List.mem_filter.mp ha).2

theorem nodup_typeNames_foldl_declare {m : TypeMatrix} (h : m.typeNames.Nodup)
    (declarations : List (String × List Sample)) :
    (declarations.foldl (fun m d => m.declare d.1 d.2) m).typeNames.Nodup := by
  induction declarations generalizing m with
  | nil => exact h
  | cons d declarations ih => exact ih (nodup_typeNames_declare h d.1 d.2)

theorem nodup_typeNames_ofDeclarations
    (declarations : List (String × List Sample)) :
    (ofDeclarations declarations).typeNames.Nodup :=
  nodup_typeNames_foldl_declare (m := empty) List.nodup_nil declarations

/-! ## Samples -/

section Samples

variable {m : TypeMatrix} {typeName : String} {samples : List Sample}

theorem mem_entries_of_samples?_eq_some
    (h : m.samples? typeName = some samples) :
    (typeName, samples) ∈ m.entries := by
  obtain ⟨⟨t, xs⟩, hfind, hxs⟩ := Option.map_eq_some_iff.mp h
  have hname : t = typeName := by simpa using List.find?_some hfind
  obtain rfl : xs = samples := hxs
  rw [← hname]
  exact List.mem_of_find?_eq_some hfind

theorem exists_samples?_of_mem (h : typeName ∈ m.typeNames) :
    ∃ samples, m.samples? typeName = some samples := by
  obtain ⟨entry, hentry, rfl⟩ := List.mem_map.mp h
  have hfound : (m.entries.find? fun e => e.1 = entry.1).isSome :=
    List.find?_isSome.mpr ⟨entry, hentry, by simp⟩
  obtain ⟨found, hfind⟩ := Option.isSome_iff_exists.mp hfound
  exact ⟨found.2, by rw [samples?, hfind, Option.map_some]⟩

theorem samplesFor_eq_ok_iff :
    m.samplesFor typeName = .ok samples ↔
      m.samples? typeName = some samples := by
  rw [samplesFor]
  cases m.samples? typeName <;> simp

end Samples

/-! ## Keys -/

variable (m : TypeMatrix)

theorem caseKeys_eq_map_combinations (arity : Arity) :
    m.caseKeys arity =
      (combinations (List.replicate arity.count m.typeNames)).map
        CaseKey.mk := by
  cases arity
  · simp [caseKeys, Arity.count, combinations, List.map_eq_flatMap,
      List.flatMap_assoc]
  · simp [caseKeys, Arity.count, combinations, List.map_eq_flatMap,
      List.flatMap_assoc]

theorem length_caseKeys (arity : Arity) :
    (m.caseKeys arity).length = m.size ^ arity.count := by
  rw [caseKeys_eq_map_combinations, List.length_map, length_combinations]
  simp

theorem nodup_caseKeys (h : m.typeNames.Nodup) (arity : Arity) :
    (m.caseKeys arity).Nodup := by
  rw [caseKeys_eq_map_combinations]
  refine (nodup_combinations ?_).map fun _ _ => CaseKey.mk.inj
  intro pool hpool
  rwa [List.eq_of_mem_replicate hpool]

theorem mem_caseKeys {arity : Arity} {key : CaseKey} :
    key ∈ m.caseKeys arity ↔
      key.types.length = arity.count ∧ ∀ t ∈ key.types, t ∈ m.typeNames := by
  rw [caseKeys_eq_map_combinations, ← mem_combinations_replicate, List.mem_map]
  constructor
  · rintro ⟨types, htypes, rfl⟩
    exact htypes
  · exact fun htypes => ⟨key.types, htypes, rfl⟩

/-- The first type varies slowest. -/
theorem getElem?_caseKeys_two {i j : Nat} {a b : String}
    (ha : m.typeNames[i]? = some a) (hb : m.typeNames[j]? = some b) :
    (m.caseKeys .two)[i * m.size + j]? = some ⟨[a, b]⟩ := by
  have hj : j < m.size := by
    rw [← length_typeNames]
    exact (List.getElem?_eq_some_iff.mp hb).1
  have hlength : ∀ a ∈ m.typeNames,
      (m.typeNames.map fun b => CaseKey.mk [a, b]).length = m.size := by simp
  rw [caseKeys, getElem?_flatMap_of_length hlength i hj, ha]
  simp [hb]

end Concord.TypeMatrix
