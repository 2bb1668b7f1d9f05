import Concord.Proofs.Matrix
import Concord.Proofs.Suite.Declaration
import Concord.Proofs.Text.SingleLine

/-!
# Identifiers of cases

An identifier is put together from the names of the suite, the types and the
function, and none of them is escaped. The first bracket after the mark still
ends the label as long as no type name has one, and the underscores of the label
split it into the type names as long as these have none. So the identifiers of a
suite tell its cases apart, whatever the suite and its functions are called.
-/

namespace Concord

/-- No type name has the characters that join and end a label. -/
def TypeMatrix.Plain (m : TypeMatrix) : Prop :=
  ∀ t ∈ m.typeNames, '_' ∉ t.toList ∧ '[' ∉ t.toList

namespace CaseKey

theorem splitOn_label {k : CaseKey} (hne : k.types ≠ [])
    (hplain : ∀ t ∈ k.types, '_' ∉ t.toList) :
    k.label.toList.splitOn '_' = k.types.map String.toList := by
  rw [label, String.toList_intercalate]
  refine List.splitOn_intercalate '_' ?_ (by simpa using hne)
  intro cs hcs
  obtain ⟨t, ht, rfl⟩ := List.mem_map.mp hcs
  exact hplain t ht

theorem types_eq_of_label_eq {k k' : CaseKey} (hne : k.types ≠ [])
    (hne' : k'.types ≠ []) (hplain : ∀ t ∈ k.types, '_' ∉ t.toList)
    (hplain' : ∀ t ∈ k'.types, '_' ∉ t.toList) (h : k.label = k'.label) :
    k.types = k'.types := by
  have hparts : k.types.map String.toList = k'.types.map String.toList := by
    rw [← splitOn_label hne hplain, ← splitOn_label hne' hplain', h]
  exact List.map_injective_iff.mpr (fun _ _ => String.toList_injective) hparts

theorem bracket_notMem_label {k : CaseKey}
    (hplain : ∀ t ∈ k.types, '[' ∉ t.toList) : '[' ∉ k.label.toList :=
  Text.notMem_intercalate (by decide) hplain

end CaseKey

/-- Labels without a bracket can be read off the identifiers of a suite, and
then the rest is the function. -/
theorem Case.label_and_function_of_id_eq {c c' : Case}
    (hsuite : c.suite = c'.suite) (hlabel : '[' ∉ c.key.label.toList)
    (hlabel' : '[' ∉ c'.key.label.toList) (h : c.id = c'.id) :
    c.key.label = c'.key.label ∧ c.function = c'.function := by
  have hchars : c.key.label.toList ++ '[' :: (c.function.toList ++ [']']) =
      c'.key.label.toList ++ '[' :: (c'.function.toList ++ [']']) := by
    simpa [id, name, CaseKey.testName, hsuite] using congrArg String.toList h
  have hcut := Text.cutAt_append_cons hlabel (c.function.toList ++ [']'])
  rw [hchars, Text.cutAt_append_cons hlabel'] at hcut
  obtain ⟨hsame, hrest⟩ := Prod.mk.inj hcut
  refine ⟨String.toList_inj.mp hsame.symm, String.toList_inj.mp ?_⟩
  exact (List.append_cancel_right hrest).symm

namespace TypeMatrix

variable {m : TypeMatrix} {arity : Arity} {key : CaseKey}

theorem types_ne_nil_of_mem_caseKeys (h : key ∈ m.caseKeys arity) :
    key.types ≠ [] := by
  obtain ⟨hlength, -⟩ := m.mem_caseKeys.mp h
  intro hnil
  rw [hnil] at hlength
  cases arity <;> exact nomatch hlength

theorem caseKeys_ne_nil (h : m.typeNames ≠ []) (arity : Arity) :
    m.caseKeys arity ≠ [] := by
  obtain ⟨t, ht⟩ := List.exists_mem_of_ne_nil _ h
  have hkey : CaseKey.mk (List.replicate arity.count t) ∈ m.caseKeys arity := by
    refine m.mem_caseKeys.mpr ⟨List.length_replicate, ?_⟩
    intro u hu
    rw [List.eq_of_mem_replicate hu]
    exact ht
  exact List.ne_nil_of_mem hkey

end TypeMatrix

namespace Suite

variable {s : Suite} {m : TypeMatrix}

theorem eq_of_id_eq (hm : m.Plain) {c c' : Case} (hc : c ∈ s.cases m)
    (hc' : c' ∈ s.cases m) (h : c.id = c'.id) :
    c.function = c'.function ∧ c.key.types = c'.key.types := by
  obtain ⟨hsuite, -, hkey⟩ := mem_cases.mp hc
  obtain ⟨hsuite', -, hkey'⟩ := mem_cases.mp hc'
  have hplain := fun t ht => hm t ((m.mem_caseKeys.mp hkey).2 t ht)
  have hplain' := fun t ht => hm t ((m.mem_caseKeys.mp hkey').2 t ht)
  obtain ⟨hlabel, hfunction⟩ :=
    Case.label_and_function_of_id_eq (hsuite.trans hsuite'.symm)
    (CaseKey.bracket_notMem_label fun t ht => (hplain t ht).2)
    (CaseKey.bracket_notMem_label fun t ht => (hplain' t ht).2) h
  refine ⟨hfunction, CaseKey.types_eq_of_label_eq ?_ ?_ ?_ ?_ hlabel⟩
  · exact TypeMatrix.types_ne_nil_of_mem_caseKeys hkey
  · exact TypeMatrix.types_ne_nil_of_mem_caseKeys hkey'
  · exact fun t ht => (hplain t ht).1
  · exact fun t ht => (hplain' t ht).1

/-- A suite has a case twice exactly when it has a function twice. -/
theorem nodup_cases_iff (hnodup : m.typeNames.Nodup) (hne : m.typeNames ≠ []) :
    (s.cases m).Nodup ↔ s.functions.Nodup := by
  have hkeys : ∀ function ∈ s.functions,
      ((m.caseKeys s.arity).map fun key => Case.mk s function key).Nodup := by
    intro function _
    refine (m.nodup_caseKeys hnodup s.arity).map ?_
    intro key key' h
    exact (Case.mk.inj h).2.2
  rw [cases, List.nodup_flatMap, and_iff_right hkeys]
  constructor
  · intro hdisjoint
    refine hdisjoint.imp ?_
    rintro function _ hcases rfl
    obtain ⟨key, hkey⟩ :=
      List.exists_mem_of_ne_nil _ (m.caseKeys_ne_nil hne s.arity)
    have hcase :=
      List.mem_map_of_mem (f := fun key => Case.mk s function key) hkey
    exact hcases hcase hcase
  · intro hfunctions
    refine hfunctions.imp ?_
    intro function function' hdiffer c hc hc'
    obtain ⟨key, -, rfl⟩ := List.mem_map.mp hc
    obtain ⟨key', -, hsame⟩ := List.mem_map.mp hc'
    exact hdiffer (Case.mk.inj hsame).2.1.symm

/-- The identifiers of a suite are distinct exactly when its functions are, and
an identifier determines the function and the types of its case. -/
theorem ids_identify_cases {declarations : List (String × List Sample)}
    {m : TypeMatrix} (hm : m = .ofDeclarations declarations)
    (hne : m.typeNames ≠ []) (hplain : m.Plain) (s : Suite) :
    (((s.cases m).map Case.id).Nodup ↔ s.functions.Nodup) ∧
      ∀ c ∈ s.cases m, ∀ c' ∈ s.cases m, c.id = c'.id →
        c.function = c'.function ∧ c.key.types = c'.key.types := by
  have hnodup : m.typeNames.Nodup := by
    rw [hm]
    exact TypeMatrix.nodup_typeNames_ofDeclarations declarations
  have hdetermine : ∀ c ∈ s.cases m, ∀ c' ∈ s.cases m, c.id = c'.id →
      c.function = c'.function ∧ c.key.types = c'.key.types :=
    fun c hc c' hc' => eq_of_id_eq hplain hc hc'
  refine ⟨?_, hdetermine⟩
  rw [← nodup_cases_iff hnodup hne]
  constructor
  · exact List.Nodup.of_map Case.id
  · intro hcases
    refine List.Nodup.map_on ?_ hcases
    intro c hc c' hc' hid
    obtain ⟨hfunction, htypes⟩ := hdetermine c hc c' hc' hid
    calc
      c = ⟨c.suite, c.function, ⟨c.key.types⟩⟩ := rfl
      _ = ⟨c'.suite, c'.function, ⟨c'.key.types⟩⟩ := by
        rw [(mem_cases.mp hc).1, (mem_cases.mp hc').1, hfunction, htypes]
      _ = c' := rfl

/-- Names with dots, brackets and underscores outside the types. -/
def bracketedSuite : Suite where
  name := "a.test_int["
  functions := ["f[x]", "f", "_str[f"]
  arity := .two

theorem ids_identify_cases_bracketed :
    let m := TypeMatrix.ofDeclarations [("int", []), ("", []), ("str", [])]
    m.typeNames ≠ [] ∧ m.Plain ∧
      ((bracketedSuite.cases m).map Case.id).Nodup := by
  intro m
  have hplain : m.Plain := by
    have hnames : ∀ t ∈ m.typeNames, '_' ∉ t.toList ∧ '[' ∉ t.toList := by
      decide
    exact hnames
  have hne : m.typeNames ≠ [] := by decide
  obtain ⟨hids, -⟩ := ids_identify_cases rfl hne hplain bracketedSuite
  exact ⟨hne, hplain, hids.mpr (by decide)⟩

end Suite
end Concord
