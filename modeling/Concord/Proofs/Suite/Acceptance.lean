import Concord.Proofs.Suite.Declaration
import Mathlib.Data.List.Dedup
import Mathlib.Data.List.ProdSigma

/-!
# Which declarations are accepted, and what they register

A declaration is refused for the first of three reasons: it has no functions,
its arity is not known, or an entry names no label of the matrix. Otherwise
every function is registered with every label that an entry names, once. How the
entries are spelled, ordered and repeated does not matter to the registry.
-/

namespace Concord

namespace Arity

theorem ofCount?_eq_some_iff {n : Nat} {arity : Arity} :
    ofCount? n = some arity ↔ arity.count = n := by
  constructor
  · intro h
    unfold ofCount? at h
    split at h <;> cases h <;> rfl
  · rintro rfl
    cases arity <;> rfl

theorem count_injective : Function.Injective count := by
  intro a b h
  have hfound := ofCount?_eq_some_iff.mpr h
  rw [ofCount?_eq_some_iff.mpr rfl] at hfound
  exact (Option.some.inj hfound).symm

theorem ofCount?_eq_none_iff {n : Nat} : ofCount? n = none ↔ n ≠ 1 ∧ n ≠ 2 := by
  unfold ofCount?
  split <;> simp_all

end Arity

/-- The label belongs to a key of the arity over the matrix. -/
def TypeMatrix.HasLabel (m : TypeMatrix) (arity : Arity) (label : String) :
    Prop :=
  ∃ key ∈ m.caseKeys arity, key.label = label

/-- The error with which a declaration is refused over a matrix. -/
inductive Declaration.Refused (d : Declaration) (m : TypeMatrix) :
    SetupError → Prop where
  | functions (hfunctions : d.functions = []) :
      Refused d m (.emptyFunctions d.name)
  | arity (hfunctions : d.functions ≠ []) (hone : d.arity ≠ 1)
      (htwo : d.arity ≠ 2) :
      Refused d m (.unsupportedArity d.name d.arity)
  /-- The entry is the first one that names no label, and is given as it was
  written. -/
  | entry {arity : Arity} {before after : List String} {entry : String}
      (hfunctions : d.functions ≠ []) (harity : arity.count = d.arity)
      (hentries : d.notImplemented = before ++ entry :: after)
      (hbefore : ∀ e ∈ before, m.HasLabel arity (normaliseEntry e))
      (hentry : ¬m.HasLabel arity (normaliseEntry entry)) :
      Refused d m (.unknownTypeName d.name entry)

namespace Suite

variable {d : Declaration} {m : TypeMatrix} {source : Option String} {s : Suite}

theorem find?_unknown_eq_some_iff {arity : Arity} {entries : List String}
    {entry : String} :
    (entries.find? fun entry =>
        !((m.caseKeys arity).map CaseKey.label).contains
          (normaliseEntry entry)) = some entry ↔
      ¬m.HasLabel arity (normaliseEntry entry) ∧ ∃ before after,
        entries = before ++ entry :: after ∧
          ∀ e ∈ before, m.HasLabel arity (normaliseEntry e) := by
  have hlabel : ∀ e, ((m.caseKeys arity).map CaseKey.label).contains e = true ↔
      m.HasLabel arity e := by
    intro e
    rw [List.contains_iff_mem, List.mem_map]
    rfl
  rw [List.find?_eq_some_iff_append]
  simp only [← hlabel, Bool.not_not, Bool.not_eq_true', Bool.not_eq_true]

theorem ofDeclaration_of_refused {e : SetupError} (h : d.Refused m e) :
    ofDeclaration d m source = .error e := by
  cases h with
  | functions hfunctions => simp [ofDeclaration, hfunctions]
  | arity hfunctions hone htwo =>
      have harity := Arity.ofCount?_eq_none_iff.mpr ⟨hone, htwo⟩
      simp [ofDeclaration, hfunctions, harity]
  | entry hfunctions harity hentries hbefore hentry =>
      have hcount := Arity.ofCount?_eq_some_iff.mpr harity
      have hfind :=
        find?_unknown_eq_some_iff.mpr ⟨hentry, _, _, hentries, hbefore⟩
      simp only [ofDeclaration, List.isEmpty_iff, hfunctions, if_false,
        hcount, hfind]

theorem refused_of_ofDeclaration {e : SetupError}
    (h : ofDeclaration d m source = .error e) : d.Refused m e := by
  unfold ofDeclaration at h
  split_ifs at h with hfunctions
  · cases h
    exact .functions (List.isEmpty_iff.mp hfunctions)
  · have hne : d.functions ≠ [] := mt List.isEmpty_iff.mpr hfunctions
    split at h
    · rename_i hcount
      obtain ⟨hone, htwo⟩ := Arity.ofCount?_eq_none_iff.mp hcount
      cases h
      exact .arity hne hone htwo
    · rename_i arity hcount
      dsimp only at h
      split at h
      · rename_i entry hfind
        obtain ⟨hentry, before, after, hentries, hbefore⟩ :=
          find?_unknown_eq_some_iff.mp hfind
        cases h
        exact .entry hne (Arity.ofCount?_eq_some_iff.mp hcount) hentries
          hbefore hentry
      · exact nomatch h

theorem ofDeclaration_eq_error_iff {e : SetupError} :
    ofDeclaration d m source = .error e ↔ d.Refused m e :=
  ⟨refused_of_ofDeclaration, ofDeclaration_of_refused⟩

theorem exists_ofDeclaration_iff :
    (∃ s, ofDeclaration d m source = .ok s) ↔
      d.functions ≠ [] ∧ (d.arity = 1 ∨ d.arity = 2) ∧
        ∀ arity : Arity, arity.count = d.arity →
        ∀ entry ∈ d.notImplemented,
          m.HasLabel arity (normaliseEntry entry) := by
  simp only [ofDeclaration_eq_ok_iff, Arity.ofCount?_eq_some_iff]
  constructor
  · rintro ⟨s, hfunctions, arity, harity, hentries, -⟩
    refine ⟨hfunctions, ?_, ?_⟩
    · rw [← harity]
      cases arity
      · exact Or.inl rfl
      · exact Or.inr rfl
    · intro arity' harity'
      obtain rfl : arity' = arity :=
        Arity.count_injective (harity'.trans harity.symm)
      exact hentries
  · rintro ⟨hfunctions, hcount, hentries⟩
    obtain ⟨arity, harity⟩ : ∃ arity : Arity, arity.count = d.arity := by
      rcases hcount with hone | htwo
      · exact ⟨.one, hone.symm⟩
      · exact ⟨.two, htwo.symm⟩
    exact ⟨_, hfunctions, arity, harity, hentries arity harity, rfl⟩

/-! ## What is registered -/

theorem isOrdered_withNotImplemented (h : s.registry.IsOrdered)
    (labels : List String) :
    (s.withNotImplemented labels).registry.IsOrdered := by
  refine List.foldlRecOn labels _ h fun r hr label _ => ?_
  exact List.foldlRecOn s.functions _ hr fun r hr function _ =>
    hr.insert function label

section Accepted

variable (h : ofDeclaration d m source = .ok s)
include h

theorem isOrdered_registry_of_accepted : s.registry.IsOrdered := by
  obtain ⟨-, arity, -, -, rfl⟩ := ofDeclaration_eq_ok_iff.mp h
  exact isOrdered_withNotImplemented Registry.isOrdered_empty _

theorem mem_registry_of_accepted {function label : String} :
    (function, label) ∈ s.registry.entries ↔
      function ∈ d.functions ∧ d.Names label := by
  obtain ⟨-, arity, -, -, rfl⟩ := ofDeclaration_eq_ok_iff.mp h
  rw [mem_withNotImplemented, or_iff_left List.not_mem_nil]
  constructor
  · rintro ⟨entry, hentry, hfunction, hlabel⟩
    exact ⟨hfunction, entry, hentry, hlabel⟩
  · rintro ⟨hfunction, entry, hentry, hlabel⟩
    exact ⟨entry, hentry, hfunction, hlabel⟩

/-- The entries are the pairs of a distinct function and a distinct label. -/
theorem perm_registry_of_accepted :
    s.registry.entries.Perm
      (d.functions.dedup ×ˢ (d.notImplemented.map normaliseEntry).dedup) := by
  have hordered := isOrdered_registry_of_accepted h
  have hproduct := (List.nodup_dedup d.functions).product
    (List.nodup_dedup (d.notImplemented.map normaliseEntry))
  rw [List.perm_ext_iff_of_nodup hordered.nodup hproduct]
  rintro ⟨function, label⟩
  rw [mem_registry_of_accepted h, List.mem_product, List.mem_dedup,
    List.mem_dedup, List.mem_map]
  rfl

theorem size_registry_of_accepted :
    s.registry.size =
      d.functions.dedup.length *
        (d.notImplemented.map normaliseEntry).dedup.length := by
  rw [Registry.size, (perm_registry_of_accepted h).length_eq,
    List.length_product]

end Accepted

/-- A declaration is accepted exactly when nothing speaks against it, and
refused for the first reason that does. An accepted one keeps its functions and
registers each of them with each label that its entries name; declarations with
the same functions and labels have the same registry. -/
theorem ofDeclaration_accepts_and_registers (d : Declaration) (m : TypeMatrix)
    (source : Option String) :
    ((∃ s, ofDeclaration d m source = .ok s) ↔
      d.functions ≠ [] ∧ (d.arity = 1 ∨ d.arity = 2) ∧
        ∀ arity : Arity, arity.count = d.arity →
        ∀ entry ∈ d.notImplemented, m.HasLabel arity (normaliseEntry entry)) ∧
    (∀ e, ofDeclaration d m source = .error e ↔ d.Refused m e) ∧
    ∀ s, ofDeclaration d m source = .ok s →
      s.name = d.name ∧ s.functions = d.functions ∧ s.arity.count = d.arity ∧
      s.source = source ∧
      (∀ function label, (function, label) ∈ s.registry.entries ↔
        function ∈ d.functions ∧ ∃ entry ∈ d.notImplemented,
          normaliseEntry entry = label) ∧
      s.registry.entries.Nodup ∧
      s.registry.size =
        d.functions.dedup.length *
          (d.notImplemented.map normaliseEntry).dedup.length ∧
      ∀ d' m' source' s', ofDeclaration d' m' source' = .ok s' →
        (∀ function, function ∈ d.functions ↔ function ∈ d'.functions) →
        (∀ label, d.Names label ↔ d'.Names label) →
        s.registry = s'.registry := by
  refine ⟨exists_ofDeclaration_iff, fun e => ofDeclaration_eq_error_iff, ?_⟩
  intro s h
  have hordered := isOrdered_registry_of_accepted h
  obtain ⟨-, arity, harity, -, hsuite⟩ := ofDeclaration_eq_ok_iff.mp h
  refine ⟨by rw [hsuite]; rfl, by rw [hsuite]; rfl, ?_, by rw [hsuite]; rfl,
    fun function label => mem_registry_of_accepted h, hordered.nodup,
    size_registry_of_accepted h, ?_⟩
  · rw [hsuite]
    exact Arity.ofCount?_eq_some_iff.mp harity
  · intro d' m' source' s' h' hfunctions hlabels
    refine hordered.eq_of_mem_iff (isOrdered_registry_of_accepted h') ?_
    rintro ⟨function, label⟩
    rw [mem_registry_of_accepted h, mem_registry_of_accepted h',
      hfunctions, hlabels]

/-- The functions and the labels of `powDeclaration` in another order, with
repetitions and other spellings. -/
def repeatedDeclaration : Declaration where
  name := "Arithmetic again"
  functions := ["divmod", "pow", "divmod"]
  arity := 2
  notImplemented := ["str_int", "int_str", "test_str_int", "test_int_str"]

theorem ofDeclaration_accepts_and_registers_repeated :
    let m := TypeMatrix.ofDeclarations [("int", []), ("str", [])]
    (∃ s s', ofDeclaration repeatedDeclaration m none = .ok s ∧
      ofDeclaration powDeclaration m none = .ok s' ∧ s.registry.size = 4 ∧
      s.registry = s'.registry) ∧
    ofDeclaration { repeatedDeclaration with
      notImplemented := ["int_str", "test_int", "x"] }
      m none = .error (.unknownTypeName "Arithmetic again" "test_int") := by
  intro m
  obtain ⟨s, hs⟩ : ∃ s, ofDeclaration repeatedDeclaration m none = .ok s :=
    ⟨_, rfl⟩
  obtain ⟨s', hs'⟩ : ∃ s, ofDeclaration powDeclaration m none = .ok s :=
    ⟨_, rfl⟩
  obtain ⟨-, -, haccepted⟩ :=
    ofDeclaration_accepts_and_registers repeatedDeclaration m none
  obtain ⟨-, -, -, -, -, -, hsize, hsame⟩ := haccepted s hs
  have hlabels : ∀ label, repeatedDeclaration.Names label ↔
      powDeclaration.Names label := by
    have hrepeated : repeatedDeclaration.notImplemented.map normaliseEntry =
        ["str_int", "int_str", "str_int", "int_str"] := by decide
    have hpow : powDeclaration.notImplemented.map normaliseEntry =
        ["int_str", "str_int"] := by
      decide
    intro label
    rw [Declaration.Names, Declaration.Names, ← List.mem_map, ← List.mem_map,
      hrepeated, hpow]
    simp only [List.mem_cons, List.not_mem_nil]
    tauto
  have hfunctions : ∀ function, function ∈ repeatedDeclaration.functions ↔
      function ∈ powDeclaration.functions := by
    intro function
    simp only [repeatedDeclaration, powDeclaration, List.mem_cons,
      List.not_mem_nil]
    tauto
  refine ⟨⟨s, s', hs, hs', hsize.trans (by decide),
    hsame _ _ _ s' hs' hfunctions hlabels⟩, ?_⟩
  obtain ⟨-, hrefused, -⟩ := ofDeclaration_accepts_and_registers
    { repeatedDeclaration with
      notImplemented := ["int_str", "test_int", "x"] } m none
  refine (hrefused _).mpr (.entry (by decide)
    (show Arity.two.count = 2 from rfl)
    (show _ = ["int_str"] ++ "test_int" :: ["x"] from rfl) ?_ ?_)
  · intro e he
    rw [List.mem_singleton.mp he]
    exact ⟨⟨["int", "str"]⟩, by decide, by decide⟩
  · rintro ⟨key, hkey, hlabel⟩
    have hlabels : ∀ key ∈ m.caseKeys .two,
        key.label ≠ normaliseEntry "test_int" := by decide
    exact hlabels key hkey hlabel

end Suite
end Concord
