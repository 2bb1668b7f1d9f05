import Concord.Case.Basic
import Concord.Proofs.Matrix
import Concord.Proofs.Registry

/-!
# Declared suites and the cases they mark

A declaration is accepted when each of its entries names a label of the matrix.
The label of a case loses its mark once more when it is looked up, so a case is
marked when an entry names what is left of its label. This is the label itself
as long as no type name starts like the name of a case.
-/

namespace Concord

/-! ## Accepted declarations -/

namespace Suite

variable {d : Declaration} {m : TypeMatrix} {source : Option String} {s : Suite}

theorem find?_unknown_eq_none_iff {arity : Arity} {entries : List String} :
    (entries.find? fun entry =>
        !((m.caseKeys arity).map CaseKey.label).contains
          (normaliseEntry entry)) = none ↔
      ∀ entry ∈ entries, ∃ key ∈ m.caseKeys arity,
        key.label = normaliseEntry entry := by
  simp

/-- What an accepted declaration needs, and the suite that it becomes. -/
theorem ofDeclaration_eq_ok_iff :
    ofDeclaration d m source = .ok s ↔
      d.functions ≠ [] ∧ ∃ arity, Arity.ofCount? d.arity = some arity ∧
        (∀ entry ∈ d.notImplemented, ∃ key ∈ m.caseKeys arity,
          key.label = normaliseEntry entry) ∧
        s =
          { name := d.name
            functions := d.functions
            arity := arity
            source := source : Suite }.withNotImplemented d.notImplemented := by
  by_cases hfunctions : d.functions = []
  · simp [ofDeclaration, hfunctions]
  cases harity : Arity.ofCount? d.arity with
  | none => simp [ofDeclaration, hfunctions, harity]
  | some arity =>
      simp only [ofDeclaration, List.isEmpty_iff, hfunctions, if_false, harity,
        ne_eq, not_false_eq_true, true_and, Option.some.injEq, exists_eq_left',
        ← find?_unknown_eq_none_iff]
      cases d.notImplemented.find? fun entry =>
          !((m.caseKeys arity).map CaseKey.label).contains
            (normaliseEntry entry) with
      | some entry => exact iff_of_false nofun fun h => nomatch h.1
      | none =>
          constructor
          · intro h
            exact ⟨rfl, (Except.ok.inj h).symm⟩
          · rintro ⟨-, rfl⟩
            rfl

theorem mem_cases {c : Case} :
    c ∈ s.cases m ↔
      c.suite = s ∧ c.function ∈ s.functions ∧ c.key ∈ m.caseKeys s.arity := by
  simp only [cases, List.mem_flatMap, List.mem_map]
  constructor
  · rintro ⟨function, hfunction, key, hkey, rfl⟩
    exact ⟨rfl, hfunction, hkey⟩
  · rintro ⟨rfl, hfunction, hkey⟩
    exact ⟨c.function, hfunction, c.key, hkey, rfl⟩

theorem mem_withNotImplemented {labels : List String} {e : String × String} :
    e ∈ (s.withNotImplemented labels).registry.entries ↔
      (∃ entry ∈ labels, e.1 ∈ s.functions ∧ normaliseEntry entry = e.2) ∨
        e ∈ s.registry.entries := by
  have hinner : ∀ (r : Registry) (entry : String),
      e ∈ (s.functions.foldl (fun r f => r.insert f entry) r).entries ↔
        (e.1 ∈ s.functions ∧ normaliseEntry entry = e.2) ∨ e ∈ r.entries := by
    intro r entry
    rw [Registry.mem_entries_foldl (P := fun f => e = (f, normaliseEntry entry))
      fun _ _ => Registry.mem_entries_insert]
    refine or_congr_left ⟨?_, fun h => ⟨e.1, h.1, Prod.ext rfl h.2.symm⟩⟩
    rintro ⟨f, hf, rfl⟩
    exact ⟨hf, rfl⟩
  rw [withNotImplemented, Registry.mem_entries_foldl hinner]

theorem contains_withNotImplemented {labels : List String}
    {function label : String} :
    (s.withNotImplemented labels).registry.contains function label = true ↔
      (∃ entry ∈ labels, function ∈ s.functions ∧
        normaliseEntry entry = normaliseEntry label) ∨
        s.registry.contains function label = true := by
  rw [Registry.contains_iff, Registry.contains_iff, mem_withNotImplemented]

end Suite

/-! ## Marked cases -/

/-- Some entry of the declaration names the label. -/
def Declaration.Names (d : Declaration) (label : String) : Prop :=
  ∃ entry ∈ d.notImplemented, normaliseEntry entry = label

/-- Every entry marks the case of its label, for each function. -/
def Declaration.EveryEntryMarks (d : Declaration) (s : Suite) (m : TypeMatrix) :
    Prop :=
  ∀ entry ∈ d.notImplemented, ∀ function ∈ d.functions, ∃ c ∈ s.cases m,
    c.function = function ∧ c.key.label = normaliseEntry entry ∧
      c.expectedFailure = true

/-- Every marked case has the label of an entry. -/
def Declaration.OnlyEntriesMark (d : Declaration) (s : Suite) (m : TypeMatrix) :
    Prop :=
  ∀ c ∈ s.cases m, c.expectedFailure = true →
    ∃ entry ∈ d.notImplemented, c.key.label = normaliseEntry entry

section Accepted

variable {d : Declaration} {m : TypeMatrix} {source : Option String} {s : Suite}
  (h : Suite.ofDeclaration d m source = .ok s)
include h

theorem expectedFailure_iff_names {c : Case} (hc : c ∈ s.cases m) :
    c.expectedFailure = true ↔ d.Names (normaliseEntry c.key.label) := by
  obtain ⟨hsuite, hfunction, -⟩ := Suite.mem_cases.mp hc
  obtain ⟨-, arity, -, -, rfl⟩ := Suite.ofDeclaration_eq_ok_iff.mp h
  rw [Case.expectedFailure, hsuite, Suite.contains_withNotImplemented,
    or_iff_left Registry.not_contains_empty]
  refine exists_congr fun entry => and_congr_right fun _ => ?_
  exact and_iff_right hfunction

theorem exists_case_of_entry {entry function : String}
    (hentry : entry ∈ d.notImplemented) (hfunction : function ∈ d.functions) :
    ∃ c ∈ s.cases m, c.function = function ∧
      c.key.label = normaliseEntry entry := by
  obtain ⟨-, arity, -, hknown, rfl⟩ := Suite.ofDeclaration_eq_ok_iff.mp h
  obtain ⟨key, hkey, hlabel⟩ := hknown entry hentry
  exact ⟨⟨_, function, key⟩, Suite.mem_cases.mpr ⟨rfl, hfunction, hkey⟩,
    rfl, hlabel⟩

theorem exists_case_of_key {key : CaseKey} (hkey : key ∈ m.caseKeys s.arity) :
    ∃ c ∈ s.cases m, c.key = key := by
  obtain ⟨hfunctions, arity, -, -, rfl⟩ := Suite.ofDeclaration_eq_ok_iff.mp h
  obtain ⟨function, hfunction⟩ := List.exists_mem_of_ne_nil _ hfunctions
  exact ⟨⟨_, function, key⟩, Suite.mem_cases.mpr ⟨rfl, hfunction, hkey⟩, rfl⟩

/-- An entry whose label still has a mark needs another entry for what is
left. -/
theorem everyEntryMarks_iff :
    d.EveryEntryMarks s m ↔
      ∀ label, d.Names (testMark ++ label) → d.Names label := by
  constructor
  · rintro hmarks label ⟨entry, hentry, hlabel⟩
    obtain ⟨hfunctions, -⟩ := Suite.ofDeclaration_eq_ok_iff.mp h
    obtain ⟨function, hfunction⟩ := List.exists_mem_of_ne_nil _ hfunctions
    obtain ⟨c, hc, -, hkey, hmarked⟩ := hmarks entry hentry function hfunction
    rw [expectedFailure_iff_names h hc, hkey, hlabel, normaliseEntry_append]
      at hmarked
    exact hmarked
  · intro hnames entry hentry function hfunction
    obtain ⟨c, hc, hcf, hkey⟩ := exists_case_of_entry h hentry hfunction
    refine ⟨c, hc, hcf, hkey, (expectedFailure_iff_names h hc).mpr ?_⟩
    rw [hkey]
    obtain ⟨label, hlabel, hrest⟩ | ⟨-, hself⟩ :=
      normaliseEntry_cases (normaliseEntry entry)
    · rw [hrest]
      exact hnames label ⟨entry, hentry, hlabel⟩
    · exact ⟨entry, hentry, hself.symm⟩

/-- An entry also marks the label that has a mark before its own. -/
theorem onlyEntriesMark_iff :
    d.OnlyEntriesMark s m ↔
      ∀ key ∈ m.caseKeys s.arity, ∀ label, key.label = testMark ++ label →
        d.Names label → d.Names key.label := by
  constructor
  · intro honly key hkey label hlabel hnames
    obtain ⟨c, hc, rfl⟩ := exists_case_of_key h hkey
    have hmarked : c.expectedFailure = true := by
      rw [expectedFailure_iff_names h hc, hlabel, normaliseEntry_append]
      exact hnames
    obtain ⟨entry, hentry, hsame⟩ := honly c hc hmarked
    exact ⟨entry, hentry, hsame.symm⟩
  · intro hkeys c hc hmarked
    rw [expectedFailure_iff_names h hc] at hmarked
    have hnamed : d.Names c.key.label := by
      obtain ⟨label, hlabel, hrest⟩ | ⟨-, hself⟩ :=
        normaliseEntry_cases c.key.label
      · rw [hrest] at hmarked
        exact hkeys c.key (Suite.mem_cases.mp hc).2.2 label hlabel hmarked
      · rwa [hself] at hmarked
    obtain ⟨entry, hentry, hsame⟩ := hnamed
    exact ⟨entry, hentry, hsame.symm⟩

end Accepted

/-! ## Type names that start like the name of a case -/

/-- No type is named like a case. Nor, in a pair, like the part of the mark that
an underscore completes. -/
def TypeMatrix.Unmarked (m : TypeMatrix) (arity : Arity) : Prop :=
  ∀ t ∈ m.typeNames, (∀ rest, t ≠ testMark ++ rest) ∧
    (arity = .two → t ≠ "test")

theorem eq_mark_or_starts_of_append {a b label : String}
    (h : a ++ "_" ++ b = testMark ++ label) :
    (∃ rest, a = testMark ++ rest) ∨ a = "test" := by
  have hchars : a.toList ++ '_' :: b.toList =
      testMark.toList ++ label.toList := by
    simpa using congrArg String.toList h
  rcases List.append_eq_append_iff.mp hchars with
    ⟨rest, hmark, hrest⟩ | ⟨rest, ha, -⟩
  · cases rest with
    | nil =>
        refine Or.inl ⟨"", String.toList_inj.mp ?_⟩
        simpa using hmark.symm
    | cons c rest =>
        -- The mark has one underscore, which is its last character.
        obtain ⟨rfl, -⟩ := List.cons.inj hrest
        have hsplit : "test".toList ++ '_' :: [] = a.toList ++ '_' :: rest :=
          hmark
        have hone :=
          (List.append_cons_inj_of_notMem (by decide) (by decide)).mp hsplit
        exact Or.inr (String.toList_inj.mp hone.1.symm)
  · refine Or.inl ⟨String.ofList rest, String.toList_inj.mp ?_⟩
    simpa using ha

theorem TypeMatrix.Unmarked.label_ne {m : TypeMatrix} {arity : Arity}
    (hm : m.Unmarked arity) {key : CaseKey} (hkey : key ∈ m.caseKeys arity)
    (label : String) : key.label ≠ testMark ++ label := by
  intro hlabel
  cases arity with
  | one =>
      obtain ⟨a, ha, rfl⟩ := List.mem_map.mp hkey
      exact (hm a ha).1 label hlabel
  | two =>
      obtain ⟨a, ha, hmem⟩ := List.mem_flatMap.mp hkey
      obtain ⟨b, -, rfl⟩ := List.mem_map.mp hmem
      obtain ⟨rest, hrest⟩ | htest := eq_mark_or_starts_of_append hlabel
      · exact (hm a ha).1 rest hrest
      · exact (hm a ha).2 rfl htest

/-- Which cases of an accepted declaration are marked, and what it takes that
every entry marks the cases that it names, and no others. Over a matrix without
marked labels it takes nothing. -/
theorem marked_cases_of_declaration {d : Declaration} {m : TypeMatrix}
    {source : Option String} {s : Suite}
    (h : Suite.ofDeclaration d m source = .ok s) :
    (∀ c ∈ s.cases m, c.expectedFailure = true ↔
      d.Names (normaliseEntry c.key.label)) ∧
    (d.EveryEntryMarks s m ↔
      ∀ label, d.Names (testMark ++ label) → d.Names label) ∧
    (d.OnlyEntriesMark s m ↔ ∀ key ∈ m.caseKeys s.arity, ∀ label,
      key.label = testMark ++ label → d.Names label → d.Names key.label) ∧
    (m.Unmarked s.arity → d.EveryEntryMarks s m ∧ d.OnlyEntriesMark s m) := by
  refine ⟨fun c hc => expectedFailure_iff_names h hc, everyEntryMarks_iff h,
    onlyEntriesMark_iff h, fun hm => ?_⟩
  rw [everyEntryMarks_iff h, onlyEntriesMark_iff h]
  constructor
  · rintro label ⟨entry, hentry, hlabel⟩
    obtain ⟨-, arity, -, hknown, rfl⟩ := Suite.ofDeclaration_eq_ok_iff.mp h
    obtain ⟨key, hkey, hsame⟩ := hknown entry hentry
    exact absurd (hsame.trans hlabel) (hm.label_ne hkey label)
  · intro key hkey label hlabel
    exact absurd hlabel (hm.label_ne hkey label)

/-- Entries for pairs of types, in both spellings. -/
def powDeclaration : Declaration where
  name := "Arithmetic"
  functions := ["pow", "divmod"]
  arity := 2
  notImplemented := ["test_int_str", "str_int"]

theorem marked_cases_of_powDeclaration :
    let m := TypeMatrix.ofDeclarations [("int", []), ("str", [])]
    ∃ s, Suite.ofDeclaration powDeclaration m none = .ok s ∧
      m.Unmarked s.arity ∧
      powDeclaration.EveryEntryMarks s m ∧
      powDeclaration.OnlyEntriesMark s m := by
  intro m
  obtain ⟨s, hs⟩ : ∃ s, Suite.ofDeclaration powDeclaration m none = .ok s :=
    ⟨_, rfl⟩
  obtain ⟨-, -, -, hunmarked⟩ := marked_cases_of_declaration hs
  have hm : m.Unmarked s.arity := by
    have hnames : ∀ t ∈ m.typeNames, ¬testMark.toList <+: t.toList ∧
        t ≠ "test" := by decide
    intro t ht
    obtain ⟨hmark, htest⟩ := hnames t ht
    refine ⟨fun rest hrest => hmark ?_, fun _ => htest⟩
    rw [hrest, String.toList_append]
    exact List.prefix_append _ _
  exact ⟨s, hs, hm, hunmarked hm⟩

/-- Two types of which one is named like the case of the other. -/
def TypeMatrix.withMarkedType : TypeMatrix :=
  .ofDeclarations [("x", []), ("test_x", [])]

/-- A suite of one function with one entry. -/
def declarationOf (entry : String) : Declaration where
  name := "S"
  functions := ["f"]
  notImplemented := [entry]

/-- The entry for the type `test_x` is accepted and marks no case, and the one
for `x` also marks the case of `test_x`. -/
theorem marked_cases_of_marked_type :
    (∃ s, Suite.ofDeclaration (declarationOf "test_test_x") .withMarkedType
      none = .ok s ∧
      ¬(declarationOf "test_test_x").EveryEntryMarks s .withMarkedType) ∧
    ∃ s, Suite.ofDeclaration (declarationOf "x") .withMarkedType none = .ok s ∧
      ¬(declarationOf "x").OnlyEntriesMark s .withMarkedType := by
  have hnames {entry label : String} :
      (declarationOf entry).Names label ↔ normaliseEntry entry = label := by
    simp [Declaration.Names, declarationOf]
  refine ⟨⟨_, rfl, fun hmarks => ?_⟩, ⟨_, rfl, fun honly => ?_⟩⟩
  · have hleft :=
      (everyEntryMarks_iff rfl).mp hmarks "x" (hnames.mpr (by decide))
    exact absurd (hnames.mp hleft) (by decide)
  · have hmarked :=
      (onlyEntriesMark_iff rfl).mp honly ⟨["test_x"]⟩ (by decide) "x"
        (by decide)
      (hnames.mpr (by decide))
    exact absurd (hnames.mp hmarked) (by decide)

end Concord
