import Concord.Path
import Mathlib.Data.List.Basic

/-!
# The order of paths, and names below a path

Paths are compared by their components, and the order of the components is
total. So paths that come neither before nor after one another have the same
components. Joining a name to a path puts one component at its end.
-/

namespace Concord.Path

/-! ## Order -/

namespace Component

/-- The text of a name; other components have none. -/
def nameText : Component → String
  | .name s => s
  | _ => ""

/-- Components are compared by kind, and then as names. -/
theorem compare_eq_compareLex (a b : Component) :
    a.compare b = compareLex (compareOn rank) (compareOn nameText) a b := by
  cases a <;> cases b <;> rfl

theorem eq_of_compare_eq {a b : Component} (h : a.compare b = .eq) : a = b := by
  rw [compare_eq_compareLex, compareLex_eq_eq] at h
  obtain ⟨hrank, htext⟩ := h
  have hsame : a.rank = b.rank := Std.LawfulEqOrd.eq_of_compare hrank
  have hname : a.nameText = b.nameText := Std.LawfulEqOrd.eq_of_compare htext
  cases a <;> cases b <;> simp_all [rank, nameText]

instance : Std.TransCmp compare := by
  have hcompare :
      compare = compareLex (compareOn rank) (compareOn nameText) := by
    funext a b
    exact compare_eq_compareLex a b
  rw [hcompare]
  infer_instance

instance : Std.LawfulEqCmp compare where
  compare_self := Std.ReflCmp.compare_self
  eq_of_compare := eq_of_compare_eq

end Component

theorem compareComponents_eq_compareLex :
    compareComponents = List.compareLex Component.compare := by
  funext as bs
  induction as generalizing bs with
  | nil => cases bs <;> rfl
  | cons a as ih =>
      cases bs with
      | nil => rfl
      | cons b bs => rw [compareComponents, ih, List.compareLex_cons_cons]

instance : Std.TransCmp compareComponents := by
  rw [compareComponents_eq_compareLex]
  infer_instance

instance : Std.LawfulEqCmp compareComponents := by
  rw [compareComponents_eq_compareLex]
  infer_instance

/-- The first path comes before the second one. -/
def Precedes (p q : String) : Prop :=
  compareComponents (components p) (components q) = .lt

theorem le_iff {p q : String} :
    le p q = true ↔
      (compareComponents (components p) (components q)).isLE = true := by
  rw [le]
  cases compareComponents (components p) (components q) <;> decide

theorem le_trans {p q r : String} (hpq : le p q = true) (hqr : le q r = true) :
    le p r = true := by
  rw [le_iff] at *
  exact Std.TransCmp.isLE_trans hpq hqr

theorem le_total (p q : String) : (le p q || le q p) = true := by
  have hswap : compareComponents (components p) (components q) =
      (compareComponents (components q) (components p)).swap :=
        Std.OrientedCmp.eq_swap
  rw [le, le, hswap]
  cases compareComponents (components q) (components p) <;> rfl

theorem same_iff {p q : String} :
    same p q = true ↔ components p = components q := by
  rw [same, beq_iff_eq]

theorem precedes_of_le {p q : String} (hle : le p q = true)
    (hne : components p ≠ components q) : Precedes p q := by
  rw [le_iff] at hle
  rcases Ordering.isLE_iff_eq_lt_or_eq_eq.mp hle with hlt | heq
  · exact hlt
  · exact absurd (Std.LawfulEqCmp.eq_of_compare heq) hne

theorem Precedes.trans_le {p q r : String} (hpq : Precedes p q)
    (hqr : le q r = true) : Precedes p r :=
  Std.TransCmp.lt_of_lt_of_isLE hpq (le_iff.mp hqr)

theorem Precedes.ne {p q : String} (h : Precedes p q) :
    components p ≠ components q := by
  intro hsame
  have hself : compareComponents (components q) (components q) = .eq :=
    Std.ReflCmp.compare_self
  rw [Precedes, hsame, hself] at h
  exact nomatch h

theorem nodup_map_components {ps : List String} (h : ps.Pairwise Precedes) :
    (ps.map components).Nodup :=
  List.pairwise_map.mpr (h.imp Precedes.ne)

/-- Paths in strict order are determined by the set of their components. -/
theorem map_components_eq_of_precedes {ps qs : List String}
    (hps : ps.Pairwise Precedes) (hqs : qs.Pairwise Precedes)
    (hmem : ∀ cs, (∃ p ∈ ps, components p = cs) ↔ ∃ q ∈ qs, components q = cs) :
    ps.map components = qs.map components := by
  have hstrict : ∀ {ts : List String}, ts.Pairwise Precedes →
      (ts.map components).Pairwise fun a b => compareComponents a b = .lt :=
    fun hts => List.pairwise_map.mpr hts
  have hperm : (ps.map components).Perm (qs.map components) := by
    rw [List.perm_ext_iff_of_nodup (nodup_map_components hps)
      (nodup_map_components hqs)]
    simpa only [List.mem_map] using hmem
  refine List.Perm.eq_of_pairwise ?_ (hstrict hps) (hstrict hqs) hperm
  intro a b _ _ hab hba
  exact absurd hba (Std.OrientedCmp.not_lt_of_lt hab)

/-! ## Parts -/

theorem parts_eq_splitOn (path : String) :
    parts path = (path.toList.splitOn '/').map String.ofList := by
  have hgo : ∀ (cs part : List Char),
      parts.go part cs = List.splitOnPPrepend (· == '/') cs part := by
    intro cs
    induction cs with
    | nil => exact fun _ => rfl
    | cons c cs ih =>
        intro part
        simp only [parts.go, List.splitOnPPrepend, ih, beq_iff_eq]
  rw [parts, hgo]
  rfl

theorem parts_ne_nil (path : String) : parts path ≠ [] := by
  rw [parts_eq_splitOn]
  simp

theorem parts_of_notMem {name : String} (h : '/' ∉ name.toList) :
    parts name = [name] := by
  rw [parts_eq_splitOn, List.splitOn_eq_singleton h]
  simp

theorem parts_append (base path : String) :
    parts (base ++ "/" ++ path) = parts base ++ parts path := by
  have hchars : (base ++ "/" ++ path).toList =
      base.toList ++ '/' :: path.toList := by simp
  rw [parts_eq_splitOn, hchars, List.splitOn_append_cons_self, List.map_append,
    ← parts_eq_splitOn, ← parts_eq_splitOn]

/-! ## Names below a path -/

/-- The text is a single component of a path. -/
def IsName (name : String) : Prop :=
  '/' ∉ name.toList ∧ name ≠ "" ∧ name ≠ "." ∧ name ≠ ".."

instance (name : String) : Decidable (IsName name) :=
  inferInstanceAs (Decidable (_ ∧ _ ∧ _ ∧ _))

theorem IsName.component? {name : String} (h : IsName name) :
    component? name = some (.name name) := by
  obtain ⟨-, hempty, hhere, hup⟩ := h
  simp [Path.component?, hempty, hhere, hup]

theorem IsName.not_isAbsolute {name : String} (h : IsName name) :
    isAbsolute name = false := by
  rw [isAbsolute, beq_eq_false_iff_ne]
  intro hhead
  exact h.1 (List.mem_of_head? hhead)

theorem isAbsolute_append {base : String} (hbase : base ≠ "") (path : String) :
    isAbsolute (base ++ path) = isAbsolute base := by
  have hchars : base.toList ≠ [] := by simpa using hbase
  rw [isAbsolute, isAbsolute, String.toList_append,
    List.head?_append_of_ne_nil _ hchars]

/-- The parts of a path with a name joined to it. An empty part at the end of
the path is left out. -/
theorem exists_parts_join {base name : String} (hbase : base ≠ "")
    (hname : IsName name) :
    ∃ ps, ps ≠ [] ∧ (parts base = ps ∨ parts base = ps ++ [""]) ∧
      parts (join base name) = ps ++ [name] ∧
      isAbsolute (join base name) = isAbsolute base := by
  have hrelative : ¬(isAbsolute name || base.isEmpty) = true := by
    simp [hname.not_isAbsolute, hbase]
  rw [join, if_neg hrelative]
  by_cases hslash : (base.toList.getLast? == some '/') = true
  · obtain ⟨cs, hcs⟩ := List.getLast?_eq_some_iff.mp (beq_iff_eq.mp hslash)
    obtain rfl : base = String.ofList cs ++ "/" ++ "" :=
      String.toList_inj.mp (by simp [hcs])
    have hempty : parts "" = [""] := parts_of_notMem (by decide)
    refine ⟨parts (String.ofList cs), parts_ne_nil _, Or.inr ?_, ?_, ?_⟩
    · rw [parts_append, hempty]
    · rw [if_pos hslash, String.append_empty, parts_append,
        parts_of_notMem hname.1]
    · rw [if_pos hslash, isAbsolute_append hbase]
  · refine ⟨parts base, parts_ne_nil _, Or.inl rfl, ?_, ?_⟩
    · rw [if_neg hslash, parts_append, parts_of_notMem hname.1]
    · rw [if_neg hslash, String.append_assoc, isAbsolute_append hbase]

theorem components_join {name : String} (base : String) (hname : IsName name) :
    components (join base name) = components base ++ [.name name] := by
  by_cases hbase : base = ""
  · subst hbase
    have hjoin : join "" name = name := by simp [join]
    have hempty : components "" = [] := by decide
    have hdot : name ≠ "." := hname.2.2.1
    rw [hjoin, hempty, components, hname.not_isAbsolute,
      parts_of_notMem hname.1]
    simp [hdot, hname.component?]
  · obtain ⟨ps, hne, hparts, hjoin, habsolute⟩ := exists_parts_join hbase hname
    have hhead : (parts base).head? = (ps ++ [name]).head? := by
      rw [List.head?_append_of_ne_nil _ hne]
      rcases hparts with h | h
      · rw [h]
      · rw [h, List.head?_append_of_ne_nil _ hne]
    have hnames : (parts base).filterMap component? =
        ps.filterMap component? := by
      rcases hparts with h | h
      · rw [h]
      · rw [h, List.filterMap_append]
        simp [Path.component?]
    rw [components, components, hjoin, habsolute, hhead, hnames,
      List.filterMap_append, List.append_assoc]
    simp [hname.component?]

/-- The path of a place below another one. -/
def below (base : String) (names : List String) : String :=
  names.foldl join base

theorem components_below {names : List String} (base : String)
    (hnames : ∀ name ∈ names, IsName name) :
    components (below base names) = components base ++ names.map .name := by
  induction names generalizing base with
  | nil => simp [below]
  | cons name names ih =>
      obtain ⟨hname, hrest⟩ := List.forall_mem_cons.mp hnames
      have hstep := ih (join base name) hrest
      rw [components_join base hname] at hstep
      simpa [below] using hstep

theorem fileName?_below {names : List String} (base : String)
    (hnames : ∀ name ∈ names, IsName name) {last : String}
    (hlast : names.getLast? = some last) :
    fileName? (below base names) = some last := by
  have hcomponents :
      (components (below base names)).getLast? = some (.name last) := by
    rw [components_below base hnames, List.getLast?_append, List.getLast?_map,
      hlast]
    rfl
  rw [fileName?, hcomponents]

end Concord.Path
