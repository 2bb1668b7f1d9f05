import Concord.FileTree
import Concord.Proofs.Execution
import Concord.Proofs.Path

/-!
# Where paths lead

In a well-formed tree every place is reached by one list of names. A path that
leads somewhere leads where its components say, so what stands at a path does
not depend on how the path is spelled, and joining names to the path of a
directory descends into it.
-/

namespace Concord

namespace FileTree

/-- The entries of each directory have distinct names, which are single
components. -/
inductive WellFormed : FileTree → Prop where
  | file (content : ByteArray) : WellFormed (.file content)
  | device : WellFormed .device
  | directory {entries : List (String × FileTree)}
      (hnodup : (entries.map Prod.fst).Nodup)
      (hnames : ∀ e ∈ entries, Path.IsName e.1)
      (hentries : ∀ e ∈ entries, WellFormed e.2) :
      WellFormed (.directory entries)

theorem wellFormed_directory_iff {entries : List (String × FileTree)} :
    (directory entries).WellFormed ↔ (entries.map Prod.fst).Nodup ∧
      ∀ e ∈ entries, Path.IsName e.1 ∧ e.2.WellFormed := by
  constructor
  · rintro (_ | _ | ⟨hnodup, hnames, hentries⟩)
    exact ⟨hnodup, fun e he => ⟨hnames e he, hentries e he⟩⟩
  · rintro ⟨hnodup, hentries⟩
    exact .directory hnodup (fun e he => (hentries e he).1) fun e he =>
      (hentries e he).2

theorem lookup_eq_some_iff_mem {entries : List (String × FileTree)}
    (h : (entries.map Prod.fst).Nodup) {name : String} {t : FileTree} :
    entries.lookup name = some t ↔ (name, t) ∈ entries := by
  induction entries with
  | nil => simp
  | cons e entries ih =>
      obtain ⟨hfirst, hrest⟩ := List.nodup_cons.mp h
      rw [List.lookup_cons, List.mem_cons]
      by_cases hname : name = e.1
      · subst hname
        have hnone : (e.1, t) ∉ entries := by
          intro hmem
          exact hfirst (List.mem_map.mpr ⟨_, hmem, rfl⟩)
        rw [beq_self_eq_true, Option.some.injEq, or_iff_left hnone,
          Prod.ext_iff]
        exact ⟨fun ht => ⟨rfl, ht.symm⟩, fun he => he.2.symm⟩
      · have hne : (name, t) ≠ e := fun he => hname (congrArg Prod.fst he)
        rw [beq_false_of_ne hname, ih hrest, or_iff_right hne]

theorem get?_directory_cons (entries : List (String × FileTree)) (name : String)
    (names : List String) :
    (directory entries).get? (name :: names) =
      (entries.lookup name).bind fun t => t.get? names := by
  rw [get?]
  cases entries.lookup name <;> rfl

/-- Only a directory has something below it. -/
theorem exists_entries_of_get?_cons {t u : FileTree} {name : String}
    {names : List String} (h : t.get? (name :: names) = some u) :
    ∃ entries child, t = .directory entries ∧ entries.lookup name = some child ∧
      child.get? names = some u := by
  cases t with
  | file content => exact nomatch h
  | device => exact nomatch h
  | directory entries =>
      rw [get?_directory_cons, Option.bind_eq_some_iff] at h
      obtain ⟨child, hlookup, hchild⟩ := h
      exact ⟨entries, child, rfl, hlookup, hchild⟩

theorem get?_append (t : FileTree) (names more : List String) :
    t.get? (names ++ more) = (t.get? names).bind fun u => u.get? more := by
  induction names generalizing t with
  | nil => rw [List.nil_append, get?, Option.bind_some]
  | cons name names ih =>
      cases t with
      | file content => rfl
      | device => rfl
      | directory entries =>
          rw [List.cons_append, get?_directory_cons, get?_directory_cons]
          cases entries.lookup name with
          | none => rfl
          | some child => exact ih child

/-- What stands in a well-formed tree is well-formed, and proper names lead to
it. -/
theorem WellFormed.get? {t u : FileTree} (ht : t.WellFormed)
    {names : List String} (h : t.get? names = some u) :
    u.WellFormed ∧ ∀ name ∈ names, Path.IsName name := by
  induction names generalizing t with
  | nil =>
      rw [FileTree.get?, Option.some.injEq] at h
      exact ⟨h ▸ ht, by simp⟩
  | cons name names ih =>
      obtain ⟨entries, child, rfl, hlookup, hchild⟩ :=
        exists_entries_of_get?_cons h
      cases ht with
      | directory hnodup hnames hentries =>
          have hmem := (lookup_eq_some_iff_mem hnodup).mp hlookup
          obtain ⟨hu, hrest⟩ := ih (hentries _ hmem) hchild
          exact ⟨hu, List.forall_mem_cons.mpr ⟨hnames _ hmem, hrest⟩⟩

theorem isFile_iff {t : FileTree} :
    t.isFile = true ↔ ∃ content, t = .file content := by
  cases t <;> simp [isFile]

/-! ## Walks -/

variable {admits : Visit → Bool} {depth : Nat} {path : String}

/-- The place to which the names lead from a place of that depth and path. -/
def visitAt (depth : Nat) (path : String) (names : List String)
    (u : FileTree) : Visit :=
  ⟨depth + names.length, Path.below path names, u⟩

theorem visitAt_cons (depth : Nat) (path name : String) (names : List String)
    (u : FileTree) :
    visitAt depth path (name :: names) u =
      visitAt (depth + 1) (Path.join path name) names u := by
  rw [visitAt, List.length_cons, Nat.add_comm names.length, ← Nat.add_assoc]
  rfl

/-- Every place on the way that the names lead is admitted, the first and the
last one included. -/
def Admitted (admits : Visit → Bool) (depth : Nat) (path : String)
    (t : FileTree) (names : List String) : Prop :=
  ∀ before u, before <+: names → t.get? before = some u →
    admits (visitAt depth path before u) = true

theorem admitted_nil_iff {t : FileTree} :
    Admitted admits depth path t [] ↔ admits ⟨depth, path, t⟩ = true := by
  constructor
  · intro h
    exact h [] t (List.prefix_refl []) rfl
  · intro h before u hbefore hget
    obtain rfl := List.prefix_nil.mp hbefore
    obtain rfl : t = u := Option.some.inj hget
    exact h

theorem admitted_cons_iff {entries : List (String × FileTree)} {name : String}
    {names : List String} {child : FileTree}
    (hlookup : entries.lookup name = some child) :
    Admitted admits depth path (.directory entries) (name :: names) ↔
      admits ⟨depth, path, .directory entries⟩ = true ∧
        Admitted admits (depth + 1) (Path.join path name) child names := by
  have hget : ∀ before, (directory entries).get? (name :: before) =
      child.get? before := by
    intro before
    rw [get?_directory_cons, hlookup, Option.bind_some]
  constructor
  · intro h
    refine ⟨h [] _ List.nil_prefix rfl, fun before u hbefore hu => ?_⟩
    rw [← visitAt_cons]
    exact h (name :: before) u (List.cons_prefix_cons.mpr ⟨rfl, hbefore⟩)
      ((hget before).trans hu)
  · rintro ⟨hhere, hrest⟩ before u hbefore hu
    rcases List.prefix_cons_iff.mp hbefore with rfl | ⟨more, rfl, hmore⟩
    · obtain rfl : directory entries = u := Option.some.inj hu
      exact hhere
    · rw [visitAt_cons]
      exact hrest more u hmore ((hget more).symm.trans hu)

theorem mem_walkEntries {entries : List (String × FileTree)} {v : Visit} :
    v ∈ walkEntries admits depth path entries ↔
      ∃ e ∈ entries, v ∈ walk admits depth (Path.join path e.1) e.2 := by
  induction entries with
  | nil => simp [walkEntries]
  | cons e entries ih =>
      rw [walkEntries, List.mem_append, ih, List.exists_mem_cons_iff]

theorem mem_walk_directory {entries : List (String × FileTree)} {v : Visit} :
    v ∈ (directory entries).walk admits depth path ↔
      admits ⟨depth, path, .directory entries⟩ = true ∧
        (v = ⟨depth, path, .directory entries⟩ ∨
          ∃ e ∈ entries,
            v ∈ walk admits (depth + 1) (Path.join path e.1) e.2) := by
  rw [walk, ← mem_walkEntries]
  split_ifs with hadmits
  · rw [List.mem_cons, and_iff_right hadmits]
  · exact iff_of_false List.not_mem_nil fun h => hadmits h.1

theorem walk_of_leaf {t : FileTree} (h : t.isDirectory = false) :
    walk admits depth path t =
      if admits ⟨depth, path, t⟩ then [⟨depth, path, t⟩] else [] := by
  cases t with
  | directory entries => exact nomatch h
  | file content => rfl
  | device => rfl

theorem get?_of_leaf {t u : FileTree} (h : t.isDirectory = false)
    {names : List String} (hget : t.get? names = some u) :
    names = [] ∧ t = u := by
  cases names with
  | nil => exact ⟨rfl, Option.some.inj hget⟩
  | cons name names =>
      obtain ⟨entries, child, rfl, -⟩ := exists_entries_of_get?_cons hget
      exact nomatch h

theorem mem_walk_of_leaf {t : FileTree} (h : t.isDirectory = false)
    {v : Visit} :
    v ∈ t.walk admits depth path ↔
      ∃ names u, t.get? names = some u ∧
        Admitted admits depth path t names ∧
        v = visitAt depth path names u := by
  rw [walk_of_leaf h]
  constructor
  · intro hv
    split_ifs at hv with hadmits
    · obtain rfl := List.mem_singleton.mp hv
      exact ⟨[], t, rfl, admitted_nil_iff.mpr hadmits, rfl⟩
    · exact absurd hv List.not_mem_nil
  · rintro ⟨names, u, hget, hadmitted, rfl⟩
    obtain ⟨rfl, rfl⟩ := get?_of_leaf h hget
    rw [if_pos (admitted_nil_iff.mp hadmitted)]
    exact List.mem_singleton_self _

/-- A walk meets what the names lead to, if every place on the way is
admitted. -/
theorem mem_walk {t : FileTree} (ht : t.WellFormed) {v : Visit} :
    v ∈ t.walk admits depth path ↔
      ∃ names u, t.get? names = some u ∧
        Admitted admits depth path t names ∧
        v = visitAt depth path names u := by
  induction ht generalizing depth path with
  | file content => exact mem_walk_of_leaf rfl
  | device => exact mem_walk_of_leaf rfl
  | @directory entries hnodup hnames hentries ih =>
      rw [mem_walk_directory]
      constructor
      · rintro ⟨hadmits, rfl | ⟨⟨name, child⟩, hmem, hv⟩⟩
        · exact ⟨[], _, rfl, admitted_nil_iff.mpr hadmits, rfl⟩
        · have hlookup := (lookup_eq_some_iff_mem hnodup).mpr hmem
          obtain ⟨names, u, hget, hadmitted, rfl⟩ := (ih _ hmem).mp hv
          refine ⟨name :: names, u, ?_, ?_, (visitAt_cons _ _ _ _ _).symm⟩
          · rw [get?_directory_cons, hlookup]
            exact hget
          · exact (admitted_cons_iff hlookup).mpr ⟨hadmits, hadmitted⟩
      · rintro ⟨names, u, hget, hadmitted, rfl⟩
        cases names with
        | nil =>
            obtain rfl : directory entries = u := Option.some.inj hget
            exact ⟨admitted_nil_iff.mp hadmitted, Or.inl rfl⟩
        | cons name names =>
            obtain ⟨_, child, hsame, hlookup, hchild⟩ :=
              exists_entries_of_get?_cons hget
            cases hsame
            obtain ⟨hadmits, hrest⟩ := (admitted_cons_iff hlookup).mp hadmitted
            have hmem := (lookup_eq_some_iff_mem hnodup).mp hlookup
            refine ⟨hadmits, Or.inr ⟨_, hmem, (ih _ hmem).mpr ?_⟩⟩
            exact ⟨names, u, hchild, hrest, visitAt_cons _ _ _ _ _⟩

end FileTree

namespace Disk

variable {d : Disk} {path : String} {t u : FileTree}

/-- Where a component leads from a place. -/
def follow (names : List String) : Path.Component → List String
  | .root => []
  | .here => names
  | .up => names.dropLast
  | .name s => names ++ [s]

theorem foldl_follow_name (names more : List String) :
    (more.map Path.Component.name).foldl follow names = names ++ more := by
  induction more generalizing names with
  | nil => simp
  | cons name more ih =>
      rw [List.map_cons, List.foldl_cons, ih, follow, List.append_assoc,
        List.singleton_append]

theorem step_eq_ok {names next : List String} {part : String}
    (h : d.step names part = .ok next) :
    next = (Path.component? part).toList.foldl follow names := by
  unfold step at h
  split at h
  · rw [Path.component?]
    split_ifs at h ⊢ with hidle hup hknown
    · exact (Except.ok.inj h).symm
    · exact (Except.ok.inj h).symm
    · exact (Except.ok.inj h).symm
  · cases h
  · cases h

theorem foldlM_step_eq_ok {parts start names : List String}
    (h : parts.foldlM d.step start = .ok names) :
    names = (parts.filterMap Path.component?).foldl follow start := by
  induction parts generalizing start with
  | nil => exact (Except.ok.inj h).symm
  | cons part parts ih =>
      rw [List.foldlM_cons] at h
      obtain ⟨next, hstep, hrest⟩ := bind_eq_ok_iff.mp h
      rw [ih hrest, step_eq_ok hstep, List.filterMap_cons]
      cases Path.component? part <;> rfl

theorem foldl_follow_components (path : String) (names : List String) :
    (Path.components path).foldl follow names =
      ((Path.parts path).filterMap Path.component?).foldl follow
        (if Path.isAbsolute path then [] else names) := by
  unfold Path.components
  dsimp only
  rw [List.foldl_append]
  congr 1
  split_ifs <;> rfl

/-- The parts of a path are followed from the root or from the working
directory. -/
theorem locate_eq_ok_iff {names : List String} :
    d.locate path = .ok names ↔ path ≠ "" ∧
      (Path.parts path).foldlM d.step
        (if Path.isAbsolute path then [] else d.workingDirectory) =
          .ok names := by
  by_cases hempty : path = ""
  · simp [locate, hempty]
  · simp [locate, hempty]

/-- A path that leads somewhere leads where its components say. -/
theorem locate_eq_ok {names : List String} (h : d.locate path = .ok names) :
    names = (Path.components path).foldl follow d.workingDirectory := by
  rw [foldl_follow_components]
  exact foldlM_step_eq_ok (locate_eq_ok_iff.mp h).2

theorem find?_eq_some_iff :
    d.find? path = some t ↔
      ∃ names, d.locate path = .ok names ∧ d.root.get? names = some t := by
  rw [find?]
  cases d.locate path with
  | ok names => simp
  | error fault => simp

/-- What stands below a directory stands at every path that has its
components. -/
theorem get?_of_components_append {base : String} {names : List String}
    (hbase : d.find? base = some t) (hpath : d.find? path = some u)
    (h : Path.components path = Path.components base ++ names.map .name) :
    t.get? names = some u := by
  obtain ⟨place, hlocate, hget⟩ := find?_eq_some_iff.mp hbase
  obtain ⟨place', hlocate', hget'⟩ := find?_eq_some_iff.mp hpath
  have hplace : place' = place ++ names := by
    rw [locate_eq_ok hlocate', h, List.foldl_append, ← locate_eq_ok hlocate,
      foldl_follow_name]
  rw [hplace, FileTree.get?_append, hget, Option.bind_some] at hget'
  exact hget'

theorem step_name {names : List String} {entries : List (String × FileTree)}
    {name : String} (h : d.root.get? names = some (.directory entries))
    (hname : Path.IsName name) (hentry : entries.lookup name = some t) :
    d.step names name = .ok (names ++ [name]) := by
  obtain ⟨-, hempty, hhere, hup⟩ := hname
  simp [step, h, hempty, hhere, hup, hentry]

/-- The parts of a path lead to the same place without an empty one at their
end. -/
theorem foldlM_step_of_append_empty {parts start names : List String}
    (h : (parts ++ [""]).foldlM d.step start = .ok names) :
    parts.foldlM d.step start = .ok names := by
  rw [List.foldlM_append] at h
  obtain ⟨place, hparts, hlast⟩ := bind_eq_ok_iff.mp h
  have hsame : names = place := foldlM_step_eq_ok hlast
  rw [hsame]
  exact hparts

theorem find?_join {entries : List (String × FileTree)} {name : String}
    (hpath : d.find? path = some (.directory entries))
    (hname : Path.IsName name) (hentry : entries.lookup name = some t) :
    d.find? (Path.join path name) = some t := by
  obtain ⟨names, hlocate, hget⟩ := find?_eq_some_iff.mp hpath
  obtain ⟨hne, hparts⟩ := locate_eq_ok_iff.mp hlocate
  obtain ⟨ps, -, hbase, hjoin, habsolute⟩ := Path.exists_parts_join hne hname
  have hplace : ps.foldlM d.step
      (if Path.isAbsolute path then [] else d.workingDirectory) =
      .ok names := by
    rcases hbase with h | h
    · rwa [h] at hparts
    · rw [h] at hparts
      exact foldlM_step_of_append_empty hparts
  have hjoined : d.locate (Path.join path name) = .ok (names ++ [name]) := by
    refine locate_eq_ok_iff.mpr ⟨?_, ?_⟩
    · intro hempty
      have hcomponents := Path.components_join path hname
      have hnone : Path.components "" = [] := by decide
      rw [hempty, hnone] at hcomponents
      simp at hcomponents
    · rw [hjoin, habsolute, List.foldlM_append, hplace]
      change [name].foldlM d.step names = _
      rw [List.foldlM_cons, step_name hget hname hentry]
      rfl
  refine find?_eq_some_iff.mpr ⟨names ++ [name], hjoined, ?_⟩
  rw [FileTree.get?_append, hget, Option.bind_some,
    FileTree.get?_directory_cons, hentry]
  rfl

/-- Joining names to the path of a directory descends into it. -/
theorem find?_below {names : List String} (hpath : d.find? path = some t)
    (hnames : ∀ name ∈ names, Path.IsName name) (h : t.get? names = some u) :
    d.find? (Path.below path names) = some u := by
  induction names generalizing path t with
  | nil =>
      rw [FileTree.get?] at h
      exact hpath.trans h
  | cons name names ih =>
      obtain ⟨entries, child, rfl, hlookup, hchild⟩ :=
        FileTree.exists_entries_of_get?_cons h
      obtain ⟨hname, hrest⟩ := List.forall_mem_cons.mp hnames
      exact ih (find?_join hpath hname hlookup) hrest hchild

end Disk
end Concord
