import Concord.Proofs.FileTree
import Concord.Suite.Discovery

/-!
# What discovery finds

Below a directory, discovery takes the files with a known extension to which no
hidden name leads; a path to a file it takes as it is. The result is in strict
order, so it is determined by the components of the files that the paths give.
It does not depend on the order of the paths or on repetitions, and a directory
below one that is searched anyway adds nothing.
-/

namespace Concord
namespace Suite

/-! ## Files below a directory -/

/-- The names lead from a tree to a file with the extension of a suite file, and
none of them starts with a dot. -/
structure IsSuiteFile (t : FileTree) (names : List String) : Prop where
  file : ∃ content, t.get? names = some (.file content)
  visible : ∀ name ∈ names, name.toList.head? ≠ some '.'
  extension : ∃ name ext, names.getLast? = some name ∧
    Path.nameExtension? name = some ext ∧
    (ext = "yaml" ∨ ext = "yml" ∨ ext = "json")

theorem not_isSuiteFile_of_leaf {t : FileTree} (h : t.isDirectory = false)
    {names : List String} : ¬IsSuiteFile t names := by
  rintro ⟨⟨content, hget⟩, -, last, ext, hlast, -⟩
  obtain ⟨rfl, -⟩ := FileTree.get?_of_leaf h hget
  exact nomatch hlast

theorem not_isDirectory_of_isFile {t : FileTree} (h : t.isFile = true) :
    t.isDirectory = false := by
  obtain ⟨content, rfl⟩ := FileTree.isFile_iff.mp h
  rfl

theorem isSearched_visitAt_nil (path : String) (u : FileTree) :
    isSearched (FileTree.visitAt 0 path [] u) = true :=
  rfl

theorem isSearched_visitAt_iff (path : String) {last : String}
    {names : List String} (hnames : ∀ name ∈ names, Path.IsName name)
    (hlast : names.getLast? = some last) (u : FileTree) :
    isSearched (FileTree.visitAt 0 path names u) = true ↔
      last.toList.head? ≠ some '.' := by
  have hdepth : 0 + names.length ≠ 0 := by
    rw [Nat.zero_add, Ne, List.length_eq_zero_iff]
    rintro rfl
    exact nomatch hlast
  have hname : (FileTree.visitAt 0 path names u).name = last := by
    rw [FileTree.Visit.name, FileTree.visitAt,
      Path.fileName?_below path hnames hlast, Option.getD_some]
  rw [isSearched, hname, FileTree.visitAt, Bool.or_eq_true, beq_iff_eq,
    or_iff_right hdepth, bne_iff_ne]

/-- A search comes to what names lead to, if none of them starts with a dot. -/
theorem admitted_isSearched_iff {t u : FileTree} (ht : t.WellFormed)
    {path : String} {names : List String} (hget : t.get? names = some u) :
    FileTree.Admitted isSearched 0 path t names ↔
      ∀ name ∈ names, name.toList.head? ≠ some '.' := by
  have hnames := (ht.get? hget).2
  constructor
  · intro hadmitted name hmem
    obtain ⟨before, after, rfl⟩ := List.append_of_mem hmem
    have hsplit : before ++ name :: after = (before ++ [name]) ++ after := by
      simp
    rw [hsplit, FileTree.get?_append, Option.bind_eq_some_iff] at hget
    obtain ⟨w, hw, -⟩ := hget
    rw [hsplit] at hnames
    have hbefore : ∀ x ∈ before ++ [name], Path.IsName x :=
      fun x hx => hnames x (List.mem_append_left _ hx)
    refine (isSearched_visitAt_iff path hbefore (by simp) w).mp ?_
    exact hadmitted (before ++ [name]) w ⟨after, hsplit.symm⟩ hw
  · intro hvisible before w hbefore _
    rcases List.eq_nil_or_concat before with rfl | ⟨front, last, rfl⟩
    · exact isSearched_visitAt_nil path w
    · have hmem : ∀ x ∈ front.concat last, x ∈ names :=
        fun x hx => hbefore.subset hx
      have hlast : (front.concat last).getLast? = some last := by simp
      have hfront : ∀ x ∈ front.concat last, Path.IsName x :=
        fun x hx => hnames x (hmem x hx)
      refine (isSearched_visitAt_iff path hfront hlast w).mpr ?_
      exact hvisible last (hmem last (by simp))

theorem hasExtension_below_iff {path : String} {names : List String}
    (hnames : ∀ name ∈ names, Path.IsName name) (hne : names ≠ []) :
    hasExtension (Path.below path names) = true ↔
      ∃ name ext, names.getLast? = some name ∧
        Path.nameExtension? name = some ext ∧
        (ext = "yaml" ∨ ext = "yml" ∨ ext = "json") := by
  obtain ⟨last, hlast⟩ : ∃ last, names.getLast? = some last :=
    ⟨_, List.getLast?_eq_some_getLast hne⟩
  rw [hasExtension, Path.extension?, Path.fileName?_below path hnames hlast,
    Option.bind_some, Option.any_eq_true, hlast]
  simp [extensions]

/-- The search finds the suite files below a tree that is no file itself. -/
theorem mem_filesBelow {t : FileTree} (ht : t.WellFormed)
    (hfile : t.isFile = false) {path q : String} :
    q ∈ filesBelow path t ↔
      ∃ names, IsSuiteFile t names ∧ q = Path.below path names := by
  have hne : ∀ {names : List String} {u : FileTree}, t.get? names = some u →
      u.isFile = true → names ≠ [] := by
    rintro names u hget hu rfl
    obtain rfl : t = u := Option.some.inj hget
    rw [hfile] at hu
    exact nomatch hu
  simp only [filesBelow, List.mem_map, List.mem_filter, FileTree.mem_walk ht,
    Bool.and_eq_true]
  constructor
  · rintro ⟨v, ⟨⟨names, u, hget, hadmitted, rfl⟩, hu, hext⟩, rfl⟩
    have hnames := (ht.get? hget).2
    obtain ⟨content, rfl⟩ := FileTree.isFile_iff.mp hu
    refine ⟨names, ⟨⟨content, hget⟩, ?_, ?_⟩, rfl⟩
    · exact (admitted_isSearched_iff ht hget).mp hadmitted
    · exact (hasExtension_below_iff hnames (hne hget rfl)).mp hext
  · rintro ⟨names, ⟨⟨content, hget⟩, hvisible, hext⟩, rfl⟩
    have hnames := (ht.get? hget).2
    refine ⟨_, ⟨⟨names, _, hget, ?_, rfl⟩, rfl, ?_⟩, rfl⟩
    · exact (admitted_isSearched_iff ht hget).mpr hvisible
    · exact (hasExtension_below_iff hnames (hne hget rfl)).mpr hext

/-! ## Files at a path -/

/-- The components of a file that a path gives: its own if it leads to a file,
and otherwise those of a suite file below it. -/
inductive IsFound (d : Disk) (path : String) : List Path.Component → Prop where
  | file (hpath : d.isFile path = true) : IsFound d path (Path.components path)
  | below {t : FileTree} {names : List String} (hpath : d.find? path = some t)
      (hfile : IsSuiteFile t names) :
      IsFound d path (Path.components path ++ names.map .name)

variable {d : Disk} {path : String} {t : FileTree} {files : List String}

theorem isFile_of_find? (h : d.find? path = some t) :
    d.isFile path = t.isFile := by
  rw [Disk.isFile, h, Option.any_some]

theorem filesAt_of_find? (h : d.find? path = some t) :
    filesAt d path =
      .ok (if t.isFile then [path] else filesBelow path t) := by
  rw [filesAt, isFile_of_find? h, h]
  split_ifs <;> rfl

theorem filesAt_of_missing (h : d.find? path = none) :
    filesAt d path =
      .error (.unreadable path "no such file or directory") := by
  have hpath : ¬d.isFile path = true := by
    rw [Disk.isFile, h, Option.any_none]
    decide
  rw [filesAt, if_neg hpath, h]

theorem exists_filesAt_iff :
    (∃ files, filesAt d path = .ok files) ↔ d.exists? path = true := by
  rw [Disk.exists?]
  cases h : d.find? path with
  | none => simp [filesAt_of_missing h]
  | some t => simp [filesAt_of_find? h]

theorem filesAt_eq_error_iff {e : SetupError} :
    filesAt d path = .error e ↔
      d.exists? path = false ∧
        e = .unreadable path "no such file or directory" := by
  rw [Disk.exists?]
  cases h : d.find? path with
  | none => simp [filesAt_of_missing h, eq_comm]
  | some t => simp [filesAt_of_find? h]

theorem wellFormed_of_find? (hd : d.root.WellFormed)
    (h : d.find? path = some t) : t.WellFormed := by
  obtain ⟨names, -, hget⟩ := Disk.find?_eq_some_iff.mp h
  exact (hd.get? hget).1

theorem mem_filesAt_iff (hd : d.root.WellFormed)
    (h : filesAt d path = .ok files) {f : String} :
    f ∈ files ↔ d.isFile path = true ∧ f = path ∨
      ∃ t names, d.find? path = some t ∧ IsSuiteFile t names ∧
        f = Path.below path names := by
  cases hfind : d.find? path with
  | none => simp [filesAt_of_missing hfind] at h
  | some t =>
      rw [filesAt_of_find? hfind] at h
      cases h
      have hsame : (∃ u names, some t = some u ∧ IsSuiteFile u names ∧
          f = Path.below path names) ↔ ∃ names, IsSuiteFile t names ∧
            f = Path.below path names := by simp
      rw [hsame, isFile_of_find? hfind]
      by_cases hfile : t.isFile = true
      · have hnone : ¬∃ names, IsSuiteFile t names ∧
            f = Path.below path names := by
          rintro ⟨names, hnames, -⟩
          exact not_isSuiteFile_of_leaf (not_isDirectory_of_isFile hfile) hnames
        rw [if_pos hfile, List.mem_singleton, and_iff_right hfile,
          or_iff_left hnone]
      · rw [if_neg hfile, or_iff_right fun hleft => hfile hleft.1]
        exact mem_filesBelow (wellFormed_of_find? hd hfind)
          (Bool.eq_false_iff.mpr hfile)

theorem isName_of_isSuiteFile (hd : d.root.WellFormed)
    (hfind : d.find? path = some t) {names : List String}
    (h : IsSuiteFile t names) : ∀ name ∈ names, Path.IsName name := by
  obtain ⟨content, hget⟩ := h.file
  exact ((wellFormed_of_find? hd hfind).get? hget).2

/-- The files of a path, up to their spelling. -/
theorem exists_mem_filesAt_iff (hd : d.root.WellFormed)
    (h : filesAt d path = .ok files) {cs : List Path.Component} :
    (∃ f ∈ files, Path.components f = cs) ↔ IsFound d path cs := by
  constructor
  · rintro ⟨f, hf, rfl⟩
    rcases (mem_filesAt_iff hd h).mp hf with
      ⟨hfile, rfl⟩ | ⟨t, names, hfind, hnames, rfl⟩
    · exact .file hfile
    · rw [Path.components_below path (isName_of_isSuiteFile hd hfind hnames)]
      exact .below hfind hnames
  · intro hfound
    cases hfound with
    | file hfile =>
        exact ⟨path, (mem_filesAt_iff hd h).mpr (Or.inl ⟨hfile, rfl⟩), rfl⟩
    | @below t names hfind hnames =>
        refine ⟨Path.below path names,
          (mem_filesAt_iff hd h).mpr (Or.inr ?_), ?_⟩
        · exact ⟨t, names, hfind, hnames, rfl⟩
        · exact Path.components_below path
            (isName_of_isSuiteFile hd hfind hnames)

theorem isFile_of_mem_filesAt (hd : d.root.WellFormed)
    (h : filesAt d path = .ok files) {f : String} (hf : f ∈ files) :
    d.isFile f = true := by
  rcases (mem_filesAt_iff hd h).mp hf with
    ⟨hfile, rfl⟩ | ⟨t, names, hfind, hnames, rfl⟩
  · exact hfile
  · obtain ⟨content, hget⟩ := hnames.file
    have hnames := isName_of_isSuiteFile hd hfind hnames
    exact isFile_of_find? (Disk.find?_below hfind hnames hget)

/-- Visible names that lead to a tree are put before those of a file in it. -/
theorem IsSuiteFile.append {u : FileTree} {names more : List String}
    (h : IsSuiteFile u more) (hget : t.get? names = some u)
    (hvisible : ∀ name ∈ names, name.toList.head? ≠ some '.') :
    IsSuiteFile t (names ++ more) := by
  obtain ⟨⟨content, hfile⟩, hmore, last, ext, hlast, hext⟩ := h
  refine ⟨⟨content, ?_⟩, List.forall_mem_append.mpr ⟨hvisible, hmore⟩, last,
    ext, ?_, hext⟩
  · rw [FileTree.get?_append, hget]
    exact hfile
  · rw [List.getLast?_append, hlast]
    rfl

/-- A directory below another one gives nothing that the other one does not
give. -/
theorem IsFound.of_below {base : String} {names : List String}
    {cs : List Path.Component} (hbase : d.isDirectory base = true)
    (hpath : d.isDirectory path = true)
    (hcomponents :
      Path.components path = Path.components base ++ names.map .name)
    (hvisible : ∀ name ∈ names, name.toList.head? ≠ some '.')
    (h : IsFound d path cs) : IsFound d base cs := by
  obtain ⟨t, hfind, -⟩ := (Option.any_eq_true _ _).mp hbase
  cases h with
  | file hfile =>
      obtain ⟨u, hu, hdirectory⟩ := (Option.any_eq_true _ _).mp hpath
      obtain ⟨u', hu', hisFile⟩ := (Option.any_eq_true _ _).mp hfile
      cases hu.symm.trans hu'
      rw [not_isDirectory_of_isFile hisFile] at hdirectory
      exact nomatch hdirectory
  | below hfind' hmore =>
      have hget := Disk.get?_of_components_append hfind hfind' hcomponents
      rw [hcomponents, List.append_assoc, ← List.map_append]
      exact .below hfind (hmore.append hget hvisible)

/-! ## Order -/

theorem dropRepeats_sublist (ps : List String) :
    (dropRepeats ps).Sublist ps := by
  fun_induction dropRepeats ps with
  | case1 => exact List.Sublist.refl _
  | case2 p => exact List.Sublist.refl _
  | case3 p q rest hsame ih =>
      exact ih.trans (List.Sublist.cons_cons p (List.sublist_cons_self q rest))
  | case4 p q rest hdiffer ih => exact ih.cons_cons p

theorem exists_mem_dropRepeats_iff {ps : List String}
    {cs : List Path.Component} :
    (∃ p ∈ dropRepeats ps, Path.components p = cs) ↔
      ∃ p ∈ ps, Path.components p = cs := by
  fun_induction dropRepeats ps with
  | case1 => rfl
  | case2 p => rfl
  | case3 p q rest hsame ih =>
      rw [ih]
      have hcomponents := Path.same_iff.mp hsame
      simp only [List.exists_mem_cons_iff, hcomponents]
      tauto
  | case4 p q rest hdiffer ih =>
      simp only [List.exists_mem_cons_iff] at ih ⊢
      rw [ih]

/-- Neighbours are all that is to be compared, since the paths are in order. -/
theorem pairwise_precedes_dropRepeats {ps : List String}
    (h : ps.Pairwise fun p q => Path.le p q = true) :
    (dropRepeats ps).Pairwise Path.Precedes := by
  fun_induction dropRepeats ps with
  | case1 => exact List.Pairwise.nil
  | case2 p => exact List.pairwise_singleton _ p
  | case3 p q rest hsame ih =>
      exact ih
        (h.sublist (List.Sublist.cons_cons p (List.sublist_cons_self q rest)))
  | case4 p q rest hdiffer ih =>
      obtain ⟨hp, hrest⟩ := List.pairwise_cons.mp h
      refine List.pairwise_cons.mpr ⟨?_, ih hrest⟩
      have hpq : Path.Precedes p q :=
        Path.precedes_of_le (hp q List.mem_cons_self)
          (mt Path.same_iff.mpr hdiffer)
      intro x hx
      rcases List.mem_cons.mp ((dropRepeats_sublist _).subset hx) with rfl | hx
      · exact hpq
      · exact hpq.trans_le ((List.pairwise_cons.mp hrest).1 x hx)

/-! ## Discovery -/

variable {roots : List String}

theorem discover_eq_ok_iff :
    discover d roots = .ok files ↔ ∃ found : List (List String),
      roots.map (filesAt d) = found.map .ok ∧
      dropRepeats (found.flatten.mergeSort Path.le) = files := by
  rw [discover, bind_eq_ok_iff]
  simp only [mapM_eq_ok_iff, Except.ok.injEq]

theorem mem_found_iff {found : List (List String)}
    (h : roots.map (filesAt d) = found.map .ok) {part : List String} :
    part ∈ found ↔ ∃ root ∈ roots, filesAt d root = .ok part := by
  rw [← List.mem_map, h, List.mem_map_of_injective fun _ _ => Except.ok.inj]

/-- The first path that leads nowhere is reported. -/
theorem discover_eq_error_iff {e : SetupError} :
    discover d roots = .error e ↔
      ∃ before root after, roots = before ++ root :: after ∧
      (∀ p ∈ before, d.exists? p = true) ∧ d.exists? root = false ∧
      e = .unreadable root "no such file or directory" := by
  rw [discover, bind_eq_error_iff, mapM_eq_error_iff]
  simp only [exists_filesAt_iff, filesAt_eq_error_iff, reduceCtorEq, and_false,
    exists_false, or_false]

theorem exists_discover_eq_ok (h : ∀ root ∈ roots, d.exists? root = true) :
    ∃ files, discover d roots = .ok files := by
  cases hdiscover : discover d roots with
  | ok files => exact ⟨files, rfl⟩
  | error e =>
      obtain ⟨before, root, after, rfl, -, hmissing, -⟩ :=
        discover_eq_error_iff.mp hdiscover
      rw [h root (by simp)] at hmissing
      exact nomatch hmissing

section Found

variable (h : discover d roots = .ok files)
include h

theorem exists_filesAt_of_discover {root : String} (hroot : root ∈ roots) :
    ∃ part, filesAt d root = .ok part := by
  obtain ⟨found, hfound, -⟩ := discover_eq_ok_iff.mp h
  have hmem : filesAt d root ∈ found.map .ok := by
    rw [← hfound]
    exact List.mem_map_of_mem hroot
  obtain ⟨part, -, hpart⟩ := List.mem_map.mp hmem
  exact ⟨part, hpart.symm⟩

/-- Up to their spelling, the files are those of the paths. -/
theorem exists_mem_discover_iff_filesAt {cs : List Path.Component} :
    (∃ f ∈ files, Path.components f = cs) ↔ ∃ root ∈ roots, ∃ part,
      filesAt d root = .ok part ∧ ∃ f ∈ part, Path.components f = cs := by
  obtain ⟨found, hfound, rfl⟩ := discover_eq_ok_iff.mp h
  rw [exists_mem_dropRepeats_iff]
  simp only [List.mem_mergeSort, List.mem_flatten, mem_found_iff hfound]
  constructor
  · rintro ⟨f, ⟨part, ⟨root, hroot, hpart⟩, hf⟩, hcs⟩
    exact ⟨root, hroot, part, hpart, f, hf, hcs⟩
  · rintro ⟨root, hroot, part, hpart, f, hf, hcs⟩
    exact ⟨f, ⟨part, ⟨root, hroot, hpart⟩, hf⟩, hcs⟩

theorem isFile_of_mem_discover (hd : d.root.WellFormed) {f : String}
    (hf : f ∈ files) : d.isFile f = true := by
  obtain ⟨found, hfound, rfl⟩ := discover_eq_ok_iff.mp h
  have hmem := (dropRepeats_sublist _).subset hf
  rw [List.mem_mergeSort, List.mem_flatten] at hmem
  obtain ⟨part, hpart, hf⟩ := hmem
  obtain ⟨root, -, hfiles⟩ := (mem_found_iff hfound).mp hpart
  exact isFile_of_mem_filesAt hd hfiles hf

theorem exists_mem_discover_iff (hd : d.root.WellFormed)
    {cs : List Path.Component} :
    (∃ f ∈ files, Path.components f = cs) ↔
      ∃ root ∈ roots, IsFound d root cs := by
  rw [exists_mem_discover_iff_filesAt h]
  constructor
  · rintro ⟨root, hroot, part, hpart, hfile⟩
    exact ⟨root, hroot, (exists_mem_filesAt_iff hd hpart).mp hfile⟩
  · rintro ⟨root, hroot, hfound⟩
    obtain ⟨part, hpart⟩ := exists_filesAt_of_discover h hroot
    exact ⟨root, hroot, part, hpart,
      (exists_mem_filesAt_iff hd hpart).mpr hfound⟩

theorem pairwise_precedes_of_discover : files.Pairwise Path.Precedes := by
  obtain ⟨found, -, rfl⟩ := discover_eq_ok_iff.mp h
  have htrans : ∀ p q r, Path.le p q = true → Path.le q r = true →
      Path.le p r = true :=
    fun _ _ _ => Path.le_trans
  have hsorted := List.pairwise_mergeSort htrans Path.le_total found.flatten
  exact pairwise_precedes_dropRepeats hsorted

theorem exists_of_discover {root : String} (hroot : root ∈ roots) :
    d.exists? root = true := by
  obtain ⟨part, hpart⟩ := exists_filesAt_of_discover h hroot
  exact exists_filesAt_iff.mp ⟨part, hpart⟩

/-- Paths that exist and give the same files have the same result, up to
spelling. -/
theorem discover_congr (hd : d.root.WellFormed) {roots' : List String}
    (hexists : ∀ root ∈ roots', d.exists? root = true)
    (hfound : ∀ cs, (∃ root ∈ roots', IsFound d root cs) ↔
      ∃ root ∈ roots, IsFound d root cs) :
    ∃ files', discover d roots' = .ok files' ∧
      files'.map Path.components = files.map Path.components := by
  obtain ⟨files', h'⟩ := exists_discover_eq_ok hexists
  refine ⟨files', h', ?_⟩
  apply Path.map_components_eq_of_precedes (pairwise_precedes_of_discover h')
    (pairwise_precedes_of_discover h)
  intro cs
  rw [exists_mem_discover_iff h' hd, exists_mem_discover_iff h hd, hfound]

end Found

/-- Discovery gives the files at its paths and the suite files below them, in
strict order and each once. Up to the spelling of the result it only matters
which paths are given, and a directory that is reached from another one by
visible names adds nothing. A path that leads nowhere is an error. -/
theorem discover_finds_exactly (d : Disk) (hd : d.root.WellFormed) :
    (∀ roots, (∀ root ∈ roots, d.exists? root = true) →
      ∃ files, discover d roots = .ok files ∧
      files.Pairwise Path.Precedes ∧ (files.map Path.components).Nodup ∧
      (∀ f ∈ files, d.isFile f = true) ∧
      ∀ cs, (∃ f ∈ files, Path.components f = cs) ↔
        ∃ root ∈ roots, IsFound d root cs) ∧
    (∀ roots roots' files, discover d roots = .ok files →
      (∀ p, p ∈ roots' ↔ p ∈ roots) →
      ∃ files', discover d roots' = .ok files' ∧
        files'.map Path.components = files.map Path.components) ∧
    (∀ roots roots' files root added (names : List String),
      discover d roots = .ok files → root ∈ roots →
      d.isDirectory root = true → d.isDirectory added = true →
      Path.components added = Path.components root ++ names.map .name →
      (∀ name ∈ names, name.toList.head? ≠ some '.') →
      (∀ p, p ∈ roots' ↔ p = added ∨ p ∈ roots) →
      ∃ files', discover d roots' = .ok files' ∧
        files'.map Path.components = files.map Path.components) ∧
    ∀ roots e, discover d roots = .error e ↔ ∃ before root after,
      roots = before ++ root :: after ∧ (∀ p ∈ before, d.exists? p = true) ∧
      d.exists? root = false ∧
      e = .unreadable root "no such file or directory" := by
  refine ⟨?_, ?_, ?_, fun roots e => discover_eq_error_iff⟩
  · intro roots hexists
    obtain ⟨files, h⟩ := exists_discover_eq_ok hexists
    have hstrict := pairwise_precedes_of_discover h
    exact ⟨files, h, hstrict, Path.nodup_map_components hstrict,
      fun f => isFile_of_mem_discover h hd,
      fun cs => exists_mem_discover_iff h hd⟩
  · intro roots roots' files h hsame
    apply discover_congr h hd
    · intro root hroot
      exact exists_of_discover h ((hsame root).mp hroot)
    · intro cs
      simp only [hsame]
  · intro roots roots' files root added names h hroot hdirectory hadded
      hcomponents hvisible hsame
    apply discover_congr h hd
    · intro p hp
      rcases (hsame p).mp hp with rfl | hp
      · obtain ⟨t, ht, -⟩ := (Option.any_eq_true _ _).mp hadded
        rw [Disk.exists?, ht]
        rfl
      · exact exists_of_discover h hp
    · intro cs
      constructor
      · rintro ⟨p, hp, hfound⟩
        rcases (hsame p).mp hp with rfl | hp
        · exact ⟨root, hroot,
            hfound.of_below hdirectory hadded hcomponents hvisible⟩
        · exact ⟨p, hp, hfound⟩
      · rintro ⟨p, hp, hfound⟩
        exact ⟨p, (hsame p).mpr (Or.inr hp), hfound⟩

/-- Suites in a directory with a hidden one, a foreign file and one below it,
and a file beside it. -/
def nestedSuites : Disk where
  root := .directory [("work", .directory
    [("extra", .file .empty),
      ("suites", .directory
        [(".drafts", .directory [("a.yaml", .file .empty)]),
          ("notes.txt", .file .empty),
          ("sub", .directory [("c.json", .file .empty)])])])]
  workingDirectory := ["work"]

theorem discover_finds_exactly_in_nestedSuites :
    nestedSuites.root.WellFormed ∧ ∃ files files',
      discover nestedSuites ["suites", "extra"] = .ok files ∧
      (∃ f ∈ files,
        Path.components f = [.name "suites", .name "sub", .name "c.json"]) ∧
      discover nestedSuites ["extra", "suites/sub/", "suites", "extra"] =
        .ok files' ∧
      files'.map Path.components = files.map Path.components ∧
      discover nestedSuites ["suites", "gone"] =
        .error (.unreadable "gone" "no such file or directory") := by
  have hwellFormed : nestedSuites.root.WellFormed := by
    simp +decide [nestedSuites, FileTree.wellFormed_directory_iff,
      FileTree.WellFormed.file]
  obtain ⟨hexact, -, hbelow, herror⟩ :=
    discover_finds_exactly nestedSuites hwellFormed
  obtain ⟨files, hfiles, -, -, -, hfound⟩ :=
    hexact ["suites", "extra"] (by decide)
  obtain ⟨files', hfiles', hsame⟩ :=
    hbelow _ ["extra", "suites/sub/", "suites", "extra"] files
    "suites" "suites/sub/" ["sub"] hfiles (by decide) (by decide) (by decide)
      (by decide)
    (by decide) (by simp)
  have hnested : IsFound nestedSuites "suites" (Path.components "suites" ++
      ["sub", "c.json"].map .name) :=
    .below rfl ⟨⟨_, rfl⟩, by decide, "c.json", "json", rfl, by decide,
      by decide⟩
  refine ⟨hwellFormed, files, files', hfiles,
    (hfound _).mpr ⟨"suites", by decide, hnested⟩,
    hfiles', hsame, ?_⟩
  exact (herror _ _).mpr ⟨["suites"], "gone", [], rfl, by decide,
    by decide, rfl⟩

end Suite
end Concord
