import Concord.Proofs.Text.Lines

/-!
# Text on a single line

Text without a line feed or without any control character, and what keeps it so:
taking parts of it and joining it. Lines that are ended by line feeds are found
again by splitting at them.
-/

namespace Concord
namespace Text

/-- The text has no line feed. -/
def SingleLine (s : String) : Prop :=
  '\n' ∉ s.toList

instance (s : String) : Decidable (SingleLine s) :=
  inferInstanceAs (Decidable ('\n' ∉ s.toList))

@[simp] theorem singleLine_ofList {cs : List Char} :
    SingleLine (String.ofList cs) ↔ '\n' ∉ cs := by
  rw [SingleLine, String.toList_ofList]

@[simp] theorem singleLine_append {s t : String} :
    SingleLine (s ++ t) ↔ SingleLine s ∧ SingleLine t := by
  simp [SingleLine]

/-- A character of joined text stands in the separator or in one of the
parts. -/
theorem notMem_intercalate {c : Char} {separator : String}
    (hseparator : c ∉ separator.toList) {ts : List String}
    (hts : ∀ t ∈ ts, c ∉ t.toList) : c ∉ (separator.intercalate ts).toList := by
  rw [String.toList_intercalate]
  induction ts with
  | nil => simp
  | cons t ts ih =>
      obtain ⟨ht, hrest⟩ := List.forall_mem_cons.mp hts
      cases ts with
      | nil => simpa using ht
      | cons u ts =>
          have hjoined := ih hrest
          rw [List.map_cons, List.map_cons, List.intercalate_cons_cons]
          simp only [List.mem_append, not_or]
          exact ⟨⟨ht, hseparator⟩, hjoined⟩

theorem singleLine_intercalate {separator : String}
    (hseparator : SingleLine separator) {ts : List String}
    (hts : ∀ t ∈ ts, SingleLine t) : SingleLine (separator.intercalate ts) :=
  notMem_intercalate hseparator hts

@[simp] theorem singleLine_repr (n : Nat) : SingleLine n.repr := by
  intro hmem
  rw [Nat.toList_repr] at hmem
  exact absurd (Nat.isDigit_of_mem_toDigits (by decide) (by decide) hmem)
    (by decide)

/-! ## Parts of a text -/

theorem newline_notMem_dropCarriageReturn {line : List Char} (h : '\n' ∉ line) :
    '\n' ∉ dropCarriageReturn line := by
  rw [dropCarriageReturn]
  split_ifs
  · exact fun hmem => h (List.mem_of_mem_dropLast hmem)
  · exact h

theorem newline_notMem_of_mem_lines_go {acc cs line : List Char}
    (hacc : '\n' ∉ acc) (hline : line ∈ lines.go acc cs) : '\n' ∉ line := by
  induction cs generalizing acc with
  | nil =>
      rw [lines.go] at hline
      split_ifs at hline
      · exact absurd hline List.not_mem_nil
      · rw [List.mem_singleton.mp hline, List.mem_reverse]
        exact hacc
  | cons c cs ih =>
      rw [lines.go] at hline
      split_ifs at hline with hc
      · rcases List.mem_cons.mp hline with rfl | hrest
        · exact newline_notMem_dropCarriageReturn (mt List.mem_reverse.mp hacc)
        · exact ih List.not_mem_nil hrest
      · refine ih ?_ hline
        rw [List.mem_cons, not_or]
        exact ⟨Ne.symm hc, hacc⟩

theorem newline_notMem_of_mem_lines {cs line : List Char}
    (h : line ∈ lines cs) : '\n' ∉ line :=
  newline_notMem_of_mem_lines_go List.not_mem_nil h

theorem mem_of_mem_cutAt {separator c : Char} {cs before after : List Char}
    (h : cutAt separator cs = (before, after)) (hc : c ∈ before ∨ c ∈ after) :
    c ∈ cs := by
  rcases (cutAt_eq_iff.mp h).2 with ⟨rfl, rfl⟩ | rfl
  · simpa using hc
  · simp only [List.mem_append, List.mem_cons]
    exact hc.imp_right Or.inr

/-! ## Control characters -/

/-- An ASCII control character. -/
def isControl (c : Char) : Bool :=
  c.toNat < 0x20 || c.toNat = 0x7f

/-- The text has no ASCII control character. -/
def ControlFree (cs : List Char) : Prop :=
  ∀ c ∈ cs, isControl c = false

section ControlFree

variable {c : Char} {cs ds : List Char}

theorem controlFree_of_any (h : cs.any isControl = false) : ControlFree cs :=
  fun _ hc => eq_false_of_mem h hc

@[simp] theorem controlFree_nil : ControlFree [] :=
  List.forall_mem_nil _

@[simp] theorem controlFree_cons :
    ControlFree (c :: cs) ↔ isControl c = false ∧ ControlFree cs :=
  List.forall_mem_cons

@[simp] theorem controlFree_append :
    ControlFree (cs ++ ds) ↔ ControlFree cs ∧ ControlFree ds :=
  List.forall_mem_append

theorem ControlFree.notMem (h : ControlFree cs) (hc : isControl c = true) :
    c ∉ cs :=
  fun hmem => Bool.false_ne_true ((h c hmem).symm.trans hc)

theorem controlFree_flatMap {α : Type} {f : α → List Char} {as : List α}
    (h : ∀ a ∈ as, ControlFree (f a)) : ControlFree (as.flatMap f) := by
  intro c hc
  obtain ⟨a, ha, hmem⟩ := List.mem_flatMap.mp hc
  exact h a ha c hmem

theorem controlFree_intercalate {separator : List Char}
    (hseparator : ControlFree separator) {ts : List (List Char)}
    (hts : ∀ t ∈ ts, ControlFree t) :
    ControlFree (separator.intercalate ts) := by
  induction ts with
  | nil => simp
  | cons t ts ih =>
      obtain ⟨ht, hrest⟩ := List.forall_mem_cons.mp hts
      cases ts with
      | nil => simpa using ht
      | cons u ts =>
          rw [List.intercalate_cons_cons, controlFree_append,
            controlFree_append]
          exact ⟨⟨ht, hseparator⟩, ih hrest⟩

end ControlFree

/-! ## Ended lines -/

/-- Splitting at the line feeds finds the lines, and nothing after the last
one. -/
theorem splitOn_join_ended {ts : List String} (h : ∀ t ∈ ts, SingleLine t) :
    (String.join (ts.map (· ++ "\n"))).toList.splitOn '\n' =
      ts.map String.toList ++ [[]] := by
  have hjoin : (String.join (ts.map (· ++ "\n"))).toList =
      ['\n'].intercalate (ts.map String.toList ++ [[]]) := by
    rw [String.toList_join, List.flatMap_map]
    clear h
    induction ts with
    | nil => rfl
    | cons t ts ih =>
        obtain ⟨u, us, hu⟩ :=
          List.exists_cons_of_ne_nil (List.append_ne_nil_of_right_ne_nil
            (ts.map String.toList)
            (List.cons_ne_nil [] []))
        rw [List.flatMap_cons, ih, List.map_cons, List.cons_append, hu,
          List.intercalate_cons_cons, String.toList_append]
        rfl
  rw [hjoin]
  refine List.splitOn_intercalate '\n' ?_ (by simp)
  intro l hl
  rcases List.mem_append.mp hl with hmem | hmem
  · obtain ⟨t, ht, rfl⟩ := List.mem_map.mp hmem
    exact h t ht
  · rw [List.mem_singleton.mp hmem]
    exact List.not_mem_nil

theorem dropCarriageReturn_of_notMem {line : List Char} (h : '\r' ∉ line) :
    dropCarriageReturn line = line := by
  rw [dropCarriageReturn, if_neg]
  exact fun hlast => h (List.mem_of_getLast? hlast)

/-- Lines without control characters are found again when each is ended by a
line feed. -/
theorem lines_join_ended {ts : List String}
    (h : ∀ t ∈ ts, ControlFree t.toList) :
    lines (String.join (ts.map (· ++ "\n"))).toList = ts.map String.toList := by
  rw [String.toList_join, List.flatMap_map]
  induction ts with
  | nil => rfl
  | cons t ts ih =>
      obtain ⟨ht, hts⟩ := List.forall_mem_cons.mp h
      have hended : (t ++ "\n").toList = t.toList ++ ['\n'] := by simp
      rw [List.flatMap_cons, hended, List.append_assoc, List.singleton_append,
        lines_append_cons (ht.notMem rfl),
        dropCarriageReturn_of_notMem (ht.notMem rfl), ih hts, List.map_cons]

theorem mem_of_mem_join_ended {ts : List String} {c : Char}
    (h : c ∈ (String.join (ts.map (· ++ "\n"))).toList) :
    c = '\n' ∨ ∃ t ∈ ts, c ∈ t.toList := by
  rw [String.toList_join, List.flatMap_map] at h
  obtain ⟨t, ht, hc⟩ := List.mem_flatMap.mp h
  rw [String.toList_append, List.mem_append] at hc
  rcases hc with hc | hc
  · exact Or.inr ⟨t, ht, hc⟩
  · exact Or.inl (List.mem_singleton.mp hc)

end Text
end Concord
