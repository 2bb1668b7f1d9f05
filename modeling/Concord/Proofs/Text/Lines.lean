import Concord.Proofs.Text.Blank
import Concord.Text.Lines
import Mathlib.Data.List.Infix
import Mathlib.Data.List.TakeWhile

/-!
# Laws of lines and parts

A line feed splits the lines before it from those after it. Cutting at a
separator gives the part before the first one, and nothing is lost.
-/

namespace Concord
namespace Text

/-! ## Beginnings and parts -/

theorem after?_eq_some_iff {start cs rest : List Char} :
    after? start cs = some rest ↔ start ++ rest = cs := by
  induction start generalizing cs with
  | nil => simp [after?, eq_comm]
  | cons s start ih =>
      cases cs with
      | nil => simp [after?]
      | cons c cs =>
          rw [after?, List.cons_append, List.cons.injEq]
          by_cases hsc : s = c
          · rw [if_pos hsc, ih, and_iff_right hsc]
          · rw [if_neg hsc]
            exact iff_of_false nofun fun h => hsc h.1

theorem after?_eq_none_iff {start cs : List Char} :
    after? start cs = none ↔ ¬start <+: cs := by
  rw [Option.eq_none_iff_forall_ne_some]
  simp only [ne_eq, after?_eq_some_iff, List.IsPrefix, not_exists]

theorem cutAt_append_cons {separator : Char} {before : List Char}
    (h : separator ∉ before) (after : List Char) :
    cutAt separator (before ++ separator :: after) = (before, after) := by
  have hall : ∀ c ∈ before, (c != separator) = true := by
    intro c hc
    exact bne_iff_ne.mpr fun heq => h (heq ▸ hc)
  rw [cutAt, List.takeWhile_append_of_pos hall,
    List.dropWhile_append_of_pos hall]
  simp

theorem cutAt_of_notMem {separator : Char} {cs : List Char}
    (h : separator ∉ cs) : cutAt separator cs = (cs, []) := by
  have hall : ∀ c ∈ cs, (c != separator) = true := by
    intro c hc
    exact bne_iff_ne.mpr fun heq => h (heq ▸ hc)
  rw [cutAt, List.takeWhile_eq_self_iff.mpr hall,
    List.dropWhile_eq_nil_iff.mpr hall, List.drop_nil]

/-- Either there is no separator, or the parts stand on both sides of the first
one. -/
theorem cutAt_eq_iff {separator : Char} {cs before after : List Char} :
    cutAt separator cs = (before, after) ↔
      separator ∉ before ∧
        (cs = before ∧ after = [] ∨ cs = before ++ separator :: after) := by
  constructor
  · intro h
    by_cases hmem : separator ∈ cs
    · obtain ⟨s, t, rfl, hs⟩ := List.eq_append_cons_of_mem hmem
      rw [cutAt_append_cons hs] at h
      cases h
      exact ⟨hs, Or.inr rfl⟩
    · rw [cutAt_of_notMem hmem] at h
      cases h
      exact ⟨hmem, Or.inl ⟨rfl, rfl⟩⟩
  · rintro ⟨hbefore, ⟨rfl, rfl⟩ | rfl⟩
    · exact cutAt_of_notMem hbefore
    · exact cutAt_append_cons hbefore after

/-! ## Lines -/

theorem lines_go_append_newline (line cs rest : List Char) :
    lines.go line (cs ++ '\n' :: rest) =
      lines.go line (cs ++ ['\n']) ++ lines.go [] rest := by
  induction cs generalizing line with
  | nil => simp [lines.go]
  | cons c cs ih =>
      rw [List.cons_append, List.cons_append, lines.go, lines.go]
      by_cases hc : c = '\n'
      · rw [if_pos hc, if_pos hc, ih, List.cons_append]
      · rw [if_neg hc, if_neg hc, ih]

/-- The lines after a line feed do not depend on what stands before it. -/
theorem lines_append {before : List Char}
    (h : before = [] ∨ ∃ cs, before = cs ++ ['\n']) (rest : List Char) :
    lines (before ++ rest) = lines before ++ lines rest := by
  rcases h with rfl | ⟨cs, rfl⟩
  · rfl
  · rw [List.append_assoc]
    exact lines_go_append_newline [] cs rest

theorem lines_go_append_cons {cs : List Char} (h : '\n' ∉ cs)
    (line rest : List Char) :
    lines.go line (cs ++ '\n' :: rest) =
      dropCarriageReturn (line.reverse ++ cs) :: lines.go [] rest := by
  induction cs generalizing line with
  | nil => simp [lines.go]
  | cons c cs ih =>
      obtain ⟨hc, hcs⟩ := not_or.mp (mt List.mem_cons.mpr h)
      rw [List.cons_append, lines.go, if_neg (Ne.symm hc), ih hcs,
        List.reverse_cons, List.append_assoc, List.singleton_append]

theorem lines_append_cons {line : List Char} (h : '\n' ∉ line)
    (rest : List Char) :
    lines (line ++ '\n' :: rest) = dropCarriageReturn line :: lines rest :=
  lines_go_append_cons h [] rest

/-! ## Lines without their trailing blanks -/

theorem dropTrailingBlanks_dropCarriageReturn (line : List Char) :
    dropTrailingBlanks (dropCarriageReturn line) = dropTrailingBlanks line := by
  rw [dropCarriageReturn]
  split_ifs with h
  · -- A carriage return is white space, so it is dropped either way.
    obtain ⟨cs, rfl⟩ := List.getLast?_eq_some_iff.mp h
    have hblank : ∀ c ∈ ['\r'], isBlank c = true := by
      intro c hc
      rw [List.mem_singleton.mp hc]
      decide
    rw [List.dropLast_concat]
    exact (dropTrailingBlanks_append hblank cs).symm
  · rfl

/-- Dropping blanks at the end keeps a beginning that ends in none. -/
theorem prefix_dropTrailingBlanks_iff {d : Char} (hd : isBlank d = false)
    {ds line : List Char} :
    ds ++ [d] <+: dropTrailingBlanks line ↔ ds ++ [d] <+: line := by
  constructor
  · intro h
    obtain ⟨w, -, hline⟩ := exists_dropTrailingBlanks_append line
    exact h.trans ⟨w, hline⟩
  · rintro ⟨rest, rfl⟩
    rw [List.append_assoc, List.singleton_append,
      dropTrailingBlanks_append_cons hd]
    exact ⟨dropTrailingBlanks rest, by simp⟩

end Text
end Concord
