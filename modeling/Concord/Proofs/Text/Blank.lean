import Concord.Text.Blank
import Mathlib.Data.List.Basic

/-!
# Laws of blanks

White space and digits are finite classes of characters, so what holds of all
their members can be checked one by one. Skipping passes over white space and
nothing else.
-/

namespace Concord
namespace Text

/-! ## Members of a class of characters -/

/-- The characters that lie in ranges of code points. -/
def members (ranges : List (Nat × Nat)) : List Char :=
  ranges.flatMap fun r => (List.range (r.2 + 1 - r.1)).map fun i =>
    Char.ofNat (r.1 + i)

theorem mem_members {ranges : List (Nat × Nat)} {c : Char}
    (h : inRanges ranges c = true) : c ∈ members ranges := by
  obtain ⟨r, hr, hc⟩ := List.any_eq_true.mp h
  have hrange : r.1 ≤ c.toNat ∧ c.toNat ≤ r.2 := by simpa using hc
  refine List.mem_flatMap.mpr ⟨r, hr, List.mem_map.mpr ⟨c.toNat - r.1, ?_, ?_⟩⟩
  · rw [List.mem_range]
    omega
  · rw [Nat.add_sub_cancel' hrange.1, Char.ofNat_toNat]

theorem mem_members_of_isDigit {c : Char} (h : c.isDigit = true) :
    c ∈ members [(0x30, 0x39)] := by
  have hval : '0'.val ≤ c.val ∧ c.val ≤ '9'.val := by
    simpa [Char.isDigit] using h
  have hlow : 0x30 ≤ c.toNat := UInt32.le_iff_toNat_le.mp hval.1
  have hhigh : c.toNat ≤ 0x39 := UInt32.le_iff_toNat_le.mp hval.2
  apply mem_members
  rw [inRanges, List.any_cons, decide_eq_true hlow, decide_eq_true hhigh]
  rfl

theorem eq_false_of_mem {p : Char → Bool} {cs : List Char}
    (h : cs.any p = false) {c : Char} (hc : c ∈ cs) : p c = false :=
  Bool.eq_false_iff.mpr (List.any_eq_false.mp h c hc)

/-- What holds of no blank in the table holds of no blank. -/
theorem eq_false_of_isBlank {p : Char → Bool}
    (h : (members blankRanges).any p = false) {c : Char}
    (hc : isBlank c = true) : p c = false :=
  eq_false_of_mem h (mem_members hc)

/-! ## Skipping -/

theorem skipBlanks_append {w : List Char} (hw : ∀ c ∈ w, isBlank c = true)
    (cs : List Char) : skipBlanks (w ++ cs) = skipBlanks cs :=
  List.dropWhile_append_of_pos hw

theorem skipBlanks_cons {c : Char} (hc : isBlank c = false) (cs : List Char) :
    skipBlanks (c :: cs) = c :: cs := by
  rw [skipBlanks, List.dropWhile_cons_of_neg (by simp [hc])]

theorem skipBlanks_append_cons {w : List Char} (hw : ∀ c ∈ w, isBlank c = true)
    {c : Char} (hc : isBlank c = false) (cs : List Char) :
    skipBlanks (w ++ c :: cs) = c :: cs := by
  rw [skipBlanks_append hw, skipBlanks_cons hc]

/-! ## Trailing blanks -/

theorem dropTrailingBlanks_append {w : List Char}
    (hw : ∀ c ∈ w, isBlank c = true) (cs : List Char) :
    dropTrailingBlanks (cs ++ w) = dropTrailingBlanks cs := by
  have hreverse : ∀ c ∈ w.reverse, isBlank c = true := by simpa using hw
  rw [dropTrailingBlanks, List.reverse_append,
    List.dropWhile_append_of_pos hreverse]
  rfl

theorem dropTrailingBlanks_append_cons {d : Char} (hd : isBlank d = false)
    (ds cs : List Char) :
    dropTrailingBlanks (ds ++ d :: cs) = ds ++ d :: dropTrailingBlanks cs := by
  have hreverse : (ds ++ d :: cs).reverse = cs.reverse ++ d :: ds.reverse := by
    simp
  rw [dropTrailingBlanks, hreverse, List.dropWhile_append, dropTrailingBlanks]
  split_ifs with hcs
  · rw [List.isEmpty_iff.mp hcs, List.dropWhile_cons_of_neg (by simp [hd])]
    simp
  · simp

/-- Nothing but white space is dropped. -/
theorem exists_dropTrailingBlanks_append (cs : List Char) :
    ∃ w, (∀ c ∈ w, isBlank c = true) ∧ dropTrailingBlanks cs ++ w = cs := by
  refine ⟨(cs.reverse.takeWhile isBlank).reverse, ?_, ?_⟩
  · intro c hc
    exact (List.all_eq_true.mp List.all_takeWhile) c (List.mem_reverse.mp hc)
  · rw [dropTrailingBlanks, ← List.reverse_append,
      List.takeWhile_append_dropWhile, List.reverse_reverse]

/-- Text that neither starts nor ends with white space is left as it is. -/
theorem trimBlanks_eq_self {c d : Char} {cs ds : List Char}
    (hc : isBlank c = false) (hd : isBlank d = false)
    (h : c :: cs = ds ++ [d]) : trimBlanks (c :: cs) = c :: cs := by
  rw [trimBlanks, skipBlanks_cons hc, h, dropTrailingBlanks_append_cons hd]
  rfl

end Text
end Concord
