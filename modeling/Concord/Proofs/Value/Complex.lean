import Concord.Proofs.Value.Reordering
import Concord.Proofs.Verdict

/-!
# Complex numbers in sets and dictionaries

A complex number is read from its text with all its signs, also where a part is
infinite or NaN. A set or dictionary that holds such texts is therefore read as
one, and compared without regard to order. The exception is a number without a
real part whose imaginary part is a word without a sign: the word and the `j`
together are taken for a name, so the text is kept verbatim.
-/

namespace Concord
namespace Value

open Binary64 (signText)

/-! ## Items -/

/-- A printed value with what it denotes, which may stand in a container. -/
structure PrintedItem where
  value : Value
  text : List Char
  depth : Nat
  written : Written depth value text
  depth_lt : depth < nestingLimit
  wellFormed : value.WellFormed

/-- The text of a set, with its items separated by commas and spaces. -/
def setText (items : List PrintedItem) : List Char :=
  '{' :: (joinTexts (items.map (·.text)) ++ ['}'])

/-- The text of a dictionary, with its entries separated by commas and
spaces. -/
def dictText (entries : List (PrintedItem × PrintedItem)) : List Char :=
  '{' :: (joinTexts
    (entries.map fun e => e.1.text ++ ':' :: ' ' :: e.2.text) ++ ['}'])

/-- The entries that are printed. -/
def printedEntries (entries : List (PrintedItem × PrintedItem)) :
    List (Value × Value) :=
  entries.map fun e => (e.1.value, e.2.value)

theorem exists_itemsText_joinTexts (close : Char) (item : PrintedItem)
    (items : List PrintedItem) {w : List Char} (hw : Blank w) :
    ∃ n < nestingLimit,
      ItemsText Written close n ((item :: items).map (·.value))
      (w ++ (joinTexts ((item :: items).map (·.text)) ++ [close])) := by
  induction items generalizing item w with
  | nil =>
      refine ⟨item.depth, item.depth_lt, ?_⟩
      simpa [joinTexts_cons] using ItemsText.last hw item.written blank_nil
  | cons next items ih =>
      obtain ⟨n, hn, hrest⟩ := ih next blank_space
      refine ⟨max item.depth n, max_lt item.depth_lt hn, ?_⟩
      have hcons := ItemsText.cons hw item.written blank_nil hrest
      simpa [joinTexts_cons] using hcons

theorem exists_entryText (e : PrintedItem × PrintedItem) {w : List Char}
    (hw : Blank w) :
    ∃ n < nestingLimit, EntryText Written n (e.1.value, e.2.value)
      (w ++ (e.1.text ++ ':' :: ' ' :: e.2.text)) :=
  ⟨_, max_lt e.1.depth_lt e.2.depth_lt,
    .mk hw e.1.written blank_nil blank_space e.2.written⟩

theorem exists_moreEntriesText_flatMap
    (entries : List (PrintedItem × PrintedItem)) :
    ∃ n < nestingLimit, MoreEntriesText Written n (printedEntries entries)
      ((entries.map fun e => e.1.text ++ ':' :: ' ' :: e.2.text).flatMap
        (fun u => ',' :: ' ' :: u) ++ ['}']) := by
  induction entries with
  | nil => exact ⟨0, by decide, .close blank_nil⟩
  | cons e entries ih =>
      obtain ⟨n, hn, hrest⟩ := ih
      obtain ⟨m, hm, hentry⟩ := exists_entryText e blank_space
      refine ⟨max m n, max_lt hm hn, ?_⟩
      simpa [printedEntries] using MoreEntriesText.cons blank_nil hentry hrest

theorem exists_written_setText {items : List PrintedItem} (hne : items ≠ []) :
    ∃ n ≤ nestingLimit, Written n (.set (items.map (·.value)))
      (setText items) := by
  obtain ⟨item, items, rfl⟩ := List.exists_cons_of_ne_nil hne
  obtain ⟨n, hn, hitems⟩ := exists_itemsText_joinTexts '}' item items blank_nil
  exact ⟨n + 1, hn, .set hitems⟩

theorem exists_written_dictText (entries : List (PrintedItem × PrintedItem)) :
    ∃ n ≤ nestingLimit, Written n (.dict (printedEntries entries))
      (dictText entries) := by
  cases entries with
  | nil => exact ⟨1, by decide, .emptyDict blank_nil⟩
  | cons e entries =>
      obtain ⟨n, hn, hrest⟩ := exists_moreEntriesText_flatMap entries
      obtain ⟨m, hm, hentry⟩ := exists_entryText e blank_nil
      refine ⟨max m n + 1, max_lt hm hn, ?_⟩
      simpa [dictText, printedEntries, joinTexts_cons]
        using Written.dict hentry hrest

/-! ## Reordering -/

theorem agree_set_of_perm {items items' : List PrintedItem}
    (hperm : items.Perm items') :
    Agree (.set (items.map (·.value))) (.set (items'.map (·.value))) := by
  have hitems : ∀ u ∈ items.map (·.value), WellFormed u := by
    intro u hu
    obtain ⟨item, -, rfl⟩ := List.mem_map.mp hu
    exact item.wellFormed
  have hset : WellFormed (.set (items.map (·.value))) := .intro trivial hitems
  refine (agree_set_iff_matching hset).mpr ⟨_, ?_, hperm.map _⟩
  exact List.forall₂_same.mpr fun u hu => (hitems u hu).regular.refl

theorem compare_setText_of_perm (typeName : String)
    {items items' : List PrintedItem} (hne : items ≠ [])
    (hperm : items.Perm items') :
    (Outcome.value typeName (String.ofList (setText items))).compare
      (Outcome.value typeName (String.ofList (setText items'))) = .same := by
  have hne' : items' ≠ [] := by
    rintro rfl
    exact hne hperm.eq_nil
  obtain ⟨n, hn, hset⟩ := exists_written_setText hne
  obtain ⟨n', hn', hset'⟩ := exists_written_setText hne'
  rw [Outcome.compare_value_eq_same_iff, hset.read_eq_of_le hn,
    hset'.read_eq_of_le hn']
  exact ⟨rfl, agree_set_of_perm hperm⟩

theorem compare_dictText_eq_same_iff (typeName : String)
    {entries entries' : List (PrintedItem × PrintedItem)}
    (hperm : entries.Perm entries') :
    (Outcome.value typeName (String.ofList (dictText entries))).compare
        (Outcome.value typeName (String.ofList (dictText entries'))) = .same ↔
      includesEntries (printedEntries entries) (printedEntries entries') =
        true := by
  have hlength : (printedEntries entries).length =
      (printedEntries entries').length :=
    (hperm.map _).length_eq
  obtain ⟨n, hn, hdict⟩ := exists_written_dictText entries
  obtain ⟨n', hn', hdict'⟩ := exists_written_dictText entries'
  rw [Outcome.compare_value_eq_same_iff, hdict.read_eq_of_le hn,
    hdict'.read_eq_of_le hn']
  simp [Agree, equivalent, hlength]

/-- Entries with agreeing keys have agreeing values. -/
def Consistent (entries : List (PrintedItem × PrintedItem)) : Prop :=
  ∀ e ∈ entries, ∀ f ∈ entries, Agree e.1.value f.1.value →
    Agree e.2.value f.2.value

theorem includesEntries_of_perm
    {entries entries' : List (PrintedItem × PrintedItem)}
    (hperm : entries.Perm entries') (h : Consistent entries) :
    includesEntries (printedEntries entries) (printedEntries entries') =
      true := by
  apply includesEntries_iff.mpr
  intro e he
  have he' : e ∈ printedEntries entries' := (hperm.map _).mem_iff.mp he
  obtain ⟨e, hmem, rfl⟩ := List.mem_map.mp he
  obtain ⟨f, hfind⟩ := exists_find?_of_agree he' e.1.wellFormed.regular.refl
  obtain ⟨hf, hkey⟩ := agree_of_find? hfind
  obtain ⟨f, hmem', rfl⟩ := List.mem_map.mp hf
  exact ⟨_, hfind, h e hmem f (hperm.mem_iff.mpr hmem') hkey⟩

/-- The lookup takes the first entry under an agreeing key, and each entry comes
first in some order. -/
theorem consistent_of_includesEntries
    {entries : List (PrintedItem × PrintedItem)}
    (h : ∀ entries', entries.Perm entries' →
      includesEntries (printedEntries entries) (printedEntries entries') =
        true) :
    Consistent entries := by
  intro e he f hf hkey
  obtain ⟨before, after, rfl⟩ := List.append_of_mem hf
  have hincludes :=
    includesEntries_iff.mp (h (f :: (before ++ after)) List.perm_middle)
  obtain ⟨g, hfind, hvalue⟩ := hincludes _ (List.mem_map_of_mem he)
  rw [printedEntries, List.map_cons,
    List.find?_cons_of_pos (by exact hkey)] at hfind
  obtain rfl := Option.some.inj hfind
  exact hvalue

theorem compare_dictText_of_perm (typeName : String)
    (entries : List (PrintedItem × PrintedItem)) :
    (∀ entries', entries.Perm entries' →
      (Outcome.value typeName (String.ofList (dictText entries))).compare
        (Outcome.value typeName (String.ofList (dictText entries'))) = .same) ↔
      Consistent entries := by
  constructor
  · intro h
    apply consistent_of_includesEntries
    intro entries' hperm
    exact (compare_dictText_eq_same_iff typeName hperm).mp (h entries' hperm)
  · intro h entries' hperm
    exact (compare_dictText_eq_same_iff typeName hperm).mpr
      (includesEntries_of_perm hperm h)

/-! ## Complex numbers -/

theorem exists_printedItem_of_complexText {n : Nat} {re im : Binary64}
    {t : List Char} (h : ComplexText n re im t) :
    ∃ item : PrintedItem, item.text = t ∧ item.value = .complex re im := by
  have hdepth : n < nestingLimit := by
    cases h with
    | imaginary => decide
    | parts => decide
  exact ⟨⟨_, t, n, .complex h, hdepth, IsAtom.wellFormed trivial⟩, rfl, rfl⟩

theorem read_complexText {n : Nat} {re im : Binary64} {t : List Char}
    (h : ComplexText n re im t) : read (String.ofList t) = .complex re im := by
  obtain ⟨item, rfl, hvalue⟩ := exists_printedItem_of_complexText h
  rw [← hvalue]
  exact item.written.read_eq_of_le item.depth_lt.le

/-- An imaginary part that is a word needs a sign, since a word at the start of
a text is taken for a name. -/
theorem read_unsigned_word {negative : Bool} {T : NumberToken}
    (h : ¬(negative = true ∨ T.IsNumeral)) :
    read (String.ofList (signText negative ++ (T.text ++ ['j']))) =
      .verbatim (String.ofList (T.text ++ ['j'])) := by
  obtain ⟨hsign, hword⟩ := not_or.mp h
  obtain rfl := Bool.eq_false_of_not_eq_true hsign
  cases T with
  | numeral n => exact absurd trivial hword
  | inf => rfl
  | nan => rfl

theorem read_imaginary_iff (negative : Bool) (T : NumberToken) :
    read (String.ofList (signText negative ++ (T.text ++ ['j']))) =
        .complex .zero (T.value negative) ↔
      negative = true ∨ T.IsNumeral := by
  constructor
  · intro hread
    by_contra h
    rw [read_unsigned_word h] at hread
    exact nomatch hread
  · intro h
    exact read_complexText (.imaginary h)

/-- A token before a `j` is read as an imaginary number exactly when it has a
sign or consists of digits, and a sum of two parts is always read with the signs
of both, words included. What is read so may stand in a set or dictionary, and
these are compared without regard to order: a set agrees with all its
reorderings, and a dictionary does exactly when its entries with agreeing keys
have agreeing values. -/
theorem read_complex_in_containers (negative negative' : Bool)
    (R T : NumberToken) :
    (read (String.ofList (signText negative ++ (T.text ++ ['j']))) =
        .complex .zero (T.value negative) ↔
      negative = true ∨ T.IsNumeral) ∧
    (¬(negative = true ∨ T.IsNumeral) →
      read (String.ofList (signText negative ++ (T.text ++ ['j']))) =
        .verbatim (String.ofList (T.text ++ ['j']))) ∧
    (R.Fits negative →
      read (String.ofList ('(' :: (signText negative ++
          (R.text ++ signMark negative' :: (T.text ++ ['j', ')']))))) =
        .complex (R.value negative) (T.value negative')) ∧
    (∀ (n : Nat) (re im : Binary64) (t : List Char), ComplexText n re im t →
      ∃ item : PrintedItem, item.text = t ∧ item.value = .complex re im) ∧
    (∀ (typeName : String) (items items' : List PrintedItem), items ≠ [] →
      items.Perm items' →
      (Outcome.value typeName (String.ofList (setText items))).compare
        (Outcome.value typeName (String.ofList (setText items'))) = .same) ∧
    (∀ (typeName : String) (entries : List (PrintedItem × PrintedItem)),
      (∀ entries', entries.Perm entries' →
        (Outcome.value typeName (String.ofList (dictText entries))).compare
          (Outcome.value typeName (String.ofList (dictText entries'))) =
            .same) ↔
        Consistent entries) := by
  refine ⟨read_imaginary_iff negative T, read_unsigned_word, ?_, ?_, ?_, ?_⟩
  · intro hfits
    exact read_complexText (.parts hfits)
  · intro n re im t h
    exact exists_printedItem_of_complexText h
  · intro typeName items items' hne hperm
    exact compare_setText_of_perm typeName hne hperm
  · intro typeName entries
    exact compare_dictText_of_perm typeName entries

/-- A negative zero before an infinite part, and a set whose items change
places. -/
theorem read_complex_in_containers_signed :
    read "-infj" = .complex .zero (.infinite true) ∧
      read "nanj" = .verbatim "nanj" ∧
      read "(-0+infj)" = .complex (.finite true 0 0) (.infinite false) ∧
      (Outcome.value "set" "\x7b(nan-infj), -infj\x7d").compare
        (Outcome.value "set" "\x7b-infj, (nan-infj)\x7d") = .same := by
  have hfits : (NumberToken.numeral (.ofNat 0)).Fits true := Or.inr (by decide)
  have hsum : ComplexText 2 .nan (.infinite true) "(nan-infj)".toList :=
    @ComplexText.parts false true .nan .inf trivial
  have himaginary : ComplexText 1 .zero (.infinite true) "-infj".toList :=
    @ComplexText.imaginary true .inf (Or.inl rfl)
  obtain ⟨hsigned, -, hparts, hitem, hset, -⟩ :=
    read_complex_in_containers true false (.numeral (.ofNat 0)) .inf
  obtain ⟨-, hword, -⟩ := read_complex_in_containers false false .nan .nan
  obtain ⟨a, ha, -⟩ := hitem _ _ _ _ hsum
  obtain ⟨b, hb, -⟩ := hitem _ _ _ _ himaginary
  have hsame := hset "set" [a, b] [b, a] (List.cons_ne_nil _ _) (.swap b a [])
  simp only [setText, List.map, ha, hb] at hsame
  have hread := hsigned.mpr (Or.inl rfl)
  have hplain := hword (not_or.mpr ⟨Bool.false_ne_true, id⟩)
  have hzero := hparts hfits
  exact ⟨hread, hplain, hzero, hsame⟩

/-- An infinite imaginary part without a sign: the set is not read as one, so
its items have to stand in one order. Under a NaN key that occurs twice the
values do. -/
theorem unsigned_infinity_and_repeated_nan :
    read "infj" = .verbatim "infj" ∧
      (Outcome.value "set" "\x7binfj, 1\x7d").compare
        (Outcome.value "set" "\x7b1, infj\x7d") = .different ∧
      (Outcome.value "dict" "\x7b(nan+0j): 1, (nan+0j): 2\x7d").compare
        (Outcome.value "dict" "\x7b(nan+0j): 2, (nan+0j): 1\x7d") =
          .different :=
  ⟨rfl, by decide +kernel⟩

end Value
end Concord
