import Concord.Proofs.Value.Address
import Concord.Proofs.Verdict

/-!
# Integers of any size

An integer of 64 bits is read as such, and the digits of a larger one are kept
as text. Neither is confused with the other, and no digit is lost to the search
for addresses, so printed integers agree exactly when they are the same number.
-/

namespace Concord
namespace Value

open Binary64 (signText isSignText_signText)

/-! ## The value of an integer -/

theorem toList_toString_int (n : Int) : (toString n).toList = intText n := by
  rw [Int.toString_eq_repr, Int.repr_eq_if, intText]
  by_cases hn : n < 0
  · have hcast : n.natAbs = (-n).toNat := by omega
    rw [if_neg (by omega), if_pos hn, hcast, String.toList_append,
      Nat.toList_repr]
    rfl
  · have hcast : n.natAbs = n.toNat := by omega
    rw [if_pos (by omega), if_neg hn, hcast, Nat.toList_repr]

theorem signOf_intText (n : Int) :
    signOf (intText n) = (signText (n < 0), Nat.toDigits 10 n.natAbs) := by
  have hsign := (NumberToken.numeral (.ofNat n.natAbs)).signOf_append_text
    (isSignText_signText (n < 0)) []
  rwa [NumberToken.text, Numeral.text_ofNat, List.append_nil,
    ← intText_eq] at hsign

theorem intText_injective : Function.Injective intText := by
  intro a b h
  have hparts := signOf_intText a
  rw [h, signOf_intText b, Prod.mk.injEq] at hparts
  rw [← signedDigits_intText a, ← hparts.1, ← hparts.2, signedDigits_intText]

theorem mem_intText {n : Int} {c : Char} (hc : c ∈ intText n) :
    c = '-' ∨ c.isDigit = true := by
  rw [intText_eq, List.mem_append] at hc
  rcases hc with hsign | hdigit
  · unfold signText at hsign
    split at hsign
    · exact Or.inl (List.mem_singleton.mp hsign)
    · exact absurd hsign List.not_mem_nil
  · exact Or.inr (Numeral.isDigit_of_mem_toDigits_ten hdigit)

/-- Among signs and digits there is no mark of an address. -/
theorem not_hasAddress_intText (n : Int) : ¬Address.HasAddress (intText n) := by
  rintro ⟨x, d, hx, -, hinfix⟩
  have hmem : x ∈ intText n := hinfix.subset (by simp)
  rcases hx with rfl | rfl
  · exact absurd (mem_intText hmem) (by decide)
  · exact absurd (mem_intText hmem) (by decide)

theorem isAtom_ofInteger (n : Int) : IsAtom (ofInteger n) := by
  unfold ofInteger
  split <;> trivial

theorem meaning_ofInteger (n : Int) : meaning (ofInteger n) = ofInteger n := by
  unfold ofInteger
  split
  · rfl
  · have hnormal := Address.mask_eq_self (not_hasAddress_intText n)
    rw [meaning, Address.normalise, String.toList_ofList, hnormal]

theorem ofInteger_injective : Function.Injective ofInteger := by
  intro a b h
  unfold ofInteger at h
  by_cases ha : -2 ^ 63 ≤ a ∧ a < 2 ^ 63
  · rw [if_pos ha] at h
    by_cases hb : -2 ^ 63 ≤ b ∧ b < 2 ^ 63
    · rw [if_pos hb, Value.int.injEq] at h
      rw [← Int64.toInt_ofInt_of_le ha.1 ha.2, h,
        Int64.toInt_ofInt_of_le hb.1 hb.2]
    · rw [if_neg hb] at h
      exact nomatch h
  · rw [if_neg ha] at h
    by_cases hb : -2 ^ 63 ≤ b ∧ b < 2 ^ 63
    · rw [if_pos hb] at h
      exact nomatch h
    · rw [if_neg hb, Value.verbatim.injEq, String.ofList_inj] at h
      exact intText_injective h

theorem agree_ofInteger_iff {a b : Int} :
    Agree (ofInteger a) (ofInteger b) ↔ a = b := by
  rw [agree_iff_meaning (isAtom_ofInteger a), meaning_ofInteger,
    meaning_ofInteger, ofInteger_injective.eq_iff]

theorem forall₂_agree_ofInteger_iff {as bs : List Int} :
    List.Forall₂ Agree (as.map ofInteger) (bs.map ofInteger) ↔ as = bs := by
  rw [List.forall₂_map_left_iff, List.forall₂_map_right_iff]
  simp only [agree_ofInteger_iff, List.forall₂_eq_eq_eq]

/-! ## Reading integers -/

variable {fuel levels : Nat}

theorem startsValue_intText (n : Int) : StartsValue (intText n) := by
  rw [intText_eq, ← Numeral.text_ofNat]
  exact startsValue_sign_text (isSignText_signText _) (.numeral _)

theorem endsSolid_intText (n : Int) : EndsSolid (intText n) := by
  rw [intText_eq, ← Numeral.text_ofNat]
  exact (endsSolid_text _).append _

theorem readValue_intText (n : Int) {rest : List Char}
    (hrest : Delimited rest) :
    readValue fuel (levels + 1) (intText n ++ rest) =
      some (ofInteger n, rest) := by
  have hread := readNumber_integer n hrest.endsNumber
  rw [intText_eq, ← Numeral.text_ofNat, List.append_assoc] at hread ⊢
  exact (readNested_token (T := .numeral _) (isSignText_signText _)
    (Or.inr trivial)
    rest).trans hread

/-- Integers after an opening bracket, each comma followed by the white space
`w`. -/
def integersTail (w : List Char) (ns : List Int) : List Char :=
  List.intercalate (',' :: w) (ns.map intText) ++ [']']

theorem integersTail_singleton (w : List Char) (n : Int) :
    integersTail w [n] = intText n ++ [']'] := by
  simp [integersTail]

theorem integersTail_cons_cons (w : List Char) (n k : Int) (ns : List Int) :
    integersTail w (n :: k :: ns) =
      intText n ++ ',' :: (w ++ integersTail w (k :: ns)) := by
  simp [integersTail, List.intercalate]

theorem length_le_integersTail (w : List Char) (ns : List Int) :
    ns.length ≤ (integersTail w ns).length := by
  induction ns with
  | nil => exact Nat.zero_le _
  | cons n ns ih =>
      cases ns with
      | nil =>
          rw [integersTail_singleton]
          simp
      | cons k ns =>
          rw [integersTail_cons_cons]
          simp only [List.length_cons, List.length_append] at ih ⊢
          omega

theorem readItems_integersTail {w : List Char} (hw : Blank w) (ns : List Int)
    {before : List Char} (hbefore : Blank before) {turns : Nat}
    (hturns : ns.length < turns) :
    readItems (readValue fuel (levels + 1)) ']' turns
      (before ++ integersTail w ns) =
      some (ns.map ofInteger, []) := by
  have hclose : ']' ∈ [']', ')', '}'] := by decide
  induction ns generalizing before turns with
  | nil =>
      obtain ⟨turns, rfl⟩ :=
        Nat.exists_eq_add_one_of_ne_zero (Nat.ne_zero_of_lt hturns)
      exact readItems_closing hclose hbefore turns []
  | cons n ns ih =>
      obtain ⟨turns, rfl⟩ :=
        Nat.exists_eq_add_one_of_ne_zero (Nat.ne_zero_of_lt hturns)
      have hstarts (rest : List Char) := (startsValue_intText n).append rest
      cases ns with
      | nil =>
          have hrest : Delimited [']'] :=
            delimited_append_cons blank_nil (by decide) []
          have hread : readValue fuel (levels + 1) (intText n ++ [']']) = _ :=
            readValue_intText n hrest
          rw [integersTail_singleton]
          exact readItems_last hclose hbefore (hstarts _) blank_nil hread turns
      | cons k ns =>
          have hrest : Delimited (',' :: (w ++ integersTail w (k :: ns))) :=
            delimited_append_cons blank_nil (by decide) _
          have hread : readValue fuel (levels + 1) (intText n ++ _) = _ :=
            readValue_intText n hrest
          have hmore :=
            readItems_more hclose hbefore (hstarts _) blank_nil hread turns
          rw [integersTail_cons_cons, hmore,
            ih hw (Nat.lt_of_succ_lt_succ hturns)]
          rfl

/-- The integers in brackets, each comma followed by the white space `w`. -/
def integersText (w : String) (ns : List Int) : String :=
  "[" ++ ("," ++ w).intercalate (ns.map toString) ++ "]"

theorem toList_integersText (w : String) (ns : List Int) :
    (integersText w ns).toList = '[' :: integersTail w.toList ns := by
  have htexts : (ns.map toString).map String.toList = ns.map intText := by
    rw [List.map_map]
    exact List.map_congr_left fun n _ => toList_toString_int n
  simp [integersText, integersTail, String.toList_intercalate, htexts]

/-- A text without white space at its ends that is read to its end. -/
theorem read_of_readValue {text : String} {v : Value}
    (hstarts : StartsValue text.toList) (hends : EndsSolid text.toList)
    (h : readValue (text.toList.length + 1) nestingLimit text.toList =
      some (v, [])) :
    read text = v := by
  have htrim : Text.trimBlanks text.toList = text.toList := by
    obtain ⟨c, cs, hcs, hc, -⟩ := hstarts
    obtain ⟨ds, d, hds, hd⟩ := hends
    rw [hcs] at hds ⊢
    exact Text.trimBlanks_eq_self hc hd hds
  rw [read, htrim, readTrimmed, h]
  rfl

theorem read_toString_int (n : Int) : read (toString n) = ofInteger n := by
  have hrest : Delimited [] := nofun
  apply read_of_readValue
  · rw [toList_toString_int]
    exact startsValue_intText n
  · rw [toList_toString_int]
    exact endsSolid_intText n
  · rw [toList_toString_int]
    generalize (intText n).length + 1 = fuel
    have hread : readValue fuel nestingLimit (intText n ++ []) = _ :=
      readValue_intText n hrest
    rwa [List.append_nil] at hread

theorem read_integersText {w : String} (hw : Blank w.toList) (ns : List Int) :
    read (integersText w ns) = .list (ns.map ofInteger) := by
  apply read_of_readValue
  · rw [toList_integersText]
    exact startsValue_cons rfl (by decide) _
  · rw [toList_integersText]
    exact (endsSolid_append_singleton rfl _).cons '['
  · rw [toList_integersText]
    generalize hfuel : ('[' :: integersTail w.toList ns).length + 1 = fuel
    have hturns : ns.length < fuel := by
      have hlength := length_le_integersTail w.toList ns
      rw [List.length_cons] at hfuel
      omega
    have hitems : readItems (readValue fuel (510 + 1)) ']' fuel
        (integersTail w.toList ns) = _ :=
      readItems_integersTail hw ns blank_nil hturns
    have hlist : readValue fuel nestingLimit ('[' :: integersTail w.toList ns) =
        (readItems (readValue fuel (510 + 1)) ']' fuel
          (integersTail w.toList ns)).map
          fun read => (.list read.1, read.2) := readNested_bracket _
    rw [hlist, hitems]
    rfl

/-! ## Comparing integers -/

theorem compare_value_eq_ite {t p p' : String} {P : Prop} [Decidable P]
    (h : Agree (read p) (read p') ↔ P) :
    (Outcome.value t p).compare (Outcome.value t p') =
      if P then .same else .different := by
  by_cases hP : P
  · rw [if_pos hP, Outcome.compare_value_eq_same_iff]
    exact ⟨rfl, h.mpr hP⟩
  · rw [if_neg hP]
    have hnot : ¬(read p).equivalent (read p') = true := mt h.mp hP
    simp [Outcome.compare, hnot]

/-- Printed integers of any size have the verdict `same` exactly when they are
the same number, and likewise lists of integers, with any white space after
their commas. -/
theorem compare_integers_exact :
    (∀ a b : Int,
      (Outcome.value "int" (toString a)).compare (.value "int" (toString b)) =
      if a = b then .same else .different) ∧
    (∀ (as bs : List Int) (w w' : String), Blank w.toList → Blank w'.toList →
      (Outcome.value "list" (integersText w as)).compare
        (.value "list" (integersText w' bs)) =
        if as = bs then .same else .different) := by
  refine ⟨fun a b => ?_, fun as bs w w' hw hw' => ?_⟩
  · apply compare_value_eq_ite
    rw [read_toString_int, read_toString_int, agree_ofInteger_iff]
  · apply compare_value_eq_ite
    rw [read_integersText hw, read_integersText hw', agree_list_iff]
    simp only [Value.list.injEq, exists_eq_left', equivalentInOrder_iff,
      forall₂_agree_ofInteger_iff]

/-- The greatest integer of 64 bits and the next one, and the same list in two
layouts. -/
theorem compare_integers_exact_at_limit :
    (Outcome.value "int" "9223372036854775807").compare
        (.value "int" "9223372036854775808") = .different ∧
      (Outcome.value "list"
        "[-9223372036854775809, 9223372036854775807]").compare
        (.value "list" "[-9223372036854775809,9223372036854775807]") =
          .same := by
  obtain ⟨hsingle, hlist⟩ := compare_integers_exact
  have htexts : toString (9223372036854775807 : Int) = "9223372036854775807" ∧
      toString (9223372036854775808 : Int) = "9223372036854775808" ∧
      integersText " " [-9223372036854775809, 9223372036854775807] =
        "[-9223372036854775809, 9223372036854775807]" ∧
      integersText "" [-9223372036854775809, 9223372036854775807] =
        "[-9223372036854775809,9223372036854775807]" := by decide +kernel
  obtain ⟨hgreatest, hnext, hspaced, hdense⟩ := htexts
  constructor
  · rw [← hgreatest, ← hnext, hsingle]
    decide
  · rw [← hspaced, ← hdense, hlist _ _ " " "" blank_space blank_nil]
    exact if_pos rfl

end Value
end Concord
