import Concord.Proofs.Value.Branches
import Concord.Proofs.Value.Children

/-!
# Progress of the reader

Whatever the reader takes, it takes at least one character, and a value that it
gives is no higher than the levels that it may go down.
-/

namespace Concord
namespace Value

variable {α β : Type} {fuel levels : Nat} {item : Scan Value}

theorem length_skipBlanks_le (cs : List Char) :
    (Text.skipBlanks cs).length ≤ cs.length :=
  (List.dropWhile_suffix Text.isBlank).length_le

/-- What was read satisfies `P` and leaves fewer than `n` characters. -/
def Leaves (n : Nat) (P : α → Prop) (read? : Option (α × List Char)) : Prop :=
  ∀ ⦃a : α⦄ ⦃rest : List Char⦄, read? = some (a, rest) → P a ∧ rest.length < n

/-- The reader takes at least one character, and what it gives satisfies `P`. -/
def Takes (P : α → Prop) (f : Scan α) : Prop :=
  ∀ cs, Leaves cs.length P (f cs)

namespace Leaves

variable {m n : Nat} {P : α → Prop} {Q : β → Prop}

theorem of_none : Leaves n P none := by
  intro a rest h
  cases h

theorem of_some {a : α} {rest : List Char} (ha : P a)
    (hrest : rest.length < n) : Leaves n P (some (a, rest)) := by
  intro b rest' h
  obtain ⟨rfl, rfl⟩ := Prod.mk.inj (Option.some.inj h)
  exact ⟨ha, hrest⟩

theorem bind {read? : Option (α × List Char)}
    {g : α × List Char → Option (β × List Char)} (h : Leaves m P read?)
    (hg : ∀ p, P p.1 → p.2.length < m → Leaves n Q (g p)) :
    Leaves n Q (read?.bind g) := by
  intro b rest hb
  obtain ⟨p, hp, hb⟩ := Option.bind_eq_some_iff.mp hb
  obtain ⟨hP, hlt⟩ := h hp
  exact hg p hP hlt hb

theorem map {read? : Option (α × List Char)} {g : α → β} (h : Leaves n P read?)
    (hg : ∀ a, P a → Q (g a)) : Leaves n Q (read?.map (Prod.map g id)) := by
  intro b rest hb
  obtain ⟨⟨a, rest'⟩, ha, hb⟩ := Option.map_eq_some_iff.mp hb
  obtain ⟨rfl, rfl⟩ := Prod.mk.inj hb
  obtain ⟨hP, hlt⟩ := h ha
  exact ⟨hg a hP, hlt⟩

theorem ite {p : Prop} [Decidable p] {yes no : Option (α × List Char)}
    (hyes : p → Leaves n P yes) (hno : ¬ p → Leaves n P no) :
    Leaves n P (if p then yes else no) := by
  by_cases hp : p
  · rw [if_pos hp]
    exact hyes hp
  · rw [if_neg hp]
    exact hno hp

theorem ifNext {c : Char} {cs : List Char}
    {yes : List Char → Option (α × List Char)} {no : Option (α × List Char)}
    (hyes : ∀ rest, cs = c :: rest → Leaves n P (yes rest))
    (hno : Leaves n P no) : Leaves n P (ifNext c cs yes no) := by
  by_cases hnext : cs.head? = some c
  · obtain ⟨rest, rfl⟩ := exists_of_head? hnext
    rw [ifNext_self]
    exact hyes rest rfl
  · rw [ifNext_of_ne hnext]
    exact hno

theorem ifNext_blanks {c : Char} {cs : List Char}
    {yes : List Char → Option (α × List Char)} {no : Option (α × List Char)}
    (hyes : ∀ rest, rest.length < cs.length → Leaves n P (yes rest))
    (hno : Leaves n P no) :
    Leaves n P (Value.ifNext c (Text.skipBlanks cs) yes no) := by
  apply ifNext
  · intro rest hrest
    apply hyes
    have hle := length_skipBlanks_le cs
    rw [hrest, List.length_cons] at hle
    omega
  · exact hno

theorem mono {read? : Option (α × List Char)} (h : Leaves m P read?)
    (hmn : m ≤ n) : Leaves n P read? := by
  intro a rest ha
  exact ⟨(h ha).1, Nat.lt_of_lt_of_le (h ha).2 hmn⟩

theorem prepend {a? : Option α} {read? : Option (List α × List Char)}
    (h : Leaves m (fun _ => True) read?) (hmn : m ≤ n) :
    Leaves n (fun _ => True) (Value.prepend a? read?) := by
  intro as rest has
  obtain ⟨a, _, has⟩ := Option.bind_eq_some_iff.mp has
  obtain ⟨⟨as', rest'⟩, hread, has⟩ := Option.bind_eq_some_iff.mp has
  obtain ⟨-, rfl⟩ := Prod.mk.inj (Option.some.inj has)
  exact ⟨trivial, Nat.lt_of_lt_of_le (h hread).2 hmn⟩

end Leaves

/-! ## Leaves -/

theorem Leaves.of_map {n : Nat} {a? : Option α} {rest : List Char}
    (hrest : rest.length < n) :
    Leaves n (fun _ => True) (a?.map fun a => (a, rest)) := by
  cases a? with
  | none => exact Leaves.of_none
  | some a => exact Leaves.of_some trivial hrest

theorem takes_readEscaped (A : Alphabet α) :
    Takes (fun _ => True) A.readEscaped := by
  intro cs
  cases cs with
  | nil => exact Leaves.of_none
  | cons e cs =>
      rw [Alphabet.readEscaped, List.length_cons]
      cases A.marks.lookup e with
      | some digits =>
          have hdigits :
              Leaves (cs.length + 1) (fun _ => True) (readHex digits 0 cs) := by
            apply Leaves.ite
            · intro _
              apply Leaves.of_map
              rw [List.length_drop]
              omega
            · intro _
              exact Leaves.of_none
          apply Leaves.bind hdigits
          intro p _ hlt
          exact Leaves.of_map hlt
      | none => exact Leaves.of_map (Nat.lt_succ_self _)

theorem leaves_readLetter (A : Alphabet α) (c : Char) (cs : List Char) :
    Leaves (cs.length + 1) (fun _ => True) (A.readLetter c cs) := by
  apply Leaves.ite
  · intro _
    exact (takes_readEscaped A cs).mono (Nat.le_succ _)
  · intro _
    exact Leaves.of_map (Nat.lt_succ_self _)

theorem ReadsQuoted.takes {A : Alphabet α} {quote : Char} {f : Scan (List α)}
    (h : ReadsQuoted A quote f) : Takes (fun _ => True) f := by
  intro cs
  induction hn : cs.length using Nat.strongRecOn generalizing cs with
  | ind n ih =>
      cases cs with
      | nil =>
          rw [h.nil]
          exact Leaves.of_none
      | cons c cs =>
          rw [List.length_cons] at hn
          by_cases hclose : c = quote
          · rw [hclose, h.close]
            exact Leaves.of_some trivial (by omega)
          · rw [h.cons hclose]
            apply Leaves.bind (leaves_readLetter A c cs)
            intro p _ hlt
            exact ((ih p.2.length (by omega) p.2 rfl).map fun _ _ =>
              trivial).mono (by omega)

theorem takes_readAngle (opened : Nat) :
    Takes (fun _ => True) (readAngle opened) := by
  intro cs
  fun_induction readAngle opened cs with
  | case1 => exact Leaves.of_none
  | case2 _ _ ih | case4 _ _ _ _ ih | case5 _ _ _ _ _ ih =>
      exact ih.prepend (Nat.le_succ _)
  | case3 => exact Leaves.of_some trivial (Nat.lt_succ_self _)

theorem height_of_ofNumeral? {imaginary : Bool} {sign body : List Char}
    {v : Value} (h : ofNumeral? imaginary sign body = some v) :
    v.height = 1 := by
  unfold ofNumeral? at h
  split_ifs at h
  · obtain ⟨x, -, rfl⟩ := Option.map_eq_some_iff.mp h
    rw [height] <;> simp
  · obtain ⟨x, -, rfl⟩ := Option.map_eq_some_iff.mp h
    rw [height] <;> simp
  · obtain rfl := Option.some.inj h
    unfold wholeNumber
    dsimp only
    split <;> simp only [height]

theorem takes_readNumber : Takes (fun v => v.height = 1) readNumber := by
  intro cs v rest h
  rcases hsign : signOf cs with ⟨sign, unsigned⟩
  rcases hbody : numberBody unsigned with ⟨body, after⟩
  have hcs : (sign ++ (body ++ after)).length = cs.length := by
    rw [← signOf_append cs, hsign, ← numberBody_append unsigned, hbody]
  rw [List.length_append, List.length_append] at hcs
  rw [readNumber_eq hsign hbody] at h
  by_cases hempty : body = []
  · rw [if_pos hempty] at h
    cases h
  · rw [if_neg hempty] at h
    obtain ⟨u, hu, hrest⟩ := Option.map_eq_some_iff.mp h
    obtain ⟨rfl, rfl⟩ := Prod.mk.inj hrest
    have hpos := List.length_pos_iff.mpr hempty
    have hle : (if startsImaginary after then after.tail else after).length ≤
        after.length := by
      split_ifs <;> simp
    exact ⟨height_of_ofNumeral? hu, by omega⟩

theorem height_of_named? {name : List Char} {v : Value}
    (h : named? name = some v) : v.height = 1 := by
  unfold named? at h
  split_ifs at h
  all_goals
    obtain rfl := Option.some.inj h
    simp only [height]

/-! ## Containers -/

section

variable (hnil : item [] = none)
  (hitem : Takes (fun v => v.height ≤ levels) item)
include hitem

include hnil in
theorem takes_readItems (close : Char) :
    Takes (fun vs => heightOfItems vs ≤ levels)
      (readItems item close fuel) := by
  intro cs
  induction fuel generalizing cs with
  | zero => exact Leaves.of_none
  | succ fuel ih =>
      rw [readItems_succ hnil]
      apply Leaves.ifNext_blanks
      · intro rest hlt
        exact Leaves.of_some (Nat.zero_le _) hlt
      · apply Leaves.bind ((hitem _).mono (length_skipBlanks_le cs))
        intro first hfirst hlt
        apply Leaves.ifNext_blanks
        · intro rest hlt'
          refine Leaves.of_some ?_ (by omega)
          rw [heightOfItems, heightOfItems]
          omega
        · apply Leaves.ifNext_blanks
          · intro rest hlt'
            refine ((ih rest).map fun vs hvs => ?_).mono (by omega)
            rw [heightOfItems]
            omega
          · exact Leaves.of_none

theorem takes_readMoreEntries :
    Takes (fun es => heightOfEntries es ≤ levels)
      (readMoreEntries item fuel) := by
  intro cs
  induction fuel generalizing cs with
  | zero => exact Leaves.of_none
  | succ fuel ih =>
      rw [readMoreEntries_succ]
      apply Leaves.ifNext_blanks
      · intro rest hlt
        exact Leaves.of_some (Nat.zero_le _) hlt
      · apply Leaves.ifNext_blanks
        · intro afterComma hcomma
          apply Leaves.ifNext_blanks
          · intro rest hlt
            exact Leaves.of_some (Nat.zero_le _) (by omega)
          · apply Leaves.bind ((hitem _).mono (length_skipBlanks_le afterComma))
            intro key hkey hlt
            apply Leaves.ifNext_blanks
            · intro afterColon hcolon
              apply Leaves.bind (hitem afterColon)
              intro value hvalue hlt'
              refine ((ih value.2).map fun es hes => ?_).mono (by omega)
              rw [heightOfEntries]
              omega
            · exact Leaves.of_none
        · exact Leaves.of_none

include hnil in
theorem takes_readAfterFirst {first : Value} (hfirst : first.height ≤ levels) :
    Takes (fun v => v.height ≤ levels + 1)
      (readAfterFirst fuel item first) := by
  intro cs
  rw [readAfterFirst_eq]
  apply Leaves.ifNext
  · rintro rest rfl
    exact Leaves.of_some (Nat.le_succ_of_le hfirst) (Nat.lt_succ_self _)
  · apply Leaves.ifNext
    · rintro rest rfl
      refine ((takes_readItems hnil hitem ')' rest).map fun vs hvs => ?_).mono
        (Nat.le_succ _)
      rw [height, heightOfItems]
      omega
    · exact Leaves.of_none

end

theorem takes_readImaginary (re : Binary64) :
    Takes (fun v => v.height ≤ levels + 1) (readImaginary re) := by
  intro cs
  rw [readImaginary_eq]
  apply Leaves.bind (takes_readNumber cs)
  intro number _ hlt
  cases imaginaryPart? number.1 with
  | none => exact Leaves.of_none
  | some im =>
      apply Leaves.ifNext_blanks
      · intro rest hlt'
        refine Leaves.of_some ?_ (by omega)
        simp [height]
      · exact Leaves.of_none

theorem height_construct_le (callee : List Char) (args : List Value) :
    (construct callee args).height ≤ heightOfItems args + 1 := by
  unfold construct
  split
  · split_ifs <;> simp [height, heightOfItems]
  · split_ifs <;> simp [height, heightOfItems]
  · split_ifs <;> simp [height, heightOfItems]
  · simp [height]

section

variable (hnil : item [] = none)
  (hitem : Takes (fun v => v.height ≤ levels) item)
include hnil hitem

theorem takes_readParen :
    Takes (fun v => v.height ≤ levels + 1) (readParen fuel item) := by
  intro cs
  rw [readParen_eq]
  apply Leaves.ifNext_blanks
  · intro rest hlt
    refine Leaves.of_some ?_ hlt
    rw [height, heightOfItems]
    omega
  · apply Leaves.bind ((hitem _).mono (length_skipBlanks_le cs))
    intro first hfirst hlt
    have hskip := length_skipBlanks_le first.2
    have hmore : Leaves cs.length (fun v => v.height ≤ levels + 1)
        (readAfterFirst fuel item first.1 (Text.skipBlanks first.2)) :=
      (takes_readAfterFirst hnil hitem hfirst _).mono (by omega)
    split
    · apply Leaves.ite
      · intro _
        exact (takes_readImaginary _ _).mono (by omega)
      · intro _
        exact hmore
    · exact hmore

theorem takes_readBrace :
    Takes (fun v => v.height ≤ levels + 1) (readBrace fuel item) := by
  intro cs
  rw [readBrace_eq]
  apply Leaves.ifNext_blanks
  · intro rest hlt
    refine Leaves.of_some ?_ hlt
    rw [height, heightOfEntries]
    omega
  · apply Leaves.bind ((hitem _).mono (length_skipBlanks_le cs))
    intro first hfirst hlt
    apply Leaves.ifNext_blanks
    · intro afterColon hcolon
      apply Leaves.bind (hitem afterColon)
      intro value hvalue hlt'
      refine ((takes_readMoreEntries hitem value.2).map fun es hes => ?_).mono
        (by omega)
      rw [height, heightOfEntries]
      omega
    · apply Leaves.ifNext_blanks
      · intro rest hlt'
        refine Leaves.of_some ?_ (by omega)
        rw [height, heightOfItems, heightOfItems]
        omega
      · apply Leaves.ifNext_blanks
        · intro afterComma hcomma
          refine ((takes_readItems hnil hitem '}' afterComma).map fun vs hvs =>
            ?_).mono (by omega)
          rw [height, heightOfItems]
          omega
        · exact Leaves.of_none

theorem takes_readName :
    Takes (fun v => v.height ≤ levels + 1) (readName fuel item) := by
  intro cs
  have hparts :
      ((cs.takeWhile continuesName) ++ cs.dropWhile continuesName).length =
      cs.length :=
    congrArg List.length List.takeWhile_append_dropWhile
  rw [List.length_append] at hparts
  rw [readName_eq]
  apply Leaves.ifNext
  · intro rest hrest
    rw [hrest, List.length_cons] at hparts
    refine ((takes_readItems hnil hitem ')' rest).map fun vs hvs => ?_).mono
      (by omega)
    have := height_construct_le (cs.takeWhile continuesName) vs
    omega
  · intro v rest hv
    obtain ⟨v, hnamed, hrest⟩ := Option.map_eq_some_iff.mp hv
    obtain ⟨rfl, rfl⟩ := Prod.mk.inj hrest
    have hheight := height_of_named? hnamed
    have hname : cs.takeWhile continuesName ≠ [] := by
      intro hempty
      rw [hempty] at hnamed
      cases hnamed
    have hpos := List.length_pos_iff.mpr hname
    exact ⟨by omega, by omega⟩

theorem takes_readNested :
    Takes (fun v => v.height ≤ levels + 1) (readNested fuel item) := by
  intro cs
  have hskip := length_skipBlanks_le cs
  cases hcs : Text.skipBlanks cs with
  | nil =>
      rw [readNested, hcs]
      exact Leaves.of_none
  | cons c rest =>
      rw [hcs, List.length_cons] at hskip
      rw [readNested_of_skipBlanks hcs]
      apply Leaves.ite
      · intro _
        refine ((takes_readItems hnil hitem ']' rest).map fun vs hvs => ?_).mono
          (by omega)
        rw [height]
        omega
      intro _
      apply Leaves.ite
      · intro _
        exact (takes_readParen hnil hitem rest).mono (by omega)
      intro _
      apply Leaves.ite
      · intro _
        exact (takes_readBrace hnil hitem rest).mono (by omega)
      intro _
      apply Leaves.ite
      · intro _
        refine ((takes_readAngle 0 (c :: rest)).map fun t _ => ?_).mono hskip
        simp [height]
      intro _
      apply Leaves.ite
      · intro hquote
        refine (((readsQuoted_readQuoted hquote).takes rest).map fun t _ =>
          ?_).mono (by omega)
        simp [height]
      intro _
      apply Leaves.ite
      · intro hbytes
        cases rest with
        | nil => exact Leaves.of_none
        | cons quote rest =>
            have hquote : isQuote quote = true :=
              (Bool.and_eq_true_iff.mp hbytes).2
            rw [List.length_cons] at hskip
            refine (((readsQuoted_readQuotedBytes hquote).takes rest).map
              fun bs _ => ?_).mono
              (by omega)
            simp [height]
      intro _
      apply Leaves.ite
      · intro _
        refine Leaves.of_some (by simp [height]) ?_
        rw [List.length_drop, List.length_cons]
        omega
      intro _
      apply Leaves.ite
      · intro _ v after hv
        obtain ⟨hheight, hlt⟩ := takes_readNumber _ hv
        rw [List.length_cons] at hlt
        exact ⟨by omega, by omega⟩
      intro _
      apply Leaves.ite
      · intro _
        exact (takes_readName hnil hitem _).mono hskip
      · intro _
        exact Leaves.of_none

end

theorem readValue_nil (fuel levels : Nat) :
    readValue fuel levels [] = none := by
  cases levels with
  | zero => rfl
  | succ levels => rfl

theorem takes_readValue (fuel levels : Nat) :
    Takes (fun v => v.height ≤ levels) (readValue fuel levels) := by
  induction levels with
  | zero =>
      intro cs
      exact Leaves.of_none
  | succ levels ih => exact takes_readNested (readValue_nil fuel levels) ih

end Value
end Concord
