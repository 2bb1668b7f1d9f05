import Concord.Proofs.Value.Written

/-!
# Reading written forms

The reader takes exactly a written form of a value, whatever follows it after
a delimiter, and fails on it exactly when values are nested more deeply in it
than the reader may go.
-/

namespace Concord
namespace Value

open Binary64 (signText isSignText_signText signText_eq_minus)

variable {fuel levels : Nat} {item : Scan Value}

/-! ## Dispatch on the first character -/

theorem readNested_bracket (cs : List Char) :
    readNested fuel item ('[' :: cs) =
      (readItems item ']' fuel cs).map fun (vs, rest) => (.list vs, rest) := rfl

theorem readNested_paren (cs : List Char) :
    readNested fuel item ('(' :: cs) = readParen fuel item cs := rfl

theorem readNested_brace (cs : List Char) :
    readNested fuel item ('{' :: cs) = readBrace fuel item cs := rfl

theorem readNested_quote {quote : Char} (hquote : isQuote quote = true)
    (cs : List Char) :
    readNested fuel item (quote :: cs) =
      (readQuoted quote cs).map fun (t, rest) =>
        (.str (String.ofList t), rest) := by
  rcases isQuote_iff.mp hquote with rfl | rfl
  · rfl
  · rfl

theorem readNested_byteQuote {quote : Char} (hquote : isQuote quote = true)
    (cs : List Char) :
    readNested fuel item ('b' :: quote :: cs) =
      (readQuotedBytes quote cs).map fun (bs, rest) => (.bytes bs, rest) := by
  rcases isQuote_iff.mp hquote with rfl | rfl
  · rfl
  · rfl

theorem not_isBlank_of_isSign {c : Char} (h : isSign c = true) :
    Text.isBlank c = false := by
  rw [isSign, Bool.or_eq_true, beq_iff_eq, beq_iff_eq] at h
  rcases h with rfl | rfl <;> rfl

theorem readNested_number {c : Char} (hc : c.isDigit = true ∨ isSign c = true)
    (cs : List Char) :
    readNested fuel item (c :: cs) = readNumber (c :: cs) := by
  have hne {d : Char} (hdigit : d.isDigit = false) (hsign : isSign d = false) :
      c ≠ d := by
    rintro rfl
    rcases hc with h | h
    · exact Bool.false_ne_true (hdigit.symm.trans h)
    · exact Bool.false_ne_true (hsign.symm.trans h)
  have hblank : Text.isBlank c = false :=
    hc.elim not_isBlank_of_isDigit not_isBlank_of_isSign
  have hnumber : (c.isDigit || isSign c || c == '.') = true := by
    rcases hc with h | h <;> simp [h]
  have hquote : isQuote c = false := by
    have hsingle : c ≠ '\'' := hne rfl rfl
    have hdouble : c ≠ '"' := hne rfl rfl
    simp [isQuote, hsingle, hdouble]
  rw [readNested, Text.skipBlanks_cons hblank]
  split
  · simp_all
  · rename_i h
    exact absurd (List.cons.inj h).1 (hne rfl rfl)
  · rename_i h
    obtain ⟨rfl, rfl⟩ := List.cons.inj h
    rw [if_neg (hne rfl rfl), if_neg (hne rfl rfl), if_neg (hne rfl rfl),
      if_neg (hne rfl rfl), hquote, if_neg Bool.false_ne_true, if_pos hnumber]

theorem not_number_of_startsName {c : Char} (h : startsName c = true) :
    c.isDigit = false ∧ c ≠ '.' := by
  have hnot {d : Char} (hd : d ∈ '.' :: Text.members [(0x30, 0x39)]) :
      startsName d = false :=
    Text.eq_false_of_mem (by decide +kernel) hd
  constructor
  · by_contra hdigit
    have hmem := Text.mem_members_of_isDigit (Bool.not_eq_false _ ▸ hdigit)
    exact Bool.false_ne_true ((hnot (List.mem_cons_of_mem _ hmem)).symm.trans h)
  · rintro rfl
    exact Bool.false_ne_true ((hnot List.mem_cons_self).symm.trans h)

/-- A name is read as such unless it is the `b` before quoted bytes. -/
theorem readNested_name {c : Char} (hc : startsName c = true) {cs : List Char}
    (hbytes : ∀ q, cs.head? = some q → isQuote q = false) :
    readNested fuel item (c :: cs) = readName fuel item (c :: cs) := by
  have hne {d : Char} (hd : d ∈ punctuation) : c ≠ d := by
    rintro rfl
    exact not_blank_or_punctuation_of_startsName hc (Or.inr hd)
  obtain ⟨hdigit, hdot⟩ := not_number_of_startsName hc
  have hnumber : (c.isDigit || isSign c || c == '.') = false := by
    have hminus : c ≠ '-' := hne (by decide)
    have hplus : c ≠ '+' := hne (by decide)
    simp [hdigit, isSign, hminus, hplus, hdot]
  have hquote : isQuote c = false := by
    have hsingle : c ≠ '\'' := hne (by decide)
    have hdouble : c ≠ '"' := hne (by decide)
    simp [isQuote, hsingle, hdouble]
  rw [readNested, (startsValue_of_startsName hc cs).skipBlanks]
  split
  · simp_all
  · rename_i h
    exact absurd (List.cons.inj h).1 hdot
  · rename_i h
    obtain ⟨rfl, rfl⟩ := List.cons.inj h
    rw [if_neg (hne (by decide)), if_neg (hne (by decide)),
      if_neg (hne (by decide)), if_neg (hne (by decide)), hquote,
      if_neg Bool.false_ne_true, hnumber, if_neg Bool.false_ne_true]
    split
    · rw [hbytes _ rfl, if_neg Bool.false_ne_true]
    · rw [if_pos hc]

/-! ## Names -/

/-- The text goes on with neither a name nor a call. -/
def EndsName (rest : List Char) : Prop :=
  ∀ c, rest.head? = some c → continuesName c = false ∧ c ≠ '('

theorem Delimited.endsName {rest : List Char} (h : Delimited rest) :
    EndsName rest := by
  intro c hc
  exact ⟨(h c hc).not_continuesName, (h c hc).ne rfl (by decide)⟩

theorem takeWhile_name {name rest : List Char}
    (hname : ∀ c ∈ name, continuesName c = true)
    (hrest : ∀ c, rest.head? = some c → continuesName c = false) :
    (name ++ rest).takeWhile continuesName = name ∧
      (name ++ rest).dropWhile continuesName = rest := by
  rw [List.takeWhile_append_of_pos hname, List.dropWhile_append_of_pos hname]
  cases rest with
  | nil => simp
  | cons c rest => simp [hrest c rfl]

theorem readName_named {name rest : List Char}
    (hname : ∀ c ∈ name, continuesName c = true) (hrest : EndsName rest) :
    readName fuel item (name ++ rest) =
      (named? name).map fun v => (v, rest) := by
  obtain ⟨htake, hdrop⟩ := takeWhile_name hname fun c hc => (hrest c hc).1
  rw [readName, htake, hdrop]
  split
  · rename_i h
    exact absurd rfl (hrest '(' rfl).2
  · rfl

theorem readName_call {name : List Char}
    (hname : ∀ c ∈ name, continuesName c = true) (cs : List Char) :
    readName fuel item (name ++ '(' :: cs) =
      (readItems item ')' fuel cs).map fun (args, rest) =>
        (construct name args, rest) := by
  obtain ⟨htake, hdrop⟩ := takeWhile_name hname
    (show ∀ c, ('(' :: cs).head? = some c → continuesName c = false by
      rintro c ⟨⟩
      exact not_continuesName (Or.inr (by decide)))
  rw [readName, htake, hdrop]
  split
  · rename_i h
    obtain ⟨-, rfl⟩ := List.cons.inj h
    cases readItems item ')' fuel cs <;> rfl
  · rename_i h
    exact absurd rfl (h cs)

/-- A word that denotes a value is read as that value. -/
theorem readNested_word {c : Char} {cs rest : List Char} {v : Value}
    (hstarts : startsName c = true)
    (hquote : ∀ q, (cs ++ rest).head? = some q → isQuote q = false)
    (hname : (c :: cs).all continuesName = true)
    (hv : named? (c :: cs) = some v) (hrest : EndsName rest) :
    readNested fuel item (c :: cs ++ rest) = some (v, rest) := by
  rw [List.cons_append, readNested_name hstarts hquote, ← List.cons_append,
    readName_named (List.all_eq_true.mp hname) hrest, hv, Option.map_some]

/-! ## Parentheses -/

theorem readParen_append {w : List Char} (hw : Blank w) (cs : List Char) :
    readParen fuel item (w ++ cs) = readParen fuel item cs := by
  rw [readParen, readParen, Text.skipBlanks_append hw]

/-- What stands in parentheses starts with a value. -/
theorem readParen_of_startsValue {cs : List Char} (hstarts : StartsValue cs) :
    readParen fuel item cs = (item cs).bind fun (first, rest) =>
      match realPart? (cs.head? == some '-') first with
      | some re =>
        if startsWithSign (Text.skipBlanks rest) then
          readImaginary re (Text.skipBlanks rest)
        else readAfterFirst fuel item first (Text.skipBlanks rest)
      | none => readAfterFirst fuel item first (Text.skipBlanks rest) := by
  rw [readParen, hstarts.skipBlanks]
  obtain ⟨c, cs, rfl, -, hclose⟩ := hstarts
  split
  · rename_i heq
    obtain ⟨rfl, -⟩ := List.cons.inj heq
    exact absurd (by decide) hclose
  · rfl

/-- The first value in parentheses is followed by anything but a sign. -/
theorem readParen_of_some {cs rest : List Char} {v : Value}
    (hstarts : StartsValue cs) (h : item cs = some (v, rest))
    (hsign : startsWithSign (Text.skipBlanks rest) = false) :
    readParen fuel item cs =
      readAfterFirst fuel item v (Text.skipBlanks rest) := by
  rw [readParen_of_startsValue hstarts, h, Option.bind_some]
  simp only [hsign, Bool.false_eq_true, if_false]
  split <;> rfl

/-! ## Complex numbers -/

/-- A token is read as a number if it has a sign or is no word. -/
theorem readNested_token {sign : List Char} (hsign : IsSignText sign)
    {T : NumberToken} (h : sign ≠ [] ∨ T.IsNumeral) (rest : List Char) :
    readNested fuel item (sign ++ (T.text ++ rest)) =
      readNumber (sign ++ (T.text ++ rest)) := by
  rcases hsign with rfl | rfl | rfl
  · cases T with
    | numeral n =>
        obtain ⟨c, cs, htext, hc⟩ := n.exists_text_cons
        rw [List.nil_append, NumberToken.text, htext]
        exact readNested_number (Or.inl hc) _
    | inf | nan => exact (h.resolve_left (not_not_intro rfl)).elim
  · exact readNested_number (Or.inr rfl) _
  · exact readNested_number (Or.inr rfl) _

theorem endsNumber_signMark (negative : Bool) (rest : List Char) :
    EndsNumber (signMark negative :: rest) := by
  cases negative <;> simp [EndsNumber, EndsRun, isExponentMark, signMark]

theorem endsName_signMark (negative : Bool) (rest : List Char) :
    EndsName (signMark negative :: rest) := by
  rintro c ⟨⟩
  constructor
  · apply not_continuesName
    cases negative <;> decide
  · cases negative <;> decide

/-- The first number in parentheses. A word without a sign is read as a name,
any other token as a number. -/
theorem exists_readNested_realPart {negative : Bool} {R : NumberToken}
    (hfits : R.Fits negative) (negative' : Bool) (cs : List Char) :
    ∃ v, readNested fuel item
        (signText negative ++ (R.text ++ signMark negative' :: cs)) =
          some (v, signMark negative' :: cs) ∧
      realPart? negative v = some (R.value negative) := by
  have hread := readNumber_plain (isSignText_signText negative) R
    (endsNumber_signMark negative' cs)
  have hname := endsName_signMark negative' cs
  rw [signText_eq_minus] at hread
  by_cases hnumber : signText negative ≠ [] ∨ R.IsNumeral
  · refine ⟨_, ?_, realPart?_token hfits⟩
    rw [readNested_token (isSignText_signText negative) hnumber, hread]
    split <;> rfl
  · obtain ⟨hsign, hword⟩ := not_or.mp hnumber
    cases negative with
    | true => exact absurd (List.cons_ne_nil _ _) hsign
    | false =>
        cases R with
        | numeral n => exact absurd trivial hword
        | inf =>
            exact ⟨_, readNested_word (by decide) (by simp; decide)
              (by decide) rfl hname, rfl⟩
        | nan =>
            exact ⟨_, readNested_word (by decide) (by simp; decide)
              (by decide) rfl hname, rfl⟩

theorem head?_sign_text (negative : Bool) (R : NumberToken) (cs : List Char) :
    ((signText negative ++ (R.text ++ cs)).head? == some '-') = negative := by
  cases negative with
  | true => rfl
  | false =>
      obtain ⟨c, ds, htext, hsign⟩ := R.exists_text_cons
      have hne : c ≠ '-' := by
        rintro rfl
        exact absurd hsign (by decide)
      rw [htext]
      simpa [signText] using hne

theorem readImaginary_text (re : Binary64) (negative : Bool) (T : NumberToken)
    (rest : List Char) :
    readImaginary re (signMark negative :: (T.text ++ 'j' :: ')' :: rest)) =
      some (.complex re (T.value negative), rest) := by
  have hread :=
    readNumber_imaginary (isSignText_signMark negative) T (')' :: rest)
  rw [signMark_eq_minus, List.singleton_append] at hread
  rw [readImaginary, hread]
  rfl

theorem readParen_parts {negative : Bool} {R : NumberToken}
    (hfits : R.Fits negative) (negative' : Bool) (T : NumberToken)
    (rest : List Char) :
    readParen fuel (readValue fuel (levels + 1))
        (signText negative ++
          (R.text ++ signMark negative' :: (T.text ++ 'j' :: ')' :: rest))) =
      some (.complex (R.value negative) (T.value negative'), rest) := by
  have hstarts :=
    (startsValue_sign_text (isSignText_signText negative) R).append
    (signMark negative' :: (T.text ++ 'j' :: ')' :: rest))
  have hblank : Text.isBlank (signMark negative') = false := by
    cases negative' <;> rfl
  have hsign (cs : List Char) :
      startsWithSign (signMark negative' :: cs) = true := by
    cases negative' <;> rfl
  obtain ⟨v, hread, hreal⟩ : ∃ v, readValue fuel (levels + 1) _ = some (v, _) ∧
      realPart? negative v = some (R.value negative) :=
    exists_readNested_realPart hfits negative' (T.text ++ 'j' :: ')' :: rest)
  rw [List.append_assoc] at hstarts
  rw [readParen_of_startsValue hstarts, hread, Option.bind_some]
  simp only [head?_sign_text, hreal]
  rw [Text.skipBlanks_cons hblank, hsign, if_pos rfl, readImaginary_text]

/-- A complex number is read from its text, if the levels suffice. -/
theorem readValue_complexText {n : Nat} {re im : Binary64} {t : List Char}
    (h : ComplexText n re im t) (rest : List Char) :
    readValue fuel (levels + 1) (t ++ rest) =
      if n ≤ levels + 1 then some (.complex re im, rest) else none := by
  cases h with
  | @imaginary negative T h =>
      have hsign : signText negative ≠ [] ∨ T.IsNumeral := by
        refine h.imp_left ?_
        rintro rfl
        exact List.cons_ne_nil _ _
      have hread := readNumber_imaginary (isSignText_signText negative) T rest
      rw [signText_eq_minus] at hread
      rw [if_pos (Nat.le_add_left 1 levels), readValue, List.append_assoc,
        List.append_assoc, List.singleton_append,
        readNested_token (isSignText_signText negative) hsign, hread]
  | @parts negative negative' R T hfits =>
      simp only [List.cons_append, List.append_assoc, List.nil_append,
        readValue, readNested_paren]
      cases levels with
      | zero =>
          have hstarts :=
            (startsValue_sign_text (isSignText_signText negative) R).append
              (signMark negative' :: (T.text ++ 'j' :: ')' :: rest))
          rw [List.append_assoc] at hstarts
          rw [readParen_of_startsValue hstarts]
          rfl
      | succ levels =>
          rw [readParen_parts hfits, if_pos (by omega)]

/-! ## Leaves -/

theorem readValue_stringText {cs t : List Char} (h : StringText cs t)
    (rest : List Char) :
    readValue fuel (levels + 1) (t ++ rest) =
      some (.str (String.ofList cs), rest) := by
  cases h with
  | mk hquote h =>
      rw [readValue, List.cons_append, readNested_quote hquote,
        List.append_assoc, List.singleton_append, readQuoted_flatten hquote h,
        Option.map_some]

theorem readValue_bytesText {bs : List UInt8} {t : List Char}
    (h : BytesText bs t) (rest : List Char) :
    readValue fuel (levels + 1) (t ++ rest) = some (.bytes bs, rest) := by
  cases h with
  | mk hquote h =>
      rw [readValue, List.cons_append, List.cons_append,
        readNested_byteQuote hquote, List.append_assoc, List.singleton_append,
        readQuotedBytes_flatten hquote h, Option.map_some]

/-- A leaf is read from its literal, if the levels suffice. -/
theorem readValue_leaf {v : Value} {t rest : List Char} (hleaf : IsLeaf v)
    (ht : literalText? v = some t) (hrest : Delimited rest) :
    readValue fuel (levels + 1) (t ++ rest) =
      if leafNesting v ≤ levels + 1 then some (v, rest) else none := by
  have hname := hrest.endsName
  have hends := hrest.endsNumber
  cases v with
  | null =>
      obtain rfl := Option.some.inj ht
      exact readNested_word (by decide) (by simp; decide) (by decide) rfl hname
  | notImplemented =>
      obtain rfl := Option.some.inj ht
      exact readNested_word (by decide) (by simp; decide) (by decide) rfl hname
  | ellipsis =>
      obtain rfl := Option.some.inj ht
      rfl
  | bool b =>
      cases b with
      | true | false =>
          obtain rfl := Option.some.inj ht
          exact readNested_word (by decide) (by simp; decide)
            (by decide) rfl hname
  | int n =>
      obtain rfl := Option.some.inj ht
      have hread := readNumber_intText n hends
      rw [intText_eq, ← Numeral.text_ofNat, List.append_assoc] at hread ⊢
      exact (readNested_token (T := .numeral _) (isSignText_signText _)
        (Or.inr trivial)
        rest).trans hread
  | float x =>
      have hread := readNumber_render ht hends
      obtain ⟨T, rfl, hnumeral, -, -⟩ := exists_token_of_render? ht
      rw [List.append_assoc] at hread ⊢
      rw [readValue, readNested_token (isSignText_signText _) (Or.inr hnumeral),
        hread]
      rfl
  | complex re im =>
      exact readValue_complexText (complexText_of_complexText? ht) rest
  | str s =>
      obtain rfl := Option.some.inj ht
      rw [readValue_stringText (stringText_quoteString s.toList),
        String.ofList_toList]
      rfl
  | bytes bs =>
      obtain rfl := Option.some.inj ht
      exact readValue_bytesText (bytesText_quoteBytes bs) rest
  | byteArray _ | list _ | tuple _ | set _ | frozenSet _ | dict _ | call _ _
  | verbatim _ => exact hleaf.elim

/-! ## Items -/

/-- The reader passes over white space and takes exactly the written forms
shorter than `fuel` that are nested at most `levels` deep; it fails on those
that are nested more deeply. -/
structure ReadsUpTo (fuel levels : Nat) (item : Scan Value) : Prop where
  skips {w : List Char} : Blank w → ∀ cs, item (w ++ cs) = item cs
  takes {n : Nat} {v : Value} {t rest : List Char} :
    Written n v t → t.length < fuel → Delimited rest →
      item (t ++ rest) = if n ≤ levels then some (v, rest) else none

theorem isBlank_comma : Text.isBlank ',' = false := rfl

theorem isBlank_closing {close : Char} (hclose : close ∈ [']', ')', '}']) :
    Text.isBlank close = false :=
  Text.eq_false_of_mem (by decide) hclose

theorem readItems_closing {close : Char} (hclose : close ∈ [']', ')', '}'])
    {w : List Char} (hw : Blank w) (turns : Nat) (rest : List Char) :
    readItems item close (turns + 1) (w ++ close :: rest) =
      some ([], rest) := by
  rw [readItems, Text.skipBlanks_append_cons hw (isBlank_closing hclose)]
  exact if_pos rfl

section Turn

variable {close : Char} {w cs w' : List Char} {v : Value}

theorem readItems_of_none (hclose : close ∈ [']', ')', '}']) (hw : Blank w)
    (hcs : StartsValue cs) (h : item cs = none) (turns : Nat) :
    readItems item close (turns + 1) (w ++ cs) = none := by
  obtain ⟨c, cs, rfl, hblank, hc⟩ := hcs
  rw [readItems, Text.skipBlanks_append_cons hw hblank]
  simp [show c ≠ close from fun heq => hc (heq ▸ hclose), h]

theorem readItems_last (hclose : close ∈ [']', ')', '}']) (hw : Blank w)
    (hcs : StartsValue cs) (hw' : Blank w') {rest : List Char}
    (h : item cs = some (v, w' ++ close :: rest)) (turns : Nat) :
    readItems item close (turns + 1) (w ++ cs) = some ([v], rest) := by
  obtain ⟨c, cs, rfl, hblank, hc⟩ := hcs
  rw [readItems, Text.skipBlanks_append_cons hw hblank]
  simp [show c ≠ close from fun heq => hc (heq ▸ hclose), h,
    Text.skipBlanks_append_cons hw' (isBlank_closing hclose)]

theorem readItems_more (hclose : close ∈ [']', ')', '}']) (hw : Blank w)
    (hcs : StartsValue cs) (hw' : Blank w') {rest : List Char}
    (h : item cs = some (v, w' ++ ',' :: rest)) (turns : Nat) :
    readItems item close (turns + 1) (w ++ cs) =
      (readItems item close turns rest).map fun p => (v :: p.1, p.2) := by
  have hcomma : ',' ≠ close := by
    rintro rfl
    exact absurd hclose (by decide)
  obtain ⟨c, cs, rfl, hblank, hc⟩ := hcs
  rw [readItems, Text.skipBlanks_append_cons hw hblank]
  simp only [show c ≠ close from fun heq => hc (heq ▸ hclose), h,
    Text.skipBlanks_append_cons hw' isBlank_comma, hcomma, if_false, if_true,
    Option.bind_eq_bind, Option.bind_some]
  cases readItems item close turns rest <;> rfl

end Turn

/-- The loop over items takes exactly the items and the closing bracket. -/
theorem readItems_text (hitem : ReadsUpTo fuel levels item) {close : Char}
    (hclose : close ∈ [']', ')', '}']) {n : Nat} {vs : List Value}
    {t : List Char} (h : ItemsText Written close n vs t) {turns : Nat}
    (hturns : t.length < turns) (hfuel : t.length < fuel) (rest : List Char) :
    readItems item close turns (t ++ rest) =
      if n ≤ levels then some (vs, rest) else none := by
  induction h generalizing turns with
  | nil hw =>
      obtain ⟨turns, rfl⟩ :=
        Nat.exists_eq_add_one_of_ne_zero (Nat.ne_zero_of_lt hturns)
      rw [List.append_assoc, List.singleton_append, readItems_closing hclose hw,
        if_pos (Nat.zero_le levels)]
  | @last n v w t w' hw ht hw' =>
      obtain ⟨turns, rfl⟩ :=
        Nat.exists_eq_add_one_of_ne_zero (Nat.ne_zero_of_lt hturns)
      have hrest :=
        delimited_append_cons hw' (closing_mem_delimiters hclose) rest
      have hread := hitem.takes ht (by simp at hfuel; omega) hrest
      have hstarts := ht.startsValue.append (w' ++ close :: rest)
      simp only [List.append_assoc, List.singleton_append]
      by_cases hn : n ≤ levels
      · rw [if_pos hn] at hread ⊢
        exact readItems_last hclose hw hstarts hw' hread turns
      · rw [if_neg hn] at hread ⊢
        exact readItems_of_none hclose hw hstarts hread turns
  | @cons n m v vs w t w' u hw ht hw' hu ih =>
      obtain ⟨turns, rfl⟩ :=
        Nat.exists_eq_add_one_of_ne_zero (Nat.ne_zero_of_lt hturns)
      have hrest := delimited_append_cons hw' (c := ',') (by decide) (u ++ rest)
      have hread := hitem.takes ht (by simp at hfuel; omega) hrest
      have hstarts := ht.startsValue.append (w' ++ ',' :: (u ++ rest))
      simp only [List.append_assoc, List.cons_append]
      by_cases hn : n ≤ levels
      · rw [if_pos hn] at hread
        rw [readItems_more hclose hw hstarts hw' hread,
          ih (by simp at hturns; omega) (by simp at hfuel; omega)]
        by_cases hm : m ≤ levels <;> simp [hn, hm]
      · rw [if_neg hn] at hread
        rw [readItems_of_none hclose hw hstarts hread, if_neg (by omega)]

/-! ## Entries -/

theorem MoreEntriesText.delimited {R : Nat → Value → List Char → Prop} {n : Nat}
    {es : List (Value × Value)} {u : List Char} (h : MoreEntriesText R n es u)
    (rest : List Char) : Delimited (u ++ rest) := by
  cases h with
  | close hw =>
      rw [List.append_assoc]
      exact delimited_append_cons hw (by decide) _
  | comma hw _ | cons hw _ _ =>
      rw [List.append_assoc]
      exact delimited_append_cons hw (by decide) _

theorem readAfterColon_text (hitem : ReadsUpTo fuel levels item) {n : Nat}
    {v : Value} {w w' t rest : List Char} (hw : Blank w) (hw' : Blank w')
    (ht : Written n v t) (hfuel : t.length < fuel) (hrest : Delimited rest) :
    readAfterColon item (w ++ ':' :: (w' ++ (t ++ rest))) =
      if n ≤ levels then some (v, rest) else none := by
  rw [readAfterColon, Text.skipBlanks_append_cons hw rfl]
  exact (hitem.skips hw' _).trans (hitem.takes ht hfuel hrest)

theorem readMoreEntries_comma {w : List Char} (hw : Blank w) (turns : Nat)
    (cs : List Char) :
    readMoreEntries item (turns + 1) (w ++ ',' :: cs) =
      match Text.skipBlanks cs with
      | '}' :: rest => some ([], rest)
      | rest =>
        (item rest).bind fun p => (readAfterColon item p.2).bind fun q =>
          (readMoreEntries item turns q.2).bind fun r =>
            some ((p.1, q.1) :: r.1, r.2) := by
  rw [readMoreEntries, Text.skipBlanks_append_cons hw isBlank_comma]
  rfl

/-- One turn of the loop over entries reads a key and a value. -/
theorem readMoreEntries_entry {w w' cs : List Char} (hw : Blank w)
    (hw' : Blank w') (hcs : StartsValue cs) (turns : Nat) :
    readMoreEntries item (turns + 1) (w ++ ',' :: (w' ++ cs)) =
      (item cs).bind fun p => (readAfterColon item p.2).bind fun q =>
        (readMoreEntries item turns q.2).bind fun r =>
          some ((p.1, q.1) :: r.1, r.2) := by
  rw [readMoreEntries_comma hw, Text.skipBlanks_append hw', hcs.skipBlanks]
  obtain ⟨c, cs, rfl, -, hc⟩ := hcs
  split
  · rename_i heq
    obtain ⟨rfl, -⟩ := List.cons.inj heq
    exact absurd (by decide) hc
  · rfl

/-- The loop over entries takes exactly the entries and the closing brace. -/
theorem readMoreEntries_text (hitem : ReadsUpTo fuel levels item) {n : Nat}
    {es : List (Value × Value)} {t : List Char}
    (h : MoreEntriesText Written n es t) {turns : Nat}
    (hturns : t.length < turns) (hfuel : t.length < fuel) (rest : List Char) :
    readMoreEntries item turns (t ++ rest) =
      if n ≤ levels then some (es, rest) else none := by
  induction h generalizing turns with
  | close hw =>
      obtain ⟨turns, rfl⟩ :=
        Nat.exists_eq_add_one_of_ne_zero (Nat.ne_zero_of_lt hturns)
      rw [List.append_assoc, List.singleton_append, readMoreEntries,
        Text.skipBlanks_append_cons hw rfl, if_pos (Nat.zero_le levels)]
      rfl
  | comma hw hw' =>
      obtain ⟨turns, rfl⟩ :=
        Nat.exists_eq_add_one_of_ne_zero (Nat.ne_zero_of_lt hturns)
      simp only [List.append_assoc, List.cons_append, List.nil_append]
      rw [readMoreEntries_comma hw, Text.skipBlanks_append_cons hw' rfl,
        if_pos (Nat.zero_le levels)]
      rfl
  | @cons n m e es w t u hw he hu ih =>
      obtain ⟨turns, rfl⟩ :=
        Nat.exists_eq_add_one_of_ne_zero (Nat.ne_zero_of_lt hturns)
      cases he with
      | @mk nk nv k v w₁ kt w₂ w₃ vt hw₁ hk hw₂ hw₃ hv =>
          have hkey := hitem.takes hk (by simp at hfuel; omega)
            (delimited_append_cons hw₂ (c := ':') (by decide)
              (w₃ ++ (vt ++ (u ++ rest))))
          have hvalue :=
            readAfterColon_text hitem hw₂ hw₃ hv (by simp at hfuel; omega)
            (hu.delimited rest)
          simp only [List.append_assoc, List.cons_append]
          rw [readMoreEntries_entry hw hw₁ (hk.startsValue.append _), hkey]
          by_cases hnk : nk ≤ levels
          · rw [if_pos hnk, Option.bind_some, hvalue]
            by_cases hnv : nv ≤ levels
            · rw [if_pos hnv, Option.bind_some,
                ih (by simp at hturns; omega) (by simp at hfuel; omega)]
              by_cases hm : m ≤ levels <;> simp [hnk, hnv, hm]
            · simp [hnv]
          · simp [hnk]

/-! ## Containers -/

theorem readParen_tuple (hitem : ReadsUpTo fuel levels item) {n m : Nat}
    {v : Value} {vs : List Value} {w t w' u : List Char} (hw : Blank w)
    (ht : Written n v t) (hw' : Blank w') (hu : ItemsText Written ')' m vs u)
    (hfuel : (w ++ (t ++ (w' ++ ',' :: u))).length < fuel) (rest : List Char) :
    readParen fuel item (w ++ (t ++ (w' ++ ',' :: (u ++ rest)))) =
      if max n m ≤ levels then some (.tuple (v :: vs), rest) else none := by
  have hstarts := ht.startsValue.append (w' ++ ',' :: (u ++ rest))
  have hread := hitem.takes ht (by simp at hfuel; omega)
    (delimited_append_cons hw' (c := ',') (by decide) (u ++ rest))
  rw [readParen_append hw]
  by_cases hn : n ≤ levels
  · rw [if_pos hn] at hread
    have hskip := Text.skipBlanks_append_cons hw' isBlank_comma (u ++ rest)
    rw [readParen_of_some hstarts hread (by rw [hskip]; rfl), hskip,
      readAfterFirst, readItems_text hitem (by decide) hu
      (by simp at hfuel; omega) (by simp at hfuel; omega)]
    by_cases hm : m ≤ levels <;> simp [hn, hm]
  · rw [if_neg hn] at hread
    rw [readParen_of_startsValue hstarts, hread, if_neg (by omega)]
    rfl

theorem readBrace_append {w : List Char} (hw : Blank w) (cs : List Char) :
    readBrace fuel item (w ++ cs) = readBrace fuel item cs := by
  rw [readBrace, readBrace, Text.skipBlanks_append hw]

/-- What stands in braces starts with an item or a key. -/
theorem readBrace_of_startsValue {cs : List Char} (hstarts : StartsValue cs) :
    readBrace fuel item cs = (item cs).bind fun p =>
      match Text.skipBlanks p.2 with
      | ':' :: rest => (item rest).bind fun q =>
          (readMoreEntries item fuel q.2).bind fun r =>
            some (.dict ((p.1, q.1) :: r.1), r.2)
      | '}' :: rest => some (.set [p.1], rest)
      | ',' :: rest => (readItems item '}' fuel rest).bind fun q =>
          some (.set (p.1 :: q.1), q.2)
      | _ => none := by
  rw [readBrace, hstarts.skipBlanks]
  obtain ⟨c, cs, rfl, -, hclose⟩ := hstarts
  split
  · rename_i heq
    obtain ⟨rfl, -⟩ := List.cons.inj heq
    exact absurd (by decide) hclose
  · rfl

section Brace

variable {cs w rest : List Char} {v : Value}

theorem readBrace_last (hcs : StartsValue cs) (hw : Blank w)
    (h : item cs = some (v, w ++ '}' :: rest)) :
    readBrace fuel item cs = some (.set [v], rest) := by
  rw [readBrace_of_startsValue hcs, h, Option.bind_some]
  rw [Text.skipBlanks_append_cons hw rfl]
  rfl

theorem readBrace_comma (hcs : StartsValue cs) (hw : Blank w)
    (h : item cs = some (v, w ++ ',' :: rest)) :
    readBrace fuel item cs = (readItems item '}' fuel rest).bind fun q =>
      some (.set (v :: q.1), q.2) := by
  rw [readBrace_of_startsValue hcs, h, Option.bind_some]
  rw [Text.skipBlanks_append_cons hw rfl]
  rfl

theorem readBrace_colon (hcs : StartsValue cs) (hw : Blank w)
    (h : item cs = some (v, w ++ ':' :: rest)) :
    readBrace fuel item cs = (item rest).bind fun q =>
      (readMoreEntries item fuel q.2).bind fun r =>
        some (.dict ((v, q.1) :: r.1), r.2) := by
  rw [readBrace_of_startsValue hcs, h, Option.bind_some]
  rw [Text.skipBlanks_append_cons hw rfl]
  rfl

theorem readBrace_of_none (hcs : StartsValue cs) (h : item cs = none) :
    readBrace fuel item cs = none := by
  rw [readBrace_of_startsValue hcs, h, Option.bind_none]

end Brace

theorem readBrace_set (hitem : ReadsUpTo fuel levels item) {n : Nat} {v : Value}
    {vs : List Value} {t : List Char} (h : ItemsText Written '}' n (v :: vs) t)
    (hfuel : t.length < fuel) (rest : List Char) :
    readBrace fuel item (t ++ rest) =
      if n ≤ levels then some (.set (v :: vs), rest) else none := by
  cases h with
  | last hw ht hw' =>
      have hread := hitem.takes ht (by simp at hfuel; omega)
        (delimited_append_cons hw' (c := '}') (by decide) rest)
      simp only [List.append_assoc, List.singleton_append]
      rw [readBrace_append hw]
      by_cases hn : n ≤ levels
      · rw [if_pos hn] at hread ⊢
        exact readBrace_last (ht.startsValue.append _) hw' hread
      · rw [if_neg hn] at hread ⊢
        exact readBrace_of_none (ht.startsValue.append _) hread
  | @cons n m _ _ _ _ _ u hw ht hw' hu =>
      have hread := hitem.takes ht (by simp at hfuel; omega)
        (delimited_append_cons hw' (c := ',') (by decide) (u ++ rest))
      simp only [List.append_assoc, List.cons_append]
      rw [readBrace_append hw]
      by_cases hn : n ≤ levels
      · rw [if_pos hn] at hread
        rw [readBrace_comma (ht.startsValue.append _) hw' hread,
          readItems_text hitem (by decide) hu (by simp at hfuel; omega)
            (by simp at hfuel; omega)]
        by_cases hm : m ≤ levels <;> simp [hn, hm]
      · rw [if_neg hn] at hread
        rw [readBrace_of_none (ht.startsValue.append _) hread,
          if_neg (by omega)]

theorem readBrace_dict (hitem : ReadsUpTo fuel levels item) {n m : Nat}
    {e : Value × Value} {es : List (Value × Value)} {t u : List Char}
    (he : EntryText Written n e t) (hu : MoreEntriesText Written m es u)
    (hfuel : (t ++ u).length < fuel) (rest : List Char) :
    readBrace fuel item (t ++ (u ++ rest)) =
      if max n m ≤ levels then some (.dict (e :: es), rest) else none := by
  cases he with
  | @mk nk nv k v w₁ kt w₂ w₃ vt hw₁ hk hw₂ hw₃ hv =>
      have hkey := hitem.takes hk (by simp at hfuel; omega)
        (delimited_append_cons hw₂ (c := ':') (by decide)
          (w₃ ++ (vt ++ (u ++ rest))))
      have hvalue :=
        hitem.takes hv (by simp at hfuel; omega) (hu.delimited rest)
      simp only [List.append_assoc, List.cons_append]
      rw [readBrace_append hw₁]
      by_cases hnk : nk ≤ levels
      · rw [if_pos hnk] at hkey
        rw [readBrace_colon (hk.startsValue.append _) hw₂ hkey,
          hitem.skips hw₃, hvalue]
        by_cases hnv : nv ≤ levels
        · rw [if_pos hnv, Option.bind_some,
            readMoreEntries_text hitem hu (by simp at hfuel; omega)
              (by simp at hfuel; omega)]
          by_cases hm : m ≤ levels <;> simp [hnk, hnv, hm]
        · simp [hnv]
      · rw [if_neg hnk] at hkey
        rw [readBrace_of_none (hk.startsValue.append _) hkey, if_neg (by omega)]

theorem isQuote_of_continuesName {c : Char} (h : continuesName c = true) :
    isQuote c = false := by
  rw [isQuote, Bool.or_eq_false_iff, beq_eq_false_iff_ne, beq_eq_false_iff_ne]
  constructor
  all_goals
    rintro rfl
    exact Bool.false_ne_true
      ((not_continuesName (Or.inr (by decide))).symm.trans h)

theorem readNested_call (hitem : ReadsUpTo fuel levels item) {n : Nat}
    {callee : List Char} {args : List Value} {t : List Char}
    (hname : IsName callee) (h : ItemsText Written ')' n args t)
    (hfuel : t.length < fuel) (rest : List Char) :
    readNested fuel item (callee ++ '(' :: (t ++ rest)) =
      if n ≤ levels then some (construct callee args, rest) else none := by
  obtain ⟨c, cs, rfl, hc⟩ := hname.starts
  have hbytes : ∀ q, (cs ++ '(' :: (t ++ rest)).head? = some q →
      isQuote q = false := by
    intro q hq
    cases cs with
    | nil =>
        obtain rfl := Option.some.inj hq
        rfl
    | cons d cs =>
        obtain rfl := Option.some.inj hq
        exact isQuote_of_continuesName (hname.continues d (by simp))
  rw [List.cons_append, readNested_name hc hbytes, ← List.cons_append,
    readName_call hname.continues,
    readItems_text hitem (by decide) h hfuel hfuel]
  by_cases hn : n ≤ levels <;> simp [hn]

theorem construct_of_not_denotesContainer {callee : List Char}
    {args : List Value} (h : ¬DenotesContainer callee args) :
    construct callee args = .call (String.ofList callee) args := by
  simp only [DenotesContainer, not_or, not_and] at h
  obtain ⟨hset, hfrozen, hbytes⟩ := h
  unfold construct
  split
  · rw [if_neg fun hc => hset hc rfl, if_neg fun hc => (hfrozen hc).1 rfl,
      if_neg fun hc => (hbytes hc).1 rfl]
  · rw [if_neg fun hc => (hfrozen hc).2 ⟨_, rfl⟩]
  · rw [if_neg fun hc => (hbytes hc).2 ⟨_, rfl⟩]
  · rfl

theorem isName_of_all {c : Char} {cs : List Char}
    (hstarts : startsName c = true)
    (hall : (c :: cs).all continuesName = true) : IsName (c :: cs) :=
  ⟨⟨c, cs, rfl, hstarts⟩, List.all_eq_true.mp hall⟩

theorem isName_set : IsName "set".toList :=
  isName_of_all (by decide) (by decide)

theorem isName_frozenset : IsName "frozenset".toList :=
  isName_of_all (by decide) (by decide)

theorem isName_bytearray : IsName "bytearray".toList :=
  isName_of_all (by decide) (by decide)

/-- A call is read as what it denotes, if the levels suffice. -/
theorem readValue_call (hitem : ReadsUpTo fuel levels (readValue fuel levels))
    {n : Nat} {callee : List Char} {args : List Value} {v : Value}
    {t : List Char} (hname : IsName callee) (h : ItemsText Written ')' n args t)
    (hv : construct callee args = v)
    (hfuel : (callee ++ '(' :: t).length < fuel) (rest : List Char) :
    readValue fuel (levels + 1) (callee ++ '(' :: t ++ rest) =
      if n + 1 ≤ levels + 1 then some (v, rest) else none := by
  have hlength : t.length < fuel := by
    simp at hfuel
    omega
  rw [readValue, List.append_assoc, List.cons_append,
    readNested_call hitem hname h hlength, hv]
  simp only [Nat.add_le_add_iff_right]

/-! ## Values -/

theorem readNested_append {w : List Char} (hw : Blank w) (cs : List Char) :
    readNested fuel item (w ++ cs) = readNested fuel item cs := by
  rw [readNested, readNested, Text.skipBlanks_append hw]

theorem Written.pos {n : Nat} {v : Value} {t : List Char} (h : Written n v t) :
    0 < n := by
  cases h with
  | leaf _ _ =>
      unfold leafNesting
      split
      · split <;> decide
      · decide
  | complex h => cases h <;> decide
  | _ => exact Nat.succ_pos _

/-- One level of values, if the values one level further in are read. -/
theorem readValue_succ (hitem : ReadsUpTo fuel levels (readValue fuel levels))
    {n : Nat} {v : Value} {t rest : List Char} (h : Written n v t)
    (hfuel : t.length < fuel) (hrest : Delimited rest) :
    readValue fuel (levels + 1) (t ++ rest) =
      if n ≤ levels + 1 then some (v, rest) else none := by
  cases h with
  | leaf hleaf ht => exact readValue_leaf hleaf ht hrest
  | complex h => exact readValue_complexText h rest
  | string h => rw [readValue_stringText h, if_pos (Nat.le_add_left 1 levels)]
  | bytes h => rw [readValue_bytesText h, if_pos (Nat.le_add_left 1 levels)]
  | list h =>
      have hlength := Nat.lt_of_succ_lt hfuel
      rw [readValue, List.cons_append, readNested_bracket,
        readItems_text hitem (by decide) h hlength hlength]
      split_ifs <;> first | rfl | omega
  | emptyTuple hw =>
      rw [readValue, List.cons_append, readNested_paren, List.append_assoc,
        readParen_append hw, if_pos (Nat.le_add_left 1 levels)]
      rfl
  | tuple hw ht hw' hu =>
      simp only [readValue, List.cons_append, List.append_assoc,
        readNested_paren]
      rw [readParen_tuple hitem hw ht hw' hu (Nat.lt_of_succ_lt hfuel)]
      simp only [Nat.add_le_add_iff_right]
  | set h =>
      rw [readValue, List.cons_append, readNested_brace,
        readBrace_set hitem h (Nat.lt_of_succ_lt hfuel)]
      simp only [Nat.add_le_add_iff_right]
  | emptyDict hw =>
      rw [readValue, List.cons_append, readNested_brace, List.append_assoc,
        readBrace_append hw, if_pos (Nat.le_add_left 1 levels)]
      rfl
  | dict he hu =>
      rw [readValue, List.cons_append, readNested_brace, List.append_assoc,
        readBrace_dict hitem he hu (Nat.lt_of_succ_lt hfuel)]
      simp only [Nat.add_le_add_iff_right]
  | emptySet hw =>
      exact readValue_call hitem isName_set (.nil hw) rfl hfuel rest
  | emptyFrozenSet hw =>
      exact readValue_call hitem isName_frozenset (.nil hw) rfl hfuel rest
  | frozenSet h => exact readValue_call hitem isName_frozenset h rfl hfuel rest
  | emptyByteArray hw =>
      exact readValue_call hitem isName_bytearray (.nil hw) rfl hfuel rest
  | byteArray h => exact readValue_call hitem isName_bytearray h rfl hfuel rest
  | call hname hcall h =>
      exact readValue_call hitem hname h
        (construct_of_not_denotesContainer hcall) hfuel rest

/-- The reader takes exactly the written forms that are nested within its
levels. -/
theorem readsUpTo_readValue (fuel levels : Nat) :
    ReadsUpTo fuel levels (readValue fuel levels) := by
  induction levels with
  | zero =>
      refine ⟨fun _ _ => rfl, fun h _ _ => ?_⟩
      rw [if_neg (Nat.not_le.mpr h.pos), readValue]
  | succ levels ih =>
      exact ⟨readNested_append, readValue_succ ih⟩

end Value
end Concord
