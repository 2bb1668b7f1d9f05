import Concord.Proofs.Binary64.Numeral
import Concord.Value.Literal
import Concord.Value.Reader

/-!
# Numbers read back

The reader of numbers takes exactly a sign and a token, which is a numeral or
the word for infinity or NaN, as long as what follows cannot go on with it.
-/

namespace Concord
namespace Value

open Binary64
open Numeral (ne_of_isDigit)

/-! ## What follows a number -/

/-- The text does not start with a digit, a point or an exponent mark. -/
def EndsRun (rest : List Char) : Prop :=
  ∀ c, rest.head? = some c →
    c.isDigit = false ∧ c ≠ '.' ∧ isExponentMark c = false

/-- The text goes on with neither a number nor the mark of an imaginary one. -/
def EndsNumber (rest : List Char) : Prop :=
  EndsRun rest ∧ ∀ c, rest.head? = some c → c ≠ 'j' ∧ c ≠ 'J'

/-! ## Runs -/

theorem numberRun_of_endsRun {rest : List Char} (h : EndsRun rest) :
    numberRun false rest = ([], rest) := by
  cases rest with
  | nil => rfl
  | cons c rest =>
      obtain ⟨hdigit, hpoint, hmark⟩ := h c rfl
      simp [numberRun, hdigit, hpoint, hmark]

theorem not_isExponentMark_of_isDigit {c : Char} (h : c.isDigit = true) :
    isExponentMark c = false := by
  have he : c ≠ 'e' := ne_of_isDigit h rfl
  have hE : c ≠ 'E' := ne_of_isDigit h rfl
  simp [isExponentMark, he, hE]

theorem not_isSign_of_isDigit {c : Char} (h : c.isDigit = true) :
    isSign c = false := by
  have hminus : c ≠ '-' := ne_of_isDigit h rfl
  have hplus : c ≠ '+' := ne_of_isDigit h rfl
  simp [isSign, hminus, hplus]

theorem numberRun_digit {c : Char} (hc : c.isDigit = true) (afterMark : Bool)
    (rest : List Char) :
    numberRun afterMark (c :: rest) =
      (c :: (numberRun false rest).1, (numberRun false rest).2) := by
  simp [numberRun, hc, not_isExponentMark_of_isDigit hc]

theorem numberRun_digits
    {ds : List Char} (hds : ∀ c ∈ ds, c.isDigit = true) (rest : List Char) :
    numberRun false (ds ++ rest) =
      (ds ++ (numberRun false rest).1, (numberRun false rest).2) := by
  induction ds with
  | nil => rfl
  | cons c ds ih =>
      rw [List.cons_append, numberRun_digit (hds c (by simp)),
        ih fun c hc => hds c (by simp [hc])]
      rfl

theorem numberRun_exponentText
    (n : Numeral) {rest : List Char} (h : EndsRun rest) :
    numberRun false (Numeral.exponentText n.exponent? ++ rest) =
      (Numeral.exponentText n.exponent?, rest) := by
  cases hexp : n.exponent? with
  | none => exact numberRun_of_endsRun h
  | some p =>
      obtain ⟨sign, ds⟩ := p
      have hds := n.exponent_digits sign ds hexp
      have hdigits : numberRun false (ds ++ rest) = (ds, rest) := by
        rw [numberRun_digits hds, numberRun_of_endsRun h, List.append_nil]
      have hmark (r : List Char) : numberRun false ('e' :: r) =
          ('e' :: (numberRun true r).1, (numberRun true r).2) := rfl
      rw [Numeral.exponentText, List.cons_append, hmark]
      rcases n.exponent_sign sign ds hexp with rfl | rfl | rfl
      · -- The first digit follows the mark directly.
        obtain ⟨c, ds, rfl⟩ :=
          List.exists_cons_of_ne_nil (n.exponent_ne_nil [] ds hexp)
        have hc : c.isDigit = true := hds c (by simp)
        rw [List.cons_append, numberRun_digit hc] at hdigits
        rw [List.nil_append, List.cons_append, numberRun_digit hc, hdigits]
      · have hsign (r : List Char) : numberRun true ('-' :: r) =
            ('-' :: (numberRun false r).1, (numberRun false r).2) := rfl
        simp [hsign, hdigits]
      · have hsign (r : List Char) : numberRun true ('+' :: r) =
            ('+' :: (numberRun false r).1, (numberRun false r).2) := rfl
        simp [hsign, hdigits]

/-- A run takes exactly a numeral. -/
theorem numberRun_text (n : Numeral) {rest : List Char} (h : EndsRun rest) :
    numberRun false (n.text ++ rest) = (n.text, rest) := by
  have htail := numberRun_exponentText n h
  have hpoint (r : List Char) : numberRun false ('.' :: r) =
      ('.' :: (numberRun false r).1, (numberRun false r).2) := rfl
  rw [Numeral.text, List.append_assoc, numberRun_digits n.whole_digits]
  cases hfrac : n.fraction? with
  | none =>
      rw [Numeral.fractionText, List.nil_append, htail]
  | some ds =>
      rw [Numeral.fractionText, List.cons_append, List.cons_append, hpoint,
        List.append_assoc, numberRun_digits (n.fraction_digits ds hfrac), htail]

theorem numberBody_text (n : Numeral) {rest : List Char} (h : EndsRun rest) :
    numberBody (n.text ++ rest) = (n.text, rest) := by
  rw [← numberRun_text n h]
  obtain ⟨c, cs, htext, hc⟩ := n.exists_text_cons
  have hi : c ≠ 'i' := ne_of_isDigit hc rfl
  have hn : c ≠ 'n' := ne_of_isDigit hc rfl
  rw [htext, List.cons_append]
  simp [numberBody, hi, hn]

theorem text_ne_nil (n : Numeral) : n.text ≠ [] := by
  obtain ⟨c, rest, htext, -⟩ := n.exists_text_cons
  simp [htext]

/-! ## Tokens -/

/-- The text of an unsigned number: a numeral, or the word for infinity or
NaN. -/
inductive NumberToken where
  | numeral (n : Numeral)
  | inf
  | nan

namespace NumberToken

/-- The characters of a token. -/
def text : NumberToken → List Char
  | .numeral n => n.text
  | .inf => ['i', 'n', 'f']
  | .nan => ['n', 'a', 'n']

/-- The number that a token denotes after a sign. -/
def value (negative : Bool) : NumberToken → Binary64
  | .numeral n => n.value.toBinary64 negative
  | .inf => .infinite negative
  | .nan => .nan

/-- The token consists of digits, and not of a word. -/
def IsNumeral : NumberToken → Prop
  | .numeral _ => True
  | .inf | .nan => False

/-- A token that shows a whole number denotes one of 64 bits. -/
def Fits (negative : Bool) : NumberToken → Prop
  | .numeral n =>
    n.IsFloat ∨
      -2 ^ 63 ≤ signedDigits (signText negative) n.whole ∧
        signedDigits (signText negative) n.whole < 2 ^ 63
  | .inf | .nan => True

theorem text_ne_nil (T : NumberToken) : T.text ≠ [] := by
  cases T with
  | numeral n => exact Value.text_ne_nil n
  | inf | nan => exact List.cons_ne_nil _ _

/-- A token starts with none of the signs. -/
theorem exists_text_cons (T : NumberToken) :
    ∃ c cs, T.text = c :: cs ∧ isSign c = false := by
  cases T with
  | numeral n =>
      obtain ⟨c, cs, htext, hc⟩ := n.exists_text_cons
      exact ⟨c, cs, htext, not_isSign_of_isDigit hc⟩
  | inf | nan => exact ⟨_, _, rfl, rfl⟩

theorem read?_sign_append {sign : List Char} (hsign : IsSignText sign)
    (T : NumberToken) :
    Binary64.read? (sign ++ T.text) = some (T.value (sign = ['-'])) := by
  cases T with
  | numeral n => exact Binary64.read?_sign_append hsign n
  | inf | nan => rcases hsign with rfl | rfl | rfl <;> rfl

theorem numberBody_text (T : NumberToken) {rest : List Char}
    (h : EndsRun rest) : numberBody (T.text ++ rest) = (T.text, rest) := by
  cases T with
  | numeral n => exact Value.numberBody_text n h
  | inf | nan => rfl

theorem signOf_append_text {sign : List Char} (hsign : IsSignText sign)
    (T : NumberToken) (rest : List Char) :
    signOf (sign ++ (T.text ++ rest)) = (sign, T.text ++ rest) := by
  rcases hsign with rfl | rfl | rfl
  · obtain ⟨c, cs, htext, hc⟩ := T.exists_text_cons
    simp [htext, signOf, hc]
  · rfl
  · rfl

end NumberToken

/-! ## Numbers -/

/-- A token without `j` after it is a float or a whole number. -/
theorem readNumber_plain
    {sign : List Char} (hsign : IsSignText sign) (T : NumberToken)
    {rest : List Char} (h : EndsNumber rest) :
    readNumber (sign ++ (T.text ++ rest)) =
      if isFloatBody T.text then some (.float (T.value (sign = ['-'])), rest)
      else some (wholeNumber sign T.text, rest) := by
  simp only [readNumber, T.signOf_append_text hsign, T.numberBody_text h.1,
    T.read?_sign_append hsign, List.isEmpty_eq_false_iff.mpr T.text_ne_nil,
    Bool.false_eq_true, if_false, Option.map_some]
  cases rest with
  | nil => rfl
  | cons c rest =>
      obtain ⟨hj, hJ⟩ := h.2 c rfl
      simp [hj, hJ]

/-- A token with `j` after it is imaginary. -/
theorem readNumber_imaginary
    {sign : List Char} (hsign : IsSignText sign) (T : NumberToken)
    (rest : List Char) :
    readNumber (sign ++ (T.text ++ 'j' :: rest)) =
      some (.complex zero (T.value (sign = ['-'])), rest) := by
  have hends : EndsRun ('j' :: rest) := by
    rintro c ⟨⟩
    exact ⟨rfl, by decide, rfl⟩
  simp [readNumber, T.signOf_append_text hsign, T.numberBody_text hends,
    T.read?_sign_append hsign, T.text_ne_nil]

/-! ## Floats -/

theorem isFloatBody_text {n : Numeral} (h : n.IsFloat) :
    isFloatBody n.text = true := by
  rw [isFloatBody, List.any_eq_true]
  rcases h with h | h
  · obtain ⟨ds, hds⟩ := Option.isSome_iff_exists.mp h
    exact ⟨'.', by simp [Numeral.text, Numeral.fractionText, hds], rfl⟩
  · obtain ⟨p, hp⟩ := Option.isSome_iff_exists.mp h
    exact ⟨'e', by simp [Numeral.text, Numeral.exponentText, hp], rfl⟩

/-- The text of a finite number reads back as a float. -/
theorem readNumber_render
    {layout : Layout} {x : Binary64} {text : List Char}
    (hrender : layout.render? x = some text)
    {rest : List Char} (h : EndsNumber rest) :
    readNumber (text ++ rest) = some (.float x, rest) := by
  obtain ⟨n, rfl, hfloat, hvalue⟩ := exists_numeral_of_render? hrender
  have hread :=
    readNumber_plain (isSignText_signText x.isNegative) (.numeral n) h
  rw [NumberToken.text, if_pos (isFloatBody_text hfloat), signText_eq_minus,
    NumberToken.value, hvalue] at hread
  rw [List.append_assoc, hread]

/-! ## Whole numbers -/

theorem isFloatBody_digits {ds : List Char} (hds : ∀ c ∈ ds, c.isDigit = true) :
    isFloatBody ds = false := by
  rw [isFloatBody, List.any_eq_false]
  intro c hc
  have hdigit := hds c hc
  have hpoint : c ≠ '.' := ne_of_isDigit hdigit rfl
  have hn : c ≠ 'n' := ne_of_isDigit hdigit rfl
  simp [hpoint, hn, not_isExponentMark_of_isDigit hdigit]

theorem intText_eq (n : Int) :
    intText n = signText (n < 0) ++ Nat.toDigits 10 n.natAbs := by
  unfold intText signText
  by_cases h : n < 0 <;> simp [h]

theorem signedDigits_signText (negative : Bool) (ds : List Char) :
    signedDigits (signText negative) ds =
      signedInt negative (Decimal.ofDigits ds) := by
  cases negative <;> rfl

theorem signedDigits_intText (n : Int) :
    signedDigits (signText (n < 0)) (Nat.toDigits 10 n.natAbs) = n := by
  rw [signedDigits_signText, Decimal.ofDigits_toDigits, signedInt]
  by_cases h : n < 0
  · simp only [h, decide_true, if_true]
    omega
  · simp [h]
    omega

theorem fitsSigned_iff {n : Int} :
    Width.fitsSigned 64 n = true ↔ -2 ^ 63 ≤ n ∧ n < 2 ^ 63 := by
  have hcount : (Width.count (64 - 1) : Int) = 2 ^ 63 := rfl
  rw [Width.fitsSigned, hcount, Bool.and_eq_true, decide_eq_true_eq,
    decide_eq_true_eq]

theorem wholeNumber_of_fits {sign ds : List Char}
    (hlow : -2 ^ 63 ≤ signedDigits sign ds)
    (hhigh : signedDigits sign ds < 2 ^ 63) :
    wholeNumber sign ds = .int (Int64.ofInt (signedDigits sign ds)) := by
  rw [wholeNumber, if_pos (fitsSigned_iff.mpr ⟨hlow, hhigh⟩)]

/-- What the decimal text of an integer is read as. -/
def ofInteger (n : Int) : Value :=
  if -2 ^ 63 ≤ n ∧ n < 2 ^ 63 then .int (Int64.ofInt n)
  else .verbatim (String.ofList (intText n))

theorem wholeNumber_intText (n : Int) :
    wholeNumber (signText (n < 0)) (Nat.toDigits 10 n.natAbs) =
      ofInteger n := by
  rw [wholeNumber, signedDigits_intText, ← intText_eq, ofInteger]
  simp only [fitsSigned_iff]

theorem ofInteger_toInt (n : Int64) : ofInteger n.toInt = .int n := by
  rw [ofInteger, if_pos ⟨n.le_toInt, n.toInt_lt⟩, Int64.ofInt_toInt]

/-- The decimal text of an integer of any size is read whole. -/
theorem readNumber_integer (n : Int) {rest : List Char} (h : EndsNumber rest) :
    readNumber (intText n ++ rest) = some (ofInteger n, rest) := by
  have hdigits : isFloatBody (Nat.toDigits 10 n.natAbs) = false :=
    isFloatBody_digits fun _ => Numeral.isDigit_of_mem_toDigits_ten
  have hread := readNumber_plain (isSignText_signText (n < 0))
    (.numeral (Numeral.ofNat n.natAbs)) h
  rw [NumberToken.text, Numeral.text_ofNat, hdigits, if_neg Bool.false_ne_true,
    wholeNumber_intText] at hread
  rw [intText_eq, List.append_assoc, hread]

/-- The decimal text of a 64-bit integer reads back. -/
theorem readNumber_intText
    (n : Int64) {rest : List Char} (h : EndsNumber rest) :
    readNumber (intText n.toInt ++ rest) = some (.int n, rest) := by
  rw [readNumber_integer n.toInt h, ofInteger_toInt]

/-! ## Real parts -/

theorem ofInt_zero : Binary64.ofInt 0 = zero := by
  decide +kernel

/-- A whole number with a sign, as a float. The sign of a zero is kept. -/
theorem toBinary64_whole (c : Nat) (negative : Bool) :
    Decimal.toBinary64 ⟨c, 0⟩ negative =
      if c = 0 && negative then negZero
      else Binary64.ofInt (signedInt negative c) := by
  rcases Nat.eq_zero_or_pos c with rfl | hc
  · cases negative with
    | true => rfl
    | false =>
        have hzero : Binary64.ofInt (signedInt false 0) = zero := ofInt_zero
        rw [Decimal.toBinary64_of_coefficient_zero, if_neg (by simp), hzero]
        rfl
  · have hexponent := Decimal.toBinary64_of_nonneg negative hc (Nat.zero_le 308)
    have hne : c ≠ 0 := Nat.ne_of_gt hc
    rw [Int.natCast_zero, pow_zero, Nat.mul_one] at hexponent
    rw [hexponent, ofInt_signedInt fun _ => hne, if_neg (by simp [hne])]

/-- The number read from a token is a real part, if it has 64 bits where it is
whole: the one that the token denotes. -/
theorem realPart?_token {negative : Bool} {T : NumberToken}
    (hfits : T.Fits negative) :
    realPart? negative
        (if isFloatBody T.text then .float (T.value negative)
          else wholeNumber (signText negative) T.text) =
            some (T.value negative) := by
  cases T with
  | inf | nan => rfl
  | numeral n =>
      by_cases hfloat : n.IsFloat
      · rw [NumberToken.text, if_pos (isFloatBody_text hfloat)]
        rfl
      · obtain ⟨hlow, hhigh⟩ := hfits.resolve_left hfloat
        have hzero :
            Int64.ofInt (signedDigits (signText negative) n.whole) = 0 ↔
            Decimal.ofDigits n.whole = 0 := by
          rw [← Int64.toInt_inj, Int64.toInt_ofInt_of_le hlow hhigh,
            signedDigits_signText, Int64.toInt_zero, ← Int.natAbs_eq_zero,
            natAbs_signedInt]
        rw [NumberToken.text, n.text_of_not_isFloat hfloat,
          isFloatBody_digits n.whole_digits, if_neg Bool.false_ne_true,
          wholeNumber_of_fits hlow hhigh, realPart?,
          Int64.toInt_ofInt_of_le hlow hhigh, NumberToken.value,
          n.value_of_not_isFloat hfloat, toBinary64_whole,
          signedDigits_signText]
        rw [signedDigits_signText] at hzero
        simp only [hzero]

/-! ## Complex numbers -/

/-- The sign that joins the parts of a complex number. -/
def signMark (negative : Bool) : Char :=
  if negative then '-' else '+'

theorem isSignText_signMark (negative : Bool) :
    IsSignText [signMark negative] := by
  cases negative with
  | true => exact Or.inr (Or.inl rfl)
  | false => exact Or.inr (Or.inr rfl)

theorem signMark_eq_minus (negative : Bool) :
    decide ([signMark negative] = ['-']) = negative := by
  cases negative <;> rfl

/-- The text is a complex number with the given parts, in which values are
nested `n` deep. A word alone before the `j` is no number but a name, so it
takes a sign there. -/
inductive ComplexText : Nat → Binary64 → Binary64 → List Char → Prop where
  | imaginary {negative : Bool} {T : NumberToken}
      (h : negative = true ∨ T.IsNumeral) :
      ComplexText 1 zero (T.value negative)
        (signText negative ++ (T.text ++ ['j']))
  | parts {negative negative' : Bool} {R T : NumberToken}
      (hfits : R.Fits negative) :
      ComplexText 2 (R.value negative) (T.value negative')
        ('(' :: (signText negative ++
          (R.text ++ signMark negative' :: (T.text ++ ['j', ')']))))

theorem exists_token_of_render? {layout : Layout} {x : Binary64}
    {text : List Char} (h : layout.render? x = some text) :
    ∃ T : NumberToken, text = signText x.isNegative ++ T.text ∧ T.IsNumeral ∧
      T.Fits x.isNegative ∧ T.value x.isNegative = x := by
  obtain ⟨n, rfl, hfloat, hvalue⟩ := exists_numeral_of_render? h
  exact ⟨.numeral n, rfl, trivial, Or.inl hfloat, hvalue⟩

/-- The token of a magnitude denotes the number after the number's own sign. -/
theorem exists_token_of_render?_abs {layout : Layout} {x : Binary64}
    {text : List Char} (h : layout.render? x.abs = some text) :
    ∃ T : NumberToken, text = T.text ∧ T.value x.isNegative = x := by
  obtain ⟨n, htext, -, hvalue⟩ := exists_numeral_of_render? h
  cases x with
  | nan => simp [Binary64.abs, Layout.render?] at h
  | infinite negative => simp [Binary64.abs, Layout.render?] at h
  | finite negative e f =>
      refine ⟨.numeral n, htext, ?_⟩
      rw [NumberToken.value, ← Decimal.withSign_toBinary64 _ _ false]
      exact congrArg (withSign negative) hvalue

/-- The literal of a complex number. -/
theorem complexText_of_complexText? {re im : Binary64} {text : List Char}
    (h : complexText? re im = some text) :
    ComplexText (if re = zero then 1 else 2) re im text := by
  rw [complexText?] at h
  by_cases hre : re = zero
  · rw [if_pos hre] at h ⊢
    obtain ⟨t, ht, rfl⟩ := Option.map_eq_some_iff.mp h
    obtain ⟨T, rfl, hnumeral, -, hvalue⟩ := exists_token_of_render? ht
    have himaginary : ComplexText 1 zero (T.value im.isNegative) _ :=
      .imaginary (Or.inr hnumeral)
    rwa [hvalue, ← hre, ← List.append_assoc] at himaginary
  · rw [if_neg hre] at h ⊢
    obtain ⟨r, hr, h⟩ := Option.bind_eq_some_iff.mp h
    obtain ⟨i, hi, h⟩ := Option.bind_eq_some_iff.mp h
    obtain rfl := Option.some.inj h
    obtain ⟨R, rfl, -, hfits, hR⟩ := exists_token_of_render? hr
    obtain ⟨T, rfl, hT⟩ := exists_token_of_render?_abs hi
    have hparts :
        ComplexText 2 (R.value re.isNegative) (T.value im.isNegative) _ :=
      .parts hfits
    rwa [hR, hT, ← List.append_assoc] at hparts

end Value
end Concord
