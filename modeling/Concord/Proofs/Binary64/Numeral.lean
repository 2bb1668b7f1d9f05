import Concord.Proofs.Binary64.Shortest
import Mathlib.Data.List.TakeDrop

/-!
# Numerals

A numeral is the text of an unsigned number: digits, a fraction after a point,
and an exponent, where fraction and exponent may be absent. It is read as the
decimal it denotes. The text laid out for a finite number is a numeral, after
a sign where the number is negative, and it reads back as that number.
-/

namespace Concord

/-- The sign before a number: none, a minus or a plus. -/
def IsSignText (sign : List Char) : Prop :=
  sign = [] ∨ sign = ['-'] ∨ sign = ['+']

/-- The parts of an unsigned number. -/
structure Numeral where
  whole : List Char
  /-- The digits after the point, where there is one. -/
  fraction? : Option (List Char)
  /-- The sign and the digits after the exponent mark, where there is one. -/
  exponent? : Option (List Char × List Char)
  whole_ne_nil : whole ≠ []
  whole_digits : ∀ c ∈ whole, c.isDigit = true
  fraction_digits : ∀ ds, fraction? = some ds → ∀ c ∈ ds, c.isDigit = true
  exponent_sign : ∀ sign ds, exponent? = some (sign, ds) → IsSignText sign
  exponent_ne_nil : ∀ sign ds, exponent? = some (sign, ds) → ds ≠ []
  exponent_digits : ∀ sign ds, exponent? = some (sign, ds) →
    ∀ c ∈ ds, c.isDigit = true

namespace Numeral

/-- The point and the digits after it. -/
def fractionText : Option (List Char) → List Char
  | none => []
  | some ds => '.' :: ds

/-- The exponent mark, the sign and the digits after it. -/
def exponentText : Option (List Char × List Char) → List Char
  | none => []
  | some (sign, ds) => 'e' :: (sign ++ ds)

/-- The characters of a numeral. -/
def text (n : Numeral) : List Char :=
  n.whole ++ (fractionText n.fraction? ++ exponentText n.exponent?)

/-- The exponent that a sign and digits denote; zero without an exponent. -/
def exponentValue : Option (List Char × List Char) → Int
  | none => 0
  | some (sign, ds) =>
    if sign = ['-'] then -(Decimal.ofDigits ds : Int) else Decimal.ofDigits ds

/-- The decimal that a numeral denotes. -/
def value (n : Numeral) : Decimal where
  coefficient := Decimal.ofDigits (n.whole ++ n.fraction?.getD [])
  exponent := exponentValue n.exponent? - (n.fraction?.getD []).length

/-- The numeral shows that it is not a whole number. -/
def IsFloat (n : Numeral) : Prop :=
  n.fraction?.isSome ∨ n.exponent?.isSome

/-! ## Reading numerals -/

theorem ne_of_isDigit {c d : Char} (hc : c.isDigit = true)
    (hd : d.isDigit = false) : c ≠ d := by
  rintro rfl
  exact Bool.false_ne_true (hd.symm.trans hc)

theorem isDigit_of_mem_toDigits_ten {n : Nat} {c : Char}
    (h : c ∈ Nat.toDigits 10 n) : c.isDigit = true :=
  Nat.isDigit_of_mem_toDigits (by omega) (by omega) h

theorem span_digits
    {ds rest : List Char} (hds : ∀ c ∈ ds, c.isDigit = true)
    (hrest : ∀ c, rest.head? = some c → c.isDigit = false) :
    (ds ++ rest).span Char.isDigit = (ds, rest) := by
  rw [List.span_eq_takeWhile_dropWhile, List.takeWhile_append_of_pos hds,
    List.dropWhile_append_of_pos hds]
  cases rest with
  | nil => simp
  | cons c rest => simp [hrest c rfl]

theorem readExponent?_text (n : Numeral) :
    Decimal.readExponent? (exponentText n.exponent?) =
      some (exponentValue n.exponent?) := by
  cases hexp : n.exponent? with
  | none => rfl
  | some p =>
      obtain ⟨sign, ds⟩ := p
      have hne := n.exponent_ne_nil sign ds hexp
      have hds := n.exponent_digits sign ds hexp
      have hdigits : Decimal.readExponent?.digits? ds =
          some (Decimal.ofDigits ds) := by
        simp [Decimal.readExponent?.digits?, hne, List.all_eq_true.mpr hds]
      rcases n.exponent_sign sign ds hexp with rfl | rfl | rfl
      · -- Without a sign the first digit must not be taken for one.
        obtain ⟨c, ds, rfl⟩ := List.exists_cons_of_ne_nil hne
        have hc : c.isDigit = true := hds c (by simp)
        have hminus : c ≠ '-' := ne_of_isDigit hc rfl
        have hplus : c ≠ '+' := ne_of_isDigit hc rfl
        simp only [exponentText, List.nil_append, Decimal.readExponent?,
          beq_self_eq_true, Bool.true_or, if_true]
        split
        · rename_i heq
          exact absurd (List.cons.inj heq).1 hminus
        · rename_i heq
          exact absurd (List.cons.inj heq).1 hplus
        · rw [hdigits]
          rfl
      · simp [exponentText, exponentValue, Decimal.readExponent?, hdigits]
      · simp [exponentText, exponentValue, Decimal.readExponent?, hdigits]

theorem exponentText_head
    (n : Numeral) (c : Char) (h : (exponentText n.exponent?).head? = some c) :
    c = 'e' := by
  cases hexp : n.exponent? with
  | none => simp [hexp, exponentText] at h
  | some p => simpa [hexp, exponentText, eq_comm] using h

/-- A numeral is read as the decimal it denotes. -/
theorem read?_text (n : Numeral) :
    Decimal.read? n.text = some n.value := by
  have hwhole := n.whole_ne_nil
  have hexponent (c : Char)
      (h : (exponentText n.exponent?).head? = some c) : c.isDigit = false := by
    rw [n.exponentText_head c h]
    rfl
  cases hfrac : n.fraction? with
  | none =>
      have hspan : n.text.span Char.isDigit =
          (n.whole, exponentText n.exponent?) := by
        rw [text, hfrac]
        exact span_digits n.whole_digits hexponent
      -- The match on a point is decided by this fact in the context.
      have hpoint : ∀ r, exponentText n.exponent? ≠ '.' :: r := by
        intro r hr
        have := n.exponentText_head '.' (by rw [hr]; rfl)
        exact absurd this (by decide)
      simp only [Decimal.read?, hspan]
      simp [hwhole, readExponent?_text, value, hfrac]
  | some ds =>
      have hspan : n.text.span Char.isDigit =
          (n.whole, '.' :: (ds ++ exponentText n.exponent?)) := by
        rw [text, hfrac]
        exact span_digits n.whole_digits (by simp [fractionText])
      have hfraction :
          (ds ++ exponentText n.exponent?).span Char.isDigit =
            (ds, exponentText n.exponent?) :=
        span_digits (n.fraction_digits ds hfrac) hexponent
      simp only [Decimal.read?, hspan, hfraction]
      simp [hwhole, readExponent?_text, value, hfrac]

/-! ## Whole numerals -/

theorem parts_of_not_isFloat {n : Numeral} (h : ¬n.IsFloat) :
    n.fraction? = none ∧ n.exponent? = none := by
  obtain ⟨hfraction, hexponent⟩ := not_or.mp h
  constructor
  · simpa using hfraction
  · simpa using hexponent

theorem text_of_not_isFloat (n : Numeral) (h : ¬n.IsFloat) :
    n.text = n.whole := by
  obtain ⟨hfraction, hexponent⟩ := parts_of_not_isFloat h
  simp [text, hfraction, hexponent, fractionText, exponentText]

theorem value_of_not_isFloat (n : Numeral) (h : ¬n.IsFloat) :
    n.value = ⟨Decimal.ofDigits n.whole, 0⟩ := by
  obtain ⟨hfraction, hexponent⟩ := parts_of_not_isFloat h
  simp [value, hfraction, hexponent, exponentValue]

end Numeral

/-! ## Digits -/

namespace Decimal

theorem ofDigits_toDigits (n : Nat) :
    ofDigits (Nat.toDigits 10 n) = n :=
  Nat.ofDigitChars_ten_toDigits

theorem ofDigits_zeros_append (k : Nat) (ds : List Char) :
    ofDigits (List.replicate k '0' ++ ds) = ofDigits ds := by
  change Nat.ofDigitChars 10 _ 0 = Nat.ofDigitChars 10 _ 0
  rw [Nat.ofDigitChars_append, Nat.ofDigitChars_replicate_zero, Nat.mul_zero]

theorem ofDigits_append_zeros (ds : List Char) (k : Nat) :
    ofDigits (ds ++ List.replicate k '0') = ofDigits ds * 10 ^ k := by
  change Nat.ofDigitChars 10 _ 0 = Nat.ofDigitChars 10 _ 0 * 10 ^ k
  rw [Nat.ofDigitChars_append, Nat.ofDigitChars_replicate_zero, Nat.mul_comm]

end Decimal

/-! ## Laid out numbers -/

namespace Numeral

/-- The numeral of a whole number. -/
def ofNat (n : Nat) : Numeral where
  whole := Nat.toDigits 10 n
  fraction? := none
  exponent? := none
  whole_ne_nil := Nat.toDigits_ne_nil
  whole_digits := fun _ => isDigit_of_mem_toDigits_ten
  fraction_digits := nofun
  exponent_sign := nofun
  exponent_ne_nil := nofun
  exponent_digits := nofun

theorem text_ofNat (n : Nat) : (ofNat n).text = Nat.toDigits 10 n := by
  simp [text, ofNat, fractionText, exponentText]

/-- A numeral with a fraction and no exponent. -/
def ofFraction (whole fraction : List Char) (hne : whole ≠ [])
    (hwhole : ∀ c ∈ whole, c.isDigit = true)
    (hfraction : ∀ c ∈ fraction, c.isDigit = true) : Numeral where
  whole := whole
  fraction? := some fraction
  exponent? := none
  whole_ne_nil := hne
  whole_digits := hwhole
  fraction_digits := by
    rintro ds ⟨⟩
    exact hfraction
  exponent_sign := nofun
  exponent_ne_nil := nofun
  exponent_digits := nofun

theorem isDigit_of_mem_zeros {k : Nat} {c : Char}
    (h : c ∈ List.replicate k '0') : c.isDigit = true := by
  rw [List.eq_of_mem_replicate h]
  rfl

variable {digits : List Char}

/-- Digits laid out around a point denote the decimal they were laid out for. -/
theorem exists_text_eq_positional
    (hne : digits ≠ []) (hdigits : ∀ c ∈ digits, c.isDigit = true)
    (lead : Int) :
    ∃ n : Numeral, n.text = Layout.positional digits lead ∧ n.IsFloat ∧
      ∀ negative, n.value.toBinary64 negative =
        Decimal.toBinary64
          ⟨Decimal.ofDigits digits, lead + 1 - digits.length⟩ negative := by
  have hlength : 0 < digits.length := List.length_pos_iff.mpr hne
  rcases lt_or_ge lead 0 with hneg | hnonneg
  · have hmem : ∀ c ∈ List.replicate (-lead - 1).toNat '0' ++ digits,
        c.isDigit = true := by
      intro c hc
      rcases List.mem_append.mp hc with hzero | hdigit
      · exact isDigit_of_mem_zeros hzero
      · exact hdigits c hdigit
    refine ⟨ofFraction ['0'] _ (by simp) (by simp) hmem, ?_, Or.inl rfl, ?_⟩
    · simp [text, ofFraction, fractionText, exponentText,
        Layout.positional, hneg]
    · intro negative
      congr 1
      simp only [value, ofFraction, Option.getD_some, exponentValue,
        List.length_append, List.length_replicate]
      congr 1
      · rw [← List.append_assoc]
        exact Decimal.ofDigits_zeros_append ((-lead - 1).toNat + 1) digits
      · omega
  · obtain ⟨k, rfl⟩ := Int.eq_ofNat_of_zero_le hnonneg
    have hnot : ¬(k : Int) < 0 := by omega
    rcases Nat.lt_or_ge (k + 1) digits.length with hlong | hshort
    · have htake : digits.take (k + 1) ≠ [] := by
        rw [← List.length_pos_iff, List.length_take]
        omega
      refine ⟨ofFraction (digits.take (k + 1)) (digits.drop (k + 1)) htake
        (fun c hc => hdigits c (List.mem_of_mem_take hc))
        (fun c hc => hdigits c (List.mem_of_mem_drop hc)), ?_, Or.inl rfl, ?_⟩
      · simp [text, ofFraction, fractionText, exponentText, Layout.positional,
          Nat.not_le.mpr hlong]
      · intro negative
        congr 1
        simp only [value, ofFraction, Option.getD_some, exponentValue,
          List.take_append_drop, List.length_drop]
        congr 1
        omega
    · -- Zeros fill the places up to the point: the coefficient grows with them.
      have hmem : ∀ c ∈ digits ++ List.replicate (k + 1 - digits.length) '0',
          c.isDigit = true := by
        intro c hc
        rcases List.mem_append.mp hc with hdigit | hzero
        · exact hdigits c hdigit
        · exact isDigit_of_mem_zeros hzero
      refine ⟨ofFraction _ ['0'] (by simp [hne]) hmem (by simp), ?_,
        Or.inl rfl, ?_⟩
      · simp [text, ofFraction, fractionText, exponentText, Layout.positional,
          hshort]
      · intro negative
        have hvalue :
            value (ofFraction _ ['0'] (by simp [hne]) hmem (by simp)) =
            ⟨Decimal.ofDigits digits * 10 ^ (k + 1 - digits.length + 1),
              -1⟩ := by
          simp only [value, ofFraction, Option.getD_some, exponentValue]
          congr 1
          rw [List.append_assoc, ← List.replicate_succ']
          exact Decimal.ofDigits_append_zeros _ _
        rw [hvalue, Decimal.toBinary64_mul_pow_ten]
        congr 2
        omega

/-- One digit, a fraction and an exponent denote the decimal they were laid
out for. -/
theorem exists_text_eq_scientific
    (hne : digits ≠ []) (hdigits : ∀ c ∈ digits, c.isDigit = true)
    (plusSign : Bool) (lead : Int) :
    ∃ n : Numeral, n.text = Layout.scientific plusSign digits lead ∧
      n.IsFloat ∧
      n.value = ⟨Decimal.ofDigits digits, lead + 1 - digits.length⟩ := by
  obtain ⟨d, ds, rfl⟩ := List.exists_cons_of_ne_nil hne
  let sign : List Char :=
    if lead < 0 then ['-'] else if plusSign then ['+'] else []
  let fraction? : Option (List Char) := if ds = [] then none else some ds
  have hfraction : fraction?.getD [] = ds := by
    dsimp only [fraction?]
    split
    · rename_i h
      simp [h]
    · rfl
  have hsign : IsSignText sign := by
    dsimp only [IsSignText, sign]
    split
    · simp
    · split <;> simp
  have hexponent :
      exponentValue (some (sign, Nat.toDigits 10 lead.natAbs)) = lead := by
    rw [exponentValue, Decimal.ofDigits_toDigits]
    rcases lt_or_ge lead 0 with hneg | hnonneg
    · rw [if_pos (show sign = ['-'] from if_pos hneg)]
      omega
    · have hne : sign ≠ ['-'] := by
        dsimp only [sign]
        rw [if_neg (by omega)]
        split <;> simp
      rw [if_neg hne]
      omega
  let n : Numeral :=
    { whole := [d]
      fraction? := fraction?
      exponent? := some (sign, Nat.toDigits 10 lead.natAbs)
      whole_ne_nil := by simp
      whole_digits := by simpa using hdigits d (by simp)
      fraction_digits := by
        intro fs hfs c hc
        have : fs = ds := by rw [← hfraction, hfs, Option.getD_some]
        exact hdigits c (by simp [← this, hc])
      exponent_sign := by
        rintro _ _ ⟨⟩
        exact hsign
      exponent_ne_nil := by
        rintro _ _ ⟨⟩
        exact Nat.toDigits_ne_nil
      exponent_digits := by
        rintro _ _ ⟨⟩ c hc
        exact isDigit_of_mem_toDigits_ten hc }
  refine ⟨n, ?_, Or.inr rfl, ?_⟩
  · cases ds with
    | nil => simp [n, text, fraction?, fractionText, exponentText,
        Layout.scientific, sign]
    | cons d' ds => simp [n, text, fraction?, fractionText, exponentText,
        Layout.scientific, sign]
  · simp only [value, n, hfraction, hexponent]
    congr 1
    simp only [List.length_cons]
    omega

/-- The text of a decimal is a numeral of the same value. -/
theorem exists_text_eq_decimal (layout : Layout) (d : Decimal) :
    ∃ n : Numeral, n.text = layout.decimal d ∧ n.IsFloat ∧
      ∀ negative, n.value.toBinary64 negative = d.toBinary64 negative := by
  let stripped := d.strip (Decimal.digitCount d.coefficient)
  let digits := Nat.toDigits 10 stripped.coefficient
  have hdigits : ∀ c ∈ digits, c.isDigit = true :=
    fun _ => isDigit_of_mem_toDigits_ten
  have hstripped (negative : Bool) :
      Decimal.toBinary64 ⟨Decimal.ofDigits digits,
        stripped.exponent + digits.length - 1 + 1 - digits.length⟩ negative =
        d.toBinary64 negative := by
    rw [← Decimal.toBinary64_strip (Decimal.digitCount d.coefficient) d]
    congr 1
    rw [Decimal.ofDigits_toDigits,
      show stripped.exponent + digits.length - 1 + 1 - digits.length =
        stripped.exponent by omega]
  unfold Layout.decimal
  dsimp only
  split
  · obtain ⟨n, htext, hfloat, hvalue⟩ :=
      exists_text_eq_positional Nat.toDigits_ne_nil hdigits
        (stripped.exponent + digits.length - 1)
    exact ⟨n, htext, hfloat, fun negative =>
      (hvalue negative).trans (hstripped negative)⟩
  · obtain ⟨n, htext, hfloat, hvalue⟩ :=
      exists_text_eq_scientific Nat.toDigits_ne_nil hdigits layout.plusSign
        (stripped.exponent + digits.length - 1)
    exact ⟨n, htext, hfloat, fun negative => by rw [hvalue, hstripped]⟩

theorem exists_text_cons (n : Numeral) :
    ∃ c rest, n.text = c :: rest ∧ c.isDigit = true := by
  obtain ⟨c, rest, h⟩ := List.exists_cons_of_ne_nil n.whole_ne_nil
  refine ⟨c, rest ++ (fractionText n.fraction? ++ exponentText n.exponent?), ?_,
    n.whole_digits c (by simp [h])⟩
  rw [text, h, List.cons_append]

/-- A numeral consists of digits, a point, an exponent mark and a sign after
that. -/
theorem isDigit_or_mem_of_mem_text {n : Numeral} {c : Char} (hc : c ∈ n.text) :
    c.isDigit = true ∨ c ∈ ['.', 'e', '-', '+'] := by
  rw [text, List.mem_append, List.mem_append] at hc
  rcases hc with hwhole | hfraction | hexponent
  · exact Or.inl (n.whole_digits c hwhole)
  · cases hfrac : n.fraction? with
    | none => simp [hfrac, fractionText] at hfraction
    | some ds =>
        rw [hfrac, fractionText, List.mem_cons] at hfraction
        rcases hfraction with rfl | hds
        · exact Or.inr (by simp)
        · exact Or.inl (n.fraction_digits ds hfrac c hds)
  · cases hexp : n.exponent? with
    | none => simp [hexp, exponentText] at hexponent
    | some p =>
        obtain ⟨sign, ds⟩ := p
        rw [hexp, exponentText, List.mem_cons, List.mem_append] at hexponent
        rcases hexponent with rfl | hsign | hds
        · exact Or.inr (by simp)
        · right
          rcases n.exponent_sign sign ds hexp with rfl | rfl | rfl
          · exact absurd hsign List.not_mem_nil
          · rw [List.mem_singleton.mp hsign]
            simp
          · rw [List.mem_singleton.mp hsign]
            simp
        · exact Or.inl (n.exponent_digits sign ds hexp c hds)

end Numeral

namespace Binary64

open Numeral (ne_of_isDigit)

/-- The sign that is written before a number. -/
def signText (negative : Bool) : List Char :=
  if negative then ['-'] else []

theorem toLower_of_isDigit {c : Char} (h : c.isDigit = true) :
    c.toLower = c := by
  have hdigit : c.val ≥ '0'.val ∧ c.val ≤ '9'.val := by
    simpa [Char.isDigit] using h
  have hnot : ¬(c.val ≥ 'A'.val ∧ c.val ≤ 'Z'.val) := by
    rintro ⟨hupper, -⟩
    exact absurd (UInt32.le_trans hupper hdigit.2) (by decide)
  exact dif_neg hnot

theorem readMagnitude?_text (n : Numeral) (negative : Bool) :
    readMagnitude? negative n.text = some (n.value.toBinary64 negative) := by
  obtain ⟨c, rest, htext, hc⟩ := n.exists_text_cons
  have hi : c ≠ 'i' := ne_of_isDigit hc rfl
  have hn : c ≠ 'n' := ne_of_isDigit hc rfl
  have hlower : n.text.map Char.toLower = c :: rest.map Char.toLower := by
    rw [htext, List.map_cons, toLower_of_isDigit hc]
  have hinfinity : "infinity".toList = 'i' :: "nfinity".toList := rfl
  simp [readMagnitude?, hlower, hinfinity, hi, hn, n.read?_text]

theorem isSignText_signText (negative : Bool) :
    IsSignText (signText negative) := by
  cases negative with
  | true => exact Or.inr (Or.inl rfl)
  | false => exact Or.inl rfl

theorem signText_eq_minus (negative : Bool) :
    decide (signText negative = ['-']) = negative := by
  cases negative <;> rfl

theorem read?_sign_append
    {sign : List Char} (hsign : IsSignText sign) (n : Numeral) :
    read? (sign ++ n.text) = some (n.value.toBinary64 (sign = ['-'])) := by
  rcases hsign with rfl | rfl | rfl
  · obtain ⟨c, rest, htext, hc⟩ := n.exists_text_cons
    have hminus : c ≠ '-' := ne_of_isDigit hc rfl
    have hplus : c ≠ '+' := ne_of_isDigit hc rfl
    rw [show decide (([] : List Char) = ['-']) = false from rfl,
      ← readMagnitude?_text n false, htext]
    simp [read?, hminus, hplus]
  · exact readMagnitude?_text n true
  · exact readMagnitude?_text n false

/-- The text laid out for a finite number is a numeral after the number's sign,
and reads back as the number. -/
theorem exists_numeral_of_render?
    {layout : Layout} {x : Binary64} {text : List Char}
    (h : layout.render? x = some text) :
    ∃ n : Numeral, text = signText x.isNegative ++ n.text ∧ n.IsFloat ∧
      n.value.toBinary64 x.isNegative = x := by
  cases x with
  | nan => simp [Layout.render?] at h
  | infinite negative => simp [Layout.render?] at h
  | finite negative e f =>
      obtain ⟨n, htext, hfloat, hvalue⟩ : ∃ n : Numeral,
          (n.text = if units e f = 0 then ['0', '.', '0'] else
            layout.decimal
              (Decimal.shortest layout.tie (.finite false e f) (units e f))) ∧
          n.IsFloat ∧ n.value.toBinary64 false = .finite false e f := by
        rcases Nat.eq_zero_or_pos (units e f) with hzero | hpos
        · obtain ⟨he, hf⟩ := units_eq_zero_iff.mp hzero
          obtain rfl : e = 0 := Fin.ext he
          obtain rfl : f = 0 := Fin.ext hf
          exact ⟨Numeral.ofFraction ['0'] ['0'] (by simp) (by simp) (by simp),
            rfl, Or.inl rfl, rfl⟩
        · obtain ⟨n, htext, hfloat, hvalue⟩ :=
            Numeral.exists_text_eq_decimal layout
            (Decimal.shortest layout.tie (.finite false e f) (units e f))
          rw [if_neg (Nat.ne_of_gt hpos)]
          exact ⟨n, htext, hfloat, (hvalue false).trans
            (Decimal.toBinary64_shortest layout.tie e f hpos)⟩
      refine ⟨n, ?_, hfloat, ?_⟩
      · rw [Layout.render?, Option.some.injEq] at h
        rw [← h, htext]
        cases negative <;> rfl
      · rw [← Decimal.withSign_toBinary64 _ _ false, hvalue]
        rfl

end Binary64
end Concord
