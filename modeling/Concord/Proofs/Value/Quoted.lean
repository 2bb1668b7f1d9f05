import Concord.Proofs.Text.Blank
import Concord.Value.Literal
import Concord.Value.Reader
import Mathlib.Algebra.Group.Nat.Defs
import Mathlib.Data.List.Forall2

/-!
# Spellings of quoted text

Between quotes a character is spelled as itself, by a backslash and a letter,
or by its code in hexadecimal. One turn of the reader undoes one spelling, so
every spelling of a text reads back as that text. The literals of strings and
bytes are such spellings.
-/

namespace Concord
namespace Value

/-! ## Hexadecimal codes -/

/-- The code in lower-case hexadecimal, with leading zeros up to `width`
digits. -/
def hexText : (width code : Nat) → List Char
  | 0, _ => []
  | width + 1, code => hexText width (code / 16) ++ [hexDigit (code % 16)]

theorem hexValue?_hexDigit :
    ∀ d < 16, Text.hexValue? (hexDigit d) = some d := by
  decide

theorem hexValue?_toLower (c : Char) :
    Text.hexValue? c.toLower = Text.hexValue? c := by
  by_cases hupper : c.val ≥ 'A'.val ∧ c.val ≤ 'Z'.val
  · have hall : (Text.members [(0x41, 0x5a)]).all
        (fun d => Text.hexValue? d.toLower == Text.hexValue? d) = true := by
      decide
    have hlow : 0x41 ≤ c.toNat := UInt32.le_iff_toNat_le.mp hupper.1
    have hhigh : c.toNat ≤ 0x5a := UInt32.le_iff_toNat_le.mp hupper.2
    have hmem : c ∈ Text.members [(0x41, 0x5a)] := by
      apply Text.mem_members
      rw [Text.inRanges, List.any_cons, decide_eq_true hlow,
        decide_eq_true hhigh]
      rfl
    exact beq_iff_eq.mp (List.all_eq_true.mp hall c hmem)
  · have hself : c.toLower = c := dif_neg hupper
    rw [hself]

theorem hexNumber?_map_toLower (ds : List Char) :
    Text.hexNumber? (ds.map Char.toLower) = Text.hexNumber? ds := by
  rw [Text.hexNumber?, List.foldlM_map, Text.hexNumber?]
  simp only [hexValue?_toLower]

theorem hexNumber?_hexText {width code : Nat} (h : code < 16 ^ width) :
    Text.hexNumber? (hexText width code) = some code := by
  induction width generalizing code with
  | zero =>
      have hzero : code = 0 := by simpa using h
      rw [hzero]
      rfl
  | succ width ih =>
      have hhigh : code / 16 < 16 ^ width := by
        rw [Nat.pow_succ] at h
        exact Nat.div_lt_of_lt_mul (by omega)
      have hread := ih hhigh
      have hlow := hexValue?_hexDigit (code % 16) (by omega)
      rw [Text.hexNumber?] at hread ⊢
      rw [hexText, List.foldlM_append, hread]
      simp only [Option.bind_eq_bind, Option.bind_some, List.foldlM_cons,
        List.foldlM_nil, hlow, Option.map_some, Option.pure_def,
        Option.some.injEq]
      omega

theorem hexNumber?_of_map_toLower {width code : Nat} {ds : List Char}
    (hcode : code < 16 ^ width)
    (hds : ds.map Char.toLower = hexText width code) :
    Text.hexNumber? ds = some code := by
  rw [← hexNumber?_map_toLower, hds, hexNumber?_hexText hcode]

theorem hexChar?_of_hexNumber? {ds : List Char} {c : Char}
    (h : Text.hexNumber? ds = some c.toNat) : Text.hexChar? ds = some c := by
  have hvalid : c.toNat.isValidChar := c.valid
  rw [Text.hexChar?, h, Option.bind_some, if_pos hvalid, Char.ofNat_toNat]

theorem length_hexText (width code : Nat) :
    (hexText width code).length = width := by
  induction width generalizing code with
  | zero => rfl
  | succ width ih => rw [hexText, List.length_append, ih, List.length_singleton]

/-! ## Spellings -/

/-- The letters that may follow a backslash, with what they stand for. -/
def shortEscapes : List (Char × Char) :=
  [('n', '\n'), ('r', '\r'), ('t', '\t'), ('0', '\x00'), ('\\', '\\'),
    ('\'', '\''), ('"', '"')]

/-- The marks before the code of a character, with the number of its digits. -/
def stringMarks : List (Char × Nat) :=
  [('x', 2), ('u', 4), ('U', 8)]

/-- The mark before the code of a byte, with the number of its digits. -/
def byteMarks : List (Char × Nat) :=
  [('x', 2)]

/-- The text spells the character between quotes. The digits of a code may be
of either case. -/
inductive Spells (marks : List (Char × Nat)) (quote : Char) :
    Char → List Char → Prop where
  | plain {c : Char} (hquote : c ≠ quote) (hslash : c ≠ '\\') :
      Spells marks quote c [c]
  | short {e c : Char} (h : (e, c) ∈ shortEscapes) :
      Spells marks quote c ['\\', e]
  | code {mark c : Char} {width : Nat} {ds : List Char}
      (hmark : (mark, width) ∈ marks) (hcode : c.toNat < 16 ^ width)
      (hds : ds.map Char.toLower = hexText width c.toNat) :
      Spells marks quote c ('\\' :: mark :: ds)

/-- The byte is spelled as the character of its code. -/
def SpellsByte (quote : Char) (b : UInt8) (t : List Char) : Prop :=
  Spells byteMarks quote (Char.ofNat b.toNat) t

/-- The text spells the characters one by one, between quotes of either kind. -/
inductive StringText : List Char → List Char → Prop where
  | mk {quote : Char} {cs : List Char} {ts : List (List Char)}
      (hquote : isQuote quote = true)
      (h : List.Forall₂ (Spells stringMarks quote) cs ts) :
      StringText cs (quote :: (ts.flatten ++ [quote]))

/-- The text spells the bytes one by one, between quotes after a `b`. -/
inductive BytesText : List UInt8 → List Char → Prop where
  | mk {quote : Char} {bs : List UInt8} {ts : List (List Char)}
      (hquote : isQuote quote = true)
      (h : List.Forall₂ (SpellsByte quote) bs ts) :
      BytesText bs ('b' :: quote :: (ts.flatten ++ [quote]))

theorem isQuote_iff {c : Char} : isQuote c = true ↔ c = '\'' ∨ c = '"' := by
  rw [isQuote, Bool.or_eq_true, beq_iff_eq, beq_iff_eq]

/-! ## Reading strings -/

theorem prepend_some {α : Type} (a : α) (as : List α) (rest : List Char) :
    prepend (some a) (some (as, rest)) = some (a :: as, rest) := rfl

theorem readQuoted_plain {quote c : Char} (rest : List Char) (hslash : c ≠ '\\')
    (hquote : c ≠ quote) :
    readQuoted quote (c :: rest) =
      prepend (some c) (readQuoted quote rest) := by
  rw [readQuoted.eq_def]
  split <;> simp_all

theorem readQuoted_short {quote e c : Char} (h : (e, c) ∈ shortEscapes)
    (rest : List Char) :
    readQuoted quote ('\\' :: e :: rest) =
      prepend (some c) (readQuoted quote rest) := by
  simp only [shortEscapes, List.mem_cons, Prod.mk.injEq, List.not_mem_nil,
    or_false] at h
  rcases h with ⟨rfl, rfl⟩ | ⟨rfl, rfl⟩ | ⟨rfl, rfl⟩ | ⟨rfl, rfl⟩ |
    ⟨rfl, rfl⟩ | ⟨rfl, rfl⟩ | ⟨rfl, rfl⟩
  all_goals rfl

theorem readQuoted_code {quote mark : Char} {width : Nat} {ds : List Char}
    (hmark : (mark, width) ∈ stringMarks) (hlength : ds.length = width)
    (rest : List Char) :
    readQuoted quote ('\\' :: mark :: (ds ++ rest)) =
      prepend (Text.hexChar? ds) (readQuoted quote rest) := by
  simp only [stringMarks, List.mem_cons, Prod.mk.injEq, List.not_mem_nil,
    or_false] at hmark
  rcases hmark with ⟨rfl, rfl⟩ | ⟨rfl, rfl⟩ | ⟨rfl, rfl⟩
  · match ds, hlength with
    | [_, _], _ => rfl
  · match ds, hlength with
    | [_, _, _, _], _ => rfl
  · match ds, hlength with
    | [_, _, _, _, _, _, _, _], _ => rfl

/-- One turn of the reader undoes one spelling, whatever follows it. -/
theorem readQuoted_spells {quote c : Char} {t : List Char}
    (h : Spells stringMarks quote c t) (rest : List Char) :
    readQuoted quote (t ++ rest) =
      prepend (some c) (readQuoted quote rest) := by
  cases h with
  | plain hquote hslash => exact readQuoted_plain rest hslash hquote
  | short h => exact readQuoted_short h rest
  | @code mark _ width ds hmark hcode hds =>
      have hlength : ds.length = width := by
        rw [← List.length_map Char.toLower, hds, length_hexText]
      have hchar : Text.hexChar? ds = some c :=
        hexChar?_of_hexNumber? (hexNumber?_of_map_toLower hcode hds)
      rw [List.cons_append, List.cons_append,
        readQuoted_code hmark hlength, hchar]

theorem readQuoted_flatten {quote : Char} {cs : List Char}
    {ts : List (List Char)} (hquote : isQuote quote = true)
    (h : List.Forall₂ (Spells stringMarks quote) cs ts) (rest : List Char) :
    readQuoted quote (ts.flatten ++ quote :: rest) = some (cs, rest) := by
  induction h with
  | nil =>
      rcases isQuote_iff.mp hquote with rfl | rfl
      · rfl
      · rfl
  | cons ht _ ih =>
      rw [List.flatten_cons, List.append_assoc, readQuoted_spells ht, ih,
        prepend_some]

/-! ## Reading bytes -/

theorem toNat_ofNat_byte (b : UInt8) :
    (Char.ofNat b.toNat).toNat = b.toNat := by
  have hlt := b.toNat_lt
  have hvalid : b.toNat.isValidChar := Or.inl (by omega)
  rw [Char.ofNat, dif_pos hvalid]
  rfl

theorem byteOfChar?_ofNat (b : UInt8) :
    byteOfChar? (Char.ofNat b.toNat) = some b := by
  rw [byteOfChar?, toNat_ofNat_byte, if_pos b.toNat_lt, UInt8.ofNat_toNat]

theorem readQuotedBytes_plain {quote c : Char} (rest : List Char)
    (hslash : c ≠ '\\') (hquote : c ≠ quote) :
    readQuotedBytes quote (c :: rest) =
      prepend (byteOfChar? c) (readQuotedBytes quote rest) := by
  rw [readQuotedBytes.eq_def]
  split <;> simp_all

theorem readQuotedBytes_short {quote e c : Char} (h : (e, c) ∈ shortEscapes)
    (rest : List Char) :
    readQuotedBytes quote ('\\' :: e :: rest) =
      prepend (byteOfChar? c) (readQuotedBytes quote rest) := by
  simp only [shortEscapes, List.mem_cons, Prod.mk.injEq, List.not_mem_nil,
    or_false] at h
  rcases h with ⟨rfl, rfl⟩ | ⟨rfl, rfl⟩ | ⟨rfl, rfl⟩ | ⟨rfl, rfl⟩ |
    ⟨rfl, rfl⟩ | ⟨rfl, rfl⟩ | ⟨rfl, rfl⟩
  all_goals rfl

theorem readQuotedBytes_code {quote mark : Char} {width : Nat} {ds : List Char}
    (hmark : (mark, width) ∈ byteMarks) (hlength : ds.length = width)
    (rest : List Char) :
    readQuotedBytes quote ('\\' :: mark :: (ds ++ rest)) =
      prepend ((Text.hexNumber? ds).map UInt8.ofNat)
        (readQuotedBytes quote rest) := by
  obtain ⟨rfl, rfl⟩ : mark = 'x' ∧ width = 2 := by simpa [byteMarks] using hmark
  match ds, hlength with
  | [_, _], _ => rfl

/-- One turn of the reader undoes one spelling of a byte, whatever follows
it. -/
theorem readQuotedBytes_spells {quote : Char} {b : UInt8} {t : List Char}
    (h : SpellsByte quote b t) (rest : List Char) :
    readQuotedBytes quote (t ++ rest) =
      prepend (some b) (readQuotedBytes quote rest) := by
  have hbyte := byteOfChar?_ofNat b
  have htoNat := toNat_ofNat_byte b
  rw [SpellsByte] at h
  generalize Char.ofNat b.toNat = c at h hbyte htoNat
  cases h with
  | plain hquote hslash =>
      rw [List.singleton_append,
        readQuotedBytes_plain rest hslash hquote, hbyte]
  | short h =>
      rw [List.cons_append, List.singleton_append,
        readQuotedBytes_short h, hbyte]
  | @code mark _ width ds hmark hcode hds =>
      have hlength : ds.length = width := by
        rw [← List.length_map Char.toLower, hds, length_hexText]
      rw [List.cons_append, List.cons_append,
        readQuotedBytes_code hmark hlength, hexNumber?_of_map_toLower hcode hds,
        htoNat, Option.map_some, UInt8.ofNat_toNat]

theorem readQuotedBytes_flatten {quote : Char} {bs : List UInt8}
    {ts : List (List Char)} (hquote : isQuote quote = true)
    (h : List.Forall₂ (SpellsByte quote) bs ts) (rest : List Char) :
    readQuotedBytes quote (ts.flatten ++ quote :: rest) = some (bs, rest) := by
  induction h with
  | nil =>
      rcases isQuote_iff.mp hquote with rfl | rfl
      · rfl
      · rfl
  | cons ht _ ih =>
      rw [List.flatten_cons, List.append_assoc, readQuotedBytes_spells ht, ih,
        prepend_some]

/-! ## Literals are spellings -/

theorem toLower_hexDigit : ∀ d < 16, (hexDigit d).toLower = hexDigit d := by
  decide

theorem spells_hexEscape {marks : List (Char × Nat)} {quote c : Char}
    (hmark : ('x', 2) ∈ marks) (hc : c.toNat < 256) :
    Spells marks quote c (hexEscape c.toNat) := by
  refine .code hmark hc ?_
  have hhigh := toLower_hexDigit (c.toNat / 16) (by omega)
  have hlow := toLower_hexDigit (c.toNat % 16) (by omega)
  have hmod : c.toNat / 16 % 16 = c.toNat / 16 := Nat.mod_eq_of_lt (by omega)
  simp [hexText, hhigh, hlow, hmod]

theorem spells_quoteChar (c : Char) :
    Spells stringMarks '\'' c (quoteChar c) := by
  unfold quoteChar
  split_ifs with hslash hquote hn hr ht hcontrol
  · rw [hslash]
    exact .short (by decide)
  · rw [hquote]
    exact .short (by decide)
  · rw [hn]
    exact .short (by decide)
  · rw [hr]
    exact .short (by decide)
  · rw [ht]
    exact .short (by decide)
  · have hc : c.toNat < 256 := by
      simp only [Bool.or_eq_true, decide_eq_true_eq] at hcontrol
      omega
    exact spells_hexEscape (by decide) hc
  · exact .plain hquote hslash

theorem stringText_quoteString (cs : List Char) :
    StringText cs (quoteString cs) := by
  rw [quoteString, List.flatMap_def]
  refine .mk rfl ?_
  rw [List.forall₂_map_right_iff, List.forall₂_same]
  intro c _
  exact spells_quoteChar c

theorem spells_quoteByte (b : UInt8) : SpellsByte '\'' b (quoteByte b) := by
  have htoNat := toNat_ofNat_byte b
  have hlt := b.toNat_lt
  rw [SpellsByte]
  unfold quoteByte
  dsimp only
  split_ifs with hslash hquote hn hr ht hprintable
  · rw [hslash]
    exact .short (by decide)
  · rw [hquote]
    exact .short (by decide)
  · rw [hn]
    exact .short (by decide)
  · rw [hr]
    exact .short (by decide)
  · rw [ht]
    exact .short (by decide)
  · have hne (c : Char) (h : b.toNat ≠ c.toNat) : Char.ofNat b.toNat ≠ c := by
      rintro rfl
      exact h htoNat.symm
    exact .plain (hne '\'' hquote) (hne '\\' hslash)
  · have hescape : Spells byteMarks '\'' (Char.ofNat b.toNat)
        (hexEscape (Char.ofNat b.toNat).toNat) :=
      spells_hexEscape (by decide) (by omega)
    rwa [htoNat] at hescape

theorem bytesText_quoteBytes (bs : List UInt8) :
    BytesText bs (quoteBytes bs) := by
  rw [quoteBytes, List.flatMap_def]
  refine .mk rfl ?_
  rw [List.forall₂_map_right_iff, List.forall₂_same]
  intro b _
  exact spells_quoteByte b

end Value
end Concord
