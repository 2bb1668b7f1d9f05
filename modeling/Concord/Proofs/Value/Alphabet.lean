import Concord.Proofs.Value.Quoted

/-!
# Alphabets of quoted text

Strings and byte strings differ in the codes that may be escaped and in what a
code or a character stands for. An alphabet holds that difference, and both
readers go through quoted text in one way.
-/

namespace Concord
namespace Value

variable {α : Type}

/-- What may stand between quotes: the marks of hexadecimal codes with the
number of their digits, and what a code and a character stand for. -/
structure Alphabet (α : Type) where
  marks : List (Char × Nat)
  ofCode? : Nat → Option α
  ofChar? : Char → Option α

def Alphabet.chars : Alphabet Char where
  marks := stringMarks
  ofCode? n := if n.isValidChar then some (Char.ofNat n) else none
  ofChar? := some

def Alphabet.bytes : Alphabet UInt8 where
  marks := byteMarks
  ofCode? n := if n < 256 then some (UInt8.ofNat n) else none
  ofChar? := byteOfChar?

/-- Reads more digits of a hexadecimal number. -/
def readHex (digits number : Nat) : Scan Nat := fun cs =>
  if digits ≤ cs.length then
    ((cs.take digits).foldlM (fun n c => (Text.hexValue? c).map (16 * n + ·))
      number).map
      fun n => (n, cs.drop digits)
  else none

/-- Reads what follows a backslash. -/
def Alphabet.readEscaped (A : Alphabet α) : Scan α
  | [] => none
  | e :: cs =>
    match A.marks.lookup e with
    | some digits =>
      (readHex digits 0 cs).bind fun p => (A.ofCode? p.1).map fun a => (a, p.2)
    | none => (A.ofChar? (simpleEscape e)).map fun a => (a, cs)

/-- Reads on after the first character of a plain or escaped one. -/
def Alphabet.readLetter (A : Alphabet α) (c : Char) : Scan α := fun cs =>
  if c = '\\' then A.readEscaped cs else (A.ofChar? c).map fun a => (a, cs)

/-- The reader goes through quoted text one plain or escaped character at a
time, up to the closing quote. -/
structure ReadsQuoted (A : Alphabet α) (quote : Char) (f : Scan (List α)) :
    Prop where
  nil : f [] = none
  close (cs : List Char) : f (quote :: cs) = some ([], cs)
  plain {c : Char} (cs : List Char) (hslash : c ≠ '\\') (hquote : c ≠ quote) :
    f (c :: cs) = prepend (A.ofChar? c) (f cs)
  slash : f ['\\'] = none
  code {mark : Char} {width : Nat} {ds : List Char}
    (hmark : (mark, width) ∈ A.marks)
    (hlength : ds.length = width) (cs : List Char) :
    f ('\\' :: mark :: (ds ++ cs)) =
      prepend ((Text.hexNumber? ds).bind A.ofCode?) (f cs)
  cut {mark : Char} {width : Nat} {ds : List Char}
    (hmark : (mark, width) ∈ A.marks)
    (hlength : ds.length < width) : f ('\\' :: mark :: ds) = none
  unmarked {e : Char} (cs : List Char) (h : A.marks.lookup e = none) :
    f ('\\' :: e :: cs) = prepend (A.ofChar? (simpleEscape e)) (f cs)

theorem prepend_eq_bind (a? : Option α) (f : Scan (List α)) (cs : List Char) :
    prepend a? (f cs) =
      (a?.map fun a => (a, cs)).bind fun p =>
        (f p.2).map (Prod.map (p.1 :: ·) id) := by
  cases a? with
  | none => rfl
  | some a =>
      rw [Option.map_some, Option.bind_some, Option.map_eq_bind]
      rfl

theorem mem_of_lookup_eq_some {marks : List (Char × Nat)} {e : Char}
    {digits : Nat} (h : marks.lookup e = some digits) :
    (e, digits) ∈ marks := by
  obtain ⟨before, after, hmarks, _⟩ := List.lookup_eq_some_iff.mp h
  rw [hmarks]
  exact List.mem_append_right before List.mem_cons_self

theorem ReadsQuoted.escape {A : Alphabet α} {quote : Char} {f : Scan (List α)}
    (h : ReadsQuoted A quote f) (cs : List Char) :
    f ('\\' :: cs) =
      (A.readEscaped cs).bind fun p =>
        (f p.2).map (Prod.map (p.1 :: ·) id) := by
  cases cs with
  | nil => exact h.slash
  | cons e cs =>
      rw [Alphabet.readEscaped]
      cases hmark : A.marks.lookup e with
      | none =>
          rw [h.unmarked cs hmark]
          exact prepend_eq_bind _ f cs
      | some digits =>
          have hmem : (e, digits) ∈ A.marks := mem_of_lookup_eq_some hmark
          dsimp only
          by_cases hlength : digits ≤ cs.length
          · have htake : (cs.take digits).length = digits :=
              List.length_take_of_le hlength
            have hcode := h.code hmem htake (cs.drop digits)
            rw [List.take_append_drop] at hcode
            rw [hcode, readHex, if_pos hlength, ← Text.hexNumber?]
            cases Text.hexNumber? (cs.take digits) with
            | none => rfl
            | some n => exact prepend_eq_bind _ f (cs.drop digits)
          · rw [h.cut hmem (Nat.lt_of_not_le hlength), readHex, if_neg hlength]
            rfl

theorem ReadsQuoted.cons {A : Alphabet α} {quote c : Char} {f : Scan (List α)}
    (h : ReadsQuoted A quote f) (hc : c ≠ quote) (cs : List Char) :
    f (c :: cs) = (A.readLetter c cs).bind fun p =>
      (f p.2).map (Prod.map (p.1 :: ·) id) := by
  rw [Alphabet.readLetter]
  by_cases hslash : c = '\\'
  · rw [if_pos hslash, hslash]
    exact h.escape cs
  · rw [if_neg hslash, h.plain cs hslash hc]
    exact prepend_eq_bind _ f cs

theorem readQuoted_code_of_length_lt {quote mark : Char} {width : Nat}
    {ds : List Char} (hmark : (mark, width) ∈ stringMarks)
    (hlength : ds.length < width) :
    readQuoted quote ('\\' :: mark :: ds) = none := by
  simp only [stringMarks, List.mem_cons, Prod.mk.injEq, List.not_mem_nil,
    or_false] at hmark
  rw [readQuoted.eq_def]
  rcases hmark with ⟨rfl, rfl⟩ | ⟨rfl, rfl⟩ | ⟨rfl, rfl⟩
  all_goals
    split <;> simp_all <;> grind

theorem readQuoted_unmarked {quote e : Char} (cs : List Char)
    (h : stringMarks.lookup e = none) :
    readQuoted quote ('\\' :: e :: cs) =
      prepend (some (simpleEscape e)) (readQuoted quote cs) := by
  have hne : ¬ (e = 'x' ∨ e = 'u' ∨ e = 'U') := by
    simpa [stringMarks, List.lookup_eq_none_iff] using h
  rw [readQuoted.eq_def]
  split <;> grind

theorem readsQuoted_readQuoted {quote : Char} (hquote : isQuote quote = true) :
    ReadsQuoted Alphabet.chars quote (readQuoted quote) where
  nil := rfl
  close cs := readQuoted_flatten hquote List.Forall₂.nil cs
  plain cs hslash hne := readQuoted_plain cs hslash hne
  slash := rfl
  code hmark hlength cs := readQuoted_code hmark hlength cs
  cut hmark hlength := readQuoted_code_of_length_lt hmark hlength
  unmarked cs h := readQuoted_unmarked cs h

theorem readQuotedBytes_code_of_length_lt {quote mark : Char} {width : Nat}
    {ds : List Char} (hmark : (mark, width) ∈ byteMarks)
    (hlength : ds.length < width) :
    readQuotedBytes quote ('\\' :: mark :: ds) = none := by
  obtain ⟨rfl, rfl⟩ : mark = 'x' ∧ width = 2 := by simpa [byteMarks] using hmark
  rw [readQuotedBytes.eq_def]
  split <;> simp_all <;> grind

theorem readQuotedBytes_unmarked {quote e : Char} (cs : List Char)
    (h : byteMarks.lookup e = none) :
    readQuotedBytes quote ('\\' :: e :: cs) =
      prepend (byteOfChar? (simpleEscape e)) (readQuotedBytes quote cs) := by
  have hne : e ≠ 'x' := by
    simpa [byteMarks, List.lookup_eq_none_iff] using h
  rw [readQuotedBytes.eq_def]
  split <;> grind

theorem hexValue?_lt {c : Char} {d : Nat} (h : Text.hexValue? c = some d) :
    d < 16 := by
  have hle (last : Char) (hc : c.val ≤ last.val) : c.toNat ≤ last.toNat :=
    UInt32.le_iff_toNat_le.mp hc
  unfold Text.hexValue? at h
  split_ifs at h with hdigit hlower hupper
  · have := hle '9' (by simpa using (Bool.and_eq_true_iff.mp hdigit).2)
    grind
  · have := hle 'f' (of_decide_eq_true (Bool.and_eq_true_iff.mp hlower).2)
    grind
  · have := hle 'F' (of_decide_eq_true (Bool.and_eq_true_iff.mp hupper).2)
    grind

/-- The digits of a hexadecimal number bound it. -/
theorem hexDigits_lt {ds : List Char} {m n : Nat}
    (h : ds.foldlM (fun n c => (Text.hexValue? c).map (16 * n + ·)) m =
      some n) :
    n < (m + 1) * 16 ^ ds.length := by
  induction ds generalizing m with
  | nil =>
      obtain rfl : m = n := by simpa using h
      simp
  | cons c ds ih =>
      rw [List.foldlM_cons] at h
      obtain ⟨k, hk, htail⟩ := Option.bind_eq_some_iff.mp h
      obtain ⟨d, hd, rfl⟩ := Option.map_eq_some_iff.mp hk
      have hdigit := hexValue?_lt hd
      calc n < (16 * m + d + 1) * 16 ^ ds.length := ih htail
        _ ≤ ((m + 1) * 16) * 16 ^ ds.length := Nat.mul_le_mul_right _ (by omega)
        _ = (m + 1) * 16 ^ (c :: ds).length := by
          rw [List.length_cons, Nat.pow_succ, Nat.mul_assoc, Nat.mul_comm 16]

theorem readsQuoted_readQuotedBytes {quote : Char}
    (hquote : isQuote quote = true) :
    ReadsQuoted Alphabet.bytes quote (readQuotedBytes quote) where
  nil := rfl
  close cs := readQuotedBytes_flatten hquote List.Forall₂.nil cs
  plain cs hslash hne := readQuotedBytes_plain cs hslash hne
  slash := rfl
  code {mark width ds} hmark hlength cs := by
    rw [readQuotedBytes_code hmark hlength]
    obtain ⟨rfl, rfl⟩ : mark = 'x' ∧ width = 2 := by
      simpa [Alphabet.bytes, byteMarks] using hmark
    cases hnumber : Text.hexNumber? ds with
    | none => rfl
    | some n =>
        have hlt : n < 256 := by
          have hbound := hexDigits_lt hnumber
          rwa [hlength] at hbound
        have hcode : Alphabet.bytes.ofCode? n = some (UInt8.ofNat n) :=
          if_pos hlt
        rw [Option.map_some, Option.bind_some, hcode]
  cut hmark hlength := readQuotedBytes_code_of_length_lt hmark hlength
  unmarked cs h := readQuotedBytes_unmarked cs h

end Value
end Concord
