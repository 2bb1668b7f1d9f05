import Concord.Proofs.Text.Blank
import Concord.Proofs.Value.Number
import Concord.Proofs.Value.Quoted

/-!
# Written forms of values

`Written n v t` says that `t` is a written form of the value `v` in which
values are nested `n` deep. Leaves are written as their literals; complex
numbers, strings and bytes may be written otherwise as well. The empty set,
frozen sets and byte arrays are written as calls. White space may stand around
items, keys and values, and a comma after the last item.
-/

namespace Concord
namespace Value

/-! ## The grammar -/

/-- White space only. -/
def Blank (w : List Char) : Prop :=
  ∀ c ∈ w, Text.isBlank c = true

theorem blank_nil : Blank [] :=
  List.forall_mem_nil _

theorem blank_space : Blank [' '] :=
  List.forall_mem_singleton.mpr rfl

/-- Items after an opening bracket, up to the closing one. `R` relates the
values one level further in to their texts. -/
inductive ItemsText (R : Nat → Value → List Char → Prop) (close : Char) :
    Nat → List Value → List Char → Prop where
  | nil {w : List Char} (hw : Blank w) : ItemsText R close 0 [] (w ++ [close])
  | last {n : Nat} {v : Value} {w t w' : List Char}
      (hw : Blank w) (ht : R n v t) (hw' : Blank w') :
      ItemsText R close n [v] (w ++ (t ++ (w' ++ [close])))
  | cons {n m : Nat} {v : Value} {vs : List Value} {w t w' u : List Char}
      (hw : Blank w) (ht : R n v t) (hw' : Blank w')
      (hu : ItemsText R close m vs u) :
      ItemsText R close (max n m) (v :: vs) (w ++ (t ++ (w' ++ ',' :: u)))

/-- A key, a colon and a value. -/
inductive EntryText (R : Nat → Value → List Char → Prop) :
    Nat → Value × Value → List Char → Prop where
  | mk {n m : Nat} {k v : Value} {w kt w' w'' vt : List Char}
      (hw : Blank w) (hk : R n k kt) (hw' : Blank w')
      (hw'' : Blank w'') (hv : R m v vt) :
      EntryText R (max n m) (k, v) (w ++ (kt ++ (w' ++ ':' :: (w'' ++ vt))))

/-- What follows an entry of a dictionary, up to the closing brace. -/
inductive MoreEntriesText (R : Nat → Value → List Char → Prop) :
    Nat → List (Value × Value) → List Char → Prop where
  | close {w : List Char} (hw : Blank w) : MoreEntriesText R 0 [] (w ++ ['}'])
  | comma {w w' : List Char} (hw : Blank w) (hw' : Blank w') :
      MoreEntriesText R 0 [] (w ++ ',' :: (w' ++ ['}']))
  | cons {n m : Nat} {e : Value × Value} {es : List (Value × Value)}
      {w t u : List Char}
      (hw : Blank w) (he : EntryText R n e t) (hu : MoreEntriesText R m es u) :
      MoreEntriesText R (max n m) (e :: es) (w ++ ',' :: (t ++ u))

/-- The value has no values inside. -/
def IsLeaf : Value → Prop
  | .null | .notImplemented | .ellipsis | .bool _ | .int _ | .float _
  | .complex _ _ | .str _ | .bytes _ => True
  | _ => False

/-- How deeply values are nested in the literal of a leaf: a complex number with
a real part stands in parentheses around it. -/
def leafNesting : Value → Nat
  | .complex re _ => if re = Binary64.zero then 1 else 2
  | _ => 1

/-- A name, which may be the callee of a call. -/
structure IsName (name : List Char) : Prop where
  starts : ∃ c cs, name = c :: cs ∧ startsName c = true
  continues : ∀ c ∈ name, continuesName c = true

/-- The call denotes the empty set, a frozen set or a byte array. -/
def DenotesContainer (callee : List Char) (args : List Value) : Prop :=
  callee = "set".toList ∧ args = [] ∨
    callee = "frozenset".toList ∧ (args = [] ∨ ∃ items, args = [.set items]) ∨
    callee = "bytearray".toList ∧ (args = [] ∨ ∃ bs, args = [.bytes bs])

/-- The text is a written form of the value, with values nested `n` deep. -/
inductive Written : Nat → Value → List Char → Prop where
  | leaf {v : Value} {t : List Char}
      (hleaf : IsLeaf v) (ht : literalText? v = some t) :
      Written (leafNesting v) v t
  | complex {n : Nat} {re im : Binary64} {t : List Char}
      (h : ComplexText n re im t) : Written n (.complex re im) t
  | string {cs t : List Char} (h : StringText cs t) :
      Written 1 (.str (String.ofList cs)) t
  | bytes {bs : List UInt8} {t : List Char} (h : BytesText bs t) :
      Written 1 (.bytes bs) t
  | list {n : Nat} {vs : List Value} {t : List Char}
      (h : ItemsText Written ']' n vs t) : Written (n + 1) (.list vs) ('[' :: t)
  | emptyTuple {w : List Char} (hw : Blank w) :
      Written 1 (.tuple []) ('(' :: (w ++ [')']))
  | tuple {n m : Nat} {v : Value} {vs : List Value} {w t w' u : List Char}
      (hw : Blank w) (ht : Written n v t) (hw' : Blank w')
      (hu : ItemsText Written ')' m vs u) :
      Written (max n m + 1) (.tuple (v :: vs))
        ('(' :: (w ++ (t ++ (w' ++ ',' :: u))))
  | set {n : Nat} {v : Value} {vs : List Value} {t : List Char}
      (h : ItemsText Written '}' n (v :: vs) t) :
      Written (n + 1) (.set (v :: vs)) ('{' :: t)
  | emptyDict {w : List Char} (hw : Blank w) :
      Written 1 (.dict []) ('{' :: (w ++ ['}']))
  | dict {n m : Nat} {e : Value × Value} {es : List (Value × Value)}
      {t u : List Char}
      (he : EntryText Written n e t) (hu : MoreEntriesText Written m es u) :
      Written (max n m + 1) (.dict (e :: es)) ('{' :: (t ++ u))
  | emptySet {w : List Char} (hw : Blank w) :
      Written 1 (.set []) ("set".toList ++ '(' :: (w ++ [')']))
  | emptyFrozenSet {w : List Char} (hw : Blank w) :
      Written 1 (.frozenSet []) ("frozenset".toList ++ '(' :: (w ++ [')']))
  | frozenSet {n : Nat} {items : List Value} {t : List Char}
      (h : ItemsText Written ')' n [.set items] t) :
      Written (n + 1) (.frozenSet items) ("frozenset".toList ++ '(' :: t)
  | emptyByteArray {w : List Char} (hw : Blank w) :
      Written 1 (.byteArray []) ("bytearray".toList ++ '(' :: (w ++ [')']))
  | byteArray {n : Nat} {bs : List UInt8} {t : List Char}
      (h : ItemsText Written ')' n [.bytes bs] t) :
      Written (n + 1) (.byteArray bs) ("bytearray".toList ++ '(' :: t)
  | call {n : Nat} {callee : List Char} {args : List Value} {t : List Char}
      (hname : IsName callee) (hcall : ¬DenotesContainer callee args)
      (h : ItemsText Written ')' n args t) :
      Written (n + 1) (.call (String.ofList callee) args) (callee ++ '(' :: t)

/-! ## What follows a written form -/

/-- White space, a comma, a colon or a closing bracket. -/
def IsDelimiter (c : Char) : Prop :=
  Text.isBlank c = true ∨ c ∈ [',', ':', ']', ')', '}']

/-- The text is empty or starts with a delimiter. -/
def Delimited (rest : List Char) : Prop :=
  ∀ c, rest.head? = some c → IsDelimiter c

/-- The marks that end a value, and those that open one that is not a name. -/
def punctuation : List Char :=
  [',', ':', ']', ')', '}'] ++ ['[', '(', '{', '<', '\'', '"', '-', '+']

/-- A name goes on neither with white space nor with punctuation. -/
theorem not_continuesName {c : Char}
    (h : Text.isBlank c = true ∨ c ∈ punctuation) :
    continuesName c = false := by
  have hnone : (Text.members Text.blankRanges ++ punctuation).any
      continuesName = false := by
    decide +kernel
  refine Text.eq_false_of_mem hnone (List.mem_append.mpr ?_)
  exact h.imp_left Text.mem_members

theorem IsDelimiter.not_continuesName {c : Char} (h : IsDelimiter c) :
    continuesName c = false :=
  Value.not_continuesName (h.imp_right (List.mem_append_left _))

theorem not_isDigit_of_isBlank {c : Char} (h : Text.isBlank c = true) :
    c.isDigit = false :=
  Text.eq_false_of_isBlank (by decide) h

theorem IsDelimiter.not_isDigit {c : Char} (h : IsDelimiter c) :
    c.isDigit = false := by
  rcases h with hblank | hmem
  · exact not_isDigit_of_isBlank hblank
  · exact Text.eq_false_of_mem (by decide) hmem

theorem IsDelimiter.ne {c d : Char} (h : IsDelimiter c)
    (hblank : Text.isBlank d = false) (hmem : d ∉ [',', ':', ']', ')', '}']) :
    c ≠ d := by
  rintro rfl
  rcases h with h | h
  · exact Bool.false_ne_true (hblank.symm.trans h)
  · exact hmem h

theorem Delimited.endsNumber {rest : List Char} (h : Delimited rest) :
    EndsNumber rest := by
  refine ⟨fun c hc => ⟨?_, ?_, ?_⟩, fun c hc => ⟨?_, ?_⟩⟩
  · exact (h c hc).not_isDigit
  · exact (h c hc).ne rfl (by decide)
  · have he : c ≠ 'e' := (h c hc).ne rfl (by decide)
    have hE : c ≠ 'E' := (h c hc).ne rfl (by decide)
    simp [isExponentMark, he, hE]
  · exact (h c hc).ne rfl (by decide)
  · exact (h c hc).ne rfl (by decide)

theorem delimited_append_cons {w : List Char} (hw : Blank w) {c : Char}
    (hc : c ∈ [',', ':', ']', ')', '}']) (rest : List Char) :
    Delimited (w ++ c :: rest) := by
  intro d hd
  cases w with
  | nil =>
      rw [List.nil_append, List.head?_cons, Option.some.injEq] at hd
      exact Or.inr (hd ▸ hc)
  | cons b w =>
      rw [List.cons_append, List.head?_cons, Option.some.injEq] at hd
      exact Or.inl (hd ▸ hw b (by simp))

/-! ## How a written form starts -/

/-- The text starts with a character that is neither white space nor a closing
bracket. -/
def StartsValue (t : List Char) : Prop :=
  ∃ c cs, t = c :: cs ∧ Text.isBlank c = false ∧ c ∉ [']', ')', '}']

theorem closing_mem_delimiters {close : Char}
    (hclose : close ∈ [']', ')', '}']) : close ∈ [',', ':', ']', ')', '}'] :=
  List.mem_cons_of_mem _ (List.mem_cons_of_mem _ hclose)

theorem startsValue_cons {c : Char} (hblank : Text.isBlank c = false)
    (hclose : c ∉ [']', ')', '}']) (cs : List Char) : StartsValue (c :: cs) :=
  ⟨c, cs, rfl, hblank, hclose⟩

theorem StartsValue.append {t : List Char} (h : StartsValue t) (u : List Char) :
    StartsValue (t ++ u) := by
  obtain ⟨c, cs, rfl, hblank, hclose⟩ := h
  exact startsValue_cons hblank hclose (cs ++ u)

theorem StartsValue.skipBlanks {t : List Char} (h : StartsValue t) :
    Text.skipBlanks t = t := by
  obtain ⟨c, cs, rfl, hblank, -⟩ := h
  exact Text.skipBlanks_cons hblank cs

theorem not_isBlank_of_isDigit {c : Char} (h : c.isDigit = true) :
    Text.isBlank c = false := by
  by_contra hblank
  have := not_isDigit_of_isBlank (Bool.not_eq_false _ ▸ hblank)
  exact Bool.false_ne_true (this.symm.trans h)

theorem startsValue_of_isDigit {c : Char} (h : c.isDigit = true)
    (cs : List Char) : StartsValue (c :: cs) := by
  refine startsValue_cons (not_isBlank_of_isDigit h) ?_ cs
  intro hmem
  have hclose : c.isDigit = false := Text.eq_false_of_mem (by decide) hmem
  exact Bool.false_ne_true (hclose.symm.trans h)

theorem startsValue_sign_text {sign : List Char} (hsign : IsSignText sign)
    (T : NumberToken) : StartsValue (sign ++ T.text) := by
  rcases hsign with rfl | rfl | rfl
  · cases T with
    | numeral n =>
        obtain ⟨c, cs, htext, hc⟩ := n.exists_text_cons
        rw [List.nil_append, NumberToken.text, htext]
        exact startsValue_of_isDigit hc cs
    | inf | nan => exact startsValue_cons rfl (by decide) _
  · exact startsValue_cons rfl (by decide) _
  · exact startsValue_cons rfl (by decide) _

theorem continuesName_of_startsName {c : Char} (h : startsName c = true) :
    continuesName c = true := by
  rw [startsName, Bool.or_eq_true] at h
  rcases h with h | h
  · rw [Text.isLetter] at h
    simp only [continuesName, Text.isLetterOrNumeral, h, Bool.true_or,
      Bool.or_true]
  · simp only [continuesName, h, Bool.true_or]

theorem not_blank_or_punctuation_of_startsName {c : Char}
    (h : startsName c = true) : ¬(Text.isBlank c = true ∨ c ∈ punctuation) := by
  intro hc
  exact Bool.false_ne_true
    ((not_continuesName hc).symm.trans (continuesName_of_startsName h))

theorem startsValue_of_startsName {c : Char} (h : startsName c = true)
    (cs : List Char) : StartsValue (c :: cs) := by
  obtain ⟨hblank, hmem⟩ := not_or.mp (not_blank_or_punctuation_of_startsName h)
  refine startsValue_cons (Bool.eq_false_of_not_eq_true hblank)
    (fun hclose => ?_) cs
  exact hmem (List.mem_append_left _ (closing_mem_delimiters hclose))

theorem ComplexText.startsValue {n : Nat} {re im : Binary64} {t : List Char}
    (h : ComplexText n re im t) : StartsValue t := by
  cases h with
  | imaginary _ =>
      rw [← List.append_assoc]
      exact (startsValue_sign_text (Binary64.isSignText_signText _) _).append _
  | parts _ => exact startsValue_cons rfl (by decide) _

theorem StringText.startsValue {cs t : List Char} (h : StringText cs t) :
    StartsValue t := by
  cases h with
  | mk hquote _ =>
      rcases isQuote_iff.mp hquote with rfl | rfl
      · exact startsValue_cons rfl (by decide) _
      · exact startsValue_cons rfl (by decide) _

theorem BytesText.startsValue {bs : List UInt8} {t : List Char}
    (h : BytesText bs t) : StartsValue t := by
  cases h with
  | mk _ _ => exact startsValue_cons rfl (by decide) _

theorem startsValue_leaf {v : Value} {t : List Char} (hleaf : IsLeaf v)
    (ht : literalText? v = some t) : StartsValue t := by
  cases v with
  | null | notImplemented | ellipsis =>
      obtain rfl := Option.some.inj ht
      exact startsValue_cons rfl (by decide) _
  | bool b =>
      cases b with
      | true | false =>
          obtain rfl := Option.some.inj ht
          exact startsValue_cons rfl (by decide) _
  | int n =>
      obtain rfl := Option.some.inj ht
      rw [intText_eq, ← Numeral.text_ofNat]
      exact startsValue_sign_text (Binary64.isSignText_signText _) (.numeral _)
  | float x =>
      obtain ⟨T, rfl, -, -, -⟩ := exists_token_of_render? ht
      exact startsValue_sign_text (Binary64.isSignText_signText _) T
  | complex re im => exact (complexText_of_complexText? ht).startsValue
  | str s =>
      obtain rfl := Option.some.inj ht
      exact (stringText_quoteString _).startsValue
  | bytes bs =>
      obtain rfl := Option.some.inj ht
      exact (bytesText_quoteBytes bs).startsValue
  | byteArray _ | list _ | tuple _ | set _ | frozenSet _ | dict _ | call _ _
  | verbatim _ => exact hleaf.elim

theorem Written.startsValue {n : Nat} {v : Value} {t : List Char}
    (h : Written n v t) : StartsValue t := by
  cases h with
  | leaf hleaf ht => exact startsValue_leaf hleaf ht
  | complex h => exact h.startsValue
  | string h => exact h.startsValue
  | bytes h => exact h.startsValue
  | call hname _ _ =>
      obtain ⟨c, cs, rfl, hc⟩ := hname.starts
      exact startsValue_of_startsName hc _
  | _ => exact startsValue_cons rfl (by decide) _

/-! ## How a written form ends -/

/-- The text ends with a character that is not white space. -/
def EndsSolid (t : List Char) : Prop :=
  ∃ cs c, t = cs ++ [c] ∧ Text.isBlank c = false

theorem endsSolid_append_singleton {c : Char} (hc : Text.isBlank c = false)
    (t : List Char) : EndsSolid (t ++ [c]) :=
  ⟨t, c, rfl, hc⟩

theorem EndsSolid.append {t : List Char} (h : EndsSolid t) (u : List Char) :
    EndsSolid (u ++ t) := by
  obtain ⟨cs, c, rfl, hc⟩ := h
  exact ⟨u ++ cs, c, (List.append_assoc _ _ _).symm, hc⟩

theorem EndsSolid.cons {t : List Char} (h : EndsSolid t) (c : Char) :
    EndsSolid (c :: t) :=
  h.append [c]

theorem endsSolid_of_any {t : List Char} (hne : t ≠ [])
    (h : t.any Text.isBlank = false) : EndsSolid t :=
  ⟨t.dropLast, t.getLast hne, (List.dropLast_append_getLast hne).symm,
    Text.eq_false_of_mem h (List.getLast_mem hne)⟩

theorem not_isBlank_of_mem_text (n : Numeral) :
    ∀ c ∈ n.text, Text.isBlank c = false := by
  intro c hc
  rcases Numeral.isDigit_or_mem_of_mem_text hc with hdigit | hmark
  · exact not_isBlank_of_isDigit hdigit
  · exact Text.eq_false_of_mem (by decide) hmark

theorem endsSolid_text (n : Numeral) : EndsSolid n.text := by
  refine endsSolid_of_any (text_ne_nil n) (List.any_eq_false.mpr fun c hc => ?_)
  exact Bool.eq_false_iff.mp (not_isBlank_of_mem_text n c hc)

theorem ComplexText.endsSolid {n : Nat} {re im : Binary64} {t : List Char}
    (h : ComplexText n re im t) : EndsSolid t := by
  cases h with
  | imaginary _ => exact ((endsSolid_append_singleton rfl []).append _).append _
  | parts _ =>
      have hclose : EndsSolid ['j', ')'] := endsSolid_append_singleton rfl ['j']
      exact ((((hclose.append _).cons _).append _).append _).cons '('

theorem not_isBlank_of_isQuote {c : Char} (h : isQuote c = true) :
    Text.isBlank c = false := by
  rcases isQuote_iff.mp h with rfl | rfl
  · rfl
  · rfl

theorem StringText.endsSolid {cs t : List Char} (h : StringText cs t) :
    EndsSolid t := by
  cases h with
  | mk hquote _ =>
      have hsolid := not_isBlank_of_isQuote hquote
      exact (endsSolid_append_singleton hsolid _).cons _

theorem BytesText.endsSolid {bs : List UInt8} {t : List Char}
    (h : BytesText bs t) : EndsSolid t := by
  cases h with
  | mk hquote _ =>
      have hend := endsSolid_append_singleton (not_isBlank_of_isQuote hquote)
      exact ((hend _).cons _).cons _

theorem endsSolid_leaf {v : Value} {t : List Char} (hleaf : IsLeaf v)
    (ht : literalText? v = some t) : EndsSolid t := by
  cases v with
  | null | notImplemented | ellipsis =>
      obtain rfl := Option.some.inj ht
      exact endsSolid_of_any (by decide) (by decide)
  | bool b =>
      cases b with
      | true | false =>
          obtain rfl := Option.some.inj ht
          exact endsSolid_of_any (by decide) (by decide)
  | int n =>
      obtain rfl := Option.some.inj ht
      rw [intText_eq, ← Numeral.text_ofNat]
      exact (endsSolid_text _).append _
  | float x =>
      obtain ⟨n, rfl, -, -⟩ := Binary64.exists_numeral_of_render? ht
      exact (endsSolid_text n).append _
  | complex re im => exact (complexText_of_complexText? ht).endsSolid
  | str s =>
      obtain rfl := Option.some.inj ht
      exact (stringText_quoteString _).endsSolid
  | bytes bs =>
      obtain rfl := Option.some.inj ht
      exact (bytesText_quoteBytes bs).endsSolid
  | byteArray _ | list _ | tuple _ | set _ | frozenSet _ | dict _ | call _ _
  | verbatim _ => exact hleaf.elim

theorem ItemsText.endsSolid {R : Nat → Value → List Char → Prop} {close : Char}
    (hclose : Text.isBlank close = false) {n : Nat} {vs : List Value}
    {t : List Char} (h : ItemsText R close n vs t) : EndsSolid t := by
  have hend : EndsSolid [close] := endsSolid_append_singleton hclose []
  induction h with
  | nil _ => exact hend.append _
  | last _ _ _ => exact ((hend.append _).append _).append _
  | cons _ _ _ _ ih => exact (((ih.cons _).append _).append _).append _

theorem MoreEntriesText.endsSolid {R : Nat → Value → List Char → Prop} {n : Nat}
    {es : List (Value × Value)} {t : List Char} (h : MoreEntriesText R n es t) :
    EndsSolid t := by
  have hend : EndsSolid ['}'] := endsSolid_append_singleton rfl []
  induction h with
  | close _ => exact hend.append _
  | comma _ _ => exact ((hend.append _).cons _).append _
  | cons _ _ _ ih => exact ((ih.append _).cons _).append _

theorem Written.endsSolid {n : Nat} {v : Value} {t : List Char}
    (h : Written n v t) : EndsSolid t := by
  cases h with
  | leaf hleaf ht => exact endsSolid_leaf hleaf ht
  | complex h => exact h.endsSolid
  | string h => exact h.endsSolid
  | bytes h => exact h.endsSolid
  | list h => exact (h.endsSolid rfl).cons _
  | emptyTuple _ => exact (endsSolid_append_singleton rfl _).cons _
  | tuple _ _ _ hu =>
      exact (((((hu.endsSolid rfl).cons _).append _).append _).append _).cons _
  | set h => exact (h.endsSolid rfl).cons _
  | emptyDict _ => exact (endsSolid_append_singleton rfl _).cons _
  | dict _ hu => exact (hu.endsSolid.append _).cons _
  | emptySet _ | emptyFrozenSet _ | emptyByteArray _ =>
      exact ((endsSolid_append_singleton rfl _).cons _).append _
  | frozenSet h | byteArray h | call _ _ h =>
      exact ((h.endsSolid rfl).cons _).append _

/-- A written form is left as it is when white space around it is trimmed. -/
theorem Written.trimBlanks {n : Nat} {v : Value} {t : List Char}
    (h : Written n v t) : Text.trimBlanks t = t := by
  obtain ⟨c, cs, rfl, hc, -⟩ := h.startsValue
  obtain ⟨ds, d, heq, hd⟩ := h.endsSolid
  exact Text.trimBlanks_eq_self hc hd heq

end Value
end Concord
