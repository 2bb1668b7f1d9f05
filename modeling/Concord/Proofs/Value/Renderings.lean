import Concord.Proofs.Verdict

/-!
# Values under any layout

A value without verbatim text whose numbers are finite has written forms. All
of them are read as that value, however white space, trailing commas and the
forms of calls are chosen, unless values are nested too deeply in them. Texts
that spell strings or bytes agree exactly when they spell the same.
-/

namespace Concord
namespace Value

/-! ## Values that can be written -/

/-- The value can be written if its children can: a number is finite, and a call
has a name and denotes nothing but itself. -/
def CanBeWritten : Value → Prop
  | .float x => x.isFinite = true
  | .complex re im => re.isFinite = true ∧ im.isFinite = true
  | .call callee args =>
    IsName callee.toList ∧ ¬DenotesContainer callee.toList args
  | .verbatim _ => False
  | _ => True

/-- The value and all values inside it can be written. -/
inductive Writable : Value → Prop where
  | intro {v : Value} (self : CanBeWritten v)
      (children : ∀ u ∈ v.children, Writable u) : Writable v

theorem exists_render? (layout : Layout) {x : Binary64}
    (h : x.isFinite = true) : ∃ t, layout.render? x = some t := by
  cases x with
  | finite negative e f => exact ⟨_, rfl⟩
  | nan | infinite _ => exact absurd h Bool.false_ne_true

theorem exists_complexText? {re im : Binary64} (hre : re.isFinite = true)
    (him : im.isFinite = true) : ∃ t, complexText? re im = some t := by
  have habs : im.abs.isFinite = true := by
    cases im with
    | finite _ _ _ => rfl
    | nan | infinite _ => exact him
  obtain ⟨r, hr⟩ := exists_render? Layout.literal hre
  obtain ⟨i, hi⟩ := exists_render? Layout.literal him
  obtain ⟨a, ha⟩ := exists_render? Layout.literal habs
  rw [complexText?]
  split
  · exact ⟨_, by rw [hi, Option.map_some]⟩
  · exact ⟨_, by rw [hr, ha]; rfl⟩

theorem exists_itemsText {close : Char} {vs : List Value}
    (h : ∀ u ∈ vs, ∃ n t, Written n u t) :
    ∃ n t, ItemsText Written close n vs t := by
  induction vs with
  | nil => exact ⟨_, _, .nil blank_nil⟩
  | cons v vs ih =>
      obtain ⟨n, t, ht⟩ := h v (by simp)
      obtain ⟨m, u, hu⟩ := ih fun x hx => h x (by simp [hx])
      exact ⟨_, _, .cons blank_nil ht blank_nil hu⟩

theorem exists_moreEntriesText {es : List (Value × Value)}
    (h : ∀ e ∈ es, ∃ n t, EntryText Written n e t) :
    ∃ n t, MoreEntriesText Written n es t := by
  induction es with
  | nil => exact ⟨_, _, .close blank_nil⟩
  | cons e es ih =>
      obtain ⟨n, t, ht⟩ := h e (by simp)
      obtain ⟨m, u, hu⟩ := ih fun x hx => h x (by simp [hx])
      exact ⟨_, _, .cons blank_nil ht hu⟩

theorem exists_written_tuple {vs : List Value}
    (h : ∀ u ∈ vs, ∃ n t, Written n u t) : ∃ n t, Written n (.tuple vs) t := by
  cases vs with
  | nil => exact ⟨_, _, .emptyTuple blank_nil⟩
  | cons v vs =>
      have hvs : ∀ u ∈ vs, ∃ n t, Written n u t := by
        intro u hu
        exact h u (List.mem_cons_of_mem v hu)
      obtain ⟨n, t, ht⟩ := h v List.mem_cons_self
      obtain ⟨m, u, hu⟩ := exists_itemsText hvs
      exact ⟨_, _, .tuple blank_nil ht blank_nil hu⟩

theorem exists_written_set {vs : List Value}
    (h : ∀ u ∈ vs, ∃ n t, Written n u t) : ∃ n t, Written n (.set vs) t := by
  cases vs with
  | nil => exact ⟨_, _, .emptySet blank_nil⟩
  | cons v vs =>
      obtain ⟨n, t, ht⟩ := exists_itemsText h
      exact ⟨_, _, .set ht⟩

theorem exists_written_dict {es : List (Value × Value)}
    (h : ∀ u ∈ (Value.dict es).children, ∃ n t, Written n u t) :
    ∃ n t, Written n (.dict es) t := by
  have hentry : ∀ e ∈ es, ∃ n t, EntryText Written n e t := by
    intro e he
    obtain ⟨n, kt, hk⟩ := h e.1 (key_mem_children he)
    obtain ⟨m, vt, hv⟩ := h e.2 (value_mem_children he)
    exact ⟨_, _, .mk blank_nil hk blank_nil blank_nil hv⟩
  cases es with
  | nil => exact ⟨_, _, .emptyDict blank_nil⟩
  | cons e es =>
      have hes : ∀ f ∈ es, ∃ n t, EntryText Written n f t := by
        intro f hf
        exact hentry f (List.mem_cons_of_mem e hf)
      obtain ⟨n, t, ht⟩ := hentry e List.mem_cons_self
      obtain ⟨m, u, hu⟩ := exists_moreEntriesText hes
      exact ⟨_, _, .dict ht hu⟩

theorem Writable.exists_written {v : Value} (h : Writable v) :
    ∃ n t, Written n v t := by
  induction h with
  | @intro v self _ ih =>
      cases v with
      | null | notImplemented | ellipsis | int _ | str _ | bytes _ =>
          exact ⟨_, _, .leaf trivial rfl⟩
      | bool b => cases b <;> exact ⟨_, _, .leaf trivial rfl⟩
      | float x =>
          obtain ⟨t, ht⟩ := exists_render? Layout.literal self
          exact ⟨_, t, .leaf trivial ht⟩
      | complex re im =>
          obtain ⟨t, ht⟩ := exists_complexText? self.1 self.2
          exact ⟨_, t, .leaf trivial ht⟩
      | byteArray bs =>
          have hbytes : Written 1 (.bytes bs) _ :=
            .bytes (bytesText_quoteBytes bs)
          exact ⟨_, _, .byteArray (.last blank_nil hbytes blank_nil)⟩
      | list items =>
          obtain ⟨n, t, ht⟩ := exists_itemsText ih
          exact ⟨_, _, .list ht⟩
      | tuple items => exact exists_written_tuple ih
      | set items => exact exists_written_set ih
      | frozenSet items =>
          obtain ⟨n, t, ht⟩ := exists_written_set ih
          exact ⟨_, _, .frozenSet (.last blank_nil ht blank_nil)⟩
      | dict entries => exact exists_written_dict ih
      | call callee args =>
          obtain ⟨n, t, ht⟩ := exists_itemsText ih
          have hcall := Written.call self.1 self.2 ht
          rw [String.ofList_toList] at hcall
          exact ⟨_, _, hcall⟩
      | verbatim _ => exact self.elim

/-! ## Reading -/

theorem Written.trimBlanks_append {n : Nat} {v : Value} {t w w' : List Char}
    (h : Written n v t) (hw : Blank w) (hw' : Blank w') :
    Text.trimBlanks (w ++ (t ++ w')) = t := by
  have hskip : Text.skipBlanks (t ++ w') = t ++ w' :=
    (h.startsValue.append w').skipBlanks
  have hself : Text.dropTrailingBlanks t = t := by
    rw [← h.startsValue.skipBlanks]
    exact h.trimBlanks.trans h.startsValue.skipBlanks.symm
  rw [Text.trimBlanks, Text.skipBlanks_append hw, hskip,
    Text.dropTrailingBlanks_append hw', hself]

/-- White space around a text does not matter. -/
theorem Written.read_append {n : Nat} {v : Value} {t w w' : List Char}
    (h : Written n v t) (hw : Blank w) (hw' : Blank w') :
    read (String.ofList (w ++ (t ++ w'))) = read (String.ofList t) := by
  rw [read, read, String.toList_ofList, String.toList_ofList,
    h.trimBlanks_append hw hw', h.trimBlanks]

/-- Every value that can be written has a written form, and every written form
is read as exactly its value, with any white space around it, if values are
nested in it at most 512 deep; else it is kept verbatim. -/
theorem read_under_every_layout :
    (∀ v, Writable v → ∃ n t, Written n v t) ∧
    ∀ (n : Nat) (v : Value) (t w w' : List Char), Written n v t → Blank w →
      Blank w' →
      read (String.ofList (w ++ (t ++ w'))) =
        if n ≤ 512 then v else .verbatim (String.ofList t) := by
  constructor
  · intro v hv
    exact hv.exists_written
  · intro n v t w w' h hw hw'
    rw [h.read_append hw hw']
    exact h.read_eq

/-- A one-tuple, a frozen set, a call in a dictionary and the empty set, with
blanks and trailing commas in many places. -/
theorem read_under_every_layout_mixed :
    read " [(1 ,),frozenset( \x7b'a', \x7d ),\x7bNone :f.g(...,) , \x7d, set( ) ]\n" =
      .list [.tuple [.int 1], .frozenSet [.str "a"],
        .dict [(.null, .call "f.g" [.ellipsis])], .set []] := by
  have hone : Written 1 (.int 1) ['1'] := .leaf (v := .int 1) trivial rfl
  have hnone : Written 1 .null "None".toList := .leaf (v := .null) trivial rfl
  have hdots : Written 1 .ellipsis "...".toList :=
    .leaf (v := .ellipsis) trivial rfl
  have hletter : Written 1 (.str "a") "'a'".toList :=
    .leaf (v := .str "a") trivial rfl
  have hnewline : Blank ['\n'] := List.forall_mem_singleton.mpr rfl
  have hname : IsName "f.g".toList := isName_of_all (by decide) (by decide)
  have hplain : ¬DenotesContainer "f.g".toList [.ellipsis] := by
    simp [DenotesContainer]
  have htuple := Written.tuple blank_nil hone blank_space (.nil blank_nil)
  have hset :=
    Written.set (.cons blank_nil hletter blank_nil (.nil blank_space))
  have hfrozen := Written.frozenSet (.last blank_space hset blank_space)
  have hcall :=
    Written.call hname hplain (.cons blank_nil hdots blank_nil (.nil blank_nil))
  have hdict := Written.dict (.mk blank_nil hnone blank_space blank_nil hcall)
    (.comma blank_space blank_space)
  have hempty := Written.emptySet blank_space
  have hlist := Written.list (.cons blank_nil htuple blank_nil
    (.cons blank_nil hfrozen blank_nil (.cons blank_nil hdict blank_nil
      (.last blank_space hempty blank_space))))
  exact (read_under_every_layout.2 _ _ _ _ _ hlist blank_space hnewline).trans
    (if_pos (by decide))

/-! ## Spellings -/

theorem read_stringText {cs t : List Char} (h : StringText cs t) :
    read (String.ofList t) = .str (String.ofList cs) :=
  (Written.string h).read_eq_of_le (by decide)

theorem read_bytesText {bs : List UInt8} {t : List Char} (h : BytesText bs t) :
    read (String.ofList t) = .bytes bs :=
  (Written.bytes h).read_eq_of_le (by decide)

theorem compare_stringText {typeName : String} {cs cs' t t' : List Char}
    (h : StringText cs t) (h' : StringText cs' t') :
    (Outcome.value typeName (String.ofList t)).compare
        (Outcome.value typeName (String.ofList t')) = .same ↔ cs = cs' := by
  rw [Outcome.compare_value_eq_same_iff, read_stringText h, read_stringText h',
    Agree, equivalent, beq_iff_eq, String.ofList_inj]
  exact and_iff_right rfl

theorem compare_bytesText {typeName : String} {bs bs' : List UInt8}
    {t t' : List Char} (h : BytesText bs t) (h' : BytesText bs' t') :
    (Outcome.value typeName (String.ofList t)).compare
        (Outcome.value typeName (String.ofList t')) = .same ↔ bs = bs' := by
  rw [Outcome.compare_value_eq_same_iff, read_bytesText h, read_bytesText h',
    Agree, equivalent, beq_iff_eq]
  exact and_iff_right rfl

/-- Strings and bytes are read alike from all their spellings, in quotes of
either kind. So two printed strings of one type agree exactly when they spell
the same characters, and likewise for bytes. -/
theorem read_every_spelling :
    (∀ (quote : Char) (cs : List Char) (ts : List (List Char)),
      isQuote quote = true →
      List.Forall₂ (Spells stringMarks quote) cs ts →
      read (String.ofList (quote :: (ts.flatten ++ [quote]))) =
        .str (String.ofList cs)) ∧
    (∀ (quote : Char) (bs : List UInt8) (ts : List (List Char)),
      isQuote quote = true →
      List.Forall₂ (SpellsByte quote) bs ts →
      read (String.ofList ('b' :: quote :: (ts.flatten ++ [quote]))) =
        .bytes bs) ∧
    (∀ (typeName : String) (cs cs' t t' : List Char), StringText cs t →
      StringText cs' t' →
      ((Outcome.value typeName (String.ofList t)).compare
        (Outcome.value typeName (String.ofList t')) = .same ↔ cs = cs')) ∧
    (∀ (typeName : String) (bs bs' : List UInt8) (t t' : List Char),
      BytesText bs t → BytesText bs' t' →
      ((Outcome.value typeName (String.ofList t)).compare
        (Outcome.value typeName (String.ofList t')) = .same ↔ bs = bs')) := by
  refine ⟨?_, ?_, ?_, ?_⟩
  · intro quote cs ts hquote h
    exact read_stringText (.mk hquote h)
  · intro quote bs ts hquote h
    exact read_bytesText (.mk hquote h)
  · intro typeName cs cs' t t' h h'
    exact compare_stringText h h'
  · intro typeName bs bs' t t' h h'
    exact compare_bytesText h h'

/-- A code before a letter that is a hexadecimal digit itself, an escaped quote,
and a raw line feed. -/
theorem read_every_spelling_mixed :
    read "\"\\x41b\\\"\n\"" = .str "Ab\"\n" ∧
      read "b'\\x41\\'\\0'" = .bytes [65, 39, 0] ∧
      (Outcome.value "str" "\"\\x41b\\\"\n\"").compare
        (Outcome.value "str" "'A\\u0062\\U00000022\\n'") = .same := by
  obtain ⟨hstrings, hbytes, hcompare, -⟩ := read_every_spelling
  have hfirst : List.Forall₂ (Spells stringMarks '"') ['A', 'b', '"', '\n']
      [['\\', 'x', '4', '1'], ['b'], ['\\', '"'], ['\n']] :=
    .cons (.code (by decide : ('x', 2) ∈ stringMarks) (by decide) (by decide))
      (.cons (.plain (by decide) (by decide)) (.cons (.short (by decide))
        (.cons (.plain (by decide) (by decide)) .nil)))
  have hsecond : List.Forall₂ (Spells stringMarks '\'') ['A', 'b', '"', '\n']
      [['A'], ['\\', 'u', '0', '0', '6', '2'],
        ['\\', 'U', '0', '0', '0', '0', '0', '0', '2', '2'], ['\\', 'n']] :=
    .cons (.plain (by decide) (by decide))
      (.cons
        (.code (by decide : ('u', 4) ∈ stringMarks) (by decide) (by decide))
        (.cons
          (.code (by decide : ('U', 8) ∈ stringMarks) (by decide) (by decide))
          (.cons (.short (by decide)) .nil)))
  have hthird : List.Forall₂ (SpellsByte '\'') [65, 39, 0]
      [['\\', 'x', '4', '1'], ['\\', '\''], ['\\', '0']] :=
    .cons (.code (by decide : ('x', 2) ∈ byteMarks) (by decide) (by decide))
      (.cons (.short (by decide)) (.cons (.short (by decide)) .nil))
  have hleft : StringText _ "\"\\x41b\\\"\n\"".toList := .mk rfl hfirst
  have hright : StringText _ "'A\\u0062\\U00000022\\n'".toList :=
    .mk rfl hsecond
  have hstring := hstrings _ _ _ rfl hfirst
  have hbyte := hbytes _ _ _ rfl hthird
  have hsame := (hcompare "str" _ _ _ _ hleft hright).mpr rfl
  rw [String.ofList_toList, String.ofList_toList] at hsame
  exact ⟨hstring, hbyte, hsame⟩

end Value
end Concord
