import Concord.Proofs.Value.Children
import Concord.Proofs.Value.Reading

/-!
# Reading literals back

The literal of a value is a written form of it, nested as deeply as the value.
So it reads back as the value where the reader goes deep enough, and is kept
verbatim where it does not.
-/

namespace Concord
namespace Value

/-! ## The nesting of a literal -/

mutual

/-- How deeply values are nested in the literal of a value. -/
def nesting : Value → Nat
  | .list items | .tuple items | .set items => nestingOfItems items + 1
  | .dict entries => nestingOfEntries entries + 1
  | v => leafNesting v

/-- The deepest nesting among items. -/
def nestingOfItems : List Value → Nat
  | [] => 0
  | v :: vs => max (nesting v) (nestingOfItems vs)

/-- The deepest nesting among keys and values. -/
def nestingOfEntries : List (Value × Value) → Nat
  | [] => 0
  | (k, v) :: es => max (max (nesting k) (nesting v)) (nestingOfEntries es)

end

theorem nesting_of_isLeaf {v : Value} (h : IsLeaf v) :
    nesting v = leafNesting v := by
  cases v <;> first | rfl | exact h.elim

/-! ## Literals are written forms -/

/-- Each literal of `v` is a written form of it. -/
def LiteralWritten (v : Value) : Prop :=
  ∀ t, literalText? v = some t → Written (nesting v) v t

theorem literalWritten_of_isLeaf {v : Value} (h : IsLeaf v) :
    LiteralWritten v := by
  intro t ht
  rw [nesting_of_isLeaf h]
  exact .leaf h ht

theorem joinTexts_cons (t : List Char) (ts : List (List Char)) :
    joinTexts (t :: ts) = t ++ ts.flatMap fun u => ',' :: ' ' :: u := by
  induction ts generalizing t with
  | nil => simp [joinTexts]
  | cons u ts ih =>
      rw [List.flatMap_cons, List.cons_append, List.cons_append, ← ih u]
      simp [joinTexts, List.intercalate]

theorem exists_of_literalTexts?_cons {v : Value} {vs : List Value}
    {ts : List (List Char)} (h : literalTexts? (v :: vs) = some ts) :
    ∃ t ts', literalText? v = some t ∧ literalTexts? vs = some ts' ∧
      ts = t :: ts' := by
  obtain ⟨t, ht, h⟩ := Option.bind_eq_some_iff.mp h
  obtain ⟨ts', hts', h⟩ := Option.bind_eq_some_iff.mp h
  exact ⟨t, ts', ht, hts', (Option.some.inj h).symm⟩

theorem exists_of_entryTexts?_cons {k v : Value} {es : List (Value × Value)}
    {ts : List (List Char)} (h : entryTexts? ((k, v) :: es) = some ts) :
    ∃ kt vt ts', literalText? k = some kt ∧ literalText? v = some vt ∧
      entryTexts? es = some ts' ∧ ts = (kt ++ ':' :: ' ' :: vt) :: ts' := by
  obtain ⟨kt, hkt, h⟩ := Option.bind_eq_some_iff.mp h
  obtain ⟨vt, hvt, h⟩ := Option.bind_eq_some_iff.mp h
  obtain ⟨ts', hts', h⟩ := Option.bind_eq_some_iff.mp h
  exact ⟨kt, vt, ts', hkt, hvt, hts', (Option.some.inj h).symm⟩

theorem itemsText_literalTexts? {close : Char} {v : Value} {vs : List Value}
    {t w : List Char} {ts : List (List Char)} (hv : Written (nesting v) v t)
    (hvs : ∀ u ∈ vs, LiteralWritten u) (hts : literalTexts? vs = some ts)
    (hw : Blank w) :
    ItemsText Written close (nestingOfItems (v :: vs)) (v :: vs)
      (w ++ (joinTexts (t :: ts) ++ [close])) := by
  induction vs generalizing v t w ts with
  | nil =>
      obtain rfl := Option.some.inj hts
      rw [joinTexts_cons, List.flatMap_nil, List.append_nil, nestingOfItems,
        nestingOfItems, Nat.max_zero]
      exact .last hw hv blank_nil
  | cons u vs ih =>
      obtain ⟨t', ts', ht', hts', rfl⟩ := exists_of_literalTexts?_cons hts
      have hu :=
        ih (hvs u (by simp) t' ht') (fun x hx => hvs x (by simp [hx])) hts'
        blank_space
      have hcons := ItemsText.cons hw hv blank_nil hu
      simpa [joinTexts_cons, nestingOfItems] using hcons

theorem moreEntriesText_entryTexts? {es : List (Value × Value)}
    {ts : List (List Char)}
    (hes : ∀ e ∈ es, LiteralWritten e.1 ∧ LiteralWritten e.2)
    (hts : entryTexts? es = some ts) :
    MoreEntriesText Written (nestingOfEntries es) es
      ((ts.flatMap fun u => ',' :: ' ' :: u) ++ ['}']) := by
  induction es generalizing ts with
  | nil =>
      obtain rfl := Option.some.inj hts
      exact .close blank_nil
  | cons e es ih =>
      obtain ⟨kt, vt, ts', hkt, hvt, hts', rfl⟩ :=
        exists_of_entryTexts?_cons hts
      have hkey := (hes e (by simp)).1 kt hkt
      have hvalue := (hes e (by simp)).2 vt hvt
      have hrest := ih (fun x hx => hes x (by simp [hx])) hts'
      have hcons := MoreEntriesText.cons blank_nil
        (EntryText.mk blank_space hkey blank_nil blank_space hvalue) hrest
      simpa [nestingOfEntries] using hcons

theorem literalWritten_tuple {items : List Value}
    (h : ∀ u ∈ items, LiteralWritten u) : LiteralWritten (.tuple items) := by
  intro t ht
  match items, h with
  | [], _ =>
      obtain rfl := Option.some.inj ht
      exact .emptyTuple blank_nil
  | [v], h =>
      obtain ⟨u, hu, rfl⟩ := Option.map_eq_some_iff.mp ht
      exact .tuple blank_nil (h v (by simp) u hu) blank_nil (.nil blank_nil)
  | v :: x :: vs, h =>
      obtain ⟨ts, hts, rfl⟩ := Option.map_eq_some_iff.mp ht
      obtain ⟨u, us, hu, hus, rfl⟩ := exists_of_literalTexts?_cons hts
      obtain ⟨u', ts', hu', hts', rfl⟩ := exists_of_literalTexts?_cons hus
      have hrest : ItemsText Written ')' (nestingOfItems (x :: vs)) (x :: vs)
          ([' '] ++ (joinTexts (u' :: ts') ++ [')'])) :=
        itemsText_literalTexts? (h x (by simp) u' hu')
          (fun y hy => h y (by simp [hy])) hts' blank_space
      have htuple :=
        Written.tuple blank_nil (h v (by simp) u hu) blank_nil hrest
      simpa [joinTexts_cons, nesting, nestingOfItems] using htuple

theorem literalWritten_dict {entries : List (Value × Value)}
    (h : ∀ e ∈ entries, LiteralWritten e.1 ∧ LiteralWritten e.2) :
    LiteralWritten (.dict entries) := by
  intro t ht
  obtain ⟨ts, hts, rfl⟩ := Option.map_eq_some_iff.mp ht
  cases entries with
  | nil =>
      obtain rfl := Option.some.inj hts
      exact .emptyDict blank_nil
  | cons e es =>
      obtain ⟨kt, vt, ts', hkt, hvt, hts', rfl⟩ :=
        exists_of_entryTexts?_cons hts
      have hkey := (h e (by simp)).1 kt hkt
      have hvalue := (h e (by simp)).2 vt hvt
      have hrest :=
        moreEntriesText_entryTexts? (fun x hx => h x (by simp [hx])) hts'
      have hdict := Written.dict
        (EntryText.mk blank_nil hkey blank_nil blank_space hvalue) hrest
      simpa [joinTexts_cons, nesting, nestingOfEntries] using hdict

/-- The literal of a value is a written form of it, nested as deeply as it. -/
theorem literalWritten (v : Value) : LiteralWritten v := by
  induction v using induction_on_children with
  | step v ih =>
      intro t ht
      cases v with
      | null | notImplemented | ellipsis | bool _ | int _ | float _
      | complex _ _ | str _ | bytes _ =>
          refine literalWritten_of_isLeaf ?_ t ht
          trivial
      | list items =>
          obtain ⟨ts, hts, rfl⟩ := Option.map_eq_some_iff.mp ht
          cases items with
          | nil =>
              obtain rfl := Option.some.inj hts
              exact .list (.nil blank_nil)
          | cons v vs =>
              obtain ⟨u, ts', hu, hts', rfl⟩ := exists_of_literalTexts?_cons hts
              exact .list (itemsText_literalTexts?
                (ih v (by simp [children]) u hu)
                (fun x hx => ih x (by simp [children, hx])) hts' blank_nil)
      | tuple items => exact literalWritten_tuple ih t ht
      | set items =>
          cases items with
          | nil => exact absurd ht.symm (Option.some_ne_none t)
          | cons v vs =>
              obtain ⟨ts, hts, rfl⟩ := Option.map_eq_some_iff.mp ht
              obtain ⟨u, ts', hu, hts', rfl⟩ := exists_of_literalTexts?_cons hts
              exact .set (itemsText_literalTexts?
                (ih v (by simp [children]) u hu)
                (fun x hx => ih x (by simp [children, hx])) hts' blank_nil)
      | dict entries =>
          exact literalWritten_dict
            (fun e he =>
              ⟨ih _ (key_mem_children he), ih _ (value_mem_children he)⟩) t ht
      | byteArray _ | frozenSet _ | call _ _ | verbatim _ =>
          exact absurd ht.symm (Option.some_ne_none t)

/-! ## Reading -/

/-- A written form is read as its value, if it is not nested too deeply. -/
theorem Written.read_eq {n : Nat} {v : Value} {t : List Char}
    (h : Written n v t) :
    read (String.ofList t) =
      if n ≤ nestingLimit then v else .verbatim (String.ofList t) := by
  have hrest : Delimited [] := nofun
  have hvalue := (readsUpTo_readValue (t.length + 1) nestingLimit).takes h
    (Nat.lt_succ_self _) hrest
  rw [List.append_nil] at hvalue
  rw [read, String.toList_ofList, h.trimBlanks, readTrimmed, hvalue]
  split_ifs <;> rfl

theorem Written.read_eq_of_le {n : Nat} {v : Value} {t : List Char}
    (h : Written n v t) (hn : n ≤ nestingLimit) :
    read (String.ofList t) = v := by
  rw [h.read_eq, if_pos hn]

/-- The literal of a value reads back as exactly this value, unless values are
nested in it more than 512 deep; then it is kept verbatim. -/
theorem read_literal? {v : Value} {t : String} (h : v.literal? = some t) :
    read t = if v.nesting ≤ 512 then v else .verbatim t := by
  obtain ⟨cs, hcs, rfl⟩ := Option.map_eq_some_iff.mp h
  exact (literalWritten v cs hcs).read_eq

/-- `None` in `n` lists, one inside the other. -/
def nestedLists : Nat → Value
  | 0 => .null
  | n + 1 => .list [nestedLists n]

theorem nesting_nestedLists (n : Nat) : (nestedLists n).nesting = n + 1 := by
  induction n with
  | zero => rfl
  | succ n ih => simp [nestedLists, nesting, nestingOfItems, ih]

theorem exists_literal?_nestedLists (n : Nat) :
    ∃ t, (nestedLists n).literal? = some t := by
  suffices h : ∃ cs, literalText? (nestedLists n) = some cs by
    obtain ⟨cs, hcs⟩ := h
    exact ⟨_, Option.map_eq_some_iff.mpr ⟨cs, hcs, rfl⟩⟩
  induction n with
  | zero => exact ⟨_, rfl⟩
  | succ n ih =>
      obtain ⟨cs, hcs⟩ := ih
      refine ⟨'[' :: (cs ++ [']']), ?_⟩
      simp [nestedLists, literalText?, literalTexts?, hcs, joinTexts]

/-- A dictionary that holds a value of most kinds. -/
def mixedDict : Value :=
  .dict [(.tuple [.str "it's"],
      .set [.complex Binary64.negZero Binary64.zero, .int (-5)]),
    (.float (Binary64.ofInt 3), .list [.bytes [0, 65]])]

theorem literal?_mixedDict :
    mixedDict.literal? = some
      "\x7b('it\\'s',): \x7b(-0.0+0.0j), -5\x7d, 3.0: [b'\\x00A']\x7d" := by
  decide +kernel

/-- A mixed value is read back from its literal, and the depth of the reader
lies exactly between 511 and 512 nested lists. -/
theorem read_literal?_mixed_and_nested :
    (∃ t, mixedDict.literal? = some t ∧ read t = mixedDict) ∧
      (∃ t, (nestedLists 511).literal? = some t ∧ read t = nestedLists 511) ∧
      ∃ t, (nestedLists 512).literal? = some t ∧ read t = .verbatim t := by
  refine ⟨⟨_, literal?_mixedDict, ?_⟩, ?_, ?_⟩
  · exact (read_literal? literal?_mixedDict).trans (if_pos (by decide +kernel))
  · obtain ⟨t, ht⟩ := exists_literal?_nestedLists 511
    refine ⟨t, ht, (read_literal? ht).trans (if_pos ?_)⟩
    rw [nesting_nestedLists]
  · obtain ⟨t, ht⟩ := exists_literal?_nestedLists 512
    refine ⟨t, ht, (read_literal? ht).trans (if_neg ?_)⟩
    rw [nesting_nestedLists]
    decide

end Value
end Concord
