import Concord.Proofs.Text.SingleLine
import Concord.Proofs.Value.Integers
import Concord.Proofs.Value.Renderings

/-!
# Which values have literals

A value has a literal unless a value without one stands somewhere inside it.
Strings and bytes are escaped in literals, so no literal holds a control
character.
-/

namespace Concord
namespace Value

/-! ## Values without a literal -/

/-- The value has no literal, whatever stands inside it. -/
def LacksLiteral : Value → Prop
  | .set [] | .frozenSet _ | .byteArray _ | .call _ _ | .verbatim _ => True
  | .float x => x.isFinite = false
  | .complex re im => re.isFinite = false ∨ im.isFinite = false
  | _ => False

/-- The first value is the second one or stands inside it, at any depth. -/
inductive Inside : Value → Value → Prop where
  | self (v : Value) : Inside v v
  | child {u v w : Value} (hu : u ∈ v.children) (h : Inside w u) : Inside w v

theorem isSome_render?_iff (layout : Layout) (x : Binary64) :
    (layout.render? x).isSome = true ↔ x.isFinite = true := by
  cases x <;> rfl

theorem isFinite_abs (x : Binary64) : x.abs.isFinite = x.isFinite := by
  cases x <;> rfl

theorem isSome_complexText?_iff {re im : Binary64} :
    (complexText? re im).isSome = true ↔
      re.isFinite = true ∧ im.isFinite = true := by
  unfold complexText?
  by_cases hre : re = Binary64.zero
  · rw [if_pos hre, Option.isSome_map, isSome_render?_iff, hre]
    exact (and_iff_right rfl).symm
  · rw [if_neg hre, ← isFinite_abs im, ← isSome_render?_iff Layout.literal re,
      ← isSome_render?_iff Layout.literal im.abs]
    cases Layout.literal.render? re <;>
      cases Layout.literal.render? im.abs <;> simp

theorem isSome_literalTexts?_iff {vs : List Value} :
    (literalTexts? vs).isSome = true ↔
      ∀ v ∈ vs, (literalText? v).isSome = true := by
  induction vs with
  | nil => simp [literalTexts?]
  | cons v vs ih =>
      rw [List.forall_mem_cons, ← ih, literalTexts?]
      cases literalText? v <;> cases literalTexts? vs <;> simp

theorem isSome_entryTexts?_iff {es : List (Value × Value)} :
    (entryTexts? es).isSome = true ↔
      ∀ v ∈ (Value.dict es).children, (literalText? v).isSome = true := by
  induction es with
  | nil => simp [entryTexts?, children]
  | cons e es ih =>
      have hchildren :
          (Value.dict (e :: es)).children =
            e.1 :: e.2 :: (Value.dict es).children := rfl
      rw [hchildren, List.forall_mem_cons, List.forall_mem_cons, ← ih,
        entryTexts?]
      cases literalText? e.1 <;> cases literalText? e.2 <;>
        cases entryTexts? es <;> simp

theorem isSome_tuple_iff {items : List Value} :
    (literalText? (.tuple items)).isSome = true ↔
      ∀ v ∈ items, (literalText? v).isSome = true := by
  by_cases hsingle : ∃ v, items = [v]
  · obtain ⟨v, rfl⟩ := hsingle
    simp [literalText?]
  · rw [literalText?, Option.isSome_map, isSome_literalTexts?_iff]
    exact fun v hv => hsingle ⟨v, hv⟩

/-- One level: a value has a literal if it does not lack one and its children
have literals. -/
theorem isSome_literalText?_iff {v : Value} :
    (literalText? v).isSome = true ↔
      ¬v.LacksLiteral ∧ ∀ u ∈ v.children, (literalText? u).isSome = true := by
  cases v with
  | null | notImplemented | ellipsis | int _ | str _ | bytes _ =>
      simp [literalText?, LacksLiteral, children]
  | bool b => cases b <;> simp [literalText?, LacksLiteral, children]
  | float x => simp [literalText?, isSome_render?_iff, LacksLiteral, children]
  | complex re im =>
      simp [literalText?, isSome_complexText?_iff, LacksLiteral, children]
  | list items =>
      simp [literalText?, isSome_literalTexts?_iff, LacksLiteral, children]
  | tuple items => simp [isSome_tuple_iff, LacksLiteral, children]
  | set items =>
      cases items with
      | nil => simp [literalText?, LacksLiteral]
      | cons v vs =>
          simp [literalText?, isSome_literalTexts?_iff, LacksLiteral, children]
  | dict entries => simp [literalText?, isSome_entryTexts?_iff, LacksLiteral]
  | byteArray _ | frozenSet _ | call _ _ | verbatim _ =>
      simp [literalText?, LacksLiteral]

/-- A value has no literal exactly when some value inside it lacks one. -/
theorem literalText?_eq_none_iff {v : Value} :
    literalText? v = none ↔ ∃ w, Inside w v ∧ w.LacksLiteral := by
  induction v using induction_on_children with
  | step v ih =>
      rw [← Option.not_isSome_iff_eq_none, isSome_literalText?_iff,
        not_and_or, not_not]
      constructor
      · rintro (hself | hchildren)
        · exact ⟨v, .self v, hself⟩
        · obtain ⟨u, hu, hnone⟩ := not_forall₂.mp hchildren
          obtain ⟨w, hw, hlacks⟩ :=
            (ih u hu).mp (Option.not_isSome_iff_eq_none.mp hnone)
          exact ⟨w, .child hu hw, hlacks⟩
      · rintro ⟨w, hw, hlacks⟩
        cases hw with
        | self => exact Or.inl hlacks
        | @child u _ _ hu h =>
            refine Or.inr fun hall => ?_
            have hnone := (ih u hu).mpr ⟨w, h, hlacks⟩
            exact Option.not_isSome_iff_eq_none.mpr hnone (hall u hu)

theorem literal?_eq_none_iff {v : Value} :
    v.literal? = none ↔ ∃ w, Inside w v ∧ w.LacksLiteral := by
  rw [literal?, Option.map_eq_none_iff, literalText?_eq_none_iff]

/-! ## Characters of literals -/

open Text (isControl ControlFree controlFree_of_any)

theorem not_isControl_of_isDigit {c : Char} (h : c.isDigit = true) :
    isControl c = false :=
  Text.eq_false_of_mem (by decide) (Text.mem_members_of_isDigit h)

theorem controlFree_intText (n : Int) : ControlFree (intText n) := by
  intro c hc
  rcases mem_intText hc with rfl | hdigit
  · rfl
  · exact not_isControl_of_isDigit hdigit

theorem controlFree_of_render? {layout : Layout} {x : Binary64} {t : List Char}
    (h : layout.render? x = some t) : ControlFree t := by
  obtain ⟨n, rfl, -, -⟩ := Binary64.exists_numeral_of_render? h
  rw [Text.controlFree_append]
  constructor
  · cases x.isNegative
    · exact controlFree_of_any rfl
    · exact controlFree_of_any rfl
  · intro c hc
    rcases Numeral.isDigit_or_mem_of_mem_text hc with hdigit | hmark
    · exact not_isControl_of_isDigit hdigit
    · exact Text.eq_false_of_mem (by decide) hmark

theorem controlFree_of_complexText? {re im : Binary64} {t : List Char}
    (h : complexText? re im = some t) : ControlFree t := by
  unfold complexText? at h
  by_cases hre : re = Binary64.zero
  · rw [if_pos hre] at h
    obtain ⟨u, hu, rfl⟩ := Option.map_eq_some_iff.mp h
    rw [Text.controlFree_append]
    exact ⟨controlFree_of_render? hu, controlFree_of_any rfl⟩
  · rw [if_neg hre] at h
    obtain ⟨r, hr, h⟩ := Option.bind_eq_some_iff.mp h
    obtain ⟨i, hi, h⟩ := Option.bind_eq_some_iff.mp h
    obtain rfl := Option.some.inj h
    have hsign : isControl (if im.isNegative then '-' else '+') = false := by
      split <;> rfl
    simp only [Text.controlFree_cons, Text.controlFree_append]
    exact ⟨rfl, controlFree_of_render? hr, hsign,
      controlFree_of_render? hi, rfl, rfl,
      Text.controlFree_nil⟩

theorem controlFree_hexEscape {n : Nat} (hn : n < 256) :
    ControlFree (hexEscape n) := by
  have hdigit : ∀ d < 16, isControl (hexDigit d) = false := by decide
  have hhigh := hdigit (n / 16) (by omega)
  have hlow := hdigit (n % 16) (by omega)
  simp only [hexEscape, Text.controlFree_cons]
  exact ⟨rfl, rfl, hhigh, hlow, Text.controlFree_nil⟩

/-- A quoted character is itself only where it is no control character. -/
theorem controlFree_quoteChar (c : Char) : ControlFree (quoteChar c) := by
  unfold quoteChar
  split_ifs with _ _ _ _ _ hcode
  · exact controlFree_of_any rfl
  · exact controlFree_of_any rfl
  · exact controlFree_of_any rfl
  · exact controlFree_of_any rfl
  · exact controlFree_of_any rfl
  · apply controlFree_hexEscape
    simp only [Bool.or_eq_true, decide_eq_true_eq] at hcode
    omega
  · rw [Text.controlFree_cons]
    exact ⟨Bool.eq_false_iff.mpr hcode, Text.controlFree_nil⟩

theorem controlFree_quoteByte (b : UInt8) : ControlFree (quoteByte b) := by
  unfold quoteByte
  dsimp only
  split_ifs with _ _ _ _ _ hcode
  · exact controlFree_of_any rfl
  · exact controlFree_of_any rfl
  · exact controlFree_of_any rfl
  · exact controlFree_of_any rfl
  · exact controlFree_of_any rfl
  · have hplain : isControl (Char.ofNat b.toNat) = false := by
      simp only [Bool.and_eq_true, decide_eq_true_eq] at hcode
      rw [isControl, toNat_ofNat_byte]
      simp only [Bool.or_eq_false_iff, decide_eq_false_iff_not]
      omega
    simp [hplain]
  · exact controlFree_hexEscape b.toNat_lt

theorem controlFree_enclosed {first : Char} (hfirst : isControl first = false)
    {t last : List Char} (ht : ControlFree t) (hlast : ControlFree last) :
    ControlFree (first :: (t ++ last)) := by
  rw [Text.controlFree_cons, Text.controlFree_append]
  exact ⟨hfirst, ht, hlast⟩

theorem controlFree_joinTexts {ts : List (List Char)}
    (h : ∀ t ∈ ts, ControlFree t) : ControlFree (joinTexts ts) :=
  Text.controlFree_intercalate (controlFree_of_any rfl) h

theorem controlFree_of_literalTexts? {vs : List Value} {ts : List (List Char)}
    (hvs : ∀ v ∈ vs, ∀ t, literalText? v = some t → ControlFree t)
    (h : literalTexts? vs = some ts) : ∀ t ∈ ts, ControlFree t := by
  induction vs generalizing ts with
  | nil =>
      obtain rfl := Option.some.inj h
      exact List.forall_mem_nil _
  | cons v vs ih =>
      obtain ⟨t, ts', ht, hts', rfl⟩ := exists_of_literalTexts?_cons h
      obtain ⟨hv, hrest⟩ := List.forall_mem_cons.mp hvs
      exact List.forall_mem_cons.mpr ⟨hv t ht, ih hrest hts'⟩

theorem controlFree_of_entryTexts? {es : List (Value × Value)}
    {ts : List (List Char)}
    (hes : ∀ v ∈ (Value.dict es).children, ∀ t, literalText? v = some t →
      ControlFree t)
    (h : entryTexts? es = some ts) : ∀ t ∈ ts, ControlFree t := by
  induction es generalizing ts with
  | nil =>
      obtain rfl := Option.some.inj h
      exact List.forall_mem_nil _
  | cons e es ih =>
      obtain ⟨kt, vt, ts', hkt, hvt, hts', rfl⟩ := exists_of_entryTexts?_cons h
      obtain ⟨hkey, hes⟩ := List.forall_mem_cons.mp hes
      obtain ⟨hvalue, hrest⟩ := List.forall_mem_cons.mp hes
      refine List.forall_mem_cons.mpr ⟨?_, ih hrest hts'⟩
      simp only [Text.controlFree_append, Text.controlFree_cons]
      exact ⟨hkey kt hkt, rfl, rfl, hvalue vt hvt⟩

/-- A tuple of one item has a comma after it. -/
theorem controlFree_of_tuple {items : List Value} {t : List Char}
    (hitems : ∀ v ∈ items, ∀ t, literalText? v = some t → ControlFree t)
    (h : literalText? (.tuple items) = some t) : ControlFree t := by
  by_cases hsingle : ∃ v, items = [v]
  · obtain ⟨v, rfl⟩ := hsingle
    obtain ⟨u, hu, rfl⟩ := Option.map_eq_some_iff.mp h
    exact controlFree_enclosed rfl (hitems v (by simp) u hu)
      (controlFree_of_any rfl)
  · rw [literalText?] at h
    · obtain ⟨ts, hts, rfl⟩ := Option.map_eq_some_iff.mp h
      exact controlFree_enclosed rfl (controlFree_joinTexts
        (controlFree_of_literalTexts? hitems hts)) (controlFree_of_any rfl)
    · exact fun v hv => hsingle ⟨v, hv⟩

/-- No literal holds a control character. -/
theorem controlFree_of_literalText? {v : Value} {t : List Char}
    (h : literalText? v = some t) : ControlFree t := by
  induction v using induction_on_children generalizing t with
  | step v ih =>
      cases v with
      | null | notImplemented | ellipsis =>
          obtain rfl := Option.some.inj h
          exact controlFree_of_any rfl
      | bool b =>
          cases b with
          | true | false =>
              obtain rfl := Option.some.inj h
              exact controlFree_of_any rfl
      | int n =>
          obtain rfl := Option.some.inj h
          exact controlFree_intText n.toInt
      | float x => exact controlFree_of_render? h
      | complex re im => exact controlFree_of_complexText? h
      | str s =>
          obtain rfl := Option.some.inj h
          exact controlFree_enclosed rfl
            (Text.controlFree_flatMap fun c _ => controlFree_quoteChar c)
              (controlFree_of_any rfl)
      | bytes bs =>
          obtain rfl := Option.some.inj h
          rw [quoteBytes, Text.controlFree_cons]
          exact ⟨rfl, controlFree_enclosed rfl
            (Text.controlFree_flatMap fun b _ => controlFree_quoteByte b)
              (controlFree_of_any rfl)⟩
      | list items =>
          obtain ⟨ts, hts, rfl⟩ := Option.map_eq_some_iff.mp h
          exact controlFree_enclosed rfl (controlFree_joinTexts
            (controlFree_of_literalTexts? (fun u hu _ => ih u hu) hts))
              (controlFree_of_any rfl)
      | tuple items => exact controlFree_of_tuple (fun u hu _ => ih u hu) h
      | set items =>
          cases items with
          | nil => exact absurd h.symm (Option.some_ne_none t)
          | cons v vs =>
              obtain ⟨ts, hts, rfl⟩ := Option.map_eq_some_iff.mp h
              exact controlFree_enclosed rfl (controlFree_joinTexts
                (controlFree_of_literalTexts? (fun u hu _ => ih u hu) hts))
                  (controlFree_of_any rfl)
      | dict entries =>
          obtain ⟨ts, hts, rfl⟩ := Option.map_eq_some_iff.mp h
          exact controlFree_enclosed rfl (controlFree_joinTexts
            (controlFree_of_entryTexts? (fun u hu _ => ih u hu) hts))
              (controlFree_of_any rfl)
      | byteArray _ | frozenSet _ | call _ _ | verbatim _ =>
          exact absurd h.symm (Option.some_ne_none t)

end Value
end Concord
