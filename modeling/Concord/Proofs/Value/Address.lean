import Concord.Proofs.Value.Agreement
import Mathlib.Data.List.TakeWhile

/-!
# Addresses are replaced and nothing else

Text is normal when no address stands in it. Normalising gives normal text and
leaves normal text alone. It goes over a text piece by piece: an address that
follows neither a digit nor an `x` is replaced, and what stands before and after
it is normalised on its own.
-/

namespace Concord
namespace Address

/-- The letter after the zero of an address. -/
def IsMark (x : Char) : Prop :=
  x = 'x' ∨ x = 'X'

/-- Somewhere in the text stands a zero, a mark and a hexadecimal digit. -/
def HasAddress (t : List Char) : Prop :=
  ∃ x d, IsMark x ∧ isHexDigit d = true ∧ ['0', x, d] <:+: t

/-- The text starts with an address. -/
def StartsAddress (t : List Char) : Prop :=
  ∃ x d, IsMark x ∧ isHexDigit d = true ∧ ['0', x, d] <+: t

theorem IsMark.ne_zero {x : Char} (h : IsMark x) : x ≠ '0' := by
  rcases h with rfl | rfl <;> decide

theorem hasAddress_cons {c : Char} {t : List Char} :
    HasAddress (c :: t) ↔ StartsAddress (c :: t) ∨ HasAddress t := by
  simp only [HasAddress, StartsAddress, List.infix_cons_iff, and_or_left,
    exists_or]

theorem startsAddress_cons {c : Char} {t : List Char} :
    StartsAddress (c :: t) ↔
      c = '0' ∧ ∃ x d rest, t = x :: d :: rest ∧ IsMark x ∧
        isHexDigit d = true := by
  constructor
  · rintro ⟨x, d, hx, hd, rest, heq⟩
    obtain ⟨rfl, rfl⟩ := List.cons.inj heq
    exact ⟨rfl, x, d, rest, rfl, hx, hd⟩
  · rintro ⟨rfl, x, d, rest, rfl, hx, hd⟩
    exact ⟨x, d, hx, hd, rest, rfl⟩

/-! ## One step of the scan -/

/-- Nothing is masked but an address. -/
theorem mask_of_not_startsAddress {c : Char} {t : List Char}
    (h : ¬StartsAddress (c :: t)) :
    mask false (c :: t) = c :: mask false t := by
  cases t with
  | nil => rfl
  | cons x rest =>
      have hnot : (c == '0' && (x == 'x' || x == 'X') &&
          startsWithHexDigit rest) = false := by
        by_contra hstarts
        rw [Bool.not_eq_false, Bool.and_eq_true, Bool.and_eq_true,
          Bool.or_eq_true, beq_iff_eq, beq_iff_eq, beq_iff_eq] at hstarts
        obtain ⟨⟨hc, hx⟩, hrest⟩ := hstarts
        cases rest with
        | nil => exact Bool.false_ne_true hrest
        | cons d rest =>
            exact h (startsAddress_cons.mpr ⟨hc, x, d, rest, rfl, hx, hrest⟩)
      rw [mask]
      simp [hnot]

/-- Within an address the scan goes on after its digits. -/
theorem mask_true (t : List Char) :
    mask true t = mask false (t.dropWhile isHexDigit) := by
  induction t with
  | nil => rfl
  | cons c t ih =>
      by_cases hc : isHexDigit c = true
      · rw [List.dropWhile_cons_of_pos hc, ← ih]
        cases t <;> simp [mask, hc]
      · rw [List.dropWhile_cons_of_neg hc]
        cases t <;> simp [mask, hc]

/-- An address is masked with all its digits. -/
theorem mask_address {x d : Char} (hx : IsMark x) (hd : isHexDigit d = true)
    (t : List Char) :
    mask false ('0' :: x :: d :: t) =
      '0' :: 'x' :: '?' :: mask false (t.dropWhile isHexDigit) := by
  have hskip := mask_true (d :: t)
  rw [List.dropWhile_cons_of_pos hd] at hskip
  rw [← hskip]
  rcases hx with rfl | rfl <;> simp [mask, startsWithHexDigit, hd]

/-- A text is empty, or starts with an address, or starts with another
character. -/
theorem mask_induction {P : List Char → Prop} (nil : P [])
    (plain : ∀ c t, ¬StartsAddress (c :: t) → P t → P (c :: t))
    (address : ∀ x d t, IsMark x → isHexDigit d = true →
      P (t.dropWhile isHexDigit) → P ('0' :: x :: d :: t))
    (t : List Char) : P t := by
  induction hn : t.length using Nat.strong_induction_on generalizing t with
  | _ n ih =>
      subst hn
      cases t with
      | nil => exact nil
      | cons c t =>
          by_cases h : StartsAddress (c :: t)
          · obtain ⟨rfl, x, d, rest, rfl, hx, hd⟩ := startsAddress_cons.mp h
            have hle := (List.dropWhile_suffix isHexDigit (l := rest)).length_le
            exact address x d rest hx hd (ih _ (by simp; omega) _ rfl)
          · exact plain c t h (ih _ (by simp) t rfl)

/-! ## Normal text -/

theorem head?_mask (t : List Char) : (mask false t).head? = t.head? := by
  cases t with
  | nil => rfl
  | cons c t =>
      by_cases h : StartsAddress (c :: t)
      · obtain ⟨rfl, x, d, rest, rfl, hx, hd⟩ := startsAddress_cons.mp h
        rw [mask_address hx hd]
        rfl
      · rw [mask_of_not_startsAddress h]
        rfl

/-- Masking makes no address of what stood before a mark and a digit. -/
theorem startsAddress_of_mask {c : Char} {t : List Char}
    (h : StartsAddress (c :: mask false t)) : StartsAddress (c :: t) := by
  obtain ⟨rfl, x, d, rest, heq, hx, hd⟩ := startsAddress_cons.mp h
  have hfirst := head?_mask t
  rw [heq] at hfirst
  obtain ⟨t, rfl⟩ : ∃ u, t = x :: u := by
    cases t with
    | nil => exact nomatch hfirst
    | cons y u => exact ⟨u, by rw [Option.some.inj hfirst]⟩
  -- a mark is no zero, so it is kept and the digit is the next character
  have hplain : ¬StartsAddress (x :: t) := fun hstarts =>
    hx.ne_zero (startsAddress_cons.mp hstarts).1
  rw [mask_of_not_startsAddress hplain] at heq
  have hsecond := head?_mask t
  rw [(List.cons.inj heq).2] at hsecond
  cases t with
  | nil => exact nomatch hsecond
  | cons e u =>
      obtain rfl : d = e := Option.some.inj hsecond
      exact startsAddress_cons.mpr ⟨rfl, x, d, u, rfl, hx, hd⟩

theorem not_hasAddress_mask (t : List Char) : ¬HasAddress (mask false t) := by
  induction t using mask_induction with
  | nil =>
      rintro ⟨x, d, -, -, hinfix⟩
      exact nomatch List.infix_nil.mp hinfix
  | plain c t h ih =>
      rw [mask_of_not_startsAddress h, hasAddress_cons, not_or]
      exact ⟨mt startsAddress_of_mask h, ih⟩
  | address x d t hx hd ih =>
      have hquestion : isHexDigit '?' = false := rfl
      rw [mask_address hx hd, hasAddress_cons, hasAddress_cons, hasAddress_cons]
      simp [startsAddress_cons, ih, hquestion]

theorem mask_eq_self {t : List Char} (h : ¬HasAddress t) :
    mask false t = t := by
  induction t with
  | nil => rfl
  | cons c t ih =>
      rw [hasAddress_cons, not_or] at h
      rw [mask_of_not_startsAddress h.1, ih h.2]

theorem mask_eq_self_iff {t : List Char} : mask false t = t ↔ ¬HasAddress t :=
  ⟨fun h => h ▸ not_hasAddress_mask t, mask_eq_self⟩

/-! ## Text before and after an address -/

/-- The text is empty, or ends with neither a hexadecimal digit nor a mark. -/
def EndsApart (p : List Char) : Prop :=
  ∀ c, p.getLast? = some c → isHexDigit c = false ∧ ¬IsMark c

theorem EndsApart.suffix {p q : List Char} (h : EndsApart p) (hq : q <:+ p)
    (hne : q ≠ []) : EndsApart q := by
  intro c hc
  obtain ⟨r, rfl⟩ := hq
  exact h c (by rw [List.getLast?_append_of_ne_nil _ hne, hc])

theorem EndsApart.tail {c : Char} {p : List Char} (h : EndsApart (c :: p)) :
    EndsApart p := by
  rcases eq_or_ne p [] with rfl | hne
  · exact nofun
  · exact h.suffix (List.suffix_cons c p) hne

/-- No address starts in a text that ends apart and goes on after it. -/
theorem EndsApart.not_startsAddress {c : Char} {p : List Char}
    (hp : EndsApart (c :: p)) (h : ¬StartsAddress (c :: p)) (u : List Char) :
    ¬StartsAddress (c :: (p ++ u)) := by
  intro hstarts
  obtain ⟨rfl, x, d, rest, heq, hx, hd⟩ := startsAddress_cons.mp hstarts
  match p with
  | [] => exact absurd (hp '0' rfl).1 (by decide)
  | [y] =>
      obtain ⟨rfl, -⟩ := List.cons.inj heq
      exact (hp y rfl).2 hx
  | y :: z :: q =>
      obtain ⟨rfl, hrest⟩ := List.cons.inj heq
      obtain ⟨rfl, -⟩ := List.cons.inj hrest
      exact h (startsAddress_cons.mpr ⟨rfl, y, z, q, rfl, hx, hd⟩)

/-- The digits of an address end within a text that ends apart. -/
theorem EndsApart.dropWhile_ne_nil {d : Char} {p : List Char}
    (hp : EndsApart (d :: p)) (hd : isHexDigit d = true) :
    p.dropWhile isHexDigit ≠ [] := by
  intro hnil
  have hall : ∀ c ∈ d :: p, isHexDigit c = true :=
    List.forall_mem_cons.mpr ⟨hd, List.dropWhile_eq_nil_iff.mp hnil⟩
  have hlast := List.getLast?_eq_some_getLast (List.cons_ne_nil d p)
  exact Bool.false_ne_true
    ((hp _ hlast).1.symm.trans (hall _ (List.getLast_mem _)))

theorem mask_append {p : List Char} (hp : EndsApart p) (u : List Char) :
    mask false (p ++ u) = mask false p ++ mask false u := by
  induction p using mask_induction with
  | nil => rfl
  | plain c p h ih =>
      rw [List.cons_append, mask_of_not_startsAddress
        (hp.not_startsAddress h u), mask_of_not_startsAddress h, ih hp.tail]
      rfl
  | address x d p hx hd ih =>
      have hne := hp.tail.tail.dropWhile_ne_nil hd
      have hrest :=
        hp.tail.tail.tail.suffix (List.dropWhile_suffix isHexDigit) hne
      simp only [List.cons_append]
      rw [mask_address hx hd, mask_address hx hd, List.dropWhile_append,
        if_neg (by simpa using hne), ih hrest]
      rfl

/-- One hexadecimal digit or more. -/
def IsDigits (h : List Char) : Prop :=
  h ≠ [] ∧ ∀ c ∈ h, isHexDigit c = true

theorem mask_append_address {p h s : List Char} {x : Char} (hp : EndsApart p)
    (hx : IsMark x) (hh : IsDigits h) (hs : startsWithHexDigit s = false) :
    mask false (p ++ '0' :: x :: (h ++ s)) =
      mask false p ++ '0' :: 'x' :: '?' :: mask false s := by
  obtain ⟨hne, hall⟩ := hh
  obtain ⟨d, h, rfl⟩ := List.exists_cons_of_ne_nil hne
  obtain ⟨hd, hrest⟩ := List.forall_mem_cons.mp hall
  have hstop : s.dropWhile isHexDigit = s := by
    cases s with
    | nil => rfl
    | cons c s => exact List.dropWhile_cons_of_neg (Bool.eq_false_iff.mp hs)
  rw [mask_append hp, List.cons_append, mask_address hx hd,
    List.dropWhile_append_of_pos hrest, hstop]

/-! ## Texts that differ in addresses -/

/-- The texts are the same up to the marks and the digits of addresses that
follow a text that ends apart. -/
inductive DifferInAddresses : List Char → List Char → Prop where
  | same (t : List Char) : DifferInAddresses t t
  | address {p s s' h h' : List Char} {x x' : Char} (hp : EndsApart p)
      (hx : IsMark x) (hx' : IsMark x') (hh : IsDigits h) (hh' : IsDigits h')
      (hs : startsWithHexDigit s = false) (hs' : startsWithHexDigit s' = false)
      (rest : DifferInAddresses s s') :
      DifferInAddresses (p ++ '0' :: x :: (h ++ s))
        (p ++ '0' :: x' :: (h' ++ s'))

example :
    mask false "00x1, 0x0x1, 0x10x2, 0x".toList =
      "00x?, 0x?x1, 0x?x2, 0x".toList := by
  decide

theorem DifferInAddresses.mask_eq {t t' : List Char}
    (h : DifferInAddresses t t') : mask false t = mask false t' := by
  induction h with
  | same t => rfl
  | address hp hx hx' hh hh' hs hs' _ ih =>
      rw [mask_append_address hp hx hh hs,
        mask_append_address hp hx' hh' hs', ih]

theorem toList_normalise (text : String) :
    (normalise text).toList = mask false text.toList :=
  String.toList_ofList

theorem normalise_eq_iff {text text' : String} :
    normalise text = text' ↔ mask false text.toList = text'.toList := by
  rw [← String.toList_inj, toList_normalise]

/-- Normalised text holds no address and is not changed any more; only text
without an address is left as it is. An address is replaced where it stands
apart, and texts that differ in such addresses agree. -/
theorem normalise_replaces_addresses :
    (∀ text : String, ¬HasAddress (normalise text).toList ∧
      normalise (normalise text) = normalise text ∧
      (normalise text = text ↔ ¬HasAddress text.toList)) ∧
    (∀ (p h s : String) (x : Char), EndsApart p.toList → IsMark x →
      IsDigits h.toList →
      startsWithHexDigit s.toList = false →
      normalise (p ++ "0" ++ String.singleton x ++ h ++ s) =
        normalise p ++ "0x?" ++ normalise s) ∧
    (∀ text text' : String, DifferInAddresses text.toList text'.toList →
      (Value.verbatim text).equivalent (.verbatim text') = true) := by
  refine ⟨fun text => ⟨?_, ?_, ?_⟩, ?_, ?_⟩
  · rw [toList_normalise]
    exact not_hasAddress_mask _
  · rw [normalise_eq_iff, toList_normalise]
    exact mask_eq_self (not_hasAddress_mask _)
  · rw [normalise_eq_iff]
    exact mask_eq_self_iff
  · intro p h s x hp hx hh hs
    have hmask := mask_append_address hp hx hh hs
    rw [normalise_eq_iff]
    simpa [toList_normalise] using hmask
  · intro text text' h
    rw [Value.equivalent, beq_iff_eq, normalise_eq_iff, toList_normalise]
    exact h.mask_eq

/-- The zero of what looks like a second address belongs to the digits of the
first. -/
theorem normalise_replaces_addresses_in_row :
    normalise "(0X10x2" = normalise "(" ++ "0x?" ++ normalise "x2" ∧
      (Value.verbatim "<f at 0x7f of 0X1>").equivalent
        (.verbatim "<f at 0xA of 0xbeef>") = true := by
  obtain ⟨-, hreplace, hagree⟩ := normalise_replaces_addresses
  have hparen : EndsApart "(".toList := by
    intro c hc
    obtain rfl : '(' = c := Option.some.inj hc
    exact ⟨rfl, by simp [IsMark]⟩
  have hspace (p : List Char) : EndsApart (p ++ [' ']) := by
    intro c hc
    obtain rfl : ' ' = c := by simpa using hc
    exact ⟨rfl, by simp [IsMark]⟩
  have hdigits {h : String} (hne : h.toList ≠ [])
      (hall : h.toList.all isHexDigit = true) :
      IsDigits h.toList := ⟨hne, List.all_eq_true.mp hall⟩
  refine ⟨hreplace "(" "10" "x2" 'X' hparen (Or.inr rfl)
    (hdigits (by decide) rfl) rfl, ?_⟩
  have hfirst : IsDigits "7f".toList := hdigits (by decide) rfl
  have hfirst' : IsDigits "A".toList := hdigits (by decide) rfl
  have hsecond : IsDigits "1".toList := hdigits (by decide) rfl
  have hsecond' : IsDigits "beef".toList := hdigits (by decide) rfl
  refine hagree _ _ (.address (hspace "<f at".toList) (Or.inl rfl)
    (Or.inl rfl) hfirst hfirst'
    rfl rfl ?_)
  exact .address (hspace " of".toList) (Or.inr rfl)
    (Or.inl rfl) hsecond hsecond' rfl rfl
    (.same ">".toList)

end Address
end Concord
