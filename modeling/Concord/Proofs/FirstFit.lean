import Concord.Value.Equivalent
import Mathlib.Data.List.Perm.Basic

/-!
# First fit

Two lists match when the items of one agree one by one with those of the other
in some order. Taking the first free item that fits finds a matching whenever
there is one, as long as items that fit one item in common fit the same items.
-/

namespace Concord

variable {α β : Type}

/-! ## Taking the first item that fits -/

/-- Each item on the left takes the first free item on the right that it is
related to, and none is left over. -/
inductive FirstFit (R : α → β → Prop) : List α → List β → Prop where
  | nil : FirstFit R [] []
  | cons {a : α} {b : β} {as : List α} {before after : List β}
      (hbefore : ∀ x ∈ before, ¬R a x) (hab : R a b)
      (h : FirstFit R as (before ++ after)) :
      FirstFit R (a :: as) (before ++ b :: after)

theorem FirstFit.refl {R : α → α → Prop} {as : List α} (h : ∀ a ∈ as, R a a) :
    FirstFit R as as := by
  induction as with
  | nil => exact .nil
  | cons a as ih =>
      obtain ⟨ha, has⟩ := List.forall_mem_cons.mp h
      have hnone : ∀ x ∈ [], ¬R a x := nofun
      exact .cons hnone ha (ih has)

theorem exists_first {p : α → Prop} {xs : List α} (h : ∃ a ∈ xs, p a) :
    ∃ before a after, xs = before ++ a :: after ∧
      (∀ x ∈ before, ¬p x) ∧ p a := by
  induction xs with
  | nil => simp at h
  | cons x xs ih =>
      by_cases hx : p x
      · exact ⟨[], x, xs, rfl, nofun, hx⟩
      · have hxs : ∃ a ∈ xs, p a := by simpa [hx] using h
        obtain ⟨before, a, after, rfl, hbefore, ha⟩ := ih hxs
        exact ⟨x :: before, a, after, rfl,
          List.forall_mem_cons.mpr ⟨hx, hbefore⟩, ha⟩

theorem eraseFirst?_append {p : α → Bool} {before after : List α} {a : α}
    (hbefore : ∀ x ∈ before, ¬p x = true) (ha : p a = true) :
    eraseFirst? p (before ++ a :: after) = some (before ++ after) := by
  induction before with
  | nil => exact if_pos ha
  | cons x before ih =>
      obtain ⟨hx, hbefore⟩ := List.forall_mem_cons.mp hbefore
      rw [List.cons_append, eraseFirst?, if_neg hx, ih hbefore]
      rfl

theorem exists_of_eraseFirst? {p : α → Bool} {xs rest : List α}
    (h : eraseFirst? p xs = some rest) :
    ∃ before a after, xs = before ++ a :: after ∧ (∀ x ∈ before, ¬p x = true) ∧
      p a = true ∧ rest = before ++ after := by
  have hfits : ∃ a ∈ xs, p a = true := by
    by_contra hnone
    push Not at hnone
    suffices hnot : eraseFirst? p xs = none from nomatch hnot.symm.trans h
    clear h
    induction xs with
    | nil => rfl
    | cons x xs ih =>
        obtain ⟨hx, hxs⟩ := List.forall_mem_cons.mp hnone
        rw [eraseFirst?, if_neg hx, ih hxs]
        rfl
  obtain ⟨before, a, after, rfl, hbefore, ha⟩ := exists_first hfits
  rw [eraseFirst?_append hbefore ha] at h
  exact ⟨before, a, after, rfl, hbefore, ha, (Option.some.inj h).symm⟩

/-! ## Matchings -/

/-- The items on the left are related one by one to those on the right, in some
order. -/
def Matching (R : α → β → Prop) (as : List α) (bs : List β) : Prop :=
  ∃ bs', List.Forall₂ R as bs' ∧ bs'.Perm bs

namespace Matching

variable {R : α → β → Prop} {as as' : List α} {bs bs' : List β} {a : α} {b : β}

theorem nil : Matching R [] [] :=
  ⟨[], .nil, .refl _⟩

theorem cons (h : Matching R as bs) (hab : R a b) :
    Matching R (a :: as) (b :: bs) := by
  obtain ⟨bs', hall, hperm⟩ := h
  exact ⟨b :: bs', .cons hab hall, hperm.cons b⟩

theorem perm_right (h : Matching R as bs) (hperm : bs.Perm bs') :
    Matching R as bs' := by
  obtain ⟨cs, hall, hcs⟩ := h
  exact ⟨cs, hall, hcs.trans hperm⟩

theorem perm_left (h : Matching R as bs) (hperm : as.Perm as') :
    Matching R as' bs := by
  obtain ⟨cs, hall, hcs⟩ := h
  obtain ⟨cs', hall', hcs'⟩ := List.perm_comp_forall₂ hperm.symm hall
  exact ⟨cs', hall', hcs'.trans hcs⟩

theorem uncons_left (h : Matching R (a :: as) bs) :
    ∃ b bs', bs.Perm (b :: bs') ∧ R a b ∧ Matching R as bs' := by
  obtain ⟨cs, hall, hcs⟩ := h
  obtain ⟨b, bs', hab, hall', rfl⟩ := List.forall₂_cons_left_iff.mp hall
  exact ⟨b, bs', hcs.symm, hab, bs', hall', .refl _⟩

theorem flip (h : Matching R as bs) : Matching (fun b a => R a b) bs as := by
  obtain ⟨cs, hall, hcs⟩ := h
  exact perm_left ⟨as, hall.flip, .refl _⟩ hcs

theorem uncons_right (h : Matching R as (b :: bs)) :
    ∃ a as', as.Perm (a :: as') ∧ R a b ∧ Matching R as' bs := by
  obtain ⟨a, as', hperm, hab, h'⟩ := h.flip.uncons_left
  exact ⟨a, as', hperm, hab, h'.flip⟩

theorem exists_right (h : Matching R as bs) (ha : a ∈ as) :
    ∃ b ∈ bs, R a b := by
  obtain ⟨s, t, rfl⟩ := List.append_of_mem ha
  obtain ⟨b, bs', hbs, hab, -⟩ := (h.perm_left List.perm_middle).uncons_left
  exact ⟨b, hbs.symm.subset List.mem_cons_self, hab⟩

theorem exists_left (h : Matching R as bs) (hb : b ∈ bs) : ∃ a ∈ as, R a b :=
  h.flip.exists_right hb

theorem length_eq (h : Matching R as bs) : as.length = bs.length := by
  obtain ⟨cs, hall, hcs⟩ := h
  exact hall.length_eq.trans hcs.length_eq

theorem mono {S : α → β → Prop} (hRS : ∀ a b, R a b → S a b)
    (h : Matching R as bs) : Matching S as bs := by
  obtain ⟨cs, hall, hcs⟩ := h
  exact ⟨cs, hall.imp hRS, hcs⟩

theorem and_left {p : α → Prop} (hp : ∀ a ∈ as, p a) (h : Matching R as bs) :
    Matching (fun a b => p a ∧ R a b) as bs := by
  obtain ⟨cs, hall, hcs⟩ := h
  exact ⟨cs, (List.forall₂_and_left as cs).mpr ⟨hp, hall⟩, hcs⟩

theorem symm {R : α → α → Prop} {as bs : List α} (hR : ∀ a b, R a b → R b a)
    (h : Matching R as bs) : Matching R bs as :=
  h.flip.mono fun b a => hR a b

theorem trans {γ : Type} {S : β → γ → Prop} {T : α → γ → Prop} {cs : List γ}
    (hRST : ∀ a b c, R a b → S b c → T a c)
    (h : Matching R as bs) (h' : Matching S bs cs) : Matching T as cs := by
  induction as generalizing bs cs with
  | nil =>
      have hlength : cs.length = 0 := (h.length_eq.trans h'.length_eq).symm
      rw [List.eq_nil_of_length_eq_zero hlength]
      exact nil
  | cons a as ih =>
      obtain ⟨b, bs', hbs, hab, has⟩ := h.uncons_left
      obtain ⟨c, cs', hcs, hbc, hbs'⟩ := (h'.perm_left hbs).uncons_left
      exact ((ih has hbs').cons (hRST a b c hab hbc)).perm_right hcs.symm

theorem pairwise {S : α → α → Prop} {T : β → β → Prop}
    (hST : ∀ a a' b b', R a b → R a' b' → S a a' → T b b')
    (hT : ∀ {b b'}, T b b' → T b' b) (h : Matching R as bs)
    (has : as.Pairwise S) : bs.Pairwise T := by
  obtain ⟨cs, hall, hcs⟩ := h
  refine (hcs.pairwise_iff hT).mp ?_
  clear hcs
  induction hall with
  | nil => exact .nil
  | cons hab hall ih =>
      obtain ⟨ha, has⟩ := List.pairwise_cons.mp has
      refine .cons (fun b' hb' => ?_) (ih has)
      obtain ⟨a', ha', hab'⟩ := exists_left ⟨_, hall, .refl _⟩ hb'
      exact hST _ _ _ _ hab hab' (ha a' ha')

/-- If `a` takes any item that it is related to, the others can still be
matched, as long as each of them that loses its item accepts the one that `a`
had. -/
theorem tail {b : β} {rest : List β}
    (hswap : ∀ a' ∈ as, ∀ b', R a' b → R a b' → R a' b')
    (h : Matching R (a :: as) bs) (hperm : bs.Perm (b :: rest)) :
    Matching R as rest := by
  obtain ⟨a', as', has, hab, hrest⟩ := (h.perm_right hperm).uncons_right
  rcases List.mem_cons.mp (has.subset List.mem_cons_self) with rfl | hmem
  · exact hrest.perm_left has.cons_inv.symm
  · obtain ⟨s, t, rfl⟩ := List.append_of_mem hmem
    have hl : (s ++ a :: t).Perm (a :: (s ++ t)) := List.perm_middle
    have hrest' : as.Perm (a' :: (s ++ t)) :=
      (has.trans ((hl.cons a').trans (.swap a a' (s ++ t)))).cons_inv
    obtain ⟨b', bs'', hbs, hab', hl'⟩ := (hrest.perm_left hl).uncons_left
    have hab'' := hswap a' (hrest'.symm.subset List.mem_cons_self) b' hab hab'
    exact ((hl'.cons hab'').perm_left hrest'.symm).perm_right hbs.symm

end Matching

theorem FirstFit.matching {R : α → β → Prop} {as : List α} {bs : List β}
    (h : FirstFit R as bs) : Matching R as bs := by
  induction h with
  | nil => exact Matching.nil
  | cons _ hab _ ih => exact (ih.cons hab).perm_right List.perm_middle.symm

/-- Taking the first item that fits finds a matching if there is one, as long as
items on the left that share one item are related to the same items. -/
theorem Matching.firstFit {R : α → β → Prop} {as : List α} {bs : List β}
    (hswap : ∀ a ∈ as, ∀ a' ∈ as, ∀ b b', R a b → R a' b → R a b' → R a' b')
    (h : Matching R as bs) : FirstFit R as bs := by
  induction as generalizing bs with
  | nil =>
      rw [List.eq_nil_of_length_eq_zero h.length_eq.symm]
      exact .nil
  | cons a as ih =>
      obtain ⟨before, b, after, rfl, hbefore, hab⟩ :=
        exists_first (h.exists_right List.mem_cons_self)
      have hrest : Matching R as (before ++ after) :=
        h.tail (fun a' ha' b' ha'b hab' =>
          hswap a (by simp) a' (by simp [ha']) b b' hab ha'b hab')
            List.perm_middle
      exact .cons hbefore hab
        (ih (fun x hx y hy => hswap x (by simp [hx]) y (by simp [hy])) hrest)

end Concord
