import Concord.Proofs.Value.Agreement
import Mathlib.Data.List.Pairwise
import Mathlib.Data.List.Perm.Subperm

/-!
# Agreement is an equivalence on well-formed values

A value is *regular* when agreement behaves like an equivalence around it.
Whatever agrees with a regular value is regular, and a value is regular when
its children are and its keys are distinct. So every well-formed value is
regular, and agreement leads from well-formed values to well-formed values only.
-/

namespace Concord

/-! ## Regular members of a relation -/

/-- The relation behaves like an equivalence around `x`. -/
structure RegularAt {α : Type} (R : α → α → Prop) (x : α) : Prop where
  refl : R x x
  symm {y : α} : R x y → R y x
  congr {y : α} : R x y → ∀ z, R x z ↔ R y z

namespace RegularAt

variable {α β : Type} {R : α → α → Prop} {x y : α}

theorem of_rel (hx : RegularAt R x) (h : R x y) : RegularAt R y where
  refl := (hx.congr h y).mp h
  symm {z} hyz := by
    have hxz : R x z := (hx.congr h z).mpr hyz
    exact (hx.congr hxz y).mp h
  congr {z} hyz w := by
    have hxz : R x z := (hx.congr h z).mpr hyz
    exact (hx.congr h w).symm.trans (hx.congr hxz w)

/-- A relation is regular where it coincides with a partial equivalence `P`. -/
theorem of_partialEquivalence {P : α → α → Prop}
    (hsymm : ∀ {x y}, P x y → P y x) (htrans : ∀ {x y z}, P x y → P y z → P x z)
    (hlower : ∀ {x y}, P x y → R x y) (hlift : ∀ {x y}, P x x → R x y → P x y)
    (hx : P x x) : RegularAt R x where
  refl := hlower hx
  symm hxy := hlower (hsymm (hlift hx hxy))
  congr {y} hxy z := by
    have hP : P x y := hlift hx hxy
    constructor
    · intro hxz
      exact hlower (htrans (hsymm hP) (hlift hx hxz))
    · intro hyz
      exact hlower (htrans hP (hlift (htrans (hsymm hP) hP) hyz))

/-- Regularity passes to a relation that holds just as `R` does of contents. -/
theorem wrap {S : β → β → Prop} {f : α → β}
    (hf : ∀ {x b}, S (f x) b ↔ ∃ y, b = f y ∧ R x y) (hx : RegularAt R x) :
    RegularAt S (f x) where
  refl := hf.mpr ⟨x, rfl, hx.refl⟩
  symm h := by
    obtain ⟨y, rfl, hxy⟩ := hf.mp h
    exact hf.mpr ⟨x, rfl, hx.symm hxy⟩
  congr h b := by
    obtain ⟨y, rfl, hxy⟩ := hf.mp h
    rw [hf, hf]
    exact exists_congr fun z => and_congr_right fun _ => hx.congr hxy z

end RegularAt

/-- Two regular members are related. -/
def RegularRel {α : Type} (R : α → α → Prop) (x y : α) : Prop :=
  RegularAt R x ∧ R x y

namespace RegularRel

variable {α : Type} {R : α → α → Prop} {x y z : α}

theorem symm (h : RegularRel R x y) : RegularRel R y x :=
  ⟨h.1.of_rel h.2, h.1.symm h.2⟩

theorem trans (h : RegularRel R x y) (h' : RegularRel R y z) :
    RegularRel R x z :=
  ⟨h.1, (h.1.congr h.2 z).mpr h'.2⟩

end RegularRel

namespace Value

/-- Agreement behaves like an equivalence around the value. -/
abbrev Regular (v : Value) : Prop :=
  RegularAt Agree v

/-! ## Atoms and items -/

theorem regular_of_isAtom {a : Value} (ha : IsAtom a) : Regular a where
  refl := (agree_iff_meaning ha a).mpr rfl
  symm {b} h := by
    have hb := ha.of_agree h
    exact (agree_iff_meaning hb a).mpr ((agree_iff_meaning ha b).mp h).symm
  congr {b} h c := by
    have hb := ha.of_agree h
    rw [agree_iff_meaning ha, agree_iff_meaning hb,
      (agree_iff_meaning ha b).mp h]

theorem regular_inOrder {as : List Value} (has : ∀ a ∈ as, Regular a) :
    RegularAt (fun as bs => equivalentInOrder as bs = true) as := by
  refine .of_partialEquivalence
    (P := List.Forall₂ (RegularRel Agree)) ?_ ?_ ?_ ?_ ?_
  · intro xs ys h
    exact (h.imp fun _ _ => RegularRel.symm).flip
  · intro xs ys zs h
    induction h generalizing zs with
    | nil => exact id
    | cons hxy _ ih =>
        rintro (_ | ⟨hyz, hrest⟩)
        exact .cons (hxy.trans hyz) (ih hrest)
  · intro xs ys h
    exact equivalentInOrder_iff.mpr (h.imp fun _ _ => And.right)
  · intro xs ys hxs h
    have hregular : ∀ x ∈ xs, Regular x :=
      fun x hx => (List.forall₂_same.mp hxs x hx).1
    exact (List.forall₂_and_left xs ys).mpr
      ⟨hregular, equivalentInOrder_iff.mp h⟩
  · exact List.forall₂_same.mpr fun a ha => ⟨has a ha, (has a ha).refl⟩

/-- Matchings of regular items are found by first fit, and only they. -/
theorem equivalentUnordered_iff_matching {as bs : List Value}
    (has : ∀ a ∈ as, Regular a) :
    equivalentUnordered as bs = true ↔ Matching Agree as bs := by
  rw [equivalentUnordered_iff]
  constructor
  · exact FirstFit.matching
  · refine Matching.firstFit fun a ha a' ha' b b' hab ha'b hab' => ?_
    have hbb' : Agree b b' := ((has a ha).congr hab b').mp hab'
    exact ((has a' ha').congr ha'b b').mpr hbb'

theorem regular_unordered {as : List Value} (has : ∀ a ∈ as, Regular a) :
    RegularAt (fun as bs => equivalentUnordered as bs = true) as := by
  have hself {xs ys : List Value} (h : Matching (RegularRel Agree) xs ys) :
      ∀ x ∈ xs, Regular x := by
    intro x hx
    obtain ⟨y, -, hxy⟩ := h.exists_right hx
    exact hxy.1
  refine .of_partialEquivalence
    (P := Matching (RegularRel Agree)) ?_ ?_ ?_ ?_ ?_
  · intro xs ys h
    exact h.symm fun _ _ => RegularRel.symm
  · intro xs ys zs h h'
    exact h.trans (fun _ _ _ hxy hyz => hxy.trans hyz) h'
  · intro xs ys h
    exact (equivalentUnordered_iff_matching (hself h)).mpr
      (h.mono fun _ _ => And.right)
  · intro xs ys hxs h
    have hregular := hself hxs
    exact ((equivalentUnordered_iff_matching hregular).mp h).and_left hregular
  · exact ⟨as, List.forall₂_same.mpr fun a ha =>
      ⟨has a ha, (has a ha).refl⟩, .refl _⟩

/-! ## Entries -/

/-- No two entries have keys that agree. -/
def DistinctKeys (es : List (Value × Value)) : Prop :=
  es.Pairwise fun e f => ¬Agree e.1 f.1 ∧ ¬Agree f.1 e.1

theorem DistinctKeys.eq_of_agree {es : List (Value × Value)}
    (hes : DistinctKeys es) {e f : Value × Value} (he : e ∈ es) (hf : f ∈ es)
    (h : Agree e.1 f.1) : e = f := by
  have : Std.Symm fun e f : Value × Value => ¬Agree e.1 f.1 ∧ ¬Agree f.1 e.1 :=
    ⟨fun _ _ => And.symm⟩
  by_contra hne
  exact (hes.forall he hf hne).1 h

/-- Two entries with regular parts agree in their keys and in their values. -/
def RegularEntry (e f : Value × Value) : Prop :=
  RegularRel Agree e.1 f.1 ∧ RegularRel Agree e.2 f.2

theorem RegularEntry.symm {e f : Value × Value} (h : RegularEntry e f) :
    RegularEntry f e :=
  ⟨h.1.symm, h.2.symm⟩

theorem RegularEntry.trans {e f g : Value × Value} (h : RegularEntry e f)
    (h' : RegularEntry f g) : RegularEntry e g :=
  ⟨h.1.trans h'.1, h.2.trans h'.2⟩

section Entries

variable {as bs : List (Value × Value)}

theorem DistinctKeys.of_matching (has : DistinctKeys as)
    (h : Matching RegularEntry as bs) : DistinctKeys bs := by
  refine h.pairwise (fun e e' f f' hef hef' hne => ?_) And.symm has
  have hfe := hef.1.symm
  have hfe' := hef'.1.symm
  refine ⟨fun hff' => hne.1 ?_, fun hff' => hne.2 ?_⟩
  · exact (hef.1.trans (RegularRel.trans ⟨hfe.1, hff'⟩ hfe')).2
  · exact (hef'.1.trans (RegularRel.trans ⟨hfe'.1, hff'⟩ hfe)).2

theorem exists_forall₂ {α β : Type} {R : α → β → Prop} {xs : List α}
    (h : ∀ x ∈ xs, ∃ y, R x y) : ∃ ys, List.Forall₂ R xs ys := by
  induction xs with
  | nil => exact ⟨[], .nil⟩
  | cons x xs ih =>
      obtain ⟨⟨y, hxy⟩, hxs⟩ := List.forall_mem_cons.mp h
      obtain ⟨ys, hys⟩ := ih hxs
      exact ⟨y :: ys, .cons hxy hys⟩

/-- The lookup of distinct keys never takes an entry twice, so with equally many
entries on both sides it is a matching. -/
theorem matching_of_includesEntries (has : DistinctKeys as)
    (hregular : ∀ e ∈ as, Regular e.1 ∧ Regular e.2)
    (hlength : as.length = bs.length) (h : includesEntries as bs = true) :
    Matching RegularEntry as bs := by
  have hfound : ∀ e ∈ as, ∃ f, f ∈ bs ∧ RegularEntry e f := by
    intro e he
    obtain ⟨f, hfind, hvalue⟩ := includesEntries_iff.mp h e he
    obtain ⟨hkey, hval⟩ := hregular e he
    obtain ⟨hf, hagree⟩ := agree_of_find? hfind
    exact ⟨f, hf, ⟨hkey, hagree⟩, hval, hvalue⟩
  obtain ⟨fs, hfs⟩ := exists_forall₂ hfound
  have hmatching : Matching RegularEntry as fs :=
    ⟨fs, hfs.imp fun _ _ => And.right, .refl _⟩
  have hsubset : fs ⊆ bs := by
    intro f hf
    obtain ⟨e, -, hef⟩ := Matching.exists_left ⟨fs, hfs, .refl _⟩ hf
    exact hef.1
  have hnodup : fs.Nodup := by
    refine (has.of_matching hmatching).imp_of_mem fun {f g} hf _ hne => ?_
    rintro rfl
    obtain ⟨e, -, hef⟩ := hmatching.exists_left hf
    exact hne.1 hef.1.symm.1.refl
  refine hmatching.perm_right ((hnodup.subperm hsubset).perm_of_length_le ?_)
  rw [← hlength, hmatching.length_eq]

/-- A matching of entries is found by looking up the keys, if they are
distinct. -/
theorem includesEntries_of_matching (hbs : DistinctKeys bs)
    (h : Matching RegularEntry as bs) :
    as.length = bs.length ∧ includesEntries as bs = true := by
  refine ⟨h.length_eq, includesEntries_iff.mpr fun e he => ?_⟩
  obtain ⟨f, hf, hkey, hvalue⟩ := h.exists_right he
  obtain ⟨g, hg⟩ := exists_find?_of_agree hf hkey.2
  obtain ⟨hmem, hagree⟩ := agree_of_find? hg
  have hfg : Agree f.1 g.1 := (hkey.1.congr hkey.2 g.1).mp hagree
  rw [hbs.eq_of_agree hf hmem hfg] at hvalue
  exact ⟨g, hg, hvalue.2⟩

end Entries

theorem regular_entries {as : List (Value × Value)} (has : DistinctKeys as)
    (hregular : ∀ e ∈ as, Regular e.1 ∧ Regular e.2) :
    RegularAt (fun as bs => as.length = bs.length ∧
      includesEntries as bs = true) as := by
  refine .of_partialEquivalence (P := fun xs ys =>
    Matching RegularEntry xs ys ∧ DistinctKeys xs ∧ DistinctKeys ys) ?_
      ?_ ?_ ?_ ?_
  · rintro xs ys ⟨h, hxs, hys⟩
    exact ⟨h.symm fun _ _ => RegularEntry.symm, hys, hxs⟩
  · rintro xs ys zs ⟨h, hxs, -⟩ ⟨h', -, hzs⟩
    exact ⟨h.trans (fun _ _ _ hxy hyz => hxy.trans hyz) h', hxs, hzs⟩
  · rintro xs ys ⟨h, -, hys⟩
    exact includesEntries_of_matching hys h
  · rintro xs ys ⟨hself, hxs, -⟩ ⟨hlength, h⟩
    have hparts : ∀ e ∈ xs, Regular e.1 ∧ Regular e.2 := by
      intro e he
      obtain ⟨f, -, hkey, hvalue⟩ := hself.exists_right he
      exact ⟨hkey.1, hvalue.1⟩
    have hmatching := matching_of_includesEntries hxs hparts hlength h
    exact ⟨hmatching, hxs, hxs.of_matching hmatching⟩
  · refine ⟨⟨as, List.forall₂_same.mpr fun e he => ?_, .refl _⟩, has, has⟩
    obtain ⟨hkey, hvalue⟩ := hregular e he
    exact ⟨⟨hkey, hkey.refl⟩, hvalue, hvalue.refl⟩

/-! ## Well-formed values -/

/-- The value, if it is a dictionary, has distinct keys. -/
def HasDistinctKeys : Value → Prop
  | .dict entries => DistinctKeys entries
  | _ => True

/-- Every dictionary in the value, at any depth and inside keys too, has
distinct keys. -/
inductive WellFormed : Value → Prop where
  | intro {v : Value} (keys : HasDistinctKeys v)
      (children : ∀ u ∈ v.children, WellFormed u) : WellFormed v

theorem regular_of_children {a : Value} (hkeys : HasDistinctKeys a)
    (hchildren : ∀ u ∈ a.children, Regular u) : Regular a := by
  cases a with
  | list as => exact (regular_inOrder hchildren).wrap agree_list_iff
  | tuple as => exact (regular_inOrder hchildren).wrap agree_tuple_iff
  | set as => exact (regular_unordered hchildren).wrap agree_set_iff
  | frozenSet as => exact (regular_unordered hchildren).wrap agree_frozenSet_iff
  | dict es =>
      refine (regular_entries hkeys fun e he => ⟨?_, ?_⟩).wrap agree_dict_iff
      · exact hchildren _ (key_mem_children he)
      · exact hchildren _ (value_mem_children he)
  | call f as => exact (regular_inOrder hchildren).wrap agree_call_iff
  | _ => exact regular_of_isAtom trivial

theorem WellFormed.regular {v : Value} (h : WellFormed v) : Regular v := by
  induction h with
  | intro keys _ ih => exact regular_of_children keys ih

theorem IsAtom.hasDistinctKeys {v : Value} (h : IsAtom v) :
    HasDistinctKeys v := by
  cases v with
  | dict _ => exact h.elim
  | _ => trivial

theorem IsAtom.wellFormed {v : Value} (h : IsAtom v) : WellFormed v := by
  refine .intro h.hasDistinctKeys ?_
  rw [h.children_eq]
  exact nofun

/-- What agrees with a well-formed value has distinct keys, and each of its
children agrees with a child of that value. -/
theorem WellFormed.children_of_agree {a b : Value} (ha : WellFormed a)
    (h : Agree a b) :
    HasDistinctKeys b ∧ ∀ v ∈ b.children, ∃ u ∈ a.children, Agree u v := by
  obtain ⟨hkeys, hchildren⟩ := ha
  have hinOrder {as bs : List Value} (h : equivalentInOrder as bs = true) :
      ∀ v ∈ bs, ∃ u ∈ as, Agree u v := fun v hv =>
    Matching.exists_left ⟨bs, equivalentInOrder_iff.mp h, .refl _⟩ hv
  have hunordered {as bs : List Value} (h : equivalentUnordered as bs = true) :
      ∀ v ∈ bs, ∃ u ∈ as, Agree u v := fun v hv =>
    (equivalentUnordered_iff.mp h).matching.exists_left hv
  cases a with
  | list as =>
      obtain ⟨bs, rfl, hbs⟩ := agree_list_iff.mp h
      exact ⟨trivial, hinOrder hbs⟩
  | tuple as =>
      obtain ⟨bs, rfl, hbs⟩ := agree_tuple_iff.mp h
      exact ⟨trivial, hinOrder hbs⟩
  | set as =>
      obtain ⟨bs, rfl, hbs⟩ := agree_set_iff.mp h
      exact ⟨trivial, hunordered hbs⟩
  | frozenSet as =>
      obtain ⟨bs, rfl, hbs⟩ := agree_frozenSet_iff.mp h
      exact ⟨trivial, hunordered hbs⟩
  | call f as =>
      obtain ⟨bs, rfl, hbs⟩ := agree_call_iff.mp h
      exact ⟨trivial, hinOrder hbs⟩
  | dict as =>
      obtain ⟨bs, rfl, hlength, hbs⟩ := agree_dict_iff.mp h
      have hmatching := matching_of_includesEntries hkeys
        (fun e he => ⟨(hchildren _ (key_mem_children he)).regular,
          (hchildren _ (value_mem_children he)).regular⟩) hlength hbs
      refine ⟨DistinctKeys.of_matching hkeys hmatching, fun v hv => ?_⟩
      obtain ⟨f, hf, hv⟩ := mem_children_dict.mp hv
      obtain ⟨e, he, hkey, hvalue⟩ := hmatching.exists_left hf
      rcases hv with rfl | rfl
      · exact ⟨e.1, key_mem_children he, hkey.2⟩
      · exact ⟨e.2, value_mem_children he, hvalue.2⟩
  | _ =>
      have hb : IsAtom b := by
        refine IsAtom.of_agree ?_ h
        trivial
      refine ⟨hb.hasDistinctKeys, ?_⟩
      rw [hb.children_eq]
      exact nofun

/-- What agrees with a well-formed value is well formed. -/
theorem WellFormed.of_agree {a b : Value} (ha : WellFormed a) (h : Agree a b) :
    WellFormed b := by
  induction ha generalizing b with
  | intro keys children ih =>
      obtain ⟨hkeys, hparts⟩ :=
        (WellFormed.intro keys children).children_of_agree h
      refine .intro hkeys fun v hv => ?_
      obtain ⟨u, hu, huv⟩ := hparts v hv
      exact ih u hu huv

/-- Agreement is an equivalence on well-formed values. -/
theorem equivalence_on_wellFormed :
    Equivalence fun a b : { v : Value // WellFormed v } =>
      a.1.equivalent b.1 = true where
  refl a := a.2.regular.refl
  symm {a _} hab := a.2.regular.symm hab
  trans {a _ c} hab hbc := (a.2.regular.congr hab c.1).mpr hbc

theorem wellFormed_dict_of_isAtom {es : List (Value × Value)}
    (hkeys : DistinctKeys es) (h : ∀ e ∈ es, IsAtom e.1 ∧ IsAtom e.2) :
    WellFormed (.dict es) := by
  refine .intro hkeys fun v hv => ?_
  obtain ⟨e, he, rfl | rfl⟩ := mem_children_dict.mp hv
  · exact (h e he).1.wellFormed
  · exact (h e he).2.wellFormed

/-- Two dictionaries in different order, one with a whole number as a float, are
well formed and agree in both directions. -/
theorem equivalence_on_wellFormed_reordered :
    ∃ a b : { v : Value // WellFormed v },
      a.1 = .dict [(.int 1, .str "x"), (.str "k", .float .nan)] ∧
      b.1 =
        .dict [(.str "k", .float .nan), (.float (Binary64.ofInt 1), .str "x")] ∧
      a.1.equivalent b.1 = true ∧ b.1.equivalent a.1 = true := by
  have ha : WellFormed (.dict [(.int 1, .str "x"), (.str "k", .float .nan)]) :=
    wellFormed_dict_of_isAtom (by simp [DistinctKeys, Agree, equivalent])
      (by simp [IsAtom])
  have hb : WellFormed
      (.dict [(.str "k", .float .nan),
        (.float (Binary64.ofInt 1), .str "x")]) :=
    wellFormed_dict_of_isAtom (by simp [DistinctKeys, Agree, equivalent])
      (by simp [IsAtom])
  have hab : equivalent (.dict [(.int 1, .str "x"), (.str "k", .float .nan)])
      (.dict [(.str "k", .float .nan), (.float (Binary64.ofInt 1), .str "x")]) =
        true := by
    decide +kernel
  have hba := equivalence_on_wellFormed.symm (x := ⟨_, ha⟩) (y := ⟨_, hb⟩) hab
  exact ⟨⟨_, ha⟩, ⟨_, hb⟩, rfl, rfl, hab, hba⟩

end Value
end Concord
