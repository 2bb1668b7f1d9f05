import Concord.Backend
import Mathlib.Data.List.Forall2

/-!
# Executions

How a composed execution runs, what it gives when all its parts succeed, and
when its outcome does not depend on the state it starts from.
-/

namespace Concord

variable {σ α β ε : Type}

/-! ## Results of the items of a list -/

theorem map_eq_map_iff_forall₂ {γ : Type} {f : α → γ} {g : β → γ} {as : List α}
    {bs : List β} :
    as.map f = bs.map g ↔ List.Forall₂ (fun a b => f a = g b) as bs := by
  rw [← List.forall₂_eq_eq_eq, List.forall₂_map_left_iff,
    List.forall₂_map_right_iff]

theorem bind_eq_ok_iff {x : Except ε α} {f : α → Except ε β} {b : β} :
    x >>= f = .ok b ↔ ∃ a, x = .ok a ∧ f a = .ok b := by
  cases x <;> simp [bind, Except.bind]

theorem bind_eq_error_iff {x : Except ε α} {f : α → Except ε β} {e : ε} :
    x >>= f = .error e ↔ x = .error e ∨ ∃ a, x = .ok a ∧ f a = .error e := by
  cases x <;> simp [bind, Except.bind]

theorem mapError_eq_ok_iff {ε' : Type} {x : Except ε α} {f : ε → ε'} {a : α} :
    x.mapError f = .ok a ↔ x = .ok a := by
  cases x <;> simp [Except.mapError]

theorem mapM_eq_ok_iff {f : α → Except ε β} {as : List α} {bs : List β} :
    as.mapM f = .ok bs ↔ as.map f = bs.map .ok := by
  induction as generalizing bs with
  | nil => simp [pure, Except.pure, eq_comm]
  | cons a as ih =>
      simp only [List.mapM_cons, bind_eq_ok_iff, ih, List.map_cons]
      constructor
      · rintro ⟨b, hb, bs, hbs, hpure⟩
        cases hpure
        rw [hb, hbs, List.map_cons]
      · intro h
        cases bs with
        | nil => exact nomatch h
        | cons b bs =>
            obtain ⟨hb, hbs⟩ := List.cons.inj h
            exact ⟨b, hb, bs, hbs, rfl⟩

/-- The list stops with the error of an item after items that all succeed. -/
theorem mapM_eq_error_iff {f : α → Except ε β} {as : List α} {e : ε} :
    as.mapM f = .error e ↔ ∃ before a after, as = before ++ a :: after ∧
      (∀ x ∈ before, ∃ b, f x = .ok b) ∧ f a = .error e := by
  induction as with
  | nil =>
      constructor
      · intro h
        exact nomatch h
      · rintro ⟨before, a, after, hnil, -⟩
        simp at hnil
  | cons a as ih =>
      rw [List.mapM_cons, bind_eq_error_iff]
      constructor
      · rintro (ha | ⟨b, hb, hrest⟩)
        · exact ⟨[], a, as, rfl, List.forall_mem_nil _, ha⟩
        · rcases bind_eq_error_iff.mp hrest with has | ⟨bs, -, hpure⟩
          · obtain ⟨before, x, after, rfl, hbefore, hx⟩ := ih.mp has
            exact ⟨a :: before, x, after, rfl,
              List.forall_mem_cons.mpr ⟨⟨b, hb⟩, hbefore⟩, hx⟩
          · exact nomatch hpure
      · rintro ⟨before, x, after, heq, hbefore, hx⟩
        cases before with
        | nil =>
            cases heq
            exact .inl hx
        | cons y before =>
            obtain ⟨rfl, rfl⟩ := List.cons.inj heq
            obtain ⟨⟨b, hb⟩, hrest⟩ := List.forall_mem_cons.mp hbefore
            have has := ih.mpr ⟨before, x, after, rfl, hrest, hx⟩
            exact .inr ⟨b, hb, bind_eq_error_iff.mpr (.inl has)⟩

theorem exists_of_mapM_eq_error {f : α → Except ε β} {as : List α} {e : ε}
    (h : as.mapM f = .error e) : ∃ a ∈ as, f a = .error e := by
  obtain ⟨before, a, after, rfl, -, ha⟩ := mapM_eq_error_iff.mp h
  exact ⟨a, List.mem_append_right before List.mem_cons_self, ha⟩

namespace Execution

/-! ## How executions run -/

@[simp] theorem runOn_pure (a : α) (s : σ) :
    (pure a : Execution σ α).runOn s = (.ok a, s) := rfl

theorem runOn_bind (x : Execution σ α) (f : α → Execution σ β) (s : σ) :
    (x >>= f).runOn s =
      match x.runOn s with
      | (.ok a, t) => (f a).runOn t
      | (.error stop, t) => (.error stop, t) := by
  unfold runOn
  rw [ExceptT.run_bind, StateT.run_bind]
  cases x.run.run s with
  | mk r t => cases r <;> rfl

@[simp] theorem runOn_ofExcept (toFault : ε → Fault) (x : Except ε α) (s : σ) :
    (ofExcept toFault x : Execution σ α).runOn s =
      (x.mapError fun e => .fault (toFault e), s) := by
  cases x <;> rfl

theorem runOn_ofExcept_eq_ok_iff {toFault : ε → Fault} {x : Except ε α} {a : α}
    {s t : σ} :
    (ofExcept toFault x : Execution σ α).runOn s = (.ok a, t) ↔
      x = .ok a ∧ s = t := by
  rw [runOn_ofExcept]
  cases x <;> simp [Except.mapError]

theorem runOn_bind_eq_ok_iff {x : Execution σ α} {f : α → Execution σ β} {b : β}
    {s t : σ} :
    (x >>= f).runOn s = (.ok b, t) ↔
      ∃ a u, x.runOn s = (.ok a, u) ∧ (f a).runOn u = (.ok b, t) := by
  rw [runOn_bind]
  rcases x.runOn s with ⟨_ | a, u⟩ <;> simp

/-- Where a list of executions succeeds, each of them ran from some state. -/
theorem forall₂_of_runOn_mapM {f : α → Execution σ β} {as : List α}
    {bs : List β} {s t : σ} (h : (as.mapM f).runOn s = (.ok bs, t)) :
    List.Forall₂ (fun a b => ∃ u v, (f a).runOn u = (.ok b, v)) as bs := by
  induction as generalizing s bs with
  | nil => cases h; exact .nil
  | cons a as ih =>
      rw [List.mapM_cons, runOn_bind_eq_ok_iff] at h
      obtain ⟨b, u, hb, hrest⟩ := h
      obtain ⟨bs', v, hbs, hpure⟩ := runOn_bind_eq_ok_iff.mp hrest
      cases hpure
      exact .cons ⟨s, u, hb⟩ (ih hbs)

theorem runOn_bind_eq_error {x : Execution σ α} {f : α → Execution σ β}
    {stop : Stop} {s : σ} (h : ((x >>= f).runOn s).1 = .error stop) :
    (x.runOn s).1 = .error stop ∨
      ∃ a t, ((f a).runOn t).1 = .error stop := by
  rw [runOn_bind] at h
  generalize x.runOn s = y at h
  obtain ⟨stop' | a, t⟩ := y
  · exact .inl (congrArg Except.error (Except.error.inj h))
  · exact .inr ⟨a, t, h⟩

/-- Where a list of executions stops, one of them stops. -/
theorem exists_of_runOn_mapM_eq_error {f : α → Execution σ β} {as : List α}
    {stop : Stop} {s : σ} (h : ((as.mapM f).runOn s).1 = .error stop) :
    ∃ a ∈ as, ∃ u, ((f a).runOn u).1 = .error stop := by
  induction as generalizing s with
  | nil => exact nomatch h
  | cons a as ih =>
      rw [List.mapM_cons] at h
      rcases runOn_bind_eq_error h with hfirst | ⟨b, t, hrest⟩
      · exact ⟨a, List.mem_cons_self, s, hfirst⟩
      · rcases runOn_bind_eq_error hrest with has | ⟨bs, u, hpure⟩
        · obtain ⟨a', ha', hstop⟩ := ih has
          exact ⟨a', List.mem_cons_of_mem a ha', hstop⟩
        · exact nomatch hpure

/-! ## Outcomes that do not depend on the state -/

/-- The outcome is the same from every state. -/
def Yields (x : Execution σ α) (r : Except Stop α) : Prop :=
  ∀ s, (x.runOn s).1 = r

theorem yields_pure (a : α) : (pure a : Execution σ α).Yields (.ok a) :=
  fun _ => rfl

theorem Yields.bind {x : Execution σ α} {f : α → Execution σ β}
    {r : Except Stop α} {g : α → Except Stop β} (hx : x.Yields r)
    (hf : ∀ a, (f a).Yields (g a)) : (x >>= f).Yields (r >>= g) := by
  intro s
  have hr := hx s
  rw [runOn_bind]
  generalize x.runOn s = y at hr
  obtain ⟨_ | a, t⟩ := y
  · rw [← hr]
    rfl
  · rw [← hr]
    exact hf a t

theorem Yields.mapM {f : α → Execution σ β} {g : α → Except Stop β}
    {as : List α} (hf : ∀ a ∈ as, (f a).Yields (g a)) :
    (as.mapM f).Yields (as.mapM g) := by
  induction as with
  | nil => exact yields_pure []
  | cons a as ih =>
      obtain ⟨ha, has⟩ := List.forall_mem_cons.mp hf
      simp only [List.mapM_cons]
      exact ha.bind fun b => (ih has).bind fun bs => yields_pure (b :: bs)

/-- The outcome is the same from every state, and it is no panic. -/
def Determined (x : Execution σ α) : Prop :=
  ∃ r : Except Fault α, x.Yields (r.mapError .fault)

theorem determined_pure (a : α) : (pure a : Execution σ α).Determined :=
  ⟨.ok a, yields_pure a⟩

theorem determined_ofExcept (toFault : ε → Fault) (x : Except ε α) :
    (ofExcept toFault x : Execution σ α).Determined := by
  refine ⟨x.mapError toFault, fun s => ?_⟩
  cases x <;> rfl

theorem Determined.bind {x : Execution σ α} {f : α → Execution σ β}
    (hx : x.Determined) (hf : ∀ a, (f a).Determined) :
    (x >>= f).Determined := by
  obtain ⟨r, hr⟩ := hx
  choose g hg using hf
  refine ⟨r >>= g, ?_⟩
  have heq : (r >>= g).mapError Stop.fault =
      r.mapError .fault >>= fun a => (g a).mapError .fault := by
    cases r <;> rfl
  rw [heq]
  exact hr.bind hg

/-- The outcome is the same from every state; it may be a panic. -/
def Stateless (x : Execution σ α) : Prop :=
  ∃ r, x.Yields r

theorem stateless_pure (a : α) : (pure a : Execution σ α).Stateless :=
  ⟨.ok a, yields_pure a⟩

theorem Stateless.bind {x : Execution σ α} {f : α → Execution σ β}
    (hx : x.Stateless) (hf : ∀ a, (f a).Stateless) : (x >>= f).Stateless := by
  obtain ⟨r, hr⟩ := hx
  choose g hg using hf
  exact ⟨r >>= g, hr.bind hg⟩

theorem Determined.stateless {x : Execution σ α} (h : x.Determined) :
    x.Stateless := by
  obtain ⟨r, hr⟩ := h
  exact ⟨r.mapError .fault, hr⟩

theorem Stateless.yields_of_ok {x : Execution σ α} (h : x.Stateless) {s t : σ}
    {a : α} (hx : x.runOn s = (.ok a, t)) : x.Yields (.ok a) := by
  obtain ⟨r, hr⟩ := h
  obtain rfl : r = .ok a := by rw [← hr s, hx]
  exact hr

/-! ## Properties that pass from the steps of an execution to the whole -/

/-- The property holds of what returns at once, and of an execution whose steps
have it. -/
structure Composed (P : ∀ α : Type, Execution σ α → Prop) : Prop where
  pure : ∀ {α : Type} (a : α), P α (pure a)
  bind : ∀ {α β : Type} {x : Execution σ α} {f : α → Execution σ β},
    P α x → (∀ a, P β (f a)) → P β (x >>= f)

theorem Composed.mapM {P : ∀ α : Type, Execution σ α → Prop} (hP : Composed P)
    {f : α → Execution σ β} {as : List α} (hf : ∀ a ∈ as, P β (f a)) :
    P (List β) (as.mapM f) := by
  induction as with
  | nil => exact hP.pure []
  | cons a as ih =>
      obtain ⟨ha, has⟩ := List.forall_mem_cons.mp hf
      rw [List.mapM_cons]
      exact hP.bind ha fun b => hP.bind (ih has) fun bs => hP.pure (b :: bs)

/-- The property holds of what returns or stops at once, and of an execution
whose steps have it. -/
structure Closed (P : ∀ α : Type, Execution σ α → Prop) : Prop where
  pure : ∀ {α : Type} (a : α), P α (pure a)
  ofExcept : ∀ {α ε : Type} (toFault : ε → Fault) (x : Except ε α),
    P α (ofExcept toFault x)
  bind : ∀ {α β : Type} {x : Execution σ α} {f : α → Execution σ β},
    P α x → (∀ a, P β (f a)) → P β (x >>= f)

theorem Closed.composed {P : ∀ α : Type, Execution σ α → Prop} (hP : Closed P) :
    Composed P where
  pure := hP.pure
  bind := hP.bind

theorem closed_determined :
    Closed fun α (x : Execution σ α) => x.Determined where
  pure := determined_pure
  ofExcept := determined_ofExcept
  bind := Determined.bind

theorem closed_stateless : Closed fun α (x : Execution σ α) => x.Stateless where
  pure := stateless_pure
  ofExcept toFault x := (determined_ofExcept toFault x).stateless
  bind := Stateless.bind

end Execution
end Concord
