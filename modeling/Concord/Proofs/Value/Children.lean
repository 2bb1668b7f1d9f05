import Concord.Value.Basic

/-!
# Induction on values

The values directly inside a value are lower than it, so a property passes from
them to every value.
-/

namespace Concord
namespace Value

/-- The values directly inside a value; of entries, the keys and the values. -/
def children : Value → List Value
  | .list items | .tuple items | .set items | .frozenSet items => items
  | .dict entries => entries.flatMap fun e => [e.1, e.2]
  | .call _ args => args
  | _ => []

theorem height_le_of_mem {v : Value} {vs : List Value} (h : v ∈ vs) :
    v.height ≤ heightOfItems vs := by
  induction vs with
  | nil => exact absurd h List.not_mem_nil
  | cons u vs ih =>
      rw [heightOfItems]
      rcases List.mem_cons.mp h with rfl | h
      · exact Nat.le_max_left _ _
      · exact Nat.le_trans (ih h) (Nat.le_max_right _ _)

theorem height_le_of_mem_entries {e : Value × Value} {es : List (Value × Value)}
    (h : e ∈ es) : max e.1.height e.2.height ≤ heightOfEntries es := by
  induction es with
  | nil => exact absurd h List.not_mem_nil
  | cons u es ih =>
      rw [heightOfEntries]
      rcases List.mem_cons.mp h with rfl | h
      · exact Nat.le_max_left _ _
      · exact Nat.le_trans (ih h) (Nat.le_max_right _ _)

theorem mem_children_dict {v : Value} {es : List (Value × Value)} :
    v ∈ (Value.dict es).children ↔ ∃ e ∈ es, v = e.1 ∨ v = e.2 := by
  simp [children]

theorem key_mem_children {e : Value × Value} {es : List (Value × Value)}
    (h : e ∈ es) : e.1 ∈ (Value.dict es).children :=
  mem_children_dict.mpr ⟨e, h, Or.inl rfl⟩

theorem value_mem_children {e : Value × Value} {es : List (Value × Value)}
    (h : e ∈ es) : e.2 ∈ (Value.dict es).children :=
  mem_children_dict.mpr ⟨e, h, Or.inr rfl⟩

theorem height_lt_of_mem_children {u v : Value} (h : u ∈ v.children) :
    u.height < v.height := by
  cases v with
  | list items | tuple items | set items | frozenSet items | call _ items =>
      rw [height]
      exact Nat.lt_succ_of_le (height_le_of_mem h)
  | dict entries =>
      obtain ⟨e, he, hu⟩ := mem_children_dict.mp h
      have hle := height_le_of_mem_entries he
      rw [height]
      rcases hu with rfl | rfl
      · exact Nat.lt_succ_of_le (Nat.le_trans (Nat.le_max_left _ _) hle)
      · exact Nat.lt_succ_of_le (Nat.le_trans (Nat.le_max_right _ _) hle)
  | _ => exact absurd h List.not_mem_nil

/-- A property that passes from the children of a value to the value holds of
every value. -/
theorem induction_on_children {P : Value → Prop} (v : Value)
    (step : ∀ v, (∀ u ∈ v.children, P u) → P v) : P v :=
  step v fun u _ => induction_on_children u step
termination_by v.height
decreasing_by exact height_lt_of_mem_children ‹_›

end Value
end Concord
