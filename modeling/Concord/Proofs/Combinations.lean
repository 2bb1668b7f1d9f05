import Concord.Run.Case
import Mathlib.Algebra.BigOperators.Group.List.Basic
import Mathlib.Data.List.Nodup

/-!
# Combinations

The combinations of a list of pools are all lists with one item of each pool.
The number of a combination, written with the sizes of the pools as its radices,
gives the places of its items.
-/

namespace Concord

variable {α β : Type}

/-- The item at place `j` of block `i`, where all blocks have one length. -/
theorem getElem?_flatMap_of_length {f : α → List β} {n : Nat} {as : List α}
    (hlength : ∀ a ∈ as, (f a).length = n) (i : Nat) {j : Nat} (hj : j < n) :
    (as.flatMap f)[i * n + j]? = as[i]?.bind fun a => (f a)[j]? := by
  induction as generalizing i with
  | nil => simp
  | cons a as ih =>
      obtain ⟨ha, has⟩ := List.forall_mem_cons.mp hlength
      rw [List.flatMap_cons]
      cases i with
      | zero =>
          rw [List.getElem?_append_left (by omega)]
          simp
      | succ i =>
          have hplace : (i + 1) * n + j - (f a).length = i * n + j := by
            rw [ha, Nat.succ_mul]
            omega
          have hle : (f a).length ≤ (i + 1) * n + j := by
            rw [ha, Nat.succ_mul]
            omega
          rw [List.getElem?_append_right hle, hplace, ih has]
          simp

theorem length_combinations (pools : List (List α)) :
    (combinations pools).length = (pools.map List.length).prod := by
  induction pools with
  | nil => rfl
  | cons pool rest ih => simp [combinations, List.length_flatMap, ih]

theorem mem_combinations {items : List α} {pools : List (List α)} :
    items ∈ combinations pools ↔ List.Forall₂ (· ∈ ·) items pools := by
  induction pools generalizing items with
  | nil => simp [combinations]
  | cons pool rest ih =>
      rw [combinations, List.mem_flatMap]
      constructor
      · rintro ⟨item, hitem, hmem⟩
        obtain ⟨others, hothers, rfl⟩ := List.mem_map.mp hmem
        exact .cons hitem (ih.mp hothers)
      · rintro (_ | ⟨hitem, hothers⟩)
        exact ⟨_, hitem, List.mem_map.mpr ⟨_, ih.mpr hothers, rfl⟩⟩

theorem exists_pool_of_mem_combinations {items : List α} {pools : List (List α)}
    (h : items ∈ combinations pools) {item : α} (hitem : item ∈ items) :
    ∃ pool ∈ pools, item ∈ pool := by
  obtain ⟨hlength, hget⟩ := List.forall₂_iff_get.mp (mem_combinations.mp h)
  obtain ⟨i, hi, rfl⟩ := List.getElem_of_mem hitem
  exact ⟨pools[i], List.getElem_mem _, hget i hi (hlength ▸ hi)⟩

theorem mem_combinations_replicate {items pool : List α} {n : Nat} :
    items ∈ combinations (List.replicate n pool) ↔
      items.length = n ∧ ∀ item ∈ items, item ∈ pool := by
  rw [mem_combinations]
  induction n generalizing items with
  | zero => cases items <;> simp
  | succ n ih =>
      cases items with
      | nil => simp [List.replicate_succ]
      | cons item items => simp [List.replicate_succ, ih, and_left_comm]

theorem nodup_combinations {pools : List (List α)}
    (h : ∀ pool ∈ pools, pool.Nodup) : (combinations pools).Nodup := by
  induction pools with
  | nil => simp [combinations]
  | cons pool rest ih =>
      obtain ⟨hpool, hrest⟩ := List.forall_mem_cons.mp h
      rw [combinations, List.nodup_flatMap]
      refine ⟨fun item _ => (ih hrest).map List.cons_injective, ?_⟩
      refine hpool.imp fun {a b} hne items hitem hitem' => hne ?_
      obtain ⟨_, -, rfl⟩ := List.mem_map.mp hitem
      obtain ⟨_, -, heq⟩ := List.mem_map.mp hitem'
      exact (List.cons.inj heq).1.symm

/-- The first pool varies slowest. -/
theorem getElem?_combinations_cons (pool : List α) (rest : List (List α))
    (i : Nat) {j : Nat} (hj : j < (combinations rest).length) :
    (combinations (pool :: rest))[i * (combinations rest).length + j]? =
      pool[i]?.bind fun item => (combinations rest)[j]?.map (item :: ·) := by
  rw [combinations,
    getElem?_flatMap_of_length (fun a _ => List.length_map _) i hj]
  simp

/-- One item of each pool: the digits of `i` are their places, the last pool
varying fastest. -/
def combinationAt : List (List α) → Nat → Option (List α)
  | [], i => if i = 0 then some [] else none
  | pool :: rest, i =>
      let block := (rest.map List.length).prod
      pool[i / block]?.bind fun item =>
        (combinationAt rest (i % block)).map (item :: ·)

theorem getElem?_combinations (pools : List (List α)) (i : Nat) :
    (combinations pools)[i]? = combinationAt pools i := by
  induction pools generalizing i with
  | nil => cases i <;> simp [combinations, combinationAt]
  | cons pool rest ih =>
      rw [combinationAt, ← length_combinations rest, ← ih]
      rcases Nat.eq_zero_or_pos (combinations rest).length with hzero | hpos
      · rw [List.length_eq_zero_iff] at hzero
        simp [combinations, hzero]
      · rw [← getElem?_combinations_cons pool rest _ (Nat.mod_lt i hpos),
          Nat.div_add_mod']

end Concord
