import Concord.Expectation
import Mathlib.Data.List.Basic

/-!
# The worst verdict and its resolution

The worst verdict is the greatest one in the order from agreement to divergence,
so it does not depend on the order of the verdicts. An expected failure is
resolved by whether all verdicts are `same`, any other case by whether all are
agreements.
-/

namespace Concord

namespace Verdict

theorem rank_injective : Function.Injective rank := by
  intro a b h
  cases a <;> cases b <;> simp_all [rank]

theorem eq_same_iff {v : Verdict} : v = .same ↔ v.rank ≤ 0 := by
  cases v <;> decide

theorem isAgreement_iff {v : Verdict} : v.isAgreement = true ↔ v.rank ≤ 1 := by
  cases v <;> decide

theorem rank_worse (a b : Verdict) : (worse a b).rank = max a.rank b.rank := by
  unfold worse
  split <;> omega

theorem rank_foldl_worse_le_iff {vs : List Verdict} {v : Verdict} {n : Nat} :
    (vs.foldl worse v).rank ≤ n ↔ v.rank ≤ n ∧ ∀ w ∈ vs, w.rank ≤ n := by
  induction vs generalizing v with
  | nil => simp
  | cons w vs ih =>
      rw [List.foldl_cons, ih, rank_worse, Nat.max_le, List.forall_mem_cons,
        and_assoc]

theorem rank_worst_le_iff {vs : List Verdict} {n : Nat} :
    (worst vs).rank ≤ n ↔ ∀ v ∈ vs, v.rank ≤ n := by
  rw [worst, rank_foldl_worse_le_iff]
  exact and_iff_right (Nat.zero_le n)

theorem rank_le_rank_worst {vs : List Verdict} {v : Verdict} (hv : v ∈ vs) :
    v.rank ≤ (worst vs).rank :=
  rank_worst_le_iff.mp (Nat.le_refl _) v hv

theorem worst_eq_same_iff {vs : List Verdict} :
    worst vs = .same ↔ ∀ v ∈ vs, v = .same := by
  simp only [eq_same_iff, rank_worst_le_iff]

theorem isAgreement_worst_iff {vs : List Verdict} :
    (worst vs).isAgreement = true ↔ ∀ v ∈ vs, v.isAgreement = true := by
  simp only [isAgreement_iff, rank_worst_le_iff]

theorem foldl_worse_mem (vs : List Verdict) (v : Verdict) :
    vs.foldl worse v ∈ v :: vs := by
  induction vs generalizing v with
  | nil => simp
  | cons w vs ih =>
      have hworse : worse v w = v ∨ worse v w = w := by
        unfold worse
        split <;> simp
      rw [List.foldl_cons]
      rcases List.mem_cons.mp (ih (worse v w)) with hacc | hmem
      · rw [hacc]
        rcases hworse with h | h <;> simp [h]
      · exact List.mem_cons_of_mem v (List.mem_cons_of_mem w hmem)

theorem worst_mem {vs : List Verdict} (h : vs ≠ []) : worst vs ∈ vs := by
  rcases List.mem_cons.mp (foldl_worse_mem vs .same) with hsame | hmem
  -- the fold may have stayed at its start, but then every verdict is `same`
  · obtain ⟨v, hv⟩ := List.exists_mem_of_ne_nil vs h
    have hall := worst_eq_same_iff.mp hsame
    rw [show worst vs = .same from hsame, ← hall v hv]
    exact hv
  · exact hmem

theorem worst_eq_of_perm {vs ws : List Verdict} (h : vs.Perm ws) :
    worst vs = worst ws := by
  apply rank_injective
  apply Nat.le_antisymm
  · exact rank_worst_le_iff.mpr fun v hv => rank_le_rank_worst (h.subset hv)
  · exact rank_worst_le_iff.mpr fun v hv =>
      rank_le_rank_worst (h.symm.subset hv)

end Verdict

namespace Registry

variable {r : Registry} {function label : String}

theorem resolve_of_contains (h : r.contains function label = true)
    (v : Verdict) :
    r.resolve function label v =
      if v = .same then .unexpectedSuccess else .expectedFailure :=
  if_pos h

theorem resolve_of_not_contains (h : ¬r.contains function label = true)
    (v : Verdict) :
    r.resolve function label v = if v.isAgreement then .pass else .fail :=
  if_neg h

theorem resolve_congr {r' : Registry}
    (h : r.contains function label = r'.contains function label) (v : Verdict) :
    r.resolve function label v = r'.resolve function label v := by
  rw [resolve, resolve, h]

end Registry
end Concord
