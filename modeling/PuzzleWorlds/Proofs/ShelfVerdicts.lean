import PuzzleWorlds.Proofs.SwapBudget
import PuzzleWorlds.Proofs.TakenActions
import PuzzleWorlds.Proofs.WorldBounds

/-! Verdicts on the shelf. Swaps only rearrange the potions, so a shelf on which no neighbours are
out of order holds them sorted, and there is one such shelf, equal potions or not. A swap that is
refused is not counted, and none stops the replay, whatever its payload holds. -/

namespace PuzzleWorlds

/-- Values that have no order are of the wrong type. -/
theorem Value.kind_of_ordered {c : Comparison} {a b : Value} {m : Misfit}
    (failed : ordered c a b = .error m) : m.kind = .type := by
  unfold ordered at failed
  split at failed
  next => cases failed
  next =>
    cases failed
    rfl

namespace Sorting

namespace World

theorem kind_of_within {v : Value} {n : Nat} {m : Misfit} (failed : within v n = .error m) :
    m.kind = .type := by
  obtain low | ⟨inside, _, high⟩ := bind_eq_error.mp failed
  · exact Value.kind_of_ordered low
  · cases inside with
    | false => cases high
    | true => exact Value.kind_of_ordered high

theorem kind_of_placeOf {v : Value} {m : Misfit} (failed : placeOf v = .error m) :
    m.kind = .type := by
  unfold placeOf at failed
  split at failed
  next => cases failed
  next =>
    cases failed
    rfl

/-- A swap fails on nothing but a place of the wrong type. -/
theorem kind_of_swap {w : World} {first second : Value} {m : Misfit}
    (failed : w.swap first second = .error m) : m.kind = .type := by
  unfold swap at failed
  dsimp only at failed
  split at failed
  next => cases failed
  next =>
    obtain odd | ⟨inside, _, failed⟩ := bind_eq_error.mp failed
    · exact kind_of_within odd
    cases inside with
    | false => cases failed
    | true =>
      obtain odd | ⟨inside, _, failed⟩ := bind_eq_error.mp failed
      · exact kind_of_within odd
      cases inside with
      | false => cases failed
      | true =>
        obtain odd | ⟨_, _, failed⟩ := bind_eq_error.mp failed
        · exact kind_of_placeOf odd
        obtain odd | ⟨_, _, failed⟩ := bind_eq_error.mp failed
        · exact kind_of_placeOf odd
        cases failed

/-- Every action either changes the shelf or is refused. -/
theorem exists_apply (w : World) (a : Action) : ∃ r, Domain.apply .sorting w a = .ok r := by
  unfold Domain.apply
  cases reaction : Domain.react .sorting w a with
  | ok r => exact ⟨r, rfl⟩
  | error m =>
    have kind : m.kind = .type := by
      change w.react a = .error m at reaction
      unfold react at reaction
      split at reaction
      next => exact kind_of_swap reaction
      next => cases reaction
    exact ⟨.refused (.misfit m), by rw [Reaction.settle, kind]⟩

/-- The shelf at the end of a replay is a rearrangement of the one before it, and its swaps are
those that were taken. -/
theorem replayed_swaps {w v : World} {log log' : ActionLog} {t : Trace}
    (replayed : Domain.replay .sorting w log t = .ok (v, log')) :
    v.potions.Perm w.potions ∧ v.swaps = w.swaps +
      (Domain.taken .sorting w t).countP fun p => p.2.kind == .swap := by
  refine Domain.taken_induction (d := .sorting) (M := fun (w : World) made (v : World) =>
    v.potions.Perm w.potions ∧ v.swaps = w.swaps + made.countP fun p => p.2.kind == .swap)
    (fun w => ⟨.refl _, rfl⟩) (fun {w v u a changes rest} taken later => ?_) replayed
  obtain ⟨kind, i, j, rfl⟩ := react_changed taken
  refine ⟨later.1.trans (exchange_perm _ i j), ?_⟩
  rw [later.2, List.countP_cons, if_pos (by simp [kind])]
  dsimp only
  omega

end World

/-- Whatever actions there are, they can be replayed and judged, and the verdict is a success
exactly if the shelf ends up sorted and no more swaps than allowed were taken. -/
theorem sorted_verdict_iff {l : Level} {order : SortOrder} {maxSwaps : Option Int}
    (aim : l.goal = .sortedWithBudget order maxSwaps) (t : Trace) :
    ∃ (w : World) (log : ActionLog) (verdict : Verdict),
      Domain.replay .sorting (World.initial l) Domain.sorting.newLog t = .ok (w, log) ∧
      Domain.checkGoal .sorting l w log = .ok verdict ∧
      (verdict.success = true ↔ w.potions = sorted order l.potions ∧ ∀ k, maxSwaps = some k →
        (((Domain.taken .sorting (World.initial l) t).countP fun p => p.2.kind == .swap : Nat) :
          Int) ≤ k) := by
  obtain ⟨(w : World), log, replayed⟩ := Domain.exists_replay (d := .sorting) World.exists_apply
    (World.initial l) Domain.sorting.newLog t
  obtain ⟨rearranged, swaps⟩ := World.replayed_swaps replayed
  have ends : isSorted order w.potions = true ↔ w.potions = sorted order l.potions :=
    isSorted_iff_eq_sorted rearranged
  have count : w.swaps = (Domain.taken .sorting (World.initial l) t).countP fun p =>
      p.2.kind == .swap := swaps.trans (Nat.zero_add _)
  have judged : Domain.checkGoal .sorting l w log = .ok (checkSorted order maxSwaps w) := by
    simp only [Domain.checkGoal, checkGoal, aim, Domain.judged]
  refine ⟨w, log, _, replayed, judged, checkSorted_success.trans ?_⟩
  rw [ends, count]

/-- Two equal potions behind a greater one. Of the four actions only the last swap is taken. -/
theorem sorted_verdict_iff_equals :
    let l : Level :=
      { header := { id := .number 1, name := "Equals" }, potions := [2, 1, 1]
        goal := .sortedWithBudget .ascending (some 1) }
    let t : Trace := [.swap 0 7, ⟨.swap, { first := "a", second := 1 }⟩, .collectStar, .swap 0 2]
    l.goal = .sortedWithBudget .ascending (some 1) ∧
      ∃ (w : World) (log : ActionLog) (verdict : Verdict),
        Domain.replay .sorting (World.initial l) Domain.sorting.newLog t = .ok (w, log) ∧
        Domain.checkGoal .sorting l w log = .ok verdict ∧ verdict.success = true := by
  intro l t
  have aim : l.goal = .sortedWithBudget .ascending (some 1) := rfl
  obtain ⟨w, log, verdict, replayed, judged, passes⟩ := sorted_verdict_iff aim t
  refine ⟨aim, w, log, verdict, replayed, judged, passes.mpr ⟨?_, fun k limit => ?_⟩⟩
  · have shelf : (Domain.replay .sorting (World.initial l) Domain.sorting.newLog t).map
        (fun x => World.potions x.1) = .ok [1, 1, 2] := rfl
    rw [replayed] at shelf
    have rearranged : [1, 1, 2].Perm l.potions := by decide
    exact (Except.ok.inj shelf).trans ((isSorted_iff_eq_sorted rearranged).mp rfl)
  · cases limit
    decide

end Sorting

end PuzzleWorlds
