import Mathlib.Data.List.Sort
import Mathlib.Data.Prod.Lex
import PuzzleWorlds.Building.World
import PuzzleWorlds.Proofs.Payload
import PuzzleWorlds.Robot.World

/-! The cells that a verdict lists. It shows those that have some property, each once and in the
order of their coordinates, so the property determines the list. -/

namespace PuzzleWorlds

/-- The list shows what has the property, each once and in the order of the keys. -/
structure Lists [LinearOrder β] (key : α → β) (P : α → Prop) (m : List α) : Prop where
  sorted : (m.map key).SortedLT
  mem_iff : ∀ a, a ∈ m ↔ P a

namespace Lists

variable [LinearOrder β] {key : α → β} {P Q : α → Prop} {m n : List α}

theorem congr (h : Lists key P m) (same : ∀ a, P a ↔ Q a) : Lists key Q m :=
  ⟨h.sorted, fun a => (h.mem_iff a).trans (same a)⟩

theorem nil (none : ∀ a, ¬P a) : Lists key P [] :=
  ⟨List.Pairwise.nil.sortedLT, fun a => iff_of_false List.not_mem_nil (none a)⟩

theorem eq_nil_iff (h : Lists key P m) : m = [] ↔ ∀ a, ¬P a := by
  simp only [List.eq_nil_iff_forall_not_mem, h.mem_iff]

/-- No other list shows the same. -/
theorem unique (injective : Function.Injective key) (h : Lists key P m) (h' : Lists key P n) :
    m = n := by
  refine injective.list_map (h.sorted.eq_of_mem_iff h'.sorted fun b => ?_)
  simp only [List.mem_map, h.mem_iff, h'.mem_iff]

/-- Sorting shows what is in a list without repetitions. -/
theorem mergeSort (injective : Function.Injective key) {le : α → α → Bool}
    (le_iff : ∀ a b, le a b = true ↔ key a ≤ key b) {l : List α} (distinct : l.Nodup) :
    Lists key (· ∈ l) (l.mergeSort le) where
  sorted := by
    have sorted : (l.mergeSort le).Pairwise fun a b => le a b = true :=
      List.pairwise_mergeSort
        (fun a b c h h' => (le_iff a c).mpr (((le_iff a b).mp h).trans ((le_iff b c).mp h')))
        (fun a b => by
          rw [Bool.or_eq_true, le_iff, le_iff]
          exact le_total (key a) (key b)) l
    have keys : ((l.mergeSort le).map key).SortedLE :=
      (List.pairwise_map.mpr (sorted.imp fun h => (le_iff _ _).mp h)).sortedLE
    refine keys.sortedLT_of_nodup (List.Nodup.map injective ?_)
    exact (List.mergeSort_perm l le).nodup_iff.mpr distinct
  mem_iff a := List.mem_mergeSort

end Lists

namespace Verdict

/-- Whatever verdict a judgement comes to, it has these details. -/
def Carries (details : List (String × Value)) (x : Except ε Verdict) : Prop :=
  ∀ v, x = .ok v → v.details = details

variable {details : List (String × Value)}

theorem carries_passed (message : String) :
    Carries details (.ok (passed message details) : Except ε Verdict) := by
  rintro _ ⟨⟩
  rfl

theorem carries_failed (message : String) :
    Carries details (.ok (failed message details) : Except ε Verdict) := by
  rintro _ ⟨⟩
  rfl

theorem Carries.bind {x : Except ε α} {f : α → Except ε Verdict}
    (each : ∀ a, Carries details (f a)) : Carries details (x >>= f) := fun v judged =>
  have ⟨a, _, judged⟩ := bind_eq_ok.mp judged
  each a v judged

theorem Carries.ite {c : Prop} [Decidable c] {x y : Except ε Verdict} (first : Carries details x)
    (other : Carries details y) : Carries details (if c then x else y) := by
  split
  next => exact first
  next => exact other

end Verdict

/-- Without the repetitions, nothing is left twice. -/
theorem nodup_eraseDups [BEq α] [LawfulBEq α] : (l : List α) → l.eraseDups.Nodup
  | [] => .nil
  | a :: rest => by
    rw [List.eraseDups_cons]
    refine List.nodup_cons.mpr ⟨fun again => ?_, nodup_eraseDups _⟩
    have other := (List.mem_filter.mp (List.mem_eraseDups.mp again)).2
    simp at other
termination_by l => l.length
decreasing_by
  exact Nat.lt_succ_of_le (List.length_filter_le _ rest)

namespace Robot

theorem cellLe_iff {a b : Int × Int} : cellLe a b = true ↔ toLex a ≤ toLex b := by
  simp [cellLe, Prod.Lex.toLex_le_toLex]

end Robot

namespace Building

/-- The coordinates of a cell, the first one deciding before the others. -/
def Cell.coordinates (c : Cell) : Int ×ₗ Int ×ₗ Int := toLex (c.x, toLex (c.y, c.z))

theorem Cell.coordinates_injective : Function.Injective Cell.coordinates := by
  intro a b same
  cases a
  cases b
  simpa [coordinates] using same

/-- The first coordinate in which two cells differ decides between them. -/
theorem World.cellLe_cons {i j : Int} {l m : List Value} :
    cellLe (.int i :: l) (.int j :: m) = true ↔ i < j ∨ i = j ∧ cellLe l m = true := by
  unfold cellLe
  rw [Value.orderItems, Value.order_int]
  by_cases same : i = j
  · simp [same, Value.same_int_iff]
  · rw [if_neg (by rwa [Value.same_int_iff])]
    rcases Int.lt_or_gt_of_ne same with less | more
    · simp [Int.compare_eq_lt.mpr less, less]
    · simp [Int.compare_eq_gt.mpr more, same, Int.le_of_lt more]

theorem cellLe_cellParts {a b : Cell} :
    World.cellLe (World.cellParts a) (World.cellParts b) = true ↔
      a.coordinates ≤ b.coordinates := by
  have equal : World.cellLe [] [] = true := by simp [World.cellLe, Value.orderItems]
  simp only [Cell.coordinates, Prod.Lex.toLex_le_toLex, World.cellParts, World.cellLe_cons, equal,
    and_true, ← Int.le_iff_lt_or_eq]

/-- Cells that are all different are sorted to the list that shows them. -/
theorem exists_sortCells {cells : List Cell} (distinct : cells.Nodup) :
    ∃ m, sortCells (cells.map World.cellParts) = m.map World.cellParts ∧
      Lists Cell.coordinates (· ∈ cells) m :=
  let le (a b : Cell) : Bool := World.cellLe (World.cellParts a) (World.cellParts b)
  have sorted : (cells.mergeSort le).map World.cellParts = sortCells (cells.map World.cellParts) :=
    List.map_mergeSort fun _ _ _ _ => rfl
  ⟨cells.mergeSort le, sorted.symm,
    .mergeSort Cell.coordinates_injective (fun _ _ => cellLe_cellParts) distinct⟩

end Building

end PuzzleWorlds
