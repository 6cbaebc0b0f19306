import PuzzleWorlds.Proofs.CountingLoops
import PuzzleWorlds.Proofs.Shelf
import PuzzleWorlds.Proofs.WorldBounds

/-! The bubble sort of the lessons. Each turn of its outer loop moves the greatest of the potions
that are not settled yet to their end, whatever the shelf holds. -/

namespace PuzzleWorlds

theorem bitLength_le_iff {n : Int} {b : Nat} : bitLength n ≤ b ↔ n.natAbs < 2 ^ b := by
  unfold bitLength
  split
  next zero =>
    obtain rfl : n = 0 := by simpa using zero
    simp
  next other =>
    have positive : n.natAbs ≠ 0 := by simpa using other
    rw [Nat.succ_le_iff, Nat.log2_lt positive]

namespace Value

end Value

namespace Sorting

section

variable {p : List Int} {t k q : Nat}

theorem getD_exchange {i j : Nat} (first : i < p.length) (second : j < p.length) (q : Nat) :
    (exchange p i j).getD q 0 = p.getD (if q = j then i else if q = i then j else q) 0 := by
  have swapped : exchange p i j = (p.set i p[j]).set j p[i] := by
    simp only [exchange, List.getElem?_eq_getElem first, List.getElem?_eq_getElem second]
  rw [swapped]
  by_cases last : q = j
  · simp [last, first, second]
  · by_cases other : q = i
    · subst other
      simp [last, Ne.symm last, first, second]
    · simp [last, other, Ne.symm last, Ne.symm other]

/-- No potion up to a place is greater than the one there. -/
def Peak (p : List Int) (q : Nat) : Prop := ∀ i ≤ q, p.getD i 0 ≤ p.getD q 0

/-- From a place on the potions stand as they will in the end. -/
def Settled (p : List Int) (t : Nat) : Prop := ∀ q, t ≤ q → q < p.length → Peak p q

theorem Peak.zero (p : List Int) : Peak p 0 := by
  intro i low
  obtain rfl : i = 0 := Nat.le_zero.mp low
  exact Int.le_refl _

theorem Peak.succ (h : Peak p k) (ordered : p.getD k 0 ≤ p.getD (k + 1) 0) : Peak p (k + 1) := by
  intro i low
  rcases Nat.le_or_eq_of_le_succ low with below | rfl
  · exact Int.le_trans (h i below) ordered
  · exact Int.le_refl _

theorem Settled.all (p : List Int) : Settled p p.length :=
  fun _ high inside => absurd inside (Nat.not_lt.mpr high)

section

variable (inside : k + 1 < p.length) (unordered : p.getD (k + 1) 0 < p.getD k 0)

include inside unordered

theorem Peak.exchange (h : Peak p k) : Peak (exchange p k (k + 1)) (k + 1) := by
  intro i low
  rw [getD_exchange (by omega) inside, getD_exchange (by omega) inside]
  simp only [if_true]
  split
  next => exact Int.le_refl _
  next below =>
    split
    next => exact Int.le_of_lt unordered
    next => exact h i (by omega)

/-- What is settled is not touched. -/
theorem Settled.exchange (h : Settled p t) : Settled (exchange p k (k + 1)) t := by
  intro q high within
  rw [(exchange_perm p k (k + 1)).length_eq] at within
  -- A settled place holds no less than the one before it, so nothing is exchanged there.
  have behind : k + 1 < t := by
    by_contra reached
    have ordered := h (k + 1) (by omega) inside k (Nat.le_succ k)
    omega
  intro i low
  rw [getD_exchange (by omega) inside, getD_exchange (by omega) inside]
  have there : (if q = k + 1 then k else if q = k then k + 1 else q) = q := by
    rw [if_neg (by omega), if_neg (by omega)]
  rw [there]
  refine h q high within _ ?_
  split
  next => omega
  next => split <;> omega

end

/-- In the middle of a pass: the greatest potion so far is at hand, what was settled still is, and
once the pass has come to the last place that was not, so is that one. -/
structure Passing (p : List Int) (t k : Nat) : Prop where
  peak : Peak p k
  settled : Settled p (t + 1)
  reached : t ≤ k → Settled p t

theorem Passing.start (settled : Settled p (t + 1)) : Passing p t 0 where
  peak := .zero p
  settled := settled
  reached low := by
    obtain rfl : t = 0 := by omega
    intro q _ within
    rcases Nat.eq_zero_or_pos q with rfl | later
    · exact .zero p
    · exact settled q later within

end

section

variable {r : Registry .sorting} {vs : Variables}

/-- The place that a turn looks at, and the one after it. -/
def here : Expr := .var "j"
def next : Expr := .binary "+" here (.literal 1)

def unordered : Expr := .compare ">" (.query "get" [here]) (.query "get" [next])

end

/-- A program at work on the shelf of a level, with so much of its budgets left. -/
structure Working (l : Level) (b : Limits) (steps actions : Nat) (m : Machine .sorting) : Prop where
  agrees : ∃ w, Agrees l m.registry w
  perm : (Shadow.potions m.registry.shadow).Perm l.potions
  steps : m.steps + steps ≤ b.stepBudget.toNat
  actions : (m.registry.trace.length : Int) + actions ≤ m.registry.maxActions

namespace Working

variable {l : Level} {b : Limits} {s a : Nat} {m : Machine .sorting}

/-- A fresh registry. -/
theorem start {maxActions : Int} (steps : s ≤ b.stepBudget) (actions : a ≤ maxActions) :
    Working l b s a { registry := { shadow := Shadow.initial l, maxActions } } := by
  refine ⟨⟨World.initial l, .nil _, rfl, rfl⟩, .refl _, ?_, ?_⟩
  · dsimp only
    omega
  · rwa [List.length_nil, Int.natCast_zero, Int.zero_add]

theorem room (h : Working l b (s + 1) a m) : m.steps + 1 ≤ b.stepBudget.toNat := by
  have := h.steps
  omega

theorem length (h : Working l b s a m) :
    (Shadow.potions m.registry.shadow).length = l.potions.length := h.perm.length_eq

theorem mono (h : Working l b s a m) {s' a' : Nat} (steps : s' ≤ s) (actions : a' ≤ a) :
    Working l b s' a' m := by
  obtain ⟨agrees, perm, fewSteps, fewActions⟩ := h
  exact ⟨agrees, perm, by omega, by omega⟩

theorem charged (h : Working l b (s + 1) a m) {vs : Variables} {id : Value} :
    Working l b s a { m with steps := m.steps + 1, vars := vs, blockId := id } := by
  have few := h.steps
  exact ⟨h.agrees, h.perm, by dsimp only; omega, h.actions⟩

/-- A swap is recorded. -/
theorem swapped (h : Working l b (s + 1) (a + 1) m) {i j : Nat}
    (first : i < l.potions.length) (second : j < l.potions.length) (id : Value) :
    Working l b s a { m.entered id with registry := { m.registry with
      shadow := (⟨exchange (Shadow.potions m.registry.shadow) i j⟩ : Shadow)
      trace := m.registry.trace ++ [.swap i j] } } := by
  rw [← h.length] at first second
  obtain ⟨w, agrees⟩ := h.agrees
  have steps := h.steps
  have actions := h.actions
  refine ⟨agrees.swap first second, (exchange_perm _ i j).trans h.perm, ?_, ?_⟩
  · dsimp only [Machine.entered]
    omega
  · dsimp only
    rw [List.length_append, List.length_singleton]
    omega

end Working

section

variable {l : Level} {b : Limits} (timely : ∀ n, ¬b.clock n > b.deadline) {s a c : Nat}
  {m : Machine .sorting}

include timely

variable (many : l.potions.length = c + 2) (small : c + 1 < 2 ^ maxIntBits)

include many small

end

end Sorting

end PuzzleWorlds
