import Mathlib.Logic.Function.Iterate
import PuzzleWorlds.Proofs.ReachedGoals

/-! Routes of the robot. It can face any way by turning to the right, walk straight to any cell of
its row or column, and so come to every cell of the grid; a level whose stars and goal lie on the
grid is solved by going to the stars one after the other, and then to the goal. -/

namespace PuzzleWorlds.Robot

/-- In a valid level the stars and the cell to reach lie on the grid. -/
theorem Level.of_valid {l : Level} (h : l.findings.valid = true) :
    (∀ s ∈ l.stars, inGrid s.1 s.2 l.width l.height = true) ∧
    ∀ x y all, l.goal = .position x y all → inGrid x y l.width l.height = true := by
  simp only [findings, Findings.valid_append, Bool.and_eq_true] at h
  obtain ⟨⟨⟨_, stars⟩, _⟩, goal⟩ := h
  refine ⟨fun s member => ?_, fun x y all aim => ?_⟩
  · have inside := Findings.valid_join.mp stars _ (List.mem_map.mpr ⟨s, member, rfl⟩)
    simpa using inside
  · simp only [aim, Findings.valid_append, Bool.and_eq_true, Findings.valid_errorIf] at goal
    simpa using goal.1

namespace World.InBounds

variable {l : Level} {w : World}

theorem grid (h : w.InBounds l) {x y : Int} (inside : inGrid x y l.width l.height = true) :
    inGrid x y w.width w.height = true := by
  rwa [h.size.1, h.size.2]

theorem here (h : w.InBounds l) : inGrid w.x w.y w.width w.height = true :=
  h.grid (inGrid_iff.mpr ⟨h.x, h.y⟩)

end World.InBounds

/-- Calls can bring the robot from the one world to the other, with the heading of the bookkeeping
that of the world. -/
def Goes (w v : World) : Prop :=
  ∃ cs t, Domain.Steers .robot (⟨w.heading⟩ : Shadow) w cs t (⟨v.heading⟩ : Shadow) v

namespace Goes

theorem refl (w : World) : Goes w w := ⟨[], [], .nil (d := .robot) _ w⟩

theorem trans {w v u : World} (h : Goes w v) (h' : Goes v u) : Goes w u := by
  obtain ⟨cs, t, first⟩ := h
  obtain ⟨cs', t', next⟩ := h'
  exact ⟨cs ++ cs', t ++ t', first.append next⟩

theorem inBounds {l : Level} {w v : World} (h : Goes w v) (begins : w.InBounds l) :
    v.InBounds l := by
  obtain ⟨cs, t, steers⟩ := h
  exact steers.plays.preserves (d := .robot)
    (fun inside taken => World.InBounds.react inside taken) begins

/-- By one command without parameters. -/
theorem call {w v : World} {c : Command} {a : Action} {changes : List String}
    (known : Domain.command? .robot c.spec.name = some c)
    (bound : c.spec.bind c.spec.name [] = .ok [])
    (called : c.call ⟨w.heading⟩ [] = .ok (.acts ⟨v.heading⟩ a))
    (taken : w.react a = .ok (.changed v changes)) : Goes w v :=
  ⟨_, [a], .call (d := .robot) known bound called taken⟩

theorem turnRight (w : World) : Goes w { w with heading := w.heading.turn 90 } := by
  obtain ⟨changes, taken⟩ := w.takes_turn (q := 90) (.inl rfl)
  exact call (c := .turnRight) rfl rfl rfl taken

theorem turns (w : World) (n : Nat) :
    Goes w { w with heading := (fun g => g.turn 90)^[n] w.heading } := by
  induction n with
  | zero => exact refl w
  | succ n ih =>
    rw [Function.iterate_succ_apply']
    exact ih.trans (turnRight _)

/-- Three turns to the right are enough to face any way. -/
theorem face (w : World) (h : Heading) : Goes w { w with heading := h } := by
  have facing (g : Heading) : ∃ n < 4, (fun g : Heading => g.turn 90)^[n] g = h := by
    cases g <;> cases h <;> decide
  obtain ⟨n, _, same⟩ := facing w.heading
  exact same ▸ turns w n

/-- One step to a cell of the grid. -/
theorem step (w : World) (inside : inGrid (w.x + w.heading.vector.1) (w.y + w.heading.vector.2)
      w.width w.height = true) :
    Goes w { w with x := w.x + w.heading.vector.1, y := w.y + w.heading.vector.2 } := by
  obtain ⟨across, down⟩ := inGrid_iff.mp inside
  have taken : ∃ changes, w.react (.move (.int w.heading.vector.1) (.int w.heading.vector.2) 0) =
      .ok (.changed { w with x := w.x + w.heading.vector.1, y := w.y + w.heading.vector.2 }
        changes) := by
    change ∃ changes, w.move _ = _
    simp only [World.move, Action.move, Value.orElse_int, Value.toInt_int]
    rw [← clamp_eq_self across.1 (Int.le_sub_one_of_lt across.2),
      ← clamp_eq_self down.1 (Int.le_sub_one_of_lt down.2)]
    exact ⟨_, rfl⟩
  obtain ⟨changes, taken⟩ := taken
  exact call (c := .moveForward) rfl rfl rfl taken

/-- Straight on for some steps. A row and a column of the grid have no gaps, so it is enough that
the first and the last cell lie on it. -/
theorem ahead (w : World) (n : Nat) (here : inGrid w.x w.y w.width w.height = true)
    (there : inGrid (w.x + n * w.heading.vector.1) (w.y + n * w.heading.vector.2) w.width w.height
      = true) :
    Goes w { w with x := w.x + n * w.heading.vector.1, y := w.y + n * w.heading.vector.2 } := by
  induction n with
  | zero => simpa using refl w
  | succ n ih =>
    have between : inGrid (w.x + n * w.heading.vector.1) (w.y + n * w.heading.vector.2) w.width
        w.height = true := by
      rw [inGrid_iff] at here there ⊢
      cases heading : w.heading <;> simp only [heading, Heading.vector] at there ⊢ <;> omega
    have next (a b : Int) : a + ((n + 1 : Nat) : Int) * b = a + n * b + b := by
      rw [Int.natCast_succ, Int.add_mul, Int.one_mul, Int.add_assoc]
    simp only [next] at there ⊢
    exact (ih between).trans (step { w with x := _, y := _ } there)

/-- To a cell of the same row. -/
theorem along (w : World) (here : inGrid w.x w.y w.width w.height = true) {x : Int}
    (inside : 0 ≤ x ∧ x < w.width) : ∃ heading, Goes w { w with x, heading } := by
  have row := (inGrid_iff.mp here).2
  rcases Int.le_total w.x x with right | left
  · have east : w.x + ((x - w.x).toNat : Int) * 1 = x := by omega
    have straight := ahead { w with heading := .east } (x - w.x).toNat here
    simp only [Heading.vector, Int.mul_zero, Int.add_zero, east] at straight
    exact ⟨.east, (face w .east).trans (straight (inGrid_iff.mpr ⟨inside, row⟩))⟩
  · have west : w.x + ((w.x - x).toNat : Int) * -1 = x := by omega
    have straight := ahead { w with heading := .west } (w.x - x).toNat here
    simp only [Heading.vector, Int.mul_zero, Int.add_zero, west] at straight
    exact ⟨.west, (face w .west).trans (straight (inGrid_iff.mpr ⟨inside, row⟩))⟩

/-- To a cell of the same column. -/
theorem down (w : World) (here : inGrid w.x w.y w.width w.height = true) {y : Int}
    (inside : 0 ≤ y ∧ y < w.height) : ∃ heading, Goes w { w with y, heading } := by
  have column := (inGrid_iff.mp here).1
  rcases Int.le_total w.y y with below | above
  · have south : w.y + ((y - w.y).toNat : Int) * 1 = y := by omega
    have straight := ahead { w with heading := .south } (y - w.y).toNat here
    simp only [Heading.vector, Int.mul_zero, Int.add_zero, south] at straight
    exact ⟨.south, (face w .south).trans (straight (inGrid_iff.mpr ⟨column, inside⟩))⟩
  · have north : w.y + ((w.y - y).toNat : Int) * -1 = y := by omega
    have straight := ahead { w with heading := .north } (w.y - y).toNat here
    simp only [Heading.vector, Int.mul_zero, Int.add_zero, north] at straight
    exact ⟨.north, (face w .north).trans (straight (inGrid_iff.mpr ⟨column, inside⟩))⟩

/-- To any cell of the grid, along the row and then the column. -/
theorem cell (w : World) (here : inGrid w.x w.y w.width w.height = true) {x y : Int}
    (there : inGrid x y w.width w.height = true) : ∃ heading, Goes w { w with x, y, heading } := by
  obtain ⟨across, column⟩ := inGrid_iff.mp there
  obtain ⟨first, goes⟩ := along w here across
  have corner : inGrid x w.y w.width w.height = true :=
    inGrid_iff.mpr ⟨across, (inGrid_iff.mp here).2⟩
  obtain ⟨heading, goes'⟩ := down { w with x, heading := first } corner column
  exact ⟨heading, goes.trans goes'⟩

/-- A star on the robot's cell is picked up, if that has not been done before. -/
theorem pick (w : World) (star : w.position ∈ w.stars) : ∃ v, Goes w v ∧
    w.collected ⊆ v.collected ∧ w.position ∈ v.collected := by
  have taken : ∃ collected changes,
      w.react .collectStar = .ok (.changed { w with collected } changes) ∧
        w.collected ⊆ collected ∧ w.position ∈ collected := by
    change ∃ collected changes, Except.ok w.collectStar = _ ∧ _
    unfold World.collectStar
    split
    next => exact ⟨_, _, rfl, List.subset_append_left _ _, List.mem_append_right _ (by simp)⟩
    next missed =>
      refine ⟨_, _, rfl, List.Subset.refl _, ?_⟩
      simpa [World.remaining, star] using missed
  obtain ⟨collected, changes, taken, kept, here⟩ := taken
  exact ⟨{ w with collected }, call (c := .collectStar) rfl rfl rfl taken, kept, here⟩

/-- The stars of a list are collected one after the other. -/
theorem gather {l : Level} (valid : l.findings.valid = true) {w : World} (begins : w.InBounds l)
    {stars : List (Int × Int)} (listed : stars ⊆ l.stars) :
    ∃ v, Goes w v ∧ ∀ s ∈ stars, s ∈ v.collected := by
  suffices go : ∃ v, Goes w v ∧ w.collected ⊆ v.collected ∧ ∀ s ∈ stars, s ∈ v.collected by
    obtain ⟨v, goes, _, all⟩ := go
    exact ⟨v, goes, all⟩
  induction stars generalizing w with
  | nil => exact ⟨w, refl w, List.Subset.refl _, nofun⟩
  | cons s stars ih =>
    obtain ⟨first, others⟩ := List.cons_subset.mp listed
    have there := begins.grid ((Level.of_valid valid).1 s first)
    have star : s ∈ w.stars := by
      rw [begins.stars]
      exact List.mem_eraseDups.mpr first
    obtain ⟨heading, goes⟩ := cell w begins.here there
    obtain ⟨v, picks, kept, picked⟩ := pick { w with x := s.1, y := s.2, heading } star
    obtain ⟨u, rest, kept', all⟩ := ih ((goes.trans picks).inBounds begins) others
    exact ⟨u, (goes.trans picks).trans rest, List.Subset.trans kept kept',
      List.forall_mem_cons.mpr ⟨kept' picked, all⟩⟩

/-- Of a valid level, to the cell of its goal with all stars. -/
theorem goal {l : Level} (valid : l.findings.valid = true) {w : World} (begins : w.InBounds l)
    {x y : Int} {all : Bool} (aim : l.goal = .position x y all) :
    ∃ v, Goes w v ∧ v.position = (x, y) ∧ ∀ s ∈ l.stars, s ∈ v.collected := by
  obtain ⟨v, gathers, collected⟩ := gather valid begins (List.Subset.refl l.stars)
  have inside := gathers.inBounds begins
  have there := inside.grid ((Level.of_valid valid).2 x y all aim)
  obtain ⟨heading, goes⟩ := cell v inside.here there
  exact ⟨{ v with x, y, heading }, gathers.trans goes, rfl, collected⟩

end Goes

end PuzzleWorlds.Robot
