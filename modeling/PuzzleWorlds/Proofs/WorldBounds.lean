import Mathlib.Data.List.Nodup
import PuzzleWorlds.Proofs.LoadedLevel
import PuzzleWorlds.Proofs.Payload
import PuzzleWorlds.Proofs.Replay

/-! What holds of a world whatever is put into it. A payload may hold anything, so a handler either
refuses it, fails, or reads numbers off it that are clamped or checked; in each case the robot
stays on its grid, blocks and pixels stay inside, the shelf keeps its potions and hit points their
caps. -/

namespace PuzzleWorlds

namespace Robot

/-- The robot stands on the level's grid, and what it has collected are stars of the level. -/
structure World.InBounds (l : Level) (w : World) : Prop where
  size : w.width = l.width ∧ w.height = l.height
  x : 0 ≤ w.x ∧ w.x < l.width
  y : 0 ≤ w.y ∧ w.y < l.height
  heading : w.heading ∈ Heading.all
  stars : w.stars = l.stars.eraseDups
  collected : w.collected ⊆ w.stars

theorem Heading.mem_all (h : Heading) : h ∈ all := by cases h <;> decide

namespace World.InBounds

variable {l : Level} {w v : World} {changes : List String}

theorem initial (wide : 1 ≤ l.width) (high : 1 ≤ l.height) : (World.initial l).InBounds l where
  size := ⟨rfl, rfl⟩
  x := by
    have inside := @clamp_mem 0 (l.width - 1) l.robot.x (by omega)
    exact ⟨inside.1, Int.lt_of_le_sub_one inside.2⟩
  y := by
    have inside := @clamp_mem 0 (l.height - 1) l.robot.y (by omega)
    exact ⟨inside.1, Int.lt_of_le_sub_one inside.2⟩
  heading := Heading.mem_all _
  stars := rfl
  collected := List.nil_subset _

theorem move (h : w.InBounds l) {p : Payload} (taken : w.move p = .ok (.changed v changes)) :
    v.InBounds l := by
  obtain ⟨dx, _, taken⟩ := bind_eq_ok.mp taken
  obtain ⟨dy, _, taken⟩ := bind_eq_ok.mp taken
  cases taken
  have inX := @clamp_mem 0 (w.width - 1) (w.x + dx) (by have := h.x; have := h.size; omega)
  have inY := @clamp_mem 0 (w.height - 1) (w.y + dy) (by have := h.y; have := h.size; omega)
  rw [h.size.1] at inX
  rw [h.size.2] at inY
  refine ⟨h.size, ?_, ?_, h.heading, h.stars, h.collected⟩
  · rw [h.size.1]
    exact ⟨inX.1, Int.lt_of_le_sub_one inX.2⟩
  · rw [h.size.2]
    exact ⟨inY.1, Int.lt_of_le_sub_one inY.2⟩

theorem turn (h : w.InBounds l) {degrees : Value}
    (taken : w.turn degrees = .ok (.changed v changes)) : v.InBounds l := by
  unfold World.turn at taken
  split at taken
  next => cases taken
  next =>
    obtain ⟨rest, _, taken⟩ := bind_eq_ok.mp taken
    split at taken
    next => cases taken
    next =>
      obtain ⟨n, _, taken⟩ := bind_eq_ok.mp taken
      cases taken
      exact ⟨h.size, h.x, h.y, Heading.mem_all _, h.stars, h.collected⟩

theorem collectStar (h : w.InBounds l) (taken : w.collectStar = .changed v changes) :
    v.InBounds l := by
  unfold World.collectStar at taken
  split at taken
  next here =>
    cases taken
    have star : w.position ∈ w.stars := (List.mem_filter.mp (List.contains_iff_mem.mp here)).1
    refine ⟨h.size, h.x, h.y, h.heading, h.stars, ?_⟩
    refine List.append_subset.mpr ⟨h.collected, fun c member => ?_⟩
    rwa [List.mem_singleton.mp member]
  next =>
    cases taken
    exact h

theorem react (h : w.InBounds l) {a : Action} (taken : w.react a = .ok (.changed v changes)) :
    v.InBounds l := by
  unfold World.react at taken
  split at taken
  next => exact h.move taken
  next => exact h.turn taken
  next => exact h.collectStar (Except.ok.inj taken)
  next =>
    cases taken
    exact h
  next => cases taken

end World.InBounds

end Robot

namespace Building

/-- A cell of the box. -/
structure Cell.Inside (c : Cell) (s : Size) : Prop where
  x : 0 ≤ c.x ∧ c.x < s.width
  y : 0 ≤ c.y ∧ c.y < s.height
  z : 0 ≤ c.z ∧ c.z < s.depth

/-- A key of a block that names a cell of the box by three numbers. -/
def KeyInside (s : Size) (key : List Value) : Prop :=
  ∃ x y z, key = [x, y, z] ∧ x.Inside s.width ∧ y.Inside s.height ∧ z.Inside s.depth

namespace World

def size (w : World) : Size := ⟨w.width, w.height, w.depth⟩

theorem clampCell_inside (w : World) (positive : w.size.Positive) (x y z : Int) :
    (w.clampCell x y z).Inside w.size := by
  obtain ⟨wide, high, deep⟩ := positive
  have inX := @clamp_mem 0 (w.size.width - 1) x (by omega)
  have inY := @clamp_mem 0 (w.size.height - 1) y (by omega)
  have inZ := @clamp_mem 0 (w.size.depth - 1) z (by omega)
  exact ⟨⟨inX.1, Int.lt_of_le_sub_one inX.2⟩, ⟨inY.1, Int.lt_of_le_sub_one inY.2⟩,
    inZ.1, Int.lt_of_le_sub_one inZ.2⟩

theorem inside_of_within {v : Value} {n : Int} (h : within v n = .ok true) : v.Inside n := by
  obtain ⟨low, compared, h⟩ := bind_eq_ok.mp h
  cases low with
  | false => cases h
  | true => exact Value.inside_of_ordered compared h

theorem keyInside_of_contains {w : World} {cell : List Value} (h : w.contains cell = .ok true) :
    KeyInside w.size cell := by
  unfold contains at h
  split at h
  next x y z =>
    obtain ⟨inX, first, h⟩ := bind_eq_ok.mp h
    cases inX with
    | false => cases h
    | true =>
      obtain ⟨inY, second, h⟩ := bind_eq_ok.mp h
      cases inY with
      | false => cases h
      | true =>
        exact ⟨x, y, z, rfl, inside_of_within first, inside_of_within second, inside_of_within h⟩
  next => cases h

/-- A block has the key that it was put with, or one that was there before. -/
theorem key_of_mem_put {cell : List Value} {color : Value} {l : List (List Value × Value)}
    {b : List Value × Value} (h : b ∈ put cell color l) : b.1 = cell ∨ ∃ c ∈ l, b.1 = c.1 := by
  induction l with
  | nil =>
    obtain rfl := List.mem_singleton.mp h
    exact .inl rfl
  | cons c rest ih =>
    unfold put at h
    split at h
    next =>
      rcases List.mem_cons.mp h with rfl | later
      · exact .inr ⟨c, List.mem_cons_self, rfl⟩
      · exact .inr ⟨b, List.mem_cons_of_mem c later, rfl⟩
    next =>
      rcases List.mem_cons.mp h with rfl | later
      · exact .inr ⟨b, List.mem_cons_self, rfl⟩
      · refine (ih later).imp_right ?_
        rintro ⟨x, member, same⟩
        exact ⟨x, List.mem_cons_of_mem c member, same⟩

/-- No two blocks have the same cell. -/
def Distinct (l : List (List Value × Value)) : Prop :=
  l.Pairwise fun a b => Value.sameItems a.1 b.1 = false

theorem Distinct.put {l : List (List Value × Value)} (h : Distinct l) (cell : List Value)
    (color : Value) : Distinct (put cell color l) := by
  induction l with
  | nil => exact List.pairwise_singleton _ _
  | cons c rest ih =>
    obtain ⟨apart, others⟩ := List.pairwise_cons.mp h
    unfold World.put
    split
    next => exact List.pairwise_cons.mpr ⟨apart, others⟩
    next other =>
      refine List.pairwise_cons.mpr ⟨fun b member => ?_, ih others⟩
      rcases key_of_mem_put member with same | ⟨x, earlier, same⟩
      · rw [same]
        exact Bool.not_eq_true _ ▸ other
      · rw [same]
        exact apart x earlier

end World

/-- The cursor and every block are in the level's build area, no two blocks in one cell. -/
structure World.InBounds (l : Level) (w : World) : Prop where
  size : w.size = l.gridSize
  cursor : w.cursor.Inside l.gridSize
  blocks : ∀ b ∈ w.blocks, KeyInside l.gridSize b.1
  distinct : World.Distinct w.blocks

namespace World.InBounds

variable {l : Level} {w v : World} {changes : List String}

theorem initial (positive : l.gridSize.Positive) : (World.initial l).InBounds l where
  size := rfl
  cursor := World.clampCell_inside { World.initial l with } positive _ _ _
  blocks := nofun
  distinct := .nil

theorem toCell (h : w.InBounds l) (positive : l.gridSize.Positive) {x y z : Int}
    (taken : w.toCell (w.clampCell x y z) = .changed v changes) : v.InBounds l := by
  cases taken
  refine ⟨h.size, ?_, h.blocks, h.distinct⟩
  rw [← h.size] at positive ⊢
  exact w.clampCell_inside positive x y z

theorem move (h : w.InBounds l) (positive : l.gridSize.Positive) {p : Payload}
    (taken : w.move p = .ok (.changed v changes)) : v.InBounds l := by
  obtain ⟨dx, _, taken⟩ := bind_eq_ok.mp taken
  obtain ⟨dy, _, taken⟩ := bind_eq_ok.mp taken
  obtain ⟨dz, _, taken⟩ := bind_eq_ok.mp taken
  exact h.toCell positive (Except.ok.inj taken)

theorem goto (h : w.InBounds l) (positive : l.gridSize.Positive) {position : Value}
    (taken : w.goto position = .ok (.changed v changes)) : v.InBounds l := by
  obtain ⟨parts, _, taken⟩ := bind_eq_ok.mp taken
  split at taken
  next =>
    obtain ⟨x, _, taken⟩ := bind_eq_ok.mp taken
    obtain ⟨y, _, taken⟩ := bind_eq_ok.mp taken
    obtain ⟨z, _, taken⟩ := bind_eq_ok.mp taken
    exact h.toCell positive (Except.ok.inj taken)
  next => cases taken

theorem placeBlock (h : w.InBounds l) {p : Payload}
    (taken : w.placeBlock p = .ok (.changed v changes)) : v.InBounds l := by
  obtain ⟨cell, _, taken⟩ := bind_eq_ok.mp taken
  obtain ⟨inside, checked, taken⟩ := bind_eq_ok.mp taken
  cases inside with
  | false => cases taken
  | true =>
    cases taken
    refine ⟨h.size, h.cursor, fun b member => ?_, h.distinct.put cell _⟩
    rcases World.key_of_mem_put member with same | ⟨c, earlier, same⟩
    · rw [same, ← h.size]
      exact World.keyInside_of_contains checked
    · rw [same]
      exact h.blocks c earlier

theorem removeBlock (h : w.InBounds l) {p : Payload}
    (taken : w.removeBlock p = .ok (.changed v changes)) : v.InBounds l := by
  obtain ⟨cell, _, taken⟩ := bind_eq_ok.mp taken
  obtain ⟨_, _, taken⟩ := bind_eq_ok.mp taken
  split at taken
  next =>
    cases taken
    exact h
  next =>
    cases taken
    exact ⟨h.size, h.cursor, fun b member => h.blocks b (List.mem_filter.mp member).1,
      h.distinct.filter _⟩

theorem setColor (h : w.InBounds l) {color : Value}
    (taken : w.setColor color = .changed v changes) : v.InBounds l := by
  unfold World.setColor at taken
  split at taken
  next =>
    cases taken
    exact ⟨h.size, h.cursor, h.blocks, h.distinct⟩
  next => cases taken

theorem react (h : w.InBounds l) (positive : l.gridSize.Positive) {a : Action}
    (taken : w.react a = .ok (.changed v changes)) : v.InBounds l := by
  unfold World.react at taken
  split at taken
  next => exact h.placeBlock taken
  next => exact h.removeBlock taken
  next => exact h.move positive taken
  next => exact h.goto positive taken
  next => exact h.setColor (Except.ok.inj taken)
  next => cases taken

end World.InBounds

end Building

namespace Sorting

theorem exchange_perm (l : List Int) (i j : Nat) : (exchange l i j).Perm l := by
  unfold exchange
  split
  next a b first second =>
    obtain ⟨inside, rfl⟩ := List.getElem?_eq_some_iff.mp first
    obtain ⟨inside', rfl⟩ := List.getElem?_eq_some_iff.mp second
    exact List.set_set_perm inside inside'
  next => exact List.Perm.refl l

/-- The shelf is only changed by a swap, which exchanges two potions and is counted, whatever its
payload takes for two places. -/
theorem World.react_changed {w v : World} {a : Action} {changes : List String}
    (taken : w.react a = .ok (.changed v changes)) : a.kind = .swap ∧
      ∃ i j, v = { w with potions := exchange w.potions i j, swaps := w.swaps + 1 } := by
  unfold World.react at taken
  split at taken
  next kind =>
    unfold World.swap at taken
    dsimp only at taken
    split at taken
    next => cases taken
    next =>
      obtain ⟨first, _, taken⟩ := bind_eq_ok.mp taken
      cases first with
      | false => cases taken
      | true =>
        obtain ⟨second, _, taken⟩ := bind_eq_ok.mp taken
        cases second with
        | false => cases taken
        | true =>
          obtain ⟨j, _, taken⟩ := bind_eq_ok.mp taken
          obtain ⟨i, _, taken⟩ := bind_eq_ok.mp taken
          cases taken
          exact ⟨kind, i, j, rfl⟩
  next => cases taken

theorem World.react_perm {w v : World} {a : Action} {changes : List String}
    (taken : w.react a = .ok (.changed v changes)) : v.potions.Perm w.potions := by
  obtain ⟨_, i, j, rfl⟩ := World.react_changed taken
  exact exchange_perm w.potions i j

end Sorting

namespace Combat

/-- Hit points between zero and their cap. -/
def Fighter.Bounded (u : Fighter) : Prop := 0 ≤ u.hp ∧ u.hp ≤ u.maxHp

/-- The units are those of the level, each with hit points between zero and its cap. -/
structure World.InBounds (l : Level) (w : World) : Prop where
  hero : w.hero = .ofConfig l.hero
  heroBounded : w.hero.Bounded
  ids : w.enemies.map Fighter.id = l.enemies.map UnitConfig.id
  bounded : ∀ e ∈ w.enemies, e.Bounded

namespace World.InBounds

variable {l : Level} {w v : World} {changes : List String}

theorem initial (atLeastZero : ∀ u ∈ l.hero :: l.enemies, 0 ≤ u.hp)
    (capped : ∀ u ∈ l.hero :: l.enemies, u.hp ≤ u.hpCap) : (World.initial l).InBounds l where
  hero := rfl
  heroBounded := ⟨atLeastZero _ List.mem_cons_self, capped _ List.mem_cons_self⟩
  ids := List.map_map
  bounded e member := by
    obtain ⟨u, listed, rfl⟩ := List.mem_map.mp member
    exact ⟨atLeastZero u (List.mem_cons_of_mem _ listed), capped u (List.mem_cons_of_mem _ listed)⟩

/-- Only the enemy that is hit has the identifier of the target, so its own cap applies. -/
theorem attack (h : w.InBounds l) (distinct : (l.enemies.map UnitConfig.id).Nodup) {id : Value}
    (taken : w.attack id = .changed v changes) : v.InBounds l := by
  unfold World.attack at taken
  split at taken
  next => cases taken
  next e found =>
    cases taken
    obtain ⟨text, _, listed⟩ := Option.bind_eq_some_iff.mp found
    have target : e ∈ w.enemies := List.mem_of_find?_eq_some listed
    have least := h.bounded e target
    refine ⟨h.hero, h.heroBounded, ?_, fun f member => ?_⟩
    · rw [← h.ids, List.map_map]
      refine List.map_congr_left fun f _ => ?_
      dsimp only [Function.comp]
      split
      next => rfl
      next => rfl
    · obtain ⟨g, old, rfl⟩ := List.mem_map.mp member
      split
      next same =>
        rw [← h.ids] at distinct
        obtain rfl : g = e := List.inj_on_of_nodup_map distinct old target (eq_of_beq same)
        exact clamp_mem _ (Int.le_trans least.1 least.2)
      next => exact h.bounded g old

theorem react (h : w.InBounds l) (distinct : (l.enemies.map UnitConfig.id).Nodup) {a : Action}
    (taken : w.react a = .ok (.changed v changes)) : v.InBounds l := by
  unfold World.react at taken
  split at taken
  next =>
    replace taken := Except.ok.inj taken
    unfold World.selectTarget at taken
    split at taken
    next => cases taken
    next =>
      cases taken
      exact ⟨h.hero, h.heroBounded, h.ids, h.bounded⟩
  next => exact h.attack distinct (Except.ok.inj taken)
  next => cases taken

end World.InBounds

end Combat

namespace Pixel

theorem World.within_eq (v : Value) (n : Int) : World.within v n = Building.World.within v n := rfl

/-- Pixels are painted as blocks are put. -/
theorem World.paint_eq_put (cell : List Value) (color : Value) (l : List (List Value × Value)) :
    World.paint cell color l = Building.World.put cell color l := by
  induction l with
  | nil => rfl
  | cons p rest ih => rw [World.paint, Building.World.put, ih]

/-- The cursor and every painted cell are on the level's canvas. -/
structure World.InBounds (l : Level) (w : World) : Prop where
  size : w.size = l.size
  across : 0 ≤ w.cursor.1 ∧ w.cursor.1 < l.size
  down : 0 ≤ w.cursor.2 ∧ w.cursor.2 < l.size
  pixels : ∀ p ∈ w.pixels, ∃ x y, p.1 = [x, y] ∧ x.Inside l.size ∧ y.Inside l.size

namespace World.InBounds

variable {l : Level} {w v : World} {changes : List String}

theorem initial (positive : 1 ≤ l.size) (begins : World.initial l = .ok w) : w.InBounds l := by
  obtain ⟨color, _, same⟩ := bind_eq_ok.mp begins
  cases same
  exact ⟨rfl, ⟨Int.le_refl 0, positive⟩, ⟨Int.le_refl 0, positive⟩, nofun⟩

theorem draw (h : w.InBounds l) {p : Payload} (taken : w.draw p = .ok (.changed v changes)) :
    v.InBounds l := by
  obtain ⟨parts, _, taken⟩ := bind_eq_ok.mp taken
  obtain ⟨pair, _, taken⟩ := bind_eq_ok.mp taken
  split at taken
  next x y _ =>
    obtain ⟨inX, across, taken⟩ := bind_eq_ok.mp taken
    cases inX with
    | false => cases taken
    | true =>
      obtain ⟨inY, down, taken⟩ := bind_eq_ok.mp taken
      cases inY with
      | false => cases taken
      | true =>
        cases taken
        refine ⟨h.size, h.across, h.down, fun q member => ?_⟩
        dsimp only at member
        rw [World.paint_eq_put] at member
        rw [World.within_eq] at across down
        rcases Building.World.key_of_mem_put member with same | ⟨c, earlier, same⟩
        · rw [← h.size]
          exact ⟨x, y, same, Building.World.inside_of_within across,
            Building.World.inside_of_within down⟩
        · rw [same]
          exact h.pixels c earlier
  next => cases taken

theorem move (h : w.InBounds l) {p : Payload} (taken : w.move p = .ok (.changed v changes)) :
    v.InBounds l := by
  obtain ⟨dx, _, taken⟩ := bind_eq_ok.mp taken
  obtain ⟨dy, _, taken⟩ := bind_eq_ok.mp taken
  cases taken
  have positive : 0 ≤ w.size - 1 := by
    have across := h.across
    have size := h.size
    omega
  have inX := clamp_mem (w.cursor.1 + dx) positive
  have inY := clamp_mem (w.cursor.2 + dy) positive
  rw [h.size] at inX inY
  refine ⟨h.size, ?_, ?_, h.pixels⟩
  · rw [h.size]
    exact ⟨inX.1, Int.lt_of_le_sub_one inX.2⟩
  · rw [h.size]
    exact ⟨inY.1, Int.lt_of_le_sub_one inY.2⟩

theorem react (h : w.InBounds l) {a : Action} (taken : w.react a = .ok (.changed v changes)) :
    v.InBounds l := by
  unfold World.react at taken
  split at taken
  next => exact h.draw taken
  next => exact h.move taken
  next =>
    replace taken := Except.ok.inj taken
    unfold World.setColor at taken
    split at taken
    next =>
      cases taken
      exact ⟨h.size, h.across, h.down, h.pixels⟩
    next => cases taken
  next => cases taken

end World.InBounds

end Pixel

namespace Domain

/-- What holds of every world of a level: places lie inside, nothing is lost or stored twice, and
hit points keep to their caps. -/
def InBounds : {d : Domain} → d.Level → d.World → Prop
  | robot, (l : Robot.Level), (w : Robot.World) => w.InBounds l
  | building, (l : Building.Level), (w : Building.World) => w.InBounds l
  | sorting, (l : Sorting.Level), (w : Sorting.World) => w.potions.Perm l.potions
  | combat, (l : Combat.Level), (w : Combat.World) => w.InBounds l
  | pixel, (l : Pixel.Level), (w : Pixel.World) => w.InBounds l
  | music, _, _ | sprite, _, _ | math, _, _ => True

/-- What an action leaves of a world: a refused action leaves it as it is, and so does one that the
world cannot work with. -/
def attempt (d : Domain) (w : d.World) (a : Action) : d.World :=
  match d.apply w a with
  | .ok (.changed v _) => v
  | .ok (.refused _) | .error _ => w

variable {d : Domain} {l : d.Level}

theorem initialWorld_inBounds (formed : Level.WellFormed l)
    (valid : d = combat → (d.validate l).valid = true) {w : d.World}
    (begins : d.initialWorld l = .ok w) : InBounds l w := by
  cases d with
  | robot =>
    cases begins
    exact .initial formed.1 formed.2
  | building =>
    cases begins
    exact .initial formed
  | sorting =>
    cases begins
    exact List.Perm.refl _
  | combat =>
    cases begins
    exact .initial formed (Combat.Level.of_valid (ownFindings_valid (valid rfl))).2
  | pixel => exact .initial formed begins
  | music | sprite | math => trivial

theorem react_inBounds (formed : Level.WellFormed l)
    (valid : d = combat → (d.validate l).valid = true) {w v : d.World} {a : Action}
    {changes : List String} (h : InBounds l w) (taken : d.react w a = .ok (.changed v changes)) :
    InBounds l v := by
  cases d with
  | robot => exact Robot.World.InBounds.react h taken
  | building => exact Building.World.InBounds.react h formed taken
  | sorting => exact (Sorting.World.react_perm taken).trans h
  | combat =>
    have distinct := (Combat.Level.of_valid (ownFindings_valid (valid rfl))).1
    exact Combat.World.InBounds.react h (List.nodup_cons.mp distinct).2 taken
  | pixel => exact Pixel.World.InBounds.react h taken
  | music | sprite | math => trivial

theorem attempt_inBounds (formed : Level.WellFormed l)
    (valid : d = combat → (d.validate l).valid = true) {w : d.World} (a : Action)
    (h : InBounds l w) : InBounds l (d.attempt w a) := by
  unfold attempt
  split
  next v changes taken => exact react_inBounds formed valid h (apply_changed_iff.mp taken)
  next => exact h
  next => exact h

/-- Whatever actions are put into the world of a level that loads, it stays in its bounds; an arena
has to be valid as well. -/
theorem attempts_inBounds {document : Value} (loads : loadLevel document = .ok ⟨d, l⟩)
    {w₀ : d.World} (begins : d.initialWorld l = .ok w₀)
    (valid : d = combat → (d.validate l).valid = true) (t : Trace) :
    InBounds l (t.foldl d.attempt w₀) := by
  have formed := loadLevel_wellFormed loads
  have first := initialWorld_inBounds formed valid begins
  clear begins
  induction t generalizing w₀ with
  | nil => exact first
  | cons a t ih => exact ih (attempt_inBounds formed valid a first)

/-- Two blows that take more than the orc has, and one at a list, in a valid arena. -/
theorem attempts_inBounds_duel :
    let document : Value :=
      .dict [("domain", "combat"), ("id", 1), ("name", "Duel"),
        ("enemies", .list [.dict [("id", "orc"), ("name", "Orc"), ("x", 1), ("y", 1), ("hp", 30)]]),
        ("goal", .dict [("type", "free")])]
    let orc : Combat.UnitConfig := { id := "orc", name := "Orc", x := 1, y := 1, hp := 30 }
    let l : Combat.Level :=
      { header := { id := .number 1, name := "Duel" }, enemies := [orc], goal := .free 1 }
    let t : Trace := [.attack "orc", .attack "orc", ⟨.attack, { targetId := .list [] }⟩]
    let w : Combat.World := t.foldl combat.attempt (Combat.World.initial l)
    loadLevel document = .ok ⟨combat, l⟩ ∧ (combat.validate l).valid = true ∧
      combat.initialWorld l = .ok (Combat.World.initial l) ∧ w.InBounds l ∧
      w.enemies.map Combat.Fighter.hp = [0] := by
  intro document orc l t w
  have loads : loadLevel document = .ok ⟨combat, l⟩ := rfl
  have valid : (combat.validate l).valid = true := by decide +kernel
  exact ⟨loads, valid, rfl, attempts_inBounds loads rfl (fun _ => valid) t, rfl⟩

end Domain

end PuzzleWorlds
