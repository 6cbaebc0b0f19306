import PuzzleWorlds.Proofs.Bookkeeping
import PuzzleWorlds.Proofs.WorldBounds

/-! Headings, cursors and colors in the bookkeeping of a registry. The registry turns and clamps
with code of its own while a program runs, and the world turns and clamps again when the trace is
replayed; yet what the registry writes into an action is where the replayed world stands. -/

namespace PuzzleWorlds

namespace Robot

theorem World.takes_move (w : World) (dx dy : Int) (dz : Value) : ∃ x y changes,
    w.react (.move (.int dx) (.int dy) dz) = .ok (.changed { w with x, y } changes) := by
  refine ⟨clamp (w.x + dx) 0 (w.width - 1), clamp (w.y + dy) 0 (w.height - 1), ?_⟩
  change ∃ changes, w.move _ = _
  simp only [World.move, Action.move, Value.orElse_int, Value.toInt_int]
  exact ⟨_, rfl⟩

/-- A quarter turn is a multiple of a right angle. -/
theorem World.takes_turn (w : World) {q : Int} (quarter : q = 90 ∨ q = -90) : ∃ changes,
    w.react (.turn q) = .ok (.changed { w with heading := w.heading.turn q } changes) := by
  rcases quarter with rfl | rfl
  · exact ⟨_, rfl⟩
  · exact ⟨_, rfl⟩

theorem World.takes_collectStar (w : World) : ∃ v changes,
    w.react .collectStar = .ok (.changed v changes) ∧ v.heading = w.heading := by
  change ∃ v changes, Except.ok w.collectStar = _ ∧ _
  unfold collectStar
  split
  next => exact ⟨_, _, rfl, rfl⟩
  next => exact ⟨w, _, rfl, rfl⟩

/-- A turn is recorded with the new heading, every other action with the heading as it was. -/
theorem Command.call_acts {s s' : Shadow} {c : Command} {args : Arguments} {a : Action}
    (h : c.call s args = .ok (.acts s' a)) :
    (s' = s ∧ (a = .collectStar ∨ (∃ seconds, a = .wait seconds) ∨
      a = .move (.int s.heading.vector.1) (.int s.heading.vector.2) 0)) ∨
    ∃ q, (q = 90 ∨ q = -90) ∧ s' = ⟨s.heading.turn q⟩ ∧ a = .turn q := by
  cases c with
  | collectStar =>
    simp only [call, Except.ok.injEq, Response.acts.injEq] at h
    obtain ⟨rfl, rfl⟩ := h
    exact .inl ⟨rfl, .inl rfl⟩
  | moveForward =>
    simp only [call, Except.ok.injEq, Response.acts.injEq] at h
    obtain ⟨rfl, rfl⟩ := h
    exact .inl ⟨rfl, .inr (.inr rfl)⟩
  | turnLeft =>
    simp only [call, Except.ok.injEq, Response.acts.injEq] at h
    obtain ⟨rfl, rfl⟩ := h
    exact .inr ⟨-90, .inr rfl, rfl, rfl⟩
  | turnRight =>
    simp only [call, Except.ok.injEq, Response.acts.injEq] at h
    obtain ⟨rfl, rfl⟩ := h
    exact .inr ⟨90, .inl rfl, rfl, rfl⟩
  | wait =>
    obtain ⟨w, pause, same⟩ := map_eq_ok.mp h
    obtain ⟨seconds, _, _, rfl⟩ := waitAction_eq_ok.mp pause
    cases same
    exact .inl ⟨rfl, .inr (.inl ⟨seconds, rfl⟩)⟩

/-- A step is recorded along the world's heading, and a turn turns both headings. -/
theorem Command.follows : Registry.Follows (d := .robot)
    (fun (s : Shadow) (w : World) => w.heading = s.heading)
    (fun (w : World) a => a.kind = .move →
      a = .move (.int w.heading.vector.1) (.int w.heading.vector.2) 0) := by
  intro (s : Shadow) (s' : Shadow) (w : World) c args a agrees called
  obtain ⟨rfl, rfl | ⟨seconds, rfl⟩ | rfl⟩ | ⟨q, quarter, rfl, rfl⟩ := Command.call_acts called
  · obtain ⟨v, changes, taken, same⟩ := w.takes_collectStar
    exact ⟨nofun, v, changes, Domain.apply_changed_iff.mpr taken, same.trans agrees⟩
  · exact ⟨nofun, w, [], rfl, agrees⟩
  · obtain ⟨x, y, changes, taken⟩ := w.takes_move s'.heading.vector.1 s'.heading.vector.2 0
    refine ⟨fun _ => ?_, _, changes, Domain.apply_changed_iff.mpr taken, agrees⟩
    rw [agrees]
  · obtain ⟨changes, taken⟩ := w.takes_turn quarter
    exact ⟨nofun, _, changes, Domain.apply_changed_iff.mpr taken,
      congrArg (Heading.turn · q) agrees⟩

end Robot

theorem lowerText_ne_empty {s : String} (h : s ≠ "") : lowerText s ≠ "" := by
  intro empty
  have chars : lowerFrom [] s.toList = [] := by
    rw [← String.toList_ofList (l := lowerFrom [] s.toList)]
    exact congrArg String.toList empty
  cases spelled : s.toList with
  | nil => exact h (String.toList_eq_nil_iff.mp spelled)
  | cons c rest =>
    rw [spelled, lowerFrom] at chars
    obtain ⟨out, _⟩ := List.append_eq_nil_iff.mp chars
    split at out
    next => cases out
    next =>
      split at out
      next => cases out
      next => cases out

namespace Building

theorem resolveColor_ne_empty {v : Value} {c : String} (h : resolveColor v = .ok c) : c ≠ "" := by
  unfold resolveColor at h
  dsimp only at h
  split at h
  next named found =>
    obtain rfl := Except.ok.inj h
    have all : ∀ n ∈ namedColors, n.2 ≠ "" := by decide
    exact all named (List.mem_of_find?_eq_some found)
  next =>
    split at h
    next hex =>
      obtain rfl := Except.ok.inj h
      refine lowerText_ne_empty fun empty => ?_
      rw [empty] at hex
      cases hex
    next => cases h

namespace World

variable (w : World)

theorem within_int {i n : Int} (low : 0 ≤ i) (high : i < n) : within (.int i) n = .ok true := by
  rw [within, (Value.ordered_inside low high).1]
  exact (Value.ordered_inside low high).2

theorem contains_cellParts {c : Cell} (h : c.Inside w.size) :
    w.contains (cellParts c) = .ok true := by
  have across : within (.int c.x) w.width = .ok true := within_int h.x.1 h.x.2
  have up : within (.int c.y) w.height = .ok true := within_int h.y.1 h.y.2
  simp only [contains, cellParts, across, up]
  exact within_int h.z.1 h.z.2

theorem cellOf_tuple (c : Cell) : w.cellOf (.tuple (cellParts c)) = .ok (cellParts c) := rfl

theorem takes_move (dx dy dz : Int) : w.react (.move (.int dx) (.int dy) (.int dz)) =
    .ok (w.toCell (w.clampCell (w.cursor.x + dx) (w.cursor.y + dy) (w.cursor.z + dz))) := by
  change w.move _ = _
  simp only [move, Action.move, Value.orElse_int, Value.toInt_int]
  rfl

theorem takes_goto (x y z : Int) : w.react (.goto x y z) = .ok (w.toCell (w.clampCell x y z)) :=
  rfl

theorem takes_placeBlock {c : Cell} (h : c.Inside w.size) (color : Value) :
    ∃ blocks changes, w.react (.placeBlock (.tuple (cellParts c)) color) =
      .ok (.changed { w with blocks } changes) := by
  change ∃ blocks changes, w.placeBlock _ = _
  simp only [placeBlock, Action.placeBlock, cellOf_tuple, ok_bind, w.contains_cellParts h]
  exact ⟨_, _, rfl⟩

theorem takes_removeBlock (c : Cell) : ∃ blocks changes,
    w.react (.removeBlock (.tuple (cellParts c))) = .ok (.changed { w with blocks } changes) := by
  change ∃ blocks changes, w.removeBlock _ = _
  have keyed : Value.keyedItems (cellParts c) = .ok () := rfl
  simp only [removeBlock, Action.removeBlock, cellOf_tuple, ok_bind, keyed]
  split
  next => exact ⟨w.blocks, _, rfl⟩
  next => exact ⟨_, _, rfl⟩

theorem takes_setColor {c : String} (h : c ≠ "") :
    ∃ changes, w.react (.setColor c) = .ok (.changed { w with color := .text c } changes) := by
  have shown : (Value.text c).truthy = true := by simp [Value.truthy, h]
  exact ⟨_, congrArg Except.ok (if_pos shown)⟩

end World

/-- A block is recorded where the bookkeeping has its cursor and in the color that it has. -/
theorem Command.call_acts {s s' : Shadow} {c : Command} {args : Arguments} {a : Action}
    (h : c.call s args = .ok (.acts s' a)) :
    (∃ x y z, s' = { s with cursor := s.clampCell x y z } ∧ a = .goto x y z) ∨
    (∃ dx dy dz, s' = s.moved dx dy dz ∧ a = .move (.int dx) (.int dy) (.int dz)) ∨
    (s' = s ∧ (a = .placeBlock s.cell s.color ∨ a = .removeBlock s.cell)) ∨
    ∃ color, color ≠ "" ∧ s' = { s with color := .text color } ∧ a = .setColor color := by
  cases c with
  | goto =>
    obtain ⟨x, _, h⟩ := bind_eq_ok.mp h
    obtain ⟨y, _, h⟩ := bind_eq_ok.mp h
    obtain ⟨z, _, h⟩ := bind_eq_ok.mp h
    cases h
    exact .inl ⟨x, y, z, rfl, rfl⟩
  | moveX =>
    obtain ⟨dx, _, h⟩ := bind_eq_ok.mp h
    cases h
    exact .inr (.inl ⟨dx, 0, 0, rfl, rfl⟩)
  | moveY =>
    obtain ⟨dy, _, h⟩ := bind_eq_ok.mp h
    cases h
    exact .inr (.inl ⟨0, dy, 0, rfl, rfl⟩)
  | moveZ =>
    obtain ⟨dz, _, h⟩ := bind_eq_ok.mp h
    cases h
    exact .inr (.inl ⟨0, 0, dz, rfl, rfl⟩)
  | placeBlock =>
    cases h
    exact .inr (.inr (.inl ⟨rfl, .inl rfl⟩))
  | removeBlock =>
    cases h
    exact .inr (.inr (.inl ⟨rfl, .inr rfl⟩))
  | setColor =>
    obtain ⟨color, resolved, h⟩ := bind_eq_ok.mp h
    cases h
    exact .inr (.inr (.inr ⟨color, resolveColor_ne_empty resolved, rfl, rfl⟩))

/-- The bookkeeping of a build area shows the world's size, cursor and color, and the cursor is in
the area. -/
structure Shadow.Shows (s : Shadow) (w : World) : Prop where
  size : s.size = w.size
  positive : s.size.Positive
  cursor : w.cursor = s.cursor
  color : w.color = s.color
  inside : w.cursor.Inside w.size

namespace Shadow.Shows

variable {s : Shadow} {w : World}

theorem initial {l : Level} (positive : l.gridSize.Positive) :
    (Shadow.initial l).Shows (World.initial l) where
  size := rfl
  positive := positive
  cursor := rfl
  color := rfl
  inside := World.clampCell_inside { World.initial l with } positive _ _ _

theorem clampCell (h : s.Shows w) (x y z : Int) : w.clampCell x y z = s.clampCell x y z := by
  simp only [World.clampCell, Shadow.clampCell, h.size, World.size]

/-- The bookkeeping and the world put their cursors to the same cell. -/
theorem toCell (h : s.Shows w) (x y z : Int) :
    { s with cursor := s.clampCell x y z }.Shows { w with cursor := w.clampCell x y z } := by
  have positive := h.positive
  rw [h.size] at positive
  exact ⟨h.size, h.positive, h.clampCell x y z, h.color, w.clampCell_inside positive x y z⟩

theorem moved (h : s.Shows w) (dx dy dz : Int) : (s.moved dx dy dz).Shows
    { w with cursor :=
      w.clampCell (w.cursor.x + dx) (w.cursor.y + dy) (w.cursor.z + dz) } := by
  rw [h.cursor]
  exact h.toCell _ _ _

end Shadow.Shows

/-- A block is recorded at the world's cursor and in its color. -/
theorem Command.follows : Registry.Follows (d := .building) Shadow.Shows
    (fun (w : World) a =>
      (a.kind = .placeBlock → a = .placeBlock (.tuple (World.cellParts w.cursor)) w.color) ∧
      (a.kind = .removeBlock → a = .removeBlock (.tuple (World.cellParts w.cursor)))) := by
  intro (s : Shadow) (s' : Shadow) (w : World) c args a shows called
  obtain ⟨x, y, z, rfl, rfl⟩ | ⟨dx, dy, dz, rfl, rfl⟩ | ⟨rfl, rfl | rfl⟩ |
    ⟨color, named, rfl, rfl⟩ := Command.call_acts called
  · exact ⟨⟨nofun, nofun⟩, _, _, Domain.apply_changed_iff.mpr (w.takes_goto x y z),
      shows.toCell x y z⟩
  · exact ⟨⟨nofun, nofun⟩, _, _, Domain.apply_changed_iff.mpr (w.takes_move dx dy dz),
      shows.moved dx dy dz⟩
  · have inside := shows.inside
    rw [shows.cursor] at inside
    obtain ⟨blocks, changes, taken⟩ := w.takes_placeBlock inside s'.color
    refine ⟨⟨fun _ => ?_, nofun⟩, _, changes, Domain.apply_changed_iff.mpr taken, ?_⟩
    · rw [shows.cursor, shows.color]
      rfl
    · exact ⟨shows.size, shows.positive, shows.cursor, shows.color, shows.inside⟩
  · obtain ⟨blocks, changes, taken⟩ := w.takes_removeBlock s'.cursor
    refine ⟨⟨nofun, fun _ => ?_⟩, _, changes, Domain.apply_changed_iff.mpr taken, ?_⟩
    · rw [shows.cursor]
      rfl
    · exact ⟨shows.size, shows.positive, shows.cursor, shows.color, shows.inside⟩
  · obtain ⟨changes, taken⟩ := w.takes_setColor named
    exact ⟨⟨nofun, nofun⟩, _, changes, Domain.apply_changed_iff.mpr taken,
      shows.size, shows.positive, shows.cursor, rfl, shows.inside⟩

end Building

namespace Pixel

theorem paintCode?_ne_empty {s c : String} (h : paintCode? s = some c) : c ≠ "" := by
  have all : ∀ p ∈ paints, p.2 ≠ "" := by decide
  unfold paintCode? at h
  dsimp only at h
  split at h
  next named found =>
    obtain rfl := Option.some.inj h
    exact all named (List.mem_of_find?_eq_some found)
  next =>
    split at h
    next known =>
      obtain rfl := Option.some.inj h
      obtain ⟨p, member, same⟩ := List.any_eq_true.mp known
      rw [← eq_of_beq same]
      exact all p member
    next => cases h

theorem colorCode_eq_ok {v : Value} {c : String} :
    colorCode v = .ok c ↔ paintCode? v.display = some c := by
  unfold colorCode
  cases paintCode? v.display <;> simp

namespace World

variable (w : World)

theorem takes_draw {x y : Int} (across : 0 ≤ x ∧ x < w.size) (down : 0 ≤ y ∧ y < w.size)
    (color : String) : ∃ pixels changes,
    w.react (.drawPixel (.tuple [.int x, .int y]) color) =
      .ok (.changed { w with pixels } changes) := by
  change ∃ pixels changes, w.draw _ = _
  have parts : ((Value.tuple [.int x, .int y]).orElse (.tuple (cellParts w.cursor))).parts =
      .ok [.int x, .int y] := rfl
  have pair : (Value.tuple [.int x, .int y]).unpack 2 = .ok [.int x, .int y] := rfl
  simp only [draw, Action.drawPixel, parts, pair, ok_bind, within_eq,
    Building.World.within_int across.1 across.2, Building.World.within_int down.1 down.2]
  exact ⟨_, _, rfl⟩

theorem takes_move (dx dy : Int) (dz : Value) : ∃ changes,
    w.react (.move (.int dx) (.int dy) dz) = .ok (.changed { w with
      cursor := (clamp (w.cursor.1 + dx) 0 (w.size - 1), clamp (w.cursor.2 + dy) 0 (w.size - 1)) }
      changes) := by
  change ∃ changes, w.move _ = _
  simp only [move, Action.move, Value.orElse_int, Value.toInt_int]
  exact ⟨_, rfl⟩

theorem takes_setColor {c : String} (h : c ≠ "") :
    ∃ changes, w.react (.setColor c) = .ok (.changed { w with color := .text c } changes) := by
  have shown : (Value.text c).truthy = true := by simp [Value.truthy, h]
  exact ⟨_, congrArg Except.ok (if_pos shown)⟩

end World

/-- A pixel is recorded where the bookkeeping has its cursor and in the color that it has. -/
theorem Command.call_acts {s s' : Shadow} {c : Command} {args : Arguments} {a : Action}
    (h : c.call s args = .ok (.acts s' a)) :
    (s' = s ∧ a = .drawPixel (.tuple (World.cellParts s.cursor)) s.color) ∨
    (s' = { s with cursor := (s.cursor.1, min (s.cursor.2 + 1) (s.size - 1)) } ∧
      a = .move 0 1 0) ∨
    (s' = { s with cursor := (min (s.cursor.1 + 1) (s.size - 1), s.cursor.2) } ∧
      a = .move 1 0 0) ∨
    ∃ color, color ≠ "" ∧ s' = { s with color } ∧ a = .setColor color := by
  cases c with
  | draw =>
    cases h
    exact .inl ⟨rfl, rfl⟩
  | moveDown =>
    cases h
    exact .inr (.inl ⟨rfl, rfl⟩)
  | moveRight =>
    cases h
    exact .inr (.inr (.inl ⟨rfl, rfl⟩))
  | setColor =>
    obtain ⟨color, coded, h⟩ := bind_eq_ok.mp h
    cases h
    exact .inr (.inr (.inr ⟨color, paintCode?_ne_empty (colorCode_eq_ok.mp coded), rfl, rfl⟩))

/-- The bookkeeping of a canvas shows the world's size, cursor and color, and the cursor is on the
canvas. -/
structure Shadow.Shows (s : Shadow) (w : World) : Prop where
  size : w.size = s.size
  cursor : w.cursor = s.cursor
  color : w.color = .text s.color
  across : 0 ≤ s.cursor.1 ∧ s.cursor.1 < s.size
  down : 0 ≤ s.cursor.2 ∧ s.cursor.2 < s.size

/-- A canvas and its bookkeeping begin with the same paint. -/
theorem Shadow.Shows.initial {l : Level} (positive : 1 ≤ l.size) {w : World}
    (begins : World.initial l = .ok w) :
    ∃ s, Shadow.initial l = .ok s ∧ s.Shows w := by
  obtain ⟨color, coded, same⟩ := bind_eq_ok.mp begins
  cases same
  refine ⟨{ size := l.size, color }, ?_, rfl, rfl, rfl, ⟨Int.le_refl 0, ?_⟩, Int.le_refl 0, ?_⟩
  · rw [Shadow.initial, coded]
    rfl
  · exact Int.lt_of_lt_of_le Int.zero_lt_one positive
  · exact Int.lt_of_lt_of_le Int.zero_lt_one positive

/-- A step to the right or down stops at the last cell, for the bookkeeping and for the world. -/
theorem clamp_succ {i size : Int} (h : 0 ≤ i ∧ i < size) :
    clamp (i + 1) 0 (size - 1) = min (i + 1) (size - 1) ∧ clamp (i + 0) 0 (size - 1) = i := by
  unfold clamp
  omega

theorem min_succ_inside {i size : Int} (h : 0 ≤ i ∧ i < size) :
    0 ≤ min (i + 1) (size - 1) ∧ min (i + 1) (size - 1) < size := by
  omega

/-- A pixel is recorded at the world's cursor and in its color. -/
theorem Command.follows : Registry.Follows (d := .pixel) Shadow.Shows
    (fun (w : World) a => a.kind = .drawPixel →
      a.payload.position = .tuple (World.cellParts w.cursor) ∧ a.payload.color = w.color) := by
  intro (s : Shadow) (s' : Shadow) (w : World) c args a shows called
  obtain ⟨size, cursor, color, across, down⟩ := shows
  obtain ⟨rfl, rfl⟩ | ⟨rfl, rfl⟩ | ⟨rfl, rfl⟩ | ⟨paint, named, rfl, rfl⟩ := Command.call_acts called
  · obtain ⟨pixels, changes, taken⟩ := w.takes_draw (size ▸ across) (size ▸ down) s'.color
    refine ⟨fun _ => ⟨?_, color.symm⟩, _, changes, Domain.apply_changed_iff.mpr taken,
      size, cursor, color, across, down⟩
    rw [cursor]
    rfl
  · obtain ⟨changes, taken⟩ := w.takes_move 0 1 0
    rw [cursor, size, (clamp_succ across).2, (clamp_succ down).1] at taken
    exact ⟨nofun, _, changes, Domain.apply_changed_iff.mpr taken,
      rfl, rfl, color, across, min_succ_inside down⟩
  · obtain ⟨changes, taken⟩ := w.takes_move 1 0 0
    rw [cursor, size, (clamp_succ across).1, (clamp_succ down).2] at taken
    exact ⟨nofun, _, changes, Domain.apply_changed_iff.mpr taken,
      rfl, rfl, color, min_succ_inside across, down⟩
  · obtain ⟨changes, taken⟩ := w.takes_setColor named
    exact ⟨nofun, _, changes, Domain.apply_changed_iff.mpr taken,
      size, cursor, rfl, across, down⟩

end Pixel

namespace Domain

/-- What the action names is what the world that it meets has: a step goes along the heading, and a
cell is the cursor's, with the current color where one is given. -/
def Names : (d : Domain) → d.World → Action → Prop
  | robot, (w : Robot.World), a => a.kind = .move →
    a = .move (.int w.heading.vector.1) (.int w.heading.vector.2) 0
  | building, (w : Building.World), a =>
    (a.kind = .placeBlock →
      a = .placeBlock (.tuple (Building.World.cellParts w.cursor)) w.color) ∧
    (a.kind = .removeBlock → a = .removeBlock (.tuple (Building.World.cellParts w.cursor)))
  | pixel, (w : Pixel.World), a => a.kind = .drawPixel →
    a.payload.position = .tuple (Pixel.World.cellParts w.cursor) ∧ a.payload.color = w.color
  | _, _, _ => True

end Domain

end PuzzleWorlds
