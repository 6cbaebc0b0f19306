import Mathlib.Data.Int.Order.Basic
import Mathlib.Order.Basic
import PuzzleWorlds.Level.Packs
import PuzzleWorlds.Proofs.Replayable
import PuzzleWorlds.Proofs.Solvable

/-! Pictures that can be drawn. The cursor of a canvas goes to the right and down, never back, so
whatever a program does, of two painted cells one lies to the right of and below the other, or
straight so. A picture whose cells are of this kind is drawn from the corner on; the others cannot
be drawn. -/

namespace PuzzleWorlds

namespace Value

theorem same_text_iff {v : Value} {s : String} : v.same (.text s) = true ↔ v = .text s := by
  cases v <;> simp [same, isNumber]

theorem orElse_self (v : Value) : v.orElse v = v := ite_self v

end Value

namespace Pixel

namespace World

theorem sameItems_cellParts {a b : Int × Int} :
    Value.sameItems (cellParts a) (cellParts b) = true ↔ a = b := by
  simp [cellParts, Value.sameItems, Value.same_int_iff, Prod.ext_iff]

/-- The cell has been painted. -/
def Painted (w : World) (c : Int × Int) : Prop := ∃ p ∈ w.pixels, p.1 = cellParts c

/-- Every painted cell is named by two whole numbers. -/
def Keyed (w : World) : Prop := ∀ p ∈ w.pixels, ∃ c, p.1 = cellParts c

/-- The world with one more painted cell. -/
def dotted (w : World) (c : Int × Int) (color : Value) : World :=
  { w with pixels := paint (cellParts c) color w.pixels }

variable {w v : World}

theorem painted_of_dotted {a c : Int × Int} {color : Value} (h : (w.dotted a color).Painted c) :
    c = a ∨ w.Painted c := by
  obtain ⟨p, member, key⟩ := h
  rw [dotted, paint_eq_put] at member
  rcases Building.World.key_of_mem_put member with new | ⟨q, old, same⟩
  · exact .inl (sameItems_cellParts.mp (by rw [← key, new]; exact sameItems_cellParts.mpr rfl))
  · exact .inr ⟨q, old, same.symm.trans key⟩

theorem Keyed.dotted (h : w.Keyed) (a : Int × Int) (color : Value) : (w.dotted a color).Keyed := by
  intro p member
  rw [World.dotted, paint_eq_put] at member
  rcases Building.World.key_of_mem_put member with new | ⟨q, old, same⟩
  · exact ⟨a, new⟩
  · obtain ⟨c, key⟩ := h q old
    exact ⟨c, same.trans key⟩

theorem colorAt?_dotted (keyed : w.Keyed) (a c : Int × Int) (color : Value) :
    (w.dotted a color).colorAt? (cellParts c) =
      if c = a then some color else w.colorAt? (cellParts c) := by
  obtain ⟨_, _, _, pixels⟩ := w
  simp only [Keyed, World.dotted, colorAt?] at keyed ⊢
  induction pixels with
  | nil =>
    by_cases same : c = a
    · simp [paint, same, sameItems_cellParts]
    · have other : ¬a = c := fun h => same h.symm
      simp [paint, same, sameItems_cellParts, other]
  | cons p rest ih =>
    obtain ⟨b, key⟩ := keyed p List.mem_cons_self
    obtain ⟨_, shown⟩ := p
    obtain rfl : _ = cellParts b := key
    have ih := ih fun q member => keyed q (List.mem_cons_of_mem _ member)
    by_cases here : b = a
    · subst here
      by_cases same : c = b
      · simp [paint, same, sameItems_cellParts]
      · have other : ¬b = c := fun h => same h.symm
        simp [paint, same, sameItems_cellParts, other]
    · by_cases same : b = c
      · subst same
        simp [paint, sameItems_cellParts, here]
      · simp [paint, sameItems_cellParts, here, same, ih]

/-- Only drawing paints. -/
theorem react_pixels {a : Action} {changes : List String} (other : a.kind ≠ .drawPixel)
    (taken : w.react a = .ok (.changed v changes)) : v.pixels = w.pixels := by
  unfold react at taken
  split at taken
  next draws => exact absurd draws other
  next =>
    obtain ⟨dx, _, taken⟩ := bind_eq_ok.mp taken
    obtain ⟨dy, _, taken⟩ := bind_eq_ok.mp taken
    cases taken
    rfl
  next =>
    replace taken := Except.ok.inj taken
    unfold setColor at taken
    split at taken
    next =>
      cases taken
      rfl
    next => cases taken
  next => cases taken

/-- What is painted lies on one path to the right and down, which leads to the cursor. -/
structure OnPath (w : World) : Prop where
  keyed : w.Keyed
  behind : ∀ c, w.Painted c → c ≤ w.cursor
  path : ∀ a b, w.Painted a → w.Painted b → a ≤ b ∨ b ≤ a

namespace OnPath

theorem blank (empty : w.pixels = []) : w.OnPath where
  keyed := by simp [Keyed, empty]
  behind := by simp [Painted, empty]
  path := by simp [Painted, empty]

theorem ahead (h : w.OnPath) (pixels : v.pixels = w.pixels) (onwards : w.cursor ≤ v.cursor) :
    v.OnPath where
  keyed := by
    rw [Keyed, pixels]
    exact h.keyed
  behind c painted := by
    rw [Painted, pixels] at painted
    exact (h.behind c painted).trans onwards
  path a b first second := by
    rw [Painted, pixels] at first second
    exact h.path a b first second

theorem dotted (h : w.OnPath) (color : Value) : (w.dotted w.cursor color).OnPath where
  keyed := h.keyed.dotted _ _
  behind c painted := by
    rcases painted_of_dotted painted with rfl | old
    · exact le_rfl
    · exact h.behind c old
  path a b first second := by
    rcases painted_of_dotted first with rfl | first
    · rcases painted_of_dotted second with rfl | second
      · exact .inl le_rfl
      · exact .inr (h.behind b second)
    · rcases painted_of_dotted second with rfl | second
      · exact .inl (h.behind a first)
      · exact h.path a b first second

end OnPath

end World

namespace Shadow.Shows

variable {s s' : Shadow} {w v : World}

theorem exists_pixels (h : s.Shows w) :
    ∃ pixels, w = { size := s.size, cursor := s.cursor, color := .text s.color, pixels } := by
  obtain ⟨size, cursor, color, pixels⟩ := w
  obtain rfl : size = s.size := h.size
  obtain rfl : cursor = s.cursor := h.cursor
  obtain rfl : color = .text s.color := h.color
  exact ⟨pixels, rfl⟩

theorem unique (h : s.Shows w) (h' : s.Shows v) (pixels : w.pixels = v.pixels) : w = v := by
  obtain ⟨_, rfl⟩ := h.exists_pixels
  obtain ⟨_, rfl⟩ := h'.exists_pixels
  obtain rfl := pixels
  rfl

/-- The pixel that the registry records is painted at the cursor. -/
theorem draws (h : s.Shows w) : ∃ changes,
    w.react (.drawPixel (.tuple (World.cellParts s.cursor)) s.color) =
      .ok (.changed (w.dotted w.cursor w.color) changes) := by
  obtain ⟨pixels, rfl⟩ := h.exists_pixels
  change ∃ changes, World.draw _ _ = _
  have parts : (Value.tuple (World.cellParts s.cursor)).parts =
    .ok (World.cellParts s.cursor) := rfl
  have pair : (Value.tuple (World.cellParts s.cursor)).unpack 2 =
    .ok [.int s.cursor.1, .int s.cursor.2] := rfl
  simp only [World.draw, Action.drawPixel, Value.orElse_self, parts, pair, ok_bind,
    World.within_eq, Building.World.within_int h.across.1 h.across.2,
    Building.World.within_int h.down.1 h.down.2]
  exact ⟨_, rfl⟩

end Shadow.Shows

theorem wrongCells_eq_nil {w : World} {cells : List ((Int × Int) × String)} :
    wrongCells w cells = .ok [] ↔ ∀ p ∈ cells, ∃ code, paintCode? p.2 = some code ∧
      w.colorAt? (World.cellParts p.1) = some (.text code) := by
  induction cells with
  | nil => exact iff_of_true rfl nofun
  | cons p rest ih =>
    obtain ⟨cell, wanted⟩ := p
    have right {code : String} : Value.same (Value.ofOption (w.colorAt? (World.cellParts cell)))
        (.text code) = true ↔ w.colorAt? (World.cellParts cell) = some (.text code) := by
      rw [Value.same_text_iff]
      cases w.colorAt? (World.cellParts cell) <;> simp [Value.ofOption]
    rw [List.forall_mem_cons, ← ih, wrongCells, bind_eq_ok]
    constructor
    · rintro ⟨code, coded, checked⟩
      obtain ⟨others, checked, listed⟩ := bind_eq_ok.mp checked
      dsimp only at listed
      split at listed
      next same =>
        obtain rfl := Except.ok.inj listed
        have known := colorCode_eq_ok.mp coded
        exact ⟨⟨code, known, right.mp same⟩, checked⟩
      next => cases Except.ok.inj listed
    · rintro ⟨⟨code, coded, colored⟩, checked⟩
      refine ⟨code, colorCode_eq_ok (v := .text wanted) |>.mpr coded, ?_⟩
      rw [checked, ok_bind]
      dsimp only
      rw [if_pos (right.mpr colored)]
      rfl

theorem unpainted_eq_nil {w : World} {cells : List (Int × Int)} :
    (cells.filter fun c => (w.colorAt? (World.cellParts c)).isNone) = [] ↔
      ∀ c ∈ cells, (w.colorAt? (World.cellParts c)).isSome = true := by
  simp [List.filter_eq_nil_iff, Option.isSome_iff_ne_none]

/-- The verdict on a picture: every cell is painted, and in the wanted color where colors count. -/
theorem reaches_pixels {l : Level} {cells : List (Int × Int)} {colors : Option (List String)}
    (aim : l.goal = .pixels cells colors) {w : World} {log : ActionLog} :
    Domain.pixel.reaches l w log = true ↔
      (∀ c ∈ cells, (w.colorAt? (World.cellParts c)).isSome = true) ∧
      ∀ names, colors = some names → ∀ p ∈ cells.zip names, ∃ code, paintCode? p.2 = some code ∧
        w.colorAt? (World.cellParts p.1) = some (.text code) := by
  have verdict : checkGoal l w log = checkPixels cells colors w := by simp only [checkGoal, aim]
  refine (Domain.reaches_iff_success (d := .pixel)).trans ?_
  change (∃ v, checkGoal l w log = .ok v ∧ v.success = true) ↔ _
  rw [← unpainted_eq_nil, verdict, checkPixels]
  generalize (cells.filter fun c => (w.colorAt? (World.cellParts c)).isNone) = empty
  cases empty with
  | cons c rest => exact iff_of_false (by rintro ⟨_, ⟨⟩, ⟨⟩⟩) (by rintro ⟨⟨⟩, _⟩)
  | nil =>
    cases colors with
    | none => exact iff_of_true ⟨_, rfl, rfl⟩ ⟨rfl, by rintro _ ⟨⟩⟩
    | some names =>
      simp only [Option.some.injEq, forall_eq', true_and]
      rw [← wrongCells_eq_nil]
      cases wrongCells w (cells.zip names) with
      | error f => exact iff_of_false (by rintro ⟨_, ⟨⟩, _⟩) (by rintro ⟨⟩)
      | ok wrong =>
        cases wrong with
        | cons c rest => exact iff_of_false (by rintro ⟨_, ⟨⟩, ⟨⟩⟩) (by rintro ⟨⟩)
        | nil => exact iff_of_true ⟨_, rfl, rfl⟩ rfl

/-- Calls can lead from the one canvas to the other, from any bookkeeping that shows the first. -/
def Draws (w v : World) : Prop :=
  ∀ s : Shadow, s.Shows w → ∃ cs t s', Domain.Steers .pixel s w cs t s' v ∧ Shadow.Shows s' v

namespace Draws

theorem refl (w : World) : Draws w w :=
  fun s shows => ⟨[], [], s, .nil (d := .pixel) s w, shows⟩

theorem trans {w v u : World} (h : Draws w v) (h' : Draws v u) : Draws w u := by
  intro s shows
  obtain ⟨cs, t, s', first, shows'⟩ := h s shows
  obtain ⟨cs', t', s'', next, shows''⟩ := h' s' shows'
  exact ⟨cs ++ cs', t ++ t', s'', first.append next, shows''⟩

theorem call {w v : World} {c : Invocation} {k : Command} {args : Arguments}
    (known : Domain.command? .pixel c.name = some k) (bound : k.spec.bind c.name c.args = .ok args)
    (acts : ∀ s : Shadow, s.Shows w → ∃ s' a changes, k.call s args = .ok (.acts s' a) ∧
      w.react a = .ok (.changed v changes)) : Draws w v := by
  intro s shows
  obtain ⟨s', a, changes, called, taken⟩ := acts s shows
  obtain ⟨_, u, changes', taken', shows'⟩ := Command.follows shows called
  obtain ⟨rfl, rfl⟩ : v = u ∧ changes = changes' := by
    have same := taken.symm.trans (Domain.apply_changed_iff.mp taken')
    exact Reaction.changed.inj (Except.ok.inj same)
  exact ⟨[c], [a], s', .cons (d := .pixel) known bound called taken' (.nil (d := .pixel) s' v),
    shows'⟩

theorem dot (w : World) : Draws w (w.dotted w.cursor w.color) := by
  refine call (c := ⟨"draw", []⟩) (k := .draw) rfl rfl fun s shows => ?_
  obtain ⟨changes, taken⟩ := shows.draws
  exact ⟨s, _, changes, rfl, taken⟩

theorem paint (w : World) {name code : String} (known : paintCode? name = some code) :
    Draws w { w with color := .text code } := by
  refine call (c := ⟨"set_color", [.text name]⟩) (k := .setColor) rfl rfl fun s _ => ?_
  obtain ⟨changes, taken⟩ := w.takes_setColor (paintCode?_ne_empty known)
  have coded : colorCode (.text name) = .ok code := (colorCode_eq_ok (v := .text name)).mpr known
  refine ⟨{ s with color := code }, _, changes, ?_, taken⟩
  change (colorCode (.text name) >>= fun color => _) = _
  rw [coded]
  rfl

theorem right (w : World) (room : w.cursor.1 + 1 < w.size) :
    Draws w { w with cursor := (w.cursor.1 + 1, w.cursor.2) } := by
  refine call (c := ⟨"move_right", []⟩) (k := .moveRight) rfl rfl fun s shows => ?_
  obtain ⟨size, cursor, _, across, down⟩ := shows
  rw [← size, ← cursor] at across down
  have stays : min (w.cursor.1 + 1) (w.size - 1) = w.cursor.1 + 1 := by omega
  obtain ⟨changes, taken⟩ := w.takes_move 1 0 0
  rw [(clamp_succ across).1, (clamp_succ down).2, stays] at taken
  exact ⟨_, _, changes, rfl, taken⟩

theorem down (w : World) (room : w.cursor.2 + 1 < w.size) :
    Draws w { w with cursor := (w.cursor.1, w.cursor.2 + 1) } := by
  refine call (c := ⟨"move_down", []⟩) (k := .moveDown) rfl rfl fun s shows => ?_
  obtain ⟨size, cursor, _, across, down⟩ := shows
  rw [← size, ← cursor] at across down
  have stays : min (w.cursor.2 + 1) (w.size - 1) = w.cursor.2 + 1 := by omega
  obtain ⟨changes, taken⟩ := w.takes_move 0 1 0
  rw [(clamp_succ across).2, (clamp_succ down).1, stays] at taken
  exact ⟨_, _, changes, rfl, taken⟩

theorem rights (w : World) (n : Nat) (room : w.cursor.1 + n < w.size) :
    Draws w { w with cursor := (w.cursor.1 + n, w.cursor.2) } := by
  induction n with
  | zero => simpa using refl w
  | succ n ih =>
    have next : w.cursor.1 + ((n + 1 : Nat) : Int) = w.cursor.1 + n + 1 := by omega
    rw [next] at room ⊢
    exact (ih (by omega)).trans (right { w with cursor := (w.cursor.1 + n, w.cursor.2) } room)

theorem downs (w : World) (n : Nat) (room : w.cursor.2 + n < w.size) :
    Draws w { w with cursor := (w.cursor.1, w.cursor.2 + n) } := by
  induction n with
  | zero => simpa using refl w
  | succ n ih =>
    have next : w.cursor.2 + ((n + 1 : Nat) : Int) = w.cursor.2 + n + 1 := by omega
    rw [next] at room ⊢
    exact (ih (by omega)).trans (down { w with cursor := (w.cursor.1, w.cursor.2 + n) } room)

/-- The cursor reaches what lies to the right of and below it. -/
theorem cell (w : World) {c : Int × Int} (onwards : w.cursor ≤ c)
    (inside : c.1 < w.size ∧ c.2 < w.size) : Draws w { w with cursor := c } := by
  obtain ⟨x, y⟩ := c
  obtain ⟨across, along⟩ := onwards
  have toX : w.cursor.1 + ((x - w.cursor.1).toNat : Int) = x := by
    dsimp only at across
    omega
  have toY : w.cursor.2 + ((y - w.cursor.2).toNat : Int) = y := by
    dsimp only at along
    omega
  have row := rights w (x - w.cursor.1).toNat (toX.symm ▸ inside.1)
  rw [toX] at row
  have column := downs { w with cursor := (x, w.cursor.2) } (y - w.cursor.2).toNat
    (toY.symm ▸ inside.2)
  dsimp only at column
  rw [toY] at column
  exact row.trans column

/-- Cells that lie one behind the other are painted in their order, each in the color that it
should have. -/
theorem cells {code : Int × Int → String} {cells : List (Int × Int)}
    (path : cells.Pairwise (· ≤ ·)) {w : World} (keyed : w.Keyed)
    (inside : ∀ c ∈ cells, c.1 < w.size ∧ c.2 < w.size) (onwards : ∀ c ∈ cells, w.cursor ≤ c)
    (known : ∀ c ∈ cells, ∃ name, paintCode? name = some (code c)) :
    ∃ v, Draws w v ∧ ∀ c, c ∈ cells ∨
        w.colorAt? (World.cellParts c) = some (.text (code c)) →
      v.colorAt? (World.cellParts c) = some (.text (code c)) := by
  induction cells generalizing w with
  | nil => exact ⟨w, refl w, fun c painted => painted.resolve_left nofun⟩
  | cons b rest ih =>
    obtain ⟨next, path⟩ := List.pairwise_cons.mp path
    obtain ⟨here, inside⟩ := List.forall_mem_cons.mp inside
    obtain ⟨first, onwards⟩ := List.forall_mem_cons.mp onwards
    obtain ⟨⟨name, paints⟩, known⟩ := List.forall_mem_cons.mp known
    let u : World := { w with cursor := b, color := .text (code b) }
    have draws : Draws w (u.dotted b (.text (code b))) :=
      ((cell w first here).trans (paint _ paints)).trans (dot u)
    have keyed' : u.Keyed := keyed
    obtain ⟨v, others, colored⟩ := ih path (keyed'.dotted _ _) inside next known
    refine ⟨v, draws.trans others, fun c painted => colored c ?_⟩
    rw [World.colorAt?_dotted keyed']
    by_cases same : c = b
    · exact .inr (by rw [if_pos same, same])
    · rw [if_neg same]
      exact painted.imp_left fun member => (List.mem_cons.mp member).resolve_left same

end Draws

/-- The cells of a path in the order in which the cursor comes to them. -/
def inOrder (cells : List (Int × Int)) : List (Int × Int) :=
  cells.mergeSort fun a b => a.1 + a.2 ≤ b.1 + b.2

end Pixel

end PuzzleWorlds
