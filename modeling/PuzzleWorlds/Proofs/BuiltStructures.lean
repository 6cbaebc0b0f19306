import Mathlib.Data.Finset.Prod
import Mathlib.Data.Int.Interval
import Mathlib.Data.List.Nodup
import PuzzleWorlds.Proofs.UnjudgedGoals

/-! Structures that can be built. The cursor of a build area goes to any cell, and a block is put in
the color that was chosen last: in a hexadecimal color, or at first in the color of the level. A
structure is within reach exactly if there is room for as many blocks as it asks for, and if its
colors, where they count, are of these. -/

namespace PuzzleWorlds

theorem lowerFrom_ascii (before : List Char) {cs : List Char} (ascii : ∀ c ∈ cs, c.toNat < 128) :
    lowerFrom before cs = cs.map Char.toLower := by
  induction cs generalizing before with
  | nil => rfl
  | cons c rest ih =>
    obtain ⟨here, others⟩ := List.forall_mem_cons.mp ascii
    have plain : (c == '\u03a3') = false ∧ (c == '\u0130') = false := by
      constructor <;>
        · rw [beq_eq_false_iff_ne]
          rintro rfl
          exact absurd here (by decide)
    rw [lowerFrom, ih (c :: before) others, plain.1, plain.2, lowerChar, if_pos here]
    rfl

theorem strip_eq_self {s : String} (solid : ∀ c ∈ s.toList, isBlank c = false) : strip s = s := by
  have kept {cs : List Char} (solid : ∀ c ∈ cs, isBlank c = false) : stripStart cs = cs := by
    cases cs with
    | nil => rfl
    | cons c rest => exact List.dropWhile_cons_of_neg (by simp [solid c List.mem_cons_self])
  rw [strip, stripChars, kept solid, kept (by simpa using solid), List.reverse_reverse,
    String.ofList_toList]

namespace Building

/-- A color that a program can choose, as it is kept: hexadecimal, in lower case. -/
structure LowerHex (s : String) : Prop where
  hex : isHexColor s = true
  lower : lowerText s = s

theorem isHexDigit_ascii {c : Char} (h : isHexDigit c = true) : c.toNat < 128 := by
  simp only [isHexDigit, Char.isDigit, Bool.or_eq_true, Bool.and_eq_true, decide_eq_true_eq,
    Char.le_def, UInt32.le_iff_toNat_le, ge_iff_le] at h
  change c.val.toNat < 128
  have last : '9'.val.toNat = 57 ∧ 'f'.val.toNat = 102 ∧ 'F'.val.toNat = 70 := by decide
  omega

/-- What holds of the hexadecimal digits can be checked digit by digit. -/
theorem forall_isHexDigit {P : Char → Prop} (each : ∀ i : Fin 128,
    isHexDigit (Char.ofNat i) = true → P (Char.ofNat i)) {c : Char} (h : isHexDigit c = true) :
    P c := by
  have here := each ⟨c.toNat, isHexDigit_ascii h⟩
  rw [Char.ofNat_toNat] at here
  exact here h

theorem isHexColor_iff {s : String} : isHexColor s = true ↔
    ∃ digits, s.toList = '#' :: digits ∧ digits.length = 6 ∧
      ∀ c ∈ digits, isHexDigit c = true := by
  unfold isHexColor
  split
  next digits spelled => simp [spelled]
  next other =>
    refine iff_of_false nofun ?_
    rintro ⟨digits, spelled, _⟩
    exact other digits spelled

theorem lowerHex_lowerText {s : String} (h : isHexColor s = true) : LowerHex (lowerText s) := by
  obtain ⟨digits, spelled, six, hex⟩ := isHexColor_iff.mp h
  have lowered {cs : List Char} (hex : ∀ c ∈ cs, isHexDigit c = true) :
      lowerFrom [] ('#' :: cs) = '#' :: cs.map Char.toLower := by
    refine lowerFrom_ascii [] (List.forall_mem_cons.mpr ⟨by decide, fun c member => ?_⟩)
    exact isHexDigit_ascii (hex c member)
  have digit (c : Char) (member : c ∈ digits) :
      isHexDigit c.toLower = true ∧ c.toLower.toLower = c.toLower :=
    forall_isHexDigit (P := fun c => isHexDigit c.toLower = true ∧ c.toLower.toLower = c.toLower)
      (by decide) (hex c member)
  have hexLower : ∀ c ∈ digits.map Char.toLower, isHexDigit c = true := by
    simpa using fun c member => (digit c member).1
  have chars : (lowerText s).toList = '#' :: digits.map Char.toLower := by
    rw [lowerText, String.toList_ofList, spelled, lowered hex]
  refine ⟨isHexColor_iff.mpr ⟨_, chars, by simpa using six, hexLower⟩, ?_⟩
  have again : (digits.map Char.toLower).map Char.toLower = digits.map Char.toLower := by
    rw [List.map_map]
    exact List.map_congr_left fun c member => (digit c member).2
  rw [lowerText, chars, lowered hexLower, again, ← chars, String.ofList_toList]

theorem lowerHex_of_resolveColor {v : Value} {c : String} (h : resolveColor v = .ok c) :
    LowerHex c := by
  unfold resolveColor at h
  dsimp only at h
  split at h
  next named found =>
    obtain rfl := Except.ok.inj h
    have all : ∀ n ∈ namedColors, isHexColor n.2 = true ∧ lowerText n.2 = n.2 := by decide
    have here := all named (List.mem_of_find?_eq_some found)
    exact ⟨here.1, here.2⟩
  next =>
    split at h
    next hex =>
      obtain rfl := Except.ok.inj h
      exact lowerHex_lowerText hex
    next => cases h

/-- A hexadecimal color is named by its own text. -/
theorem LowerHex.resolveColor {s : String} (h : LowerHex s) : resolveColor (.text s) = .ok s := by
  obtain ⟨digits, spelled, _, hex⟩ := isHexColor_iff.mp h.hex
  have solid : ∀ c ∈ s.toList, isBlank c = false := by
    rw [spelled]
    refine List.forall_mem_cons.mpr ⟨by decide, fun c member => ?_⟩
    exact forall_isHexDigit (P := fun c => isBlank c = false) (by decide) (hex c member)
  have unnamed : (namedColors.find? fun c => c.1 == s) = none := by
    have names : ∀ n ∈ namedColors, isHexColor n.1 = false := by decide
    refine List.find?_eq_none.mpr fun n member same => ?_
    have other := names n member
    rw [eq_of_beq same, h.hex] at other
    cases other
  have text : strip (Value.text s).display = s := strip_eq_self solid
  unfold Building.resolveColor
  dsimp only
  rw [text, h.lower, unnamed, h.hex]
  rfl

theorem LowerHex.ne_empty {s : String} (h : LowerHex s) : s ≠ "" :=
  resolveColor_ne_empty h.resolveColor

namespace World

theorem sameItems_cellParts {a b : Cell} :
    Value.sameItems (cellParts a) (cellParts b) = true ↔ a = b := by
  cases a
  cases b
  simp [cellParts, Value.sameItems, Value.same_int_iff]

end World

open World (cellParts)

/-- The blocks stand on these cells, one on each. -/
structure Stands (blocks : List (List Value × Value)) (cells : List Cell) : Prop where
  keys : blocks.map Prod.fst = cells.map cellParts
  nodup : cells.Nodup

namespace Stands

variable {blocks : List (List Value × Value)} {cells : List Cell}

theorem nil : Stands [] [] := ⟨rfl, .nil⟩

theorem length_eq (h : Stands blocks cells) : blocks.length = cells.length := by
  rw [← List.length_map Prod.fst, h.keys, List.length_map]

theorem key_mem (h : Stands blocks cells) {b : List Value × Value} (member : b ∈ blocks) :
    ∃ c ∈ cells, b.1 = cellParts c := by
  have key : b.1 ∈ blocks.map Prod.fst := List.mem_map_of_mem member
  rw [h.keys] at key
  obtain ⟨c, listed, same⟩ := List.mem_map.mp key
  exact ⟨c, listed, same.symm⟩

theorem keys_put (keys : blocks.map Prod.fst = cells.map cellParts) (c : Cell) (color : Value) :
    (World.put (cellParts c) color blocks).map Prod.fst =
      (if c ∈ cells then cells else cells ++ [c]).map cellParts := by
  induction blocks generalizing cells with
  | nil =>
    obtain rfl : cells = [] := List.map_eq_nil_iff.mp keys.symm
    rfl
  | cons b rest ih =>
    cases cells with
    | nil => cases keys
    | cons a others =>
      obtain ⟨key, keys⟩ := List.cons.inj keys
      unfold World.put
      rw [key]
      by_cases here : a = c
      · rw [if_pos (World.sameItems_cellParts.mpr here), if_pos (here ▸ List.mem_cons_self)]
        exact congrArg (List.cons _) keys
      · rw [if_neg fun same => here (World.sameItems_cellParts.mp same)]
        have apart : c ∈ a :: others ↔ c ∈ others := by simp [Ne.symm here]
        simp only [List.map_cons, key, ih keys, apart]
        split <;> rfl

theorem put_new (keys : blocks.map Prod.fst = cells.map cellParts) {c : Cell} (new : c ∉ cells)
    (color : Value) : World.put (cellParts c) color blocks = blocks ++ [(cellParts c, color)] := by
  induction blocks generalizing cells with
  | nil => rfl
  | cons b rest ih =>
    cases cells with
    | nil => cases keys
    | cons a others =>
      obtain ⟨key, keys⟩ := List.cons.inj keys
      obtain ⟨apart, new⟩ : ¬c = a ∧ c ∉ others := by simpa using new
      rw [World.put, key, if_neg fun same => apart (World.sameItems_cellParts.mp same).symm,
        ih keys new]
      rfl

theorem put (h : Stands blocks cells) (c : Cell) (color : Value) :
    Stands (World.put (cellParts c) color blocks) (if c ∈ cells then cells else cells ++ [c]) where
  keys := keys_put h.keys c color
  nodup := by
    split
    next => exact h.nodup
    next new => simpa using h.nodup.concat new

theorem filter (h : Stands blocks cells) (c : Cell) :
    Stands (blocks.filter fun b => !Value.sameItems b.1 (cellParts c))
      (cells.filter fun a => !Value.sameItems (cellParts a) (cellParts c)) where
  keys := by
    have kept := List.filter_map (f := Prod.fst (β := Value))
      (p := fun key => !Value.sameItems key (cellParts c)) (l := blocks)
    rw [h.keys, List.filter_map] at kept
    exact kept.symm
  nodup := h.nodup.filter _

end Stands

namespace World

variable {w : World} {cells : List Cell}

theorem colorAt?_isSome (h : Stands w.blocks cells) {c : Cell} :
    (w.colorAt? (cellParts c)).isSome = true ↔ c ∈ cells := by
  rw [colorAt?, Option.isSome_map, List.find?_isSome]
  constructor
  · rintro ⟨b, member, same⟩
    obtain ⟨a, listed, key⟩ := h.key_mem member
    rw [key, sameItems_cellParts] at same
    exact same ▸ listed
  · intro listed
    have key : cellParts c ∈ w.blocks.map Prod.fst := by
      rw [h.keys]
      exact List.mem_map_of_mem listed
    obtain ⟨b, member, same⟩ := List.mem_map.mp key
    exact ⟨b, member, by rw [same]; exact sameItems_cellParts.mpr rfl⟩

end World

namespace Size

/-- All cells of the box. -/
noncomputable def cells (s : Size) : Finset Cell :=
  (Finset.Ico 0 s.width ×ˢ Finset.Ico 0 s.height ×ˢ Finset.Ico 0 s.depth).map
    ⟨fun p => ⟨p.1, p.2.1, p.2.2⟩, fun p q same => by
      obtain ⟨x, y, z⟩ := Cell.mk.inj same
      exact Prod.ext x (Prod.ext y z)⟩

end Size

/-- The blocks once those of the plan have been put, one after the other. -/
def laid (plan : List (Cell × Value)) (blocks : List (List Value × Value)) :
    List (List Value × Value) :=
  plan.foldl (fun bs p => World.put (cellParts p.1) p.2 bs) blocks

section

variable {plan : List (Cell × Value)} {blocks : List (List Value × Value)} {cells : List Cell}

theorem Stands.laid (h : Stands blocks cells) (plan : List (Cell × Value)) :
    ∃ cells', Stands (laid plan blocks) cells' ∧
      ∀ c, c ∈ cells' ↔ c ∈ cells ∨ c ∈ plan.map Prod.fst := by
  induction plan generalizing blocks cells with
  | nil => exact ⟨cells, h, fun c => by simp⟩
  | cons p plan ih =>
    obtain ⟨cells', stands, listed⟩ := ih (h.put p.1 p.2)
    refine ⟨cells', stands, fun c => ?_⟩
    have first : c ∈ (if p.1 ∈ cells then cells else cells ++ [p.1]) ↔ c ∈ cells ∨ c = p.1 := by
      split
      next known =>
        refine (or_iff_left_of_imp ?_).symm
        rintro rfl
        exact known
      next => simp
    rw [listed, first, List.map_cons, List.mem_cons, or_assoc]

/-- New cells are added at the end, in their order. -/
theorem laid_new (keys : blocks.map Prod.fst = cells.map cellParts)
    (distinct : (cells ++ plan.map Prod.fst).Nodup) :
    laid plan blocks = blocks ++ plan.map fun p => (cellParts p.1, p.2) := by
  induction plan generalizing blocks cells with
  | nil => simp [laid]
  | cons p plan ih =>
    have new : p.1 ∉ cells := fun known =>
      (List.nodup_append.mp distinct).2.2 _ known _ List.mem_cons_self rfl
    have first : laid (p :: plan) blocks = laid plan (blocks ++ [(cellParts p.1, p.2)]) := by
      rw [← Stands.put_new keys new]
      rfl
    have keys' : (blocks ++ [(cellParts p.1, p.2)]).map Prod.fst =
        (cells ++ [p.1]).map cellParts := by simp [keys]
    rw [first, ih keys' (by simpa using distinct)]
    simp

end

/-- The color that a target cell asks for, as blocks are compared with it. -/
def ColoredCell.wanted (c : ColoredCell) : String := lowerText (c.color.getD "")

theorem targetColors_eq {target : List ColoredCell} (distinct : (target.map (·.cell)).Nodup) :
    targetColors target = target.map fun c => (cellParts c.cell, .text c.wanted) := by
  have plan : targetColors target = laid (target.map fun c => (c.cell, .text c.wanted)) [] := by
    rw [laid, List.foldl_map]
    rfl
  have nothing : ([] : List (List Value × Value)).map Prod.fst =
    ([] : List Cell).map cellParts := rfl
  rw [plan, laid_new nothing (by simpa [Function.comp_def] using distinct)]
  simp

theorem wrongCells_eq_nil {w : World} {target : List (List Value × Value)} :
    wrongCells w target = .ok [] ↔ ∀ t ∈ target, ∀ color, w.colorAt? t.1 = some color →
      ∃ s, color = .text s ∧ Value.same (.text (lowerText s)) t.2 = true := by
  induction target with
  | nil => exact iff_of_true rfl nofun
  | cons t rest ih =>
    obtain ⟨cell, wanted⟩ := t
    rw [List.forall_mem_cons, ← ih, wrongCells]
    cases w.colorAt? cell with
    | none => simp [bind_eq_ok, pure, Except.pure]
    | some color =>
      simp only [Option.some.injEq, forall_eq']
      cases color with
      | text s =>
        cases same : Value.same (.text (lowerText s)) wanted <;>
          simp [bind_eq_ok, differs, pure, Except.pure, same]
      | _ => exact iff_of_false nofun (by rintro ⟨⟨_, ⟨⟩, _⟩, _⟩)

namespace World

variable {w : World} {cells : List Cell} {plan : List (Cell × Value)} {c : Cell}

/-- In terms of the cells on which blocks stand. -/
theorem shows_iff_cells (h : Stands w.blocks cells) {g : Structure}
    (distinct : (g.target.map (·.cell)).Nodup) : w.Shows g ↔
      (∀ c ∈ g.target, c.cell ∈ cells) ∧
      (g.matchColors = true → ∀ c ∈ g.target, ∃ s,
        w.colorAt? (cellParts c.cell) = some (.text s) ∧ lowerText s = c.wanted) ∧
      (g.exact = true → ∀ a ∈ cells, ∃ c ∈ g.target, c.cell = a) ∧
      ∀ n, g.minBlocks = some n → n ≤ cells.length := by
  have filled : (∀ t ∈ targetColors g.target, (w.colorAt? t.1).isSome = true) ↔
      ∀ c ∈ g.target, c.cell ∈ cells := by
    simp [targetColors_eq distinct, colorAt?_isSome h]
  have exact : (∀ b ∈ w.blocks, ∃ t ∈ targetColors g.target, Value.sameItems t.1 b.1 = true) ↔
      ∀ a ∈ cells, ∃ c ∈ g.target, c.cell = a := by
    have keyed : (∀ b ∈ w.blocks, ∃ t ∈ targetColors g.target, Value.sameItems t.1 b.1 = true) ↔
        ∀ key ∈ w.blocks.map Prod.fst, ∃ t ∈ targetColors g.target,
          Value.sameItems t.1 key = true := by simp
    rw [keyed, h.keys, targetColors_eq distinct]
    simp [sameItems_cellParts]
  have colored (filled : ∀ c ∈ g.target, c.cell ∈ cells) :
      wrongCells w (targetColors g.target) = .ok [] ↔ ∀ c ∈ g.target, ∃ s,
        w.colorAt? (cellParts c.cell) = some (.text s) ∧ lowerText s = c.wanted := by
    rw [wrongCells_eq_nil, targetColors_eq distinct, List.forall_mem_map]
    refine forall₂_congr fun c member => ?_
    obtain ⟨color, shown⟩ :=
      Option.isSome_iff_exists.mp ((colorAt?_isSome h).mpr (filled c member))
    rw [shown]
    simp [Value.same_text_iff]
  rw [World.shows_iff, ← h.length_eq, filled, exact]
  exact and_congr_right fun filled => by rw [colored filled]

/-- The bookkeeping that shows the world. -/
def shadow (w : World) : Shadow := ⟨w.size, w.cursor, w.color⟩

theorem clampCell_eq_self (w : World) {c : Cell} (inside : c.Inside w.size) :
    w.clampCell c.x c.y c.z = c := by
  have x := clamp_eq_self inside.x.1 (Int.le_sub_one_of_lt inside.x.2)
  have y := clamp_eq_self inside.y.1 (Int.le_sub_one_of_lt inside.y.2)
  have z := clamp_eq_self inside.z.1 (Int.le_sub_one_of_lt inside.z.2)
  exact congr (congrArg₂ Cell.mk x y) z

theorem takes_place (w : World) (inside : w.cursor.Inside w.size) : ∃ changes,
    w.react (.placeBlock (.tuple (cellParts w.cursor)) w.color) =
      .ok (.changed { w with blocks := put (cellParts w.cursor) w.color w.blocks } changes) := by
  change ∃ changes, w.placeBlock _ = _
  simp only [placeBlock, Action.placeBlock, cellOf_tuple, ok_bind, w.contains_cellParts inside,
    Value.orElse_self]
  exact ⟨_, rfl⟩

/-- Where there is no block, none is taken away. -/
theorem takes_remove (w : World) (c : Cell) : ∃ changes,
    w.react (.removeBlock (.tuple (cellParts c))) = .ok (.changed
      { w with blocks := w.blocks.filter fun b => !Value.sameItems b.1 (cellParts c) }
      changes) := by
  change ∃ changes, w.removeBlock _ = _
  have keyed : Value.keyedItems (cellParts c) = .ok () := rfl
  simp only [removeBlock, Action.removeBlock, cellOf_tuple, ok_bind, keyed]
  split
  next none =>
    have kept : w.blocks.filter (fun b => !Value.sameItems b.1 (cellParts c)) = w.blocks := by
      refine List.filter_eq_self.mpr fun b member => ?_
      simp only [colorAt?, Option.isNone_iff_eq_none, Option.map_eq_none_iff,
        List.find?_eq_none] at none
      simpa using none b member
    rw [kept]
    exact ⟨_, rfl⟩
  next => exact ⟨_, rfl⟩

end World

/-- Calls can bring the build area from the one world to the other, with the bookkeeping beside
them. -/
def Goes (w v : World) : Prop := ∃ cs t, Domain.Steers .building w.shadow w cs t v.shadow v

namespace Goes

theorem refl (w : World) : Goes w w := ⟨[], [], .nil (d := .building) _ w⟩

theorem trans {w v u : World} (h : Goes w v) (h' : Goes v u) : Goes w u := by
  obtain ⟨cs, t, first⟩ := h
  obtain ⟨cs', t', next⟩ := h'
  exact ⟨cs ++ cs', t ++ t', first.append next⟩

theorem call {w v : World} (c : Command) (args : Arguments) {a : Action} {changes : List String}
    (known : Domain.command? .building c.spec.name = some c)
    (bound : c.spec.bind c.spec.name args = .ok args)
    (called : c.call w.shadow args = .ok (.acts v.shadow a))
    (taken : w.react a = .ok (.changed v changes)) : Goes w v :=
  ⟨_, [a], .call (d := .building) known bound called taken⟩

/-- To any cell of the area. -/
theorem cell (w : World) {c : Cell} (inside : c.Inside w.size) : Goes w { w with cursor := c } := by
  have there : Goes w { w with cursor := w.clampCell c.x c.y c.z } :=
    call .goto [.int c.x, .int c.y, .int c.z] rfl rfl rfl (w.takes_goto c.x c.y c.z)
  rwa [w.clampCell_eq_self inside] at there

theorem choose (w : World) {s : String} (hex : LowerHex s) :
    Goes w { w with color := .text s } := by
  obtain ⟨changes, taken⟩ := w.takes_setColor hex.ne_empty
  refine call .setColor [.text s] rfl rfl ?_ taken
  change (resolveColor (.text s) >>= fun color => _) = _
  rw [hex.resolveColor]
  rfl

/-- A block in the current color. -/
theorem place (w : World) (inside : w.cursor.Inside w.size) :
    Goes w { w with blocks := World.put (cellParts w.cursor) w.color w.blocks } := by
  obtain ⟨changes, taken⟩ := w.takes_place inside
  exact call .placeBlock [] rfl rfl rfl taken

/-- Blocks in the color that the world has. -/
theorem fill (w : World) (plan : List (Cell × Value)) (inside : ∀ p ∈ plan, p.1.Inside w.size)
    (color : ∀ p ∈ plan, p.2 = w.color) :
    ∃ cursor, Goes w { w with cursor, blocks := laid plan w.blocks } := by
  induction plan generalizing w with
  | nil => exact ⟨w.cursor, refl w⟩
  | cons p plan ih =>
    obtain ⟨here, others⟩ := List.forall_mem_cons.mp inside
    obtain ⟨same, colors⟩ := List.forall_mem_cons.mp color
    have first := (cell w here).trans (place { w with cursor := p.1 } here)
    obtain ⟨cursor, rest⟩ := ih { w with
      cursor := p.1, blocks := World.put (cellParts p.1) w.color w.blocks } others colors
    have plan' : laid (p :: plan) w.blocks =
        laid plan (World.put (cellParts p.1) w.color w.blocks) := by
      rw [← same]
      rfl
    exact ⟨cursor, plan' ▸ first.trans rest⟩

/-- Blocks in colors that a program can choose. -/
theorem paint (w : World) (plan : List (Cell × Value)) (inside : ∀ p ∈ plan, p.1.Inside w.size)
    (hex : ∀ p ∈ plan, ∃ s, p.2 = .text s ∧ LowerHex s) :
    ∃ cursor color, Goes w { w with cursor, color, blocks := laid plan w.blocks } := by
  induction plan generalizing w with
  | nil => exact ⟨w.cursor, w.color, refl w⟩
  | cons p plan ih =>
    obtain ⟨here, others⟩ := List.forall_mem_cons.mp inside
    obtain ⟨⟨s, same, chosen⟩, colors⟩ := List.forall_mem_cons.mp hex
    have first := ((choose w chosen).trans (cell _ here)).trans
      (place { w with cursor := p.1, color := .text s } here)
    obtain ⟨cursor, color, rest⟩ := ih { w with
      cursor := p.1, color := .text s
      blocks := World.put (cellParts p.1) (.text s) w.blocks } others colors
    have plan' : laid (p :: plan) w.blocks =
        laid plan (World.put (cellParts p.1) (.text s) w.blocks) := by
      rw [← same]
      rfl
    exact ⟨cursor, color, plan' ▸ first.trans rest⟩

end Goes

/-- The target of a valid structure lies in the area, and no cell is listed twice. -/
theorem Level.of_valid {l : Level} (h : l.findings.valid = true) {g : Structure}
    (aim : l.goal = .structureMatch g) :
    (g.target.map (·.cell)).Nodup ∧ ∀ c ∈ g.target, c.cell.Inside l.gridSize := by
  simp only [findings, aim, Findings.valid_append, Bool.and_eq_true] at h
  obtain ⟨_, ⟨once, targets⟩, _⟩ := h
  rw [Findings.valid_join] at once targets
  refine ⟨nodup_of_tally fun p counted => ?_, fun c member => ?_⟩
  · have single := once _ (List.mem_map.mpr ⟨p, counted, rfl⟩)
    simpa using single
  · have inside := targets _ (List.mem_map.mpr ⟨c, member, rfl⟩)
    simp only [Findings.valid_append, Bool.and_eq_true, Findings.valid_errorIf] at inside
    have within := inside.1
    simp only [Bool.not_not, Size.contains, Bool.and_eq_true, decide_eq_true_eq] at within
    exact ⟨⟨within.1.1.1.1.1, within.1.1.1.1.2⟩, ⟨within.1.1.1.2, within.1.1.2⟩,
      within.1.2, within.2⟩

/-- Where colors count, every cell of its target asks for one. -/
theorem Level.colored_of_valid {l : Level} (h : l.findings.valid = true) {g : Structure}
    (aim : l.goal = .structureMatch g) (matched : g.matchColors = true) :
    ∀ c ∈ g.target, ∃ color, c.color = some color := by
  simp only [findings, aim, Findings.valid_append, Bool.and_eq_true] at h
  obtain ⟨_, ⟨_, targets⟩, _⟩ := h
  rw [Findings.valid_join] at targets
  intro c member
  have asks := targets _ (List.mem_map.mpr ⟨c, member, rfl⟩)
  rw [Findings.valid_append, Bool.and_eq_true] at asks
  refine Option.ne_none_iff_exists'.mp fun none => ?_
  simp [matched, none, Findings.valid_errorIf] at asks

/-- A color that blocks can have, as it is compared: that of the start, or one that a program can
choose. -/
def Level.Offers (l : Level) (color : String) : Prop :=
  color = lowerText (lowerText l.defaultColor) ∨ LowerHex color

/-- The blocks stand on cells of the area, in colors that it offers. -/
structure World.Fits (l : Level) (w : World) (cells : List Cell) : Prop where
  stands : Stands w.blocks cells
  inside : ∀ c ∈ cells, c.Inside l.gridSize
  colors : w.Colored fun v => ∃ s, v = .text s ∧ l.Offers (lowerText s)

namespace World.Fits

variable {l : Level} {w v : World} {cells : List Cell}

/-- At first no blocks stand. -/
theorem initial (l : Level) : (World.initial l).Fits l [] where
  stands := .nil
  inside := List.forall_mem_nil _
  colors := .initial ⟨_, rfl, .inl rfl⟩

/-- With no other blocks than before. -/
theorem same (h : w.Fits l cells) (blocks : v.blocks = w.blocks)
    (colors : v.Colored fun v => ∃ s, v = .text s ∧ l.Offers (lowerText s)) : v.Fits l cells :=
  ⟨blocks ▸ h.stands, h.inside, colors⟩

end World.Fits

/-- A block is only ever put at the cursor, in the area and in a color that was chosen. -/
theorem Command.follows_fits (l : Level) : Registry.Follows (d := .building)
    (fun (s : Shadow) (w : World) => s.Shows w ∧ w.size = l.gridSize ∧ ∃ cells, w.Fits l cells)
    (fun _ _ => True) := by
  intro (s : Shadow) (s' : Shadow) (w : World) c args a ⟨shows, size, cells, fits⟩ called
  have chosen {v : Value} {c : String} (resolved : resolveColor v = .ok c) :
      ∃ s, Value.text c = .text s ∧ l.Offers (lowerText s) := by
    have hex := lowerHex_of_resolveColor resolved
    exact ⟨c, rfl, .inr (hex.lower.symm ▸ hex)⟩
  obtain ⟨_, v, changes, taken, shows', colors⟩ :=
    Command.follows_colored chosen ⟨shows, fits.colors⟩ called
  refine ⟨trivial, v, changes, taken, shows', ?_⟩
  replace taken := Domain.apply_changed_iff.mp taken
  obtain ⟨x, y, z, _, rfl⟩ | ⟨dx, dy, dz, _, rfl⟩ | ⟨_, rfl | rfl⟩ | ⟨color, named, _, rfl⟩ :=
    Command.call_acts called
  · cases (w.takes_goto x y z).symm.trans taken
    exact ⟨size, cells, fits.same rfl colors⟩
  · cases (w.takes_move dx dy dz).symm.trans taken
    exact ⟨size, cells, fits.same rfl colors⟩
  · obtain ⟨_, placed⟩ := w.takes_place shows.inside
    rw [shows.cursor, shows.color] at placed
    cases placed.symm.trans taken
    refine ⟨size, _, fits.stands.put s.cursor s.color, fun c member => ?_, colors⟩
    split at member
    next => exact fits.inside c member
    next =>
      rcases List.mem_append.mp member with old | new
      · exact fits.inside c old
      · rw [List.mem_singleton.mp new, ← shows.cursor, ← size]
        exact shows.inside
  · obtain ⟨_, removed⟩ := w.takes_remove s.cursor
    cases removed.symm.trans taken
    exact ⟨size, _, fits.stands.filter s.cursor,
      fun a member => fits.inside a (List.mem_filter.mp member).1, colors⟩
  · obtain ⟨_, dyed⟩ := w.takes_setColor named
    cases dyed.symm.trans taken
    exact ⟨size, cells, fits.same rfl colors⟩

end Building

end PuzzleWorlds
