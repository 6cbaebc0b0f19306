import PuzzleWorlds.Proofs.ReachedGoals

/-! Goals that cannot be judged. What a program leaves behind is judged by a verdict, unless the
verdict has to write a number that is too long, to take the distance of a number beyond the floats,
or to know a paint that there is not. A goal on the canvas comes to its paints only once every
cell is painted. -/

namespace PuzzleWorlds

namespace Value

def IsText (v : Value) : Prop := ∃ s, v = .text s

/-- A whole number that has no float near it. -/
def BeyondFloats (v : Value) : Prop := ∃ n, v = .int n ∧ Binary.nearestInt? n = none

theorem Plain.beyondFloats_iff {v : Value} (h : v.Plain) :
    v.BeyondFloats ↔ ¬∃ x, v.toFloat = .ok x := by
  cases h with
  | float x => exact iff_of_false (by rintro ⟨_, ⟨⟩, _⟩) fun none => none ⟨x, rfl⟩
  | int n =>
    have number : (Value.int n).toFloat = intToFloat n := rfl
    rw [number, intToFloat]
    cases near : Binary.nearestInt? n with
    | none => exact iff_of_true ⟨n, rfl, near⟩ (by rintro ⟨_, ⟨⟩⟩)
    | some x =>
      refine iff_of_false ?_ fun none => none ⟨x, rfl⟩
      rintro ⟨_, ⟨⟩, far⟩
      cases near.symm.trans far

theorem Plain.of_add {a b sum : Value} (ha : a.Plain) (hb : b.Plain)
    (added : operation .add a b = .ok sum) : sum.Plain := by
  by_cases clash : Clash a b
  · cases clash.add.symm.trans added
  · obtain ⟨v, added', plain⟩ := add_plain ha hb clash
    cases added'.symm.trans added
    exact plain

end Value

namespace Verdict

/-- A judgement that comes to a verdict, of success or not. -/
def Returns (x : Except ε Verdict) : Prop := ∃ v, x = .ok v

@[simp] theorem returns_ok (v : Verdict) : Returns (.ok v : Except ε Verdict) := ⟨v, rfl⟩

@[simp] theorem not_returns_error (e : ε) : ¬Returns (.error e : Except ε Verdict) := by
  rintro ⟨_, ⟨⟩⟩

theorem returns_bind {x : Except ε α} {f : α → Except ε Verdict} :
    Returns (x >>= f) ↔ ∃ a, x = .ok a ∧ Returns (f a) := by
  cases x with
  | error e => exact iff_of_false (not_returns_error e) (by rintro ⟨_, ⟨⟩, _⟩)
  | ok a => simp

/-- Where every verdict can be given, what comes before it decides. -/
theorem returns_then {x : Except ε α} {f : α → Except ε Verdict} (each : ∀ a, Returns (f a)) :
    Returns (x >>= f) ↔ ∃ a, x = .ok a :=
  returns_bind.trans (exists_congr fun a => and_iff_left (each a))

theorem returns_ite {c : Prop} [Decidable c] {v : Verdict} {x : Except ε Verdict} :
    Returns (if c then .ok v else x) ↔ c ∨ Returns x := by
  split
  next holds => exact iff_of_true (returns_ok v) (.inl holds)
  next fails => exact (or_iff_right fails).symm

/-- A verdict that tells a number needs a number that can be written. -/
theorem returns_told {n : Int} {told : String → Verdict} :
    Returns ((Value.int n).written >>= fun text => .ok (told text)) ↔ (Value.int n).Writable :=
  returns_then fun _ => returns_ok _

end Verdict

open Verdict

/-- There is less than the number asked for, and that number is too long to be told. -/
def Untold (count : Nat) (least : Int) : Prop := count < least ∧ ¬(Value.int least).Writable

theorem returns_count {count : Nat} {least : Int} {told : String → Verdict} {v : Verdict} :
    Returns (if count < least then (Value.int least).written >>= fun text => .ok (told text)
      else .ok v) ↔ ¬Untold count least := by
  unfold Untold
  split
  next few => simp [returns_told, few]
  next enough => exact iff_of_true (returns_ok v) fun short => enough short.1

theorem returns_judgeFree {count : Nat} {minimum : Int} :
    Returns (judgeFree count minimum) ↔ ¬Untold count (max minimum 1) :=
  returns_count

theorem Domain.returns_judged {x : Except Misfit Verdict} : Returns (judged x) ↔ Returns x :=
  exists_congr fun _ => judged_eq_ok

namespace Robot

/-- The robot stands elsewhere, and its cell or that of the goal cannot be told. -/
def Level.Unjudged (l : Level) (w : World) (log : ActionLog) : Prop :=
  match l.goal with
  | .free n => Untold log.size (max n 1)
  | .position x y _ => w.position ≠ (x, y) ∧ ∃ i ∈ [w.x, w.y, x, y], ¬(Value.int i).Writable

theorem World.writtenCell_eq_ok {x y : Int} : (∃ text, writtenCell x y = .ok text) ↔
    (Value.int x).Writable ∧ (Value.int y).Writable := by
  simp only [writtenCell, bind_eq_ok, Value.Writable]
  constructor
  · rintro ⟨_, left, shown, right, shown', _⟩
    exact ⟨⟨left, shown⟩, right, shown'⟩
  · rintro ⟨⟨left, shown⟩, right, shown'⟩
    exact ⟨_, left, shown, right, shown', rfl⟩

theorem returns_checkGoal {l : Level} {w : World} {log : ActionLog} :
    Returns (checkGoal l w log) ↔ ¬l.Unjudged w log := by
  unfold checkGoal Level.Unjudged
  cases l.goal with
  | free n => exact returns_judgeFree
  | position x y all =>
    dsimp only
    unfold checkPosition
    dsimp only
    by_cases here : w.position = (x, y)
    · rw [if_neg (by simpa using here)]
      refine iff_of_true ?_ fun unjudged => unjudged.1 here
      split <;> exact returns_ok _
    · have told (message : String → String → Verdict) :
          Returns (World.writtenCell w.x w.y >>= fun stopped =>
            World.writtenCell x y >>= fun goal => .ok (message stopped goal)) ↔
          (∃ text, World.writtenCell w.x w.y = .ok text) ∧
            ∃ text, World.writtenCell x y = .ok text := by
        simp [returns_bind]
      rw [if_pos (by simpa using here)]
      refine (told _).trans ?_
      rw [World.writtenCell_eq_ok, World.writtenCell_eq_ok]
      simp only [ne_eq, here, not_false_eq_true, true_and, List.exists_mem_cons_iff,
        List.not_mem_nil, false_and, exists_false, or_false, not_or, not_not, and_assoc]

end Robot

namespace Building

/-- The current color and those of the blocks satisfy `P`. -/
structure World.Colored (P : Value → Prop) (w : World) : Prop where
  current : P w.color
  blocks : ∀ b ∈ w.blocks, P b.2

/-- Everything is right but the number of blocks, and the number asked for cannot be told. -/
def Level.Unjudged (l : Level) (w : World) (log : ActionLog) : Prop :=
  match l.goal with
  | .free n => Untold log.size (max n 1)
  | .structureMatch g =>
    w.Shows { g with minBlocks := none } ∧ ∃ n, g.minBlocks = some n ∧ Untold w.blocks.length n

/-- A color that is seen is that of a block. -/
theorem World.Colored.seen {P : Value → Prop} {w : World} (h : w.Colored P) {cell : List Value}
    {color : Value} (shown : w.colorAt? cell = some color) : P color := by
  obtain ⟨b, first, rfl⟩ := Option.map_eq_some_iff.mp shown
  exact h.blocks b (List.mem_of_find?_eq_some first)

theorem World.Colored.wrongCells {w : World} (h : w.Colored Value.IsText)
    (target : List (List Value × Value)) :
    ∃ cells, Building.wrongCells w target = .ok cells := by
  induction target with
  | nil => exact ⟨[], rfl⟩
  | cons t rest ih =>
    obtain ⟨cell, wanted⟩ := t
    obtain ⟨others, found⟩ := ih
    unfold Building.wrongCells
    cases shown : w.colorAt? cell with
    | none =>
      dsimp only
      rw [found]
      exact ⟨_, rfl⟩
    | some color =>
      obtain ⟨s, rfl⟩ := h.seen shown
      dsimp only
      rw [found]
      exact ⟨_, rfl⟩

theorem returns_checkGoal {l : Level} {w : World} {log : ActionLog}
    (colored : w.Colored Value.IsText) :
    Returns (checkGoal l w log) ↔ ¬l.Unjudged w log := by
  unfold checkGoal Level.Unjudged
  cases l.goal with
  | free n => exact returns_judgeFree
  | structureMatch g =>
    obtain ⟨wrong, found⟩ := colored.wrongCells (targetColors g.target)
    have sorted : (wrongCells w (targetColors g.target)).map sortCells =
        .ok (sortCells wrong) := by
      rw [found]
      rfl
    dsimp only
    rw [World.shows_iff_nil]
    unfold checkStructure
    dsimp only
    generalize sortCells (((targetColors g.target).map (·.1)).filter fun c =>
      (w.colorAt? c).isNone) = m
    generalize (if g.exact = true then sortCells ((w.blocks.map (·.1)).filter fun c =>
      !(targetColors g.target).any fun t => Value.sameItems t.1 c) else []) = e
    split
    next =>
      rw [sorted, ok_bind]
      simp only [pure, Except.pure, returns_ite]
      generalize sortCells wrong = others
      cases m <;> cases others <;> cases e <;> cases g.minBlocks <;> simp [returns_count]
    next =>
      simp only [pure, Except.pure, returns_ite, ok_bind]
      cases m <;> cases e <;> cases g.minBlocks <;> simp [returns_count]

end Building

namespace Building

namespace World.Colored

variable {P : Value → Prop} {w v : World} {changes : List String}

theorem initial {l : Level} (start : P (.text (lowerText l.defaultColor))) :
    (World.initial l).Colored P where
  current := start
  blocks := nofun

/-- A block has the color that it was put with, or that of one that was there before. -/
theorem color_of_mem_put {cell : List Value} {color : Value} {l : List (List Value × Value)}
    {b : List Value × Value} (h : b ∈ put cell color l) : b.2 = color ∨ ∃ c ∈ l, b.2 = c.2 := by
  induction l with
  | nil =>
    obtain rfl := List.mem_singleton.mp h
    exact .inl rfl
  | cons c rest ih =>
    unfold put at h
    split at h
    next =>
      rcases List.mem_cons.mp h with rfl | later
      · exact .inl rfl
      · exact .inr ⟨b, List.mem_cons_of_mem c later, rfl⟩
    next =>
      rcases List.mem_cons.mp h with rfl | later
      · exact .inr ⟨b, List.mem_cons_self, rfl⟩
      · refine (ih later).imp_right ?_
        rintro ⟨x, member, same⟩
        exact ⟨x, List.mem_cons_of_mem c member, same⟩

theorem placeBlock (h : w.Colored P) {p : Payload} (color : P p.color)
    (taken : w.placeBlock p = .ok (.changed v changes)) : v.Colored P := by
  have mixed : P (p.color.orElse w.color) := by
    unfold Value.orElse
    split
    next => exact color
    next => exact h.current
  obtain ⟨cell, _, taken⟩ := bind_eq_ok.mp taken
  obtain ⟨inside, _, taken⟩ := bind_eq_ok.mp taken
  cases inside with
  | false => cases taken
  | true =>
    cases taken
    refine ⟨h.current, fun b member => ?_⟩
    rcases color_of_mem_put member with same | ⟨c, earlier, same⟩
    · rw [same]
      exact mixed
    · rw [same]
      exact h.blocks c earlier

theorem removeBlock (h : w.Colored P) {p : Payload}
    (taken : w.removeBlock p = .ok (.changed v changes)) : v.Colored P := by
  obtain ⟨cell, _, taken⟩ := bind_eq_ok.mp taken
  obtain ⟨_, _, taken⟩ := bind_eq_ok.mp taken
  split at taken
  next =>
    cases taken
    exact h
  next =>
    cases taken
    exact ⟨h.current, fun b member => h.blocks b (List.mem_filter.mp member).1⟩

theorem setColor (h : w.Colored P) {color : Value} (chosen : P color)
    (taken : w.setColor color = .changed v changes) : v.Colored P := by
  unfold World.setColor at taken
  split at taken
  next =>
    cases taken
    exact ⟨chosen, h.blocks⟩
  next => cases taken

/-- Moves leave the colors as they are. -/
theorem react (h : w.Colored P) {a : Action} (color : a.kind = .placeBlock ∨ a.kind = .setColor →
    P a.payload.color) (taken : w.react a = .ok (.changed v changes)) : v.Colored P := by
  unfold World.react at taken
  split at taken
  next kind => exact h.placeBlock (color (.inl kind)) taken
  next => exact h.removeBlock taken
  next =>
    obtain ⟨_, _, taken⟩ := bind_eq_ok.mp taken
    obtain ⟨_, _, taken⟩ := bind_eq_ok.mp taken
    obtain ⟨_, _, taken⟩ := bind_eq_ok.mp taken
    cases taken
    exact ⟨h.current, h.blocks⟩
  next =>
    obtain ⟨parts, _, taken⟩ := bind_eq_ok.mp taken
    split at taken
    next =>
      obtain ⟨_, _, taken⟩ := bind_eq_ok.mp taken
      obtain ⟨_, _, taken⟩ := bind_eq_ok.mp taken
      obtain ⟨_, _, taken⟩ := bind_eq_ok.mp taken
      cases taken
      exact ⟨h.current, h.blocks⟩
    next => cases taken
  next kind => exact h.setColor (color (.inr kind)) (Except.ok.inj taken)
  next => cases taken

end World.Colored

/-- Only a color that can be resolved is chosen. -/
theorem Command.call_setColor {s s' : Shadow} {c : Command} {args : Arguments} {color : String}
    (h : c.call s args = .ok (.acts s' (.setColor color))) : ∃ v, resolveColor v = .ok color := by
  cases c with
  | setColor =>
    obtain ⟨chosen, resolved, h⟩ := bind_eq_ok.mp h
    cases h
    exact ⟨_, resolved⟩
  | goto =>
    obtain ⟨_, _, h⟩ := bind_eq_ok.mp h
    obtain ⟨_, _, h⟩ := bind_eq_ok.mp h
    obtain ⟨_, _, h⟩ := bind_eq_ok.mp h
    cases h
  | moveX | moveY | moveZ =>
    obtain ⟨_, _, h⟩ := bind_eq_ok.mp h
    cases h
  | placeBlock | removeBlock => cases h

/-- Every block is recorded in the color of the bookkeeping, so what holds of the colors that can be
chosen holds of the colors of blocks. -/
theorem Command.follows_colored {P : Value → Prop}
    (chosen : ∀ {v c}, resolveColor v = .ok c → P (.text c)) : Registry.Follows (d := .building)
    (fun (s : Shadow) (w : World) => s.Shows w ∧ w.Colored P) (fun _ _ => True) := by
  intro (s : Shadow) (s' : Shadow) (w : World) c args a ⟨shows, colored⟩ called
  obtain ⟨_, v, changes, taken, shows'⟩ := Command.follows shows called
  refine ⟨trivial, v, changes, taken, shows', ?_⟩
  refine World.Colored.react colored (fun paints => ?_) (Domain.apply_changed_iff.mp taken)
  obtain ⟨x, y, z, _, rfl⟩ | ⟨dx, dy, dz, _, rfl⟩ | ⟨_, rfl | rfl⟩ | ⟨color, _, _, rfl⟩ :=
    Command.call_acts called
  · rcases paints with ⟨⟨⟩⟩ | ⟨⟨⟩⟩
  · rcases paints with ⟨⟨⟩⟩ | ⟨⟨⟩⟩
  · exact shows.color ▸ colored.current
  · rcases paints with ⟨⟨⟩⟩ | ⟨⟨⟩⟩
  · obtain ⟨_, resolved⟩ := Command.call_setColor called
    exact chosen resolved

end Building

namespace Sorting

/-- Any shelf can be judged, unless free play asks for too much. -/
def Level.Unjudged (l : Level) (log : ActionLog) : Prop :=
  match l.goal with
  | .free n => Untold log.size (max n 1)
  | .sortedWithBudget _ _ => False

theorem returns_checkGoal {l : Level} {w : World} {log : ActionLog} :
    Returns (checkGoal l w log) ↔ ¬l.Unjudged log := by
  unfold checkGoal Level.Unjudged
  cases l.goal with
  | free n => exact returns_judgeFree
  | sortedWithBudget order maxSwaps => exact iff_of_true (returns_ok _) id

end Sorting

namespace Combat

def Level.Unjudged (l : Level) (log : ActionLog) : Prop :=
  match l.goal with
  | .free n => Untold log.size (max n 1)
  | .targetSelection _ => False

theorem returns_checkGoal {l : Level} {w : World} {log : ActionLog} :
    Returns (checkGoal l w log) ↔ ¬l.Unjudged log := by
  unfold checkGoal Level.Unjudged
  cases l.goal with
  | free n => exact returns_judgeFree
  | targetSelection expected => exact iff_of_true (returns_ok _) id

end Combat

namespace Music

/-- Too few notes were played, and their number cannot be told. -/
def Level.Unjudged (l : Level) (log : ActionLog) : Prop :=
  match l.goal with
  | .free n => Untold log.size (max n 1)
  | .sequence _ => False
  | .notes required minNotes =>
    (∀ n ∈ required, log.notes.any (Value.same · (.text n)) = true) ∧
      ∃ k, minNotes = some k ∧ Untold log.notes.length k
  | .repetition minNotes note => Untold (countNotes note log.notes) minNotes

theorem returns_checkGoal {l : Level} {log : ActionLog} :
    Returns (checkGoal l log) ↔ ¬l.Unjudged log := by
  unfold checkGoal Level.Unjudged
  cases l.goal with
  | free n => exact returns_judgeFree
  | sequence required => exact iff_of_true (returns_ok _) id
  | notes required minNotes =>
    dsimp only
    rw [← unplayed_eq_nil]
    unfold checkNotes
    dsimp only
    generalize required.filter (fun n => !log.notes.any (Value.same · (.text n))) = m
    simp only [pure, Except.pure, returns_ite]
    cases m <;> cases minNotes <;> simp [returns_count]
  | repetition minNotes note =>
    dsimp only
    unfold checkRepetition
    dsimp only
    split
    next enough => exact iff_of_true (returns_ok _) fun short => absurd short.1 (by omega)
    next few =>
      refine returns_told.trans ?_
      unfold Untold
      rw [and_iff_right (by omega), not_not]

end Music

namespace Sprite

/-- A coordinate that is looked at, or the size, is beyond the floats. -/
def Level.Unjudged (l : Level) (w : World) (log : ActionLog) : Prop :=
  match l.goal with
  | .free n => Untold log.size (max n 1)
  | .position x y tolerance => (x ≠ none ∧ w.x.BeyondFloats) ∨
      ((∀ t, x = some t → Near tolerance w.x t) ∧ y ≠ none ∧ w.y.BeyondFloats)
  | .scale _ _ => w.scalePercent.BeyondFloats
  | .action _ | .rotation _ | .speech _ => False

theorem firstOff_nil {tolerance : Value} : firstOff tolerance [] = .ok none := rfl

theorem firstOff_none {tolerance v : Value} {axis : String}
    {rest : List (String × Value × Option Float)} :
    firstOff tolerance ((axis, v, none) :: rest) = firstOff tolerance rest := rfl

theorem firstOff_some_returns {tolerance v : Value} (bound : tolerance.Plain) (plain : v.Plain)
    {axis : String} {target : Float} {rest : List (String × Value × Option Float)} :
    (∃ found, firstOff tolerance ((axis, v, some target) :: rest) = .ok found) ↔
      ¬v.BeyondFloats ∧
        (Near tolerance v target → ∃ found, firstOff tolerance rest = .ok found) := by
  rw [firstOff_cons bound plain, plain.beyondFloats_iff, not_not]
  unfold Near
  cases v.toFloat with
  | error f => simp
  | ok x =>
    simp only [Except.ok.injEq, exists_eq', exists_eq_left', true_and]
    split
    next far => exact iff_of_true ⟨_, rfl⟩ fun near => absurd (far.symm.trans near) nofun
    next near => simp [near]

theorem returns_checkGoal {l : Level} {w : World} {log : ActionLog} (bounded : l.goal.Bounded)
    (numeric : w.Numeric) : Returns (checkGoal l w log) ↔ ¬l.Unjudged w log := by
  unfold checkGoal Level.Unjudged
  cases aim : l.goal with
  | free n => exact returns_judgeFree
  | action kind => exact iff_of_true (returns_ok _) id
  | speech text => exact iff_of_true (returns_ok _) id
  | rotation degrees =>
    rw [aim] at bounded
    have bound : degrees.NotUpToZero := bounded
    refine iff_of_true ?_ id
    dsimp only
    unfold checkRotation
    rw [Value.ordered_eq_holds .ge (by decide) numeric.turns bound.plain, ok_bind]
    split <;> exact returns_ok _
  | scale percent tolerance =>
    rw [aim] at bounded
    dsimp only
    rw [numeric.size.beyondFloats_iff, not_not]
    unfold checkScale
    rw [offset_eq numeric.size]
    cases w.scalePercent.toFloat with
    | error f => exact iff_of_false (not_returns_error _) (by rintro ⟨_, ⟨⟩⟩)
    | ok x =>
      refine iff_of_true ?_ ⟨x, rfl⟩
      dsimp only
      rw [ok_bind, Value.ordered_eq_holds .le (by decide) (.float _) bounded.2.plain, ok_bind]
      split <;> exact returns_ok _
  | position x y tolerance =>
    rw [aim] at bounded
    have bound : tolerance.NotBelowZero := bounded
    have looked : Returns (checkPosition x y tolerance w) ↔
        ∃ found, firstOff tolerance [("x", w.x, x), ("y", w.y, y)] = .ok found := by
      unfold checkPosition
      dsimp only
      by_cases none : (x.isNone && y.isNone) = true
      · rw [if_pos none]
        refine iff_of_true (returns_ok _) ⟨.none, ?_⟩
        cases x <;> cases y <;> first | rfl | cases none
      · rw [if_neg none]
        refine returns_then fun found => ?_
        cases found <;> exact returns_ok _
    dsimp only
    rw [looked]
    cases x <;> cases y <;>
      simp [firstOff_nil, firstOff_none, firstOff_some_returns bound.plain, numeric.x, numeric.y]

end Sprite

namespace Pixel

/-- The picture is complete, and one of its colors is no paint. -/
def Level.Unjudged (l : Level) (w : World) (log : ActionLog) : Prop :=
  match l.goal with
  | .free n => Untold log.size (max n 1)
  | .pixels cells colors => (∀ c ∈ cells, (w.colorAt? (World.cellParts c)).isSome = true) ∧
      ∃ names, colors = some names ∧ ∃ p ∈ cells.zip names, paintCode? p.2 = none

/-- The colors of a painted picture are all looked up. -/
theorem exists_wrongCells {w : World} {cells : List ((Int × Int) × String)} :
    (∃ wrong, wrongCells w cells = .ok wrong) ↔ ∀ p ∈ cells, paintCode? p.2 ≠ none := by
  induction cells with
  | nil => exact iff_of_true ⟨[], rfl⟩ (List.forall_mem_nil _)
  | cons p rest ih =>
    obtain ⟨cell, wanted⟩ := p
    rw [List.forall_mem_cons, ← ih]
    simp only [wrongCells, bind_eq_ok]
    constructor
    · rintro ⟨wrong, code, coded, others, checked, _⟩
      have known := colorCode_eq_ok.mp coded
      exact ⟨ne_of_eq_of_ne known (Option.some_ne_none code), others, checked⟩
    · rintro ⟨known, others, checked⟩
      obtain ⟨code, coded⟩ := Option.ne_none_iff_exists'.mp known
      have looked : colorCode (.text wanted) = .ok code := colorCode_eq_ok.mpr coded
      exact ⟨_, code, looked, others, checked, rfl⟩

theorem returns_checkGoal {l : Level} {w : World} {log : ActionLog} :
    Returns (checkGoal l w log) ↔ ¬l.Unjudged w log := by
  unfold checkGoal Level.Unjudged
  cases l.goal with
  | free n =>
    refine Iff.trans ?_ returns_judgeFree
    dsimp only
    cases judgeFree log.size n with
    | ok v => exact iff_of_true (returns_ok v) (returns_ok v)
    | error m => exact iff_of_false (not_returns_error _) (not_returns_error m)
  | pixels cells colors =>
    dsimp only
    rw [← unpainted_eq_nil]
    unfold checkPixels
    dsimp only
    generalize cells.filter (fun c => (w.colorAt? (World.cellParts c)).isNone) = m
    simp only [pure, Except.pure, returns_ite]
    cases m with
    | cons c rest => simp
    | nil =>
      cases colors with
      | none => simp
      | some names =>
        refine (or_iff_right nofun).trans ((returns_then fun wrong => ?_).trans
          (exists_wrongCells.trans ?_))
        · split <;> exact returns_ok _
        · simp

end Pixel

namespace Console

def Level.Unjudged (l : Level) (log : ActionLog) : Prop :=
  match l.goal with
  | .free n => Untold log.size (max n 1)
  | .output _ => False

/-- The console holds texts. -/
def World.Printed (w : World) : Prop := ∀ line ∈ w.output, ∃ s, line = .text s

theorem exists_textsFrom {lines : List Value} (printed : ∀ line ∈ lines, ∃ s, line = .text s)
    (i : Nat) : ∃ got, textsFrom i lines = .ok got := by
  induction lines generalizing i with
  | nil => exact ⟨[], rfl⟩
  | cons line rest ih =>
    obtain ⟨⟨s, rfl⟩, others⟩ := List.forall_mem_cons.mp printed
    obtain ⟨got, read⟩ := ih others (i + 1)
    refine ⟨s :: got, ?_⟩
    rw [textsFrom, read]
    rfl

theorem returns_checkGoal {l : Level} {w : World} {log : ActionLog} (printed : w.Printed) :
    Returns (checkGoal l w log) ↔ ¬l.Unjudged log := by
  unfold checkGoal Level.Unjudged
  cases l.goal with
  | free n => exact returns_judgeFree
  | output expected =>
    refine iff_of_true ?_ id
    dsimp only
    obtain ⟨got, read⟩ := exists_textsFrom printed 0
    unfold checkOutput
    dsimp only
    rw [read]
    split
    next => exact returns_ok _
    next =>
      split
      next => exact returns_ok _
      next => exact returns_ok _

end Console

/-- What each recorded action preserves, their replay does. -/
theorem Domain.replay_preserves {d : Domain} {I : d.World → Prop} {P : Action → Prop}
    (step : ∀ {w v a changes}, I w → P a → d.react w a = .ok (.changed v changes) → I v)
    {w v : d.World} {log log' : ActionLog} {t : Trace} (recorded : ∀ a ∈ t, P a) (begins : I w)
    (replayed : d.replay w log t = .ok (v, log')) : I v := by
  induction t generalizing w log with
  | nil =>
    cases replayed
    exact begins
  | cons a t ih =>
    obtain ⟨here, later⟩ := List.forall_mem_cons.mp recorded
    obtain ⟨r, reaction, rest⟩ := replay_cons_eq_ok.mp replayed
    refine ih later ?_ rest
    cases r with
    | changed u changes => exact step begins here (apply_changed_iff.mp reaction)
    | refused why => exact begins

namespace Console

end Console

namespace Sprite

/-- The numbers of a stage stay numbers. -/
theorem World.Numeric.react {w v : World} {a : Action} {changes : List String} (h : w.Numeric)
    (recorded : Recorded a) (taken : w.react a = .ok (.changed v changes)) : v.Numeric := by
  cases recorded with
  | jump | say | wait =>
    cases taken
    exact ⟨h.x, h.y, h.turns, h.size⟩
  | move dx dy =>
    obtain ⟨x, y, across, down, _, _, rfl⟩ := World.react_move.mp ⟨changes, taken⟩
    exact ⟨h.x.of_add (orElse_plain dx) across, h.y.of_add (orElse_plain dy) down, h.turns, h.size⟩
  | rotate plain =>
    obtain ⟨turned, _, taken⟩ := bind_eq_ok.mp taken
    obtain ⟨rotation, _, taken⟩ := bind_eq_ok.mp taken
    obtain ⟨total, sum, taken⟩ := bind_eq_ok.mp taken
    cases taken
    exact ⟨h.x, h.y, h.turns.of_add (orElse_plain plain).absolute sum, h.size⟩
  | @scale percent plain positive =>
    obtain ⟨_, taken'⟩ := w.scale_recorded plain positive
    cases taken.symm.trans taken'
    exact ⟨h.x, h.y, h.turns, plain⟩

/-- So they are numbers once what calls record has been replayed. -/
theorem World.Numeric.replayed {w v : World} (h : w.Numeric) {r : Registry .sprite}
    (fresh : ∀ a ∈ r.trace, Recorded a) {cs : List Invocation} {log log' : ActionLog}
    (replay : Domain.replay .sprite w log (r.after cs).trace = .ok (v, log')) : v.Numeric :=
  Domain.replay_preserves (d := .sprite) World.Numeric.react
    (Registry.forall_trace_after (d := .sprite) Command.records fresh cs) h replay

end Sprite

/-- The verdict on what is left behind cannot be given. -/
def Domain.Level.Unjudged : {d : Domain} → d.Level → d.World → ActionLog → Prop
  | .robot, l, w, log => Robot.Level.Unjudged l w log
  | .building, l, w, log => Building.Level.Unjudged l w log
  | .sorting, l, _, log => Sorting.Level.Unjudged l log
  | .combat, l, _, log => Combat.Level.Unjudged l log
  | .music, l, _, log => Music.Level.Unjudged l log
  | .sprite, l, w, log => Sprite.Level.Unjudged l w log
  | .pixel, l, w, log => Pixel.Level.Unjudged l w log
  | .math, l, _, log => Console.Level.Unjudged l log

end PuzzleWorlds
