import PuzzleWorlds.Proofs.LoadedGoals
import PuzzleWorlds.Proofs.PixelPaths
import PuzzleWorlds.Proofs.ReportedRuns

/-! When a goal is reached. Each kind of goal is judged step by step, and the first step that fails
gives the verdict; the goal is reached exactly if no step fails. The distances of a stage are taken
in floats, and a distance that is no number is never too far. -/

namespace PuzzleWorlds

namespace Verdict

/-- A judgement that is a verdict of success. -/
def Passes (x : Except ε Verdict) : Prop := ∃ v, x = .ok v ∧ v.success = true

@[simp] theorem passes_passed (message : String) (details : List (String × Value)) :
    Passes (.ok (passed message details) : Except ε Verdict) := ⟨_, rfl, rfl⟩

@[simp] theorem not_passes_failed (message : String) (details : List (String × Value)) :
    ¬Passes (.ok (failed message details) : Except ε Verdict) := by
  rintro ⟨_, ⟨⟩, ⟨⟩⟩

@[simp] theorem not_passes_error (e : ε) : ¬Passes (.error e : Except ε Verdict) := by
  rintro ⟨_, ⟨⟩, _⟩

theorem passes_bind {x : Except ε α} {f : α → Except ε Verdict} :
    Passes (x >>= f) ↔ ∃ a, x = .ok a ∧ Passes (f a) := by
  cases x with
  | error e => exact iff_of_false (not_passes_error e) (by rintro ⟨_, ⟨⟩, _⟩)
  | ok a => simp

theorem not_passes_bind {x : Except ε α} {f : α → Except ε Verdict}
    (fails : ∀ a, ¬Passes (f a)) : ¬Passes (x >>= f) := fun passes =>
  have ⟨a, _, passes⟩ := passes_bind.mp passes
  fails a passes

theorem passes_unless {c : Prop} [Decidable c] {message : String}
    {details : List (String × Value)} {x : Except ε Verdict} :
    Passes (if c then .ok (failed message details) else x) ↔ ¬c ∧ Passes x := by
  split
  next fails => exact iff_of_false (not_passes_failed _ _) fun ⟨holds, _⟩ => holds fails
  next holds => exact (and_iff_right holds).symm

/-- A count that falls short is told with a text that may not be writable. -/
theorem passes_count {count least : Int} {x : Except ε α} {told : α → String} {message : String}
    {details details' : List (String × Value)} :
    Passes (if count < least then x >>= fun text => .ok (failed (told text) details)
      else .ok (passed message details')) ↔ least ≤ count := by
  split
  next few => exact iff_of_false (not_passes_bind fun _ => not_passes_failed _ _) (by omega)
  next enough => exact iff_of_true (passes_passed _ _) (by omega)

end Verdict

theorem Domain.judged_eq_ok {x : Except Misfit Verdict} {v : Verdict} :
    judged x = .ok v ↔ x = .ok v := by
  cases x <;> simp [judged]

theorem Domain.reaches_iff_passes {d : Domain} {l : d.Level} {w : d.World} {log : ActionLog}
    {x : Except Misfit Verdict} (same : d.checkGoal l w log = judged x) :
    d.reaches l w log = true ↔ Verdict.Passes x := by
  rw [reaches_iff_success, same]
  simp only [judged_eq_ok, Verdict.Passes]

open Verdict

namespace Robot

variable {l : Level} {w : World} {log : ActionLog}

theorem passes_checkPosition {x y : Int} {all : Bool} : Passes (checkPosition x y all w) ↔
    w.position = (x, y) ∧ missingStars all w = [] := by
  unfold checkPosition
  dsimp only
  by_cases here : w.position = (x, y)
  · rw [if_neg (by simpa using here)]
    cases missing : missingStars all w with
    | nil => exact iff_of_true (passes_passed _ _) ⟨here, rfl⟩
    | cons s rest => exact iff_of_false (not_passes_failed _ _) (by rintro ⟨_, ⟨⟩⟩)
  · rw [if_pos (by simpa using here)]
    refine iff_of_false ?_ fun ⟨there, _⟩ => here there
    exact not_passes_bind fun _ => not_passes_bind fun _ => not_passes_failed _ _

theorem reaches_position {x y : Int} {all : Bool} (aim : l.goal = .position x y all) :
    Domain.reaches .robot l w log = true ↔
      w.position = (x, y) ∧ missingStars all w = [] := by
  refine (Domain.reaches_iff_passes (d := .robot) ?_).trans passes_checkPosition
  simp only [Domain.checkGoal, checkGoal, aim]

end Robot

namespace Building

variable {l : Level} {w : World} {log : ActionLog}

theorem sortCells_eq_nil {cells : List (List Value)} : sortCells cells = [] ↔ cells = [] := by
  unfold sortCells
  rw [← List.length_eq_zero_iff, List.length_mergeSort, List.length_eq_zero_iff]

/-- The structure stands: nothing is missing, of a wrong color, too much or too few. -/
@[mk_iff] structure World.Shows (w : World) (g : Structure) : Prop where
  filled : ∀ t ∈ targetColors g.target, (w.colorAt? t.1).isSome = true
  colored : g.matchColors = true → wrongCells w (targetColors g.target) = .ok []
  exact : g.exact = true → ∀ b ∈ w.blocks, ∃ t ∈ targetColors g.target,
    Value.sameItems t.1 b.1 = true
  enough : ∀ n, g.minBlocks = some n → n ≤ w.blocks.length

/-- In terms of what a verdict lists. -/
theorem World.shows_iff_nil {g : Structure} : w.Shows g ↔
    sortCells (((targetColors g.target).map (·.1)).filter fun c => (w.colorAt? c).isNone) = [] ∧
    (if g.matchColors = true then (wrongCells w (targetColors g.target)).map sortCells
      else pure []) = .ok [] ∧
    (if g.exact = true then sortCells ((w.blocks.map (·.1)).filter fun c =>
      !(targetColors g.target).any fun t => Value.sameItems t.1 c) else []) = [] ∧
    ∀ n, g.minBlocks = some n → n ≤ w.blocks.length := by
  have missing : sortCells (((targetColors g.target).map (·.1)).filter fun c =>
      (w.colorAt? c).isNone) = [] ↔
      ∀ t ∈ targetColors g.target, (w.colorAt? t.1).isSome = true := by
    rw [sortCells_eq_nil]
    simp [List.filter_eq_nil_iff, Option.isSome_iff_ne_none]
  have wrong : (if g.matchColors = true then
      (wrongCells w (targetColors g.target)).map sortCells else pure []) = .ok [] ↔
      (g.matchColors = true → wrongCells w (targetColors g.target) = .ok []) := by
    split
    next colored => simp [colored, map_eq_ok, sortCells_eq_nil]
    next plain => exact iff_of_true rfl (absurd · plain)
  have extra : (if g.exact = true then sortCells ((w.blocks.map (·.1)).filter fun c =>
      !(targetColors g.target).any fun t => Value.sameItems t.1 c) else []) = [] ↔
      (g.exact = true → ∀ b ∈ w.blocks, ∃ t ∈ targetColors g.target,
        Value.sameItems t.1 b.1 = true) := by
    split
    next exact' => simp [exact', sortCells_eq_nil, List.filter_eq_nil_iff]
    next loose => exact iff_of_true rfl (absurd · loose)
  rw [World.shows_iff, ← missing, ← wrong, ← extra]

theorem passes_checkStructure {g : Structure} :
    Passes (checkStructure g w) ↔ w.Shows g := by
  rw [World.shows_iff_nil]
  unfold checkStructure
  dsimp only
  generalize sortCells (((targetColors g.target).map (·.1)).filter fun c =>
    (w.colorAt? c).isNone) = m
  generalize (if g.exact = true then sortCells ((w.blocks.map (·.1)).filter fun c =>
      !(targetColors g.target).any fun t => Value.sameItems t.1 c) else []) = e
  -- the color check is made before the verdict on the missing blocks, and only if colors count
  split
  next colored =>
    rw [passes_bind]
    simp only [pure, Except.pure, passes_unless]
    cases m <;> cases e <;> cases g.minBlocks <;> simp [passes_count]
  next plain =>
    simp only [pure, Except.pure, passes_unless, ok_bind]
    cases m <;> cases e <;> cases g.minBlocks <;> simp [passes_count]

theorem reaches_structure {g : Structure} (aim : l.goal = .structureMatch g) :
    Domain.reaches .building l w log = true ↔ w.Shows g := by
  refine (Domain.reaches_iff_passes (d := .building) ?_).trans passes_checkStructure
  simp only [Domain.checkGoal, checkGoal, aim]

end Building

namespace Combat

variable {l : Level} {w : World} {log : ActionLog}

theorem reaches_target {expected : Option String} (aim : l.goal = .targetSelection expected) :
    Domain.reaches .combat l w log = true ↔
      ∃ id, w.selected = some id ∧ ∀ e, expected = some e → e = id := by
  have verdict : Domain.combat.checkGoal l w log =
      Domain.judged (.ok (checkTarget expected w)) := by
    simp only [Domain.checkGoal, checkGoal, aim]
  refine (Domain.reaches_iff_passes (d := .combat) verdict).trans ?_
  unfold checkTarget
  dsimp only
  cases chosen : w.selected with
  | none => exact iff_of_false (not_passes_failed _ _) (by rintro ⟨_, ⟨⟩, _⟩)
  | some id =>
    dsimp only
    by_cases other : expected.isSome = true ∧ expected ≠ some id
    · rw [if_pos (by simpa using other)]
      refine iff_of_false (not_passes_failed _ _) ?_
      rintro ⟨_, ⟨⟩, same⟩
      obtain ⟨e, given⟩ := Option.isSome_iff_exists.mp other.1
      exact other.2 (same e given ▸ given)
    · rw [if_neg (by simpa using other)]
      refine iff_of_true (passes_passed _ _) ⟨id, rfl, fun e given => ?_⟩
      by_contra apart
      exact other ⟨by rw [given]; rfl, by rw [given]; simpa using apart⟩

end Combat

namespace Music

variable {l : Level} {w : World} {log : ActionLog}

theorem reaches_sequence {required : List String} (aim : l.goal = .sequence required) :
    Domain.reaches .music l w log = true ↔
      Value.sameItems (log.notes.take required.length) (required.map .text) = true := by
  have verdict : Domain.music.checkGoal l w log =
      Domain.judged (.ok (checkSequence required log.notes)) := by
    simp only [Domain.checkGoal, checkGoal, aim]
  refine (Domain.reaches_iff_passes (d := .music) verdict).trans ?_
  unfold checkSequence
  dsimp only
  rw [List.length_map]
  split
  next same => exact iff_of_true (passes_passed _ _) same
  next other => exact iff_of_false (not_passes_failed _ _) other

theorem unplayed_eq_nil {required : List String} {played : List Value} :
    (required.filter fun n => !played.any (Value.same · (.text n))) = [] ↔
      ∀ n ∈ required, played.any (Value.same · (.text n)) = true := by
  simp [List.filter_eq_nil_iff]

theorem reaches_notes {required : List String} {minNotes : Option Int}
    (aim : l.goal = .notes required minNotes) : Domain.reaches .music l w log = true ↔
      (∀ n ∈ required, log.notes.any (Value.same · (.text n)) = true) ∧
      ∀ k, minNotes = some k → k ≤ log.notes.length := by
  have verdict : Domain.music.checkGoal l w log =
      Domain.judged (checkNotes required minNotes log.notes) := by
    simp only [Domain.checkGoal, checkGoal, aim]
  refine (Domain.reaches_iff_passes (d := .music) verdict).trans ?_
  rw [← unplayed_eq_nil]
  unfold checkNotes
  dsimp only
  cases required.filter fun n => !log.notes.any (Value.same · (.text n)) with
  | cons n rest => exact iff_of_false (not_passes_failed _ _) (by rintro ⟨⟨⟩, _⟩)
  | nil =>
    cases minNotes with
    | none => exact iff_of_true (passes_passed _ _) ⟨rfl, by rintro _ ⟨⟩⟩
    | some k =>
      simp only [Option.some.injEq, forall_eq', true_and]
      by_cases few : (log.notes.length : Int) < k
      · refine iff_of_false ?_ (Int.not_le.mpr few)
        simp only [few]
        exact not_passes_bind fun _ => not_passes_failed _ _
      · refine iff_of_true ?_ (Int.not_lt.mp few)
        simp only [few]
        exact passes_passed _ _

theorem reaches_repetition {minNotes : Int} {note : Option String}
    (aim : l.goal = .repetition minNotes note) :
    Domain.reaches .music l w log = true ↔ minNotes ≤ countNotes note log.notes := by
  have verdict : Domain.music.checkGoal l w log =
      Domain.judged (checkRepetition minNotes note log.notes) := by
    simp only [Domain.checkGoal, checkGoal, aim]
  refine (Domain.reaches_iff_passes (d := .music) verdict).trans ?_
  unfold checkRepetition
  dsimp only
  split
  next enough => exact iff_of_true (passes_passed _ _) enough
  next few =>
    refine iff_of_false ?_ few
    exact not_passes_bind fun _ => not_passes_failed _ _

end Music

namespace Console

variable {l : Level} {w : World} {log : ActionLog}

theorem reaches_output {expected : List String} (aim : l.goal = .output expected) :
    Domain.reaches .math l w log = true ↔
      Value.sameItems (w.output.take expected.length) (expected.map .text) = true := by
  have verdict : Domain.math.checkGoal l w log = Domain.judged (checkOutput expected w) := by
    simp only [Domain.checkGoal, checkGoal, aim]
  refine (Domain.reaches_iff_passes (d := .math) verdict).trans ?_
  unfold checkOutput
  dsimp only
  rw [List.length_map]
  split
  next same => exact iff_of_true (passes_passed _ _) same
  next other =>
    refine iff_of_false ?_ other
    split
    · exact not_passes_failed _ _
    · exact not_passes_bind fun _ => not_passes_failed _ _

end Console

namespace Value

theorem NotBelowZero.plain {v : Value} (h : v.NotBelowZero) : v.Plain := by
  cases v with
  | int n => exact .int n
  | float x => exact .float x
  | null | bool _ | text _ | list _ | tuple _ | dict _ | record _ => exact h.elim

theorem NotUpToZero.plain {v : Value} (h : v.NotUpToZero) : v.Plain := by
  cases v with
  | int n => exact .int n
  | float x => exact .float x
  | null | bool _ | text _ | list _ | tuple _ | dict _ | record _ => exact h.elim

/-- Numbers are always compared, though no comparison holds with a float that is no number. -/
theorem ordered_eq_holds (c : Comparison) (h : c ≠ .eq ∧ c ≠ .ne) {a b : Value} (ha : a.Plain)
    (hb : b.Plain) : ordered c a b = .ok (c.holds (compareNumbers? a b)) := by
  obtain ⟨noEq, noNe⟩ := h
  cases c with
  | eq => exact absurd rfl noEq
  | ne => exact absurd rfl noNe
  | lt | le | gt | ge => cases ha <;> cases hb <;> rfl

end Value

namespace Sprite

variable {l : Level} {w : World} {log : ActionLog}

/-- The numbers of a stage are whole or floats. -/
structure World.Numeric (w : World) : Prop where
  x : w.x.Plain
  y : w.y.Plain
  turns : w.totalRotation.Plain
  size : w.scalePercent.Plain

/-- The place of a figure is zero where it was filled in, else a float. -/
theorem Level.lead_reads {P : Value → Prop} (zero : P 0) (floats : ∀ x, P (.float x))
    {document : Value} {l : Level} (loads : loadLevel document = .ok ⟨.sprite, l⟩) :
    P l.lead.x ∧ P l.lead.y := by
  obtain ⟨o, decoded⟩ := exists_decodeLevel_of_loadLevel loads
  exact lead_of_decode zero floats decoded

theorem Level.lead_plain {document : Value} {l : Level}
    (loads : loadLevel document = .ok ⟨.sprite, l⟩) : l.lead.x.Plain ∧ l.lead.y.Plain :=
  lead_reads (.int 0) .float loads

theorem World.Numeric.initial {l : Level} (lead : l.lead.x.Plain ∧ l.lead.y.Plain) :
    (World.initial l).Numeric where
  x := lead.1
  y := lead.2
  turns := .int 0
  size := .float 100.0

/-- A distance is taken in floats, which fails for a number beyond them. -/
theorem offset_eq {v : Value} (plain : v.Plain) (target : Float) :
    offset v target = match v.toFloat with
      | .ok x => .ok (.float (x - target).abs)
      | .error _ => .error .intTooLarge := by
  cases plain with
  | float x => rfl
  | int n =>
    have difference : Value.operate .sub (.int n) (.float target) =
      (Value.intToFloat n).bind fun x => Value.floatOperation .sub x target := rfl
    have number : (Value.int n).toFloat = Value.intToFloat n := rfl
    unfold offset Value.operation
    rw [difference, number, Value.intToFloat]
    cases Binary.nearestInt? n <;> rfl

/-- The number is not too far from its target: its distance is not more than the tolerance. -/
def Near (tolerance v : Value) (target : Float) : Prop :=
  ∃ x, v.toFloat = .ok x ∧
    Value.Comparison.gt.holds (Value.compareNumbers? (.float (x - target).abs) tolerance) = false

theorem firstOff_cons {tolerance v : Value} (bound : tolerance.Plain) (plain : v.Plain)
    {axis : String} {target : Float} {rest : List (String × Value × Option Float)} :
    firstOff tolerance ((axis, v, some target) :: rest) = match v.toFloat with
      | .ok x =>
        if Value.Comparison.gt.holds
            (Value.compareNumbers? (.float (x - target).abs) tolerance) then
          .ok (some (axis, .float (x - target).abs))
        else firstOff tolerance rest
      | .error _ => .error .intTooLarge := by
  rw [firstOff, offset_eq plain]
  cases v.toFloat with
  | error f => rfl
  | ok x =>
    dsimp only
    rw [ok_bind, Value.ordered_eq_holds .gt (by decide) (.float _) bound, ok_bind]
    rfl

theorem firstOff_eq_none {tolerance : Value} (bound : tolerance.Plain)
    {axes : List (String × Value × Option Float)} (plain : ∀ a ∈ axes, a.2.1.Plain) :
    firstOff tolerance axes = .ok none ↔
      ∀ a ∈ axes, ∀ target, a.2.2 = some target → Near tolerance a.2.1 target := by
  induction axes with
  | nil => exact iff_of_true rfl nofun
  | cons a rest ih =>
    obtain ⟨axis, v, target⟩ := a
    obtain ⟨here, others⟩ := List.forall_mem_cons.mp plain
    rw [List.forall_mem_cons, ← ih others]
    cases target with
    | none => simp [firstOff]
    | some target =>
      rw [firstOff_cons bound here]
      simp only [Option.some.injEq, forall_eq', Near]
      cases v.toFloat with
      | error f => simp
      | ok x =>
        simp only [Except.ok.injEq, exists_eq_left']
        split
        next far => simp [far]
        next near => simp [near]

theorem reaches_place {x y : Option Float} {tolerance : Value}
    (aim : l.goal = .position x y tolerance) (bound : tolerance.Plain) (numeric : w.Numeric) :
    Domain.reaches .sprite l w log = true ↔
      (x ≠ none ∨ y ≠ none) ∧ (∀ t, x = some t → Near tolerance w.x t) ∧
        ∀ t, y = some t → Near tolerance w.y t := by
  have verdict : Domain.sprite.checkGoal l w log =
      Domain.judged (checkPosition x y tolerance w) := by
    simp only [Domain.checkGoal, checkGoal, aim]
  have plain : ∀ a ∈ [("x", w.x, x), ("y", w.y, y)], a.2.1.Plain := by
    simp [numeric.x, numeric.y]
  have near := firstOff_eq_none bound plain
  simp only [List.forall_mem_cons, List.not_mem_nil, false_implies, implies_true, and_true] at near
  refine (Domain.reaches_iff_passes (d := .sprite) verdict).trans ?_
  rw [← near]
  unfold checkPosition
  dsimp only
  by_cases asks : x ≠ none ∨ y ≠ none
  · rw [if_neg (by simpa [or_iff_not_imp_left] using asks), passes_bind, and_iff_right asks]
    constructor
    · rintro ⟨_ | ⟨axis, off⟩, same, passes⟩
      · exact same
      · exact absurd passes (not_passes_failed _ _)
    · exact fun same => ⟨none, same, passes_passed _ _⟩
  · rw [if_pos (by simpa using asks)]
    exact iff_of_false (not_passes_failed _ _) (asks ·.1)

theorem reaches_rotation {degrees : Value} (aim : l.goal = .rotation degrees)
    (bound : degrees.Plain) (numeric : w.Numeric) : Domain.reaches .sprite l w log = true ↔
      Value.Comparison.ge.holds (Value.compareNumbers? w.totalRotation degrees) = true := by
  have verdict : Domain.sprite.checkGoal l w log = Domain.judged (checkRotation degrees w) := by
    simp only [Domain.checkGoal, checkGoal, aim]
  refine (Domain.reaches_iff_passes (d := .sprite) verdict).trans ?_
  unfold checkRotation
  rw [Value.ordered_eq_holds .ge (by decide) numeric.turns bound, ok_bind]
  split
  next turned => exact iff_of_true (passes_passed _ _) turned
  next not => exact iff_of_false (not_passes_failed _ _) not

theorem reaches_size {percent : Float} {tolerance : Value} (aim : l.goal = .scale percent tolerance)
    (bound : tolerance.Plain) (numeric : w.Numeric) : Domain.reaches .sprite l w log = true ↔
      ∃ x, w.scalePercent.toFloat = .ok x ∧ Value.Comparison.le.holds
        (Value.compareNumbers? (.float (x - percent).abs) tolerance) = true := by
  have verdict : Domain.sprite.checkGoal l w log =
      Domain.judged (checkScale percent tolerance w) := by
    simp only [Domain.checkGoal, checkGoal, aim]
  refine (Domain.reaches_iff_passes (d := .sprite) verdict).trans ?_
  unfold checkScale
  rw [offset_eq numeric.size]
  cases w.scalePercent.toFloat with
  | error f => exact iff_of_false (not_passes_error _) (by simp)
  | ok x =>
    dsimp only
    rw [ok_bind, Value.ordered_eq_holds .le (by decide) (.float _) bound, ok_bind]
    simp only [Except.ok.injEq, exists_eq_left']
    split
    next fits => exact iff_of_true (passes_passed _ _) fits
    next not => exact iff_of_false (not_passes_failed _ _) not

theorem reaches_speech {text : Option String} (aim : l.goal = .speech text) :
    Domain.reaches .sprite l w log = true ↔ ∃ a ∈ log.ofKind .say,
      ∀ s, text = some s → a.payload.text.same (.text s) = true := by
  have verdict : Domain.sprite.checkGoal l w log = Domain.judged (.ok (checkSpeech text log)) := by
    simp only [Domain.checkGoal, checkGoal, aim]
  refine (Domain.reaches_iff_passes (d := .sprite) verdict).trans ?_
  unfold checkSpeech
  dsimp only
  cases text with
  | none =>
    dsimp only
    cases log.ofKind .say with
    | nil => exact iff_of_false (not_passes_failed _ _) (by simp)
    | cons a rest => exact iff_of_true (passes_passed _ _) ⟨a, List.mem_cons_self, by rintro _ ⟨⟩⟩
  | some s =>
    dsimp only
    split
    next said => exact iff_of_true (passes_passed _ _) (by simpa using said)
    next silent => exact iff_of_false (not_passes_failed _ _) (by simpa using silent)

theorem reaches_action {kind : String} (aim : l.goal = .action kind) :
    Domain.reaches .sprite l w log = true ↔ ∃ a ∈ log.entries, a.kind.name = kind := by
  have verdict : Domain.sprite.checkGoal l w log = Domain.judged (.ok (checkAction kind log)) := by
    simp only [Domain.checkGoal, checkGoal, aim]
  refine (Domain.reaches_iff_passes (d := .sprite) verdict).trans ?_
  unfold checkAction
  split
  next done => exact iff_of_true (passes_passed _ _) (by simpa using done)
  next not => exact iff_of_false (not_passes_failed _ _) (by simpa using not)

end Sprite

end PuzzleWorlds
