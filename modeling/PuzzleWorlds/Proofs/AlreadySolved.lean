import PuzzleWorlds.Proofs.FloatSums
import PuzzleWorlds.Proofs.ReachedGoals
import PuzzleWorlds.Proofs.RobotRoutes
import PuzzleWorlds.Proofs.SwapBudget

/-! Levels that are solved as they stand. The findings warn of a robot that starts on its goal and
of a shelf that is sorted, and they are right. A melody that asks for nothing and a figure that
already stands where it should, or has the size that it should have, are solved too, and of these
there is no warning. -/

namespace PuzzleWorlds

/-- Whether a warning says that the level is solved as it stands. -/
def tellsSolved (warning : String) : Bool :=
  warning == "Robot already starts on the goal" || warning == "Potions are already sorted"

namespace Findings

def tellSolved (f : Findings) : Bool := f.warnings.any tellsSolved

@[simp] theorem tellSolved_append (f g : Findings) :
    (f ++ g).tellSolved = (f.tellSolved || g.tellSolved) := List.any_append

@[simp] theorem tellSolved_empty : tellSolved {} = false := rfl

@[simp] theorem tellSolved_errorIf (c : Bool) (text : String) :
    (errorIf c text).tellSolved = false := by
  cases c <;> rfl

theorem tellSolved_warningIf (c : Bool) (text : String) :
    (warningIf c text).tellSolved = (c && tellsSolved text) := by
  cases c with
  | false => rfl
  | true => exact Bool.or_false _

theorem tellSolved_join {fs : List Findings} (none : ∀ f ∈ fs, f.tellSolved = false) :
    (join fs).tellSolved = false := by
  have folded : ∀ g : Findings, g.tellSolved = false →
      (fs.foldl append g).tellSolved = false := by
    induction fs with
    | nil => exact fun g silent => silent
    | cons f fs ih =>
      obtain ⟨here, others⟩ := List.forall_mem_cons.mp none
      intro g silent
      refine ih others (g.append f) ?_
      exact (tellSolved_append g f).trans (by rw [silent, here]; rfl)
  exact folded {} rfl

theorem tellSolved_join_map {l : List α} {f : α → Findings}
    (none : ∀ a ∈ l, (f a).tellSolved = false) :
    (join (l.map f)).tellSolved = false :=
  tellSolved_join (List.forall_mem_map.mpr none)

end Findings

/-- A warning that begins otherwise says something else. -/
theorem tellsSolved_eq_false {text : String} {c : Char} (begins : text.toList.head? = some c)
    (other : c ≠ 'R' ∧ c ≠ 'P') : tellsSolved text = false := by
  unfold tellsSolved
  rw [Bool.or_eq_false_iff]
  constructor
  · refine beq_eq_false_iff_ne.mpr ?_
    rintro rfl
    exact other.1 (Option.some.inj begins).symm
  · refine beq_eq_false_iff_ne.mpr ?_
    rintro rfl
    exact other.2 (Option.some.inj begins).symm

/-- Whether the findings on the level say that it is solved as it stands. -/
def Domain.Level.ReportsSolved {d : Domain} (l : d.Level) : Prop :=
  (d.validate l).tellSolved = true

/-- The level is solved before any action. -/
def Domain.Level.SolvedAtStart {d : Domain} (l : d.Level) : Prop :=
  ∃ w, d.initialWorld l = .ok w ∧ d.reaches l w d.newLog = true

theorem Domain.tellSolved_validate {d : Domain} (l : d.Level) :
    (d.validate l).tellSolved = (d.ownFindings l).tellSolved := by
  have hints : (Findings.warningIf (Level.header l).hints.isEmpty "No hints defined").tellSolved =
      false := by
    rw [Findings.tellSolved_warningIf, tellsSolved_eq_false (c := 'N') rfl (by decide),
      Bool.and_false]
  have blocks (unknown : List String) : (Findings.join (unknown.map fun b =>
      Findings.warningIf true
        s!"Allowed block '{b}' is not known to the {d.name} block compiler")).tellSolved = false := by
    refine Findings.tellSolved_join_map fun b _ => ?_
    rw [Findings.tellSolved_warningIf, tellsSolved_eq_false (c := 'A') (by simp [toString]) (by decide),
      Bool.and_false]
  simp only [validate, Findings.tellSolved_append, Findings.tellSolved_errorIf, hints, blocks,
    Bool.false_or, Bool.or_false]

/-- Free play asks for at least one action. -/
theorem Domain.not_reaches_free_start {d : Domain} {l : d.Level} {n : Int}
    (free : Level.freeMinimum? l = some n) (w : d.World) : d.reaches l w d.newLog ≠ true := by
  rw [ne_eq, reaches_free free, checkFree_success]
  have none : d.newLog.size = 0 := rfl
  omega

namespace Robot

/-- Only the remark on the goal says that the level is solved. -/
theorem Level.tellSolved_findings (l : Level) : l.findings.tellSolved = match l.goal with
    | .free _ => false
    | .position x y all =>
      (x, y) == (l.robot.x, l.robot.y) && !(all && !l.stars.isEmpty) := by
  have repeated (p : (Int × Int) × Nat) : (Findings.warningIf (p.2 > 1)
      s!"Star {pointText p.1.1 p.1.2} is listed more than once").tellSolved = false := by
    rw [Findings.tellSolved_warningIf, tellsSolved_eq_false (c := 'S') (by simp [toString])
      (by decide), Bool.and_false]
  unfold findings
  simp only [Findings.tellSolved_append, Findings.tellSolved_errorIf, Bool.false_or]
  rw [Findings.tellSolved_join_map fun _ _ => Findings.tellSolved_errorIf _ _,
    Findings.tellSolved_join_map fun p _ => repeated p, Bool.false_or, Bool.false_or]
  cases l.goal with
  | free n => rfl
  | position x y all =>
    have told : tellsSolved "Robot already starts on the goal" = true := rfl
    rw [Findings.tellSolved_append, Findings.tellSolved_errorIf, Findings.tellSolved_warningIf, told,
      Bool.false_or, Bool.and_true]

/-- All stars are missing at the start, if they count. -/
theorem missingStars_initial (l : Level) (all : Bool) :
    missingStars all (World.initial l) = [] ↔ all = true → l.stars = [] := by
  have remaining : (World.initial l).remaining = l.stars.eraseDups := by
    simp [World.initial, World.remaining]
  cases all with
  | false => exact iff_of_true rfl (absurd · Bool.false_ne_true)
  | true =>
    rw [missingStars, if_pos rfl, remaining, ← List.length_eq_zero_iff, List.length_mergeSort,
      List.length_eq_zero_iff]
    simp only [List.eq_nil_iff_forall_not_mem, List.mem_eraseDups, forall_const]

theorem Level.tellSolved_iff {l : Level} (valid : l.findings.valid = true) :
    l.findings.tellSolved = true ↔
      Domain.robot.reaches l (World.initial l) Domain.robot.newLog = true := by
  rw [tellSolved_findings]
  cases aim : l.goal with
  | free n =>
    refine iff_of_false nofun (Domain.not_reaches_free_start (d := .robot) (n := n) ?_ _)
    simp only [Domain.Level.freeMinimum?, aim]
  | position x y all =>
    have start : inGrid l.robot.x l.robot.y l.width l.height = true := by
      simp only [findings, Findings.valid_append, Bool.and_eq_true, Findings.valid_errorIf] at valid
      simpa using valid.1.1.1
    obtain ⟨across, down⟩ := inGrid_iff.mp start
    have here : (World.initial l).position = (l.robot.x, l.robot.y) := Prod.ext
      (clamp_eq_self across.1 (Int.le_sub_one_of_lt across.2))
      (clamp_eq_self down.1 (Int.le_sub_one_of_lt down.2))
    rw [reaches_position aim, here, missingStars_initial, Bool.and_eq_true, beq_iff_eq, eq_comm]
    cases all <;> simp

end Robot

namespace Sorting

theorem Level.tellSolved_iff {l : Level} (bounded : l.goal.Bounded) :
    l.findings.tellSolved = true ↔
      Domain.sorting.reaches l (World.initial l) Domain.sorting.newLog = true := by
  cases aim : l.goal with
  | free n =>
    refine iff_of_false (by simp [findings, aim]) ?_
    exact Domain.not_reaches_free_start (d := .sorting) (n := n)
      (by simp only [Domain.Level.freeMinimum?, aim]) _
  | sortedWithBudget order maxSwaps =>
    rw [aim] at bounded
    have unswapped : ∀ k, maxSwaps = some k → ((World.initial l).swaps : Int) ≤ k := bounded
    rw [reaches_iff aim, and_iff_left unswapped]
    simp only [findings, aim, beq_iff_eq, sorted_eq_iff]
    split
    next sorted => exact iff_of_true rfl sorted
    next unsorted => exact iff_of_false (by simp) unsorted

end Sorting

/-- A warning on something else. -/
theorem Findings.tellSolved_warningIf_other {condition : Bool} {text : String} {c : Char}
    (begins : text.toList.head? = some c) (other : c ≠ 'R' ∧ c ≠ 'P') :
    (warningIf condition text).tellSolved = false := by
  rw [tellSolved_warningIf, tellsSolved_eq_false begins other, Bool.and_false]

namespace Building

theorem Level.not_tellSolved (l : Level) : l.findings.tellSolved = false := by
  unfold findings
  simp only [Findings.tellSolved_append, Findings.tellSolved_errorIf, Bool.false_or]
  rw [Findings.tellSolved_warningIf_other (c := 'N') rfl (by decide), Bool.false_or]
  cases l.goal with
  | free n => rfl
  | structureMatch g =>
    simp only [Findings.tellSolved_append, Findings.tellSolved_errorIf, Bool.or_false]
    rw [Findings.tellSolved_join_map fun _ _ => Findings.tellSolved_errorIf _ _, Bool.false_or]
    refine Findings.tellSolved_join_map fun t _ => ?_
    rw [Findings.tellSolved_append, Findings.tellSolved_errorIf, Bool.false_or]
    split
    next => exact Findings.tellSolved_errorIf _ _
    next => exact Findings.tellSolved_warningIf_other (c := 'T') (by simp [toString]) (by decide)

theorem put_ne_nil (cell : List Value) (color : Value) (l : List (List Value × Value)) :
    World.put cell color l ≠ [] := by
  cases l with
  | nil => exact List.cons_ne_nil _ _
  | cons b rest =>
    unfold World.put
    split <;> exact List.cons_ne_nil _ _

theorem targetColors_eq_nil {cells : List ColoredCell} : targetColors cells = [] ↔ cells = [] := by
  cases cells using List.reverseRecOn with
  | nil => exact iff_of_true rfl rfl
  | append_singleton cells c =>
    refine iff_of_false ?_ (by simp)
    simp only [targetColors, List.foldl_append, List.foldl_cons, List.foldl_nil]
    exact put_ne_nil _ _ _

/-- A structure asks for a block at least. -/
theorem Level.not_reaches_start {l : Level} (valid : l.findings.valid = true)
    (bounded : l.goal.Bounded) :
    Domain.building.reaches l (World.initial l) Domain.building.newLog ≠ true := by
  cases aim : l.goal with
  | free n =>
    exact Domain.not_reaches_free_start (d := .building) (n := n)
      (by simp only [Domain.Level.freeMinimum?, aim]) _
  | structureMatch g =>
    rw [ne_eq, reaches_structure aim]
    intro shows
    have target : g.target = [] := by
      rw [← targetColors_eq_nil, List.eq_nil_iff_forall_not_mem]
      intro t member
      exact absurd (shows.filled t member) (by simp [World.initial, World.colorAt?])
    have count : g.minBlocks = none := by
      cases asked : g.minBlocks with
      | none => rfl
      | some n =>
        rw [aim] at bounded
        have least : 1 ≤ n := bounded n asked
        have most : n ≤ 0 := shows.enough n asked
        omega
    simp [findings, aim, target, count] at valid

end Building

namespace Combat

theorem Level.not_tellSolved (l : Level) : l.findings.tellSolved = false := by
  unfold findings
  simp only [Findings.tellSolved_append]
  rw [Findings.tellSolved_join_map fun _ _ => Findings.tellSolved_errorIf _ _,
    Findings.tellSolved_warningIf_other (c := 'N') rfl (by decide),
    Findings.tellSolved_join_map fun u _ => ?_, Bool.false_or, Bool.false_or]
  · cases l.goal with
    | free n => rfl
    | targetSelection expected =>
      cases expected with
      | none => rfl
      | some id => exact Findings.tellSolved_errorIf _ _
  · rw [Findings.tellSolved_append, Findings.tellSolved_errorIf, Bool.false_or]
    cases u.maxHp with
    | none => rfl
    | some most => exact Findings.tellSolved_errorIf _ _

theorem Level.not_reaches_start (l : Level) :
    Domain.combat.reaches l (World.initial l) Domain.combat.newLog ≠ true := by
  cases aim : l.goal with
  | free n =>
    exact Domain.not_reaches_free_start (d := .combat) (n := n)
      (by simp only [Domain.Level.freeMinimum?, aim]) _
  | targetSelection expected =>
    rw [ne_eq, reaches_target aim]
    rintro ⟨id, chosen, _⟩
    cases chosen

end Combat

namespace Music

theorem Level.not_tellSolved (l : Level) : l.findings.tellSolved = false := by
  unfold findings
  cases l.goal with
  | notes names n | sequence names =>
    exact Findings.tellSolved_join_map fun _ _ => Findings.tellSolved_errorIf _ _
  | repetition n note =>
    cases note with
    | none => rfl
    | some name => exact Findings.tellSolved_errorIf _ _
  | free n => rfl

/-- Before anything is played, only a melody that asks for nothing is complete. -/
theorem Level.reaches_start_iff {l : Level} (bounded : l.goal.Bounded) :
    Domain.music.reaches l World.initial Domain.music.newLog = true ↔ l.goal = .notes [] none := by
  have silence : Domain.music.newLog.notes = [] := rfl
  cases aim : l.goal with
  | free n =>
    refine iff_of_false (Domain.not_reaches_free_start (d := .music) (n := n) ?_ _) (by rintro ⟨⟩)
    simp only [Domain.Level.freeMinimum?, aim]
  | notes required minNotes =>
    rw [aim] at bounded
    rw [reaches_notes aim, silence]
    constructor
    · rintro ⟨played, few⟩
      have nothing : required = [] := List.eq_nil_iff_forall_not_mem.mpr fun n member =>
        Bool.false_ne_true (played n member)
      subst nothing
      cases minNotes with
      | none => rfl
      | some k =>
        have least : 1 ≤ k := bounded k rfl
        have most : k ≤ 0 := few k rfl
        omega
    · rintro ⟨⟩
      exact ⟨List.forall_mem_nil _, by rintro _ ⟨⟩⟩
  | sequence required =>
    rw [aim] at bounded
    obtain ⟨note, rest, rfl⟩ := List.exists_cons_of_ne_nil bounded
    rw [reaches_sequence aim, silence]
    exact iff_of_false Bool.false_ne_true (by rintro ⟨⟩)
  | repetition minNotes note =>
    rw [aim] at bounded
    have least : 1 ≤ minNotes := bounded
    have none : countNotes note [] = 0 := by cases note <;> rfl
    rw [reaches_repetition aim, silence, none]
    exact iff_of_false (by omega) (by rintro ⟨⟩)

end Music

/-- Zero does not reach a number that is not zero or below. -/
theorem Value.NotUpToZero.not_reached {v : Value} (h : v.NotUpToZero) :
    Comparison.ge.holds (compareNumbers? 0 v) = false := by
  cases v with
  | int n =>
    have positive : 0 < n := h
    have order : compareNumbers? 0 (.int n) = some (compare 0 n) := rfl
    rw [order, Int.compare_eq_lt.mpr positive]
    rfl
  | float x =>
    have order : compareNumbers? 0 (.float x) = compareIntFloat? 0 x := rfl
    have above : ¬x ≤ 0 := h
    have whole := eq_ofModel_pack x
    rw [order]
    rw [le_iff_unpack, unpack_zero] at above
    cases kind : x.toModel.unpack with
    | notANumber =>
      rw [kind] at whole
      subst whole
      rfl
    | infinity s =>
      rw [kind] at whole above
      subst whole
      cases s with
      | positive => rfl
      | negative => exact absurd rfl above
    | zero s =>
      rw [kind] at above
      exact absurd rfl above
    | finite s m e positive =>
      rw [kind] at above
      cases s with
      | negative => exact absurd rfl above
      | positive =>
        have more : 0 < ((m * twoTo e : Nat) : Int) :=
          Int.natCast_pos.mpr (Nat.mul_pos positive (twoTo_pos e))
        have exact : compareIntFloat? 0 x =
            some (compare (0 * (twoTo (-e) : Int)) ((m * twoTo e : Nat) : Int)) := by
          rw [compareIntFloat?, Binary.ofFloat?_of_unpack kind]
          rfl
        rw [exact, Int.zero_mul, Int.compare_eq_lt.mpr more]
        rfl
  | null | bool _ | text _ | list _ | tuple _ | dict _ | record _ => exact h.elim

namespace Sprite

theorem Level.not_tellSolved (l : Level) : l.findings.tellSolved = false := by
  unfold findings
  simp only [Findings.tellSolved_append, Findings.tellSolved_errorIf, Bool.or_false]
  cases l.goal with
  | action kind => exact Findings.tellSolved_errorIf _ _
  | position x y tolerance => exact Findings.tellSolved_errorIf _ _
  | rotation _ | scale _ _ | speech _ | free _ => rfl

/-- A valid place is given on one axis at least. -/
theorem Level.asks_of_valid {l : Level} (valid : l.findings.valid = true) {x y : Option Float}
    {tolerance : Value} (aim : l.goal = .position x y tolerance) : x ≠ none ∨ y ≠ none := by
  simp only [findings, aim, Findings.valid_append, Bool.and_eq_true] at valid
  have given := valid.1
  rw [Findings.valid_errorIf] at given
  cases x <;> cases y <;> simp_all

/-- The figure stands near the place that it should come to, or is near the size that it should
have. -/
def Level.StartsThere (l : Level) : Prop :=
  match l.goal with
  | .position x y tolerance => (∀ t, x = some t → Near tolerance l.lead.x t) ∧
      ∀ t, y = some t → Near tolerance l.lead.y t
  | .scale percent tolerance => Value.Comparison.le.holds
      (Value.compareNumbers? (.float (100.0 - percent).abs) tolerance) = true
  | _ => False

theorem Level.reaches_start_iff {l : Level} (valid : l.findings.valid = true)
    (bounded : l.goal.Bounded) (lead : l.lead.x.Plain ∧ l.lead.y.Plain) :
    Domain.sprite.reaches l (World.initial l) Domain.sprite.newLog = true ↔ l.StartsThere := by
  have numeric := World.Numeric.initial lead
  unfold StartsThere
  cases aim : l.goal with
  | free n =>
    refine iff_of_false (Domain.not_reaches_free_start (d := .sprite) (n := n) ?_ _) not_false
    simp only [Domain.Level.freeMinimum?, aim]
  | position x y tolerance =>
    rw [aim] at bounded
    have bound : tolerance.NotBelowZero := bounded
    rw [reaches_place aim bound.plain numeric, and_iff_right (asks_of_valid valid aim)]
    rfl
  | action kind =>
    rw [reaches_action aim]
    exact iff_of_false (by rintro ⟨_, ⟨⟩, _⟩) not_false
  | rotation degrees =>
    rw [aim] at bounded
    have bound : degrees.NotUpToZero := bounded
    rw [reaches_rotation aim bound.plain numeric]
    exact iff_of_false (Bool.eq_false_iff.mp bound.not_reached) not_false
  | scale percent tolerance =>
    rw [aim] at bounded
    rw [reaches_size aim bounded.2.plain numeric]
    constructor
    · rintro ⟨_, same, fits⟩
      exact Except.ok.inj same ▸ fits
    · exact fun fits => ⟨_, rfl, fits⟩
  | speech text =>
    rw [reaches_speech aim]
    exact iff_of_false (by rintro ⟨_, ⟨⟩, _⟩) not_false

end Sprite

namespace Pixel

theorem Level.not_tellSolved (l : Level) : l.findings.tellSolved = false := by
  unfold findings
  simp only [Findings.tellSolved_append, Findings.tellSolved_errorIf, Bool.false_or]
  cases l.goal with
  | free n => rfl
  | pixels cells colors =>
    dsimp only
    simp only [Findings.tellSolved_append]
    rw [Findings.tellSolved_join_map fun _ _ => Findings.tellSolved_errorIf _ _,
      Findings.tellSolved_warningIf_other (c := 'T') rfl (by decide), Bool.false_or, Bool.false_or]
    cases colors with
    | none => rfl
    | some names => exact Findings.tellSolved_errorIf _ _

theorem Level.not_reaches_start {l : Level} (bounded : l.goal.Bounded) {w : World}
    (begins : World.initial l = .ok w) :
    Domain.pixel.reaches l w Domain.pixel.newLog ≠ true := by
  cases aim : l.goal with
  | free n =>
    exact Domain.not_reaches_free_start (d := .pixel) (n := n)
      (by simp only [Domain.Level.freeMinimum?, aim]) _
  | pixels cells colors =>
    rw [aim] at bounded
    obtain ⟨c, rest, rfl⟩ := List.exists_cons_of_ne_nil bounded
    obtain ⟨color, _, same⟩ := bind_eq_ok.mp begins
    cases same
    rw [ne_eq, reaches_pixels aim]
    rintro ⟨painted, _⟩
    exact absurd (painted c List.mem_cons_self) (by simp [World.colorAt?])

end Pixel

namespace Console

theorem Level.not_reaches_start {l : Level} (bounded : l.goal.Bounded) :
    Domain.math.reaches l World.initial Domain.math.newLog ≠ true := by
  cases aim : l.goal with
  | free n =>
    exact Domain.not_reaches_free_start (d := .math) (n := n)
      (by simp only [Domain.Level.freeMinimum?, aim]) _
  | output expected =>
    rw [aim] at bounded
    obtain ⟨line, rest, rfl⟩ := List.exists_cons_of_ne_nil bounded
    rw [ne_eq, reaches_output aim]
    exact Bool.false_ne_true

end Console

namespace Domain.Level

/-- The level is solved as it stands, by a goal that the findings do not hold against the start. -/
def Overlooked : {d : Domain} → d.Level → Prop
  | .music, (l : Music.Level) => l.goal = .notes [] none
  | .sprite, (l : Sprite.Level) => l.StartsThere
  | .robot, _ | .building, _ | .sorting, _ | .combat, _ | .pixel, _ | .math, _ => False

theorem reaches_start_iff {document : Value} {d : Domain} {l : d.Level}
    (loads : loadLevel document = .ok ⟨d, l⟩) (valid : (d.validate l).valid = true) {w : d.World}
    (begins : d.initialWorld l = .ok w) : d.reaches l w d.newLog = true ↔
      (d.ownFindings l).tellSolved = true ∨ Overlooked l := by
  have bounded : GoalBounded l := loadLevel_goalBounded loads
  have own := Domain.ownFindings_valid valid
  cases d with
  | robot =>
    cases begins
    exact (Robot.Level.tellSolved_iff own).symm.trans (or_iff_left id).symm
  | sorting =>
    cases begins
    exact (Sorting.Level.tellSolved_iff bounded).symm.trans (or_iff_left id).symm
  | building =>
    cases begins
    have silent := Bool.eq_false_iff.mp (Building.Level.not_tellSolved l)
    exact iff_of_false (Building.Level.not_reaches_start own bounded) (not_or.mpr ⟨silent, id⟩)
  | combat =>
    cases begins
    have silent := Bool.eq_false_iff.mp (Combat.Level.not_tellSolved l)
    exact iff_of_false (Combat.Level.not_reaches_start l) (not_or.mpr ⟨silent, id⟩)
  | pixel =>
    have silent := Bool.eq_false_iff.mp (Pixel.Level.not_tellSolved l)
    exact iff_of_false (Pixel.Level.not_reaches_start bounded begins) (not_or.mpr ⟨silent, id⟩)
  | math =>
    cases begins
    exact iff_of_false (Console.Level.not_reaches_start bounded) (not_or.mpr ⟨nofun, id⟩)
  | music =>
    cases begins
    have silent := Bool.eq_false_iff.mp (Music.Level.not_tellSolved l)
    exact (Music.Level.reaches_start_iff bounded).trans (or_iff_right silent).symm
  | sprite =>
    cases begins
    have silent := Bool.eq_false_iff.mp (Sprite.Level.not_tellSolved l)
    have lead := Sprite.Level.lead_plain loads
    exact (Sprite.Level.reaches_start_iff own bounded lead).trans (or_iff_right silent).symm

theorem not_reportsSolved_of_overlooked {d : Domain} {l : d.Level} (h : Overlooked l) :
    ¬ReportsSolved l := by
  rw [ReportsSolved, Domain.tellSolved_validate]
  cases d with
  | music => exact Bool.eq_false_iff.mp (Music.Level.not_tellSolved l)
  | sprite => exact Bool.eq_false_iff.mp (Sprite.Level.not_tellSolved l)
  | robot | building | sorting | combat | pixel | math => exact False.elim h

/-- A valid level of which the findings say that it is solved is solved at the start. They say so of
all such levels, except of a melody that asks for nothing, and of a figure that stands where it
should or has the size that it should have. -/
theorem reports_solved_iff {document : Value} {d : Domain} {l : d.Level}
    (loads : loadLevel document = .ok ⟨d, l⟩) (valid : (d.validate l).valid = true) :
    (ReportsSolved l → SolvedAtStart l) ∧
      ((SolvedAtStart l → ReportsSolved l) ↔ ¬Overlooked l) := by
  obtain ⟨w, begins⟩ := Domain.exists_initialWorld valid
  have solved : SolvedAtStart l ↔ ReportsSolved l ∨ Overlooked l := by
    rw [ReportsSolved, Domain.tellSolved_validate, ← reaches_start_iff loads valid begins]
    refine ⟨fun ⟨w', begins', reached⟩ => ?_, fun reached => ⟨w, begins, reached⟩⟩
    obtain rfl := Except.ok.inj (begins.symm.trans begins')
    exact reached
  rw [solved]
  refine ⟨.inl, fun reported overlooked => ?_, fun looked => fun either => ?_⟩
  · exact not_reportsSolved_of_overlooked overlooked (reported (.inr overlooked))
  · exact either.resolve_right looked

/-- A shelf with one potion. -/
theorem reports_solved_iff_shelf :
    let document : Value :=
      .dict [("domain", "sorting"), ("id", 1), ("name", "Shelf"), ("potions", .list [3]),
        ("goal", .dict [("type", "sortedWithBudget")])]
    let l : Sorting.Level :=
      { header := { id := .number 1, name := "Shelf" }, potions := [3]
        goal := .sortedWithBudget .ascending none }
    loadLevel document = .ok ⟨.sorting, l⟩ ∧ (Domain.sorting.validate l).valid = true ∧
      ReportsSolved (d := .sorting) l ∧ SolvedAtStart (d := .sorting) l := by
  intro document l
  have loads : loadLevel document = .ok ⟨.sorting, l⟩ := rfl
  have valid : (Domain.sorting.validate l).valid = true := by decide +kernel
  have reported : ReportsSolved (d := .sorting) l := by
    unfold ReportsSolved
    decide +kernel
  exact ⟨loads, valid, reported, (reports_solved_iff loads valid).1 reported⟩

/-- A melody of no notes is complete before anything is played, and there is no warning. -/
theorem not_reports_solved_silence :
    let document : Value :=
      .dict [("domain", "music"), ("id", 1), ("name", "Any"),
        ("goal", .dict [("type", "notes")])]
    ∃ l : Music.Level, loadLevel document = .ok ⟨.music, l⟩ ∧
      (Domain.music.validate l).valid = true ∧ SolvedAtStart (d := .music) l ∧
      ¬ReportsSolved (d := .music) l := by
  intro document
  let l : Music.Level := { header := { id := .number 1, name := "Any" }, goal := .notes [] none }
  have loads : loadLevel document = .ok ⟨.music, l⟩ := rfl
  have valid : (Domain.music.validate l).valid = true := by decide +kernel
  have complete : Domain.music.reaches l Music.World.initial Domain.music.newLog = true :=
    (Music.reaches_notes rfl).mpr ⟨nofun, nofun⟩
  exact ⟨l, loads, valid, ⟨_, rfl, complete⟩,
    not_reportsSolved_of_overlooked (d := .music) (l := l) rfl⟩

end Domain.Level

end PuzzleWorlds
