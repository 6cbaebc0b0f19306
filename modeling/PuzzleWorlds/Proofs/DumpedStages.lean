import PuzzleWorlds.Proofs.FloatProduct
import PuzzleWorlds.Proofs.RereadFields

/-! Stages that are dumped and loaded again. A measure is a float once a document has given it, and
a whole number where it was filled in. A dump writes the float nearest to it, so what comes back is
equal to the stage as numbers are, and no more than that. -/

namespace PuzzleWorlds

theorem beq_self_of_isFinite {x : Float} (finite : x.isFinite = true) : (x == x) = true := by
  change (x.toModel.unpack.compare x.toModel.unpack == some .eq) = true
  rw [unpack_compare_self (isNaN_of_isFinite finite)]
  rfl

namespace Value

/-- Whether the value is finite if it is a float. -/
def isFinite : Value → Bool
  | float x => x.isFinite
  | _ => true

theorem asMeasure_float {x : Float} (finite : x.isFinite = true) :
    (float x).asMeasure = float x := if_pos finite

theorem float_same_self {x : Float} (finite : x.isFinite = true) :
    (float x == float x) = true := by
  have incomparable : ¬x < x := by
    change ¬decide (x.toModel < x.toModel) = true
    rw [decide_eq_true_iff]
    change ¬(x.toModel.unpack.compare x.toModel.unpack == some .lt) = true
    rw [unpack_compare_self (isNaN_of_isFinite finite)]
    nofun
  have equal : compareNumbers? (float x) (float x) = some .eq :=
    (if_neg incomparable).trans (if_pos (beq_self_of_isFinite finite))
  change (compareNumbers? (float x) (float x) == some .eq) = true
  rw [equal]
  rfl

end Value

namespace Sprite

namespace Figure

def isFinite (f : Figure) : Bool := f.x.isFinite && f.y.isFinite

/-- The figure with its place as it is read from a dump. -/
def measured (f : Figure) : Figure := { f with x := f.x.asMeasure, y := f.y.asMeasure }

instance : BEq Figure where
  beq f g := f.id == g.id && f.emoji == g.emoji && f.x == g.x && f.y == g.y

end Figure

namespace Goal

def isFinite : Goal → Bool
  | .position x y tolerance => x.all Float.isFinite && y.all Float.isFinite && tolerance.isFinite
  | .rotation degrees => degrees.isFinite
  | .scale percent tolerance => percent.isFinite && tolerance.isFinite
  | .action _ | .speech _ | .free _ => true

def measured : Goal → Goal
  | .position x y tolerance => .position x y tolerance.asMeasure
  | .rotation degrees => .rotation degrees.asMeasure
  | .scale percent tolerance => .scale percent tolerance.asMeasure
  | g => g

instance : BEq Goal where
  beq
    | .position x y tolerance, .position x' y' tolerance' =>
      x == x' && y == y' && tolerance == tolerance'
    | .action kind, .action kind' => kind == kind'
    | .rotation degrees, .rotation degrees' => degrees == degrees'
    | .scale percent tolerance, .scale percent' tolerance' =>
      percent == percent' && tolerance == tolerance'
    | .speech text, .speech text' => text == text'
    | .free n, .free n' => n == n'
    | _, _ => false

end Goal

namespace Level

/-- Whether every measure of the stage is finite. -/
def isFinite (l : Level) : Bool := l.figures.all Figure.isFinite && l.goal.isFinite

/-- The stage as it is read from a dump. -/
def measured (l : Level) : Level :=
  { l with lead := l.lead.measured, others := l.others.map Figure.measured
           goal := l.goal.measured }

instance : BEq Level where
  beq l m := l.header == m.header && l.figures == m.figures && l.goal == m.goal

/-- What is written of a finite measure is read as a float, which is the same number. -/
def Measured (d : Decoder Float) (v : Value) : Prop :=
  v.isFinite = true → measure d v.asMeasure = .ok v.asMeasure ∧ (v.asMeasure == v) = true

theorem measured_of_float {d : Decoder Float} {v : Value} {x : Float}
    (written : v.asMeasure = .float x) (read : d (.float x) = .ok x)
    (same : (Value.float x == v) = true) : Measured d v := by
  intro _
  rw [written]
  exact ⟨by rw [measure, read]; rfl, same⟩

theorem measure_measured {d : Decoder Float} (again : d.Rereads .float) :
    (measure d).Reads (Measured d) := by
  intro v a read finite
  cases taken : d v with
  | bad is =>
    rw [measure, taken] at read
    cases read
  | ok x =>
    rw [measure, taken] at read
    cases read
    exact measured_of_float (Value.asMeasure_float finite) (again v x taken)
      (Value.float_same_self finite) finite

theorem float_rereads : Decoder.float.Rereads .float := fun _ _ _ => rfl

theorem floatAtLeast_ok {least : Int} {x : Float} (high : ¬x < Float.ofInt least) :
    Decoder.float.floatAtLeast least (.float x) = .ok x := if_neg high

theorem floatAtLeast_rereads (least : Int) :
    (Decoder.float.floatAtLeast least).Rereads .float := by
  intro v x read
  obtain ⟨y, taken, checked⟩ := Decoded.andThen_eq_ok.mp read
  split at checked
  next => cases checked
  next high =>
    cases checked
    exact floatAtLeast_ok high

theorem floatAbove_ok {bound : Int} {x : Float} (high : ¬x ≤ Float.ofInt bound) :
    Decoder.float.floatAbove bound (.float x) = .ok x := if_neg high

theorem floatAbove_rereads (bound : Int) : (Decoder.float.floatAbove bound).Rereads .float := by
  intro v x read
  obtain ⟨y, taken, checked⟩ := Decoded.andThen_eq_ok.mp read
  split at checked
  next => cases checked
  next high =>
    cases checked
    exact floatAbove_ok high

theorem decodeFigure_measured : decodeFigure.Reads fun f => f.isFinite = true →
    decodeFigure (dumpFigure f) = .ok f.measured ∧ (f.measured == f) = true := by
  have zero : Measured Decoder.float 0 :=
    measured_of_float (x := Float.ofInt 0) rfl rfl (by decide +kernel)
  refine Decoder.reads_object fun o f read finite => ?_
  simp only [Decoded.seq_eq_ok, Decoded.map_eq_ok] at read
  obtain ⟨_, y, ⟨_, x, ⟨_, emoji, ⟨id, known, rfl⟩, drawn, rfl⟩, across, rfl⟩, down, rfl⟩ := read
  obtain ⟨finite_x, finite_y⟩ := Bool.and_eq_true_iff.mp finite
  have place := measure_measured float_rereads
  obtain ⟨read_x, same_x⟩ := Fields.withDefault_reads place zero across finite_x
  obtain ⟨read_y, same_y⟩ := Fields.withDefault_reads place zero down finite_y
  refine ⟨Decoded.seq_ok (Decoded.seq_ok (Decoded.seq_ok (Decoded.map_ok
    (Fields.required_again Decoder.text_rereads known rfl))
    (Fields.withDefault_again Decoder.text_rereads rfl drawn rfl))
    (Fields.withDefault_ok rfl read_x)) (Fields.withDefault_ok rfl read_y), ?_⟩
  change (id == id && emoji == emoji && x.asMeasure == x && y.asMeasure == y) = true
  rw [same_x, same_y, beq_self_eq_true, beq_self_eq_true]
  rfl

theorem decodeFigures_measured : decodeFigures.Reads fun fs => (fs.1 :: fs.2).all Figure.isFinite →
    decodeFigures (.list ((fs.1 :: fs.2).map dumpFigure)) =
      .ok (fs.1.measured, fs.2.map Figure.measured) ∧
    ((fs.1 :: fs.2).map Figure.measured == fs.1 :: fs.2) = true := by
  intro v fs read finite
  obtain ⟨l, listed, parted⟩ := Decoded.andThen_eq_ok.mp read
  match l, parted with
  | lead :: others, rfl =>
    have each : ∀ f ∈ lead :: others, decodeFigure (dumpFigure f) = .ok f.measured ∧
        (f.measured == f) = true := fun f member =>
      Decoder.reads_list decodeFigure_measured v _ listed f member
        (List.all_eq_true.mp finite f member)
    have again : Decoder.list decodeFigure (.list ((lead :: others).map dumpFigure)) =
        .ok ((lead :: others).map Figure.measured) :=
      Decoder.items_map (fun f member => (each f member).1) 0
    refine ⟨Decoded.andThen_eq_ok.mpr ⟨_, again, rfl⟩, ?_⟩
    have same : ∀ fs : List Figure, (∀ f ∈ fs, (f.measured == f) = true) →
        (fs.map Figure.measured == fs) = true := by
      intro fs all
      induction fs with
      | nil => rfl
      | cons f fs ih =>
        obtain ⟨here, others⟩ := List.forall_mem_cons.mp all
        exact Bool.and_eq_true_iff.mpr ⟨here, ih others⟩
    exact same _ fun f member => (each f member).2

/-- A place that is asked for on one axis, or not. -/
theorem optionalFloat_again {x : Option Float} (finite : x.all Float.isFinite = true) :
    Decoder.optional Decoder.float (dumpOptional x) = .ok x ∧ (x == x) = true := by
  cases x with
  | none => exact ⟨rfl, rfl⟩
  | some x =>
    have written : dumpOptional (some x) = .float x := if_pos finite
    rw [written]
    exact ⟨rfl, beq_self_of_isFinite finite⟩

theorem decodeGoal_measured : decodeGoal.Reads fun g => g.isFinite = true →
    decodeGoal (dumpGoal g) = .ok g.measured ∧ (g.measured == g) = true := by
  have tolerances := measure_measured (floatAtLeast_rereads 0)
  refine Decoder.reads_tagged (List.forall_mem_cons.mpr ⟨fun o goal read => ?position,
    List.forall_mem_cons.mpr ⟨fun o goal read => ?action,
    List.forall_mem_cons.mpr ⟨fun o goal read => ?rotation,
    List.forall_mem_cons.mpr ⟨fun o goal read => ?scale,
    List.forall_mem_cons.mpr ⟨fun o goal read => ?speech,
    List.forall_mem_cons.mpr ⟨fun o goal read => ?free, by nofun⟩⟩⟩⟩⟩⟩)
  case position =>
    simp only [Decoded.seq_eq_ok, Decoded.map_eq_ok] at read
    obtain ⟨_, tolerance, ⟨_, y, ⟨x, across, rfl⟩, down, rfl⟩, near, rfl⟩ := read
    intro finite
    simp only [Goal.isFinite, Bool.and_eq_true] at finite
    obtain ⟨⟨finite_x, finite_y⟩, finite_t⟩ := finite
    obtain ⟨read_x, same_x⟩ := optionalFloat_again finite_x
    obtain ⟨read_y, same_y⟩ := optionalFloat_again finite_y
    have fifty : Measured (Decoder.float.floatAtLeast 0) 50 :=
      measured_of_float (x := Float.ofInt 50) rfl (floatAtLeast_ok (by decide +kernel))
        (by decide +kernel)
    obtain ⟨read_t, same_t⟩ := Fields.withDefault_reads tolerances fifty near finite_t
    refine ⟨Decoder.tagged_ok rfl rfl (Decoded.seq_ok (Decoded.seq_ok (Decoded.map_ok
      (Fields.withDefault_ok rfl read_x)) (Fields.withDefault_ok rfl read_y))
      (Fields.withDefault_ok rfl read_t)), ?_⟩
    change (x == x && y == y && tolerance.asMeasure == tolerance) = true
    rw [same_x, same_y, same_t]
    rfl
  case action =>
    obtain ⟨kind, asked, rfl⟩ := Decoded.map_eq_ok.mp read
    exact fun _ => ⟨Decoder.tagged_ok rfl rfl (Decoded.map_ok
      (Fields.required_again Decoder.text_rereads asked rfl)), beq_self_eq_true kind⟩
  case rotation =>
    obtain ⟨degrees, turned, rfl⟩ := Decoded.map_eq_ok.mp read
    intro finite
    have turn : Measured (Decoder.float.floatAbove 0) 360 :=
      measured_of_float (x := Float.ofInt 360) rfl (floatAbove_ok (by decide +kernel))
        (by decide +kernel)
    obtain ⟨read_d, same_d⟩ :=
      Fields.withDefault_reads (measure_measured (floatAbove_rereads 0)) turn turned finite
    exact ⟨Decoder.tagged_ok rfl rfl (Decoded.map_ok (Fields.withDefault_ok rfl read_d)), same_d⟩
  case scale =>
    simp only [Decoded.seq_eq_ok, Decoded.map_eq_ok] at read
    obtain ⟨_, tolerance, ⟨percent, size, rfl⟩, near, rfl⟩ := read
    intro finite
    obtain ⟨finite_p, finite_t⟩ := Bool.and_eq_true_iff.mp finite
    have none : Measured (Decoder.float.floatAtLeast 0) 0 :=
      measured_of_float (x := Float.ofInt 0) rfl (floatAtLeast_ok (by decide +kernel))
        (by decide +kernel)
    obtain ⟨read_t, same_t⟩ := Fields.withDefault_reads tolerances none near finite_t
    have written : Value.ofMeasure percent = .float percent := if_pos finite_p
    refine ⟨Decoder.tagged_ok rfl rfl (Decoded.seq_ok (Decoded.map_ok
      (Fields.required_again (floatAbove_rereads 0) size (by rw [← written]; rfl)))
      (Fields.withDefault_ok rfl read_t)), ?_⟩
    change (percent == percent && tolerance.asMeasure == tolerance) = true
    rw [beq_self_of_isFinite finite_p, same_t]
    rfl
  case speech =>
    obtain ⟨text, said, rfl⟩ := Decoded.map_eq_ok.mp read
    exact fun _ => ⟨Decoder.tagged_ok rfl rfl (Decoded.map_ok
      (Fields.withDefault_again Decoder.text_rereads.optionalText rfl said rfl)),
      beq_self_eq_true text⟩
  case free =>
    obtain ⟨n, asked, rfl⟩ := Decoded.map_eq_ok.mp read
    exact fun _ => ⟨Decoder.tagged_ok rfl rfl (Decoded.map_ok (decodeFreeGoal_again asked rfl)),
      beq_self_eq_true n⟩

theorem decode_again {o : Fields} {l : Level} (read : decode o = .ok l) (finite : l.isFinite) :
    decode { entries := l.dump, whole := .dict l.dump } = .ok l.measured ∧
      (l.measured == l) = true := by
  simp only [decode, Decoded.seq_eq_ok, Decoded.map_eq_ok] at read
  obtain ⟨_, goal, ⟨_, figures, ⟨header, headed, rfl⟩, cast, rfl⟩, aim, rfl⟩ := read
  obtain ⟨finite_fs, finite_g⟩ := Bool.and_eq_true_iff.mp finite
  obtain ⟨read_fs, same_fs⟩ := Fields.required_reads decodeFigures_measured cast finite_fs
  obtain ⟨read_g, same_g⟩ := Fields.required_reads decodeGoal_measured aim finite_g
  refine ⟨Decoded.seq_ok (Decoded.seq_ok (Decoded.map_ok (LevelHeader.decode_again headed rfl))
    (Fields.required_ok rfl read_fs)) (Fields.required_ok rfl read_g), ?_⟩
  have same_h : (header == header) = true := beq_self_eq_true header
  exact Bool.and_eq_true_iff.mpr ⟨Bool.and_eq_true_iff.mpr ⟨same_h, same_fs⟩, same_g⟩

end Level

end Sprite

end PuzzleWorlds
