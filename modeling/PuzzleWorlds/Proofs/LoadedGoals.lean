import PuzzleWorlds.Proofs.LoadedLevel

/-! What a goal is known to hold once its level has been loaded: the numbers that it asks for are
within their bounds, and what it lists is not empty. A bound on a float keeps out what is on the
wrong side of it, and so lets in what is no number. -/

namespace PuzzleWorlds

/-- A number that is not below zero; a float may be no number. -/
def Value.NotBelowZero : Value → Prop
  | .int n => 0 ≤ n
  | .float x => ¬x < Float.ofInt 0
  | _ => False

/-- A number that is not zero or below; a float may be no number. -/
def Value.NotUpToZero : Value → Prop
  | .int n => 0 < n
  | .float x => ¬x ≤ Float.ofInt 0
  | _ => False

namespace Decoder

theorem reads_nonEmpty {d : Decoder (List α)} : (nonEmpty d).Reads (· ≠ []) := by
  intro v l read
  obtain ⟨m, _, checked⟩ := Decoded.andThen_eq_ok.mp read
  split at checked
  next => cases checked
  next filled =>
    cases checked
    simpa using filled

/-- An optional value was left out, or was read. -/
theorem reads_optional {d : Decoder α} {P : α → Prop} (each : d.Reads P) :
    (optional d).Reads fun x => ∀ a, x = some a → P a := by
  intro v x read a same
  unfold optional at read
  split at read
  next =>
    cases read
    cases same
  next =>
    cases taken : d v with
    | bad is =>
      rw [taken] at read
      cases read
    | ok b =>
      rw [taken] at read
      cases read
      cases same
      exact each v a taken

end Decoder

theorem Fields.withDefault_none_reads {o : Fields} {name : String} {d : Decoder α} {P : α → Prop}
    {x : Option α} (each : d.Reads P)
    (h : o.withDefault name none (Decoder.optional d) = .ok x) : ∀ a, x = some a → P a :=
  Fields.withDefault_reads (P := fun x => ∀ a, x = some a → P a) (Decoder.reads_optional each)
    (by rintro a ⟨⟩) h

namespace Sprite.Level

theorem reads_floatAtLeast : (Decoder.float.floatAtLeast 0).Reads (¬· < Float.ofInt 0) := by
  intro v x read
  obtain ⟨y, _, checked⟩ := Decoded.andThen_eq_ok.mp read
  split at checked
  next => cases checked
  next high =>
    cases checked
    exact high

theorem reads_floatAbove : (Decoder.float.floatAbove 0).Reads (¬· ≤ Float.ofInt 0) := by
  intro v x read
  obtain ⟨y, _, checked⟩ := Decoded.andThen_eq_ok.mp read
  split at checked
  next => cases checked
  next high =>
    cases checked
    exact high

end Sprite.Level

def Building.Goal.Bounded : Building.Goal → Prop
  | .structureMatch g => ∀ n, g.minBlocks = some n → 1 ≤ n
  | .free _ => True

def Sorting.Goal.Bounded : Sorting.Goal → Prop
  | .sortedWithBudget _ maxSwaps => ∀ n, maxSwaps = some n → 0 ≤ n
  | .free _ => True

def Music.Goal.Bounded : Music.Goal → Prop
  | .notes _ minNotes => ∀ n, minNotes = some n → 1 ≤ n
  | .sequence required => required ≠ []
  | .repetition minNotes _ => 1 ≤ minNotes
  | .free _ => True

def Sprite.Goal.Bounded : Sprite.Goal → Prop
  | .position _ _ tolerance => tolerance.NotBelowZero
  | .rotation degrees => degrees.NotUpToZero
  | .scale percent tolerance => ¬percent ≤ Float.ofInt 0 ∧ tolerance.NotBelowZero
  | .action _ | .speech _ | .free _ => True

def Pixel.Goal.Bounded : Pixel.Goal → Prop
  | .pixels cells _ => cells ≠ []
  | .free _ => True

def Console.Goal.Bounded : Console.Goal → Prop
  | .output expected => expected ≠ []
  | .free _ => True

/-- What loading a level makes sure of in its goal. -/
def Domain.Level.GoalBounded : {d : Domain} → d.Level → Prop
  | .building, (l : Building.Level) => l.goal.Bounded
  | .sorting, (l : Sorting.Level) => l.goal.Bounded
  | .music, (l : Music.Level) => l.goal.Bounded
  | .sprite, (l : Sprite.Level) => l.goal.Bounded
  | .pixel, (l : Pixel.Level) => l.goal.Bounded
  | .math, (l : Console.Level) => l.goal.Bounded
  | .robot, _ | .combat, _ => True

section

theorem Building.Level.decodeGoal_bounded : decodeGoal.Reads Goal.Bounded := by
  refine Decoder.reads_tagged (List.forall_mem_cons.mpr ⟨fun o goal read => ?structureMatch,
    List.forall_mem_cons.mpr ⟨fun o goal read => ?free, by nofun⟩⟩)
  case structureMatch =>
    simp only [Decoded.seq_eq_ok, Decoded.map_eq_ok] at read
    obtain ⟨_, least, ⟨_, colors, ⟨_, exact, ⟨target, _, rfl⟩, _, rfl⟩, _, rfl⟩, asked, rfl⟩ := read
    have bounded := Fields.withDefault_none_reads (Decoder.reads_atLeast 1 _) asked
    exact bounded
  case free =>
    obtain ⟨n, _, rfl⟩ := Decoded.map_eq_ok.mp read
    trivial

theorem Sorting.Level.decodeGoal_bounded : decodeGoal.Reads Goal.Bounded := by
  refine Decoder.reads_tagged (List.forall_mem_cons.mpr ⟨fun o goal read => ?sorted,
    List.forall_mem_cons.mpr ⟨fun o goal read => ?free, by nofun⟩⟩)
  case sorted =>
    simp only [Decoded.seq_eq_ok, Decoded.map_eq_ok] at read
    obtain ⟨_, most, ⟨order, _, rfl⟩, asked, rfl⟩ := read
    have bounded := Fields.withDefault_none_reads (Decoder.reads_atLeast 0 _) asked
    exact bounded
  case free =>
    obtain ⟨n, _, rfl⟩ := Decoded.map_eq_ok.mp read
    trivial

theorem Music.Level.decodeGoal_bounded : decodeGoal.Reads Goal.Bounded := by
  refine Decoder.reads_tagged (List.forall_mem_cons.mpr ⟨fun o goal read => ?notes,
    List.forall_mem_cons.mpr ⟨fun o goal read => ?sequence,
    List.forall_mem_cons.mpr ⟨fun o goal read => ?repetition,
    List.forall_mem_cons.mpr ⟨fun o goal read => ?free, by nofun⟩⟩⟩⟩)
  case notes =>
    simp only [Decoded.seq_eq_ok, Decoded.map_eq_ok] at read
    obtain ⟨_, least, ⟨required, _, rfl⟩, asked, rfl⟩ := read
    have bounded := Fields.withDefault_none_reads (Decoder.reads_atLeast 1 _) asked
    exact bounded
  case sequence =>
    obtain ⟨required, asked, rfl⟩ := Decoded.map_eq_ok.mp read
    have filled := Fields.required_reads Decoder.reads_nonEmpty asked
    exact filled
  case repetition =>
    simp only [Decoded.seq_eq_ok, Decoded.map_eq_ok] at read
    obtain ⟨_, note, ⟨least, asked, rfl⟩, _, rfl⟩ := read
    have bounded := Fields.withDefault_reads (Decoder.reads_atLeast 1 _) (by decide) asked
    exact bounded
  case free =>
    obtain ⟨n, _, rfl⟩ := Decoded.map_eq_ok.mp read
    trivial

theorem Sprite.Level.decodeGoal_bounded : decodeGoal.Reads Goal.Bounded := by
  have tolerances : (measure (Decoder.float.floatAtLeast 0)).Reads Value.NotBelowZero :=
    reads_measure reads_floatAtLeast fun _ high => high
  have turns : (measure (Decoder.float.floatAbove 0)).Reads Value.NotUpToZero :=
    reads_measure reads_floatAbove fun _ high => high
  refine Decoder.reads_tagged (List.forall_mem_cons.mpr ⟨fun o goal read => ?position,
    List.forall_mem_cons.mpr ⟨fun o goal read => ?action,
    List.forall_mem_cons.mpr ⟨fun o goal read => ?rotation,
    List.forall_mem_cons.mpr ⟨fun o goal read => ?scale,
    List.forall_mem_cons.mpr ⟨fun o goal read => ?speech,
    List.forall_mem_cons.mpr ⟨fun o goal read => ?free, by nofun⟩⟩⟩⟩⟩⟩)
  case position =>
    simp only [Decoded.seq_eq_ok, Decoded.map_eq_ok] at read
    obtain ⟨_, tolerance, ⟨_, y, ⟨x, _, rfl⟩, _, rfl⟩, near, rfl⟩ := read
    have fifty : Value.NotBelowZero 50 := Int.natCast_nonneg 50
    have bounded := Fields.withDefault_reads tolerances fifty near
    exact bounded
  case rotation =>
    obtain ⟨degrees, turned, rfl⟩ := Decoded.map_eq_ok.mp read
    have round : Value.NotUpToZero 360 := Int.natCast_pos.mpr (Nat.succ_pos 359)
    have bounded := Fields.withDefault_reads turns round turned
    exact bounded
  case scale =>
    simp only [Decoded.seq_eq_ok, Decoded.map_eq_ok] at read
    obtain ⟨_, tolerance, ⟨percent, size, rfl⟩, near, rfl⟩ := read
    have none : Value.NotBelowZero 0 := Int.le_refl 0
    have above := Fields.required_reads reads_floatAbove size
    exact ⟨above, Fields.withDefault_reads tolerances none near⟩
  case action | speech | free =>
    obtain ⟨x, _, rfl⟩ := Decoded.map_eq_ok.mp read
    trivial

theorem Pixel.Level.decodeGoal_bounded : decodeGoal.Reads Goal.Bounded := by
  refine Decoder.reads_tagged (List.forall_mem_cons.mpr ⟨fun o goal read => ?pixels,
    List.forall_mem_cons.mpr ⟨fun o goal read => ?free, by nofun⟩⟩)
  case pixels =>
    simp only [Decoded.seq_eq_ok, Decoded.map_eq_ok] at read
    obtain ⟨_, colors, ⟨cells, asked, rfl⟩, _, rfl⟩ := read
    have filled := Fields.required_reads Decoder.reads_nonEmpty asked
    exact filled
  case free =>
    obtain ⟨n, _, rfl⟩ := Decoded.map_eq_ok.mp read
    trivial

theorem Console.Level.decodeGoal_bounded : decodeGoal.Reads Goal.Bounded := by
  refine Decoder.reads_tagged (List.forall_mem_cons.mpr ⟨fun o goal read => ?output,
    List.forall_mem_cons.mpr ⟨fun o goal read => ?free, by nofun⟩⟩)
  case output =>
    obtain ⟨expected, asked, rfl⟩ := Decoded.map_eq_ok.mp read
    have filled := Fields.required_reads Decoder.reads_nonEmpty asked
    exact filled
  case free =>
    obtain ⟨n, _, rfl⟩ := Decoded.map_eq_ok.mp read
    trivial

variable {o : Fields}

theorem Building.Level.decode_goalBounded {l : Building.Level} (h : decode o = .ok l) :
    l.goal.Bounded := by
  simp only [decode, Decoded.seq_eq_ok, Decoded.map_eq_ok] at h
  obtain ⟨_, goal, ⟨_, start, ⟨_, colors, ⟨_, size, ⟨header, _, rfl⟩, _, rfl⟩, _, rfl⟩, _, rfl⟩,
    aim, rfl⟩ := h
  have bounded := Fields.required_reads decodeGoal_bounded aim
  exact bounded

theorem Sorting.Level.decode_goalBounded {l : Sorting.Level} (h : decode o = .ok l) :
    l.goal.Bounded := by
  simp only [decode, Decoded.seq_eq_ok, Decoded.map_eq_ok] at h
  obtain ⟨_, goal, ⟨_, potions, ⟨header, _, rfl⟩, _, rfl⟩, aim, rfl⟩ := h
  have bounded := Fields.required_reads decodeGoal_bounded aim
  exact bounded

theorem Music.Level.decode_goalBounded {l : Music.Level} (h : decode o = .ok l) :
    l.goal.Bounded := by
  simp only [decode, Decoded.seq_eq_ok, Decoded.map_eq_ok] at h
  obtain ⟨_, goal, ⟨header, _, rfl⟩, aim, rfl⟩ := h
  have bounded := Fields.required_reads decodeGoal_bounded aim
  exact bounded

theorem Sprite.Level.decode_goalBounded {l : Sprite.Level} (h : decode o = .ok l) :
    l.goal.Bounded := by
  simp only [decode, Decoded.seq_eq_ok, Decoded.map_eq_ok] at h
  obtain ⟨_, goal, ⟨_, figures, ⟨header, _, rfl⟩, _, rfl⟩, aim, rfl⟩ := h
  have bounded := Fields.required_reads decodeGoal_bounded aim
  exact bounded

theorem Pixel.Level.decode_goalBounded {l : Pixel.Level} (h : decode o = .ok l) :
    l.goal.Bounded := by
  simp only [decode, Decoded.seq_eq_ok, Decoded.map_eq_ok] at h
  obtain ⟨_, goal, ⟨_, color, ⟨_, size, ⟨header, _, rfl⟩, _, rfl⟩, _, rfl⟩, aim, rfl⟩ := h
  have bounded := Fields.required_reads decodeGoal_bounded aim
  exact bounded

theorem Console.Level.decode_goalBounded {l : Console.Level} (h : decode o = .ok l) :
    l.goal.Bounded := by
  simp only [decode, Decoded.seq_eq_ok, Decoded.map_eq_ok] at h
  obtain ⟨_, goal, ⟨header, _, rfl⟩, aim, rfl⟩ := h
  have bounded := Fields.required_reads decodeGoal_bounded aim
  exact bounded

end

theorem Domain.decodeLevel_goalBounded {d : Domain} {o : Fields} {l : d.Level}
    (h : d.decodeLevel o = .ok l) : Domain.Level.GoalBounded l := by
  cases d with
  | robot | combat => trivial
  | building => exact Building.Level.decode_goalBounded h
  | sorting => exact Sorting.Level.decode_goalBounded h
  | music => exact Music.Level.decode_goalBounded h
  | sprite => exact Sprite.Level.decode_goalBounded h
  | pixel => exact Pixel.Level.decode_goalBounded h
  | math => exact Console.Level.decode_goalBounded h

/-- The goal of a level that loads is within its bounds. -/
theorem loadLevel_goalBounded {document : Value} {x : AnyLevel}
    (h : loadLevel document = .ok x) : Domain.Level.GoalBounded x.level := by
  obtain ⟨o, decoded⟩ := exists_decodeLevel_of_loadLevel h
  exact Domain.decodeLevel_goalBounded decoded

end PuzzleWorlds
