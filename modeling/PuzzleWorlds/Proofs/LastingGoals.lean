import PuzzleWorlds.Proofs.ReachedGoals
import PuzzleWorlds.Proofs.UnjudgedGoals

/-! Goals that stay reached. Some goals ask for what is to be done, and not for how things have to
stand in the end: notes, printed lines, painted cells, actions. What was done is not undone by what
a replay does later, since it only adds to the log, to the lines of a console and to the painted
cells of a canvas. -/

namespace PuzzleWorlds

theorem Value.length_eq_of_sameItems {l m : List Value} (same : sameItems l m = true) :
    l.length = m.length := by
  induction l generalizing m with
  | nil =>
    cases m with
    | nil => rfl
    | cons b m => cases same
  | cons a l ih =>
    cases m with
    | nil => cases same
    | cons b m =>
      rw [sameItems, Bool.and_eq_true] at same
      exact congrArg (· + 1) (ih same.2)

/-- A list that begins as wanted still does when more has come to its end. -/
theorem Value.begins_of_prefix {l m wanted : List Value} (longer : l <+: m)
    (same : sameItems (l.take wanted.length) wanted = true) :
    sameItems (m.take wanted.length) wanted = true := by
  obtain ⟨more, rfl⟩ := longer
  have enough : wanted.length ≤ l.length := by
    have taken := length_eq_of_sameItems same
    rw [List.length_take] at taken
    omega
  rwa [List.take_append_of_le_length enough]

namespace ActionLog

variable {log log' : ActionLog}

theorem prefix_record (log : ActionLog) (a : Action) : log.entries <+: (log.record a).entries := by
  rw [entries_record]
  split
  next => exact List.prefix_append _ _
  next => exact List.prefix_rfl

variable (longer : log.entries <+: log'.entries)
include longer

theorem prefix_ofKind (k : ActionKind) : log.ofKind k <+: log'.ofKind k :=
  longer.filter fun a : Action => a.kind == k

theorem prefix_notes : log.notes <+: log'.notes :=
  (prefix_ofKind longer .playNote).map fun a : Action => a.payload.note

theorem size_le : log.size ≤ log'.size := longer.length_le

end ActionLog

namespace Domain

variable {d : Domain}

/-- A replay keeps what the log holds. -/
theorem prefix_of_replay {w v : d.World} {log log' : ActionLog} {t : Trace}
    (replayed : d.replay w log t = .ok (v, log')) : log.entries <+: log'.entries := by
  induction t generalizing w log with
  | nil =>
    cases replayed
    exact List.prefix_rfl
  | cons a t ih =>
    obtain ⟨r, _, rest⟩ := replay_cons_eq_ok.mp replayed
    cases r with
    | changed u changes => exact (log.prefix_record a).trans (ih rest)
    | refused why => exact ih rest

/-- Free play lasts in every world. -/
theorem reaches_free_of_prefix {l : d.Level} {n : Int} (free : Level.freeMinimum? l = some n)
    {w w' : d.World} {log log' : ActionLog} (longer : log.entries <+: log'.entries)
    (reached : d.reaches l w log = true) : d.reaches l w' log' = true := by
  have enough := checkFree_success.mp ((reaches_free free).mp reached)
  have more := ActionLog.size_le longer
  exact (reaches_free free).mpr (checkFree_success.mpr (by omega))

end Domain

namespace Music

/-- Only the notes in the log count, of which there are never fewer. -/
theorem reaches_of_prefix {l : Level} {w w' : World} {log log' : ActionLog}
    (longer : log.entries <+: log'.entries) (reached : Domain.reaches .music l w log = true) :
    Domain.reaches .music l w' log' = true := by
  have notes := ActionLog.prefix_notes longer
  cases aim : l.goal with
  | free n =>
    refine Domain.reaches_free_of_prefix (d := .music) (n := n) ?_ longer reached
    simp only [Domain.Level.freeMinimum?, aim]
  | sequence required =>
    rw [reaches_sequence aim] at reached ⊢
    rw [← List.length_map Value.text] at reached ⊢
    exact Value.begins_of_prefix notes reached
  | notes required minNotes =>
    rw [reaches_notes aim] at reached ⊢
    obtain ⟨all, enough⟩ := reached
    refine ⟨fun n asked => ?_, fun k given => ?_⟩
    · obtain ⟨p, played, same⟩ := List.any_eq_true.mp (all n asked)
      exact List.any_eq_true.mpr ⟨p, notes.subset played, same⟩
    · exact (enough k given).trans (Int.ofNat_le.mpr notes.length_le)
  | repetition minNotes note =>
    rw [reaches_repetition aim] at reached ⊢
    have more : countNotes note log.notes ≤ countNotes note log'.notes := by
      cases note with
      | none => exact notes.length_le
      | some n => exact notes.sublist.countP_le
    exact reached.trans (Int.ofNat_le.mpr more)

end Music

namespace Console

/-- A console keeps the lines that it shows. -/
theorem World.prefix_output {w v : World} {log log' : ActionLog} {t : Trace}
    (replayed : Domain.replay .math w log t = .ok (v, log')) : w.output <+: v.output := by
  refine Domain.replay_preserves (d := .math) (I := fun u : World => w.output <+: u.output)
    (P := fun _ => True) ?_ (fun _ _ => trivial) List.prefix_rfl replayed
  intro u u' a changes kept _ reaction
  replace reaction : World.react u a = .ok (.changed u' changes) := reaction
  unfold World.react at reaction
  split at reaction
  next =>
    cases reaction
    exact kept.trans (List.prefix_append _ _)
  next => cases reaction

theorem reaches_of_prefix {l : Level} {w w' : World} {log log' : ActionLog}
    (longer : log.entries <+: log'.entries) (lines : w.output <+: w'.output)
    (reached : Domain.reaches .math l w log = true) :
    Domain.reaches .math l w' log' = true := by
  cases aim : l.goal with
  | free n =>
    refine Domain.reaches_free_of_prefix (d := .math) (n := n) ?_ longer reached
    simp only [Domain.Level.freeMinimum?, aim]
  | output expected =>
    rw [reaches_output aim] at reached ⊢
    rw [← List.length_map Value.text] at reached ⊢
    exact Value.begins_of_prefix lines reached

end Console

namespace Pixel

/-- The goal asks for cells to be painted, in whatever color. -/
def Goal.Colorless : Goal → Prop
  | .pixels _ colors => colors.getD [] = []
  | .free _ => True

namespace World

/-- A painted cell keeps a color when another one is painted, or the same one again. -/
theorem isSome_paint {cell other : List Value} {color : Value}
    {pixels : List (List Value × Value)}
    (painted : (pixels.find? fun p => Value.sameItems p.1 cell).isSome = true) :
    ((paint other color pixels).find? fun p => Value.sameItems p.1 cell).isSome = true := by
  rw [List.find?_isSome] at painted ⊢
  obtain ⟨p, member, same⟩ := painted
  induction pixels with
  | nil => cases member
  | cons q rest ih =>
    rw [paint]
    rcases List.mem_cons.mp member with rfl | later
    · split
      next => exact ⟨(p.1, color), List.mem_cons_self, same⟩
      next => exact ⟨p, List.mem_cons_self, same⟩
    · split
      next => exact ⟨p, List.mem_cons_of_mem _ later, same⟩
      next =>
        obtain ⟨p', member', same'⟩ := ih later
        exact ⟨p', List.mem_cons_of_mem _ member', same'⟩

/-- What is drawn is one cell, in one color. -/
theorem draws_of_draw {w v : World} {p : Payload} {changes : List String}
    (drawn : w.draw p = .ok (.changed v changes)) :
    ∃ cell color, v.pixels = paint cell color w.pixels := by
  obtain ⟨parts, _, drawn⟩ := bind_eq_ok.mp drawn
  obtain ⟨pair, _, drawn⟩ := bind_eq_ok.mp drawn
  split at drawn
  next x y _ =>
    obtain ⟨across, _, drawn⟩ := bind_eq_ok.mp drawn
    cases across with
    | false => cases drawn
    | true =>
      obtain ⟨down, _, drawn⟩ := bind_eq_ok.mp drawn
      cases down with
      | false => cases drawn
      | true =>
        cases drawn
        exact ⟨_, _, rfl⟩
  next => cases drawn

/-- A canvas keeps the cells that are painted. -/
theorem isSome_colorAt?_of_replay {w v : World} {log log' : ActionLog} {t : Trace}
    (replayed : Domain.replay .pixel w log t = .ok (v, log')) {cell : List Value}
    (painted : (w.colorAt? cell).isSome = true) : (v.colorAt? cell).isSome = true := by
  refine Domain.replay_preserves (d := .pixel)
    (I := fun u : World => (u.colorAt? cell).isSome = true) (P := fun _ => True) ?_
    (fun _ _ => trivial) painted replayed
  intro u u' a changes kept _ reaction
  replace reaction : World.react u a = .ok (.changed u' changes) := reaction
  by_cases drawing : a.kind = .drawPixel
  · simp only [react, drawing] at reaction
    obtain ⟨other, color, same⟩ := draws_of_draw reaction
    simp only [colorAt?, Option.isSome_map, same] at kept ⊢
    exact isSome_paint kept
  · simp only [colorAt?, react_pixels drawing reaction] at kept ⊢
    exact kept

end World

theorem reaches_of_painted {l : Level} (colorless : l.goal.Colorless) {w w' : World}
    {log log' : ActionLog} (longer : log.entries <+: log'.entries)
    (painted : ∀ cell, (w.colorAt? cell).isSome = true → (w'.colorAt? cell).isSome = true)
    (reached : Domain.reaches .pixel l w log = true) :
    Domain.reaches .pixel l w' log' = true := by
  cases aim : l.goal with
  | free n =>
    refine Domain.reaches_free_of_prefix (d := .pixel) (n := n) ?_ longer reached
    simp only [Domain.Level.freeMinimum?, aim]
  | pixels cells colors =>
    rw [reaches_pixels aim] at reached ⊢
    refine ⟨fun c listed => painted _ (reached.1 c listed), fun names given => ?_⟩
    rw [aim, given] at colorless
    obtain rfl : names = [] := colorless
    simp

end Pixel

namespace Sprite

/-- The log alone tells whether the goal is reached. -/
def Goal.Logged : Goal → Prop
  | .action _ | .speech _ | .free _ => True
  | .position .. | .rotation _ | .scale .. => False

theorem reaches_of_prefix {l : Level} (logged : l.goal.Logged) {w w' : World}
    {log log' : ActionLog} (longer : log.entries <+: log'.entries)
    (reached : Domain.reaches .sprite l w log = true) :
    Domain.reaches .sprite l w' log' = true := by
  cases aim : l.goal with
  | free n =>
    refine Domain.reaches_free_of_prefix (d := .sprite) (n := n) ?_ longer reached
    simp only [Domain.Level.freeMinimum?, aim]
  | action kind =>
    rw [reaches_action aim] at reached ⊢
    obtain ⟨a, done, same⟩ := reached
    exact ⟨a, longer.subset done, same⟩
  | speech text =>
    rw [reaches_speech aim] at reached ⊢
    obtain ⟨a, said, same⟩ := reached
    exact ⟨a, (ActionLog.prefix_ofKind longer .say).subset said, same⟩
  | position | rotation | scale =>
    rw [aim] at logged
    exact logged.elim

end Sprite

namespace Domain

/-- The goal asks for what is to be done. -/
def Level.Lasting : {d : Domain} → d.Level → Prop
  | .music, _ | .math, _ => True
  | .pixel, (l : Pixel.Level) => l.goal.Colorless
  | .sprite, (l : Sprite.Level) => l.goal.Logged
  | .robot, l | .building, l | .sorting, l | .combat, l => (Level.freeMinimum? l).isSome = true

/-- Once such a goal is reached, whatever is replayed after it leaves it reached. -/
theorem reaches_append {d : Domain} {l : d.Level} (lasting : Level.Lasting l) {w v v' : d.World}
    {log log' : ActionLog} {t u : Trace} (first : d.replay w d.newLog t = .ok (v, log))
    (whole : d.replay w d.newLog (t ++ u) = .ok (v', log')) (reached : d.reaches l v log = true) :
    d.reaches l v' log' = true := by
  have later : d.replay v log u = .ok (v', log') := by
    rw [replay_append, first] at whole
    exact whole
  have longer := prefix_of_replay later
  cases d with
  | music => exact Music.reaches_of_prefix longer reached
  | math => exact Console.reaches_of_prefix longer (Console.World.prefix_output later) reached
  | pixel =>
    exact Pixel.reaches_of_painted lasting longer
      (fun _ => Pixel.World.isSome_colorAt?_of_replay later) reached
  | sprite => exact Sprite.reaches_of_prefix lasting longer reached
  | robot | building | sorting | combat =>
    obtain ⟨n, free⟩ := Option.isSome_iff_exists.mp lasting
    exact reaches_free_of_prefix free longer reached

/-- A picture of two cells, and then its first cell once more, in another color. -/
theorem reaches_append_repainted :
    ∃ (l : Pixel.Level) (r : Registry .pixel) (w v v' : Pixel.World) (log log' : ActionLog)
      (t u : Trace), l.goal = .pixels [(0, 0), (1, 0)] none ∧
      Registry.create (d := .pixel) l = .ok r ∧ initialWorld .pixel l = .ok w ∧
      t = (r.after [⟨"draw", []⟩, ⟨"move_right", []⟩, ⟨"draw", []⟩]).trace ∧
      u = (r.after [⟨"set_color", ["biru"]⟩, ⟨"draw", []⟩]).trace ∧
      replay .pixel w (newLog .pixel) t = .ok (v, log) ∧
      replay .pixel w (newLog .pixel) (t ++ u) = .ok (v', log') ∧
      reaches .pixel l v log = true ∧ reaches .pixel l v' log' = true := by
  obtain ⟨log, first⟩ : ∃ log, replay .pixel { size := 2 } (newLog .pixel)
      [.drawPixel (.tuple [0, 0]) "#ff0000", .move 1 0 0, .drawPixel (.tuple [1, 0]) "#ff0000"] =
        .ok ({ size := 2, cursor := (1, 0), pixels := [([0, 0], "#ff0000"), ([1, 0], "#ff0000")] },
          log) := ⟨_, rfl⟩
  obtain ⟨log', whole⟩ : ∃ log, replay .pixel { size := 2 } (newLog .pixel)
      ([.drawPixel (.tuple [0, 0]) "#ff0000", .move 1 0 0, .drawPixel (.tuple [1, 0]) "#ff0000"] ++
        [.setColor "#0000ff", .drawPixel (.tuple [0, 0]) "#0000ff"]) =
        .ok ({ size := 2, cursor := (1, 0), color := "#0000ff"
               pixels := [([0, 0], "#0000ff"), ([1, 0], "#ff0000")] }, log) := ⟨_, rfl⟩
  have reached {l : Pixel.Level} (aim : l.goal = .pixels [(0, 0), (1, 0)] none) :
      reaches .pixel l
        { size := 2, cursor := (1, 0), pixels := [([0, 0], "#ff0000"), ([1, 0], "#ff0000")] } log =
          true := by
    refine (Pixel.reaches_pixels aim).mpr ⟨fun c listed => ?_, fun _ given => nomatch given⟩
    rcases List.mem_pair.mp listed with rfl | rfl
    · rfl
    · rfl
  refine ⟨{ header := { id := .number 1, name := "Pair" }, size := 2, goal := _ },
    { shadow := Pixel.Shadow.mk 2 (0, 0) "#ff0000", maxActions := 1000 },
    { size := 2 }, _, _, log, log', _, _, rfl, rfl, rfl, rfl, rfl, first, whole, reached rfl,
    ?_⟩
  refine reaches_append (d := .pixel) ?_ first whole (reached rfl)
  exact rfl

end Domain

end PuzzleWorlds
