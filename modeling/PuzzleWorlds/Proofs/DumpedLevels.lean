import PuzzleWorlds.Proofs.DumpedStages

/-! Levels that are dumped and loaded again. A dumped level spells every field out, defaults
included, and each of its parts is read as what it was. Only the measures of a stage change: a
whole number that was filled in comes back as a float, which is the same number. -/

namespace PuzzleWorlds

namespace Robot.Level

theorem heading_rereads : Heading.decode.Rereads fun h => .text h.name := by
  intro _ h _
  cases h <;> rfl

theorem decodeStart_rereads : decodeStart.Rereads fun s =>
    .dict [("x", .int s.x), ("y", .int s.y), ("direction", .text s.direction.name)] := by
  refine Decoder.rereads_object fun o s read => ?_
  simp only [Decoded.seq_eq_ok, Decoded.map_eq_ok] at read
  obtain ⟨_, direction, ⟨_, y, ⟨x, across, rfl⟩, along, rfl⟩, towards, rfl⟩ := read
  -- The first `rfl` of a field reads what is written of its default, the second finds the field.
  exact Decoded.seq_ok (Decoded.seq_ok (Decoded.map_ok
    (Fields.withDefault_again Decoder.int_rereads rfl across rfl))
    (Fields.withDefault_again Decoder.int_rereads rfl along rfl))
    (Fields.withDefault_again heading_rereads rfl towards rfl)

theorem decodePoint_rereads : decodePoint.Rereads dumpPoint := by
  refine Decoder.rereads_object fun o p read => ?_
  simp only [Decoded.seq_eq_ok, Decoded.map_eq_ok] at read
  obtain ⟨_, y, ⟨x, across, rfl⟩, along, rfl⟩ := read
  exact Decoded.seq_ok (Decoded.map_ok
    (Fields.required_again Decoder.int_rereads across rfl))
    (Fields.required_again Decoder.int_rereads along rfl)

theorem decodeGoal_rereads : decodeGoal.Rereads dumpGoal := by
  refine Decoder.reads_tagged (List.forall_mem_cons.mpr ⟨fun o goal read => ?position,
    List.forall_mem_cons.mpr ⟨fun o goal read => ?free, by nofun⟩⟩)
  case position =>
    simp only [Decoded.seq_eq_ok, Decoded.map_eq_ok] at read
    obtain ⟨_, all, ⟨_, y, ⟨x, across, rfl⟩, along, rfl⟩, stars, rfl⟩ := read
    exact Decoder.tagged_ok rfl rfl (Decoded.seq_ok (Decoded.seq_ok (Decoded.map_ok
      (Fields.required_again Decoder.int_rereads across rfl))
      (Fields.required_again Decoder.int_rereads along rfl))
      (Fields.withDefault_again Decoder.bool_rereads rfl stars rfl))
  case free =>
    obtain ⟨n, asked, rfl⟩ := Decoded.map_eq_ok.mp read
    exact Decoder.tagged_ok rfl rfl (Decoded.map_ok (decodeFreeGoal_again asked rfl))

theorem decode_again {o : Fields} {l : Level} (read : decode o = .ok l) :
    decode { entries := l.dump, whole := .dict l.dump } = .ok l := by
  simp only [decode, Decoded.seq_eq_ok, Decoded.map_eq_ok] at read
  obtain ⟨_, goal, ⟨_, stars, ⟨_, robot, ⟨_, height, ⟨_, width, ⟨header, headed, rfl⟩, across,
    rfl⟩, along, rfl⟩, start, rfl⟩, shining, rfl⟩, aim, rfl⟩ := read
  have side := Decoder.int_rereads.atLeast 1
  exact Decoded.seq_ok (Decoded.seq_ok (Decoded.seq_ok (Decoded.seq_ok (Decoded.seq_ok
    (Decoded.map_ok (LevelHeader.decode_again headed rfl))
    (Fields.withDefault_again side rfl across rfl))
    (Fields.withDefault_again side rfl along rfl))
    (Fields.withDefault_again decodeStart_rereads rfl start rfl))
    (Fields.withDefault_again decodePoint_rereads.list rfl shining rfl))
    (Fields.required_again decodeGoal_rereads aim rfl)

end Robot.Level

namespace Building.Level

theorem decodeSize_rereads : decodeSize.Rereads fun s =>
    .dict [("width", .int s.width), ("height", .int s.height), ("depth", .int s.depth)] := by
  refine Decoder.rereads_object fun o s read => ?_
  simp only [Decoded.seq_eq_ok, Decoded.map_eq_ok] at read
  obtain ⟨_, depth, ⟨_, height, ⟨width, across, rfl⟩, along, rfl⟩, up, rfl⟩ := read
  have side := Decoder.int_rereads.atLeast 1
  exact Decoded.seq_ok (Decoded.seq_ok (Decoded.map_ok
    (Fields.withDefault_again side rfl across rfl))
    (Fields.withDefault_again side rfl along rfl))
    (Fields.withDefault_again side rfl up rfl)

theorem decodeCell_rereads : decodeCell.Rereads dumpCell := by
  refine Decoder.rereads_object fun o c read => ?_
  simp only [Decoded.seq_eq_ok, Decoded.map_eq_ok] at read
  obtain ⟨_, color, ⟨_, z, ⟨_, y, ⟨x, across, rfl⟩, along, rfl⟩, up, rfl⟩, paint, rfl⟩ := read
  exact Decoded.seq_ok (Decoded.seq_ok (Decoded.seq_ok (Decoded.map_ok
    (Fields.required_again Decoder.int_rereads across rfl))
    (Fields.required_again Decoder.int_rereads along rfl))
    (Fields.required_again Decoder.int_rereads up rfl))
    (Fields.withDefault_again Decoder.text_rereads.optionalText rfl paint rfl)

theorem decodeGoal_rereads : decodeGoal.Rereads dumpGoal := by
  refine Decoder.reads_tagged (List.forall_mem_cons.mpr ⟨fun o goal read => ?build,
    List.forall_mem_cons.mpr ⟨fun o goal read => ?free, by nofun⟩⟩)
  case build =>
    simp only [Decoded.seq_eq_ok, Decoded.map_eq_ok] at read
    obtain ⟨_, least, ⟨_, colors, ⟨_, strict, ⟨target, cells, rfl⟩, only, rfl⟩, painted, rfl⟩,
      count, rfl⟩ := read
    have blocks := (Decoder.int_rereads.atLeast 1).optionalInt
    exact Decoder.tagged_ok rfl rfl (Decoded.seq_ok (Decoded.seq_ok (Decoded.seq_ok (Decoded.map_ok
      (Fields.withDefault_again decodeCell_rereads.list rfl cells rfl))
      (Fields.withDefault_again Decoder.bool_rereads rfl only rfl))
      (Fields.withDefault_again Decoder.bool_rereads rfl painted rfl))
      (Fields.withDefault_again blocks rfl count rfl))
  case free =>
    obtain ⟨n, asked, rfl⟩ := Decoded.map_eq_ok.mp read
    exact Decoder.tagged_ok rfl rfl (Decoded.map_ok (decodeFreeGoal_again asked rfl))

theorem decode_again {o : Fields} {l : Level} (read : decode o = .ok l) :
    decode { entries := l.dump, whole := .dict l.dump } = .ok l := by
  simp only [decode, Decoded.seq_eq_ok, Decoded.map_eq_ok] at read
  obtain ⟨_, goal, ⟨_, start, ⟨_, colors, ⟨_, size, ⟨header, headed, rfl⟩, box, rfl⟩, offered,
    rfl⟩, cursor, rfl⟩, aim, rfl⟩ := read
  exact Decoded.seq_ok (Decoded.seq_ok (Decoded.seq_ok (Decoded.seq_ok
    (Decoded.map_ok (LevelHeader.decode_again headed rfl))
    (Fields.withDefault_again decodeSize_rereads rfl box rfl))
    (Fields.withDefault_again Decoder.text_rereads.list rfl offered rfl))
    (Fields.withDefault_again decodeCell_rereads rfl cursor rfl))
    (Fields.required_again decodeGoal_rereads aim rfl)

end Building.Level

namespace Sorting.Level

theorem order_rereads : SortOrder.decode.Rereads fun order => .text order.name := by
  intro _ order _
  cases order <;> rfl

theorem decodeGoal_rereads : decodeGoal.Rereads dumpGoal := by
  refine Decoder.reads_tagged (List.forall_mem_cons.mpr ⟨fun o goal read => ?sorted,
    List.forall_mem_cons.mpr ⟨fun o goal read => ?free, by nofun⟩⟩)
  case sorted =>
    simp only [Decoded.seq_eq_ok, Decoded.map_eq_ok] at read
    obtain ⟨_, limit, ⟨order, direction, rfl⟩, budget, rfl⟩ := read
    have swaps := (Decoder.int_rereads.atLeast 0).optionalInt
    exact Decoder.tagged_ok rfl rfl (Decoded.seq_ok (Decoded.map_ok
      (Fields.withDefault_again order_rereads rfl direction rfl))
      (Fields.withDefault_again swaps rfl budget rfl))
  case free =>
    obtain ⟨n, asked, rfl⟩ := Decoded.map_eq_ok.mp read
    exact Decoder.tagged_ok rfl rfl (Decoded.map_ok (decodeFreeGoal_again asked rfl))

theorem decode_again {o : Fields} {l : Level} (read : decode o = .ok l) :
    decode { entries := l.dump, whole := .dict l.dump } = .ok l := by
  simp only [decode, Decoded.seq_eq_ok, Decoded.map_eq_ok] at read
  obtain ⟨_, goal, ⟨_, potions, ⟨header, headed, rfl⟩, shelf, rfl⟩, aim, rfl⟩ := read
  exact Decoded.seq_ok (Decoded.seq_ok (Decoded.map_ok (LevelHeader.decode_again headed rfl))
    (Fields.required_again Decoder.int_rereads.list.nonEmpty shelf rfl))
    (Fields.required_again decodeGoal_rereads aim rfl)

end Sorting.Level

namespace Combat.Level

theorem decodeSize_rereads : decodeSize.Rereads fun s =>
    .dict [("width", .int s.width), ("height", .int s.height)] := by
  refine Decoder.rereads_object fun o s read => ?_
  simp only [Decoded.seq_eq_ok, Decoded.map_eq_ok] at read
  obtain ⟨_, height, ⟨width, across, rfl⟩, along, rfl⟩ := read
  have side := Decoder.int_rereads.atLeast 1
  exact Decoded.seq_ok (Decoded.map_ok (Fields.withDefault_again side rfl across rfl))
    (Fields.withDefault_again side rfl along rfl)

theorem decodeUnit_rereads : decodeUnit.Rereads dumpUnit := by
  refine Decoder.rereads_object fun o u read => ?_
  simp only [Decoded.seq_eq_ok, Decoded.map_eq_ok] at read
  obtain ⟨_, most, ⟨_, range, ⟨_, strength, ⟨_, hp, ⟨_, y, ⟨_, x, ⟨_, name, ⟨id, known, rfl⟩,
    named, rfl⟩, across, rfl⟩, along, rfl⟩, points, rfl⟩, hits, rfl⟩, reach, rfl⟩, cap,
    rfl⟩ := read
  have strengths := Decoder.int_rereads.atLeast 0
  exact Decoded.seq_ok (Decoded.seq_ok (Decoded.seq_ok (Decoded.seq_ok (Decoded.seq_ok
    (Decoded.seq_ok (Decoded.seq_ok (Decoded.map_ok
    (Fields.required_again Decoder.text_rereads known rfl))
    (Fields.required_again Decoder.text_rereads named rfl))
    (Fields.required_again Decoder.int_rereads across rfl))
    (Fields.required_again Decoder.int_rereads along rfl))
    (Fields.required_again strengths points rfl))
    (Fields.withDefault_again strengths rfl hits rfl))
    (Fields.withDefault_again strengths rfl reach rfl))
    (Fields.withDefault_again Decoder.int_rereads.optionalInt rfl cap rfl)

theorem decodeGoal_rereads : decodeGoal.Rereads dumpGoal := by
  refine Decoder.reads_tagged (List.forall_mem_cons.mpr ⟨fun o goal read => ?target,
    List.forall_mem_cons.mpr ⟨fun o goal read => ?free, by nofun⟩⟩)
  case target =>
    obtain ⟨target, expected, rfl⟩ := Decoded.map_eq_ok.mp read
    exact Decoder.tagged_ok rfl rfl (Decoded.map_ok
      (Fields.withDefault_again Decoder.text_rereads.optionalText rfl expected rfl))
  case free =>
    obtain ⟨n, asked, rfl⟩ := Decoded.map_eq_ok.mp read
    exact Decoder.tagged_ok rfl rfl (Decoded.map_ok (decodeFreeGoal_again asked rfl))

theorem decode_again {o : Fields} {l : Level} (read : decode o = .ok l) :
    decode { entries := l.dump, whole := .dict l.dump } = .ok l := by
  simp only [decode, Decoded.seq_eq_ok, Decoded.map_eq_ok] at read
  obtain ⟨_, goal, ⟨_, enemies, ⟨_, hero, ⟨_, size, ⟨header, headed, rfl⟩, arena, rfl⟩, leader,
    rfl⟩, others, rfl⟩, aim, rfl⟩ := read
  exact Decoded.seq_ok (Decoded.seq_ok (Decoded.seq_ok (Decoded.seq_ok
    (Decoded.map_ok (LevelHeader.decode_again headed rfl))
    (Fields.withDefault_again decodeSize_rereads rfl arena rfl))
    (Fields.withDefault_again decodeUnit_rereads rfl leader rfl))
    (Fields.withDefault_again decodeUnit_rereads.list rfl others rfl))
    (Fields.required_again decodeGoal_rereads aim rfl)

end Combat.Level

namespace Music.Level

theorem decodeGoal_rereads : decodeGoal.Rereads dumpGoal := by
  have count := Decoder.int_rereads.atLeast 1
  have notes := Decoder.text_rereads.list
  refine Decoder.reads_tagged (List.forall_mem_cons.mpr ⟨fun o goal read => ?notes,
    List.forall_mem_cons.mpr ⟨fun o goal read => ?sequence,
    List.forall_mem_cons.mpr ⟨fun o goal read => ?repetition,
    List.forall_mem_cons.mpr ⟨fun o goal read => ?free, by nofun⟩⟩⟩⟩)
  case notes =>
    simp only [Decoded.seq_eq_ok, Decoded.map_eq_ok] at read
    obtain ⟨_, least, ⟨required, listed, rfl⟩, asked, rfl⟩ := read
    exact Decoder.tagged_ok rfl rfl (Decoded.seq_ok (Decoded.map_ok
      (Fields.withDefault_again notes rfl listed rfl))
      (Fields.withDefault_again count.optionalInt rfl asked rfl))
  case sequence =>
    obtain ⟨required, listed, rfl⟩ := Decoded.map_eq_ok.mp read
    exact Decoder.tagged_ok rfl rfl (Decoded.map_ok
      (Fields.required_again notes.nonEmpty listed rfl))
  case repetition =>
    simp only [Decoded.seq_eq_ok, Decoded.map_eq_ok] at read
    obtain ⟨_, note, ⟨least, asked, rfl⟩, played, rfl⟩ := read
    exact Decoder.tagged_ok rfl rfl (Decoded.seq_ok (Decoded.map_ok
      (Fields.withDefault_again count rfl asked rfl))
      (Fields.withDefault_again Decoder.text_rereads.optionalText rfl played rfl))
  case free =>
    obtain ⟨n, asked, rfl⟩ := Decoded.map_eq_ok.mp read
    exact Decoder.tagged_ok rfl rfl (Decoded.map_ok (decodeFreeGoal_again asked rfl))

theorem decode_again {o : Fields} {l : Level} (read : decode o = .ok l) :
    decode { entries := l.dump, whole := .dict l.dump } = .ok l := by
  simp only [decode, Decoded.seq_eq_ok, Decoded.map_eq_ok] at read
  obtain ⟨_, goal, ⟨header, headed, rfl⟩, aim, rfl⟩ := read
  exact Decoded.seq_ok (Decoded.map_ok (LevelHeader.decode_again headed rfl))
    (Fields.required_again decodeGoal_rereads aim rfl)

end Music.Level

namespace Console.Level

theorem decodeGoal_rereads : decodeGoal.Rereads dumpGoal := by
  refine Decoder.reads_tagged (List.forall_mem_cons.mpr ⟨fun o goal read => ?output,
    List.forall_mem_cons.mpr ⟨fun o goal read => ?free, by nofun⟩⟩)
  case output =>
    obtain ⟨lines, expected, rfl⟩ := Decoded.map_eq_ok.mp read
    exact Decoder.tagged_ok rfl rfl (Decoded.map_ok
      (Fields.required_again Decoder.text_rereads.list.nonEmpty expected rfl))
  case free =>
    obtain ⟨n, asked, rfl⟩ := Decoded.map_eq_ok.mp read
    exact Decoder.tagged_ok rfl rfl (Decoded.map_ok (decodeFreeGoal_again asked rfl))

theorem decode_again {o : Fields} {l : Level} (read : decode o = .ok l) :
    decode { entries := l.dump, whole := .dict l.dump } = .ok l := by
  simp only [decode, Decoded.seq_eq_ok, Decoded.map_eq_ok] at read
  obtain ⟨_, goal, ⟨header, headed, rfl⟩, aim, rfl⟩ := read
  exact Decoded.seq_ok (Decoded.map_ok (LevelHeader.decode_again headed rfl))
    (Fields.required_again decodeGoal_rereads aim rfl)

end Console.Level

namespace Pixel.Level

theorem decodeGoal_rereads : decodeGoal.Rereads dumpGoal := by
  refine Decoder.reads_tagged (List.forall_mem_cons.mpr ⟨fun o goal read => ?pixels,
    List.forall_mem_cons.mpr ⟨fun o goal read => ?free, by nofun⟩⟩)
  case pixels =>
    simp only [Decoded.seq_eq_ok, Decoded.map_eq_ok] at read
    obtain ⟨_, colors, ⟨cells, marked, rfl⟩, paints, rfl⟩ := read
    have painted := Decoder.text_rereads.list.optional (by nofun)
    exact Decoder.tagged_ok rfl rfl (Decoded.seq_ok (Decoded.map_ok
      (Fields.required_again Decoder.int_rereads.pair.list.nonEmpty marked rfl))
      (Fields.withDefault_again painted rfl paints (by cases colors <;> rfl)))
  case free =>
    obtain ⟨n, asked, rfl⟩ := Decoded.map_eq_ok.mp read
    exact Decoder.tagged_ok rfl rfl (Decoded.map_ok (decodeFreeGoal_again asked rfl))

theorem decode_again {o : Fields} {l : Level} (read : decode o = .ok l) :
    decode { entries := l.dump, whole := .dict l.dump } = .ok l := by
  simp only [decode, Decoded.seq_eq_ok, Decoded.map_eq_ok] at read
  obtain ⟨_, goal, ⟨_, color, ⟨_, size, ⟨header, headed, rfl⟩, side, rfl⟩, paint, rfl⟩, aim,
    rfl⟩ := read
  exact Decoded.seq_ok (Decoded.seq_ok (Decoded.seq_ok
    (Decoded.map_ok (LevelHeader.decode_again headed rfl))
    (Fields.withDefault_again (Decoder.int_rereads.atLeast 1) rfl side rfl))
    (Fields.withDefault_again Decoder.text_rereads rfl paint rfl))
    (Fields.required_again decodeGoal_rereads aim rfl)

end Pixel.Level

namespace Domain.Level

/-- Whether every float of the level is finite; only stages are measured in floats. -/
def isFinite : {d : Domain} → d.Level → Bool
  | .sprite, (l : Sprite.Level) => l.isFinite
  | _, _ => true

/-- Whether two levels of a domain are equal, with equal numbers for measures. -/
def same : {d : Domain} → d.Level → d.Level → Bool
  | .robot, (l : Robot.Level), (m : Robot.Level) => l == m
  | .building, (l : Building.Level), (m : Building.Level) => l == m
  | .sorting, (l : Sorting.Level), (m : Sorting.Level) => l == m
  | .combat, (l : Combat.Level), (m : Combat.Level) => l == m
  | .music, (l : Music.Level), (m : Music.Level) => l == m
  | .sprite, (l : Sprite.Level), (m : Sprite.Level) => l == m
  | .pixel, (l : Pixel.Level), (m : Pixel.Level) => l == m
  | .math, (l : Console.Level), (m : Console.Level) => l == m

end Domain.Level

end PuzzleWorlds
