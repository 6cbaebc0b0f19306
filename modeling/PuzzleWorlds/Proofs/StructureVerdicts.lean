import PuzzleWorlds.Proofs.BuiltStructures
import PuzzleWorlds.Proofs.ListedCells

/-! Verdicts on structures. Whatever a program builds, takes down and builds over, each block has a
cell of its own, so a verdict compares the cells on which blocks stand with those of the target. The
three lists in it are computed apart from each other and from its success; each shows just the cells
at which one of the conditions fails. -/

namespace PuzzleWorlds.Building

open World (cellParts)

theorem cellParts_injective : Function.Injective cellParts := by
  intro a b same
  cases a
  cases b
  simpa [cellParts] using same

/-- The block on a target cell has the color that is asked for, the case of letters aside. -/
def World.Matches (w : World) (c : ColoredCell) : Prop :=
  ∃ s color, w.colorAt? (cellParts c.cell) = some (.text s) ∧ c.color = some color ∧
    lowerText s = lowerText color

/-- The block on a target cell has another color than the one it is compared with. -/
def World.clashes (w : World) (c : ColoredCell) : Bool :=
  match w.colorAt? (cellParts c.cell) with
  | some (.text s) => lowerText s != c.wanted
  | _ => false

section

variable {w : World} {cells : List Cell} {target : List ColoredCell} {c : ColoredCell}

theorem World.matches_iff (asks : ∃ color, c.color = some color) : w.Matches c ↔
    ∃ s, w.colorAt? (cellParts c.cell) = some (.text s) ∧ lowerText s = c.wanted := by
  obtain ⟨color, asked⟩ := asks
  simp [Matches, ColoredCell.wanted, asked]

theorem World.clashes_iff (h : Stands w.blocks cells) (colored : w.Colored Value.IsText)
    (asks : ∃ color, c.color = some color) :
    w.clashes c = true ↔ c.cell ∈ cells ∧ ¬w.Matches c := by
  rw [matches_iff asks, ← colorAt?_isSome h, clashes]
  cases shown : w.colorAt? (cellParts c.cell) with
  | none => simp
  | some color =>
    obtain ⟨s, rfl⟩ := colored.seen shown
    simp

theorem wrongCells_eq (colored : w.Colored Value.IsText) (target : List ColoredCell) :
    wrongCells w (target.map fun c => (cellParts c.cell, .text c.wanted)) =
      .ok (((target.filter w.clashes).map (·.cell)).map cellParts) := by
  induction target with
  | nil => rfl
  | cons c rest ih =>
    rw [List.map_cons, wrongCells, ih]
    cases shown : w.colorAt? (cellParts c.cell) with
    | none => simp [World.clashes, shown, pure, Except.pure]
    | some color =>
      obtain ⟨s, rfl⟩ := colored.seen shown
      by_cases same : lowerText s = c.wanted <;>
        simp [World.clashes, shown, same, differs, Value.same, pure, Except.pure]

theorem missing_eq (h : Stands w.blocks cells) (distinct : (target.map (·.cell)).Nodup) :
    ((targetColors target).map (·.1)).filter (fun key => (w.colorAt? key).isNone) =
      ((target.map (·.cell)).filter (· ∉ cells)).map cellParts := by
  have keys : (targetColors target).map (·.1) = (target.map (·.cell)).map cellParts := by
    rw [targetColors_eq distinct, List.map_map, List.map_map]
    rfl
  rw [keys, List.filter_map]
  congr 1
  refine List.filter_congr fun a _ => ?_
  rw [Function.comp_apply, Bool.eq_iff_iff, decide_eq_true_iff, ← World.colorAt?_isSome h,
    Option.isNone_iff_eq_none, Option.isSome_iff_ne_none, not_not]

theorem extra_eq (h : Stands w.blocks cells) (distinct : (target.map (·.cell)).Nodup) :
    (w.blocks.map (·.1)).filter (fun key =>
        !(targetColors target).any fun t => Value.sameItems t.1 key) =
      (cells.filter (· ∉ target.map (·.cell))).map cellParts := by
  rw [h.keys, List.filter_map]
  congr 1
  refine List.filter_congr fun a _ => ?_
  rw [targetColors_eq distinct, Bool.eq_iff_iff]
  simp [World.sameItems_cellParts]

end

/-- Every verdict on a structure lists the cells that were sorted out. -/
theorem carries_checkStructure {g : Structure} {w : World} {wrong : List (List Value)}
    (checked : (if g.matchColors = true then (wrongCells w (targetColors g.target)).map sortCells
      else .ok []) = .ok wrong) : Verdict.Carries
    [("placed", .nat w.blocks.length),
      ("missing", cellsValue (sortCells
        (((targetColors g.target).map (·.1)).filter fun c => (w.colorAt? c).isNone))),
      ("wrong_color", cellsValue wrong),
      ("extra", cellsValue (if g.exact = true then
        sortCells ((w.blocks.map (·.1)).filter fun c =>
          !(targetColors g.target).any fun t => Value.sameItems t.1 c) else []))]
    (checkStructure g w) := by
  unfold checkStructure
  dsimp only
  generalize sortCells (((targetColors g.target).map (·.1)).filter fun c =>
    (w.colorAt? c).isNone) = missing
  generalize (if g.exact = true then sortCells ((w.blocks.map (·.1)).filter fun c =>
    !(targetColors g.target).any fun t => Value.sameItems t.1 c) else []) = extra
  -- the list of wrong colors is made before any verdict, and only if colors count
  cases matched : g.matchColors with
  | true | false =>
    simp only [matched, if_true, Bool.false_eq_true, if_false] at checked
    simp only [Bool.false_eq_true, if_true, if_false, pure, Except.pure, checked, ok_bind]
    refine .ite (Verdict.carries_failed _) (.ite (Verdict.carries_failed _)
      (.ite (Verdict.carries_failed _) ?_))
    cases g.minBlocks with
    | none => exact Verdict.carries_passed _
    | some n => exact .ite (.bind fun _ => Verdict.carries_failed _) (Verdict.carries_passed _)

/-- What the three lists of a verdict show: target cells without a block, those whose block has not
the color that is asked for, and cells with a block that is not part of the target. -/
structure World.ListsOffending (w : World) (cells : List Cell) (g : Structure)
    (missing wrong extra : List Cell) : Prop where
  missing : Lists Cell.coordinates (fun a => (∃ c ∈ g.target, c.cell = a) ∧ a ∉ cells) missing
  wrong : Lists Cell.coordinates (fun a => g.matchColors = true ∧
    ∃ c ∈ g.target, c.cell = a ∧ a ∈ cells ∧ ¬w.Matches c) wrong
  extra : Lists Cell.coordinates (fun a => g.exact = true ∧ a ∈ cells ∧
    ∀ c ∈ g.target, c.cell ≠ a) extra

section

variable {w : World} {cells : List Cell} {g : Structure}

theorem exists_wrong (h : Stands w.blocks cells) (colored : w.Colored Value.IsText)
    (distinct : (g.target.map (·.cell)).Nodup)
    (asks : g.matchColors = true → ∀ c ∈ g.target, ∃ color, c.color = some color) :
    ∃ wrong : List Cell, (if g.matchColors = true then
        (wrongCells w (targetColors g.target)).map sortCells else .ok []) =
          .ok (wrong.map cellParts) ∧
      Lists Cell.coordinates (fun a => g.matchColors = true ∧
        ∃ c ∈ g.target, c.cell = a ∧ a ∈ cells ∧ ¬w.Matches c) wrong := by
  by_cases matched : g.matchColors = true
  · have once : ((g.target.filter w.clashes).map (·.cell)).Nodup :=
      distinct.sublist (List.filter_sublist.map _)
    obtain ⟨wrong, sorted, lists⟩ := exists_sortCells once
    refine ⟨wrong, ?_, lists.congr fun a => ?_⟩
    · rw [if_pos matched, targetColors_eq distinct, wrongCells_eq colored]
      exact congrArg Except.ok sorted
    · simp only [matched, true_and, List.mem_map, List.mem_filter]
      refine exists_congr fun c => ?_
      constructor
      · rintro ⟨⟨member, clash⟩, rfl⟩
        exact ⟨member, rfl, (World.clashes_iff h colored (asks matched c member)).mp clash⟩
      · rintro ⟨member, rfl, clash⟩
        exact ⟨⟨member, (World.clashes_iff h colored (asks matched c member)).mpr clash⟩, rfl⟩
  · exact ⟨[], if_neg matched, .nil fun a ⟨asked, _⟩ => matched asked⟩

theorem exists_extra (h : Stands w.blocks cells) (distinct : (g.target.map (·.cell)).Nodup) :
    ∃ extra : List Cell, (if g.exact = true then sortCells ((w.blocks.map (·.1)).filter fun key =>
        !(targetColors g.target).any fun t => Value.sameItems t.1 key) else []) =
          extra.map cellParts ∧
      Lists Cell.coordinates (fun a => g.exact = true ∧ a ∈ cells ∧
        ∀ c ∈ g.target, c.cell ≠ a) extra := by
  by_cases isExact : g.exact = true
  · obtain ⟨extra, sorted, lists⟩ :=
      exists_sortCells (h.nodup.filter (· ∉ g.target.map (·.cell)))
    refine ⟨extra, ?_, lists.congr fun a => ?_⟩
    · rw [if_pos isExact, extra_eq h distinct, sorted]
    · simp [isExact]
  · exact ⟨[], if_neg isExact, .nil fun a ⟨asked, _⟩ => isExact asked⟩

theorem exists_listsOffending {v : Verdict} (h : Stands w.blocks cells)
    (colored : w.Colored Value.IsText) (distinct : (g.target.map (·.cell)).Nodup)
    (asks : g.matchColors = true → ∀ c ∈ g.target, ∃ color, c.color = some color)
    (judged : checkStructure g w = .ok v) : ∃ missing wrong extra,
      Value.lookup v.details "missing" = some (cellsValue (missing.map cellParts)) ∧
      Value.lookup v.details "wrong_color" = some (cellsValue (wrong.map cellParts)) ∧
      Value.lookup v.details "extra" = some (cellsValue (extra.map cellParts)) ∧
      w.ListsOffending cells g missing wrong extra := by
  obtain ⟨missing, sortedMissing, missed⟩ := exists_sortCells (distinct.filter (· ∉ cells))
  obtain ⟨wrong, sortedWrong, clashing⟩ := exists_wrong h colored distinct asks
  obtain ⟨extra, sortedExtra, others⟩ := exists_extra h distinct
  have details := carries_checkStructure sortedWrong v judged
  rw [missing_eq h distinct, sortedMissing, sortedExtra] at details
  rw [details]
  exact ⟨missing, wrong, extra, rfl, rfl, rfl, missed.congr fun a => by simp, clashing, others⟩

theorem shows_iff_matches (h : Stands w.blocks cells) (distinct : (g.target.map (·.cell)).Nodup)
    (asks : g.matchColors = true → ∀ c ∈ g.target, ∃ color, c.color = some color) : w.Shows g ↔
      (∀ c ∈ g.target, c.cell ∈ cells) ∧
      (g.matchColors = true → ∀ c ∈ g.target, w.Matches c) ∧
      (g.exact = true → ∀ a ∈ cells, ∃ c ∈ g.target, c.cell = a) ∧
      ∀ n, g.minBlocks = some n → n ≤ cells.length := by
  rw [World.shows_iff_cells h distinct]
  refine and_congr_right fun _ => and_congr_left' (forall_congr' fun matched => ?_)
  exact forall₂_congr fun c member => (World.matches_iff (asks matched c member)).symm

end

/-- Whatever a program does in a valid build area, its trace is replayed, and the verdict on the
structure is a success exactly if every target cell holds a block, of the color that is asked for
where colors count, no other cell does where the structure is exact, and enough blocks stand. Unless
the verdict has to tell too long a number there is one, and it lists the cells at fault. -/
theorem structure_verdict_iff {document : Value} {l : Level}
    (loads : loadLevel document = .ok ⟨.building, l⟩)
    (valid : (Domain.building.validate l).valid = true) {g : Structure}
    (aim : l.goal = .structureMatch g) (maxActions : Int) :
    ∃ r, Registry.create (d := .building) l maxActions = .ok r ∧
      ∀ cs, ∃ (w : World) (log : ActionLog) (cells : List Cell),
        Domain.replay .building (World.initial l) Domain.building.newLog (r.after cs).trace =
          .ok (w, log) ∧
        Stands w.blocks cells ∧
        ((∃ v, Domain.checkGoal .building l w log = .ok v ∧ v.success = true) ↔
          (∀ c ∈ g.target, c.cell ∈ cells) ∧
          (g.matchColors = true → ∀ c ∈ g.target, w.Matches c) ∧
          (g.exact = true → ∀ a ∈ cells, ∃ c ∈ g.target, c.cell = a) ∧
          ∀ n, g.minBlocks = some n → n ≤ cells.length) ∧
        ((∃ v, Domain.checkGoal .building l w log = .ok v) ↔ ¬l.Unjudged w log) ∧
        ∀ v, Domain.checkGoal .building l w log = .ok v → ∃ missing wrong extra,
          Value.lookup v.details "missing" = some (cellsValue (missing.map cellParts)) ∧
          Value.lookup v.details "wrong_color" = some (cellsValue (wrong.map cellParts)) ∧
          Value.lookup v.details "extra" = some (cellsValue (extra.map cellParts)) ∧
          w.ListsOffending cells g missing wrong extra := by
  have own := Domain.ownFindings_valid valid
  have positive : l.gridSize.Positive := loadLevel_wellFormed loads
  obtain ⟨distinct, _⟩ := Level.of_valid own aim
  have asks := Level.colored_of_valid own aim
  let r : Registry .building := { shadow := Shadow.initial l, maxActions }
  refine ⟨r, rfl, fun cs => ?_⟩
  have start : Registry.Tracks (d := .building)
      (fun (s : Shadow) (w : World) => s.Shows w ∧ w.size = l.gridSize ∧ ∃ cells, w.Fits l cells)
      (fun _ _ => True) (World.initial l) r (World.initial l) :=
    .start rfl ⟨.initial positive, rfl, [], .initial l⟩
  obtain ⟨r', (w : World), ⟨plays, ⟨_, _, cells, fits⟩, _⟩, same⟩ :=
    start.trace_after (Command.follows_fits l) cs
  have colored : w.Colored Value.IsText :=
    ⟨fits.colors.current.imp fun _ h => h.1, fun b member =>
      (fits.colors.blocks b member).imp fun _ h => h.1⟩
  have checked (log : ActionLog) :
      Domain.checkGoal .building l w log = Domain.judged (checkStructure g w) := by
    simp only [Domain.checkGoal, checkGoal, aim]
  refine ⟨w, _, cells, same ▸ plays.replay _, fits.stands, ?_,
    Domain.returns_judged.trans (returns_checkGoal colored), fun v judged => ?_⟩
  · rw [← shows_iff_matches fits.stands distinct asks]
    exact Domain.reaches_iff_success.symm.trans (reaches_structure aim)
  · rw [checked, Domain.judged_eq_ok] at judged
    exact exists_listsOffending fits.stands colored distinct asks judged

/-- One block in another color than asked for and one that is not asked for, while the one between
them is missing. -/
theorem structure_verdict_iff_wall :
    let document : Value :=
      .dict [("domain", "building"), ("id", 1), ("name", "Wall"),
        ("goal", .dict [("type", "structureMatch"), ("exact", true), ("match_colors", true),
          ("target", .list [
            .dict [("x", 0), ("y", 0), ("z", 0), ("color", "#2ECC71")],
            .dict [("x", 1), ("y", 0), ("z", 0), ("color", "#E74C3C")]])])]
    let g : Structure :=
      { target := [⟨⟨0, 0, 0⟩, some "#2ECC71"⟩, ⟨⟨1, 0, 0⟩, some "#E74C3C"⟩]
        exact := true, matchColors := true }
    let l : Level := { header := { id := .number 1, name := "Wall" }, goal := .structureMatch g }
    let cs : List Invocation := [⟨"place_block", []⟩, ⟨"move_x", [2]⟩, ⟨"place_block", []⟩]
    loadLevel document = .ok ⟨.building, l⟩ ∧ (Domain.building.validate l).valid = true ∧
      l.goal = .structureMatch g ∧ ∃ r, Registry.create (d := .building) l 10 = .ok r ∧
        ∃ w log v,
          Domain.replay .building (World.initial l) Domain.building.newLog (r.after cs).trace =
            .ok (w, log) ∧
          Domain.checkGoal .building l w log = .ok v ∧ v.success = false ∧
          Value.lookup v.details "missing" = some (.list [.list [1, 0, 0]]) ∧
          Value.lookup v.details "wrong_color" = some (.list [.list [0, 0, 0]]) ∧
          Value.lookup v.details "extra" = some (.list [.list [2, 0, 0]]) := by
  intro document g l cs
  have loads : loadLevel document = .ok ⟨.building, l⟩ := rfl
  have valid : (Domain.building.validate l).valid = true := by decide +kernel
  have color : lowerText l.defaultColor = "#e74c3c" := by decide +kernel
  let red : Value := .text "#e74c3c"
  have world : World.initial l = { width := 5, height := 5, depth := 5, color := red } := by
    simp only [World.initial, color]
    rfl
  have shadow : Shadow.initial l = ⟨⟨5, 5, 5⟩, ⟨0, 0, 0⟩, red⟩ := by
    simp only [Shadow.initial, world]
    rfl
  obtain ⟨r, created, judges⟩ := structure_verdict_iff loads valid (g := g) rfl 10
  obtain ⟨w, log, cells, replayed, stands, success, returned, lists⟩ := judges cs
  obtain ⟨v, judged⟩ := returned.mpr fun ⟨_, _, asked, _⟩ => nomatch asked
  obtain ⟨missing, wrong, extra, shownMissing, shownWrong, shownExtra, offending⟩ := lists v judged
  have same : { shadow := Shadow.initial l, maxActions := 10 } = r := Except.ok.inj created
  have recorded : (r.after cs).trace =
      [.placeBlock (.tuple [0, 0, 0]) red, .move 2 0 0, .placeBlock (.tuple [2, 0, 0]) red] := by
    rw [← same, shadow]
    rfl
  have blocks : w.blocks = [([0, 0, 0], red), ([2, 0, 0], red)] := by
    rw [recorded, world] at replayed
    have left := congrArg (Except.map fun x => World.blocks x.1) replayed
    exact (Except.ok.inj left).symm
  obtain rfl : [⟨0, 0, 0⟩, ⟨2, 0, 0⟩] = cells :=
    cellParts_injective.list_map (by rw [← stands.keys, blocks]; rfl)
  have unmatched : ¬w.Matches ⟨⟨0, 0, 0⟩, some "#2ECC71"⟩ := by
    rintro ⟨s, color, shown, ⟨⟩, equal⟩
    have seen : w.colorAt? (cellParts ⟨0, 0, 0⟩) = some red := by
      rw [World.colorAt?, blocks]
      rfl
    obtain rfl : "#e74c3c" = s := Value.text.inj (Option.some.inj (seen.symm.trans shown))
    exact absurd equal (by decide +kernel)
  have single (a : Cell) : ([a].map Cell.coordinates).SortedLT :=
    (List.pairwise_singleton _ _).sortedLT
  obtain rfl : missing = [⟨1, 0, 0⟩] := by
    refine offending.missing.unique Cell.coordinates_injective ⟨single _, fun a => ?_⟩
    simp only [g, List.mem_cons, List.not_mem_nil, or_false, exists_eq_or_imp, exists_eq_left]
    grind
  obtain rfl : wrong = [⟨0, 0, 0⟩] := by
    refine offending.wrong.unique Cell.coordinates_injective ⟨single _, fun a => ?_⟩
    simp only [g, List.mem_cons, List.not_mem_nil, or_false, exists_eq_or_imp, exists_eq_left]
    grind
  obtain rfl : extra = [⟨2, 0, 0⟩] := by
    refine offending.extra.unique Cell.coordinates_injective ⟨single _, fun a => ?_⟩
    simp only [g, List.mem_cons, List.not_mem_nil, or_false, forall_eq_or_imp, forall_eq]
    grind
  refine ⟨loads, valid, rfl, r, created, w, log, v, replayed, judged, ?_, shownMissing, shownWrong,
    shownExtra⟩
  refine Bool.not_eq_true _ ▸ fun passes => ?_
  exact unmatched ((success.mp ⟨v, judged, passes⟩).2.1 rfl _ List.mem_cons_self)

end PuzzleWorlds.Building
