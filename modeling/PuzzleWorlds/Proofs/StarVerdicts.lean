import PuzzleWorlds.Proofs.ListedCells
import PuzzleWorlds.Proofs.TakenActions
import PuzzleWorlds.Proofs.UnjudgedGoals

/-! Verdicts on the robot. Its world only keeps which stars were collected, not when; but a star is
among them exactly if at some point of the replay the robot stood on it and was told to collect. So
the stars that a verdict lists as missing are told by the history of the actions. -/

namespace PuzzleWorlds.Robot

/-- One of the actions tells the robot to collect a star where it stands, and it stands on this
cell. -/
def CollectsAt (made : List (World × Action)) (s : Int × Int) : Prop :=
  ∃ p ∈ made, p.2.kind = .collectStar ∧ p.1.position = s

/-- The robot takes such an action when the trace is replayed. -/
def PickedUp (w : World) (t : Trace) (s : Int × Int) : Prop :=
  CollectsAt (Domain.taken .robot w t) s

theorem collectsAt_cons {w : World} {a : Action} {made : List (World × Action)} {s : Int × Int} :
    CollectsAt ((w, a) :: made) s ↔ a.kind = .collectStar ∧ w.position = s ∨ CollectsAt made s :=
  List.exists_mem_cons_iff _ _ _

namespace World

/-- Among the stars that an action leaves collected is one more only where the robot stands, and
only if it is told to collect it. -/
theorem react_collects {w v : World} {a : Action} {changes : List String}
    (taken : w.react a = .ok (.changed v changes)) : v.stars = w.stars ∧ ∀ s,
      s ∈ v.collected ↔ s ∈ w.collected ∨ s ∈ w.stars ∧ a.kind = .collectStar ∧ w.position = s := by
  have other (kind : a.kind ≠ .collectStar) (kept : v.stars = w.stars ∧ v.collected = w.collected) :
      v.stars = w.stars ∧ ∀ s, s ∈ v.collected ↔
        s ∈ w.collected ∨ s ∈ w.stars ∧ a.kind = .collectStar ∧ w.position = s :=
    ⟨kept.1, fun s => by simp [kept.2, kind]⟩
  unfold react at taken
  split at taken
  next kind =>
    obtain ⟨_, _, taken⟩ := bind_eq_ok.mp taken
    obtain ⟨_, _, taken⟩ := bind_eq_ok.mp taken
    cases taken
    exact other (by simp [kind]) ⟨rfl, rfl⟩
  next kind =>
    unfold turn at taken
    split at taken
    next => cases taken
    next =>
      obtain ⟨_, _, taken⟩ := bind_eq_ok.mp taken
      split at taken
      next => cases taken
      next =>
        obtain ⟨_, _, taken⟩ := bind_eq_ok.mp taken
        cases taken
        exact other (by simp [kind]) ⟨rfl, rfl⟩
  next kind =>
    replace taken := Except.ok.inj taken
    unfold collectStar at taken
    split at taken
    next here =>
      cases taken
      refine ⟨rfl, fun s => ?_⟩
      have star : w.position ∈ w.stars := (List.mem_filter.mp (List.contains_iff_mem.mp here)).1
      rw [List.mem_append, List.mem_singleton]
      refine or_congr_right ⟨?_, fun ⟨_, _, there⟩ => there.symm⟩
      rintro rfl
      exact ⟨star, kind, rfl⟩
    next none =>
      cases taken
      refine ⟨rfl, fun s => (or_iff_left_of_imp ?_).symm⟩
      rintro ⟨star, _, rfl⟩
      by_contra uncollected
      exact none (List.contains_iff_mem.mpr (List.mem_filter.mpr ⟨star, by simpa using uncollected⟩))
  next kind =>
    cases taken
    exact other (by simp [kind]) ⟨rfl, rfl⟩
  next => cases taken

/-- The actions lead from the one world to the other, with the same stars, and collect those at
which one of them aims. -/
structure Collects (w : World) (made : List (World × Action)) (v : World) : Prop where
  stars : v.stars = w.stars
  collected : ∀ s, s ∈ v.collected ↔ s ∈ w.collected ∨ s ∈ w.stars ∧ CollectsAt made s

theorem Collects.nil (w : World) : w.Collects [] w where
  stars := rfl
  collected _ := (or_iff_left fun ⟨_, _, member, _⟩ => List.not_mem_nil member).symm

theorem Collects.cons {w v u : World} {a : Action} {changes : List String}
    {made : List (World × Action)} (taken : w.react a = .ok (.changed v changes))
    (later : v.Collects made u) : w.Collects ((w, a) :: made) u := by
  obtain ⟨stars, collected⟩ := react_collects taken
  refine ⟨later.stars.trans stars, fun s => ?_⟩
  rw [later.collected, collected, stars, or_assoc, ← and_or_left, collectsAt_cons]

theorem collects_of_replay {w v : World} {log log' : ActionLog} {t : Trace}
    (replayed : Domain.replay .robot w log t = .ok (v, log')) :
    w.Collects (Domain.taken .robot w t) v :=
  Domain.taken_induction (d := .robot) Collects.nil Collects.cons replayed

/-- The stars that a replay leaves to be collected, each once. -/
theorem lists_missingStars {l : Level} {w : World} {log : ActionLog} {t : Trace} (all : Bool)
    (replayed : Domain.replay .robot (initial l) Domain.robot.newLog t = .ok (w, log)) :
    Lists toLex (fun s => all = true ∧ s ∈ l.stars ∧ ¬PickedUp (initial l) t s)
      (missingStars all w) := by
  obtain ⟨stars, collected⟩ := collects_of_replay replayed
  have listed (s : Int × Int) : s ∈ w.remaining ↔ s ∈ l.stars ∧ ¬PickedUp (initial l) t s := by
    have star : s ∈ (initial l).stars ↔ s ∈ l.stars := List.mem_eraseDups
    have unused : s ∉ (initial l).collected := List.not_mem_nil
    rw [remaining, List.mem_filter, Bool.not_eq_true', ← Bool.not_eq_true, List.contains_iff_mem,
      collected, or_iff_right unused, stars, star, PickedUp, not_and, and_congr_right_iff]
    exact fun known => imp_iff_right known
  have distinct : w.remaining.Nodup := by
    rw [remaining, stars]
    exact (nodup_eraseDups l.stars).filter _
  cases all with
  | false => exact .nil (by simp)
  | true =>
    refine (Lists.mergeSort toLex.injective (fun _ _ => cellLe_iff) distinct).congr fun s => ?_
    rw [listed, and_iff_right rfl]

end World

/-- Every verdict on a position tells where the robot is, and which stars are missing. -/
theorem carries_checkPosition (x y : Int) (all : Bool) (w : World) : Verdict.Carries
    [("position", World.cellValue w.position), ("goal", World.cellValue (x, y)),
      ("missing_stars", .list ((missingStars all w).map World.cellValue))]
    (checkPosition x y all w) := by
  unfold checkPosition
  dsimp only
  refine .ite (.bind fun _ => .bind fun _ => Verdict.carries_failed _) ?_
  exact .ite (Verdict.carries_passed _) (Verdict.carries_failed _)

/-- A replayed run is a success exactly if the robot ends on the goal and, where they are asked for,
all stars were picked up on the way. Unless the verdict has to tell too long a number there is one,
and it lists the stars that are missing. -/
theorem position_verdict_iff {l : Level} {x y : Int} {all : Bool}
    (aim : l.goal = .position x y all) {t : Trace} {w : World} {log : ActionLog}
    (replayed : Domain.replay .robot (World.initial l) Domain.robot.newLog t = .ok (w, log)) :
    ((∃ v, Domain.checkGoal .robot l w log = .ok v ∧ v.success = true) ↔
      w.position = (x, y) ∧ (all = true → ∀ s ∈ l.stars, PickedUp (World.initial l) t s)) ∧
    ((∃ v, Domain.checkGoal .robot l w log = .ok v) ↔ ¬l.Unjudged w log) ∧
    ∀ v, Domain.checkGoal .robot l w log = .ok v → ∃ missing,
      Value.lookup v.details "missing_stars" = some (.list (missing.map World.cellValue)) ∧
      Lists toLex (fun s => all = true ∧ s ∈ l.stars ∧ ¬PickedUp (World.initial l) t s)
        missing := by
  have missing := World.lists_missingStars all replayed
  have checked : Domain.checkGoal .robot l w log = Domain.judged (checkPosition x y all w) := by
    simp only [Domain.checkGoal, checkGoal, aim]
  refine ⟨?_, Domain.returns_judged.trans returns_checkGoal, fun v judged => ?_⟩
  · refine Domain.reaches_iff_success.symm.trans ((reaches_position aim).trans ?_)
    rw [missing.eq_nil_iff]
    simp only [not_and, not_not]
    exact and_congr_right fun _ => forall_comm
  · rw [checked, Domain.judged_eq_ok] at judged
    refine ⟨missingStars all w, ?_, missing⟩
    rw [carries_checkPosition x y all w v judged]
    rfl

/-- The robot runs into the edge, collects the star there twice, and is refused half of a right angle.
The other star lies outside the grid. -/
theorem position_verdict_iff_edge :
    let l : Level :=
      { header := { id := .number 1, name := "Edge" }, width := 3, height := 1
        stars := [(2, 0), (2, 0), (5, 0)], goal := .position 2 0 true }
    let t : Trace := [.move 9 0 0, .collectStar, .collectStar, .turn 45]
    l.goal = .position 2 0 true ∧ ∃ w log v,
      Domain.replay .robot (World.initial l) Domain.robot.newLog t = .ok (w, log) ∧
      Domain.checkGoal .robot l w log = .ok v ∧ v.success = false ∧
      Value.lookup v.details "missing_stars" = some (.list [.list [5, 0]]) := by
  intro l t
  let w (x : Int) (collected : List (Int × Int)) : World :=
    { width := 3, height := 1, x, y := 0, stars := [(2, 0), (5, 0)], collected }
  obtain ⟨log, replayed⟩ : ∃ log, Domain.replay .robot (World.initial l) Domain.robot.newLog t =
      .ok (w 2 [(2, 0)], log) := ⟨_, rfl⟩
  obtain ⟨success, returned, lists⟩ := position_verdict_iff (l := l) rfl replayed
  obtain ⟨v, judged⟩ := returned.mpr fun unjudged => unjudged.1 rfl
  obtain ⟨missing, shown, listed⟩ := lists v judged
  have made : Domain.taken .robot (World.initial l) t = [(w 0 [], .move 9 0 0),
    (w 2 [], .collectStar), (w 2 [(2, 0)], .collectStar)] := rfl
  have picked (s : Int × Int) : PickedUp (World.initial l) t s ↔ (2, 0) = s := by
    simp [PickedUp, CollectsAt, made, w, Action.move, Action.collectStar, World.position]
  have outside : Lists toLex (fun s => true = true ∧ s ∈ l.stars ∧
      ¬PickedUp (World.initial l) t s) [(5, 0)] := by
    refine ⟨(List.pairwise_singleton _ _).sortedLT, fun s => ?_⟩
    rw [picked, List.mem_singleton]
    have stars : s ∈ l.stars ↔ s = (2, 0) ∨ s = (5, 0) := by simp [l]
    rw [stars]
    constructor
    · rintro rfl
      decide
    · rintro ⟨-, rfl | rfl, unpicked⟩
      · exact absurd rfl unpicked
      · rfl
  obtain rfl := listed.unique toLex.injective outside
  refine ⟨rfl, _, log, v, replayed, judged, Bool.not_eq_true _ ▸ fun passes => ?_, shown⟩
  have all := (success.mp ⟨v, judged, passes⟩).2 rfl (5, 0) (by decide)
  cases (picked _).mp all

end PuzzleWorlds.Robot
