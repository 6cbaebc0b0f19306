import PuzzleWorlds.Proofs.Timeline

/-! Superseded runs. A run that is no longer the newest may still wait for a reply or in a pause;
when it goes on it changes nothing, and it never completes. What carries this through time is that
the replay of an older run is never the current one. -/

namespace PuzzleWorlds

namespace Session

variable {d : Domain}

/-- What keeps or ends every replay that a run pauses in. -/
def Keeps (s s' : Session d) : Prop :=
  s.epoch ≤ s'.epoch ∧ ∀ id play, s.Awaits id play → s'.Awaits id play

theorem Keeps.refl (s : Session d) : s.Keeps s := ⟨Nat.le_refl _, fun _ _ h => h⟩

theorem keeps_of_lt {s s' : Session d} (epoch : s.epoch ≤ s'.epoch)
    (later : s.scheduler.epoch < s'.scheduler.epoch) : s.Keeps s' :=
  ⟨epoch, fun _ _ h => h.of_lt later⟩

theorem keeps_beginRun (s : Session d) (now : Float) : s.Keeps (s.beginRun now).2 := by
  cases world : s.initialWorld with
  | error f =>
    rw [beginRun_error world]
    refine ⟨Nat.le_succ _, fun id play h => ⟨h.begun, fun current => ?_⟩⟩
    obtain ⟨_, _, w, built⟩ := h.newest current
    rw [world] at built
    cases built
  | ok w =>
    rw [beginRun_ok world]
    refine ⟨Nat.le_succ _, fun id play h => ?_⟩
    by_cases stepping : s.scheduler.phase = .stepping
    · exact h.of_lt (by simp [Scheduler.prime_epoch, stepping])
    · have epoch : (s.scheduler.prime w).epoch = s.scheduler.epoch := by
        rw [Scheduler.prime_epoch, if_neg stepping]
      refine ⟨Nat.le_trans h.begun (Nat.le_of_eq epoch.symm), fun current => ?_⟩
      rw [Play.isCurrent_congr epoch] at current
      exact absurd (h.newest current).2.1 stepping

theorem reset_epoch (s : Session d) (now : Float) : (s.reset now).2.epoch = s.epoch + 1 ∧
    s.scheduler.epoch < (s.reset now).2.scheduler.epoch := by
  cases world : s.initialWorld with
  | error f =>
    rw [reset_error world]
    exact ⟨rfl, Nat.lt_succ_self _⟩
  | ok w =>
    rw [reset_ok world]
    refine ⟨rfl, ?_⟩
    rw [Scheduler.prime_epoch, if_neg s.scheduler.cancel_phase_ne_stepping]
    exact Nat.lt_succ_self _

theorem goTo_epoch (s : Session d) (i : Fin s.levels.size) (now : Float) :
    (s.goTo i now).2.epoch = s.epoch + 1 := (reset_epoch _ now).1

theorem keeps_reset (s : Session d) (now : Float) : s.Keeps (s.reset now).2 := by
  obtain ⟨epoch, later⟩ := s.reset_epoch now
  exact keeps_of_lt (by omega) later

theorem keeps_goTo (s : Session d) (i : Fin s.levels.size) (now : Float) :
    s.Keeps (s.goTo i now).2 := by
  obtain ⟨epoch, later⟩ :=
    ({ s with levelIndex := i, failedAttempts := 0, lastRun := none } : Session d).reset_epoch now
  exact keeps_of_lt (Nat.le_trans (Nat.le_succ _) (Nat.le_of_eq epoch.symm)) later

theorem keeps_advance (s : Session d) (now : Float) : s.Keeps (s.advance now).2 := by
  rcases s.advance_cases now with same | ⟨i, moved⟩
  · rw [same]
    exact .refl s
  · rw [moved]
    exact s.keeps_goTo i now

theorem keeps_check (s : Session d) (now : Float) : s.Keeps (s.check now).2 := by
  obtain ⟨a, v, c, f, frame⟩ := s.check_frame now
  rw [frame]
  exact ⟨Nat.le_refl _, fun id play h => ⟨h.begun, h.newest⟩⟩

theorem keeps_close (s : Session d) : s.Keeps s.close :=
  keeps_of_lt (Nat.le_succ _) (Nat.lt_succ_self _)

@[simp] theorem beginRun_epoch (s : Session d) (now : Float) :
    (s.beginRun now).2.epoch = s.epoch + 1 := by
  cases world : s.initialWorld with
  | error f => rw [beginRun_error world]
  | ok w => rw [beginRun_ok world]

/-- A run that begins goes on from there as the newest. -/
theorem launch_continues (s : Session d) (start : Session d → Except Fault (Start d))
    (now : Float) :
    (s.beginRun now).2.Continues (s.beginRun now).2.epoch (s.launch start now) := by
  unfold launch
  cases world : s.initialWorld with
  | error f =>
    rw [beginRun_error world]
    exact .still rfl nofun
  | ok w =>
    rw [beginRun_ok world]
    dsimp only
    split
    next f _ => exact .still rfl nofun
    next x _ => exact .setOut _ _ x

theorem launch_epoch (s : Session d) (start : Session d → Except Fault (Start d)) (now : Float) :
    (s.launch start now).2.epoch = s.epoch + 1 :=
  (s.launch_continues start now).epoch_eq.trans (s.beginRun_epoch now)

end Session

namespace Timeline

variable {d : Domain}

/-- Every run is known by a number of its own, none beyond the epoch, and the replays that runs
pause in are as `Session.Awaits` says. -/
structure Orderly (t : Timeline d) : Prop where
  begun : ∀ run ∈ t.underWay, run.id ≤ t.session.epoch
  distinct : t.underWay.Pairwise fun run other => run.id ≠ other.id
  ended : ∀ r ∈ t.results, r.runId ≤ t.session.epoch ∧ ∀ run ∈ t.underWay, run.id ≠ r.runId
  awaits : ∀ run ∈ t.underWay, ∀ play o, run.waiting = .pause play o →
    t.session.Awaits run.id play

/-- All that a happening can do: no run goes on, or one begins, or one under way goes on. -/
inductive Moves (t : Timeline d) : Timeline d → Prop
  | turns {s : Session d} : t.session.Keeps s → Moves t { t with session := s }
  | begins {s : Session d} {o : Option (Nat × Outcome)}
    {x : Except Fault (Stretch d) × Session d} : t.session.Keeps s →
    t.session.epoch < s.epoch → s.Continues s.epoch x →
    Moves t (({ t with session := s }.arrive o).carry x)
  | resumes {i : Nat} {run : Run d} {o : Option (Nat × Outcome)}
    {x : Except Fault (Stretch d) × Session d} : t.underWay[i]? = some run →
    t.session.Continues run.id x →
    Moves t (({ t with underWay := t.underWay.eraseIdx i }.arrive o).carry x)

theorem launch_moves (t : Timeline d) (start : Session d → Except Fault (Start d)) (now : Float) :
    t.Moves (t.launch start now) := by
  have later : t.session.epoch < (t.session.beginRun now).2.epoch := by
    rw [Session.beginRun_epoch]
    exact Nat.lt_succ_self _
  have moves := Moves.begins (o := t.session.launchOutcome? start now)
    (t.session.keeps_beginRun now) later (t.session.launch_continues start now)
  exact moves

theorem resume_moves {t : Timeline d} (i : Nat) (outcome? : Run d → Option (Nat × Outcome))
    {next : Run d → Except Fault (Stretch d) × Session d}
    (continues : ∀ run ∈ t.underWay, t.session.Continues run.id (next run)) :
    t.Moves (t.resume i outcome? next) := by
  unfold resume
  split
  next => exact .turns (.refl t.session)
  next run taken => exact .resumes taken (continues run (List.mem_of_getElem? taken))

theorem Orderly.moves {t : Timeline d} (orderly : t.Orderly) (h : Happening) :
    t.Moves (t.step h) := by
  cases h with
  | runBlocks workspace now => exact t.launch_moves _ now
  | runSource source language now => exact t.launch_moves _ now
  | reply i reply =>
    exact resume_moves i _ fun run member => .receive run (orderly.awaits run member) reply
  | wake i => exact resume_moves i _ fun run member => .wake run (orderly.awaits run member)
  | reset now => exact .turns (t.session.keeps_reset now)
  | select index now =>
    simp only [step]
    split
    next => exact .turns (.refl t.session)
    next i _ => exact .turns (t.session.keeps_goTo i now)
  | advance now => exact .turns (t.session.keeps_advance now)
  | check now => exact .turns (t.session.keeps_check now)
  | close => exact .turns t.session.keeps_close

/-- A run under way is apart from the others. -/
theorem Orderly.apart {t : Timeline d} (orderly : t.Orderly) {i : Nat} {run other : Run d}
    (taken : t.underWay[i]? = some run) (member : other ∈ t.underWay.eraseIdx i) :
    other.id ≠ run.id := by
  have distinct := List.pairwise_iff_getElem.mp orderly.distinct
  obtain ⟨inside, rfl⟩ := List.getElem?_eq_some_iff.mp taken
  obtain ⟨j, within, apart, rfl⟩ := List.mem_eraseIdx_iff_getElem.mp member
  rcases Nat.lt_or_gt_of_ne apart with before | after
  · exact distinct j i within inside before
  · exact (distinct i j inside within after).symm

theorem Orderly.refresh {t : Timeline d} (orderly : t.Orderly) {s : Session d}
    (keeps : t.session.Keeps s) : ({ t with session := s } : Timeline d).Orderly where
  begun run member := Nat.le_trans (orderly.begun run member) keeps.1
  distinct := orderly.distinct
  ended r member :=
    ⟨Nat.le_trans (orderly.ended r member).1 keeps.1, (orderly.ended r member).2⟩
  awaits run member play o waiting :=
    keeps.2 run.id play (orderly.awaits run member play o waiting)

/-- The run `k` goes on, while it is in none of the lists. -/
theorem Orderly.carry {t : Timeline d} (orderly : t.Orderly) {k : Nat}
    (begun : k ≤ t.session.epoch) (apart : ∀ run ∈ t.underWay, run.id ≠ k)
    (unfinished : ∀ r ∈ t.results, r.runId ≠ k) {x : Except Fault (Stretch d) × Session d}
    (continues : t.session.Continues k x) : (t.carry x).Orderly := by
  have epoch : (t.carry x).session.epoch = t.session.epoch := continues.epoch_eq
  refine ⟨fun run member => ?_, ?_, fun r member => ?_, fun run member play o waiting => ?_⟩
  · rw [epoch]
    rcases mem_underWay_carry.mp member with old | new
    · exact orderly.begun run old
    · rw [(continues.own run new).1]
      exact begun
  · refine List.pairwise_append.mpr ⟨orderly.distinct, ?_, fun run old other new => ?_⟩
    · cases Stretch.run? x.1 <;> simp
    · rw [(continues.own other (Option.mem_toList.mp new)).1]
      exact apart run old
  · rw [epoch]
    rcases mem_results_carry.mp member with old | returned
    · refine ⟨(orderly.ended r old).1, fun run member => ?_⟩
      rcases mem_underWay_carry.mp member with under | new
      · exact (orderly.ended r old).2 run under
      · rw [(continues.own run new).1]
        exact (unfinished r old).symm
    · rw [(continues.returns r returned).1]
      refine ⟨begun, fun run member => ?_⟩
      rcases mem_underWay_carry.mp member with under | new
      · exact apart run under
      · rw [Stretch.result?_eq_none new] at returned
        cases returned
  · rcases mem_underWay_carry.mp member with old | new
    · exact continues.others run.id play (apart run old) (orderly.awaits run old play o waiting)
    · obtain ⟨same, awaits⟩ := continues.own run new
      rw [same]
      exact awaits play o waiting

theorem Orderly.erase {t : Timeline d} (orderly : t.Orderly) (i : Nat) :
    ({ t with underWay := t.underWay.eraseIdx i } : Timeline d).Orderly where
  begun run member := orderly.begun run (List.mem_of_mem_eraseIdx member)
  distinct := orderly.distinct.sublist (List.eraseIdx_sublist _ _)
  ended r member := ⟨(orderly.ended r member).1, fun run kept =>
    (orderly.ended r member).2 run (List.mem_of_mem_eraseIdx kept)⟩
  awaits run member := orderly.awaits run (List.mem_of_mem_eraseIdx member)

theorem Orderly.arrive {t : Timeline d} (orderly : t.Orderly) (o : Option (Nat × Outcome)) :
    (t.arrive o).Orderly := ⟨orderly.begun, orderly.distinct, orderly.ended, orderly.awaits⟩

theorem Orderly.of_moves {t t' : Timeline d} (orderly : t.Orderly) (moves : t.Moves t') :
    t'.Orderly := by
  cases moves with
  | turns keeps => exact orderly.refresh keeps
  | begins keeps later continues =>
    refine ((orderly.refresh keeps).arrive _).carry (Nat.le_refl _) ?_ ?_ continues
    · intro run member
      exact Nat.ne_of_lt (Nat.lt_of_le_of_lt (orderly.begun run member) later)
    · intro r member
      exact Nat.ne_of_lt (Nat.lt_of_le_of_lt (orderly.ended r member).1 later)
  | @resumes i run o x taken continues =>
    have member : run ∈ t.underWay := List.mem_of_getElem? taken
    refine ((orderly.erase i).arrive o).carry (orderly.begun run member) ?_ ?_ continues
    · exact fun other kept => orderly.apart taken kept
    · exact fun r old => ((orderly.ended r old).2 run member).symm

theorem Orderly.step {t : Timeline d} (orderly : t.Orderly) (h : Happening) :
    (t.step h).Orderly := orderly.of_moves (orderly.moves h)

theorem Orderly.foldl {t : Timeline d} (orderly : t.Orderly) (hs : List Happening) :
    (hs.foldl Timeline.step t).Orderly := by
  induction hs generalizing t with
  | nil => exact orderly
  | cons h hs ih => exact ih (orderly.step h)

theorem orderly_history (s : Session d) (hs : List Happening) : (history s hs).Orderly := by
  have start : ({ session := s } : Timeline d).Orderly :=
    ⟨nofun, .nil, nofun, nofun⟩
  exact start.foldl hs

/-- The run `k` is no longer the newest, and has not completed. -/
structure Superseded (t : Timeline d) (k : Nat) : Prop where
  older : k < t.session.epoch
  incomplete : ∀ r ∈ t.results, r.runId = k → r.status ≠ .completed

theorem Superseded.carry {t : Timeline d} {k j : Nat} (old : t.Superseded k)
    {x : Except Fault (Stretch d) × Session d} (continues : t.session.Continues j x) :
    (t.carry x).Superseded k := by
  have epoch : (t.carry x).session.epoch = t.session.epoch := continues.epoch_eq
  refine ⟨by rw [epoch]; exact old.older, fun r member same => ?_⟩
  rcases mem_results_carry.mp member with before | new
  · exact old.incomplete r before same
  · obtain ⟨own, newest⟩ := continues.returns r new
    intro completed
    have older := old.older
    have now := newest completed
    omega

theorem Superseded.of_moves {t t' : Timeline d} {k : Nat} (old : t.Superseded k)
    (moves : t.Moves t') : t'.Superseded k := by
  cases moves with
  | turns keeps => exact ⟨Nat.lt_of_lt_of_le old.older keeps.1, old.incomplete⟩
  | @begins s o x keeps _ continues =>
    have refreshed : ({ t with session := s }.arrive o : Timeline d).Superseded k :=
      ⟨Nat.lt_of_lt_of_le old.older keeps.1, old.incomplete⟩
    exact refreshed.carry continues
  | @resumes i run o x _ continues =>
    have erased : ({ t with underWay := t.underWay.eraseIdx i }.arrive o :
        Timeline d).Superseded k := ⟨old.older, old.incomplete⟩
    exact erased.carry continues

theorem Superseded.foldl {t : Timeline d} {k : Nat} (orderly : t.Orderly)
    (old : t.Superseded k) (hs : List Happening) : (hs.foldl Timeline.step t).Superseded k := by
  induction hs generalizing t with
  | nil => exact old
  | cons h hs ih => exact ih (orderly.step h) (old.of_moves (orderly.moves h))

theorem Orderly.superseded {t : Timeline d} (orderly : t.Orderly) {run : Run d}
    (member : run ∈ t.underWay) (older : run.id < t.session.epoch) : t.Superseded run.id :=
  ⟨older, fun r returned same => absurd same.symm ((orderly.ended r returned).2 run member)⟩

/-- Another run that begins supersedes every run under way. -/
theorem Orderly.superseded_launch {t : Timeline d} (orderly : t.Orderly) {run : Run d}
    (member : run ∈ t.underWay) (start : Session d → Except Fault (Start d)) (now : Float) :
    (t.launch start now).Superseded run.id := by
  have begun := orderly.begun run member
  have later : run.id < (t.session.beginRun now).2.epoch := by
    rw [Session.beginRun_epoch]
    omega
  have refreshed : ({ t with session := (t.session.beginRun now).2 }.arrive
      (t.session.launchOutcome? start now) : Timeline d).Superseded run.id :=
    ⟨later, fun r returned same => absurd same.symm ((orderly.ended r returned).2 run member)⟩
  exact refreshed.carry (t.session.launch_continues start now)

theorem Orderly.superseded_step {t : Timeline d} (orderly : t.Orderly) {run : Run d}
    (member : run ∈ t.underWay) {h : Happening} (isRun : h.isRun = true) :
    (t.step h).Superseded run.id := by
  cases h with
  | runBlocks workspace now => exact orderly.superseded_launch member _ now
  | runSource source language now => exact orderly.superseded_launch member _ now
  | _ => cases isRun

/-- A superseded run leaves the session alone whenever it goes on. -/
theorem Orderly.inert {t : Timeline d} (orderly : t.Orderly) {run : Run d}
    (member : run ∈ t.underWay) (older : run.id < t.session.epoch) :
    (∀ reply, (t.session.receive run reply).2 = t.session) ∧
      (t.session.wake run).2 = t.session := by
  have awaits := orderly.awaits run member
  have stale : run.id ≠ t.session.epoch := Nat.ne_of_lt older
  exact ⟨fun reply => (Session.Continues.receive run awaits reply).stale stale,
    (Session.Continues.wake run awaits).stale stale⟩

/-- From the moment that the epoch has moved past a run, the run changes nothing in the session,
whatever comes to it, and it never completes. So of runs that overlap only the last one begun can
complete: beginning it moves the epoch past the others. -/
theorem superseded_inert (s : Session d) (hs hs' : List Happening) :
    (∀ run ∈ (history s hs).underWay, run.id < (history s hs).session.epoch →
      let t := history s (hs ++ hs')
      run.id < t.session.epoch ∧
      (∀ later ∈ t.underWay, later.id = run.id →
        (∀ reply, (t.session.receive later reply).2 = t.session) ∧
          (t.session.wake later).2 = t.session) ∧
      ∀ r ∈ t.results, r.runId = run.id → r.status ≠ .completed) ∧
    ∀ run ∈ (history s hs).underWay, ∀ h, h.isRun = true →
      ∀ r ∈ (history s (hs ++ h :: hs')).results, r.runId = run.id → r.status ≠ .completed := by
  have orderly := orderly_history s hs
  refine ⟨fun run member older => ?_, fun run member h isRun => ?_⟩
  · intro t
    have old : t.Superseded run.id := by
      have superseded := (orderly.superseded member older).foldl orderly hs'
      rwa [← history_append] at superseded
    refine ⟨old.older, fun later under same => ?_, old.incomplete⟩
    exact (orderly_history s (hs ++ hs')).inert under (by rw [same]; exact old.older)
  · have old := (orderly.superseded_step member isRun).foldl (orderly.step h) hs'
    rw [history_append, List.foldl_cons]
    exact old.incomplete

/-- A script waits for its reply while the learner starts over. -/
theorem superseded_inert_reset :
    let l : Console.Level := { header := { id := .number 1, name := "Hello" }, goal := .free 1 }
    let s : Session .math :=
      { id := "s", config := {}, executor := some {}, levels := #[l], levelIndex := ⟨0, by decide⟩
        scheduler := {}, createdAt := 0, lastActive := 0 }
    let hs : List Happening := [.runSource "" Script.languageId 0, .reset 0]
    ∃ run ∈ (history s hs).underWay, run.id = 1 ∧ (history s hs).session.epoch = 2 ∧
      ∀ hs', ∀ r ∈ (history s (hs ++ hs')).results, r.runId = run.id → r.status ≠ .completed := by
  intro l s hs
  have ids : (history s hs).underWay.map Run.id = [1] := by rfl
  have epoch : (history s hs).session.epoch = 2 := by rfl
  obtain ⟨run, member, id⟩ : ∃ run ∈ (history s hs).underWay, run.id = 1 :=
    List.mem_map.mp (by rw [ids]; exact List.mem_singleton_self 1)
  refine ⟨run, member, id, epoch, fun hs' => ?_⟩
  exact ((superseded_inert s hs hs').1 run member (by omega)).2.2

end Timeline

end PuzzleWorlds
