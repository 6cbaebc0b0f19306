import PuzzleWorlds.Proofs.SchedulerReplay
import PuzzleWorlds.Session.Run

/-! What a stretch of a run can do to its session. A run whose replay is not the current one, or
that is no longer the newest, leaves the session as it is; the newest run touches the scheduler and
the bookkeeping of runs, and nothing else. -/

namespace PuzzleWorlds

namespace Play

variable {d : Domain}

theorem isCurrent_iff (p : Play) (s : Scheduler d) : p.isCurrent s = true ↔ s.epoch = p.epoch := by
  simp [isCurrent]

theorem isCurrent_congr {p : Play} {s s' : Scheduler d} (h : s'.epoch = s.epoch) :
    p.isCurrent s' = p.isCurrent s := by simp only [isCurrent, h]

/-- All that a turn of a replay can do: it has nothing to do, or it takes the next action. -/
inductive Proceeds (p : Play) (s : Scheduler d) :
    Except Misfit (Option (Notice d) × Progress) → Scheduler d → Prop
  | rests : ¬(p.isCurrent s = true ∧ s.phase = .stepping) → Proceeds p s (.ok (none, p.finish s)) s
  | ends : p.isCurrent s = true → s.phase = .stepping → s.advance.1 = .ok none →
    Proceeds p s (.ok (none, p.finish s.advance.2)) s.advance.2
  | fails {m : Misfit} : p.isCurrent s = true → s.phase = .stepping →
    Proceeds p s (.error m) s.advance.2
  | pauses {n : Notice d} {seconds : Float} : p.isCurrent s = true → s.phase = .stepping →
    s.advance.1 = .ok (some n) → Proceeds p s (.ok (some n, .pausing seconds)) s.advance.2

theorem proceeds (p : Play) (s : Scheduler d) :
    Proceeds p s (p.proceed s).1 (p.proceed s).2 := by
  by_cases wanted : p.isCurrent s = true ∧ s.phase = .stepping
  · obtain ⟨current, stepping⟩ := wanted
    have turn : p.turn s = s.advance := by
      simp [turn, current, (Scheduler.isStepping_iff s).mpr stepping]
    have still : p.isCurrent s.advance.2 = true := by
      rw [isCurrent_congr s.advance_epoch, current]
    rw [proceed, turn]
    rcases taken : s.advance with ⟨m | none | n, s'⟩
    · have fails : Proceeds p s (.error m) s.advance.2 := .fails current stepping
      rwa [taken] at fails
    · have ends := Proceeds.ends current stepping (by rw [taken])
      rwa [taken] at ends
    · rw [taken] at still
      simp only [pause, still, if_true]
      cases paced : d.pacing n.action with
      | error m =>
        have fails : Proceeds p s (.error m) s.advance.2 := .fails current stepping
        rwa [taken] at fails
      | ok seconds =>
        have pauses : Proceeds p s (.ok (some n, .pausing (seconds * s'.pace))) s.advance.2 :=
          .pauses current stepping (by rw [taken])
        rwa [taken] at pauses
  · have turn : p.turn s = (.ok none, s) := by
      simp only [turn, Scheduler.isStepping, Bool.and_eq_true, beq_iff_eq, if_neg wanted]
    rw [proceed, turn]
    exact .rests wanted

end Play

/-- The run that goes on after a stretch, if one does. -/
def Stretch.run? {d : Domain} : Except Fault (Stretch d) → Option (Run d)
  | .ok ⟨_, .sent run⟩ | .ok ⟨_, .paused _ run⟩ => some run
  | _ => none

/-- What a stretch returned, if the run is over. A run that fails returns nothing. -/
def Stretch.result? {d : Domain} : Except Fault (Stretch d) → Option RunResult
  | .ok ⟨_, .over r⟩ => some r
  | _ => none

/-- A run that goes on has not returned. -/
theorem Stretch.result?_eq_none {d : Domain} {x : Except Fault (Stretch d)} {run : Run d}
    (goes : Stretch.run? x = some run) : Stretch.result? x = none := by
  rcases x with f | ⟨_, r | run | ⟨_, run⟩⟩ <;> simp [Stretch.run?, Stretch.result?] at goes ⊢

namespace Session

variable {d : Domain}

/-- A replay that a run pauses in. As long as it is the current one, its run is the newest, the
scheduler steps, and the level has a world. -/
structure Awaits (s : Session d) (id : Nat) (play : Play) : Prop where
  begun : play.epoch ≤ s.scheduler.epoch
  newest : play.isCurrent s.scheduler = true →
    id = s.epoch ∧ s.scheduler.phase = .stepping ∧ ∃ w, s.initialWorld = .ok w

/-- A later epoch of the scheduler ends the replay. -/
theorem Awaits.of_lt {s s' : Session d} {id : Nat} {play : Play} (h : s.Awaits id play)
    (later : s.scheduler.epoch < s'.scheduler.epoch) : s'.Awaits id play where
  begun := Nat.le_trans h.begun (Nat.le_of_lt later)
  newest current := by
    have same := (play.isCurrent_iff s'.scheduler).mp current
    have before := h.begun
    omega

/-- What a stretch of the run `k` does to a session: it leaves the session as it is unless the run
is the newest, it changes no more than the scheduler and the bookkeeping of runs, and it ends the
replays of other runs or leaves them as they were. -/
structure Continues (s : Session d) (k : Nat) (x : Except Fault (Stretch d) × Session d) :
    Prop where
  frame : ∃ scheduler failedAttempts lastRun,
    x.2 = { s with scheduler, failedAttempts, lastRun }
  stale : k ≠ s.epoch → x.2 = s
  own : ∀ run, Stretch.run? x.1 = some run → run.id = k ∧
    ∀ play o, run.waiting = .pause play o → x.2.Awaits k play
  returns : ∀ r, Stretch.result? x.1 = some r → r.runId = k ∧
    (r.status = .completed → k = s.epoch)
  others : ∀ id play, id ≠ k → s.Awaits id play → x.2.Awaits id play

namespace Continues

variable {s : Session d} {k : Nat}

theorem epoch_eq {x : Except Fault (Stretch d) × Session d} (h : s.Continues k x) :
    x.2.epoch = s.epoch := by
  obtain ⟨_, _, _, frame⟩ := h.frame
  rw [frame]

/-- A run that fails, or is over, and has left the session as it was. -/
theorem still {x : Except Fault (Stretch d)} (ended : Stretch.run? x = none)
    (returned : ∀ r, Stretch.result? x = some r → r.runId = k ∧ r.status ≠ .completed) :
    s.Continues k (x, s) where
  frame := ⟨s.scheduler, s.failedAttempts, s.lastRun, rfl⟩
  stale _ := rfl
  own run goes := by simp [ended] at goes
  returns r same := ⟨(returned r same).1, fun done => absurd done (returned r same).2⟩
  others _ _ _ h := h

theorem failed (s : Session d) (k : Nat) (x : Diagnostic) (replayed : Nat)
    (output warnings : List String) : s.Continues k (s.failed k x replayed output warnings) := by
  by_cases newest : k = s.epoch
  · have same : (k == s.epoch) = true := by simp [newest]
    simp only [Session.failed, finishFailed, same, if_true]
    refine ⟨⟨_, _, _, rfl⟩, fun older => absurd newest older, nofun, ?_, ?_⟩
    · intro r returned
      cases returned
      exact ⟨rfl, nofun⟩
    · exact fun id play _ h => ⟨h.begun, h.newest⟩
  · have older : (k == s.epoch) = false := by simp [newest]
    simp only [Session.failed, finishFailed, older]
    refine still rfl fun r returned => ?_
    cases returned
    exact ⟨rfl, nofun⟩

end Continues

theorem conclude_frame (s : Session d) (k : Nat) (o : Outcome) (warnings : List String)
    (settled : Bool) : ∃ failedAttempts lastRun,
      (s.conclude k o warnings settled).2 = { s with failedAttempts, lastRun } := by
  cases o with
  | finished t output =>
    by_cases newest : (k == s.epoch) = true
    · simp only [conclude, newest, if_true]
      exact ⟨_, _, rfl⟩
    · exact ⟨s.failedAttempts, s.lastRun, by simp only [conclude, if_neg newest]⟩
  | failed x output =>
    by_cases newest : (k == s.epoch) = true
    · simp only [conclude, finishFailed, newest, if_true]
      exact ⟨_, _, rfl⟩
    · exact ⟨s.failedAttempts, s.lastRun, by simp only [conclude, finishFailed, if_neg newest]⟩

theorem conclude_stale {s : Session d} {k : Nat} (older : k ≠ s.epoch) (o : Outcome)
    (warnings : List String) (settled : Bool) : (s.conclude k o warnings settled).2 = s := by
  cases o <;> simp [conclude, finishFailed, older]

@[simp] theorem conclude_runId (s : Session d) (k : Nat) (o : Outcome) (warnings : List String)
    (settled : Bool) : (s.conclude k o warnings settled).1.runId = k := by
  cases o with
  | finished t output => rfl
  | failed x output => simp only [conclude, finishFailed]; split <;> rfl

theorem conclude_completed {s : Session d} {k : Nat} {o : Outcome} {warnings : List String}
    {settled : Bool} (h : (s.conclude k o warnings settled).1.status = .completed) :
    settled = true := by
  cases o with
  | finished t output => cases settled <;> simp [conclude] at h ⊢
  | failed x output =>
    simp only [conclude, finishFailed] at h
    split at h <;> cases h

/-- A replay that goes on keeps the level and its world. -/
theorem Awaits.of_frame {s : Session d} {id : Nat} {play : Play} (h : s.Awaits id play)
    {scheduler : Scheduler d} (epoch : scheduler.epoch = s.scheduler.epoch)
    (phase : s.scheduler.phase = .stepping → scheduler.phase = .stepping)
    (failedAttempts : Nat) (lastRun : Option RunResult) :
    ({ s with scheduler, failedAttempts, lastRun } : Session d).Awaits id play where
  begun := Nat.le_trans h.begun (Nat.le_of_eq epoch.symm)
  newest current := by
    rw [Play.isCurrent_congr epoch] at current
    obtain ⟨newest, stepping, world⟩ := h.newest current
    exact ⟨newest, phase stepping, world⟩

namespace Continues

variable {s : Session d} {k : Nat}

/-- A run whose replay has ended, with the scheduler that it left. -/
theorem conclude {scheduler : Scheduler d} {settled : Bool} (notice : Option (Notice d))
    (o : Outcome) (warnings : List String)
    (stale : k ≠ s.epoch → scheduler = s.scheduler) (done : settled = true → k = s.epoch)
    (others : ∀ id p, id ≠ k → s.Awaits id p → ∀ f l,
      ({ s with scheduler, failedAttempts := f, lastRun := l } : Session d).Awaits id p) :
    s.Continues k
      (.ok ⟨notice, .over (({ s with scheduler } : Session d).conclude k o warnings settled).1⟩,
        (({ s with scheduler } : Session d).conclude k o warnings settled).2) := by
  obtain ⟨f, l, frame⟩ :=
    ({ s with scheduler } : Session d).conclude_frame k o warnings settled
  refine ⟨⟨scheduler, f, l, frame⟩, fun older => ?_, nofun, fun r returned => ?_, ?_⟩
  · obtain rfl := stale older
    exact conclude_stale older o warnings settled
  · cases returned
    exact ⟨conclude_runId .., fun completed => done (conclude_completed completed)⟩
  · intro id p other awaits
    exact frame ▸ others id p other awaits f l

/-- A turn of the replay that the run `k` pauses in. -/
theorem replayOn {play : Play} (h : s.Awaits k play) (o : Outcome) (warnings : List String) :
    s.Continues k (s.replayOn k play o warnings) := by
  have newest : play.isCurrent s.scheduler = true → k = s.epoch := fun c => (h.newest c).1
  have epoch : s.scheduler.advance.2.epoch = s.scheduler.epoch := s.scheduler.advance_epoch
  -- Were the replay of another run the current one too, that run would be the newest as well.
  have others : play.isCurrent s.scheduler = true → ∀ id p, id ≠ k → s.Awaits id p → ∀ f l,
      ({ s with scheduler := s.scheduler.advance.2, failedAttempts := f, lastRun := l } :
        Session d).Awaits id p := by
    intro c id p other awaits f l
    refine ⟨Nat.le_trans awaits.begun (Nat.le_of_eq epoch.symm), fun c' => ?_⟩
    rw [Play.isCurrent_congr epoch] at c'
    exact absurd ((awaits.newest c').1.trans (newest c).symm) other
  have move := play.proceeds s.scheduler
  revert move
  unfold Session.replayOn
  rcases play.proceed s.scheduler with ⟨x, scheduler⟩
  intro move
  cases move with
  | rests =>
    refine conclude none o warnings (fun _ => rfl) (fun settled => newest ?_) ?_
    · exact (Bool.and_eq_true_iff.mp settled).1
    · exact fun id p _ awaits f l => awaits.of_frame rfl (fun stepping => stepping) f l
  | ends c =>
    refine conclude none o warnings ?_ (fun _ => newest c) (others c)
    exact fun older => absurd (newest c) older
  | fails c =>
    refine ⟨⟨_, _, _, rfl⟩, fun older => absurd (newest c) older, nofun, nofun, ?_⟩
    exact fun id p other awaits => others c id p other awaits s.failedAttempts s.lastRun
  | pauses c stepping told =>
    refine ⟨⟨_, _, _, rfl⟩, fun older => absurd (newest c) older, ?_, nofun, ?_⟩
    · intro run goes
      cases goes
      refine ⟨rfl, fun p o' waiting => ?_⟩
      cases waiting
      exact h.of_frame epoch (fun _ => (Scheduler.advance_phase told).trans stepping) _ _
    · exact fun id p other awaits => others c id p other awaits s.failedAttempts s.lastRun

/-- The newest run begins its replay, which ends every other. -/
theorem replay (newest : k = s.epoch) (o : Outcome) (warnings : List String) :
    s.Continues k (s.replay k o warnings) := by
  unfold Session.replay
  cases world : s.initialWorld with
  | error f => exact still rfl nofun
  | ok w =>
    have later : s.scheduler.epoch < (Play.begin s.scheduler o.actions w).2.epoch := by
      simp only [Play.begin, Scheduler.prime_epoch]
      split <;> omega
    have begun : ({ s with scheduler := (Play.begin s.scheduler o.actions w).2 } :
        Session d).Awaits k (Play.begin s.scheduler o.actions w).1 :=
      ⟨Nat.le_refl _, fun _ => ⟨newest, rfl, w, world⟩⟩
    have turn := replayOn begun o warnings
    refine ⟨turn.frame, fun older => absurd newest older, turn.own, turn.returns, ?_⟩
    exact fun id p other awaits => turn.others id p other (awaits.of_lt later)

/-- What follows from an outcome, whichever run it is of. -/
theorem finish (s : Session d) (k : Nat) (o : Outcome) (warnings : List String) :
    s.Continues k (s.finish k o warnings) := by
  unfold Session.finish
  split
  next => exact still rfl fun r returned => by cases returned; exact ⟨rfl, nofun⟩
  next newest =>
    have newest : k = s.epoch := by simpa using newest
    cases o with
    | finished t output => exact replay newest _ warnings
    | failed x output =>
      dsimp only
      split
      · exact replay newest _ warnings
      · exact failed s k x 0 output warnings

/-- The first stretch of a run. -/
theorem setOut (s : Session d) (k : Nat) (x : Start d) : s.Continues k (s.setOut k x) := by
  cases x with
  | refused x warnings => exact failed s k x 0 [] warnings
  | returned o warnings => exact finish s k o warnings
  | submitted p settings r warnings =>
    refine ⟨⟨_, _, _, rfl⟩, fun _ => rfl, fun run goes => ?_, nofun, fun id p _ h => h⟩
    cases goes
    exact ⟨rfl, nofun⟩

/-- A run that the executor answers. -/
theorem receive (run : Run d)
    (h : ∀ play o, run.waiting = .pause play o → s.Awaits run.id play) (reply : Executor.Reply) :
    s.Continues run.id (s.receive run reply) := by
  unfold Session.receive
  split
  next p settings r waiting =>
    split
    next => exact still rfl nofun
    next o _ => exact finish s run.id o run.warnings
  next play o waiting => exact replayOn (h play o waiting) o run.warnings

/-- A run that its pause lets go. -/
theorem wake (run : Run d) (h : ∀ play o, run.waiting = .pause play o → s.Awaits run.id play) :
    s.Continues run.id (s.wake run) := by
  unfold Session.wake
  split
  next waiting =>
    refine ⟨⟨_, _, _, rfl⟩, fun _ => rfl, fun run' goes => ?_, nofun, fun id p _ h => h⟩
    cases goes
    exact ⟨rfl, h⟩
  next play o waiting => exact replayOn (h play o waiting) o run.warnings

end Continues

end Session

end PuzzleWorlds
