import Mathlib.Data.List.Induction
import PuzzleWorlds.Proofs.LiveWorld
import PuzzleWorlds.Proofs.StaleRuns

/-! Earned progress. The verdict that lets a learner go on is kept beside the live world. It is one
on that world, unless it was asked for while the newest run still waited for its reply: what comes
of the reply is replayed under the verdict, which is then one on the world that the level begins
with. -/

namespace PuzzleWorlds

variable {d : Domain}

/-- Whether the goal of a level is reached. -/
def Domain.reaches (d : Domain) (l : d.Level) (w : d.World) (log : ActionLog) : Bool :=
  match d.checkGoal l w log with
  | .ok v => v.success
  | .error _ => false

/-- Whether a run has sent its program away and waits for the reply. -/
def Run.isSent (run : Run d) : Bool :=
  match run.waiting with
  | .reply .. => true
  | .pause .. => false

/-- A stretch after which no program is on its way. -/
def Stretch.Settled (x : Except Fault (Stretch d)) : Prop :=
  ∀ run, Stretch.run? x = some run → run.isSent = false

namespace Session

variable {s : Session d}

/-- The live world reaches the goal. -/
def Reached (s : Session d) : Prop :=
  ∃ w, s.scheduler.world = some w ∧ d.reaches s.level w s.scheduler.log = true

instance (s : Session d) : Decidable s.Reached :=
  match shown : s.scheduler.world with
  | none => isFalse fun ⟨_, here, _⟩ => nomatch shown.symm.trans here
  | some w => decidable_of_iff (d.reaches s.level w s.scheduler.log = true)
    ⟨fun h => ⟨w, shown, h⟩, fun ⟨_, here, h⟩ => Option.some.inj (shown.symm.trans here) ▸ h⟩

/-- The level reaches its goal before anything is done. -/
def ReachedAtOnce (s : Session d) : Prop :=
  ∃ w, s.initialWorld = .ok w ∧ d.reaches s.level w d.newLog = true

instance (s : Session d) : Decidable s.ReachedAtOnce :=
  match begins : s.initialWorld with
  | .error _ => isFalse fun ⟨_, there, _⟩ => nomatch begins.symm.trans there
  | .ok w => decidable_of_iff (d.reaches s.level w d.newLog = true)
    ⟨fun h => ⟨w, begins, h⟩, fun ⟨_, there, h⟩ => Except.ok.inj (begins.symm.trans there) ▸ h⟩

/-- The level was passed, and is not one for free play. -/
def Passed (s : Session d) : Prop :=
  (s.lastVerdict.any fun v => v.success) = true ∧ Domain.Level.isFree s.level = false

/-- The live world is that of the level, where nothing has been done yet. -/
structure Untouched (s : Session d) : Prop where
  primed : s.scheduler.phase = .priming
  world : ∃ w, s.initialWorld = .ok w ∧ s.scheduler.world = some w ∧ s.scheduler.log = d.newLog

theorem Reached.atOnce (h : s.Reached) (untouched : s.Untouched) : s.ReachedAtOnce := by
  obtain ⟨w, here, reaches⟩ := h
  obtain ⟨v, begins, there, log⟩ := untouched.world
  obtain rfl : w = v := Option.some.inj (here.symm.trans there)
  rw [log] at reaches
  exact ⟨w, begins, reaches⟩

theorem not_passed_of_none (h : s.lastVerdict = none) : ¬s.Passed := by
  rintro ⟨success, _⟩
  rw [h] at success
  cases success

/-- Only a level that was passed is left for the next one. -/
theorem passed_of_advance {now : Float} (goes : (s.advance now).1 = .ok true) : s.Passed := by
  unfold advance at goes
  split at goes
  next can =>
    simp only [canAdvance, Bool.and_eq_true, Bool.not_eq_true'] at can
    exact can.1
  next => cases goes

theorem judge_frame (s : Session d) (v : Verdict) : ∃ completed failedAttempts,
    s.judge v = { s with lastVerdict := some v, completed, failedAttempts } := by
  unfold judge
  split
  · exact ⟨_, _, rfl⟩
  · exact ⟨_, _, rfl⟩

/-- A check is refused, or judges the live world. -/
theorem check_cases (s : Session d) (now : Float) {w : d.World}
    (shown : s.scheduler.world = some w) :
    (s.check now).2 = s.touch now ∨ ∃ v, (s.check now).2 = (s.touch now).judge v ∧
      d.checkGoal s.level w s.scheduler.log = .ok v ∧
      (s.scheduler.phase = .stepping → Domain.Level.isFree s.level = true) := by
  unfold check
  dsimp only
  split
  next => exact .inl rfl
  next unrefused =>
    have world : (s.touch now).scheduler.world = some w := shown
    have same : d.checkGoal (s.touch now).level w (s.touch now).scheduler.log =
        d.checkGoal s.level w s.scheduler.log := rfl
    simp only [world, pure_bind, same]
    cases judged : d.checkGoal s.level w s.scheduler.log with
    | error f => exact .inl rfl
    | ok v =>
      refine .inr ⟨v, rfl, rfl, fun stepping => ?_⟩
      have running : (s.touch now).isRunning = true := (s.scheduler.isStepping_iff).mpr stepping
      rw [running, Bool.true_and, Bool.not_eq_true, Bool.not_eq_false'] at unrefused
      exact unrefused

@[simp] theorem check_epoch (s : Session d) (now : Float) : (s.check now).2.epoch = s.epoch := by
  obtain ⟨_, _, _, _, frame⟩ := s.check_frame now
  rw [frame]

theorem replayOn_settled (s : Session d) (k : Nat) (play : Play) (o : Outcome)
    (warnings : List String) : Stretch.Settled (s.replayOn k play o warnings).1 := by
  intro run goes
  unfold replayOn at goes
  split at goes
  next => cases goes
  next =>
    cases goes
    rfl
  next => cases goes

theorem finish_settled (s : Session d) (k : Nat) (o : Outcome) (warnings : List String) :
    Stretch.Settled (s.finish k o warnings).1 := by
  have replayed : Stretch.Settled (s.replay k o warnings).1 := by
    unfold replay
    split
    next => nofun
    next => exact replayOn_settled _ _ _ _ _
  unfold finish
  split
  next => nofun
  next =>
    split
    next => exact replayed
    next =>
      split
      next => exact replayed
      next => nofun

theorem receive_settled (s : Session d) (run : Run d) (reply : Executor.Reply) :
    Stretch.Settled (s.receive run reply).1 := by
  unfold receive
  split
  next =>
    split
    next => nofun
    next => exact finish_settled _ _ _ _
  next => exact replayOn_settled _ _ _ _ _

/-- A turn of a replay leaves the scheduler alone unless it steps. -/
theorem replayOn_scheduler (s : Session d) (k : Nat) (play : Play) (o : Outcome)
    (warnings : List String) (still : s.scheduler.phase ≠ .stepping) :
    (s.replayOn k play o warnings).2.scheduler = s.scheduler := by
  have move := play.proceeds s.scheduler
  revert move
  unfold replayOn
  rcases play.proceed s.scheduler with ⟨x, scheduler⟩
  intro move
  cases move with
  | rests =>
    obtain ⟨f, l, frame⟩ := s.conclude_frame k o warnings
      (play.isCurrent s.scheduler && s.scheduler.phase == .settled)
    have kept := congrArg Session.scheduler frame
    exact kept
  | ends _ stepping => exact absurd stepping still
  | fails _ stepping => exact absurd stepping still
  | pauses _ stepping => exact absurd stepping still

/-- A run that has just sent its program away has done nothing yet. -/
theorem launch_untouched {start : Session d → Except Fault (Start d)} {now : Float} {run : Run d}
    (goes : Stretch.run? (s.launch start now).1 = some run) (sent : run.isSent = true) :
    (s.launch start now).2.Untouched := by
  unfold launch at goes ⊢
  cases world : s.initialWorld with
  | error f =>
    rw [beginRun_error world] at goes
    cases goes
  | ok w =>
    rw [beginRun_ok world] at goes ⊢
    dsimp only at goes ⊢
    split at goes
    next => cases goes
    next x _ =>
      cases x with
      | refused => cases goes
      | returned o warnings =>
        have settled := finish_settled _ _ o warnings run goes
        rw [settled] at sent
        cases sent
      | submitted => exact ⟨rfl, w, world, rfl, rfl⟩

theorem launch_lastVerdict (s : Session d) (start : Session d → Except Fault (Start d))
    (now : Float) : (s.launch start now).2.lastVerdict = none := by
  obtain ⟨_, _, _, frame⟩ := (s.launch_continues start now).frame
  rw [frame]
  cases world : s.initialWorld with
  | error f => rw [beginRun_error world]
  | ok w => rw [beginRun_ok world]

theorem reset_lastVerdict (s : Session d) (now : Float) :
    (s.reset now).2.lastVerdict = none := by
  cases world : s.initialWorld with
  | error f => rw [reset_error world]
  | ok w => rw [reset_ok world]

end Session

namespace Timeline

/-- The newest run waits for its reply. -/
def Expects (t : Timeline d) : Prop :=
  ∃ run ∈ t.underWay, run.id = t.session.epoch ∧ run.isSent = true

/-- What a verdict of success is worth, where `hasty` says whether it was asked for while the newest
run waited for its reply. -/
structure Honest (t : Timeline d) (hasty : Prop) : Prop where
  untouched : t.Expects → t.session.Untouched
  verdict : t.session.Passed →
    t.session.Reached ∧ t.session.scheduler.phase ≠ .stepping ∧ (t.Expects → hasty) ∨
      t.session.ReachedAtOnce ∧ hasty ∧ ¬t.Expects

namespace Honest

variable {t t' : Timeline d} {hasty : Prop}

/-- Without a verdict nothing is promised. -/
theorem cleared (none : t.session.lastVerdict = none)
    (untouched : t.Expects → t.session.Untouched) : t.Honest hasty :=
  ⟨untouched, fun passed => absurd passed (Session.not_passed_of_none none)⟩

/-- The bookkeeping has no part in it. -/
theorem of_frame (h : t.Honest hasty) {failedAttempts : Nat} {lastRun : Option RunResult}
    {lastActive : Float}
    (frame : t'.session = { t.session with failedAttempts, lastRun, lastActive })
    (expects : t'.Expects → t.Expects) : t'.Honest hasty where
  untouched waits := by
    obtain ⟨primed, world⟩ := h.untouched (expects waits)
    rw [frame]
    exact ⟨primed, world⟩
  verdict passed := by
    rw [frame] at passed ⊢
    rcases h.verdict passed with ⟨reached, still, early⟩ | ⟨atOnce, early, done⟩
    · exact .inl ⟨reached, still, fun waits => early (expects waits)⟩
    · exact .inr ⟨atOnce, early, fun waits => done (expects waits)⟩

/-- While a replay steps, a verdict is one on the beginning, and it stays so. -/
theorem of_stepping (h : t.Honest hasty) (stepping : t.session.scheduler.phase = .stepping)
    {scheduler : Scheduler d} {failedAttempts : Nat} {lastRun : Option RunResult}
    (frame : t'.session = { t.session with scheduler, failedAttempts, lastRun })
    (expects : t'.Expects → t.Expects) : t'.Honest hasty := by
  have done : ¬t.Expects := by
    intro waits
    have primed := (h.untouched waits).primed
    rw [stepping] at primed
    cases primed
  refine ⟨fun waits => absurd (expects waits) done, fun passed => ?_⟩
  rw [frame] at passed ⊢
  rcases h.verdict passed with ⟨_, still, _⟩ | ⟨atOnce, early, _⟩
  · exact absurd stepping still
  · exact .inr ⟨atOnce, early, fun waits => done (expects waits)⟩

/-- When the reply has come, a verdict is one on the beginning. -/
theorem of_reply (h : t.Honest hasty) (waits : t.Expects)
    {scheduler : Scheduler d} {failedAttempts : Nat} {lastRun : Option RunResult}
    (frame : t'.session = { t.session with scheduler, failedAttempts, lastRun })
    (done : ¬t'.Expects) : t'.Honest hasty := by
  -- Up to now nothing was done in the live world, so it was the world as the level begins.
  refine ⟨fun waits' => absurd waits' done, fun passed => ?_⟩
  rw [frame] at passed ⊢
  rcases h.verdict passed with ⟨reached, _, early⟩ | ⟨_, _, answered⟩
  · exact .inr ⟨reached.atOnce (h.untouched waits), early waits, done⟩
  · exact absurd waits answered

end Honest

/-- A new beginning without a run. -/
theorem Honest.renewed {t : Timeline d} (orderly : t.Orderly) {s : Session d}
    (later : t.session.epoch < s.epoch) (unjudged : s.lastVerdict = none) {hasty : Prop} :
    ({ t with session := s } : Timeline d).Honest hasty := by
  refine .cleared unjudged ?_
  rintro ⟨run, member, newest, _⟩
  have begun := orderly.begun run member
  dsimp only at newest
  omega

theorem Honest.reset {t : Timeline d} (orderly : t.Orderly) (now : Float) {hasty : Prop} :
    ({ t with session := (t.session.reset now).2 } : Timeline d).Honest hasty := by
  refine .renewed orderly ?_ (t.session.reset_lastVerdict now)
  rw [(t.session.reset_epoch now).1]
  exact Nat.lt_succ_self _

theorem Honest.goTo {t : Timeline d} (orderly : t.Orderly) (i : Fin t.session.levels.size)
    (now : Float) {hasty : Prop} :
    ({ t with session := (t.session.goTo i now).2 } : Timeline d).Honest hasty := by
  have epoch := t.session.goTo_epoch i now
  exact .renewed orderly (Nat.lt_of_lt_of_eq (Nat.lt_succ_self _) epoch.symm)
    (Session.reset_lastVerdict _ now)

theorem Honest.launch {t : Timeline d} (orderly : t.Orderly)
    (start : Session d → Except Fault (Start d)) (now : Float) {hasty : Prop} :
    (t.launch start now).Honest hasty := by
  have epoch := t.session.launch_epoch start now
  refine .cleared (t.session.launch_lastVerdict start now) ?_
  rintro ⟨run, member, newest, sent⟩
  rcases mem_underWay_carry.mp member with old | goes
  · have begun := orderly.begun run old
    change run.id = (t.session.launch start now).2.epoch at newest
    omega
  · exact Session.launch_untouched goes sent

/-- A run that waits after a stretch of another one waited before, unless it is what the stretch
left. -/
theorem expects_of_carry {t : Timeline d} {i k : Nat} {o : Option (Nat × Outcome)}
    {x : Except Fault (Stretch d) × Session d} (continues : t.session.Continues k x)
    (waits : (({ t with underWay := t.underWay.eraseIdx i }.arrive o).carry x).Expects) :
    ∃ run, (run ∈ t.underWay.eraseIdx i ∨ Stretch.run? x.1 = some run) ∧
      run.id = t.session.epoch ∧ run.isSent = true := by
  obtain ⟨run, member, newest, sent⟩ := waits
  exact ⟨run, mem_underWay_carry.mp member, newest.trans continues.epoch_eq, sent⟩

/-- A stretch of a run under way that sends nothing away. -/
theorem Honest.resume {t : Timeline d} (orderly : t.Orderly) {hasty : Prop} (h : t.Honest hasty)
    {i : Nat} {run : Run d} (taken : t.underWay[i]? = some run) (o : Option (Nat × Outcome))
    {x : Except Fault (Stretch d) × Session d} (continues : t.session.Continues run.id x)
    (settled : Stretch.Settled x.1)
    (paused : run.isSent = false → t.session.scheduler.phase ≠ .stepping →
      x.2.scheduler = t.session.scheduler) :
    (({ t with underWay := t.underWay.eraseIdx i }.arrive o).carry x).Honest hasty := by
  have member : run ∈ t.underWay := List.mem_of_getElem? taken
  have others (waits : (({ t with underWay := t.underWay.eraseIdx i }.arrive o).carry x).Expects) :
      ∃ other ∈ t.underWay.eraseIdx i, other.id = t.session.epoch ∧ other.isSent = true := by
    obtain ⟨other, kept | goes, newest, sent⟩ := expects_of_carry continues waits
    · exact ⟨other, kept, newest, sent⟩
    · rw [settled other goes] at sent
      cases sent
  have expects (waits : (({ t with underWay := t.underWay.eraseIdx i }.arrive o).carry x).Expects) :
      t.Expects := by
    obtain ⟨other, kept, newest, sent⟩ := others waits
    exact ⟨other, List.mem_of_mem_eraseIdx kept, newest, sent⟩
  obtain ⟨scheduler, failedAttempts, lastRun, frame⟩ := continues.frame
  cases sent : run.isSent with
  | true =>
    by_cases newest : run.id = t.session.epoch
    · refine h.of_reply ⟨run, member, newest, sent⟩ frame fun waits => ?_
      obtain ⟨other, kept, same, _⟩ := others waits
      exact orderly.apart taken kept (same.trans newest.symm)
    · exact h.of_frame (continues.stale newest) expects
  | false =>
    by_cases stepping : t.session.scheduler.phase = .stepping
    · exact h.of_stepping stepping frame expects
    · have kept := paused sent stepping
      rw [frame] at kept
      obtain rfl : scheduler = t.session.scheduler := kept
      exact h.of_frame frame expects

/-- A reply to a run under way. -/
theorem Honest.reply {t : Timeline d} (orderly : t.Orderly) {hasty : Prop} (h : t.Honest hasty)
    (i : Nat) (reply : Executor.Reply) : (t.step (.reply i reply)).Honest hasty := by
  simp only [Timeline.step, Timeline.resume]
  split
  next => exact h
  next run taken =>
    have awaits := orderly.awaits run (List.mem_of_getElem? taken)
    refine h.resume orderly taken _ (.receive run awaits reply)
      (Session.receive_settled _ run reply) fun pauses still => ?_
    cases waiting : run.waiting with
    | reply => simp [Run.isSent, waiting] at pauses
    | pause play o =>
      simp only [Session.receive, waiting]
      exact Session.replayOn_scheduler _ _ play o _ still

/-- A run that waits for a reply is not woken. -/
theorem Honest.wake {t : Timeline d} (orderly : t.Orderly) {hasty : Prop} (h : t.Honest hasty)
    (i : Nat) : (t.step (.wake i)).Honest hasty := by
  simp only [Timeline.step, Timeline.resume]
  split
  next => exact h
  next run taken =>
    have member := List.mem_of_getElem? taken
    have continues := Session.Continues.wake run (orderly.awaits run member)
    cases waiting : run.waiting with
    | reply =>
      have again : t.session.wake run = (.ok { state := .sent run }, t.session) := by
        simp only [Session.wake, waiting]
      refine h.of_frame (congrArg Prod.snd again) fun waits => ?_
      obtain ⟨other, kept | goes, newest, sent⟩ := expects_of_carry continues waits
      · exact ⟨other, List.mem_of_mem_eraseIdx kept, newest, sent⟩
      · rw [again] at goes
        cases goes
        exact ⟨run, member, newest, sent⟩
    | pause play o =>
      have turn : t.session.wake run = t.session.replayOn run.id play o run.warnings := by
        simp only [Session.wake, waiting]
      rw [turn] at continues ⊢
      exact h.resume orderly taken _ continues (Session.replayOn_settled _ _ play o _)
        fun _ still => Session.replayOn_scheduler _ _ play o _ still

theorem Honest.mono {t : Timeline d} {hasty early : Prop} (h : t.Honest hasty)
    (kept : hasty → early) : t.Honest early where
  untouched := h.untouched
  verdict passed := (h.verdict passed).imp
    (fun ⟨reached, still, asked⟩ => ⟨reached, still, fun waits => kept (asked waits)⟩)
    (fun ⟨atOnce, asked, done⟩ => ⟨atOnce, kept asked, done⟩)

/-- A verdict is given on the live world. -/
theorem Honest.check {t : Timeline d} {hasty early : Prop} (h : t.Honest hasty) (now : Float)
    {w : d.World} (shown : t.session.scheduler.world = some w) (kept : hasty → early)
    (asked : t.Expects → early) : (t.step (.check now)).Honest early := by
  rcases t.session.check_cases now shown with same | ⟨v, judged, goal, free⟩
  · exact (h.mono kept).of_frame same fun ⟨run, member, newest, sent⟩ =>
      ⟨run, member, newest.trans (t.session.check_epoch now), sent⟩
  · obtain ⟨c, f, frame⟩ := (t.session.touch now).judge_frame v
    have after : (t.step (.check now)).session = { t.session with
      lastActive := now, lastVerdict := some v, completed := c, failedAttempts := f } :=
      judged.trans frame
    have expects (waits : (t.step (.check now)).Expects) : t.Expects := by
      obtain ⟨run, member, newest, sent⟩ := waits
      rw [after] at newest
      exact ⟨run, member, newest, sent⟩
    refine ⟨fun waits => ?_, fun passed => .inl ⟨?_, ?_, fun waits => asked (expects waits)⟩⟩
    · obtain ⟨primed, world⟩ := h.untouched (expects waits)
      rw [after]
      exact ⟨primed, world⟩
    · rw [after] at passed ⊢
      have success : v.success = true := passed.1
      have reaches : d.reaches t.session.level w t.session.scheduler.log = true := by
        rw [Domain.reaches, goal]
        exact success
      exact ⟨w, shown, reaches⟩
    · rw [after] at passed ⊢
      intro stepping
      have playful := free stepping
      rw [show Domain.Level.isFree t.session.level = false from passed.2] at playful
      cases playful

/-- A check was made while the newest run waited for its reply, and no other run has begun since. -/
def Hasty (s : Session d) (hs : List Happening) : Prop :=
  ∃ before now after, hs = before ++ .check now :: after ∧ (history s before).Expects ∧
    (history s before).session.epoch = (history s hs).session.epoch

theorem history_concat (s : Session d) (hs : List Happening) (h : Happening) :
    history s (hs ++ [h]) = (history s hs).step h := history_append s hs [h]

theorem Hasty.concat {s : Session d} {hs : List Happening} (hasty : Hasty s hs) {h : Happening}
    (epoch : ((history s hs).step h).session.epoch = (history s hs).session.epoch) :
    Hasty s (hs ++ [h]) := by
  obtain ⟨before, now, after, rfl, expects, same⟩ := hasty
  refine ⟨before, now, after ++ [h], by simp, expects, ?_⟩
  rw [history_concat, epoch, same]

theorem Hasty.asked {s : Session d} {hs : List Happening} (expects : (history s hs).Expects)
    (now : Float) : Hasty s (hs ++ [.check now]) := by
  refine ⟨hs, now, [], rfl, expects, ?_⟩
  rw [history_concat]
  exact (Session.check_epoch _ now).symm

theorem resume_epoch {t : Timeline d} (i : Nat) (outcome? : Run d → Option (Nat × Outcome))
    {next : Run d → Except Fault (Stretch d) × Session d}
    (continues : ∀ run ∈ t.underWay, t.session.Continues run.id (next run)) :
    (t.resume i outcome? next).session.epoch = t.session.epoch := by
  unfold Timeline.resume
  split
  next => rfl
  next run taken => exact (continues run (List.mem_of_getElem? taken)).epoch_eq

theorem honest_concat {s : Session d} {hs : List Happening} {h : Happening} (stays : h ≠ .close)
    (live : (history s hs).Live) (honest : (history s hs).Honest (Hasty s hs)) :
    (history s (hs ++ [h])).Honest (Hasty s (hs ++ [h])) := by
  have orderly := orderly_history s hs
  have unchanged (same : (history s hs).step h = history s hs) :
      ((history s hs).step h).Honest (Hasty s (hs ++ [h])) := by
    have epoch := congrArg (fun t : Timeline d => t.session.epoch) same
    rw [same]
    exact honest.mono fun hasty => hasty.concat epoch
  rw [history_concat]
  cases h with
  | runBlocks workspace now => exact .launch orderly _ now
  | runSource source language now => exact .launch orderly _ now
  | reply i reply =>
    exact (honest.reply orderly i reply).mono fun hasty => hasty.concat
      (resume_epoch i _ fun run member => .receive run (orderly.awaits run member) reply)
  | wake i =>
    exact (honest.wake orderly i).mono fun hasty => hasty.concat
      (resume_epoch i _ fun run member => .wake run (orderly.awaits run member))
  | reset now => exact .reset orderly now
  | select index now =>
    cases place : (history s hs).session.position? index with
    | error e => exact unchanged (by simp only [step, place])
    | ok i =>
      simp only [step, place]
      exact .goTo orderly i now
  | advance now =>
    rcases (history s hs).session.advance_cases now with same | ⟨i, moved⟩
    · exact unchanged (by simp only [step, same])
    · simp only [step, moved]
      exact .goTo orderly i now
  | check now =>
    obtain ⟨_, _, shows⟩ := live
    obtain ⟨_, _, faithful⟩ := shows.faithful
    obtain ⟨w, shown, _⟩ := faithful.replayed
    exact honest.check now shown (fun hasty => hasty.concat (Session.check_epoch _ now))
      fun expects => .asked expects now
  | close => exact absurd rfl stays

theorem honest_history {s : Session d} (fresh : s.Fresh) (unjudged : s.lastVerdict = none)
    {hs : List Happening} (stays : Happening.close ∉ hs) :
    (history s hs).Honest (Hasty s hs) := by
  induction hs using List.reverseRecOn with
  | nil => exact .cleared unjudged fun ⟨_, member, _⟩ => nomatch member
  | append_singleton hs h ih =>
    rw [List.mem_append, List.mem_singleton, not_or] at stays
    exact honest_concat (Ne.symm stays.2) (live_history fresh stays.1) (ih stays.1)

/-- Whoever goes on to the next level of an open session has reached the goal of this one, in the
live world as it is. The one exception is a level that reaches its goal before anything is done,
where a check was made while the newest run waited for its reply, and the reply has come since. -/
theorem advance_reached (s : Session d) (fresh : s.Fresh) (unjudged : s.lastVerdict = none)
    (hs : List Happening) (stays : Happening.close ∉ hs) (now : Float)
    (goes : ((history s hs).session.advance now).1 = .ok true) :
    (history s hs).session.Reached ∨
      (history s hs).session.ReachedAtOnce ∧ Hasty s hs ∧ ¬(history s hs).Expects := by
  have honest := honest_history fresh unjudged stays
  rcases honest.verdict (Session.passed_of_advance goes) with ⟨reached, _, _⟩ | exception
  · exact .inl reached
  · exact .inr exception

/-- Two levels with the same potions. -/
def twoShelves (potions : List Int) : Session .sorting :=
  let l : Sorting.Level :=
    { header := { id := .number 1, name := "Shelf" }, potions
      goal := .sortedWithBudget .ascending none }
  { id := "s", config := {}, executor := some { encoded := false }, levels := #[l, l]
    levelIndex := ⟨0, Nat.two_pos⟩, scheduler := Scheduler.prime {} (Sorting.World.initial l)
    createdAt := 0, lastActive := 0 }

/-- The report on a program that swapped the first two potions. -/
def swapped : Executor.Reply := .answered 201 ("\x7b\"status\":\x7b\"id\":3\x7d,\"stdout\":" ++
  "\"@@blockykids:action \x7b\\\"name\\\":\\\"swap\\\",\\\"args\\\":[0,1]\x7d\"\x7d")

theorem advance_ok_of_toOption {t : Timeline d} {now : Float}
    (goes : (t.session.advance now).1.toOption = some true) :
    (t.session.advance now).1 = .ok true := by
  cases ended : (t.session.advance now).1 with
  | error f =>
    rw [ended] at goes
    cases goes
  | ok b =>
    rw [ended] at goes
    exact congrArg Except.ok (Option.some.inj goes)

/-- A shelf is sorted by a script, and checked when the replay is over. -/
theorem advance_reached_swapped :
    let hs : List Happening :=
      [.runSource "tukar(0, 1)" Script.languageId 0, .reply 0 swapped, .wake 0, .check 0]
    ((history (twoShelves [2, 1]) hs).session.advance 0).1 = .ok true ∧
      (history (twoShelves [2, 1]) hs).session.Reached := by
  intro hs
  have computed : ((history (twoShelves [2, 1]) hs).session.advance 0).1.toOption = some true ∧
      ¬(history (twoShelves [2, 1]) hs).session.ReachedAtOnce := by decide +kernel
  have goes := advance_ok_of_toOption computed.1
  have fresh : (twoShelves [2, 1]).Fresh := ⟨_, _, rfl, rfl⟩
  rcases advance_reached _ fresh rfl hs (by simp [hs]) 0 goes with reached | ⟨atOnce, _⟩
  · exact ⟨goes, reached⟩
  · exact absurd atOnce computed.2

/-- A shelf that is sorted from the beginning: the verdict on it lasts, although the reply to the
script that was under way exchanges the potions. -/
theorem advance_unreached :
    let hs : List Happening :=
      [.runSource "tukar(0, 1)" Script.languageId 0, .check 0, .reply 0 swapped]
    (twoShelves [1, 2]).Fresh ∧ (twoShelves [1, 2]).lastVerdict = none ∧ Happening.close ∉ hs ∧
      ((history (twoShelves [1, 2]) hs).session.advance 0).1 = .ok true ∧
      ¬(history (twoShelves [1, 2]) hs).session.Reached := by
  intro hs
  have computed : ((history (twoShelves [1, 2]) hs).session.advance 0).1.toOption = some true ∧
      ¬(history (twoShelves [1, 2]) hs).session.Reached := by decide +kernel
  exact ⟨⟨_, _, rfl, rfl⟩, rfl, by simp [hs], advance_ok_of_toOption computed.1, computed.2⟩

end Timeline

end PuzzleWorlds
