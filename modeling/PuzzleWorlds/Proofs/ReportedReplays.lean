import PuzzleWorlds.Proofs.EndedRuns

/-! Reported replays. A result counts the actions of its own trace that the scheduler took while
the run went on, if the run is still the newest when it returns, and none if it is not. A run that
failed is the exception: when another run overtakes the replay of what it did before its error, it
reports how far the scheduler is with that other run. -/

namespace PuzzleWorlds

variable {d : Domain}

/-- The action that the scheduler took in a stretch, if it took one. -/
def Stretch.taken : Except Fault (Stretch d) → Trace
  | .ok x => x.notice.toList.map Notice.action
  | .error _ => []

/-- The actions of the run `k` in a stretch, of whichever run it is. -/
def Stretch.takenBy (k : Nat) : Option (Nat × Except Fault (Stretch d)) → Trace
  | some (j, x) => if k = j then Stretch.taken x else []
  | none => []

/-- How much of its trace a run under way has replayed, as long as its replay is the current one. -/
def Run.progress (run : Run d) (s : Session d) : Trace :=
  match run.waiting with
  | .reply .. => []
  | .pause _ o => o.actions.take s.scheduler.index

theorem Run.progress_congr {run : Run d} {s s' : Session d}
    (index : s'.scheduler.index = s.scheduler.index) : run.progress s' = run.progress s := by
  simp only [progress, index]

namespace Scheduler

variable {s : Scheduler d}

/-- An action that is told of is the next one of the trace. -/
theorem take_of_advance {n : Notice d} (told : s.advance.1 = .ok (some n)) :
    s.advance.2.trace.take s.advance.2.index = s.trace.take s.index ++ [n.action] := by
  have move := s.advances
  rw [told] at move
  generalize s.advance.2 = s' at move
  cases move with
  | tells next _ _ _ _ same =>
    rw [consume_trace, consume_index, List.take_add_one, next, same]
    rfl

theorem index_of_advance (done : s.advance.1 = .ok none) : s.advance.2.index = s.index := by
  have move := s.advances
  rw [done] at move
  generalize s.advance.2 = s' at move
  cases move
  rfl

end Scheduler

namespace Session

variable {s : Session d} {arrivals : List (Nat × Outcome)} {before : Trace}

/-- A stretch of the newest run, of whose trace the scheduler took `before` until then. -/
structure Counts (before : Trace) (x : Except Fault (Stretch d) × Session d) : Prop where
  waits : ∀ run, Stretch.run? x.1 = some run → before ++ Stretch.taken x.1 = run.progress x.2
  returns : ∀ r, Stretch.result? x.1 = some r →
    r.replayed ≤ r.trace.length ∧ before ++ Stretch.taken x.1 = r.trace.take r.replayed

namespace Counts

theorem error (before : Trace) (f : Fault) (s : Session d) : Counts before (.error f, s) :=
  ⟨nofun, nofun⟩

theorem failed (s : Session d) (x : Diagnostic) (output warnings : List String) :
    Counts [] (s.failed s.epoch x 0 output warnings) := by
  simp only [Session.failed, finishFailed, beq_self_eq_true, if_true]
  refine ⟨by rintro _ ⟨⟩, fun r returned => ?_⟩
  cases returned
  exact ⟨Nat.zero_le _, rfl⟩

/-- The replay of an outcome is at its end. -/
theorem conclude {o : Outcome} (index : s.scheduler.index = o.actions.length)
    (warnings : List String) (settled : Bool) :
    Counts o.actions (.ok ⟨none, .over (s.conclude s.epoch o warnings settled).1⟩,
      (s.conclude s.epoch o warnings settled).2) := by
  cases o with
  | finished t output =>
    simp only [Session.conclude, beq_self_eq_true, if_true, index]
    refine ⟨by rintro _ ⟨⟩, fun r returned => ?_⟩
    cases returned
    exact ⟨Nat.le_refl _, by simp [Stretch.taken, Outcome.actions]⟩
  | failed x output =>
    simp only [Session.conclude, finishFailed, beq_self_eq_true, if_true, index]
    refine ⟨by rintro _ ⟨⟩, fun r returned => ?_⟩
    cases returned
    exact ⟨Nat.le_refl _, by simp [Stretch.taken, Outcome.actions]⟩

/-- A turn of the replay of the newest run. -/
theorem replayOn {play : Play} {o : Outcome} (h : s.Replaying arrivals s.epoch play o)
    (warnings : List String) :
    Counts (o.actions.take s.scheduler.index) (s.replayOn s.epoch play o warnings) := by
  obtain ⟨w₀, begins, faithful⟩ := h.faithful
  have after := faithful.advance h.stepping
  have move := play.proceeds s.scheduler
  revert move
  unfold Session.replayOn
  rcases play.proceed s.scheduler with ⟨x, scheduler⟩
  intro move
  cases move with
  | rests idle => exact absurd ⟨h.current, h.stepping⟩ idle
  | ends _ _ used =>
    have index := after.ended (Scheduler.settled_of_advance used)
    rw [Scheduler.advance_trace, h.trace] at index
    have whole : o.actions.take s.scheduler.index = o.actions := by
      rw [← Scheduler.index_of_advance used, index, List.take_length]
    rw [whole]
    exact conclude (s := { s with scheduler := s.scheduler.advance.2 }) index warnings _
  | fails => exact error _ _ _
  | pauses _ _ told =>
    refine ⟨fun run goes => ?_, nofun⟩
    cases goes
    have taken := Scheduler.take_of_advance told
    rw [Scheduler.advance_trace, h.trace] at taken
    exact taken.symm

/-- The newest run begins its replay. -/
theorem replay {o : Outcome} (shown : o.Shown d) (warnings : List String) :
    Counts [] (s.replay s.epoch o warnings) := by
  unfold Session.replay
  cases begins : s.initialWorld with
  | error f => exact error _ _ _
  | ok w => exact .replayOn (.start begins shown (List.mem_singleton_self (s.epoch, o))) warnings

/-- What follows from an outcome of the newest run. -/
theorem finish (s : Session d) (o : Outcome) (warnings : List String) :
    Counts [] (s.finish s.epoch o warnings) := by
  have newest : (s.epoch != s.epoch) = false := by simp
  unfold Session.finish
  rw [newest, if_neg Bool.false_ne_true]
  cases o with
  | finished t output => exact replay (o := .finished t output) trivial warnings
  | failed x output =>
    dsimp only
    by_cases shown : x.Shown d
    · rw [if_pos ((x.shown_iff d).mpr shown)]
      exact replay (o := .failed x output) shown warnings
    · rw [if_neg (mt (x.shown_iff d).mp shown)]
      exact failed s x output warnings

/-- The first stretch of the newest run. -/
theorem setOut (s : Session d) (x : Start d) : Counts [] (s.setOut s.epoch x) := by
  cases x with
  | refused x warnings => exact failed s x [] warnings
  | returned o warnings => exact finish s o warnings
  | submitted p settings r warnings =>
    refine ⟨fun run goes => ?_, nofun⟩
    cases goes
    rfl

/-- A run begins, and is the newest. -/
theorem launch (s : Session d) (start : Session d → Except Fault (Start d)) (now : Float) :
    Counts [] (s.launch start now) := by
  unfold Session.launch
  cases begins : s.initialWorld with
  | error f =>
    rw [beginRun_error begins]
    exact error _ _ _
  | ok w =>
    have begun : s.beginRun now = (.ok (s.beginRun now).2.epoch, (s.beginRun now).2) := by
      rw [beginRun_ok begins]
    rw [begun]
    generalize (s.beginRun now).2 = s'
    dsimp only
    cases start s' with
    | error f => exact error _ _ _
    | ok x => exact setOut s' x

/-- The newest run goes on with a reply. -/
theorem receive {run : Run d} (newest : run.id = s.epoch) (h : s.Stands arrivals run)
    (reply : Executor.Reply) : Counts (run.progress s) (s.receive run reply) := by
  unfold Stands at h
  unfold Run.progress Session.receive
  cases waiting : run.waiting with
  | reply p settings r =>
    simp only [newest]
    cases Executor.settle settings s.config.executorTimeoutMs p reply r with
    | error m => exact error _ _ _
    | ok o => exact finish s o run.warnings
  | pause play o =>
    rw [waiting, newest] at h
    simp only [newest]
    exact replayOn h run.warnings

/-- The newest run is woken. -/
theorem wake {run : Run d} (newest : run.id = s.epoch) (h : s.Stands arrivals run) :
    Counts (run.progress s) (s.wake run) := by
  unfold Stands at h
  cases waiting : run.waiting with
  | reply =>
    simp only [Session.wake, waiting]
    refine ⟨fun run' goes => ?_, by rintro _ ⟨⟩⟩
    cases goes
    exact List.append_nil _
  | pause play o =>
    rw [waiting, newest] at h
    simp only [Run.progress, Session.wake, waiting, newest]
    exact replayOn h run.warnings

end Counts

/-- What a result of a run that is not the newest reports: where the scheduler is, if the run
failed, or else nothing. -/
def Misses (s : Session d) (x : Except Fault (Stretch d)) : Prop :=
  ∀ r, Stretch.result? x = some r →
    r.replayed = if r.status = .failed then s.scheduler.index else 0

namespace Misses

variable {k : Nat}

theorem replayOn (older : k ≠ s.epoch) {play : Play} (h : s.Awaits k play) (o : Outcome)
    (warnings : List String) : s.Misses (s.replayOn k play o warnings).1 := by
  have past : play.isCurrent s.scheduler ≠ true := fun current => older (h.newest current).1
  have move := play.proceeds s.scheduler
  revert move
  unfold Session.replayOn
  rcases play.proceed s.scheduler with ⟨x, scheduler⟩
  intro move
  cases move with
  | ends current | fails current | pauses current => exact absurd current past
  | rests =>
    intro r returned
    cases returned
    cases o with
    | finished t output =>
      have newest : (k == s.epoch) = false := by simpa using older
      simp only [newest, Bool.false_eq_true, if_false]
      split <;> split <;> simp_all
    | failed x output => simp [finishFailed, older]

theorem finish (older : k ≠ s.epoch) (o : Outcome) (warnings : List String) :
    s.Misses (s.finish k o warnings).1 := by
  have overtaken : (k != s.epoch) = true := by simpa using older
  unfold Session.finish
  rw [if_pos overtaken]
  intro r returned
  cases returned
  rfl

theorem receive {run : Run d} (older : run.id ≠ s.epoch)
    (h : ∀ play o, run.waiting = .pause play o → s.Awaits run.id play) (reply : Executor.Reply) :
    s.Misses (s.receive run reply).1 := by
  unfold Session.receive
  split
  next =>
    split
    next => exact nofun
    next o _ => exact finish older o run.warnings
  next play o waiting => exact replayOn older (h play o waiting) o run.warnings

theorem wake {run : Run d} (older : run.id ≠ s.epoch)
    (h : ∀ play o, run.waiting = .pause play o → s.Awaits run.id play) :
    s.Misses (s.wake run).1 := by
  unfold Session.wake
  split
  next => exact nofun
  next play o waiting => exact replayOn older (h play o waiting) o run.warnings

end Misses

end Session

namespace Timeline

variable {t : Timeline d} {n : Nat}

/-- The run that goes on with a happening, if one does, and its stretch. -/
def stretch? (t : Timeline d) : Happening → Option (Nat × Except Fault (Stretch d))
  | .runBlocks workspace now =>
    some (t.session.epoch + 1, (t.session.launch (fun s => s.startBlocks workspace) now).1)
  | .runSource source language now =>
    some (t.session.epoch + 1, (t.session.launch (fun s => s.startSource source language) now).1)
  | .reply i reply => t.underWay[i]?.map fun run => (run.id, (t.session.receive run reply).1)
  | .wake i => t.underWay[i]?.map fun run => (run.id, (t.session.wake run).1)
  | _ => none

/-- The result that a happening brings. -/
def returned? (t : Timeline d) (h : Happening) : Option RunResult :=
  (t.stretch? h).bind fun x => Stretch.result? x.2

theorem mem_results_resume {i : Nat} {outcome? : Run d → Option (Nat × Outcome)}
    {next : Run d → Except Fault (Stretch d) × Session d} {r : RunResult} :
    r ∈ (t.resume i outcome? next).results ↔
      r ∈ t.results ∨ (t.underWay[i]?.bind fun run => Stretch.result? (next run).1) = some r := by
  unfold Timeline.resume
  cases t.underWay[i]? with
  | none => simp
  | some run => exact mem_results_carry

theorem mem_results_step {h : Happening} {r : RunResult} :
    r ∈ (t.step h).results ↔ r ∈ t.results ∨ t.returned? h = some r := by
  cases h with
  | runBlocks | runSource => exact mem_results_carry
  | reply | wake =>
    simp only [returned?, stretch?, Option.bind_map]
    exact mem_results_resume
  | select index now =>
    simp only [step, returned?, stretch?, Option.bind_none, reduceCtorEq, or_false]
    split <;> rfl
  | _ => simp [step, returned?, stretch?]

/-- Every result was brought by a happening. -/
theorem mem_results_history {s : Session d} {hs : List Happening} {r : RunResult} :
    r ∈ (history s hs).results ↔
      ∃ before h after, hs = before ++ h :: after ∧ (history s before).returned? h = some r := by
  induction hs using List.reverseRecOn with
  | nil => simp [history]
  | append_singleton hs x ih =>
    rw [history_append, List.foldl_cons, List.foldl_nil, mem_results_step, ih]
    constructor
    · rintro (⟨before, h, after, rfl, returned⟩ | returned)
      · exact ⟨before, h, after ++ [x], by simp, returned⟩
      · exact ⟨hs, x, [], rfl, returned⟩
    · rintro ⟨before, h, after, same, returned⟩
      rcases List.eq_nil_or_concat after with rfl | ⟨after, y, rfl⟩
      · obtain ⟨rfl, last⟩ := List.append_inj' same rfl
        cases last
        exact .inr returned
      · rw [List.concat_eq_append, ← List.cons_append, ← List.append_assoc] at same
        obtain ⟨rfl, last⟩ := List.append_inj' same rfl
        exact .inl ⟨before, h, after, rfl, returned⟩

/-- The actions of the run `k` that the scheduler takes with all that happens next. -/
def taken (t : Timeline d) : List Happening → Nat → Trace
  | [], _ => []
  | h :: hs, k => Stretch.takenBy k (t.stretch? h) ++ (t.step h).taken hs k

theorem taken_append (t : Timeline d) (hs hs' : List Happening) (k : Nat) :
    t.taken (hs ++ hs') k = t.taken hs k ++ (hs.foldl step t).taken hs' k := by
  induction hs generalizing t with
  | nil => rfl
  | cons h hs ih => simp only [List.cons_append, taken, ih, List.append_assoc, List.foldl_cons]

/-- A result counts the actions of its own trace that the scheduler took, if its run is still the
newest, or else none. -/
def Reports (t : Timeline d) (r : RunResult) (taken : Trace) : Prop :=
  r.replayed ≤ r.trace.length ∧
    if r.runId = t.session.epoch then taken = r.trace.take r.replayed else r.replayed = 0

/-- What is known of the actions taken so far. -/
structure Counted (t : Timeline d) (taken : Nat → Trace) : Prop where
  later : ∀ k, t.session.epoch < k → taken k = []
  waits : ∀ run ∈ t.underWay, run.id = t.session.epoch → taken run.id = run.progress t.session

/-- What a result reports when it returns, where the scheduler took `taken` of its run. -/
structure Answered (t : Timeline d) (r : RunResult) (taken : Trace) : Prop where
  newest : r.runId = t.session.epoch →
    r.replayed ≤ r.trace.length ∧ taken = r.trace.take r.replayed
  older : r.runId ≠ t.session.epoch →
    r.replayed = if r.status = .failed then t.session.scheduler.index else 0

/-- The counts after a stretch, and what the result that it brings reports. -/
structure Settles (t : Timeline d) (taken : Nat → Trace)
    (x : Option (Nat × Except Fault (Stretch d))) : Prop where
  counted : t.Counted fun k => taken k ++ Stretch.takenBy k x
  answered : ∀ r, (x.bind fun x => Stretch.result? x.2) = some r →
    t.Answered r (taken r.runId ++ Stretch.takenBy r.runId x)

variable {taken : Nat → Trace}

theorem Settles.launch (orderly : t.Orderly) (h : t.Counted taken)
    (start : Session d → Except Fault (Start d)) (now : Float) :
    (t.launch start now).Settles taken
      (some (t.session.epoch + 1, (t.session.launch start now).1)) := by
  have epoch : (t.launch start now).session.epoch = t.session.epoch + 1 :=
    t.session.launch_epoch start now
  have counts := Session.Counts.launch t.session start now
  have unbegun := h.later (t.session.epoch + 1) (Nat.lt_succ_self _)
  refine ⟨⟨fun k later => ?_, fun run member newest => ?_⟩, fun r returned => ?_⟩
  · have apart : k ≠ t.session.epoch + 1 := by omega
    rw [Stretch.takenBy, if_neg apart, h.later k (by omega), List.append_nil]
  · rcases mem_underWay_carry.mp member with old | goes
    · have begun := orderly.begun run old
      omega
    · rw [epoch] at newest
      rw [newest, unbegun, Stretch.takenBy, if_pos rfl]
      exact counts.waits run goes
  · have own := ((t.session.launch_continues start now).returns r returned).1
    rw [Session.beginRun_epoch] at own
    have counted := counts.returns r returned
    rw [own, unbegun, Stretch.takenBy, if_pos rfl]
    exact ⟨fun _ => counted, fun older => absurd (own.trans epoch.symm) older⟩

/-- A stretch of a run that was under way. -/
theorem Settles.carry (orderly : t.Orderly) (h : t.Counted taken) {i : Nat} {run : Run d}
    (taking : t.underWay[i]? = some run) (o : Option (Nat × Outcome))
    {x : Except Fault (Stretch d) × Session d} (continues : t.session.Continues run.id x)
    (counts : run.id = t.session.epoch → Session.Counts (run.progress t.session) x)
    (misses : run.id ≠ t.session.epoch → t.session.Misses x.1) :
    (({ t with underWay := t.underWay.eraseIdx i }.arrive o).carry x).Settles taken
      (some (run.id, x.1)) := by
  have member : run ∈ t.underWay := List.mem_of_getElem? taking
  have begun := orderly.begun run member
  obtain ⟨y, s⟩ := x
  have epoch : s.epoch = t.session.epoch := continues.epoch_eq
  have later : ∀ k, s.epoch < k → taken k ++ Stretch.takenBy k (some (run.id, y)) = [] := by
    intro k later
    rw [Stretch.takenBy, if_neg (by omega), h.later k (epoch ▸ later), List.append_nil]
  by_cases newest : run.id = t.session.epoch
  · have before := h.waits run member newest
    refine ⟨⟨later, fun other among same => ?_⟩, fun r returned => ?_⟩
    · rcases mem_underWay_carry.mp among with old | goes
      · exact absurd (same.trans (epoch.trans newest.symm)) (orderly.apart taking old)
      · rw [(continues.own other goes).1, before, Stretch.takenBy, if_pos rfl]
        exact (counts newest).waits other goes
    · have own := (continues.returns r returned).1
      have counted := (counts newest).returns r returned
      rw [own, before, Stretch.takenBy, if_pos rfl]
      exact ⟨fun _ => counted, fun older =>
        absurd (own.trans (newest.trans epoch.symm)) older⟩
  · -- The session is as it was, and so is the newest run.
    obtain rfl : s = t.session := continues.stale newest
    refine ⟨⟨later, fun other among same => ?_⟩, fun r returned => ?_⟩
    · rcases mem_underWay_carry.mp among with old | goes
      · rw [Stretch.takenBy, if_neg (orderly.apart taking old), List.append_nil]
        exact h.waits other (List.mem_of_mem_eraseIdx old) same
      · exact absurd ((continues.own other goes).1.symm.trans same) newest
    · have own := (continues.returns r returned).1
      exact ⟨fun same => absurd (own.symm.trans same) newest, fun _ => misses newest r returned⟩

/-- No run goes on, and the newest run, if it is still the same, is where it was. -/
theorem Settles.turn (orderly : t.Orderly) (h : t.Counted taken) {s : Session d}
    (up : t.session.epoch ≤ s.epoch)
    (still : s.epoch = t.session.epoch → s.scheduler.index = t.session.scheduler.index) :
    ({ t with session := s } : Timeline d).Settles taken none := by
  refine ⟨⟨fun k later => ?_, fun run member newest => ?_⟩, nofun⟩
  · rw [h.later k (Nat.lt_of_le_of_lt up later)]
    rfl
  · have begun := orderly.begun run member
    have same : s.epoch = t.session.epoch := Nat.le_antisymm (newest ▸ begun) up
    rw [Run.progress_congr (still same)]
    exact (List.append_nil _).trans (h.waits run member (newest.trans same))

theorem Settles.resume (orderly : t.Orderly) (h : t.Counted taken) (i : Nat)
    (outcome? : Run d → Option (Nat × Outcome))
    {next : Run d → Except Fault (Stretch d) × Session d}
    (continues : ∀ run ∈ t.underWay, t.session.Continues run.id (next run))
    (counts : ∀ run ∈ t.underWay, run.id = t.session.epoch →
      Session.Counts (run.progress t.session) (next run))
    (misses : ∀ run ∈ t.underWay, run.id ≠ t.session.epoch → t.session.Misses (next run).1) :
    (t.resume i outcome? next).Settles taken
      (t.underWay[i]?.map fun run => (run.id, (next run).1)) := by
  unfold Timeline.resume
  cases taking : t.underWay[i]? with
  | none => exact .turn orderly h (Nat.le_refl _) fun _ => rfl
  | some run =>
    have member := List.mem_of_getElem? taking
    exact .carry orderly h taking (outcome? run) (continues run member) (counts run member)
      (misses run member)

/-- Whatever happens, the newest run is counted for. -/
theorem Counted.step (orderly : t.Orderly) (answers : t.Answers n) (h : t.Counted taken)
    (x : Happening) : (t.step x).Settles taken (t.stretch? x) := by
  cases x with
  | runBlocks workspace now => exact .launch orderly h _ now
  | runSource source language now => exact .launch orderly h _ now
  | reply i reply =>
    exact .resume orderly h i _ (fun run member => .receive run (orderly.awaits run member) reply)
      (fun run member newest => .receive newest (answers.waits run member newest).2 reply)
      fun run member older => .receive older (orderly.awaits run member) reply
  | wake i =>
    exact .resume orderly h i _ (fun run member => .wake run (orderly.awaits run member))
      (fun run member newest => .wake newest (answers.waits run member newest).2)
      fun run member older => .wake older (orderly.awaits run member)
  | reset now =>
    have moved := (t.session.reset_epoch now).1
    exact .turn orderly h (by omega) (by omega)
  | select index now =>
    simp only [Timeline.step]
    split
    next => exact .turn orderly h (Nat.le_refl _) fun _ => rfl
    next i _ =>
      have moved := t.session.goTo_epoch i now
      exact .turn orderly h (by omega) (by omega)
  | advance now =>
    rcases t.session.advance_cases now with same | ⟨i, goes⟩
    · simp only [Timeline.step, same]
      exact .turn orderly h (Nat.le_refl _) fun _ => rfl
    · have moved := (congrArg Session.epoch goes).trans (t.session.goTo_epoch i now)
      exact .turn orderly h (by omega) (by omega)
  | check now =>
    obtain ⟨_, _, _, _, frame⟩ := t.session.check_frame now
    simp only [Timeline.step, frame]
    exact .turn orderly h (Nat.le_refl _) fun _ => rfl
  | close => exact .turn orderly h (Nat.le_succ _) fun same => absurd same (Nat.succ_ne_self _)

/-- Past the newest run there is nothing to answer for. -/
theorem Answers.turn (orderly : t.Orderly) {s : Session d} (later : t.session.epoch < s.epoch) :
    ({ t with session := s } : Timeline d).Answers n where
  waits run member newest :=
    absurd newest (Nat.ne_of_lt (Nat.lt_of_le_of_lt (orderly.begun run member) later))
  returns r member newest :=
    absurd newest (Nat.ne_of_lt (Nat.lt_of_le_of_lt (orderly.ended r member).1 later))

/-- Whatever happens, the newest run stays accounted for, or another one is. -/
theorem Answers.exists_step (orderly : t.Orderly) (h : t.Answers n) (x : Happening) :
    ∃ m, (t.step x).Answers m := by
  by_cases newest : (t.step x).session.epoch = t.session.epoch
  · exact ⟨_, h.step orderly newest⟩
  have later : t.session.epoch < (t.step x).session.epoch :=
    Nat.lt_of_le_of_ne (epoch_le_step orderly x) (Ne.symm newest)
  cases x with
  | runBlocks workspace now =>
    exact ⟨_, .launch orderly (fun s => s.startBlocks_unacted workspace) now⟩
  | runSource source language now =>
    exact ⟨_, .launch orderly (fun s => s.startSource_unacted source language) now⟩
  | reply i reply =>
    have continues run member := Session.Continues.receive run (orderly.awaits run member) reply
    exact ⟨_, h.resume orderly i _ continues
      fun run newest stands => .receive newest stands reply⟩
  | wake i =>
    have continues run member := Session.Continues.wake run (orderly.awaits run member)
    exact ⟨_, h.resume orderly i _ continues
      fun run newest stands => .wake newest (stands.arrive none)⟩
  | select index now =>
    simp only [Timeline.step] at later ⊢
    split at later
    next => exact absurd later (Nat.lt_irrefl _)
    next i _ => exact ⟨0, .turn orderly later⟩
  | reset | advance | check | close => exact ⟨0, .turn orderly later⟩

theorem counted_foldl (orderly : t.Orderly) (answers : t.Answers n) (h : t.Counted taken)
    (hs : List Happening) :
    (∃ m, (hs.foldl Timeline.step t).Answers m) ∧
      (hs.foldl Timeline.step t).Counted fun k => taken k ++ t.taken hs k := by
  induction hs generalizing t n taken with
  | nil =>
    simp only [Timeline.taken, List.append_nil]
    exact ⟨⟨n, answers⟩, h⟩
  | cons x hs ih =>
    obtain ⟨m, after⟩ := answers.exists_step orderly x
    have rest := ih (orderly.step x) after (h.step orderly answers x).counted
    simp only [Timeline.taken, ← List.append_assoc]
    exact rest

/-- A session that begins has no runs. -/
theorem counted_history (s : Session d) (hs : List Happening) :
    (∃ n, (history s hs).Answers n) ∧
      (history s hs).Counted fun k => ({ session := s } : Timeline d).taken hs k := by
  have orderly : ({ session := s } : Timeline d).Orderly := orderly_history s []
  have answers : ({ session := s } : Timeline d).Answers 0 := ⟨nofun, nofun⟩
  have counted : ({ session := s } : Timeline d).Counted fun _ => [] := ⟨fun _ _ => rfl, nofun⟩
  exact counted_foldl orderly answers counted hs

/-- A result that returns reports the actions of its own trace that the scheduler took, or none if
another run is the newest by then: unless the run failed, another run is the newest, and the
scheduler has taken actions since. -/
theorem reports_iff (s : Session d) (hs : List Happening) (h : Happening) (r : RunResult)
    (returns : (history s hs).returned? h = some r) :
    let t := history s (hs ++ [h])
    t.Reports r (({ session := s } : Timeline d).taken (hs ++ [h]) r.runId) ↔
      (r.status = .failed → r.runId = t.session.epoch ∨ t.session.scheduler.index = 0) := by
  intro t
  obtain ⟨⟨n, answers⟩, counted⟩ := counted_history s hs
  have answered := (counted.step (orderly_history s hs) answers h).answered r returns
  have happens : t = (history s hs).step h := history_append s hs [h]
  have taken : ({ session := s } : Timeline d).taken (hs ++ [h]) r.runId =
      ({ session := s } : Timeline d).taken hs r.runId ++
        Stretch.takenBy r.runId ((history s hs).stretch? h) := by
    rw [taken_append, Timeline.taken, Timeline.taken, List.append_nil]
    rfl
  rw [← happens, ← taken] at answered
  unfold Reports
  by_cases newest : r.runId = t.session.epoch
  · rw [if_pos newest]
    exact ⟨fun _ _ => .inl newest, fun _ => answered.newest newest⟩
  · have replayed := answered.older newest
    rw [if_neg newest]
    by_cases failed : r.status = .failed
    · rw [if_pos failed] at replayed
      constructor
      · exact fun reports _ => .inr (replayed.symm.trans reports.2)
      · intro excused
        have none := replayed.trans ((excused failed).resolve_left newest)
        exact ⟨none ▸ Nat.zero_le _, none⟩
    · rw [if_neg failed] at replayed
      exact ⟨fun _ failed' => absurd failed' failed, fun _ => ⟨replayed ▸ Nat.zero_le _, replayed⟩⟩

/-- A session of a robot that has four cells to its goal. -/
def yard : Session .robot where
  id := "s"
  config := {}
  executor := some { encoded := false }
  levels := #[{ header := { id := .number 1, name := "Yard" }, goal := .position 4 0 true }]
  levelIndex := ⟨0, Nat.one_pos⟩
  scheduler := {}
  createdAt := 0
  lastActive := 0

/-- The reply to a script that takes one step and leaves something on its error stream. -/
def stepped (stderr : String) : Executor.Reply :=
  .answered 201 ("\x7b\"status\":\x7b\"id\":3\x7d," ++
    "\"stdout\":\"@@blockykids:action " ++
    "\x7b\\\"name\\\":\\\"maju\\\",\\\"args\\\":[]\x7d\"," ++
    "\"stderr\":\"" ++ stderr ++ "\"\x7d")

/-- A script fails after its first step. While that step is shown, another script takes one. -/
def overtaken : List Happening :=
  [.runSource "maju()" Script.languageId 0, .reply 0 (stepped "ZeroDivisionError"),
    .runSource "maju()" Script.languageId 0, .reply 1 (stepped "")]

/-- The second script completes, and reports the step that it took. -/
theorem reports_iff_overtaking :
    ∃ r, (history yard overtaken).returned? (.wake 1) = some r ∧ r.runId = 2 ∧ r.replayed = 1 ∧
      (history yard (overtaken ++ [.wake 1])).Reports r
        (({ session := yard } : Timeline .robot).taken (overtaken ++ [.wake 1]) r.runId) := by
  have computed : ((history yard overtaken).returned? (.wake 1)).map
        (fun r => (r.runId, r.status, r.replayed)) = some (2, .completed, 1) := by decide +kernel
  obtain ⟨r, returned, same⟩ := Option.map_eq_some_iff.mp computed
  obtain ⟨id, completed, replayed⟩ : r.runId = 2 ∧ r.status = .completed ∧ r.replayed = 1 := by
    simpa using same
  refine ⟨r, returned, id, replayed, (reports_iff yard overtaken (.wake 1) r returned).mpr ?_⟩
  intro failed
  rw [completed] at failed
  cases failed

/-- The first script reports that step too, though it was overtaken before its end. -/
theorem not_reports_overtaken :
    ∃ r, (history yard overtaken).returned? (.wake 0) = some r ∧ r.status = .failed ∧
      r.runId ≠ (history yard (overtaken ++ [.wake 0])).session.epoch ∧ r.replayed = 1 ∧
      ¬(history yard (overtaken ++ [.wake 0])).Reports r
        (({ session := yard } : Timeline .robot).taken (overtaken ++ [.wake 0]) r.runId) := by
  have computed : ((history yard overtaken).returned? (.wake 0)).map
        (fun r => (r.runId, r.status, r.replayed)) = some (1, .failed, 1) ∧
      (history yard (overtaken ++ [.wake 0])).session.epoch = 2 := by decide +kernel
  obtain ⟨r, returned, same⟩ := Option.map_eq_some_iff.mp computed.1
  obtain ⟨id, failed, replayed⟩ : r.runId = 1 ∧ r.status = .failed ∧ r.replayed = 1 := by
    simpa using same
  have older : r.runId ≠ (history yard (overtaken ++ [.wake 0])).session.epoch := by
    rw [id, computed.2]
    decide
  refine ⟨r, returned, failed, older, replayed, fun reports => ?_⟩
  have silent := reports.2
  rw [if_neg older, replayed] at silent
  cases silent

end Timeline

end PuzzleWorlds
