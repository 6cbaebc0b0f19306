import PuzzleWorlds.Proofs.EarnedProgress

/-! Ended runs. A run that returns as the newest one leaves its whole trace in the live world, or
what was done before an error where the world shows that, or the level as it begins. It is the last
run of the session, and it counts as an attempt exactly if it failed. Up to then the live world is
its own: untouched while the run waits for its reply, and in its pauses a part of its replay. -/

namespace PuzzleWorlds

variable {d : Domain}

/-- Whether the actions before an error are replayed. -/
def Diagnostic.Shown (x : Diagnostic) (d : Domain) : Prop :=
  x.partialTrace ≠ [] ∧ d.partialReplay = true

theorem Diagnostic.shown_iff (x : Diagnostic) (d : Domain) :
    (!x.partialTrace.isEmpty && d.partialReplay) = true ↔ x.Shown d := by simp [Shown]

/-- Whether the actions of an outcome are replayed. -/
def Outcome.Shown (o : Outcome) (d : Domain) : Prop :=
  match o with
  | .finished .. => True
  | .failed x _ => x.Shown d

/-- The attempts that a run counts as. -/
def RunResult.attempts (r : RunResult) : Nat := if r.status = .failed then 1 else 0

/-- Whatever refuses a program has seen no action of it. -/
def Start.Unacted (x : Except Fault (Start d)) : Prop :=
  ∀ why warnings, x = .ok (.refused why warnings) → why.partialTrace = []

theorem partialTrace_of_compileBlocks {workspace : Value} {x : Diagnostic}
    (h : compileBlocks workspace d = .ok (.failed x)) : x.partialTrace = [] := by
  unfold compileBlocks at h
  split at h
  next => cases h
  next =>
    cases h
    rfl
  next => cases h

theorem partialTrace_of_compileScript {source : String} {l : d.Level} {language : Int}
    {x : Diagnostic} (h : compileScript source l language = .ok (.failed x)) :
    x.partialTrace = [] := by
  unfold compileScript Script.compile at h
  split at h
  next =>
    cases h
    rfl
  next =>
    split at h
    next => cases h
    next =>
      split at h
      next =>
        cases h
        rfl
      next => cases h

namespace Session

variable {s : Session d} {arrivals : List (Nat × Outcome)}

theorem startBlocks_unacted (s : Session d) (workspace : Value) :
    Start.Unacted (s.startBlocks workspace) := by
  intro why warnings refused
  unfold startBlocks at refused
  split at refused
  next => cases refused
  next compiled =>
    cases refused
    exact partialTrace_of_compileBlocks compiled
  next p _ _ => cases executed : s.execute p <;> rw [executed] at refused <;> cases refused

theorem startSource_unacted (s : Session d) (source : String) (language : Int) :
    Start.Unacted (s.startSource source language) := by
  intro why warnings refused
  unfold startSource at refused
  split at refused
  next => cases refused
  next compiled =>
    cases refused
    exact partialTrace_of_compileScript compiled
  next =>
    unfold submit at refused
    split at refused
    next =>
      cases refused
      rfl
    next =>
      split at refused
      next => cases refused
      next => split at refused <;> cases refused

/-- The live world and its log are those of the level after a replay of the trace. -/
def Replayed (s : Session d) (t : Trace) : Prop :=
  ∃ w₀ w, s.initialWorld = .ok w₀ ∧ s.scheduler.world = some w ∧
    d.replay w₀ d.newLog t = .ok (w, s.scheduler.log)

/-- How a session stands when its newest run has returned. -/
structure Ended (s : Session d) (arrivals : List (Nat × Outcome)) (r : RunResult) : Prop where
  recorded : s.lastRun = some r
  status : r.status = .completed ∨ r.status = .failed
  completed : r.status = .completed →
    s.scheduler.phase = .settled ∧ s.scheduler.index = r.trace.length ∧
      r.replayed = r.trace.length ∧ s.Replayed r.trace ∧
      ∃ output, (r.runId, .finished r.trace output) ∈ arrivals
  failed : r.status = .failed → ∃ x, r.diagnostic = some x ∧ r.trace = x.partialTrace ∧
    (x.Shown d → s.Replayed x.partialTrace ∧ r.replayed = x.partialTrace.length) ∧
    (¬x.Shown d → (∃ w, s.initialWorld = .ok w ∧ s.scheduler.world = some w) ∧
      s.scheduler.log = d.newLog ∧ r.replayed = 0)

/-- The live world is a part of the replay of what came to the run `k`. -/
structure Replaying (s : Session d) (arrivals : List (Nat × Outcome)) (k : Nat) (play : Play)
    (o : Outcome) : Prop where
  current : play.isCurrent s.scheduler = true
  stepping : s.scheduler.phase = .stepping
  faithful : ∃ w, s.initialWorld = .ok w ∧ s.scheduler.Faithful w
  trace : s.scheduler.trace = o.actions
  shown : o.Shown d
  arrived : (k, o) ∈ arrivals

/-- How a session stands while its newest run waits. -/
def Stands (s : Session d) (arrivals : List (Nat × Outcome)) (run : Run d) : Prop :=
  match run.waiting with
  | .reply .. => s.Untouched
  | .pause play o => s.Replaying arrivals run.id play o

theorem Ended.arrive {r : RunResult} (h : s.Ended arrivals r) (o : Option (Nat × Outcome)) :
    s.Ended (arrivals ++ o.toList) r where
  recorded := h.recorded
  status := h.status
  completed done := by
    obtain ⟨settled, index, replayed, shows, output, arrived⟩ := h.completed done
    exact ⟨settled, index, replayed, shows, output, List.mem_append_left _ arrived⟩
  failed := h.failed

/-- The replay of what came to the newest run, as it begins. -/
theorem Replaying.start {w : d.World} {o : Outcome} (begins : s.initialWorld = .ok w)
    (shown : o.Shown d) (arrived : (s.epoch, o) ∈ arrivals) :
    ({ s with scheduler := (Play.begin s.scheduler o.actions w).2 } : Session d).Replaying
      arrivals s.epoch (Play.begin s.scheduler o.actions w).1 o where
  current := beq_self_eq_true _
  stepping := rfl
  faithful := ⟨w, begins, .begin s.scheduler o.actions w⟩
  trace := rfl
  shown := shown
  arrived := arrived

theorem Replaying.arrive {k : Nat} {play : Play} {x : Outcome}
    (h : s.Replaying arrivals k play x) (o : Option (Nat × Outcome)) :
    s.Replaying (arrivals ++ o.toList) k play x :=
  ⟨h.current, h.stepping, h.faithful, h.trace, h.shown, List.mem_append_left _ h.arrived⟩

theorem Stands.imp {run : Run d} (h : s.Stands arrivals run) {s' : Session d}
    {arrivals' : List (Nat × Outcome)} (untouched : s.Untouched → s'.Untouched)
    (replaying : ∀ play o, s.Replaying arrivals run.id play o →
      s'.Replaying arrivals' run.id play o) : s'.Stands arrivals' run := by
  unfold Stands at h ⊢
  cases waiting : run.waiting with
  | reply =>
    rw [waiting] at h
    exact untouched h
  | pause play o =>
    rw [waiting] at h
    exact replaying play o h

theorem Stands.arrive {run : Run d} (h : s.Stands arrivals run) (o : Option (Nat × Outcome)) :
    s.Stands (arrivals ++ o.toList) run :=
  h.imp (fun untouched => untouched) fun _ _ replaying => replaying.arrive o

/-- What a stretch of the newest run leaves behind, where the attempts are `n` without the run. -/
structure Accounts (arrivals : List (Nat × Outcome)) (n : Nat)
    (x : Except Fault (Stretch d) × Session d) : Prop where
  waits : ∀ run, Stretch.run? x.1 = some run →
    x.2.failedAttempts = n ∧ x.2.Stands arrivals run
  returns : ∀ r, Stretch.result? x.1 = some r →
    x.2.failedAttempts = n + r.attempts ∧ x.2.Ended arrivals r

namespace Accounts

variable {n : Nat}

/-- An error leaves no run and no result. -/
theorem error (f : Fault) (s : Session d) : Accounts arrivals n (.error f, s) where
  waits run goes := by cases goes
  returns r returned := by cases returned

theorem result {notice : Option (Notice d)} {r : RunResult}
    (attempts : s.failedAttempts = n + r.attempts) (ended : s.Ended arrivals r) :
    Accounts arrivals n (.ok ⟨notice, .over r⟩, s) where
  waits run goes := by cases goes
  returns r' returned := by
    cases returned
    exact ⟨attempts, ended⟩

theorem underWay {x : Except Fault (Stretch d)} {run : Run d} (goes : Stretch.run? x = some run)
    (attempts : s.failedAttempts = n) (stands : s.Stands arrivals run) :
    Accounts arrivals n (x, s) where
  waits run' same := by
    obtain rfl := Option.some.inj (goes.symm.trans same)
    exact ⟨attempts, stands⟩
  returns r returned := by
    rw [Stretch.result?_eq_none goes] at returned
    cases returned

/-- A run that fails with nothing to show. -/
theorem failed (untouched : s.Untouched) {x : Diagnostic} (hidden : ¬x.Shown d)
    (output warnings : List String) :
    Accounts arrivals s.failedAttempts (s.failed s.epoch x 0 output warnings) := by
  obtain ⟨w, begins, here, log⟩ := untouched.world
  simp only [Session.failed, finishFailed, beq_self_eq_true, if_true]
  refine result rfl ⟨rfl, .inr rfl, fun done => ?_, fun _ => ⟨x, rfl, rfl, ?_, ?_⟩⟩
  · cases done
  · exact fun shown => absurd shown hidden
  · exact fun _ => ⟨⟨w, begins, here⟩, log, rfl⟩

/-- The replay of an outcome is at its end. -/
theorem conclude {o : Outcome} (settled : s.scheduler.phase = .settled)
    (replayed : s.Replayed o.actions) (index : s.scheduler.index = o.actions.length)
    (shown : o.Shown d) (arrived : (s.epoch, o) ∈ arrivals) (notice : Option (Notice d))
    (warnings : List String) :
    Accounts arrivals s.failedAttempts
      (.ok ⟨notice, .over (s.conclude s.epoch o warnings true).1⟩,
        (s.conclude s.epoch o warnings true).2) := by
  cases o with
  | finished t output =>
    simp only [Session.conclude, beq_self_eq_true, if_true]
    refine result rfl ⟨rfl, .inl rfl, fun _ => ?_, fun failed => ?_⟩
    · exact ⟨settled, index, index, replayed, output, arrived⟩
    · cases failed
  | failed x output =>
    simp only [Session.conclude, finishFailed, beq_self_eq_true, if_true]
    refine result rfl ⟨rfl, .inr rfl, fun done => ?_, fun _ => ⟨x, rfl, rfl, ?_, ?_⟩⟩
    · cases done
    · exact fun _ => ⟨replayed, index⟩
    · exact fun hidden => absurd shown hidden

/-- A turn of the replay of the newest run. -/
theorem replayOn {play : Play} {o : Outcome} (h : s.Replaying arrivals s.epoch play o)
    (warnings : List String) :
    Accounts arrivals s.failedAttempts (s.replayOn s.epoch play o warnings) := by
  obtain ⟨w₀, begins, before⟩ := h.faithful
  have faithful := before.advance h.stepping
  have trace : s.scheduler.advance.2.trace = o.actions := s.scheduler.advance_trace.trans h.trace
  have current : play.isCurrent s.scheduler.advance.2 = true :=
    (Play.isCurrent_congr s.scheduler.advance_epoch).trans h.current
  have move := play.proceeds s.scheduler
  revert move
  unfold Session.replayOn
  rcases play.proceed s.scheduler with ⟨x, scheduler⟩
  intro move
  cases move with
  | rests idle => exact absurd ⟨h.current, h.stepping⟩ idle
  | ends _ _ used =>
    have settled := Scheduler.settled_of_advance used
    have index := faithful.ended settled
    obtain ⟨w, here, replayed⟩ := faithful.replayed
    rw [index, List.take_length, trace] at replayed
    have done : (play.isCurrent s.scheduler.advance.2 &&
        s.scheduler.advance.2.phase == .settled) = true := by simp [current, settled]
    have ended := Accounts.conclude (s := { s with scheduler := s.scheduler.advance.2 })
      settled ⟨w₀, w, begins, here, replayed⟩ (trace ▸ index) h.shown h.arrived none warnings
    dsimp only [Play.finish]
    rw [done]
    exact ended
  | fails => exact error _ _
  | pauses _ _ told =>
    refine underWay rfl rfl ⟨current, ?_, ⟨w₀, begins, faithful⟩, trace, h.shown, h.arrived⟩
    exact (Scheduler.advance_phase told).trans h.stepping

/-- The newest run begins its replay. -/
theorem replay {o : Outcome} (shown : o.Shown d) (arrived : (s.epoch, o) ∈ arrivals)
    (warnings : List String) :
    Accounts arrivals s.failedAttempts (s.replay s.epoch o warnings) := by
  unfold Session.replay
  cases begins : s.initialWorld with
  | error f => exact error _ _
  | ok w => exact .replayOn (.start begins shown arrived) warnings

/-- What follows from an outcome of the newest run. -/
theorem finish (untouched : s.Untouched) {o : Outcome}
    (arrived : (s.epoch, o) ∈ arrivals) (warnings : List String) :
    Accounts arrivals s.failedAttempts (s.finish s.epoch o warnings) := by
  have newest : (s.epoch != s.epoch) = false := by simp
  unfold Session.finish
  rw [newest, if_neg Bool.false_ne_true]
  cases o with
  | finished t output => exact Accounts.replay (o := .finished t output) trivial arrived warnings
  | failed x output =>
    dsimp only
    by_cases shown : x.Shown d
    · rw [if_pos ((x.shown_iff d).mpr shown)]
      exact Accounts.replay (o := .failed x output) shown arrived warnings
    · rw [if_neg (mt (x.shown_iff d).mp shown)]
      exact .failed untouched shown output warnings

/-- The first stretch of the newest run. -/
theorem setOut (untouched : s.Untouched) {x : Start d} (unacted : Start.Unacted (.ok x))
    (arrived : ∀ o warnings, x = .returned o warnings → (s.epoch, o) ∈ arrivals) :
    Accounts arrivals s.failedAttempts (s.setOut s.epoch x) := by
  cases x with
  | refused x warnings =>
    exact .failed untouched (fun shown => shown.1 (unacted x warnings rfl)) [] warnings
  | returned o warnings => exact .finish untouched (arrived o warnings rfl) warnings
  | submitted p settings r warnings =>
    exact underWay rfl rfl untouched

/-- A run begins, and is the newest. -/
theorem launch (s : Session d) (arrivals : List (Nat × Outcome))
    {start : Session d → Except Fault (Start d)} (unacted : ∀ s, Start.Unacted (start s))
    (now : Float) :
    Accounts (arrivals ++ (s.launchOutcome? start now).toList) s.failedAttempts
      (s.launch start now) := by
  unfold Session.launch launchOutcome?
  cases begins : s.initialWorld with
  | error f =>
    rw [beginRun_error begins]
    exact error _ _
  | ok w =>
    have begun : s.beginRun now = (.ok (s.beginRun now).2.epoch, (s.beginRun now).2) := by
      rw [beginRun_ok begins]
    have untouched : (s.beginRun now).2.Untouched := by
      rw [beginRun_ok begins]
      exact ⟨rfl, w, begins, rfl, rfl⟩
    have attempts : (s.beginRun now).2.failedAttempts = s.failedAttempts := by
      rw [beginRun_ok begins]
    rw [begun, ← attempts]
    generalize (s.beginRun now).2 = s' at untouched ⊢
    dsimp only
    cases sets : start s' with
    | error f => exact error _ _
    | ok x =>
      refine .setOut untouched (sets ▸ unacted s') ?_
      rintro o warnings rfl
      simp

/-- The newest run goes on with a reply. -/
theorem receive {run : Run d} (newest : run.id = s.epoch) (h : s.Stands arrivals run)
    (reply : Executor.Reply) :
    Accounts (arrivals ++ (s.replyOutcome? run reply).toList) s.failedAttempts
      (s.receive run reply) := by
  unfold Stands at h
  cases waiting : run.waiting with
  | reply p settings r =>
    rw [waiting] at h
    simp only [Session.receive, replyOutcome?, waiting, newest]
    cases Executor.settle settings s.config.executorTimeoutMs p reply r with
    | error m => exact error _ _
    | ok o => exact .finish h (by simp) run.warnings
  | pause play o =>
    rw [waiting, newest] at h
    simp only [Session.receive, replyOutcome?, waiting, newest]
    exact .replayOn (h.arrive none) run.warnings

/-- The newest run is woken. -/
theorem wake {run : Run d} (newest : run.id = s.epoch) (h : s.Stands arrivals run) :
    Accounts arrivals s.failedAttempts (s.wake run) := by
  cases waiting : run.waiting with
  | reply =>
    simp only [Session.wake, waiting]
    exact underWay rfl rfl h
  | pause play o =>
    unfold Stands at h
    rw [waiting, newest] at h
    simp only [Session.wake, waiting, newest]
    exact .replayOn h run.warnings

end Accounts

/-- Whether a check judges the live world and finds that the goal is not reached. -/
def failsCheck (s : Session d) (now : Float) : Bool :=
  !(s.isRunning && !Domain.Level.isFree s.level) &&
    match (s.check now).1 with
    | .ok v => !v.success
    | .error _ => false

theorem check_failedAttempts (s : Session d) (now : Float) :
    (s.check now).2.failedAttempts = s.failedAttempts + (s.failsCheck now).toNat := by
  have running : (s.touch now).isRunning = s.isRunning := rfl
  have level : (s.touch now).level = s.level := rfl
  unfold failsCheck check
  dsimp only
  rw [running, level]
  cases refused : s.isRunning && !Domain.Level.isFree s.level with
  | true => rfl
  | false =>
    simp only [Bool.false_eq_true, if_false]
    split
    next => rfl
    next v _ => cases success : v.success <;> simp [judge, touch, success]

theorem Stands.check {run : Run d} (h : s.Stands arrivals run) (now : Float) :
    (s.check now).2.Stands arrivals run := by
  obtain ⟨_, _, _, _, frame⟩ := s.check_frame now
  rw [frame]
  refine h.imp (fun untouched => ?_) fun _ _ replaying => ?_
  · exact ⟨untouched.primed, untouched.world⟩
  · exact ⟨replaying.current, replaying.stepping, replaying.faithful, replaying.trace,
      replaying.shown, replaying.arrived⟩

theorem Ended.check {r : RunResult} (h : s.Ended arrivals r) (now : Float) :
    (s.check now).2.Ended arrivals r := by
  obtain ⟨_, _, _, _, frame⟩ := s.check_frame now
  rw [frame]
  exact ⟨h.recorded, h.status, h.completed, h.failed⟩

end Session

namespace Timeline

variable {t : Timeline d} {n : Nat}

/-- What is known of the newest run, where the attempts are `n` without it. -/
structure Answers (t : Timeline d) (n : Nat) : Prop where
  waits : ∀ run ∈ t.underWay, run.id = t.session.epoch →
    t.session.failedAttempts = n ∧ t.session.Stands t.arrivals run
  returns : ∀ r ∈ t.results, r.runId = t.session.epoch →
    t.session.failedAttempts = n + r.attempts ∧ t.session.Ended t.arrivals r

/-- A run that begins has a number of its own. -/
theorem Answers.launch (orderly : t.Orderly) {start : Session d → Except Fault (Start d)}
    (unacted : ∀ s, Start.Unacted (start s)) (now : Float) :
    (t.launch start now).Answers t.session.failedAttempts := by
  have epoch : (t.launch start now).session.epoch = t.session.epoch + 1 :=
    t.session.launch_epoch start now
  have accounts := Session.Accounts.launch t.session t.arrivals unacted now
  refine ⟨fun run member newest => ?_, fun r member newest => ?_⟩
  · rcases mem_underWay_carry.mp member with old | goes
    · have begun := orderly.begun run old
      omega
    · exact accounts.waits run goes
  · rcases mem_results_carry.mp member with old | returned
    · have ended := (orderly.ended r old).1
      omega
    · exact accounts.returns r returned

/-- A stretch of a run that was under way. -/
theorem Answers.carry (orderly : t.Orderly) (h : t.Answers n) {i : Nat} {run : Run d}
    (taken : t.underWay[i]? = some run) (o : Option (Nat × Outcome))
    {x : Except Fault (Stretch d) × Session d} (continues : t.session.Continues run.id x)
    (accounts : run.id = t.session.epoch → t.session.Stands t.arrivals run →
      Session.Accounts (t.arrivals ++ o.toList) t.session.failedAttempts x) :
    (({ t with underWay := t.underWay.eraseIdx i }.arrive o).carry x).Answers n := by
  have member : run ∈ t.underWay := List.mem_of_getElem? taken
  have epoch : x.2.epoch = t.session.epoch := continues.epoch_eq
  by_cases newest : run.id = t.session.epoch
  · -- Nothing else is of the newest run.
    obtain ⟨attempts, stands⟩ := h.waits run member newest
    have left := accounts newest stands
    rw [attempts] at left
    refine ⟨fun other among same => ?_, fun r among same => ?_⟩
    · rcases mem_underWay_carry.mp among with old | goes
      · exact absurd (same.trans (epoch.trans newest.symm)) (orderly.apart taken old)
      · exact left.waits other goes
    · rcases mem_results_carry.mp among with old | returned
      · have apart := (orderly.ended r old).2 run member
        exact absurd (same.trans (epoch.trans newest.symm)).symm apart
      · exact left.returns r returned
  · obtain ⟨y, s⟩ := x
    obtain rfl : s = t.session := continues.stale newest
    refine ⟨fun other among same => ?_, fun r among same => ?_⟩
    · rcases mem_underWay_carry.mp among with old | goes
      · obtain ⟨attempts, stands⟩ := h.waits other (List.mem_of_mem_eraseIdx old) same
        exact ⟨attempts, stands.arrive o⟩
      · exact absurd ((continues.own other goes).1.symm.trans same) newest
    · rcases mem_results_carry.mp among with old | returned
      · obtain ⟨attempts, ended⟩ := h.returns r old same
        exact ⟨attempts, ended.arrive o⟩
      · exact absurd ((continues.returns r returned).1.symm.trans same) newest

theorem Answers.resume (orderly : t.Orderly) (h : t.Answers n) (i : Nat)
    (outcome? : Run d → Option (Nat × Outcome))
    {next : Run d → Except Fault (Stretch d) × Session d}
    (continues : ∀ run ∈ t.underWay, t.session.Continues run.id (next run))
    (accounts : ∀ run, run.id = t.session.epoch → t.session.Stands t.arrivals run →
      Session.Accounts (t.arrivals ++ (outcome? run).toList) t.session.failedAttempts (next run)) :
    (t.resume i outcome? next).Answers n := by
  unfold Timeline.resume
  split
  next => exact h
  next run taken =>
    have member := List.mem_of_getElem? taken
    exact h.carry orderly taken (outcome? run) (continues run member) (accounts run)

/-- The attempts that a happening counts as by itself. -/
def misses (t : Timeline d) : Happening → Nat
  | .check now => (t.session.failsCheck now).toNat
  | _ => 0

/-- The failed checks among what happens next. -/
def failedChecks (t : Timeline d) : List Happening → Nat
  | [] => 0
  | h :: hs => t.misses h + (t.step h).failedChecks hs

/-- A check is an attempt of its own, and leaves the live world and the last run as they are. -/
theorem Answers.check (h : t.Answers n) (now : Float) :
    (t.step (.check now)).Answers (n + t.misses (.check now)) := by
  have attempts : (t.step (.check now)).session.failedAttempts =
      t.session.failedAttempts + t.misses (.check now) := t.session.check_failedAttempts now
  have epoch : (t.step (.check now)).session.epoch = t.session.epoch :=
    t.session.check_epoch now
  refine ⟨fun run member newest => ?_, fun r member newest => ?_⟩
  · obtain ⟨before, stands⟩ := h.waits run member (newest.trans epoch)
    exact ⟨by rw [attempts, before], stands.check now⟩
  · obtain ⟨before, ended⟩ := h.returns r member (newest.trans epoch)
    exact ⟨by rw [attempts, before, Nat.add_right_comm], ended.check now⟩

/-- Whatever happens, the newest run is accounted for as long as it stays the newest. -/
theorem Answers.step (orderly : t.Orderly) (h : t.Answers n) {x : Happening}
    (newest : (t.step x).session.epoch = t.session.epoch) :
    (t.step x).Answers (n + t.misses x) := by
  have moved {k : Nat} (later : k = t.session.epoch + 1) : k ≠ t.session.epoch := by omega
  cases x with
  | runBlocks workspace now => exact absurd newest (moved (t.session.launch_epoch _ now))
  | runSource source language now => exact absurd newest (moved (t.session.launch_epoch _ now))
  | reply i reply =>
    exact h.resume orderly i _
      (fun run member => .receive run (orderly.awaits run member) reply)
      fun run newest stands => .receive newest stands reply
  | wake i =>
    exact h.resume orderly i _ (fun run member => .wake run (orderly.awaits run member))
      fun run newest stands => .wake newest (stands.arrive none)
  | reset now => exact absurd newest (moved (t.session.reset_epoch now).1)
  | select index now =>
    simp only [Timeline.step] at newest ⊢
    split at newest
    next => exact h
    next i _ => exact absurd newest (moved (t.session.goTo_epoch i now))
  | advance now =>
    rcases t.session.advance_cases now with same | ⟨i, goes⟩
    · simp only [Timeline.step, same]
      exact h
    · have later := (congrArg Session.epoch goes).trans (t.session.goTo_epoch i now)
      exact absurd newest (moved later)
  | check now => exact h.check now
  | close => exact absurd newest (moved rfl)

theorem epoch_le_step (orderly : t.Orderly) (x : Happening) :
    t.session.epoch ≤ (t.step x).session.epoch := by
  have moves := orderly.moves x
  generalize t.step x = t' at moves
  cases moves with
  | turns keeps => exact keeps.1
  | begins _ later continues => exact Nat.le_of_lt (continues.epoch_eq.symm ▸ later)
  | resumes _ continues => exact Nat.le_of_eq continues.epoch_eq.symm

theorem epoch_le_foldl (orderly : t.Orderly) (hs : List Happening) :
    t.session.epoch ≤ (hs.foldl step t).session.epoch := by
  induction hs generalizing t with
  | nil => exact Nat.le_refl _
  | cons x hs ih => exact Nat.le_trans (epoch_le_step orderly x) (ih (orderly.step x))

theorem Answers.foldl (orderly : t.Orderly) (h : t.Answers n) {hs : List Happening}
    (newest : (hs.foldl Timeline.step t).session.epoch = t.session.epoch) :
    (hs.foldl Timeline.step t).Answers (n + t.failedChecks hs) := by
  induction hs generalizing t n with
  | nil => exact h
  | cons x hs ih =>
    -- The epoch goes up, and is in the end what it was, so it never moved.
    have up := epoch_le_step orderly x
    have on := epoch_le_foldl (orderly.step x) hs
    rw [List.foldl_cons] at newest
    have still : (t.step x).session.epoch = t.session.epoch := by omega
    have rest := ih (orderly.step x) (h.step orderly still) (newest.trans still.symm)
    rwa [Nat.add_assoc] at rest

/-- A run that returns as the newest one has ended as `Session.Ended` says, and the attempts are
those before it, with the failed checks since it began, and one more if it failed. -/
theorem run_ended (s : Session d) (before after : List Happening) (start : Happening)
    (isRun : start.isRun = true) :
    let t := history s before
    let t' := history s (before ++ start :: after)
    ∀ r ∈ t'.results, r.runId = t.session.epoch + 1 → t'.session.epoch = r.runId →
      t'.session.Ended t'.arrivals r ∧ t'.session.failedAttempts =
        t.session.failedAttempts + (t.step start).failedChecks after + r.attempts := by
  intro t t' r member id newest
  have orderly : t.Orderly := orderly_history s before
  have begun : (t.step start).session.epoch = t.session.epoch + 1 ∧
      (t.step start).Answers t.session.failedAttempts := by
    cases start with
    | runBlocks workspace now =>
      exact ⟨t.session.launch_epoch _ now,
        .launch orderly (fun s => s.startBlocks_unacted workspace) now⟩
    | runSource source language now =>
      exact ⟨t.session.launch_epoch _ now,
        .launch orderly (fun s => s.startSource_unacted source language) now⟩
    | _ => cases isRun
  have happens : t' = after.foldl step (t.step start) := history_append s before (start :: after)
  rw [happens] at member newest ⊢
  have answers := begun.2.foldl (orderly.step start) (newest.trans (id.trans begun.1.symm))
  exact (answers.returns r member newest.symm).symm

/-- A shelf is checked while the script that sorts it is on its way: the check fails, the run
completes. -/
theorem run_ended_swapped :
    let start : Happening := .runSource "tukar(0, 1)" Script.languageId 0
    let after : List Happening := [.check 0, .reply 0 swapped, .wake 0]
    let t := history (twoShelves [2, 1]) ([.reset 0] ++ start :: after)
    start.isRun = true ∧ ∃ r ∈ t.results, r.runId = 2 ∧ t.session.epoch = r.runId ∧
      r.status = .completed ∧ t.session.Ended t.arrivals r ∧ t.session.failedAttempts = 1 := by
  intro start after
  have before : (history (twoShelves [2, 1]) [.reset 0]).session.epoch + 1 = 2 ∧
      (history (twoShelves [2, 1]) [.reset 0]).session.failedAttempts = 0 ∧
      ((history (twoShelves [2, 1]) [.reset 0]).step start).failedChecks after = 1 := by
    decide +kernel
  have ended := run_ended (twoShelves [2, 1]) [.reset 0] after start rfl
  have computed : (history (twoShelves [2, 1]) ([.reset 0] ++ start :: after)).results.map
        (fun r => (r.runId, r.status)) = [(2, .completed)] ∧
      (history (twoShelves [2, 1]) ([.reset 0] ++ start :: after)).session.epoch = 2 := by
    decide +kernel
  revert ended computed
  generalize history (twoShelves [2, 1]) ([.reset 0] ++ start :: after) = t
  intro ended computed
  obtain ⟨returned, epoch⟩ := computed
  have among : (2, .completed) ∈ t.results.map (fun r => (r.runId, r.status)) := by
    rw [returned]
    exact List.mem_singleton_self _
  obtain ⟨r, member, same⟩ := List.mem_map.mp among
  obtain ⟨id, completed⟩ := Prod.mk.inj same
  have newest : t.session.epoch = r.runId := epoch.trans id.symm
  obtain ⟨stands, attempts⟩ := ended r member (id.trans before.1.symm) newest
  rw [before.2.1, before.2.2, RunResult.attempts, completed] at attempts
  exact ⟨rfl, r, member, id, newest, completed, stands, attempts⟩

/-- A robot takes one step before its program fails, and the step is shown. -/
example :
    let l : Robot.Level :=
      { header := { id := .number 1, name := "Yard" }, goal := .position 4 0 true }
    let s : Session .robot :=
      { id := "s", config := {}, executor := some { encoded := false }, levels := #[l]
        levelIndex := ⟨0, Nat.one_pos⟩, scheduler := {}, createdAt := 0, lastActive := 0 }
    let broken : Executor.Reply := .answered 201 ("\x7b\"status\":\x7b\"id\":11\x7d," ++
      "\"stdout\":\"@@blockykids:action " ++
      "\x7b\\\"name\\\":\\\"maju\\\",\\\"args\\\":[]\x7d\"," ++
      "\"stderr\":\"ZeroDivisionError\"\x7d")
    let t := history s [.runSource "maju()" Script.languageId 0, .reply 0 broken, .wake 0]
    t.results.map (fun r => (r.status, r.replayed)) = [(.failed, 1)] ∧
      t.session.failedAttempts = 1 ∧ t.session.scheduler.log.entries.length = 1 := by
  decide +kernel

end Timeline

end PuzzleWorlds
