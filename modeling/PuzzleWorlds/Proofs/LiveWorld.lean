import PuzzleWorlds.Proofs.Timeline

/-! The live world of a session. It is always the replay of the actions consumed so far, from the
world of a level of the pack, and the actions are those of one run. Level and run are the current
ones as long as the current level has a world to begin with. -/

namespace PuzzleWorlds

namespace Scheduler.Faithful

variable {d : Domain} {w₀ : d.World} {s : Scheduler d}

/-- A turn of a replay. -/
theorem proceed (h : s.Faithful w₀) (p : Play) :
    (p.proceed s).2.Faithful w₀ ∧ (p.proceed s).2.trace = s.trace := by
  have move := p.proceeds s
  generalize (p.proceed s).1 = x, (p.proceed s).2 = s' at move
  cases move with
  | rests => exact ⟨h, rfl⟩
  | ends _ stepping => exact ⟨h.advance stepping, s.advance_trace⟩
  | fails _ stepping => exact ⟨h.advance stepping, s.advance_trace⟩
  | pauses _ stepping => exact ⟨h.advance stepping, s.advance_trace⟩

theorem begin (s : Scheduler d) (t : Trace) (w : d.World) :
    (Play.begin s t w).2.Faithful w :=
  (Faithful.prime s w).attach rfl t _

end Scheduler.Faithful

namespace Session

variable {d : Domain}

/-- The scheduler shows the level `l`, in a replay of what came to the run `k`, or with no trace.
They are the current level and run if the current level has a world to begin with. -/
structure Shows (s : Session d) (arrivals : List (Nat × Outcome)) (l : d.Level) (k : Nat) :
    Prop where
  member : l ∈ s.levels
  faithful : ∃ w₀, d.initialWorld l = .ok w₀ ∧ s.scheduler.Faithful w₀
  trace : s.scheduler.trace = [] ∨ ∃ o, (k, o) ∈ arrivals ∧ s.scheduler.trace = o.actions
  current : (∃ w, s.initialWorld = .ok w) → l = s.level ∧ k = s.epoch

def Live (s : Session d) (arrivals : List (Nat × Outcome)) : Prop := ∃ l k, s.Shows arrivals l k

namespace Live

variable {s : Session d} {arrivals : List (Nat × Outcome)}

theorem level_mem (s : Session d) : s.level ∈ s.levels := Array.getElem_mem _

theorem arrive (h : s.Live arrivals) (o : Option (Nat × Outcome)) :
    s.Live (arrivals ++ o.toList) := by
  obtain ⟨l, k, shows⟩ := h
  refine ⟨l, k, shows.member, shows.faithful, ?_, shows.current⟩
  rcases shows.trace with none | ⟨o', arrived, same⟩
  · exact .inl none
  · exact .inr ⟨o', List.mem_append_left _ arrived, same⟩

/-- The scheduler may go on with its replay; the level and the epoch stay. -/
theorem of_frame (h : s.Live arrivals) {s' : Session d} {scheduler : Scheduler d}
    {failedAttempts : Nat} {lastRun : Option RunResult}
    (frame : s' = { s with scheduler, failedAttempts, lastRun })
    (faithful : ∀ w₀, s.scheduler.Faithful w₀ → scheduler.Faithful w₀)
    (trace : scheduler.trace = s.scheduler.trace) : s'.Live arrivals := by
  obtain ⟨l, k, shows⟩ := h
  obtain ⟨w₀, world, before⟩ := shows.faithful
  subst frame
  refine ⟨l, k, shows.member, ⟨w₀, world, faithful w₀ before⟩, ?_, shows.current⟩
  rw [trace]
  exact shows.trace

theorem finishFailed (h : s.Live arrivals) (k : Nat) (x : Diagnostic) (replayed : Nat)
    (output warnings : List String) :
    (s.finishFailed k x replayed output warnings).2.Live arrivals := by
  unfold Session.finishFailed
  split
  · exact h.of_frame rfl (fun _ f => f) rfl
  · exact h

theorem replayOn (h : s.Live arrivals) (k : Nat) (play : Play) (o : Outcome)
    (warnings : List String) : (s.replayOn k play o warnings).2.Live arrivals := by
  have faithful := fun w₀ (f : s.scheduler.Faithful w₀) => (f.proceed play).1
  have trace : (play.proceed s.scheduler).2.trace = s.scheduler.trace := by
    obtain ⟨l, k, shows⟩ := h
    obtain ⟨w₀, _, before⟩ := shows.faithful
    exact (before.proceed play).2
  unfold Session.replayOn
  revert faithful trace
  rcases play.proceed s.scheduler with ⟨m | ⟨notice, seconds | settled⟩, scheduler⟩ <;>
    intro faithful trace
  · exact h.of_frame rfl faithful trace
  · exact h.of_frame rfl faithful trace
  · obtain ⟨f, l, frame⟩ :=
      ({ s with scheduler } : Session d).conclude_frame k o warnings settled
    exact h.of_frame frame faithful trace

theorem replay (h : s.Live arrivals) {o : Outcome} (arrived : (s.epoch, o) ∈ arrivals)
    (warnings : List String) : (s.replay s.epoch o warnings).2.Live arrivals := by
  unfold Session.replay
  cases world : s.initialWorld with
  | error f => exact h
  | ok w =>
    have begun : ({ s with scheduler := (Play.begin s.scheduler o.actions w).2 } :
        Session d).Live arrivals :=
      ⟨s.level, s.epoch, level_mem s, ⟨w, world, .begin s.scheduler o.actions w⟩,
        .inr ⟨o, arrived, rfl⟩, fun _ => ⟨rfl, rfl⟩⟩
    exact begun.replayOn _ _ o warnings

theorem finish (h : s.Live arrivals) {k : Nat} {o : Outcome} (arrived : (k, o) ∈ arrivals)
    (warnings : List String) : (s.finish k o warnings).2.Live arrivals := by
  unfold Session.finish
  split
  next => exact h
  next newest =>
    obtain rfl : k = s.epoch := by simpa using newest
    cases o with
    | finished t output => exact h.replay arrived warnings
    | failed x output =>
      dsimp only
      split
      · exact h.replay arrived warnings
      · exact h.finishFailed s.epoch x 0 output warnings

/-- A level that has a world is shown from its beginning. -/
theorem primed {w : d.World} (world : s.initialWorld = .ok w) (scheduler : Scheduler d)
    (same : s.scheduler = scheduler.prime w) : s.Live arrivals :=
  ⟨s.level, s.epoch, level_mem s, ⟨w, world, same ▸ .prime scheduler w⟩,
    .inl (same ▸ rfl), fun _ => ⟨rfl, rfl⟩⟩

/-- A level that has no world is not shown: what was shown before stays. -/
theorem unbuilt (h : s.Live arrivals) {s' : Session d} (levels : ∀ l ∈ s.levels, l ∈ s'.levels)
    (faithful : ∀ w₀, s.scheduler.Faithful w₀ → s'.scheduler.Faithful w₀)
    (trace : s'.scheduler.trace = s.scheduler.trace) {f : Fault}
    (world : s'.initialWorld = .error f) : s'.Live arrivals := by
  obtain ⟨l, k, shows⟩ := h
  obtain ⟨w₀, begins, before⟩ := shows.faithful
  refine ⟨l, k, levels l shows.member, ⟨w₀, begins, faithful w₀ before⟩, ?_, ?_⟩
  · rw [trace]
    exact shows.trace
  · rintro ⟨w, built⟩
    rw [world] at built
    cases built

theorem beginRun (h : s.Live arrivals) (now : Float) : (s.beginRun now).2.Live arrivals := by
  cases world : s.initialWorld with
  | error f =>
    rw [beginRun_error world]
    exact h.unbuilt (fun _ m => m) (fun _ f => f) rfl world
  | ok w =>
    rw [beginRun_ok world]
    exact primed world s.scheduler rfl

/-- The first stretch of a run, whose outcome may have come already. -/
theorem setOut (h : s.Live arrivals) (k : Nat) (x : Start d)
    (arrived : ∀ o warnings, x = .returned o warnings → (k, o) ∈ arrivals) :
    (s.setOut k x).2.Live arrivals := by
  cases x with
  | refused x warnings => exact h.finishFailed k x 0 [] warnings
  | returned o warnings => exact h.finish (arrived o warnings rfl) warnings
  | submitted p settings r warnings => exact h

theorem launch (h : s.Live arrivals) (start : Session d → Except Fault (Start d)) (now : Float) :
    (s.launch start now).2.Live (arrivals ++ (s.launchOutcome? start now).toList) := by
  have begun := h.beginRun now
  unfold Session.launch launchOutcome?
  revert begun
  rcases s.beginRun now with ⟨f | id, s⟩ <;> intro begun <;> dsimp only
  · exact begun.arrive none
  · cases start s with
    | error f => exact begun.arrive none
    | ok x =>
      refine (begun.arrive _).setOut id x ?_
      rintro o warnings rfl
      simp

theorem receive (h : s.Live arrivals) (run : Run d) (reply : Executor.Reply) :
    (s.receive run reply).2.Live (arrivals ++ (s.replyOutcome? run reply).toList) := by
  unfold Session.receive replyOutcome?
  cases run.waiting with
  | reply p settings r =>
    dsimp only
    cases Executor.settle settings s.config.executorTimeoutMs p reply r with
    | error m => exact h.arrive none
    | ok o => exact (h.arrive (some (run.id, o))).finish (by simp) run.warnings
  | pause play o => exact (h.arrive none).replayOn run.id play o run.warnings

theorem wake (h : s.Live arrivals) (run : Run d) : (s.wake run).2.Live arrivals := by
  unfold Session.wake
  split
  next => exact h
  next play o _ => exact h.replayOn run.id play o run.warnings

theorem reset (h : s.Live arrivals) (now : Float) : (s.reset now).2.Live arrivals := by
  cases world : s.initialWorld with
  | error f =>
    rw [reset_error world]
    exact h.unbuilt (fun _ m => m) (fun _ f => f.cancel) rfl world
  | ok w =>
    rw [reset_ok world]
    exact primed world s.scheduler.cancel rfl

/-- Going to a level is a reset there, even if the level has no world. -/
theorem goTo (h : s.Live arrivals) (i : Fin s.levels.size) (now : Float) :
    (s.goTo i now).2.Live arrivals := by
  cases world : ({ s with levelIndex := i, failedAttempts := 0, lastRun := none } :
      Session d).initialWorld with
  | error f =>
    rw [Session.goTo, reset_error world]
    exact h.unbuilt (fun _ m => m) (fun _ f => f.cancel) rfl world
  | ok w =>
    rw [Session.goTo, reset_ok world]
    exact primed world s.scheduler.cancel rfl

theorem advance (h : s.Live arrivals) (now : Float) : (s.advance now).2.Live arrivals := by
  rcases s.advance_cases now with same | ⟨i, moved⟩
  · rw [same]
    exact h
  · rw [moved]
    exact h.goTo i now

theorem check (h : s.Live arrivals) (now : Float) : (s.check now).2.Live arrivals := by
  obtain ⟨a, v, c, f, frame⟩ := s.check_frame now
  obtain ⟨l, k, shows⟩ := h
  rw [frame]
  exact ⟨l, k, shows.member, shows.faithful, shows.trace, shows.current⟩

end Live

end Session

namespace Timeline

variable {d : Domain}

def Live (t : Timeline d) : Prop := t.session.Live t.arrivals

theorem Live.resume {t : Timeline d} (live : t.Live) (i : Nat)
    (outcome? : Run d → Option (Nat × Outcome))
    (next : Run d → Except Fault (Stretch d) × Session d)
    (goes : ∀ run, (next run).2.Live (t.arrivals ++ (outcome? run).toList)) :
    (t.resume i outcome? next).Live := by
  unfold Timeline.resume
  split
  next => exact live
  next run _ => exact goes run

/-- Whatever happens to an open session, its scheduler shows a level of the pack. -/
theorem Live.step {t : Timeline d} (live : t.Live) {h : Happening} (stays : h ≠ .close) :
    (t.step h).Live := by
  cases h with
  | runBlocks workspace now => exact Session.Live.launch live _ now
  | runSource source language now => exact Session.Live.launch live _ now
  | reply i reply => exact live.resume i _ _ fun run => Session.Live.receive live run reply
  | wake i =>
    exact live.resume i _ _ fun run => (Session.Live.wake live run).arrive none
  | reset now => exact Session.Live.reset live now
  | select index now =>
    simp only [Timeline.step]
    split
    next => exact live
    next i _ => exact Session.Live.goTo live i now
  | advance now => exact Session.Live.advance live now
  | check now => exact Session.Live.check live now
  | close => exact absurd rfl stays

theorem Live.foldl {t : Timeline d} (live : t.Live) {hs : List Happening}
    (stays : Happening.close ∉ hs) : (hs.foldl Timeline.step t).Live := by
  induction hs generalizing t with
  | nil => exact live
  | cons h hs ih =>
    rw [List.mem_cons, not_or] at stays
    exact ih (live.step (Ne.symm stays.1)) stays.2

theorem live_history {s : Session d} (fresh : s.Fresh) {hs : List Happening}
    (stays : Happening.close ∉ hs) : (history s hs).Live := by
  obtain ⟨scheduler, w, world, same⟩ := fresh
  have start : ({ session := s } : Timeline d).Live := Session.Live.primed world scheduler same
  exact start.foldl stays

/-- The live world is the current level, replayed as far as the newest run came. -/
def Coherent (t : Timeline d) : Prop :=
  ∃ w₀ w, t.session.initialWorld = .ok w₀ ∧ t.session.scheduler.world = some w ∧
    d.replay w₀ d.newLog (t.session.scheduler.trace.take t.session.scheduler.index) =
      .ok (w, t.session.scheduler.log) ∧
    (t.session.scheduler.trace = [] ∨
      ∃ o, (t.session.epoch, o) ∈ t.arrivals ∧ t.session.scheduler.trace = o.actions)

theorem Live.coherent {t : Timeline d} (live : t.Live) {w : d.World}
    (world : t.session.initialWorld = .ok w) : t.Coherent := by
  obtain ⟨l, k, shows⟩ := live
  obtain ⟨rfl, rfl⟩ := shows.current ⟨w, world⟩
  obtain ⟨w₀, begins, faithful⟩ := shows.faithful
  obtain ⟨v, here, replayed⟩ := faithful.replayed
  exact ⟨w₀, v, begins, here, replayed, shows.trace⟩

/-- Only a canvas may have no world to begin with. -/
theorem initialWorld_ok (other : d ≠ .pixel) (l : d.Level) : ∃ w, d.initialWorld l = .ok w := by
  cases d with
  | pixel => exact absurd rfl other
  | _ => exact ⟨_, rfl⟩

/-- While a session is open, its live world is the current level, replayed as far as the newest run
came, exactly if that level has a world to begin with, as all but canvases have. In any case the
live world is that of a level of the pack, replayed as far as one run came. -/
theorem coherent_iff_initialWorld (s : Session d) (fresh : s.Fresh) (hs : List Happening)
    (stays : Happening.close ∉ hs) :
    let t := history s hs
    (t.Coherent ↔ ∃ w, t.session.initialWorld = .ok w) ∧ (d ≠ .pixel → t.Coherent) ∧
    ∃ l ∈ t.session.levels, ∃ w₀ w k, d.initialWorld l = .ok w₀ ∧
      t.session.scheduler.world = some w ∧
      d.replay w₀ d.newLog (t.session.scheduler.trace.take t.session.scheduler.index) =
        .ok (w, t.session.scheduler.log) ∧
      (t.session.scheduler.trace = [] ∨
        ∃ o, (k, o) ∈ t.arrivals ∧ t.session.scheduler.trace = o.actions) := by
  intro t
  have live : t.Live := live_history fresh stays
  refine ⟨⟨?_, fun ⟨w, world⟩ => live.coherent world⟩, fun other => ?_, ?_⟩
  · rintro ⟨w₀, _, world, _⟩
    exact ⟨w₀, world⟩
  · obtain ⟨w, world⟩ := initialWorld_ok other t.session.level
    exact live.coherent world
  · obtain ⟨l, k, shows⟩ := live
    obtain ⟨w₀, begins, faithful⟩ := shows.faithful
    obtain ⟨w, here, replayed⟩ := faithful.replayed
    exact ⟨l, shows.member, w₀, w, k, begins, here, replayed, shows.trace⟩

/-- A canvas, and one that begins with a paint that there is not. -/
def twoCanvases : Session .pixel :=
  let red : Pixel.Level := { header := { id := .number 1, name := "Red" }, goal := .free 1 }
  let w : Pixel.World := { size := 8, color := .text "#ff0000" }
  { id := "s", config := {}, executor := none, levels := #[red, { red with defaultColor := "x" }]
    levelIndex := ⟨0, by decide⟩, scheduler := Scheduler.prime {} w, createdAt := 0
    lastActive := 0 }

/-- The second canvas cannot be shown; going back to the first one shows it again. -/
theorem coherent_iff_initialWorld_back :
    twoCanvases.Fresh ∧ Happening.close ∉ [Happening.select 1 0, .select 0 0] ∧
      (history twoCanvases [.select 1 0, .select 0 0]).Coherent := by
  have fresh : twoCanvases.Fresh := ⟨{}, _, rfl, rfl⟩
  have stays : Happening.close ∉ [Happening.select 1 0, .select 0 0] := by simp
  exact ⟨fresh, stays, (coherent_iff_initialWorld twoCanvases fresh _ stays).1.mpr ⟨_, rfl⟩⟩

/-- The second canvas is the current level, while the world of the first one is live. -/
theorem not_coherent_select :
    twoCanvases.Fresh ∧ Happening.close ∉ [Happening.select 1 0] ∧
      (history twoCanvases [.select 1 0]).session.levelIndex.val = 1 ∧
      (history twoCanvases [.select 1 0]).session.scheduler.world =
        twoCanvases.scheduler.world ∧
      ¬(history twoCanvases [.select 1 0]).Coherent := by
  refine ⟨⟨{}, _, rfl, rfl⟩, by simp, rfl, rfl, ?_⟩
  rintro ⟨w, _, world, _⟩
  have unpainted : (history twoCanvases [.select 1 0]).session.initialWorld =
    .error (.unknownPaint (.text "x") (Pixel.paints.map (·.1))) := rfl
  rw [unpainted] at world
  cases world

end Timeline

end PuzzleWorlds
