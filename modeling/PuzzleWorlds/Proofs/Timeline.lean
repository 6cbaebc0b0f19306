import PuzzleWorlds.Proofs.SessionRuns
import PuzzleWorlds.Session.Table

/-! Sessions in time. A session is idle between two happenings: a call from outside, the executor's
reply to a run, or the end of a pause. They come in any order, for as many runs as have begun. -/

namespace PuzzleWorlds

/-- What can happen to a session. Runs under way are known by their place in the list of them. -/
inductive Happening where
  | runBlocks (workspace : Value) (now : Float)
  | runSource (source : String) (language : Int) (now : Float)
  | reply (i : Nat) (reply : Executor.Reply)
  | wake (i : Nat)
  | reset (now : Float)
  | select (index : Int) (now : Float)
  | advance (now : Float)
  | check (now : Float)
  | close

/-- Whether a run begins. -/
def Happening.isRun : Happening → Bool
  | .runBlocks .. | .runSource .. => true
  | _ => false

namespace Session

variable {d : Domain}

/-- The scheduler of a new session is primed with the world of its level. -/
def Fresh (s : Session d) : Prop :=
  ∃ scheduler w, s.initialWorld = .ok w ∧ s.scheduler = Scheduler.prime scheduler w

/-- A session is opened fresh, and without a verdict. -/
theorem fresh_of_open {t : SessionTable} {id : String} {levels : List d.Level} {index : Int}
    {now : Float} {s : Session d} (h : t.open? id d levels index now = .ok s) :
    s.Fresh ∧ s.lastVerdict = none := by
  simp only [SessionTable.open?] at h
  by_cases empty : levels.toArray.isEmpty = true
  · rw [if_pos empty] at h
    cases h
  · rw [if_neg empty] at h
    split at h
    next inside =>
      cases world : d.initialWorld levels.toArray[index.toNat] with
      | error f => rw [world] at h; cases h
      | ok w =>
        rw [world] at h
        cases h
        exact ⟨⟨_, w, world, rfl⟩, rfl⟩
    next => cases h

/-- The outcome of a run that has one as soon as it begins. -/
def launchOutcome? (s : Session d) (start : Session d → Except Fault (Start d)) (now : Float) :
    Option (Nat × Outcome) :=
  match s.beginRun now with
  | (.error _, _) => none
  | (.ok id, s) =>
    match start s with
    | .ok (.returned o _) => some (id, o)
    | _ => none

/-- The outcome that a reply brings to a run. -/
def replyOutcome? (s : Session d) (run : Run d) (reply : Executor.Reply) :
    Option (Nat × Outcome) :=
  match run.waiting with
  | .reply p settings r =>
    match Executor.settle settings s.config.executorTimeoutMs p reply r with
    | .ok o => some (run.id, o)
    | .error _ => none
  | .pause .. => none

theorem beginRun_error {s : Session d} {f : Fault} (h : s.initialWorld = .error f) (now : Float) :
    s.beginRun now =
      (.error f, { s with lastActive := now, epoch := s.epoch + 1, lastVerdict := none }) := by
  have same : ({ s.touch now with epoch := s.epoch + 1, lastVerdict := none } :
      Session d).initialWorld = .error f := h
  simp only [beginRun, same]
  rfl

theorem beginRun_ok {s : Session d} {w : d.World} (h : s.initialWorld = .ok w) (now : Float) :
    s.beginRun now = (.ok (s.epoch + 1),
      { s with lastActive := now, epoch := s.epoch + 1, lastVerdict := none,
               scheduler := s.scheduler.prime w }) := by
  have same : ({ s.touch now with epoch := s.epoch + 1, lastVerdict := none } :
      Session d).initialWorld = .ok w := h
  simp only [beginRun, same]
  rfl

theorem reset_error {s : Session d} {f : Fault} (h : s.initialWorld = .error f) (now : Float) :
    s.reset now = (.error f,
      { s with lastActive := now, epoch := s.epoch + 1, lastVerdict := none,
               scheduler := s.scheduler.cancel }) := by
  have same : ({ s.touch now with
      epoch := s.epoch + 1, lastVerdict := none, scheduler := s.scheduler.cancel } :
      Session d).initialWorld = .error f := h
  simp only [reset, same]
  rfl

theorem reset_ok {s : Session d} {w : d.World} (h : s.initialWorld = .ok w) (now : Float) :
    s.reset now = (.ok (),
      { s with lastActive := now, epoch := s.epoch + 1, lastVerdict := none,
               scheduler := s.scheduler.cancel.prime w }) := by
  have same : ({ s.touch now with
      epoch := s.epoch + 1, lastVerdict := none, scheduler := s.scheduler.cancel } :
      Session d).initialWorld = .ok w := h
  simp only [reset, same]
  rfl

/-- Advancing goes to a level, or does nothing. -/
theorem advance_cases (s : Session d) (now : Float) :
    (s.advance now).2 = s ∨ ∃ i, (s.advance now).2 = (s.goTo i now).2 := by
  unfold advance
  split
  · split
    · exact .inr ⟨_, rfl⟩
    · exact .inl rfl
  · exact .inl rfl

/-- Judging changes the bookkeeping only. -/
theorem check_frame (s : Session d) (now : Float) :
    ∃ lastActive lastVerdict completed failedAttempts,
      (s.check now).2 = { s with lastActive, lastVerdict, completed, failedAttempts } := by
  unfold check
  dsimp only
  split
  · exact ⟨now, s.lastVerdict, s.completed, s.failedAttempts, rfl⟩
  · split
    · exact ⟨now, s.lastVerdict, s.completed, s.failedAttempts, rfl⟩
    · unfold judge
      split
      · exact ⟨_, _, _, _, rfl⟩
      · exact ⟨_, _, _, _, rfl⟩

end Session

/-- A session with its runs under way, what its runs returned, and which outcome came to which run,
in the order of time. -/
structure Timeline (d : Domain) where
  session : Session d
  underWay : List (Run d) := []
  results : List RunResult := []
  arrivals : List (Nat × Outcome) := []

namespace Timeline

variable {d : Domain}

/-- After a stretch of a run, the run is under way again, or has returned, or has failed. -/
def carry (t : Timeline d) (x : Except Fault (Stretch d) × Session d) : Timeline d :=
  { t with
    session := x.2
    underWay := t.underWay ++ (Stretch.run? x.1).toList
    results := t.results ++ (Stretch.result? x.1).toList }

@[simp] theorem mem_underWay_carry {t : Timeline d} {x : Except Fault (Stretch d) × Session d}
    {run : Run d} :
    run ∈ (t.carry x).underWay ↔ run ∈ t.underWay ∨ Stretch.run? x.1 = some run := by
  simp [carry]

@[simp] theorem mem_results_carry {t : Timeline d} {x : Except Fault (Stretch d) × Session d}
    {r : RunResult} :
    r ∈ (t.carry x).results ↔ r ∈ t.results ∨ Stretch.result? x.1 = some r := by
  simp [carry]

def arrive (t : Timeline d) (o : Option (Nat × Outcome)) : Timeline d :=
  { t with arrivals := t.arrivals ++ o.toList }

def launch (t : Timeline d) (start : Session d → Except Fault (Start d)) (now : Float) :
    Timeline d :=
  (t.arrive (t.session.launchOutcome? start now)).carry (t.session.launch start now)

/-- A stretch of a run under way. -/
def resume (t : Timeline d) (i : Nat) (outcome? : Run d → Option (Nat × Outcome))
    (next : Run d → Except Fault (Stretch d) × Session d) : Timeline d :=
  match t.underWay[i]? with
  | none => t
  | some run =>
    ({ t with underWay := t.underWay.eraseIdx i }.arrive (outcome? run)).carry (next run)

def step (t : Timeline d) : Happening → Timeline d
  | .runBlocks workspace now => t.launch (fun s => s.startBlocks workspace) now
  | .runSource source language now => t.launch (fun s => s.startSource source language) now
  | .reply i reply => t.resume i (t.session.replyOutcome? · reply) (t.session.receive · reply)
  | .wake i => t.resume i (fun _ => none) t.session.wake
  | .reset now => { t with session := (t.session.reset now).2 }
  | .select index now =>
    match t.session.position? index with
    | .error _ => t
    | .ok i => { t with session := (t.session.goTo i now).2 }
  | .advance now => { t with session := (t.session.advance now).2 }
  | .check now => { t with session := (t.session.check now).2 }
  | .close => { t with session := t.session.close }

/-- The timeline of a session to which all this happens, one after the other. -/
def history (s : Session d) (hs : List Happening) : Timeline d :=
  hs.foldl step { session := s }

theorem history_append (s : Session d) (hs hs' : List Happening) :
    history s (hs ++ hs') = hs'.foldl step (history s hs) := List.foldl_append

end Timeline

end PuzzleWorlds
