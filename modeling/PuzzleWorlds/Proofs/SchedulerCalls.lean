import PuzzleWorlds.Proofs.SchedulerReplay

/-! Calls from outside, in any order. A call may come out of order, meet a payload that cannot be
worked with, or be left by a failing listener when its step is already done. None of it tells the
scheduler apart from the replay of what it consumed. -/

namespace PuzzleWorlds

namespace Scheduler

/-- A call of a scheduler. Its listeners fail at the notices that `fails` picks out. -/
inductive Call (d : Domain) where
  | prime (w : d.World)
  | load (t : Trace)
  | step (fails : Notice d → Bool)
  | runToEnd (fails : Notice d → Bool)
  | cancel

/-- How a call can fail. -/
inductive CallFault where
  | outOfOrder (why : OutOfOrder)
  | misfit (cause : Misfit)
  | listener

def CallFault.ofStep : StepFault → CallFault
  | .outOfOrder why => .outOfOrder why
  | .misfit cause => .misfit cause

variable {d : Domain}

/-- A step whose listeners may fail; by then the action is consumed. -/
def stepHeard (s : Scheduler d) (fails : Notice d → Bool) :
    Except CallFault (Option (Notice d)) × Scheduler d :=
  match s.step with
  | (.ok (some n), s) => if fails n then (.error .listener, s) else (.ok (some n), s)
  | (r, s) => (r.mapError .ofStep, s)

/-- Steps to the end of the trace, at most `n` times, or until a listener fails. -/
def stepAllHeard (fails : Notice d → Bool) : Nat → Scheduler d →
    Except CallFault Unit × Scheduler d
  | 0, s => (.ok (), s)
  | n + 1, s =>
    match s.stepHeard fails with
    | (.error f, s) => (.error f, s)
    | (.ok none, s) => (.ok (), s)
    | (.ok (some _), s) => stepAllHeard fails n s

def perform (s : Scheduler d) : Call d → Except CallFault Unit × Scheduler d
  | .prime w => (.ok (), s.prime w)
  | .load t =>
    match s.load t with
    | .ok s => (.ok (), s)
    | .error why => (.error (.outOfOrder why), s)
  | .step fails => let (r, s) := s.stepHeard fails; (r.map fun _ => (), s)
  | .runToEnd fails => stepAllHeard fails (s.trace.length - s.index + 1) s
  | .cancel => (.ok (), s.cancel)

/-- Where nobody fails, the calls are those of the scheduler itself. -/
theorem stepHeard_quiet (s : Scheduler d) :
    s.stepHeard (fun _ => false) = (s.step.1.mapError .ofStep, s.step.2) := by
  unfold stepHeard
  split
  next n s' taken => rw [taken]; rfl
  next r s' _ taken => rw [taken]

theorem stepAllHeard_quiet (n : Nat) (s : Scheduler d) :
    stepAllHeard (fun _ => false) n s =
      ((stepAll n s).1.mapError .ofStep, (stepAll n s).2.2) := by
  induction n generalizing s with
  | zero => rfl
  | succ n ih =>
    rw [stepAllHeard, stepHeard_quiet, stepAll]
    rcases s.step with ⟨f | none | notice, s'⟩
    · rfl
    · rfl
    · exact ih s'

theorem perform_step_quiet (s : Scheduler d) :
    s.perform (.step fun _ => false) = ((s.step.1.map fun _ => ()).mapError .ofStep, s.step.2) := by
  simp only [perform, stepHeard_quiet]
  rcases s.step with ⟨f | notice, s'⟩ <;> rfl

theorem perform_runToEnd_quiet (s : Scheduler d) :
    s.perform (.runToEnd fun _ => false) = (s.runToEnd.1.mapError .ofStep, s.runToEnd.2.2) :=
  stepAllHeard_quiet (s.trace.length - s.index + 1) s

theorem step_of_stepping {s : Scheduler d} (p : s.phase = .stepping) :
    s.step = (s.advance.1.mapError .misfit, s.advance.2) := by simp only [step, p]

theorem step_of_settled {s : Scheduler d} (p : s.phase = .settled) : s.step = (.ok none, s) := by
  simp only [step, p]

theorem step_of_ne {s : Scheduler d} (p : s.phase ≠ .stepping) (q : s.phase ≠ .settled) :
    s.step = (.error (.outOfOrder (.step s.phase)), s) := by
  unfold step
  split
  · contradiction
  · contradiction
  · rfl

/-- Only taking the next action changes anything. -/
theorem stepHeard_snd (s : Scheduler d) (fails : Notice d → Bool) :
    (s.stepHeard fails).2 = s.step.2 := by
  unfold stepHeard
  split
  next n s' taken => rw [taken]; split <;> rfl
  next r s' _ taken => rw [taken]

theorem step_snd (s : Scheduler d) :
    s.step.2 = if s.phase = .stepping then s.advance.2 else s := by
  by_cases p : s.phase = .stepping
  · rw [step_of_stepping p, if_pos p]
  · rw [if_neg p]
    by_cases q : s.phase = .settled
    · rw [step_of_settled q]
    · rw [step_of_ne p q]

@[simp] theorem step_trace (s : Scheduler d) : s.step.2.trace = s.trace := by
  rw [step_snd]
  split
  · exact advance_trace s
  · rfl

@[simp] theorem stepAllHeard_trace (fails : Notice d → Bool) (n : Nat) (s : Scheduler d) :
    (stepAllHeard fails n s).2.trace = s.trace := by
  induction n generalizing s with
  | zero => rfl
  | succ n ih =>
    have one : (s.stepHeard fails).2.trace = s.trace := by rw [stepHeard_snd, step_trace]
    rw [stepAllHeard]
    rcases taken : s.stepHeard fails with ⟨f | none | notice, s'⟩ <;> rw [taken] at one
    · exact one
    · exact one
    · exact (ih s').trans one

/-- While the scheduler steps, no step comes out of order. -/
theorem stepHeard_inOrder {s : Scheduler d} (p : s.phase = .stepping) (fails : Notice d → Bool)
    (why : OutOfOrder) : (s.stepHeard fails).1 ≠ .error (.outOfOrder why) := by
  rw [stepHeard, step_of_stepping p]
  rcases s.advance with ⟨m | none | notice, s'⟩
  · nofun
  · nofun
  · change (if fails notice then (Except.error CallFault.listener, s')
      else (.ok (some notice), s')).1 ≠ _
    split <;> nofun

theorem stepHeard_phase {s : Scheduler d} {fails : Notice d → Bool} {notice : Notice d}
    (told : (s.stepHeard fails).1 = .ok (some notice)) :
    s.phase = .stepping ∧ (s.stepHeard fails).2.phase = .stepping := by
  rw [stepHeard_snd, step_snd]
  by_cases p : s.phase = .stepping
  · rw [if_pos p]
    have move := s.advances
    rw [stepHeard, step_of_stepping p] at told
    revert told move
    generalize s.advance.1 = x, s.advance.2 = s'
    intro told move
    cases move with
    | settles | fails | silent => cases told
    | tells => exact ⟨p, by rw [consume_phase, p]⟩
  · rw [stepHeard] at told
    by_cases q : s.phase = .settled
    · rw [step_of_settled q] at told
      cases told
    · rw [step_of_ne p q] at told
      cases told

theorem stepAllHeard_inOrder {s : Scheduler d} (p : s.phase = .stepping)
    (fails : Notice d → Bool) (n : Nat) (why : OutOfOrder) :
    (stepAllHeard fails n s).1 ≠ .error (.outOfOrder why) := by
  induction n generalizing s with
  | zero => nofun
  | succ n ih =>
    have inOrder := stepHeard_inOrder p fails why
    have phase := @stepHeard_phase d s fails
    rw [stepAllHeard]
    rcases taken : s.stepHeard fails with ⟨f | none | notice, s'⟩ <;> rw [taken] at inOrder phase
    · simpa using inOrder
    · nofun
    · exact ih (phase rfl).2

/-- A call out of order changes nothing. -/
theorem perform_outOfOrder {s : Scheduler d} {c : Call d} {why : OutOfOrder}
    (h : (s.perform c).1 = .error (.outOfOrder why)) : (s.perform c).2 = s := by
  have idle : ∀ fails : Notice d → Bool, s.phase ≠ .stepping → (s.stepHeard fails).2 = s := by
    intro fails p
    rw [stepHeard_snd, step_snd, if_neg p]
  cases c with
  | prime w => cases h
  | cancel => cases h
  | load t =>
    simp only [perform] at h ⊢
    cases loaded : s.load t with
    | ok s' => rw [loaded] at h; cases h
    | error e => rfl
  | step fails =>
    refine idle fails fun p => stepHeard_inOrder p fails why ?_
    simp only [perform] at h
    cases taken : (s.stepHeard fails).1 with
    | ok n => rw [taken] at h; cases h
    | error f => rw [taken] at h; simpa [Except.map] using h
  | runToEnd fails =>
    have p : s.phase ≠ .stepping := fun p => stepAllHeard_inOrder p fails _ why h
    have still := idle fails p
    have phase := @stepHeard_phase d s fails
    simp only [perform, stepAllHeard] at h ⊢
    rcases taken : s.stepHeard fails with ⟨f | none | notice, s'⟩ <;> rw [taken] at still phase
    · exact still
    · exact still
    · exact absurd (phase rfl).1 p

namespace Faithful

variable {w₀ : d.World} {s : Scheduler d}

theorem step (h : s.Faithful w₀) : s.step.2.Faithful w₀ := by
  rw [step_snd]
  split
  next p => exact h.advance p
  next => exact h

theorem stepHeard (h : s.Faithful w₀) (fails : Notice d → Bool) :
    (s.stepHeard fails).2.Faithful w₀ := by
  rw [stepHeard_snd]
  exact h.step

theorem stepAllHeard (h : s.Faithful w₀) (fails : Notice d → Bool) (n : Nat) :
    (stepAllHeard fails n s).2.Faithful w₀ := by
  induction n generalizing s with
  | zero => exact h
  | succ n ih =>
    have one := h.stepHeard fails
    rw [Scheduler.stepAllHeard]
    rcases taken : s.stepHeard fails with ⟨f | none | notice, s'⟩ <;> rw [taken] at one
    · exact one
    · exact one
    · exact ih one

theorem load {s' : Scheduler d} {t : Trace} (h : s.Faithful w₀) (loaded : s.load t = .ok s') :
    s'.Faithful w₀ ∧ s'.trace = t := by
  unfold Scheduler.load at loaded
  split at loaded
  next primed =>
    cases loaded
    exact ⟨h.attach (beq_iff_eq.mp primed) t s.epoch, rfl⟩
  next => cases loaded

/-- At the end of its trace the scheduler holds the replay of the whole trace. -/
theorem settled (h : s.Faithful w₀) (p : s.phase = .settled) :
    ∃ w, s.world = some w ∧ d.replay w₀ d.newLog s.trace = .ok (w, s.log) := by
  obtain ⟨w, here, replayed⟩ := h.replayed
  rw [h.ended p, List.take_length] at replayed
  exact ⟨w, here, replayed⟩

end Faithful

/-- Stepping gets to the end of the trace exactly if the trace can be replayed and each of its
remaining actions can be told of. -/
theorem stepAll_ok_iff {w₀ : d.World} {s : Scheduler d} (h : s.Faithful w₀)
    (p : s.phase = .stepping) {n : Nat} (enough : s.trace.length - s.index < n) :
    (stepAll n s).1 = .ok () ↔ (∃ x, d.replay w₀ d.newLog s.trace = .ok x) ∧
      ∀ a ∈ s.trace.drop s.index, ∃ text, a.describe = .ok text := by
  induction n generalizing s with
  | zero => omega
  | succ n ih =>
    obtain ⟨w, here, before⟩ := h.replayed
    have kept := h.advance p
    have move := s.advances
    rw [stepAll, step_of_stepping p]
    revert kept move
    generalize s.advance.1 = x, s.advance.2 = s'
    intro kept move
    cases move with
    | settles =>
      refine iff_of_true rfl ⟨?_, ?_⟩
      · obtain ⟨v, _, whole⟩ := kept.settled rfl
        exact ⟨_, whole⟩
      · have done : s.index = s.trace.length := kept.ended rfl
        rw [done, List.drop_length]
        nofun
    | fails next there stuck =>
      refine iff_of_false nofun ?_
      rintro ⟨⟨x, whole⟩, _⟩
      obtain rfl := Option.some.inj (here.symm.trans there)
      obtain ⟨r, reaction⟩ := Domain.apply_ok_of_replay whole next before
      rw [stuck] at reaction
      cases reaction
    | @silent a _ _ _ next _ _ untold =>
      refine iff_of_false nofun ?_
      rintro ⟨_, told⟩
      have member : a ∈ s.trace.drop s.index := by
        rw [List.mem_drop_iff_getElem]
        obtain ⟨inside, rfl⟩ := List.getElem?_eq_some_iff.mp next
        exact ⟨0, by omega, rfl⟩
      obtain ⟨text, described⟩ := told a member
      rw [untold] at described
      cases described
    | @tells a _ r text _ next _ _ described =>
      obtain ⟨inside, action⟩ := List.getElem?_eq_some_iff.mp next
      have rest : s.trace.drop s.index = a :: s.trace.drop (s.index + 1) := by
        rw [List.drop_eq_getElem_cons inside, action]
      have later := ih kept (by rw [consume_phase, p]) (by simp; omega)
      simp only [consume_trace, consume_index] at later
      rw [rest, List.forall_mem_cons]
      refine later.trans (and_congr_right' ⟨?_, And.right⟩)
      exact fun told => ⟨⟨text, described⟩, told⟩

theorem stepAll_settled {w₀ : d.World} {s : Scheduler d} (h : s.Faithful w₀)
    (p : s.phase = .stepping) {n : Nat} (enough : s.trace.length - s.index < n)
    (done : (stepAll n s).1 = .ok ()) :
    (stepAll n s).2.2.Faithful w₀ ∧ (stepAll n s).2.2.phase = .settled ∧
      (stepAll n s).2.2.trace = s.trace := by
  induction n generalizing s with
  | zero => omega
  | succ n ih =>
    have kept := h.advance p
    have move := s.advances
    revert done
    rw [stepAll, step_of_stepping p]
    revert kept move
    generalize s.advance.1 = x, s.advance.2 = s'
    intro kept move done
    cases move with
    | settles => exact ⟨kept, rfl, rfl⟩
    | fails => cases done
    | silent => cases done
    | @tells a _ r _ _ next =>
      have inside := (List.getElem?_eq_some_iff.mp next).1
      have later := ih kept (by rw [consume_phase, p]) (by simp; omega) done
      rwa [consume_trace] at later

/-- Priming, loading and stepping through is a replay in one go: it comes to an end exactly if the
replay does and every action can be told of, and then with the same world and log. -/
theorem runToEnd_replays (s : Scheduler d) (w : d.World) (t : Trace) :
    ∃ v, (s.prime w).load t = .ok v ∧
      (v.runToEnd.1 = .ok () ↔ (∃ x, d.replay w d.newLog t = .ok x) ∧
        ∀ a ∈ t, ∃ text, a.describe = .ok text) ∧
      (v.runToEnd.1 = .ok () → ∃ u, v.runToEnd.2.2.world = some u ∧
        d.replay w d.newLog t = .ok (u, v.runToEnd.2.2.log)) := by
  obtain ⟨v, loaded, start⟩ : ∃ v, (s.prime w).load t = .ok v ∧ v.phase = .stepping ∧ v.index = 0 :=
    ⟨_, rfl, rfl, rfl⟩
  obtain ⟨faithful, rfl⟩ := (Faithful.prime s w).load loaded
  have enough : v.trace.length - v.index < v.trace.length - v.index + 1 := Nat.lt_succ_self _
  refine ⟨v, loaded, ?_, ?_⟩
  · have ends := stepAll_ok_iff faithful start.1 enough
    have all : v.trace.drop v.index = v.trace := by rw [start.2, List.drop_zero]
    rwa [all] at ends
  · intro done
    obtain ⟨kept, settled, trace⟩ := stepAll_settled faithful start.1 enough done
    have whole := kept.settled settled
    rwa [trace] at whole

/-- A scheduler among its calls: the world that it was last primed with, and the trace that it has
been loaded with since. -/
structure Handled (d : Domain) where
  scheduler : Scheduler d
  primed : Option d.World := none
  loaded : Trace := []

namespace Handled

def call (h : Handled d) (c : Call d) : Handled d :=
  let s := (h.scheduler.perform c).2
  match c, (h.scheduler.perform c).1 with
  | .prime w, _ => ⟨s, some w, []⟩
  | .load t, .ok _ => ⟨s, h.primed, t⟩
  | _, _ => { h with scheduler := s }

def calls (h : Handled d) (cs : List (Call d)) : Handled d := cs.foldl call h

/-- Once primed, the scheduler is faithful to what it was told. -/
def Sound (h : Handled d) : Prop :=
  ∀ w₀, h.primed = some w₀ → h.scheduler.Faithful w₀ ∧ h.scheduler.trace = h.loaded

theorem Sound.call {h : Handled d} (sound : h.Sound) (c : Call d) : (h.call c).Sound := by
  intro w₀ primed
  cases c with
  | prime w =>
    obtain rfl : w = w₀ := Option.some.inj primed
    exact ⟨.prime h.scheduler w, rfl⟩
  | load t =>
    simp only [Handled.call, perform] at primed ⊢
    cases loaded : h.scheduler.load t with
    | error why =>
      rw [loaded] at primed
      exact sound w₀ primed
    | ok s =>
      rw [loaded] at primed
      exact (sound w₀ primed).1.load loaded
  | step fails =>
    obtain ⟨faithful, trace⟩ := sound w₀ primed
    refine ⟨faithful.stepHeard fails, ?_⟩
    change (h.scheduler.stepHeard fails).2.trace = _
    rw [stepHeard_snd, step_trace, trace]
    rfl
  | runToEnd fails =>
    obtain ⟨faithful, trace⟩ := sound w₀ primed
    exact ⟨faithful.stepAllHeard fails _, (stepAllHeard_trace fails _ _).trans trace⟩
  | cancel =>
    obtain ⟨faithful, trace⟩ := sound w₀ primed
    exact ⟨faithful.cancel, trace⟩

theorem Sound.calls {h : Handled d} (sound : h.Sound) (cs : List (Call d)) :
    (h.calls cs).Sound := by
  induction cs generalizing h with
  | nil => exact sound
  | cons c cs ih => exact ih (sound.call c)

end Handled

/-- After any calls of any scheduler, once it is primed, its world, log, index and rejections are
those of the replay of what it has consumed. A call out of order changes nothing, and priming,
loading and stepping through is a replay in one go. -/
theorem calls_replay (s : Scheduler d) (cs : List (Call d)) :
    let h := (Handled.mk s none []).calls cs
    (∀ w₀, h.primed = some w₀ →
      (∃ w, h.scheduler.world = some w ∧ d.replay w₀ d.newLog
        (h.loaded.take h.scheduler.index) = .ok (w, h.scheduler.log)) ∧
      (∀ r, r ∈ h.scheduler.rejected ↔ r.index < h.scheduler.index ∧
        ∃ why, d.Refuses w₀ h.loaded r.index r.action why ∧ r.error = why.message) ∧
      (h.scheduler.rejected.map RejectedStep.index).Pairwise (· < ·) ∧
      h.scheduler.index ≤ h.loaded.length ∧ h.scheduler.trace = h.loaded) ∧
    (∀ c why, (h.scheduler.perform c).1 = .error (.outOfOrder why) →
      (h.scheduler.perform c).2 = h.scheduler) ∧
    ∀ w t, ∃ v, (h.scheduler.prime w).load t = .ok v ∧
      (v.runToEnd.1 = .ok () ↔ (∃ x, d.replay w d.newLog t = .ok x) ∧
        ∀ a ∈ t, ∃ text, a.describe = .ok text) ∧
      (v.runToEnd.1 = .ok () → ∃ u, v.runToEnd.2.2.world = some u ∧
        d.replay w d.newLog t = .ok (u, v.runToEnd.2.2.log)) := by
  intro h
  refine ⟨?_, fun c why => perform_outOfOrder, h.scheduler.runToEnd_replays⟩
  intro w₀ primed
  have sound : h.Sound := Handled.Sound.calls (fun _ none => by cases none) cs
  obtain ⟨faithful, trace⟩ := sound w₀ primed
  rw [← trace]
  exact ⟨faithful.replayed, faithful.refused, faithful.ordered, faithful.within, rfl⟩

/-- A load before its time, a swap at which a listener fails, and one that the shelf refuses. -/
theorem calls_replay_shelf :
    let w : Sorting.World := { potions := [2, 1], start := [2, 1] }
    let t : Trace := [.swap 0 1, .swap 0 2]
    let h := (Handled.mk (d := .sorting) {} none []).calls
      [.load t, .prime w, .load t, .step fun _ => true, .runToEnd fun _ => false]
    h.primed = some w ∧ h.loaded = t ∧ h.scheduler.index = 2 ∧
      h.scheduler.rejected.map RejectedStep.index = [1] ∧
      ∃ u, h.scheduler.world = some u ∧
        Domain.replay .sorting w Domain.sorting.newLog t = .ok (u, h.scheduler.log) := by
  intro w t h
  have primed : h.primed = some w := rfl
  have replayed := ((calls_replay (d := .sorting) {} _).1 w primed).1
  exact ⟨primed, rfl, rfl, rfl, replayed⟩

end Scheduler

end PuzzleWorlds
