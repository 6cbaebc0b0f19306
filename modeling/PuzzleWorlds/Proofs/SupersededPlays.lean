import PuzzleWorlds.Proofs.SchedulerCalls
import PuzzleWorlds.Proofs.SessionRuns

/-! Superseded replays. Calls of a scheduler come in between the pauses of the replays that were
begun in it. A replay that is no longer the current one takes no action and returns false, whatever
happens; priming makes it so only if it finds the scheduler stepping. -/

namespace PuzzleWorlds

namespace Scheduler

variable {d : Domain}

@[simp] theorem step_epoch (s : Scheduler d) : s.step.2.epoch = s.epoch := by
  rw [step_snd]
  split
  · exact advance_epoch s
  · rfl

@[simp] theorem stepAllHeard_epoch (fails : Notice d → Bool) (n : Nat) (s : Scheduler d) :
    (stepAllHeard fails n s).2.epoch = s.epoch := by
  induction n generalizing s with
  | zero => rfl
  | succ n ih =>
    have one : (s.stepHeard fails).2.epoch = s.epoch := by rw [stepHeard_snd, step_epoch]
    rw [stepAllHeard]
    rcases taken : s.stepHeard fails with ⟨f | none | notice, s'⟩ <;> rw [taken] at one
    · exact one
    · exact one
    · exact (ih s').trans one

theorem prime_epoch_le (s : Scheduler d) (w : d.World) : s.epoch ≤ (s.prime w).epoch := by
  rw [prime_epoch]
  split <;> omega

theorem perform_epoch (s : Scheduler d) (c : Call d) : s.epoch ≤ (s.perform c).2.epoch := by
  cases c with
  | prime w => exact s.prime_epoch_le w
  | load t =>
    rw [perform, load]
    split
    next s' loaded =>
      split at loaded
      · cases loaded
        exact Nat.le_refl _
      · cases loaded
    next => exact Nat.le_refl _
  | step fails =>
    change s.epoch ≤ (s.stepHeard fails).2.epoch
    exact Nat.le_of_eq (by rw [stepHeard_snd, step_epoch])
  | runToEnd fails => exact Nat.le_of_eq (stepAllHeard_epoch fails _ s).symm
  | cancel => exact Nat.le_succ _

end Scheduler

namespace Play

variable {d : Domain}

theorem proceed_epoch (p : Play) (s : Scheduler d) : (p.proceed s).2.epoch = s.epoch := by
  have move := p.proceeds s
  generalize (p.proceed s).1 = x, (p.proceed s).2 = s' at move
  cases move with
  | rests => rfl
  | ends | fails | pauses => exact s.advance_epoch

/-- A new replay is the current one, and newer than all before it. -/
theorem begin_epoch (s : Scheduler d) (t : Trace) (w : d.World) :
    s.epoch < (begin s t w).2.epoch ∧ (begin s t w).1.epoch = (begin s t w).2.epoch :=
  ⟨Nat.lt_succ_of_le (s.prime_epoch_le w), rfl⟩

end Play

/-- A scheduler, the replays that pause in it, and what those that ended have returned. -/
structure Stage (d : Domain) where
  scheduler : Scheduler d
  pausing : List Play := []
  returned : List (Play × Bool) := []

namespace Stage

variable {d : Domain}

/-- What can happen: a call, a new replay up to its first pause, or a replay that goes on. The
listeners of a replay fail at the notices that `fails` picks out. -/
inductive Move (d : Domain) where
  | call (c : Scheduler.Call d)
  | play (t : Trace) (w : d.World) (fails : Notice d → Bool)
  | wake (p : Play) (fails : Notice d → Bool)

/-- A turn of a replay: it pauses again, it returns, or an error or a listener ends it. -/
def proceed (st : Stage d) (p : Play) (fails : Notice d → Bool) : Stage d :=
  match p.proceed st.scheduler with
  | (.error _, s) => { st with scheduler := s }
  | (.ok (notice?, progress), s) =>
    if notice?.any fails then { st with scheduler := s }
    else match progress with
      | .pausing _ => { st with scheduler := s, pausing := p :: st.pausing }
      | .ended settled => { st with scheduler := s, returned := (p, settled) :: st.returned }

def move (st : Stage d) : Move d → Stage d
  | .call c => { st with scheduler := (st.scheduler.perform c).2 }
  | .play t w fails =>
    let (p, s) := Play.begin st.scheduler t w
    proceed { st with scheduler := s } p fails
  | .wake p fails =>
    if p ∈ st.pausing then proceed { st with pausing := st.pausing.erase p } p fails else st

def moves (st : Stage d) (ms : List (Move d)) : Stage d := ms.foldl move st

@[simp] theorem proceed_scheduler (st : Stage d) (p : Play) (fails : Notice d → Bool) :
    (st.proceed p fails).scheduler = (p.proceed st.scheduler).2 := by
  unfold proceed
  split
  next taken => rw [taken]
  next progress s taken =>
    rw [taken]
    split
    · rfl
    · cases progress <;> rfl

theorem pausing_proceed {st : Stage d} {p q : Play} {fails : Notice d → Bool}
    (h : q ∈ (st.proceed p fails).pausing) : q = p ∨ q ∈ st.pausing := by
  unfold proceed at h
  split at h
  · exact .inr h
  · split at h
    · exact .inr h
    · split at h
      · exact List.mem_cons.mp h
      · exact .inr h

theorem move_epoch (st : Stage d) (m : Move d) :
    st.scheduler.epoch ≤ (st.move m).scheduler.epoch := by
  cases m with
  | call c => exact st.scheduler.perform_epoch c
  | play t w fails =>
    rw [move, proceed_scheduler, Play.proceed_epoch]
    exact Nat.le_of_lt (Play.begin_epoch st.scheduler t w).1
  | wake p fails =>
    rw [move]
    split
    · exact Nat.le_of_eq (by rw [proceed_scheduler, Play.proceed_epoch])
    · exact Nat.le_refl _

/-- No replay is ahead of the scheduler. -/
def Begun (st : Stage d) : Prop := ∀ p ∈ st.pausing, p.epoch ≤ st.scheduler.epoch

theorem Begun.move {st : Stage d} (begun : st.Begun) (m : Move d) : (st.move m).Begun := by
  intro q member
  have later := st.move_epoch m
  cases m with
  | call c => exact Nat.le_trans (begun q member) later
  | play t w fails =>
    rcases pausing_proceed member with rfl | before
    · rw [Stage.move, proceed_scheduler, Play.proceed_epoch]
      exact Nat.le_of_eq (Play.begin_epoch st.scheduler t w).2
    · exact Nat.le_trans (begun q before) later
  | wake p fails =>
    refine Nat.le_trans ?_ later
    rw [Stage.move] at member
    split at member
    next pausing =>
      rcases pausing_proceed member with rfl | before
      · exact begun q pausing
      · exact begun q (List.mem_of_mem_erase before)
    next => exact begun q member

theorem Begun.moves {st : Stage d} (begun : st.Begun) (ms : List (Move d)) :
    (st.moves ms).Begun := by
  induction ms generalizing st with
  | nil => exact begun
  | cons m ms ih => exact ih (begun.move m)

end Stage

end PuzzleWorlds
