import PuzzleWorlds.Proofs.Bookkeeping
import PuzzleWorlds.Proofs.EarnedProgress
import PuzzleWorlds.Proofs.Payload

/-! Levels that can be solved by calling commands. A way of solving one is put together from calls
that act, each followed in the bookkeeping and in the world, which takes the action at once; the
registry that makes the calls then has recorded a trace whose replay ends in that world. -/

namespace PuzzleWorlds

/-- Free play is passed by as many actions as it asks for, and by no fewer. -/
theorem checkFree_success {count : Nat} {minimum : Int} :
    (checkFree count minimum).success = true ↔ max minimum 1 ≤ count := by
  unfold checkFree
  dsimp only
  split
  next enough => exact iff_of_true rfl enough
  next few => exact iff_of_false nofun few

/-- Only what is missing has to be written. -/
theorem judgeFree_of_success {count : Nat} {minimum : Int}
    (passed : (checkFree count minimum).success = true) :
    judgeFree count minimum = .ok (checkFree count minimum) := by
  have enough := checkFree_success.mp passed
  unfold judgeFree
  dsimp only
  rw [if_neg (Int.not_lt.mpr enough)]
  rfl

theorem judgeFree_eq_ok {count : Nat} {minimum : Int} {v : Verdict}
    (judged : judgeFree count minimum = .ok v) : v = checkFree count minimum := by
  unfold judgeFree at judged
  dsimp only at judged
  split at judged
  next =>
    cases text : (Value.int (max minimum 1)).written with
    | ok s =>
      rw [text] at judged
      exact (Except.ok.inj judged).symm
    | error m =>
      rw [text] at judged
      cases judged
  next => exact (Except.ok.inj judged).symm

theorem Domain.reaches_iff_success {d : Domain} {l : d.Level} {w : d.World} {log : ActionLog} :
    d.reaches l w log = true ↔ ∃ v, d.checkGoal l w log = .ok v ∧ v.success = true := by
  unfold Domain.reaches
  cases d.checkGoal l w log with
  | ok v => simp
  | error f => simp

theorem Domain.checkGoal_free {d : Domain} {l : d.Level} {n : Int}
    (free : Level.freeMinimum? l = some n) (w : d.World) (log : ActionLog) :
    d.checkGoal l w log = judged (judgeFree log.size n) := by
  cases d <;>
    · simp only [Level.freeMinimum?] at free
      split at free
      next aim =>
        cases free
        simp only [checkGoal, Robot.checkGoal, Building.checkGoal, Sorting.checkGoal,
          Combat.checkGoal, Music.checkGoal, Sprite.checkGoal, Pixel.checkGoal, Console.checkGoal,
          aim]
        try cases judgeFree log.size n <;> rfl
      next => cases free

/-- Free play is reached by its number of actions. -/
theorem Domain.reaches_free {d : Domain} {l : d.Level} {n : Int}
    (free : Level.freeMinimum? l = some n) {w : d.World} {log : ActionLog} :
    d.reaches l w log = true ↔ (checkFree log.size n).success = true := by
  rw [reaches_iff_success, checkGoal_free free]
  constructor
  · rintro ⟨v, judgement, passed⟩
    cases free : judgeFree log.size n with
    | error m =>
      rw [free] at judgement
      cases judgement
    | ok u =>
      rw [free] at judgement
      obtain rfl : u = v := Except.ok.inj judgement
      rwa [← judgeFree_eq_ok free]
  · intro passed
    rw [judgeFree_of_success passed]
    exact ⟨_, rfl, passed⟩

namespace ActionLog

end ActionLog

namespace Registry

variable {d : Domain} {r : Registry d}

theorem respond_ok {name : String} {args : List Value} {k : d.Command} {a : Arguments}
    {x : Response d.Shadow} (known : d.command? name = some k)
    (bound : (Domain.commandSpec k).bind name args = .ok a)
    (called : Domain.call r.shadow k a = .ok x) : r.respond name args = .ok x :=
  respond_ok_iff.mpr ⟨k, a, known, bound, called⟩

/-- A call that acts is recorded while there is room. -/
theorem invoke_acts {name : String} {args : List Value} {s : d.Shadow} {a : Action}
    (acts : r.respond name args = .ok (.acts s a)) (room : (r.trace.length : Int) < r.maxActions) :
    (r.invoke name args).2 = { r with shadow := s, trace := r.trace ++ [a] } := by
  simp only [invoke, acts, record, ge_iff_le, Int.not_le.mpr room, if_false]

end Registry

namespace Domain

variable {d : Domain}

/-- What each action of a trace preserves, the whole trace does. -/
theorem Plays.preserves {I : d.World → Prop} {w v : d.World} {t : Trace} (h : d.Plays w t v)
    (step : ∀ {w v a changes}, I w → d.react w a = .ok (.changed v changes) → I v)
    (begins : I w) : I v := by
  induction h with
  | nil => exact begins
  | cons taken _ ih => exact ih (step begins (apply_changed_iff.mp taken))

/-- The calls act one after the other, the world takes each action, and so the bookkeeping and the
world come to the last ones. -/
inductive Steers (d : Domain) :
    d.Shadow → d.World → List Invocation → Trace → d.Shadow → d.World → Prop
  | nil (s : d.Shadow) (w : d.World) : Steers d s w [] [] s w
  | cons {s s' s'' : d.Shadow} {w v u : d.World} {c : Invocation} {cs : List Invocation}
    {k : d.Command} {args : Arguments} {a : Action} {t : Trace} {changes : List String} :
    d.command? c.name = some k → (commandSpec k).bind c.name c.args = .ok args →
    Domain.call s k args = .ok (.acts s' a) → d.apply w a = .ok (.changed v changes) →
    Steers d s' v cs t s'' u → Steers d s w (c :: cs) (a :: t) s'' u

namespace Steers

variable {s s' s'' : d.Shadow} {w v u : d.World} {cs cs' : List Invocation} {t t' : Trace}

theorem append (h : d.Steers s w cs t s' v) (h' : d.Steers s' v cs' t' s'' u) :
    d.Steers s w (cs ++ cs') (t ++ t') s'' u := by
  induction h with
  | nil => exact h'
  | cons known bound called taken _ ih => exact .cons known bound called taken (ih h')

theorem plays (h : d.Steers s w cs t s' v) : d.Plays w t v := by
  induction h with
  | nil s w => exact .nil w
  | cons _ _ _ taken _ ih => exact .cons taken ih

theorem length_eq (h : d.Steers s w cs t s' v) : t.length = cs.length := by
  induction h with
  | nil => rfl
  | cons _ _ _ _ _ ih => simp [ih]

/-- One call. -/
theorem call {k : d.Command} {args : Arguments} {a : Action} {changes : List String}
    (known : d.command? (commandSpec k).name = some k)
    (bound : (commandSpec k).bind (commandSpec k).name args = .ok args)
    (called : Domain.call s k args = .ok (.acts s' a))
    (taken : d.react w a = .ok (.changed v changes)) :
    d.Steers s w [⟨(commandSpec k).name, args⟩] [a] s' v :=
  .cons known bound called (apply_changed_iff.mpr taken) (.nil s' v)

/-- A registry with room for the calls records their actions. -/
theorem trace_after (h : d.Steers s w cs t s' v) {r : Registry d} (shadow : r.shadow = s)
    (room : (r.trace.length + cs.length : Int) ≤ r.maxActions) :
    (r.after cs).trace = r.trace ++ t := by
  induction h generalizing r with
  | nil => simp
  | @cons s _ _ _ _ _ c cs k args a t _ known bound called _ _ ih =>
    subst shadow
    have acts := Registry.respond_ok known bound called
    rw [List.length_cons] at room
    rw [Registry.after_cons, Registry.invoke_acts acts (by omega), ih rfl]
    · simp
    · simp only [List.length_append, List.length_singleton]
      omega

end Steers

end Domain

end PuzzleWorlds
