import PuzzleWorlds.Proofs.Payload
import PuzzleWorlds.Replay

/-! Replays as folds. A replay of a longer trace is the replay of its beginning, carried on by one
step for each further action; so whatever takes the actions one by one can be held against it. -/

namespace PuzzleWorlds.Domain

variable {d : Domain}

/-- Only a reaction that changes the world is left as it is. -/
theorem apply_changed_iff {w v : d.World} {a : Action} {changes : List String} :
    d.apply w a = .ok (.changed v changes) ↔ d.react w a = .ok (.changed v changes) := by
  unfold apply
  cases reaction : d.react w a with
  | ok r => exact Iff.rfl
  | error m => cases kind : m.kind <;> simp [Reaction.settle, kind]

@[simp] theorem replay_nil (w : d.World) (log : ActionLog) : d.replay w log [] = .ok (w, log) := rfl

theorem replay_append (w : d.World) (log : ActionLog) (s t : Trace) :
    d.replay w log (s ++ t) = d.replay w log s >>= fun p => d.replay p.1 p.2 t := by
  simp only [replay, List.foldlM_append]

theorem replayStep_of_apply {w : d.World} {log : ActionLog} {a : Action} {r : Reaction d.World}
    (h : d.apply w a = .ok r) : d.replayStep (w, log) a = .ok (settleStep (w, log) a r) := by
  simp only [replayStep, h]
  rfl

/-- A replay that went through has settled its first action, and then replayed the others. -/
theorem replay_cons_eq_ok {w : d.World} {log : ActionLog} {a : Action} {t : Trace}
    {x : d.World × ActionLog} :
    d.replay w log (a :: t) = .ok x ↔
      ∃ r, d.apply w a = .ok r ∧
        d.replay (settleStep (w, log) a r).1 (settleStep (w, log) a r).2 t = .ok x := by
  rw [replay, List.foldlM_cons, bind_eq_ok]
  constructor
  · rintro ⟨_, first, rest⟩
    obtain ⟨r, reaction, same⟩ := bind_eq_ok.mp first
    cases same
    exact ⟨r, reaction, rest⟩
  · rintro ⟨r, reaction, rest⟩
    exact ⟨_, replayStep_of_apply reaction, rest⟩

/-- The next action of a trace carries the replay of the actions before it one step on. -/
theorem replay_take_succ {w v : d.World} {log l : ActionLog} {t : Trace} {i : Nat} {a : Action}
    {r : Reaction d.World} (next : t[i]? = some a) (before : d.replay w log (t.take i) = .ok (v, l))
    (reaction : d.apply v a = .ok r) :
    d.replay w log (t.take (i + 1)) = .ok (settleStep (v, l) a r) := by
  have split : t.take (i + 1) = t.take i ++ [a] := by
    rw [List.take_add_one, next, Option.toList_some]
  rw [split, replay_append, before]
  exact replay_cons_eq_ok.mpr ⟨r, reaction, replay_nil _ _⟩

/-- At position `i` of the trace stands the action `a`, and the world to which the actions before
it lead refuses it. -/
def Refuses (d : Domain) (w : d.World) (t : Trace) (i : Nat) (a : Action) (why : Refusal) : Prop :=
  ∃ v log, d.replay w d.newLog (t.take i) = .ok (v, log) ∧ t[i]? = some a ∧
    d.apply v a = .ok (.refused why)

theorem Refuses.getElem?_eq {w : d.World} {t : Trace} {i : Nat} {a : Action} {why : Refusal}
    (h : d.Refuses w t i a why) : t[i]? = some a := by
  obtain ⟨_, _, _, next, _⟩ := h
  exact next

theorem Refuses.apply_eq {w v : d.World} {log : ActionLog} {t : Trace} {i : Nat} {a : Action}
    {why : Refusal} (h : d.Refuses w t i a why)
    (before : d.replay w d.newLog (t.take i) = .ok (v, log)) :
    d.apply v a = .ok (.refused why) := by
  obtain ⟨x, l, reached, _, refused⟩ := h
  have same : x = v := congrArg Prod.fst (Except.ok.inj (reached.symm.trans before))
  rwa [same] at refused

/-- A replay of a whole trace has replayed each of its beginnings. -/
theorem replay_take_ok {w : d.World} {log : ActionLog} {t : Trace} {x : d.World × ActionLog}
    (h : d.replay w log t = .ok x) (i : Nat) : ∃ y, d.replay w log (t.take i) = .ok y := by
  rw [← List.take_append_drop i t, replay_append] at h
  obtain ⟨y, before, _⟩ := bind_eq_ok.mp h
  exact ⟨y, before⟩

/-- A replay of a whole trace has worked with the action at each of its positions. -/
theorem apply_ok_of_replay {w v : d.World} {log l : ActionLog} {t : Trace} {x : d.World × ActionLog}
    (h : d.replay w log t = .ok x) {i : Nat} {a : Action} (next : t[i]? = some a)
    (before : d.replay w log (t.take i) = .ok (v, l)) : ∃ r, d.apply v a = .ok r := by
  obtain ⟨y, after⟩ := replay_take_ok h (i + 1)
  rw [List.take_add_one, next, Option.toList_some, replay_append, before] at after
  obtain ⟨r, reaction, _⟩ := replay_cons_eq_ok.mp after
  exact ⟨r, reaction⟩

/-- Every action of the trace changes the world that it meets, from the first world to the last. -/
inductive Plays (d : Domain) : d.World → Trace → d.World → Prop
  | nil (w : d.World) : Plays d w [] w
  | cons {w v u : d.World} {a : Action} {t : Trace} {changes : List String} :
    d.apply w a = .ok (.changed v changes) → Plays d v t u → Plays d w (a :: t) u

namespace Plays

theorem concat {w v u : d.World} {t : Trace} {a : Action} {changes : List String}
    (before : d.Plays w t v) (last : d.apply v a = .ok (.changed u changes)) :
    d.Plays w (t ++ [a]) u := by
  induction before with
  | nil w => exact .cons last (.nil u)
  | cons first _ ih => exact .cons first (ih last)

/-- A trace that plays is replayed to the same world, and its actions are all put to the log. -/
theorem replay {w u : d.World} {t : Trace} (h : d.Plays w t u) (log : ActionLog) :
    d.replay w log t = .ok (u, t.foldl ActionLog.record log) := by
  induction h generalizing log with
  | nil w => rfl
  | @cons w v u a t changes first _ ih =>
    exact replay_cons_eq_ok.mpr ⟨_, first, ih (log.record a)⟩

end Plays

end PuzzleWorlds.Domain
