import PuzzleWorlds.Proofs.Replay

/-! The actions that a replay takes. A refused action leaves no mark, so the world at the end of a
replay is told by the others alone, each with the world that it met: whatever an induction carries
over one such action, it carries from the first world to the last. -/

namespace PuzzleWorlds.Domain

variable {d : Domain} {w v : d.World} {log log' : ActionLog} {t : Trace}

/-- The actions of the trace that are taken, each with the world that takes it. A replay that
cannot go on takes no more. -/
def taken (d : Domain) (w : d.World) : Trace → List (d.World × Action)
  | [] => []
  | a :: t =>
    match d.apply w a with
    | .ok (.changed v _) => (w, a) :: taken d v t
    | .ok (.refused _) => taken d w t
    | .error _ => []

@[simp] theorem taken_nil (w : d.World) : d.taken w [] = [] := rfl

theorem taken_cons_changed {a : Action} {changes : List String}
    (takes : d.apply w a = .ok (.changed v changes)) :
    d.taken w (a :: t) = (w, a) :: d.taken v t := by
  simp only [taken, takes]

theorem taken_cons_refused {a : Action} {why : Refusal}
    (refuses : d.apply w a = .ok (.refused why)) : d.taken w (a :: t) = d.taken w t := by
  simp only [taken, refuses]

/-- What holds where nothing is taken, and is carried back over each action that is, holds of the
actions that a replay takes, between the world it starts from and the one it ends in. -/
theorem taken_induction {M : d.World → List (d.World × Action) → d.World → Prop}
    (nil : ∀ w, M w [] w)
    (cons : ∀ {w v u : d.World} {a changes rest}, d.react w a = .ok (.changed v changes) →
      M v rest u → M w ((w, a) :: rest) u)
    (replayed : d.replay w log t = .ok (v, log')) : M w (d.taken w t) v := by
  induction t generalizing w log with
  | nil =>
    cases replayed
    exact nil _
  | cons a t ih =>
    obtain ⟨r, reaction, rest⟩ := replay_cons_eq_ok.mp replayed
    cases r with
    | changed u changes =>
      rw [taken_cons_changed reaction]
      exact cons (apply_changed_iff.mp reaction) (ih rest)
    | refused why =>
      rw [taken_cons_refused reaction]
      exact ih rest

/-- An action is taken where the replay of those before it leads to a world that it changes. -/
theorem mem_taken_iff (replayed : d.replay w log t = .ok (v, log')) {u : d.World} {a : Action} :
    (u, a) ∈ d.taken w t ↔ ∃ i log₁ x changes, t[i]? = some a ∧
      d.replay w log (t.take i) = .ok (u, log₁) ∧ d.apply u a = .ok (.changed x changes) := by
  induction t generalizing w log with
  | nil => simp
  | cons b t ih =>
    obtain ⟨r, reaction, rest⟩ := replay_cons_eq_ok.mp replayed
    -- The actions after the first are those of the remaining replay, one position earlier.
    have later (i : Nat) (y : d.World × ActionLog) :
        d.replay w log ((b :: t).take (i + 1)) = .ok y ↔
          d.replay (settleStep (w, log) b r).1 (settleStep (w, log) b r).2 (t.take i) = .ok y := by
      rw [List.take_succ_cons, replay_cons_eq_ok]
      simp [reaction]
    rw [← Nat.or_exists_add_one]
    simp only [List.getElem?_cons_zero, List.getElem?_cons_succ, List.take_zero, replay_nil, later,
      ← ih rest]
    cases r with
    | changed v' changes =>
      rw [taken_cons_changed reaction, List.mem_cons]
      refine or_congr_left ⟨?_, ?_⟩
      · rintro ⟨⟩
        exact ⟨log, v', changes, rfl, rfl, reaction⟩
      · rintro ⟨_, _, _, ⟨⟩, ⟨⟩, _⟩
        rfl
    | refused why =>
      rw [taken_cons_refused reaction]
      refine (or_iff_right ?_).symm
      rintro ⟨_, _, _, ⟨⟩, ⟨⟩, changed⟩
      cases reaction.symm.trans changed

/-- Where no action stops it, a replay goes through. -/
theorem exists_replay (applies : ∀ w a, ∃ r, d.apply w a = .ok r) (w : d.World) (log : ActionLog)
    (t : Trace) : ∃ v log', d.replay w log t = .ok (v, log') := by
  induction t generalizing w log with
  | nil => exact ⟨w, log, rfl⟩
  | cons a t ih =>
    obtain ⟨r, reaction⟩ := applies w a
    obtain ⟨v, log', rest⟩ := ih (settleStep (w, log) a r).1 (settleStep (w, log) a r).2
    exact ⟨v, log', replay_cons_eq_ok.mpr ⟨r, reaction, rest⟩⟩

end PuzzleWorlds.Domain
