import PuzzleWorlds.Proofs.RegistryCalls
import PuzzleWorlds.Proofs.Replay

/-! The bookkeeping of a registry beside the world that its trace leads to. A registry never sees
the world; where each action that it yields is one that the world takes, with the same effect on
both, the two stay together over any number of calls. -/

namespace PuzzleWorlds.Registry

variable {d : Domain}

/-- Bookkeeping and worlds that belong together by `R` still do after an action of a command; the
world takes the action, which is related to it by `P`. -/
def Follows (R : d.Shadow → d.World → Prop) (P : d.World → Action → Prop) : Prop :=
  ∀ {s s' : d.Shadow} {w : d.World} {c : d.Command} {args : Arguments} {a : Action}, R s w →
    Domain.call s c args = .ok (.acts s' a) →
    P w a ∧ ∃ v changes, d.apply w a = .ok (.changed v changes) ∧ R s' v

/-- The trace plays to a world that belongs to the bookkeeping, and each of its actions is related
to the world that it meets. -/
structure Tracks (R : d.Shadow → d.World → Prop) (P : d.World → Action → Prop) (w₀ : d.World)
    (r : Registry d) (w : d.World) : Prop where
  plays : d.Plays w₀ r.trace w
  agrees : R r.shadow w
  meets : ∀ i a, r.trace[i]? = some a →
    ∃ v log, d.replay w₀ d.newLog (r.trace.take i) = .ok (v, log) ∧ P v a

namespace Tracks

variable {R : d.Shadow → d.World → Prop} {P : d.World → Action → Prop} {w₀ w : d.World}
  {r : Registry d}

theorem start (fresh : r.trace = []) (agrees : R r.shadow w) : Tracks R P w r w where
  plays := fresh ▸ .nil w
  agrees := agrees
  meets i a next := by simp [fresh] at next

theorem act (h : Tracks R P w₀ r w) {s : d.Shadow} {a : Action} {v : d.World}
    {changes : List String} (taken : d.apply w a = .ok (.changed v changes)) (agrees : R s v)
    (related : P w a) : Tracks R P w₀ { r with shadow := s, trace := r.trace ++ [a] } v where
  plays := h.plays.concat taken
  agrees := agrees
  meets i b next := by
    rcases Nat.lt_trichotomy i r.trace.length with earlier | rfl | later
    · rw [List.getElem?_append_left earlier] at next
      rw [List.take_append_of_le_length (Nat.le_of_lt earlier)]
      exact h.meets i b next
    · obtain rfl : a = b := by simpa using next
      rw [List.take_left]
      exact ⟨w, _, h.plays.replay _, related⟩
    · have none : (r.trace ++ [a])[i]? = none := by
        rw [List.getElem?_eq_none_iff, List.length_append, List.length_singleton]
        omega
      exact absurd (none.symm.trans next) nofun

/-- One call within the budget. -/
theorem invoke (h : Tracks R P w₀ r w) (follows : Follows R P) (c : Invocation)
    (within : ∀ f, (r.invoke c.name c.args).1 = .error f → f.kind ≠ .budgetExceeded) :
    ∃ v, Tracks R P w₀ (r.invoke c.name c.args).2 v := by
  have move := r.invokes c
  revert within
  generalize (r.invoke c.name c.args).1 = x, (r.invoke c.name c.args).2 = r' at move
  intro within
  cases move with
  | refuses => exact ⟨w, h⟩
  | answers => exact ⟨w, h⟩
  | acts response =>
    obtain ⟨k, args, _, _, called⟩ := Registry.respond_ok_iff.mp response
    obtain ⟨related, v, changes, taken, agrees⟩ := follows h.agrees called
    exact ⟨v, h.act taken agrees related⟩
  | exhausts => exact absurd rfl (within _ rfl)

/-- Calls within the budget, one after the other. -/
theorem after (h : Tracks R P w₀ r w) (follows : Follows R P) {cs : List Invocation}
    (within : r.WithinBudget cs) : ∃ v, Tracks R P w₀ (r.after cs) v := by
  induction cs generalizing r w with
  | nil => exact ⟨w, h⟩
  | cons c cs ih =>
    obtain ⟨v, next⟩ := h.invoke follows c within.1
    exact ih next within.2

/-- Without regard to the budget: what calls record has been recorded by a registry that tracks a
world, as nothing is recorded once the trace is full. -/
theorem trace_after (h : Tracks R P w₀ r w) (follows : Follows R P) (cs : List Invocation) :
    ∃ r' v, Tracks R P w₀ r' v ∧ (r.after cs).trace = r'.trace := by
  induction cs generalizing r w with
  | nil => exact ⟨r, w, h, rfl⟩
  | cons c cs ih =>
    have move := r.invokes c
    rw [after_cons]
    generalize (r.invoke c.name c.args).1 = x, (r.invoke c.name c.args).2 = r' at move
    cases move with
    | refuses => exact ih h
    | answers => exact ih h
    | acts response =>
      obtain ⟨k, args, _, _, called⟩ := Registry.respond_ok_iff.mp response
      obtain ⟨related, v, changes, taken, agrees⟩ := follows h.agrees called
      exact ih (h.act taken agrees related)
    | @exhausts shadow _ _ full =>
      exact ⟨r, w, h, trace_after_full (r := { r with shadow }) full cs⟩

end Tracks

end PuzzleWorlds.Registry
