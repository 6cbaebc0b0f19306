import PuzzleWorlds.Proofs.Replay
import PuzzleWorlds.Scheduler.Basic

/-! The scheduler against the replay of its trace. It takes one action at a time, may stop in the
middle of a step, and drops what is refused; yet after any calls its world and its log are those of
a replay of the actions consumed so far, from the world that it was last primed with. -/

namespace PuzzleWorlds

namespace Scheduler

variable {d : Domain}

@[simp] theorem cancel_epoch (s : Scheduler d) : s.cancel.epoch = s.epoch + 1 := rfl

theorem cancel_phase_ne_stepping (s : Scheduler d) : s.cancel.phase ≠ .stepping := by
  cases h : s.phase <;> simp [cancel, h]

theorem isStepping_iff (s : Scheduler d) : s.isStepping = true ↔ s.phase = .stepping := by
  simp [isStepping]

@[simp] theorem prime_phase (s : Scheduler d) (w : d.World) : (s.prime w).phase = .priming := rfl

@[simp] theorem prime_trace (s : Scheduler d) (w : d.World) : (s.prime w).trace = [] := rfl

/-- Only a replay under way is cancelled by priming. -/
theorem prime_epoch (s : Scheduler d) (w : d.World) :
    (s.prime w).epoch = if s.phase = .stepping then s.epoch + 1 else s.epoch := by
  by_cases h : s.phase = .stepping <;> simp [prime, isStepping, h]

@[simp] theorem consume_index (s : Scheduler d) (a : Action) (r : Reaction d.World) :
    (s.consume a r).index = s.index + 1 := by cases r <;> rfl

@[simp] theorem consume_trace (s : Scheduler d) (a : Action) (r : Reaction d.World) :
    (s.consume a r).trace = s.trace := by cases r <;> rfl

@[simp] theorem consume_phase (s : Scheduler d) (a : Action) (r : Reaction d.World) :
    (s.consume a r).phase = s.phase := by cases r <;> rfl

@[simp] theorem consume_epoch (s : Scheduler d) (a : Action) (r : Reaction d.World) :
    (s.consume a r).epoch = s.epoch := by cases r <;> rfl

/-- All that taking the next action can do: there is none, it cannot be worked with, or it is
consumed, and then told of unless it has no description. -/
inductive Advances (s : Scheduler d) :
    Except Misfit (Option (Notice d)) → Scheduler d → Prop
  | settles : (s.trace[s.index]? = none ∨ s.world = none) →
    Advances s (.ok none) { s with phase := .settled }
  | fails {a : Action} {w : d.World} {m : Misfit} : s.trace[s.index]? = some a →
    s.world = some w → d.apply w a = .error m → Advances s (.error m) s
  | silent {a : Action} {w : d.World} {r : Reaction d.World} {m : Misfit} :
    s.trace[s.index]? = some a → s.world = some w → d.apply w a = .ok r →
    a.describe = .error m → Advances s (.error m) (s.consume a r)
  | tells {a : Action} {w : d.World} {r : Reaction d.World} {text : String} {n : Notice d} :
    s.trace[s.index]? = some a → s.world = some w → d.apply w a = .ok r →
    a.describe = .ok text → n.index = s.index → n.action = a →
    Advances s (.ok (some n)) (s.consume a r)

theorem advances (s : Scheduler d) : s.Advances s.advance.1 s.advance.2 := by
  unfold advance
  split
  next a w next here =>
    cases reaction : d.apply w a with
    | error m => exact .fails next here reaction
    | ok r =>
      cases told : a.describe with
      | error m => exact .silent next here reaction told
      | ok text => exact .tells next here reaction told (by simp) rfl
  next missing =>
    refine .settles ?_
    cases next : s.trace[s.index]? with
    | none => exact .inl rfl
    | some a =>
      cases here : s.world with
      | none => exact .inr rfl
      | some w => exact absurd here (missing a w next)

@[simp] theorem advance_trace (s : Scheduler d) : s.advance.2.trace = s.trace := by
  have move := s.advances
  generalize s.advance.1 = x, s.advance.2 = s' at move
  cases move <;> simp

@[simp] theorem advance_epoch (s : Scheduler d) : s.advance.2.epoch = s.epoch := by
  have move := s.advances
  generalize s.advance.1 = x, s.advance.2 = s' at move
  cases move <;> simp

/-- The scheduler goes on stepping after an action. -/
theorem advance_phase {s : Scheduler d} {n : Notice d} (told : s.advance.1 = .ok (some n)) :
    s.advance.2.phase = s.phase := by
  have move := s.advances
  rw [told] at move
  generalize s.advance.2 = s' at move
  cases move
  simp

theorem settled_of_advance {s : Scheduler d} (done : s.advance.1 = .ok none) :
    s.advance.2.phase = .settled := by
  have move := s.advances
  rw [done] at move
  generalize s.advance.2 = s' at move
  cases move
  rfl

/-- What the scheduler holds is what a replay from `w₀` gives for the actions consumed so far. -/
structure Faithful (w₀ : d.World) (s : Scheduler d) : Prop where
  within : s.index ≤ s.trace.length
  replayed : ∃ w, s.world = some w ∧
    d.replay w₀ d.newLog (s.trace.take s.index) = .ok (w, s.log)
  refused : ∀ r, r ∈ s.rejected ↔ r.index < s.index ∧
    ∃ why, d.Refuses w₀ s.trace r.index r.action why ∧ r.error = why.message
  ordered : (s.rejected.map RejectedStep.index).Pairwise (· < ·)
  fresh : s.phase = .priming → s.index = 0
  ended : s.phase = .settled → s.index = s.trace.length

namespace Faithful

variable {w₀ : d.World} {s : Scheduler d}

theorem prime (s : Scheduler d) (w : d.World) : (s.prime w).Faithful w where
  within := Nat.le_refl 0
  replayed := ⟨w, rfl, rfl⟩
  refused r := by simp [Scheduler.prime]
  ordered := .nil
  fresh _ := rfl
  ended h := by simp at h

theorem cancel (h : s.Faithful w₀) : s.cancel.Faithful w₀ where
  within := h.within
  replayed := h.replayed
  refused := h.refused
  ordered := h.ordered
  fresh now := by cases p : s.phase <;> simp [Scheduler.cancel, p] at now
  ended now := by
    refine h.ended ?_
    cases p : s.phase <;> simp [Scheduler.cancel, p] at now ⊢

/-- Nothing has been consumed of the trace while the scheduler is primed. -/
theorem primed (h : s.Faithful w₀) (p : s.phase = .priming) :
    s.world = some w₀ ∧ s.log = d.newLog ∧ s.rejected = [] := by
  have zero := h.fresh p
  obtain ⟨w, here, replayed⟩ := h.replayed
  rw [zero, List.take_zero, Domain.replay_nil] at replayed
  obtain ⟨rfl, log⟩ := Prod.mk.inj (Except.ok.inj replayed)
  refine ⟨here, log.symm, List.eq_nil_iff_forall_not_mem.mpr ?_⟩
  intro r member
  have earlier := ((h.refused r).mp member).1
  omega

/-- A trace attached to a primed scheduler stands at its beginning. -/
theorem attach (h : s.Faithful w₀) (p : s.phase = .priming) (t : Trace) (epoch : Nat) :
    { s with trace := t, index := 0, phase := .stepping, epoch := epoch }.Faithful w₀ := by
  obtain ⟨here, log, none⟩ := h.primed p
  refine ⟨Nat.zero_le _, ⟨w₀, here, ?_⟩, fun r => ?_, ?_, nofun, nofun⟩
  · simp only [List.take_zero, Domain.replay_nil, log]
  · simp [none]
  · simp [none]

/-- The world refuses exactly the actions that the replay refuses. -/
private theorem refused_consume (h : s.Faithful w₀) {a : Action} {w : d.World}
    {r : Reaction d.World} (next : s.trace[s.index]? = some a) (here : s.world = some w)
    (reaction : d.apply w a = .ok r) (x : RejectedStep) :
    x ∈ (s.consume a r).rejected ↔ x.index < s.index + 1 ∧
      ∃ why, d.Refuses w₀ s.trace x.index x.action why ∧ x.error = why.message := by
  obtain ⟨v, there, before⟩ := h.replayed
  obtain rfl : w = v := Option.some.inj (here.symm.trans there)
  have now : ∀ b why, d.Refuses w₀ s.trace s.index b why → b = a ∧ r = .refused why := by
    intro b why refuses
    obtain rfl : b = a := Option.some.inj (refuses.getElem?_eq.symm.trans next)
    exact ⟨rfl, Except.ok.inj (reaction.symm.trans (refuses.apply_eq before))⟩
  rw [Nat.lt_succ_iff_lt_or_eq, or_and_right, ← h.refused x]
  cases r with
  | changed u changes =>
    refine ⟨Or.inl, ?_⟩
    rintro (old | ⟨position, why, refuses, _⟩)
    · exact old
    · rw [position] at refuses
      cases (now _ _ refuses).2
  | refused why =>
    simp only [consume, List.mem_append, List.mem_singleton]
    refine or_congr Iff.rfl ⟨?_, ?_⟩
    · rintro rfl
      exact ⟨rfl, why, ⟨w, s.log, before, next, reaction⟩, rfl⟩
    · rintro ⟨position, why', refuses, error⟩
      rw [position] at refuses
      obtain ⟨action, cause⟩ := now _ _ refuses
      cases cause
      cases x
      simp_all

theorem consume (h : s.Faithful w₀) (p : s.phase = .stepping) {a : Action} {w : d.World}
    {r : Reaction d.World} (next : s.trace[s.index]? = some a) (here : s.world = some w)
    (reaction : d.apply w a = .ok r) : (s.consume a r).Faithful w₀ := by
  have refused := h.refused_consume next here reaction
  obtain ⟨v, there, before⟩ := h.replayed
  obtain rfl : w = v := Option.some.inj (here.symm.trans there)
  have bound : s.index < s.trace.length := (List.getElem?_eq_some_iff.mp next).1
  refine ⟨?_, ?_, ?_, ?_, ?_, ?_⟩
  · simp only [consume_index, consume_trace]
    omega
  · have step := Domain.replay_take_succ next before reaction
    cases r with
    | changed u changes => exact ⟨u, rfl, step⟩
    | refused why => exact ⟨w, here, step⟩
  · simpa only [consume_index, consume_trace] using refused
  · cases r with
    | changed u changes => exact h.ordered
    | refused why =>
      simp only [Scheduler.consume, List.map_append, List.map_cons, List.map_nil]
      refine List.pairwise_append.mpr ⟨h.ordered, List.pairwise_singleton _ _, ?_⟩
      intro i old j new
      obtain ⟨x, member, rfl⟩ := List.mem_map.mp old
      obtain rfl := List.mem_singleton.mp new
      exact ((h.refused x).mp member).1
  · simp [p]
  · simp [p]

theorem advance (h : s.Faithful w₀) (p : s.phase = .stepping) : s.advance.2.Faithful w₀ := by
  have move := s.advances
  generalize s.advance.1 = x, s.advance.2 = s' at move
  cases move with
  | settles missing =>
    obtain ⟨w, here, replayed⟩ := h.replayed
    have done : s.trace.length ≤ s.index := by
      rcases missing with missing | missing
      · exact List.getElem?_eq_none_iff.mp missing
      · simp [here] at missing
    have all : s.index = s.trace.length := Nat.le_antisymm h.within done
    exact ⟨h.within, ⟨w, here, replayed⟩, h.refused, h.ordered, nofun, fun _ => all⟩
  | fails => exact h
  | silent next here reaction => exact h.consume p next here reaction
  | tells next here reaction => exact h.consume p next here reaction

end Faithful

end Scheduler

end PuzzleWorlds
