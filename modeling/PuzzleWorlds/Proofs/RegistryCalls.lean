import PuzzleWorlds.Domain.Registry

/-! Calls of a registry, one after the other. What a program did so far is in the trace, which calls
only ever add to. -/

namespace PuzzleWorlds

/-- A call of a command by one of its names. -/
structure Invocation where
  name : String
  args : List Value

namespace Registry

variable {d : Domain}

/-- What a call yields comes from the command that answers to its name. -/
theorem respond_ok_iff {r : Registry d} {name : String} {args : List Value}
    {x : Response d.Shadow} : r.respond name args = .ok x ↔
      ∃ c a, d.command? name = some c ∧ (Domain.commandSpec c).bind name args = .ok a ∧
        Domain.call r.shadow c a = .ok x := by
  unfold respond
  cases known : d.command? name with
  | none => exact iff_of_false nofun (by simp)
  | some c =>
    dsimp only
    cases bound : (Domain.commandSpec c).bind name args with
    | error f => exact iff_of_false nofun (by simp [bound])
    | ok a =>
      refine ⟨fun called => ⟨c, a, rfl, bound, called⟩, ?_⟩
      rintro ⟨c', a', same, bound', called⟩
      cases same
      cases bound.symm.trans bound'
      exact called

/-- All that a call can do: its arguments are refused, it gives a value back, or it acts, and the
action is recorded unless the budget is used up. -/
inductive Invokes (r : Registry d) (c : Invocation) : Except Fault Value → Registry d → Prop
  | refuses {f : Fault} : r.respond c.name c.args = .error f → Invokes r c (.error f) r
  | answers {v : Value} : r.respond c.name c.args = .ok (.answers v) → Invokes r c (.ok v) r
  | acts {shadow : d.Shadow} {a : Action} : r.respond c.name c.args = .ok (.acts shadow a) →
    (r.trace.length : Int) < r.maxActions →
    Invokes r c (.ok .null) { r with shadow, trace := r.trace ++ [a] }
  | exhausts {shadow : d.Shadow} {a : Action} : r.respond c.name c.args = .ok (.acts shadow a) →
    r.maxActions ≤ r.trace.length →
    Invokes r c (.error (.tooManyActions r.maxActions)) { r with shadow }

theorem invokes (r : Registry d) (c : Invocation) :
    r.Invokes c (r.invoke c.name c.args).1 (r.invoke c.name c.args).2 := by
  unfold invoke
  cases response : r.respond c.name c.args with
  | error f => exact .refuses response
  | ok x =>
    cases x with
    | answers v => exact .answers response
    | acts shadow a =>
      by_cases full : r.maxActions ≤ (r.trace.length : Int)
      · simp only [record, ge_iff_le, full, if_true]
        exact .exhausts response full
      · simp only [record, ge_iff_le, full, if_false]
        exact .acts response (by omega)

/-- The registry after some calls. -/
def after (r : Registry d) (cs : List Invocation) : Registry d :=
  cs.foldl (fun r c => (r.invoke c.name c.args).2) r

@[simp] theorem after_nil (r : Registry d) : r.after [] = r := rfl

@[simp] theorem after_cons (r : Registry d) (c : Invocation) (cs : List Invocation) :
    r.after (c :: cs) = (r.invoke c.name c.args).2.after cs := rfl

/-- No call comes upon a used up budget. -/
def WithinBudget (r : Registry d) : List Invocation → Prop
  | [] => True
  | c :: cs => (∀ f, (r.invoke c.name c.args).1 = .error f → f.kind ≠ .budgetExceeded) ∧
    (r.invoke c.name c.args).2.WithinBudget cs

theorem trace_invoke (r : Registry d) (c : Invocation) :
    r.trace <+: (r.invoke c.name c.args).2.trace := by
  have move := r.invokes c
  generalize (r.invoke c.name c.args).1 = x, (r.invoke c.name c.args).2 = r' at move
  cases move with
  | acts => exact List.prefix_append _ _
  | refuses | answers | exhausts => exact List.prefix_rfl

theorem trace_after (r : Registry d) (cs : List Invocation) : r.trace <+: (r.after cs).trace := by
  induction cs generalizing r with
  | nil => exact List.prefix_rfl
  | cons c cs ih => exact (r.trace_invoke c).trans (ih _)

/-- Once the trace is full, nothing more is recorded. -/
theorem trace_after_full {r : Registry d} (full : r.maxActions ≤ r.trace.length)
    (cs : List Invocation) : (r.after cs).trace = r.trace := by
  induction cs generalizing r with
  | nil => rfl
  | cons c cs ih =>
    have move := r.invokes c
    rw [after_cons]
    generalize (r.invoke c.name c.args).1 = x, (r.invoke c.name c.args).2 = r' at move
    cases move with
    | refuses | answers | exhausts => exact ih full
    | acts _ room => omega

end Registry

end PuzzleWorlds
