import PuzzleWorlds.Proofs.Payload
import PuzzleWorlds.Proofs.SessionRuns

/-! Replays that nobody disturbs. Woken after each of its pauses, a replay takes one action after
the other up to the end of its trace; it goes well exactly if the world takes every action, and
every action can be described and paced. -/

namespace PuzzleWorlds

/-- The action can be described, and the pause after it lasts some seconds. -/
def Domain.Shows (d : Domain) (a : Action) (seconds : Float) : Prop :=
  (∃ text, a.describe = .ok text) ∧ d.pacing a = .ok seconds

namespace Play

variable {d : Domain}

/-- The rest of a replay that is woken after each pause and not disturbed: the pauses that it asks
for, whether it has settled at its end, and the scheduler then. -/
inductive Undisturbed (p : Play) : Scheduler d → List Float → Bool → Scheduler d → Prop
  | ends {s s' : Scheduler d} {notice : Option (Notice d)} {settled : Bool} :
    p.proceed s = (.ok (notice, .ended settled), s') → Undisturbed p s [] settled s'
  | pauses {s s' u : Scheduler d} {notice : Option (Notice d)} {seconds : Float}
      {rest : List Float} {settled : Bool} :
    p.proceed s = (.ok (notice, .pausing seconds), s') → Undisturbed p s' rest settled u →
    Undisturbed p s (seconds :: rest) settled u

/-- The replay is the current one, and its world is about to take the actions in `rest`. -/
structure Faces (p : Play) (s : Scheduler d) (w : d.World) (rest : Trace) : Prop where
  current : p.isCurrent s = true
  stepping : s.phase = .stepping
  world : s.world = some w
  within : s.index ≤ s.trace.length
  rest : s.trace.drop s.index = rest

namespace Faces

variable {p : Play} {s : Scheduler d} {w : d.World} {rest : Trace}

theorem begin (s : Scheduler d) (t : Trace) (w : d.World) :
    (begin s t w).1.Faces (begin s t w).2 w t where
  current := beq_self_eq_true _
  stepping := rfl
  world := rfl
  within := Nat.zero_le _
  rest := rfl

theorem turn (h : p.Faces s w rest) : p.turn s = s.advance := by
  simp [Play.turn, h.current, (Scheduler.isStepping_iff s).mpr h.stepping]

/-- At the end of its trace the replay has settled. -/
theorem proceed_nil (h : p.Faces s w []) :
    p.proceed s = (.ok (none, .ended true), { s with phase := .settled }) := by
  have done : s.trace[s.index]? = none :=
    List.getElem?_eq_none_iff.mpr (List.drop_eq_nil_iff.mp h.rest)
  have still : p.isCurrent { s with phase := .settled } = true := h.current
  simp [proceed, h.turn, Scheduler.advance, done, finish, still]

theorem getElem?_eq {a : Action} (h : p.Faces s w (a :: rest)) : s.trace[s.index]? = some a := by
  rw [← List.head?_drop, h.rest, List.head?_cons]

/-- A turn that has an action to take: the world reacts to it, and its pause is asked for. -/
theorem proceed_cons {a : Action} (h : p.Faces s w (a :: rest)) {r : Reaction d.World}
    (reaction : d.apply w a = .ok r) :
    p.proceed s = ((a.describe.bind fun _ => d.pacing a).map fun seconds =>
      (some ⟨s.index, a, (s.consume a r).world.getD w⟩, .pausing (seconds * s.pace)),
      s.consume a r) := by
  have still : p.isCurrent (s.consume a r) = true :=
    (isCurrent_congr (Scheduler.consume_epoch s a r)).trans h.current
  have pace : (s.consume a r).pace = s.pace := by cases r <;> rfl
  rw [proceed, h.turn, Scheduler.advance, h.getElem?_eq, h.world]
  dsimp only
  rw [reaction]
  dsimp only
  cases a.describe with
  | error m => rfl
  | ok text =>
    dsimp only
    rw [pause, still, if_pos rfl, pace, Scheduler.consume_index, Nat.add_sub_cancel]
    cases d.pacing a <;> rfl

/-- A turn whose action the world cannot work with fails, and changes nothing. -/
theorem proceed_error {a : Action} (h : p.Faces s w (a :: rest)) {m : Misfit}
    (reaction : d.apply w a = .error m) : p.proceed s = (.error m, s) := by
  rw [proceed, h.turn, Scheduler.advance, h.getElem?_eq, h.world]
  dsimp only
  rw [reaction]

/-- A turn that has an action to take and does not fail. -/
theorem proceed_cons_inv {a : Action} (h : p.Faces s w (a :: rest)) {notice : Option (Notice d)}
    {x : Progress} {s' : Scheduler d} (done : p.proceed s = (.ok (notice, x), s')) :
    ∃ r seconds, d.apply w a = .ok r ∧ d.Shows a seconds ∧ x = .pausing (seconds * s.pace) ∧
      s' = s.consume a r := by
  cases reaction : d.apply w a with
  | error m => cases (h.proceed_error reaction).symm.trans done
  | ok r =>
    rw [h.proceed_cons reaction] at done
    obtain ⟨yields, same⟩ := Prod.mk.inj done
    obtain ⟨seconds, shown, pair⟩ := map_eq_ok.mp yields
    obtain ⟨text, told, paced⟩ := bind_eq_ok.mp shown
    exact ⟨r, seconds, rfl, ⟨⟨text, told⟩, paced⟩, (Prod.mk.inj pair).2.symm, same.symm⟩

theorem consume {a : Action} (h : p.Faces s w (a :: rest)) {v : d.World} (changes : List String) :
    p.Faces (s.consume a (.changed v changes)) v rest where
  current := (isCurrent_congr (Scheduler.consume_epoch s a _)).trans h.current
  stepping := h.stepping
  world := rfl
  within := (List.getElem?_eq_some_iff.mp h.getElem?_eq).1
  rest := by
    change s.trace.drop (s.index + 1) = rest
    rw [← List.drop_drop, h.rest, List.drop_one, List.tail_cons]

end Faces

/-- Nothing that was refused is forgotten. -/
theorem rejected_advance (s : Scheduler d) : s.rejected <+: s.advance.2.rejected := by
  have consumed : ∀ a r, s.rejected <+: (s.consume a r).rejected := fun a r => by
    cases r with
    | changed => exact List.prefix_rfl
    | refused => exact List.prefix_append _ _
  have move := s.advances
  generalize s.advance.1 = x, s.advance.2 = s' at move
  cases move with
  | settles => exact List.prefix_rfl
  | fails => exact List.prefix_rfl
  | silent => exact consumed _ _
  | tells => exact consumed _ _

theorem rejected_proceed (p : Play) (s : Scheduler d) :
    s.rejected <+: (p.proceed s).2.rejected := by
  have move := p.proceeds s
  generalize (p.proceed s).1 = x, (p.proceed s).2 = s' at move
  cases move with
  | rests => exact List.prefix_rfl
  | ends => exact rejected_advance s
  | fails => exact rejected_advance s
  | pauses => exact rejected_advance s

namespace Undisturbed

variable {p : Play} {s u : Scheduler d} {pauses : List Float} {settled : Bool}

theorem rejected (h : p.Undisturbed s pauses settled u) : s.rejected <+: u.rejected := by
  induction h with
  | @ends s s' _ _ done =>
    have turn := rejected_proceed p s
    rwa [done] at turn
  | @pauses s s' _ _ _ _ _ done _ ih =>
    have turn := rejected_proceed p s
    rw [done] at turn
    exact turn.trans ih

/-- Where nothing is refused, the world takes every action. -/
theorem plays (h : p.Undisturbed s pauses settled u) {w : d.World} {rest : Trace}
    (faces : p.Faces s w rest) (none : u.rejected = []) : (∃ v, d.Plays w rest v) ∧
      ∀ a ∈ rest, ∃ seconds, d.Shows a seconds ∧ seconds * s.pace ∈ pauses := by
  induction h generalizing w rest with
  | ends done =>
    cases rest with
    | nil => exact ⟨⟨w, .nil w⟩, nofun⟩
    | cons a rest =>
      obtain ⟨r, seconds, _, _, same, _⟩ := faces.proceed_cons_inv done
      cases same
  | @pauses s s' u _ _ pauses _ done next ih =>
    cases rest with
    | nil =>
      rw [faces.proceed_nil] at done
      cases done
    | cons a rest =>
      obtain ⟨r, seconds, reaction, shows, same, rfl⟩ := faces.proceed_cons_inv done
      cases same
      cases r with
      | refused why =>
        -- a refusal on the way would still be known at the end
        have kept := next.rejected
        rw [none] at kept
        simp [Scheduler.consume] at kept
      | changed v changes =>
        obtain ⟨⟨last, plays⟩, shown⟩ := ih (faces.consume changes) none
        refine ⟨⟨last, .cons reaction plays⟩, fun b member => ?_⟩
        rcases List.mem_cons.mp member with rfl | later
        · exact ⟨seconds, shows, List.mem_cons_self⟩
        · obtain ⟨seconds', shows', asked⟩ := shown b later
          exact ⟨seconds', shows', List.mem_cons_of_mem _ asked⟩

end Undisturbed

end Play

end PuzzleWorlds
