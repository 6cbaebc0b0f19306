import PuzzleWorlds.Action.Describe
import PuzzleWorlds.Proofs.Cursor
import PuzzleWorlds.Proofs.Shelf

/-! What registries record. A command that acts has read its arguments by then, so its action is one
that the world has a handler for and that can be described; swaps, targets and printed lines are
taken by every world that belongs to the bookkeeping. -/

namespace PuzzleWorlds

namespace Value

/-- A number as a program gives it, which is no truth value. -/
inductive Plain : Value → Prop
  | int (n : Int) : Plain (.int n)
  | float (x : Float) : Plain (.float x)

theorem Plain.negate {v : Value} (h : v.Plain) : v.negate.Plain := by
  cases h with
  | int n => exact .int _
  | float x => exact .float _

theorem simplify_plain (x : Float) : (simplify (.float x)).Plain := by
  unfold simplify
  dsimp only
  split
  next => exact .int _
  next => exact .float _

end Value

theorem plain_of_asNumber {what : String} {v n : Value} (h : asNumber what v = .ok n) :
    n.Plain := by
  unfold asNumber at h
  cases read : v.asNumber? with
  | none =>
    rw [read] at h
    cases h
  | some m =>
    rw [read] at h
    cases h
    cases v with
    | int i =>
      cases read
      exact .int i
    | float x =>
      cases read
      exact .float x
    | text s =>
      obtain ⟨x, _, rfl⟩ := Option.map_eq_some_iff.mp read
      exact Value.simplify_plain x
    | null | bool b | list l | tuple l | dict l | record l => cases read

/-- An action that a registry of the domain may record: the world has a handler for it, and it goes
by numbers if it is a move. -/
structure Domain.Recorded (d : Domain) (a : Action) : Prop where
  handled : a.kind ∈ d.handledKinds
  steps : a.kind = .move → a.payload.dx.Plain ∧ a.payload.dy.Plain ∧ a.payload.dz.Plain

theorem Domain.Recorded.still {d : Domain} {a : Action} (k : ActionKind) (kind : a.kind = k)
    (handled : k ∈ d.handledKinds) (other : k ≠ .move) : d.Recorded a where
  handled := kind ▸ handled
  steps move := absurd (kind.symm.trans move) other

theorem Domain.Recorded.move {d : Domain} (handled : .move ∈ d.handledKinds) {dx dy dz : Value}
    (x : dx.Plain) (y : dy.Plain) (z : dz.Plain) : d.Recorded (.move dx dy dz) where
  handled := handled
  steps _ := ⟨x, y, z⟩

namespace Robot

theorem Command.records {s s' : Shadow} {c : Command} {args : Arguments} {a : Action}
    (h : c.call s args = .ok (.acts s' a)) : Domain.Recorded .robot a := by
  obtain ⟨_, rfl | ⟨seconds, rfl⟩ | rfl⟩ | ⟨q, _, _, rfl⟩ := Command.call_acts h
  · exact .still .collectStar rfl (by decide) nofun
  · exact .still .wait rfl (by decide) nofun
  · exact .move (by decide) (.int _) (.int _) (.int 0)
  · exact .still .turn rfl (by decide) nofun

end Robot

namespace Building

theorem Command.records {s s' : Shadow} {c : Command} {args : Arguments} {a : Action}
    (h : c.call s args = .ok (.acts s' a)) : Domain.Recorded .building a := by
  obtain ⟨x, y, z, _, rfl⟩ | ⟨dx, dy, dz, _, rfl⟩ | ⟨_, rfl | rfl⟩ | ⟨color, _, _, rfl⟩ :=
    Command.call_acts h
  · exact .still .goto rfl (by decide) nofun
  · exact .move (by decide) (.int dx) (.int dy) (.int dz)
  · exact .still .placeBlock rfl (by decide) nofun
  · exact .still .removeBlock rfl (by decide) nofun
  · exact .still .setColor rfl (by decide) nofun

end Building

namespace Sorting

theorem Command.records {s s' : Shadow} {c : Command} {args : Arguments} {a : Action}
    (h : c.call s args = .ok (.acts s' a)) : Domain.Recorded .sorting a := by
  obtain ⟨i, j, _, _, _, rfl⟩ := Command.call_acts h
  exact .still .swap rfl (by decide) nofun

/-- The shelf and its copy take the same swap. -/
theorem Command.follows : Registry.Follows (d := .sorting)
    (fun (s : Shadow) (w : World) => w.potions = s.potions) (fun _ _ => True) := by
  intro (s : Shadow) (s' : Shadow) (w : World) c args a same called
  obtain ⟨i, j, first, second, rfl, rfl⟩ := Command.call_acts called
  rw [← same] at first second
  obtain ⟨changes, taken⟩ := w.swap_nat first second
  exact ⟨trivial, _, changes, Domain.apply_changed_iff.mpr taken,
    congrArg (fun l => exchange l i j) same⟩

end Sorting

namespace Combat

/-- Only an enemy is attacked or selected. -/
theorem Command.call_acts {s s' : Shadow} {c : Command} {args : Arguments} {a : Action}
    (h : c.call s args = .ok (.acts s' a)) : ∃ e ∈ s.enemies,
      s' = { s with selected := some e.id } ∧ (a = .attack e.id ∨ a = .selectTarget e.id) := by
  have listed : ∀ {v e}, s.target v = .ok e → e ∈ s.enemies := by
    intro v e found
    unfold Shadow.target at found
    dsimp only at found
    split at found
    next f known =>
      cases found
      split at known
      next => cases known
      next => exact List.mem_of_find?_eq_some known
    next => cases found
  cases c with
  | attack =>
    obtain ⟨v, _, h⟩ := bind_eq_ok.mp h
    obtain ⟨e, found, h⟩ := bind_eq_ok.mp h
    cases h
    exact ⟨e, listed found, rfl, .inl rfl⟩
  | selectTarget =>
    obtain ⟨e, found, h⟩ := bind_eq_ok.mp h
    cases h
    exact ⟨e, listed found, rfl, .inr rfl⟩
  | distanceTo =>
    obtain ⟨e, _, h⟩ := bind_eq_ok.mp h
    obtain ⟨x, _, h⟩ := bind_eq_ok.mp h
    cases h
  | getHp =>
    obtain ⟨e, _, h⟩ := bind_eq_ok.mp h
    cases h
  | getPosition =>
    obtain ⟨e, _, h⟩ := bind_eq_ok.mp h
    obtain ⟨v, _, h⟩ := bind_eq_ok.mp h
    cases h
  | inRange =>
    obtain ⟨e, _, h⟩ := bind_eq_ok.mp h
    obtain ⟨x, _, h⟩ := bind_eq_ok.mp h
    cases h

theorem Command.records {s s' : Shadow} {c : Command} {args : Arguments} {a : Action}
    (h : c.call s args = .ok (.acts s' a)) : Domain.Recorded .combat a := by
  obtain ⟨e, _, _, rfl | rfl⟩ := Command.call_acts h
  · exact .still .attack rfl (by decide) nofun
  · exact .still .selectTarget rfl (by decide) nofun

theorem World.targeted?_eq_some {w : World} {id : String} (known : ∃ f ∈ w.enemies, f.id = id) :
    ∃ e, w.targeted? (.text id) = some e := by
  change ∃ e, w.enemies.find? _ = some e
  obtain ⟨f, member, rfl⟩ := known
  exact Option.isSome_iff_exists.mp
    (List.find?_isSome.mpr ⟨f, member, beq_self_eq_true f.id⟩)

/-- Every enemy that a program can name is in the arena. -/
def Shadow.Knows (s : Shadow) (w : World) : Prop := ∀ e ∈ s.enemies, ∃ f ∈ w.enemies, f.id = e.id

theorem Command.follows : Registry.Follows (d := .combat) Shadow.Knows (fun _ _ => True) := by
  intro (s : Shadow) (s' : Shadow) (w : World) c args a known called
  obtain ⟨e, member, rfl, rfl | rfl⟩ := Command.call_acts called
  · obtain ⟨f, found⟩ := World.targeted?_eq_some (known e member)
    have taken : ∃ enemies changes, w.react (.attack e.id) = .ok (.changed
        { w with enemies, selected := some f.id, attacks := w.attacks + 1 } changes) ∧
        enemies.map Fighter.id = w.enemies.map Fighter.id := by
      change ∃ enemies changes, Except.ok (w.attack (.text e.id)) = _ ∧ _
      rw [World.attack, found]
      -- hit points are lost, identifiers are kept
      refine ⟨_, _, rfl, ?_⟩
      rw [List.map_map]
      refine List.map_congr_left fun g _ => ?_
      dsimp only [Function.comp]
      split <;> rfl
    obtain ⟨enemies, changes, taken, ids⟩ := taken
    refine ⟨trivial, _, changes, Domain.apply_changed_iff.mpr taken, fun e' member' => ?_⟩
    obtain ⟨g, old, same⟩ := known e' member'
    have kept : g.id ∈ enemies.map Fighter.id := ids ▸ List.mem_map_of_mem old
    obtain ⟨g', now, same'⟩ := List.mem_map.mp kept
    exact ⟨g', now, same'.trans same⟩
  · obtain ⟨f, found⟩ := World.targeted?_eq_some (known e member)
    have taken : ∃ changes, w.react (.selectTarget e.id) =
        .ok (.changed { w with selected := some f.id } changes) := by
      change ∃ changes, Except.ok (w.selectTarget (.text e.id)) = _
      rw [World.selectTarget, found]
      exact ⟨_, rfl⟩
    obtain ⟨changes, taken⟩ := taken
    exact ⟨trivial, _, changes, Domain.apply_changed_iff.mpr taken, known⟩

end Combat

namespace Pixel

theorem Command.records {s s' : Shadow} {c : Command} {args : Arguments} {a : Action}
    (h : c.call s args = .ok (.acts s' a)) : Domain.Recorded .pixel a := by
  obtain ⟨_, rfl⟩ | ⟨_, rfl⟩ | ⟨_, rfl⟩ | ⟨color, _, _, rfl⟩ := Command.call_acts h
  · exact .still .drawPixel rfl (by decide) nofun
  · exact .move (by decide) (.int 0) (.int 1) (.int 0)
  · exact .move (by decide) (.int 1) (.int 0) (.int 0)
  · exact .still .setColor rfl (by decide) nofun

end Pixel

namespace Console

/-- The console takes every line. -/
theorem Command.follows : Registry.Follows (d := .math) (fun _ _ => True) (fun _ _ => True) := by
  intro _ _ w c args a _ called
  cases c
  obtain ⟨line, _, called⟩ := bind_eq_ok.mp called
  cases called
  exact ⟨trivial, _, _, rfl, trivial⟩

end Console

namespace Music

/-- What the registry of a music level records. -/
inductive Recorded : Action → Prop
  | playNote {note : String} : note ∈ notes → Recorded (.playNote note)
  | rest (beats : Value) : Recorded (.rest beats)

theorem Recorded.known {a : Action} (h : Recorded a) : Domain.Recorded .music a := by
  cases h with
  | playNote => exact .still .playNote rfl (by decide) nofun
  | rest => exact .still .rest rfl (by decide) nofun

theorem mem_notes_of_normalizeNote {v : Value} {note : String} (h : normalizeNote v = .ok note) :
    note ∈ notes := by
  unfold normalizeNote at h
  dsimp only at h
  split at h
  next named found =>
    obtain rfl := Except.ok.inj h
    have all : ∀ n ∈ solfege, n.2 ∈ notes := by decide
    exact all named (List.mem_of_find?_eq_some found)
  next =>
    split at h
    next known =>
      obtain rfl := Except.ok.inj h
      exact List.contains_iff_mem.mp known
    next => cases h

theorem Command.records {c : Command} {args : Arguments} {u : Unit} {a : Action}
    (h : c.call args = .ok (.acts u a)) : Recorded a := by
  cases c with
  | playNote =>
    obtain ⟨note, normal, h⟩ := bind_eq_ok.mp h
    cases h
    exact .playNote (mem_notes_of_normalizeNote normal)
  | rest =>
    obtain ⟨beats, _, h⟩ := bind_eq_ok.mp h
    split at h
    next => cases h
    next =>
      cases h
      exact .rest beats

end Music

namespace Sprite

/-- What the registry of a sprite level records. -/
inductive Recorded : Action → Prop
  | jump : Recorded .jump
  | move {dx dy : Value} : dx.Plain → dy.Plain → Recorded (.move dx dy 0)
  | rotate {degrees : Value} : degrees.Plain → Recorded (.rotate degrees)
  | say (text : String) : Recorded (.say text)
  | scale {percent : Value} : percent.Plain → percent.isNotPositive = false →
    Recorded (.scale percent)
  | wait (seconds : Value) : Recorded (.wait seconds)

theorem Recorded.known {a : Action} (h : Recorded a) : Domain.Recorded .sprite a := by
  cases h with
  | jump => exact .still .jump rfl (by decide) nofun
  | move dx dy => exact .move (by decide) dx dy (.int 0)
  | rotate => exact .still .rotate rfl (by decide) nofun
  | say => exact .still .say rfl (by decide) nofun
  | scale => exact .still .scale rfl (by decide) nofun
  | wait => exact .still .wait rfl (by decide) nofun

theorem Command.records {c : Command} {args : Arguments} {u : Unit} {a : Action}
    (h : c.call args = .ok (.acts u a)) : Recorded a := by
  cases c with
  | jump =>
    cases h
    exact .jump
  | moveDown =>
    obtain ⟨n, number, h⟩ := bind_eq_ok.mp h
    cases h
    exact .move (.int 0) (plain_of_asNumber number)
  | moveLeft =>
    obtain ⟨n, number, h⟩ := bind_eq_ok.mp h
    cases h
    exact .move (plain_of_asNumber number).negate (.int 0)
  | moveRight =>
    obtain ⟨n, number, h⟩ := bind_eq_ok.mp h
    cases h
    exact .move (plain_of_asNumber number) (.int 0)
  | moveUp =>
    obtain ⟨n, number, h⟩ := bind_eq_ok.mp h
    cases h
    exact .move (.int 0) (plain_of_asNumber number).negate
  | rotate =>
    obtain ⟨n, number, h⟩ := bind_eq_ok.mp h
    cases h
    exact .rotate (plain_of_asNumber number)
  | say =>
    obtain ⟨text, _, h⟩ := bind_eq_ok.mp h
    cases h
    exact .say text
  | scale =>
    obtain ⟨n, number, h⟩ := bind_eq_ok.mp h
    split at h
    next => cases h
    next positive =>
      cases h
      exact .scale (plain_of_asNumber number) (Bool.not_eq_true _ ▸ positive)
  | wait =>
    obtain ⟨a', pause, h⟩ := bind_eq_ok.mp h
    obtain ⟨seconds, _, _, rfl⟩ := waitAction_eq_ok.mp pause
    cases h
    exact .wait seconds

end Sprite

namespace Domain

end Domain

namespace Registry

/-- What holds of every action that commands yield holds of every action that calls record. -/
theorem forall_trace_after {d : Domain} {P : Action → Prop}
    (yields : ∀ {s s' : d.Shadow} {c args a}, Domain.call s c args = .ok (.acts s' a) → P a)
    {r : Registry d} (start : ∀ a ∈ r.trace, P a) (cs : List Invocation) :
    ∀ a ∈ (r.after cs).trace, P a := by
  induction cs generalizing r with
  | nil => exact start
  | cons c cs ih =>
    have move := r.invokes c
    rw [after_cons]
    generalize (r.invoke c.name c.args).1 = x, (r.invoke c.name c.args).2 = r' at move
    cases move with
    | refuses => exact ih start
    | answers => exact ih start
    | exhausts => exact ih start
    | acts response =>
      obtain ⟨k, args, _, _, called⟩ := Registry.respond_ok_iff.mp response
      refine ih fun a member => ?_
      rcases List.mem_append.mp member with earlier | new
      · exact start a earlier
      · exact List.mem_singleton.mp new ▸ yields called

end Registry

end PuzzleWorlds
