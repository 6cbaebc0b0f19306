import PuzzleWorlds.Proofs.AttainableGoals

/-! What is left of an arena. Each attack is cut off at zero and at the cap of its enemy; but the
hero is never weaker than nothing, so hit points only fall, and attacks that are cut off one by one
leave as much as if they were added up first. A replay is thereby told by its trace: by how often
each enemy is attacked in it, and by whom its last action names. -/

namespace PuzzleWorlds.Combat

/-- The identifier that an action names. -/
def named? (a : Action) : Option String := a.payload.targetId.text?

/-- How often the trace attacks the enemy with this identifier. -/
def blows (t : Trace) (id : String) : Nat :=
  t.countP fun a => a.kind == .attack && named? a == some id

@[simp] theorem blows_nil (id : String) : blows [] id = 0 := rfl

theorem blows_singleton (a : Action) (id : String) :
    blows [a] id = if a.kind = .attack ∧ named? a = some id then 1 else 0 := by
  simp [blows, List.countP_cons]

theorem blows_append (s t : Trace) (id : String) : blows (s ++ t) id = blows s id + blows t id :=
  List.countP_append

/-- The fighter after so many attacks of this strength. -/
def Fighter.struck (u : Fighter) (strength : Int) (times : Nat) : Fighter :=
  { u with hp := max 0 (u.hp - strength * times) }

namespace Fighter

theorem struck_zero {u : Fighter} (alive : 0 ≤ u.hp) (strength : Int) : u.struck strength 0 = u := by
  simp [struck, alive]

theorem struck_struck {strength : Int} (least : 0 ≤ strength) (u : Fighter) (m n : Nat) :
    (u.struck strength m).struck strength n = u.struck strength (m + n) := by
  have more : 0 ≤ strength * n := Int.mul_nonneg least (Int.natCast_nonneg n)
  have sum : strength * (m + n : Nat) = strength * m + strength * n := by
    rw [Int.natCast_add, Int.mul_add]
  simp only [struck, sum, mk.injEq, true_and, and_true]
  omega

theorem Bounded.struck {u : Fighter} (h : u.Bounded) {strength : Int} (least : 0 ≤ strength)
    (times : Nat) : (u.struck strength times).Bounded := by
  have more : 0 ≤ strength * times := Int.mul_nonneg least (Int.natCast_nonneg times)
  obtain ⟨low, high⟩ := h
  constructor <;> simp only [Fighter.struck] <;> omega

end Fighter

namespace World

/-- The arena after a trace: its attacks are made and counted, and the enemy that its last action
names is selected. -/
def fought (w : World) (t : Trace) : World :=
  { w with
    enemies := w.enemies.map fun e => e.struck w.hero.attack (blows t e.id)
    selected := (t.getLast?.map named?).getD w.selected
    attacks := w.attacks + t.countP fun a => a.kind == .attack }

/-- Nobody shares an identifier, hit points are up to their caps, and the hero heals nobody. -/
structure Fair (w : World) : Prop where
  distinct : (w.enemies.map Fighter.id).Nodup
  bounded : ∀ e ∈ w.enemies, e.Bounded
  strength : 0 ≤ w.hero.attack

namespace Fair

variable {w : World}

theorem fought_nil (h : w.Fair) : w.fought [] = w := by
  have enemies : w.enemies.map (fun e => e.struck w.hero.attack 0) = w.enemies := by
    refine (List.map_congr_left fun e member => ?_).trans (List.map_id w.enemies)
    exact Fighter.struck_zero (h.bounded e member).1 _
  simp [fought, enemies]

theorem fought_append (h : w.Fair) (s t : Trace) : (w.fought s).fought t = w.fought (s ++ t) := by
  have enemies : (w.enemies.map fun e => e.struck w.hero.attack (blows s e.id)).map
      (fun e => e.struck w.hero.attack (blows t e.id)) =
      w.enemies.map fun e => e.struck w.hero.attack (blows (s ++ t) e.id) := by
    rw [List.map_map]
    refine List.map_congr_left fun e _ => ?_
    rw [blows_append, ← Fighter.struck_struck h.strength]
    rfl
  have selected : ((t.getLast?.map named?).getD ((s.getLast?.map named?).getD w.selected)) =
      ((s ++ t).getLast?.map named?).getD w.selected := by
    rw [List.getLast?_append]
    cases t.getLast? <;> simp
  simp only [fought, enemies, selected, List.countP_append, Nat.add_assoc]

theorem fought (h : w.Fair) (t : Trace) : (w.fought t).Fair where
  distinct := by
    have ids : (w.fought t).enemies.map Fighter.id = w.enemies.map Fighter.id := List.map_map
    rw [ids]
    exact h.distinct
  bounded e member := by
    obtain ⟨u, listed, rfl⟩ := List.mem_map.mp member
    exact (h.bounded u listed).struck h.strength _
  strength := h.strength

/-- An attack within the cap takes the hero's strength, down to zero. -/
theorem hpAfter_eq (h : w.Fair) {e : Fighter} (member : e ∈ w.enemies) :
    { e with hp := w.hpAfter e } = e.struck w.hero.attack 1 := by
  obtain ⟨low, high⟩ := h.bounded e member
  have least := h.strength
  have hp : w.hpAfter e = max 0 (e.hp - w.hero.attack * (1 : Nat)) := by
    simp only [hpAfter, clamp]
    omega
  rw [hp]
  rfl

/-- An action that is taken leaves the arena as its trace tells. -/
theorem react (h : w.Fair) {v : World} {a : Action} {changes : List String}
    (taken : w.react a = .ok (.changed v changes)) : v = w.fought [a] := by
  have spared (e : Fighter) (member : e ∈ w.enemies)
      (other : ¬(a.kind = .attack ∧ named? a = some e.id)) :
      e.struck w.hero.attack (blows [a] e.id) = e := by
    rw [blows_singleton, if_neg other]
    exact Fighter.struck_zero (h.bounded e member).1 _
  unfold World.react at taken
  split at taken
  next kind =>
    replace taken := Except.ok.inj taken
    unfold selectTarget at taken
    split at taken
    next => cases taken
    next e found =>
      cases taken
      have named : named? a = some e.id := (targeted?_text found).1
      have enemies : w.enemies.map (fun e => e.struck w.hero.attack (blows [a] e.id)) =
          w.enemies :=
        (List.map_congr_left fun e member => spared e member (by simp [kind])).trans
          (List.map_id w.enemies)
      simp [World.fought, enemies, named, kind]
  next kind =>
    replace taken := Except.ok.inj taken
    unfold attack at taken
    split at taken
    next => cases taken
    next e found =>
      cases taken
      obtain ⟨named, target⟩ := targeted?_text found
      replace named : named? a = some e.id := named
      have enemies : w.enemies.map (fun e => e.struck w.hero.attack (blows [a] e.id)) =
          w.enemies.map fun f => if f.id == e.id then { f with hp := w.hpAfter e } else f := by
        refine List.map_congr_left fun f member => ?_
        split
        next same =>
          obtain rfl : f = e := List.inj_on_of_nodup_map h.distinct member target (eq_of_beq same)
          rw [h.hpAfter_eq member, blows_singleton, if_pos ⟨kind, named⟩]
        next other =>
          refine spared f member fun ⟨_, aims⟩ => other ?_
          exact beq_iff_eq.mpr (Option.some.inj (aims.symm.trans named))
      simp [World.fought, enemies, named, kind]
  next => cases taken

/-- So do the actions of a trace that are all taken. -/
theorem plays {w v : Domain.World .combat} (h : Fair w) {t : Trace}
    (played : Domain.Plays .combat w t v) : v = World.fought w t := by
  induction played with
  | nil w => exact h.fought_nil.symm
  | cons first _ ih =>
    obtain rfl := h.react (Domain.apply_changed_iff.mp first)
    exact (ih (h.fought _)).trans (h.fought_append _ _)

end Fair

theorem Fair.initial {document : Value} {l : Level} (loads : loadLevel document = .ok ⟨.combat, l⟩)
    (valid : (Domain.combat.validate l).valid = true) : (initial l).Fair := by
  obtain ⟨o, decoded⟩ := exists_decodeLevel_of_loadLevel loads
  obtain ⟨hero, others⟩ := List.forall_mem_cons.mp (Level.units_of_decode decoded)
  obtain ⟨distinct, capped⟩ := Level.of_valid (Domain.ownFindings_valid valid)
  refine ⟨?_, fun e member => ?_, hero.2⟩
  · rw [World.initial, List.map_map]
    exact (List.nodup_cons.mp distinct).2
  · obtain ⟨u, listed, rfl⟩ := List.mem_map.mp member
    exact ⟨(others u listed).1, capped u (List.mem_cons_of_mem _ listed)⟩

end World

end PuzzleWorlds.Combat
