import PuzzleWorlds.Level.Check

/-! What a level is known to hold once it has been loaded, and once it has been found valid. A
document is read by parts, so each reader is described by what holds of all that it reads; the
numbers that bound a world are checked while they are read, and the references of a level by its
findings. -/

namespace PuzzleWorlds

namespace Decoded

theorem map_eq_ok {f : α → β} {x : Decoded α} {b : β} :
    f <$> x = .ok b ↔ ∃ a, x = .ok a ∧ f a = b := by
  cases x with
  | ok a => simp [Functor.map, map]
  | bad is => simp [Functor.map, map]

theorem seq_eq_ok {f : Decoded (α → β)} {x : Decoded α} {b : β} :
    f <*> x = .ok b ↔ ∃ g a, f = .ok g ∧ x = .ok a ∧ g a = b := by
  cases f <;> cases x <;> simp [Seq.seq, apply]

theorem under_eq_ok {p : Place} {x : Decoded α} {a : α} : x.under p = .ok a ↔ x = .ok a := by
  cases x <;> simp [under]

theorem andThen_eq_ok {x : Decoded α} {f : α → Decoded β} {b : β} :
    x.andThen f = .ok b ↔ ∃ a, x = .ok a ∧ f a = .ok b := by
  cases x <;> simp [andThen]

end Decoded

namespace Decoder

/-- Everything that the decoder reads satisfies `P`. -/
def Reads (d : Decoder α) (P : α → Prop) : Prop := ∀ v a, d v = .ok a → P a

theorem reads_atLeast (least : Int) (d : Decoder Int) : (d.atLeast least).Reads (least ≤ ·) := by
  intro v n read
  obtain ⟨m, _, checked⟩ := Decoded.andThen_eq_ok.mp read
  split at checked
  next => cases checked
  next high =>
    cases checked
    omega

theorem reads_items {d : Decoder α} {P : α → Prop} (each : d.Reads P) (i : Nat) (vs : List Value)
    {l : List α} (read : items d i vs = .ok l) : ∀ a ∈ l, P a := by
  induction vs generalizing i l with
  | nil =>
    cases read
    nofun
  | cons v vs ih =>
    obtain ⟨f, rest, first, others, rfl⟩ := Decoded.seq_eq_ok.mp read
    obtain ⟨a, taken, rfl⟩ := Decoded.map_eq_ok.mp first
    have here : P a := each v a (Decoded.under_eq_ok.mp taken)
    intro b member
    rcases List.mem_cons.mp member with rfl | later
    · exact here
    · exact ih (i + 1) others b later

theorem reads_list {d : Decoder α} {P : α → Prop} (each : d.Reads P) :
    (list d).Reads fun l => ∀ a ∈ l, P a := by
  intro v l read
  unfold list at read
  split at read
  next vs => exact reads_items each 0 vs read
  next vs => exact reads_items each 0 vs read
  next => cases read

theorem reads_object {name : String} {read : Fields → Decoded α} {P : α → Prop}
    (fields : ∀ o a, read o = .ok a → P a) : (object name read).Reads P := by
  intro v a done
  unfold object at done
  split at done
  next => exact fields _ a done
  next => cases done

theorem reads_tagged {tag : String} {variants : List (String × (Fields → Decoded α))}
    {P : α → Prop} (each : ∀ c ∈ variants, ∀ o a, c.2 o = .ok a → P a) :
    (tagged tag variants).Reads P := by
  intro v a done
  unfold tagged at done
  split at done
  next => cases done
  next es _ =>
    split at done
    next => cases done
    next t _ =>
      cases t with
      | text s =>
        dsimp only at done
        split at done
        next c found =>
          exact each c (List.mem_of_find?_eq_some found) _ a (Decoded.under_eq_ok.mp done)
        next => cases done
      | _ => cases done

end Decoder

namespace Fields

theorem required_reads {o : Fields} {name : String} {d : Decoder α} {P : α → Prop} {a : α}
    (reads : d.Reads P) (h : o.required name d = .ok a) : P a := by
  unfold required at h
  split at h
  next v _ => exact reads v a (Decoded.under_eq_ok.mp h)
  next => cases h

/-- A field holds its default or what was read. -/
theorem withDefault_reads {o : Fields} {name : String} {default : α} {d : Decoder α}
    {P : α → Prop} {a : α} (reads : d.Reads P) (standard : P default)
    (h : o.withDefault name default d = .ok a) : P a := by
  unfold withDefault at h
  split at h
  next v _ => exact reads v a (Decoded.under_eq_ok.mp h)
  next =>
    cases h
    exact standard

end Fields

/-- A box of at least one cell. -/
def Building.Size.Positive (s : Building.Size) : Prop := 1 ≤ s.width ∧ 1 ≤ s.height ∧ 1 ≤ s.depth

/-- What loading a level makes sure of: worlds have at least one cell, hit points are not negative,
and places on a stage are numbers. -/
def Domain.Level.WellFormed : {d : Domain} → d.Level → Prop
  | .robot, (l : Robot.Level) => 1 ≤ l.width ∧ 1 ≤ l.height
  | .building, (l : Building.Level) => l.gridSize.Positive
  | .combat, (l : Combat.Level) => ∀ u ∈ l.hero :: l.enemies, 0 ≤ u.hp
  | .pixel, (l : Pixel.Level) => 1 ≤ l.size
  | .sprite, (l : Sprite.Level) => l.lead.x.isNumber ∧ l.lead.y.isNumber
  | .sorting, _ | .music, _ | .math, _ => True

section

variable {o : Fields}

theorem Robot.Level.decode_wellFormed {l : Robot.Level} (h : decode o = .ok l) :
    1 ≤ l.width ∧ 1 ≤ l.height := by
  simp only [decode, Decoded.seq_eq_ok, Decoded.map_eq_ok] at h
  obtain ⟨_, goal, ⟨_, stars, ⟨_, robot, ⟨_, height, ⟨_, width, ⟨header, _, rfl⟩, across, rfl⟩,
    along, rfl⟩, _, rfl⟩, _, rfl⟩, _, rfl⟩ := h
  exact ⟨Fields.withDefault_reads (Decoder.reads_atLeast 1 _) (by decide) across,
    Fields.withDefault_reads (Decoder.reads_atLeast 1 _) (by decide) along⟩

theorem Building.Level.decodeSize_reads : decodeSize.Reads Size.Positive := by
  refine Decoder.reads_object fun o s h => ?_
  simp only [Decoded.seq_eq_ok, Decoded.map_eq_ok] at h
  obtain ⟨_, depth, ⟨_, height, ⟨width, across, rfl⟩, along, rfl⟩, up, rfl⟩ := h
  exact ⟨Fields.withDefault_reads (Decoder.reads_atLeast 1 _) (by decide) across,
    Fields.withDefault_reads (Decoder.reads_atLeast 1 _) (by decide) along,
    Fields.withDefault_reads (Decoder.reads_atLeast 1 _) (by decide) up⟩

theorem Building.Level.decode_wellFormed {l : Building.Level} (h : decode o = .ok l) :
    l.gridSize.Positive := by
  simp only [decode, Decoded.seq_eq_ok, Decoded.map_eq_ok] at h
  obtain ⟨_, goal, ⟨_, start, ⟨_, colors, ⟨_, size, ⟨header, _, rfl⟩, box, rfl⟩, _, rfl⟩,
    _, rfl⟩, _, rfl⟩ := h
  exact Fields.withDefault_reads decodeSize_reads ⟨by decide, by decide, by decide⟩ box

theorem Combat.Level.decodeUnit_reads : decodeUnit.Reads fun u => 0 ≤ u.hp ∧ 0 ≤ u.attack := by
  refine Decoder.reads_object fun o u h => ?_
  simp only [Decoded.seq_eq_ok, Decoded.map_eq_ok] at h
  obtain ⟨_, most, ⟨_, range, ⟨_, strength, ⟨_, hp, ⟨_, y, ⟨_, x, ⟨_, name, ⟨id, _, rfl⟩, _, rfl⟩,
    _, rfl⟩, _, rfl⟩, points, rfl⟩, power, rfl⟩, _, rfl⟩, _, rfl⟩ := h
  exact ⟨Fields.required_reads (Decoder.reads_atLeast 0 _) points,
    Fields.withDefault_reads (Decoder.reads_atLeast 0 _) (Int.le_refl 0) power⟩

theorem Combat.Level.units_of_decode {l : Combat.Level} (h : decode o = .ok l) :
    ∀ u ∈ l.hero :: l.enemies, 0 ≤ u.hp ∧ 0 ≤ u.attack := by
  simp only [decode, Decoded.seq_eq_ok, Decoded.map_eq_ok] at h
  obtain ⟨_, goal, ⟨_, enemies, ⟨_, hero, ⟨_, size, ⟨header, _, rfl⟩, _, rfl⟩, leader, rfl⟩,
    others, rfl⟩, _, rfl⟩ := h
  refine List.forall_mem_cons.mpr ⟨?_, ?_⟩
  · have standard : 0 ≤ standardHero.hp ∧ 0 ≤ standardHero.attack := by decide
    exact Fields.withDefault_reads (P := fun u => 0 ≤ u.hp ∧ 0 ≤ u.attack) decodeUnit_reads
      standard leader
  · have none : ∀ u ∈ ([] : List UnitConfig), 0 ≤ u.hp ∧ 0 ≤ u.attack := by simp
    exact Fields.withDefault_reads (Decoder.reads_list decodeUnit_reads) none others

theorem Combat.Level.decode_wellFormed {l : Combat.Level} (h : decode o = .ok l) :
    ∀ u ∈ l.hero :: l.enemies, 0 ≤ u.hp := fun u member => (units_of_decode h u member).1

theorem Pixel.Level.decode_wellFormed {l : Pixel.Level} (h : decode o = .ok l) : 1 ≤ l.size := by
  simp only [decode, Decoded.seq_eq_ok, Decoded.map_eq_ok] at h
  obtain ⟨_, goal, ⟨_, color, ⟨_, size, ⟨header, _, rfl⟩, side, rfl⟩, _, rfl⟩, _, rfl⟩ := h
  exact Fields.withDefault_reads (Decoder.reads_atLeast 1 _) (by decide) side

theorem Sprite.Level.reads_measure {d : Decoder Float} {P : Float → Prop} {Q : Value → Prop}
    (each : d.Reads P) (leads : ∀ x, P x → Q (.float x)) : (measure d).Reads Q := by
  intro v x read
  unfold measure at read
  cases taken : d v with
  | bad is =>
    rw [taken] at read
    cases read
  | ok y =>
    rw [taken] at read
    cases read
    exact leads y (each v y taken)

theorem Sprite.Level.decodeFigure_reads {P : Value → Prop} (zero : P 0)
    (floats : ∀ x, P (.float x)) : decodeFigure.Reads fun f => P f.x ∧ P f.y := by
  have number : (measure Decoder.float).Reads P :=
    reads_measure (P := fun _ => True) (fun _ _ _ => trivial) fun x _ => floats x
  refine Decoder.reads_object fun o f h => ?_
  simp only [Decoded.seq_eq_ok, Decoded.map_eq_ok] at h
  obtain ⟨_, y, ⟨_, x, ⟨_, emoji, ⟨id, _, rfl⟩, _, rfl⟩, across, rfl⟩, down, rfl⟩ := h
  exact ⟨Fields.withDefault_reads number zero across, Fields.withDefault_reads number zero down⟩

theorem Sprite.Level.lead_of_decode {P : Value → Prop} (zero : P 0) (floats : ∀ x, P (.float x))
    {l : Sprite.Level} (h : decode o = .ok l) : P l.lead.x ∧ P l.lead.y := by
  simp only [decode, Decoded.seq_eq_ok, Decoded.map_eq_ok] at h
  obtain ⟨_, goal, ⟨_, figures, ⟨header, _, rfl⟩, found, rfl⟩, _, rfl⟩ := h
  refine Fields.required_reads (P := fun fs => P fs.1.x ∧ P fs.1.y) ?_ found
  intro v fs read
  obtain ⟨l, listed, split⟩ := Decoded.andThen_eq_ok.mp read
  have each := Decoder.reads_list (decodeFigure_reads zero floats) v l listed
  cases l with
  | nil => cases split
  | cons lead others =>
    cases split
    exact each lead List.mem_cons_self

theorem Sprite.Level.decode_wellFormed {l : Sprite.Level} (h : decode o = .ok l) :
    l.lead.x.isNumber ∧ l.lead.y.isNumber :=
  lead_of_decode (P := fun v => v.isNumber) rfl (fun _ => rfl) h

end

theorem Domain.decodeLevel_wellFormed {d : Domain} {o : Fields} {l : d.Level}
    (h : d.decodeLevel o = .ok l) : Domain.Level.WellFormed l := by
  cases d with
  | robot => exact Robot.Level.decode_wellFormed h
  | building => exact Building.Level.decode_wellFormed h
  | combat => exact Combat.Level.decode_wellFormed h
  | pixel => exact Pixel.Level.decode_wellFormed h
  | sprite => exact Sprite.Level.decode_wellFormed h
  | sorting | music | math => trivial

theorem readLevel_eq_ok {document : Value} {fromText : Bool} {x : AnyLevel} :
    readLevel document fromText = .ok x ↔ AnyLevel.decode document = .ok x := by
  unfold readLevel
  cases AnyLevel.decode document <;> simp

/-- A level that loads was read from the fields of some object, whether its document arrives as a
value or as a text. -/
theorem exists_decodeLevel_of_loadLevel {document : Value} {x : AnyLevel}
    (h : loadLevel document = .ok x) : ∃ o, x.domain.decodeLevel o = .ok x.level := by
  have read : ∃ v, AnyLevel.decode v = .ok x := by
    unfold loadLevel at h
    split at h
    next text =>
      unfold loadLevelText at h
      split at h
      next => cases h
      next => exact ⟨_, readLevel_eq_ok.mp h⟩
      next => cases h
    next => exact ⟨_, readLevel_eq_ok.mp h⟩
  obtain ⟨v, read⟩ := read
  refine Decoder.reads_tagged (P := fun x => ∃ o, x.domain.decodeLevel o = .ok x.level) ?_ v x read
  intro c member o x done
  obtain ⟨d, _, rfl⟩ := List.mem_map.mp member
  obtain ⟨l, decoded, rfl⟩ := Decoded.map_eq_ok.mp done
  exact ⟨o, decoded⟩

/-- A level that loads is well formed. -/
theorem loadLevel_wellFormed {document : Value} {x : AnyLevel} (h : loadLevel document = .ok x) :
    Domain.Level.WellFormed x.level := by
  obtain ⟨o, decoded⟩ := exists_decodeLevel_of_loadLevel h
  exact Domain.decodeLevel_wellFormed decoded

namespace Findings

theorem valid_iff {f : Findings} : f.valid = true ↔ f.errors = [] := List.isEmpty_iff

@[simp] theorem valid_append (f g : Findings) : (f ++ g).valid = (f.valid && g.valid) := by
  rw [Bool.eq_iff_iff, Bool.and_eq_true]
  simp only [valid_iff]
  exact List.append_eq_nil_iff

@[simp] theorem valid_errorIf (c : Bool) (text : String) : (errorIf c text).valid = !c := by
  cases c <;> rfl

theorem valid_join {fs : List Findings} : (join fs).valid = true ↔ ∀ f ∈ fs, f.valid = true := by
  have folded : ∀ g : Findings, (fs.foldl append g).valid = true ↔
      g.valid = true ∧ ∀ f ∈ fs, f.valid = true := by
    induction fs with
    | nil => simp
    | cons f fs ih =>
      intro g
      have added : (g.append f).valid = (g.valid && f.valid) := valid_append g f
      rw [List.foldl_cons, ih, added, Bool.and_eq_true, List.forall_mem_cons, and_assoc]
  rw [join, folded {}]
  exact and_iff_right rfl

end Findings

/-- Nothing is listed twice when every tally is one. -/
theorem nodup_of_tally [BEq α] [LawfulBEq α] {l : List α} (once : ∀ p ∈ tally l, p.2 ≤ 1) :
    l.Nodup := by
  rw [List.nodup_iff_count]
  intro a
  by_cases member : a ∈ l
  · have counted : (a, l.countP fun b => b == a) ∈ tally l :=
      List.mem_map.mpr ⟨a, List.mem_eraseDups.mpr member, rfl⟩
    exact once _ counted
  · rw [List.count_eq_zero.mpr member]
    exact Nat.zero_le 1

theorem Domain.ownFindings_valid {d : Domain} {l : d.Level} (h : (d.validate l).valid = true) :
    (d.ownFindings l).valid = true := by
  simp only [validate, Findings.valid_append, Bool.and_eq_true] at h
  exact h.1.2

/-- In a valid arena every unit has an identifier of its own, and hit points up to its cap. -/
theorem Combat.Level.of_valid {l : Combat.Level} (h : l.findings.valid = true) :
    ((l.hero :: l.enemies).map (·.id)).Nodup ∧ ∀ u ∈ l.hero :: l.enemies, u.hp ≤ u.hpCap := by
  simp only [findings, Findings.valid_append, Bool.and_eq_true] at h
  obtain ⟨⟨⟨distinct, units⟩, _⟩, _⟩ := h
  rw [Findings.valid_join] at distinct units
  refine ⟨nodup_of_tally fun p counted => ?_, fun u member => ?_⟩
  · have single := distinct _ (List.mem_map.mpr ⟨p, counted, rfl⟩)
    simpa using single
  · have fits := units _ (List.mem_map.mpr ⟨u, member, rfl⟩)
    unfold UnitConfig.hpCap
    cases most : u.maxHp with
    | none => exact Int.le_refl u.hp
    | some n =>
      simp only [most, Findings.valid_append, Findings.valid_errorIf, Bool.and_eq_true] at fits
      simpa using fits.2

/-- The paint of a valid canvas is known. -/
theorem Pixel.Level.of_valid {l : Pixel.Level} (h : l.findings.valid = true) :
    ∃ c, paintCode? l.defaultColor = some c := by
  simp only [findings, Findings.valid_append, Findings.valid_errorIf, Bool.and_eq_true] at h
  cases paint : paintCode? l.defaultColor with
  | none => simp [paint] at h
  | some c => exact ⟨c, rfl⟩

end PuzzleWorlds
