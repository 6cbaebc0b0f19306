import PuzzleWorlds.Proofs.LoadedLevel

/-! Readers that take back what is written of the values they read. Such a reader is built of such
readers: the numbers, texts and truth values stand as themselves, and a field of an object that is
written under its own name is found there, whether it was given or filled in. -/

namespace PuzzleWorlds

namespace Decoded

theorem map_ok {f : α → β} {x : Decoded α} {a : α} (h : x = .ok a) : f <$> x = .ok (f a) :=
  map_eq_ok.mpr ⟨a, h, rfl⟩

theorem seq_ok {f : Decoded (α → β)} {g : α → β} {x : Decoded α} {a : α} (h : f = .ok g)
    (h' : x = .ok a) : f <*> x = .ok (g a) :=
  seq_eq_ok.mpr ⟨g, a, h, h', rfl⟩

end Decoded

namespace Decoder

/-- What `write` makes of a value that was read is read as the same value. -/
def Rereads (d : Decoder α) (write : α → Value) : Prop := d.Reads fun a => d (write a) = .ok a

theorem text_rereads : text.Rereads .text := fun _ _ _ => rfl

theorem int_rereads : int.Rereads .int := fun _ _ _ => rfl

theorem bool_rereads : bool.Rereads .bool := fun _ _ _ => rfl

theorem Rereads.atLeast {d : Decoder Int} {write : Int → Value} (h : d.Rereads write)
    (least : Int) : (d.atLeast least).Rereads write := by
  intro v n read
  obtain ⟨m, taken, checked⟩ := Decoded.andThen_eq_ok.mp read
  split at checked
  next => cases checked
  next high =>
    cases checked
    exact Decoded.andThen_eq_ok.mpr ⟨_, h v _ taken, if_neg high⟩

theorem items_map {d : Decoder α} {write : β → Value} {f : β → α} {l : List β}
    (each : ∀ b ∈ l, d (write b) = .ok (f b)) (i : Nat) :
    items d i (l.map write) = .ok (l.map f) := by
  induction l generalizing i with
  | nil => rfl
  | cons b l ih =>
    obtain ⟨here, others⟩ := List.forall_mem_cons.mp each
    exact Decoded.seq_ok (Decoded.map_ok (Decoded.under_eq_ok.mpr here)) (ih others (i + 1))

theorem Rereads.list {d : Decoder α} {write : α → Value} (h : d.Rereads write) :
    (list d).Rereads fun l => .list (l.map write) := by
  intro v l read
  have each : ∀ a ∈ l, d (write a) = .ok (id a) := reads_list h v l read
  exact (items_map each 0).trans (by rw [List.map_id])

theorem Rereads.nonEmpty {d : Decoder (List α)} {write : List α → Value} (h : d.Rereads write) :
    (nonEmpty d).Rereads write := by
  intro v l read
  obtain ⟨m, taken, checked⟩ := Decoded.andThen_eq_ok.mp read
  split at checked
  next => cases checked
  next filled =>
    cases checked
    exact Decoded.andThen_eq_ok.mpr ⟨_, h v _ taken, if_neg filled⟩

theorem optional_reads {d : Decoder α} {P : α → Prop} (h : d.Reads P) :
    (optional d).Reads fun o => ∀ a, o = some a → P a := by
  intro v o read
  unfold optional at read
  split at read
  next =>
    cases read
    nofun
  next =>
    obtain ⟨a, taken, rfl⟩ := Decoded.map_eq_ok.mp read
    rintro _ ⟨⟩
    exact h _ a taken

/-- An option is written as what `write` makes of its value, and as nothing without one. -/
theorem Rereads.optional {d : Decoder α} {write : α → Value} (h : d.Rereads write)
    (filled : ∀ a, write a ≠ .null) :
    (Decoder.optional d).Rereads fun o => (o.map write).getD .null := by
  intro v o read
  cases o with
  | none => rfl
  | some a =>
    have again : d (write a) = .ok a := optional_reads h v _ read a rfl
    have written : Decoder.optional d (write a) = some <$> d (write a) := by
      unfold Decoder.optional
      split
      next none => exact absurd none (filled a)
      next => rfl
    exact written.trans (Decoded.map_ok again)

theorem Rereads.optionalInt {d : Decoder Int} (h : d.Rereads .int) :
    (Decoder.optional d).Rereads Value.ofOptionInt := by
  intro v o read
  have again := h.optional (by nofun) v o read
  cases o <;> exact again

theorem Rereads.optionalText {d : Decoder String} (h : d.Rereads .text) :
    (Decoder.optional d).Rereads Value.ofOptionText := by
  intro v o read
  have again := h.optional (by nofun) v o read
  cases o <;> exact again

theorem pair_parts {d : Decoder α} {v : Value} {p : α × α} (read : pair d v = .ok p) :
    ∃ a b, d a = .ok p.1 ∧ d b = .ok p.2 := by
  have one : ∀ a is, (Prod.mk <$> (d a).under (.index 0)) <*> .bad is ≠ .ok p := by
    intro a is taken
    obtain ⟨_, _, _, none, _⟩ := Decoded.seq_eq_ok.mp taken
    cases none
  have two : ∀ a b, (Prod.mk <$> (d a).under (.index 0)) <*> (d b).under (.index 1) = .ok p →
      ∃ a b, d a = .ok p.1 ∧ d b = .ok p.2 := by
    intro a b taken
    obtain ⟨_, y, first, second, rfl⟩ := Decoded.seq_eq_ok.mp taken
    obtain ⟨x, left, rfl⟩ := Decoded.map_eq_ok.mp first
    exact ⟨a, b, Decoded.under_eq_ok.mp left, Decoded.under_eq_ok.mp second⟩
  unfold pair at read
  split at read
  next =>
    split at read
    next => cases read
    next a => exact absurd read (one a _)
    next a b => exact two a b read
    next => cases read
  next =>
    split at read
    next => cases read
    next a => exact absurd read (one a _)
    next a b => exact two a b read
    next => cases read
  next => cases read

theorem Rereads.pair {d : Decoder α} {write : α → Value} (h : d.Rereads write) :
    (Decoder.pair d).Rereads fun p => .list [write p.1, write p.2] := by
  intro v p read
  obtain ⟨a, b, left, right⟩ := pair_parts read
  exact Decoded.seq_ok (Decoded.map_ok (Decoded.under_eq_ok.mpr (h a _ left)))
    (Decoded.under_eq_ok.mpr (h b _ right))

theorem rereads_object {name : String} {read : Fields → Decoded α}
    {write : α → List (String × Value)}
    (fields : ∀ o a, read o = .ok a →
      read { entries := write a, whole := .dict (write a) } = .ok a) :
    (object name read).Rereads fun a => .dict (write a) :=
  reads_object fields

theorem tagged_ok {tag s : String} {variants : List (String × (Fields → Decoded α))}
    {c : String × (Fields → Decoded α)} {es : List (String × Value)} {a : α}
    (named : Value.lookup es tag = some (.text s))
    (found : variants.find? (fun c => c.1 == s) = some c)
    (read : c.2 { entries := es, whole := .dict es } = .ok a) :
    tagged tag variants (.dict es) = .ok a := by
  simp only [tagged, Value.entries?, named, found]
  exact Decoded.under_eq_ok.mpr read

end Decoder

namespace Fields

variable {o o' : Fields} {name key : String} {d : Decoder α} {write : α → Value} {a : α}

theorem required_ok {v : Value} (found : o.find? name = some (key, v)) (read : d v = .ok a) :
    o.required name d = .ok a := by
  rw [required, found]
  exact Decoded.under_eq_ok.mpr read

theorem withDefault_ok {default : α} {v : Value} (found : o.find? name = some (key, v))
    (read : d v = .ok a) : o.withDefault name default d = .ok a := by
  rw [withDefault, found]
  exact Decoded.under_eq_ok.mpr read

theorem required_again (again : d.Rereads write) (h : o.required name d = .ok a)
    (found : o'.find? name = some (key, write a)) : o'.required name d = .ok a :=
  required_ok found (required_reads (P := fun a => d (write a) = .ok a) again h)

theorem withDefault_again {default : α} (again : d.Rereads write)
    (standard : d (write default) = .ok default) (h : o.withDefault name default d = .ok a)
    (found : o'.find? name = some (key, write a)) : o'.withDefault name default d = .ok a :=
  withDefault_ok found (withDefault_reads (P := fun a => d (write a) = .ok a) again standard h)

end Fields

theorem LevelId.decode_rereads : decode.Rereads toValue := by
  intro _ id _
  cases id <;> rfl

theorem Difficulty.decode_rereads : decode.Rereads fun d => .text d.name := by
  intro _ d _
  cases d <;> rfl

namespace LevelHeader

/-- The fields of a header come first in a dump, and none of the keys behind them is taken for the
one that has a camelCase spelling. -/
theorem find_allowedBlocks (h : LevelHeader) {rest : List (String × Value)} {whole : Value}
    (other : Value.lookup rest "allowedBlocks" = none) :
    Fields.find? { entries := h.dump ++ rest, whole := whole } "allowed_blocks" =
      some ("allowed_blocks", .list (h.allowedBlocks.map .text)) := by
  have camel : Value.lookup (h.dump ++ rest) "allowedBlocks" = none := other
  have primary : camelCase "allowed_blocks" = "allowedBlocks" := by decide +kernel
  simp only [Fields.find?, Fields.primary, primary, camel]
  rfl

theorem decode_again {o : Fields} {h : LevelHeader} (read : decode o = .ok h)
    {rest : List (String × Value)} {whole : Value}
    (other : Value.lookup rest "allowedBlocks" = none) :
    decode { entries := h.dump ++ rest, whole := whole } = .ok h := by
  simp only [decode, Decoded.seq_eq_ok, Decoded.map_eq_ok] at read
  obtain ⟨_, blocks, ⟨_, hints, ⟨_, description, ⟨_, difficulty, ⟨_, name, ⟨id, number, rfl⟩,
    named, rfl⟩, hard, rfl⟩, told, rfl⟩, helped, rfl⟩, offered, rfl⟩ := read
  have texts := Decoder.text_rereads.list
  -- Where a field stands in the dump is computed; only what is behind the header is unknown.
  exact Decoded.seq_ok (Decoded.seq_ok (Decoded.seq_ok (Decoded.seq_ok (Decoded.seq_ok
    (Decoded.map_ok (Fields.required_again LevelId.decode_rereads number rfl))
    (Fields.required_again Decoder.text_rereads named rfl))
    (Fields.withDefault_again Difficulty.decode_rereads rfl hard rfl))
    (Fields.withDefault_again Decoder.text_rereads rfl told rfl))
    (Fields.withDefault_again texts rfl helped rfl))
    (Fields.withDefault_again texts rfl offered (find_allowedBlocks _ other))

end LevelHeader

theorem decodeFreeGoal_again {o o' : Fields} {n : Int} {key : String}
    (read : decodeFreeGoal o = .ok n)
    (found : o'.find? "min_actions" = some (key, .int n)) : decodeFreeGoal o' = .ok n :=
  Fields.withDefault_again (Decoder.int_rereads.atLeast 1) rfl read found

end PuzzleWorlds
