import Mathlib.Data.List.Nodup
import PuzzleWorlds.Action.Codec
import PuzzleWorlds.Proofs.KeyedEntries
import PuzzleWorlds.Proofs.Payload

/-! Actions that are written and read again. A dictionary describes an action if it names a known
kind and has no entries but the parameters; any other is refused. The action is written as the same
dictionary, but for the parameters that are nothing, which are left out, and for tuples, which
become lists; and what is written is read as the same action. -/

namespace PuzzleWorlds

namespace Value

@[simp] theorem untuple_retuple (v : Value) : v.retuple.untuple = v.untuple := by
  cases v <;> rfl

theorem retuple_untuple_retuple (v : Value) : v.retuple.untuple.retuple = v.retuple := by
  cases v <;> rfl

@[simp] theorem isNull_retuple (v : Value) : v.retuple.isNull = v.isNull := by
  cases v <;> rfl

theorem eq_null_of_isNull {v : Value} (h : v.isNull = true) : v = .null := by
  cases v <;> trivial

end Value

namespace Payload

namespace Field

theorem mem_all (f : Field) : f ∈ all := by cases f <;> decide

theorem name_injective {f g : Field} (h : f.name = g.name) : f = g := by
  revert h; cases f <;> cases g <;> decide

theorem name_ne_type (f : Field) : f.name ≠ "type" := by cases f <;> decide

theorem ofName?_eq_some_iff {s : String} {f : Field} : ofName? s = some f ↔ f.name = s := by
  constructor
  · intro found
    exact eq_of_beq (List.find?_some found :)
  · rintro rfl
    cases f <;> decide +kernel

end Field

variable {p q : Payload} {kind : String} {es : List (String × Value)}

theorem ext_get (same : ∀ f, p.get f = q.get f) : p = q := by
  cases p
  cases q
  simp only [mk.injEq]
  exact ⟨same .dx, same .dy, same .dz, same .position, same .degrees, same .color, same .first,
    same .second, same .targetId, same .note, same .text, same .seconds, same .beats,
    same .percent⟩

/-- A key under which the dictionary of an action may have an entry. -/
def Known (key : String) : Prop := key = "type" ∨ ∃ f : Field, key = f.name

theorem ofEntries_known {e : String × Value} (known : Known e.1) (kind : String)
    (rest : List (String × Value)) (p : Payload) :
    ∃ p', ofEntries kind (e :: rest) p = ofEntries kind rest p' := by
  obtain ⟨k, v⟩ := e
  obtain rfl | ⟨f, rfl⟩ := known
  · exact ⟨p, rfl⟩
  · have found : Field.ofName? f.name = some f := Field.ofName?_eq_some_iff.mpr rfl
    refine ⟨p.set f v.retuple, ?_⟩
    rw [ofEntries, if_neg (by simpa using f.name_ne_type), found]

theorem exists_ofEntries (known : ∀ key ∈ es.map Prod.fst, Known key) (kind : String)
    (p : Payload) : ∃ q, ofEntries kind es p = .ok q := by
  induction es generalizing p with
  | nil => exact ⟨p, rfl⟩
  | cons e rest ih =>
    obtain ⟨first, others⟩ := List.forall_mem_cons.mp known
    obtain ⟨p', step⟩ := ofEntries_known first kind rest p
    obtain ⟨q, read⟩ := ih others p'
    exact ⟨q, step.trans read⟩

/-- The first entry that is no parameter is at fault. -/
theorem ofEntries_eq_error (strange : ¬∀ key ∈ es.map Prod.fst, Known key) (kind : String)
    (p : Payload) : ∃ key, ofEntries kind es p = .error (.badPayloadField key kind) := by
  induction es generalizing p with
  | nil => exact absurd (List.forall_mem_nil _) strange
  | cons e rest ih =>
    by_cases known : Known e.1
    · obtain ⟨p', step⟩ := ofEntries_known known kind rest p
      obtain ⟨key, refused⟩ := ih (fun all => strange (List.forall_mem_cons.mpr ⟨known, all⟩)) p'
      exact ⟨key, step.trans refused⟩
    · obtain ⟨k, v⟩ := e
      have other : Field.ofName? k = none := Option.eq_none_iff_forall_ne_some.mpr
        fun f found => known (.inr ⟨f, (Field.ofName?_eq_some_iff.mp found).symm⟩)
      have named : ¬(k == "type") = true := fun same => known (.inl (eq_of_beq same))
      exact ⟨k, by rw [ofEntries, if_neg named, other]⟩

theorem known_of_ofEntries (read : ofEntries kind es p = .ok q) :
    ∀ key ∈ es.map Prod.fst, Known key := by
  by_contra strange
  obtain ⟨key, refused⟩ := ofEntries_eq_error strange kind p
  cases read.symm.trans refused

/-- A parameter that was read is the one with its name, with a list as a tuple. -/
theorem get_ofEntries (distinct : (es.map Prod.fst).Nodup) (read : ofEntries kind es p = .ok q)
    (f : Field) : q.get f = ((Value.lookup es f.name).map Value.retuple).getD (p.get f) := by
  induction es generalizing p with
  | nil =>
    cases read
    rfl
  | cons e rest ih =>
    obtain ⟨k, v⟩ := e
    obtain ⟨fresh, others⟩ := List.nodup_cons.mp distinct
    rw [Value.lookup, List.find?_cons]
    rw [ofEntries] at read
    split at read
    next type =>
      have other : (k == f.name) = false :=
        beq_false_of_ne fun same => f.name_ne_type (same ▸ eq_of_beq type)
      rw [other]
      exact ih others read
    next =>
      split at read
      next g found =>
        obtain rfl := Field.ofName?_eq_some_iff.mp found
        by_cases same : f = g
        · subst same
          have absent : Value.lookup rest f.name = none := Value.lookup_eq_none_iff.mpr fresh
          rw [ih others read, absent]
          simp
        · have other : (g.name == f.name) = false :=
            beq_false_of_ne fun alike => same (Field.name_injective alike).symm
          rw [other, ih others read, get_set_of_ne _ _ (Ne.symm same)]
          rfl
      next => cases read

/-- No parameter is a list. -/
def Tupled (p : Payload) : Prop := ∀ f, (p.get f).untuple.retuple = p.get f

theorem tupled_ofEntries (start : p.Tupled) (read : ofEntries kind es p = .ok q) : q.Tupled := by
  induction es generalizing p with
  | nil =>
    cases read
    exact start
  | cons e rest ih =>
    rw [ofEntries] at read
    split at read
    next => exact ih start read
    next =>
      split at read
      next f _ =>
        refine ih (fun g => ?_) read
        by_cases same : f = g
        · subst same
          rw [get_set_self, Value.retuple_untuple_retuple]
        · rw [get_set_of_ne _ _ same]
          exact start g
      next => cases read

theorem mem_toEntries {k : String} {v : Value} :
    (k, v) ∈ p.toEntries ↔ ∃ f : Field, f.name = k ∧ (p.get f).isNull = false ∧
      (p.get f).untuple = v := by
  simp [toEntries, Field.mem_all, and_left_comm]

theorem distinct_toEntries (p : Payload) : (p.toEntries.map Prod.fst).Nodup := by
  rw [toEntries, List.map_map]
  refine List.Nodup.map (fun _ _ => Field.name_injective) (List.Nodup.filter _ ?_)
  decide

/-- Parameters that are written are read as the same ones. -/
theorem ofEntries_toEntries (tupled : p.Tupled) : ofEntries kind p.toEntries {} = .ok p := by
  have known : ∀ key ∈ p.toEntries.map Prod.fst, Known key := by
    intro key member
    obtain ⟨e, entry, rfl⟩ := List.mem_map.mp member
    obtain ⟨f, same, _⟩ := mem_toEntries.mp (show (e.1, e.2) ∈ p.toEntries from entry)
    exact .inr ⟨f, same.symm⟩
  obtain ⟨q, read⟩ := exists_ofEntries known kind {}
  have same (f : Field) : q.get f = p.get f := by
    rw [get_ofEntries p.distinct_toEntries read]
    cases given : (p.get f).isNull with
    | false =>
      have member := mem_toEntries.mpr ⟨f, rfl, given, rfl⟩
      rw [Value.lookup_of_mem p.distinct_toEntries member]
      exact tupled f
    | true =>
      have absent : Value.lookup p.toEntries f.name = none := by
        refine Value.lookup_eq_none_iff.mpr fun member => ?_
        obtain ⟨e, entry, same⟩ := List.mem_map.mp member
        obtain ⟨g, named, filled, _⟩ := mem_toEntries.mp (show (e.1, e.2) ∈ p.toEntries from entry)
        obtain rfl := Field.name_injective (named.trans same)
        rw [given] at filled
        cases filled
      rw [absent, Value.eq_null_of_isNull given]
      cases f <;> rfl
  rw [read, ext_get same]

end Payload

theorem ActionKind.ofName?_eq_some_iff {s : String} {k : ActionKind} :
    ofName? s = some k ↔ k.name = s := by
  constructor
  · intro found
    exact eq_of_beq (List.find?_some found :)
  · rintro rfl
    cases k <;> decide +kernel

namespace Action

variable {es : List (String × Value)} {a : Action}

/-- The entries name a known kind of action and give nothing but parameters. -/
structure Describes (es : List (String × Value)) : Prop where
  kind : ∃ k : ActionKind, Value.lookup es "type" = some (.text k.name)
  known : ∀ key ∈ es.map Prod.fst, key = "type" ∨ ∃ f : Payload.Field, key = f.name

/-- The entries that are not nothing, with tuples as lists. -/
def written (es : List (String × Value)) : List (String × Value) :=
  (es.filter fun e => !e.2.isNull).map fun e => (e.1, e.2.untuple)

theorem kindOf?_eq_some_iff {k : ActionKind} :
    kindOf? (.dict es) = some k ↔ Value.lookup es "type" = some (.text k.name) := by
  unfold kindOf?
  split
  next s given =>
    rw [show Value.lookup es "type" = some (.text s) from given, ActionKind.ofName?_eq_some_iff]
    simp [eq_comm]
  next other =>
    refine iff_of_false (Option.some_ne_none k).symm fun named => ?_
    exact other _ named

theorem ofDict_eq_ok_iff : ofDict (.dict es) = .ok a ↔
    Value.lookup es "type" = some (.text a.kind.name) ∧
      Payload.ofEntries a.kind.name es {} = .ok a.payload := by
  obtain ⟨kind, payload⟩ := a
  simp only [ofDict]
  rw [← kindOf?_eq_some_iff]
  split
  next none => simp [none]
  next k named =>
    simp only [map_eq_ok, named, mk.injEq, Option.some.injEq]
    constructor
    · rintro ⟨p, read, rfl, rfl⟩
      exact ⟨rfl, read⟩
    · rintro ⟨rfl, read⟩
      exact ⟨payload, read, rfl, rfl⟩

theorem tupled_of_ofDict {data : Value} (read : ofDict data = .ok a) : a.payload.Tupled := by
  have start : Payload.Tupled {} := fun f => by cases f <;> rfl
  unfold ofDict at read
  split at read <;> try cases read
  all_goals
    split at read
    next => cases read
    next =>
      obtain ⟨p, given, rfl⟩ := map_eq_ok.mp read
      exact Payload.tupled_ofEntries start given

/-- What is written is read as the same action. -/
theorem ofDict_toDict (tupled : a.payload.Tupled) : ofDict a.toDict = .ok a :=
  ofDict_eq_ok_iff.mpr ⟨rfl, Payload.ofEntries_toEntries tupled⟩

theorem mem_written {k : String} {v : Value} :
    (k, v) ∈ written es ↔ ∃ v', (k, v') ∈ es ∧ v'.isNull = false ∧ v'.untuple = v := by
  simp [written, and_assoc]

theorem distinct_written (distinct : (es.map Prod.fst).Nodup) : (written es).Nodup := by
  refine List.Nodup.of_map Prod.fst ?_
  rw [written, List.map_map]
  exact distinct.sublist (List.filter_sublist.map _)

theorem distinct_toEntries (a : Action) : a.toEntries.Nodup := by
  refine List.nodup_cons.mpr ⟨fun member => ?_, .of_map Prod.fst a.payload.distinct_toEntries⟩
  obtain ⟨f, same, _⟩ := Payload.mem_toEntries.mp member
  exact f.name_ne_type same

/-- An action is written as the dictionary that it was read from. -/
theorem perm_toEntries (distinct : (es.map Prod.fst).Nodup) (read : ofDict (.dict es) = .ok a) :
    a.toEntries.Perm (written es) := by
  obtain ⟨named, read⟩ := ofDict_eq_ok_iff.mp read
  have value (f : Payload.Field) := Payload.get_ofEntries distinct read f
  refine (List.perm_ext_iff_of_nodup a.distinct_toEntries (distinct_written distinct)).mpr ?_
  rintro ⟨k, v⟩
  rw [mem_written, toEntries, List.mem_cons, Payload.mem_toEntries, Prod.mk.injEq]
  constructor
  · rintro (⟨rfl, rfl⟩ | ⟨f, rfl, filled, rfl⟩)
    · exact ⟨_, Value.mem_of_lookup named, rfl, rfl⟩
    · rw [value f] at filled ⊢
      cases given : Value.lookup es f.name with
      | none =>
        rw [given] at filled
        cases f <;> cases filled
      | some v' =>
        rw [given] at filled
        refine ⟨v', Value.mem_of_lookup given, ?_, ?_⟩
        · simpa using filled
        · simp
  · rintro ⟨v', member, filled, rfl⟩
    have given := Value.lookup_of_mem distinct member
    obtain rfl | ⟨f, rfl⟩ := Payload.known_of_ofEntries read k (List.mem_map_of_mem member)
    · cases given.symm.trans named
      exact .inl ⟨rfl, rfl⟩
    · refine .inr ⟨f, rfl, ?_, ?_⟩
      · simpa [value f, given] using filled
      · simp [value f, given]

theorem exists_ofDict (h : Describes es) : ∃ a, ofDict (.dict es) = .ok a := by
  obtain ⟨k, named⟩ := h.kind
  obtain ⟨p, read⟩ := Payload.exists_ofEntries h.known k.name {}
  exact ⟨⟨k, p⟩, ofDict_eq_ok_iff.mpr ⟨named, read⟩⟩

/-- What describes no action is refused for its values. -/
theorem ofDict_eq_error (other : ¬Describes es) :
    ∃ m, ofDict (.dict es) = .error m ∧ m.kind = .value := by
  simp only [ofDict]
  cases named : kindOf? (.dict es) with
  | none => exact ⟨_, rfl, rfl⟩
  | some k =>
    have strange : ¬∀ key ∈ es.map Prod.fst, Payload.Known key :=
      fun known => other ⟨⟨k, kindOf?_eq_some_iff.mp named⟩, known⟩
    obtain ⟨key, refused⟩ := Payload.ofEntries_eq_error strange k.name {}
    exact ⟨.badPayloadField key k.name, by simp [refused, Except.map], rfl⟩

end Action

theorem Trace.ofList_toList {t : Trace} (tupled : ∀ a ∈ t, a.payload.Tupled) :
    ofList t.toList = .ok t := by
  induction t with
  | nil => rfl
  | cons a rest ih =>
    obtain ⟨first, others⟩ := List.forall_mem_cons.mp tupled
    rw [ofList, toList, List.map_cons, List.mapM_cons, Action.ofDict_toDict first, ok_bind]
    rw [show (List.map Action.toDict rest).mapM Action.ofDict = .ok rest from ih others]
    rfl

namespace Action

/-- A dictionary of distinct keys is read as an action exactly if it describes one, and is refused
for its values otherwise. The action is written as the same dictionary, without what is nothing
and with lists for tuples, and read from that again; and so is every trace of such actions. -/
theorem ofDict_written :
    (∀ es, (Describes es ∧ ∃ a, ofDict (.dict es) = .ok a) ∨
      (¬Describes es ∧ ∃ m, ofDict (.dict es) = .error m ∧ m.kind = .value)) ∧
    (∀ es a, (es.map Prod.fst).Nodup → ofDict (.dict es) = .ok a →
      a.toEntries.Perm (written es) ∧ ofDict a.toDict = .ok a) ∧
    ∀ t : Trace, (∀ a ∈ t, ∃ es, ofDict (.dict es) = .ok a) → Trace.ofList t.toList = .ok t := by
  refine ⟨fun es => ?_, fun es a distinct read => ?_, fun t each => ?_⟩
  · by_cases h : Describes es
    · exact .inl ⟨h, exists_ofDict h⟩
    · exact .inr ⟨h, ofDict_eq_error h⟩
  · exact ⟨perm_toEntries distinct read, ofDict_toDict (tupled_of_ofDict read)⟩
  · refine Trace.ofList_toList fun a member => ?_
    obtain ⟨es, read⟩ := each a member
    exact tupled_of_ofDict read

/-- A note that is nothing is left out, and the cell becomes a list, but not what is inside it. -/
theorem ofDict_written_block :
    let es : List (String × Value) := [("color", "red"), ("position", .tuple [1, .tuple [2]]),
      ("type", "place_block"), ("note", .null)]
    let a := Action.placeBlock (.tuple [1, .tuple [2]]) "red"
    Describes es ∧ ofDict (.dict es) = .ok a ∧
      a.toEntries.Perm [("color", "red"), ("position", .list [1, .tuple [2]]),
        ("type", "place_block")] ∧
      ofDict a.toDict = .ok a ∧ Trace.ofList (Trace.toList [a, a]) = .ok [a, a] := by
  intro es a
  have read : ofDict (.dict es) = .ok a := rfl
  obtain ⟨readable, back, traces⟩ := ofDict_written
  obtain ⟨written, again⟩ := back es a (by decide) read
  refine ⟨?_, read, written, again, traces [a, a] ?_⟩
  · obtain ⟨h, _⟩ | ⟨_, m, refused, _⟩ := readable es
    · exact h
    · cases read.symm.trans refused
  · simp only [List.mem_cons, List.not_mem_nil, or_false, or_self, forall_eq]
    exact ⟨es, read⟩

end Action

end PuzzleWorlds
