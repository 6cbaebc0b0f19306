import PuzzleWorlds.Proofs.CompiledPrograms
import PuzzleWorlds.Proofs.JsonScanners

/-! How a branching block is compiled. Its inputs `IF0`, `IF1` and so on, up to the first number
that is missing, are the conditions of its arms, and the inputs `DO0`, `DO1` and so on their
statements. What the inputs of a greater number hold is not looked at. -/

namespace PuzzleWorlds

theorem natText_injective : Function.Injective natText := by
  intro m n same
  have digits : natDigits m = natDigits n := String.ofList_injective same
  rw [← Json.digitsValue_natDigits m, digits, Json.digitsValue_natDigits]

namespace Compiling

/-- What code gives back, wherever it is in its count. -/
def Gives (x : Compiling α) (a : α) : Prop := ∃ n n', x n = .ok (a, n')

namespace Gives

theorem bind {x : Compiling α} {f : α → Compiling β} {b : β} (h : Gives (x >>= f) b) :
    ∃ a, Gives x a ∧ Gives (f a) b := by
  obtain ⟨n, n', done⟩ := h
  obtain ⟨⟨a, m⟩, first, second⟩ := bind_eq_ok.mp done
  exact ⟨a, ⟨n, m, first⟩, m, n', second⟩

theorem pure {a b : α} (h : Gives (Pure.pure a) b) : a = b := by
  obtain ⟨n, n', done⟩ := h
  cases done
  rfl

theorem map {x : Compiling α} {f : α → β} {b : β} (h : Gives (f <$> x) b) :
    ∃ a, Gives x a ∧ f a = b := by
  rw [← bind_pure_comp] at h
  obtain ⟨a, first, second⟩ := h.bind
  exact ⟨a, first, second.pure⟩

theorem lift {x : Except Misfit α} {a : α} (h : Gives (Compiling.lift x) a) : x = .ok a := by
  obtain ⟨n, n', done⟩ := h
  unfold Compiling.lift at done
  cases x with
  | ok b =>
    cases done
    rfl
  | error m => cases done

/-- Code that stops nowhere gives back what it computes. -/
theorem eq {x : Compiling α} {a b : α} {k : Nat} (h : Gives x b)
    (computed : x = fun n => .ok (a, n + k)) : b = a := by
  obtain ⟨n, n', done⟩ := h
  rw [computed] at done
  cases done
  rfl

theorem stop {p : BlockProblem} {id : Value} {a : α} : ¬Gives (Compiling.stop p id) a := by
  rintro ⟨n, n', done⟩
  cases done

end Gives

end Compiling

namespace BlockEntries

variable {es : BlockEntries} {name : String}

/-- The names of the inputs of a block. -/
def inputNames (es : BlockEntries) : List String :=
  match es.get "inputs" with
  | .dict l | .record l => l.map (·.1)
  | _ => []

def conditionName (i : Nat) : String := s!"IF{natText i}"

def bodyName (i : Nat) : String := s!"DO{natText i}"

theorem conditionName_injective : Function.Injective conditionName := by
  intro i j same
  refine natText_injective ?_
  simpa [conditionName, toString] using same

theorem bodyName_injective : Function.Injective bodyName := by
  intro i j same
  refine natText_injective ?_
  simpa [bodyName, toString] using same

theorem conditionName_ne_bodyName (i j : Nat) : conditionName i ≠ bodyName j := by
  intro same
  have letters := congrArg (fun s : String => s.toList.head?) same
  simp [conditionName, bodyName, toString] at letters

/-- A dictionary that must be one is one, if it counts at all. -/
theorem parts?_eq_some {v : Inside es} {p : { p : BlockEntries // sizeOf p < sizeOf es }}
    (read : es.parts? v = .ok (some p)) : v.1 = .dict p.1 ∨ v.1 = .record p.1 := by
  unfold parts? at read
  split at read
  next => cases read
  next =>
    obtain ⟨v, h⟩ := v
    cases v with
    | dict => cases read; exact .inl rfl
    | record => cases read; exact .inr rfl
    | _ => cases read

theorem mem_of_find? {k : String} {v : Inside es} (found : es.find? k = some v) :
    k ∈ es.map (·.1) := by
  have here := lookup_of_find? found
  unfold Value.lookup at here
  obtain ⟨e, found, _⟩ := Option.map_eq_some_iff.mp here
  have same := List.find?_some found
  exact List.mem_map.mpr ⟨e, List.mem_of_find?_eq_some found, by simpa using same⟩

/-- What is plugged in is plugged into an input of this name. -/
theorem mem_inputNames {child : Inside es} (into : es.plugged? name = .ok (some child)) :
    name ∈ es.inputNames := by
  obtain ⟨x, found, into⟩ := bind_eq_ok.mp into
  cases x with
  | none => cases into
  | some x =>
    unfold inner? at found
    split at found
    next => cases found
    next v outer =>
      obtain ⟨p, read, found⟩ := bind_eq_ok.mp found
      split at found
      next => cases found
      next p h =>
        split at found
        next => cases found
        next y inner =>
          have given : es.get "inputs" = v.1 := by
            rw [get, lookup_of_find? outer]
            rfl
          have member := mem_of_find? inner
          unfold inputNames
          rcases parts?_eq_some read with kind | kind
          · rwa [given, kind]
          · rwa [given, kind]

section Reading

variable {l slot : BlockEntries} {outer key : String} {v : Value}

theorem find?_eq_some (here : Value.lookup es key = some v) :
    es.find? key = some ⟨v, Value.sizeOf_lookup here⟩ := by
  unfold find?
  split
  next other there =>
    cases here.symm.trans there
    rfl
  next none => cases here.symm.trans none

theorem find?_eq_none (missing : Value.lookup es key = none) : es.find? key = none := by
  unfold find?
  split
  next there => cases missing.symm.trans there
  next => rfl

theorem parts?_dict (some : l ≠ []) (smaller : sizeOf (Value.dict l) < sizeOf es) :
    ∃ less : sizeOf l < sizeOf es, es.parts? ⟨.dict l, smaller⟩ = .ok (Option.some ⟨l, less⟩) := by
  have counts : ¬(!(Value.dict l).truthy) = true := by simpa [Value.truthy] using some
  unfold parts?
  rw [if_neg counts]
  exact ⟨_, rfl⟩

theorem inner?_eq_some (given : Value.lookup es outer = some (.dict l))
    (here : Value.lookup l key = some v) :
    ∃ x : Inside es, es.inner? outer key = .ok (some x) ∧ x.1 = v := by
  have some : l ≠ [] := by
    rintro rfl
    cases here
  obtain ⟨less, parts⟩ := parts?_dict some (Value.sizeOf_lookup given)
  unfold inner?
  rw [find?_eq_some given]
  dsimp only
  rw [parts]
  simp only [ok_bind, find?_eq_some here]
  exact ⟨⟨v, _⟩, rfl, rfl⟩

theorem inner?_eq_none (given : Value.lookup es outer = some (.dict l)) (some : l ≠ [])
    (missing : Value.lookup l key = none) : es.inner? outer key = .ok none := by
  obtain ⟨less, parts⟩ := parts?_dict some (Value.sizeOf_lookup given)
  unfold inner?
  rw [find?_eq_some given]
  dsimp only
  rw [parts]
  simp only [ok_bind, find?_eq_none missing]
  rfl

/-- The block in a slot is plugged in. -/
theorem plugged?_eq_some (given : Value.lookup es "inputs" = some (.dict l))
    (here : Value.lookup l name = some (.dict slot)) (filled : Value.lookup slot "block" = some v)
    (counts : v.truthy = true) :
    ∃ child : Inside es, es.plugged? name = .ok (some child) ∧ child.1 = v := by
  obtain ⟨⟨_, smaller⟩, inner, rfl⟩ := inner?_eq_some given here
  have solid : v.isNull = false := by
    cases v with
    | null => cases counts
    | _ => rfl
  unfold plugged?
  rw [inner]
  simp only [ok_bind, find?_eq_some filled, Option.map_some, counts, if_true]
  rw [Option.filter_some, solid]
  exact ⟨⟨v, _⟩, rfl, rfl⟩

theorem plugged?_eq_none (given : Value.lookup es "inputs" = some (.dict l)) (some : l ≠ [])
    (missing : Value.lookup l name = none) : es.plugged? name = .ok none := by
  unfold plugged?
  rw [inner?_eq_none given some missing]
  rfl

end Reading

/-- There are fewer conditions than names. -/
theorem exists_missing (names : List String) : ∃ i ≤ names.length, conditionName i ∉ names := by
  by_contra all
  push Not at all
  have distinct : ((List.range (names.length + 1)).map conditionName).Nodup :=
    List.nodup_range.map conditionName_injective
  have among : (List.range (names.length + 1)).map conditionName ⊆ names := by
    intro name listed
    obtain ⟨i, low, rfl⟩ := List.mem_map.mp listed
    exact all i (Nat.lt_succ_iff.mp (List.mem_range.mp low))
  have few := (distinct.subperm among).length_le
  rw [List.length_map, List.length_range] at few
  omega

/-- The first number that is missing among the names ends the search. -/
theorem takeWhile_names {has : String → Bool} {names : List String}
    (known : ∀ k, has k = true ↔ k ∈ names) : ∃ n,
      ((List.range (names.length + 1)).takeWhile fun i => has (conditionName i)) = List.range n ∧
        (∀ i < n, conditionName i ∈ names) ∧ conditionName n ∉ names := by
  obtain ⟨i, low, missing⟩ := exists_missing names
  have some : ∃ i, conditionName i ∉ names := ⟨i, missing⟩
  let n := Nat.find some
  have before (j : Nat) (low : j < n) : conditionName j ∈ names :=
    Classical.not_not.mp (Nat.find_min some low)
  have first : has (conditionName n) = false :=
    Bool.eq_false_iff.mpr fun there => Nat.find_spec some ((known _).mp there)
  -- The search looks at one number more than there are names, and so gets as far as `n`.
  have length : names.length + 1 = n + (names.length - n + 1) := by
    have := Nat.find_min' some missing
    omega
  refine ⟨n, ?_, before, Nat.find_spec some⟩
  rw [length, List.range_add, List.takeWhile_append_of_pos fun j member =>
    (known _).mpr (before j (List.mem_range.mp member)), List.range_succ_eq_map]
  simp [first]

/-- Where something can be plugged in, the inputs are a dictionary if they count at all. -/
theorem inputs_of_plugged? {given : Option (Inside es)} (usable : es.plugged? name = .ok given)
    (counts : (es.get "inputs").truthy = true) :
    ∃ l, es.get "inputs" = .dict l ∨ es.get "inputs" = .record l := by
  obtain ⟨x, found, _⟩ := bind_eq_ok.mp usable
  unfold inner? at found
  split at found
  next absent =>
    have none : Value.lookup es "inputs" = none := by
      unfold find? at absent
      split at absent
      next => cases absent
      next none => exact none
    rw [get, none] at counts
    cases counts
  next v outer =>
    have same : es.get "inputs" = v.1 := by
      rw [get, lookup_of_find? outer]
      rfl
    obtain ⟨p, read, _⟩ := bind_eq_ok.mp found
    cases p with
    | none =>
      rw [same] at counts
      unfold parts? at read
      rw [counts] at read
      obtain ⟨v, h⟩ := v
      cases v <;> cases read
    | some p =>
      rw [same]
      exact ⟨p.1, parts?_eq_some read⟩

/-- The conditions are those of the first numbers, up to the first one that is missing. -/
theorem conditions_eq_range {is : List Nat} {given : Option (Inside es)}
    (read : es.conditions = .ok is) (usable : es.plugged? name = .ok given) :
    ∃ n, is = List.range n ∧ (∀ i < n, conditionName i ∈ es.inputNames) ∧
      conditionName n ∉ es.inputNames := by
  have dictionary := inputs_of_plugged? usable
  unfold conditions at read
  dsimp only at read
  unfold inputNames
  cases counts : (es.get "inputs").truthy with
  | false =>
    rw [counts] at read
    cases read
    refine ⟨0, rfl, nofun, ?_⟩
    generalize es.get "inputs" = inputs at counts
    cases inputs with
    | dict l | record l =>
      obtain rfl : l = [] := by simpa [Value.truthy] using counts
      exact List.not_mem_nil
    | _ => exact List.not_mem_nil
  | true =>
    rw [counts, Bool.not_true, if_neg Bool.false_ne_true] at read
    obtain ⟨l, here⟩ := dictionary counts
    have named (k : String) : (l.any fun e => e.1 == k) = true ↔ k ∈ l.map (·.1) := by
      simp
    obtain ⟨n, searched, before, missing⟩ := takeWhile_names named
    rw [List.length_map] at searched
    refine ⟨n, ?_, ?_⟩
    · rcases here with here | here
      · rw [here] at read
        cases read
        exact searched
      · rw [here] at read
        cases read
        exact searched
    · rcases here with here | here
      · rw [here]
        exact ⟨before, missing⟩
      · rw [here]
        exact ⟨before, missing⟩

end BlockEntries

namespace Block

open Compiling BlockEntries

variable {ed : Editor} {depth : Nat} {type : String} {es : BlockEntries}

/-- Arms one after another, each in the other case of the one before. -/
def ladder (arms : List (Expr × List Stmt)) (otherwise : List Stmt) (id : Value) : List Stmt :=
  arms.foldr (fun b rest => [.branch b.1 b.2 rest id]) otherwise

/-- The arms that a branching block is compiled to, and its other case. -/
structure Arms (ed : Editor) (depth : Nat) (es : BlockEntries) (arms : List (Expr × List Stmt))
    (otherwise : List Stmt) : Prop where
  named : ∀ i < arms.length, conditionName i ∈ es.inputNames
  ends : conditionName arms.length ∉ es.inputNames
  condition : ∀ (i : Nat) (h : i < arms.length),
    (argument ed 0 "controls_if" es (conditionName i) none).Gives arms[i].1
  statements : ∀ (i : Nat) (h : i < arms.length),
    (body ed depth es (bodyName i)).Gives arms[i].2
  otherwise : (body ed depth es "ELSE").Gives otherwise

theorem branches_gives {is : List Nat} {bs : List (Expr × List Stmt)}
    (made : (branches ed depth type es is).Gives bs) :
    List.Forall₂ (fun i b => (argument ed 0 type es (conditionName i) none).Gives b.1 ∧
      (body ed depth es (bodyName i)).Gives b.2) is bs := by
  induction is generalizing bs with
  | nil =>
    rw [branches] at made
    obtain rfl := made.pure
    exact .nil
  | cons i is ih =>
    rw [branches] at made
    obtain ⟨condition, first, made⟩ := made.bind
    obtain ⟨stmts, second, made⟩ := made.bind
    obtain ⟨others, third, made⟩ := made.bind
    obtain rfl := made.pure
    exact .cons ⟨first, second⟩ (ih third)

theorem argument_plugged {name : String} {default : Option Value} {e : Expr}
    (made : (argument ed depth type es name default).Gives e) :
    ∃ given, es.plugged? name = .ok given := by
  unfold argument at made
  obtain ⟨given, read, _⟩ := made.bind
  exact ⟨given, read.lift⟩

theorem statement_controlsIf (ed : Editor) (depth : Nat) (es : BlockEntries) :
    statement ed depth "controls_if" es = (do
      countBlock
      let bs ← branches ed depth "controls_if" es (← lift es.conditions)
      if bs.isEmpty then stop .noCondition es.id
      let otherwise ← body ed depth es "ELSE"
      return ladder bs otherwise es.id) := by
  unfold statement
  rfl

/-- A branching block that compiles has arms. -/
theorem statement_branches {stmts : List Stmt}
    (made : (statement ed depth "controls_if" es).Gives stmts) :
    ∃ arms otherwise, Arms ed depth es arms otherwise ∧ arms ≠ [] ∧
      stmts = ladder arms otherwise es.id := by
  rw [statement_controlsIf] at made
  obtain ⟨_, _, made⟩ := made.bind
  obtain ⟨is, read, made⟩ := made.bind
  obtain ⟨bs, branched, made⟩ := made.bind
  have each := branches_gives branched
  cases bs with
  | nil =>
    obtain ⟨_, stopped, _⟩ := Gives.bind made
    exact absurd stopped Gives.stop
  | cons b bs =>
    obtain ⟨otherwise, last, made⟩ := Gives.bind made
    obtain rfl := made.pure
    obtain ⟨name, given, usable⟩ : ∃ name given, es.plugged? name = .ok given := by
      cases each with
      | cons first => exact ⟨_, argument_plugged first.1⟩
    obtain ⟨n, rfl, named, ends⟩ := conditions_eq_range read.lift usable
    have length : (b :: bs).length = n := by
      rw [← each.length_eq, List.length_range]
    have arm (i : Nat) (h : i < (b :: bs).length) :
        (argument ed 0 "controls_if" es (conditionName i) none).Gives (b :: bs)[i].1 ∧
          (body ed depth es (bodyName i)).Gives (b :: bs)[i].2 := by
      have here := each.get (by rwa [List.length_range, ← length]) h
      simpa using here
    exact ⟨b :: bs, otherwise, ⟨length ▸ named, length ▸ ends, fun i h => (arm i h).1,
      fun i h => (arm i h).2, last⟩, List.cons_ne_nil b bs, rfl⟩

end Block

end PuzzleWorlds
