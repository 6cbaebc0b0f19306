import PuzzleWorlds.Proofs.DroppedBranches
import PuzzleWorlds.Proofs.KeyedEntries

/-! Stacks without their disabled blocks. A disabled block is spliced out, whatever it holds, and
the next block takes its place; a body of which nothing is left is taken out of its block. All that
a block is read for stays, but for the blocks in its bodies and the block that follows. -/

namespace PuzzleWorlds

namespace BlockEntries

variable {es l slot : BlockEntries} {k name : String} {b v x : Value}

/-- What a value that must be a dictionary, unless it counts as nothing, has under a key. -/
def part (v : Value) (k : String) : Except Misfit (Option Value) :=
  if !v.truthy then .ok none else
  match v with
  | .dict l | .record l => .ok (Value.lookup l k)
  | other => .error (.noAttribute other.typeName "get")

/-- The key under which a slot holds its block. -/
def holder (slot : BlockEntries) : String :=
  if (BlockEntries.get slot "block").truthy then "block" else "shadow"

def held (slot : BlockEntries) : Option Value :=
  (Value.lookup slot (holder slot)).filter fun v => !v.isNull

/-- The block in a slot. -/
def occupant : Option Value → Option Value
  | some (.dict slot) => held slot
  | _ => none

/-- The block that is plugged into an input. -/
def input? (es : BlockEntries) (name : String) : Except Misfit (Option Value) :=
  (part (es.get "inputs") name).map occupant

/-- The block that follows. -/
def following? (es : BlockEntries) : Except Misfit (Option Value) :=
  (part (es.get "next") "block").map (Option.filter fun v => !v.isNull)

theorem part_of_entries (given : v.entries? = some l) : part v k = .ok (Value.lookup l k) := by
  cases v with
  | dict | record =>
    cases given
    cases l <;> rfl
  | _ => cases given

theorem part_of_none (given : v.entries? = none) :
    part v k = if v.truthy then .error (.noAttribute v.typeName "get") else .ok none := by
  unfold part
  cases counts : v.truthy with
  | false => rfl
  | true =>
    cases v with
    | dict | record => cases given
    | null => cases counts
    | _ => rfl

theorem parts?_map (es : BlockEntries) (v : Inside es) (k : String) :
    (es.parts? v).bind (fun p => .ok (p.bind fun p => Value.lookup p.1 k)) = part v.1 k := by
  unfold parts? part
  split
  next => rfl
  next =>
    obtain ⟨v, h⟩ := v
    cases v <;> rfl

theorem map_find? : (es.find? k).map (·.1) = Value.lookup es k := by
  cases here : Value.lookup es k with
  | none => rw [find?_eq_none here, Option.map_none]
  | some v => rw [find?_eq_some here, Option.map_some]

theorem map_inner? (es : BlockEntries) (outer k : String) :
    (es.inner? outer k).map (Option.map (·.1)) = part (es.get outer) k := by
  unfold inner? get
  cases here : Value.lookup es outer with
  | none =>
    rw [find?_eq_none here]
    rfl
  | some v =>
    rw [find?_eq_some here]
    dsimp only [Value.ofOption]
    rw [← parts?_map es ⟨v, Value.sizeOf_lookup here⟩]
    cases es.parts? ⟨v, Value.sizeOf_lookup here⟩ with
    | error m => rfl
    | ok p =>
      cases p with
      | none => rfl
      | some p =>
        simp only [ok_bind, Except.bind, Option.bind_some]
        rw [← map_find?]
        cases find? p.1 k <;> rfl

theorem map_solid (x : Option (Inside es)) :
    (x.filter fun v => !v.1.isNull).map (·.1) = (x.map (·.1)).filter fun v => !v.isNull := by
  cases x with
  | none => rfl
  | some v =>
    rw [Option.map_some, Option.filter_some, Option.filter_some]
    cases v.1.isNull <;> rfl

theorem map_plugged? (es : BlockEntries) (name : String) :
    (es.plugged? name).map (Option.map (·.1)) = es.input? name := by
  unfold plugged? input?
  rw [← map_inner?]
  cases es.inner? "inputs" name with
  | error m => rfl
  | ok x =>
    cases x with
    | none => rfl
    | some x =>
      obtain ⟨v, h⟩ := x
      cases v with
      | dict slot =>
        have found (k : String) : ((find? slot k).map fun x =>
            (⟨x.1, by have := x.2; simp at h; omega⟩ : Inside es)).map (·.1) =
              Value.lookup slot k := by
          rw [Option.map_map, ← map_find?]
          rfl
        refine congrArg Except.ok ?_
        dsimp only [Option.map_some, occupant]
        rw [map_solid, held, holder]
        cases here : find? slot "block" with
        | none =>
          have missing : Value.lookup slot "block" = none := by rw [← map_find?, here]; rfl
          rw [get, missing]
          dsimp only [Option.map_none]
          rw [found]
          rfl
        | some b =>
          have top := lookup_of_find? here
          have chosen : get slot "block" = b.1 := by rw [get, top]; rfl
          rw [chosen]
          dsimp only [Option.map_some]
          cases b.1.truthy with
          | true => rw [if_pos rfl, if_pos rfl, top, Option.map_some]
          | false => rw [if_neg Bool.false_ne_true, if_neg Bool.false_ne_true, found]
      | _ => rfl

theorem map_next? (es : BlockEntries) :
    es.next?.map (Option.map (·.1)) = es.following? := by
  unfold next? following?
  rw [← map_inner?]
  cases es.inner? "next" "block" with
  | error m => rfl
  | ok x =>
    cases x with
    | none => rfl
    | some v =>
      simp only [ok_bind, Except.map, Option.map_some, Option.filter_some]
      cases v.1.isNull <;> rfl

/-- Whether an input is a body: `ELSE`, `DO`, `DO0`, `DO1` and so on. -/
def isBody (name : String) : Bool := name == "ELSE" || name.toList.take 2 == ['D', 'O']

def isEnabled (es : BlockEntries) : Bool :=
  match Value.lookup es "enabled" with
  | some (.bool false) => false
  | _ => true

/-- A slot with another block. -/
def replug (b : Value) : Value → Value
  | .dict slot => .dict (Value.revise slot (holder slot) (some b))
  | v => v

/-- The inputs with other blocks in the bodies that hold one, and without those that get none. -/
def refill (bodies : String → Option Value) (inputs : BlockEntries) : BlockEntries :=
  Value.adjust inputs fun name slot =>
    if isBody name && (occupant (Value.lookup inputs name)).isSome then
      (bodies name).map (replug · slot)
    else some slot

/-- The block with other bodies and another block after it. -/
def rebuild (es : BlockEntries) (bodies : String → Option Value) (next : Option Value) :
    BlockEntries :=
  Value.revise (Value.revise es "inputs" (some ((es.get "inputs").mapEntries (refill bodies))))
    "next" (next.map fun b => (es.get "next").mapEntries fun l => Value.revise l "block" (some b))

section Rebuilt

variable {bodies : String → Option Value} {next : Option Value}

theorem get_revise_of_ne {j : String} (other : j ≠ k) (v : Option Value) :
    get (Value.revise es k v) j = get es j := by
  rw [get, get, Value.lookup_revise_of_ne other]

theorem get_revise_self (absent : Value.lookup es k = none → v = .null) :
    get (Value.revise es k (some v)) k = v := by
  rw [get, Value.lookup_revise_self]
  cases there : Value.lookup es k with
  | some w => rfl
  | none => rw [absent there]; rfl

theorem lookup_rebuild (inner : k ≠ "inputs") (after : k ≠ "next") :
    Value.lookup (rebuild es bodies next) k = Value.lookup es k := by
  rw [rebuild, Value.lookup_revise_of_ne after, Value.lookup_revise_of_ne inner]

theorem get_rebuild (inner : k ≠ "inputs") (after : k ≠ "next") :
    get (rebuild es bodies next) k = get es k := by
  rw [get, get, lookup_rebuild inner after]

theorem inputs_rebuild :
    get (rebuild es bodies next) "inputs" = (get es "inputs").mapEntries (refill bodies) := by
  rw [rebuild, get_revise_of_ne (by decide)]
  refine get_revise_self fun absent => ?_
  rw [get, absent]
  rfl

theorem isNull_of_truthy (counts : v.truthy = true) : v.isNull = false := by
  cases v with
  | null => cases counts
  | _ => rfl

/-- The block goes where the one that it replaces was, so that it is the one that is found. -/
theorem occupant_replug {child : Value} (counts : b.truthy = true)
    (filled : occupant (some v) = some child) : occupant (some (replug b v)) = some b := by
  cases v with
  | dict slot =>
    obtain ⟨there, _⟩ := Option.filter_eq_some_iff.mp filled
    have kept : holder (Value.revise slot (holder slot) (some b)) = holder slot := by
      by_cases chosen : (get slot "block").truthy = true
      · have here : holder slot = "block" := if_pos chosen
        rw [here] at there ⊢
        refine if_pos ?_
        rw [get, Value.lookup_revise_self, there]
        exact counts
      · have here : holder slot = "shadow" := if_neg chosen
        rw [here]
        refine if_neg ?_
        rwa [get_revise_of_ne (by decide)]
    change held (Value.revise slot (holder slot) (some b)) = some b
    rw [held, kept, Value.lookup_revise_self, there, Option.bind_some, Option.filter_some,
      isNull_of_truthy counts]
    rfl
  | _ => cases filled

theorem lookup_refill : Value.lookup (refill bodies l) name = (Value.lookup l name).bind fun slot =>
    if isBody name && (occupant (Value.lookup l name)).isSome then
      (bodies name).map (replug · slot)
    else some slot := by
  refine Value.lookup_adjust (fun name v w none => ?_) name
  split at none
  next filled =>
    rw [if_pos filled]
    rw [Option.map_eq_none_iff] at none ⊢
    exact none
  next => cases none

/-- What is plugged in stays, but for the bodies. -/
theorem occupant_refill (solid : ∀ b, isBody name = true → bodies name = some b → b.truthy = true) :
    occupant (Value.lookup (refill bodies l) name) =
      if isBody name then (occupant (Value.lookup l name)).bind fun _ => bodies name
      else occupant (Value.lookup l name) := by
  rw [lookup_refill]
  cases here : Value.lookup l name with
  | none => cases isBody name <;> rfl
  | some slot =>
    cases bodied : isBody name with
    | false => rfl
    | true =>
      cases filled : occupant (some slot) with
      | none => exact filled
      | some child =>
        cases given : bodies name with
        | none => rfl
        | some b => exact occupant_replug (solid b bodied given) filled

theorem input?_rebuild (solid : ∀ b, isBody name = true → bodies name = some b → b.truthy = true) :
    (rebuild es bodies next).input? name = (es.input? name).map fun child =>
      if isBody name then child.bind fun _ => bodies name else child := by
  unfold input?
  rw [inputs_rebuild]
  cases given : (get es "inputs").entries? with
  | some l =>
    have refilled : ((get es "inputs").mapEntries (refill bodies)).entries? =
        some (refill bodies l) := by rw [Value.entries?_mapEntries, given]; rfl
    rw [part_of_entries refilled, part_of_entries given]
    exact congrArg Except.ok (occupant_refill solid)
  | none =>
    rw [Value.mapEntries_of_none given, part_of_none given]
    split
    next => rfl
    next => cases isBody name <;> rfl

theorem entries_of_following {old : Value} (after : es.following? = .ok (some old)) :
    ∃ l, (get es "next").entries? = some l ∧ (Value.lookup l "block").isSome := by
  obtain ⟨x, read, solid⟩ := map_eq_ok.mp after
  cases given : (get es "next").entries? with
  | some l =>
    rw [part_of_entries given] at read
    obtain rfl := Except.ok.inj read
    refine ⟨l, rfl, ?_⟩
    rw [(Option.filter_eq_some_iff.mp solid).1]
    rfl
  | none =>
    rw [part_of_none given] at read
    split at read
    next => cases read
    next =>
      cases read
      cases solid

theorem following?_rebuild (solid : ∀ b, next = some b → b.truthy = true)
    (kept : ∀ b, next = some b → ∃ old, es.following? = .ok (some old)) :
    (rebuild es bodies next).following? = .ok next := by
  unfold following? rebuild
  cases next with
  | none =>
    rw [get, Option.map_none, Value.lookup_revise_self]
    cases Value.lookup _ "next" <;> rfl
  | some b =>
    obtain ⟨old, after⟩ := kept b rfl
    obtain ⟨l, given, there⟩ := entries_of_following after
    rw [Option.map_some, get_revise_self]
    · have revised : ((get es "next").mapEntries fun l =>
          Value.revise l "block" (some b)).entries? = some (Value.revise l "block" (some b)) := by
        rw [Value.entries?_mapEntries, given]
        rfl
      obtain ⟨x, there⟩ := Option.isSome_iff_exists.mp there
      rw [part_of_entries revised, Value.lookup_revise_self, there]
      refine congrArg Except.ok ?_
      rw [Option.bind_some, Option.filter_some, isNull_of_truthy (solid b rfl)]
      rfl
    · rw [Value.lookup_revise_of_ne (by decide)]
      intro absent
      rw [get, absent] at given
      cases given

theorem inputNames_of_entries (given : (get es "inputs").entries? = some l) :
    es.inputNames = l.map (·.1) := by
  unfold inputNames
  cases here : get es "inputs" with
  | dict | record =>
    rw [here] at given
    cases given
    rfl
  | _ =>
    rw [here] at given
    cases given

/-- The conditions are those before the first that is missing. -/
theorem conditions_of_entries (given : (get es "inputs").entries? = some l) :
    ∃ n, es.conditions = .ok (List.range n) ∧
      (∀ i < n, Value.lookup l (conditionName i) ≠ none) ∧
      Value.lookup l (conditionName n) = none := by
  have read : ∃ is, es.conditions = .ok is := by
    unfold conditions
    cases here : get es "inputs" with
    | dict | record => dsimp only; split <;> exact ⟨_, rfl⟩
    | _ =>
      rw [here] at given
      cases given
  have usable : ∃ child, es.plugged? "IF0" = .ok child := by
    have found := map_plugged? es "IF0"
    rw [input?, part_of_entries given] at found
    obtain ⟨child, plugged, _⟩ := map_eq_ok.mp found
    exact ⟨child, plugged⟩
  obtain ⟨is, read⟩ := read
  obtain ⟨child, usable⟩ := usable
  obtain ⟨n, rfl, before, missing⟩ := conditions_eq_range read usable
  rw [inputNames_of_entries given] at before missing
  exact ⟨n, read, fun i low none => Value.lookup_eq_none_iff.mp none (before i low),
    Value.lookup_eq_none_iff.mpr missing⟩

theorem isBody_conditionName (i : Nat) : isBody (conditionName i) = false := by
  have letters : (conditionName i).toList = 'I' :: 'F' :: (natText i).toList := by
    simp [conditionName, toString]
  have other : conditionName i ≠ "ELSE" := by
    intro same
    rw [same] at letters
    cases letters
  rw [isBody, letters, beq_eq_false_iff_ne.mpr other]
  rfl

theorem conditions_rebuild : (rebuild es bodies next).conditions = es.conditions := by
  cases given : (get es "inputs").entries? with
  | some l =>
    have refilled : (get (rebuild es bodies next) "inputs").entries? = some (refill bodies l) := by
      rw [inputs_rebuild, Value.entries?_mapEntries, given]
      rfl
    have kept (i : Nat) : Value.lookup (refill bodies l) (conditionName i) =
        Value.lookup l (conditionName i) := by
      rw [lookup_refill, isBody_conditionName]
      exact Option.bind_fun_some _
    obtain ⟨n, read, before, missing⟩ := conditions_of_entries given
    obtain ⟨n', read', before', missing'⟩ := conditions_of_entries refilled
    have high : n ≤ n' := Nat.le_of_not_lt fun low => before n' low ((kept n').symm.trans missing')
    have low : n' ≤ n := Nat.le_of_not_lt fun low => before' n low ((kept n).trans missing)
    rw [read, read', Nat.le_antisymm high low]
  | none =>
    have same : get (rebuild es bodies next) "inputs" = get es "inputs" := by
      rw [inputs_rebuild, Value.mapEntries_of_none given]
    unfold conditions
    rw [same]

end Rebuilt

end BlockEntries

namespace Block

open BlockEntries

/-- A stack without its disabled blocks, unless nothing is left. -/
def pruned : Value → Option Value
  | .dict es =>
    let next := match BlockEntries.next? es with
      | .ok (some ⟨next, _⟩) => pruned next
      | _ => none
    let bodies (name : String) := match BlockEntries.plugged? es name with
      | .ok (some ⟨child, _⟩) => pruned child
      | _ => none
    if isEnabled es then some (.dict (rebuild es bodies next)) else next
  | v => some v
termination_by v => sizeOf v

/-- What is left of the stack that follows. -/
def prunedNext (es : BlockEntries) : Option Value :=
  match following? es with
  | .ok next => next.bind pruned
  | .error _ => none

/-- What is left of a body. -/
def prunedBody (es : BlockEntries) (name : String) : Option Value :=
  match input? es name with
  | .ok child => child.bind pruned
  | .error _ => none

variable {es : BlockEntries} {name : String} {v w : Value}

theorem prunedNext_read (es : BlockEntries) : prunedNext es = match next? es with
    | .ok (some ⟨next, _⟩) => pruned next
    | _ => none := by
  rw [prunedNext, ← map_next?]
  cases next? es with
  | error m => rfl
  | ok next => cases next <;> rfl

theorem prunedBody_read (es : BlockEntries) (name : String) : prunedBody es name = match plugged? es name with
    | .ok (some ⟨child, _⟩) => pruned child
    | _ => none := by
  rw [prunedBody, ← map_plugged?]
  cases plugged? es name with
  | error m => rfl
  | ok child => cases child <;> rfl

theorem pruned_dict : pruned (.dict es) =
    if isEnabled es then some (.dict (rebuild es (prunedBody es) (prunedNext es)))
    else prunedNext es := by
  rw [pruned, prunedNext_read, funext (prunedBody_read es)]
  rfl

theorem pruned_null : pruned .null = some .null := by
  rw [pruned]
  intro es same
  cases same

/-- A block has a type, and what follows it can be read. The blocks that follow are such blocks
too, and so are those in the bodies of an enabled block. -/
inductive WellFormed : Value → Prop
  | block {es : BlockEntries} {type : String}
    (typed : Value.lookup es "type" = some (.text type))
    (readable : ∃ next, following? es = .ok next)
    (follows : ∀ next, following? es = .ok (some next) → WellFormed next)
    (inside : isEnabled es = true → ∀ name child, isBody name = true →
      input? es name = .ok (some child) → WellFormed child) : WellFormed (.dict es)

/-- A block that is compiled as a statement when the other one is. -/
inductive Stands : Value → BlockEntries → Prop
  | self (es : BlockEntries) : Stands (.dict es) es
  | follows {es inner : BlockEntries} {next : Value} (after : following? es = .ok (some next))
    (part : Stands next inner) : Stands (.dict es) inner
  | inside {es inner : BlockEntries} {name : String} {child : Value} (bodied : isBody name = true)
    (into : input? es name = .ok (some child)) (part : Stands child inner) :
    Stands (.dict es) inner

/-- What is left of a well-formed stack is a block with a type. -/
theorem typed_pruned (formed : WellFormed v) (left : pruned v = some w) :
    ∃ es type, w = .dict es ∧ Value.lookup es "type" = some (.text type) := by
  induction formed with
  | @block es type typed readable follows inside ih _ =>
    rw [pruned_dict] at left
    split at left
    next =>
      cases left
      exact ⟨_, type, rfl, (lookup_rebuild (by decide) (by decide)).trans typed⟩
    next =>
      obtain ⟨next, read⟩ := readable
      rw [prunedNext, read] at left
      obtain ⟨next, rfl, left⟩ := Option.bind_eq_some_iff.mp left
      exact ih next read left

theorem truthy_pruned (formed : WellFormed v) (left : pruned v = some w) : w.truthy = true := by
  obtain ⟨es, type, rfl, typed⟩ := typed_pruned formed left
  cases es with
  | nil => cases typed
  | cons => rfl

theorem prunedNext_eq {next : Option Value} (read : following? es = .ok next) :
    prunedNext es = next.bind pruned := by rw [prunedNext, read]

theorem prunedBody_eq {child : Option Value} (read : input? es name = .ok child) :
    prunedBody es name = child.bind pruned := by rw [prunedBody, read]

section Left

variable (readable : ∃ next, following? es = .ok next)
  (follows : ∀ next, following? es = .ok (some next) → WellFormed next)
  (inside : ∀ name child, isBody name = true → input? es name = .ok (some child) →
    WellFormed child)

include inside in
theorem truthy_prunedBody (bodied : isBody name = true) (left : prunedBody es name = some w) :
    w.truthy = true := by
  unfold prunedBody at left
  split at left
  next child read =>
    obtain ⟨child, rfl, left⟩ := Option.bind_eq_some_iff.mp left
    exact truthy_pruned (inside name child bodied read) left
  next => cases left

include inside in
/-- The bodies of an enabled block without their disabled blocks. -/
theorem input?_pruned : input? (rebuild es (prunedBody es) (prunedNext es)) name =
    (input? es name).map fun child => if isBody name then child.bind pruned else child := by
  rw [input?_rebuild fun b => truthy_prunedBody inside]
  cases read : input? es name with
  | error m => rfl
  | ok child =>
    rw [prunedBody_eq read]
    cases child <;> rfl

include readable follows in
theorem following?_pruned {bodies : String → Option Value} :
    following? (rebuild es bodies (prunedNext es)) = .ok (prunedNext es) := by
  obtain ⟨next, read⟩ := readable
  have kept (b : Value) (left : prunedNext es = some b) :
      ∃ old, following? es = .ok (some old) ∧ pruned old = some b := by
    rw [prunedNext_eq read] at left
    obtain ⟨old, rfl, left⟩ := Option.bind_eq_some_iff.mp left
    exact ⟨old, read, left⟩
  refine following?_rebuild (fun b left => ?_) fun b left => ?_
  · obtain ⟨old, read, left⟩ := kept b left
    exact truthy_pruned (follows old read) left
  · obtain ⟨old, read, _⟩ := kept b left
    exact ⟨old, read⟩

end Left

/-- No disabled block is left. -/
theorem isEnabled_of_stands_pruned {es' : BlockEntries} (formed : WellFormed v)
    (left : pruned v = some w) (stands : Stands w es') : isEnabled es' = true := by
  induction formed generalizing w with
  | @block es type typed readable follows inside ihNext ihBody =>
    rw [pruned_dict] at left
    split at left
    next enabled =>
      cases left
      cases stands with
      | self =>
        rw [isEnabled, lookup_rebuild (by decide) (by decide)]
        exact enabled
      | follows after part =>
        rw [following?_pruned readable follows] at after
        obtain ⟨next, read⟩ := readable
        rw [prunedNext_eq read] at after
        obtain ⟨next, rfl, left⟩ := Option.bind_eq_some_iff.mp (Except.ok.inj after)
        exact ihNext next read left part
      | inside bodied into part =>
        rw [input?_pruned (inside enabled)] at into
        obtain ⟨child, read, into⟩ := map_eq_ok.mp into
        rw [if_pos bodied] at into
        obtain ⟨child, rfl, left⟩ := Option.bind_eq_some_iff.mp into
        exact ihBody enabled _ child bodied read left part
    next =>
      obtain ⟨next, read⟩ := readable
      rw [prunedNext_eq read] at left
      obtain ⟨next, rfl, left⟩ := Option.bind_eq_some_iff.mp left
      exact ihNext next read left stands

end Block

end PuzzleWorlds
