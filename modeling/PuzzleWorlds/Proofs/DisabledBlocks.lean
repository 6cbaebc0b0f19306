import PuzzleWorlds.Proofs.PrunedBlocks

/-! Disabled blocks are not compiled. A workspace compiles as it does without its disabled blocks,
to the same program or with the same report, unless a body of disabled blocks alone lies further
down than bodies may be nested: the limit is checked where a body is entered, before it is known
that nothing in it counts. -/

namespace PuzzleWorlds

namespace Compiling

/-- Both do the same, or `S` holds and the first stops at a body that is nested too deeply. -/
def Agrees (S : Prop) (x y : Compiling α) : Prop :=
  ∀ n, x n = y n ∨ (S ∧ ∃ id, x n = .error (.problem .nestedTooDeeply id))

namespace Agrees

variable {S S' : Prop}

theorem refl (x : Compiling α) : Agrees S x x := fun _ => .inl rfl

theorem mono {x y : Compiling α} (h : Agrees S x y) (weaker : S → S') : Agrees S' x y := fun n =>
  (h n).imp_right fun ⟨deep, stopped⟩ => ⟨weaker deep, stopped⟩

theorem bind {x y : Compiling α} {f g : α → Compiling β} (first : Agrees S x y)
    (second : ∀ a, Agrees S (f a) (g a)) : Agrees S (x >>= f) (y >>= g) := by
  intro n
  obtain same | ⟨deep, id, stopped⟩ := first n
  · change (x n >>= fun p => f p.1 p.2) = (y n >>= fun p => g p.1 p.2) ∨
      (S ∧ ∃ id, (x n >>= fun p => f p.1 p.2) = .error (.problem .nestedTooDeeply id))
    rw [same]
    cases y n with
    | error e => exact .inl rfl
    | ok p => exact second p.1 p.2
  · exact .inr ⟨deep, id, bind_eq_error.mpr (.inl stopped)⟩

/-- Both go on with what they read, which is the same as far as `k` and `k'` show. -/
theorem lift {x : Except Misfit α} {y : Except Misfit α'} {k : α → κ} {k' : α' → κ}
    {f : α → Compiling β} {g : α' → Compiling β} (same : x.map k = y.map k')
    (second : ∀ a b, k a = k' b → Agrees S (f a) (g b)) :
    Agrees S (Compiling.lift x >>= f) (Compiling.lift y >>= g) := by
  cases x with
  | error m =>
    cases y with
    | error m' =>
      cases same
      exact refl _
    | ok b => cases same
  | ok a =>
    cases y with
    | error m' => cases same
    | ok b => exact second a b (Except.ok.inj same)

theorem after (x : Compiling α) {f g : α → Compiling β} (second : ∀ a, Agrees S (f a) (g a)) :
    Agrees S (x >>= f) (x >>= g) := bind (refl x) second

end Agrees

end Compiling

namespace Block

open Compiling BlockEntries

/-- Two blocks that are read alike, but for their bodies and the blocks that follow. -/
structure Alike (es es' : BlockEntries) : Prop where
  id : BlockEntries.id es' = BlockEntries.id es
  fields : get es' "fields" = get es "fields"
  inputs : ∀ name, isBody name = false → input? es' name = input? es name
  conditions : conditions es' = conditions es

variable {ed : Editor} {depth : Nat} {type name : String} {es es' : BlockEntries} {S : Prop}

theorem isBody_bodyName (i : Nat) : isBody (bodyName i) = true := by
  have letters : (bodyName i).toList = 'D' :: 'O' :: (natText i).toList := by
    simp [bodyName, toString]
  rw [isBody, letters]
  exact Bool.or_true _

/-- No argument of a command has the name of a body. -/
theorem isBody_command (d : Domain) :
    ∀ spec ∈ d.blocks, ∀ a ∈ spec.args, isBody a.name = false := by
  cases d <;> decide +kernel

theorem alike_rebuild {bodies : String → Option Value} {next : Option Value}
    (solid : ∀ name b, isBody name = true → bodies name = some b → b.truthy = true) :
    Alike es (rebuild es bodies next) where
  id := get_rebuild (by decide) (by decide)
  fields := get_rebuild (by decide) (by decide)
  inputs name other := by
    rw [input?_rebuild (solid name), other]
    cases input? es name <;> rfl
  conditions := conditions_rebuild

theorem argument_eq (default : Option Value) : argument ed depth type es name default = (do
    match ← lift (input? es name) with
    | some child =>
      if depth + 1 > maxNesting then stop .pluggedTooDeeply (BlockEntries.id es)
      else expression ed (depth + 1) child
    | none =>
      match ← lift (BlockEntries.field? es name) with
      | some v => return .literal v
      | none => match default with
        | some v => return .literal v
        | none => stop (.missingArgument type name) (BlockEntries.id es)) := by
  unfold argument
  rw [← map_plugged?]
  cases plugged? es name with
  | error m => rfl
  | ok child => cases child <;> rfl

theorem body_eq : body ed depth es name = (do
    match ← lift (input? es name) with
    | none => return []
    | some child =>
      if depth + 1 > maxNesting then stop .nestedTooDeeply (BlockEntries.id es)
      else chain ed (depth + 1) child) := by
  unfold body
  rw [← map_plugged?]
  cases plugged? es name with
  | error m => rfl
  | ok child => cases child <;> rfl

/-- The statements of a stack, if there is one. -/
def stack (ed : Editor) (depth : Nat) : Option Value → Compiling (List Stmt)
  | some block => chain ed depth block
  | none => return []

/-- What follows a block is compiled after it. -/
theorem follows_eq (own : List Stmt) : (do
    match ← lift (next? es) with
    | none => return own
    | some ⟨next, _⟩ => return own ++ (← chain ed depth next) : Compiling (List Stmt)) = (do
    let next ← lift (following? es)
    return own ++ (← stack ed depth next)) := by
  rw [← map_next?]
  cases next? es with
  | error m => rfl
  | ok next =>
    cases next with
    | none => exact congrArg (Pure.pure : List Stmt → Compiling _) (List.append_nil own).symm
    | some next => rfl

theorem chain_enabled (typed : Value.lookup es "type" = some (.text type))
    (enabled : isEnabled es = true) : chain ed depth (.dict es) = (do
      let own ← statement ed depth type es
      let next ← lift (following? es)
      return own ++ (← stack ed depth next)) := by
  unfold chain
  dsimp only
  rw [typed]
  exact (if_pos enabled).trans (bind_congr follows_eq)

theorem chain_disabled (typed : Value.lookup es "type" = some (.text type))
    (disabled : isEnabled es = false) : chain ed depth (.dict es) = (do
      let next ← lift (following? es)
      stack ed depth next) := by
  have skipped : chain ed depth (.dict es) = (do
      let next ← lift (following? es)
      return [] ++ (← stack ed depth next)) := by
    unfold chain
    dsimp only
    rw [typed]
    exact (if_neg (Bool.eq_false_iff.mp disabled)).trans (follows_eq [])
  simpa only [List.nil_append, bind_pure] using skipped

/-- A counting loop. What is plugged in for its step only tells whether it has one. -/
theorem counting_agrees {asked : Compiling Bool} {first last size : Compiling Expr}
    {named : Compiling Value} {inner inner' : Compiling (List Stmt)} {id : Value}
    (plugged : input? es' "BY" = input? es "BY") (bodied : Agrees S inner inner') : Agrees S
      (do
        let given ← match ← lift (plugged? es "BY") with
          | some _ => pure true
          | none => asked
        let step ← if given then some <$> size else pure none
        let var ← named
        let start ← first
        let stop ← last
        return [Stmt.count var start stop step (← inner) id])
      (do
        let given ← match ← lift (plugged? es' "BY") with
          | some _ => pure true
          | none => asked
        let step ← if given then some <$> size else pure none
        let var ← named
        let start ← first
        let stop ← last
        return [Stmt.count var start stop step (← inner') id]) := by
  have rest (step : Option Expr) : Agrees S
      (do
        let var ← named
        let start ← first
        let stop ← last
        return [Stmt.count var start stop step (← inner) id])
      (do
        let var ← named
        let start ← first
        let stop ← last
        return [Stmt.count var start stop step (← inner') id]) :=
    .after _ fun var => .after _ fun start => .after _ fun stop => .bind bodied fun stmts => .refl _
  have same : (plugged? es "BY").map (Option.map (·.1)) =
      (plugged? es' "BY").map (Option.map (·.1)) := by
    rw [map_plugged?, map_plugged?, plugged]
  refine .lift same fun x y same => ?_
  cases x with
  | none =>
    obtain rfl : y = none := Option.map_eq_none_iff.mp same.symm
    exact .after _ fun | true => .after _ rest | false => .after _ rest
  | some x =>
    obtain ⟨y, rfl, _⟩ := Option.map_eq_some_iff.mp same.symm
    exact .after _ fun | true => .after _ rest | false => .after _ rest

namespace Alike

variable (alike : Alike es es')

include alike

theorem field?_eq (name : String) : BlockEntries.field? es' name = BlockEntries.field? es name := by
  unfold BlockEntries.field?
  rw [alike.fields]

theorem argument_eq (other : isBody name = false) (default : Option Value) :
    argument ed depth type es' name default = argument ed depth type es name default := by
  rw [Block.argument_eq, Block.argument_eq, alike.inputs name other, alike.field?_eq, alike.id]

theorem arguments_eq {as : List BlockArg} (others : ∀ a ∈ as, isBody a.name = false) :
    arguments ed depth type es' as = arguments ed depth type es as := by
  induction as with
  | nil => rw [arguments, arguments]
  | cons a rest ih =>
    obtain ⟨other, others⟩ := List.forall_mem_cons.mp others
    rw [arguments, arguments, alike.argument_eq other, ih others]

theorem field_eq (default : Option Value) :
    field type es' name default = field type es name default := by
  unfold field
  rw [alike.field?_eq, alike.id]

theorem variableName_eq (default : Option String) :
    variableName ed type es' default = variableName ed type es default := by
  unfold variableName
  rw [alike.field_eq, alike.id]

variable (bodies : ∀ name, isBody name = true →
  Agrees S (body ed depth es name) (body ed depth es' name))

include bodies

theorem branches_agree (is : List Nat) :
    Agrees S (branches ed depth type es is) (branches ed depth type es' is) := by
  induction is with
  | nil =>
    rw [branches, branches]
    exact .refl _
  | cons i rest ih =>
    have tested : argument ed 0 type es' s!"IF{natText i}" none =
        argument ed 0 type es s!"IF{natText i}" none :=
      alike.argument_eq (isBody_conditionName i) none
    rw [branches, branches, tested]
    exact .after _ fun condition => .bind (bodies _ (isBody_bodyName i)) fun stmts =>
      .bind ih fun others => .refl _

theorem statement_agrees :
    Agrees S (statement ed depth type es) (statement ed depth type es') := by
  have kept {name : String} {default : Option Value} (type : String) (other : isBody name = false) :
      argument ed 0 type es' name default = argument ed 0 type es name default :=
    alike.argument_eq other default
  have repeated (type : String) : Agrees S
      (do
        let times ← argument ed 0 type es "TIMES" none
        return [Stmt.loop times (← body ed depth es "DO") (BlockEntries.id es)])
      (do
        let times ← argument ed 0 type es' "TIMES" none
        return [Stmt.loop times (← body ed depth es' "DO") (BlockEntries.id es')]) := by
    rw [kept type (by decide), alike.id]
    exact .after _ fun times => .bind (bodies "DO" (by decide)) fun stmts => .refl _
  have counting (type default : String) : Agrees S
      (do
        let given ← match ← lift (plugged? es "BY") with
          | some _ => pure true
          | none => Option.isSome <$> lift (BlockEntries.field? es "BY")
        let step ← if given then some <$> argument ed 0 type es "BY" none else pure none
        let var ← variableName ed type es (some default)
        let start ← argument ed 0 type es "FROM" (some 0)
        let stop ← argument ed 0 type es "TO" none
        return [Stmt.count var start stop step (← body ed depth es "DO") (BlockEntries.id es)])
      (do
        let given ← match ← lift (plugged? es' "BY") with
          | some _ => pure true
          | none => Option.isSome <$> lift (BlockEntries.field? es' "BY")
        let step ← if given then some <$> argument ed 0 type es' "BY" none else pure none
        let var ← variableName ed type es' (some default)
        let start ← argument ed 0 type es' "FROM" (some 0)
        let stop ← argument ed 0 type es' "TO" none
        return [Stmt.count var start stop step (← body ed depth es' "DO")
          (BlockEntries.id es')]) := by
    simp (disch := decide) only [alike.argument_eq, alike.field?_eq, alike.variableName_eq,
      alike.id]
    exact counting_agrees (alike.inputs "BY" (by decide)) (bodies "DO" (by decide))
  unfold statement
  refine .after _ fun _ => ?_
  dsimp only
  split
  next => exact repeated _
  next => exact repeated _
  next => exact repeated _
  next => exact counting _ _
  next => exact counting _ _
  next => exact counting _ _
  next =>
    rw [alike.variableName_eq, alike.id]
    exact .after _ fun var => .bind (bodies "DO" (by decide)) fun stmts => .refl _
  next =>
    rw [kept _ (by decide), alike.id]
    exact .after _ fun condition => .bind (bodies "DO" (by decide)) fun stmts =>
      .bind (bodies "ELSE" (by decide)) fun others => .refl _
  next =>
    rw [alike.conditions, alike.id]
    refine .after _ fun is => .bind (alike.branches_agree bodies is) fun bs => ?_
    split
    next => exact .refl _
    next => exact .bind (bodies "ELSE" (by decide)) fun otherwise => .refl _
  next =>
    rw [kept _ (by decide), alike.variableName_eq, alike.id]
    exact .refl _
  next =>
    rw [kept _ (by decide), alike.variableName_eq, alike.id]
    exact .refl _
  next =>
    split
    next spec known =>
      rw [alike.arguments_eq (isBody_command _ spec (mem_of_blockSpec? known)), alike.id]
      exact .refl _
    next =>
      rw [alike.id]
      exact .refl _

end Alike

/-- A body of disabled blocks alone, further down than bodies may be nested. -/
inductive Sunk : Nat → Value → Prop
  | here {depth : Nat} {es : BlockEntries} {name : String} {child : Value}
    (enabled : isEnabled es = true) (bodied : isBody name = true)
    (into : input? es name = .ok (some child)) (empty : pruned child = none)
    (deep : maxNesting ≤ depth) : Sunk depth (.dict es)
  | follows {depth : Nat} {es : BlockEntries} {next : Value}
    (after : following? es = .ok (some next)) (part : Sunk depth next) : Sunk depth (.dict es)
  | inside {depth : Nat} {es : BlockEntries} {name : String} {child : Value}
    (enabled : isEnabled es = true) (bodied : isBody name = true)
    (into : input? es name = .ok (some child)) (part : Sunk (depth + 1) child) :
    Sunk depth (.dict es)

variable {block child : Value}

theorem lift_ok (a : α) (f : α → Compiling β) : lift (.ok a) >>= f = f a := rfl

/-- A body without its disabled blocks, given that this is right for what is plugged in. -/
theorem body_agrees (enabled : isEnabled es = true) (bodied : isBody name = true)
    (left : input? es' name = (input? es name).map fun child => child.bind pruned)
    (same : BlockEntries.id es' = BlockEntries.id es)
    (inner : ∀ child, input? es name = .ok (some child) → Agrees (Sunk (depth + 1) child)
      (chain ed (depth + 1) child) (stack ed (depth + 1) (pruned child))) :
    Agrees (Sunk depth (.dict es)) (body ed depth es name) (body ed depth es' name) := by
  rw [body_eq, body_eq, left, same]
  cases into : input? es name with
  | error m => exact .refl _
  | ok child =>
    cases child with
    | none => exact .refl _
    | some child =>
      have inner := (inner child into).mono (Sunk.inside enabled bodied into)
      change Agrees _ _ (lift (.ok (pruned child)) >>= _)
      rw [lift_ok, lift_ok]
      dsimp only
      by_cases deep : depth + 1 > maxNesting
      · rw [if_pos deep]
        -- The limit stops what is plugged in, whether or not anything is left of it.
        cases empty : pruned child with
        | none =>
          exact fun n => .inr ⟨.here enabled bodied into empty (Nat.lt_succ_iff.mp deep), _, rfl⟩
        | some left =>
          dsimp only
          rw [if_pos deep]
          exact .refl _
      · rw [if_neg deep]
        cases empty : pruned child with
        | none => rwa [empty] at inner
        | some left =>
          rw [empty] at inner
          dsimp only
          rwa [if_neg deep]

/-- A stack is compiled as it is without its disabled blocks. -/
theorem chain_agrees (formed : WellFormed block) (depth : Nat) :
    Agrees (Sunk depth block) (chain ed depth block) (stack ed depth (pruned block)) := by
  -- The induction follows the blocks down and into the bodies of those that are enabled.
  induction formed generalizing depth with
  | @block es type typed readable follows inside ihNext ihBody =>
    obtain ⟨next, read⟩ := readable
    have after : Agrees (Sunk depth (.dict es)) (stack ed depth next)
        (stack ed depth (prunedNext es)) := by
      rw [prunedNext_eq read]
      cases next with
      | none => exact .refl _
      | some next => exact (ihNext next read depth).mono (.follows read)
    cases enabled : isEnabled es with
    | false =>
      rw [chain_disabled typed enabled, read, lift_ok, pruned_dict, enabled]
      exact after
    | true =>
      have typed' : Value.lookup (rebuild es (prunedBody es) (prunedNext es)) "type" =
          some (.text type) := (lookup_rebuild (by decide) (by decide)).trans typed
      have enabled' : isEnabled (rebuild es (prunedBody es) (prunedNext es)) = true := by
        rw [isEnabled, lookup_rebuild (by decide) (by decide)]
        exact enabled
      have alike : Alike es (rebuild es (prunedBody es) (prunedNext es)) :=
        alike_rebuild fun name b => truthy_prunedBody (inside enabled)
      rw [pruned_dict, if_pos enabled, chain_enabled typed enabled, read, stack,
        chain_enabled typed' enabled', following?_pruned ⟨next, read⟩ follows]
      refine .bind (alike.statement_agrees fun name bodied => ?_) fun own => ?_
      · have left : input? (rebuild es (prunedBody es) (prunedNext es)) name =
            (input? es name).map fun child => child.bind pruned := by
          rw [input?_pruned (inside enabled), bodied]
          rfl
        exact body_agrees enabled bodied left alike.id fun child into =>
          ihBody enabled name child bodied into (depth + 1)
      · rw [lift_ok, lift_ok]
        exact .bind after fun rest => .refl _

theorem isNull_of_wellFormed (formed : WellFormed block) : block.isNull = false := by
  cases formed
  rfl

theorem allStatements_cons (block : Value) (rest : List Value) :
    allStatements ed (block :: rest) =
      (if block.isNull then pure [] else chain ed 0 block) >>= fun stmts =>
        allStatements ed rest >>= fun others => pure (stmts ++ others) := by
  rw [allStatements]
  cases block.isNull <;> rfl

theorem allStatements_agrees {blocks : List Value}
    (formed : ∀ b ∈ blocks, b = .null ∨ WellFormed b) :
    Agrees (∃ b ∈ blocks, Sunk 0 b) (allStatements ed blocks)
      (allStatements ed (blocks.filterMap pruned)) := by
  induction blocks with
  | nil => exact .refl _
  | cons b rest ih =>
    obtain ⟨first, others⟩ := List.forall_mem_cons.mp formed
    have later : Agrees (∃ c ∈ b :: rest, Sunk 0 c) (allStatements ed rest)
        (allStatements ed (rest.filterMap pruned)) := by
      refine (ih others).mono ?_
      rintro ⟨c, listed, sunk⟩
      exact ⟨c, List.mem_cons_of_mem _ listed, sunk⟩
    rw [allStatements_cons]
    obtain rfl | formed := first
    · rw [List.filterMap_cons_some pruned_null, allStatements_cons]
      exact .after _ fun stmts => .bind later fun others => .refl _
    · have here : Agrees (∃ c ∈ b :: rest, Sunk 0 c) (chain ed 0 b) (stack ed 0 (pruned b)) :=
        (chain_agrees formed 0).mono fun sunk => ⟨b, List.mem_cons_self, sunk⟩
      rw [isNull_of_wellFormed formed, if_neg Bool.false_ne_true]
      cases left : pruned b with
      | none =>
        rw [left] at here
        rw [List.filterMap_cons_none left]
        have whole := here.bind fun stmts => later.bind fun others =>
          .refl (pure (stmts ++ others) : Compiling (List Stmt))
        simpa only [stack, pure_bind, List.nil_append, bind_pure] using whole
      | some w =>
        obtain ⟨es, type, rfl, _⟩ := typed_pruned formed left
        rw [List.filterMap_cons_some left, allStatements_cons]
        rw [left] at here
        exact .bind here fun stmts => .bind later fun others => .refl _

end Block

namespace Workspace

/-- The top blocks of a workspace that is no single block, as they are listed. -/
def listed (es : BlockEntries) : Value :=
  match (Value.lookup es "blocks").getD (.list []) with
  | .dict inner => (Value.lookup inner "blocks").getD (.list [])
  | other => other

/-- The workspace with other top blocks. -/
def relist (es : BlockEntries) (blocks : List Value) : BlockEntries :=
  match Value.lookup es "blocks" with
  | some (.dict inner) =>
    Value.revise es "blocks" (some (.dict (Value.revise inner "blocks" (some (.list blocks)))))
  | _ => Value.revise es "blocks" (some (.list blocks))

/-- The workspace without its disabled blocks. -/
def pruned : Value → Value
  | .list blocks => .list (blocks.filterMap Block.pruned)
  | .dict es =>
    if (Value.lookup es "type").isSome then (Block.pruned (.dict es)).getD (.list [])
    else match listed es with
      | .list blocks => .dict (relist es (blocks.filterMap Block.pruned))
      | _ => .dict es
  | v => v

/-- The top blocks are well-formed, where there are any. -/
def WellFormed (workspace : Value) : Prop :=
  ∀ w, ofValue workspace = .ok w → ∀ b ∈ w.blocks, b = .null ∨ Block.WellFormed b

/-- Somewhere a body of disabled blocks alone lies too deep. -/
def Sunk (workspace : Value) : Prop :=
  ∃ w, ofValue workspace = .ok w ∧ ∃ b ∈ w.blocks, Block.Sunk 0 b

variable {es : BlockEntries} {blocks : List Value} {k : String} {workspace : Value}

theorem lookup_relist (other : k ≠ "blocks") :
    Value.lookup (relist es blocks) k = Value.lookup es k := by
  unfold relist
  split
  next => exact Value.lookup_revise_of_ne other _
  next => exact Value.lookup_revise_of_ne other _

/-- Other top blocks take the place of those that are listed; where none are, none are put. -/
theorem listed_relist {old : List Value} (given : listed es = .list old)
    (none : old = [] → blocks = []) : listed (relist es blocks) = .list blocks := by
  unfold listed at given
  unfold listed relist
  cases outer : Value.lookup es "blocks" with
  | none =>
    rw [outer] at given
    cases given
    rw [none rfl]
    dsimp only
    rw [Value.lookup_revise_self, outer]
    rfl
  | some v =>
    rw [outer] at given
    cases v with
    | list l =>
      dsimp only
      rw [Value.lookup_revise_self, outer]
      rfl
    | dict inner =>
      dsimp only
      rw [Value.lookup_revise_self, outer]
      dsimp only [Option.bind_some, Option.getD_some]
      rw [Value.lookup_revise_self]
      cases there : Value.lookup inner "blocks" with
      | some v => rfl
      | none =>
        dsimp only [Option.getD_some] at given
        rw [there] at given
        cases given
        rw [none rfl]
        rfl
    | _ => cases given

/-- The names of the variables that a workspace declares. -/
def declared (es : BlockEntries) : Except BlockStop (List (Value × Value)) :=
  (if (BlockEntries.get es "variables").truthy then
    ofValue.liftMisfit (BlockEntries.get es "variables").parts else .ok []) >>= fun items =>
      ofValue.liftMisfit (variablesOf items [])

theorem ofValue_several (several : (Value.lookup es "type").isSome = false) :
    ofValue (.dict es) = declared es >>= fun names => match listed es with
      | .list blocks => .ok { blocks, names }
      | _ => .error (.problem .blocksNotList .null) := by
  unfold ofValue declared
  dsimp only
  rw [several, bind_assoc]
  cases (BlockEntries.get es "variables").truthy with
  | true => rfl
  | false => rfl

theorem ofValue_single (single : (Value.lookup es "type").isSome = true) :
    ofValue (.dict es) = .ok { blocks := [.dict es] } := by
  unfold ofValue
  dsimp only
  rw [single]
  rfl

theorem ofValue_pruned (formed : WellFormed workspace) :
    ofValue (pruned workspace) =
      (ofValue workspace).map fun w => { w with blocks := w.blocks.filterMap Block.pruned } := by
  unfold pruned
  split
  next blocks => rfl
  next es =>
    split
    next single =>
      have formed : Block.WellFormed (.dict es) :=
        (formed _ (ofValue_single single) _ (List.mem_singleton_self _)).resolve_left nofun
      rw [ofValue_single single]
      cases left : Block.pruned (.dict es) with
      | none =>
        dsimp only [Except.map]
        rw [List.filterMap_cons_none left]
        rfl
      | some w =>
        obtain ⟨es', type, rfl, typed⟩ := Block.typed_pruned formed left
        dsimp only [Except.map, Option.getD_some]
        rw [List.filterMap_cons_some left, ofValue_single (by rw [typed]; rfl)]
        rfl
    next several =>
      have several : (Value.lookup es "type").isSome = false := Bool.eq_false_iff.mpr several
      split
      next blocks given =>
        have same : declared (relist es (blocks.filterMap Block.pruned)) = declared es := by
          rw [declared, BlockEntries.get, lookup_relist (by decide)]
          rfl
        have several' : (Value.lookup (relist es (blocks.filterMap Block.pruned)) "type").isSome =
            false := by rwa [lookup_relist (by decide)]
        rw [ofValue_several several, ofValue_several several', same, given,
          listed_relist given fun none => by rw [none]; rfl]
        cases declared es <;> rfl
      next other =>
        rw [ofValue_several several]
        cases declared es with
        | error e => rfl
        | ok names =>
          simp only [ok_bind]
          rfl
  next notList notDict =>
    unfold ofValue
    split
    next blocks => exact absurd rfl (notList blocks)
    next es => exact absurd rfl (notDict es)
    next => rfl

/-- No disabled block is left. -/
theorem isEnabled_of_pruned (formed : WellFormed workspace) {w : Workspace}
    (read : ofValue (pruned workspace) = .ok w) {b : Value} (top : b ∈ w.blocks)
    (stands : Block.Stands b es) : BlockEntries.isEnabled es = true := by
  rw [ofValue_pruned formed] at read
  obtain ⟨w, given, rfl⟩ := map_eq_ok.mp read
  obtain ⟨old, listed, left⟩ := List.mem_filterMap.mp top
  obtain rfl | formed := formed w given old listed
  · rw [Block.pruned_null] at left
    cases left
    cases stands
  · exact Block.isEnabled_of_stands_pruned formed left stands

end Workspace

namespace Block

open Compiling BlockEntries

theorem program_of_ofValue {workspace : Value} {d : Domain} {w : Workspace}
    (read : Workspace.ofValue workspace = .ok w) :
    program d workspace = (allStatements ⟨d, w.names⟩ w.blocks 0).map fun made =>
      { statements := made.1, blockCount := made.2 } := by
  rw [program, read]
  rfl

/-- A workspace compiles as it does without its disabled blocks, unless a body of disabled blocks
alone lies too deep; then it may be reported that blocks are nested too deeply. -/
theorem compileBlocks_pruned (workspace : Value) (d : Domain)
    (formed : Workspace.WellFormed workspace) :
    compileBlocks workspace d = compileBlocks (Workspace.pruned workspace) d ∨
      (Workspace.Sunk workspace ∧ ∃ id, compileBlocks workspace d = .ok (.failed
        { kind := .compileError, message := BlockProblem.nestedTooDeeply.message,
          location := some { blockId := id } })) := by
  cases read : Workspace.ofValue workspace with
  | error e =>
    have same : program d (Workspace.pruned workspace) = program d workspace := by
      rw [program, program, Workspace.ofValue_pruned formed, read]
      rfl
    rw [compileBlocks, compileBlocks, same]
    exact .inl rfl
  | ok w =>
    have left : Workspace.ofValue (Workspace.pruned workspace) =
        .ok { w with blocks := w.blocks.filterMap pruned } := by
      rw [Workspace.ofValue_pruned formed, read]
      rfl
    have agree : Agrees (∃ b ∈ w.blocks, Sunk 0 b) (allStatements ⟨d, w.names⟩ w.blocks)
        (allStatements ⟨d, w.names⟩ (w.blocks.filterMap pruned)) :=
      allStatements_agrees (formed w read)
    have whole := program_of_ofValue (d := d) read
    have rest := program_of_ofValue (d := d) left
    obtain same | ⟨⟨b, listed, sunk⟩, id, stopped⟩ := agree 0
    · rw [compileBlocks, compileBlocks, whole, rest, same]
      exact .inl rfl
    · refine .inr ⟨⟨w, read, b, listed, sunk⟩, id, ?_⟩
      rw [compileBlocks, whole, stopped]
      rfl

section Towers

/-- A loop over one step, with these inputs. -/
def looping (inputs : BlockEntries) : BlockEntries :=
  [("type", "repeat_times"), ("fields", .dict [("TIMES", 1)]), ("inputs", .dict inputs)]

/-- A loop over a block. -/
def loopOver (child : BlockEntries) : BlockEntries :=
  looping [("DO", .dict [("block", .dict child)])]

/-- A disabled block. -/
def skipped : BlockEntries := [("type", "move_forward"), ("enabled", .bool false)]

/-- So many loops around a block, one inside another. -/
def tower (base : BlockEntries) : Nat → BlockEntries
  | 0 => base
  | n + 1 => loopOver (tower base n)

variable {base child inputs : BlockEntries} {ed : Editor} {depth : Nat} {name : String}

theorem input?_looping :
    input? (looping inputs) name = .ok (occupant (Value.lookup inputs name)) := by
  cases inputs <;> rfl

section Slot

variable (some : child ≠ [])

include some

theorem holder_block : holder [("block", .dict child)] = "block" := by
  have counts : (Value.dict child).truthy = true := by simpa [Value.truthy] using some
  exact if_pos counts

theorem occupant_block :
    occupant (Option.some (.dict [("block", .dict child)])) = Option.some (.dict child) := by
  rw [occupant, held, holder_block some]
  rfl

theorem replug_block (b : Value) :
    replug b (.dict [("block", .dict child)]) = .dict [("block", b)] := by
  rw [replug, holder_block some]
  rfl

theorem input?_loopOver : input? (loopOver child) name =
    .ok (if name = "DO" then Option.some (.dict child) else none) := by
  rw [loopOver, input?_looping, Value.lookup_cons]
  by_cases same : name = "DO"
  · subst same
    rw [if_pos BEq.rfl, if_pos rfl, occupant_block some]
  · rw [if_neg (by simpa using Ne.symm same), if_neg same]
    rfl

theorem rebuild_loopOver {bodies : String → Option Value} :
    rebuild (loopOver child) bodies none =
      looping ((bodies "DO").map fun b => ("DO", Value.dict [("block", b)])).toList := by
  have there : (isBody "DO" && (occupant (Value.lookup
      [("DO", .dict [("block", .dict child)])] "DO")).isSome) = true := by
    change (isBody "DO" && (occupant (Option.some (.dict [("block", .dict child)]))).isSome) = true
    rw [occupant_block some]
    rfl
  have refilled : refill bodies [("DO", .dict [("block", .dict child)])] =
      ((bodies "DO").map fun b => ("DO", Value.dict [("block", b)])).toList := by
    rw [refill, Value.adjust, List.filterMap_cons, if_pos there]
    simp only [replug_block some]
    cases bodies "DO" <;> rfl
  rw [← refilled]
  rfl

end Slot

theorem chain_looping (plain : Value.lookup inputs "TIMES" = none) :
    chain ed depth (.dict (looping inputs)) = (do
      countBlock
      let stmts ← body ed depth (looping inputs) "DO"
      return [.loop (.literal 1) stmts .null]) := by
  have times : argument ed 0 "repeat_times" (looping inputs) "TIMES" none =
      pure (.literal 1) := by
    rw [argument_eq, input?_looping, plain]
    rfl
  have own : statement ed depth "repeat_times" (looping inputs) = (do
      countBlock
      let stmts ← body ed depth (looping inputs) "DO"
      return [.loop (.literal 1) stmts .null]) := by
    unfold statement
    dsimp only
    rw [times]
    rfl
  have last : following? (looping inputs) = .ok none := rfl
  have typed : Value.lookup (looping inputs) "type" = some (.text "repeat_times") := rfl
  rw [chain_enabled typed rfl, last, own]
  simp only [bind_assoc, pure_bind, lift_ok, stack, List.append_nil]

theorem tower_ne_nil (some : base ≠ []) (n : Nat) : tower base n ≠ [] := by
  cases n with
  | zero => exact some
  | succ n => exact List.cons_ne_nil _ _

theorem chain_loopOver (some : child ≠ []) : chain ed depth (.dict (loopOver child)) = (do
    countBlock
    let stmts ← if depth + 1 > maxNesting then stop .nestedTooDeeply .null
      else chain ed (depth + 1) (.dict child)
    return [.loop (.literal 1) stmts .null]) := by
  have inner : body ed depth (loopOver child) "DO" =
      if depth + 1 > maxNesting then stop .nestedTooDeeply .null
      else chain ed (depth + 1) (.dict child) := by
    rw [body_eq, input?_loopOver some]
    rfl
  rw [loopOver, chain_looping rfl]
  rw [loopOver] at inner
  rw [inner]
  split
  next => rfl
  next => rfl

/-- Loops that are not nested too deeply are compiled if the block inside them is. -/
theorem chain_tower {n : Nat} (some : base ≠ [])
    (compiled : ∀ depth k, ∃ made, chain ed depth (.dict base) k = .ok made)
    (low : depth + n ≤ maxNesting) (k : Nat) :
    ∃ made, chain ed depth (.dict (tower base n)) k = .ok made := by
  induction n generalizing depth k with
  | zero => exact compiled depth k
  | succ n ih =>
    have less : depth + 1 + n ≤ maxNesting := by omega
    obtain ⟨made, inner⟩ := ih less (k + 1)
    rw [tower, chain_loopOver (tower_ne_nil some n), if_neg (by omega)]
    refine ⟨([.loop (.literal 1) made.1 .null], made.2), ?_⟩
    change (chain ed (depth + 1) (.dict (tower base n)) (k + 1) >>= fun made => _) = _
    rw [inner]
    rfl

/-- The limit stops the innermost of too many loops, whatever is in it. -/
theorem chain_tower_stops {n : Nat} (some : base ≠ []) (high : depth + n = maxNesting) (k : Nat) :
    chain ed depth (.dict (tower base (n + 1))) k = .error (.problem .nestedTooDeeply .null) := by
  induction n generalizing depth k with
  | zero =>
    rw [tower, chain_loopOver (tower_ne_nil some 0), if_pos (by omega)]
    rfl
  | succ n ih =>
    rw [tower, chain_loopOver (tower_ne_nil some (n + 1)), if_neg (by omega)]
    change (chain ed (depth + 1) (.dict (tower base (n + 1))) (k + 1) >>= fun made => _) = _
    rw [ih (by omega)]
    rfl

theorem skipped_ne_nil : skipped ≠ [] := List.cons_ne_nil _ _

theorem wellFormed_skipped : WellFormed (.dict skipped) :=
  have typed : Value.lookup skipped "type" = some (.text "move_forward") := rfl
  .block typed ⟨none, rfl⟩ nofun nofun

theorem wellFormed_tower (n : Nat) : WellFormed (.dict (tower skipped n)) := by
  induction n with
  | zero => exact wellFormed_skipped
  | succ n ih =>
    have typed : Value.lookup (tower skipped (n + 1)) "type" = some (.text "repeat_times") := rfl
    refine .block typed ⟨none, rfl⟩ nofun fun _ name child _ into => ?_
    rw [tower, input?_loopOver (tower_ne_nil skipped_ne_nil n)] at into
    split at into
    next =>
      cases into
      exact ih
    next => cases into

/-- The innermost loop is left without a body. -/
theorem pruned_tower (n : Nat) :
    pruned (.dict (tower skipped (n + 1))) = some (.dict (tower (looping []) n)) := by
  have step (n : Nat) : pruned (.dict (tower skipped (n + 1))) = some (.dict (looping
      ((pruned (.dict (tower skipped n))).map fun b =>
        ("DO", Value.dict [("block", b)])).toList)) := by
    have filled := tower_ne_nil skipped_ne_nil n
    have inner : prunedBody (loopOver (tower skipped n)) "DO" =
        pruned (.dict (tower skipped n)) := prunedBody_eq (input?_loopOver filled)
    rw [pruned_dict]
    change some (Value.dict (rebuild (loopOver (tower skipped n)) _ none)) = _
    rw [rebuild_loopOver filled]
    exact congrArg (fun left => some (Value.dict (looping (Option.map _ left).toList))) inner
  induction n with
  | zero =>
    have none : pruned (.dict skipped) = none := by
      rw [pruned_dict]
      rfl
    rw [step, tower, none]
    rfl
  | succ n ih =>
    rw [step, ih]
    rfl

theorem program_single (d : Domain) (es : BlockEntries) :
    program d (.list [.dict es]) = (chain ⟨d, []⟩ 0 (.dict es) 0).map fun made =>
      { statements := made.1, blockCount := made.2 } := by
  have top : allStatements ⟨d, []⟩ [.dict es] = chain ⟨d, []⟩ 0 (.dict es) := by
    have solid : (Value.dict es).isNull = false := rfl
    rw [allStatements_cons, solid, if_neg Bool.false_ne_true, allStatements]
    simp only [pure_bind, List.append_nil, bind_pure]
  have read : Workspace.ofValue (.list [.dict es]) = .ok { blocks := [.dict es] } := rfl
  rw [program_of_ofValue read, top]

theorem wellFormed_single {block : Value} (formed : WellFormed block) :
    Workspace.WellFormed (.list [block]) := by
  intro w read b top
  cases read
  obtain rfl := List.mem_singleton.mp top
  exact .inr formed

theorem compiles_single (d : Domain) {es : BlockEntries}
    (compiled : ∃ made, chain ⟨d, []⟩ 0 (.dict es) 0 = .ok made) :
    ∃ p warnings, compileBlocks (.list [.dict es]) d = .ok (.done p warnings) := by
  obtain ⟨made, compiled⟩ := compiled
  rw [compileBlocks, program_single, compiled]
  exact ⟨_, _, rfl⟩

theorem chain_skipped (depth k : Nat) :
    ∃ made, chain ed depth (.dict skipped) k = .ok made := by
  have typed : Value.lookup skipped "type" = some (.text "move_forward") := rfl
  rw [chain_disabled typed rfl]
  exact ⟨_, rfl⟩

theorem looping_ne_nil : looping inputs ≠ [] := List.cons_ne_nil _ _

theorem chain_idle (depth k : Nat) : ∃ made, chain ed depth (.dict (looping [])) k = .ok made := by
  rw [chain_looping rfl, body_eq]
  exact ⟨_, rfl⟩

/-- A loop with a disabled block in it is one of those. -/
theorem compileBlocks_pruned_tower :
    Workspace.WellFormed (.list [.dict (tower skipped 1)]) ∧
      compileBlocks (.list [.dict (tower skipped 1)]) .robot =
        compileBlocks (Workspace.pruned (.list [.dict (tower skipped 1)])) .robot := by
  have formed := wellFormed_single (wellFormed_tower 1)
  have low : 0 + 1 ≤ maxNesting := by decide
  obtain ⟨p, warnings, compiled⟩ := compiles_single .robot
    (chain_tower skipped_ne_nil chain_skipped low 0)
  refine ⟨formed, (compileBlocks_pruned _ .robot formed).resolve_right ?_⟩
  rintro ⟨_, id, stopped⟩
  cases compiled.symm.trans stopped

/-- A body that is too deep is reported though the only block in it is disabled. -/
theorem compileBlocks_ne_pruned :
    Workspace.WellFormed (.list [.dict (tower skipped (maxNesting + 1))]) ∧
      compileBlocks (.list [.dict (tower skipped (maxNesting + 1))]) .robot ≠
        compileBlocks (Workspace.pruned (.list [.dict (tower skipped (maxNesting + 1))]))
          .robot := by
  refine ⟨wellFormed_single (wellFormed_tower _), fun same => ?_⟩
  have left : Workspace.pruned (.list [.dict (tower skipped (maxNesting + 1))]) =
      .list [.dict (tower (looping []) maxNesting)] := by
    rw [Workspace.pruned, List.filterMap_cons_some (pruned_tower maxNesting), List.filterMap_nil]
  obtain ⟨p, warnings, compiled⟩ := compiles_single .robot
    (chain_tower looping_ne_nil chain_idle (Nat.zero_add maxNesting).le 0)
  rw [left, compiled, compileBlocks, program_single,
    chain_tower_stops skipped_ne_nil (Nat.zero_add maxNesting)] at same
  cases same

end Towers

end Block

end PuzzleWorlds
