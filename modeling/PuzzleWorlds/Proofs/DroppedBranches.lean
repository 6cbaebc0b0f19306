import PuzzleWorlds.Proofs.CompiledBranches
import PuzzleWorlds.Proofs.NamedPrograms

/-! Which blocks of a workspace get into its program. The statements of every block that is reached,
through what follows a block and through the bodies of enabled blocks, are in the program. A
branching block has an arm for each number up to the first that is missing, so what is plugged into
it under a greater number is dropped. -/

namespace PuzzleWorlds

namespace BlockEntries

variable {es : BlockEntries}

def Enabled (es : BlockEntries) : Prop := Value.lookup es "enabled" ≠ some (.bool false)

/-- A condition, or a body, of this number is plugged in. -/
def Filled (es : BlockEntries) (i : Nat) : Prop :=
  (∃ child, es.plugged? (conditionName i) = .ok (some child)) ∨
    ∃ child, es.plugged? (bodyName i) = .ok (some child)

/-- The inputs of a block whose statements are compiled. -/
inductive HasBody (es : BlockEntries) : String → String → Prop
  | repeats {type : String}
    (member : type ∈ ["repeat_times", "controls_repeat", "controls_repeat_ext"]) :
    HasBody es type "DO"
  | counts {type : String} (member : type ∈ ["for_loop", "controls_for", "for_loop_nested"]) :
    HasBody es type "DO"
  | goesThrough : HasBody es "for_each_enemy" "DO"
  | compared {name : String} (member : name ∈ ["DO", "ELSE"]) : HasBody es "if_compare" name
  | arm {i : Nat} (named : ∀ j ≤ i, conditionName j ∈ es.inputNames) :
    HasBody es "controls_if" (bodyName i)
  | otherwise : HasBody es "controls_if" "ELSE"

end BlockEntries

namespace Stmt

/-- The expressions of a statement itself. -/
def exprs : Stmt → List Expr
  | call _ args _ => args
  | loop times _ _ => [times]
  | count _ start stop step _ _ => start :: stop :: step.toList
  | branch condition _ _ _ => [condition]
  | assign _ value _ => [value]
  | each .. | unknown _ => []

end Stmt

namespace Block

open Compiling BlockEntries

variable {ed : Editor} {depth : Nat} {type name : String} {es : BlockEntries} {stmts : List Stmt}

/-- An enabled block that is compiled with the other one. -/
inductive Stacked : Value → BlockEntries → Prop
  | self {es : BlockEntries} (enabled : es.Enabled) : Stacked (.dict es) es
  | follows {es inner : BlockEntries} {next : Inside es} (after : es.next? = .ok (some next))
    (part : Stacked next.1 inner) : Stacked (.dict es) inner
  | plugged {es inner : BlockEntries} {type name : String} {child : Inside es}
    (enabled : es.Enabled) (typed : Value.lookup es "type" = some (.text type))
    (bodied : es.HasBody type name) (into : es.plugged? name = .ok (some child))
    (part : Stacked child.1 inner) : Stacked (.dict es) inner

theorem follows_gives {own : List Stmt} (made : Gives (do
      match ← lift es.next? with
      | none => return own
      | some ⟨next, _⟩ => return own ++ (← chain ed depth next)) stmts) :
    ∃ rest, stmts = own ++ rest ∧ ((es.next? = .ok none ∧ rest = []) ∨
      ∃ next, es.next? = .ok (some next) ∧ (chain ed depth next.1).Gives rest) := by
  obtain ⟨next, after, made⟩ := made.bind
  cases next with
  | none => exact ⟨[], by rw [List.append_nil, ← made.pure], .inl ⟨after.lift, rfl⟩⟩
  | some next =>
    obtain ⟨rest, last, made⟩ := made.bind
    exact ⟨rest, made.pure.symm, .inr ⟨next, after.lift, last⟩⟩

/-- A stack is compiled to the statements of its first block, none if it is disabled, and those of
what follows. -/
theorem chain_parts (made : (chain ed depth (.dict es)).Gives stmts) :
    ∃ type own rest, Value.lookup es "type" = some (.text type) ∧ stmts = own ++ rest ∧
      ((es.Enabled ∧ (statement ed depth type es).Gives own) ∨ (¬es.Enabled ∧ own = [])) ∧
      ((es.next? = .ok none ∧ rest = []) ∨
        ∃ next, es.next? = .ok (some next) ∧ (chain ed depth next.1).Gives rest) := by
  unfold chain at made
  dsimp only at made
  split at made
  next type typed =>
    split at made
    next disabled =>
      obtain ⟨own, none, made⟩ := made.bind
      obtain ⟨rest, rfl, after⟩ := follows_gives made
      exact ⟨type, own, rest, typed, rfl, .inr ⟨not_not_intro disabled, none.pure.symm⟩, after⟩
    next enabled =>
      obtain ⟨own, first, made⟩ := made.bind
      obtain ⟨rest, rfl, after⟩ := follows_gives made
      exact ⟨type, own, rest, typed, rfl, .inl ⟨enabled, first⟩, after⟩
  next => exact absurd made Gives.stop

theorem chain_gives (made : (chain ed depth (.dict es)).Gives stmts) :
    ∃ type own rest, Value.lookup es "type" = some (.text type) ∧ stmts = own ++ rest ∧
      (es.Enabled → (statement ed depth type es).Gives own) ∧
      ∀ next, es.next? = .ok (some next) → (chain ed depth next.1).Gives rest := by
  obtain ⟨type, own, rest, typed, same, first, last⟩ := chain_parts made
  refine ⟨type, own, rest, typed, same, fun enabled => ?_, fun next after => ?_⟩
  · obtain ⟨_, first⟩ | ⟨disabled, _⟩ := first
    · exact first
    · exact absurd enabled disabled
  · obtain ⟨none, _⟩ | ⟨other, there, last⟩ := last
    · cases none.symm.trans after
    · cases there.symm.trans after
      exact last

/-- A body is empty, or the stack that is plugged in, one level further down. -/
theorem body_parts (made : (body ed depth es name).Gives stmts) :
    (es.plugged? name = .ok none ∧ stmts = []) ∨ ∃ child, es.plugged? name = .ok (some child) ∧
      depth + 1 ≤ maxNesting ∧ (chain ed (depth + 1) child.1).Gives stmts := by
  unfold body at made
  obtain ⟨given, read, made⟩ := made.bind
  cases given with
  | none => exact .inl ⟨read.lift, made.pure.symm⟩
  | some child =>
    dsimp only at made
    split at made
    next => exact absurd made Gives.stop
    next low => exact .inr ⟨child, read.lift, Nat.not_lt.mp low, made⟩

theorem body_gives {child : Inside es} (made : (body ed depth es name).Gives stmts)
    (into : es.plugged? name = .ok (some child)) :
    (chain ed (depth + 1) child.1).Gives stmts := by
  obtain ⟨none, _⟩ | ⟨other, there, _, made⟩ := body_parts made
  · cases none.symm.trans into
  · cases there.symm.trans into
    exact made

/-- A counting loop whose body is compiled by `stmts`. -/
theorem counting_gives {inner : Compiling (List Stmt)} {type default : String} {id : Value}
    (made : Gives (do
      let given ← match ← lift (BlockEntries.plugged? es "BY") with
        | some _ => Pure.pure true
        | none => Option.isSome <$> lift (BlockEntries.field? es "BY")
      let step ← if given then some <$> argument ed 0 type es "BY" none else Pure.pure none
      let var ← variableName ed type es (some default)
      let start ← argument ed 0 type es "FROM" (some 0)
      let stop ← argument ed 0 type es "TO" none
      return [.count var start stop step (← inner) id]) stmts) :
    ∃ body, inner.Gives body ∧ ∃ var start stop step,
      stmts = [.count var start stop step body id] ∧
      (argument ed 0 type es "FROM" (some 0)).Gives start ∧
      (argument ed 0 type es "TO" none).Gives stop ∧
      ∀ e ∈ step, (argument ed 0 type es "BY" none).Gives e := by
  have rest {step : Option Expr} (size : ∀ e ∈ step, (argument ed 0 type es "BY" none).Gives e)
      (made : Gives (do
        let var ← variableName ed type es (some default)
        let start ← argument ed 0 type es "FROM" (some 0)
        let stop ← argument ed 0 type es "TO" none
        return [.count var start stop step (← inner) id]) stmts) :
      ∃ body, inner.Gives body ∧ ∃ var start stop step,
        stmts = [.count var start stop step body id] ∧
        (argument ed 0 type es "FROM" (some 0)).Gives start ∧
        (argument ed 0 type es "TO" none).Gives stop ∧
        ∀ e ∈ step, (argument ed 0 type es "BY" none).Gives e := by
    obtain ⟨var, _, made⟩ := made.bind
    obtain ⟨start, first, made⟩ := made.bind
    obtain ⟨stop, last, made⟩ := made.bind
    obtain ⟨body, compiled, made⟩ := made.bind
    exact ⟨body, compiled, var, start, stop, step, made.pure.symm, first, last, size⟩
  obtain ⟨plugged, _, made⟩ := made.bind
  -- Whether there is a step is looked up in two ways; either way one is compiled or none is.
  cases plugged
  all_goals
    obtain ⟨given, _, made⟩ := Gives.bind made
    cases given with
    | true =>
      obtain ⟨step, mapped, made⟩ := Gives.bind made
      obtain ⟨e, sized, rfl⟩ := mapped.map
      exact rest (fun _ same => Option.some.inj same ▸ sized) made
    | false =>
      obtain ⟨step, skipped, made⟩ := Gives.bind made
      obtain rfl := skipped.pure
      exact rest (by exact nofun) made

/-- An expression of a compiled statement: an argument of a block, or the variable of an echo. -/
inductive Operand (ed : Editor) : Expr → Prop
  | argument {type name : String} {es : BlockEntries} {default : Option Value} {e : Expr}
    (made : (argument ed 0 type es name default).Gives e) : Operand ed e
  | echo (name : Value) : Operand ed (.var name)

theorem arguments_gives {as : List BlockArg} {args : List Expr}
    (made : (arguments ed 0 type es as).Gives args) : ∀ e ∈ args, Operand ed e := by
  induction as generalizing args with
  | nil =>
    rw [arguments] at made
    obtain rfl := made.pure
    exact List.forall_mem_nil _
  | cons a rest ih =>
    rw [arguments] at made
    obtain ⟨e, first, made⟩ := made.bind
    obtain ⟨others, last, made⟩ := made.bind
    obtain rfl := made.pure
    exact List.forall_mem_cons.mpr ⟨.argument first, ih last⟩

/-- The statements of a block without numbered arms, and what is compiled inside them. -/
structure Parts (ed : Editor) (depth : Nat) (type : String) (es : BlockEntries)
    (own : List Stmt) : Prop where
  filled : own ≠ []
  values : ∀ s ∈ own, ∀ e ∈ s.exprs, Operand ed e
  inner : ∀ s ∈ own, ∀ t ∈ s.inner, ∃ name part, es.HasBody type name ∧
    (body ed depth es name).Gives part ∧ t ∈ part
  outer : ∀ name, es.HasBody type name → ∃ part, (body ed depth es name).Gives part ∧
    ∃ s ∈ own, part ⊆ s.inner

theorem eq_do_of_hasBody (bodied : es.HasBody type name) (plain : type ≠ "if_compare")
    (other : type ≠ "controls_if") : name = "DO" := by
  cases bodied with
  | repeats | counts | goesThrough => rfl
  | compared => exact absurd rfl plain
  | arm | otherwise => exact absurd rfl other

/-- The blocks with bodies. -/
def bodyTypes : List String :=
  ["repeat_times", "controls_repeat", "controls_repeat_ext", "for_loop", "controls_for",
    "for_loop_nested", "for_each_enemy", "if_compare", "controls_if"]

theorem not_hasBody (plain : type ∉ bodyTypes) (name : String) : ¬es.HasBody type name := by
  intro bodied
  have repeated : ∀ t ∈ ["repeat_times", "controls_repeat", "controls_repeat_ext"],
      t ∈ bodyTypes := by decide
  have counted : ∀ t ∈ ["for_loop", "controls_for", "for_loop_nested"], t ∈ bodyTypes := by decide
  refine plain ?_
  cases bodied with
  | repeats member => exact repeated type member
  | counts member => exact counted type member
  | goesThrough | compared | arm | otherwise => decide

theorem hasBody_compared (bodied : es.HasBody type name) (compared : type = "if_compare") :
    name = "DO" ∨ name = "ELSE" := by
  cases bodied with
  | compared member => simpa using member
  | repeats | counts | goesThrough => exact .inl rfl
  | arm | otherwise => exact absurd compared (by decide)

/-- A loop has one body. -/
theorem Parts.loop {s : Stmt} (values : ∀ e ∈ s.exprs, Operand ed e)
    (compiled : (body ed depth es "DO").Gives s.inner) (bodied : es.HasBody type "DO")
    (plain : type ≠ "if_compare") (other : type ≠ "controls_if") :
    Parts ed depth type es [s] where
  filled := List.cons_ne_nil s []
  values := List.forall_mem_singleton.mpr values
  inner := List.forall_mem_singleton.mpr fun _ member => ⟨"DO", _, bodied, compiled, member⟩
  outer name given := by
    obtain rfl := eq_do_of_hasBody given plain other
    exact ⟨_, compiled, s, List.mem_singleton_self s, List.Subset.refl _⟩

theorem Parts.counting {var id : Value} {start stop : Expr} {step : Option Expr}
    {inner : List Stmt} (bodied : es.HasBody type "DO") (plain : type ≠ "if_compare")
    (other : type ≠ "controls_if") (first : (argument ed 0 type es "FROM" (some 0)).Gives start)
    (last : (argument ed 0 type es "TO" none).Gives stop)
    (size : ∀ e ∈ step, (argument ed 0 type es "BY" none).Gives e)
    (compiled : (body ed depth es "DO").Gives inner) :
    Parts ed depth type es [.count var start stop step inner id] := by
  refine .loop ?_ compiled bodied plain other
  refine List.forall_mem_cons.mpr ⟨.argument first, List.forall_mem_cons.mpr
    ⟨.argument last, fun e member => .argument (size e ?_)⟩⟩
  exact Option.mem_toList.mp member

/-- What has no body is compiled to statements without any. -/
theorem Parts.flat {own : List Stmt} (filled : own ≠ [])
    (values : ∀ s ∈ own, ∀ e ∈ s.exprs, Operand ed e)
    (flat : ∀ s ∈ own, s.inner = []) (none : ∀ name, ¬es.HasBody type name) :
    Parts ed depth type es own where
  filled := filled
  values := values
  inner s member _ inside := absurd (flat s member ▸ inside) List.not_mem_nil
  outer name given := absurd given (none name)

theorem statement_parts {own : List Stmt} (made : (statement ed depth type es).Gives own)
    (other : type ≠ "controls_if") : Parts ed depth type es own := by
  have repeated {id : Value} (bodied : es.HasBody type "DO") (plain : type ≠ "if_compare")
      (made : Gives (do
        let times ← argument ed 0 type es "TIMES" none
        return [.loop times (← body ed depth es "DO") id]) own) : Parts ed depth type es own := by
    obtain ⟨times, first, made⟩ := made.bind
    obtain ⟨inner, compiled, made⟩ := made.bind
    obtain rfl := made.pure
    exact .loop (List.forall_mem_singleton.mpr (.argument first)) compiled bodied plain other
  unfold statement at made
  obtain ⟨_, _, made⟩ := made.bind
  dsimp only at made
  split at made
  next => exact repeated (.repeats (by decide)) (by decide) made
  next => exact repeated (.repeats (by decide)) (by decide) made
  next => exact repeated (.repeats (by decide)) (by decide) made
  next =>
    obtain ⟨_, compiled, _, _, _, _, rfl, first, last, size⟩ := counting_gives made
    exact .counting (.counts (by decide)) (by decide) other first last size compiled
  next =>
    obtain ⟨_, compiled, _, _, _, _, rfl, first, last, size⟩ := counting_gives made
    exact .counting (.counts (by decide)) (by decide) other first last size compiled
  next =>
    obtain ⟨_, compiled, _, _, _, _, rfl, first, last, size⟩ := counting_gives made
    exact .counting (.counts (by decide)) (by decide) other first last size compiled
  next =>
    obtain ⟨var, _, made⟩ := Gives.bind made
    obtain ⟨inner, compiled, made⟩ := made.bind
    obtain rfl := made.pure
    exact .loop (List.forall_mem_nil _) compiled .goesThrough (by decide) other
  next =>
    obtain ⟨condition, tested, made⟩ := Gives.bind made
    obtain ⟨first, compiled, made⟩ := made.bind
    obtain ⟨second, others, made⟩ := made.bind
    obtain rfl := made.pure
    exact {
      filled := List.cons_ne_nil _ _
      values := List.forall_mem_singleton.mpr
        (List.forall_mem_singleton.mpr (.argument tested))
      inner := List.forall_mem_singleton.mpr fun t member =>
        (List.mem_append.mp member).elim
          (fun inside => ⟨"DO", first, .compared (by decide), compiled, inside⟩)
          (fun inside => ⟨"ELSE", second, .compared (by decide), others, inside⟩)
      outer := by
        intro name bodied
        obtain rfl | rfl := hasBody_compared bodied rfl
        · exact ⟨first, compiled, _, List.mem_singleton_self _, List.subset_append_left _ _⟩
        · exact ⟨second, others, _, List.mem_singleton_self _, List.subset_append_right _ _⟩ }
  next => exact absurd rfl other
  next =>
    obtain ⟨name, _, made⟩ := Gives.bind made
    obtain ⟨value, first, made⟩ := made.bind
    obtain rfl := made.pure
    have value : ∀ e ∈ [value], Operand ed e :=
      List.forall_mem_singleton.mpr (.argument first)
    exact .flat (List.cons_ne_nil _ _) (List.forall_mem_singleton.mpr value)
      (List.forall_mem_singleton.mpr rfl) (not_hasBody (by decide))
  next =>
    obtain ⟨name, _, made⟩ := Gives.bind made
    obtain ⟨value, first, made⟩ := made.bind
    obtain rfl := made.pure
    have value : ∀ e ∈ [value], Operand ed e :=
      List.forall_mem_singleton.mpr (.argument first)
    have echo : ∀ e ∈ [Expr.var name], Operand ed e :=
      List.forall_mem_singleton.mpr (.echo name)
    exact .flat (List.cons_ne_nil _ _)
      (List.forall_mem_cons.mpr ⟨value, List.forall_mem_singleton.mpr echo⟩)
      (List.forall_mem_cons.mpr ⟨rfl, List.forall_mem_singleton.mpr rfl⟩) (not_hasBody (by decide))
  next =>
    split at made
    next spec _ =>
      obtain ⟨args, given, made⟩ := made.bind
      obtain rfl := made.pure
      have plain : type ∉ bodyTypes := by
        simp only [bodyTypes, List.mem_cons, List.not_mem_nil, or_false]
        rintro (_ | _ | _ | _ | _ | _ | _ | _ | _) <;> contradiction
      exact .flat (List.cons_ne_nil _ _) (List.forall_mem_singleton.mpr (arguments_gives given))
        (List.forall_mem_singleton.mpr rfl) (not_hasBody plain)
    next => exact absurd made Gives.stop

/-- What an arm, or the other case, is compiled to is among the statements of the block. -/
theorem within_ladder {arms : List (Expr × List Stmt)} {otherwise : List Stmt} {id : Value}
    {s : Stmt} (inside : (∃ b ∈ arms, s.Within b.2) ∨ s.Within otherwise) :
    s.Within (ladder arms otherwise id) := by
  induction arms with
  | nil =>
    obtain ⟨b, none, _⟩ | inside := inside
    · exact absurd none List.not_mem_nil
    · exact inside
  | cons arm arms ih =>
    refine .deeper (List.mem_singleton_self _) ?_
    have others (inside : (∃ b ∈ arms, s.Within b.2) ∨ s.Within otherwise) :=
      (ih inside).mono (List.subset_append_right arm.2 (ladder arms otherwise id))
    obtain ⟨b, listed, inside⟩ | inside := inside
    · obtain rfl | listed := List.mem_cons.mp listed
      · exact inside.mono (List.subset_append_left _ _)
      · exact others (.inl ⟨b, listed, inside⟩)
    · exact others (.inr inside)

theorem Arms.lt_length_iff {arms : List (Expr × List Stmt)} {otherwise : List Stmt}
    (h : Arms ed depth es arms otherwise) {i : Nat} :
    i < arms.length ↔ ∀ j ≤ i, conditionName j ∈ es.inputNames := by
  constructor
  · exact fun low j below => h.named j (Nat.lt_of_le_of_lt below low)
  · exact fun named => Nat.lt_of_not_le fun high => h.ends (named _ high)

theorem statement_body (made : (statement ed depth type es).Gives stmts)
    (bodied : es.HasBody type name) :
    ∃ inner, (body ed depth es name).Gives inner ∧ ∀ s, Stmt.Within s inner → s.Within stmts := by
  have plain (other : type ≠ "controls_if") : ∃ inner, (body ed depth es name).Gives inner ∧
      ∀ s, Stmt.Within s inner → s.Within stmts := by
    obtain ⟨inner, compiled, t, member, among⟩ := (statement_parts made other).outer name bodied
    exact ⟨inner, compiled, fun s inside => .deeper member (inside.mono among)⟩
  cases bodied with
  | repeats member | counts member =>
    refine plain ?_
    rintro rfl
    exact absurd member (by decide)
  | goesThrough | compared => exact plain (by decide)
  | arm named =>
    obtain ⟨arms, otherwise, compiled, _, rfl⟩ := statement_branches made
    have low := compiled.lt_length_iff.mpr named
    exact ⟨_, compiled.statements _ low, fun s inside =>
      within_ladder (.inl ⟨_, List.getElem_mem low, inside⟩)⟩
  | otherwise =>
    obtain ⟨arms, otherwise, compiled, _, rfl⟩ := statement_branches made
    exact ⟨otherwise, compiled.otherwise, fun s inside => within_ladder (.inr inside)⟩

/-- The statements of a block that is compiled with another one are among those of the other. -/
theorem chain_stacked {block : Value} (stacked : Stacked block es)
    (made : (chain ed depth block).Gives stmts) :
    ∃ depth type own, Value.lookup es "type" = some (.text type) ∧
      (statement ed depth type es).Gives own ∧ ∀ s, Stmt.Within s own → s.Within stmts := by
  -- Each step outward only adds statements: after those of the block, before them or around them.
  induction stacked generalizing depth stmts with
  | self enabled =>
    obtain ⟨type, own, rest, typed, rfl, first, _⟩ := chain_gives made
    exact ⟨depth, type, own, typed, first enabled, fun s inside =>
      inside.mono (List.subset_append_left own rest)⟩
  | follows after _ ih =>
    obtain ⟨_, own, rest, _, rfl, _, others⟩ := chain_gives made
    obtain ⟨depth, type, inner, typed, compiled, within⟩ := ih (others _ after)
    exact ⟨depth, type, inner, typed, compiled, fun s inside =>
      (within s inside).mono (List.subset_append_right own rest)⟩
  | plugged enabled typed bodied into _ ih =>
    obtain ⟨_, own, rest, same, rfl, first, _⟩ := chain_gives made
    cases typed.symm.trans same
    obtain ⟨part, compiled, among⟩ := statement_body (first enabled) bodied
    obtain ⟨depth, type, inner, typed, compiled, within⟩ := ih (body_gives compiled into)
    exact ⟨depth, type, inner, typed, compiled, fun s inside =>
      (among s (within s inside)).mono (List.subset_append_left own rest)⟩

/-- The statements of the first top block, none if it is missing, and those of the others. -/
theorem allStatements_parts {block : Value} {rest : List Value}
    (made : (allStatements ed (block :: rest)).Gives stmts) :
    ∃ own others, stmts = own ++ others ∧ (allStatements ed rest).Gives others ∧
      ((block.isNull = true ∧ own = []) ∨
        (block.isNull = false ∧ (chain ed 0 block).Gives own)) := by
  rw [allStatements] at made
  have onward {own : List Stmt} (made : Gives (do
      return own ++ (← allStatements ed rest)) stmts) :
      ∃ others, (allStatements ed rest).Gives others ∧ stmts = own ++ others := by
    obtain ⟨others, last, made⟩ := made.bind
    exact ⟨others, last, made.pure.symm⟩
  split at made
  next null =>
    obtain ⟨own, none, made⟩ := made.bind
    obtain ⟨others, last, same⟩ := onward made
    exact ⟨own, others, same, last, .inl ⟨null, none.pure.symm⟩⟩
  next filled =>
    obtain ⟨own, first, made⟩ := made.bind
    obtain ⟨others, last, same⟩ := onward made
    exact ⟨own, others, same, last, .inr ⟨by simpa using filled, first⟩⟩

theorem allStatements_gives {blocks : List Value} (made : (allStatements ed blocks).Gives stmts)
    {top : Value} (member : top ∈ blocks) (filled : top.isNull = false) :
    ∃ own, (chain ed 0 top).Gives own ∧ own ⊆ stmts := by
  induction blocks generalizing stmts with
  | nil => cases member
  | cons block rest ih =>
    obtain ⟨own, others, rfl, last, first⟩ := allStatements_parts made
    obtain rfl | later := List.mem_cons.mp member
    · obtain ⟨null, _⟩ | ⟨_, first⟩ := first
      · cases filled.symm.trans null
      · exact ⟨own, first, List.subset_append_left own others⟩
    · obtain ⟨inner, compiled, among⟩ := ih last later
      exact ⟨inner, compiled, List.Subset.trans among (List.subset_append_right own others)⟩

/-- A branching block of a compiled program has an arm for each number below the first that is
missing among its conditions. So it has one for all that is plugged into it exactly if no number
below is missing. -/
theorem compiled_branches {workspace : Value} {d : Domain} {p : Program} {warnings : List String}
    (compiled : compileBlocks workspace d = .ok (.done p warnings)) {w : Workspace}
    (read : Workspace.ofValue workspace = .ok w) {top : Value} (member : top ∈ w.blocks)
    {es : BlockEntries} (stacked : Stacked top es)
    (typed : Value.lookup es "type" = some (.text "controls_if")) :
    ∃ depth arms otherwise, Arms ⟨d, w.names⟩ depth es arms otherwise ∧ arms ≠ [] ∧
      (∀ s ∈ ladder arms otherwise es.id, s.Within p.statements) ∧
      (∀ i, i < arms.length ↔ ∀ j ≤ i, conditionName j ∈ es.inputNames) ∧
      ((∀ i, es.Filled i → i < arms.length) ↔
        ∀ i, es.Filled i → ∀ j ≤ i, conditionName j ∈ es.inputNames) := by
  have filled : top.isNull = false := by
    cases stacked <;> rfl
  obtain ⟨_, count, same, ran⟩ := compileBlocks_eq_done compiled
  cases same.symm.trans read
  obtain ⟨stmts, chained, among⟩ := allStatements_gives ⟨0, count, ran⟩ member filled
  obtain ⟨depth, type, own, same, made, within⟩ := chain_stacked stacked chained
  cases typed.symm.trans same
  obtain ⟨arms, otherwise, divided, some, rfl⟩ := statement_branches made
  refine ⟨depth, arms, otherwise, divided, some,
    fun s listed => (within s (.here listed)).mono among, fun i => divided.lt_length_iff, ?_⟩
  exact forall_congr' fun i => imp_congr_right fun _ => divided.lt_length_iff

/-- A workspace of a single block is compiled to the statements of the block. -/
theorem compileBlocks_single {d : Domain} {k : Nat}
    (typed : Value.lookup es "type" = some (.text type))
    (enabled : Value.lookup es "enabled" = none) (last : es.next? = .ok none) (some : stmts ≠ [])
    (made : statement ⟨d, []⟩ 0 type es = fun n => .ok (stmts, n + k)) :
    compileBlocks (.dict es) d = .ok (.done ⟨stmts, k⟩ []) := by
  have chained : chain ⟨d, []⟩ 0 (.dict es) = fun n => .ok (stmts, n + k) := by
    unfold chain
    dsimp only
    rw [typed, enabled]
    dsimp only
    rw [made, last]
    rfl
  have ran : (allStatements ⟨d, []⟩ [.dict es]).run 0 = .ok (stmts, k) := by
    simp only [allStatements, chained]
    change Except.ok (stmts ++ [], 0 + k) = _
    rw [List.append_nil, Nat.zero_add]
  have listed : Workspace.ofValue (.dict es) = .ok { blocks := [.dict es] } := by
    unfold Workspace.ofValue
    dsimp only
    rw [typed]
    rfl
  have full : stmts.isEmpty = false := by simpa using some
  unfold compileBlocks Block.program
  rw [listed]
  simp only [ok_bind, ran]
  change Except.ok (Compilation.done _ (if stmts.isEmpty = true then _ else _)) = _
  rw [full]
  rfl

/-- One condition and its body, and perhaps a second body whose condition is missing. -/
def guarded (extra : Bool) : BlockEntries :=
  let child (type : String) (fields : List (String × Value)) : Value :=
    .dict [("block", .dict [("type", .text type), ("fields", .dict fields)])]
  let second : List (String × Value) := if extra then [("DO1", child "turn_left" [])] else []
  [("type", "controls_if"), ("id", "b1"), ("inputs", .dict
    (("IF0", child "logic_boolean" [("BOOL", "TRUE")]) :: ("DO0", child "move_forward" []) ::
      second))]

theorem inputNames_guarded (extra : Bool) : (guarded extra).inputNames =
    conditionName 0 :: bodyName 0 :: if extra then [bodyName 1] else [] := by
  cases extra <;> rfl

theorem conditionName_mem_guarded {extra : Bool} {i : Nat} :
    conditionName i ∈ (guarded extra).inputNames ↔ i = 0 := by
  rw [inputNames_guarded]
  cases extra <;>
    simp [conditionName_injective.eq_iff, conditionName_ne_bodyName]

/-- The second body makes no difference. -/
theorem guarded_compiled (extra : Bool) :
    compileBlocks (.dict (guarded extra)) .robot = .ok (.done
      ⟨[.branch (.literal (.bool true)) [.call "move_forward" [] .null] [] "b1"], 3⟩ []) := by
  have condition : argument ⟨.robot, []⟩ 0 "controls_if" (guarded extra) s!"IF{natText 0}" none =
      fun n => .ok (.literal (.bool true), n + 1) := by
    unfold argument expression
    cases extra <;> rfl
  have forward : body ⟨.robot, []⟩ 0 (guarded extra) s!"DO{natText 0}" =
      fun n => .ok ([.call "move_forward" [] .null], n + 1) := by
    unfold body chain statement arguments
    cases extra <;> rfl
  have nothing : body ⟨.robot, []⟩ 0 (guarded extra) "ELSE" = fun n => .ok ([], n) := by
    unfold body
    cases extra <;> rfl
  have branched : branches ⟨.robot, []⟩ 0 "controls_if" (guarded extra) [0] = fun n =>
      .ok ([(.literal (.bool true), [.call "move_forward" [] .null])], n + 2) := by
    simp only [branches, condition, forward]
    rfl
  have read : (guarded extra).conditions = .ok [0] := by
    cases extra <;> cbv
  have lifted : (lift (.ok [0]) : Compiling (List Nat)) = pure [0] := rfl
  have made : statement ⟨.robot, []⟩ 0 "controls_if" (guarded extra) = fun n =>
      .ok ([.branch (.literal (.bool true)) [.call "move_forward" [] .null] [] "b1"], n + 3) := by
    rw [statement_controlsIf, read, nothing]
    simp only [lifted, pure_bind, branched]
    rfl
  exact compileBlocks_single rfl rfl rfl (List.cons_ne_nil _ _) made

theorem stacked_guarded (extra : Bool) : Stacked (.dict (guarded extra)) (guarded extra) :=
  .self nofun

/-- Without the second body all that is plugged in is there. -/
theorem compiled_branches_guarded :
    let p : Program :=
      ⟨[.branch (.literal (.bool true)) [.call "move_forward" [] .null] [] "b1"], 3⟩
    compileBlocks (.dict (guarded false)) .robot = .ok (.done p []) ∧
      ∃ depth arms otherwise, Arms ⟨.robot, []⟩ depth (guarded false) arms otherwise ∧
        (∀ s ∈ ladder arms otherwise "b1", s.Within p.statements) ∧
        ∀ i, (guarded false).Filled i → i < arms.length := by
  intro p
  obtain ⟨depth, arms, otherwise, made, _, within, _, kept⟩ :=
    compiled_branches (guarded_compiled false) (w := { blocks := [.dict (guarded false)] }) rfl
      (List.mem_singleton_self _) (stacked_guarded false) rfl
  refine ⟨guarded_compiled false, depth, arms, otherwise, made, within, kept.mpr ?_⟩
  intro i filled j low
  obtain rfl : i = 0 := by
    obtain ⟨_, into⟩ | ⟨_, into⟩ := filled
    · exact conditionName_mem_guarded.mp (mem_inputNames into)
    · have listed := mem_inputNames into
      rw [inputNames_guarded] at listed
      simpa [bodyName_injective.eq_iff, (conditionName_ne_bodyName _ _).symm] using listed
  exact conditionName_mem_guarded.mpr (Nat.le_zero.mp low)

/-- A turn is plugged in as the second body. The block has no arm for it, and the program does not
turn. -/
theorem not_within_guarded :
    let p : Program :=
      ⟨[.branch (.literal (.bool true)) [.call "move_forward" [] .null] [] "b1"], 3⟩
    compileBlocks (.dict (guarded true)) .robot = .ok (.done p []) ∧
      Stacked (.dict (guarded true)) (guarded true) ∧
      Value.lookup (guarded true) "type" = some (.text "controls_if") ∧
      (guarded true).Filled 1 ∧
      (∀ depth arms otherwise, Arms ⟨.robot, []⟩ depth (guarded true) arms otherwise →
        arms.length ≤ 1) ∧
      (body ⟨.robot, []⟩ 0 (guarded true) (bodyName 1)).Gives [.call "turn_left" [] .null] ∧
      ¬Stmt.Within (.call "turn_left" [] .null) p.statements := by
  intro p
  refine ⟨guarded_compiled true, stacked_guarded true, rfl, .inr ⟨_, rfl⟩, ?_, ⟨0, 1, ?_⟩, ?_⟩
  · intro depth arms otherwise made
    by_contra many
    exact absurd (conditionName_mem_guarded.mp (made.named 1 (Nat.lt_of_not_le many)))
      Nat.one_ne_zero
  · unfold body chain statement arguments
    rfl
  · intro inside
    cases inside with
    | here member => cases List.mem_singleton.mp member
    | deeper member deep =>
      cases List.mem_singleton.mp member
      cases deep with
      | here member => exact absurd (List.mem_singleton.mp member) (by simp)
      | deeper member none =>
        cases List.mem_singleton.mp member
        cases none with
        | here member | deeper member => cases member

end Block

end PuzzleWorlds
