import PuzzleWorlds.Proofs.DroppedBranches

/-! How deeply compiled programs are nested. A compilation counts the bodies that it is inside of
and the values that are plugged into one another, and stops at the limit. An else-if is inside no
body of its block, but it is compiled to a statement in the other case of the one before; so the
arms of a branching block stand deeper and deeper, and this is not counted. -/

namespace PuzzleWorlds

namespace Expr

mutual

/-- The levels of an expression tree. -/
def levels : Expr → Nat
  | literal _ | var _ | unknown _ => 1
  | binary _ a b | compare _ a b | logic _ a b => max a.levels b.levels + 1
  | not a => a.levels + 1
  | query _ args => levelsAll args + 1
  | field target _ => target.levels + 1

def levelsAll : List Expr → Nat
  | [] => 0
  | e :: rest => max e.levels (levelsAll rest)

end

end Expr

namespace Stmt

/-- A statement is inside so many bodies, or other cases, of others. -/
inductive Nested (s : Stmt) : Nat → List Stmt → Prop
  | here {stmts : List Stmt} (member : s ∈ stmts) : Nested s 0 stmts
  | deeper {t : Stmt} {n : Nat} {stmts : List Stmt} (member : t ∈ stmts)
    (inside : Nested s n t.inner) : Nested s (n + 1) stmts

namespace Nested

variable {s : Stmt} {n : Nat} {body stmts : List Stmt}

theorem mono (h : s.Nested n body) (sub : body ⊆ stmts) : s.Nested n stmts := by
  cases h with
  | here member => exact .here (sub member)
  | deeper member inside => exact .deeper (sub member) inside

theorem of_append (h : s.Nested n (body ++ stmts)) : s.Nested n body ∨ s.Nested n stmts := by
  cases h with
  | here member => exact (List.mem_append.mp member).imp .here .here
  | deeper member inside =>
    exact (List.mem_append.mp member).imp (.deeper · inside) (.deeper · inside)

theorem not_nil : ¬s.Nested n [] := by
  rintro (member | ⟨member, _⟩) <;> cases member

end Nested

end Stmt

namespace Compiling

/-- Of what is not looked at nothing is known. -/
theorem Leads.any (x : Compiling α) : Leads (fun _ => True) (fun _ => True) x :=
  ⟨fun _ _ _ _ => trivial, fun _ _ _ => trivial⟩

theorem Leads.weaken {P : Misfit → Prop} {Q R : α → Prop} {x : Compiling α} (h : Leads P Q x)
    (weaker : ∀ a, Q a → R a) : Leads P R x :=
  ⟨fun n a n' done => weaker a (h.1 n a n' done), h.2⟩

theorem Leads.gives {P : Misfit → Prop} {Q : α → Prop} {x : Compiling α} (h : Leads P Q x) {a : α}
    (made : x.Gives a) : Q a := by
  obtain ⟨n, n', done⟩ := made
  exact h.1 n a n' done

end Compiling

namespace Block

open Compiling BlockEntries

mutual

/-- An argument read at `depth` has one level for every depth left, and one more for the value
that stands at the last of them. -/
theorem argument_levels (ed : Editor) (depth : Nat) (type : String) (es : BlockEntries)
    (name : String) (default : Option Value) (low : depth ≤ maxNesting) :
    Compiling.Leads (fun _ => True) (fun e => e.levels + depth ≤ maxNesting + 1)
      (argument ed depth type es name default) := by
  have literal (v : Value) : (Expr.literal v).levels + depth ≤ maxNesting + 1 := by
    rw [Expr.levels]
    omega
  unfold argument
  refine (Leads.any _).bind fun plugged _ => ?_
  split
  next child inside =>
    split
    next => exact .stop _ _
    next deeper =>
      have room : depth + 1 ≤ maxNesting := Nat.not_lt.mp deeper
      exact (expression_levels ed (depth + 1) child room).weaken fun e levels => by omega
  next =>
    refine (Leads.any _).bind fun given _ => ?_
    split
    next => exact .pure (literal _)
    next =>
      split
      next => exact .pure (literal _)
      next => exact .stop _ _
termination_by (sizeOf es, 0, 0)

theorem arguments_levels (ed : Editor) (depth : Nat) (type : String) (es : BlockEntries)
    (low : depth ≤ maxNesting) : (as : List BlockArg) →
    Compiling.Leads (fun _ => True) (fun args => Expr.levelsAll args + depth ≤ maxNesting + 1)
      (arguments ed depth type es as)
  | [] => by
    rw [arguments]
    refine .pure ?_
    rw [Expr.levelsAll]
    omega
  | a :: rest => by
    rw [arguments]
    refine (argument_levels ed depth type es a.name _ low).bind fun e first =>
      (arguments_levels ed depth type es low rest).bind fun es others => .pure ?_
    rw [Expr.levelsAll]
    omega
termination_by as => (sizeOf es, 1, as.length)

theorem expression_levels (ed : Editor) (depth : Nat) (block : Value) (low : depth ≤ maxNesting) :
    Compiling.Leads (fun _ => True) (fun e => e.levels + depth ≤ maxNesting + 2)
      (expression ed depth block) := by
  unfold expression
  split
  next es =>
    split
    next type _ =>
      refine Leads.countBlock.bind fun _ _ => ?_
      have arg (name : String) (default : Option Value) :=
        argument_levels ed depth type es name default low
      have leaf {e : Expr} (flat : e.levels = 1) : e.levels + depth ≤ maxNesting + 2 := by omega
      have two (a b : Option Value) (node : Expr → Expr → Expr)
          (levels : ∀ l r, (node l r).levels = max l.levels r.levels + 1) :
          Compiling.Leads (fun _ => True) (fun e => e.levels + depth ≤ maxNesting + 2) (do
            let l ← argument ed depth type es "A" a
            let r ← argument ed depth type es "B" b
            return node l r) := by
        refine (arg "A" a).bind fun l first => (arg "B" b).bind fun r second => .pure ?_
        rw [levels]
        omega
      have operation (op : Operator) (a b : Option Value) := two a b (.binary op.symbol)
        fun _ _ => by rw [Expr.levels]
      have comparison (op : Value.Comparison) := two none none (.compare op.symbol)
        fun _ _ => by rw [Expr.levels]
      dsimp only
      split
      next => exact (Leads.any _).bind fun _ _ => .pure (leaf rfl)
      next => exact (Leads.any _).bind fun _ _ => (Leads.any _).bind fun _ _ => .pure (leaf rfl)
      next => exact (Leads.any _).bind fun _ _ => (Leads.any _).bind fun _ _ => .pure (leaf rfl)
      next => exact (Leads.any _).bind fun _ _ => .pure (leaf rfl)
      next =>
        refine (Leads.any _).bind fun _ _ => (Leads.any _).bind fun _ _ => ?_
        split
        next => exact .stop _ _
        next op _ => exact operation op _ _
      next =>
        refine (Leads.any _).bind fun _ _ => (Leads.any _).bind fun _ _ => ?_
        split
        next => exact .stop _ _
        next op _ => exact comparison op
      next =>
        refine (Leads.any _).bind fun _ _ => (Leads.any _).bind fun _ _ => ?_
        split
        next => exact .stop _ _
        next op _ => exact comparison op
      next =>
        refine (Leads.any _).bind fun _ _ => (Leads.any _).bind fun _ _ => ?_
        exact .ite (two none none _ fun _ _ => by rw [Expr.levels]) (.stop _ _)
      next =>
        refine (arg "BOOL" none).bind fun e operand => .pure ?_
        rw [Expr.levels]
        omega
      next =>
        refine (arg "UNIT" none).bind fun e target => (Leads.any _).bind fun _ _ =>
          (Leads.any _).bind fun _ _ => .pure ?_
        rw [Expr.levels]
        omega
      next =>
        split
        next op _ => exact operation op _ _
        next =>
          split
          next spec _ =>
            split
            next =>
              refine (arguments_levels ed depth type es low spec.args).bind fun args all =>
                .pure ?_
              rw [Expr.levels]
              omega
            next => exact .stop _ _
          next => exact .stop _ _
    next => exact .stop _ _
  next => exact .stop _ _
termination_by (sizeOf block, 2, 0)

end

variable {ed : Editor} {depth : Nat} {type name : String} {es : BlockEntries}

theorem levels_operand {e : Expr} (h : Operand ed e) : e.levels ≤ maxNesting + 1 := by
  cases h with
  | argument made => exact (argument_levels ed 0 _ _ _ _ (Nat.zero_le _)).gives made
  | echo name =>
    rw [Expr.levels]
    decide

section Ladders

variable {arms : List (Expr × List Stmt)} {otherwise : List Stmt} {id : Value} {s : Stmt}
  {n : Nat}

/-- Each arm stands one level below the one before, and the other case below them all. -/
theorem nested_of_drop {i : Nat} (low : i ≤ arms.length)
    (h : s.Nested n (ladder (arms.drop i) otherwise id)) :
    s.Nested (n + i) (ladder arms otherwise id) := by
  induction i generalizing arms with
  | zero => exact h
  | succ i ih =>
    cases arms with
    | nil => exact absurd low (Nat.not_succ_le_zero i)
    | cons arm arms =>
      have below := ih (Nat.le_of_succ_le_succ low) h
      exact .deeper (List.mem_singleton_self _) (below.mono (List.subset_append_right _ _))

theorem exists_nested_arm (low : n < arms.length) :
    ∃ s, Stmt.Nested s n (ladder arms otherwise id) := by
  obtain ⟨s, first⟩ : ∃ s, Stmt.Nested s 0 (ladder (arms.drop n) otherwise id) := by
    rw [List.drop_eq_getElem_cons low]
    exact ⟨_, .here (List.mem_singleton_self _)⟩
  have below := nested_of_drop (Nat.le_of_lt low) first
  rw [Nat.zero_add] at below
  exact ⟨s, below⟩

theorem nested_arm {i : Nat} (low : i < arms.length) (h : s.Nested n arms[i].2) :
    s.Nested (n + 1 + i) (ladder arms otherwise id) := by
  refine nested_of_drop (Nat.le_of_lt low) ?_
  rw [List.drop_eq_getElem_cons low]
  exact .deeper (List.mem_singleton_self _) (h.mono (List.subset_append_left _ _))

theorem nested_otherwise (h : s.Nested n otherwise) :
    s.Nested (n + arms.length) (ladder arms otherwise id) := by
  refine nested_of_drop (Nat.le_refl _) ?_
  rwa [List.drop_length]

/-- Nothing else stands in a ladder. -/
theorem nested_ladder (h : s.Nested n (ladder arms otherwise id)) :
    (∃ low : n < arms.length, s.exprs = [arms[n].1]) ∨
    (∃ (i : Nat) (low : i < arms.length) (m : Nat), s.Nested m arms[i].2 ∧ n = m + 1 + i) ∨
    ∃ m, s.Nested m otherwise ∧ n = m + arms.length := by
  induction arms generalizing n with
  | nil => exact .inr (.inr ⟨n, h, rfl⟩)
  | cons arm arms ih =>
    cases h with
    | here member =>
      cases List.mem_singleton.mp member
      exact .inl ⟨Nat.zero_lt_succ _, rfl⟩
    | deeper member inside =>
      cases List.mem_singleton.mp member
      obtain first | others := inside.of_append
      · exact .inr (.inl ⟨0, Nat.zero_lt_succ _, _, first, rfl⟩)
      obtain ⟨low, exprs⟩ | ⟨i, low, m, inner, rfl⟩ | ⟨m, inner, rfl⟩ := ih others
      · exact .inl ⟨Nat.succ_lt_succ low, exprs⟩
      · exact .inr (.inl ⟨i + 1, Nat.succ_lt_succ low, m, inner, rfl⟩)
      · exact .inr (.inr ⟨m, inner, rfl⟩)

end Ladders

/-- The else-ifs that come before a body of the block. -/
inductive Passes (es : BlockEntries) : String → String → Nat → Prop
  | body {type name : String} (other : type ≠ "controls_if") (bodied : es.HasBody type name) :
    Passes es type name 0
  | arm {i : Nat} (named : ∀ j ≤ i, conditionName j ∈ es.inputNames) :
    Passes es "controls_if" (bodyName i) i
  | otherwise {i : Nat} (named : ∀ j ≤ i, conditionName j ∈ es.inputNames)
    (last : conditionName (i + 1) ∉ es.inputNames) : Passes es "controls_if" "ELSE" i

/-- An enabled block, or one of its else-ifs, is reached from another one through so many bodies
and past so many else-ifs. -/
inductive Reaches : Value → Nat → Nat → Prop
  | self {es : BlockEntries} (enabled : es.Enabled) : Reaches (.dict es) 0 0
  | elseIf {es : BlockEntries} {i : Nat} (enabled : es.Enabled)
    (typed : Value.lookup es "type" = some (.text "controls_if"))
    (named : ∀ j ≤ i, conditionName j ∈ es.inputNames) : Reaches (.dict es) 0 i
  | follows {es : BlockEntries} {next : Inside es} {bodies elseIfs : Nat}
    (after : es.next? = .ok (some next)) (part : Reaches next.1 bodies elseIfs) :
    Reaches (.dict es) bodies elseIfs
  | plugged {es : BlockEntries} {type name : String} {child : Inside es} {i bodies elseIfs : Nat}
    (enabled : es.Enabled) (typed : Value.lookup es "type" = some (.text type))
    (passes : Passes es type name i) (into : es.plugged? name = .ok (some child))
    (part : Reaches child.1 bodies elseIfs) : Reaches (.dict es) (bodies + 1) (elseIfs + i)

/-- What stands inside the statements of a block, and how far in. -/
theorem statement_nested {own : List Stmt} (made : (statement ed depth type es).Gives own)
    {s : Stmt} {n : Nat} (nested : s.Nested n own) :
    ((∀ e ∈ s.exprs, Operand ed e) ∧
      (n = 0 ∨ (type = "controls_if" ∧ ∀ j ≤ n, conditionName j ∈ es.inputNames))) ∨
    ∃ name i part m, Passes es type name i ∧ (body ed depth es name).Gives part ∧
      s.Nested m part ∧ n = m + 1 + i := by
  by_cases numbered : type = "controls_if"
  · subst numbered
    obtain ⟨arms, otherwise, divided, some, rfl⟩ := statement_branches made
    obtain ⟨low, exprs⟩ | ⟨i, low, m, inside, rfl⟩ | ⟨m, inside, rfl⟩ := nested_ladder nested
    · refine .inl ⟨?_, .inr ⟨rfl, divided.lt_length_iff.mp low⟩⟩
      rw [exprs]
      exact List.forall_mem_singleton.mpr (.argument (divided.condition n low))
    · exact .inr ⟨_, i, _, m, .arm (divided.lt_length_iff.mp low), divided.statements i low,
        inside, rfl⟩
    · obtain ⟨i, length⟩ : ∃ i, arms.length = i + 1 :=
        Nat.exists_eq_succ_of_ne_zero (List.length_pos_of_ne_nil some).ne'
      have named := divided.lt_length_iff.mp (by omega : i < arms.length)
      have passes : Passes es "controls_if" "ELSE" i := .otherwise named (length ▸ divided.ends)
      exact .inr ⟨_, i, _, m, passes, divided.otherwise, inside, by omega⟩
  · have parts := statement_parts made numbered
    cases nested with
    | here member => exact .inl ⟨parts.values s member, .inl rfl⟩
    | deeper member inside =>
      cases inside with
      | here below =>
        obtain ⟨name, part, bodied, compiled, listed⟩ := parts.inner _ member _ below
        exact .inr ⟨name, 0, part, 0, .body numbered bodied, compiled, .here listed, rfl⟩
      | deeper below deep =>
        obtain ⟨name, part, bodied, compiled, listed⟩ := parts.inner _ member _ below
        exact .inr ⟨name, 0, part, _, .body numbered bodied, compiled, .deeper listed deep, rfl⟩

/-- A body stands one level below the last else-if before it. -/
theorem statement_passes {own : List Stmt} (made : (statement ed depth type es).Gives own)
    {i : Nat} (passes : Passes es type name i) :
    ∃ part, (body ed depth es name).Gives part ∧
      ∀ s n, Stmt.Nested s n part → s.Nested (n + 1 + i) own := by
  cases passes with
  | body other bodied =>
    obtain ⟨part, compiled, s, member, inside⟩ := (statement_parts made other).outer name bodied
    exact ⟨part, compiled, fun _ _ nested => .deeper member (nested.mono inside)⟩
  | arm named =>
    obtain ⟨arms, otherwise, divided, _, rfl⟩ := statement_branches made
    have low := divided.lt_length_iff.mpr named
    exact ⟨_, divided.statements i low, fun _ _ nested => nested_arm low nested⟩
  | otherwise named last =>
    obtain ⟨arms, otherwise, divided, _, rfl⟩ := statement_branches made
    have low := divided.lt_length_iff.mpr named
    have length : arms.length = 1 + i := by
      rw [Nat.add_comm]
      exact Nat.le_antisymm (Nat.not_lt.mp fun more => last (divided.named _ more)) low
    refine ⟨_, divided.otherwise, fun s n nested => ?_⟩
    have below : s.Nested (n + arms.length) (ladder arms otherwise es.id) :=
      nested_otherwise nested
    rwa [length, ← Nat.add_assoc] at below

theorem statement_ne_nil {own : List Stmt} (made : (statement ed depth type es).Gives own) :
    own ≠ [] := by
  by_cases numbered : type = "controls_if"
  · subst numbered
    obtain ⟨arms, otherwise, _, some, rfl⟩ := statement_branches made
    cases arms with
    | nil => exact absurd rfl some
    | cons => exact List.cons_ne_nil _ _
  · exact (statement_parts made numbered).filled

/-- What stands in a compiled stack is reached from its first block. -/
theorem reaches_of_nested {block : Value} {stmts : List Stmt}
    (made : (chain ed depth block).Gives stmts) {s : Stmt} {n : Nat} (nested : s.Nested n stmts) :
    (∃ bodies elseIfs, Reaches block bodies elseIfs ∧ n = bodies + elseIfs) ∧
      ∀ e ∈ s.exprs, Operand ed e := by
  -- What follows a block and what is plugged into it are smaller.
  induction size : sizeOf block using Nat.strongRecOn generalizing block depth stmts n with
  | ind size ih =>
  subst size
  cases block with
  | dict es =>
    have smaller (inner : Inside es) : sizeOf inner.1 < sizeOf (Value.dict es) := by
      have within := inner.2
      rw [Value.dict.sizeOf_spec]
      omega
    obtain ⟨type, own, rest, typed, rfl, first, last⟩ := chain_parts made
    obtain here | later := nested.of_append
    · obtain ⟨enabled, compiled⟩ | ⟨_, rfl⟩ := first
      · obtain ⟨values, rfl | ⟨rfl, named⟩⟩ | ⟨name, i, part, m, passes, compiled, inside, rfl⟩ :=
          statement_nested compiled here
        · exact ⟨⟨0, 0, .self enabled, rfl⟩, values⟩
        · exact ⟨⟨0, n, .elseIf enabled typed named, (Nat.zero_add n).symm⟩, values⟩
        · obtain ⟨_, rfl⟩ | ⟨child, into, _, compiled⟩ := body_parts compiled
          · exact absurd inside Stmt.Nested.not_nil
          · obtain ⟨⟨bodies, elseIfs, part, rfl⟩, values⟩ :=
              ih _ (smaller child) compiled inside rfl
            exact ⟨⟨bodies + 1, elseIfs + i, .plugged enabled typed passes into part, by omega⟩,
              values⟩
      · exact absurd here Stmt.Nested.not_nil
    · obtain ⟨_, rfl⟩ | ⟨next, after, compiled⟩ := last
      · exact absurd later Stmt.Nested.not_nil
      · obtain ⟨⟨bodies, elseIfs, part, same⟩, values⟩ := ih _ (smaller next) compiled later rfl
        exact ⟨⟨bodies, elseIfs, .follows after part, same⟩, values⟩
  | _ =>
    unfold chain at made
    exact absurd made Gives.stop

/-- What is reached from the first block of a stack stands in what the stack is compiled to. -/
theorem Reaches.nested {block : Value} {bodies elseIfs : Nat} (h : Reaches block bodies elseIfs)
    {stmts : List Stmt} (low : depth ≤ maxNesting) (made : (chain ed depth block).Gives stmts) :
    depth + bodies ≤ maxNesting ∧ ∃ s, Stmt.Nested s (bodies + elseIfs) stmts := by
  induction h generalizing depth stmts with
  | self enabled =>
    obtain ⟨type, own, rest, typed, rfl, first, _⟩ := chain_gives made
    obtain ⟨s, member⟩ := List.exists_mem_of_ne_nil own (statement_ne_nil (first enabled))
    exact ⟨low, s, .here (List.mem_append_left rest member)⟩
  | @elseIf es i enabled typed named =>
    obtain ⟨_, own, rest, same, rfl, first, _⟩ := chain_gives made
    cases typed.symm.trans same
    obtain ⟨arms, otherwise, divided, _, rfl⟩ := statement_branches (first enabled)
    obtain ⟨s, nested⟩ := exists_nested_arm (divided.lt_length_iff.mpr named)
    refine ⟨low, s, ?_⟩
    rw [Nat.zero_add]
    exact nested.mono (List.subset_append_left _ rest)
  | follows after _ ih =>
    obtain ⟨_, own, rest, _, rfl, _, others⟩ := chain_gives made
    obtain ⟨few, s, nested⟩ := ih low (others _ after)
    exact ⟨few, s, nested.mono (List.subset_append_right own rest)⟩
  | @plugged es type name child i bodies elseIfs enabled typed passes into _ ih =>
    obtain ⟨_, own, rest, same, rfl, first, _⟩ := chain_gives made
    cases typed.symm.trans same
    obtain ⟨part, compiled, among⟩ := statement_passes (first enabled) passes
    obtain ⟨none, _⟩ | ⟨_, there, room, compiled⟩ := body_parts compiled
    · cases none.symm.trans into
    cases there.symm.trans into
    obtain ⟨few, s, nested⟩ := ih room compiled
    have here := (among s _ nested).mono (List.subset_append_left own rest)
    have sum : bodies + elseIfs + 1 + i = bodies + 1 + (elseIfs + i) := by omega
    exact ⟨by omega, s, sum ▸ here⟩

theorem exists_top_of_nested {blocks : List Value} {stmts : List Stmt}
    (made : (allStatements ed blocks).Gives stmts) {s : Stmt} {n : Nat}
    (nested : s.Nested n stmts) :
    ∃ top ∈ blocks, ∃ own, (chain ed 0 top).Gives own ∧ s.Nested n own := by
  induction blocks generalizing stmts with
  | nil =>
    rw [allStatements] at made
    obtain rfl := made.pure
    exact absurd nested Stmt.Nested.not_nil
  | cons block rest ih =>
    obtain ⟨own, others, rfl, last, first⟩ := allStatements_parts made
    obtain here | later := nested.of_append
    · obtain ⟨_, rfl⟩ | ⟨_, first⟩ := first
      · exact absurd here Stmt.Nested.not_nil
      · exact ⟨block, List.mem_cons_self, own, first, here⟩
    · obtain ⟨top, member, compiled⟩ := ih last later
      exact ⟨top, List.mem_cons_of_mem block member, compiled⟩

theorem Reaches.isNull {block : Value} {bodies elseIfs : Nat} (h : Reaches block bodies elseIfs) :
    block.isNull = false := by
  cases h <;> rfl

/-- The expressions of a compiled program are within the limit, and so are the bodies on the way to
any of its statements. The statements themselves stand as deep as there are bodies and else-ifs on
the way; so they are within the limit exactly if these are so together. -/
theorem compiled_nesting {workspace : Value} {d : Domain} {p : Program} {warnings : List String}
    (compiled : compileBlocks workspace d = .ok (.done p warnings)) {w : Workspace}
    (read : Workspace.ofValue workspace = .ok w) :
    (∀ s n, Stmt.Nested s n p.statements → ∀ e ∈ s.exprs, e.levels ≤ maxNesting + 1) ∧
    (∀ top ∈ w.blocks, ∀ bodies elseIfs, Reaches top bodies elseIfs → bodies ≤ maxNesting) ∧
    (∀ n, (∃ s, Stmt.Nested s n p.statements) ↔
      ∃ top ∈ w.blocks, ∃ bodies elseIfs, Reaches top bodies elseIfs ∧ n = bodies + elseIfs) ∧
    ((∀ s n, Stmt.Nested s n p.statements → n ≤ maxNesting) ↔
      ∀ top ∈ w.blocks, ∀ bodies elseIfs, Reaches top bodies elseIfs →
        bodies + elseIfs ≤ maxNesting) := by
  obtain ⟨_, count, same, ran⟩ := compileBlocks_eq_done compiled
  cases same.symm.trans read
  have made : (allStatements ⟨d, w.names⟩ w.blocks).Gives p.statements := ⟨0, count, ran⟩
  have inward {s : Stmt} {n : Nat} (nested : s.Nested n p.statements) :
      (∃ top ∈ w.blocks, ∃ bodies elseIfs, Reaches top bodies elseIfs ∧ n = bodies + elseIfs) ∧
        ∀ e ∈ s.exprs, e.levels ≤ maxNesting + 1 := by
    obtain ⟨top, member, own, chained, here⟩ := exists_top_of_nested made nested
    obtain ⟨⟨bodies, elseIfs, reached, sum⟩, values⟩ := reaches_of_nested chained here
    exact ⟨⟨top, member, bodies, elseIfs, reached, sum⟩, fun e given =>
      levels_operand (values e given)⟩
  have outward {top : Value} (member : top ∈ w.blocks) {bodies elseIfs : Nat}
      (reached : Reaches top bodies elseIfs) :
      bodies ≤ maxNesting ∧ ∃ s, Stmt.Nested s (bodies + elseIfs) p.statements := by
    obtain ⟨own, chained, among⟩ := allStatements_gives made member reached.isNull
    obtain ⟨few, s, nested⟩ := reached.nested (Nat.zero_le maxNesting) chained
    exact ⟨Nat.zero_add bodies ▸ few, s, nested.mono among⟩
  refine ⟨fun s n nested => (inward nested).2, fun top member _ _ reached =>
    (outward member reached).1, fun n => ⟨fun ⟨s, nested⟩ => (inward nested).1, ?_⟩, ?_, ?_⟩
  · rintro ⟨top, member, bodies, elseIfs, reached, rfl⟩
    exact (outward member reached).2
  · intro within top member bodies elseIfs reached
    obtain ⟨s, nested⟩ := (outward member reached).2
    exact within s _ nested
  · intro within s n nested
    obtain ⟨top, member, bodies, elseIfs, reached, rfl⟩ := (inward nested).1
    exact within top member bodies elseIfs reached

/-- What is plugged into an arm stands one level down. -/
theorem compiled_nesting_guarded :
    let p : Program :=
      ⟨[.branch (.literal (.bool true)) [.call "move_forward" [] .null] [] "b1"], 3⟩
    compileBlocks (.dict (guarded false)) .robot = .ok (.done p []) ∧
      Reaches (.dict (guarded false)) 1 0 ∧ ∃ s, Stmt.Nested s 1 p.statements := by
  intro p
  have named : ∀ j ≤ 0, conditionName j ∈ (guarded false).inputNames := fun j low =>
    conditionName_mem_guarded.mpr (Nat.le_zero.mp low)
  have enabled : (guarded false).Enabled := nofun
  have forward : Reaches (.dict (guarded false)) 1 0 :=
    .plugged enabled rfl (.arm named) rfl (.self nofun)
  obtain ⟨_, _, stands, _⟩ :=
    compiled_nesting (guarded_compiled false) (w := { blocks := [.dict (guarded false)] }) rfl
  exact ⟨guarded_compiled false, forward,
    (stands 1).mpr ⟨_, List.mem_singleton_self _, 1, 0, forward, rfl⟩⟩

section Rungs

/-- A condition that always holds, as a block that is plugged in. -/
def always : BlockEntries := [("type", "logic_boolean"), ("fields", .dict [("BOOL", "TRUE")])]

/-- The conditions of a block that has no bodies. -/
def rungInputs (k : Nat) : BlockEntries :=
  (List.range k).map fun i => (conditionName i, .dict [("block", .dict always)])

/-- A branching block with so many conditions. -/
def rungs (k : Nat) : BlockEntries :=
  [("type", "controls_if"), ("id", "b1"), ("inputs", .dict (rungInputs k))]

theorem inputs_rungs (k : Nat) : Value.lookup (rungs k) "inputs" = some (.dict (rungInputs k)) :=
  rfl

variable {k : Nat}

theorem lookup_rungs {i : Nat} (low : i < k) :
    Value.lookup (rungInputs k) (conditionName i) = some (.dict [("block", .dict always)]) := by
  have some : ((List.range k).find? fun j => conditionName j == conditionName i).isSome = true :=
    List.find?_isSome.mpr ⟨i, List.mem_range.mpr low, beq_self_eq_true _⟩
  obtain ⟨j, found⟩ := Option.isSome_iff_exists.mp some
  have searched : ((fun e : String × Value => e.1 == conditionName i) ∘ fun j =>
      (conditionName j, Value.dict [("block", .dict always)])) =
      fun j => conditionName j == conditionName i := rfl
  rw [rungInputs, Value.lookup, List.find?_map, searched, found]
  rfl

theorem lookup_rungs_other {name : String} (other : ∀ i, name ≠ conditionName i) :
    Value.lookup (rungInputs k) name = none := by
  rw [Value.lookup, Option.map_eq_none_iff, List.find?_eq_none]
  intro e member
  obtain ⟨i, _, rfl⟩ := List.mem_map.mp member
  simpa using (other i).symm

theorem argument_rungs {i : Nat} (low : i < k) : argument ⟨.robot, []⟩ 0 "controls_if" (rungs k)
    (conditionName i) none = fun n => .ok (.literal (.bool true), n + 1) := by
  obtain ⟨child, into, same⟩ := plugged?_eq_some (inputs_rungs k) (lookup_rungs low) rfl rfl
  unfold argument
  rw [into]
  change expression ⟨.robot, []⟩ 1 child.1 = _
  rw [same]
  unfold expression
  rfl

theorem body_rungs {name : String} (some : k ≠ 0) (other : ∀ i, name ≠ conditionName i) :
    body ⟨.robot, []⟩ 0 (rungs k) name = fun n => .ok ([], n) := by
  have filled : rungInputs k ≠ [] := by simpa [rungInputs] using some
  have nothing := plugged?_eq_none (inputs_rungs k) filled (lookup_rungs_other other)
  unfold body
  rw [nothing]
  rfl

theorem branches_rungs (some : k ≠ 0) {is : List Nat} (low : ∀ i ∈ is, i < k) :
    branches ⟨.robot, []⟩ 0 "controls_if" (rungs k) is = fun n =>
      .ok (is.map fun _ => (.literal (.bool true), []), n + is.length) := by
  induction is with
  | nil =>
    rw [branches]
    rfl
  | cons i is ih =>
    obtain ⟨first, others⟩ := List.forall_mem_cons.mp low
    have condition : argument ⟨.robot, []⟩ 0 "controls_if" (rungs k) s!"IF{natText i}" none = _ :=
      argument_rungs first
    have empty : body ⟨.robot, []⟩ 0 (rungs k) s!"DO{natText i}" = _ :=
      body_rungs some fun j => (conditionName_ne_bodyName j i).symm
    rw [branches, condition, empty, ih others]
    funext n
    change Except.ok _ = _
    rw [List.length_cons, Nat.add_comm is.length 1, ← Nat.add_assoc]
    rfl

theorem conditionName_mem_rungs {i : Nat} :
    conditionName i ∈ (rungInputs k).map (·.1) ↔ i < k := by
  simp [rungInputs, conditionName_injective.eq_iff]

theorem conditions_rungs (some : k ≠ 0) : (rungs k).conditions = .ok (List.range k) := by
  have named (name : String) : ((rungInputs k).any fun e => e.1 == name) = true ↔
      name ∈ (rungInputs k).map (·.1) := by
    simp
  obtain ⟨n, searched, before, missing⟩ := takeWhile_names named
  obtain rfl : n = k := by
    refine Nat.le_antisymm (Nat.not_lt.mp fun more => ?_) (Nat.not_lt.mp fun less => ?_)
    · exact absurd (conditionName_mem_rungs.mp (before k more)) (Nat.lt_irrefl k)
    · exact missing (conditionName_mem_rungs.mpr less)
  have counts : ¬(!(Value.dict (rungInputs n)).truthy) = true := by
    simpa [Value.truthy, rungInputs] using some
  rw [List.length_map] at searched
  unfold conditions
  change (if (!(Value.dict (rungInputs n)).truthy) = true then _ else Except.ok _) = _
  rw [if_neg counts]
  exact congrArg Except.ok searched

/-- The arms that so many conditions make. -/
def rungArms (k : Nat) : List (Expr × List Stmt) :=
  (List.range k).map fun _ => (.literal (.bool true), [])

theorem length_rungArms (k : Nat) : (rungArms k).length = k := by
  rw [rungArms, List.length_map, List.length_range]

theorem statement_rungs (some : k ≠ 0) : statement ⟨.robot, []⟩ 0 "controls_if" (rungs k) =
    fun n => .ok (ladder (rungArms k) [] "b1", n + 1 + k) := by
  have branched := branches_rungs some fun i member => List.mem_range.mp member
  have otherwise : body ⟨.robot, []⟩ 0 (rungs k) "ELSE" = _ :=
    body_rungs some fun i same => by
      have letters := congrArg (fun s : String => s.toList.head?) same
      simp [conditionName, toString] at letters
  have lifted : (lift (.ok (List.range k)) : Compiling (List Nat)) = pure (List.range k) := rfl
  have full : (rungArms k).isEmpty = false := by simpa [rungArms] using some
  rw [statement_controlsIf, conditions_rungs some, otherwise, lifted]
  simp only [pure_bind, branched]
  funext n
  change (if (rungArms k).isEmpty = true then _ else _ : Compiling (List Stmt)) _ = _
  rw [full, List.length_range]
  rfl

/-- However many conditions there are, the block is compiled, and each stands one level deeper. -/
theorem exists_nested_rungs (n : Nat) :
    ∃ p : Program, compileBlocks (.dict (rungs (n + 1))) .robot = .ok (.done p []) ∧
      ∃ s, Stmt.Nested s n p.statements := by
  have arms : n < (rungArms (n + 1)).length := by
    rw [length_rungArms]
    exact Nat.lt_succ_self n
  obtain ⟨s, nested⟩ := exists_nested_arm arms
  have full : ladder (rungArms (n + 1)) [] "b1" ≠ [] := by
    rw [rungArms, List.range_succ_eq_map]
    exact List.cons_ne_nil _ _
  have made := statement_rungs (Nat.succ_ne_zero n)
  simp only [Nat.add_assoc] at made
  exact ⟨_, compileBlocks_single rfl rfl rfl full made, s, nested⟩

/-- With 102 conditions the last one stands too deep. -/
theorem compiled_nesting_exceeded :
    ∃ p : Program, compileBlocks (.dict (rungs 102)) .robot = .ok (.done p []) ∧
      ∃ s n, Stmt.Nested s n p.statements ∧ maxNesting < n := by
  obtain ⟨p, compiled, s, nested⟩ := exists_nested_rungs 101
  exact ⟨p, compiled, s, 101, nested, by decide⟩

end Rungs

end Block

end PuzzleWorlds
