import PuzzleWorlds.Proofs.CompiledPrograms

/-! Compiling whatever a workspace holds. The compilation ends with a program or with a report on
the block at fault, unless the workspace itself or one of its blocks has a part of a wrong kind
where its shape is taken for granted; then it is stopped by what that part leads to. -/

namespace PuzzleWorlds

namespace Workspace

/-- What of a workspace is of a wrong kind, and what it leads to. -/
inductive Flaw (d : Domain) : Value → Misfit → Prop
  /-- The variables cannot be gone through. -/
  | variables {es : List (String × Value)} (single : Value.lookup es "type" = none) {v : Value}
    (given : Value.lookup es "variables" = some v) (counts : v.truthy = true)
    (other : v.parts? = none) : Flaw d (.dict es) (.notIterable v.typeName)
  /-- A variable is declared under what cannot be a key. -/
  | identifier {es entry : List (String × Value)} (single : Value.lookup es "type" = none)
    {v id : Value} {items : List Value} (given : Value.lookup es "variables" = some v)
    (listed : v.parts? = some items) (member : .dict entry ∈ items)
    (declared : Value.lookup entry "id" = some id) {m : Misfit} (unhashable : id.keyed = .error m) :
    Flaw d (.dict es) m
  /-- A block has a flaw. -/
  | block {workspace : Value} {w : Workspace} (read : ofValue workspace = .ok w) {top : Value}
    (member : top ∈ w.blocks) {m : Misfit} (flawed : Block.Flawed d top m) : Flaw d workspace m

theorem variablesOf_eq_error {items : List Value} {vars : List (Value × Value)} {m : Misfit}
    (failed : variablesOf items vars = .error m) :
    ∃ entry id, .dict entry ∈ items ∧ Value.lookup entry "id" = some id ∧ id.keyed = .error m := by
  induction items generalizing vars with
  | nil => cases failed
  | cons v rest ih =>
    have later {vars : List (Value × Value)} (failed : variablesOf rest vars = .error m) :
        ∃ entry id, .dict entry ∈ v :: rest ∧ Value.lookup entry "id" = some id ∧
          id.keyed = .error m := by
      obtain ⟨entry, id, member, declared⟩ := ih failed
      exact ⟨entry, id, List.mem_cons_of_mem v member, declared⟩
    unfold variablesOf at failed
    split at failed
    next entry =>
      split at failed
      next id name declared _ =>
        obtain unhashable | ⟨_, _, failed⟩ := bind_eq_error.mp failed
        · exact ⟨entry, id, List.mem_cons_self, declared, unhashable⟩
        · exact later failed
      next => exact later failed
    next => exact later failed

theorem liftMisfit_eq_misfit {x : Except Misfit α} {m : Misfit}
    (failed : ofValue.liftMisfit x = .error (.misfit m)) : x = .error m := by
  cases x with
  | ok => cases failed
  | error m' =>
    cases failed
    rfl

theorem ofValue_eq_misfit {d : Domain} {workspace : Value} {m : Misfit}
    (failed : ofValue workspace = .error (.misfit m)) : Flaw d workspace m := by
  unfold ofValue at failed
  split at failed
  next => cases failed
  next es =>
    dsimp only at failed
    split at failed
    next => cases failed
    next several =>
      have single : Value.lookup es "type" = none := Option.not_isSome_iff_eq_none.mp several
      split at failed
      next counts =>
        have given := BlockEntries.lookup_of_get counts
        generalize BlockEntries.get es "variables" = v at given counts failed
        obtain unlisted | ⟨items, listed, failed⟩ := bind_eq_error.mp failed
        · have unlisted := liftMisfit_eq_misfit unlisted
          unfold Value.parts at unlisted
          split at unlisted
          next => cases unlisted
          next other =>
            cases unlisted
            exact .variables single given counts other
        · obtain undeclared | ⟨names, _, failed⟩ := bind_eq_error.mp failed
          · obtain ⟨entry, id, member, declared, unhashable⟩ :=
              variablesOf_eq_error (liftMisfit_eq_misfit undeclared)
            have listed : v.parts? = some items := by
              unfold Value.parts at listed
              split at listed
              next parts =>
                cases listed
                exact parts
              next => cases listed
            exact .identifier single given listed member declared unhashable
          · split at failed
            next => cases failed
            next => cases failed
      next =>
        split at failed
        next => cases failed
        next => cases failed
  next => cases failed

end Workspace

/-- Whatever the workspace is, there is a program, or a report of a compilation that failed, unless
the workspace has a flaw that stops the compilation. -/
theorem compileBlocks_ends (workspace : Value) (d : Domain) :
    (∃ p warnings, compileBlocks workspace d = .ok (.done p warnings)) ∨
      (∃ report, compileBlocks workspace d = .ok (.failed report) ∧ report.kind = .compileError) ∨
      ∃ m, compileBlocks workspace d = .error m ∧ Workspace.Flaw d workspace m := by
  unfold compileBlocks
  cases made : Block.program d workspace with
  | ok p => exact .inl ⟨_, _, rfl⟩
  | error stopped =>
    cases stopped with
    | problem what id => exact .inr (.inl ⟨_, rfl, rfl⟩)
    | misfit m =>
      refine .inr (.inr ⟨m, rfl, ?_⟩)
      obtain unread | ⟨w, read, failed⟩ := bind_eq_error.mp made
      · exact Workspace.ofValue_eq_misfit unread
      · obtain failed | ⟨_, _, failed⟩ := bind_eq_error.mp failed
        · obtain ⟨top, member, flawed⟩ :=
            (Block.allStatements_leads ⟨d, w.names⟩ w.blocks).2 0 m failed
          exact .block read member flawed
        · cases failed

/-- Inputs that are a list stop a compilation without a report. -/
theorem compileBlocks_stops_list :
    compileBlocks (.dict [("type", "repeat_times"), ("inputs", .list [1])]) .robot =
      .error (.noAttribute "list" "get") := by
  have read : Workspace.ofValue (.dict [("type", "repeat_times"), ("inputs", .list [1])]) =
    .ok { blocks := [.dict [("type", "repeat_times"), ("inputs", .list [1])]] } := rfl
  have stopped : Block.chain ⟨.robot, []⟩ 0
      (.dict [("type", "repeat_times"), ("inputs", .list [1])]) =
        fun _ => .error (.misfit (.noAttribute "list" "get")) := by
    unfold Block.chain Block.statement
    simp only [Block.argument]
    rfl
  unfold compileBlocks Block.program
  rw [read]
  simp only [ok_bind, Block.allStatements, stopped]
  rfl

end PuzzleWorlds
