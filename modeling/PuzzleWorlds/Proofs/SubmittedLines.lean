import PuzzleWorlds.Level.Check
import PuzzleWorlds.Proofs.NumericTexts
import PuzzleWorlds.Script.Submission

/-! The lines of the text that is sent away. What stands before a script ends with its own last line
and has no carriage return, so the lines of the text are those of the preamble and, after them,
those of the script. -/

namespace PuzzleWorlds

namespace Script

/-- The lines of a text whose only line ends are line feeds; the last one may be missing. -/
def cut : List Char → List (List Char)
  | [] => []
  | c :: rest =>
    if c == '\n' then [] :: cut rest
    else match cut rest with
      | [] => [[c]]
      | line :: lines => (c :: line) :: lines

/-- The lines of a script, as it is read. -/
def lines (s : String) : List (List Char) :=
  if s.toList = [] then [] else cut (unifyLineEnds s.toList)

/-- The text is empty or ends with a line feed. -/
def Whole (cs : List Char) : Prop := cs = [] ∨ ∃ before, cs = before ++ ['\n']

theorem Whole.of_cons {c : Char} {cs : List Char} (h : Whole (c :: cs)) : Whole cs := by
  obtain ⟨⟨⟩⟩ | ⟨before, parts⟩ := h
  cases before with
  | nil =>
    cases parts
    exact .inl rfl
  | cons _ before =>
    cases parts
    exact .inr ⟨before, rfl⟩

theorem Whole.mem {cs : List Char} (h : Whole cs) (some : cs ≠ []) : '\n' ∈ cs := by
  obtain rfl | ⟨before, rfl⟩ := h
  · exact absurd rfl some
  · exact List.mem_append_right _ List.mem_cons_self

/-- Whole lines are cut by themselves. -/
theorem cut_append {cs : List Char} (whole : Whole cs) (rest : List Char) :
    cut (cs ++ rest) = cut cs ++ cut rest ∧ (cut cs).length = cs.count '\n' := by
  induction cs with
  | nil => exact ⟨rfl, rfl⟩
  | cons c cs ih =>
    obtain ⟨same, length⟩ := ih whole.of_cons
    by_cases ends : c = '\n'
    · subst ends
      refine ⟨congrArg ([] :: ·) same, ?_⟩
      rw [List.count_cons_self, ← length]
      rfl
    · have later : '\n' ∈ cs :=
        (List.mem_cons.mp (whole.mem (List.cons_ne_nil _ _))).resolve_left (Ne.symm ends)
      have some : 0 < (cut cs).length := length ▸ List.count_pos_iff.mpr later
      obtain ⟨line, others, parts⟩ := List.exists_cons_of_length_pos some
      have other : (c == '\n') = false := beq_eq_false_iff_ne.mpr ends
      rw [List.count_cons_of_ne ends, ← length]
      simp only [List.cons_append, cut, other, same, parts]
      exact ⟨rfl, rfl⟩

theorem unifyLineEnds_cons {c : Char} (other : c ≠ '\r') {cs : List Char} (more : cs ≠ []) :
    unifyLineEnds (c :: cs) = c :: unifyLineEnds cs := by
  rw [unifyLineEnds]
  all_goals simp [other, more]

theorem unifyLineEnds_append {cs : List Char} (plain : '\r' ∉ cs) {rest : List Char}
    (more : rest ≠ []) : unifyLineEnds (cs ++ rest) = cs ++ unifyLineEnds rest := by
  induction cs with
  | nil => rfl
  | cons c cs ih =>
    rw [List.mem_cons, not_or] at plain
    have some := List.append_ne_nil_of_right_ne_nil cs more
    rw [List.cons_append, unifyLineEnds_cons (Ne.symm plain.1) some, ih plain.2, List.cons_append]

/-- The text holds no carriage return. -/
def Plain (s : String) : Prop := '\r' ∉ s.toList

theorem plain_ofList {cs : List Char} (plain : '\r' ∉ cs) : Plain (String.ofList cs) := by
  rwa [Plain, String.toList_ofList]

theorem Plain.append {s t : String} (first : Plain s) (second : Plain t) : Plain (s ++ t) := by
  rw [Plain, String.toList_append, List.mem_append, not_or]
  exact ⟨first, second⟩

theorem plain_intercalate {sep : String} (plain : Plain sep) {l : List String}
    (all : ∀ s ∈ l, Plain s) : Plain (sep.intercalate l) := by
  induction l with
  | nil => exact @plain_ofList [] List.not_mem_nil
  | cons s l ih =>
    obtain ⟨first, others⟩ := List.forall_mem_cons.mp all
    cases l with
    | nil => exact first
    | cons t l =>
      rw [String.intercalate_cons_cons]
      exact (first.append plain).append (ih others)

theorem plain_joinLines {l : List String} (all : ∀ s ∈ l, Plain s) : Plain (joinLines l) :=
  plain_intercalate (plain_ofList (by decide)) all

theorem plain_intText (n : Int) : Plain (intText n) := by
  intro member
  rw [Json.toList_intText] at member
  obtain sign | digit := List.mem_append.mp member
  · split at sign <;> simp at sign
  · cases Json.isDigit_of_mem_natDigits digit

theorem mem_hexDigits {width n : Nat} {c : Char} (h : c ∈ hexDigits width n) :
    ∃ k < 16, c = hexDigit k := by
  induction width generalizing n with
  | zero => cases h
  | succ width ih =>
    obtain high | low := List.mem_append.mp h
    · exact ih high
    · exact ⟨n % 16, Nat.mod_lt _ (by decide), List.mem_singleton.mp low⟩

theorem plain_hexDigits (width n : Nat) : '\r' ∉ hexDigits width n := by
  intro member
  obtain ⟨k, small, same⟩ := mem_hexDigits member
  have other : ∀ k < 16, '\r' ≠ hexDigit k := by decide
  exact other k small same

theorem plain_escapeCode (c : Char) : '\r' ∉ escapeCode c := by
  have coded {mark : Char} (other : '\r' ≠ mark) (width : Nat) :
      '\r' ∉ '\\' :: mark :: hexDigits width c.toNat := by
    simp [other, plain_hexDigits]
  unfold escapeCode
  split
  next => exact coded (by decide) 2
  next =>
    split
    next => exact coded (by decide) 4
    next => exact coded (by decide) 8

theorem plain_escapeChar {quote : Char} (other : quote ≠ '\r') (c : Char) :
    '\r' ∉ escapeChar quote c := by
  unfold escapeChar
  split
  next marked =>
    intro member
    obtain rfl : '\r' = c := by simpa using member
    simp [Ne.symm other] at marked
  next =>
    split
    next => decide
    next =>
      split
      next => decide
      next return_ =>
        split
        next => decide
        next =>
          split
          next =>
            intro member
            exact return_ (beq_iff_eq.mpr (List.mem_singleton.mp member).symm)
          next => exact plain_escapeCode c

theorem plain_quoted (s : String) : Plain (quoted s) := by
  have other : quoteOf s.toList ≠ '\r' := by
    unfold quoteOf
    split <;> decide
  refine plain_ofList fun member => ?_
  obtain opening | rest := List.mem_cons.mp member
  · exact other opening.symm
  obtain inside | closing := List.mem_append.mp rest
  · obtain ⟨c, _, escaped⟩ := List.mem_flatMap.mp inside
    exact plain_escapeChar other c escaped
  · exact other (List.mem_singleton.mp closing).symm

theorem plain_spec {d : Domain} (c : d.Command) :
    ∀ s ∈ (Domain.commandSpec c).allNames, Plain s := by
  cases d
  all_goals
    cases c
    all_goals
      repeat refine List.forall_mem_cons.mpr ⟨plain_ofList (by decide), ?_⟩
      exact List.forall_mem_nil _

theorem plain_commandHelper {c : CommandSpec} (names : ∀ s ∈ c.allNames, Plain s) :
    Plain (commandHelper c) := by
  obtain ⟨name, aliases⟩ := List.forall_mem_cons.mp names
  have opening : Plain "\ndef " := plain_ofList (by decide)
  have body : Plain "(*args):\n    _emit(" := plain_ofList (by decide)
  have closing : Plain ", args)\n" := plain_ofList (by decide)
  have equals : Plain " = " := plain_ofList (by decide)
  have lineEnd : Plain "\n" := plain_ofList (by decide)
  have function := (((opening.append name).append body).append (plain_quoted c.name)).append closing
  unfold commandHelper
  dsimp only
  split
  next => exact function
  next =>
    have equations := plain_intercalate equals aliases
    exact (function.append equations).append ((equals.append name).append lineEnd)

theorem plain_join {l : List String} (all : ∀ s ∈ l, Plain s) : Plain (String.join l) := by
  induction l with
  | nil => exact @plain_ofList [] List.not_mem_nil
  | cons s l ih =>
    obtain ⟨first, others⟩ := List.forall_mem_cons.mp all
    rw [String.join_cons]
    exact first.append (ih others)

theorem plain_helpers (d : Domain) : Plain (helpers d) := by
  have emit : Plain emitHelper := by
    have opening : Plain
        "import builtins as _builtins\nimport json as _json\n\n\ndef _emit(name, args):\n" :=
      plain_ofList (by decide)
    have printing : Plain "    _builtins.print(\"" := plain_ofList (by decide)
    have marker : Plain Event.marker := plain_ofList (by decide)
    have closing : Plain
        " \" + _json.dumps(\x7b\"name\": name, \"args\": list(args)\x7d), flush=True)\n" :=
      plain_ofList (by decide)
    exact ((opening.append printing).append marker).append closing
  refine emit.append (plain_join fun s member => ?_)
  obtain ⟨spec, chosen, rfl⟩ := List.mem_map.mp member
  obtain ⟨c, _, rfl⟩ := List.mem_map.mp (List.mem_filter.mp chosen).1
  exact plain_commandHelper (plain_spec c)

theorem plain_shortcuts {command : String} {names : List (String × String)}
    (plain : Plain command) (all : ∀ e ∈ names, Plain e.1 ∧ Plain e.2) :
    Plain (Domain.shortcuts command names) := by
  refine plain_joinLines fun s member => ?_
  obtain ⟨⟨name, argument⟩, listed, rfl⟩ := List.mem_map.mp member
  obtain ⟨first, second⟩ := all _ listed
  have opening : Plain "def " := plain_ofList (by decide)
  have body : Plain "(): " := plain_ofList (by decide)
  have quote : Plain "(\"" := plain_ofList (by decide)
  have closing : Plain "\")" := plain_ofList (by decide)
  have function := ((opening.append first).append body).append plain
  exact ((function.append quote).append second).append closing

theorem plain_sharedPrelude (d : Domain) : Plain d.sharedPrelude := by
  have nothing : Plain "" := @plain_ofList [] List.not_mem_nil
  have named {names : List (String × String)} (all : ∀ e ∈ names, Plain e.1) :
      ∀ e ∈ (names.map (·.1)).map fun n => (n, n), Plain e.1 ∧ Plain e.2 := by
    intro e member
    obtain ⟨n, listed, rfl⟩ := List.mem_map.mp member
    obtain ⟨e, known, rfl⟩ := List.mem_map.mp listed
    exact ⟨all e known, all e known⟩
  cases d with
  | robot | sorting | combat | sprite => exact nothing
  | building =>
    refine plain_shortcuts (plain_ofList (by decide)) (named ?_)
    repeat refine List.forall_mem_cons.mpr ⟨plain_ofList (by decide), ?_⟩
    exact List.forall_mem_nil _
  | pixel =>
    refine plain_shortcuts (plain_ofList (by decide)) (named ?_)
    repeat refine List.forall_mem_cons.mpr ⟨plain_ofList (by decide), ?_⟩
    exact List.forall_mem_nil _
  | music =>
    refine plain_shortcuts (plain_ofList (by decide)) ?_
    repeat
      refine List.forall_mem_cons.mpr
        ⟨⟨plain_ofList (by decide), plain_ofList (by decide)⟩, ?_⟩
    exact List.forall_mem_nil _
  | math =>
    refine plain_joinLines ?_
    repeat refine List.forall_mem_cons.mpr ⟨plain_ofList (by decide), ?_⟩
    exact List.forall_mem_nil _

theorem plain_reprItems (l : List Int) : ∀ s ∈ Value.reprItems (l.map .int), Plain s := by
  induction l with
  | nil => exact List.forall_mem_nil _
  | cons n l ih => exact List.forall_mem_cons.mpr ⟨plain_intText n, ih⟩

theorem plain_unitLiteral {kind : String} (plain : Plain kind) (u : Combat.UnitConfig) :
    Plain (Combat.unitLiteral kind u) := by
  have comma : Plain ", " := plain_ofList (by decide)
  have opening : Plain "(" := plain_ofList (by decide)
  have closing : Plain ")" := plain_ofList (by decide)
  have identifier := ((plain.append opening).append (plain_quoted u.id)).append comma
  have column := ((identifier.append (plain_quoted u.name)).append comma).append (plain_intText u.x)
  have row := (column.append comma).append (plain_intText u.y)
  have health := ((row.append comma).append (plain_intText u.hp)).append comma
  have strength := ((plain_intText u.attack).append comma).append (plain_intText u.range)
  exact health.append (strength.append closing)

theorem plain_shelf (l : Sorting.Level) : Plain (Sorting.prelude l) := by
  have opening : Plain "ramuan = potions = " := plain_ofList (by decide)
  have bracket : Plain "[" := plain_ofList (by decide)
  have closing : Plain "]" := plain_ofList (by decide)
  have comma : Plain ", " := plain_ofList (by decide)
  have items := plain_intercalate comma (plain_reprItems l.potions)
  unfold Sorting.prelude
  refine plain_joinLines (List.forall_mem_cons.mpr
    ⟨opening.append ((bracket.append items).append closing), ?_⟩)
  repeat refine List.forall_mem_cons.mpr ⟨plain_ofList (by decide), ?_⟩
  exact List.forall_mem_nil _

theorem plain_arena (l : Combat.Level) : Plain (Combat.prelude l) := by
  have opening : Plain "pahlawan = hero = " := plain_ofList (by decide)
  have indent : Plain "    " := plain_ofList (by decide)
  have comma : Plain ",\n" := plain_ofList (by decide)
  have hero : Plain ("pahlawan = hero = " ++ Combat.unitLiteral "Pahlawan" l.hero) :=
    opening.append (plain_unitLiteral (plain_ofList (by decide)) l.hero)
  have enemies : Plain (",\n".intercalate (l.enemies.map fun e =>
      "    " ++ Combat.unitLiteral "Musuh" e)) := by
    refine plain_intercalate comma fun s member => ?_
    obtain ⟨e, _, rfl⟩ := List.mem_map.mp member
    exact indent.append (plain_unitLiteral (plain_ofList (by decide)) e)
  unfold Combat.prelude
  refine plain_joinLines ?_
  simp only [List.forall_mem_cons]
  and_intros
  all_goals first
    | with_reducible assumption
    | exact plain_ofList (by decide)
    | exact List.forall_mem_nil _

theorem plain_prelude : {d : Domain} → (l : d.Level) → Plain (Domain.prelude l)
  | .sorting, l => plain_shelf l
  | .combat, l => plain_arena l
  | .building, _ => plain_sharedPrelude .building
  | .pixel, _ => plain_sharedPrelude .pixel
  | .music, _ => plain_sharedPrelude .music
  | .math, _ => plain_sharedPrelude .math
  | .robot, _ | .sprite, _ => plain_sharedPrelude .robot

theorem plain_preamble {d : Domain} (l : d.Level) : Plain (preamble d (Domain.prelude l)) := by
  refine plain_joinLines (List.forall_mem_cons.mpr ⟨plain_helpers d,
    List.forall_mem_cons.mpr ⟨plain_prelude l, ?_⟩⟩)
  repeat refine List.forall_mem_cons.mpr ⟨plain_ofList (by decide), ?_⟩
  exact List.forall_mem_nil _

theorem whole_preamble (d : Domain) (prelude : String) : Whole (preamble d prelude).toList := by
  refine .inr ⟨(joinLines [helpers d, prelude, "", banner]).toList, ?_⟩
  simp [preamble, joinLines, String.intercalate_cons_cons]

/-- The banner and the blank line before it end lines, and so do the functions before them. -/
theorem four_le_countLines (d : Domain) (prelude : String) :
    4 ≤ countLines (preamble d prelude) := by
  have parts (a b c e : String) : 4 ≤ countLines (joinLines [a, b, c, e, ""]) := by
    simp [countLines, joinLines, String.intercalate_cons_cons]
    omega
  exact parts _ _ _ _

/-- Every line ends with a character of its own. -/
theorem countLines_le (s : String) : countLines s ≤ s.utf8ByteSize := by
  rw [countLines, ← String.utf8Len_toList]
  induction s.toList with
  | nil => exact Nat.le_refl _
  | cons c cs ih =>
    have size := c.utf8Size_pos
    rw [List.count_cons, String.utf8Len_cons]
    split <;> omega

theorem compileScript_eq_done {d : Domain} {l : d.Level} {source : String} {p : Submission}
    {warnings : List String} (compiled : compileScript source l = .ok (.done p warnings)) :
    ∃ calls, p = submission d (Domain.prelude l) source calls := by
  unfold compileScript compile at compiled
  split at compiled
  next => cases compiled
  next =>
    split at compiled
    next => cases compiled
    next =>
      split at compiled
      next => cases compiled
      next t _ =>
        cases compiled
        exact ⟨_, rfl⟩

/-- A text that ends with its own last line keeps its lines, whatever comes after it. -/
theorem lines_append {s : String} (plain : Plain s) (whole : Whole s.toList) (rest : String) :
    lines (s ++ rest) = cut s.toList ++ lines rest := by
  unfold lines
  rw [String.toList_append]
  unfold Plain at plain
  generalize s.toList = cs at plain whole
  generalize rest.toList = others
  obtain rfl | ⟨before, parts⟩ := whole
  · rfl
  have some : cs ≠ [] := parts ▸ List.append_ne_nil_of_right_ne_nil _ (List.cons_ne_nil _ _)
  rw [if_neg (List.append_ne_nil_of_left_ne_nil some others)]
  by_cases none : others = []
  · have ended : unifyLineEnds cs = cs := by
      rw [parts] at plain ⊢
      exact unifyLineEnds_append (fun member => plain (List.mem_append_left _ member))
        (List.cons_ne_nil _ _)
    rw [if_pos none, none, List.append_nil, List.append_nil, ended]
  · rw [if_neg none, unifyLineEnds_append plain none]
    exact (cut_append (.inr ⟨before, parts⟩) _).1

/-- The lines of the preamble come before those of the script, and nothing else does. -/
theorem lines_submission {d : Domain} (l : d.Level) (source : String) (calls : Nat) :
    ∃ before, lines (submission d (Domain.prelude l) source calls).text = before ++ lines source ∧
      before.length = (submission d (Domain.prelude l) source calls).lineOffset := by
  have plain := plain_preamble l
  have whole := whole_preamble d (Domain.prelude l)
  unfold submission countLines
  dsimp only
  generalize preamble d (Domain.prelude l) = s at plain whole
  exact ⟨cut s.toList, lines_append plain whole source,
    (cut_append whole []).2⟩

end Script

end PuzzleWorlds
