import PuzzleWorlds.Proofs.MappedAnswers
import PuzzleWorlds.Proofs.SubmittedLines

/-! The line that an error of a script is reported at. A traceback names a line of the text that was
sent away, and the report names the line of the script; but the number is looked for in the whole
error output, the message of the exception included, and the last one counts. -/

namespace PuzzleWorlds

namespace Executor

/-- What is printed when line `n` of a text raised an exception: a heading, the line and what was
raised. -/
def traceback (n : Nat) (name message : String) : String :=
  "Traceback (most recent call last):\n  File \"script.py\", " ++
    ("line " ++ (natText n ++ (", in <module>\n" ++ (name ++ ": " ++ message))))

theorem lineNumerals_cons {c : Char} (other : c ≠ 'l') (cs : List Char) :
    lineNumerals (c :: cs) = lineNumerals cs := by
  have apart : "line ".toList.isPrefixOf (c :: cs) = false := by
    simp [List.isPrefixOf, Ne.symm other]
  rw [lineNumerals, apart]

theorem lineNumerals_skip {cs : List Char} (other : ∀ c ∈ cs, c ≠ 'l') (rest : List Char) :
    lineNumerals (cs ++ rest) = lineNumerals rest := by
  induction cs with
  | nil => rfl
  | cons c cs ih =>
    obtain ⟨here, others⟩ := List.forall_mem_cons.mp other
    exact (lineNumerals_cons here _).trans (ih others)

theorem ne_of_isBlank {c : Char} (blank : isBlank c = true) : c ≠ 'l' := by
  rintro rfl
  cases blank

/-- No blank is a digit in any script. -/
theorem digitValue?_blank {c : Char} (blank : isBlank c = true) : digitValue? c = none := by
  have solid : ∀ z ∈ digitZeros.toList, ∀ k < 10, isBlank (Char.ofNat (z + k)) = false := by
    decide +kernel
  have letter : ¬c.isDigit = true := fun digit => by
    cases blank.symm.trans (not_isBlank_of_isDigit digit)
  unfold digitValue?
  rw [if_neg letter]
  split
  next => rfl
  next =>
    have none : digitZeros.find? (fun z => z ≤ c.toNat && c.toNat < z + 10) = none := by
      refine Array.find?_eq_none.mpr fun z listed within => ?_
      simp only [Bool.and_eq_true, decide_eq_true_eq] at within
      have other := solid z (Array.mem_toList_iff.mpr listed) (c.toNat - z) (by omega)
      rw [Nat.add_sub_cancel' within.1, Char.ofNat_toNat] at other
      cases blank.symm.trans other
    rw [none]
    rfl

theorem numeral_append_blanks {blanks : List Char} (blank : Blanks blanks) (cs : List Char) :
    lineNumerals.numeral (cs ++ blanks) = lineNumerals.numeral cs := by
  unfold lineNumerals.numeral
  induction cs with
  | nil =>
    cases blanks with
    | nil => rfl
    | cons c blanks =>
      have other := digitValue?_blank (blank c List.mem_cons_self)
      exact List.takeWhile_cons_of_neg (by rw [other]; exact Bool.false_ne_true)
  | cons c cs ih => rw [List.cons_append, List.takeWhile_cons, List.takeWhile_cons, ih]

/-- One more character is skipped, or a number follows the word that begins with it. -/
theorem lineNumerals_step (c : Char) (cs : List Char) : lineNumerals (c :: cs) =
    if ['l', 'i', 'n', 'e', ' '].isPrefixOf (c :: cs) ∧ lineNumerals.numeral (cs.drop 4) ≠ [] then
      lineNumerals.numeral (cs.drop 4) :: lineNumerals cs
    else lineNumerals cs := by
  have word : "line ".toList = ['l', 'i', 'n', 'e', ' '] := rfl
  rw [lineNumerals, word]
  split
  next begins digits =>
    rw [if_pos ⟨begins, digits ▸ List.cons_ne_nil _ _⟩, digits]
  next other =>
    rw [if_neg]
    rintro ⟨begins, some⟩
    obtain ⟨d, ds, digits⟩ := List.exists_cons_of_ne_nil some
    exact other d ds begins digits

theorem numeral_blanks {blanks : List Char} (blank : Blanks blanks) :
    lineNumerals.numeral blanks = [] :=
  numeral_append_blanks blank []

/-- Blanks at the end say nothing of a line. -/
theorem lineNumerals_append_blanks {blanks : List Char} (blank : Blanks blanks) (cs : List Char) :
    lineNumerals (cs ++ blanks) = lineNumerals cs := by
  induction cs with
  | nil =>
    rw [List.nil_append, ← List.append_nil blanks]
    exact lineNumerals_skip (fun c member => ne_of_isBlank (blank c member)) []
  | cons c cs ih =>
    rw [List.cons_append, lineNumerals_step, lineNumerals_step, ih]
    by_cases long : 4 ≤ cs.length
    · have same : ['l', 'i', 'n', 'e', ' '].isPrefixOf (c :: (cs ++ blanks)) =
          ['l', 'i', 'n', 'e', ' '].isPrefixOf (c :: cs) := by
        have enough : ['l', 'i', 'n', 'e', ' '].length ≤ (c :: cs).length := Nat.succ_le_succ long
        rw [Bool.eq_iff_iff, List.isPrefixOf_iff_prefix, List.isPrefixOf_iff_prefix,
          List.prefix_iff_eq_take, List.prefix_iff_eq_take, ← List.cons_append,
          List.take_append_of_le_length enough]
      rw [List.drop_append_of_le_length long, numeral_append_blanks blank, same]
    · have few : cs.drop 4 = [] := List.drop_eq_nil_of_le (by omega)
      have later : lineNumerals.numeral ((cs ++ blanks).drop 4) = [] := by
        rw [List.drop_append, few]
        exact numeral_blanks fun b member => blank b (List.mem_of_mem_drop member)
      rw [later, few, if_neg (fun both => both.2 rfl), if_neg (fun both => both.2 rfl)]

theorem lineNumerals_frame (n : Nat) (rest : List Char) :
    lineNumerals (['l', 'i', 'n', 'e', ' '] ++
      (natDigits n ++ (", in <module>\n".toList ++ rest))) = natDigits n :: lineNumerals rest := by
  have digits : ∀ c ∈ natDigits n, (digitValue? c).isSome = true := fun c member => by
    rw [digitValue?, if_pos (digits_natDigits n c member)]
    rfl
  have stops : (", in <module>\n".toList ++ rest).takeWhile
      (fun c => (digitValue? c).isSome) = [] := by rfl
  have letters : ∀ c ∈ natDigits n, c ≠ 'l' := fun c member =>
    (Json.ne_of_isDigit (digits_natDigits n c member) rfl).symm
  have numeral : lineNumerals.numeral (natDigits n ++ (", in <module>\n".toList ++ rest)) =
      natDigits n := by
    rw [lineNumerals.numeral, List.takeWhile_append_of_pos digits, stops, List.append_nil]
  have later : lineNumerals (natDigits n ++ (", in <module>\n".toList ++ rest)) =
      lineNumerals rest := (lineNumerals_skip letters _).trans (by rfl)
  have word (more : List Char) :
      lineNumerals (['i', 'n', 'e', ' '] ++ more) = lineNumerals more := rfl
  generalize natDigits n ++ (", in <module>\n".toList ++ rest) = more at numeral later
  refine (lineNumerals_step 'l' (['i', 'n', 'e', ' '] ++ more)).trans ((if_pos ⟨rfl, ?_⟩).trans ?_)
  · exact congr (congrArg List.cons numeral) ((word more).trans later)
  · exact numeral ▸ Json.natDigits_ne_nil n

theorem lineNumerals_opening (rest : List Char) : lineNumerals
    ("Traceback (most recent call last):\n  File \"script.py\", ".toList ++ rest) =
      lineNumerals rest := by
  rfl

theorem lineNumerals_traceback (n : Nat) (name message : String) :
    lineNumerals (traceback n name message).toList =
      natDigits n :: lineNumerals (name ++ ": " ++ message).toList := by
  -- The parts are named first, as the texts themselves are long to compare.
  have parts (heading word frame last : String) (ds : List Char) :
      (heading ++ (word ++ (String.ofList ds ++ (frame ++ last)))).toList =
        heading.toList ++ (word.toList ++ (ds ++ (frame.toList ++ last.toList))) := by
    simp only [String.toList_append, String.toList_ofList]
  refine (congrArg lineNumerals (parts _ _ _ _ (natDigits n))).trans ?_
  exact (lineNumerals_opening _).trans (lineNumerals_frame n _)

/-- A text speaks of the same lines without the blanks around it. -/
theorem lineNumerals_strip (s : String) :
    lineNumerals (strip s).toList = lineNumerals s.toList := by
  have start (cs : List Char) : lineNumerals (stripStart cs) = lineNumerals cs := by
    conv => rhs; rw [← List.takeWhile_append_dropWhile (p := isBlank) (l := cs)]
    exact (lineNumerals_skip (fun c member => ne_of_isBlank (List.mem_takeWhile_imp member)) _).symm
  have finish (cs : List Char) :
      lineNumerals (stripStart cs.reverse).reverse = lineNumerals cs := by
    have parts :
        cs = (stripStart cs.reverse).reverse ++ (cs.reverse.takeWhile isBlank).reverse := by
      rw [← List.reverse_append, stripStart, List.takeWhile_append_dropWhile, List.reverse_reverse]
    have blank : Blanks (cs.reverse.takeWhile isBlank).reverse := fun c member =>
      List.mem_takeWhile_imp (List.mem_reverse.mp member)
    conv => rhs; rw [parts]
    exact (lineNumerals_append_blanks blank _).symm
  rw [strip, String.toList_ofList, stripChars, finish, start]

/-- The digits can be read and stand for the number. -/
def Names (ds : List Char) (n : Nat) : Prop :=
  ds.length ≤ maxNumeralDigits ∧ digitsValue (asciiDigits ds) = n

/-- A line of a script is told exactly if the last number in the detail is that of its line in the
whole text. -/
theorem exists_told_line_iff {kind : DiagnosticKind} {s : String} {p : Submission} {trace : Trace}
    {output : List String} {k : Nat} (line : 1 ≤ k) :
    (∃ x o, told kind (.text s) p trace output = .ok (.failed x o) ∧
      x.location = some { line := some (k : Int) }) ↔
      ∃ ds, (lineNumerals s.toList).getLast? = some ds ∧ Names ds (p.lineOffset + k) := by
  unfold told locate Names
  dsimp only
  cases last : (lineNumerals s.toList).getLast? with
  | none =>
    refine iff_of_false ?_ nofun
    rintro ⟨x, o, same, located⟩
    cases same
    cases located
  | some ds =>
    dsimp only
    split
    next long =>
      refine iff_of_false nofun ?_
      rintro ⟨ds, same, short, _⟩
      cases same
      omega
    next short =>
      constructor
      · rintro ⟨x, o, same, located⟩
        cases same
        dsimp only at located
        split at located
        next =>
          have found := Option.some.inj (congrArg Location.line (Option.some.inj located))
          exact ⟨ds, rfl, Nat.not_lt.mp short, by omega⟩
        next => cases located
      · rintro ⟨ds, ⟨⟩, _, number⟩
        have shifted : (digitsValue (asciiDigits ds) : Int) - p.lineOffset = k := by omega
        refine ⟨_, output, rfl, ?_⟩
        dsimp only
        rw [shifted, if_pos (by omega)]

/-- The report of a script that raised an exception: it was not stopped for its time, it could be
read, and its error output is the traceback. -/
structure Report.Raises (report : Report) (stdout : String) (n : Nat) (name message : String) :
    Prop where
  status : ∃ es id, report.status = .ok es ∧ Value.lookup es "id" = some id ∧
    (id == timeLimit) = false ∧ (id == compileError) = false
  stdout : report.text "stdout" "splitlines" = .ok stdout
  compileOutput : ∃ s, report.text "compile_output" "strip" = .ok s ∧ strip s = ""
  stderr : ∃ s, report.text "stderr" "strip" = .ok s ∧ strip s = strip (traceback n name message)

theorem strip_traceback_ne (n : Nat) (name message : String) :
    strip (traceback n name message) ≠ "" := by
  intro empty
  have spoken := (lineNumerals_strip _).trans (lineNumerals_traceback n name message)
  rw [empty] at spoken
  cases spoken

/-- A detail that is not empty comes before any other. -/
theorem orElse_text {s : String} (shown : s ≠ "") (v : Value) :
    (Value.text s).orElse v = .text s := by
  have counts : (Value.text s).truthy = true := by
    rw [Value.truthy, Bool.not_eq_true', Bool.eq_false_iff, ne_eq, String.isEmpty_iff]
    exact shown
  exact if_pos counts

/-- The script was read and stopped in time, but left something on its error output. -/
structure Findings.Failing (f : Findings) : Prop where
  inTime : (f.statusId == timeLimit) = false
  read : (f.statusId == compileError) = false
  compileOutput : f.compileOutput = ""
  shown : f.stderr ≠ ""

theorem Report.Raises.findings {report : Report} {stdout name message : String} {n : Nat}
    (h : report.Raises stdout n name message) : ∃ f, Findings.ofReport report = .ok f ∧
      f.Failing ∧ f.stdout = stdout ∧ f.stderr = strip (traceback n name message) := by
  obtain ⟨es, id, status, known, inTime, read⟩ := h.status
  obtain ⟨compileOutput, compiled, empty⟩ := h.compileOutput
  obtain ⟨stderr, printed, same⟩ := h.stderr
  have shown : strip stderr ≠ "" := fun blank =>
    strip_traceback_ne n name message (same.symm.trans blank)
  refine ⟨_, bind_eq_ok.mpr ⟨es, status, bind_eq_ok.mpr ⟨stderr, printed,
    bind_eq_ok.mpr ⟨compileOutput, compiled, bind_eq_ok.mpr ⟨stdout, h.stdout, rfl⟩⟩⟩⟩, ?_⟩
  refine ⟨⟨?_, ?_, empty, shown⟩, rfl, same⟩
  · dsimp only
    rw [known]
    exact inTime
  · dsimp only
    rw [known]
    exact read

theorem Findings.Failing.early? {f : Findings} (h : f.Failing) (p : Submission)
    (other : isSyntaxError f.stderr = false) : f.early? p f.output = none := by
  have unread : f.isUnread = false := by rw [Findings.isUnread, h.read, Bool.false_or, other]
  simp only [Findings.early?, h.inTime, unread, Bool.false_eq_true, if_false]

section Failing

variable {d : Domain} {report : Report} {f : Findings} {r r' : Registry d}
  (read : Findings.ofReport report = .ok f) (failing : f.Failing) (p : Submission)

include read failing

/-- An error output that tells of a syntax error is told of at once. -/
theorem interpret_syntactic (syntactic : isSyntaxError f.stderr = true) :
    interpret p report r = told .compileError (.text f.stderr) p [] f.output := by
  have unread : f.isUnread = true := by
    rw [Findings.isUnread, failing.read, Bool.false_or, syntactic]
  have detail : f.unreadDetail = .text f.stderr := by
    rw [Findings.unreadDetail, failing.compileOutput]
    exact orElse_text failing.shown _
  unfold interpret interpretIn Findings.early?
  rw [read]
  simp only [failing.inTime, unread, detail, Bool.false_eq_true, if_false, if_true]
  rfl

/-- Any other error output is told of after the events, unless one of these is refused. -/
theorem interpret_applied (other : isSyntaxError f.stderr = false)
    (applied : r.applyEvents f.events = (.ok (), r')) :
    interpret p report r = told .runtimeError (.text f.stderr) p r'.trace f.output := by
  have detail : f.failureDetail = .text f.stderr := orElse_text failing.shown _
  have failed : f.isFailure = true := by
    have shown := failing.shown
    rw [ne_eq, ← String.isEmpty_iff, Bool.not_eq_true] at shown
    rw [Findings.isFailure, shown, Bool.not_false, Bool.or_true, Bool.true_or]
  have early := failing.early? p other
  unfold interpret interpretIn
  rw [read]
  dsimp only
  rw [← Findings.output, ← Findings.events, early, applied]
  dsimp only
  rw [Findings.conclude, if_pos failed, detail]

/-- A refused event is told of without a line. -/
theorem location_refused {g : Fault} (other : isSyntaxError f.stderr = false)
    (applied : r.applyEvents f.events = (.error g, r')) {x : Diagnostic} {o : List String}
    (h : interpret p report r = .ok (.failed x o)) : x.location = none := by
  have early := failing.early? p other
  unfold interpret interpretIn at h
  rw [read] at h
  dsimp only at h
  rw [← Findings.output, ← Findings.events, early, applied] at h
  dsimp only at h
  unfold Findings.conclude at h
  split at h
  next => cases h
  next =>
    split at h
    next =>
      cases h
      unfold refusal
      split <;> rfl
    next => cases h
  next same => cases same

end Failing

variable {d : Domain}

theorem interpret_raised_iff {report : Report} {stdout name message : String} {p : Submission}
    {k : Nat} (line : 1 ≤ k) (raised : report.Raises stdout (p.lineOffset + k) name message)
    (r : Registry d) :
    (∃ x o, interpret p report r = .ok (.failed x o) ∧
      x.location = some { line := some (k : Int) }) ↔
      (isSyntaxError (strip (traceback (p.lineOffset + k) name message)) = true ∨
        (r.applyEvents (Event.ofOutput stdout).1).1 = .ok ()) ∧
      Names ((lineNumerals (name ++ ": " ++ message).toList).getLast?.getD
        (natDigits (p.lineOffset + k))) (p.lineOffset + k) := by
  obtain ⟨f, read, failing, rfl, stderr⟩ := raised.findings
  have told_iff (kind : DiagnosticKind) (trace : Trace) :
      (∃ x o, told kind (.text f.stderr) p trace f.output = .ok (.failed x o) ∧
        x.location = some { line := some (k : Int) }) ↔
        Names ((lineNumerals (name ++ ": " ++ message).toList).getLast?.getD
          (natDigits (p.lineOffset + k))) (p.lineOffset + k) := by
    rw [exists_told_line_iff line, stderr, lineNumerals_strip, lineNumerals_traceback,
      List.getLast?_cons]
    constructor
    · rintro ⟨ds, same, names⟩
      rwa [← Option.some.inj same] at names
    · exact fun names => ⟨_, rfl, names⟩
  rw [← stderr, ← Findings.events]
  cases syntactic : isSyntaxError f.stderr with
  | true =>
    rw [interpret_syntactic read failing p syntactic, told_iff]
    exact (and_iff_right (.inl rfl)).symm
  | false =>
    cases applied : r.applyEvents f.events with
    | mk x r' =>
      cases x with
      | ok u =>
        rw [interpret_applied read failing p syntactic applied, told_iff]
        exact (and_iff_right (.inr rfl)).symm
      | error g =>
        constructor
        · rintro ⟨x, o, same, located⟩
          cases (location_refused read failing p syntactic applied same).symm.trans located
        · rintro ⟨⟨⟨⟩⟩ | ⟨⟨⟩⟩, _⟩

/-- If the events are accepted and the last number can be read, there is an outcome. -/
theorem exists_interpret_raised {report : Report} {stdout name message : String} {p : Submission}
    {n : Nat} (raised : report.Raises stdout n name message)
    (short : ((lineNumerals (name ++ ": " ++ message).toList).getLast?.getD
      (natDigits n)).length ≤ maxNumeralDigits) {r : Registry d}
    (accepted : (r.applyEvents (Event.ofOutput stdout).1).1 = .ok ()) :
    ∃ x o, interpret p report r = .ok (.failed x o) := by
  obtain ⟨f, read, failing, rfl, stderr⟩ := raised.findings
  have traceable : Traceable (.text f.stderr) := by
    refine ⟨f.stderr, rfl, fun ds last => ?_⟩
    rw [stderr, lineNumerals_strip, lineNumerals_traceback, List.getLast?_cons] at last
    exact Option.some.inj last ▸ short
  have told_failed (kind : DiagnosticKind) (trace : Trace) :
      ∃ x o, told kind (.text f.stderr) p trace f.output = .ok (.failed x o) := by
    obtain ⟨o, same⟩ := exists_told_iff.mpr traceable
    obtain ⟨x, rfl, _⟩ := told_eq_ok same
    exact ⟨x, f.output, same⟩
  cases syntactic : isSyntaxError f.stderr with
  | true =>
    rw [interpret_syntactic read failing p syntactic]
    exact told_failed _ _
  | false =>
    cases applied : r.applyEvents f.events with
    | mk x r' =>
      rw [← Findings.events, applied] at accepted
      cases accepted
      rw [interpret_applied read failing p syntactic applied]
      exact told_failed _ _

/-- A script begins right after the preamble, and an exception of its line `k` is reported there
exactly if the events that were printed are accepted, or never looked at, and the message speaks of
no other line. -/
theorem learner_line_iff {l : d.Level} {source : String} {p : Submission} {warnings : List String}
    (compiled : compileScript source l = .ok (.done p warnings)) :
    (∃ before, Script.lines p.text = before ++ Script.lines source ∧
      before.length = p.lineOffset) ∧
    ∀ k, 1 ≤ k → ∀ (report : Report) (stdout name message : String),
      report.Raises stdout (p.lineOffset + k) name message → ∀ r : Registry d,
        ((∃ x o, interpret p report r = .ok (.failed x o) ∧
          x.location = some { line := some (k : Int) }) ↔
          (isSyntaxError (strip (traceback (p.lineOffset + k) name message)) = true ∨
            (r.applyEvents (Event.ofOutput stdout).1).1 = .ok ()) ∧
          Names ((lineNumerals (name ++ ": " ++ message).toList).getLast?.getD
            (natDigits (p.lineOffset + k))) (p.lineOffset + k)) := by
  obtain ⟨calls, rfl⟩ := Script.compileScript_eq_done compiled
  exact ⟨Script.lines_submission l source calls,
    fun k line report stdout name message raised r => interpret_raised_iff line raised r⟩

/-- The numeral of a line stands for it, unless there are too many lines to read their number. -/
theorem names_natDigits {n : Nat} (short : n < tenTo maxNumeralDigits) : Names (natDigits n) n := by
  refine ⟨Nat.not_lt.mp (Json.short_natDigits short), ?_⟩
  rw [asciiDigits_digits (digits_natDigits n), Json.digitsValue_natDigits]

/-- The report of a script with nothing but its traceback. -/
def bareReport (n : Nat) (name message : String) : Report :=
  ⟨[("status", .dict [("id", .int 11)]), ("stderr", .text (traceback n name message))]⟩

theorem bareReport_raises (n : Nat) (name message : String) :
    (bareReport n name message).Raises "" n name message :=
  ⟨⟨_, _, rfl, rfl, rfl, rfl⟩, rfl, ⟨"", rfl, rfl⟩, ⟨_, rfl, rfl⟩⟩

theorem lineOffset_lt {l : d.Level} {source : String} {p : Submission} {warnings : List String}
    (compiled : compileScript source l = .ok (.done p warnings)) {n : Nat}
    (small : (Script.preamble d (Domain.prelude l)).utf8ByteSize < n) : p.lineOffset < n := by
  obtain ⟨calls, rfl⟩ := Script.compileScript_eq_done compiled
  unfold Script.submission
  dsimp only
  generalize Script.preamble d (Domain.prelude l) = s at small
  exact Nat.lt_of_le_of_lt (Script.countLines_le s) small

/-- A script was compiled, and nothing was found wrong with it. -/
def isClean : Compilation P → Bool
  | .done _ warnings => warnings.isEmpty
  | .failed _ => false

theorem exists_clean {e : Except ε (Compilation P)} (h : e.toOption.any isClean = true) :
    ∃ p, e = .ok (.done p []) := by
  cases e with
  | error _ => cases h
  | ok c =>
    cases c with
    | failed _ => cases h
    | done p warnings =>
      obtain rfl : warnings = [] := List.isEmpty_iff.mp h
      exact ⟨p, rfl⟩

/-- A division by zero in the only line of a script. -/
theorem learner_line_division :
    let source := "print(1 / 0)\n"
    let level : Console.Level :=
      { header := { id := .number 1, name := "Halves" }, goal := .output ["2"] }
    let r : Registry .math := { shadow := (), maxActions := 1000 }
    ∃ p, compileScript (d := .math) source level = .ok (.done p []) ∧ ∃ x o,
      interpret p (bareReport (p.lineOffset + 1) "ZeroDivisionError" "division by zero") r =
        .ok (.failed x o) ∧ x.location = some { line := some 1 } := by
  intro source level r
  obtain ⟨p, compiled⟩ := exists_clean
    (by decide +kernel : (compileScript (d := .math) source level).toOption.any isClean = true)
  have short : p.lineOffset + 1 < tenTo maxNumeralDigits := by
    have few : p.lineOffset < 1000 := lineOffset_lt compiled (by decide +kernel)
    have many : 1001 ≤ tenTo maxNumeralDigits := by decide +kernel
    omega
  have accepted : (r.applyEvents (Event.ofOutput "").1).1 = .ok () := by rfl
  have silent : lineNumerals ("ZeroDivisionError" ++ ": " ++ "division by zero").toList = [] := by
    decide +kernel
  have raised := bareReport_raises (p.lineOffset + 1) "ZeroDivisionError" "division by zero"
  have located := (learner_line_iff compiled).2 1 (Nat.le_refl 1) _ _ _ _ raised r
  rw [silent] at located
  exact ⟨p, compiled, located.mpr ⟨.inr accepted, names_natDigits short⟩⟩

/-- The second line of a script raises an exception whose message speaks of a third line. -/
theorem learner_line_lost :
    let source := "maju()\nraise ValueError('bad line 3')\n"
    let level : Robot.Level :=
      { header := { id := .number 1, name := "Yard" }, goal := .position 4 1 false }
    let r : Registry .robot := { shadow := ⟨.east⟩, maxActions := 1000 }
    (Domain.robot.validate level).valid = true ∧ (Script.lines source).length = 2 ∧
      ∃ p, compileScript (d := .robot) source level = .ok (.done p []) ∧
        let report := bareReport (p.lineOffset + 2) "ValueError" "bad line 3"
        report.Raises "" (p.lineOffset + 2) "ValueError" "bad line 3" ∧
          (∃ x o, interpret p report r = .ok (.failed x o)) ∧
          ∀ x o, interpret p report r = .ok (.failed x o) →
            x.location ≠ some { line := some 2 } := by
  intro source level r
  obtain ⟨p, compiled⟩ := exists_clean
    (by decide +kernel : (compileScript (d := .robot) source level).toOption.any isClean = true)
  have far : p.lineOffset ≠ 1 := by
    obtain ⟨calls, rfl⟩ := Script.compileScript_eq_done compiled
    have four := Script.four_le_countLines .robot (Domain.prelude (d := .robot) level)
    unfold Script.submission
    dsimp only
    generalize Script.preamble .robot (Domain.prelude (d := .robot) level) = s at four
    omega
  have raised := bareReport_raises (p.lineOffset + 2) "ValueError" "bad line 3"
  have last : (lineNumerals ("ValueError" ++ ": " ++ "bad line 3").toList).getLast? =
      some ['3'] := by decide +kernel
  have short : (((lineNumerals ("ValueError" ++ ": " ++ "bad line 3").toList).getLast?).getD
      (natDigits (p.lineOffset + 2))).length ≤ maxNumeralDigits := by
    rw [last]
    exact (by decide : 1 ≤ maxNumeralDigits)
  refine ⟨by decide +kernel, by decide +kernel, p, compiled, raised,
    exists_interpret_raised raised short (by rfl), fun x o told located => ?_⟩
  have names := ((interpret_raised_iff (by decide) raised r).mp ⟨x, o, told, located⟩).2
  rw [last] at names
  have three : 3 = p.lineOffset + 2 := names.2
  omega

end Executor

end PuzzleWorlds
