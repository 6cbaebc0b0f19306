import PuzzleWorlds.Executor.Outcome
import PuzzleWorlds.Proofs.Payload

/-! Answers of the executor and the outcomes that they are mapped to. An answer gives an outcome
unless its status or one of its texts is of a wrong type, or the detail of a failure is one that no
line can be found in; and the outcome tells whether the registry was driven. -/

namespace PuzzleWorlds

namespace Value

/-- A value equals one whole number at most. -/
theorem same_int_unique {v : Value} {m n : Int} (first : same v (int m) = true)
    (second : same v (int n) = true) : m = n := by
  cases v with
  | int k =>
    have first : some (compare k m) = some .eq := eq_of_beq first
    have second : some (compare k n) = some .eq := eq_of_beq second
    exact (Std.compare_eq_iff_eq.mp (Option.some.inj first)).symm.trans
      (Std.compare_eq_iff_eq.mp (Option.some.inj second))
  | bool b =>
    have first : some (compare (if b then (1 : Int) else 0) m) = some .eq := eq_of_beq first
    have second : some (compare (if b then (1 : Int) else 0) n) = some .eq := eq_of_beq second
    exact (Std.compare_eq_iff_eq.mp (Option.some.inj first)).symm.trans
      (Std.compare_eq_iff_eq.mp (Option.some.inj second))
  | float x =>
    have exactly (k : Int) (h : same (float x) (int k) = true) :
        ∃ b, Binary.ofFloat? x = some b ∧ k * b.ratio.2 = b.ratio.1 := by
      have h : (compareIntFloat? k x).map Ordering.swap = some .eq := eq_of_beq h
      unfold compareIntFloat? at h
      cases exact : Binary.ofFloat? x with
      | none =>
        rw [exact] at h
        dsimp only at h
        repeat' split at h
        all_goals cases h
      | some b =>
        rw [exact] at h
        have h : (compare (k * b.ratio.2) b.ratio.1).swap = .eq := Option.some.inj h
        rw [← Std.OrientedCmp.eq_swap] at h
        exact ⟨b, rfl, (Std.compare_eq_iff_eq.mp h).symm⟩
    obtain ⟨b, exact, left⟩ := exactly m first
    obtain ⟨b', exact', right⟩ := exactly n second
    cases exact.symm.trans exact'
    have positive : (b.ratio.2 : Int) ≠ 0 := by
      have := b.ratio_pos
      omega
    exact Int.eq_of_mul_eq_mul_right positive (left.trans right.symm)
  | null | text | list | tuple | dict | record => cases first

end Value

def Outcome.kind? : Outcome → Option DiagnosticKind
  | finished .. => none
  | failed diagnostic _ => some diagnostic.kind

namespace Executor

variable {d : Domain}

/-- The status counts as nothing or has entries, and the texts count as nothing or are texts. -/
structure Report.Shaped (report : Report) : Prop where
  status : (report.get "status").truthy = true → ∃ es, report.get "status" = .dict es
  texts : ∀ field ∈ ["stderr", "compile_output", "stdout"],
    (report.get field).truthy = true → ∃ s, report.get field = .text s

namespace Report

variable {report : Report}

theorem exists_status_iff : (∃ es, report.status = .ok es) ↔
    ((report.get "status").truthy = true → ∃ es, report.get "status" = .dict es) := by
  unfold status
  generalize report.get "status" = v
  split
  next es => exact iff_of_true ⟨es, rfl⟩ fun _ => ⟨es, rfl⟩
  next other =>
    split
    next counts =>
      refine iff_of_false (by rintro ⟨_, ⟨⟩⟩) fun shaped => ?_
      obtain ⟨es, same⟩ := shaped counts
      exact other es same
    next nothing => exact iff_of_true ⟨[], rfl⟩ fun counts => absurd counts nothing

theorem exists_text_iff {field method : String} : (∃ s, report.text field method = .ok s) ↔
    ((report.get field).truthy = true → ∃ s, report.get field = .text s) := by
  unfold text
  generalize report.get field = v
  split
  next s => exact iff_of_true ⟨s, rfl⟩ fun _ => ⟨s, rfl⟩
  next other =>
    split
    next counts =>
      refine iff_of_false nofun fun shaped => ?_
      obtain ⟨s, same⟩ := shaped counts
      exact other s same
    next nothing => exact iff_of_true ⟨"", rfl⟩ fun counts => absurd counts nothing

theorem exists_findings_iff : (∃ f, Findings.ofReport report = .ok f) ↔ report.Shaped := by
  constructor
  · rintro ⟨f, read⟩
    obtain ⟨es, status, read⟩ := bind_eq_ok.mp read
    obtain ⟨stderr, first, read⟩ := bind_eq_ok.mp read
    obtain ⟨compileOutput, second, read⟩ := bind_eq_ok.mp read
    obtain ⟨stdout, third, _⟩ := bind_eq_ok.mp read
    refine ⟨exists_status_iff.mp ⟨es, status⟩, ?_⟩
    simp only [List.forall_mem_cons]
    exact ⟨exists_text_iff.mp ⟨stderr, first⟩, exists_text_iff.mp ⟨compileOutput, second⟩,
      exists_text_iff.mp ⟨stdout, third⟩, List.forall_mem_nil _⟩
  · rintro ⟨status, texts⟩
    simp only [List.forall_mem_cons] at texts
    obtain ⟨es, status⟩ := exists_status_iff.mpr status
    obtain ⟨stderr, first⟩ := exists_text_iff.mpr texts.1
    obtain ⟨compileOutput, second⟩ := exists_text_iff.mpr texts.2.1
    obtain ⟨stdout, third⟩ := exists_text_iff.mpr texts.2.2.1
    exact ⟨_, bind_eq_ok.mpr ⟨es, status, bind_eq_ok.mpr ⟨stderr, first,
      bind_eq_ok.mpr ⟨compileOutput, second, bind_eq_ok.mpr ⟨stdout, third, rfl⟩⟩⟩⟩⟩

end Report

/-- A text in which the last line number, if there is one, can be read. -/
def Traceable (detail : Value) : Prop :=
  ∃ s, detail = .text s ∧
    ∀ ds, (lineNumerals s.toList).getLast? = some ds → ds.length ≤ maxNumeralDigits

theorem exists_locate_iff {detail : Value} {offset : Int} :
    (∃ l, locate detail offset = .ok l) ↔ Traceable detail := by
  unfold locate Traceable
  cases detail with
  | text s =>
    dsimp only
    cases last : (lineNumerals s.toList).getLast? with
    | none => exact iff_of_true ⟨none, rfl⟩ ⟨s, rfl, fun ds same => by cases last.symm.trans same⟩
    | some ds =>
      dsimp only
      split
      next long =>
        refine iff_of_false nofun ?_
        rintro ⟨s, same, short⟩
        cases same
        exact absurd (short ds last) (Nat.not_le.mpr long)
      next short =>
        refine iff_of_true ⟨_, rfl⟩ ⟨s, rfl, fun ds' same => ?_⟩
        cases last.symm.trans same
        exact Nat.not_lt.mp short
  | _ => exact iff_of_false nofun nofun

section Told

variable {kind : DiagnosticKind} {detail : Value} {p : Submission} {trace : Trace}
  {output : List String}

theorem exists_told_iff : (∃ o, told kind detail p trace output = .ok o) ↔ Traceable detail := by
  rw [← @exists_locate_iff detail p.lineOffset]
  constructor
  · rintro ⟨o, failed⟩
    obtain ⟨location, found, _⟩ := map_eq_ok.mp failed
    exact ⟨location, found⟩
  · rintro ⟨location, found⟩
    exact ⟨_, map_eq_ok.mpr ⟨location, found, rfl⟩⟩

theorem told_eq_ok {o : Outcome} (h : told kind detail p trace output = .ok o) :
    ∃ x : Diagnostic, o = .failed x output ∧ x.kind = kind ∧ x.partialTrace = trace := by
  obtain ⟨location, _, rfl⟩ := map_eq_ok.mp h
  exact ⟨_, rfl, rfl, rfl⟩

end Told

namespace Findings

/-- The events that the program printed. -/
def events (f : Findings) : List Event := (Event.ofOutput f.stdout).1

/-- The lines that it printed besides. -/
def output (f : Findings) : List String := (Event.ofOutput f.stdout).2

/-- All that an interpretation can come to, if no event is refused with a foreign fault. -/
inductive Interprets (f : Findings) (p : Submission) (r : Registry d) :
    Except Misfit Outcome × Registry d → Prop
  | late (late : (f.statusId == timeLimit) = true) (message : String) :
    Interprets f p r (.ok (.failed { kind := .timeout, message } f.output), r)
  | unread (inTime : (f.statusId == timeLimit) = false) (unread : f.isUnread = true) :
    Interprets f p r (told .compileError f.unreadDetail p [] f.output, r)
  | refused (inTime : (f.statusId == timeLimit) = false) (read : f.isUnread = false) {g : Fault}
    {r' : Registry d} (applied : r.applyEvents f.events = (.error g, r')) :
    Interprets f p r (.ok (.failed (refusal g r'.trace) f.output), r')
  | failure (inTime : (f.statusId == timeLimit) = false) (read : f.isUnread = false)
    {r' : Registry d} (applied : r.applyEvents f.events = (.ok (), r'))
    (failed : f.isFailure = true) :
    Interprets f p r (told .runtimeError f.failureDetail p r'.trace f.output, r')
  | finished (inTime : (f.statusId == timeLimit) = false) (read : f.isUnread = false)
    {r' : Registry d} (applied : r.applyEvents f.events = (.ok (), r'))
    (fine : f.isFailure = false) : Interprets f p r (.ok (.finished r'.trace f.output), r')

theorem interprets {f : Findings} {report : Report} (read : ofReport report = .ok f)
    (p : Submission) {r : Registry d}
    (own : ∀ g, (r.applyEvents f.events).1 = .error g → g.isOwn = true ∧ g.writable = true) :
    f.Interprets p r (interpretIn p report r) := by
  unfold interpretIn
  rw [read]
  dsimp only
  cases late : f.statusId == timeLimit with
  | true =>
    have early : f.early? p f.output = some _ := if_pos late
    rw [← output, early]
    exact .late late _
  | false =>
    cases unread : f.isUnread with
    | true =>
      have early : f.early? p f.output = some _ :=
        (if_neg (Bool.eq_false_iff.mp late)).trans (if_pos unread)
      rw [← output, early]
      exact .unread late unread
    | false =>
      have early : f.early? p f.output = none :=
        (if_neg (Bool.eq_false_iff.mp late)).trans (if_neg (Bool.eq_false_iff.mp unread))
      rw [← output, early]
      dsimp only
      rw [← events]
      cases applied : r.applyEvents f.events with
      | mk x r' =>
        cases x with
        | ok u =>
          dsimp only
          unfold conclude
          cases failed : f.isFailure with
          | true => exact .failure late unread applied failed
          | false => exact .finished late unread applied failed
        | error g =>
          rw [applied] at own
          obtain ⟨own, written⟩ := own g rfl
          have told : f.conclude p f.output r'.trace (.error g) =
              .ok (.failed (refusal g r'.trace) f.output) := by
            unfold conclude
            cases g with
            | misfit m => cases own
            | _ => exact if_pos written
          dsimp only
          rw [told]
          exact .refused late unread applied

/-- What a line is looked for in. -/
inductive Cites (f : Findings) (r : Registry d) : Value → Prop
  | unread (inTime : (f.statusId == timeLimit) = false) (unread : f.isUnread = true) :
    Cites f r f.unreadDetail
  | failure (inTime : (f.statusId == timeLimit) = false) (read : f.isUnread = false)
    (applied : (r.applyEvents f.events).1 = .ok ()) (failed : f.isFailure = true) :
    Cites f r f.failureDetail

theorem Interprets.exists_iff {f : Findings} {p : Submission} {r : Registry d}
    {x : Except Misfit Outcome × Registry d} (h : f.Interprets p r x) :
    (∃ o, x.1 = .ok o) ↔ ∀ v, f.Cites r v → Traceable v := by
  cases h with
  | late late =>
    refine iff_of_true ⟨_, rfl⟩ fun v cites => ?_
    cases cites with
    | unread inTime | failure inTime => cases late.symm.trans inTime
  | unread inTime unread =>
    refine exists_told_iff.trans
      ⟨fun traceable v cites => ?_, fun all => all _ (.unread inTime unread)⟩
    cases cites with
    | unread => exact traceable
    | failure _ read => cases unread.symm.trans read
  | refused _ read applied =>
    refine iff_of_true ⟨_, rfl⟩ fun v cites => ?_
    cases cites with
    | unread _ unread => cases unread.symm.trans read
    | failure _ _ accepted =>
      rw [applied] at accepted
      cases accepted
  | failure inTime read applied failed =>
    have accepted : (r.applyEvents f.events).1 = .ok () := by rw [applied]
    refine exists_told_iff.trans
      ⟨fun traceable v cites => ?_, fun all => all _ (.failure inTime read accepted failed)⟩
    cases cites with
    | unread _ unread => cases unread.symm.trans read
    | failure => exact traceable
  | finished _ read _ fine =>
    refine iff_of_true ⟨_, rfl⟩ fun v cites => ?_
    cases cites with
    | unread _ unread => cases unread.symm.trans read
    | failure _ _ _ failed => cases failed.symm.trans fine

/-- The report of a program that was accepted, with nothing on its error output and no other exit
code than zero. -/
structure Accepted (f : Findings) : Prop where
  status : (f.statusId == accepted) = true
  stderr : f.stderr = ""
  exitCode : f.exitCode.isNull = true ∨ (f.exitCode == 0) = true

theorem accepted_iff {f : Findings} : f.Accepted ↔ f.isFailure = false := by
  unfold isFailure
  rw [Bool.or_eq_false_iff, Bool.or_eq_false_iff, bne, Bool.not_eq_false', Bool.not_eq_false',
    Bool.not_eq_false', Bool.or_eq_true, String.isEmpty_iff]
  exact ⟨fun h => ⟨⟨h.status, h.stderr⟩, h.exitCode⟩, fun ⟨⟨h, h'⟩, h''⟩ => ⟨h, h', h''⟩⟩

/-- An accepted program was read, and in time. -/
theorem Accepted.early {f : Findings} (h : f.Accepted) :
    (f.statusId == timeLimit) = false ∧ f.isUnread = false := by
  have other (n : Int) (different : 3 ≠ n) : (f.statusId == .int n) = false :=
    Bool.eq_false_iff.mpr fun same => different (Value.same_int_unique h.status same)
  refine ⟨other 5 (by decide), ?_⟩
  unfold isUnread
  rw [h.stderr]
  exact Bool.or_eq_false_iff.mpr ⟨other 6 (by decide), rfl⟩

/-- What an understood report is mapped to. -/
structure Outcomes (f : Findings) (r r' : Registry d) (o : Outcome) : Prop where
  available : o.kind? ≠ some .sandboxUnavailable
  late : (f.statusId == timeLimit) = true → o.kind? = some .timeout ∧ r' = r
  unread : (f.statusId == timeLimit) = false → f.isUnread = true →
    o.kind? = some .compileError ∧ r' = r
  driven : (f.statusId == timeLimit) = false → f.isUnread = false →
    r' = (r.applyEvents f.events).2
  finished : (∃ trace output, o = .finished trace output) ↔
    f.Accepted ∧ (r.applyEvents f.events).1 = .ok ()
  trace : ∀ trace output, o = .finished trace output → trace = r'.trace
  partialTrace : ∀ x output, o = .failed x output →
    x.partialTrace = if x.kind = .runtimeError then r'.trace else []

theorem refusal_kind (g : Fault) (trace : Trace) :
    (refusal g trace).kind = .timeout ∧ (refusal g trace).partialTrace = [] ∨
      (refusal g trace).kind = .runtimeError ∧ (refusal g trace).partialTrace = trace := by
  unfold refusal
  split
  next => exact .inl ⟨rfl, rfl⟩
  next => exact .inr ⟨rfl, rfl⟩

/-- Of a program that was read in time, only the end is left to tell. -/
theorem Outcomes.of_read {f : Findings} {r r' : Registry d} {x : Except Fault Unit} {o : Outcome}
    (inTime : (f.statusId == timeLimit) = false) (read : f.isUnread = false)
    (applied : r.applyEvents f.events = (x, r')) (available : o.kind? ≠ some .sandboxUnavailable)
    (finished : (∃ trace output, o = .finished trace output) ↔ f.Accepted ∧ x = .ok ())
    (trace : ∀ trace output, o = .finished trace output → trace = r'.trace)
    (partialTrace : ∀ y output, o = .failed y output →
      y.partialTrace = if y.kind = .runtimeError then r'.trace else []) : f.Outcomes r r' o where
  available := available
  late late := by cases late.symm.trans inTime
  unread _ unread := by cases unread.symm.trans read
  driven _ _ := by rw [applied]
  finished := by rwa [applied]
  trace := trace
  partialTrace := partialTrace

theorem Interprets.outcomes {f : Findings} {p : Submission} {r : Registry d}
    {x : Except Misfit Outcome × Registry d} (h : f.Interprets p r x) {o : Outcome}
    (ended : x.1 = .ok o) : f.Outcomes r x.2 o := by
  cases h with
  | late late =>
    cases ended
    have notEarly (h : f.Accepted) : False := by cases late.symm.trans h.early.1
    exact {
      available := nofun
      late := fun _ => ⟨rfl, rfl⟩
      unread := fun inTime => by cases late.symm.trans inTime
      driven := fun inTime => by cases late.symm.trans inTime
      finished := iff_of_false nofun fun h => notEarly h.1
      trace := nofun
      partialTrace := fun _ _ same => by cases same; rfl }
  | unread inTime unread =>
    obtain ⟨y, rfl, kind, trace⟩ := told_eq_ok ended
    have told : (Outcome.failed y f.output).kind? = some .compileError := congrArg some kind
    exact {
      available := told ▸ nofun
      late := fun late => by cases late.symm.trans inTime
      unread := fun _ _ => ⟨told, rfl⟩
      driven := fun _ read => by cases unread.symm.trans read
      finished := iff_of_false nofun fun h => by cases unread.symm.trans h.1.early.2
      trace := nofun
      partialTrace := fun _ _ same => by cases same; rw [kind, trace]; rfl }
  | @refused inTime read g r' applied =>
    cases ended
    have told := refusal_kind g r'.trace
    refine .of_read inTime read applied ?_ (iff_of_false nofun nofun) nofun fun y _ same => ?_
    · obtain ⟨kind, _⟩ | ⟨kind, _⟩ := told <;>
        exact fun same => by cases (congrArg some kind).symm.trans same
    · cases same
      obtain ⟨kind, trace⟩ | ⟨kind, trace⟩ := told <;> rw [kind, trace] <;> rfl
  | @failure inTime read r' applied failed =>
    obtain ⟨y, rfl, kind, trace⟩ := told_eq_ok ended
    have told : (Outcome.failed y f.output).kind? = some .runtimeError := congrArg some kind
    refine .of_read inTime read applied (told ▸ nofun) (iff_of_false nofun fun h => ?_) nofun
      fun y' _ same => ?_
    · cases failed.symm.trans (accepted_iff.mp h.1)
    · cases same
      rw [kind, trace]
      rfl
  | finished inTime read applied fine =>
    cases ended
    refine .of_read inTime read applied nofun
      (iff_of_true ⟨_, _, rfl⟩ ⟨accepted_iff.mpr fine, rfl⟩) (fun _ _ same => ?_) nofun
    cases same
    rfl

end Findings

/-- The body holds a report that is understood as `f`. -/
def Settings.Reads (s : Settings) (body : String) (f : Findings) : Prop :=
  ∃ report, Report.ofBody s.encoded body = .ok report ∧ Findings.ofReport report = .ok f

/-- A report is mapped to an outcome exactly if it is understood and a line can be looked for in the
detail that it cites. -/
theorem interpretIn_answers {report : Report} (p : Submission) {r : Registry d}
    (own : ∀ f g, Findings.ofReport report = .ok f → (r.applyEvents f.events).1 = .error g →
      g.isOwn = true ∧ g.writable = true) :
    ((∃ o, (interpretIn p report r).1 = .ok o) ↔ report.Shaped ∧
      ∀ f v, Findings.ofReport report = .ok f → f.Cites r v → Traceable v) ∧
    ∀ o, (interpretIn p report r).1 = .ok o → ∀ f, Findings.ofReport report = .ok f →
      f.Outcomes r (interpretIn p report r).2 o := by
  cases understood : Findings.ofReport report with
  | error m =>
    have failed : interpretIn p report r = (.error m, r) := by
      unfold interpretIn
      rw [understood]
    rw [failed]
    refine ⟨iff_of_false nofun fun all => ?_, nofun⟩
    obtain ⟨f, same⟩ := Report.exists_findings_iff.mpr all.1
    cases understood.symm.trans same
  | ok f =>
    have interprets := Findings.interprets understood p fun g => own f g understood
    have shaped := Report.exists_findings_iff.mp ⟨f, understood⟩
    refine ⟨interprets.exists_iff.trans ⟨fun all => ⟨shaped, fun f' v same => ?_⟩, fun all v =>
      all.2 f v rfl⟩, fun o ended f' same => ?_⟩
    · cases same
      exact all v
    · cases same
      exact interprets.outcomes ended

/-- An answer is mapped to an outcome unless its report is of another shape or cites a detail that
no line can be found in. Without a report there is no runner; with one the outcome tells how the
program ended and whether the registry was driven. -/
theorem settleIn_answered (s : Settings) (timeoutMs : Int) (p : Submission) (status : Int)
    (body : String) (r : Registry d)
    (own : ∀ f g, s.Reads body f → (r.applyEvents f.events).1 = .error g →
      g.isOwn = true ∧ g.writable = true) :
    let x := settleIn s timeoutMs p (.answered status body) r
    ((∃ o, x.1 = .ok o) ↔ 400 ≤ status ∨ ∀ report, Report.ofBody s.encoded body = .ok report →
      report.Shaped ∧ ∀ f v, Findings.ofReport report = .ok f → f.Cites r v → Traceable v) ∧
    ∀ o, x.1 = .ok o →
      ((400 ≤ status ∨ ∃ e, Report.ofBody s.encoded body = .error e) →
        x.2 = r ∧ ∃ message, o = failure .sandboxUnavailable message) ∧
      ∀ f, status < 400 → s.Reads body f → f.Outcomes r x.2 o := by
  intro x
  by_cases refused : 400 ≤ status
  · have ended : x = (.ok (failure .sandboxUnavailable _), r) := if_pos refused
    rw [ended]
    refine ⟨iff_of_true ⟨_, rfl⟩ (.inl refused), fun o same => ?_⟩
    cases same
    exact ⟨fun _ => ⟨rfl, _, rfl⟩, fun f accepted => absurd refused (Int.not_le.mpr accepted)⟩
  · cases read : Report.ofBody s.encoded body with
    | error e =>
      have ended : x = (.ok (failure .sandboxUnavailable _), r) :=
        (if_neg refused).trans (by rw [read])
      rw [ended]
      refine ⟨iff_of_true ⟨_, rfl⟩ (.inr nofun), fun o same => ?_⟩
      cases same
      refine ⟨fun _ => ⟨rfl, _, rfl⟩, fun f _ ⟨report, holds, _⟩ => ?_⟩
      cases read.symm.trans holds
    | ok report =>
      have ended : x = interpretIn p report r := (if_neg refused).trans (by rw [read])
      rw [ended]
      obtain ⟨answers, outcomes⟩ := interpretIn_answers p fun f g understood =>
        own f g ⟨report, read, understood⟩
      refine ⟨answers.trans ⟨fun fine => .inr fun _ same => ?_, fun fine => ?_⟩,
        fun o told => ⟨fun late => ?_, fun f _ ⟨report', holds, understood⟩ => ?_⟩⟩
      · cases same
        exact fine
      · exact (fine.resolve_left refused) report rfl
      · obtain ⟨e, unread⟩ := late.resolve_left refused
        cases unread
      · cases read.symm.trans holds
        exact outcomes o told f understood

/-- A program that was accepted without a word has finished. -/
theorem settleIn_answered_silent :
    let p := Script.submission .math "" "" 0
    let r : Registry .math := { shadow := (), maxActions := 1000 }
    let body := "\x7b\"status\": \x7b\"id\": 3\x7d\x7d"
    (∀ f g, (⟨false, 10000⟩ : Settings).Reads body f → (r.applyEvents f.events).1 = .error g →
      g.isOwn = true ∧ g.writable = true) ∧
    ∃ trace output,
      settle ⟨false, 10000⟩ 10000 p (.answered 201 body) r = .ok (.finished trace output) := by
  intro p r body
  have known : (match Report.ofBody false body with
      | .ok report => match Findings.ofReport report with
        | .ok f => f.statusId == accepted && f.stderr.isEmpty && f.exitCode.isNull &&
          f.events.isEmpty
        | .error _ => false
      | .error _ => false) = true := by decide +kernel
  split at known
  next report read =>
    split at known
    next f understood =>
      simp only [Bool.and_eq_true, String.isEmpty_iff, List.isEmpty_iff] at known
      obtain ⟨⟨⟨status, stderr⟩, exitCode⟩, silent⟩ := known
      have reads : (⟨false, 10000⟩ : Settings).Reads body f := ⟨report, read, understood⟩
      have applied : r.applyEvents f.events = (.ok (), r) := by
        rw [silent]
        rfl
      have fine : f.Accepted := ⟨status, stderr, .inl exitCode⟩
      have own : ∀ f g, (⟨false, 10000⟩ : Settings).Reads body f →
          (r.applyEvents f.events).1 = .error g → g.isOwn = true ∧ g.writable = true := by
        rintro f' g ⟨report', read', understood'⟩ failed
        cases read.symm.trans read'
        cases understood.symm.trans understood'
        rw [applied] at failed
        cases failed
      obtain ⟨answers, outcomes⟩ := settleIn_answered ⟨false, 10000⟩ 10000 p 201 body r own
      obtain ⟨o, ended⟩ := answers.mpr (.inr fun report' read' => by
        cases read.symm.trans read'
        refine ⟨Report.exists_findings_iff.mp ⟨f, understood⟩, fun f' v understood' cites => ?_⟩
        cases understood.symm.trans understood'
        cases cites with
        | unread _ unread => cases unread.symm.trans fine.early.2
        | failure _ _ _ failed => cases failed.symm.trans (Findings.accepted_iff.mp fine))
      have finished := ((outcomes o ended).2 f (by decide) reads).finished.mpr
        ⟨fine, congrArg Prod.fst applied⟩
      obtain ⟨trace, output, rfl⟩ := finished
      exact ⟨own, trace, output, ended⟩
    next => cases known
  next => cases known

/-- A status that is a number leaves the answer without an outcome. -/
theorem settle_number_status :
    let p := Script.submission .math "" "" 0
    let r : Registry .math := { shadow := (), maxActions := 1000 }
    settle {} 10000 p (.answered 201 "\x7b\"status\": 3\x7d") r =
      .error (.noAttribute "int" "get") := by
  rfl

end Executor

end PuzzleWorlds
