import PuzzleWorlds.Event
import PuzzleWorlds.Proofs.JsonRoundTrip

/-! What a program prints is told apart again. Each event stands on one line of ASCII behind its
marker, so no line is split or taken for another. -/

namespace PuzzleWorlds

theorem linesFrom_line {l : List Char} (inside : ∀ c ∈ l, isLineEnd c = false)
    (line rest : List Char) :
    linesFrom line (l ++ '\n' :: rest) = (line.reverse ++ l) :: linesFrom [] rest := by
  induction l generalizing line with
  | nil =>
    rw [List.nil_append, linesFrom]
    · simp [isLineEnd]
    · simp
  | cons c l ih =>
    obtain ⟨shown, inside⟩ := List.forall_mem_cons.mp inside
    have other : c ≠ '\r' := by
      rintro rfl
      exact absurd shown (by decide)
    rw [List.cons_append, linesFrom]
    · simp [shown, ih inside]
    · simp [other]

theorem splitLines_line {s : String} (inside : ∀ c ∈ s.toList, isLineEnd c = false)
    (rest : String) : splitLines (s ++ "\n" ++ rest) = s :: splitLines rest := by
  have text : (s ++ "\n" ++ rest).toList = s.toList ++ '\n' :: rest.toList := by simp
  simp [splitLines, text, linesFrom_line inside]

theorem isLineEnd_ascii {cs : List Char} (ascii : Json.Ascii cs) :
    ∀ c ∈ cs, isLineEnd c = false := by
  intro c member
  obtain ⟨low, high⟩ := ascii c member
  simp only [isLineEnd, Bool.or_eq_false_iff, Bool.and_eq_false_iff, decide_eq_false_iff_not,
    beq_eq_false_iff_ne]
  omega

/-- The blank before a payload is taken off, and nothing else. -/
theorem stripChars_braces (mid : List Char) :
    stripChars (' ' :: '\x7b' :: (mid ++ ['\x7d'])) = '\x7b' :: (mid ++ ['\x7d']) := by
  have blank : isBlank ' ' = true := by decide
  have opened : isBlank '\x7b' = false := by decide
  have closed : isBlank '\x7d' = false := by decide
  simp [stripChars, stripStart, blank, opened, closed]

theorem Value.writableItems_eq_true {l : List Value} :
    writableItems l = true ↔ ∀ v ∈ l, v.writable = true := by
  induction l with
  | nil => simp [writableItems]
  | cons v l ih => simp [writableItems, ih]

namespace Event

theorem isData_payload {e : Event} (data : ∀ v ∈ e.args, Json.IsData v) :
    Json.IsData e.payload := by
  have values : ∀ entry ∈ [("name", Value.text e.name), ("args", .list e.args)],
      Json.IsData entry.2 :=
    List.forall_mem_cons.mpr ⟨.text e.name, List.forall_mem_singleton.mpr (.list data)⟩
  exact .dict (by simp) values

theorem ofPayload?_payload (e : Event) : ofPayload? e.payload = some e := by
  simp [ofPayload?, payload, Value.lookup]

/-- The line of an event has the JSON text of its payload. -/
theorem line_eq_ok {e : Event} {s : String} (printed : e.line = .ok s) :
    ∃ t, Json.text e.payload = .ok t ∧ s = marker ++ " " ++ t := by
  unfold line at printed
  cases written : Json.text e.payload with
  | error m => simp [written, Except.map] at printed
  | ok t =>
    rw [written] at printed
    exact ⟨t, rfl, (Except.ok.inj printed).symm⟩

/-- Only a whole number with too many digits keeps the event from being printed. -/
theorem line_of_isData {e : Event} (data : ∀ v ∈ e.args, Json.IsData v) :
    ((∀ v ∈ e.args, v.writable = true) → ∃ s, e.line = .ok s) ∧
      ((¬∀ v ∈ e.args, v.writable = true) → e.line = .error .unwritable) := by
  have obstacle := Json.obstacle?_of_isData (isData_payload data)
  have short : e.payload.writable = true ↔ ∀ v ∈ e.args, v.writable = true := by
    simp [payload, Value.writable, Value.writableEntries, Value.writableItems_eq_true]
  constructor
  · intro h
    rw [if_pos (short.mpr h)] at obstacle
    exact ⟨_, by rw [line, Json.text, obstacle]; rfl⟩
  · intro h
    rw [if_neg (mt short.mp h)] at obstacle
    rw [line, Json.text, obstacle]
    rfl

theorem ascii_line {e : Event} {s : String} (printed : e.line = .ok s) : Json.Ascii s.toList := by
  obtain ⟨t, written, rfl⟩ := line_eq_ok printed
  rw [String.toList_append, String.toList_append, Json.ascii_append, Json.ascii_append]
  refine ⟨⟨by decide, by decide⟩, ?_⟩
  rw [Json.text_eq_ok written]
  exact Json.write_ascii e.payload

theorem drop_marker (t : String) :
    ((marker ++ " " ++ t).drop marker.length).toString.toList = ' ' :: t.toList := by
  rw [String.Slice.toString_eq, String.toList_copy_drop, String.append_assoc, String.toList_append,
    ← String.length_toList, List.drop_left, String.toList_append]
  rfl

theorem startsWith_marker (t : String) : (marker ++ " " ++ t).startsWith marker = true := by
  rw [String.startsWith_string_iff, String.append_assoc, String.toList_append]
  exact List.prefix_append _ _

theorem ofLine?_eq_none {l : String} (unmarked : l.startsWith marker = false) :
    ofLine? l = none := by
  rw [ofLine?, unmarked]
  rfl

theorem ofLine?_line {e : Event} (data : ∀ v ∈ e.args, Json.IsData v) {s : String}
    (printed : e.line = .ok s) : ofLine? s = some e := by
  obtain ⟨t, written, rfl⟩ := line_eq_ok printed
  have stripped : strip ((marker ++ " " ++ t).drop marker.length).toString = t := by
    have braces := Json.write_dict [("name", .text e.name), ("args", .list e.args)]
    rw [strip, drop_marker, Json.text_eq_ok written, payload, braces, stripChars_braces, ← braces,
      String.ofList_toList]
  rw [ofLine?, if_pos (startsWith_marker t), stripped, Json.read_text (isData_payload data) written]
  exact ofPayload?_payload e

end Event

/-- What a program prints: the line of a call, or a line of its own. -/
inductive Printout where
  | call (e : Event)
  | line (s : String)

namespace Printout

def text : Printout → Except Misfit String
  | call e => e.line
  | line s => .ok s

/-- The text of what is printed, each on a line that is ended. -/
def page : List Printout → Except Misfit String
  | [] => .ok ""
  | o :: rest => do return (← o.text) ++ "\n" ++ (← page rest)

def event? : Printout → Option Event
  | call e => some e
  | line _ => none

def line? : Printout → Option String
  | call _ => none
  | line s => some s

/-- The arguments of a call are JSON values; a line of the program's own is one line and does not
begin with the marker. -/
def Fits : Printout → Prop
  | call e => ∀ v ∈ e.args, Json.IsJson v
  | line s => (∀ c ∈ s.toList, isLineEnd c = false) ∧ s.startsWith Event.marker = false

/-- No whole number in the arguments has more digits than can be written. -/
def Short : Printout → Prop
  | call e => ∀ v ∈ e.args, v.writable = true
  | line _ => True

theorem line_text {o : Printout} (fits : o.Fits) {s : String} (printed : o.text = .ok s) :
    ∀ c ∈ s.toList, isLineEnd c = false := by
  cases o with
  | call e => exact isLineEnd_ascii (Event.ascii_line printed)
  | line l =>
    cases printed
    exact fits.1

/-- The first line of an output is the first item again. -/
theorem ofOutput_cons {o : Printout} (fits : o.Fits) {s : String} (printed : o.text = .ok s)
    (rest : String) :
    Event.ofOutput (s ++ "\n" ++ rest) = (o.event?.toList ++ (Event.ofOutput rest).1,
      o.line?.toList ++ (Event.ofOutput rest).2) := by
  rw [Event.ofOutput, splitLines_line (line_text fits printed)]
  cases o with
  | call e =>
    have read : Event.ofLine? s = some e :=
      Event.ofLine?_line (fun v member => (fits v member).isData) printed
    simp [read, event?, line?, Event.ofOutput]
  | line l =>
    have same : l = s := Except.ok.inj printed
    have plain : Event.ofLine? s = none := same ▸ Event.ofLine?_eq_none fits.2
    simp [plain, same, event?, line?, Event.ofOutput]

theorem page_cons_ok {o : Printout} {os : List Printout} {t : String}
    (printed : page (o :: os) = .ok t) :
    ∃ s rest, o.text = .ok s ∧ page os = .ok rest ∧ t = s ++ "\n" ++ rest := by
  cases first : o.text with
  | error m => simp [page, first, bind, Except.bind] at printed
  | ok s =>
    cases others : page os with
    | error m => simp [page, first, others, bind, Except.bind] at printed
    | ok rest =>
      simp only [page, first, others, bind, Except.bind] at printed
      exact ⟨s, rest, rfl, rfl, (Except.ok.inj printed).symm⟩

/-- Whatever could be printed is told apart again. -/
theorem ofOutput_of_page {os : List Printout} (fits : ∀ o ∈ os, o.Fits) {t : String}
    (printed : page os = .ok t) :
    Event.ofOutput t = (os.filterMap event?, os.filterMap line?) := by
  induction os generalizing t with
  | nil =>
    cases printed
    rfl
  | cons o os ih =>
    obtain ⟨first, fits⟩ := List.forall_mem_cons.mp fits
    obtain ⟨s, rest, shown, others, rfl⟩ := page_cons_ok printed
    rw [ofOutput_cons first shown, ih fits others]
    cases o <;> rfl

theorem text_of_fits {o : Printout} (fits : o.Fits) :
    (o.Short → ∃ s, o.text = .ok s) ∧ (¬o.Short → o.text = .error .unwritable) := by
  cases o with
  | line s => exact ⟨fun _ => ⟨s, rfl⟩, fun long => absurd trivial long⟩
  | call e => exact Event.line_of_isData fun v member => (fits v member).isData

theorem page_of_short {os : List Printout} (fits : ∀ o ∈ os, o.Fits) (short : ∀ o ∈ os, o.Short) :
    ∃ t, page os = .ok t := by
  induction os with
  | nil => exact ⟨"", rfl⟩
  | cons o os ih =>
    obtain ⟨first, fits⟩ := List.forall_mem_cons.mp fits
    obtain ⟨small, short⟩ := List.forall_mem_cons.mp short
    obtain ⟨s, shown⟩ := (text_of_fits first).1 small
    obtain ⟨rest, others⟩ := ih fits short
    exact ⟨s ++ "\n" ++ rest, by rw [page, shown, others]; rfl⟩

/-- What is printed is told apart again, as long as every whole number in it can be written. -/
theorem ofOutput_page {os : List Printout} (fits : ∀ o ∈ os, o.Fits)
    (short : ∀ o ∈ os, o.Short) : ∃ t, page os = .ok t ∧
      Event.ofOutput t = (os.filterMap event?, os.filterMap line?) := by
  obtain ⟨t, printed⟩ := page_of_short fits short
  exact ⟨t, printed, ofOutput_of_page fits printed⟩

theorem ofOutput_page_mixed :
    ∃ t, page [call ⟨"a\nb", [.int (-7), .text "é\"\\"]⟩, line "ready",
        call ⟨"", [.dict [("k", .list [.null])]]⟩] = .ok t ∧
      Event.ofOutput t = ([⟨"a\nb", [.int (-7), .text "é\"\\"]⟩,
        ⟨"", [.dict [("k", .list [.null])]]⟩], ["ready"]) := by
  have first : (call ⟨"a\nb", [.int (-7), .text "é\"\\"]⟩).Fits :=
    List.forall_mem_cons.mpr ⟨.int _, List.forall_mem_singleton.mpr (.text _)⟩
  have nested : Json.IsJson (.list [.null]) := .list (List.forall_mem_singleton.mpr .null)
  have last : (call ⟨"", [.dict [("k", .list [.null])]]⟩).Fits :=
    List.forall_mem_singleton.mpr (.dict (by simp) (List.forall_mem_singleton.mpr nested))
  have short : (call ⟨"a\nb", [.int (-7), .text "é\"\\"]⟩).Short :=
    List.forall_mem_cons.mpr ⟨by decide +kernel, List.forall_mem_singleton.mpr rfl⟩
  refine ofOutput_page (List.forall_mem_cons.mpr ⟨first, List.forall_mem_cons.mpr
    ⟨⟨isLineEnd_ascii (by decide), ?_⟩, List.forall_mem_singleton.mpr last⟩⟩) (List.forall_mem_cons.mpr ⟨short,
      List.forall_mem_cons.mpr ⟨trivial, List.forall_mem_singleton.mpr
        (List.forall_mem_singleton.mpr rfl)⟩⟩)
  rw [String.startsWith_string_eq_false_iff]
  decide

theorem page_long {os : List Printout} (fits : ∀ o ∈ os, o.Fits) (long : ∃ o ∈ os, ¬o.Short) :
    page os = .error .unwritable := by
  induction os with
  | nil => simp at long
  | cons o os ih =>
    obtain ⟨first, fits⟩ := List.forall_mem_cons.mp fits
    by_cases small : o.Short
    · obtain ⟨s, shown⟩ := (text_of_fits first).1 small
      have others := ih fits (by simpa [small] using long)
      rw [page, shown, others]
      rfl
    · rw [page, (text_of_fits first).2 small]
      rfl

/-- A whole number of 4301 digits is a JSON value that cannot be printed. -/
theorem page_too_long : (∀ o ∈ [call ⟨"n", [.int (10 ^ 4300)]⟩], o.Fits) ∧
    ¬∃ t, page [call ⟨"n", [.int (10 ^ 4300)]⟩] = .ok t ∧
      Event.ofOutput t = ([⟨"n", [.int (10 ^ 4300)]⟩], []) := by
  have fits : ∀ o ∈ [call ⟨"n", [.int (10 ^ 4300)]⟩], o.Fits :=
    List.forall_mem_singleton.mpr (List.forall_mem_singleton.mpr (.int _))
  have long : ∃ o ∈ [call ⟨"n", [.int (10 ^ 4300)]⟩], ¬o.Short := by
    refine ⟨_, List.mem_singleton_self _, fun short => ?_⟩
    exact absurd (short _ (List.mem_singleton_self _)) (by decide +kernel)
  refine ⟨fits, ?_⟩
  rintro ⟨t, printed, -⟩
  rw [page_long fits long] at printed
  contradiction

end Printout

end PuzzleWorlds
