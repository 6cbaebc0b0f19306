import PuzzleWorlds.Proofs.PrintedEvents

/-! Calls in the middle of a program's own output. A call is told from the rest by the marker that
begins its line, so it is found again exactly where nothing stands before it on that line: a text
that was written without a line end takes the next call with it. -/

namespace PuzzleWorlds

/-- The lines of a text that are ended, and what stands behind the last end; `line` holds the
current line backwards. -/
def cutFrom (line : List Char) : List Char → List (List Char) × List Char
  | [] => ([], line.reverse)
  | '\r' :: '\n' :: rest => (line.reverse :: (cutFrom [] rest).1, (cutFrom [] rest).2)
  | c :: rest =>
    if isLineEnd c then (line.reverse :: (cutFrom [] rest).1, (cutFrom [] rest).2)
    else cutFrom (c :: line) rest

theorem linesFrom_eq_cutFrom (line cs : List Char) : linesFrom line cs =
    (cutFrom line cs).1 ++ if (cutFrom line cs).2.isEmpty then [] else [(cutFrom line cs).2] := by
  fun_induction cutFrom line cs with
  | case1 line => simp [linesFrom]
  | case2 line rest ih => simp [linesFrom, ih]
  | case3 line c rest other ended ih => rw [linesFrom.eq_3 _ _ _ other, if_pos ended, ih]; rfl
  | case4 line c rest other inside ih => rw [linesFrom.eq_3 _ _ _ other, if_neg inside, ih]

/-- A part of a line that is ended closes the line that is open before it. -/
theorem linesFrom_append_line {m : List Char} (inside : ∀ c ∈ m, isLineEnd c = false)
    (some : m ≠ []) (line cs rest : List Char) : linesFrom line (cs ++ (m ++ '\n' :: rest)) =
      (cutFrom line cs).1 ++ ((cutFrom line cs).2 ++ m) :: linesFrom [] rest := by
  fun_induction cutFrom line cs with
  | case1 line => exact linesFrom_line inside line rest
  | case2 line tail ih => simp [linesFrom, ih]
  | case3 line c tail other ended ih =>
    have apart : ∀ l, c = '\r' → tail ++ (m ++ '\n' :: rest) = '\n' :: l → False := by
      intro l same first
      cases tail with
      | nil =>
        obtain ⟨d, m, rfl⟩ := List.exists_cons_of_ne_nil some
        obtain rfl : d = '\n' := (List.cons.inj first).1
        exact absurd (inside '\n' List.mem_cons_self) (by decide)
      | cons d tail =>
        obtain rfl : d = '\n' := (List.cons.inj first).1
        exact other tail same rfl
    rw [List.cons_append, linesFrom.eq_3 _ _ _ apart, if_pos ended, ih]
    rfl
  | case4 line c tail other within ih =>
    have apart : ∀ l, c = '\r' → tail ++ (m ++ '\n' :: rest) = '\n' :: l → False := by
      rintro l rfl
      exact absurd rfl within
    rw [List.cons_append, linesFrom.eq_3 _ _ _ apart, if_neg within, ih]

theorem infix_of_mem_linesFrom {line cs l : List Char} (member : l ∈ linesFrom line cs) :
    l <:+: line.reverse ++ cs := by
  fun_induction linesFrom line cs with
  | case1 line none => cases member
  | case2 line some =>
    obtain rfl := List.mem_singleton.mp member
    exact (List.prefix_append _ _).isInfix
  | case3 line rest ih =>
    obtain rfl | later := List.mem_cons.mp member
    · exact (List.prefix_append _ _).isInfix
    · exact (ih later).trans ⟨line.reverse ++ ['\r', '\n'], [], by simp⟩
  | case4 line c rest other ended ih =>
    obtain rfl | later := List.mem_cons.mp member
    · exact (List.prefix_append _ _).isInfix
    · exact (ih later).trans ⟨line.reverse ++ [c], [], by simp⟩
  | case5 line c rest other within ih =>
    have inside := ih member
    rwa [List.reverse_cons, List.append_assoc] at inside

/-- No part of a line stands behind a text that is empty or ends with a line end. -/
def EndsLine (s : String) : Prop := s.toList.getLast?.all isLineEnd = true

instance (s : String) : Decidable (EndsLine s) :=
  inferInstanceAs (Decidable (s.toList.getLast?.all isLineEnd = true))

theorem cutFrom_snd_eq_nil {line : List Char} (inside : ∀ c ∈ line, isLineEnd c = false)
    (cs : List Char) : (cutFrom line cs).2 = [] ↔
      (line.reverse ++ cs).getLast?.all isLineEnd = true := by
  have feed : isLineEnd '\n' = true := rfl
  fun_induction cutFrom line cs with
  | case1 line =>
    cases line with
    | nil => simp
    | cons c line => simp [List.getLast?_append, (List.forall_mem_cons.mp inside).1]
  | case2 line rest ih =>
    refine (ih (List.forall_mem_nil _)).trans ?_
    cases last : rest.getLast? <;> simp [List.getLast?_append, List.getLast?_cons, last, feed]
  | case3 line c rest other ended ih =>
    refine (ih (List.forall_mem_nil _)).trans ?_
    cases last : rest.getLast? <;> simp [List.getLast?_append, List.getLast?_cons, last, ended]
  | case4 line c rest other within ih =>
    refine (ih (List.forall_mem_cons.mpr ⟨Bool.eq_false_of_not_eq_true within, inside⟩)).trans ?_
    simp

/-- The text before an ended part of a line is cut into its lines, the last of which goes on. -/
theorem splitLines_append_line {s : String} (inside : ∀ c ∈ s.toList, isLineEnd c = false)
    (some : s ≠ "") (a : String) : ∃ (ended : List String) (opened : String),
      (∀ b, splitLines (a ++ (s ++ "\n" ++ b)) = ended ++ (opened ++ s) :: splitLines b) ∧
      (∀ l ∈ ended, l ∈ splitLines a) ∧
      (opened = "" ↔ EndsLine a) ∧ (opened ≠ "" → opened ∈ splitLines a) := by
  have lines := linesFrom_eq_cutFrom [] a.toList
  refine ⟨(cutFrom [] a.toList).1.map String.ofList, String.ofList (cutFrom [] a.toList).2,
    fun b => ?_, fun l member => ?_, ?_, fun opened => ?_⟩
  · have characters : (a ++ (s ++ "\n" ++ b)).toList =
        a.toList ++ (s.toList ++ '\n' :: b.toList) := by simp
    have parts : s.toList ≠ [] := by simpa using some
    rw [splitLines, characters, linesFrom_append_line inside parts]
    simp [splitLines]
  · rw [splitLines, lines, List.map_append]
    exact List.mem_append_left _ member
  · have last := cutFrom_snd_eq_nil (List.forall_mem_nil _) a.toList
    rw [EndsLine, ← List.nil_append a.toList, ← List.reverse_nil, ← last]
    simp
  · have more : (cutFrom [] a.toList).2 ≠ [] := by simpa using opened
    rw [splitLines, lines, List.map_append]
    simp [more]

namespace Event

/-- No line of the text can be taken for that of a call. -/
def Unmarked (s : String) : Prop := ∀ l ∈ splitLines s, l.startsWith marker = false

/-- A text without the marker has no line that begins with it. -/
theorem unmarked_of_not_infix {s : String} (h : ¬marker.toList <:+: s.toList) :
    Unmarked s := by
  intro l member
  rw [String.startsWith_string_eq_false_iff]
  obtain ⟨cs, part, rfl⟩ := List.mem_map.mp member
  intro start
  rw [String.toList_ofList] at start
  exact h (start.isInfix.trans (infix_of_mem_linesFrom part))

/-- The marker does not begin again inside itself. -/
theorem not_prefix_drop_marker : ∀ n < marker.toList.length, 0 < n →
    ¬marker.toList.drop n <+: marker.toList := by decide

/-- What stands before a marker on its line hides it. -/
theorem startsWith_glued {u : String} (some : u ≠ "") (unmarked : u.startsWith marker = false)
    (t : String) : (u ++ (marker ++ t)).startsWith marker = false := by
  rw [String.startsWith_string_eq_false_iff] at unmarked ⊢
  intro glued
  simp only [String.toList_append] at glued
  have long : u.toList.length < marker.toList.length := by
    by_contra short
    have first : marker.toList <+: u.toList :=
      List.prefix_of_prefix_length_le glued (List.prefix_append _ _) (Nat.le_of_not_lt short)
    exact unmarked first
  have pos : 0 < u.toList.length := List.length_pos_iff.mpr (by simpa using some)
  obtain ⟨w, whole⟩ : u.toList <+: marker.toList :=
    List.prefix_of_prefix_length_le (List.prefix_append _ _) glued (Nat.le_of_lt long)
  have rest : marker.toList.drop u.toList.length = w := by
    rw [← whole, List.drop_left]
  refine not_prefix_drop_marker _ long pos ?_
  rw [rest]
  have again : w <+: marker.toList ++ t.toList := by
    rw [← List.prefix_append_right_inj u.toList, whole]
    exact glued
  refine List.prefix_of_prefix_length_le again (List.prefix_append _ _) ?_
  rw [← whole, List.length_append]
  exact Nat.le_add_left _ _

end Event

/-- What a program writes at once: a text of its own, which need not end a line, or the line of a
call, which is ended. -/
inductive Write where
  | own (s : String)
  | call (e : Event) (line : String) (printed : e.line = .ok line)

namespace Write

def text : Write → String
  | own s => s
  | call _ line _ => line ++ "\n"

/-- What is written one after the other. -/
def transcript : List Write → String
  | [] => ""
  | w :: ws => w.text ++ transcript ws

def event? : Write → Option Event
  | own _ => none
  | call e _ _ => some e

/-- The program's own texts before, between and behind its calls; `since` is what it has written
since the last one. -/
def ownTexts (since : String) : List Write → List String
  | [] => [since]
  | own s :: ws => ownTexts (since ++ s) ws
  | call _ _ _ :: ws => since :: ownTexts "" ws

/-- The calls that begin a line. -/
def begun (since : String) : List Write → List Event
  | [] => []
  | own s :: ws => begun (since ++ s) ws
  | call e _ _ :: ws => if EndsLine since then e :: begun "" ws else begun "" ws

theorem ofOutput_unmarked {s : String} (unmarked : Event.Unmarked s) :
    (Event.ofOutput s).1 = [] :=
  List.filterMap_eq_nil_iff.mpr fun l member => Event.ofLine?_eq_none (unmarked l member)

/-- The line of a call is read as the call if the text before it ends with a line, and is lost
otherwise; what follows is read on its own. -/
theorem ofOutput_call {e : Event} {line : String} (printed : e.line = .ok line)
    (data : ∀ v ∈ e.args, Json.IsData v) {since : String} (unmarked : Event.Unmarked since)
    (rest : String) : (Event.ofOutput (since ++ (line ++ "\n" ++ rest))).1 =
      (if EndsLine since then [e] else []) ++ (Event.ofOutput rest).1 := by
  obtain ⟨t, -, glue⟩ := Event.line_eq_ok printed
  have inside := isLineEnd_ascii (Event.ascii_line printed)
  have some : line ≠ "" := by
    rw [glue, ne_eq, ← String.toList_eq_nil_iff]
    simp [Event.marker]
  obtain ⟨ended, opened, lines, before, ends, last⟩ := splitLines_append_line inside some since
  have plain : ended.filterMap Event.ofLine? = [] := List.filterMap_eq_nil_iff.mpr fun l member =>
    Event.ofLine?_eq_none (unmarked l (before l member))
  rw [Event.ofOutput, lines, List.filterMap_append, plain, List.nil_append, List.filterMap_cons]
  by_cases start : EndsLine since
  · rw [if_pos start, ends.mpr start, String.empty_append, Event.ofLine?_line data printed]
    rfl
  · have open' : opened ≠ "" := mt ends.mp start
    have hidden : (opened ++ line).startsWith Event.marker = false := by
      rw [glue, String.append_assoc]
      exact Event.startsWith_glued open' (unmarked opened (last open')) (" " ++ t)
    rw [if_neg start, Event.ofLine?_eq_none hidden]
    rfl

theorem ofOutput_transcript_since {ws : List Write} {since : String}
    (own : ∀ s ∈ ownTexts since ws, Event.Unmarked s)
    (data : ∀ e ∈ ws.filterMap event?, ∀ v ∈ e.args, Json.IsData v) :
    (Event.ofOutput (since ++ transcript ws)).1 = begun since ws := by
  induction ws generalizing since with
  | nil =>
    rw [transcript, String.append_empty]
    exact ofOutput_unmarked (own since (List.mem_singleton_self since))
  | cons w ws ih =>
    cases w with
    | own s =>
      rw [transcript, text, ← String.append_assoc]
      exact ih own data
    | call e line printed =>
      obtain ⟨unmarked, own⟩ := List.forall_mem_cons.mp own
      obtain ⟨first, data⟩ := List.forall_mem_cons.mp data
      have others := ih own data
      rw [String.empty_append] at others
      rw [transcript, text, ofOutput_call printed first unmarked, others, begun]
      split <;> rfl

/-- Only calls are read, each at most once and in their order. -/
theorem begun_sublist (since : String) (ws : List Write) :
    (begun since ws).Sublist (ws.filterMap event?) := by
  induction ws generalizing since with
  | nil => exact .slnil
  | cons w ws ih =>
    cases w with
    | own s => exact ih _
    | call e line printed =>
      rw [begun]
      split
      · exact (ih "").cons_cons e
      · exact (ih "").cons e

/-- What was written before the line of a call does not matter behind it. -/
theorem endsLine_call (since : String) {e : Event} {line : String} (printed : e.line = .ok line)
    (ws : List Write) :
    EndsLine (since ++ transcript (call e line printed :: ws)) ↔ EndsLine (transcript ws) := by
  have feed : isLineEnd '\n' = true := rfl
  cases last : (transcript ws).toList.getLast? <;>
    simp [EndsLine, transcript, text, List.getLast?_append, List.getLast?_cons, last, feed]

/-- A call is the first thing that is written, or follows it. -/
theorem forall_call_cons {w : Write} {ws : List Write} {P : List Write → Prop} :
    (∀ before e line printed after, w :: ws = before ++ call e line printed :: after → P before) ↔
      (w.event? ≠ none → P []) ∧ ∀ before e line printed after,
        ws = before ++ call e line printed :: after → P (w :: before) := by
  constructor
  · refine fun all => ⟨fun some => ?_, fun before e line printed after split => ?_⟩
    · cases w with
      | own s => exact absurd rfl some
      | call e line printed => exact all [] e line printed ws rfl
    · exact all (w :: before) e line printed after (congrArg (w :: ·) split)
  · rintro ⟨first, others⟩ before e line printed after split
    cases before with
    | nil =>
      obtain ⟨rfl, -⟩ := List.cons.inj split
      exact first nofun
    | cons v before =>
      obtain ⟨rfl, behind⟩ := List.cons.inj split
      exact others before e line printed after behind

/-- No call is lost exactly if each of them begins a line. -/
theorem begun_eq_iff (since : String) (ws : List Write) :
    begun since ws = ws.filterMap event? ↔ ∀ before e line printed after,
      ws = before ++ call e line printed :: after → EndsLine (since ++ transcript before) := by
  induction ws generalizing since with
  | nil => simp [begun]
  | cons w ws ih =>
    rw [@forall_call_cons w ws fun before => EndsLine (since ++ transcript before)]
    cases w with
    | own s =>
      have kept := ih (since ++ s)
      simp only [String.append_assoc] at kept
      exact kept.trans (iff_and_self.mpr fun _ none => absurd rfl none)
    | call e line printed =>
      have nothing : transcript [] = "" := rfl
      simp only [endsLine_call, nothing, String.append_empty]
      by_cases start : EndsLine since
      · have others := ih ""
        simp only [String.empty_append] at others
        rw [begun, if_pos start]
        exact (List.cons_inj_right e).trans (others.trans (iff_and_self.mpr fun _ _ => start))
      · refine iff_of_false (fun all => ?_) fun starts => start (starts.1 nofun)
        rw [begun, if_neg start] at all
        have short := (begun_sublist "" ws).length_le
        have long := congrArg List.length all
        simp only [List.filterMap_cons, event?, List.length_cons] at long
        omega

/-- As long as no line of the program's own texts begins like that of a call, exactly the calls
that begin a line are read, so that none is lost exactly if every one does. -/
theorem ofOutput_transcript {ws : List Write} (own : ∀ s ∈ ownTexts "" ws, Event.Unmarked s)
    (data : ∀ e ∈ ws.filterMap event?, ∀ v ∈ e.args, Json.IsData v) :
    (Event.ofOutput (transcript ws)).1 = begun "" ws ∧
      ((Event.ofOutput (transcript ws)).1 = ws.filterMap event? ↔
        ∀ before e line printed after, ws = before ++ call e line printed :: after →
          EndsLine (transcript before)) := by
  have read := ofOutput_transcript_since own data
  rw [String.empty_append] at read
  refine ⟨read, ?_⟩
  rw [read, begun_eq_iff]
  simp only [String.empty_append]

theorem ofOutput_transcript_ready : ∃ line printed,
    (Event.ofOutput (transcript [own "ready\r", call ⟨"play", [.int 60, .float 0.1]⟩ line printed,
      own "done"])).1 = [⟨"play", [.int 60, .float 0.1]⟩] := by
  have fits : ∀ v ∈ [Value.int 60, .float 0.1], Json.IsData v :=
    List.forall_mem_cons.mpr ⟨.int 60, List.forall_mem_singleton.mpr (.float 0.1)⟩
  have short : ∀ v ∈ [Value.int 60, .float 0.1], v.writable = true :=
    List.forall_mem_cons.mpr ⟨by decide +kernel, List.forall_mem_singleton.mpr rfl⟩
  obtain ⟨line, printed⟩ := (Event.line_of_isData (e := ⟨"play", _⟩) fits).1 short
  have plain : ∀ s ∈ ["" ++ "ready\r", "" ++ "done"], ¬Event.marker.toList <:+: s.toList := by
    decide
  let ws : List Write := [own "ready\r", call ⟨"play", _⟩ line printed, own "done"]
  have data : ∀ e ∈ ws.filterMap event?, ∀ v ∈ e.args, Json.IsData v :=
    List.forall_mem_singleton.mpr fits
  have ends : EndsLine ("" ++ "ready\r") := by decide
  have unmarked : ∀ s ∈ ownTexts "" ws, Event.Unmarked s := fun s member =>
    Event.unmarked_of_not_infix (plain s member)
  have read := (@ofOutput_transcript ws unmarked data).1
  refine ⟨line, printed, read.trans ?_⟩
  simp only [ws, begun, ends, if_true]

/-- A text without a line end, and without the marker, takes the call behind it with it. -/
theorem ofOutput_glued : ∃ printed, ¬Event.marker.toList <:+: "x".toList ∧
    (Event.ofOutput (transcript [own "x", call ⟨"maju", []⟩
      "@@blockykids:action \x7b\"name\": \"maju\", \"args\": []\x7d" printed])).1 ≠
        [⟨"maju", []⟩] := by
  refine ⟨rfl, by decide, fun read => ?_⟩
  have lost : (Event.ofOutput (transcript [own "x", call ⟨"maju", []⟩
      "@@blockykids:action \x7b\"name\": \"maju\", \"args\": []\x7d" rfl])).1.isEmpty = true := by
    decide +kernel
  rw [read] at lost
  cases lost

end Write

end PuzzleWorlds
