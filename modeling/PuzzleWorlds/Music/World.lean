import PuzzleWorlds.Music.Level
import PuzzleWorlds.Music.Note
import PuzzleWorlds.Reaction
import PuzzleWorlds.Verdict

/-! The timeline of played notes and rests. Goals look at the notes in the log. -/

namespace PuzzleWorlds.Music

structure World where
  notesPlayed : List String := []
  beats : Value := 0
deriving Repr

namespace World

def initial : World := {}

def knownNote? (v : Value) : Option String :=
  v.text?.bind fun s => if notes.contains s then some s else none

def playNote (w : World) (note : Value) : Except Misfit (Reaction World) := do
  note.keyed
  match knownNote? note with
  | none => return .refused (.unknownNote note)
  | some s =>
    let beats ← Value.operation .add w.beats 1
    return .changed { notesPlayed := w.notesPlayed ++ [s], beats } [s!"Played {s}"]

def rest (w : World) (beats : Value) : Except Misfit (Reaction World) := do
  let pause := beats.orElse 0
  let total ← Value.operation .add w.beats pause
  return .changed { w with beats := total } [s!"Rest {pause.display} beat(s)"]

def handled : List ActionKind := [.playNote, .rest]

def react (w : World) (a : Action) : Except Misfit (Reaction World) :=
  match a.kind with
  | .playNote => w.playNote a.payload.note
  | .rest => w.rest a.payload.beats
  | k => .ok (.refused (.noHandler k .music))

def toDict (w : World) : Value :=
  .dict [("notes_played", .list (w.notesPlayed.map .text)), ("beats", w.beats)]

end World

/-- How often a note was played, or how many notes were. -/
def countNotes (note : Option String) (played : List Value) : Nat :=
  match note with
  | none => played.length
  | some n => played.countP fun p => Value.same p (.text n)

def checkSequence (required : List String) (played : List Value) : Verdict :=
  let expected := required.map Value.text
  let details : List (String × Value) := [("expected", .list expected), ("notes", .list played)]
  if Value.sameItems (played.take expected.length) expected then
    .passed "You played the melody!" details
  else .failed ("Play the notes in this order: " ++ " ".intercalate required) details

def checkNotes (required : List String) (minNotes : Option Int) (played : List Value) :
    Except Misfit Verdict := do
  let details : List (String × Value) := [("notes", .list played)]
  let missing := required.filter fun n => !played.any fun p => Value.same p (.text n)
  if !missing.isEmpty then
    return .failed s!"Still missing: {Value.joinComma missing}"
      (("missing", .list (missing.map .text)) :: details)
  match minNotes with
  | some n =>
    if (played.length : Int) < n then
      return .failed s!"Play at least {← (Value.int n).written} notes" details
  | none => pure ()
  return .passed "All the notes are there!" details

def checkRepetition (minNotes : Int) (note : Option String) (played : List Value) :
    Except Misfit Verdict := do
  let details : List (String × Value) := [("notes", .list played)]
  let counted := countNotes note played
  if (counted : Int) ≥ minNotes then
    return .passed s!"{natText counted} notes, nice rhythm!" details
  let what := match note with
    | some n => if n.isEmpty then "" else n ++ " "
    | none => ""
  return .failed s!"Play {what}at least {← (Value.int minNotes).written} times; a loop helps" details

def checkGoal (l : Level) (log : ActionLog) : Except Misfit Verdict :=
  match l.goal with
  | .free n => judgeFree log.size n
  | .sequence required => .ok (checkSequence required log.notes)
  | .notes required minNotes => checkNotes required minNotes log.notes
  | .repetition minNotes note => checkRepetition minNotes note log.notes

end PuzzleWorlds.Music
