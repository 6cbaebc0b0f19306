import PuzzleWorlds.Domain.Level
import PuzzleWorlds.Proofs.KeyedEntries
import PuzzleWorlds.Proofs.RevisedDocuments

/-! Levels whose fields are spelled in one way or the other. Whichever spelling a document uses for
a field, at whatever depth, the same level is read from it or the same errors are found in it; and
if it uses both, only the camelCase one counts. -/

namespace PuzzleWorlds

/-- The place with its keys in camelCase. -/
def Place.camel : Place → Place
  | key k => key (camelCase k)
  | index n => index n

/-- What stood under the key `a` stands under `b`, where nothing was, and all else is as it was. -/
structure Moved (a b : String) (es es' : List (String × Value)) : Prop where
  moved : Value.lookup es' b = Value.lookup es a
  free : Value.lookup es b = none
  gone : Value.lookup es' a = none
  others : ∀ k, k ≠ a → k ≠ b → Value.lookup es' k = Value.lookup es k

/-- A key that is written anew where it stands moves what it holds. -/
theorem moved_of_renamed {a b : String} (other : a ≠ b) (before after : List (String × Value))
    (x : Value) (fresh : a ∉ before.map Prod.fst ∧ a ∉ after.map Prod.fst)
    (fresh' : b ∉ before.map Prod.fst ∧ b ∉ after.map Prod.fst) :
    Moved a b (before ++ (a, x) :: after) (before ++ (b, x) :: after) := by
  simp only [← Value.lookup_eq_none_iff] at fresh fresh'
  constructor
  · simp [Value.lookup_append, Value.lookup_cons, fresh, fresh']
  · simp [Value.lookup_append, Value.lookup_cons, fresh', other]
  · simp [Value.lookup_append, Value.lookup_cons, fresh, other.symm]
  · intro k left right
    simp [Value.lookup_append, Value.lookup_cons, left.symm, right.symm]

/-- A field that is present in one spelling is spelled in the other way. -/
def Respelled : Edit := fun names es es' =>
  ∃ name ∈ names, Moved name (camelCase name) es es' ∨ Moved (camelCase name) name es es'

/-- A field is present in camelCase, and its entry in snake_case changes, comes or goes. -/
def Overridden : Edit := fun names es es' =>
  ∃ name ∈ names, camelCase name ≠ name ∧ (∃ x, Value.lookup es (camelCase name) = some x) ∧
    ∀ k, k ≠ name → Value.lookup es' k = Value.lookup es k

/-- An entry that is no field changes, comes or goes. -/
def Ignored : Edit := fun names es es' =>
  ∃ key, (∀ name ∈ names, name ≠ key ∧ camelCase name ≠ key) ∧
    ∀ k, k ≠ key → Value.lookup es' k = Value.lookup es k

section Harmless

variable {names : List String} {name name' : String}

/-- Two fields have no key in common. -/
theorem key_ne_of_name_ne (apart : (names.map camelCase).Nodup) (member : name ∈ names)
    (member' : name' ∈ names) (other : name' ≠ name) {k l : String}
    (spelled : camelCase k = camelCase name) (spelled' : camelCase l = camelCase name') :
    l ≠ k := by
  rintro rfl
  exact other (List.inj_on_of_nodup_map apart member' member (spelled'.symm.trans spelled))

theorem respelled_harmless : Harmless Place.camel Respelled := by
  rintro names es es' v w apart ⟨name, member, edited⟩ name' member'
  by_cases same : name' = name
  · subst same
    have shown : Place.camel (.key name') = Place.camel (.key (camelCase name')) := by
      rw [Place.camel, Place.camel, camelCase_camelCase]
    obtain ⟨moved, free, gone, -⟩ | ⟨moved, free, gone, -⟩ := edited
    · cases here : Value.lookup es name' with
      | none =>
        rw [Fields.find?_of_none free here, Fields.find?_of_none (moved.trans here) gone]
        exact .none
      | some x =>
        rw [Fields.find?_of_named free here, Fields.find?_of_camel (moved.trans here)]
        exact .some ⟨shown, rfl⟩
    · cases here : Value.lookup es (camelCase name') with
      | none =>
        rw [Fields.find?_of_none here free, Fields.find?_of_none gone (moved.trans here)]
        exact .none
      | some x =>
        rw [Fields.find?_of_camel here, Fields.find?_of_named gone (moved.trans here)]
        exact .some ⟨shown.symm, rfl⟩
  · have kept (l : String) (spelled : camelCase l = camelCase name') :
        Value.lookup es l = Value.lookup es' l := by
      have named : l ≠ name := key_ne_of_name_ne apart member member' same rfl spelled
      have cameled : l ≠ camelCase name :=
        key_ne_of_name_ne apart member member' same (camelCase_camelCase name) spelled
      obtain edited | edited := edited
      · exact (edited.others l named cameled).symm
      · exact (edited.others l cameled named).symm
    rw [Fields.find?_congr (w := w) (kept _ (camelCase_camelCase name')) (kept _ rfl)]
    exact sameField_refl (fun _ => rfl) _

theorem overridden_harmless {view : Place → Place} : Harmless view Overridden := by
  rintro names es es' v w apart ⟨name, member, two, ⟨x, found⟩, others⟩ name' member'
  have same : Fields.find? { entries := es, whole := v } name' =
      Fields.find? { entries := es', whole := w } name' := by
    by_cases same : name' = name
    · subst same
      rw [Fields.find?_of_camel found, Fields.find?_of_camel ((others _ two).trans found)]
    · have kept (l : String) (spelled : camelCase l = camelCase name') :
          Value.lookup es l = Value.lookup es' l :=
        (others l (key_ne_of_name_ne apart member member' same rfl spelled)).symm
      exact Fields.find?_congr (kept _ (camelCase_camelCase name')) (kept _ rfl)
  rw [same]
  exact sameField_refl (fun _ => rfl) _

theorem ignored_harmless {view : Place → Place} : Harmless view Ignored := by
  rintro names es es' v w - ⟨key, strange, others⟩ name member
  obtain ⟨named, cameled⟩ := strange name member
  rw [Fields.find?_congr (w := w) (others _ cameled).symm (others _ named).symm]
  exact sameField_refl (fun _ => rfl) _

end Harmless

/-! The shapes of the levels, and that they are read by them. -/

variable {view : Place → Place} {edit : Edit}

namespace LevelHeader

def fields : List (String × Shape) :=
  Shape.plains ["id", "name", "difficulty", "description", "hints", "allowed_blocks"]

theorem decode_agrees {own : List (String × Shape)} {o o' : Fields}
    (alike : Fields.Alike view edit (fields ++ own) o o') :
    Decoded.Agrees view (decode o) (decode o') :=
  (((((Decoded.Agrees.map _ (alike.required rfl .plain)).seq (alike.required rfl .plain)).seq
    (alike.withDefault rfl .plain)).seq (alike.withDefault rfl .plain)).seq
    (alike.withDefault rfl .plain)).seq (alike.withDefault rfl .plain)

end LevelHeader

def freeGoalFields : List (String × Shape) := Shape.plains ["type", "min_actions"]

theorem decodeFreeGoal_variant (f : Int → α) :
    Decoder.Variant view edit "type" ("free", freeGoalFields)
      ("free", fun o => f <$> decodeFreeGoal o) :=
  ⟨rfl, rfl, by decide +kernel, fun alike => (alike.withDefault rfl .plain).map f⟩

namespace Robot.Level

def startFields : List (String × Shape) := Shape.plains ["x", "y", "direction"]

def pointFields : List (String × Shape) := Shape.plains ["x", "y"]

def goalVariants : List (String × List (String × Shape)) :=
  [("position", Shape.plains ["type", "x", "y", "require_all_stars"]), ("free", freeGoalFields)]

def fields : List (String × Shape) :=
  LevelHeader.fields ++ [("domain", .plain), ("width", .plain), ("height", .plain),
    ("robot", .object startFields), ("stars", .items (.object pointFields)),
    ("goal", .tagged "type" goalVariants)]

theorem decodeStart_keeps (harmless : Harmless view edit) :
    decodeStart.Keeps view edit (.object startFields) := by
  refine .object harmless ⟨by decide +kernel, fun alike => ?_⟩
  exact ((Decoded.Agrees.map _ (alike.withDefault rfl .plain)).seq
    (alike.withDefault rfl .plain)).seq (alike.withDefault rfl .plain)

theorem decodePoint_keeps (harmless : Harmless view edit) :
    decodePoint.Keeps view edit (.object pointFields) := by
  refine .object harmless ⟨by decide +kernel, fun alike => ?_⟩
  exact (Decoded.Agrees.map _ (alike.required rfl .plain)).seq (alike.required rfl .plain)

theorem decodeGoal_keeps (harmless : Harmless view edit) :
    decodeGoal.Keeps view edit (.tagged "type" goalVariants) := by
  refine .tagged harmless (by decide +kernel)
    (.cons ⟨rfl, rfl, by decide +kernel, fun alike => ?position⟩
      (.cons (decodeFreeGoal_variant _) .nil))
  exact ((Decoded.Agrees.map _ (alike.required rfl .plain)).seq
    (alike.required rfl .plain)).seq (alike.withDefault rfl .plain)

theorem decode_describes (harmless : Harmless view edit) :
    Fields.Describes view edit fields decode := by
  refine ⟨by decide +kernel, fun alike => ?_⟩
  exact ((((((LevelHeader.decode_agrees alike).map _).seq (alike.withDefault rfl .plain)).seq
    (alike.withDefault rfl .plain)).seq (alike.withDefault rfl (decodeStart_keeps harmless))).seq
    (alike.withDefault rfl (decodePoint_keeps harmless).list)).seq
    (alike.required rfl (decodeGoal_keeps harmless))

end Robot.Level

namespace Building.Level

def sizeFields : List (String × Shape) := Shape.plains ["width", "height", "depth"]

def cellFields : List (String × Shape) := Shape.plains ["x", "y", "z", "color"]

def goalVariants : List (String × List (String × Shape)) :=
  [("structureMatch", ("target", .items (.object cellFields)) ::
    Shape.plains ["type", "exact", "match_colors", "min_blocks"]), ("free", freeGoalFields)]

def fields : List (String × Shape) :=
  LevelHeader.fields ++ [("domain", .plain), ("grid_size", .object sizeFields),
    ("available_colors", .plain), ("start", .object cellFields),
    ("goal", .tagged "type" goalVariants)]

theorem decodeSize_keeps (harmless : Harmless view edit) :
    decodeSize.Keeps view edit (.object sizeFields) := by
  refine .object harmless ⟨by decide +kernel, fun alike => ?_⟩
  exact ((Decoded.Agrees.map _ (alike.withDefault rfl .plain)).seq
    (alike.withDefault rfl .plain)).seq (alike.withDefault rfl .plain)

theorem decodeCell_keeps (harmless : Harmless view edit) :
    decodeCell.Keeps view edit (.object cellFields) := by
  refine .object harmless ⟨by decide +kernel, fun alike => ?_⟩
  exact (((Decoded.Agrees.map _ (alike.required rfl .plain)).seq (alike.required rfl .plain)).seq
    (alike.required rfl .plain)).seq (alike.withDefault rfl .plain)

theorem decodeGoal_keeps (harmless : Harmless view edit) :
    decodeGoal.Keeps view edit (.tagged "type" goalVariants) := by
  refine .tagged harmless (by decide +kernel)
    (.cons ⟨rfl, rfl, by decide +kernel, fun alike => ?build⟩
      (.cons (decodeFreeGoal_variant _) .nil))
  exact (((Decoded.Agrees.map _ (alike.withDefault rfl (decodeCell_keeps harmless).list)).seq
    (alike.withDefault rfl .plain)).seq (alike.withDefault rfl .plain)).seq
    (alike.withDefault rfl .plain)

theorem decode_describes (harmless : Harmless view edit) :
    Fields.Describes view edit fields decode := by
  refine ⟨by decide +kernel, fun alike => ?_⟩
  exact (((((LevelHeader.decode_agrees alike).map _).seq
    (alike.withDefault rfl (decodeSize_keeps harmless))).seq (alike.withDefault rfl .plain)).seq
    (alike.withDefault rfl (decodeCell_keeps harmless))).seq
    (alike.required rfl (decodeGoal_keeps harmless))

end Building.Level

namespace Sorting.Level

def goalVariants : List (String × List (String × Shape)) :=
  [("sortedWithBudget", Shape.plains ["type", "order", "max_swaps"]), ("free", freeGoalFields)]

def fields : List (String × Shape) :=
  LevelHeader.fields ++ [("domain", .plain), ("potions", .plain),
    ("goal", .tagged "type" goalVariants)]

theorem decodeGoal_keeps (harmless : Harmless view edit) :
    decodeGoal.Keeps view edit (.tagged "type" goalVariants) := by
  refine .tagged harmless (by decide +kernel)
    (.cons ⟨rfl, rfl, by decide +kernel, fun alike => ?sorted⟩
      (.cons (decodeFreeGoal_variant _) .nil))
  exact (Decoded.Agrees.map _ (alike.withDefault rfl .plain)).seq (alike.withDefault rfl .plain)

theorem decode_describes (harmless : Harmless view edit) :
    Fields.Describes view edit fields decode := by
  refine ⟨by decide +kernel, fun alike => ?_⟩
  exact (((LevelHeader.decode_agrees alike).map _).seq (alike.required rfl .plain)).seq
    (alike.required rfl (decodeGoal_keeps harmless))

end Sorting.Level

namespace Combat.Level

def sizeFields : List (String × Shape) := Shape.plains ["width", "height"]

def unitFields : List (String × Shape) :=
  Shape.plains ["id", "name", "x", "y", "hp", "attack", "range", "max_hp"]

def goalVariants : List (String × List (String × Shape)) :=
  [("targetSelection", Shape.plains ["type", "expected_target"]), ("free", freeGoalFields)]

def fields : List (String × Shape) :=
  LevelHeader.fields ++ [("domain", .plain), ("grid_size", .object sizeFields),
    ("hero", .object unitFields), ("enemies", .items (.object unitFields)),
    ("goal", .tagged "type" goalVariants)]

theorem decodeSize_keeps (harmless : Harmless view edit) :
    decodeSize.Keeps view edit (.object sizeFields) := by
  refine .object harmless ⟨by decide +kernel, fun alike => ?_⟩
  exact (Decoded.Agrees.map _ (alike.withDefault rfl .plain)).seq (alike.withDefault rfl .plain)

theorem decodeUnit_keeps (harmless : Harmless view edit) :
    decodeUnit.Keeps view edit (.object unitFields) := by
  refine .object harmless ⟨by decide +kernel, fun alike => ?_⟩
  exact (((((((Decoded.Agrees.map _ (alike.required rfl .plain)).seq
    (alike.required rfl .plain)).seq (alike.required rfl .plain)).seq
    (alike.required rfl .plain)).seq (alike.required rfl .plain)).seq
    (alike.withDefault rfl .plain)).seq (alike.withDefault rfl .plain)).seq
    (alike.withDefault rfl .plain)

theorem decodeGoal_keeps (harmless : Harmless view edit) :
    decodeGoal.Keeps view edit (.tagged "type" goalVariants) := by
  refine .tagged harmless (by decide +kernel)
    (.cons ⟨rfl, rfl, by decide +kernel, fun alike => ?target⟩
      (.cons (decodeFreeGoal_variant _) .nil))
  exact (alike.withDefault rfl .plain).map _

theorem decode_describes (harmless : Harmless view edit) :
    Fields.Describes view edit fields decode := by
  refine ⟨by decide +kernel, fun alike => ?_⟩
  have unit := decodeUnit_keeps harmless
  exact (((((LevelHeader.decode_agrees alike).map _).seq
    (alike.withDefault rfl (decodeSize_keeps harmless))).seq (alike.withDefault rfl unit)).seq
    (alike.withDefault rfl unit.list)).seq (alike.required rfl (decodeGoal_keeps harmless))

end Combat.Level

namespace Music.Level

def goalVariants : List (String × List (String × Shape)) :=
  [("notes", Shape.plains ["type", "required", "min_notes"]),
    ("sequence", Shape.plains ["type", "required"]),
    ("repeat", Shape.plains ["type", "min_notes", "note"]), ("free", freeGoalFields)]

def fields : List (String × Shape) :=
  LevelHeader.fields ++ [("domain", .plain), ("goal", .tagged "type" goalVariants)]

theorem decodeGoal_keeps (harmless : Harmless view edit) :
    decodeGoal.Keeps view edit (.tagged "type" goalVariants) := by
  refine .tagged harmless (by decide +kernel)
    (.cons ⟨rfl, rfl, by decide +kernel, fun alike => ?notes⟩
      (.cons ⟨rfl, rfl, by decide +kernel, fun alike => ?sequence⟩
        (.cons ⟨rfl, rfl, by decide +kernel, fun alike => ?repetition⟩
          (.cons (decodeFreeGoal_variant _) .nil))))
  case notes =>
    exact (Decoded.Agrees.map _ (alike.withDefault rfl .plain)).seq (alike.withDefault rfl .plain)
  case sequence => exact (alike.required rfl .plain).map _
  case repetition =>
    exact (Decoded.Agrees.map _ (alike.withDefault rfl .plain)).seq (alike.withDefault rfl .plain)

theorem decode_describes (harmless : Harmless view edit) :
    Fields.Describes view edit fields decode := by
  refine ⟨by decide +kernel, fun alike => ?_⟩
  exact ((LevelHeader.decode_agrees alike).map _).seq
    (alike.required rfl (decodeGoal_keeps harmless))

end Music.Level

namespace Sprite.Level

def figureFields : List (String × Shape) := Shape.plains ["id", "emoji", "x", "y"]

def goalVariants : List (String × List (String × Shape)) :=
  [("position", Shape.plains ["type", "x", "y", "tolerance"]),
    ("action", Shape.plains ["type", "action"]), ("rotation", Shape.plains ["type", "degrees"]),
    ("scale", Shape.plains ["type", "percent", "tolerance"]),
    ("speech", Shape.plains ["type", "text"]), ("free", freeGoalFields)]

def fields : List (String × Shape) :=
  LevelHeader.fields ++ [("domain", .plain), ("sprites", .items (.object figureFields)),
    ("goal", .tagged "type" goalVariants)]

theorem decodeFigure_keeps (harmless : Harmless view edit) :
    decodeFigure.Keeps view edit (.object figureFields) := by
  refine .object harmless ⟨by decide +kernel, fun alike => ?_⟩
  exact (((Decoded.Agrees.map _ (alike.required rfl .plain)).seq (alike.withDefault rfl .plain)).seq
    (alike.withDefault rfl .plain)).seq (alike.withDefault rfl .plain)

theorem decodeFigures_keeps (harmless : Harmless view edit) :
    Decoder.Keeps view edit (.items (.object figureFields)) decodeFigures := by
  intro v w revised
  refine ((decodeFigure_keeps harmless).list revised).andThen fun figures => ?_
  cases figures with
  | nil => exact .fail _ _ _
  | cons lead others => exact .refl _

theorem decodeGoal_keeps (harmless : Harmless view edit) :
    decodeGoal.Keeps view edit (.tagged "type" goalVariants) := by
  refine .tagged harmless (by decide +kernel)
    (.cons ⟨rfl, rfl, by decide +kernel, fun alike => ?position⟩
      (.cons ⟨rfl, rfl, by decide +kernel, fun alike => ?action⟩
        (.cons ⟨rfl, rfl, by decide +kernel, fun alike => ?rotation⟩
          (.cons ⟨rfl, rfl, by decide +kernel, fun alike => ?scale⟩
            (.cons ⟨rfl, rfl, by decide +kernel, fun alike => ?speech⟩
              (.cons (decodeFreeGoal_variant _) .nil))))))
  case position =>
    exact ((Decoded.Agrees.map _ (alike.withDefault rfl .plain)).seq
      (alike.withDefault rfl .plain)).seq (alike.withDefault rfl .plain)
  case action => exact (alike.required rfl .plain).map _
  case rotation => exact (alike.withDefault rfl .plain).map _
  case scale =>
    exact (Decoded.Agrees.map _ (alike.required rfl .plain)).seq (alike.withDefault rfl .plain)
  case speech => exact (alike.withDefault rfl .plain).map _

theorem decode_describes (harmless : Harmless view edit) :
    Fields.Describes view edit fields decode := by
  refine ⟨by decide +kernel, fun alike => ?_⟩
  exact (((LevelHeader.decode_agrees alike).map _).seq
    (alike.required rfl (decodeFigures_keeps harmless))).seq
    (alike.required rfl (decodeGoal_keeps harmless))

end Sprite.Level

namespace Pixel.Level

def goalVariants : List (String × List (String × Shape)) :=
  [("pixels", Shape.plains ["type", "cells", "colors"]), ("free", freeGoalFields)]

def fields : List (String × Shape) :=
  LevelHeader.fields ++ [("domain", .plain), ("size", .plain), ("default_color", .plain),
    ("goal", .tagged "type" goalVariants)]

theorem decodeGoal_keeps (harmless : Harmless view edit) :
    decodeGoal.Keeps view edit (.tagged "type" goalVariants) := by
  refine .tagged harmless (by decide +kernel)
    (.cons ⟨rfl, rfl, by decide +kernel, fun alike => ?pixels⟩
      (.cons (decodeFreeGoal_variant _) .nil))
  exact (Decoded.Agrees.map _ (alike.required rfl .plain)).seq (alike.withDefault rfl .plain)

theorem decode_describes (harmless : Harmless view edit) :
    Fields.Describes view edit fields decode := by
  refine ⟨by decide +kernel, fun alike => ?_⟩
  exact ((((LevelHeader.decode_agrees alike).map _).seq (alike.withDefault rfl .plain)).seq
    (alike.withDefault rfl .plain)).seq (alike.required rfl (decodeGoal_keeps harmless))

end Pixel.Level

namespace Console.Level

def goalVariants : List (String × List (String × Shape)) :=
  [("output", Shape.plains ["type", "expected"]), ("free", freeGoalFields)]

def fields : List (String × Shape) :=
  LevelHeader.fields ++ [("domain", .plain), ("goal", .tagged "type" goalVariants)]

theorem decodeGoal_keeps (harmless : Harmless view edit) :
    decodeGoal.Keeps view edit (.tagged "type" goalVariants) := by
  refine .tagged harmless (by decide +kernel)
    (.cons ⟨rfl, rfl, by decide +kernel, fun alike => ?output⟩
      (.cons (decodeFreeGoal_variant _) .nil))
  exact (alike.required rfl .plain).map _

theorem decode_describes (harmless : Harmless view edit) :
    Fields.Describes view edit fields decode := by
  refine ⟨by decide +kernel, fun alike => ?_⟩
  exact ((LevelHeader.decode_agrees alike).map _).seq
    (alike.required rfl (decodeGoal_keeps harmless))

end Console.Level

/-- The fields of the levels of a domain. -/
def Domain.fields : Domain → List (String × Shape)
  | robot => Robot.Level.fields
  | building => Building.Level.fields
  | sorting => Sorting.Level.fields
  | combat => Combat.Level.fields
  | music => Music.Level.fields
  | sprite => Sprite.Level.fields
  | pixel => Pixel.Level.fields
  | math => Console.Level.fields

theorem Domain.decodeLevel_describes (d : Domain) (harmless : Harmless view edit) :
    Fields.Describes view edit d.fields d.decodeLevel := by
  cases d with
  | robot => exact Robot.Level.decode_describes harmless
  | building => exact Building.Level.decode_describes harmless
  | sorting => exact Sorting.Level.decode_describes harmless
  | combat => exact Combat.Level.decode_describes harmless
  | music => exact Music.Level.decode_describes harmless
  | sprite => exact Sprite.Level.decode_describes harmless
  | pixel => exact Pixel.Level.decode_describes harmless
  | math => exact Console.Level.decode_describes harmless

/-- The objects of a level document and their fields, whatever its domain. -/
def AnyLevel.shape : Shape := .tagged "domain" (Domain.all.map fun d => (d.name, d.fields))

theorem AnyLevel.decode_keeps (harmless : Harmless view edit) :
    decode.Keeps view edit shape := by
  refine .tagged harmless (by decide +kernel) ?_
  rw [List.forall₂_map_left_iff, List.forall₂_map_right_iff, List.forall₂_same]
  intro d _
  have described := d.decodeLevel_describes harmless
  have tagged : d.fields.lookup "domain" = some .plain := by cases d <;> rfl
  exact ⟨rfl, tagged, described.apart, fun alike => (described.reads alike).map _⟩

/-! Loading a document and one that is revised. -/

theorem Issue.forall₂_outline {is js : List Issue}
    (same : is.map (outline view) = js.map (outline view)) :
    List.Forall₂ (fun i j => i.outline view = j.outline view) is js := by
  rw [← List.forall₂_eq_eq_eq, List.forall₂_map_left_iff, List.forall₂_map_right_iff] at same
  exact same

/-- A document is given as it is or as a text that holds it. -/
inductive GivenAs : Bool → Value → Value → Prop
  | value {v : Value} (other : ∀ s, v ≠ .text s) : GivenAs false v v
  | text {s : String} {v : Value} (sound : Json.Fault.ofText? s = none)
    (read : Json.read s = .ok v) : GivenAs true (.text s) v

theorem loadLevel_of_givenAs {fromText : Bool} {given v : Value} (held : GivenAs fromText given v) :
    loadLevel given = readLevel v fromText := by
  cases held with
  | value other =>
    unfold loadLevel
    split
    next s => exact absurd rfl (other s)
    next => rfl
  | text sound read => simp only [loadLevel, loadLevelText, sound, read]

/-- Two errors with one message, at places that differ in the spelling of their keys at most. -/
def SameError (fromText : Bool) (e e' : String) : Prop :=
  ∃ i j : Issue, e = i.text fromText ∧ e' = j.text fromText ∧ i.problem = j.problem ∧
    i.place.map Place.camel = j.place.map Place.camel

/-- The same level is loaded, or there are the same errors in the same order. -/
inductive LoadedAlike (fromText : Bool) :
    Except LoadFailure AnyLevel → Except LoadFailure AnyLevel → Prop
  | loaded (l : AnyLevel) : LoadedAlike fromText (.ok l) (.ok l)
  | refused {f f' : LoadFailure} (same : List.Forall₂ (SameError fromText) f.errors f'.errors) :
    LoadedAlike fromText (.error f) (.error f')

theorem readLevel_alike {v w : Value} (fromText : Bool)
    (agrees : Decoded.Agrees Place.camel (AnyLevel.decode v) (AnyLevel.decode w)) :
    LoadedAlike fromText (readLevel v fromText) (readLevel w fromText) := by
  unfold readLevel
  generalize AnyLevel.decode v = x, AnyLevel.decode w = y at agrees
  cases agrees with
  | ok l => exact .loaded l
  | bad same =>
    refine .refused ?_
    rw [List.forall₂_map_left_iff, List.forall₂_map_right_iff]
    refine (Issue.forall₂_outline same).imp fun i j outlines => ?_
    obtain ⟨places, problems⟩ := Prod.mk.inj outlines
    exact ⟨i, j, rfl, rfl, problems, places⟩

theorem readLevel_eq {v w : Value} (fromText : Bool)
    (agrees : Decoded.Agrees id (AnyLevel.decode v) (AnyLevel.decode w)) :
    readLevel v fromText = readLevel w fromText := by
  unfold readLevel
  generalize AnyLevel.decode v = x, AnyLevel.decode w = y at agrees
  cases agrees with
  | ok l => rfl
  | @bad is js same =>
    have texts : List.Forall₂ (fun i j => i.text fromText = j.text fromText) is js := by
      refine (Issue.forall₂_outline same).imp fun i j outlines => ?_
      obtain ⟨places, problems⟩ := Prod.mk.inj outlines
      rw [List.map_id, List.map_id] at places
      rw [Issue.text, Issue.text, Issue.placeText, Issue.placeText, places, problems]
    rw [← List.forall₂_map_right_iff, ← List.forall₂_map_left_iff, List.forall₂_eq_eq_eq] at texts
    dsimp only
    rw [texts]

section Loading

variable {fromText : Bool} {given given' v w : Value}

/-- A document in which fields are spelled in the other way, at as many objects as one likes, gives
the same level or the same errors. What an object holds of a field in snake_case does not count
where it holds the field in camelCase too. -/
theorem loadLevel_spelling (held : GivenAs fromText given v) (held' : GivenAs fromText given' w) :
    (Relation.ReflTransGen (Revised Respelled AnyLevel.shape) v w →
      LoadedAlike fromText (loadLevel given) (loadLevel given')) ∧
    (Relation.ReflTransGen (Revised Overridden AnyLevel.shape) v w →
      loadLevel given = loadLevel given') := by
  rw [loadLevel_of_givenAs held, loadLevel_of_givenAs held']
  constructor
  · intro respelled
    have keeps := AnyLevel.decode_keeps respelled_harmless
    exact readLevel_alike fromText (keeps.of_reflTransGen respelled)
  · intro overridden
    have harmless : Harmless id Overridden := overridden_harmless
    have keeps := AnyLevel.decode_keeps harmless
    exact readLevel_eq fromText (keeps.of_reflTransGen overridden)

/-- A sandbox that asks for too few actions. -/
def sandbox (blocks minimum : String) (more : List (String × Value)) : Value :=
  .dict (("domain", "robot") :: ("id", 1) :: ("name", "Yard") :: (blocks, .list []) ::
    ("goal", .dict [("type", "free"), (minimum, 0)]) :: more)

theorem sandbox_givenAs (blocks minimum : String) (more : List (String × Value)) :
    GivenAs false (sandbox blocks minimum more) (sandbox blocks minimum more) := by
  refine .value fun s same => ?_
  cases same

theorem sandbox_respelled : Relation.ReflTransGen (Revised Respelled AnyLevel.shape)
    (sandbox "allowed_blocks" "min_actions" []) (sandbox "allowedBlocks" "minActions" []) := by
  have blocks : camelCase "allowed_blocks" = "allowedBlocks" := by decide +kernel
  have minimum : camelCase "min_actions" = "minActions" := by decide +kernel
  have outside : Revised Respelled AnyLevel.shape (sandbox "allowed_blocks" "min_actions" [])
      (sandbox "allowedBlocks" "min_actions" []) := by
    refine .variant rfl rfl rfl (.here rfl rfl ⟨"allowed_blocks", by decide +kernel, .inl ?_⟩)
    rw [blocks]
    exact moved_of_renamed (by decide) [("domain", "robot"), ("id", 1), ("name", "Yard")] _ _
      (by decide) (by decide)
  have inside : Revised Respelled AnyLevel.shape (sandbox "allowedBlocks" "min_actions" [])
      (sandbox "allowedBlocks" "minActions" []) := by
    have others (k : String) (other : k ≠ "goal") (goal goal' : Value) :
        Value.lookup [("domain", "robot"), ("id", 1), ("name", "Yard"), ("allowedBlocks", .list []),
          ("goal", goal')] k = Value.lookup [("domain", "robot"), ("id", 1), ("name", "Yard"),
          ("allowedBlocks", .list []), ("goal", goal)] k := by
      simp [Value.lookup_cons, other.symm]
    have goalShape : Domain.robot.fields.lookup "goal" =
        some (.tagged "type" Robot.Level.goalVariants) := rfl
    refine .variant rfl rfl rfl (.field rfl rfl goalShape rfl rfl
      (fun k other => others k other _ _)
      (.variant rfl rfl rfl (.here rfl rfl ⟨"min_actions", by decide +kernel, .inl ?_⟩)))
    rw [minimum]
    exact moved_of_renamed (by decide) [("type", "free")] _ _ (by decide) (by decide)
  exact (Relation.ReflTransGen.single outside).tail inside

theorem sandbox_overridden : Revised Overridden AnyLevel.shape
    (sandbox "allowedBlocks" "minActions" [])
    (sandbox "allowedBlocks" "minActions" [("allowed_blocks", 5)]) := by
  have blocks : camelCase "allowed_blocks" = "allowedBlocks" := by decide +kernel
  refine .variant rfl rfl rfl (.here rfl rfl ⟨"allowed_blocks", by decide +kernel, ?_, ?_, ?_⟩)
  · rw [blocks]
    decide
  · rw [blocks]
    exact ⟨_, rfl⟩
  · intro k other
    simp [Value.lookup_cons, other.symm]

/-- The errors of a sandbox that asks for too few actions are found in either spelling. -/
theorem loadLevel_spelling_sandbox :
    LoadedAlike false (loadLevel (sandbox "allowed_blocks" "min_actions" []))
      (loadLevel (sandbox "allowedBlocks" "minActions" [])) ∧
    loadLevel (sandbox "allowedBlocks" "minActions" []) =
      loadLevel (sandbox "allowedBlocks" "minActions" [("allowed_blocks", 5)]) :=
  ⟨(loadLevel_spelling (sandbox_givenAs _ _ _) (sandbox_givenAs _ _ _)).1 sandbox_respelled,
    (loadLevel_spelling (sandbox_givenAs _ _ _) (sandbox_givenAs _ _ _)).2
      (.single sandbox_overridden)⟩

/-- Entries that are no fields do not count. -/
theorem loadLevel_ignored (held : GivenAs fromText given v) (held' : GivenAs fromText given' w)
    (h : Relation.ReflTransGen (Revised Ignored AnyLevel.shape) v w) :
    loadLevel given = loadLevel given' := by
  rw [loadLevel_of_givenAs held, loadLevel_of_givenAs held']
  have harmless : Harmless id Ignored := ignored_harmless
  have keeps := AnyLevel.decode_keeps harmless
  exact readLevel_eq fromText (keeps.of_reflTransGen h)

end Loading

end PuzzleWorlds
