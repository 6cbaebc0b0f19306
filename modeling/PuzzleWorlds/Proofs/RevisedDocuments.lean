import Mathlib.Data.List.Forall2
import Mathlib.Data.List.Nodup
import Mathlib.Data.Option.Basic
import Mathlib.Logic.Relation
import PuzzleWorlds.Document.Decode

/-! Documents that are revised at one place. A shape says which objects of a document a reader looks
into and which fields it looks for there; a revision changes the entries of one such object. If it
leaves every field to be found as it was, readers of that shape do not tell the documents apart:
they read the same, or raise the same issues in the same order. -/

namespace PuzzleWorlds

/-- What a reader looks into: nothing, the items of a list, the fields of an object, or those of the
variant that a tag names. The tag is a field of each variant. -/
inductive Shape where
  | plain
  | items (each : Shape)
  | object (fields : List (String × Shape))
  | tagged (tag : String) (variants : List (String × List (String × Shape)))

/-- Fields whose values are not looked into. -/
def Shape.plains (names : List String) : List (String × Shape) := names.map (·, .plain)

/-- How the entries of an object may change, given the names of its fields. -/
abbrev Edit := List String → List (String × Value) → List (String × Value) → Prop

/-- One document is the other but for the entries of one object that a reader of the shape looks
into. -/
inductive Revised (edit : Edit) : Shape → Value → Value → Prop
  | here {fields : List (String × Shape)} {v w : Value} {es es' : List (String × Value)}
    (opened : v.entries? = some es) (opened' : w.entries? = some es')
    (edited : edit (fields.map Prod.fst) es es') : Revised edit (.object fields) v w
  | field {fields : List (String × Shape)} {v w x y : Value} {es es' : List (String × Value)}
    {name key : String} {s : Shape} (opened : v.entries? = some es)
    (opened' : w.entries? = some es') (listed : fields.lookup name = some s)
    (found : Fields.find? { entries := es, whole := v } name = some (key, x))
    (changed : Value.lookup es' key = some y)
    (others : ∀ k, k ≠ key → Value.lookup es' k = Value.lookup es k) (inner : Revised edit s x y) :
    Revised edit (.object fields) v w
  | item {s : Shape} {before after : List Value} {x y : Value} (inner : Revised edit s x y) :
    Revised edit (.items s) (.list (before ++ x :: after)) (.list (before ++ y :: after))
  | part {s : Shape} {before after : List Value} {x y : Value} (inner : Revised edit s x y) :
    Revised edit (.items s) (.tuple (before ++ x :: after)) (.tuple (before ++ y :: after))
  | variant {tag t : String} {variants : List (String × List (String × Shape))}
    {fields : List (String × Shape)} {v w : Value} {es : List (String × Value)}
    (opened : v.entries? = some es) (named : Value.lookup es tag = some (.text t))
    (listed : variants.lookup t = some fields) (inner : Revised edit (.object fields) v w) :
    Revised edit (.tagged tag variants) v w

variable {view : Place → Place}

/-- What is told of an issue, with its place as `view` shows it. -/
def Issue.outline (view : Place → Place) (i : Issue) : List Place × Problem :=
  (i.place.map view, i.problem)

namespace Decoded

/-- The same value was read, or the same issues were found in the same order, at places that `view`
does not tell apart. -/
inductive Agrees (view : Place → Place) : Decoded α → Decoded α → Prop
  | ok (a : α) : Agrees view (.ok a) (.ok a)
  | bad {is js : List Issue} (same : is.map (Issue.outline view) = js.map (Issue.outline view)) :
    Agrees view (.bad is) (.bad js)

namespace Agrees

theorem refl (x : Decoded α) : Agrees view x x := by
  cases x with
  | ok a => exact .ok a
  | bad is => exact .bad rfl

theorem trans {x y z : Decoded α} (h : Agrees view x y) (h' : Agrees view y z) :
    Agrees view x z := by
  cases h with
  | ok a => exact h'
  | bad same =>
    cases h' with
    | bad same' => exact .bad (same.trans same')

theorem fail (p : Problem) (v w : Value) :
    Agrees view (Decoded.fail p v : Decoded α) (Decoded.fail p w) := .bad rfl

theorem map (f : α → β) {x y : Decoded α} (h : Agrees view x y) :
    Agrees view (f <$> x) (f <$> y) := by
  cases h with
  | ok a => exact .ok (f a)
  | bad same => exact .bad same

theorem seq {f g : Decoded (α → β)} {x y : Decoded α} (h : Agrees view f g)
    (h' : Agrees view x y) : Agrees view (f <*> x) (g <*> y) := by
  cases h with
  | ok f =>
    cases h' with
    | ok a => exact .ok (f a)
    | bad same => exact .bad same
  | bad same =>
    cases h' with
    | ok a => exact .bad same
    | bad same' =>
      refine .bad ?_
      rw [List.map_append, List.map_append, same, same']

theorem under {p q : Place} (alike : view p = view q) {x y : Decoded α} (h : Agrees view x y) :
    Agrees view (x.under p) (y.under q) := by
  cases h with
  | ok a => exact .ok a
  | bad same =>
    -- The outline of an issue below a place is made of the outline of the issue.
    have below (p : Place) (is : List Issue) : (is.map (Issue.under p)).map (Issue.outline view) =
        (is.map (Issue.outline view)).map fun o => (view p :: o.1, o.2) := by
      rw [List.map_map, List.map_map]
      rfl
    refine .bad ?_
    rw [below, below, same, alike]

theorem andThen {x y : Decoded α} {f g : α → Decoded β} (h : Agrees view x y)
    (next : ∀ a, Agrees view (f a) (g a)) : Agrees view (x.andThen f) (y.andThen g) := by
  cases h with
  | ok a => exact next a
  | bad same => exact .bad same

end Agrees

end Decoded

/-- One field in two objects: under keys that `view` does not tell apart, with values that `R`
relates. -/
def SameField (view : Place → Place) (R : Value → Value → Prop) (e e' : String × Value) : Prop :=
  view (.key e.1) = view (.key e'.1) ∧ R e.2 e'.2

theorem sameField_refl {R : Value → Value → Prop} (refl : ∀ v, R v v)
    (e : Option (String × Value)) : Option.Rel (SameField view R) e e := by
  cases e with
  | none => exact .none
  | some e => exact .some ⟨rfl, refl e.2⟩

/-- An edit that leaves every field of an object to be found as it was, if no two fields are spelled
alike. -/
def Harmless (view : Place → Place) (edit : Edit) : Prop :=
  ∀ ⦃names es es'⦄ (v w : Value), (names.map camelCase).Nodup → edit names es es' →
    ∀ name ∈ names, Option.Rel (SameField view Eq) (Fields.find? { entries := es, whole := v } name)
      (Fields.find? { entries := es', whole := w } name)

variable {edit : Edit} {fields : List (String × Shape)} {s : Shape}

namespace Fields

/-- Each field is found in both objects, with its value revised at most, or in none. -/
structure Alike (view : Place → Place) (edit : Edit) (fields : List (String × Shape))
    (o o' : Fields) : Prop where
  spelling : o.spelling = o'.spelling
  found {name : String} {s : Shape} (listed : fields.lookup name = some s) :
    Option.Rel (SameField view (Relation.ReflGen (Revised edit s))) (o.find? name) (o'.find? name)

end Fields

namespace Decoder

/-- The reader does not tell a document of the shape from one that is revised. -/
def Keeps (view : Place → Place) (edit : Edit) (s : Shape) (d : Decoder α) : Prop :=
  ∀ ⦃v w⦄, Revised edit s v w → Decoded.Agrees view (d v) (d w)

theorem Keeps.plain {d : Decoder α} : Keeps view edit .plain d := fun _ _ revised => nomatch revised

theorem Keeps.of_reflGen {d : Decoder α} (keeps : Keeps view edit s d) {v w : Value}
    (h : Relation.ReflGen (Revised edit s) v w) : Decoded.Agrees view (d v) (d w) := by
  cases h with
  | refl => exact .refl _
  | single revised => exact keeps revised

/-- What holds of documents that are revised once holds of those that are revised again and
again. -/
theorem Keeps.of_reflTransGen {d : Decoder α} (keeps : Keeps view edit s d) {v w : Value}
    (h : Relation.ReflTransGen (Revised edit s) v w) : Decoded.Agrees view (d v) (d w) := by
  induction h with
  | refl => exact .refl _
  | tail _ revised ih => exact ih.trans (keeps revised)

end Decoder

namespace Fields

variable {o o' : Fields} {name : String} {d : Decoder α}

theorem Alike.required (alike : Alike view edit fields o o') (listed : fields.lookup name = some s)
    (keeps : d.Keeps view edit s) :
    Decoded.Agrees view (o.required name d) (o'.required name d) := by
  have primary : o.primary name = o'.primary name := by
    rw [Fields.primary, Fields.primary, alike.spelling]
  have found := alike.found listed
  unfold Fields.required
  generalize o.find? name = e, o'.find? name = e' at found
  cases found with
  | none =>
    dsimp only
    rw [primary]
    exact .bad rfl
  | some same => exact (keeps.of_reflGen same.2).under same.1

theorem Alike.withDefault (alike : Alike view edit fields o o')
    (listed : fields.lookup name = some s) (keeps : d.Keeps view edit s) {default : α} :
    Decoded.Agrees view (o.withDefault name default d) (o'.withDefault name default d) := by
  have found := alike.found listed
  unfold Fields.withDefault
  generalize o.find? name = e, o'.find? name = e' at found
  cases found with
  | none => exact .refl _
  | some same => exact (keeps.of_reflGen same.2).under same.1

end Fields

/-! Where a field is found. -/

theorem toUpper_ne_underscore {c : Char} (other : c ≠ '_') : c.toUpper ≠ '_' := by
  intro same
  have code : c.toUpper.val = 95 := by
    rw [same]
    rfl
  unfold Char.toUpper at code
  split at code
  next lower =>
    -- A small letter loses 32 of its code, modulo the size of a word.
    have raised : c.val + 4294967264 = 95 := by simpa using code
    have small : c.val ≤ 122 := by simpa using lower.2
    grind
  next => exact other (Char.ext code)

theorem underscore_notMem_camelFrom (upper : Bool) (l : List Char) : '_' ∉ camelFrom upper l := by
  induction l generalizing upper with
  | nil => exact List.not_mem_nil
  | cons c rest ih =>
    unfold camelFrom
    split
    next => exact ih true
    next other =>
      have letter : c ≠ '_' := by simpa using other
      refine List.not_mem_cons_of_ne_of_not_mem (Ne.symm ?_) (ih false)
      split
      next => exact toUpper_ne_underscore letter
      next => exact letter

theorem camelFrom_of_notMem {l : List Char} (none : '_' ∉ l) : camelFrom false l = l := by
  induction l with
  | nil => rfl
  | cons c rest ih =>
    have other : c ≠ '_' := Ne.symm (List.ne_of_not_mem_cons none)
    rw [camelFrom, if_neg (by simpa using other), if_neg Bool.false_ne_true,
      ih (List.not_mem_of_not_mem_cons none)]

theorem camelCase_camelCase (name : String) : camelCase (camelCase name) = camelCase name := by
  rw [camelCase, camelCase, String.toList_ofList,
    camelFrom_of_notMem (underscore_notMem_camelFrom false _)]

namespace Fields

variable {es es' : List (String × Value)} {v w x : Value} {name key : String}

theorem find?_congr (camel : Value.lookup es (camelCase name) = Value.lookup es' (camelCase name))
    (named : Value.lookup es name = Value.lookup es' name) :
    find? { entries := es, whole := v } name = find? { entries := es', whole := w } name := by
  simp only [find?, primary, camel, named]

theorem find?_of_camel (found : Value.lookup es (camelCase name) = some x) :
    find? { entries := es, whole := v } name = some (camelCase name, x) := by
  simp only [find?, primary, found]

theorem find?_of_named (none : Value.lookup es (camelCase name) = none)
    (found : Value.lookup es name = some x) :
    find? { entries := es, whole := v } name = some (name, x) := by
  simp only [find?, primary, none, found, Option.map_some]

theorem find?_cases (found : find? { entries := es, whole := v } name = some (key, x)) :
    (key = camelCase name ∧ Value.lookup es (camelCase name) = some x) ∨
      (key = name ∧ Value.lookup es (camelCase name) = none ∧ Value.lookup es name = some x) := by
  cases camel : Value.lookup es (camelCase name) with
  | some y =>
    cases (find?_of_camel camel).symm.trans found
    exact .inl ⟨rfl, rfl⟩
  | none =>
    simp only [find?, primary, camel] at found
    obtain ⟨y, named, same⟩ := Option.map_eq_some_iff.mp found
    cases same
    exact .inr ⟨rfl, rfl, named⟩

/-- A key under which a field is found is spelled like the field. -/
theorem camelCase_of_find? (found : find? { entries := es, whole := v } name = some (key, x)) :
    camelCase key = camelCase name := by
  obtain ⟨rfl, _⟩ | ⟨rfl, _⟩ := find?_cases found
  · exact camelCase_camelCase name
  · rfl

theorem find?_of_none (none : Value.lookup es (camelCase name) = none)
    (absent : Value.lookup es name = Option.none) :
    find? { entries := es, whole := v } name = Option.none := by
  simp only [find?, primary, none, absent, Option.map_none]

/-- Another value under the key of a field is what is found of the field. -/
theorem find?_of_changed {y : Value}
    (found : find? { entries := es, whole := v } name = some (key, x))
    (changed : Value.lookup es' key = some y)
    (others : ∀ k, k ≠ key → Value.lookup es' k = Value.lookup es k) :
    find? { entries := es', whole := w } name = some (key, y) := by
  obtain ⟨rfl, _⟩ | ⟨rfl, none, named⟩ := find?_cases found
  · exact find?_of_camel changed
  · have other : camelCase key ≠ key := fun same => by
      rw [same, named] at none
      cases none
    exact find?_of_named ((others _ other).trans none) changed

end Fields

/-- The names of fields that are listed are told apart by their camelCase spelling. -/
theorem Fields.name_eq_of_camelCase {name name' : String} {s s' : Shape}
    (apart : ((fields.map Prod.fst).map camelCase).Nodup) (listed : fields.lookup name = some s)
    (listed' : fields.lookup name' = some s') (same : camelCase name = camelCase name') :
    name = name' := by
  have member {n : String} {t : Shape} (listed : fields.lookup n = some t) :
      n ∈ fields.map Prod.fst := by
    obtain ⟨before, after, rfl, _⟩ := List.lookup_eq_some_iff.mp listed
    simp
  exact List.inj_on_of_nodup_map apart (member listed) (member listed') same

/-- A revision of an object leaves its fields to be found as they were, with the value of one of
them revised at most. -/
theorem Revised.alike (harmless : Harmless view edit)
    (apart : ((fields.map Prod.fst).map camelCase).Nodup) {v w : Value}
    (revised : Revised edit (.object fields) v w) :
    ∃ es es', v.entries? = some es ∧ w.entries? = some es' ∧
      Fields.Alike view edit fields { entries := es, whole := v }
        { entries := es', whole := w } := by
  cases revised with
  | @here _ _ _ es es' opened opened' edited =>
    refine ⟨es, es', opened, opened', rfl, fun {name s} listed => ?_⟩
    obtain ⟨before, after, split, _⟩ := List.lookup_eq_some_iff.mp listed
    have named : name ∈ fields.map Prod.fst := by simp [split]
    have located := harmless v w apart edited name named
    generalize Fields.find? { entries := es, whole := v } name = e,
      Fields.find? { entries := es', whole := w } name = e' at located
    cases located with
    | none => exact .none
    | some same => exact .some ⟨same.1, same.2 ▸ .refl⟩
  | @field _ _ _ x y es es' name key t opened opened' listed found changed others inner =>
    refine ⟨es, es', opened, opened', rfl, fun {name' s} listed' => ?_⟩
    by_cases same : camelCase name' = camelCase name
    · obtain rfl := Fields.name_eq_of_camelCase apart listed' listed same
      cases listed.symm.trans listed'
      rw [found, Fields.find?_of_changed found changed others]
      exact .some ⟨rfl, .single inner⟩
    · have other (k : String) (spelled : camelCase k = camelCase name') : k ≠ key := by
        rintro rfl
        exact same (spelled.symm.trans (Fields.camelCase_of_find? found))
      rw [Fields.find?_congr (w := w) (others _ (other _ (camelCase_camelCase name'))).symm
        (others _ (other _ rfl)).symm]
      exact sameField_refl (fun _ => .refl) _

/-- A reader of objects reads the fields that are listed, and no two of these are spelled alike. -/
structure Fields.Describes (view : Place → Place) (edit : Edit)
    (fields : List (String × Shape)) (read : Fields → Decoded α) : Prop where
  apart : ((fields.map Prod.fst).map camelCase).Nodup
  reads {o o' : Fields} (alike : Alike view edit fields o o') :
    Decoded.Agrees view (read o) (read o')

namespace Decoder

theorem Keeps.object {name : String} {read : Fields → Decoded α} (harmless : Harmless view edit)
    (described : Fields.Describes view edit fields read) :
    Keeps view edit (.object fields) (Decoder.object name read) := by
  intro v w revised
  obtain ⟨es, es', opened, opened', alike⟩ := revised.alike harmless described.apart
  simp only [Decoder.object, opened, opened']
  exact described.reads alike

theorem items_agrees {d : Decoder α} {x y : Value} (same : Decoded.Agrees view (d x) (d y))
    (i : Nat) (before after : List Value) :
    Decoded.Agrees view (items d i (before ++ x :: after)) (items d i (before ++ y :: after)) := by
  induction before generalizing i with
  | nil => exact ((same.under rfl).map _).seq (.refl _)
  | cons v before ih => exact .seq (.refl _) (ih (i + 1))

theorem Keeps.list {d : Decoder α} (keeps : Keeps view edit s d) :
    Keeps view edit (.items s) (Decoder.list d) := by
  intro v w revised
  cases revised with
  | item inner | part inner => exact items_agrees (keeps inner) 0 _ _

/-- A variant of a tagged union and the reader that it is read with. -/
def Variant (view : Place → Place) (edit : Edit) (tag : String)
    (c : String × List (String × Shape)) (r : String × (Fields → Decoded α)) : Prop :=
  c.1 = r.1 ∧ c.2.lookup tag = some .plain ∧ Fields.Describes view edit c.2 r.2

theorem find?_of_lookup {tag t : String} {variants : List (String × List (String × Shape))}
    {readers : List (String × (Fields → Decoded α))}
    (matched : List.Forall₂ (Variant view edit tag) variants readers)
    (listed : variants.lookup t = some fields) :
    ∃ r, readers.find? (fun r => r.1 == t) = some r ∧ Variant view edit tag (t, fields) r := by
  induction matched with
  | nil => cases listed
  | @cons c r variants readers first _ ih =>
    rw [List.lookup_cons] at listed
    rw [List.find?_cons, ← first.1]
    by_cases same : t = c.1
    · subst same
      rw [BEq.rfl] at listed ⊢
      cases listed
      exact ⟨r, rfl, first⟩
    · rw [beq_eq_false_iff_ne.mpr same] at listed
      rw [beq_eq_false_iff_ne.mpr (Ne.symm same)]
      exact ih listed

/-- The tag of a variant stays as it was. -/
theorem lookup_tag {tag : String} {es es' : List (String × Value)} {v w t : Value}
    (alike : Fields.Alike view edit fields { entries := es, whole := v }
      { entries := es', whole := w }) (spelled : camelCase tag = tag)
    (listed : fields.lookup tag = some .plain) (named : Value.lookup es tag = some t) :
    Value.lookup es' tag = some t := by
  have here : Fields.find? { entries := es, whole := v } tag = some (camelCase tag, t) :=
    Fields.find?_of_camel (spelled.symm ▸ named)
  have located := alike.found listed
  rw [here] at located
  generalize there : Fields.find? { entries := es', whole := w } tag = e at located
  cases located with
  | @some _ e same =>
    obtain rfl : t = e.2 := by
      cases same.2 with
      | refl => rfl
      | single revised => cases revised
    obtain ⟨_, found⟩ | ⟨_, _, found⟩ := Fields.find?_cases there
    · rwa [spelled] at found
    · exact found

theorem Keeps.tagged {tag : String} {variants : List (String × List (String × Shape))}
    {readers : List (String × (Fields → Decoded α))} (harmless : Harmless view edit)
    (spelled : camelCase tag = tag)
    (matched : List.Forall₂ (Variant view edit tag) variants readers) :
    Keeps view edit (.tagged tag variants) (Decoder.tagged tag readers) := by
  intro v w revised
  cases revised with
  | @variant _ t _ fields _ _ es opened named listed inner =>
    obtain ⟨r, found, same, tagged, described⟩ := find?_of_lookup matched listed
    obtain ⟨_, es', again, opened', alike⟩ := inner.alike harmless described.apart
    cases opened.symm.trans again
    simp only [Decoder.tagged, opened, opened', named, lookup_tag alike spelled tagged named, found]
    exact (described.reads alike).under rfl

end Decoder

end PuzzleWorlds
