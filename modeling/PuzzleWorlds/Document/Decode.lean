import PuzzleWorlds.Document.Issue
import PuzzleWorlds.Document.Numeral
import PuzzleWorlds.Value.Coercion

/-! Typed reading of documents. All issues of a document are collected, in the order of its fields.
Numbers are read leniently: a whole number may be written as a float, a truth value or a text. -/

namespace PuzzleWorlds

/-- A value read from a document, or every issue found on the way. -/
inductive Decoded (α : Type) where
  | ok (value : α)
  | bad (issues : List Issue)
deriving Repr

namespace Decoded

def map (f : α → β) : Decoded α → Decoded β
  | ok a => ok (f a)
  | bad is => bad is

/-- Applies a read function to a read argument; the issues of both are kept. -/
def apply : Decoded (α → β) → Decoded α → Decoded β
  | ok f, ok a => ok (f a)
  | ok _, bad js => bad js
  | bad is, ok _ => bad is
  | bad is, bad js => bad (is ++ js)

instance : Functor Decoded where
  map := map

instance : Applicative Decoded where
  pure := ok
  seq f x := apply f (x ())

def fail (p : Problem) (v : Value) : Decoded α := bad [⟨[], p, v⟩]

/-- Moves the issues below a place. -/
def under (p : Place) : Decoded α → Decoded α
  | ok a => ok a
  | bad is => bad (is.map (Issue.under p))

/-- Continues with a value that was read. -/
def andThen (x : Decoded α) (f : α → Decoded β) : Decoded β :=
  match x with
  | ok a => f a
  | bad is => bad is

end Decoded

/-- A reader of one kind of value. -/
abbrev Decoder (α : Type) := Value → Decoded α

namespace Decoder

def any : Decoder Value := .ok

def text : Decoder String
  | .text s => .ok s
  | v => .fail .notText v

/-- The largest magnitude at which a float is read as a whole number. -/
def wholeFloatLimit : Float := Float.ofBits 0x43E0000000000000

def wholeFloat (x : Float) (v : Value) : Decoded Int :=
  if !x.isFinite then .fail .notFinite v
  else match floatToInt? x with
    | none => .fail .intFractional v
    | some n => if x.abs < wholeFloatLimit then .ok n else .fail .intTooLong v

def int : Decoder Int
  | .int n => .ok n
  | .bool b => .ok (if b then 1 else 0)
  | .float x => wholeFloat x (.float x)
  | .text s => match Numeral.readWhole s with
    | .number n => .ok n
    | .tooLong => .fail .intTooLong (.text s)
    | .unreadable => .fail .intUnreadable (.text s)
  | v => .fail .notInt v

def float : Decoder Float
  | .float x => .ok x
  | .text s => match Numeral.readNumber s with
    | some x => .ok x
    | none => .fail .floatUnreadable (.text s)
  | v => match v.toFloat with
    | .ok x => .ok x
    | .error _ => .fail .notFloat v

def bool : Decoder Bool
  | .bool b => .ok b
  | .text s => match Numeral.readTruth s with
    | some b => .ok b
    | none => .fail .boolUnreadable (.text s)
  | .int n => ofWhole n (.int n)
  | .float x => match floatToInt? x with
    | some n => ofWhole n (.float x)
    | none => .fail .notBool (.float x)
  | v => .fail .notBool v
where
  ofWhole (n : Int) (v : Value) : Decoded Bool :=
    if n == 0 then .ok false else if n == 1 then .ok true else .fail .boolUnreadable v

def atLeast (least : Int) (d : Decoder Int) : Decoder Int := fun v =>
  (d v).andThen fun n => if n < least then .fail (.below least) v else .ok n

def floatAtLeast (least : Int) (d : Decoder Float) : Decoder Float := fun v =>
  (d v).andThen fun x => if x < Float.ofInt least then .fail (.below least) v else .ok x

def floatAbove (bound : Int) (d : Decoder Float) : Decoder Float := fun v =>
  (d v).andThen fun x => if x ≤ Float.ofInt bound then .fail (.notAbove bound) v else .ok x

/-- The items of a list, each below its index. -/
def items (d : Decoder α) : Nat → List Value → Decoded (List α)
  | _, [] => .ok []
  | i, v :: rest => (List.cons <$> (d v).under (.index i)) <*> items d (i + 1) rest

def list (d : Decoder α) : Decoder (List α)
  | .list l | .tuple l => items d 0 l
  | v => .fail .notList v

def nonEmpty (d : Decoder (List α)) : Decoder (List α) := fun v =>
  (d v).andThen fun l => if l.isEmpty then .fail (.tooShort 1 0) v else .ok l

def dict : Decoder (List (String × Value)) := fun v =>
  match v.entries? with
  | some es => .ok es
  | none => .fail .notDict v

/-- A list of exactly two parts. -/
def pair (d : Decoder α) : Decoder (α × α) := fun v =>
  match v with
  | .list l | .tuple l => match l with
    | [] => .bad [⟨[.index 0], .missing, v⟩, ⟨[.index 1], .missing, v⟩]
    | [a] => (Prod.mk <$> (d a).under (.index 0)) <*> .bad [⟨[.index 1], .missing, v⟩]
    | [a, b] => (Prod.mk <$> (d a).under (.index 0)) <*> (d b).under (.index 1)
    | _ => .fail (.tupleTooLong 2 l.length) v
  | v => .fail .notTuple v

def optional (d : Decoder α) : Decoder (Option α)
  | .null => .ok none
  | v => (d v).map some

/-- One of the named choices. -/
def choice (choices : List (String × α)) : Decoder α := fun v =>
  match v with
  | .text s => match choices.find? fun c => c.1 == s with
    | some c => .ok c.2
    | none => .fail (.notChoice (choices.map (·.1))) v
  | v => .fail (.notChoice (choices.map (·.1))) v

end Decoder

/-- Drops the underscores; `upper` says whether the next letter follows one. -/
def camelFrom : Bool → List Char → List Char
  | _, [] => []
  | upper, c :: rest =>
    if c == '_' then camelFrom true rest
    else (if upper then c.toUpper else c) :: camelFrom false rest

/-- The camelCase spelling of a snake_case name. -/
def camelCase (name : String) : String := String.ofList (camelFrom false name.toList)

/-- How the fields of an object may be spelled: in camelCase first and else as named, or as named
only. -/
inductive Spelling where
  | camelOrSnake
  | asNamed
deriving DecidableEq, Repr

/-- The fields of an object under reading. -/
structure Fields where
  entries : List (String × Value)
  whole : Value
  spelling : Spelling := .camelOrSnake

namespace Fields

def primary (o : Fields) (name : String) : String :=
  match o.spelling with
  | .camelOrSnake => camelCase name
  | .asNamed => name

/-- The value of a field with the key that was used for it. -/
def find? (o : Fields) (name : String) : Option (String × Value) :=
  match Value.lookup o.entries (o.primary name) with
  | some v => some (o.primary name, v)
  | none => (Value.lookup o.entries name).map fun v => (name, v)

def required (o : Fields) (name : String) (d : Decoder α) : Decoded α :=
  match o.find? name with
  | some (k, v) => (d v).under (.key k)
  | none => .bad [⟨[.key (o.primary name)], .missing, o.whole⟩]

def withDefault (o : Fields) (name : String) (default : α) (d : Decoder α) : Decoded α :=
  match o.find? name with
  | some (k, v) => (d v).under (.key k)
  | none => .ok default

end Fields

namespace Decoder

/-- An object called `name` in messages. -/
def object (name : String) (read : Fields → Decoded α) : Decoder α := fun v =>
  match v.entries? with
  | some es => read { entries := es, whole := v }
  | none => .fail (.notModel name) v

/-- An object whose field `tag` says which variant it is. The issues of a variant lie below its
tag. -/
def tagged (tag : String) (variants : List (String × (Fields → Decoded α))) : Decoder α := fun v =>
  match v.entries? with
  | none => .fail .noFields v
  | some es => match Value.lookup es tag with
    | none => .fail (.noTag tag) v
    | some t =>
      let found : Option (String × (Fields → Decoded α)) := match t with
        | .text s => variants.find? fun c => c.1 == s
        | _ => none
      match found with
      | some c => (c.2 { entries := es, whole := v }).under (.key c.1)
      | none => .fail (.unknownTag tag t.display (variants.map (·.1))) v

end Decoder

end PuzzleWorlds
