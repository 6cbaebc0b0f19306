import PuzzleWorlds.Value.Render

/-! What can be wrong with a document: an issue names the place, the kind of problem and the value
that was found there. -/

namespace PuzzleWorlds

inductive Place where
  | key (name : String)
  | index (n : Nat)
deriving DecidableEq, Repr

namespace Place

def text : Place → String
  | key k => k
  | index n => natText n

def toValue : Place → Value
  | key k => .text k
  | index n => .nat n

end Place

inductive Problem where
  | missing
  | notText
  | notInt
  | intUnreadable
  | intFractional
  | intTooLong
  | notFinite
  | notFloat
  | floatUnreadable
  | notBool
  | boolUnreadable
  | notList
  | notDict
  | notTuple
  | notModel (name : String)
  | noFields
  | below (least : Int)
  | notAbove (bound : Int)
  | tooShort (least : Nat) (size : Nat)
  | tupleTooLong (most : Nat) (size : Nat)
  | notChoice (choices : List String)
  | noTag (tag : String)
  | unknownTag (tag found : String) (expected : List String)
  | badJson (reason : String)
deriving DecidableEq, Repr

namespace Problem

/-- The choices in single quotes, the last one after `or`. -/
def orList : List String → String
  | [] => ""
  | [a] => s!"'{a}'"
  | [a, b] => s!"'{a}' or '{b}'"
  | a :: rest => s!"'{a}', {orList rest}"

/-- The wording of a problem; a document read from text has objects and arrays in place of
dictionaries and lists. -/
def message (fromText : Bool) : Problem → String
  | missing => "Field required"
  | notText => "Input should be a valid string"
  | notInt => "Input should be a valid integer"
  | intUnreadable => "Input should be a valid integer, unable to parse string as an integer"
  | intFractional => "Input should be a valid integer, got a number with a fractional part"
  | intTooLong => "Unable to parse input string as an integer, exceeded maximum size"
  | notFinite => "Input should be a finite number"
  | notFloat => "Input should be a valid number"
  | floatUnreadable => "Input should be a valid number, unable to parse string as a number"
  | notBool => "Input should be a valid boolean"
  | boolUnreadable => "Input should be a valid boolean, unable to interpret input"
  | notList => if fromText then "Input should be a valid array" else "Input should be a valid list"
  | notDict =>
    if fromText then "Input should be an object" else "Input should be a valid dictionary"
  | notTuple =>
    if fromText then "Input should be a valid array" else "Input should be a valid tuple"
  | notModel name =>
    if fromText then "Input should be an object"
    else s!"Input should be a valid dictionary or instance of {name}"
  | noFields =>
    if fromText then "Input should be an object"
    else "Input should be a valid dictionary or object to extract fields from"
  | below n => s!"Input should be greater than or equal to {intText n}"
  | notAbove n => s!"Input should be greater than {intText n}"
  | tooShort least size =>
    let items := if least == 1 then "item" else "items"
    s!"List should have at least {natText least} {items} after validation, not {natText size}"
  | tupleTooLong most size =>
    let items := if most == 1 then "item" else "items"
    s!"Tuple should have at most {natText most} {items} after validation, not {natText size}"
  | notChoice choices => s!"Input should be {orList choices}"
  | noTag tag => s!"Unable to extract tag using discriminator '{tag}'"
  | unknownTag tag found expected =>
    let tags := Value.joinComma (expected.map fun t => s!"'{t}'")
    s!"Input tag '{found}' found using '{tag}' does not match any of the expected tags: {tags}"
  | badJson reason => s!"Invalid JSON: {reason}"

/-- A short code for the kind of problem. -/
def code : Problem → String
  | missing => "missing"
  | notText => "string_type"
  | notInt => "int_type"
  | intUnreadable => "int_parsing"
  | intFractional => "int_from_float"
  | intTooLong => "int_parsing_size"
  | notFinite => "finite_number"
  | notFloat => "float_type"
  | floatUnreadable => "float_parsing"
  | notBool => "bool_type"
  | boolUnreadable => "bool_parsing"
  | notList => "list_type"
  | notDict => "dict_type"
  | notTuple => "tuple_type"
  | notModel _ => "model_type"
  | noFields => "model_attributes_type"
  | below _ => "greater_than_equal"
  | notAbove _ => "greater_than"
  | tooShort .. => "too_short"
  | tupleTooLong .. => "too_long"
  | notChoice _ => "enum"
  | noTag _ => "union_tag_not_found"
  | unknownTag .. => "union_tag_invalid"
  | badJson _ => "json_invalid"

end Problem

structure Issue where
  place : List Place
  problem : Problem
  found : Value
deriving Repr

namespace Issue

/-- The place as one text, the parts joined by points. -/
def placeText (i : Issue) : String :=
  if i.place.isEmpty then "<root>" else ".".intercalate (i.place.map Place.text)

def text (fromText : Bool) (i : Issue) : String :=
  s!"{i.placeText}: {i.problem.message fromText}"

def under (p : Place) (i : Issue) : Issue := { i with place := p :: i.place }

end Issue

end PuzzleWorlds
