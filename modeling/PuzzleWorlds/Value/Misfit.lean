import PuzzleWorlds.Value.Coercion

/-! Values that do not fit their use. An action may carry any payload, so a number, a cell or a
text can be missing where one is needed; a `Misfit` says what was found instead. -/

namespace PuzzleWorlds

inductive Misfit where
  | signOnText
  | notFormattable (type : String)
  | notNumeral (text : String)
  | notWholeNumeral (text : String)
  | notNumber (type : String)
  | notWhole (type : String)
  | undefinedToInt
  | infiniteToInt
  | intTooLarge
  | quotientTooLarge
  | tooFewParts (expected got : Nat)
  | tooManyParts (expected : Nat)
  | notUnpackable (type : String)
  | notIterable (type : String)
  | unsupported (symbol left right : String)
  | unordered (symbol left right : String)
  | noTextFormatting
  | unhashable (type : String)
  | notAnIndex (type : String)
  | notSubscriptable (type : String)
  | noAttribute (type name : String)
  | notJoinable (position : Nat) (type : String)
  | notMember (value : String) (enumeration : String)
  | notInSequence
  | unknownName (text : String)
  | noSuchIndex
  | badAction (data : Value)
  | badPayloadField (field kind : String)
  | zeroRemainder
  | nullCharacter
  | longNumeral (digits : Nat)
  | unwritable
  | notText (type : String)
  | notSerializable (type : String)
deriving Repr

/-- The kinds of misfit that are told apart: a wrong value, type, key or index, a number beyond
the range of floats, a missing attribute. -/
inductive MisfitKind where
  | value | type | key | index | overflow | attribute | zeroDivision
deriving DecidableEq, Repr

namespace Misfit

/-- The beginning of a quoted text, as far as a message shows it. -/
def excerpt (s : String) : String := String.ofList ((quoted s).toList.take 200)

def kind : Misfit → MisfitKind
  | signOnText | notNumeral _ | notWholeNumeral _ | undefinedToInt | tooFewParts .. | tooManyParts _
  | notMember .. | notInSequence | badAction _ | badPayloadField .. | nullCharacter
  | longNumeral _ | unwritable => .value
  | infiniteToInt | intTooLarge | quotientTooLarge => .overflow
  | noAttribute .. => .attribute
  | unknownName _ => .key
  | noSuchIndex => .index
  | zeroRemainder => .zeroDivision
  | _ => .type

def message : Misfit → String
  | signOnText => "Sign not allowed in string format specifier"
  | notFormattable t => s!"unsupported format string passed to {t}.__format__"
  | notNumeral s => s!"could not convert string to float: {quoted s}"
  | notWholeNumeral s => s!"invalid literal for int() with base 10: {excerpt s}"
  | notNumber t => s!"float() argument must be a string or a real number, not '{t}'"
  | notWhole t =>
    s!"int() argument must be a string, a bytes-like object or a real number, not '{t}'"
  | undefinedToInt => "cannot convert float NaN to integer"
  | infiniteToInt => "cannot convert float infinity to integer"
  | intTooLarge => "int too large to convert to float"
  | quotientTooLarge => "integer division result too large for a float"
  | tooFewParts n got => s!"not enough values to unpack (expected {n}, got {got})"
  | tooManyParts n => s!"too many values to unpack (expected {n})"
  | notUnpackable t => s!"cannot unpack non-iterable {t} object"
  | notIterable t => s!"'{t}' object is not iterable"
  | unsupported op a b => s!"unsupported operand type(s) for {op}: '{a}' and '{b}'"
  | unordered op a b => s!"'{op}' not supported between instances of '{a}' and '{b}'"
  | noTextFormatting => "not all arguments converted during string formatting"
  | unhashable t => s!"unhashable type: '{t}'"
  | notSubscriptable t => s!"'{t}' object is not subscriptable"
  | notAnIndex t => s!"list indices must be integers or slices, not {t}"
  | noAttribute t name => s!"'{t}' object has no attribute '{name}'"
  | notJoinable i t => s!"sequence item {i}: expected str instance, {t} found"
  | notMember v e => s!"{v} is not a valid {e}"
  | notInSequence => "tuple.index(x): x not in tuple"
  | unknownName s => s
  | noSuchIndex => "list index out of range"
  | badAction d => s!"Unknown action type in {d.repr}"
  | badPayloadField f k => s!"Unknown payload field '{f}' for {k}"
  | zeroRemainder => "integer division or modulo by zero"
  | nullCharacter => "source code string cannot contain null bytes"
  | longNumeral n =>
    s!"Exceeds the limit ({natText maxNumeralDigits} digits) for integer string conversion: " ++
      s!"value has {natText n} digits; use sys.set_int_max_str_digits() to increase the limit"
  | unwritable =>
    s!"Exceeds the limit ({natText maxNumeralDigits} digits) for integer string conversion; " ++
      "use sys.set_int_max_str_digits() to increase the limit"
  | notText t => s!"expected string or bytes-like object, got '{t}'"
  | notSerializable t => s!"Object of type {t} is not JSON serializable"

end Misfit

namespace Value

/-- The whole part of a number, or the number that a text names. -/
def toInt : Value → Except Misfit Int
  | int n => .ok n
  | bool b => .ok (if b then 1 else 0)
  | float x => match Binary.ofFloat? x with
    | some b => .ok b.truncate
    | none => .error (if x.isNaN then .undefinedToInt else .infiniteToInt)
  | text s => match readInt? s with
    | some n => .ok n
    | none => .error (.notWholeNumeral s)
  | v => .error (.notWhole v.typeName)

/-- The float nearest to a number, or the one that a text names. -/
def toNumber : Value → Except Misfit Float
  | text s => match readFloat? s with
    | some x => .ok x
    | none => .error (.notNumeral s)
  | v => match v.toFloat with
    | .ok x => .ok x
    | .error .unsupported => .error (.notNumber v.typeName)
    | .error _ => .error .intTooLarge

/-- The parts of a value that can be gone through one by one. -/
def parts? : Value → Option (List Value)
  | list l | tuple l => some l
  | text s => some (s.toList.map fun c => text (String.singleton c))
  | dict l | record l => some (l.map fun e => text e.1)
  | _ => none

def parts (v : Value) : Except Misfit (List Value) :=
  match v.parts? with
  | some l => .ok l
  | none => .error (.notIterable v.typeName)

/-- The parts of a value that must have exactly `n`. -/
def unpack (n : Nat) (v : Value) : Except Misfit (List Value) :=
  match v.parts? with
  | none => .error (.notUnpackable v.typeName)
  | some l =>
    if l.length < n then .error (.tooFewParts n l.length)
    else if n < l.length then .error (.tooManyParts n)
    else .ok l

/-- The text of a number in a message. A whole number may have too many digits to be written. -/
def written : Value → Except Misfit String
  | int n => if n.natAbs < tenTo maxNumeralDigits then .ok (intText n) else .error .unwritable
  | v => .ok v.display

mutual

/-- Whether a text of the value can be written: no whole number in it has too many digits. -/
def writable : Value → Bool
  | int n => n.natAbs < tenTo maxNumeralDigits
  | list l | tuple l => writableItems l
  | dict l | record l => writableEntries l
  | _ => true

def writableItems : List Value → Bool
  | [] => true
  | v :: rest => writable v && writableItems rest

def writableEntries : List (String × Value) → Bool
  | [] => true
  | (_, v) :: rest => writable v && writableEntries rest

end

def operation (op : Operator) (a b : Value) : Except Misfit Value :=
  match operate op a b with
  | .ok v => .ok v
  | .error .tooLarge => .error .intTooLarge
  | .error .zeroDivision => .error .zeroRemainder
  | .error .unsupported =>
    match op, a with
    | .mod, text _ => .error .noTextFormatting
    | _, _ => .error (.unsupported op.symbol a.typeName b.typeName)

def ordered (c : Comparison) (a b : Value) : Except Misfit Bool :=
  match compareBy c a b with
  | .ok r => .ok r
  | .error (x, y) => .error (.unordered c.symbol x.typeName y.typeName)

mutual

/-- Whether the value can be a key: lists and dictionaries cannot. -/
def keyed : Value → Except Misfit Unit
  | list _ => .error (.unhashable "list")
  | dict _ => .error (.unhashable "dict")
  | record _ => .error (.unhashable "mappingproxy")
  | tuple l => keyedItems l
  | _ => .ok ()

def keyedItems : List Value → Except Misfit Unit
  | [] => .ok ()
  | v :: rest => do keyed v; keyedItems rest

end

end Value

end PuzzleWorlds
