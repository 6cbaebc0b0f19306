import PuzzleWorlds.Value.Coercion
import PuzzleWorlds.Value.Misfit
import PuzzleWorlds.Value.Render

/-! Messages with places for values. A place is a percent sign, a key in parentheses, flags, a
width, a precision and a letter that says how the value is written. Widths and precisions may be
values themselves. The values are a list, or a dictionary whose entries are taken by key. -/

namespace PuzzleWorlds.Log

inductive TemplateFault where
  | tooFewValues
  | tooManyValues
  | notNumber (letter : Char) (type : String)
  | notWhole (letter : Char) (type : String)
  | notCharacter
  | outOfRange
  | notMapping
  | starNotWhole
  | countTooLarge
  | widthTooBig
  | precisionTooBig
  | unknownLetter (letter : Char) (position : Nat)
  | keyCutShort
  | cutShort
  | misfit (cause : Misfit)
deriving Repr

namespace TemplateFault

def message : TemplateFault → String
  | tooFewValues => "not enough arguments for format string"
  | tooManyValues => "not all arguments converted during string formatting"
  | notNumber c t => s!"%{c} format: a real number is required, not {t}"
  | notWhole c t => s!"%{c} format: an integer is required, not {t}"
  | notCharacter => "%c requires int or char"
  | outOfRange => "%c arg not in range(0x110000)"
  | notMapping => "format requires a mapping"
  | starNotWhole => "* wants int"
  | countTooLarge => "the width or precision is too large"
  | widthTooBig => "width too big"
  | precisionTooBig => "precision too big"
  | unknownLetter c i =>
    let code := String.ofList (Nat.toDigits 16 c.toNat)
    let shown := if 31 ≤ c.toNat ∧ c.toNat ≤ 126 then c else '?'
    s!"unsupported format character '{shown}' (0x{code}) at index {natText i}"
  | keyCutShort => "incomplete format key"
  | cutShort => "incomplete format"
  | misfit m => m.message

def kind : TemplateFault → MisfitKind
  | unknownLetter .. | keyCutShort | cutShort | widthTooBig | precisionTooBig => .value
  | outOfRange | countTooLarge => .overflow
  | misfit m => m.kind
  | _ => .type

end TemplateFault

/-- The values that are left for the places of a template. Of a dictionary, the value taken next
is the whole of it, or the entry whose key was named last. -/
inductive Supply where
  | listed (values : List Value)
  | keyed (whole : Value) (next : Option Value)
deriving Repr

namespace Supply

def take : Supply → Except TemplateFault (Value × Supply)
  | listed (v :: rest) => .ok (v, listed rest)
  | keyed whole (some v) => .ok (v, keyed whole none)
  | _ => .error .tooFewValues

/-- Names the entry of the value that is taken next. -/
def named (s : Supply) (key : String) : Except TemplateFault Supply :=
  match s with
  | listed _ => .error .notMapping
  | keyed whole _ => match whole.get? key with
    | some v => .ok (keyed whole (some v))
    | none => .error (.misfit (.unknownName key))

def isUsedUp : Supply → Bool
  | listed (_ :: _) => false
  | _ => true

/-- The values of a message; a single dictionary that is not empty is taken apart by key. -/
def ofValues : List Value → Supply
  | [.dict (e :: es)] => keyed (.dict (e :: es)) (some (.dict (e :: es)))
  | [.record (e :: es)] => keyed (.record (e :: es)) (some (.record (e :: es)))
  | values => listed values

end Supply

/-- How a value is written at a place. -/
structure Directive where
  flags : List Char := []
  width : Nat := 0
  precision : Option Nat := none
  letter : Char
deriving Repr

namespace Directive

def isFlag (c : Char) : Bool := "-+ #0".toList.contains c

/-- The largest width, and the largest precision. -/
def maxWidth : Nat := 0x7FFFFFFFFFFFFFFF
def maxPrecision : Nat := 0x7FFFFFFF

/-- A key up to the parenthesis that closes it, and what follows; `depth` more are open. -/
def key? : Nat → List Char → Option (List Char × List Char)
  | _, [] => none
  | 0, ')' :: rest => some ([], rest)
  | depth, c :: rest =>
    let inner := if c == '(' then depth + 1 else if c == ')' then depth - 1 else depth
    (key? inner rest).map fun (k, rest) => (c :: k, rest)

/-- A count: digits, or a star for the next value. -/
def count (limit : Nat) (tooBig : TemplateFault) (cs : List Char) (s : Supply) :
    Except TemplateFault (Int × List Char × Supply) :=
  match cs with
  | '*' :: rest => do
    let (v, s) ← s.take
    match v.wholeOf? with
    | none => .error .starNotWhole
    | some n => if n.natAbs ≤ limit then .ok (n, rest, s) else .error .countTooLarge
  | _ =>
    let n := digitsValue (cs.takeWhile Char.isDigit)
    if n ≤ limit then .ok (n, cs.dropWhile Char.isDigit, s) else .error tooBig

/-- The key after a percent sign, if one begins here. -/
def named (cs : List Char) (s : Supply) : Except TemplateFault (List Char × Supply) :=
  match cs with
  | '(' :: rest =>
    match s, key? 0 rest with
    | .listed _, _ => .error .notMapping
    | .keyed .., none => .error .keyCutShort
    | .keyed .., some (k, rest) => do return (rest, ← s.named (String.ofList k))
  | _ => .ok (cs, s)

/-- The directive after a percent sign, with the rest of the template and of the values. A
negative width is one at the left; a letter for the size of a number means nothing. -/
def read (cs : List Char) (s : Supply) :
    Except TemplateFault (Directive × List Char × Supply) := do
  let (cs, s) ← named cs s
  let flags := cs.takeWhile isFlag
  let (width, cs, s) ← count maxWidth .widthTooBig (cs.dropWhile isFlag) s
  let flags := if width < 0 then '-' :: flags else flags
  let (precision, cs, s) ← match cs with
    | '.' :: rest => do
      let (n, rest, s) ← count maxPrecision .precisionTooBig rest s
      pure (some n.toNat, rest, s)
    | _ => pure (none, cs, s)
  let cs := match cs with
    | 'h' :: rest | 'l' :: rest | 'L' :: rest => rest
    | _ => cs
  match cs with
  | letter :: rest => return ({ flags, width := width.natAbs, precision, letter }, rest, s)
  | [] => .error .cutShort

def has (d : Directive) (c : Char) : Bool := d.flags.contains c

/-- Fills a text up to the width. -/
def pad (d : Directive) (s : String) : String :=
  let blanks := String.ofList (List.replicate (d.width - s.length) ' ')
  if d.has '-' then s ++ blanks else blanks ++ s

/-- Adds the sign and the mark of the base to digits, and zeros or blanks up to the width. -/
def padNumber (d : Directive) (negative : Bool) (mark digits : String) : String :=
  let sign := if negative then "-" else if d.has '+' then "+" else if d.has ' ' then " " else ""
  let missing := d.width - sign.length - mark.length - digits.length
  if d.has '0' && !d.has '-' then
    sign ++ mark ++ String.ofList (List.replicate missing '0') ++ digits
  else d.pad (sign ++ mark ++ digits)

def writeText (d : Directive) (s : String) : String :=
  d.pad (match d.precision with
    | some n => (s.take n).toString
    | none => s)

/-- An integer in a base; the precision is the least count of its digits. -/
def writeInt (d : Directive) (base : Nat) (mark : String) (n : Int) : String :=
  let digits := Nat.toDigits base n.natAbs
  let zeros := List.replicate ((d.precision.getD 0) - digits.length) '0'
  d.padNumber (n < 0) (if d.has '#' then mark else "") (String.ofList (zeros ++ digits))

/-- A number by its text, whose sign is taken off first. -/
def writeFloat (d : Directive) (text : String) : String :=
  match text.toList with
  | '-' :: rest => d.padNumber true "" (String.ofList rest)
  | _ => d.padNumber false "" text

/-- A text of one character, or the character of a number. -/
def character (v : Value) : Except TemplateFault Char :=
  match v, v.wholeOf? with
  | .text s, _ => match s.toList with
    | [c] => .ok c
    | _ => .error .notCharacter
  | _, some n => if 0 ≤ n ∧ n < 0x110000 then .ok (Char.ofNat n.toNat) else .error .outOfRange
  | _, none => .error .notCharacter

/-- A value that must be a whole number, as no number is cut for these letters. -/
def wholeNumber (d : Directive) (v : Value) : Except TemplateFault Int :=
  match v.wholeOf? with
  | some n => .ok n
  | none => .error (.notWhole d.letter v.typeName)

def floatOf (v : Value) : Except TemplateFault Float :=
  if v.isNumber then v.toNumber.mapError .misfit else .error (.misfit (.notNumber v.typeName))

def write (d : Directive) (v : Value) (position : Nat) : Except TemplateFault String :=
  let places := d.precision.getD 6
  let full := d.has '#'
  match d.letter with
  | 's' => .ok (d.writeText v.display)
  | 'r' => .ok (d.writeText v.repr)
  | 'a' => .ok (d.writeText (asciiEscaped v.repr))
  | 'd' | 'i' | 'u' =>
    if v.isNumber then (v.toInt.mapError .misfit).map (d.writeInt 10 "")
    else .error (.notNumber d.letter v.typeName)
  | 'o' => (d.wholeNumber v).map (d.writeInt 8 "0o")
  | 'x' => (d.wholeNumber v).map (d.writeInt 16 "0x")
  | 'X' => (d.wholeNumber v).map fun n => (d.writeInt 16 "0x" n).toUpper
  | 'f' => (floatOf v).map fun x => d.writeFloat (fixedText places full x)
  | 'F' => (floatOf v).map fun x => (d.writeFloat (fixedText places full x)).toUpper
  | 'e' => (floatOf v).map fun x => d.writeFloat (scientificText places full x)
  | 'E' => (floatOf v).map fun x => (d.writeFloat (scientificText places full x)).toUpper
  | 'g' => (floatOf v).map fun x => d.writeFloat (generalText places full x)
  | 'G' => (floatOf v).map fun x => (d.writeFloat (generalText places full x)).toUpper
  | 'c' => (character v).map fun c => d.pad (String.singleton c)
  | c => .error (.unknownLetter c position)

end Directive

/-- The rest of a template with its places filled in; `size` is the length of the whole. Two
percent signs stand for one. -/
def fillFrom (size : Nat) : Nat → List Char → Supply → Except TemplateFault (List Char)
  | 0, _, _ => .ok []
  | _, [], s => if s.isUsedUp then .ok [] else .error .tooManyValues
  | fuel + 1, '%' :: '%' :: rest, s => (fillFrom size fuel rest s).map ('%' :: ·)
  | fuel + 1, '%' :: rest, s => do
    let (d, rest, s) ← Directive.read rest s
    let (v, s) ← s.take
    let text ← d.write v (size - rest.length - 1)
    return text.toList ++ (← fillFrom size fuel rest s)
  | fuel + 1, c :: rest, s => (fillFrom size fuel rest s).map (c :: ·)

/-- A message; without values the template is the message. -/
def fill (template : String) (values : List Value) : Except TemplateFault String :=
  let cs := template.toList
  match values with
  | [] => .ok template
  | _ => (fillFrom cs.length (cs.length + 1) cs (.ofValues values)).map String.ofList

end PuzzleWorlds.Log
