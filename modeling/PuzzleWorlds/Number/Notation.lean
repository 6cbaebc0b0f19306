import PuzzleWorlds.Number.Decimal

/-! How numbers are written. A float is written with the fewest digits that identify it: in
positional form while the exponent of its leading digit lies in `-4 … 15`, otherwise with a signed
exponent of at least two digits. A measured amount is written with six significant digits and
without trailing zeros. Rounded numbers have a set count of digits, a half going to the even one;
a `full` text keeps its trailing zeros and its point. -/

namespace PuzzleWorlds

def natDigits (n : Nat) : List Char := Nat.toDigits 10 n

def natText (n : Nat) : String := String.ofList (natDigits n)

def intText (n : Int) : String :=
  if n < 0 then "-" ++ natText n.natAbs else natText n.natAbs

/-- A signed exponent of at least two digits. -/
def exponentText (e : Int) : String :=
  let digits := natText e.natAbs
  (if e < 0 then "e-" else "e+") ++ (if digits.length < 2 then "0" ++ digits else digits)

def dropTrailingZeros (ds : List Char) : List Char :=
  (ds.reverse.dropWhile (· == '0')).reverse

/-- Digits with the point after the first `point` of them, padded with zeros on either side. -/
def positional (ds : List Char) (point : Int) (pointZero : Bool) : String :=
  if point ≤ 0 then
    String.ofList ('0' :: '.' :: (List.replicate (-point).toNat '0' ++ ds))
  else
    let n := point.toNat
    if ds.length ≤ n then
      String.ofList (ds ++ List.replicate (n - ds.length) '0') ++ (if pointZero then ".0" else "")
    else String.ofList (ds.take n ++ '.' :: ds.drop n)

/-- One digit, a point if more of them follow, and the exponent. -/
def scientific (ds : List Char) (e : Int) : String :=
  match ds with
  | [] => "0"
  | [d] => String.ofList [d] ++ exponentText e
  | d :: rest => String.ofList (d :: '.' :: rest) ++ exponentText e

def specialText (x : Float) : String :=
  if x.isNaN then "nan" else if x > 0 then "inf" else "-inf"

/-- The text of a float: the fewest digits that read back to it. -/
def floatText (x : Float) : String :=
  match Binary.ofFloat? x with
  | none => specialText x
  | some b =>
    let sign := if b.negative then "-" else ""
    if b.m == 0 then sign ++ "0.0" else
    let d := Decimal.shortest b
    let ds := natDigits d.digits
    let e : Int := d.exp + ds.length - 1
    let kept := dropTrailingZeros ds
    if -4 ≤ e ∧ e < 16 then sign ++ positional kept (e + 1) true
    else sign ++ scientific kept e

/-- A number with a set count of decimal places. -/
def fixedText (places : Nat) (full : Bool) (x : Float) : String :=
  match Binary.ofFloat? x with
  | none => specialText x
  | some b =>
    let (n, d) := b.ratio
    let ds := natDigits (roundQuotient (n.natAbs * Nat.pow 10 places) d)
    let padded := List.replicate (places + 1 - ds.length) '0' ++ ds
    let whole := padded.take (padded.length - places)
    let point := if places == 0 && !full then [] else '.' :: padded.drop (padded.length - places)
    String.ofList ((if b.negative then ['-'] else []) ++ whole ++ point)

/-- The first `n` digits of a number, and the exponent of the first one. -/
def leadingDigits (b : Binary) (n : Nat) : List Char × Int :=
  let (d, e) := Decimal.significant b n
  let ds := natDigits d
  (ds ++ List.replicate (n - ds.length) '0', e)

/-- A number with an exponent and a set count of places before it. -/
def scientificText (places : Nat) (full : Bool) (x : Float) : String :=
  match Binary.ofFloat? x with
  | none => specialText x
  | some b =>
    let (ds, e) := leadingDigits b (places + 1)
    let point := if places == 0 && !full then [] else ['.']
    (if b.negative then "-" else "") ++ String.ofList (ds.take 1 ++ point ++ ds.drop 1) ++
      exponentText e

/-- A number with a set count of significant digits, the one before the point always among them.
It is positional while no zeros have to be added after those digits. -/
def generalText (digits : Nat) (full : Bool) (x : Float) : String :=
  match Binary.ofFloat? x with
  | none => specialText x
  | some b =>
    let count := max 1 digits
    let (ds, e) := leadingDigits b count
    let shown := if full then ds else if b.m == 0 then ['0'] else dropTrailingZeros ds
    let text :=
      if -4 ≤ e ∧ e < count then
        positional shown (e + 1) false ++ (if full && e + 1 == (count : Int) then "." else "")
      else if full && count == 1 then String.ofList (shown ++ ['.']) ++ exponentText e
      else scientific shown e
    (if b.negative then "-" else "") ++ text

/-- The text of an amount: six significant digits, trailing zeros dropped. -/
def amountText (x : Float) : String := generalText 6 false x

end PuzzleWorlds
