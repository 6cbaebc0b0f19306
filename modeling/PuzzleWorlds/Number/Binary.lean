/-! Binary64 numbers as exact dyadic values.
A finite number is `± m * 2 ^ q`. Everything that has to be exact (comparison with an integer,
remainders, rounding of a quotient) is computed on `m` and `q` and rounded once at the end. -/

namespace PuzzleWorlds

/-- A power of two; a negative exponent counts as zero. -/
def twoTo (e : Int) : Nat := Nat.pow 2 e.toNat

/-- A power of ten; a negative exponent counts as zero. -/
def tenTo (e : Int) : Nat := Nat.pow 10 e.toNat

/-- The least significand that is not shortened near zero. -/
def hiddenBit : Nat := 0x10000000000000

/-- A finite binary64 value `± m * 2 ^ q`. -/
structure Binary where
  negative : Bool
  m : Nat
  q : Int
deriving Repr, DecidableEq

namespace Binary

def ofBits (b : UInt64) : Binary :=
  let e := ((b >>> 52) &&& 0x7FF).toNat
  let f := (b &&& 0xFFFFFFFFFFFFF).toNat
  let s := (b >>> 63) != 0
  if e == 0 then ⟨s, f, -1074⟩ else ⟨s, hiddenBit + f, (e : Int) - 1075⟩

/-- The exact value of a float, or `none` when it is infinite or no number. -/
def ofFloat? (x : Float) : Option Binary :=
  if x.isFinite then some (ofBits x.toBits) else none

/-- The value as a quotient of integers, with a positive denominator. -/
def ratio (b : Binary) : Int × Nat :=
  let n : Int := (b.m * twoTo b.q : Nat)
  (if b.negative then -n else n, twoTo (-b.q))

/-- The integer that the value is, if it is one. -/
def toInt? (b : Binary) : Option Int :=
  let (n, d) := b.ratio
  if n % d == 0 then some (n / d) else none

/-- The value without its fractional part. -/
def truncate (b : Binary) : Int :=
  let (n, d) := b.ratio
  n.tdiv d

end Binary

/-- The quotient `num / den` to the nearest integer, an exact half to the even neighbour. -/
def roundQuotient (num den : Nat) : Nat :=
  let q := num / den
  match compare (2 * (num % den)) den with
  | .lt => q
  | .gt => q + 1
  | .eq => if q % 2 == 0 then q else q + 1

namespace Binary

def signBit (negative : Bool) : UInt64 :=
  if negative then 0x8000000000000000 else 0

/-- The float nearest to `± num / den`, or `none` when it lies beyond the largest finite one.
The exponent is first guessed from the binary logarithms, so that the rounded significand has
53 bits, or fewer near zero; a carry out of the significand moves on to the next exponent. -/
def nearest? (negative : Bool) (num den : Nat) : Option Float :=
  if num == 0 then some (Float.ofBits (signBit negative)) else
  let guess : Int := (num.log2 : Int) - den.log2 - 52
  -- the quotient lies in [2 ^ (guess + 51), 2 ^ (guess + 53))
  let tooSmall := num * twoTo (-guess) < den * twoTo guess * hiddenBit
  let e := max (-1074) (if tooSmall then guess - 1 else guess)
  let s := roundQuotient (num * twoTo (-e)) (den * twoTo e)
  let magnitude : Int := if s < hiddenBit then s else (e + 1074) * hiddenBit + s
  if magnitude ≥ 0x7FF0000000000000 then none
  else some (Float.ofBits (signBit negative ||| magnitude.toNat.toUInt64))

def nearestInt? (n : Int) : Option Float := nearest? (n < 0) n.natAbs 1

end Binary

/-- The float as an integer, if it is one. -/
def floatToInt? (x : Float) : Option Int := (Binary.ofFloat? x).bind Binary.toInt?

/-- An integer against a float, exactly; `none` when the float is no number. -/
def compareIntFloat? (n : Int) (x : Float) : Option Ordering :=
  match Binary.ofFloat? x with
  | some b => let (p, d) := b.ratio; some (compare (n * d) p)
  | none => if x.isNaN then none else if x > 0 then some .lt else some .gt

def negZero : Float := Float.ofBits 0x8000000000000000

/-- The remainder of the truncated quotient, with the sign of the dividend. -/
def floatRemainder (x y : Float) : Float :=
  match Binary.ofFloat? x, Binary.ofFloat? y with
  | some a, some b =>
    let e := min a.q b.q
    let r := (a.m * twoTo (a.q - e)) % (b.m * twoTo (b.q - e))
    (Binary.nearest? a.negative (r * twoTo e) (twoTo (-e))).getD x
  | some _, none => if y.isNaN then y else x
  | none, _ => 0.0 / 0.0

/-- The floored remainder: it has the sign of the divisor, also when it is zero. -/
def floatMod (x y : Float) : Float :=
  let r := floatRemainder x y
  if r == 0 then (if y < 0 then negZero else 0.0)
  else if (y < 0) != (r < 0) then r + y else r

end PuzzleWorlds
