import PuzzleWorlds.Number.Binary

/-! Decimal digits of binary numbers: the fewest digits that read back to the same number, and a
set count of significant digits. Both are selected by exact integer arithmetic. -/

namespace PuzzleWorlds

/-- The number `digits * 10 ^ exp`. -/
structure Decimal where
  digits : Nat
  exp : Int
deriving Repr, DecidableEq

namespace Decimal

/-- Compares `a * 10 ^ i` with `n * 2 ^ j`, exactly. -/
def compareScaled (a : Nat) (i : Int) (n : Nat) (j : Int) : Ordering :=
  compare (a * tenTo i * twoTo (-j)) (n * twoTo j * tenTo (-i))

/-- Whether the decimal lies among the reals that round to `m * 2 ^ q`. Below a power of two the
gap is half as wide; the ends belong to the interval exactly when `m` is even. -/
def readsBack (b : Binary) (d : Decimal) : Bool :=
  let narrow := b.m == hiddenBit && b.q > -1074
  let lo := if narrow then 4 * b.m - 1 else 4 * b.m - 2
  let hi := 4 * b.m + 2
  let ends := b.m % 2 == 0
  let cl := compareScaled d.digits d.exp lo (b.q - 2)
  let ch := compareScaled d.digits d.exp hi (b.q - 2)
  (cl == .gt || (ends && cl == .eq)) && (ch == .lt || (ends && ch == .eq))

/-- The least `k` with `m * 2 ^ q < 10 ^ k`, for positive `m`: an estimate from the binary
logarithm is corrected by exact comparison. -/
def scale (b : Binary) : Int :=
  let k : Int := ((b.m.log2 : Int) + b.q) * 30103 / 100000 - 1
  let above (k : Int) : Bool := compareScaled 1 k b.m b.q == .gt
  ([k, k + 1, k + 2, k + 3].find? above).getD (k + 4)

/-- The value on the grid `10 ^ e`, rounded down. -/
def floorOn (b : Binary) (e : Int) : Nat :=
  (b.m * twoTo b.q * tenTo (-e)) / (twoTo (-b.q) * tenTo e)

/-- Of the two neighbours of the value on the grid `10 ^ e`, the nearer one that reads back. -/
def onGrid? (b : Binary) (e : Int) : Option Decimal :=
  let d := floorOn b e
  match readsBack b ⟨d, e⟩, readsBack b ⟨d + 1, e⟩ with
  | true, true =>
    match compareScaled (2 * d + 1) e (2 * b.m) b.q with
    | .gt => some ⟨d, e⟩
    | .lt => some ⟨d + 1, e⟩
    | .eq => some ⟨if d % 2 == 0 then d else d + 1, e⟩
  | true, false => some ⟨d, e⟩
  | false, true => some ⟨d + 1, e⟩
  | false, false => none

/-- The value itself: every dyadic number is a decimal one. -/
def exact (b : Binary) : Decimal :=
  if b.q ≥ 0 then ⟨b.m * twoTo b.q, 0⟩ else ⟨b.m * Nat.pow 5 (-b.q).toNat, b.q⟩

/-- The decimal with the fewest digits that reads back to the value. -/
def shortest (b : Binary) : Decimal :=
  let k := scale b
  (((List.range 17).map fun n => k - (n + 1 : Nat)).findSome? (onGrid? b)).getD (exact b)

/-- The value to `n` significant digits, a half to the even digit; with the exponent of the
leading digit. -/
def significant (b : Binary) (n : Nat) : Nat × Int :=
  if b.m == 0 then (0, 0) else
  let k := scale b
  let e := k - n
  let d := roundQuotient (b.m * twoTo b.q * tenTo (-e)) (twoTo (-b.q) * tenTo e)
  if d == tenTo n then (tenTo (n - 1), k) else (d, k - 1)

end Decimal

end PuzzleWorlds
