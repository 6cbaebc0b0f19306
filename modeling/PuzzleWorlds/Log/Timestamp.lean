import PuzzleWorlds.Number.Notation
import PuzzleWorlds.Value.Basic

/-! Points in time as text, in universal time. -/

namespace PuzzleWorlds.Log

/-- A point in time, counted from the beginning of 1970. -/
structure Instant where
  seconds : Int
  microseconds : Nat := 0
deriving DecidableEq, Repr

/-- Seconds may be missing or no number, need more than 64 bits, or lie in a year that no calendar
has; of the years there are, those from 1 to 9999 have a text. -/
inductive InstantFault where
  | notNumber
  | wrongType (type : String)
  | tooLarge
  | noYear
  | yearOut (year : Int)
deriving DecidableEq, Repr

def InstantFault.message : InstantFault → String
  | notNumber => "Invalid value NaN (not a number)"
  | wrongType t => s!"'{t}' object cannot be interpreted as an integer"
  | tooLarge => "timestamp out of range for platform time_t"
  | noYear => "Value too large for defined data type"
  | yearOut y => s!"year {intText y} is out of range"

namespace Instant

/-- The least number of seconds, and its negative, that no instant has. -/
def secondsLimit : Int := 0x8000000000000000

/-- The instant, if its seconds are within the limit. -/
def bounded (i : Instant) : Except InstantFault Instant :=
  if -secondsLimit ≤ i.seconds ∧ i.seconds < secondsLimit then .ok i else .error .tooLarge

/-- The instant of a number of seconds, to the nearest microsecond. -/
def ofFloat (x : Float) : Except InstantFault Instant :=
  match Binary.ofFloat? x with
  | none => .error (if x.isNaN then .notNumber else .tooLarge)
  | some b =>
    let whole := b.truncate
    let part := (x - Float.ofInt whole) * 1000000
    match Binary.ofFloat? part with
    | none => .error .tooLarge
    | some p =>
      let (n, d) := p.ratio
      let rounded : Int := roundQuotient n.natAbs d
      let micros := if n < 0 then -rounded else rounded
      if micros ≥ 1000000 then bounded ⟨whole + 1, (micros - 1000000).toNat⟩
      else if micros < 0 then bounded ⟨whole - 1, (micros + 1000000).toNat⟩
      else bounded ⟨whole, micros.toNat⟩

def ofValue : Value → Except InstantFault Instant
  | .int n => bounded ⟨n, 0⟩
  | .bool b => .ok ⟨if b then 1 else 0, 0⟩
  | .float x => ofFloat x
  | v => .error (.wrongType v.typeName)

end Instant

structure Date where
  year : Int
  month : Nat
  day : Nat
deriving DecidableEq, Repr

/-- The date of a day counted from the beginning of 1970. Years are taken to begin in March, so that
the leap day is the last one of its year; 400 such years have 146097 days. -/
def Date.ofDay (n : Int) : Date :=
  let shifted := n + 719468
  let era := Int.fdiv shifted 146097
  let dayOfEra := (shifted - era * 146097).toNat
  let yearOfEra :=
    (dayOfEra - dayOfEra / 1460 + dayOfEra / 36524 - dayOfEra / 146096) / 365
  let dayOfYear := dayOfEra - (365 * yearOfEra + yearOfEra / 4 - yearOfEra / 100)
  let month := (5 * dayOfYear + 2) / 153
  let year : Int := yearOfEra + era * 400
  { year := if month < 10 then year else year + 1
    month := if month < 10 then month + 3 else month - 9
    day := dayOfYear - (153 * month + 2) / 5 + 1 }

/-- A number with at least `n` digits. -/
def zeroPadded (n : Nat) (k : Nat) : String :=
  let ds := natDigits k
  String.ofList (List.replicate (n - ds.length) '0' ++ ds)

/-- The first and the last year of the calendar. -/
def firstYear : Int := -2147481748
def lastYear : Int := 2147485547

/-- The date and the time of day; microseconds only if there are any. -/
def Instant.text (i : Instant) : Except InstantFault String :=
  let date := Date.ofDay (Int.fdiv i.seconds 86400)
  let second := (Int.fmod i.seconds 86400).toNat
  if date.year < firstYear || date.year > lastYear then .error .noYear
  else if date.year < 1 || date.year > 9999 then .error (.yearOut date.year)
  else
    let day := s!"{zeroPadded 4 date.year.toNat}-{zeroPadded 2 date.month}-{zeroPadded 2 date.day}"
    let time := ":".intercalate
      [zeroPadded 2 (second / 3600), zeroPadded 2 (second / 60 % 60), zeroPadded 2 (second % 60)]
    let micros := if i.microseconds == 0 then "" else "." ++ zeroPadded 6 i.microseconds
    .ok (day ++ "T" ++ time ++ micros ++ "+00:00")

/-- The text of the point in time that a number of seconds stands for. -/
def timestamp (seconds : Value) : Except InstantFault String := do (← Instant.ofValue seconds).text

end PuzzleWorlds.Log
