import PuzzleWorlds.Proofs.JsonScanners
import PuzzleWorlds.Proofs.ShortestDecimal

/-! Floats in JSON text. A float is written as a numeral with a point or an exponent: whatever its
form, the numeral has the value of the decimal that was found for the float, and a scanner reads
its digits and its exponent back. -/

namespace PuzzleWorlds

theorem digitsValue_append (ds ds' : List Char) :
    digitsValue (ds ++ ds') = 10 ^ ds'.length * digitsValue ds + digitsValue ds' := by
  have whole := @Nat.ofDigitChars_eq_ofDigitChars_zero ds' (digitsValue ds)
  rw [Nat.ofDigitChars_eq_foldl, Nat.ofDigitChars_eq_foldl] at whole
  rw [digitsValue, List.foldl_append]
  exact whole

theorem digitsValue_zeros (n : Nat) : digitsValue (List.replicate n '0') = 0 := by
  have zeros := @Nat.ofDigitChars_replicate_zero 10 0 n
  rwa [Nat.ofDigitChars_eq_foldl] at zeros

/-- Every character is a digit. -/
def Digits (ds : List Char) : Prop := ∀ c ∈ ds, c.isDigit = true

/-- Digits end here. -/
def EndsDigits (rest : List Char) : Prop := ∀ c ∈ rest.head?, c.isDigit = false ∧ c ≠ '_'

theorem endsDigits_of_delimited {rest : List Char} (ends : Json.Delimited rest) :
    EndsDigits rest := by
  intro c first
  obtain rfl | rfl | rfl := ends c first <;> exact ⟨rfl, by decide⟩

theorem takeWhile_digits {ds rest : List Char} (digits : Digits ds) (stops : EndsDigits rest) :
    (ds ++ rest).takeWhile Char.isDigit = ds := by
  have none : rest.takeWhile Char.isDigit = [] := by
    cases rest with
    | nil => rfl
    | cons c cs => simp [(stops c rfl).1]
  rw [List.takeWhile_append_of_pos digits, none, List.append_nil]

theorem takeDigits_digits {ds rest : List Char} (digits : Digits ds) (stops : EndsDigits rest) :
    takeDigits (ds ++ rest) = (ds, rest) := by
  induction ds with
  | nil =>
    cases rest with
    | nil => rfl
    | cons c cs =>
      obtain ⟨other, line⟩ := stops c rfl
      rw [List.nil_append, takeDigits.eq_2 _ _ fun c' cs' same => absurd same line, other]
      rfl
  | cons d ds ih =>
    obtain ⟨digit, digits⟩ := List.forall_mem_cons.mp digits
    have line : d ≠ '_' := (Json.ne_of_isDigit digit rfl).symm
    rw [List.cons_append, takeDigits.eq_2 _ _ fun c' cs' same => absurd same line, if_pos digit,
      ih digits]

theorem takeNumeral_digits {ds rest : List Char} (digits : Digits ds) (stops : EndsDigits rest) :
    takeNumeral (ds ++ rest) = (ds, rest) := by
  unfold takeNumeral
  split
  next same =>
    cases ds with
    | nil => exact absurd rfl (stops '_' (by rw [← List.nil_append rest, same]; rfl)).2
    | cons d ds =>
      obtain rfl : d = '_' := (List.cons.inj same).1
      exact absurd (digits '_' List.mem_cons_self) (by decide)
  next => exact takeDigits_digits digits stops

/-- The digits of an exponent. -/
def exponentDigits (e : Int) : List Char :=
  if (natDigits e.natAbs).length < 2 then '0' :: natDigits e.natAbs else natDigits e.natAbs

theorem toList_exponentText (e : Int) : (exponentText e).toList =
    'e' :: (if e < 0 then '-' else '+') :: exponentDigits e := by
  unfold exponentText exponentDigits natText
  simp only [String.toList_append, ← String.length_toList, String.toList_ofList]
  split <;> split <;> simp

theorem digits_natDigits (n : Nat) : Digits (natDigits n) := fun _ => Json.isDigit_of_mem_natDigits

theorem digits_exponentDigits (e : Int) : Digits (exponentDigits e) := by
  unfold exponentDigits
  split
  · exact List.forall_mem_cons.mpr ⟨rfl, digits_natDigits _⟩
  · exact digits_natDigits _

theorem exponentDigits_ne_nil (e : Int) : exponentDigits e ≠ [] := by
  unfold exponentDigits
  split
  · exact List.cons_ne_nil _ _
  · exact Json.natDigits_ne_nil _

theorem digitsValue_exponentDigits (e : Int) : digitsValue (exponentDigits e) = e.natAbs := by
  unfold exponentDigits
  split
  · exact Json.digitsValue_natDigits _
  · exact Json.digitsValue_natDigits _

theorem takeExponent_exponentText (e : Int) :
    takeExponent (exponentText e).toList = (some e, []) := by
  have stops : EndsDigits [] := nofun
  have taken := takeNumeral_digits (digits_exponentDigits e) stops
  have value := digitsValue_exponentDigits e
  obtain ⟨d, ds, first⟩ := List.exists_cons_of_ne_nil (exponentDigits_ne_nil e)
  rw [List.append_nil] at taken
  rw [toList_exponentText]
  rw [first] at taken value ⊢
  by_cases negative : e < 0
  · have same : -(e.natAbs : Int) = e := by omega
    simp only [negative, if_true, takeExponent, takeSign, taken, value]
    exact congrArg (fun k : Int => (some k, [])) same
  · have same : (e.natAbs : Int) = e := by omega
    simp only [negative, if_false, takeExponent, takeSign, taken, value]
    exact congrArg (fun k : Int => (some k, [])) same

/-- The parts of a numeral that is no whole number. -/
structure Numeral where
  whole : List Char
  fraction : List Char
  exponent : Option Int
  wholeDigits : Digits whole
  fractionDigits : Digits fraction
  first : ∃ d ds, whole = d :: ds ∧ (d = '0' → ds = [])
  real : fraction ≠ [] ∨ exponent ≠ none

namespace Numeral

variable (n : Numeral) {rest : List Char}

def point : List Char := if n.fraction.isEmpty then [] else '.' :: n.fraction

def power : List Char :=
  match n.exponent with
  | none => []
  | some e => (exponentText e).toList

def chars : List Char := n.whole ++ (n.point ++ n.power)

/-- The digits without the point. -/
def digits : Nat := digitsValue (n.whole ++ n.fraction)

/-- The power of ten by which the digits are multiplied. -/
def scale : Int := n.exponent.getD 0 - n.fraction.length

theorem isEmpty_whole : n.whole.isEmpty = false := by
  obtain ⟨d, ds, first, -⟩ := n.first
  rw [first]
  rfl

theorem point_cases : (n.fraction = [] ∧ n.point = []) ∨ n.point = '.' :: n.fraction := by
  unfold point
  split
  next none => exact .inl ⟨List.isEmpty_iff.mp none, rfl⟩
  next => exact .inr rfl

/-- An exponent is empty or begins with its letter. -/
theorem power_cases : n.power = [] ∨ ∃ e, n.exponent = some e ∧
    n.power = 'e' :: (if e < 0 then '-' else '+') :: exponentDigits e := by
  unfold power
  cases n.exponent with
  | none => exact .inl rfl
  | some e => exact .inr ⟨e, rfl, toList_exponentText e⟩

theorem endsDigits_power (ends : Json.Delimited rest) : EndsDigits (n.power ++ rest) := by
  obtain none | ⟨e, -, some⟩ := n.power_cases
  · rw [none, List.nil_append]
    exact endsDigits_of_delimited ends
  · rw [some]
    rintro c ⟨⟩
    exact ⟨rfl, by decide⟩

theorem endsDigits_point (ends : Json.Delimited rest) :
    EndsDigits (n.point ++ (n.power ++ rest)) := by
  unfold point
  split
  · exact n.endsDigits_power ends
  · rintro c ⟨⟩
    exact ⟨rfl, by decide⟩

theorem wholeDigits_append (stops : EndsDigits rest) :
    Json.wholeDigits (n.whole ++ rest) = n.whole := by
  obtain ⟨d, ds, whole, zero⟩ := n.first
  have all := takeWhile_digits n.wholeDigits stops
  rw [whole] at all ⊢
  unfold Json.wholeDigits
  split
  next same =>
    obtain rfl : d = '0' := (List.cons.inj same).1
    rw [zero rfl]
  next => exact all

theorem fractionDigits_append (ends : Json.Delimited rest) :
    Json.fractionDigits (n.point ++ (n.power ++ rest)) = n.fraction := by
  unfold point
  split
  next none =>
    rw [List.isEmpty_iff.mp none, List.nil_append]
    obtain none | ⟨e, -, some⟩ := n.power_cases
    · rw [none, List.nil_append, Json.fractionDigits_delimited ends]
    · rw [some]
      rfl
  next => exact takeWhile_digits n.fractionDigits (n.endsDigits_power ends)

theorem exponentChars_append (ends : Json.Delimited rest) :
    Json.exponentChars (n.power ++ rest) = n.power := by
  obtain none | ⟨e, -, some⟩ := n.power_cases
  · rw [none, List.nil_append, Json.exponentChars_delimited ends]
  · have all := takeWhile_digits (digits_exponentDigits e) (endsDigits_of_delimited ends)
    rw [some]
    by_cases negative : e < 0 <;>
      simp [negative, Json.exponentChars, all, exponentDigits_ne_nil]

theorem takeExponent_power : takeExponent n.power = (n.exponent, []) := by
  unfold power
  cases n.exponent with
  | none => rfl
  | some e => exact takeExponent_exponentText e

theorem takeDecimal_chars (negative : Bool) :
    takeDecimal negative n.chars = some (decimalFloat negative n.digits n.scale, []) := by
  have ends : Json.Delimited [] := by simp [Json.Delimited]
  have whole := takeNumeral_digits n.wholeDigits (n.endsDigits_point ends)
  have fraction := takeNumeral_digits n.fractionDigits (n.endsDigits_power ends)
  rw [List.append_nil] at whole fraction
  unfold takeDecimal chars
  simp only [whole]
  obtain ⟨none, point⟩ | point := n.point_cases
  · have exponent := n.takeExponent_power
    rw [point, List.nil_append, digits, scale, none]
    obtain plain | ⟨e, -, scaled⟩ := n.power_cases
    · rw [plain] at exponent ⊢
      simp [n.isEmpty_whole, exponent]
    · rw [scaled] at exponent ⊢
      simp [n.isEmpty_whole, exponent]
  · rw [point, List.cons_append]
    simp only [fraction, n.isEmpty_whole, Bool.false_and, takeExponent_power]
    rfl

theorem isDigit_head : ∃ d ds, n.chars = d :: ds ∧ d.isDigit = true := by
  obtain ⟨d, ds, first, -⟩ := n.first
  refine ⟨d, ds ++ (n.point ++ n.power), ?_, n.wholeDigits d (first ▸ List.mem_cons_self)⟩
  rw [chars, first, List.cons_append]

/-- A point or an exponent makes it a float. -/
theorem point_or_power : (n.point.isEmpty && n.power.isEmpty) = false := by
  obtain ⟨none, point⟩ | point := n.point_cases
  · obtain plain | ⟨e, -, scaled⟩ := n.power_cases
    · refine absurd n.real ?_
      unfold power at plain
      cases exponent : n.exponent with
      | none => simp [none]
      | some e =>
        have empty : (exponentText e).toList = [] := by simpa [exponent] using plain
        rw [toList_exponentText] at empty
        cases empty
    · rw [scaled, Bool.and_eq_false_iff]
      exact .inr rfl
  · rw [point]
    rfl

/-- A numeral is read as the float that is nearest to it. -/
theorem number_chars (negative : Bool) (ends : Json.Delimited rest) :
    Json.Takes Json.number ((if negative then ['-'] else []) ++ n.chars)
      (.float (decimalFloat negative n.digits n.scale)) rest := by
  intro p
  have parts : n.chars ++ rest = n.whole ++ (n.point ++ (n.power ++ rest)) := by
    simp [chars]
  have whole := n.wholeDigits_append (n.endsDigits_point ends)
  have fraction := n.fractionDigits_append ends
  have exponent := n.exponentChars_append ends
  have behind : (n.whole ++ (n.point ++ (n.power ++ rest))).drop
      (n.whole.length + n.point.length) = n.power ++ rest := by
    rw [← List.append_assoc]
    exact List.drop_left' (List.length_append)
  have point : (if n.fraction.isEmpty then [] else '.' :: n.fraction) = n.point := rfl
  have size : ((if negative then ['-'] else []) ++ n.chars).length =
      n.whole.length + n.point.length + n.power.length + if negative then 1 else 0 := by
    cases negative <;> simp [chars] <;> omega
  have taken := n.takeDecimal_chars negative
  rw [chars, ← List.append_assoc] at taken
  unfold Json.number
  split
  next sign cs same =>
    obtain ⟨rfl, rfl⟩ : sign = negative ∧ cs = n.chars ++ rest := by
      obtain ⟨d, ds, first, digit⟩ := n.isDigit_head
      have other : d ≠ '-' := (Json.ne_of_isDigit digit rfl).symm
      cases negative with
      | true => exact (Prod.mk.inj same).imp Eq.symm Eq.symm
      | false =>
        simp only [first, List.nil_append, List.cons_append, Bool.false_eq_true, if_false] at same ⊢
        split at same
        next minus => exact absurd (List.cons.inj minus).1 other
        next => exact (Prod.mk.inj same).imp Eq.symm Eq.symm
    rw [parts]
    simp only [whole, n.isEmpty_whole, List.drop_left, fraction, point, behind, exponent,
      n.point_or_power, taken]
    refine ⟨p + (n.whole.length + n.point.length + n.power.length + if sign then 1 else 0), ?_⟩
    simp only [Bool.false_eq_true, if_false, Json.Cursor.skip]
    rw [List.drop_left' size]

/-- The text is a numeral of that value, which is not written on too fine a grid. -/
def Shows (cs : List Char) (v : ℚ) : Prop :=
  ∃ n : Numeral, cs = n.chars ∧ n.digits * 10 ^ n.scale = v ∧ -1074 ≤ n.scale

theorem digits_zeros (n : Nat) : Digits (List.replicate n '0') := by
  intro c member
  rw [List.eq_of_mem_replicate member]
  rfl

section Forms

variable {ds : List Char} {e point : Int} (digits : Digits ds)
  (first : ∃ d r, ds = d :: r ∧ d ≠ '0')
include digits first

/-- Zeros between the point and the digits. -/
theorem shows_below_one {z : Nat} (least : -1074 ≤ (-(z + ds.length) : Int)) :
    Shows ('0' :: '.' :: (List.replicate z '0' ++ ds))
      (digitsValue ds * 10 ^ (-(z + ds.length) : Int)) := by
  obtain ⟨d, r, head, -⟩ := first
  have some : ds ≠ [] := head ▸ List.cons_ne_nil d r
  have zero : digitsValue ['0'] = 0 := rfl
  refine ⟨⟨['0'], List.replicate z '0' ++ ds, none, List.forall_mem_singleton.mpr rfl,
    List.forall_mem_append.mpr ⟨digits_zeros _, digits⟩, ⟨'0', [], rfl, fun _ => rfl⟩,
    .inl (List.append_ne_nil_of_right_ne_nil _ some)⟩, ?_, ?_, ?_⟩
  · simp [chars, Numeral.point, power, some]
  · have value : digitsValue (['0'] ++ (List.replicate z '0' ++ ds)) = digitsValue ds := by
      rw [digitsValue_append, digitsValue_append, digitsValue_zeros, zero]
      omega
    simp only [Numeral.digits, value, scale, Option.getD_none, List.length_append,
      List.length_replicate, Int.zero_sub]
    push_cast
    rfl
  · simpa [scale] using least

/-- A whole number, with zeros before its point. -/
theorem shows_padded (z : Nat) :
    Shows (ds ++ List.replicate z '0' ++ ['.', '0']) (digitsValue ds * 10 ^ z) := by
  obtain ⟨d, r, head, other⟩ := first
  have zero : digitsValue ['0'] = 0 := rfl
  have whole : ds ++ List.replicate z '0' = d :: (r ++ List.replicate z '0') := by
    rw [head, List.cons_append]
  refine ⟨⟨ds ++ List.replicate z '0', ['0'], none,
    List.forall_mem_append.mpr ⟨digits, digits_zeros _⟩, List.forall_mem_singleton.mpr rfl,
    ⟨d, _, whole, fun same => absurd same other⟩, .inl (List.cons_ne_nil _ _)⟩, ?_, ?_, ?_⟩
  · simp [chars, Numeral.point, power]
  · simp only [Numeral.digits, scale, Option.getD_none, digitsValue_append, digitsValue_zeros, zero,
      List.length_replicate, List.length_singleton]
    push_cast
    ring
  · simp [scale]

/-- The point among the digits. -/
theorem shows_cut {k : Nat} (inside : k + 1 < ds.length)
    (least : -1074 ≤ ((k + 1 : Nat) - ds.length : Int)) :
    Shows (ds.take (k + 1) ++ '.' :: ds.drop (k + 1))
      (digitsValue ds * 10 ^ ((k + 1 : Nat) - ds.length : Int)) := by
  obtain ⟨d, r, head, other⟩ := first
  have whole : ds.take (k + 1) = d :: r.take k := by rw [head, List.take_succ_cons]
  have grid : -((ds.drop (k + 1)).length : Int) = (k + 1 : Nat) - ds.length := by
    rw [List.length_drop]
    omega
  refine ⟨⟨ds.take (k + 1), ds.drop (k + 1), none,
    fun c member => digits c (List.mem_of_mem_take member),
    fun c member => digits c (List.mem_of_mem_drop member),
    ⟨d, _, whole, fun same => absurd same other⟩, .inl (by simpa using inside)⟩, ?_, ?_, ?_⟩
  · simp [chars, Numeral.point, power, inside]
  · simp only [Numeral.digits, scale, Option.getD_none, Int.zero_sub, grid, List.take_append_drop]
  · simpa only [scale, Option.getD_none, Int.zero_sub, grid] using least

theorem shows_positional (least : -1074 ≤ point - ds.length) :
    Shows (positional ds point true).toList (digitsValue ds * 10 ^ (point - ds.length)) := by
  unfold positional
  dsimp only
  split
  next small =>
    obtain ⟨z, same⟩ := Int.eq_ofNat_of_zero_le (Int.neg_nonneg_of_nonpos small)
    have grid : point - ds.length = -(z + ds.length) := by omega
    rw [same, grid, Int.toNat_natCast, String.toList_ofList]
    exact shows_below_one digits first (by omega)
  next large =>
    obtain ⟨k, rfl⟩ : ∃ k : Nat, point = (k + 1 : Nat) := ⟨point.toNat - 1, by omega⟩
    rw [Int.toNat_natCast]
    split
    next few =>
      have grid : ((k + 1 : Nat) - ds.length : Int) = (k + 1 - ds.length : Nat) := by omega
      rw [grid, zpow_natCast, String.toList_append, String.toList_ofList]
      exact shows_padded digits first _
    next many =>
      rw [String.toList_ofList]
      exact shows_cut digits first (Nat.not_le.mp many) least

theorem shows_scientific (least : -1074 ≤ e + 1 - ds.length) :
    Shows (scientific ds e).toList (digitsValue ds * 10 ^ (e + 1 - ds.length)) := by
  obtain ⟨d, r, rfl, -⟩ := first
  obtain ⟨digit, digits⟩ := List.forall_mem_cons.mp digits
  refine ⟨⟨[d], r, some e, List.forall_mem_singleton.mpr digit, digits,
    ⟨d, [], rfl, fun _ => rfl⟩, .inr nofun⟩, ?_, ?_, ?_⟩
  · cases r <;> simp [scientific, chars, Numeral.point, power]
  · simp [Numeral.digits, scale]
  · simp only [scale, Option.getD_some, List.length_cons] at least ⊢
    omega

end Forms

theorem dropTrailingZeros_append (ds : List Char) :
    ∃ n, ds = dropTrailingZeros ds ++ List.replicate n '0' := by
  refine ⟨(ds.reverse.takeWhile (· == '0')).length, ?_⟩
  have zeros : ds.reverse.takeWhile (· == '0') =
      List.replicate (ds.reverse.takeWhile (· == '0')).length '0' :=
    List.eq_replicate_of_mem fun c member => by simpa using List.mem_takeWhile_imp member
  rw [dropTrailingZeros, ← List.reverse_replicate, ← zeros, ← List.reverse_append,
    List.takeWhile_append_dropWhile, List.reverse_reverse]

/-- Whatever its form, the text of a decimal is a numeral of its value. -/
theorem shows_decimal {d : Decimal} (pos : 0 < d.digits) (least : -1074 ≤ d.exp)
    (e : Int) (leading : e = d.exp + (natDigits d.digits).length - 1) :
    Shows (if -4 ≤ e ∧ e < 16 then positional (dropTrailingZeros (natDigits d.digits)) (e + 1) true
      else scientific (dropTrailingZeros (natDigits d.digits)) e).toList d.value := by
  obtain ⟨n, split⟩ := dropTrailingZeros_append (natDigits d.digits)
  generalize dropTrailingZeros (natDigits d.digits) = kept at split ⊢
  have digits : Digits kept := fun c member =>
    digits_natDigits d.digits c (split ▸ List.mem_append_left _ member)
  have whole : d.digits = 10 ^ n * digitsValue kept := by
    rw [← Json.digitsValue_natDigits d.digits, split, digitsValue_append, digitsValue_zeros,
      List.length_replicate, Nat.add_zero]
  have size : (natDigits d.digits).length = kept.length + n := by
    rw [split, List.length_append, List.length_replicate]
  have first : ∃ c r, kept = c :: r ∧ c ≠ '0' := by
    obtain ⟨c, r, head, other⟩ := Json.head_natDigits pos
    cases kept with
    | nil =>
      have zero : d.digits = 0 := by rw [whole]; rfl
      omega
    | cons c' kept =>
      rw [head] at split
      obtain ⟨rfl, -⟩ := List.cons.inj split
      exact ⟨c, kept, rfl, other⟩
  have grid : e + 1 - kept.length = d.exp + n := by omega
  have value : (digitsValue kept * 10 ^ (e + 1 - kept.length) : ℚ) = d.value := by
    rw [grid, Decimal.value, whole, zpow_add₀ (by norm_num), zpow_natCast]
    push_cast
    ring
  rw [← value]
  split
  next => exact shows_positional digits first (by omega)
  next => exact shows_scientific digits first (by omega)

end Numeral

theorem decimalFloat_zero (negative : Bool) (exp : Int) : decimalFloat negative 0 exp =
    if negative then -Float.ofBits 0 else Float.ofBits 0 := rfl

/-- The text of a finite float is a numeral behind its sign, and the float is what it is nearest
to. -/
theorem floatText_eq_chars {x : Float} (finite : x.isFinite = true) :
    ∃ (negative : Bool) (n : Numeral),
      (floatText x).toList = (if negative then ['-'] else []) ++ n.chars ∧
      decimalFloat negative n.digits n.scale = x := by
  have some : Binary.ofFloat? x = some (Binary.ofBits x.toBits) := if_pos finite
  have fits := Binary.fits_of_isFinite finite
  have whole := Binary.eq_ofBits_magnitude finite
  unfold floatText
  rw [some]
  dsimp only
  generalize Binary.ofBits x.toBits = b at fits whole ⊢
  have sign (s : String) : ((if b.negative then "-" else "") ++ s).toList =
      (if b.negative then ['-'] else []) ++ s.toList := by
    cases b.negative <;> simp
  refine ⟨b.negative, ?_⟩
  split
  next zero =>
    have zero : b.m = 0 := by simpa using zero
    have least : b.q = -1074 := fits.normal.resolve_left (by rw [zero]; decide)
    have magnitude : b.magnitude = 0 := by rw [Binary.magnitude, zero, least]; rfl
    refine ⟨⟨['0'], ['0'], none, List.forall_mem_singleton.mpr rfl,
      List.forall_mem_singleton.mpr rfl, ⟨'0', [], rfl, fun _ => rfl⟩,
      .inl (List.cons_ne_nil _ _)⟩, sign "0.0", ?_⟩
    rw [whole, magnitude]
    exact decimalFloat_zero _ _
  next positive =>
    have pos : 0 < b.m := Nat.pos_of_ne_zero (by simpa using positive)
    have near := Decimal.nearest_shortest pos
    have more : 0 < (Decimal.shortest b).digits := digits_pos_of_nearest pos near
    obtain ⟨n, chars, value, grid⟩ :=
      Numeral.shows_decimal more (Decimal.least_shortest fits) _ rfl
    rw [← value] at near
    refine ⟨n, ?_, (decimalFloat_eq fits pos grid near b.negative).trans whole.symm⟩
    rw [← chars, ← sign]
    split <;> rfl

/-- A finite float is read back from its text. -/
theorem number_floatText {x : Float} (finite : x.isFinite = true) {rest : List Char}
    (ends : Json.Delimited rest) : Json.Takes Json.number (floatText x).toList (.float x) rest := by
  obtain ⟨negative, n, chars, read⟩ := floatText_eq_chars finite
  rw [chars, ← read]
  exact n.number_chars negative ends

theorem eq_ofModel_pack (x : Float) : x = .ofModel (.pack x.toModel.unpack) :=
  (Float.ofBits_toBits x).symm

/-- The floats that are not finite have names. -/
theorem floatLiteral_cases (x : Float) :
    (x.isFinite = true ∧ Json.floatLiteral x = floatText x) ∨
      (x = 0.0 / 0.0 ∧ Json.floatLiteral x = "NaN") ∨
      (x = 1.0 / 0.0 ∧ Json.floatLiteral x = "Infinity") ∨
      (x = -1.0 / 0.0 ∧ Json.floatLiteral x = "-Infinity") := by
  have packed := eq_ofModel_pack x
  cases kind : x.toModel.unpack with
  | zero s | finite s =>
    have finite : x.isFinite = true := congrArg Float.Model.UnpackedFloat.isFinite kind
    exact .inl ⟨finite, if_pos finite⟩
  | notANumber =>
    rw [kind] at packed
    subst packed
    exact .inr (.inl ⟨rfl, rfl⟩)
  | infinity s =>
    rw [kind] at packed
    subst packed
    cases s with
    | positive => exact .inr (.inr (.inl ⟨rfl, rfl⟩))
    | negative => exact .inr (.inr (.inr ⟨rfl, rfl⟩))

end PuzzleWorlds
