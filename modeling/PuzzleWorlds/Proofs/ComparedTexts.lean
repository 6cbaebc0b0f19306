import PuzzleWorlds.Proofs.NumericTexts
import PuzzleWorlds.Proofs.StageGoals

/-! Comparisons of whole numbers and texts. A text that holds a number is compared as that number,
and any other text as it is; so all whole numbers and numeric texts stand in one order, and all
other texts in another. Only what is read as no number stands in none: nothing is below it, above it
or equal to it, not even the same text. -/

namespace PuzzleWorlds

open Float.Model
open Float.Model.UnpackedFloat hiding pack

/-- Two floats that are numbers are in an order, which is turned round when they change places. -/
theorem unpack_compare_swap {u v : UnpackedFloat} (left : u.isNaN = false)
    (right : v.isNaN = false) : ∃ o, u.compare v = some o ∧ v.compare u = some o.swap := by
  cases u with
  | notANumber => cases left
  | infinity s =>
    cases v with
    | notANumber => cases right
    | infinity t => cases s <;> cases t <;> exact ⟨_, rfl, rfl⟩
    | zero _ | finite => cases s <;> exact ⟨_, rfl, rfl⟩
  | zero _ =>
    cases v with
    | notANumber => cases right
    | infinity t | finite t => cases t <;> exact ⟨_, rfl, rfl⟩
    | zero _ => exact ⟨_, rfl, rfl⟩
  | finite s m e positive =>
    cases v with
    | notANumber => cases right
    | infinity t => cases t <;> cases s <;> exact ⟨_, rfl, rfl⟩
    | zero _ => cases s <;> exact ⟨_, rfl, rfl⟩
    | finite t n q positive' =>
      have turned :
          (compare q e).then (compare n m) = ((compare e q).then (compare m n)).swap := by
        rw [Ordering.swap_then, ← Std.OrientedCmp.eq_swap, ← Std.OrientedCmp.eq_swap]
      cases s <;> cases t
      · exact ⟨_, rfl, congrArg some (congrArg Ordering.swap turned)⟩
      · exact ⟨_, rfl, rfl⟩
      · exact ⟨_, rfl, rfl⟩
      · exact ⟨_, rfl, congrArg some turned⟩

/-! Decimals are read as numbers, though perhaps as infinite ones. -/

theorem isNaN_ofBits_of_lt {n : Nat} (small : n < 2047 * 2 ^ 52) :
    (Float.ofBits n.toUInt64).isNaN = false := by
  obtain ⟨x, finite, bits⟩ := Binary.exists_float_toBits small .positive
  have same : n.toUInt64 = x.toBits := by
    apply UInt64.toNat_inj.mp
    have kept : n.toUInt64.toNat = n := by
      simp
      omega
    rw [kept, bits]
    simp [Sign.toBitVec]
  rw [same, Float.ofBits_toBits]
  exact isNaN_of_isFinite finite

theorem isNaN_neg {x : Float} (number : x.isNaN = false) : (-x).isNaN = false := by
  by_cases finite : x.isFinite = true
  · change x.toModel.unpack.isFinite = true at finite
    change (-x).toModel.unpack.isNaN = false
    rw [unpack_neg finite]
    cases kind : x.toModel.unpack with
    | notANumber | infinity _ =>
      rw [kind] at finite
      cases finite
    | zero _ | finite => rfl
  · have whole := eq_ofModel_pack x
    change x.toModel.unpack.isNaN = false at number
    change ¬x.toModel.unpack.isFinite = true at finite
    cases kind : x.toModel.unpack with
    | infinity s =>
      rw [kind] at whole
      subst whole
      cases s <;> rfl
    | notANumber =>
      rw [kind] at number
      cases number
    | zero _ | finite =>
      rw [kind] at finite
      exact absurd rfl finite

theorem isNaN_nearest? {num den : Nat} {x : Float} (h : Binary.nearest? false num den = some x) :
    x.isNaN = false := by
  unfold Binary.nearest? at h
  split at h
  next =>
    cases h
    rfl
  next =>
    obtain ⟨inside, same⟩ := Option.ite_none_left_eq_some.mp h
    obtain rfl := Option.some.inj same
    have unsigned (u : UInt64) : Binary.signBit false ||| u = u := by simp [Binary.signBit]
    rw [unsigned]
    exact isNaN_ofBits_of_lt (by omega)

theorem isNaN_decimalFloat (negative : Bool) (digits : Nat) (exp : Int) :
    (decimalFloat negative digits exp).isNaN = false := by
  unfold decimalFloat
  dsimp only
  generalize magnitude : (if digits == 0 then (0.0 : Float) else _) = x
  have number : x.isNaN = false := by
    rw [← magnitude]
    split
    next => rfl
    next =>
      split
      next => rfl
      next =>
        split
        next => rfl
        next =>
          cases near : Binary.nearest? false (digits * tenTo exp) (tenTo (-exp)) with
          | none => rfl
          | some x => exact isNaN_nearest? near
  cases negative with
  | false => exact number
  | true => exact isNaN_neg number

theorem isNaN_takeDecimal {negative : Bool} {cs rest : List Char} {x : Float}
    (h : takeDecimal negative cs = some (x, rest)) : x.isNaN = false := by
  unfold takeDecimal at h
  dsimp only at h
  split at h
  all_goals
    split at h
    · cases h
    · obtain ⟨rfl, -⟩ := Prod.mk.inj (Option.some.inj h)
      exact isNaN_decimalFloat _ _ _

/-! The texts that are read as no number. -/

theorem digitValue?_lt {c : Char} {n : Nat} (h : digitValue? c = some n) : n < 10 := by
  unfold digitValue? at h
  split at h
  next digit =>
    have bounds := toNat_of_isDigit digit
    obtain rfl := Option.some.inj h
    omega
  next =>
    split at h
    next => cases h
    next =>
      obtain ⟨z, found, rfl⟩ := Option.map_eq_some_iff.mp h
      have inside := Array.find?_some found
      simp only [Bool.and_eq_true, decide_eq_true_eq] at inside
      omega

/-- Where no digit stands once the digits are written in ASCII, none stood before. -/
theorem asciiDigits_eq_self {cs : List Char} (h : ∀ c ∈ asciiDigits cs, c.isDigit = false) :
    asciiDigits cs = cs := by
  refine (List.map_congr_left fun c member => ?_).trans (List.map_id cs)
  have written := h _ (List.mem_map_of_mem member)
  cases value : digitValue? c with
  | none => rfl
  | some n =>
    have digits : ∀ n < 10, (Char.ofNat (48 + n)).isDigit = true := by decide
    rw [value] at written
    exact absurd (digits n (digitValue?_lt value)) (Bool.eq_false_iff.mp written)

theorem toLower_cases {c d : Char} (h : c.toLower = d) :
    c = d ∨ 65 ≤ c.toNat ∧ c.toNat + 32 = d.toNat := by
  unfold Char.toLower at h
  split at h
  next capital =>
    subst h
    obtain ⟨low, high⟩ := capital
    simp only [ge_iff_le, UInt32.le_iff_toNat_le] at low high
    change 65 ≤ c.toNat at low
    change c.toNat ≤ 90 at high
    refine .inr ⟨low, ?_⟩
    change _ = (c.val + 32).toNat
    rw [UInt32.toNat_add]
    change _ = (c.toNat + 32) % _
    omega
  next => exact .inl h

/-- A small letter comes from itself and its capital. -/
theorem eq_or_eq_of_toLower {c d d' : Char} (h : c.toLower = d)
    (capital : d'.toNat + 32 = d.toNat) :
    c = d ∨ c = d' := by
  obtain same | ⟨-, same⟩ := toLower_cases h
  · exact .inl same
  · exact .inr (Char.toNat_inj.mp (Nat.add_right_cancel (same.trans capital.symm)))

/-- What is no letter comes from itself only. -/
theorem eq_of_toLower {c d : Char} (h : c.toLower = d) (low : d.toNat < 97) : c = d := by
  obtain same | ⟨capital, same⟩ := toLower_cases h
  · exact same
  · omega

/-- The signs that may stand before a number. -/
def signs : List (List Char) := [[], ['+'], ['-']]

/-- The spellings of the name of no number. -/
def nanSpellings : List (List Char) :=
  ['n', 'N'].flatMap fun a => ['a', 'A'].flatMap fun b => ['n', 'N'].map fun c => [a, b, c]

theorem mem_nanSpellings {cs : List Char} (h : cs.map Char.toLower = "nan".toList) :
    cs ∈ nanSpellings := by
  change cs.map Char.toLower = ['n', 'a', 'n'] at h
  obtain ⟨first, _, rfl, one, h⟩ := List.map_eq_cons_iff.mp h
  obtain ⟨second, _, rfl, two, h⟩ := List.map_eq_cons_iff.mp h
  obtain ⟨third, _, rfl, three, h⟩ := List.map_eq_cons_iff.mp h
  obtain rfl := List.map_eq_nil_iff.mp h
  have n {c : Char} (h : c.toLower = 'n') : c = 'n' ∨ c = 'N' := eq_or_eq_of_toLower h rfl
  have a {c : Char} (h : c.toLower = 'a') : c = 'a' ∨ c = 'A' := eq_or_eq_of_toLower h rfl
  obtain rfl | rfl := n one <;> obtain rfl | rfl := a two <;> obtain rfl | rfl := n three <;>
    decide

theorem takeSign_append (cs : List Char) : ∃ sign ∈ signs, sign ++ (takeSign cs).2 = cs := by
  unfold takeSign
  split
  next => exact ⟨['-'], by decide, rfl⟩
  next => exact ⟨['+'], by decide, rfl⟩
  next => exact ⟨[], by decide, rfl⟩

theorem namedFloat?_isNaN_iff {negative : Bool} {cs : List Char} :
    (∃ x, namedFloat? negative cs = some x ∧ x.isNaN = true) ↔
      cs.map Char.toLower = "nan".toList := by
  have name : String.ofList (cs.map Char.toLower) = "nan" ↔
      cs.map Char.toLower = "nan".toList := by
    rw [← String.toList_inj, String.toList_ofList]
  rw [← name]
  unfold namedFloat?
  simp only [beq_iff_eq, Bool.or_eq_true]
  split
  next nan => exact iff_of_true ⟨_, rfl, rfl⟩ nan
  next other =>
    refine iff_of_false ?_ other
    rintro ⟨x, named, nan⟩
    split at named
    next =>
      obtain rfl := Option.some.inj named
      cases negative <;> cases nan
    next => cases named

/-- The text names no number: it is `nan` in small letters or capitals, perhaps with a sign, once
the blanks around it are taken away. -/
def NaNText (s : String) : Prop :=
  (stripChars s.toList).map Char.toLower ∈ ["nan".toList, "+nan".toList, "-nan".toList]

instance (s : String) : Decidable (NaNText s) := inferInstanceAs (Decidable (_ ∈ _))

theorem readFloat?_isNaN_iff {s : String} :
    (∃ x, readFloat? s = some x ∧ x.isNaN = true) ↔ NaNText s := by
  unfold readFloat? NaNText
  dsimp only
  generalize stripChars s.toList = cs
  constructor
  · rintro ⟨x, read, nan⟩
    have named : (takeSign (asciiDigits cs)).2.map Char.toLower = "nan".toList := by
      split at read
      next y decimal =>
        obtain rfl := Option.some.inj read
        rw [isNaN_takeDecimal decimal] at nan
        cases nan
      next => cases read
      next => exact namedFloat?_isNaN_iff.mp ⟨x, read, nan⟩
    obtain ⟨sign, before, whole⟩ := takeSign_append (asciiDigits cs)
    have letters : ∀ sign ∈ signs, ∀ name ∈ nanSpellings,
        (sign ++ name).all (fun c => !c.isDigit) = true := by decide
    have kept : asciiDigits cs = cs := by
      refine asciiDigits_eq_self fun c member => ?_
      rw [← whole] at member
      have all := List.all_eq_true.mp (letters sign before _ (mem_nanSpellings named))
      simpa using all c member
    have signed : ∀ sign ∈ signs, sign.map Char.toLower ++ "nan".toList ∈
        ["nan".toList, "+nan".toList, "-nan".toList] := by decide
    rw [← kept, ← whole, List.map_append, named]
    exact signed sign before
  · intro h
    have parts : ∃ sign ∈ signs, ∃ name ∈ nanSpellings, cs = sign ++ name := by
      simp only [List.mem_cons, List.not_mem_nil, or_false] at h
      obtain same | same | same := h
      · exact ⟨[], by decide, cs, mem_nanSpellings same, rfl⟩
      · obtain ⟨c, name, rfl, plus, rest⟩ := List.map_eq_cons_iff.mp same
        obtain rfl := eq_of_toLower plus (by decide)
        exact ⟨['+'], by decide, name, mem_nanSpellings rest, rfl⟩
      · obtain ⟨c, name, rfl, minus, rest⟩ := List.map_eq_cons_iff.mp same
        obtain rfl := eq_of_toLower minus (by decide)
        exact ⟨['-'], by decide, name, mem_nanSpellings rest, rfl⟩
    obtain ⟨sign, before, name, spelled, rfl⟩ := parts
    clear h
    revert sign name
    decide

namespace Value

theorem isNaN_simplify_iff {x : Float} : (simplify (float x)).IsNaN ↔ x.isNaN = true := by
  unfold simplify
  dsimp only
  split
  next n whole =>
    refine iff_of_false (by rintro ⟨y, ⟨⟩, -⟩) fun nan => ?_
    rw [isNaN_iff.mp nan] at whole
    cases whole
  next =>
    constructor
    · rintro ⟨y, same, nan⟩
      cases same
      exact nan
    · exact fun nan => ⟨x, rfl, nan⟩

/-- A whole number or a text, as what stands in a block field. -/
inductive Field : Value → Prop
  | int (n : Int) : Field (int n)
  | text (s : String) : Field (text s)

/-- The value is a text that names no number. -/
def NamesNaN (v : Value) : Prop := ∃ s, v = text s ∧ NaNText s

/-- A field is compared as a number or as a text that holds none. -/
theorem Field.numeric_cases {v : Value} (h : v.Field) :
    v.numeric.Plain ∧ (v.numeric.IsNaN ↔ v.NamesNaN) ∨
      ∃ s, v.numeric = .text s ∧ ¬v.NamesNaN := by
  cases h with
  | int n => exact .inl ⟨.int n, iff_of_false (by rintro ⟨x, ⟨⟩, -⟩) (by rintro ⟨s, ⟨⟩, -⟩)⟩
  | text s =>
    have names : (Value.text s).NamesNaN ↔ NaNText s :=
      ⟨fun ⟨t, same, nan⟩ => (text.inj same) ▸ nan, fun nan => ⟨s, rfl, nan⟩⟩
    rw [names, ← readFloat?_isNaN_iff]
    unfold numeric
    dsimp only
    cases read : readFloat? s with
    | some x =>
      refine .inl ⟨simplify_plain x, isNaN_simplify_iff.trans ?_⟩
      exact ⟨fun nan => ⟨x, rfl, nan⟩, fun ⟨y, same, nan⟩ => (Option.some.inj same) ▸ nan⟩
    | none => exact .inr ⟨s, rfl, by rintro ⟨x, ⟨⟩, -⟩⟩

/-- Numbers have an order, unless one of them is none. -/
theorem compareNumbers?_eq_none_iff {a b : Value} (ha : a.Plain) (hb : b.Plain) :
    compareNumbers? a b = none ↔ a.IsNaN ∨ b.IsNaN := by
  constructor
  · intro unordered
    by_contra numbers
    obtain ⟨left, right⟩ := not_or.mp numbers
    have number {x : Float} (h : ¬(Value.float x).IsNaN) : x.isNaN = false :=
      Bool.eq_false_iff.mpr fun nan => h ⟨x, rfl, nan⟩
    have against (n : Int) {x : Float} (h : x.isNaN = false) : compareIntFloat? n x ≠ none := by
      unfold compareIntFloat?
      split
      next => exact nofun
      next =>
        rw [h, if_neg Bool.false_ne_true]
        split <;> exact nofun
    cases ha with
    | int m =>
      cases hb with
      | int n => cases unordered
      | float y => exact against m (number right) unordered
    | float x =>
      cases hb with
      | int n => exact against n (number left) (Option.map_eq_none_iff.mp unordered)
      | float y =>
        obtain ⟨o, there, back⟩ := unpack_compare_swap (number left) (number right)
        have below : x < y ↔ o = .lt := by
          rw [lt_iff_unpack]
          change (x.toModel.unpack.compare y.toModel.unpack == some .lt) = true ↔ _
          rw [there, beq_iff_eq, Option.some.injEq]
        have equal : (x == y) = true ↔ o = .eq := by
          change (x.toModel.unpack.compare y.toModel.unpack == some .eq) = true ↔ _
          rw [there, beq_iff_eq, Option.some.injEq]
        have above : x > y ↔ o = .gt := by
          change y < x ↔ _
          rw [lt_iff_unpack]
          change (y.toModel.unpack.compare x.toModel.unpack == some .lt) = true ↔ _
          rw [back, beq_iff_eq, Option.some.injEq]
          cases o <;> simp
        simp only [compareNumbers?, below, equal, above] at unordered
        cases o <;> cases unordered
  · rintro (⟨x, rfl, nan⟩ | ⟨y, rfl, nan⟩)
    · rw [isNaN_iff.mp nan, compare_nan_left hb]
    · rw [isNaN_iff.mp nan, compare_nan_right ha]

namespace Comparison

/-- The answers to the six comparisons are those of one order: of below, equal and above exactly one
holds, and the other three are told by them. -/
structure Consistent (answer : Comparison → Bool) : Prop where
  one : ∃! c, (c = lt ∨ c = eq ∨ c = gt) ∧ answer c = true
  le : answer le = (answer lt || answer eq)
  ge : answer ge = (answer gt || answer eq)
  ne : answer ne = !answer eq

/-- What the comparisons answer on two values that are in an order, or in none. -/
def answer (c : Comparison) (o : Option Ordering) : Bool :=
  match c with
  | eq => o == some .eq
  | ne => !(o == some .eq)
  | c => c.holds o

theorem consistent_answer_iff {o : Option Ordering} : Consistent (answer · o) ↔ o ≠ none := by
  constructor
  · rintro ⟨⟨c, ⟨rfl | rfl | rfl, holds⟩, -⟩, -, -, -⟩ rfl <;> cases holds
  · intro some
    cases o with
    | none => exact absurd rfl some
    | some o =>
      refine ⟨?_, by cases o <;> rfl, by cases o <;> rfl, by cases o <;> rfl⟩
      have only (c : Comparison) (h : (c = lt ∨ c = eq ∨ c = gt) ∧ answer c (.some o) = true) :
          c = match o with | .lt => lt | .eq => eq | .gt => gt := by
        obtain ⟨rfl | rfl | rfl, holds⟩ := h <;> cases o <;> first | rfl | cases holds
      cases o with
      | lt => exact ⟨lt, ⟨.inl rfl, rfl⟩, only⟩
      | eq => exact ⟨eq, ⟨.inr (.inl rfl), rfl⟩, only⟩
      | gt => exact ⟨gt, ⟨.inr (.inr rfl), rfl⟩, only⟩

end Comparison

theorem compareBy_plain (c : Comparison) {a b : Value} (ha : a.Plain) (hb : b.Plain) :
    compareBy c a b = .ok (c.answer (compareNumbers? a b)) := by
  cases ha <;> cases hb <;> cases c <;> rfl

theorem compareBy_text (c : Comparison) (s t : String) :
    compareBy c (text s) (text t) = .ok (c.answer (some (compare s t))) := by
  have same : (s == t) = (some (compare s t) == some .eq) := by
    rw [Bool.eq_iff_iff, beq_iff_eq, beq_iff_eq, Option.some.injEq,
      Std.LawfulEqCmp.compare_eq_iff_eq]
  cases c with
  | eq => exact congrArg Except.ok same
  | ne => exact congrArg (fun r => Except.ok !r) same
  | lt | le | gt | ge => rfl

/-- A number and a text that holds none are in no order. -/
theorem not_contrast_mixed {u v : Value} {s : String}
    (h : u.numeric.Plain ∧ v.numeric = text s ∨ u.numeric = text s ∧ v.numeric.Plain) :
    ∃ f, contrast .lt u v = .error f := by
  unfold contrast
  generalize u.numeric = a at h
  generalize v.numeric = b at h
  obtain ⟨number, rfl⟩ | ⟨rfl, number⟩ := h <;> cases number <;> exact ⟨_, rfl⟩

/-- Where two fields can be compared at all, each comparison answers by their order, and they have
none only if one of them names no number. -/
theorem contrast_field {u v : Value} (hu : u.Field) (hv : v.Field)
    (answers : ∀ c f, contrast c u v ≠ .error f) :
    ∃ o, (∀ c, contrast c u v = .ok (bool (c.answer o))) ∧
      (o = none ↔ u.NamesNaN ∨ v.NamesNaN) := by
  obtain ⟨left, noLeft⟩ | ⟨s, left, noLeft⟩ := hu.numeric_cases <;>
    obtain ⟨right, noRight⟩ | ⟨t, right, noRight⟩ := hv.numeric_cases
  · refine ⟨compareNumbers? u.numeric v.numeric, fun c => ?_, ?_⟩
    · simp only [contrast, compareBy_plain c left right]
    · rw [compareNumbers?_eq_none_iff left right, noLeft, noRight]
  · obtain ⟨f, refused⟩ := not_contrast_mixed (.inl ⟨left, right⟩)
    exact absurd refused (answers .lt f)
  · obtain ⟨f, refused⟩ := not_contrast_mixed (.inr ⟨left, right⟩)
    exact absurd refused (answers .lt f)
  · refine ⟨some (compare s t), fun c => ?_, iff_of_false nofun (not_or.mpr ⟨noLeft, noRight⟩)⟩
    simp only [contrast, left, right, compareBy_text]

theorem contrast_eq_self {v : Value} (h : v.Field) :
    contrast .eq v v = .ok (bool true) ↔ ¬v.NamesNaN := by
  unfold contrast
  obtain ⟨number, nan⟩ | ⟨s, plain, named⟩ := h.numeric_cases
  · simp only [compareBy_plain _ number number]
    rw [← nan]
    by_cases none : v.numeric.IsNaN
    · have unordered := (compareNumbers?_eq_none_iff number number).mpr (.inl none)
      rw [unordered]
      exact iff_of_false nofun (not_not_intro none)
    · rw [compare_self number none]
      exact iff_of_true rfl none
  · simp only [plain, compareBy_text, Std.ReflCmp.compare_self]
    exact iff_of_true rfl named

end Value

namespace Expr

variable {d : Domain} {r : Registry d} {vs : Variables} {a b : Expr} {u v : Value}

theorem ofSymbol?_symbol (c : Value.Comparison) : Value.Comparison.ofSymbol? c.symbol = some c := by
  cases c <;> rfl

theorem evaluate_compare (c : Value.Comparison) (left : a.evaluate r vs = .ok u)
    (right : b.evaluate r vs = .ok v) :
    (compare c.symbol a b).evaluate r vs = Value.contrast c u v := by
  rw [evaluate, ofSymbol?_symbol, left, right]
  rfl

open Value (Comparison)

/-- Where whole numbers and texts can be compared, the answers are those of one order exactly if
neither of the two names no number; so a field is equal to itself exactly if it does not. -/
theorem compared_consistent_iff (left : a.evaluate r vs = .ok u) (right : b.evaluate r vs = .ok v)
    (hu : u.Field) (hv : v.Field)
    (answers : ∀ (c : Comparison) f, (compare c.symbol a b).evaluate r vs ≠ .error f) :
    (∃ answer : Comparison → Bool,
      (∀ c, (compare c.symbol a b).evaluate r vs = .ok (.bool (answer c))) ∧
      (Comparison.Consistent answer ↔ ¬u.NamesNaN ∧ ¬v.NamesNaN)) ∧
    ((compare "==" a a).evaluate r vs = .ok (.bool true) ↔ ¬u.NamesNaN) := by
  simp only [evaluate_compare _ left right] at answers ⊢
  obtain ⟨o, answered, unordered⟩ := Value.contrast_field hu hv answers
  refine ⟨⟨fun c => c.answer o, answered, ?_⟩, ?_⟩
  · rw [Comparison.consistent_answer_iff, ne_eq, unordered, not_or]
  · rw [← Value.contrast_eq_self hu, ← evaluate_compare .eq left left]
    rfl

/-- A numeral in a text is equal to its number. -/
theorem compared_consistent_numeral :
    let r : Registry .math := { shadow := (), maxActions := 1000 }
    let a : Expr := literal (.text " 1e1")
    let b : Expr := literal (.int 10)
    (∃ answer : Comparison → Bool,
      (∀ c, (compare c.symbol a b).evaluate r [] = .ok (.bool (answer c))) ∧
      Comparison.Consistent answer) ∧
    (compare "==" a a).evaluate r [] = .ok (.bool true) := by
  intro r a b
  have left : a.evaluate r [] = .ok (.text " 1e1") := by rw [evaluate]
  have right : b.evaluate r [] = .ok (.int 10) := by rw [evaluate]
  have equal (c : Comparison) :
      (compare c.symbol a b).evaluate r [] = .ok (.bool (c.answer (some .eq))) := by
    rw [evaluate_compare c left right]
    cases c <;> rfl
  have number : ¬(Value.text " 1e1").NamesNaN := fun ⟨s, same, nan⟩ =>
    absurd (Value.text.inj same ▸ nan) (by decide : ¬NaNText " 1e1")
  have whole : ¬(Value.int 10).NamesNaN := nofun
  obtain ⟨⟨answer, answered, consistent⟩, itself⟩ := compared_consistent_iff left right (.text _)
    (.int _) fun c f refused => nomatch (equal c).symm.trans refused
  exact ⟨⟨answer, answered, consistent.mpr ⟨number, whole⟩⟩, itself.mpr number⟩

/-- The name of no number, compared with itself. -/
theorem compared_inconsistent_nan :
    let r : Registry .math := { shadow := (), maxActions := 1000 }
    let nan : Expr := literal (.text "nan")
    let answer : Comparison → Bool := fun c => c == .ne
    (∀ c, (compare c.symbol nan nan).evaluate r [] = .ok (.bool (answer c))) ∧
      ¬Comparison.Consistent answer := by
  intro r nan answer
  refine ⟨fun c => ?_, fun h => ?_⟩
  · cases c <;> rfl
  · obtain ⟨c, ⟨rfl | rfl | rfl, holds⟩, -⟩ := h.one <;> cases holds

end Expr

end PuzzleWorlds
