import PuzzleWorlds.Proofs.BubbleSort
import PuzzleWorlds.Proofs.WholeFloats

/-! How large the results of a program can grow. Whatever an operation is applied to, a whole
number or a text that it gives is within the limits of the program. A list is measured neither
before the operation nor after it: it has as many elements as its operands put together. -/

namespace PuzzleWorlds

namespace Value

/-- The elements that an operation puts together in a list. -/
def gathered : Operator → Value → Value → Nat
  | .add, list l, list m => l.length + m.length
  | .mul, list l, v | .mul, v, list l => l.length * (v.wholeOf?.getD 0).toNat
  | _, _, _ => 0

theorem gathered_list_mul {l : List Value} {v : Value} :
    gathered .mul (list l) v = l.length * (v.wholeOf?.getD 0).toNat := rfl

theorem gathered_mul_list {l : List Value} {v : Value} {n : Int} (count : v.wholeOf? = some n) :
    gathered .mul v (list l) = l.length * n.toNat := by
  cases v with
  | int m =>
    cases count
    rfl
  | bool b =>
    cases count
    rfl
  | null | float x | text s | list m | tuple m | dict es | record es => cases count

theorem gathered_add_other {v w : Value} (other : ∀ l, v ≠ list l) : gathered .add v w = 0 := by
  cases v with
  | list l => exact absurd rfl (other l)
  | null | bool b | int n | float x | text s | tuple l | dict es | record es => rfl

theorem length_repeatItems {l m : List α} {n : Int} (h : repeatItems l n = .ok m) :
    m.length = l.length * n.toNat := by
  unfold repeatItems at h
  split at h
  next => cases h
  next =>
  split at h
  next none =>
    cases h
    rw [List.isEmpty_iff.mp none, List.length_nil, Nat.zero_mul]
  next =>
  split at h
  next => cases h
  next =>
    cases h
    simp [Nat.mul_comm]

theorem repeatItems_eq {l : List α} {n : Int} (some : l ≠ []) (count : 0 ≤ n)
    (room : l.length * n.toNat ≤ maxElements) :
    repeatItems l n = .ok (List.replicate n.toNat l).flatten := by
  have items : 1 ≤ l.length := List.length_pos_of_ne_nil some
  have few : n.toNat ≤ 0x100000000 := Nat.le_trans (Nat.le_mul_of_pos_left _ items) room
  have word : ¬(n < -0x8000000000000000 || 0x8000000000000000 ≤ n) = true := by
    rw [Bool.or_eq_true, decide_eq_true_eq, decide_eq_true_eq]
    omega
  have full : ¬l.isEmpty = true := by simpa using some
  rw [repeatItems, if_neg word, if_neg full, if_neg (Nat.not_lt.mpr room)]

theorem length_repeated {v : Value} {n : Int} {l : List Value} (h : v.repeated n = .ok (list l)) :
    ∃ items, v = list items ∧ l.length = items.length * n.toNat := by
  cases v with
  | list items =>
    obtain ⟨_, done, same⟩ := map_eq_ok.mp h
    cases same
    exact ⟨items, rfl, length_repeatItems done⟩
  | text s =>
    obtain ⟨_, _, same⟩ := map_eq_ok.mp h
    cases same
  | tuple items =>
    obtain ⟨_, _, same⟩ := map_eq_ok.mp h
    cases same
  | null | bool b | int m | float x | dict es | record es => cases h

/-- Whole numbers are never computed to a list. -/
theorem intOperation_ne_list {op : Operator} {m n : Int} {l : List Value} :
    intOperation op m n ≠ .ok (list l) := by
  intro h
  cases op with
  | add | sub | mul => cases h
  | div =>
    change divideInts m n = _ at h
    unfold divideInts at h
    split at h
    next => cases h
    next => split at h <;> cases h
  | mod =>
    unfold intOperation at h
    dsimp only at h
    split at h <;> cases h

theorem floatOperation_ne_list {op : Operator} {x y : Float} {l : List Value} :
    floatOperation op x y ≠ .ok (list l) := by
  intro h
  cases op with
  | add | sub | mul => cases h
  | div | mod =>
    unfold floatOperation at h
    dsimp only at h
    split at h <;> cases h

theorem length_operate {op : Operator} {a b : Value} {l : List Value}
    (h : operate op a b = .ok (list l)) : l.length = gathered op a b := by
  unfold operate at h
  split at h
  next => exact absurd h intOperation_ne_list
  next other =>
  split at h
  next =>
    obtain ⟨x, _, h⟩ := bind_eq_ok.mp h
    obtain ⟨y, _, h⟩ := bind_eq_ok.mp h
    exact absurd h floatOperation_ne_list
  next =>
  split at h
  next => cases h
  next =>
    cases h
    exact List.length_append
  next => cases h
  next =>
    split at h
    next n count =>
      obtain ⟨items, rfl, length⟩ := length_repeated h
      rw [length, gathered_list_mul, count, Option.getD_some]
    next n count _ =>
      obtain ⟨items, rfl, length⟩ := length_repeated h
      rw [length, gathered_mul_list count]
    next => cases h
  next => cases h

theorem simplify_cases (v : Value) : v.simplify = v ∨ ∃ n, FloatExact n ∧ v.simplify = int n := by
  cases v with
  | float x =>
    unfold simplify
    dsimp only
    split
    next n whole => exact .inr ⟨n, floatExact_of_floatToInt? whole, rfl⟩
    next => exact .inl rfl
  | null | bool b | int n | text s | list l | tuple l | dict es | record es => exact .inl rfl

theorem numeric_text_ne_list {s : String} {l : List Value} : (text s).numeric ≠ list l := by
  unfold numeric
  dsimp only
  split
  next x _ =>
    obtain same | ⟨n, -, same⟩ := simplify_cases (float x)
    · rw [same]
      exact nofun
    · rw [same]
      exact nofun
  next => nofun

theorem gathered_operands (op : Operator) (a b : Value) :
    gathered op (operands op a b).1 (operands op a b).2 = gathered op a.numeric b.numeric := by
  unfold operands
  split
  next s t =>
    have joined : ∀ l, text s ≠ list l := nofun
    have read : ∀ l, (text s).numeric ≠ list l := fun _ => numeric_text_ne_list
    exact (gathered_add_other joined).trans (gathered_add_other read).symm
  next => rfl

/-- What is looked at after an operation. -/
theorem within_of_checkResult {v : Value} (h : checkResult v = .ok ()) :
    (∀ n, v = int n → bitLength n ≤ maxIntBits) ∧ ∀ s, v = text s → s.length ≤ maxTextLength := by
  constructor
  · rintro n rfl
    exact Nat.not_lt.mp fun large => by simp [checkResult, large] at h
  · rintro s rfl
    exact Nat.not_lt.mp fun large => by simp [checkResult, large] at h

theorem compute_bounds {op : Operator} {a b v : Value} (h : compute op a b = .ok v) :
    (∀ n, v = int n → bitLength n ≤ maxIntBits) ∧ (∀ s, v = text s → s.length ≤ maxTextLength) ∧
    ∀ l, v = list l → l.length = gathered op a.numeric b.numeric := by
  unfold compute at h
  dsimp only at h
  obtain ⟨⟨⟩, -, h⟩ := bind_eq_ok.mp h
  split at h
  next => cases h
  next => cases h
  next => cases h
  next r done =>
  obtain ⟨⟨⟩, allowed, h⟩ := bind_eq_ok.mp h
  obtain ⟨small, short⟩ := within_of_checkResult allowed
  have kept : v = r ∨ ∃ n, FloatExact n ∧ v = int n := by
    obtain rfl := Except.ok.inj h
    split
    next => exact .inl rfl
    next => exact simplify_cases r
  obtain rfl | ⟨n, exact, rfl⟩ := kept
  · refine ⟨small, short, ?_⟩
    rintro l rfl
    rw [length_operate done, gathered_operands]
  · have few : bitLength n ≤ maxIntBits := bitLength_le_iff.mpr (exact.lt (by decide))
    exact ⟨fun m same => int.inj same ▸ few, nofun, nofun⟩

/-- A list that fits into memory is repeated as often as a program asks for. -/
theorem compute_repeated {l : List Value} {n : Int} (some : l ≠ []) (count : 0 ≤ n)
    (room : l.length * n.toNat ≤ maxElements) :
    compute .mul (list l) (int n) = .ok (list (List.replicate n.toNat l).flatten) := by
  have done : operate .mul (list l) (int n) = .ok (list (List.replicate n.toNat l).flatten) := by
    change (repeatItems l n).map list = _
    rw [repeatItems_eq some count room]
    rfl
  simp only [compute, operands, numeric, done]
  rfl

end Value

namespace Expr

variable {d : Domain} {r : Registry d} {vs : Variables} {op : String} {a b : Expr} {v : Value}

theorem evaluate_binary {o : Operator} {x y : Value} (known : Operator.ofSymbol? op = some o)
    (left : a.evaluate r vs = .ok x) (right : b.evaluate r vs = .ok y) :
    (binary op a b).evaluate r vs = Value.compute o x y := by
  rw [evaluate, known, left, right]
  rfl

/-- The value of an operation is within the limits if it is a whole number or a text, and has the
elements of its operands if it is a list. -/
theorem binary_bounds (h : (binary op a b).evaluate r vs = .ok v) :
    ∃ o x y, Operator.ofSymbol? op = some o ∧ a.evaluate r vs = .ok x ∧ b.evaluate r vs = .ok y ∧
      (∀ n, v = .int n → bitLength n ≤ maxIntBits) ∧
      (∀ s, v = .text s → s.length ≤ maxTextLength) ∧
      ∀ l, v = .list l → l.length = Value.gathered o x.numeric y.numeric := by
  rw [evaluate] at h
  split at h
  next => cases h
  next o known =>
    obtain ⟨x, left, h⟩ := bind_eq_ok.mp h
    obtain ⟨y, right, h⟩ := bind_eq_ok.mp h
    exact ⟨o, x, y, known, left, right, Value.compute_bounds h⟩

/-- The shelf joined with itself. -/
theorem binary_bounds_two_shelves :
    let r : Registry .sorting := { shadow := ⟨[3, 1]⟩, maxActions := 1000 }
    ∃ l, (binary "+" (query "view" []) (query "view" [])).evaluate r [] = .ok (.list l) ∧
      l.length = 4 := by
  intro r
  have joined : (binary "+" (query "view" []) (query "view" [])).evaluate r [] =
      .ok (.list [3, 1, 3, 1]) := rfl
  obtain ⟨o, x, y, known, left, right, -, -, length⟩ := binary_bounds joined
  cases known
  cases left
  cases right
  exact ⟨_, joined, length _ rfl⟩

/-- A shelf of two potions that a program repeats beyond what a text may hold. -/
theorem binary_bounds_exceeded :
    let r : Registry .sorting := { shadow := ⟨[3, 1]⟩, maxActions := 1000 }
    ∃ l, (binary "*" (query "view" []) (literal 5001)).evaluate r [] = .ok (.list l) ∧
      l.length = 10002 ∧ maxTextLength < l.length := by
  intro r
  have shelf : (query "view" []).evaluate r [] = .ok (.list [3, 1]) := rfl
  have count : (literal 5001).evaluate r [] = .ok (.int 5001) := by rw [evaluate]; rfl
  have product : (binary "*" (query "view" []) (literal 5001)).evaluate r [] =
      Value.compute .mul (.list [3, 1]) (.int 5001) := evaluate_binary rfl shelf count
  have repeated := Value.compute_repeated (List.cons_ne_nil 3 [1])
    (by decide : (0 : Int) ≤ 5001) (by decide)
  obtain ⟨-, -, elements⟩ := Value.compute_bounds repeated
  have length := elements _ rfl
  exact ⟨_, product.trans repeated, length, by rw [length]; decide⟩

end Expr

end PuzzleWorlds
