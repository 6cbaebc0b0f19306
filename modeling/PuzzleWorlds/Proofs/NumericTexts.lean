import PuzzleWorlds.Proofs.WholeFloats

/-! Whole numbers in block fields. A field holds the text of a number, perhaps with blanks around
it. As a whole number the text is read digit by digit and always gives the number that was
written. As a number, and as an operand, it is read as a float first: it gives that number exactly
if the number is a float. -/

namespace PuzzleWorlds

def Blanks (cs : List Char) : Prop := ∀ c ∈ cs, isBlank c = true

theorem stripStart_append {pre cs : List Char} (blanks : Blanks pre)
    (solid : ∀ c ∈ cs.head?, isBlank c = false) : stripStart (pre ++ cs) = cs := by
  rw [stripStart, List.dropWhile_append_of_pos blanks]
  cases cs with
  | nil => rfl
  | cons c cs => exact List.dropWhile_cons_of_neg (by simp [solid c rfl])

theorem stripChars_append {pre cs post : List Char} (before : Blanks pre) (after : Blanks post)
    (some : cs ≠ []) (solid : ∀ c ∈ cs, isBlank c = false) :
    stripChars (pre ++ cs ++ post) = cs := by
  have first : ∀ c ∈ (cs ++ post).head?, isBlank c = false := by
    intro c head
    rw [List.head?_append_of_ne_nil _ some] at head
    exact solid c (List.mem_of_mem_head? head)
  have last : ∀ c ∈ cs.reverse.head?, isBlank c = false := fun c head =>
    solid c (List.mem_reverse.mp (List.mem_of_mem_head? head))
  have turned : Blanks post.reverse := fun c member => after c (List.mem_reverse.mp member)
  rw [stripChars, List.append_assoc, stripStart_append before first, List.reverse_append,
    stripStart_append turned last, List.reverse_reverse]

theorem toNat_of_isDigit {c : Char} (digit : c.isDigit = true) :
    48 ≤ c.toNat ∧ c.toNat ≤ 57 := by
  simp only [Char.isDigit, Bool.and_eq_true, decide_eq_true_eq, ge_iff_le,
    UInt32.le_iff_toNat_le] at digit
  exact digit

theorem not_isBlank_of_isDigit {c : Char} (digit : c.isDigit = true) : isBlank c = false := by
  have bounds := toNat_of_isDigit digit
  simp only [isBlank, Bool.or_eq_false_iff, Bool.and_eq_false_iff, decide_eq_false_iff_not,
    beq_eq_false_iff_ne]
  omega

theorem asciiDigits_digits {ds : List Char} (digits : Digits ds) : asciiDigits ds = ds := by
  induction ds with
  | nil => rfl
  | cons d ds ih =>
    obtain ⟨digit, others⟩ := List.forall_mem_cons.mp digits
    have bounds := toNat_of_isDigit digit
    have value : digitValue? d = some (d.toNat - 48) := if_pos digit
    have same : 48 + (d.toNat - 48) = d.toNat := Nat.add_sub_cancel' bounds.1
    have rest : asciiDigits ds = ds := ih others
    rw [asciiDigits] at rest ⊢
    rw [List.map_cons, rest, value]
    dsimp only
    rw [same, Char.ofNat_toNat]

theorem asciiDigits_intText (n : Int) : asciiDigits (intText n).toList = (intText n).toList := by
  have digits := asciiDigits_digits (digits_natDigits n.natAbs)
  rw [Json.toList_intText]
  rw [asciiDigits] at digits ⊢
  rw [List.map_append, digits]
  split <;> rfl

theorem intText_ne_nil (n : Int) : (intText n).toList ≠ [] := by
  rw [Json.toList_intText]
  exact List.append_ne_nil_of_right_ne_nil _ (Json.natDigits_ne_nil _)

theorem solid_intText (n : Int) : ∀ c ∈ (intText n).toList, isBlank c = false := by
  intro c member
  rw [Json.toList_intText] at member
  obtain sign | digit := List.mem_append.mp member
  · split at sign
    · obtain rfl := List.mem_singleton.mp sign
      rfl
    · cases sign
  · exact not_isBlank_of_isDigit (Json.isDigit_of_mem_natDigits digit)

/-- The text of a whole number, with blanks around it. -/
def NumberText (s : String) (n : Int) : Prop := ∃ pre post : List Char,
  Blanks pre ∧ Blanks post ∧ s.toList = pre ++ (intText n).toList ++ post

variable {s : String} {n : Int}

theorem NumberText.takeSign (h : NumberText s n) :
    takeSign (asciiDigits (stripChars s.toList)) = (decide (n < 0), natDigits n.natAbs) := by
  obtain ⟨pre, post, before, after, chars⟩ := h
  have stripped := stripChars_append before after (intText_ne_nil n) (solid_intText n)
  rw [chars, stripped, asciiDigits_intText, Json.toList_intText]
  by_cases negative : n < 0
  · rw [if_pos negative, decide_eq_true negative]
    rfl
  · obtain ⟨d, ds, digits, digit⟩ := Json.natDigits_eq_cons n.natAbs
    have minus : d ≠ '-' := (Json.ne_of_isDigit digit rfl).symm
    have plus : d ≠ '+' := (Json.ne_of_isDigit digit rfl).symm
    rw [if_neg negative, decide_eq_false negative, List.nil_append, digits]
    unfold PuzzleWorlds.takeSign
    split
    next same => exact absurd (List.cons.inj same).1 minus
    next same => exact absurd (List.cons.inj same).1 plus
    next => rfl

theorem takeNumeral_natDigits (m : Nat) : takeNumeral (natDigits m) = (natDigits m, []) := by
  have stops : EndsDigits [] := by simp [EndsDigits]
  have all := takeNumeral_digits (digits_natDigits m) stops
  rwa [List.append_nil] at all

theorem NumberText.readInt? (h : NumberText s n) (short : n.natAbs < tenTo maxNumeralDigits) :
    readInt? s = some n := by
  have fits := Json.short_natDigits short
  obtain ⟨d, ds, digits, -⟩ := Json.natDigits_eq_cons n.natAbs
  have value := Json.digitsValue_natDigits n.natAbs
  unfold PuzzleWorlds.readInt?
  simp only [h.takeSign, takeNumeral_natDigits]
  rw [digits] at fits value ⊢
  dsimp only
  rw [if_neg fits, value]
  by_cases negative : n < 0
  · rw [decide_eq_true negative, if_pos rfl, Option.some.injEq]
    omega
  · rw [decide_eq_false negative, if_neg Bool.false_ne_true, Option.some.injEq]
    omega

theorem NumberText.readFloat? (h : NumberText s n) :
    readFloat? s = some (decimalFloat (n < 0) n.natAbs 0) := by
  have some : (natDigits n.natAbs).isEmpty = false := by simpa using Json.natDigits_ne_nil _
  unfold PuzzleWorlds.readFloat? takeDecimal
  simp only [h.takeSign, takeNumeral_natDigits, takeExponent, some, List.append_nil,
    Json.digitsValue_natDigits]
  rfl

namespace Value

theorem simplify_float_eq_int {x : Float} :
    simplify (float x) = int n ↔ floatToInt? x = some n := by
  unfold simplify
  dsimp only
  split
  next whole => rw [whole, int.injEq, Option.some.injEq]
  next part => simp [part]

/-- The text of a number that is written in full is read as that number where a whole number is
expected. Where any number is expected, and as an operand, it is read as the number exactly if that
is a float. -/
theorem readings_numberText (h : NumberText s n) (short : n.natAbs < tenTo maxNumeralDigits) :
    (text s).asInt? = some n ∧
    ((text s).asNumber? = some (int n) ↔ FloatExact n) ∧
    ((text s).numeric = int n ↔ FloatExact n) ∧
    (text s).asNumber? = some (text s).numeric := by
  have read : readFloat? s = some (decimalFloat (n < 0) n.natAbs 0) := h.readFloat?
  have number : (text s).asNumber? = some (simplify (float (decimalFloat (n < 0) n.natAbs 0))) := by
    rw [asNumber?, read]
    rfl
  have operand : (text s).numeric = simplify (float (decimalFloat (n < 0) n.natAbs 0)) := by
    rw [numeric, read]
  have whole : simplify (float (decimalFloat (n < 0) n.natAbs 0)) = int n ↔ FloatExact n := by
    rw [simplify_float_eq_int, floatToInt?_decimalFloat]
  exact ⟨h.readInt? short, by rw [number, Option.some.injEq, whole], by rw [operand, whole],
    by rw [number, operand]⟩

theorem readings_numberText_minus_42 :
    NumberText " -42\n" (-42) ∧ (text " -42\n").asInt? = some (-42) ∧
    (text " -42\n").asNumber? = some (int (-42)) ∧ (text " -42\n").numeric = int (-42) := by
  have blanks : NumberText " -42\n" (-42) :=
    ⟨[' '], ['\n'], by simp [Blanks, isBlank], by simp [Blanks, isBlank], by decide⟩
  have short : (-42 : Int).natAbs < tenTo maxNumeralDigits := by
    rw [Json.tenTo_natCast]
    exact Nat.lt_of_lt_of_le (by decide : 42 < 10 ^ 2)
      (Nat.pow_le_pow_right (by decide) (by decide))
  obtain ⟨whole, number, operand, -⟩ := readings_numberText blanks short
  have exact : FloatExact (-42) := floatExact_of_le (by decide)
  exact ⟨blanks, whole, number.mpr exact, operand.mpr exact⟩

/-- The first number whose text is read in two ways. -/
theorem readings_numberText_disagree :
    (text "9007199254740993").asInt? = some 9007199254740993 ∧
    (text "9007199254740993").asNumber? = some (int 9007199254740992) ∧
    (text "9007199254740993").numeric = int 9007199254740992 :=
  ⟨rfl, rfl, rfl⟩

end Value

end PuzzleWorlds
