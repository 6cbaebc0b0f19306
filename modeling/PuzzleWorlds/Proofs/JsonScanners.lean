import Mathlib
import PuzzleWorlds.Json.Read
import PuzzleWorlds.Json.Write

/-! The scanners of JSON text on what was written for them. A text literal is read character by
character, one turn for each however long its escape is; a number is read up to the delimiter
behind it. -/

namespace PuzzleWorlds.Json

theorem hexValue?_hexDigit : ∀ n < 16, hexValue? (hexDigit n) = some n := by decide

theorem hexNumber?_concat {cs : List Char} {c : Char} {n d : Nat} (before : hexNumber? cs = some n)
    (last : hexValue? c = some d) : hexNumber? (cs ++ [c]) = some (16 * n + d) := by
  unfold hexNumber? at before ⊢
  rw [List.foldl_append, before, List.foldl_cons, List.foldl_nil, last]
  rfl

/-- Hexadecimal digits are read back as the number that they show. -/
theorem hexNumber?_hexDigits (width n : Nat) :
    hexNumber? (hexDigits width n) = some (n % 16 ^ width) := by
  induction width generalizing n with
  | zero => simp [hexDigits, hexNumber?, Nat.mod_one]
  | succ width ih =>
    have last := hexValue?_hexDigit (n % 16) (Nat.mod_lt n (by decide))
    rw [hexDigits, hexNumber?_concat (ih (n / 16)) last, Nat.pow_succ', Nat.mod_mul, Nat.add_comm]

@[simp] theorem length_hexDigits (width n : Nat) : (hexDigits width n).length = width := by
  induction width generalizing n with
  | zero => rfl
  | succ width ih => simp [hexDigits, ih]

/-- Four digits show any number below `0x10000`. -/
theorem hexNumber?_four {n : Nat} (small : n < 0x10000) : hexNumber? (hexDigits 4 n) = some n := by
  have bound : n < 16 ^ 4 := small
  rw [hexNumber?_hexDigits, Nat.mod_eq_of_lt bound]

theorem isHighSurrogate_toNat (c : Char) : isHighSurrogate c.toNat = false := by
  have valid := c.valid
  simp only [UInt32.isValidChar, Nat.isValidChar] at valid
  simp only [isHighSurrogate, Bool.and_eq_false_iff, decide_eq_false_iff_not, Char.toNat]
  omega

theorem isLowSurrogate_toNat (c : Char) : isLowSurrogate c.toNat = false := by
  have valid := c.valid
  simp only [UInt32.isValidChar, Nat.isValidChar] at valid
  simp only [isLowSurrogate, Bool.and_eq_false_iff, decide_eq_false_iff_not, Char.toNat]
  omega

theorem charOf_toNat (c : Char) : charOf c.toNat = c := by
  simp [charOf, isHighSurrogate_toNat, isLowSurrogate_toNat]

theorem take_hexDigits (n : Nat) (rest : List Char) :
    (hexDigits 4 n ++ rest).take 4 = hexDigits 4 n :=
  List.take_left' (length_hexDigits 4 n)

theorem drop_hexDigits (n : Nat) (rest : List Char) : (hexDigits 4 n ++ rest).drop 4 = rest :=
  List.drop_left' (length_hexDigits 4 n)

theorem long_hexDigits (n : Nat) {rest : List Char} (more : rest ≠ []) :
    ¬(hexDigits 4 n ++ rest).length < 5 := by
  have := List.length_pos_iff.mpr more
  rw [List.length_append, length_hexDigits]
  omega

/-- A character of the first plane, after its `\u`. -/
theorem unicodeChar_plain {c : Char} (low : c.toNat < 0x10000) {rest : List Char}
    (more : rest ≠ []) (p : Nat) :
    unicodeChar ⟨p, hexDigits 4 c.toNat ++ rest⟩ = .ok (c, ⟨p + 4, rest⟩) := by
  unfold unicodeChar
  simp only [long_hexDigits _ more, take_hexDigits, hexNumber?_four low, isHighSurrogate_toNat,
    charOf_toNat, Cursor.skip, drop_hexDigits]
  rfl

theorem lowHalf_escape {n : Nat} (low : isLowSurrogate n = true) {rest : List Char}
    (more : rest ≠ []) (p : Nat) :
    lowHalf ⟨p, unicodeEscape n ++ rest⟩ = .ok (some n) := by
  have small : n < 0x10000 := by
    simp only [isLowSurrogate, Bool.and_eq_true, decide_eq_true_eq] at low
    omega
  simp only [lowHalf, unicodeEscape, List.cons_append, long_hexDigits _ more, take_hexDigits,
    hexNumber?_four small, low, if_true, if_false]

/-- A character of a later plane, after the `\u` of the first half of its pair. -/
theorem unicodeChar_pair {c : Char} (high : 0x10000 ≤ c.toNat) {rest : List Char}
    (more : rest ≠ []) (p : Nat) :
    unicodeChar ⟨p, hexDigits 4 (0xD800 + (c.toNat - 0x10000) / 0x400) ++
      (unicodeEscape (0xDC00 + (c.toNat - 0x10000) % 0x400) ++ rest)⟩ =
        .ok (c, ⟨p + 4 + 6, rest⟩) := by
  have bound : c.toNat < 0x110000 := by
    have valid := c.valid
    simp only [UInt32.isValidChar, Nat.isValidChar] at valid
    simp only [Char.toNat]
    omega
  generalize first : 0xD800 + (c.toNat - 0x10000) / 0x400 = h
  generalize second : 0xDC00 + (c.toNat - 0x10000) % 0x400 = l
  have isHigh : isHighSurrogate h = true := by
    simp only [isHighSurrogate, Bool.and_eq_true, decide_eq_true_eq]
    omega
  have isLow : isLowSurrogate l = true := by
    simp only [isLowSurrogate, Bool.and_eq_true, decide_eq_true_eq]
    omega
  have whole : 0x10000 + (h - 0xD800) * 0x400 + (l - 0xDC00) = c.toNat := by omega
  have tail : unicodeEscape l ++ rest ≠ [] := by simp [unicodeEscape]
  have after : (unicodeEscape l ++ rest).drop 6 = rest :=
    List.drop_left' (by simp [unicodeEscape])
  unfold unicodeChar
  simp only [long_hexDigits _ tail, take_hexDigits, hexNumber?_four (show h < 0x10000 by omega),
    isHigh, Cursor.skip, drop_hexDigits, lowHalf_escape isLow more, if_true]
  simp only [bind, Except.bind, whole, charOf_toNat, after]
  rfl

variable {start fuel p : Nat} {acc rest : List Char}

theorem stringBody_plain {c : Char} (quote : c ≠ '"') (slash : c ≠ '\\')
    (printed : 32 ≤ c.toNat) :
    stringBody start (fuel + 1) ⟨p, c :: rest⟩ acc =
      stringBody start fuel ⟨p + 1, rest⟩ (c :: acc) := by
  rw [stringBody]
  simp only
  split
  case h_6 same =>
    obtain ⟨rfl, rfl⟩ := List.cons.inj same
    rw [if_neg (Nat.not_lt.mpr printed)]
    rfl
  all_goals simp_all

theorem stringBody_simple {e c : Char} (escape : simpleEscape? e = some c) :
    stringBody start (fuel + 1) ⟨p, '\\' :: e :: rest⟩ acc =
      stringBody start fuel ⟨p + 2, rest⟩ (c :: acc) := by
  rw [stringBody]
  simp only
  split
  case h_4 same =>
    obtain ⟨-, same⟩ := List.cons.inj same
    obtain ⟨rfl, -⟩ := List.cons.inj same
    exact absurd escape (by simp [simpleEscape?])
  case h_5 same =>
    obtain ⟨-, same⟩ := List.cons.inj same
    obtain ⟨rfl, rfl⟩ := List.cons.inj same
    simp only [escape]
    rfl
  case h_6 other same =>
    obtain ⟨rfl, rfl⟩ := List.cons.inj same
    exact absurd rfl (other e rest rfl)
  all_goals simp_all

theorem stringBody_unicode {c : Char} {cs : List Char} {q : Nat}
    (escape : unicodeChar ⟨p + 2, cs⟩ = .ok (c, ⟨q, rest⟩)) :
    stringBody start (fuel + 1) ⟨p, '\\' :: 'u' :: cs⟩ acc =
      stringBody start fuel ⟨q, rest⟩ (c :: acc) := by
  rw [stringBody]
  simp only [Cursor.skip, List.drop_succ_cons, List.drop_zero, escape]
  rfl

/-- Each character is one turn of the scanner, however many characters its escape has. -/
theorem stringBody_escapeChar (c : Char) (more : rest ≠ []) : ∃ q,
    stringBody start (fuel + 1) ⟨p, escapeChar c ++ rest⟩ acc =
      stringBody start fuel ⟨q, rest⟩ (c :: acc) := by
  unfold escapeChar
  simp only [beq_iff_eq]
  split_ifs with quote slash feed ret tab back page printed low
  · exact ⟨_, stringBody_simple (by rw [quote]; rfl)⟩
  · exact ⟨_, stringBody_simple (by rw [slash]; rfl)⟩
  · exact ⟨_, stringBody_simple (by rw [feed]; rfl)⟩
  · exact ⟨_, stringBody_simple (by rw [ret]; rfl)⟩
  · exact ⟨_, stringBody_simple (by rw [tab]; rfl)⟩
  · exact ⟨_, stringBody_simple (by rw [back]; rfl)⟩
  · exact ⟨_, stringBody_simple (by rw [page]; rfl)⟩
  · simp only [Bool.and_eq_true, decide_eq_true_eq] at printed
    exact ⟨_, stringBody_plain quote slash printed.1⟩
  · exact ⟨_, stringBody_unicode (unicodeChar_plain low more _)⟩
  · rw [List.append_assoc]
    exact ⟨_, stringBody_unicode (unicodeChar_pair (Nat.not_lt.mp low) more _)⟩

theorem escapeChar_ne_nil (c : Char) : escapeChar c ≠ [] := by
  unfold escapeChar
  split_ifs <;> simp [unicodeEscape]

theorem length_le_escaped (cs : List Char) : cs.length ≤ (cs.flatMap escapeChar).length := by
  induction cs with
  | nil => exact Nat.le_refl 0
  | cons c cs ih =>
    have := List.length_pos_iff.mpr (escapeChar_ne_nil c)
    rw [List.flatMap_cons, List.length_append, List.length_cons]
    omega

theorem stringBody_escaped (start p : Nat) (acc cs rest : List Char) (enough : cs.length < fuel) :
    ∃ q,
    stringBody start fuel ⟨p, cs.flatMap escapeChar ++ '"' :: rest⟩ acc =
      .ok (String.ofList (acc.reverse ++ cs), ⟨q, rest⟩) := by
  induction cs generalizing fuel p acc with
  | nil =>
    obtain ⟨fuel, rfl⟩ := Nat.exists_eq_add_of_lt enough
    exact ⟨p + 1, by simp [stringBody, Cursor.skip]⟩
  | cons c cs ih =>
    obtain ⟨fuel, rfl⟩ : ∃ n, fuel = n + 1 := ⟨fuel - 1, by omega⟩
    have more : cs.flatMap escapeChar ++ '"' :: rest ≠ [] := by simp
    obtain ⟨q, first⟩ := stringBody_escapeChar c more
    obtain ⟨r, others⟩ := ih q (c :: acc) (Nat.lt_of_succ_lt_succ enough)
    refine ⟨r, ?_⟩
    rw [List.flatMap_cons, List.append_assoc, first, others, List.reverse_cons, List.append_assoc]
    rfl

/-- From any position the scanner takes `cs` off the text as `a` and leaves `rest`. -/
def Takes (scan : Cursor → Except Failure (α × Cursor)) (cs : List Char) (a : α)
    (rest : List Char) : Prop :=
  ∀ p, ∃ q, scan ⟨p, cs ++ rest⟩ = .ok (a, ⟨q, rest⟩)

theorem textLiteral_append (s : String) (rest : List Char) : (textLiteral s).toList ++ rest =
    '"' :: (s.toList.flatMap escapeChar ++ '"' :: rest) := by
  simp [textLiteral]

theorem string_textLiteral (s : String) (rest : List Char) :
    Takes string (textLiteral s).toList s rest := by
  intro p
  have enough := length_le_escaped s.toList
  have turns : s.toList.length < (s.toList.flatMap escapeChar ++ '"' :: rest).length + 2 := by
    rw [List.length_append, List.length_cons]
    omega
  obtain ⟨q, read⟩ := stringBody_escaped p (p + 1) [] s.toList rest turns
  rw [List.reverse_nil, List.nil_append, String.ofList_toList] at read
  exact ⟨q, textLiteral_append s rest ▸ read⟩

/-- What can stand after a value inside another one. -/
def Delimited (rest : List Char) : Prop := ∀ c ∈ rest.head?, c = ',' ∨ c = ']' ∨ c = '\x7d'

theorem isDigit_of_mem_natDigits {n : Nat} {c : Char} (h : c ∈ natDigits n) : c.isDigit = true :=
  Nat.isDigit_of_mem_toDigits (by decide) (by decide) h

theorem digitsValue_natDigits (n : Nat) : digitsValue (natDigits n) = n := by
  have read := Nat.ofDigitChars_ten_toDigits (n := n)
  rwa [Nat.ofDigitChars_eq_foldl] at read

theorem tenTo_natCast (n : Nat) : tenTo n = 10 ^ n := rfl

theorem short_natDigits {n : Nat} (short : n < tenTo maxNumeralDigits) :
    ¬(natDigits n).length > maxNumeralDigits := by
  rw [tenTo_natCast] at short
  exact Nat.not_lt.mpr ((Nat.length_toDigits_le_iff (by decide) (by decide)).mpr short)

theorem natDigits_ne_nil (n : Nat) : natDigits n ≠ [] :=
  List.ne_nil_of_length_pos Nat.length_toDigits_pos

theorem natDigits_eq_cons (n : Nat) : ∃ d ds, natDigits n = d :: ds ∧ d.isDigit = true := by
  obtain ⟨d, ds, first⟩ := List.exists_cons_of_ne_nil (natDigits_ne_nil n)
  exact ⟨d, ds, first, isDigit_of_mem_natDigits (first ▸ List.mem_cons_self)⟩

theorem ne_of_isDigit {c d : Char} (digit : d.isDigit = true) (other : c.isDigit = false) :
    c ≠ d := by
  rintro rfl
  exact Bool.false_ne_true (other.symm.trans digit)

theorem toList_intText (n : Int) :
    (intText n).toList = (if n < 0 then ['-'] else []) ++ natDigits n.natAbs := by
  unfold intText natText
  split <;> simp

/-- Only zero is written with a leading zero. -/
theorem head_natDigits {n : Nat} (pos : 0 < n) : ∃ d ds, natDigits n = d :: ds ∧ d ≠ '0' := by
  induction n using Nat.strongRecOn with
  | ind n ih =>
    unfold natDigits at ih ⊢
    rcases Nat.lt_or_ge n 10 with small | large
    · have other : ∀ k < 10, 0 < k → k.digitChar ≠ '0' := by decide
      exact ⟨n.digitChar, [], Nat.toDigits_of_lt_base small, other n small pos⟩
    · obtain ⟨d, ds, first, other⟩ := ih (n / 10) (by omega) (by omega)
      refine ⟨d, ds ++ [(n % 10).digitChar], ?_, other⟩
      rw [Nat.toDigits_of_base_le (by decide) large, first, List.cons_append]

theorem wholeDigits_natDigits (n : Nat) (ends : Delimited rest) :
    wholeDigits (natDigits n ++ rest) = natDigits n := by
  rcases Nat.eq_zero_or_pos n with rfl | pos
  · rfl
  · obtain ⟨d, ds, first, other⟩ := head_natDigits pos
    have stops : rest.takeWhile Char.isDigit = [] := by
      cases rest with
      | nil => rfl
      | cons c cs =>
        obtain rfl | rfl | rfl := ends c rfl <;> rfl
    have all : (natDigits n ++ rest).takeWhile Char.isDigit = natDigits n := by
      rw [List.takeWhile_append_of_pos fun c => isDigit_of_mem_natDigits, stops, List.append_nil]
    rw [first] at all ⊢
    unfold wholeDigits
    split
    · next same => exact absurd (List.cons.inj same).1 other
    · exact all

theorem fractionDigits_delimited (ends : Delimited rest) : fractionDigits rest = [] := by
  cases rest with
  | nil => rfl
  | cons c cs => obtain rfl | rfl | rfl := ends c rfl <;> rfl

theorem exponentChars_delimited (ends : Delimited rest) : exponentChars rest = [] := by
  cases rest with
  | nil => rfl
  | cons c cs => obtain rfl | rfl | rfl := ends c rfl <;> rfl

theorem natDigits_ne_minus (n : Nat) (rest r : List Char) : natDigits n ++ rest ≠ '-' :: r := by
  obtain ⟨d, ds, first, digit⟩ := natDigits_eq_cons n
  rw [first]
  exact fun same => ne_of_isDigit digit rfl (List.cons.inj same).1.symm

theorem number_natDigits {n : Nat} (short : n < tenTo maxNumeralDigits) (ends : Delimited rest) :
    Takes number (natDigits n) (.int n) rest := by
  intro p
  refine ⟨p + (natDigits n).length, ?_⟩
  unfold number
  split
  next sign digits same =>
    split at same
    · next minus => exact absurd minus (natDigits_ne_minus n rest _)
    · obtain ⟨rfl, rfl⟩ := Prod.mk.inj same
      simp [wholeDigits_natDigits n ends, fractionDigits_delimited ends,
        exponentChars_delimited ends, short_natDigits short, digitsValue_natDigits,
        natDigits_ne_nil, Cursor.skip]

theorem number_negative {n : Nat} (short : n < tenTo maxNumeralDigits) (ends : Delimited rest) :
    Takes number ('-' :: natDigits n) (.int (-n)) rest := by
  intro p
  refine ⟨p + ((natDigits n).length + 1), ?_⟩
  unfold number
  simp [wholeDigits_natDigits n ends, fractionDigits_delimited ends, exponentChars_delimited ends,
    short_natDigits short, digitsValue_natDigits, natDigits_ne_nil, Cursor.skip]

theorem number_intText {n : Int} (short : n.natAbs < tenTo maxNumeralDigits)
    (ends : Delimited rest) : Takes number (intText n).toList (.int n) rest := by
  rw [toList_intText]
  split
  · next negative =>
    have taken := number_negative short ends
    rwa [Int.ofNat_natAbs_of_nonpos (Int.le_of_lt negative), Int.neg_neg] at taken
  · next negative =>
    have taken := number_natDigits short ends
    rwa [Int.natAbs_of_nonneg (Int.not_lt.mp negative)] at taken

end PuzzleWorlds.Json
