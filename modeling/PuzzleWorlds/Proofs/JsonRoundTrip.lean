import PuzzleWorlds.Proofs.FloatTexts

/-! A value that has a JSON text is read back from it. What is read is followed through the value,
item by item, with as many turns as the text has characters; what is written is ASCII. -/

namespace PuzzleWorlds.Json

variable {fuel p : Nat} {rest : List Char}

/-- A value that a JSON text can name: no float, no tuple, no record, no key twice. -/
inductive IsJson : Value → Prop
  | null : IsJson .null
  | bool (b : Bool) : IsJson (.bool b)
  | int (n : Int) : IsJson (.int n)
  | text (s : String) : IsJson (.text s)
  | list {l : List Value} (items : ∀ v ∈ l, IsJson v) : IsJson (.list l)
  | dict {l : List (String × Value)} (distinct : (l.map Prod.fst).Nodup)
      (values : ∀ e ∈ l, IsJson e.2) : IsJson (.dict l)

/-- A value that a JSON text can name in the dialect that is written here, where floats have their
numerals and the infinite ones and no number have names: no tuple, no record, no key twice. -/
inductive IsData : Value → Prop
  | null : IsData .null
  | bool (b : Bool) : IsData (.bool b)
  | int (n : Int) : IsData (.int n)
  | float (x : Float) : IsData (.float x)
  | text (s : String) : IsData (.text s)
  | list {l : List Value} (items : ∀ v ∈ l, IsData v) : IsData (.list l)
  | dict {l : List (String × Value)} (distinct : (l.map Prod.fst).Nodup)
      (values : ∀ e ∈ l, IsData e.2) : IsData (.dict l)

theorem IsJson.isData {v : Value} (json : IsJson v) : IsData v := by
  induction json with
  | null => exact .null
  | bool b => exact .bool b
  | int n => exact .int n
  | text s => exact .text s
  | list json ih => exact .list ih
  | dict distinct json ih => exact .dict distinct ih

theorem obstacleIn?_eq_none {l : List Value} :
    obstacleIn? l = none ↔ ∀ v ∈ l, obstacle? v = none := by
  induction l with
  | nil => simp [obstacleIn?]
  | cons v l ih => cases first : obstacle? v <;> simp [obstacleIn?, first, ih]

theorem obstacleAmong?_eq_none {l : List (String × Value)} :
    obstacleAmong? l = none ↔ ∀ e ∈ l, obstacle? e.2 = none := by
  induction l with
  | nil => simp [obstacleAmong?]
  | cons e l ih => cases first : obstacle? e.2 <;> simp [obstacleAmong?, first, ih]

theorem obstacleIn?_of_forall {l : List Value}
    (each : ∀ v ∈ l, obstacle? v = if v.writable then none else some .unwritable) :
    obstacleIn? l = if Value.writableItems l then none else some .unwritable := by
  induction l with
  | nil => rfl
  | cons v l ih =>
    obtain ⟨first, others⟩ := List.forall_mem_cons.mp each
    rw [obstacleIn?, first, ih others, Value.writableItems]
    cases v.writable <;> rfl

theorem obstacleAmong?_of_forall {l : List (String × Value)}
    (each : ∀ e ∈ l, obstacle? e.2 = if e.2.writable then none else some .unwritable) :
    obstacleAmong? l = if Value.writableEntries l then none else some .unwritable := by
  induction l with
  | nil => rfl
  | cons e l ih =>
    obtain ⟨first, others⟩ := List.forall_mem_cons.mp each
    rw [obstacleAmong?, first, ih others, Value.writableEntries]
    cases e.2.writable <;> rfl

/-- Only a whole number with too many digits keeps such a value from being written. -/
theorem obstacle?_of_isData {v : Value} (data : IsData v) :
    obstacle? v = if v.writable then none else some .unwritable := by
  induction data with
  | null => rfl
  | bool b => rfl
  | int n => simp [obstacle?, Value.writable]
  | float x => rfl
  | text s => rfl
  | list data ih => exact obstacleIn?_of_forall ih
  | dict distinct data ih => exact obstacleAmong?_of_forall ih

theorem Cursor.skipSpaces_of_not {c : Char} (shown : isSpace c = false) (p : Nat) (cs : List Char) :
    Cursor.skipSpaces ⟨p, c :: cs⟩ = ⟨p, c :: cs⟩ := by
  simp [Cursor.skipSpaces, Cursor.skip, shown]

/-- The characters of texts with commas between them. -/
def listed (texts : List String) : List Char := (", ".intercalate texts).toList

theorem listed_singleton (s : String) : listed [s] = s.toList := rfl

theorem listed_cons_cons (s t : String) (l : List String) :
    listed (s :: t :: l) = s.toList ++ ',' :: ' ' :: listed (t :: l) := by
  simp [listed, String.intercalate_cons_cons]

theorem listed_cons (s : String) (l : List String) : ∃ t, listed (s :: l) = s.toList ++ t := by
  cases l with
  | nil => exact ⟨[], (List.append_nil _).symm⟩
  | cons t l => exact ⟨_, listed_cons_cons s t l⟩

theorem write_list (l : List Value) :
    (write (.list l)).toList = '[' :: (listed (writeItems l) ++ [']']) := by
  simp [write, listed]

theorem write_dict (l : List (String × Value)) :
    (write (.dict l)).toList = '\x7b' :: (listed (writeEntries l) ++ ['\x7d']) := by
  simp [write, listed]

/-- The first character is no space and does not close a list. -/
def Opens (cs : List Char) : Prop := ∃ c t, cs = c :: t ∧ isSpace c = false ∧ c ≠ ']'

theorem opens_textLiteral (s : String) : Opens (textLiteral s).toList :=
  ⟨'"', s.toList.flatMap escapeChar ++ ['"'], by simp [textLiteral], rfl, by decide⟩

theorem opens_digit {d : Char} (digit : d.isDigit = true) (ds : List Char) : Opens (d :: ds) := by
  have other {c : Char} (letter : c.isDigit = false) : d ≠ c := (ne_of_isDigit digit letter).symm
  refine ⟨d, ds, rfl, ?_, other rfl⟩
  simp [isSpace, other (c := ' ') rfl, other (c := '\t') rfl, other (c := '\n') rfl,
    other (c := '\r') rfl]

theorem opens_intText (n : Int) : Opens (intText n).toList := by
  obtain ⟨d, ds, first, digit⟩ := natDigits_eq_cons n.natAbs
  rw [toList_intText, first]
  split
  · exact ⟨'-', d :: ds, rfl, rfl, by decide⟩
  · exact opens_digit digit ds

theorem opens_floatLiteral (x : Float) : Opens (floatLiteral x).toList := by
  obtain ⟨finite, literal⟩ | ⟨-, literal⟩ | ⟨-, literal⟩ | ⟨-, literal⟩ := floatLiteral_cases x
  · obtain ⟨negative, n, chars, -⟩ := floatText_eq_chars finite
    obtain ⟨d, ds, first, digit⟩ := n.isDigit_head
    rw [literal, chars, first]
    cases negative with
    | true => exact ⟨'-', d :: ds, rfl, rfl, by decide⟩
    | false => exact opens_digit digit ds
  · exact ⟨'N', _, congrArg String.toList literal, rfl, by decide⟩
  · exact ⟨'I', _, congrArg String.toList literal, rfl, by decide⟩
  · exact ⟨'-', _, congrArg String.toList literal, rfl, by decide⟩

theorem opens_write (v : Value) : Opens (write v).toList := by
  cases v with
  | null => exact ⟨'n', _, rfl, rfl, by decide⟩
  | bool b => cases b <;> exact ⟨_, _, rfl, rfl, by decide⟩
  | int n => exact opens_intText n
  | float x => exact opens_floatLiteral x
  | text s => exact opens_textLiteral s
  | list l | tuple l => exact ⟨'[', _, write_list l, rfl, by decide⟩
  | dict l | record l => exact ⟨'\x7b', _, write_dict l, rfl, by decide⟩

theorem constant?_of_digit {d : Char} (digit : d.isDigit = true) (p : Nat) (cs : List Char) :
    constant? ⟨p, d :: cs⟩ = none ∧ constant? ⟨p, '-' :: d :: cs⟩ = none := by
  have other {c : Char} (letter : c.isDigit = false) : c ≠ d := ne_of_isDigit digit letter
  constructor <;>
    simp [constant?, constants, List.isPrefixOf, other (c := 'n') rfl, other (c := 't') rfl,
      other (c := 'f') rfl, other (c := 'N') rfl, other (c := 'I') rfl, other (c := '-') rfl]

/-- A text that opens with neither a quote nor a bracket is a constant or a number. -/
theorem value_other {c : Char} {cs : List Char} (quote : c ≠ '"') (bracket : c ≠ '[')
    (brace : c ≠ '\x7b') (none : constant? ⟨p, c :: cs⟩ = none) :
    value (fuel + 1) ⟨p, c :: cs⟩ = number ⟨p, c :: cs⟩ := by
  rw [value]
  simp only
  split <;> simp_all

/-- A text that opens with a digit, behind a sign or not, is a number. -/
theorem value_number {negative : Bool} {d : Char} {ds : List Char} {v : Value}
    (digit : d.isDigit = true)
    (taken : Takes number ((if negative then ['-'] else []) ++ d :: ds) v rest) :
    Takes (value (fuel + 1)) ((if negative then ['-'] else []) ++ d :: ds) v rest := by
  intro p
  obtain ⟨q, taken⟩ := taken p
  refine ⟨q, Eq.trans ?_ taken⟩
  cases negative with
  | true =>
    exact value_other (by decide) (by decide) (by decide) (constant?_of_digit digit _ _).2
  | false =>
    have other {c : Char} (letter : c.isDigit = false) : d ≠ c :=
      (ne_of_isDigit digit letter).symm
    exact value_other (other rfl) (other rfl) (other rfl) (constant?_of_digit digit _ _).1

theorem value_int {n : Int} (short : n.natAbs < tenTo maxNumeralDigits) (ends : Delimited rest) :
    Takes (value (fuel + 1)) (intText n).toList (.int n) rest := by
  have taken := number_intText short ends
  have sign : (if n < 0 then ['-'] else []) = if decide (n < 0) then ['-'] else [] := by simp
  obtain ⟨d, ds, first, digit⟩ := natDigits_eq_cons n.natAbs
  rw [toList_intText, first, sign] at taken ⊢
  exact value_number digit taken

theorem value_float (x : Float) (ends : Delimited rest) :
    Takes (value (fuel + 1)) (floatLiteral x).toList (.float x) rest := by
  obtain ⟨finite, literal⟩ | ⟨same, literal⟩ | ⟨same, literal⟩ | ⟨same, literal⟩ :=
    floatLiteral_cases x
  · have taken := number_floatText finite ends
    obtain ⟨negative, n, chars, -⟩ := floatText_eq_chars finite
    obtain ⟨d, ds, first, digit⟩ := n.isDigit_head
    rw [literal]
    rw [chars, first] at taken ⊢
    exact value_number digit taken
  · rw [literal, same]
    exact fun p => ⟨p + 3, rfl⟩
  · rw [literal, same]
    exact fun p => ⟨p + 8, rfl⟩
  · rw [literal, same]
    exact fun p => ⟨p + 9, rfl⟩

theorem setKey_new {l : List (String × Value)} {k : String} (new : k ∉ l.map Prod.fst)
    (v : Value) : setKey l k v = l ++ [(k, v)] := by
  have none : ¬(l.any fun e => e.1 == k) = true := by
    rw [List.any_eq_true]
    rintro ⟨e, member, same⟩
    exact new (List.mem_map.mpr ⟨e, member, eq_of_beq same⟩)
  rw [setKey, if_neg none]

theorem new_of_nodup {acc l : List (String × Value)} {k : String} {v : Value}
    (distinct : ((acc ++ (k, v) :: l).map Prod.fst).Nodup) : k ∉ acc.map Prod.fst := by
  rw [List.map_append, List.nodup_append] at distinct
  exact fun old => distinct.2.2 k old k List.mem_cons_self rfl

/-- With enough turns for its length, the text of the value is read back. -/
def Readable (v : Value) : Prop :=
  ∀ fuel rest, (write v).toList.length ≤ fuel → Delimited rest →
    Takes (value fuel) (write v).toList v rest

theorem Opens.append {cs : List Char} (h : Opens cs) (rest : List Char) : Opens (cs ++ rest) := by
  obtain ⟨c, t, rfl, shown, other⟩ := h
  exact ⟨c, t ++ rest, rfl, shown, other⟩

theorem Opens.skipSpaces {cs : List Char} (h : Opens cs) (p : Nat) :
    Cursor.skipSpaces ⟨p, cs⟩ = ⟨p, cs⟩ := by
  obtain ⟨c, t, rfl, shown, -⟩ := h
  exact Cursor.skipSpaces_of_not shown p t

theorem Opens.skipSpaces_space {cs : List Char} (h : Opens cs) (p : Nat) :
    Cursor.skipSpaces ⟨p, ' ' :: cs⟩ = ⟨p + 1, cs⟩ := by
  obtain ⟨c, t, rfl, shown, -⟩ := h
  simp [Cursor.skipSpaces, Cursor.skip, shown, show isSpace ' ' = true from rfl]

theorem Opens.succ {cs : List Char} (h : Opens cs) (enough : cs.length ≤ fuel) :
    ∃ n, fuel = n + 1 := by
  obtain ⟨c, t, rfl, -, -⟩ := h
  exact ⟨fuel - 1, by rw [List.length_cons] at enough; omega⟩

section Steps

variable {c : Cursor} {v : Value} {cs : List Char} {q : Nat} {vs : List Value}

theorem items_last (taken : value fuel c = .ok (v, ⟨q, ']' :: rest⟩)) :
    items (fuel + 1) c vs = .ok (.list (v :: vs).reverse, ⟨q + 1, rest⟩) := by
  rw [items, taken]
  simp only [bind, Except.bind, Cursor.skipSpaces_of_not (c := ']') rfl]
  rfl

theorem items_next (taken : value fuel c = .ok (v, ⟨q, ',' :: ' ' :: cs⟩)) (opens : Opens cs) :
    items (fuel + 1) c vs = items fuel ⟨q + 2, cs⟩ (v :: vs) := by
  rw [items, taken]
  simp only [bind, Except.bind, Cursor.skipSpaces_of_not (c := ',') rfl, Cursor.skip,
    List.drop_succ_cons, List.drop_zero, opens.skipSpaces_space]

theorem entries_last (p : Nat) (k : String) (es : List (String × Value)) (opens : Opens cs)
    (taken : Takes (value fuel) cs v ('\x7d' :: rest)) : ∃ r,
    entries (fuel + 1) ⟨p, (textLiteral k).toList ++ ':' :: ' ' :: (cs ++ '\x7d' :: rest)⟩ es =
      .ok (.dict (setKey es k v), ⟨r, rest⟩) := by
  obtain ⟨q, key⟩ := string_textLiteral k (':' :: ' ' :: (cs ++ '\x7d' :: rest)) p
  obtain ⟨r, taken⟩ := taken (q + 1 + 1)
  refine ⟨r + 1, ?_⟩
  rw [textLiteral_append] at key ⊢
  rw [entries]
  simp only [key, bind, Except.bind, pure, Except.pure, Cursor.skipSpaces_of_not (c := ':') rfl,
    Cursor.skip, List.drop_succ_cons, List.drop_zero, (opens.append _).skipSpaces_space, taken,
    Cursor.skipSpaces_of_not (c := '\x7d') rfl]

theorem entries_next (p : Nat) (k : String) (es : List (String × Value)) (opens : Opens cs)
    (taken : Takes (value fuel) cs v (',' :: ' ' :: rest)) (more : Opens rest) : ∃ r,
    entries (fuel + 1)
        ⟨p, (textLiteral k).toList ++ ':' :: ' ' :: (cs ++ ',' :: ' ' :: rest)⟩ es =
      entries fuel ⟨r, rest⟩ (setKey es k v) := by
  obtain ⟨q, key⟩ := string_textLiteral k (':' :: ' ' :: (cs ++ ',' :: ' ' :: rest)) p
  obtain ⟨r, taken⟩ := taken (q + 1 + 1)
  refine ⟨r + 1 + 1, ?_⟩
  rw [textLiteral_append] at key ⊢
  rw [entries]
  simp only [key, bind, Except.bind, Cursor.skipSpaces_of_not (c := ':') rfl, Cursor.skip,
    List.drop_succ_cons, List.drop_zero, (opens.append _).skipSpaces_space, taken,
    Cursor.skipSpaces_of_not (c := ',') rfl, more.skipSpaces_space]

end Steps

theorem Opens.listed {s : String} (h : Opens s.toList) (l : List String) :
    Opens (listed (s :: l)) := by
  obtain ⟨t, first⟩ := listed_cons s l
  rw [first]
  exact h.append t

theorem items_write (p : Nat) (acc : List Value) (rest : List Char) {v : Value} {l : List Value}
    (readable : ∀ w ∈ v :: l, Readable w)
    (enough : (listed (writeItems (v :: l))).length < fuel) : ∃ q,
    items fuel ⟨p, listed (writeItems (v :: l)) ++ ']' :: rest⟩ acc =
      .ok (.list (acc.reverse ++ v :: l), ⟨q, rest⟩) := by
  induction l generalizing v fuel p acc with
  | nil =>
    obtain ⟨fuel, rfl⟩ : ∃ n, fuel = n + 1 := ⟨fuel - 1, by omega⟩
    obtain ⟨q, taken⟩ := readable v List.mem_cons_self fuel (']' :: rest)
      (Nat.le_of_lt_succ enough) (by simp [Delimited]) p
    exact ⟨q + 1, (items_last taken).trans (by rw [List.reverse_cons])⟩
  | cons w l ih =>
    obtain ⟨fuel, rfl⟩ : ∃ n, fuel = n + 1 := ⟨fuel - 1, by omega⟩
    obtain ⟨first, readable⟩ := List.forall_mem_cons.mp readable
    have opens : Opens (listed (writeItems (w :: l))) := (opens_write w).listed _
    have both : listed (writeItems (v :: w :: l)) =
        (write v).toList ++ ',' :: ' ' :: listed (writeItems (w :: l)) := listed_cons_cons ..
    rw [both, List.length_append, List.length_cons, List.length_cons] at enough
    obtain ⟨q, taken⟩ := first fuel
      (',' :: ' ' :: (listed (writeItems (w :: l)) ++ ']' :: rest)) (by omega)
      (by simp [Delimited]) p
    have few : (listed (writeItems (w :: l))).length < fuel := by omega
    obtain ⟨r, others⟩ := ih (q + 2) (v :: acc) readable few
    refine ⟨r, ?_⟩
    rw [both, List.append_assoc, List.cons_append, List.cons_append,
      items_next taken (opens.append _), others, List.reverse_cons, List.append_assoc]
    rfl

theorem entries_write (p : Nat) (acc : List (String × Value)) (rest : List Char) {k : String}
    {v : Value} {l : List (String × Value)}
    (readable : ∀ e ∈ (k, v) :: l, Readable e.2)
    (distinct : ((acc ++ (k, v) :: l).map Prod.fst).Nodup)
    (enough : (listed (writeEntries ((k, v) :: l))).length < fuel) : ∃ q,
    entries fuel ⟨p, listed (writeEntries ((k, v) :: l)) ++ '\x7d' :: rest⟩ acc =
      .ok (.dict (acc ++ (k, v) :: l), ⟨q, rest⟩) := by
  induction l generalizing k v fuel p acc with
  | nil =>
    obtain ⟨fuel, rfl⟩ : ∃ n, fuel = n + 1 := ⟨fuel - 1, by omega⟩
    have first : Readable v := readable _ List.mem_cons_self
    have entry : listed (writeEntries [(k, v)]) =
        (textLiteral k).toList ++ ':' :: ' ' :: (write v).toList := by
      simp [writeEntries, listed_singleton]
    rw [entry] at enough ⊢
    rw [List.length_append, List.length_cons, List.length_cons] at enough
    have taken := first fuel ('\x7d' :: rest) (by omega) (by simp [Delimited])
    obtain ⟨q, last⟩ := entries_last p k acc (opens_write v) taken
    refine ⟨q, ?_⟩
    rw [List.append_assoc, List.cons_append, List.cons_append, last,
      setKey_new (new_of_nodup distinct)]
  | cons e l ih =>
    obtain ⟨fuel, rfl⟩ : ∃ n, fuel = n + 1 := ⟨fuel - 1, by omega⟩
    obtain ⟨k', w⟩ := e
    have first : Readable v := readable _ List.mem_cons_self
    have readable := (List.forall_mem_cons.mp readable).2
    have opens : Opens (listed (writeEntries ((k', w) :: l))) := by
      refine Opens.listed ?_ _
      rw [String.append_assoc, String.toList_append]
      exact (opens_textLiteral k').append _
    have both : listed (writeEntries ((k, v) :: (k', w) :: l)) = (textLiteral k).toList ++
        ':' :: ' ' :: ((write v).toList ++ ',' :: ' ' :: listed (writeEntries ((k', w) :: l))) := by
      simp [writeEntries, listed_cons_cons]
    rw [both, List.length_append, List.length_cons, List.length_cons, List.length_append,
      List.length_cons, List.length_cons] at enough
    have taken := first fuel
      (',' :: ' ' :: (listed (writeEntries ((k', w) :: l)) ++ '\x7d' :: rest)) (by omega)
      (by simp [Delimited])
    obtain ⟨q, next⟩ := entries_next p k acc (opens_write v) taken (opens.append _)
    have few : (listed (writeEntries ((k', w) :: l))).length < fuel := by omega
    obtain ⟨r, others⟩ := ih q (acc ++ [(k, v)]) readable
      (by rwa [List.append_assoc]) few
    refine ⟨r, ?_⟩
    rw [both, List.append_assoc, List.cons_append, List.cons_append, List.append_assoc,
      List.cons_append, List.cons_append, next, setKey_new (new_of_nodup distinct), others,
      List.append_assoc]
    rfl

theorem Readable.list {l : List Value} (readable : ∀ v ∈ l, Readable v) :
    Readable (.list l) := by
  intro fuel rest enough ends p
  rw [write_list, List.length_cons, List.length_append, List.length_singleton] at enough
  obtain ⟨fuel, rfl⟩ : ∃ n, fuel = n + 1 := ⟨fuel - 1, by omega⟩
  rw [write_list, List.cons_append, List.append_assoc, value]
  simp only [Cursor.skip, List.drop_succ_cons, List.drop_zero]
  cases l with
  | nil => exact ⟨p + 1 + 1, rfl⟩
  | cons v l =>
    have opens : Opens (listed (writeItems (v :: l))) := (opens_write v).listed _
    have few : (listed (writeItems (v :: l))).length < fuel := by omega
    obtain ⟨q, taken⟩ := items_write (p + 1) [] rest readable few
    refine ⟨q, ?_⟩
    rw [(opens.append _).skipSpaces]
    obtain ⟨c, t, first, -, other⟩ := opens
    rw [first] at taken ⊢
    simp only [List.cons_append] at taken ⊢
    split
    · next same => exact absurd (List.cons.inj same).1 other
    · exact taken

theorem Readable.dict {l : List (String × Value)} (distinct : (l.map Prod.fst).Nodup)
    (readable : ∀ e ∈ l, Readable e.2) : Readable (.dict l) := by
  intro fuel rest enough ends p
  rw [write_dict, List.length_cons, List.length_append, List.length_singleton] at enough
  obtain ⟨fuel, rfl⟩ : ∃ n, fuel = n + 1 := ⟨fuel - 1, by omega⟩
  rw [write_dict, List.cons_append, List.append_assoc, value]
  simp only [Cursor.skip, List.drop_succ_cons, List.drop_zero]
  cases l with
  | nil => exact ⟨p + 1 + 1, rfl⟩
  | cons e l =>
    obtain ⟨k, v⟩ := e
    have few : (listed (writeEntries ((k, v) :: l))).length < fuel := by omega
    obtain ⟨q, taken⟩ := entries_write (p + 1) [] rest readable distinct few
    obtain ⟨t, first⟩ := listed_cons (textLiteral k ++ ": " ++ write v) (writeEntries l)
    rw [String.toList_append, String.toList_append, List.append_assoc, List.append_assoc,
      textLiteral_append] at first
    refine ⟨q, ?_⟩
    rw [writeEntries, first, List.cons_append] at taken ⊢
    rw [Cursor.skipSpaces_of_not rfl]
    exact taken

theorem readable_of_succ {v : Value}
    (h : ∀ fuel rest, Delimited rest → Takes (value (fuel + 1)) (write v).toList v rest) :
    Readable v := by
  intro fuel rest enough ends
  obtain ⟨fuel, rfl⟩ := (opens_write v).succ enough
  exact h fuel rest ends

theorem readable {v : Value} (data : IsData v) (fine : obstacle? v = none) : Readable v := by
  induction data with
  | null => exact readable_of_succ fun fuel rest ends p => ⟨p + 4, rfl⟩
  | bool b =>
    refine readable_of_succ fun fuel rest ends p => ?_
    cases b with
    | false => exact ⟨p + 5, rfl⟩
    | true => exact ⟨p + 4, rfl⟩
  | int n =>
    have short : n.natAbs < tenTo maxNumeralDigits := by simpa [obstacle?] using fine
    exact readable_of_succ fun fuel rest ends => value_int short ends
  | float x => exact readable_of_succ fun fuel rest ends => value_float x ends
  | text s =>
    refine readable_of_succ fun fuel rest ends p => ?_
    obtain ⟨q, taken⟩ := string_textLiteral s rest p
    refine ⟨q, ?_⟩
    rw [textLiteral_append] at taken
    rw [write, textLiteral_append, value]
    simp only [taken]
    rfl
  | list data ih =>
    rw [obstacle?, obstacleIn?_eq_none] at fine
    exact .list fun v member => ih v member (fine v member)
  | dict distinct data ih =>
    rw [obstacle?, obstacleAmong?_eq_none] at fine
    exact .dict distinct fun e member => ih e member (fine e member)

/-- Printable ASCII. -/
def Ascii (cs : List Char) : Prop := ∀ c ∈ cs, 32 ≤ c.toNat ∧ c.toNat ≤ 126

instance (cs : List Char) : Decidable (Ascii cs) :=
  List.decidableBAll (fun c : Char => 32 ≤ c.toNat ∧ c.toNat ≤ 126) cs

theorem ascii_cons {c : Char} {cs : List Char} :
    Ascii (c :: cs) ↔ (32 ≤ c.toNat ∧ c.toNat ≤ 126) ∧ Ascii cs := List.forall_mem_cons

theorem ascii_append {cs cs' : List Char} : Ascii (cs ++ cs') ↔ Ascii cs ∧ Ascii cs' :=
  List.forall_mem_append

theorem hexDigits_ascii (width n : Nat) : Ascii (hexDigits width n) := by
  have digit : ∀ d < 16, Ascii [hexDigit d] := by decide
  induction width generalizing n with
  | zero => exact List.forall_mem_nil _
  | succ width ih => exact ascii_append.mpr ⟨ih _, digit _ (Nat.mod_lt n (by decide))⟩

theorem unicodeEscape_ascii (n : Nat) : Ascii (unicodeEscape n) :=
  ascii_append.mpr ⟨(by decide : Ascii ['\\', 'u']), hexDigits_ascii 4 n⟩

theorem escapeChar_ascii (c : Char) : Ascii (escapeChar c) := by
  unfold escapeChar
  split_ifs with quote slash feed ret tab back page printed low
  · decide
  · decide
  · decide
  · decide
  · decide
  · decide
  · decide
  · simpa [Ascii] using printed
  · exact unicodeEscape_ascii _
  · exact ascii_append.mpr ⟨unicodeEscape_ascii _, unicodeEscape_ascii _⟩

theorem textLiteral_ascii (s : String) : Ascii (textLiteral s).toList := by
  rw [textLiteral, String.toList_ofList, List.cons_append, ascii_cons, ascii_append]
  refine ⟨by decide, fun c member => ?_, by decide⟩
  obtain ⟨d, -, escaped⟩ := List.mem_flatMap.mp member
  exact escapeChar_ascii d c escaped

theorem digits_ascii {ds : List Char} (digits : Digits ds) : Ascii ds := by
  intro c member
  have digit := digits c member
  simp only [Char.isDigit, Bool.and_eq_true, decide_eq_true_eq, ge_iff_le, UInt32.le_iff_toNat_le]
    at digit
  exact ⟨Nat.le_trans (by decide) digit.1, Nat.le_trans digit.2 (by decide)⟩

theorem intText_ascii (n : Int) : Ascii (intText n).toList := by
  rw [toList_intText, ascii_append]
  exact ⟨by split <;> decide, digits_ascii (digits_natDigits _)⟩

theorem listed_ascii {l : List String} (h : ∀ s ∈ l, Ascii s.toList) : Ascii (listed l) := by
  induction l with
  | nil => exact List.forall_mem_nil _
  | cons s l ih =>
    obtain ⟨first, others⟩ := List.forall_mem_cons.mp h
    cases l with
    | nil => exact first
    | cons t l =>
      rw [listed_cons_cons, ascii_append]
      exact ⟨first, ascii_append.mpr ⟨(by decide : Ascii [',', ' ']), ih others⟩⟩

theorem chars_ascii (n : Numeral) : Ascii n.chars := by
  rw [Numeral.chars, ascii_append, ascii_append]
  refine ⟨digits_ascii n.wholeDigits, ?_, ?_⟩
  · obtain ⟨-, point⟩ | point := n.point_cases
    · rw [point]
      exact List.forall_mem_nil _
    · rw [point, ascii_cons]
      exact ⟨by decide, digits_ascii n.fractionDigits⟩
  · obtain plain | ⟨e, -, scaled⟩ := n.power_cases
    · rw [plain]
      exact List.forall_mem_nil _
    · rw [scaled, ascii_cons, ascii_cons]
      exact ⟨by decide, by split <;> decide, digits_ascii (digits_exponentDigits e)⟩

theorem floatLiteral_ascii (x : Float) : Ascii (floatLiteral x).toList := by
  obtain ⟨finite, literal⟩ | ⟨-, literal⟩ | ⟨-, literal⟩ | ⟨-, literal⟩ := floatLiteral_cases x
  · obtain ⟨negative, n, chars, -⟩ := floatText_eq_chars finite
    rw [literal, chars, ascii_append]
    exact ⟨by cases negative <;> decide, chars_ascii n⟩
  · rw [literal]
    decide
  · rw [literal]
    decide
  · rw [literal]
    decide

mutual

theorem write_ascii : (v : Value) → Ascii (write v).toList
  | .null => by decide
  | .bool b => by cases b <;> decide
  | .int n => intText_ascii n
  | .float x => floatLiteral_ascii x
  | .text s => textLiteral_ascii s
  | .list l | .tuple l => by
    change Ascii (write (.list l)).toList
    rw [write_list, ascii_cons, ascii_append]
    exact ⟨by decide, listed_ascii (writeItems_ascii l), by decide⟩
  | .dict l | .record l => by
    change Ascii (write (.dict l)).toList
    rw [write_dict, ascii_cons, ascii_append]
    exact ⟨by decide, listed_ascii (writeEntries_ascii l), by decide⟩

theorem writeItems_ascii : (l : List Value) → ∀ s ∈ writeItems l, Ascii s.toList
  | [] => List.forall_mem_nil _
  | v :: l => List.forall_mem_cons.mpr ⟨write_ascii v, writeItems_ascii l⟩

theorem writeEntries_ascii : (l : List (String × Value)) → ∀ s ∈ writeEntries l, Ascii s.toList
  | [] => List.forall_mem_nil _
  | (k, v) :: l => by
    refine List.forall_mem_cons.mpr ⟨?_, writeEntries_ascii l⟩
    rw [String.toList_append, String.toList_append, ascii_append, ascii_append]
    exact ⟨⟨textLiteral_ascii k, by decide⟩, write_ascii v⟩

end

theorem text_eq_ok {v : Value} {t : String} (written : text v = .ok t) : t = write v := by
  unfold text at written
  split at written
  · contradiction
  · exact (Except.ok.inj written).symm

/-- A value that has a JSON text is read back from it. -/
theorem read_text {v : Value} (data : IsData v) {t : String} (written : text v = .ok t) :
    read t = .ok v := by
  have fine : obstacle? v = none := by
    unfold text at written
    split at written
    · contradiction
    · assumption
  have opens := opens_write v
  obtain ⟨q, taken⟩ := readable data fine (2 * (write v).length + 2) []
    (by rw [String.length_toList]; omega) (by simp [Delimited]) 0
  have unmarked : ((write v).toList.head? == some (Char.ofNat 0xFEFF)) = false := by
    obtain ⟨c, t, first, -⟩ := opens
    have ascii := write_ascii v
    rw [first] at ascii ⊢
    simp only [List.head?_cons, beq_eq_false_iff_ne, ne_eq, Option.some.injEq]
    rintro rfl
    exact absurd (ascii_cons.mp ascii).1 (by decide)
  rw [List.append_nil] at taken
  rw [text_eq_ok written, read]
  simp only [Cursor.ofText, unmarked, opens.skipSpaces, taken]
  rfl

end PuzzleWorlds.Json
