/-! Values of learner programs, action payloads and documents. -/

namespace PuzzleWorlds

/-- A dynamic value. A `dict` keeps the order in which its keys arrived; a `record` is a
dictionary that cannot be changed. -/
inductive Value where
  | null
  | bool (b : Bool)
  | int (n : Int)
  | float (x : Float)
  | text (s : String)
  | list (items : List Value)
  | tuple (items : List Value)
  | dict (entries : List (String × Value))
  | record (entries : List (String × Value))
deriving Repr, Inhabited

namespace Value

instance : OfNat Value n := ⟨.int n⟩
instance : Coe String Value := ⟨.text⟩
instance : Coe Bool Value := ⟨.bool⟩
instance : Coe Int Value := ⟨.int⟩

def nat (n : Nat) : Value := .int n

/-- The name of the value's type. -/
def typeName : Value → String
  | null => "NoneType"
  | bool _ => "bool"
  | int _ => "int"
  | float _ => "float"
  | text _ => "str"
  | list _ => "list"
  | tuple _ => "tuple"
  | dict _ => "dict"
  | record _ => "mappingproxy"

/-- Whether the value counts as true: zero, nothing and empty values do not. -/
def truthy : Value → Bool
  | null => false
  | bool b => b
  | int n => n != 0
  | float x => x != 0
  | text s => !s.isEmpty
  | list l | tuple l => !l.isEmpty
  | dict l | record l => !l.isEmpty

/-- The value itself if it counts as true, and `d` otherwise. -/
def orElse (v d : Value) : Value := if v.truthy then v else d

def isNull : Value → Bool
  | null => true
  | _ => false

def ofOption : Option Value → Value
  | some v => v
  | none => null

def text? : Value → Option String
  | text s => some s
  | _ => none

/-- The entries of a dictionary or record. -/
def entries? : Value → Option (List (String × Value))
  | dict l | record l => some l
  | _ => none

/-- The value of a key in a list of entries. -/
def lookup (l : List (String × Value)) (k : String) : Option Value :=
  (l.find? fun e => e.1 == k).map (·.2)

def get? (v : Value) (k : String) : Option Value := v.entries?.bind fun l => lookup l k

theorem sizeOf_lookup {es : List (String × Value)} {k : String} {v : Value}
    (h : lookup es k = some v) : sizeOf v < sizeOf es := by
  induction es with
  | nil => simp [lookup] at h
  | cons e rest ih =>
    obtain ⟨name, x⟩ := e
    simp only [lookup, List.find?_cons] at h
    split at h
    · simp only [Option.map_some, Option.some.injEq] at h
      subst h
      simp; omega
    · have := ih (by simpa [lookup] using h)
      simp; omega

theorem sizeOf_get? {v x : Value} {k : String} (h : v.get? k = some x) : sizeOf x < sizeOf v := by
  cases v <;> simp [get?, entries?] at h <;> have := sizeOf_lookup h <;> simp <;> omega

/-- The whole number that a value is, with `true` and `false` as one and zero. -/
def wholeOf? : Value → Option Int
  | int n => some n
  | bool b => some (if b then 1 else 0)
  | _ => none

def isNumber : Value → Bool
  | int _ | bool _ | float _ => true
  | _ => false

end Value

end PuzzleWorlds
