import Mathlib.Data.List.Nodup
import PuzzleWorlds.Value.Basic

/-! The entries of a dictionary, looked up by their keys, and entries with other values. -/

namespace PuzzleWorlds

namespace Value

/-- The entries with other values, and without those that get none. -/
def adjust (es : List (String × Value)) (change : String → Value → Option Value) :
    List (String × Value) := es.filterMap fun e => (change e.1 e.2).map (Prod.mk e.1)

/-- The entries with another value for a key that is there, or without it. -/
def revise (es : List (String × Value)) (k : String) (v : Option Value) : List (String × Value) :=
  adjust es fun j w => if j == k then v else some w

/-- A dictionary or record with other entries. -/
def mapEntries (f : List (String × Value) → List (String × Value)) : Value → Value
  | dict l => dict (f l)
  | record l => record (f l)
  | v => v

variable {es : List (String × Value)} {j k : String} {v : Value}

theorem mem_of_lookup (found : lookup es k = some v) : (k, v) ∈ es := by
  obtain ⟨⟨key, _⟩, here, rfl⟩ := Option.map_eq_some_iff.mp found
  obtain rfl : key = k := eq_of_beq (List.find?_some here :)
  exact List.mem_of_find?_eq_some here

theorem lookup_of_mem (distinct : (es.map Prod.fst).Nodup) (member : (k, v) ∈ es) :
    lookup es k = some v := by
  induction es with
  | nil => cases member
  | cons e rest ih =>
    obtain ⟨fresh, others⟩ := List.nodup_cons.mp distinct
    rw [lookup, List.find?_cons]
    obtain rfl | later := List.mem_cons.mp member
    · simp
    · have other : e.1 ≠ k := fun same => fresh (same ▸ List.mem_map_of_mem later)
      rw [beq_eq_false_iff_ne.mpr other]
      exact ih others later

theorem lookup_eq_none_iff : lookup es k = none ↔ k ∉ es.map Prod.fst := by
  rw [lookup, Option.map_eq_none_iff, List.find?_eq_none]
  simp only [beq_iff_eq, List.mem_map, not_exists, not_and]

theorem entries?_mapEntries (f : List (String × Value) → List (String × Value)) (v : Value) :
    (v.mapEntries f).entries? = v.entries?.map f := by
  cases v <;> rfl

theorem mapEntries_of_none {f : List (String × Value) → List (String × Value)} {v : Value}
    (other : v.entries? = none) : v.mapEntries f = v := by
  cases v with
  | dict | record => cases other
  | _ => rfl

theorem lookup_cons (e : String × Value) (es : List (String × Value)) (k : String) :
    lookup (e :: es) k = if e.1 == k then some e.2 else lookup es k := by
  rw [lookup, List.find?_cons]
  cases e.1 == k <;> rfl

theorem lookup_append (es fs : List (String × Value)) (k : String) :
    lookup (es ++ fs) k = (lookup es k).or (lookup fs k) := by
  rw [lookup, List.find?_append, Option.map_or]
  rfl

/-- Entries are kept or left out by their keys, so that the first of a key stays the first. -/
theorem lookup_adjust {change : String → Value → Option Value}
    (keyed : ∀ j v w, change j v = none → change j w = none) (k : String) :
    lookup (adjust es change) k = (lookup es k).bind (change k) := by
  induction es with
  | nil => rfl
  | cons e rest ih =>
    rw [adjust] at ih ⊢
    rw [List.filterMap_cons, lookup_cons]
    by_cases same : e.1 = k
    · subst same
      rw [if_pos BEq.rfl, Option.bind_some]
      cases kept : change e.1 e.2 with
      | some v => simp [lookup_cons]
      | none =>
        dsimp only [Option.map_none]
        rw [ih, Option.bind_eq_none_iff]
        exact fun v _ => keyed e.1 e.2 v kept
    · rw [if_neg (by simpa using same), ← ih]
      cases change e.1 e.2 with
      | none => rfl
      | some v =>
        dsimp only [Option.map_some]
        rw [lookup_cons, if_neg (by simpa using same)]

theorem lookup_revise (es : List (String × Value)) (k : String) (v : Option Value) (j : String) :
    lookup (revise es k v) j = (lookup es j).bind fun w => if j == k then v else some w := by
  refine lookup_adjust (fun j w w' none => ?_) j
  split at none
  next same => rw [if_pos same, none]
  next => cases none

theorem lookup_revise_of_ne (other : j ≠ k) (v : Option Value) :
    lookup (revise es k v) j = lookup es j := by
  rw [lookup_revise]
  cases lookup es j with
  | none => rfl
  | some w => rw [Option.bind_some, if_neg (by simpa using other)]

theorem lookup_revise_self (v : Option Value) :
    lookup (revise es k v) k = (lookup es k).bind fun _ => v := by
  rw [lookup_revise]
  simp only [BEq.rfl, if_true]

end Value

end PuzzleWorlds
