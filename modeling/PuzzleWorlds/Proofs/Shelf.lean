import PuzzleWorlds.Proofs.Payload
import PuzzleWorlds.Proofs.RegistryCalls
import PuzzleWorlds.Proofs.Replay

/-! The shelf of potions and its copy. A program asks the copy while it runs, and the world takes
the recorded swaps later, with checks of its own; yet every answer is the one that the world would
have given at that point. -/

namespace PuzzleWorlds

namespace Sorting

theorem SortOrder.allows_trans (order : SortOrder) (a b c : Int) (h : order.allows a b = true)
    (h' : order.allows b c = true) : order.allows a c = true := by
  cases order <;> simp only [allows, decide_eq_true_eq] at h h' ⊢ <;> omega

theorem SortOrder.allows_total (order : SortOrder) (a b : Int) :
    (order.allows a b || order.allows b a) = true := by
  cases order <;> simp only [allows, Bool.or_eq_true, decide_eq_true_eq] <;> omega

theorem isSorted_iff_pairwise {order : SortOrder} {p : List Int} :
    isSorted order p = true ↔ p.Pairwise fun a b => order.allows a b = true := by
  induction p with
  | nil => exact iff_of_true rfl .nil
  | cons a rest ih =>
    cases rest with
    | nil => exact iff_of_true rfl (List.pairwise_singleton _ _)
    | cons b rest =>
      simp only [isSorted, Bool.and_eq_true, ih, List.pairwise_cons (a := a)]
      refine ⟨fun ⟨first, later⟩ => ⟨?_, later⟩, fun ⟨first, later⟩ =>
        ⟨first b List.mem_cons_self, later⟩⟩
      refine List.forall_mem_cons.mpr ⟨first, fun c member => ?_⟩
      exact order.allows_trans a b c first ((List.pairwise_cons.mp later).1 c member)

theorem World.within_nat {i n : Nat} (inside : i < n) : World.within (.int i) n = .ok true := by
  obtain ⟨low, high⟩ := Value.ordered_inside (n := n) (Int.natCast_nonneg i) (by omega)
  rw [World.within, low]
  exact high

/-- The world takes a swap of two places on the shelf. -/
theorem World.swap_nat (w : World) {i j : Nat} (first : i < w.potions.length)
    (second : j < w.potions.length) :
    ∃ changes, w.swap (.int i) (.int j) = .ok (.changed
      { w with potions := exchange w.potions i j, swaps := w.swaps + 1 } changes) := by
  simp only [World.swap, World.within_nat first, World.within_nat second, World.placeOf,
    Value.wholeOf?, Value.isNull]
  exact ⟨_, rfl⟩

theorem Shadow.place_ok_iff {s : Shadow} {what : String} {v : Value} {i : Nat} :
    s.place what v = .ok i ↔ asInt what v = .ok (i : Int) ∧ i < s.potions.length := by
  unfold Shadow.place
  cases number : asInt what v with
  | error f => exact iff_of_false nofun nofun
  | ok n =>
    change (if 0 ≤ n && n < s.potions.length then pure n.toNat
      else throw (Fault.indexOutside n s.potions.length)) = Except.ok i ↔ _
    split
    next inside =>
      simp only [Bool.and_eq_true, decide_eq_true_eq] at inside
      refine ⟨fun taken => ?_, ?_⟩
      · obtain rfl : n.toNat = i := Except.ok.inj taken
        exact ⟨by rw [Int.toNat_of_nonneg inside.1], by omega⟩
      · rintro ⟨same, _⟩
        obtain rfl : n = i := Except.ok.inj same
        rfl
    next outside =>
      refine iff_of_false nofun ?_
      rintro ⟨same, inside⟩
      obtain rfl : n = i := Except.ok.inj same
      simp [inside] at outside

/-- What a program is told by a command when the shelf is that of the world. -/
def World.tells (w : World) (c : Command) (a : Arguments) (v : Value) : Prop :=
  match c with
  | .get => ∃ (i : Nat) (n : Int), asInt "i" (a.arg 0) = .ok (i : Int) ∧
    w.potions[i]? = some n ∧ v = .int n
  | .length => v = .nat w.potions.length
  | .swap => v = .null ∧ ∃ i j : Nat, asInt "i" (a.arg 0) = .ok (i : Int) ∧
    asInt "j" (a.arg 1) = .ok (j : Int) ∧ i < w.potions.length ∧ j < w.potions.length
  | .view => v = .list (w.potions.map .int)

/-- What the program is given for a response. -/
def told : Response Shadow → Value
  | .answers v => v
  | .acts .. => .null

section

variable {s : Shadow} {a : Arguments}

theorem Command.call_get {x : Response Shadow} : Command.get.call s a = .ok x ↔
    ∃ i, s.place "i" (a.arg 0) = .ok i ∧ x = .answers (.int (s.potions.getD i 0)) := by
  cases place : s.place "i" (a.arg 0) with
  | error f => exact iff_of_false (by simp only [Command.call, place]; nofun) nofun
  | ok i =>
    simp only [Command.call, place]
    refine ⟨fun answered => ⟨i, rfl, (Except.ok.inj answered).symm⟩, ?_⟩
    rintro ⟨i', same, rfl⟩
    cases same
    rfl

theorem Command.call_swap {x : Response Shadow} : Command.swap.call s a = .ok x ↔
    ∃ i j, s.place "i" (a.arg 0) = .ok i ∧ s.place "j" (a.arg 1) = .ok j ∧
      x = .acts ⟨exchange s.potions i j⟩ (.swap i j) := by
  cases first : s.place "i" (a.arg 0) with
  | error f => exact iff_of_false (by simp only [Command.call, first]; nofun) nofun
  | ok i =>
    cases second : s.place "j" (a.arg 1) with
    | error f => exact iff_of_false (by simp only [Command.call, first, second]; nofun) nofun
    | ok j =>
      simp only [Command.call, first, second]
      refine ⟨fun acted => ⟨i, j, rfl, rfl, (Except.ok.inj acted).symm⟩, ?_⟩
      rintro ⟨i', j', same, same', rfl⟩
      cases same
      cases same'
      rfl

end

/-- The copy answers exactly as the world does whose shelf it shows. -/
theorem World.tells_iff {w : World} {s : Shadow} (same : w.potions = s.potions) (c : Command)
    (a : Arguments) (v : Value) : w.tells c a v ↔ ∃ x, c.call s a = .ok x ∧ told x = v := by
  cases c with
  | get =>
    simp only [Command.call_get, Shadow.place_ok_iff, World.tells, same]
    refine ⟨?_, ?_⟩
    · rintro ⟨i, n, number, found, rfl⟩
      obtain ⟨inside, taken⟩ := List.getElem?_eq_some_iff.mp found
      exact ⟨_, ⟨i, ⟨number, inside⟩, rfl⟩, by simp [told, found]⟩
    · rintro ⟨_, ⟨i, ⟨number, inside⟩, rfl⟩, rfl⟩
      exact ⟨i, s.potions[i], number, List.getElem?_eq_getElem inside, by simp [told, inside]⟩
  | length =>
    refine ⟨fun h => ⟨_, rfl, ?_⟩, ?_⟩
    · rw [told, ← same]
      exact h.symm
    · rintro ⟨_, answered, rfl⟩
      cases answered
      rw [World.tells, same, told]
  | swap =>
    simp only [Command.call_swap, Shadow.place_ok_iff, World.tells, same]
    refine ⟨?_, ?_⟩
    · rintro ⟨rfl, i, j, first, second, low, high⟩
      exact ⟨_, ⟨i, j, ⟨first, low⟩, ⟨second, high⟩, rfl⟩, rfl⟩
    · rintro ⟨_, ⟨i, j, ⟨first, low⟩, ⟨second, high⟩, rfl⟩, rfl⟩
      exact ⟨rfl, i, j, first, second, low, high⟩
  | view =>
    refine ⟨fun h => ⟨_, rfl, ?_⟩, ?_⟩
    · rw [told, ← same]
      exact h.symm
    · rintro ⟨_, answered, rfl⟩
      cases answered
      rw [World.tells, same, told]

/-- Only a swap of two places on the shelf acts, and with that swap. -/
theorem Command.call_acts {s shadow : Shadow} {c : Command} {a : Arguments} {action : Action}
    (h : c.call s a = .ok (.acts shadow action)) :
    ∃ i j : Nat, i < s.potions.length ∧ j < s.potions.length ∧
      shadow = ⟨exchange s.potions i j⟩ ∧ action = .swap i j := by
  cases c with
  | get =>
    obtain ⟨_, _, same⟩ := Command.call_get.mp h
    cases same
  | length => cases h
  | view => cases h
  | swap =>
    obtain ⟨i, j, first, second, same⟩ := Command.call_swap.mp h
    cases same
    exact ⟨i, j, (Shadow.place_ok_iff.mp first).2, (Shadow.place_ok_iff.mp second).2, rfl, rfl⟩

/-- The trace plays to the end, and the shelf to which it leads is the copy. -/
structure Agrees (l : Level) (r : Registry .sorting) (w : World) : Prop where
  plays : Domain.Plays .sorting (World.initial l) r.trace w
  potions : w.potions = Shadow.potions r.shadow
  swaps : w.swaps = r.trace.length

namespace Agrees

variable {l : Level} {r : Registry .sorting} {w : World}

theorem create (l : Level) (maxActions : Int) :
    ∃ r, Registry.create (d := .sorting) l maxActions = .ok r ∧ Agrees l r (World.initial l) :=
  ⟨_, rfl, .nil _, rfl, rfl⟩

/-- A recorded swap is one that the world takes, with the same effect on the shelf. -/
theorem swap (h : Agrees l r w) {i j : Nat} (first : i < (Shadow.potions r.shadow).length)
    (second : j < (Shadow.potions r.shadow).length) :
    ∃ v, Agrees l { r with
      shadow := (⟨exchange (Shadow.potions r.shadow) i j⟩ : Shadow)
      trace := r.trace ++ [.swap i j] } v := by
  rw [← h.potions] at first second
  obtain ⟨changes, taken⟩ := w.swap_nat first second
  have last : Domain.apply .sorting w (.swap i j) = .ok (.changed
      { w with potions := exchange w.potions i j, swaps := w.swaps + 1 } changes) := by
    change Reaction.settle (w.swap (.int i) (.int j)) = _
    rw [taken]
    rfl
  refine ⟨_, h.plays.concat last, ?_, ?_⟩
  · change exchange w.potions i j = _
    rw [h.potions]
  · change w.swaps + 1 = _
    rw [h.swaps, List.length_append, List.length_singleton]

/-- What a call gives back before the budget is used up is what its response tells. -/
theorem told_iff (h : Agrees l r w) (name : String) (args : List Value) (v : Value) :
    (∃ x, r.respond name args = .ok x ∧ told x = v) ↔
      ∃ (k : Command) (a : Arguments), Domain.command? .sorting name = some k ∧
        k.spec.bind name args = .ok a ∧ w.tells k a v := by
  simp only [World.tells_iff h.potions, Registry.respond_ok_iff]
  refine ⟨?_, ?_⟩
  · rintro ⟨x, ⟨k, a, known, bound, called⟩, same⟩
    exact ⟨k, a, known, bound, x, called, same⟩
  · rintro ⟨k, a, known, bound, x, called, same⟩
    exact ⟨x, ⟨k, a, known, bound, called⟩, same⟩

/-- One call within the budget: the copy agrees with a world again, and what the call gives back is
what the world before it tells. -/
theorem invoke (h : Agrees l r w) (c : Invocation)
    (within : ∀ f, (r.invoke c.name c.args).1 = .error f → f.kind ≠ .budgetExceeded) :
    (∃ v, Agrees l (r.invoke c.name c.args).2 v) ∧
    ∀ v, (r.invoke c.name c.args).1 = .ok v ↔
      ∃ (k : Command) (a : Arguments), Domain.command? .sorting c.name = some k ∧
        k.spec.bind c.name c.args = .ok a ∧ w.tells k a v := by
  simp only [← h.told_iff]
  have move := r.invokes c
  revert within
  generalize (r.invoke c.name c.args).1 = x, (r.invoke c.name c.args).2 = r' at move
  intro within
  cases move with
  | refuses response =>
    refine ⟨⟨w, h⟩, fun v => iff_of_false nofun ?_⟩
    rintro ⟨x, answered, _⟩
    cases response.symm.trans answered
  | answers response =>
    refine ⟨⟨w, h⟩, fun v => ?_⟩
    simp only [response, Except.ok.injEq, exists_eq_left', told]
  | acts response =>
    obtain ⟨k, a, _, _, called⟩ := Registry.respond_ok_iff.mp response
    obtain ⟨i, j, first, second, rfl, rfl⟩ := Command.call_acts called
    refine ⟨h.swap first second, fun v => ?_⟩
    simp only [response, Except.ok.injEq, exists_eq_left', told]
  | exhausts => exact absurd rfl (within _ rfl)

/-- Calls within the budget, one after the other. -/
theorem after (h : Agrees l r w) {cs : List Invocation} (within : r.WithinBudget cs) :
    ∃ v, Agrees l (r.after cs) v := by
  induction cs generalizing r w with
  | nil => exact ⟨w, h⟩
  | cons c cs ih =>
    obtain ⟨v, next⟩ := (h.invoke c within.1).1
    exact ih next within.2

end Agrees

end Sorting

end PuzzleWorlds
