import PuzzleWorlds.Proofs.BuiltStructures
import PuzzleWorlds.Proofs.Replayable
import PuzzleWorlds.Service.Basic

/-! Requests for sessions. A level is loaded, checked, put among the levels of its domain and made
into a world by four functions that rely on each other: what the loader and the checks let through
has a world, and in that world nothing had to be moved into bounds. So a request ends in one of two
ways: it is refused with a report and no session is touched, or there is one session more. -/

namespace PuzzleWorlds

/-! What a valid level makes sure of. -/

/-- Potions may be sorted with any number of swaps but none. -/
theorem Sorting.Level.valid_of_swaps {l : Level}
    (swaps : ∀ order, l.goal ≠ .sortedWithBudget order (some 0)) : l.findings.valid = true := by
  unfold findings
  cases aim : l.goal with
  | free _ => rfl
  | sortedWithBudget order most =>
    have some_swap : (most == some 0) = false :=
      beq_eq_false_iff_ne.mpr fun none => swaps order (none ▸ aim)
    dsimp only
    split
    · rfl
    · rw [Findings.valid_errorIf, some_swap]
      rfl

/-- Findings on blocks are only warnings. -/
theorem Domain.valid_validate {d : Domain} {l : d.Level} : (d.validate l).valid = true ↔
    (strip (Level.header l).name).isEmpty = false ∧ (d.ownFindings l).valid = true := by
  have warns : ∀ c text, (Findings.warningIf c text).valid = true := fun c _ => by cases c <;> rfl
  simp only [validate, Findings.valid_append, Findings.valid_errorIf, warns, Bool.and_true,
    Bool.and_eq_true, Bool.not_eq_true']
  exact and_iff_left (Findings.valid_join.mpr (List.forall_mem_map.mpr fun _ _ => warns _ _))

/-- Every world comes with levels that are valid. -/
theorem Domain.pack_valid (d : Domain) : ∀ l ∈ d.pack, (d.validate l).valid = true := by
  cases d with
  | sorting =>
    -- Sorting the potions to judge them is no computation that `decide` can do.
    have named : ∀ l ∈ Sorting.pack, (strip l.header.name).isEmpty = false := by decide +kernel
    have swaps : ∀ l ∈ Sorting.pack, ∀ order, l.goal ≠ .sortedWithBudget order (some 0) := by
      simp [Sorting.pack]
    exact fun l member =>
      valid_validate.mpr ⟨named l member, Sorting.Level.valid_of_swaps (swaps l member)⟩
  | _ => decide +kernel

namespace AnyLevel

variable {d : Domain}

theorem ofDomain_eq_ok {a : AnyLevel} {l : d.Level} : ofDomain d a = .ok l ↔ a = ⟨d, l⟩ := by
  obtain ⟨e, k⟩ := a
  unfold ofDomain
  split
  next same =>
    cases same
    simp
  next other =>
    refine iff_of_false nofun fun same => other ?_
    exact congrArg domain same

/-- Levels are of a domain if they are its levels, all of them. -/
theorem mapM_ofDomain_eq_ok {as : List AnyLevel} {pack : List d.Level} :
    as.mapM (ofDomain d) = .ok pack ↔ as = pack.map (AnyLevel.mk d) := by
  induction as generalizing pack with
  | nil => cases pack <;> simp [pure, Except.pure]
  | cons a as ih =>
    simp only [List.mapM_cons, bind_eq_ok, ofDomain_eq_ok, ih]
    cases pack with
    | nil => simp [pure, Except.pure]
    | cons l pack => simp [pure, Except.pure]

end AnyLevel

/-! New sessions. -/

namespace SessionTable

variable {d : Domain} {pack : List d.Level} {index : Int}

/-- The table with one session more. -/
def add (t : SessionTable) (s : AnySession) : SessionTable :=
  { t with sessions := t.sessions ++ [s] }

/-- The levels of a new session: those that are given, if all of them are of the domain. -/
def packFor (d : Domain) (levels : Option (List AnyLevel)) : Except CreateError (List d.Level) :=
  levels.elim (.ok d.pack) fun ls => ls.mapM (AnyLevel.ofDomain d)

end SessionTable

namespace Service

/-- The levels of a request: those that it brings, if they are valid levels of its domain, or else
the domain's own. -/
def Creation.IsOn (c : Creation) (d : Domain) (pack : List d.Level) : Prop :=
  c.domain = d.name ∧ match c.levels with
    | none => pack = d.pack
    | some documents => pack ≠ [] ∧ loadLevels documents = .ok (pack.map (AnyLevel.mk d)) ∧
      ∀ l ∈ pack, (d.validate l).valid = true

theorem Creation.IsOn.valid {c : Creation} {d : Domain} {pack : List d.Level} (h : c.IsOn d pack) :
    ∀ l ∈ pack, (d.validate l).valid = true := by
  obtain ⟨_, levels⟩ := h
  split at levels
  · exact levels ▸ d.pack_valid
  · exact levels.2.2

theorem customPack_eq_ok {documents : List Value} {levels : List AnyLevel} :
    customPack documents = .ok levels ↔ loadLevels documents = .ok levels ∧ levels ≠ [] ∧
      ∀ l ∈ levels, l.validate.valid = true := by
  unfold customPack
  cases loadLevels documents with
  | error f => simp
  | ok ls =>
    have flawless : (ls.zipIdx.flatMap fun l =>
        l.1.validate.errors.map fun e => s!"levels[{natText l.2}]: {e}") = [] ↔
        ∀ l ∈ ls, l.validate.valid = true := by
      rw [List.flatMap_eq_nil_iff]
      simp only [List.map_eq_nil_iff, ← Findings.valid_iff]
      have members : ∀ l, l ∈ ls ↔ l ∈ ls.zipIdx.map Prod.fst := by simp
      simp only [members, List.forall_mem_map]
    have filled : (if ls = [] then ["Level pack is empty"] else []) = [] ↔ ls ≠ [] := by
      cases ls <;> simp
    dsimp only
    simp only [List.isEmpty_iff, List.append_eq_nil_iff, flawless, filled, and_comm]
    split
    next sound =>
      constructor
      · intro same
        cases same
        exact ⟨rfl, sound⟩
      · rintro ⟨same, _⟩
        cases same
        rfl
    next flawed =>
      refine iff_of_false nofun fun ⟨same, sound⟩ => flawed ?_
      cases same
      exact sound

/-- The levels that a request brings, once they are loaded and checked. -/
def Creation.brought (c : Creation) : Except ErrorReport (Option (List AnyLevel)) :=
  (c.levels.map customPack).elim (.ok none) fun x => x.map some

theorem Creation.isOn_iff {c : Creation} {d : Domain} {pack : List d.Level} :
    c.IsOn d pack ↔ c.domain = d.name ∧
      ∃ levels, c.brought = .ok levels ∧ SessionTable.packFor d levels = .ok pack := by
  refine and_congr_right fun _ => ?_
  unfold brought
  cases c.levels with
  | none => simp [SessionTable.packFor, eq_comm]
  | some documents =>
    have fits : ∀ ls, SessionTable.packFor d (some ls) = .ok pack ↔ ls = pack.map (AnyLevel.mk d) :=
      fun _ => AnyLevel.mapM_ofDomain_eq_ok
    have filled : pack ≠ [] ↔ pack.map (AnyLevel.mk d) ≠ [] := not_congr List.map_eq_nil_iff.symm
    have valid : (∀ l ∈ pack, (d.validate l).valid = true) ↔
        ∀ l ∈ pack.map (AnyLevel.mk d), l.validate.valid = true := by
      rw [List.forall_mem_map]
      rfl
    simp only [Option.map_some, Option.elim_some]
    rw [filled, valid, and_left_comm, ← customPack_eq_ok]
    cases customPack documents with
    | error e => simp [Except.map]
    | ok ls => simp [Except.map, fits]

/-- A request has one pack at most. -/
theorem Creation.IsOn.length_eq {c : Creation} {d d' : Domain} {pack : List d.Level}
    {pack' : List d'.Level} (h : c.IsOn d pack) (h' : c.IsOn d' pack') :
    pack.length = pack'.length := by
  obtain ⟨named, levels, brought, fits⟩ := isOn_iff.mp h
  obtain ⟨named', levels', brought', fits'⟩ := isOn_iff.mp h'
  cases Domain.name_injective (named.symm.trans named')
  cases brought.symm.trans brought'
  cases fits.symm.trans fits'
  rfl

namespace State

variable (s : State) {c : Creation} {d : Domain} (now : Float)

end State

end Service

end PuzzleWorlds
