import PuzzleWorlds.Proofs.RecordedActions
import PuzzleWorlds.Program.Evaluate

/-! Faults that a run reports. What the commands of a world and the expressions of a program raise
is raised by the engine itself, unless a number is too long to be written, as long as names can be
keys and the hero can tell how far the enemies are. -/

namespace PuzzleWorlds

namespace Fault

/-- The fault is about a name: nothing of that name is there, or not with so many arguments. -/
def isNaming : Fault → Bool
  | tooManyArguments _ | missingArgument .. | notAQuery _ | unknownCommand ..
  | unknownCollection .. => true
  | _ => false

/-- A fault of the engine's own, or a text that cannot be written. -/
def Fair (f : Fault) : Prop := f.isOwn = true ∨ f = .misfit .unwritable

/-- A fair fault that refuses what a command was given, whatever its name is. -/
def Refusal (f : Fault) : Prop :=
  (f.isOwn = true ∧ f.isNaming = false) ∨ f = .misfit .unwritable

theorem Refusal.fair {f : Fault} (h : f.Refusal) : f.Fair := h.imp_left And.left

theorem Refusal.notNaming {f : Fault} (h : f.Refusal) : f.isNaming = false := by
  obtain ⟨_, plain⟩ | rfl := h
  · exact plain
  · rfl

end Fault

/-- Every fault that the code raises satisfies `P`. -/
def Raises (P : Fault → Prop) (x : Except Fault α) : Prop := ∀ f, x = .error f → P f

namespace Raises

variable {P Q : Fault → Prop}

theorem ok (a : α) : Raises P (.ok a : Except Fault α) := nofun

theorem of_fault {f : Fault} (h : P f) : Raises P (.error f : Except Fault α) := by
  intro g raised
  cases raised
  exact h

theorem bind {x : Except Fault α} {k : α → Except Fault β} (first : Raises P x)
    (second : ∀ a, x = .ok a → Raises P (k a)) : Raises P (x >>= k) := by
  cases x with
  | error f =>
    intro g raised
    cases raised
    exact first f rfl
  | ok a => exact second a rfl

theorem map {x : Except Fault α} (h : Raises P x) (k : α → β) : Raises P (x.map k) := by
  cases x with
  | error f =>
    intro g raised
    cases raised
    exact h f rfl
  | ok a => exact ok _

theorem mono {x : Except Fault α} (h : Raises P x) (weaker : ∀ f, P f → Q f) : Raises Q x :=
  fun f raised => weaker f (h f raised)

end Raises

/-- Code that raises fair faults only. -/
abbrev Fair (x : Except Fault α) : Prop := Raises Fault.Fair x

theorem Fair.error {f : Fault} (own : f.isOwn = true) : Fair (.error f : Except Fault α) :=
  .of_fault (.inl own)

theorem Fair.unwritable : Fair (.error (.misfit .unwritable) : Except Fault α) :=
  .of_fault (.inr rfl)

/-- Code that only refuses what it was given. -/
abbrev Refuses (x : Except Fault α) : Prop := Raises Fault.Refusal x

namespace Refuses

theorem fair {x : Except Fault α} (h : Refuses x) : Fair x := h.mono fun _ => Fault.Refusal.fair

theorem error {f : Fault} (own : f.isOwn = true) (plain : f.isNaming = false) :
    Refuses (.error f : Except Fault α) := .of_fault (.inl ⟨own, plain⟩)

theorem unwritable : Refuses (.error (.misfit .unwritable) : Except Fault α) :=
  .of_fault (.inr rfl)

theorem asInt (what : String) (v : Value) : Refuses (asInt what v) := by
  unfold PuzzleWorlds.asInt
  cases v.asInt? with
  | none => exact error rfl rfl
  | some n => exact .ok n

theorem asNumber (what : String) (v : Value) : Refuses (asNumber what v) := by
  unfold PuzzleWorlds.asNumber
  cases v.asNumber? with
  | none => exact error rfl rfl
  | some n => exact .ok n

theorem asText (v : Value) : Refuses (asText v) := by
  unfold PuzzleWorlds.asText
  cases v.writable with
  | false => exact unwritable
  | true => exact .ok _

theorem waitAction (seconds : Value) : Refuses (waitAction seconds) := by
  refine (asNumber _ _).bind fun s _ => ?_
  cases s.isNegative with
  | false => exact .ok _
  | true => exact error rfl rfl

end Refuses

theorem Fair.bindArguments (c : CommandSpec) (name : String) (args : List Value) :
    Fair (c.bind name args) := by
  unfold CommandSpec.bind
  split
  next => exact error rfl
  next =>
    split
    next => exact error rfl
    next => exact .ok _

namespace Domain

/-- Every enemy is near enough for its distance to be a float. -/
def Near : (d : Domain) → d.Shadow → Prop
  | combat, s => ∀ e ∈ s.enemies, ∃ x, Combat.Shadow.distanceTo s e = .ok x
  | _, _ => True

end Domain

namespace Building

theorem refuses_resolveColor (v : Value) : Refuses (resolveColor v) := by
  unfold resolveColor
  dsimp only
  split
  next => exact .ok _
  next =>
    split
    next => exact .ok _
    next => exact Refuses.error rfl rfl

end Building

namespace Sorting

theorem Shadow.refuses_place (s : Shadow) (what : String) (v : Value) :
    Refuses (s.place what v) := by
  refine (Refuses.asInt _ _).bind fun i _ => ?_
  split
  next => exact .ok _
  next => exact Refuses.error rfl rfl

end Sorting

namespace Combat

theorem Shadow.refuses_target (s : Shadow) (v : Value) : Refuses (s.target v) := by
  unfold target
  dsimp only
  split
  next => exact .ok _
  next => exact Refuses.error rfl rfl

theorem Shadow.target_mem {s : Shadow} {v : Value} {e : Fighter} (h : s.target v = .ok e) :
    e ∈ s.enemies := by
  unfold target at h
  dsimp only at h
  split at h
  next found =>
    cases h
    split at found
    next => cases found
    next => exact List.mem_of_find?_eq_some found
  next => cases h

theorem Command.refuses_coordinate (e : Fighter) (axis : Value) :
    Refuses (coordinate e axis) := by
  unfold coordinate
  split
  next => exact Refuses.unwritable
  next =>
    split
    next => exact .ok _
    next => exact .ok _
    next => exact Refuses.error rfl rfl

theorem Command.refuses_attacked (s : Shadow) (v : Value) : Refuses (attacked s v) := by
  unfold attacked
  split
  next => exact .ok _
  next => exact Refuses.error rfl rfl
  next => exact .ok _

end Combat

namespace Music

theorem refuses_normalizeNote (v : Value) : Refuses (normalizeNote v) := by
  unfold normalizeNote
  dsimp only
  split
  next => exact .ok _
  next =>
    split
    next => exact .ok _
    next => exact Refuses.error rfl rfl

end Music

namespace Pixel

theorem refuses_colorCode (v : Value) : Refuses (colorCode v) := by
  unfold colorCode
  split
  next => exact .ok _
  next => exact Refuses.error rfl rfl

end Pixel

namespace Domain

variable {d : Domain}

/-- What a command can fail with: a refusal, or an enemy whose distance is beyond the floats. -/
def Fails : (d : Domain) → d.Shadow → Fault → Prop
  | combat, s, f => f.Refusal ∨ ∃ e ∈ s.enemies, Combat.Shadow.distanceTo s e = .error f
  | _, _, f => f.Refusal

theorem call_fails (s : d.Shadow) (c : d.Command) (a : Arguments) :
    Raises (d.Fails s) (Domain.call s c a) := by
  cases d with
  | robot =>
    cases c with
    | wait => exact (Refuses.waitAction _).map _
    | collectStar | moveForward | turnLeft | turnRight => exact .ok _
  | building =>
    cases c with
    | goto =>
      exact (Refuses.asInt _ _).bind fun _ _ => (Refuses.asInt _ _).bind fun _ _ =>
        (Refuses.asInt _ _).bind fun _ _ => .ok _
    | moveX | moveY | moveZ => exact (Refuses.asInt _ _).bind fun _ _ => .ok _
    | placeBlock | removeBlock => exact .ok _
    | setColor => exact (Building.refuses_resolveColor _).bind fun _ _ => .ok _
  | sorting =>
    cases c with
    | get => exact (Sorting.Shadow.refuses_place s _ _).bind fun _ _ => .ok _
    | length | view => exact .ok _
    | swap =>
      exact (Sorting.Shadow.refuses_place s _ _).bind fun _ _ =>
        (Sorting.Shadow.refuses_place s _ _).bind fun _ _ => .ok _
  | combat =>
    have target (v : Value) : Raises (combat.Fails s) (Combat.Shadow.target s v) :=
      (Combat.Shadow.refuses_target s v).mono fun _ => .inl
    have measured {v : Value} {e : Combat.Fighter} (found : Combat.Shadow.target s v = .ok e) :
        Raises (combat.Fails s) (Combat.Shadow.distanceTo s e) :=
      fun f failed => .inr ⟨e, Combat.Shadow.target_mem found, failed⟩
    cases c with
    | attack =>
      exact ((Combat.Command.refuses_attacked s _).mono fun _ => .inl).bind fun _ _ =>
        (target _).bind fun _ _ => .ok _
    | distanceTo | inRange =>
      exact (target _).bind fun e found => (measured found).bind fun _ _ => .ok _
    | getHp | selectTarget => exact (target _).bind fun _ _ => .ok _
    | getPosition =>
      exact (target _).bind fun e _ =>
        ((Combat.Command.refuses_coordinate e _).mono fun _ => .inl).bind fun _ _ => .ok _
  | music =>
    cases c with
    | playNote => exact (Music.refuses_normalizeNote _).bind fun _ _ => .ok _
    | rest =>
      refine (Refuses.asNumber _ _).bind fun beats _ => ?_
      cases beats.isNotPositive with
      | false => exact .ok _
      | true => exact Refuses.error rfl rfl
  | sprite =>
    cases c with
    | jump => exact .ok _
    | moveDown | moveLeft | moveRight | moveUp | rotate =>
      exact (Refuses.asNumber _ _).bind fun _ _ => .ok _
    | say => exact (Refuses.asText _).bind fun _ _ => .ok _
    | scale =>
      refine (Refuses.asNumber _ _).bind fun percent _ => ?_
      cases percent.isNotPositive with
      | false => exact .ok _
      | true => exact Refuses.error rfl rfl
    | wait => exact (Refuses.waitAction _).bind fun _ _ => .ok _
  | pixel =>
    cases c with
    | draw | moveDown | moveRight => exact .ok _
    | setColor => exact (Pixel.refuses_colorCode _).bind fun _ _ => .ok _
  | math =>
    cases c with
    | printValue => exact (Refuses.asText _).bind fun _ _ => .ok _

/-- Where everyone is near, a command can only refuse what it was given. -/
theorem fair_call {s : d.Shadow} (near : d.Near s) (c : d.Command) (a : Arguments) :
    Fair (Domain.call s c a) := by
  refine (call_fails s c a).mono fun f failed => ?_
  cases d with
  | robot | building | sorting | music | sprite | pixel | math => exact Fault.Refusal.fair failed
  | combat =>
    obtain refusal | ⟨e, member, failed⟩ := failed
    · exact refusal.fair
    · obtain ⟨x, measured⟩ := near e member
      cases measured.symm.trans failed

/-- No command changes where anyone stands in the arena. -/
theorem near_call {s s' : d.Shadow} (near : d.Near s) {c : d.Command} {a : Arguments} {b : Action}
    (h : Domain.call s c a = .ok (.acts s' b)) : d.Near s' := by
  cases d with
  | robot | building | sorting | music | sprite | pixel | math => trivial
  | combat =>
    cases c with
    | attack =>
      obtain ⟨v, _, h⟩ := bind_eq_ok.mp h
      obtain ⟨e, _, h⟩ := bind_eq_ok.mp h
      cases h
      exact near
    | selectTarget =>
      obtain ⟨e, _, h⟩ := bind_eq_ok.mp h
      cases h
      exact near
    | distanceTo | inRange =>
      obtain ⟨e, _, h⟩ := bind_eq_ok.mp h
      obtain ⟨x, _, h⟩ := bind_eq_ok.mp h
      cases h
    | getHp =>
      obtain ⟨e, _, h⟩ := bind_eq_ok.mp h
      cases h
    | getPosition =>
      obtain ⟨e, _, h⟩ := bind_eq_ok.mp h
      obtain ⟨x, _, h⟩ := bind_eq_ok.mp h
      cases h

end Domain

namespace Registry

variable {d : Domain}

theorem fair_respond {r : Registry d} (near : d.Near r.shadow) (name : String)
    (args : List Value) : Fair (r.respond name args) := by
  unfold respond
  split
  next => exact Fair.error rfl
  next c _ => exact (Fair.bindArguments _ _ _).bind fun a _ => Domain.fair_call near c a

theorem fair_invoke {r : Registry d} (near : d.Near r.shadow) (c : Invocation) :
    Fair (r.invoke c.name c.args).1 ∧ d.Near (r.invoke c.name c.args).2.shadow := by
  have move := r.invokes c
  generalize (r.invoke c.name c.args).1 = x, (r.invoke c.name c.args).2 = r' at move
  have moved {s : d.Shadow} {b : Action} (h : r.respond c.name c.args = .ok (.acts s b)) :
      d.Near s := by
    obtain ⟨k, a, _, _, called⟩ := respond_ok_iff.mp h
    exact Domain.near_call near called
  cases move with
  | refuses refused =>
    refine ⟨?_, near⟩
    intro g raised
    cases raised
    exact fair_respond near _ _ _ refused
  | answers => exact ⟨.ok _, near⟩
  | acts acted => exact ⟨.ok _, moved acted⟩
  | exhausts acted => exact ⟨Fair.error rfl, moved acted⟩

end Registry

namespace Value

/-- Whatever the operands are, they are let through or refused with a message. -/
theorem refuses_checkOperands (op : Operator) (a b : Value) : Refuses (checkOperands op a b) := by
  unfold checkOperands
  dsimp only
  split
  case' h_1 | h_2 =>
    cases op with
    | add => exact .ok _
    | mul =>
      dsimp only
      repeat' split
      all_goals first | exact .ok _ | exact Refuses.error rfl rfl
    | sub | div | mod => exact Refuses.error rfl rfl
  next =>
    repeat' split
    all_goals first | exact .ok _ | exact Refuses.error rfl rfl

theorem refuses_checkResult (v : Value) : Refuses v.checkResult := by
  unfold checkResult
  split
  next =>
    split
    next => exact Refuses.error rfl rfl
    next => exact .ok _
  next =>
    split
    next => exact Refuses.error rfl rfl
    next => exact .ok _
  next => exact .ok _

theorem refuses_compute (op : Operator) (a b : Value) : Refuses (compute op a b) := by
  refine (refuses_checkOperands _ _ _).bind fun _ _ => ?_
  split
  next => exact Refuses.error rfl rfl
  next => exact Refuses.error rfl rfl
  next => exact Refuses.error rfl rfl
  next v _ => exact (refuses_checkResult v).bind fun _ _ => .ok _

theorem refuses_contrast (c : Comparison) (a b : Value) : Refuses (contrast c a b) := by
  unfold contrast
  dsimp only
  split
  next => exact .ok _
  next => exact Refuses.error rfl rfl

end Value

namespace Expr

variable {d : Domain} {P : Fault → Prop} {r : Registry d}

mutual

/-- What the names and the queries of an expression fail with satisfies `P`. -/
def Asks (P : Fault → Prop) (r : Registry d) : Expr → Prop
  | literal _ | unknown _ => True
  | var name => ∀ m, name.keyed = .error m → P (.misfit m)
  | binary _ a b | compare _ a b | logic _ a b => a.Asks P r ∧ b.Asks P r
  | not a => a.Asks P r
  | query name args =>
    (d.isQuery name = false → P (.notAQuery name)) ∧
      (∀ vals : List Value, vals.length = args.length → Raises P (r.invoke name vals).1) ∧
      AllAsk P r args
  | field target _ => target.Asks P r

def AllAsk (P : Fault → Prop) (r : Registry d) : List Expr → Prop
  | [] => True
  | e :: rest => e.Asks P r ∧ AllAsk P r rest

end

theorem length_evaluateAll {vs : Variables} {es : List Expr} {vals : List Value}
    (h : evaluateAll r vs es = .ok vals) : vals.length = es.length := by
  induction es generalizing vals with
  | nil =>
    rw [evaluateAll] at h
    cases h
    rfl
  | cons e rest ih =>
    rw [evaluateAll] at h
    obtain ⟨v, _, h⟩ := bind_eq_ok.mp h
    obtain ⟨others, evaluated, h⟩ := bind_eq_ok.mp h
    cases h
    exact congrArg (· + 1) (ih evaluated)

mutual

/-- Besides what its names and queries fail with, an expression only refuses its operands. -/
theorem raises_evaluate (refusal : ∀ f : Fault, f.Refusal → P f) (vs : Variables) :
    (e : Expr) → e.Asks P r → Raises P (e.evaluate r vs)
  | literal v, _ => by
    rw [evaluate]
    exact .ok v
  | var name, asks => by
    rw [evaluate]
    rw [Asks] at asks
    cases keyed : name.keyed with
    | error m => exact .of_fault (asks m keyed)
    | ok =>
      dsimp only
      split
      next => exact .ok _
      next =>
        cases name.writable with
        | true => exact (Refuses.error rfl rfl).mono refusal
        | false => exact Refuses.unwritable.mono refusal
  | binary op a b, asks => by
    rw [evaluate]
    rw [Asks] at asks
    split
    next => exact (Refuses.error rfl rfl).mono refusal
    next =>
      exact (raises_evaluate refusal vs a asks.1).bind fun _ _ =>
        (raises_evaluate refusal vs b asks.2).bind fun _ _ =>
          (Value.refuses_compute _ _ _).mono refusal
  | compare op a b, asks => by
    rw [evaluate]
    rw [Asks] at asks
    split
    next => exact (Refuses.error rfl rfl).mono refusal
    next =>
      exact (raises_evaluate refusal vs a asks.1).bind fun _ _ =>
        (raises_evaluate refusal vs b asks.2).bind fun _ _ =>
          (Value.refuses_contrast _ _ _).mono refusal
  | logic op a b, asks => by
    rw [evaluate]
    rw [Asks] at asks
    refine (raises_evaluate refusal vs a asks.1).bind fun v _ => ?_
    dsimp only
    split
    next => exact .ok _
    next => exact (raises_evaluate refusal vs b asks.2).bind fun _ _ => .ok _
  | not a, asks => by
    rw [evaluate]
    rw [Asks] at asks
    exact (raises_evaluate refusal vs a asks).bind fun _ _ => .ok _
  | query name args, asks => by
    rw [evaluate]
    rw [Asks] at asks
    obtain ⟨notAQuery, invoked, inner⟩ := asks
    cases known : d.isQuery name with
    | false => exact .of_fault (notAQuery known)
    | true =>
      exact (raises_evaluateAll refusal vs args inner).bind fun vals evaluated =>
        invoked vals (length_evaluateAll evaluated)
  | field target name, asks => by
    rw [evaluate]
    rw [Asks] at asks
    refine (raises_evaluate refusal vs target asks).bind fun v _ => ?_
    split
    next => exact .ok _
    next => exact (Refuses.error rfl rfl).mono refusal
  | unknown kind, _ => by
    rw [evaluate]
    exact (Refuses.error rfl rfl).mono refusal

theorem raises_evaluateAll (refusal : ∀ f : Fault, f.Refusal → P f) (vs : Variables) :
    (es : List Expr) → AllAsk P r es → Raises P (evaluateAll r vs es)
  | [], _ => by
    rw [evaluateAll]
    exact .ok []
  | e :: rest, asks => by
    rw [evaluateAll]
    rw [AllAsk] at asks
    exact (raises_evaluate refusal vs e asks.1).bind fun _ _ =>
      (raises_evaluateAll refusal vs rest asks.2).bind fun _ _ => .ok _

end

mutual

/-- Every variable has a name that can be a key. -/
def Keyed : Expr → Prop
  | literal _ | unknown _ => True
  | var name => name.keyed = .ok ()
  | binary _ a b | compare _ a b | logic _ a b => a.Keyed ∧ b.Keyed
  | not a => a.Keyed
  | query _ args => AllKeyed args
  | field target _ => target.Keyed

def AllKeyed : List Expr → Prop
  | [] => True
  | e :: rest => e.Keyed ∧ AllKeyed rest

end

mutual

theorem Keyed.asks (near : d.Near r.shadow) : (e : Expr) → e.Keyed → e.Asks Fault.Fair r
  | literal _, _ | unknown _, _ => by
    rw [Asks]
    trivial
  | var name, keyed => by
    rw [Asks]
    rw [Keyed] at keyed
    intro m failed
    cases keyed.symm.trans failed
  | binary _ a b, keyed | compare _ a b, keyed | logic _ a b, keyed => by
    rw [Asks]
    rw [Keyed] at keyed
    exact ⟨Keyed.asks near a keyed.1, Keyed.asks near b keyed.2⟩
  | not a, keyed | field a _, keyed => by
    rw [Asks]
    rw [Keyed] at keyed
    exact Keyed.asks near a keyed
  | query name args, keyed => by
    rw [Asks]
    rw [Keyed] at keyed
    exact ⟨fun _ => .inl rfl, fun vals _ => (Registry.fair_invoke near ⟨name, vals⟩).1,
      AllKeyed.asks near args keyed⟩

theorem AllKeyed.asks (near : d.Near r.shadow) :
    (es : List Expr) → AllKeyed es → AllAsk Fault.Fair r es
  | [], _ => by
    rw [AllAsk]
    trivial
  | e :: rest, keyed => by
    rw [AllAsk]
    rw [AllKeyed] at keyed
    exact ⟨Keyed.asks near e keyed.1, AllKeyed.asks near rest keyed.2⟩

end

/-- The value of an expression, or a fault that can be reported. -/
theorem fair_evaluate (near : d.Near r.shadow) (vs : Variables) (e : Expr) (keyed : e.Keyed) :
    Fair (e.evaluate r vs) :=
  raises_evaluate (fun _ => Fault.Refusal.fair) vs e (Keyed.asks near e keyed)

theorem fair_evaluateAll (near : d.Near r.shadow) (vs : Variables) (es : List Expr)
    (keyed : AllKeyed es) : Fair (evaluateAll r vs es) :=
  raises_evaluateAll (fun _ => Fault.Refusal.fair) vs es (AllKeyed.asks near es keyed)

end Expr

end PuzzleWorlds
