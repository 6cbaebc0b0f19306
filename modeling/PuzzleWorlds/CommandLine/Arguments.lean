/-! Arguments of the command line. Options may stand between the other arguments and may be cut
short as long as they are not ambiguous; after two dashes nothing is an option. -/

namespace PuzzleWorlds.CommandLine

inductive Command where
  | levels (domain : Option String)
  | validate (file : String)
  | run (level program : String) (fast : Bool)
deriving DecidableEq, Repr

/-- Why there is no command to carry out. -/
inductive Stop where
  | help
  | noCommand
  | misused
deriving DecidableEq, Repr

/-- An option of the command line; some take a value. -/
inductive Flag where
  | help | logLevel | fast
deriving DecidableEq, Repr

namespace Flag

def names : Flag → List String
  | help => ["-h", "--help"]
  | logLevel => ["--log-level"]
  | fast => ["--fast"]

def takesValue : Flag → Bool
  | logLevel => true
  | help | fast => false

end Flag

/-- What an argument is on its face. -/
inductive Shape where
  | plain
  | dashes
  | flag (f : Flag) (value : Option String)
  | unknown
deriving DecidableEq, Repr

def isNegativeNumber (cs : List Char) : Bool :=
  match cs with
  | '-' :: rest =>
    let fraction := (rest.dropWhile Char.isDigit).drop 1
    !rest.isEmpty && (rest.all Char.isDigit ||
      ((rest.dropWhile Char.isDigit).head? == some '.' && !fraction.isEmpty &&
        fraction.all Char.isDigit))
  | _ => false

/-- The flag that is meant by a name, which may be the beginning of a long one. -/
def flagNamed? (flags : List Flag) (name : String) : Option Flag :=
  match flags.find? fun f => f.names.contains name with
  | some f => some f
  | none =>
    if !name.startsWith "--" then none
    else match flags.filter fun f => f.names.any fun n => n.startsWith name with
      | [f] => some f
      | _ => none

def shape (flags : List Flag) (arg : String) : Shape :=
  let cs := arg.toList
  if arg == "--" then .dashes
  else if cs.head? != some '-' || cs.length == 1 then .plain
  else
    let name := String.ofList (cs.takeWhile (· != '='))
    let value :=
      if cs.contains '=' then some (String.ofList ((cs.dropWhile (· != '=')).drop 1)) else none
    match flagNamed? flags name with
    | some f => .flag f value
    | none => if isNegativeNumber cs || cs.contains ' ' then .plain else .unknown

/-- The arguments of a command in order, and whether `--fast` is among its flags. -/
def sort (flags : List Flag) : List String → Except Stop (List String × Bool)
  | [] => .ok ([], false)
  | arg :: rest =>
    match shape flags arg with
    | .dashes => .ok (rest, false)
    | .plain => (sort flags rest).map fun x => (arg :: x.1, x.2)
    | .flag .help none => .error .help
    | .flag .fast none => (sort flags rest).map fun x => (x.1, true)
    | _ => .error .misused

def ofCommand (name : String) (args : List String) : Except Stop Command := do
  match name with
  | "levels" => match ← sort [.help] args with
    | ([], _) => return .levels none
    | ([d], _) => return .levels (some d)
    | _ => throw .misused
  | "validate" => match ← sort [.help] args with
    | ([file], _) => return .validate file
    | _ => throw .misused
  | "run" => match ← sort [.help, .fast] args with
    | ([level, program], fast) => return .run level program fast
    | _ => throw .misused
  | _ => throw .misused

/-- The command in the arguments of the program. -/
def parse : List String → Except Stop Command
  | [] => .error .noCommand
  | arg :: rest =>
    match shape [.help, .logLevel] arg with
    | .plain => ofCommand arg rest
    | .flag .help none => .error .help
    | .flag .logLevel (some _) => parse rest
    | .flag .logLevel none => match rest with
      | value :: rest =>
        if shape [.help, .logLevel] value == .plain then parse rest else .error .misused
      | [] => .error .misused
    | _ => .error .misused

end PuzzleWorlds.CommandLine
