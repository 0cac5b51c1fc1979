/-!
Reading the arguments of a command line.

A command line consists of options of the program, the name of a command, and the
options and operands of the command. The arguments are read from left to right, and
the first one that settles the outcome counts: a request for help or for the
version, or an error.
-/
namespace InfraAudit.CommandLine

/-- An option. -/
structure OptionSpec where
  long : String
  short : Option Char
  /-- Which values it takes; a flag takes none. -/
  accepts : Option (String → Bool)
  /-- Whether it may be given more than once. -/
  repeats : Bool

/-- The operand of a command. -/
structure OperandSpec where
  accepts : String → Bool
  required : Bool

/-- A command. -/
structure CommandSpec where
  name : String
  options : List OptionSpec
  operand : Option OperandSpec

/-- Options and operands as they were given. Flags have the empty value. -/
structure Given where
  options : List (String × String)
  operands : List String
  deriving DecidableEq, Repr

/-- What settles the outcome before all arguments are read. -/
inductive Stop where
  | help
  | version
  | error
  deriving DecidableEq, Repr

/-- An option whose value is not checked yet, if it has one. -/
structure Pending where
  option : OptionSpec
  value : Option String

/-- The arguments as far as they are read. -/
structure State where
  given : Given
  pending : Option Pending

/-- The state before the first argument. -/
def State.start : State := ⟨⟨[], []⟩, none⟩

/-! ### Options -/

/-- Adds an option; one that does not repeat must be new. -/
def Given.add (g : Given) (o : OptionSpec) (value : String) : Except Stop Given :=
  if !o.repeats && (g.options.lookup o.long).isSome then .error .error
  else .ok { g with options := g.options ++ [(o.long, value)] }

/-- Checks the option whose value is not checked yet. -/
def State.settle (s : State) : Except Stop Given :=
  match s.pending with
  | none => .ok s.given
  | some ⟨_, none⟩ => .error .error
  | some ⟨o, some value⟩ =>
    if o.accepts.all (· value) then s.given.add o value else .error .error

/-- A flag, which must not have a value. -/
def State.addFlag (s : State) (o : OptionSpec) : Except Stop State := do
  let given ← (← s.settle).add o ""
  return ⟨given, none⟩

/-- An option with the value that stands in the same argument, if any does. -/
def State.addOption (s : State) (o : OptionSpec) (value : Option String) : Except Stop State := do
  return ⟨← s.settle, some ⟨o, value⟩⟩

/-- A request that settles the outcome. -/
def State.request (s : State) (r : Stop) : Except Stop State := do
  let _ ← s.settle
  .error r

/-- The options of a level of the command line. -/
structure Level where
  options : List OptionSpec
  /-- Whether the version can be asked for. -/
  hasVersion : Bool

/-- Reads an argument that starts with two hyphens. -/
def State.readLong (level : Level) (text : List Char) (s : State) : Except Stop State :=
  let name := String.ofList (text.takeWhile (· != '='))
  let value : Option String :=
    match text.dropWhile (· != '=') with
    | [] => none
    | _ :: value => some (String.ofList value)
  if name == "help" then (if value.isSome then .error .error else s.request .help)
  else if name == "version" && level.hasVersion then
    (if value.isSome then .error .error else s.request .version)
  else
    match level.options.find? (·.long == name) with
    | none => .error .error
    | some o =>
      if o.accepts.isSome then s.addOption o value
      else if value.isSome then .error .error
      else s.addFlag o

/-- Reads the letters after a single hyphen. The rest after an option that takes a
    value is its value. -/
def State.readShort (level : Level) : List Char → State → Except Stop State
  | [], s => .ok s
  | c :: rest, s =>
    if c = 'h' then s.request .help
    else if c = 'V' ∧ level.hasVersion then s.request .version
    else
      match level.options.find? (·.short == some c) with
      | none => .error .error
      | some o =>
        if o.accepts.isSome then
          match rest with
          | [] => s.addOption o none
          | '=' :: value => s.addOption o (some (String.ofList value))
          | value => s.addOption o (some (String.ofList value))
        else do
          let s ← s.addFlag o
          s.readShort level rest

/-- Whether an argument is an option rather than a value. -/
def isOption (arg : String) : Bool :=
  match arg.toList with
  | '-' :: _ :: _ => true
  | _ => false

/-- Whether the next argument is the value of an option. -/
def State.awaitsValue (s : State) : Bool := s.pending.any (·.value.isNone)

/-- Gives the option that awaits a value its value. -/
def State.give (s : State) (value : String) : State :=
  { s with pending := s.pending.map fun p => { p with value := some value } }

/-- Reads an argument that is an option. -/
def State.readOption (level : Level) (arg : String) (s : State) : Except Stop State :=
  match arg.toList with
  | '-' :: '-' :: text => s.readLong level text
  | _ :: text => s.readShort level text
  | [] => .error .error

/-! ### Commands -/

/-- Adds an operand. -/
def State.addOperand (operand : Option OperandSpec) (arg : String) (s : State) :
    Except Stop State := do
  let given ← s.settle
  match operand with
  | none => .error .error
  | some o =>
    if given.operands.isEmpty && o.accepts arg then
      return ⟨{ given with operands := [arg] }, none⟩
    else .error .error

/-- Reads the arguments of a command. After two hyphens there are operands only. -/
def readCommand (level : Level) (spec : CommandSpec) : (operandsOnly : Bool) → State →
    List String → Except Stop Given
  | _, s, [] => do
    let given ← s.settle
    if given.operands.isEmpty && spec.operand.any (·.required) then .error .error
    else return given
  | operandsOnly, s, arg :: rest => do
    if !operandsOnly && arg == "--" then readCommand level spec true s rest
    else
      let s ←
        if !operandsOnly && isOption arg then s.readOption level arg
        else if !operandsOnly && s.awaitsValue then .ok (s.give arg)
        else s.addOperand spec.operand arg
      readCommand level spec operandsOnly s rest

/-- What was given to the program, the name of the command, and what was given to the
    command. -/
structure CommandGiven where
  top : Given
  name : String
  sub : Given
  deriving DecidableEq, Repr

/-- Reads the names after a request for help by name: at most one, of a command. -/
def readHelp (commands : List CommandSpec) (names : List String) : Stop :=
  match names with
  | [] => .help
  | [name] => if name == "help" || commands.any (·.name == name) then .help else .error
  | _ => .error

/-- Reads the arguments of a program with options of its own, which its commands have
    as well, and commands. The last option before a command is checked after the
    command's arguments. -/
def readProgram (options : List OptionSpec) (commands : List CommandSpec) : State →
    List String → Except Stop CommandGiven
  | _, [] => .error .error
  | s, arg :: rest => do
    if arg == "--" then .error .error
    else if isOption arg then
      readProgram options commands (← s.readOption ⟨options, true⟩ arg) rest
    else if s.awaitsValue then readProgram options commands (s.give arg) rest
    else if arg == "help" then .error (readHelp commands rest)
    else
      match commands.find? (·.name == arg) with
      | none => .error .error
      | some spec =>
        let sub ← readCommand ⟨spec.options ++ options, false⟩ spec false .start rest
        return ⟨← s.settle, arg, sub⟩

end InfraAudit.CommandLine
