import QuotedText.CommandLine.Argument

/-!
# Reading arguments

The arguments of a command are switches and operands in any order. The value of a switch is
attached to it or is the next argument, unless that looks like a switch itself. Behind `--` all
arguments are operands. Arguments are read from left to right, and the first one that is wrong or
asks for help ends the reading (`readArguments`).
-/

namespace QuotedText.CommandLine

/-- Why arguments lead to no command. -/
inductive Stop where
  /-- They are wrong. -/
  | usage
  /-- They ask for help. -/
  | help
  /-- They ask for the version. -/
  | version
deriving DecidableEq, Repr

/-- Where an argument stands. -/
inductive Level where
  /-- Before the command. -/
  | root
  /-- Behind a command. -/
  | command (name : CommandName)
deriving DecidableEq, Repr

namespace Level

/-- The switches at a level. -/
def switches : Level → List Switch
  | root => [.config]
  | command name => name.switches

/-- Whether the version can be asked for at a level. -/
def knowsVersion : Level → Bool
  | root => true
  | command _ => false

end Level

/-- The form of an argument. -/
inductive ArgumentForm where
  /-- The mark behind which all arguments are operands. -/
  | separator
  /-- A long name, perhaps with a value attached. -/
  | long (name : Text) (value? : Option Text)
  /-- Letters behind one dash. -/
  | letters (letters : Text)
  | operand
deriving DecidableEq, Repr

/-- The form of an argument. A single dash is an operand. -/
def argumentForm : Text → ArgumentForm
  | ['-', '-'] => .separator
  | '-' :: '-' :: body =>
    let name := body.takeWhile (· != '=')
    match body.dropWhile (· != '=') with
    | [] => .long name none
    | _ :: value => .long name (some value)
  | '-' :: letter :: letters => .letters (letter :: letters)
  | _ => .operand

/-- What arguments say after one more switch. -/
inductive SwitchRead where
  /-- The switch is complete. -/
  | complete (arguments : Arguments)
  /-- The switch takes the next argument as its value. -/
  | awaits (switch : Switch) (arguments : Arguments)

/-- The outcome of taking something up, or a usage error. -/
def orUsage {α : Type} : Option α → Except Stop α
  | some value => .ok value
  | none => .error .usage

/-- Reads a switch that is given by its long name. -/
def readLong (level : Level) (arguments : Arguments) (name : Text) (value? : Option Text) :
    Except Stop SwitchRead :=
  if name = "help".toList then .error (if value?.isSome then .usage else .help)
  else if name = "version".toList ∧ level.knowsVersion then
    .error (if value?.isSome then .usage else .version)
  else
    match level.switches.find? (·.long == name), value? with
    | none, _ => .error .usage
    | some switch, some value => (orUsage (arguments.setValue? switch value)).map .complete
    | some switch, none =>
      if switch.takesValue then .ok (.awaits switch arguments)
      else (orUsage (arguments.turnOn? switch)).map .complete

/-- Reads switches that are given by their letters. The letters behind that of a switch with a
value are its value, with or without an equals sign. -/
def readLetters (level : Level) (arguments : Arguments) : Text → Except Stop SwitchRead
  | [] => .ok (.complete arguments)
  | letter :: more =>
    if letter = 'h' then .error .help
    else if letter = 'V' ∧ level.knowsVersion then .error .version
    else
      match level.switches.find? (·.letter? == some letter) with
      | none => .error .usage
      | some switch =>
        if switch.takesValue then
          match more with
          | [] => .ok (.awaits switch arguments)
          | '=' :: value | value =>
            (orUsage (arguments.setValue? switch value)).map .complete
        else
          match arguments.turnOn? switch with
          | some arguments => readLetters level arguments more
          | none => .error .usage

/-- Takes up an operand, unless there are as many as the command takes. -/
def readOperand (name : CommandName) (arguments : Arguments) (operand : Text) :
    Except Stop Arguments :=
  if arguments.operands.length < name.operandLimit then
    .ok { arguments with operands := arguments.operands ++ [operand] }
  else .error .usage

/-- Reads the arguments of a command. Before a command, reading ends with the first operand; the
arguments from there on are left over. -/
def readArguments (level : Level) (arguments : Arguments) :
    List Text → Except Stop (Arguments × List Text)
  | [] => .ok (arguments, [])
  | argument :: more =>
    let switchRead : Option (Except Stop SwitchRead) :=
      match argumentForm argument with
      | .long name value? => some (readLong level arguments name value?)
      | .letters letters => some (readLetters level arguments letters)
      | .separator | .operand => none
    match switchRead, level with
    | some (.error stop), _ => .error stop
    | some (.ok (.complete arguments)), _ => readArguments level arguments more
    | some (.ok (.awaits switch arguments)), _ =>
      match more with
      | [] => .error .usage
      | value :: rest =>
        if argumentForm value = .operand then
          match arguments.setValue? switch value with
          | some arguments => readArguments level arguments rest
          | none => .error .usage
        else .error .usage
    | none, .root =>
      if argumentForm argument = .operand then .ok (arguments, argument :: more)
      else .error .usage
    | none, .command name =>
      if argumentForm argument = .operand then
        match readOperand name arguments argument with
        | .ok arguments => readArguments level arguments more
        | .error stop => .error stop
      else (more.foldlM (readOperand name) arguments).map (·, [])

end QuotedText.CommandLine
