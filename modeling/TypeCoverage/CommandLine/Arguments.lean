/-!
# Arguments of the command line

There are three commands: `coverage` takes a file, `stop` and `config` take a root, which
may be left out.  Options may stand before, between and after the operands, short ones
may be joined, and `--` ends them.  Of options that contradict each other the last one
counts.  `Command.ofArguments?` reads a command; anything else is a usage error.
-/

namespace TypeCoverage.CommandLine

/-- What can be said with options. -/
structure Options where
  executable : Option String := none
  showUncovered : Option Bool := none
  onlyIfAppropriate : Option Bool := none
  json : Bool := false
  keepServer : Bool := false
  signs : Bool := true
  verbose : Bool := false
  deriving DecidableEq, Repr

/-- A command with its operand and options. -/
inductive Command where
  | coverage (file : String) (options : Options)
  | stop (root : String) (options : Options)
  | config (root : String) (options : Options)
  deriving DecidableEq, Repr

/-- What an option does: it changes the options, or it takes a value that does. -/
inductive Effect where
  | flag (change : Options → Options)
  | value (change : String → Options → Options)

/-- An option by its names. -/
structure Switch where
  names : List String
  effect : Effect

/-- The options for the signs in front of messages. -/
def signSwitches : List Switch :=
  [⟨["--emoji"], .flag fun o => { o with signs := true }⟩,
   ⟨["--no-emoji"], .flag fun o => { o with signs := false }⟩]

/-- The options of commands that call the checker. -/
def checkerSwitches : List Switch :=
  [⟨["--executable", "-e"], .value fun v o => { o with executable := some v }⟩,
   ⟨["--verbose", "-v"], .flag fun o => { o with verbose := true }⟩] ++ signSwitches

/-- The options of the command that measures a file. -/
def coverageSwitches : List Switch :=
  [⟨["--show-uncovered"], .flag fun o => { o with showUncovered := some true }⟩,
   ⟨["--hide-uncovered"], .flag fun o => { o with showUncovered := some false }⟩,
   ⟨["--only-if-appropriate"], .flag fun o => { o with onlyIfAppropriate := some true }⟩,
   ⟨["--always"], .flag fun o => { o with onlyIfAppropriate := some false }⟩,
   ⟨["--json"], .flag fun o => { o with json := true }⟩,
   ⟨["--keep-server"], .flag fun o => { o with keepServer := true }⟩] ++ checkerSwitches

/-- The option with a name. -/
def find? (switches : List Switch) (name : String) : Option Effect :=
  (switches.find? (·.names.contains name)).map (·.effect)

/-- Options and operands read so far; the operands stand last first. -/
structure Progress where
  options : Options := {}
  operands : List String := []

/-- The short options that are joined in one argument.  The answer also says which option
still takes the next argument as its value. -/
def readShort (switches : List Switch) (options : Options) :
    List Char → Option (Options × Option (String → Options → Options))
  | [] => some (options, none)
  | c :: cs =>
    match find? switches (String.ofList ['-', c]) with
    | none => none
    | some (.flag change) => readShort switches (change options) cs
    | some (.value change) =>
      match cs with
      | [] => some (options, some change)
      | value => some (change (String.ofList value) options, none)

/-- A long option, with the value that may stand after an equals sign. -/
def readLong (switches : List Switch) (options : Options) (arg : String) :
    Option (Options × Option (String → Options → Options)) :=
  let cs := arg.toList
  let name := String.ofList (cs.takeWhile (· ≠ '='))
  match find? switches name, cs.dropWhile (· ≠ '=') with
  | some (.flag change), [] => some (change options, none)
  | some (.value change), [] => some (options, some change)
  | some (.value change), _ :: value => some (change (String.ofList value) options, none)
  | _, _ => none

/-- Reads options and operands. -/
def readArguments (switches : List Switch) (p : Progress) : List String → Option Progress
  | [] => some p
  | arg :: rest =>
    if arg = "--" then some { p with operands := rest.reverse ++ p.operands }
    else
      let read := match arg.toList with
        | '-' :: '-' :: _ => some (readLong switches p.options arg)
        | '-' :: c :: cs => some (readShort switches p.options (c :: cs))
        | _ => none
      match read with
      | none => readArguments switches { p with operands := arg :: p.operands } rest
      | some none => none
      | some (some (options, none)) => readArguments switches { p with options := options } rest
      | some (some (options, some change)) =>
        match rest with
        | [] => none
        | value :: rest => readArguments switches { p with options := change value options } rest

/-- The operand of a command that may be left out. -/
def rootOf : List String → Option String
  | [] => some "."
  | [root] => some root
  | _ => none

/-- The command that begins with its name. -/
def Command.ofNamed? : List String → Option Command
  | "coverage" :: args =>
    (readArguments coverageSwitches {} args).bind fun p =>
      match p.operands with
      | [file] => some (.coverage file p.options)
      | _ => none
  | "stop" :: args =>
    (readArguments checkerSwitches {} args).bind fun p =>
      (rootOf p.operands).map (.stop · p.options)
  | "config" :: args =>
    (readArguments signSwitches {} args).bind fun p =>
      (rootOf p.operands).map (.config · p.options)
  | _ => none

/-- The command that some arguments give, if they give one.  The name of the command may
follow on `--`, as any operand may. -/
def Command.ofArguments? : List String → Option Command
  | "--" :: args => ofNamed? args
  | args => ofNamed? args

end TypeCoverage.CommandLine
