import TypeCoverage.Shell.Builtin.Variables

/-!
# Commands for parameters and options

`set` gives the shell options and parameters, `shift` drops parameters, and `getopts` takes
one option after another from a list of arguments.
-/

namespace TypeCoverage.Shell.Builtin

open Decimal
open Action (say complain setStatus warn fail assign number options)

/-- The names of the options with their letters. -/
def optionNames : List (String × Char) :=
  [("errexit", 'e'), ("noglob", 'f'), ("ignoreeof", 'I'), ("interactive", 'i'), ("monitor", 'm'),
   ("noexec", 'n'), ("stdin", 's'), ("xtrace", 'x'), ("verbose", 'v'), ("vi", 'V'),
   ("emacs", 'E'), ("noclobber", 'C'), ("allexport", 'a'), ("notify", 'b'), ("nounset", 'u'),
   ("privileged", 'p'), ("nolog", 'l'), ("debug", 'd')]

/-- The letters that options are set by. -/
def optionLetters : List Char :=
  (optionNames.map (·.2)).filter fun c => c ≠ 'l' && c ≠ 'd'

/-- The letters of the options that are set. -/
def lettersOf (m : Machine) : String :=
  String.ofList ((optionLetters.filter m.has).reverse)

/-- Sets an option or takes it back. -/
def putOption (isSet : Bool) (letter : Char) : Action Unit := do
  if letter = 'm' && isSet then warn "can't access tty; job control turned off"
  else
    modify fun m =>
      let others := m.options.filter (· ≠ letter)
      { m with options := if isSet then letter :: others else others }

/-- Writes which options are set, or the commands that set them so. -/
def showOptions (asCommands : Bool) : Action Unit := do
  let m ← get
  let line (name : String) (isSet : Bool) : String :=
    if asCommands then "set " ++ (if isSet then "-o " else "+o ") ++ name ++ "\n"
    else name ++ String.ofList (List.replicate (16 - name.length) ' ')
      ++ (if isSet then "on\n" else "off\n")
  say ((if asCommands then "" else "Current option settings\n")
    ++ String.join (optionNames.map fun (name, letter) => line name (m.has letter)))

/-- Sets options by their letters; a letter `o` takes the name of an option from the
arguments.  With `isStart` the letter `c` is remembered, too. -/
def putLetters (isStart isSet : Bool) : List Char → List String → Action (List String)
  | [], args => return args
  | c :: cs, args => do
    if isStart && c = 'c' then
      modify fun m => { m with options := 'c' :: m.options }
      putLetters isStart isSet cs args
    else if isStart && c = 'l' then putLetters isStart isSet cs args
    else if c = 'o' then
      match args with
      | [] =>
        showOptions !isSet
        putLetters isStart isSet cs []
      | name :: args =>
        match optionNames.lookup name with
        | some letter =>
          putOption isSet letter
          putLetters isStart isSet cs args
        | none => fail ("Illegal option -o " ++ name)
    else if optionLetters.contains c then
      putOption isSet c
      putLetters isStart isSet cs args
    else fail ("Illegal option -" ++ String.ofList [c])

/-- Sets the options in front of the arguments, `fuel` of them at most.  The answer is the
arguments after them, and whether they end with a double dash. -/
def putOptions (isStart : Bool) : Nat → List String → Action (List String × Bool)
  | 0, args => return (args, false)
  | fuel + 1, args => do
    match args with
    | [] => return ([], false)
    | first :: rest =>
      match first.toList with
      | ['-'] =>
        if !isStart then
          putOption false 'x'
          putOption false 'v'
        return (rest, false)
      | ['-', '-'] => return (rest, true)
      | '-' :: letters => putOptions isStart fuel (← putLetters isStart true letters rest)
      | '+' :: letters => putOptions isStart fuel (← putLetters isStart false letters rest)
      | _ => return (args, false)

/-- Sets the parameters. -/
def setParameters (words : List String) : Action Unit :=
  modify fun m => { m with parameters := words, optionIndex := 1, optionOffset := 0 }

/-- Sets options and parameters, or writes the variables. -/
def setAll (args : List String) : Action Unit := do
  if args.isEmpty then showVariables "" (·.value?.isSome)
  else
    let (words, isEnded) ← putOptions false (args.length + 1) args
    if isEnded || !words.isEmpty then setParameters words
  setStatus 0

/-- Drops parameters from the front. -/
def shift (args : List String) : Action Unit := do
  let n ← match args with
    | [] => pure 1
    | text :: _ => number text
  let m ← get
  if m.parameters.length < n then fail "can't shift that many"
  else
    setParameters (m.parameters.drop n)
    setStatus 0

/-- The argument of which options are taken, and the letters in it that are left. -/
def optionRest (m : Machine) (args : List String) : Nat × List Char :=
  let before := ((args[m.optionIndex - 2]?).getD "").toList
  let letters := if m.optionIndex ≤ 1 || m.optionOffset = 0 then []
    else before.drop m.optionOffset
  (m.optionIndex, letters)

/-- Takes the next option from arguments. -/
def takeOption (spec name : String) (args : List String) : Action Unit := do
  let m ← get
  let isSilent := spec.startsWith ":"
  let finish (index offset : Nat) (letter : Char) (value? : Option String) (status : Nat) :
      Action Unit := do
    match value? with
    | some value => assign "OPTARG" value
    | none => modify (·.removeVariable "OPTARG")
    assign "OPTIND" (numeral index)
    checkName name
    assign name (String.ofList [letter])
    modify fun m => { m with optionIndex := index, optionOffset := offset }
    setStatus status
  let finishAll (index : Nat) : Action Unit := do
    assign "OPTIND" (numeral index)
    checkName name
    assign name "?"
    modify fun m => { m with optionIndex := index, optionOffset := 0 }
    setStatus 1
  let (index, letters) := optionRest m args
  let next? : Option (Nat × Nat × List Char) ←
    if !letters.isEmpty then
      pure (some (index, ((args[index - 2]?).getD "").length - letters.length, letters))
    else
      match ((args[index - 1]?).getD "").toList with
      | ['-', '-'] => do
        finishAll (index + 1)
        pure none
      | '-' :: c :: cs => pure (some (index + 1, 1, c :: cs))
      | _ => do
        finishAll index
        pure none
  match next? with
  | none => return
  | some (_, _, []) => return
  | some (index, offset, c :: cs) =>
    let offset := if cs.isEmpty then 0 else offset + 1
    match Options.takesValue? c (if isSilent then spec.toList.drop 1 else spec.toList) with
    | none =>
      if !isSilent then complain ("Illegal option -" ++ String.ofList [c])
      finish index offset '?' (if isSilent then some (String.ofList [c]) else none) 0
    | some false => finish index offset c (some "") 0
    | some true =>
      match cs, args[index - 1]? with
      | [], none =>
        if isSilent then finish index 0 ':' (some (String.ofList [c])) 0
        else
          complain ("No arg for -" ++ String.ofList [c] ++ " option")
          finish index 0 '?' none 0
      | [], some value => finish (index + 1) 0 c (some value) 0
      | _, _ => finish index 0 c (some (String.ofList cs)) 0

/-- Takes the next option from its arguments, or from the parameters. -/
def getopts (args : List String) : Action Unit := do
  match args with
  | spec :: name :: given =>
    let m ← get
    let args := if given.isEmpty then m.parameters else given
    if args.length + 1 < m.optionIndex then
      modify fun m => { m with optionIndex := 1, optionOffset := 0 }
    takeOption spec name args
  | _ => fail "Usage: getopts optstring var [arg...]"

end TypeCoverage.Shell.Builtin
