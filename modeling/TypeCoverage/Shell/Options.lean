/-!
# Options of commands

An option is a letter behind a dash; letters may stand together behind one dash.  The
options of a command are told by a text of its letters, where a colon follows each letter
that takes a value.  The value is the rest of the argument, or else the next one.
-/

namespace TypeCoverage.Shell.Options

/-- Why arguments cannot be taken as options. -/
inductive Fault where
  | unknown (letter : Char)
  | unknownWord (text : String)
  | missing (letter : Char)
  deriving DecidableEq, Repr

/-- The message of the shell for a fault. -/
def Fault.message : Fault → String
  | .unknown letter => "Illegal option -" ++ String.ofList [letter]
  | .unknownWord _ => "Illegal option --"
  | .missing letter => "No arg for -" ++ String.ofList [letter] ++ " option"

/-- The message of other programs for a fault. -/
def Fault.complaint : Fault → String
  | .unknown letter => "invalid option -- '" ++ String.ofList [letter] ++ "'"
  | .unknownWord text => "unrecognized option '" ++ text ++ "'"
  | .missing letter => "option requires an argument -- '" ++ String.ofList [letter] ++ "'"

/-- Options with their values and the other arguments. -/
abbrev Parsed : Type := List (Char × String) × List String

/-- Whether a letter takes a value, if it is one of the letters. -/
def takesValue? (c : Char) : List Char → Option Bool
  | [] => none
  | d :: ':' :: rest => if c = d then some true else takesValue? c rest
  | d :: rest => if c = d then some false else takesValue? c rest

/-- The options that stand together behind one dash, and the arguments after them. -/
def readCluster (letters : List Char) (args : List String) :
    List Char → Except Fault Parsed
  | [] => .ok ([], args)
  | c :: cs =>
    match takesValue? c letters with
    | none => .error (.unknown c)
    | some false => (readCluster letters args cs).map fun (more, args) => ((c, "") :: more, args)
    | some true =>
      match cs, args with
      | [], [] => .error (.missing c)
      | [], value :: args => .ok ([(c, value)], args)
      | _, _ => .ok ([(c, String.ofList cs)], args)

/-- The options in front of other arguments, `fuel` arguments at most. -/
def readFront (letters : List Char) : Nat → List String → Except Fault Parsed
  | 0, args => .ok ([], args)
  | fuel + 1, args =>
    match args with
    | [] => .ok ([], [])
    | first :: rest =>
      match first.toList with
      | ['-', '-'] => .ok ([], rest)
      | '-' :: c :: cs => do
        let (front, rest) ← readCluster letters rest (c :: cs)
        let (more, args) ← readFront letters fuel rest
        return (front ++ more, args)
      | _ => .ok ([], args)

/-- The options in front of other arguments. -/
def read (letters : String) (args : List String) : Except Fault Parsed :=
  readFront letters.toList (args.length + 1) args

/-- The options among other arguments, `fuel` arguments at most; `words` are the names of
options, and the letters that they stand for. -/
def readAmong (letters : List Char) (words : List (String × Char)) :
    Nat → List String → Except Fault Parsed
  | 0, args => .ok ([], args)
  | fuel + 1, args =>
    match args with
    | [] => .ok ([], [])
    | first :: rest =>
      match first.toList with
      | ['-', '-'] => .ok ([], rest)
      | '-' :: '-' :: name => do
        let word := name.takeWhile (· ≠ '=')
        match words.lookup (String.ofList word) with
        | none => .error (.unknownWord (String.ofList ('-' :: '-' :: word)))
        | some c =>
          let given := String.ofList (name.drop (word.length + 1))
          let (value, rest) := if takesValue? c letters = some true && word.length = name.length
            then (rest.headD "", rest.drop 1) else (given, rest)
          let (more, args) ← readAmong letters words fuel rest
          return ((c, value) :: more, args)
      | '-' :: c :: cs => do
        let (front, rest) ← readCluster letters rest (c :: cs)
        let (more, args) ← readAmong letters words fuel rest
        return (front ++ more, args)
      | _ => do
        let (options, args) ← readAmong letters words fuel rest
        return (options, first :: args)

/-- The options among other arguments. -/
def readAll (letters : String) (words : List (String × Char)) (args : List String) :
    Except Fault Parsed :=
  readAmong letters.toList words (args.length + 1) args

/-- Whether an option is given. -/
def has (options : List (Char × String)) (letter : Char) : Bool :=
  options.any (·.1 = letter)

/-- The value of an option, the last one that is given. -/
def value? (options : List (Char × String)) (letter : Char) : Option String :=
  (options.reverse.find? (·.1 = letter)).map (·.2)

end TypeCoverage.Shell.Options
