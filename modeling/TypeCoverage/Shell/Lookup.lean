import TypeCoverage.Shell.Program
import TypeCoverage.Shell.Redirection

/-!
# What a command line stands for

An `Invocation` is a command line without the words that only say how its command is looked
up.  The arguments of some commands may be assignments, and some read commands from files.
-/

namespace TypeCoverage.Shell

open Action (fail)

/-- A command line without the words that only say how its command is looked up. -/
structure Invocation where
  name : String
  args : List String
  /-- Whether a function may have the name. -/
  allowsFunction : Bool := true
  /-- Whether the usual programs are meant. -/
  isUsual : Bool := false

/-- The command behind `command` and its options; none if these ask what a command is. -/
def behindCommand? : Nat → Bool → List String → Option Invocation
  | 0, _, _ => none
  | _ + 1, _, [] => none
  | fuel + 1, isUsual, word :: words =>
    match word.toList with
    | ['-', '-'] =>
      match words with
      | name :: args => some ⟨name, args, false, isUsual⟩
      | [] => none
    | '-' :: c :: cs =>
      if (c :: cs).all (· = 'p') then behindCommand? fuel true words else none
    | _ => some ⟨word, words, false, isUsual⟩

/-- The invocation that words stand for, through all that only say how its command is looked
up. -/
def invocation : Nat → Invocation → Invocation
  | 0, i => i
  | fuel + 1, i =>
    if i.name ≠ "command" then i
    else match behindCommand? (i.args.length + 1) i.isUsual i.args with
      | some inner => invocation fuel inner
      | none => i

/-- The commands whose arguments may be assignments. -/
def takesAssignments (name : String) : Bool :=
  name = "alias" || name = "export" || name = "local" || name = "readonly"

/-- Whether the arguments that follow some words may be assignments. -/
def Machine.expectsAssignments (m : Machine) (texts : List String) : Bool :=
  match texts with
  | [] => false
  | name :: args =>
    let i := invocation (texts.length + 1) ⟨name, args, true, false⟩
    takesAssignments i.name && !(i.allowsFunction && (m.functions.lookup i.name).isSome)

/-- The file that a command reads commands from, or a failure. -/
def sourcedFile (name : String) : Action String := do
  let m ← get
  if name.toList.contains '/' then return name
  else
    match (Launch.candidates m.searchPath name).find? fun text => Launch.isRegular (m.find text) with
    | some text => return text
    | none => fail (name ++ ": not found")

/-- The text of a file that commands are read from, or a failure. -/
def scriptText (name : String) : Action String := do
  let m ← get
  match m.find name with
  | .found _ (.file content _) => return Text.holding content
  | .found .. => return ""
  | arrival => fail ("cannot open " ++ name ++ ": " ++ walkWords "No such file" arrival)

end TypeCoverage.Shell
