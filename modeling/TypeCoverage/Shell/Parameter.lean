import TypeCoverage.Shell.Arithmetic
import TypeCoverage.Shell.Builtin
import TypeCoverage.Shell.Word

/-!
# Parameters

The values of variables, of the numbered parameters and of those that are named by a sign,
and how a word or a pattern changes them.  In a value that several parameters make up, null
characters stand between them where each is to be in a field of its own.
-/

namespace TypeCoverage.Shell

open Decimal

/-- How a word is expanded. -/
structure Mode where
  /-- Whether fields are made of it. -/
  splits : Bool
  isQuoted : Bool := false
  /-- Whether its own characters may be separators, as in the word of an expansion. -/
  isInner : Bool := false
  tilde : Tilde := .nowhere

namespace Mode

/-- The mode for words of commands. -/
def fields : Mode := { splits := true, tilde := .front }

/-- The mode for values of variables. -/
def value : Mode := { splits := false, tilde := .value }

/-- The mode for texts that stay in one piece. -/
def whole : Mode := { splits := false, tilde := .front }

/-- The mode for patterns. -/
def pattern : Mode := { splits := false, tilde := .front }

/-- The mode for texts that are quoted as a whole. -/
def document : Mode := { splits := false, isQuoted := true }

/-- The mode for the word of an expansion. -/
def inner (mode : Mode) : Mode :=
  { mode with
    isInner := true
    tilde := if mode.isQuoted then .nowhere
      else if mode.tilde = .value || mode.tilde = .assignment then .value
      else .front }

end Mode

/-- Whether a name stands for all parameters. -/
def isAll (name : String) : Bool := name = "@" || name = "*"

namespace Machine

/-- What stands between all parameters in a value. -/
def joint (m : Machine) (mode : Mode) (name : String) : String :=
  if mode.splits && (name = "@" || !mode.isQuoted) then "\x00"
  else String.ofList (m.separators.take 1)

/-- The value of a parameter, if it is set. -/
def parameter? (m : Machine) (mode : Mode) (name : String) : Option String :=
  if isAll name then some (String.intercalate (m.joint mode name) m.parameters)
  else match name with
    | "#" => some (numeral m.parameters.length)
    | "?" => some (numeral m.status)
    | "$" => some (numeral m.shellPid)
    | "!" => m.lastJob?.map numeral
    | "-" => some (Builtin.lettersOf m)
    | "0" => some m.zero
    | _ =>
      if name.toList.all isDigit then
        match readDigits name.toList with
        | 0 => some m.zero
        | n + 1 => m.parameters[n]?
      else m.value? name

/-- The length of a parameter. -/
def lengthOf (m : Machine) (name : String) : Nat :=
  if isAll name then total (m.parameters.map (·.length)) + (m.parameters.length - 1)
  else ((m.parameter? .document name).getD "").length

end Machine

/-- A value without what a pattern matches at one of its ends.  If the value is made of
several texts, a match ends with a text, and a place from the front on is one in the first. -/
def trimmed (value : String) (kind : Trim) (pattern : Field) : String :=
  let elements := Pattern.ofField pattern.asPattern
  let cs := value.toList
  let near := List.range ((Pattern.firstText cs).length + 1)
  let far := (List.range (cs.length + 1)).reverse
  String.ofList (match kind with
    | .shortestFront => Pattern.trimFront elements cs near
    | .longestFront => Pattern.trimFront elements cs far
    | .shortestBack => Pattern.trimBack elements cs far
    | .longestBack => Pattern.trimBack elements cs near)

/-- Whether a text matches an expanded pattern. -/
def isArm (subject : String) (pattern : Field) : Bool :=
  Pattern.isMatch (Pattern.ofField pattern.asPattern) subject.toList

/-- The variables as arithmetic sees them. -/
def Machine.scope (m : Machine) : Arithmetic.Scope :=
  { value? := fun name => m.value? name
    isReadOnly := m.isReadOnly }

namespace Action

/-- The value of an arithmetic expression; the variables that it sets are set. -/
def calculate (text : String) : Action String := do
  match Arithmetic.evaluate (← get).scope text with
  | .ok (n, changes) =>
    changes.forM fun (name, value) => assign name value
    return signedNumeral n
  | .error fault => Action.fail (fault.message text)

/-- Fails if a parameter is not set and has to be. -/
def demandSet (name : String) (value? : Option String) : Action Unit := do
  if value?.isNone && (← get).has 'u' then
    Action.fail (name ++ ": parameter not set")

end Action

end TypeCoverage.Shell
