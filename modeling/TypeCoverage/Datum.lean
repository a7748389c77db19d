import TypeCoverage.Binary64
import TypeCoverage.Text.Quoted

/-!
# Values of settings files

A `Datum` is what a settings file, or a caller, gives for a setting before it has been
checked.  Of a date or a time only its kind is kept, for no setting takes one.
`Datum.shown?` is a datum as it is shown in a message.
-/

namespace TypeCoverage

/-- The kinds of dates and times. -/
inductive Moment where
  | date
  | time
  | dateTime
  deriving DecidableEq, Repr

/-- A value that has not been checked. -/
inductive Datum where
  | null
  | boolean (value : Bool)
  | integer (value : Int)
  | float (value : Binary64)
  | text (value : String)
  | list (items : List Datum)
  | table (members : List (String × Datum))
  | moment (kind : Moment)
  deriving Repr

/-- The members of a table, in written order. -/
abbrev Members : Type := List (String × Datum)

namespace Datum

/-- The name of the kind of a datum. -/
def kindName : Datum → String
  | .null => "NoneType"
  | .boolean _ => "bool"
  | .integer _ => "int"
  | .float _ => "float"
  | .text _ => "str"
  | .list _ => "list"
  | .table _ => "dict"
  | .moment .date => "datetime.date"
  | .moment .time => "datetime.time"
  | .moment .dateTime => "datetime.datetime"

/-- The most digits of an integer that is shown. -/
def digitLimit : Nat := 4300

mutual

/-- A datum as it is shown in a message, unless an integer in it has too many digits. -/
def shown? : Datum → Option String
  | .null => some "None"
  | .boolean b => some (if b then "True" else "False")
  | .integer n =>
    if digitLimit < Decimal.digitCount n.natAbs then none else some (Decimal.signedNumeral n)
  | .float x => some x.shortest
  | .text s => some (Text.quoted s)
  | .list items => (shownItems? items).map fun parts => "[" ++ String.intercalate ", " parts ++ "]"
  | .table members =>
    (shownMembers? members).map fun parts => "\x7b" ++ String.intercalate ", " parts ++ "\x7d"
  | .moment kind => some (kindName (.moment kind))

/-- The items of a list, as they are shown. -/
def shownItems? : List Datum → Option (List String)
  | [] => some []
  | d :: ds =>
    match shown? d, shownItems? ds with
    | some part, some parts => some (part :: parts)
    | _, _ => none

/-- The members of a table, as they are shown. -/
def shownMembers? : List (String × Datum) → Option (List String)
  | [] => some []
  | (k, d) :: ds =>
    match shown? d, shownMembers? ds with
    | some part, some parts => some ((Text.quoted k ++ ": " ++ part) :: parts)
    | _, _ => none

end

end Datum

end TypeCoverage
