/-!
# JSON values

A `Value` is an atom, an array or an object with its members in written order.  Of a
number that is not written as an integer, that is one with a fraction or an exponent, an
infinite or an undefined one, only its being such a number is kept.  When a key is
written twice, `Value.field?` finds the last member.
-/

namespace TypeCoverage.Json

/-- A value with no parts. -/
inductive Atom where
  | null
  | boolean (value : Bool)
  | integer (value : Int)
  | fractional
  | text (value : String)
  deriving DecidableEq, Repr

/-- A JSON value. -/
inductive Value where
  | atom (value : Atom)
  | array (items : List Value)
  | object (members : List (String × Value))
  deriving Repr

namespace Value

/-- The value `null`. -/
def null : Value := .atom .null

/-- A truth value. -/
def boolean (b : Bool) : Value := .atom (.boolean b)

/-- An integer. -/
def integer (n : Int) : Value := .atom (.integer n)

/-- A text. -/
def text (s : String) : Value := .atom (.text s)

/-- The text, or `null` where there is none. -/
def ofText? : Option String → Value
  | some s => text s
  | none => null

end Value

/-- The value of the last member with a key. -/
def lookup (key : String) (members : List (String × Value)) : Option Value :=
  (members.reverse.find? (·.1 == key)).map (·.2)

/-- The last member with a key, of an object. -/
def Value.field? (key : String) : Value → Option Value
  | .object members => lookup key members
  | _ => none

end TypeCoverage.Json
