import TypeCoverage.Shell.Numeral
import TypeCoverage.Shell.Token

/-!
# Arithmetic of the shell

Expressions of integers of 64 bits, with the operators of the POSIX shell.  Their results
wrap around.  A name stands for the integer that its variable holds, and may be assigned
to.  The parts of an expression that do not count, on the other side of a choice or behind
an operand that decides, are read but not evaluated.
-/

namespace TypeCoverage.Shell.Arithmetic

/-- A token of an expression. -/
inductive Token where
  | number (value : Int64)
  | name (text : String)
  | sign (text : String)
  /-- A character that no expression has. -/
  | other
  deriving DecidableEq, Repr

/-- Why an expression has no value. -/
inductive Fault where
  | expecting (what : String)
  | divisionByZero
  /-- A variable that holds a text that is no integer. -/
  | illegalNumber (text : String)
  /-- An assignment to a variable that is read only. -/
  | readOnly (name : String)
  deriving DecidableEq, Repr

/-- The message for a fault in the expression that a text writes. -/
def Fault.message (text : String) : Fault → String
  | .expecting what => "arithmetic expression: expecting " ++ what ++ ": \"" ++ text ++ "\""
  | .divisionByZero => "arithmetic expression: division by zero: \"" ++ text ++ "\""
  | .illegalNumber value => "Illegal number: " ++ value
  | .readOnly name => name ++ ": is read only"

/-- The signs of an expression, those with more characters first. -/
def signs : List String :=
  ["<<=", ">>=", "==", "!=", "<=", ">=", "&&", "||", "<<", ">>", "+=", "-=", "*=", "/=", "%=",
   "&=", "^=", "|=", "+", "-", "*", "/", "%", "&", "^", "|", "<", ">", "=", "!", "~", "?", ":",
   "(", ")"]

/-- The tokens of an expression, `fuel` characters at most.  Nothing is read behind a
character that no expression has. -/
def tokens : Nat → List Char → List Token
  | 0, _ => []
  | fuel + 1, cs =>
    match cs with
    | [] => []
    | c :: rest =>
      if c = ' ' || c = '\t' || c = '\n' then tokens fuel rest
      else if c.isDigit then
        match readNatural? true cs with
        | some (n, rest) => .number (Int64.ofInt (clamp n)) :: tokens fuel rest
        | none => [.other]
      else if isNameChar c then
        let name := cs.takeWhile isNameChar
        .name (String.ofList name) :: tokens fuel (cs.drop name.length)
      else match signs.find? fun s => s.toList.isPrefixOf cs with
        | some s => .sign s :: tokens fuel (cs.drop s.length)
        | none => [.other]

/-- What an expression sees of the variables. -/
structure Scope where
  value? : String → Option String
  isReadOnly : String → Bool

/-- The tokens that are left, and the variables that have been set, the newest first. -/
structure State where
  tokens : List Token
  changes : List (String × String) := []

/-- An evaluation: it uses up tokens and sets variables, or fails. -/
abbrev Evaluation (α : Type) : Type := StateT State (Except Fault) α

/-- A truth value as a number. -/
def ofBool (b : Bool) : Int64 := if b then 1 else 0

/-- The binary operators by precedence, from the weakest on. -/
def levels : List (List String) :=
  [["|"], ["^"], ["&"], ["==", "!="], ["<", ">", "<=", ">="], ["<<", ">>"], ["+", "-"],
   ["*", "/", "%"]]

/-- The value of a binary operator. -/
def apply (sign : String) (a b : Int64) : Except Fault Int64 :=
  match sign with
  | "|" => .ok (a ||| b)
  | "^" => .ok (a ^^^ b)
  | "&" => .ok (a &&& b)
  | "==" => .ok (ofBool (a == b))
  | "!=" => .ok (ofBool (a != b))
  | "<" => .ok (ofBool (decide (a < b)))
  | ">" => .ok (ofBool (decide (b < a)))
  | "<=" => .ok (ofBool (decide (a ≤ b)))
  | ">=" => .ok (ofBool (decide (b ≤ a)))
  | "<<" => .ok (a <<< b)
  | ">>" => .ok (a >>> b)
  | "+" => .ok (a + b)
  | "-" => .ok (a - b)
  | "*" => .ok (a * b)
  | "/" => if b = 0 then .error .divisionByZero else .ok (a / b)
  | _ => if b = 0 then .error .divisionByZero else .ok (a % b)

/-- The value of a binary operator, if it counts. -/
def applyIf (counts : Bool) (sign : String) (a b : Int64) : Evaluation Int64 :=
  if counts then
    match apply sign a b with
    | .ok n => return n
    | .error fault => throw fault
  else return b

/-- The binary operator that an assignment applies first; none for a plain one. -/
def assigned? : String → Option (Option String)
  | "=" => some none
  | "+=" => some (some "+")
  | "-=" => some (some "-")
  | "*=" => some (some "*")
  | "/=" => some (some "/")
  | "%=" => some (some "%")
  | "&=" => some (some "&")
  | "^=" => some (some "^")
  | "|=" => some (some "|")
  | "<<=" => some (some "<<")
  | ">>=" => some (some ">>")
  | _ => none

/-- The integer that a variable holds; zero if it is not set. -/
def valueOf (scope : Scope) (name : String) : Evaluation Int64 := do
  let text := (((← get).changes.lookup name).or (scope.value? name)).getD ""
  match integerInAnyBase? text with
  | some n => return Int64.ofInt n
  | none => throw (.illegalNumber text)

/-- Sets a variable. -/
def assign (scope : Scope) (name : String) (n : Int64) : Evaluation Int64 := do
  if scope.isReadOnly name then throw (.readOnly name)
  else
    modify fun s => { s with changes := (name, Decimal.signedNumeral n.toInt) :: s.changes }
    return n

/-- Uses up the next token. -/
def next? : Evaluation (Option Token) :=
  modifyGet fun s => (s.tokens.head?, { s with tokens := s.tokens.drop 1 })

/-- The next token, if it is a sign. -/
def sign? : Evaluation (Option String) := do
  match (← get).tokens.head? with
  | some (.sign text) => return some text
  | _ => return none

/-- Uses up a sign that has to stand here. -/
def expect (sign : String) : Evaluation Unit := do
  if (← sign?) = some sign then
    let _ ← next?
  else throw (.expecting ("'" ++ sign ++ "'"))

mutual

/-- An expression; `counts` tells that it is evaluated. -/
def expression (scope : Scope) : Nat → Bool → Evaluation Int64
  | 0, _ => throw (.expecting "primary")
  | fuel + 1, counts => do
    match (← get).tokens with
    | .name name :: .sign text :: rest =>
      match assigned? text with
      | none => conditional scope fuel counts
      | some operator? =>
        modify fun s => { s with tokens := rest }
        let b ← expression scope fuel counts
        if !counts then return b
        else match operator? with
          | none => assign scope name b
          | some operator => do
            let a ← valueOf scope name
            assign scope name (← applyIf true operator a b)
    | _ => conditional scope fuel counts

/-- A choice between two expressions. -/
def conditional (scope : Scope) : Nat → Bool → Evaluation Int64
  | 0, _ => throw (.expecting "primary")
  | fuel + 1, counts => do
    let test ← disjunction scope fuel counts
    if (← sign?) = some "?" then
      let _ ← next?
      let a ← expression scope fuel (counts && test != 0)
      expect ":"
      let b ← conditional scope fuel (counts && test == 0)
      return if test != 0 then a else b
    else return test

/-- Expressions of which one has to hold. -/
def disjunction (scope : Scope) : Nat → Bool → Evaluation Int64
  | 0, _ => throw (.expecting "primary")
  | fuel + 1, counts => do
    let a ← conjunction scope fuel counts
    if (← sign?) = some "||" then
      let _ ← next?
      let b ← disjunction scope fuel (counts && a == 0)
      return ofBool (a != 0 || b != 0)
    else return a

/-- Expressions that all have to hold. -/
def conjunction (scope : Scope) : Nat → Bool → Evaluation Int64
  | 0, _ => throw (.expecting "primary")
  | fuel + 1, counts => do
    let a ← binary scope fuel levels counts
    if (← sign?) = some "&&" then
      let _ ← next?
      let b ← conjunction scope fuel (counts && a != 0)
      return ofBool (a != 0 && b != 0)
    else return a

/-- An expression of binary operators. -/
def binary (scope : Scope) : Nat → List (List String) → Bool → Evaluation Int64
  | 0, _, _ => throw (.expecting "primary")
  | fuel + 1, [], counts => unary scope fuel counts
  | fuel + 1, level :: tighter, counts => do
    let a ← binary scope fuel tighter counts
    continued scope fuel level tighter a counts

/-- Further operands of binary operators of one level. -/
def continued (scope : Scope) :
    Nat → List String → List (List String) → Int64 → Bool → Evaluation Int64
  | 0, _, _, _, _ => throw (.expecting "primary")
  | fuel + 1, level, tighter, a, counts => do
    match ← sign? with
    | some text =>
      if level.contains text then
        let _ ← next?
        let b ← binary scope fuel tighter counts
        continued scope fuel level tighter (← applyIf counts text a b) counts
      else return a
    | none => return a

/-- A number, a name or an expression in parentheses, with its signs. -/
def unary (scope : Scope) : Nat → Bool → Evaluation Int64
  | 0, _ => throw (.expecting "primary")
  | fuel + 1, counts => do
    match ← next? with
    | some (.number n) => return n
    | some (.name name) => if counts then valueOf scope name else return 0
    | some (.sign "+") => unary scope fuel counts
    | some (.sign "-") => return -(← unary scope fuel counts)
    | some (.sign "!") => return ofBool ((← unary scope fuel counts) == 0)
    | some (.sign "~") => return ~~~(← unary scope fuel counts)
    | some (.sign "(") =>
      let n ← expression scope fuel counts
      expect ")"
      return n
    | _ => throw (.expecting "primary")

end

/-- The value of the expression that a text writes, with the variables that it sets, in
order. -/
def evaluate (scope : Scope) (text : String) : Except Fault (Int × List (String × String)) := do
  let ts := tokens (text.length + 1) text.toList
  let (n, s) ← (expression scope (16 * (ts.length + 4)) true).run { tokens := ts }
  if s.tokens.isEmpty then return (n.toInt, s.changes.reverse)
  else throw (.expecting "EOF")

end TypeCoverage.Shell.Arithmetic
