import TypeCoverage.Shell.Machine

/-!
# Conditions

A condition is written by operands and operators, each a text of its own.  `Condition.read`
evaluates one from left to right: a place in the texts moves on over what has been read.
Conditions on files ask what a machine finds under a path.
-/

namespace TypeCoverage.Shell.Condition

/-- The kinds of operators. -/
inductive Kind where
  | unary
  | binary
  | negation
  | joining
  | parenthesis
  deriving DecidableEq, Repr

/-- The operators on one operand. -/
def unaryOperators : List String :=
  ["-r", "-w", "-x", "-e", "-f", "-d", "-c", "-b", "-p", "-u", "-g", "-s", "-t", "-z", "-n", "-h",
   "-L", "-k", "-O", "-G", "-S"]

/-- The operators on two operands. -/
def binaryOperators : List String :=
  ["=", "!=", "<", ">", "-eq", "-ne", "-ge", "-gt", "-le", "-lt", "-nt", "-ot", "-ef"]

/-- The kind of an operator. -/
def kind? (text : String) : Option Kind :=
  if unaryOperators.contains text then some .unary
  else if binaryOperators.contains text then some .binary
  else if text = "!" then some .negation
  else if text = "-a" || text = "-o" then some .joining
  else if text = "(" || text = ")" then some .parenthesis
  else none

/-- What stands at a place. -/
inductive Lexeme where
  | ending
  | operand
  | operator (text : String) (kind : Kind)
  deriving DecidableEq, Repr

/-- Whether a unary operator at a place is an operand: it is the last text, or the next but
one exists and the next one is a binary operator. -/
def isOperand (texts : List String) (place : Nat) : Bool :=
  match texts[place + 1]?, texts[place + 2]? with
  | none, _ => true
  | some _, none => false
  | some next, some _ => kind? next = some .binary

/-- What stands at a place. -/
def lexemeAt (texts : List String) (place : Nat) : Lexeme :=
  match texts[place]? with
  | none => .ending
  | some text =>
    match kind? text with
    | none => .operand
    | some kind =>
      if kind = .unary && isOperand texts place then .operand
      else if text = "(" && texts[place + 1]?.isNone then .operand
      else .operator text kind

/-! ## Single conditions -/

/-- An integer that an operand has to be. -/
def integer (text : String) : Except String Int :=
  match integer? text with
  | some n => .ok n
  | none => .error ("Illegal number: " ++ text)

/-- The name of a regular file or a directory that a text leads to, and what it is. -/
def found? (m : Machine) (text : String) : Option (List String × Node) :=
  match m.find text with
  | .found name node => some (name, node)
  | _ => none

/-- Whether a name is that of a device. -/
def isDevice (name : List String) (node : Node) : Bool :=
  name.dropLast = ["dev"] && FileTree.isFile (some node)

/-- Whether a directory can be entered or a file be run. -/
def isExecutable : Node → Bool
  | .directory => true
  | .file _ executable => executable
  | .link _ => false

/-- Whether a file holds anything; a directory does. -/
def isFilled : Node → Bool
  | .file content _ => !content.isEmpty
  | _ => true

/-- Whether a text names a link. -/
def isLink (m : Machine) (text : String) : Bool :=
  !text.endsWith "/" && m.tree.entry? (m.entryName text) matches some (.link _)

/-- The moment of the last change of what a text leads to; what has not changed is older
than all that has. -/
def changed? (m : Machine) (text : String) : Option Nat :=
  (found? m text).map fun (name, _) =>
    let touches (c : Change) : Bool :=
      match c.edit with
      | .put other _ => other = name
      | .append other _ => other = name
      | .remove other => other = name
    ((m.changes.find? touches).map (·.time + 1)).getD 0

/-- Whether an operator holds of one operand. -/
def holds (m : Machine) (operator operand : String) : Except String Bool :=
  let found := found? m operand
  let isOf (test : List String → Node → Bool) : Except String Bool :=
    .ok (found.any fun (name, node) => test name node)
  match operator with
  | "-z" => .ok operand.isEmpty
  | "-n" => .ok !operand.isEmpty
  | "-t" => (integer operand).map fun _ => false
  | "-f" => isOf fun name node => FileTree.isFile (some node) && !isDevice name node
  | "-d" => isOf fun _ node => node = .directory
  | "-c" => isOf isDevice
  | "-h" => .ok (isLink m operand)
  | "-L" => .ok (isLink m operand)
  | "-x" => isOf fun _ node => isExecutable node
  | "-s" => isOf fun _ node => isFilled node
  | "-k" => isOf fun name _ => name = ["tmp"]
  | "-b" => .ok false
  | "-p" => .ok false
  | "-u" => .ok false
  | "-g" => .ok false
  | "-S" => .ok false
  | _ => .ok found.isSome

/-- Whether an operator holds of two operands. -/
def relates (m : Machine) (a operator b : String) : Except String Bool :=
  let compare (test : Int → Int → Bool) : Except String Bool := do
    let x ← integer a
    let y ← integer b
    return test x y
  let isNewer (a b : String) : Bool :=
    match changed? m a, changed? m b with
    | some x, some y => y < x
    | _, _ => false
  match operator with
  | "=" => .ok (a = b)
  | "!=" => .ok (a ≠ b)
  | "<" => .ok (decide (a < b))
  | ">" => .ok (decide (b < a))
  | "-eq" => compare fun x y => x = y
  | "-ne" => compare fun x y => x ≠ y
  | "-ge" => compare fun x y => y ≤ x
  | "-gt" => compare fun x y => y < x
  | "-le" => compare fun x y => x ≤ y
  | "-lt" => compare fun x y => x < y
  | "-nt" => .ok (isNewer a b)
  | "-ot" => .ok (isNewer b a)
  | _ => .ok ((found? m a).isSome && (found? m a).map (·.1) = (found? m b).map (·.1))

/-! ## Reading -/

/-- An evaluation: it moves a place on, or fails with a message. -/
abbrev Reading (α : Type) : Type := StateT Nat (Except String) α

/-- Fails at a text. -/
def fault {α : Type} (text why : String) : Reading α :=
  throw (if text.isEmpty then why else text ++ ": " ++ why)

mutual

/-- Conditions of which one has to hold. -/
def disjunction (m : Machine) (texts : List String) : Nat → Lexeme → Reading Bool
  | 0, _ => return false
  | fuel + 1, next => do
    let holds ← conjunction m texts fuel next
    let place ← get
    if texts[place + 1]? = some "-o" then
      set (place + 2)
      let others ← disjunction m texts fuel (lexemeAt texts (place + 2))
      return holds || others
    else return holds

/-- Conditions that all have to hold. -/
def conjunction (m : Machine) (texts : List String) : Nat → Lexeme → Reading Bool
  | 0, _ => return false
  | fuel + 1, next => do
    let holds ← negation m texts fuel next
    let place ← get
    if texts[place + 1]? = some "-a" then
      set (place + 2)
      let others ← conjunction m texts fuel (lexemeAt texts (place + 2))
      return holds && others
    else return holds

/-- A condition that may be negated. -/
def negation (m : Machine) (texts : List String) : Nat → Lexeme → Reading Bool
  | 0, _ => return false
  | fuel + 1, next => do
    if next matches .operator _ .negation then
      let place ← get
      let next := lexemeAt texts (place + 1)
      if next ≠ .ending then set (place + 1)
      return !(← negation m texts fuel next)
    else primary m texts fuel next

/-- A single condition, or one in parentheses. -/
def primary (m : Machine) (texts : List String) : Nat → Lexeme → Reading Bool
  | 0, _ => return false
  | fuel + 1, next => do
    let place ← get
    match next with
    | .ending => return false
    | .operator "(" _ =>
      set (place + 1)
      let next := lexemeAt texts (place + 1)
      if next matches .operator ")" _ then return false
      else
        let holds ← disjunction m texts fuel next
        let place ← get
        set (place + 1)
        if texts[place + 1]? = some ")" then return holds
        else throw "closing paren expected"
    | .operator operator .unary =>
      match texts[place + 1]? with
      | none => fault operator "argument expected"
      | some operand =>
        set (place + 1)
        holds m operator operand
    | _ =>
      let a := (texts[place]?).getD ""
      match lexemeAt texts (place + 1) with
      | .operator operator .binary =>
        match texts[place + 2]? with
        | none => fault operator "argument expected"
        | some b =>
          set (place + 2)
          relates m a operator b
      | _ => return !a.isEmpty

end

/-- The condition that texts write, of which nothing may be left over. -/
def readFrom (m : Machine) (texts : List String) (first : Lexeme) : Except String Bool :=
  match (disjunction m texts (4 * texts.length + 8) first).run 0 with
  | .error why => .error why
  | .ok (holds, place) =>
    match texts[place]?, texts[place + 1]? with
    | some text, some _ =>
      .error (if text.isEmpty then "unexpected operator" else text ++ ": unexpected operator")
    | _, _ => .ok holds

/-- The condition that three or four texts write: parentheses around up to two texts and a
negation in front of up to three are taken off first. -/
def readStripped (m : Machine) (texts : List String) : Except String Bool :=
  let plain (texts : List String) : Except String Bool := readFrom m texts (lexemeAt texts 0)
  let inner := (texts.drop 1).dropLast
  if texts.head? = some "(" && texts.getLast? = some ")" then plain inner
  else match texts with
    | ["!", a, operator, b] =>
      (if kind? operator = some .binary then readFrom m [a, operator, b] .operand
        else if a = "(" && b = ")" then plain [operator]
        else plain [a, operator, b]).map fun holds => !holds
    | "!" :: rest => (plain rest).map fun holds => !holds
    | _ => plain texts

/-- The truth of the condition that texts write.  Three texts with a binary operator in the
middle are always read as such. -/
def read (m : Machine) (texts : List String) : Except String Bool :=
  match texts with
  | [] => .ok false
  | [_, operator, _] =>
    if kind? operator = some .binary then readFrom m texts .operand else readStripped m texts
  | [_, _, _, _] => readStripped m texts
  | _ => readFrom m texts (lexemeAt texts 0)

end TypeCoverage.Shell.Condition
