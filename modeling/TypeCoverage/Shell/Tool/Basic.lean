import TypeCoverage.Shell.Machine

/-!
# Programs of a system

A `Tool` is a program that comes with the system: an action on the name that it is given
and its arguments, which reads the input or files, writes to the streams and sets the
status.  This module has what all of them share: messages, options and operands.
-/

namespace TypeCoverage.Shell

/-- A program that comes with the system, with the name that it is given. -/
abbrev Tool : Type := String → List String → Action Unit

namespace Tool

open Action (complain setStatus)

/-- Whether a character means nothing to a shell, also between double quotation marks. -/
def isHarmless (c : Char) : Bool :=
  c.isAlphanum || "%+,-./:]_@".toList.contains c || 128 ≤ c.toNat

/-- A text between quotation marks in a message, as a shell would read it. -/
def marked (s : String) : String :=
  let cs := s.toList
  if cs.contains '\'' && cs.all fun c => isHarmless c || c = ' ' || c = '\'' then
    "\"" ++ s ++ "\""
  else
    String.ofList (['\''] ++ (cs.flatMap fun c =>
      if c = '\'' then ['\'', '\\', '\'', '\''] else [c]) ++ ['\''])

/-- A name in front of a message: between quotation marks only if a shell or the reader of
the message would take it for something else. -/
def shown (s : String) : String :=
  let isPlain : Bool := match s.toList with
    | [] => false
    | c :: cs =>
      (isHarmless c || (!cs.isEmpty && (c = '\x7b' || c = '\x7d')))
        && cs.all (fun c => isHarmless c || c = '~' || c = '#' || c = '\x7b' || c = '\x7d')
        && !(c :: cs).contains ':'
  if isPlain then s else marked s

/-- Writes bytes to the standard output. -/
def put (bytes : List UInt8) : Action Unit := modify (·.print bytes)

/-- Tells of a failure. -/
def warn (zero text : String) : Action Unit := complain (zero ++ ": " ++ text)

/-- Tells of a failure and goes on to fail in the end. -/
def mishap (zero text : String) : Action Unit := do
  warn zero text
  setStatus 1

/-- Ends with a failure. -/
def giveUp {α : Type} (zero text : String) (status : Nat) : Action α := do
  warn zero text
  setStatus status
  throw .exit

/-- Points to the help. -/
def hint (zero : String) : Action Unit :=
  complain ("Try '" ++ zero ++ " --help' for more information.")

/-- Ends because of arguments that make no sense. -/
def misuse {α : Type} (zero text : String) (status : Nat) : Action α := do
  warn zero text
  hint zero
  setStatus status
  throw .exit

/-- The options and operands of a program, or its end with a status. -/
def options (zero : String) (status : Nat) (letters : String) (words : List (String × Char))
    (args : List String) : Action Options.Parsed :=
  match Options.readAll letters words args with
  | .ok parsed => return parsed
  | .error fault => misuse zero fault.complaint status

/-- The words for a walk that does not arrive. -/
def words : FileTree.Arrival → String
  | .notDirectory => "Not a directory"
  | .tooManyLinks => "Too many levels of symbolic links"
  | .nameTooLong => "File name too long"
  | .found _ .directory => "Is a directory"
  | _ => "No such file or directory"

/-- All bytes that an operand names, or why they cannot be read.  A dash names the
input. -/
def contents (operand : String) : Action (Except String (List UInt8)) := do
  let m ← get
  if operand = "-" || operand = "/dev/stdin" then
    if m.stream? 0 = some .zeros then throw .endless
    match m.takeInput? with
    | some (bytes, m) =>
      set m
      return .ok bytes
    | none => return .error m.inputFault
  else if operand = "/dev/zero" then throw .endless
  else
    match m.find operand with
    | .found _ (.file bytes _) => return .ok bytes
    | arrival => return .error (words arrival)

/-- The operands, or else the input. -/
def orInput (operands : List String) : List String :=
  if operands.isEmpty then ["-"] else operands

/-- All bytes that some operands name, one after another.  Those that cannot be read are
told. -/
def gather (zero : String) : List String → Action (List UInt8)
  | [] => return []
  | operand :: operands => do
    let front ← match ← contents operand with
      | .ok bytes => pure bytes
      | .error why =>
        mishap zero (shown operand ++ ": " ++ why)
        pure []
    return front ++ (← gather zero operands)

/-- The lines of some bytes, each with its line break if it has one. -/
def linesOf (bytes : List UInt8) : List (List UInt8) :=
  let (last, done) := bytes.foldl (fun (line, done) b =>
    if b = 10 then ([], (b :: line).reverse :: done) else (b :: line, done)) ([], [])
  (if last.isEmpty then done else last.reverse :: done).reverse

/-- The lines of some bytes without their line breaks. -/
def plainLinesOf (bytes : List UInt8) : List (List UInt8) :=
  (linesOf bytes).map (·.filter (· ≠ 10))

/-- A line with its line break. -/
def terminated (line : List UInt8) : List UInt8 := line ++ [10]

/-- A number with spaces in front up to a width. -/
def padded (width n : Nat) : String :=
  let s := Decimal.numeral n
  String.ofList (List.replicate (width - s.length) ' ') ++ s

end Tool

end TypeCoverage.Shell
