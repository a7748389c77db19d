import TypeCoverage.Shell.Machine

/-!
# Redirections

Opening what a redirection names and letting a numbered stream lead there, or failing in
the words of the shell; and giving streams back what they led to before.
-/

namespace TypeCoverage.Shell

open Action (fail)

/-- The numbered stream that a path of a device stands for. -/
def deviceStream? (target : String) : Option Nat :=
  match target with
  | "/dev/stdin" => some 0
  | "/dev/stdout" => some 1
  | "/dev/stderr" => some 2
  | _ =>
    if target.startsWith "/dev/fd/" then count? (target.drop 8).toString else none

/-- The words for a walk that does not arrive, with those for where nothing is. -/
def walkWords (missing : String) : FileTree.Arrival → String
  | .tooManyLinks => "Too many levels of symbolic links"
  | .nameTooLong => "File name too long"
  | _ => missing

/-- Lets a stream lead where another one leads. -/
def duplicate (stream other : Nat) : Action Unit := do
  match (← get).stream? other with
  | some s => modify (·.setStream stream s)
  | none => fail (toString other ++ ": Bad file descriptor")

/-- Opens a path to be read. -/
def openInput (stream : Nat) (target : String) : Action Unit := do
  let m ← get
  match deviceStream? target with
  | some other =>
    if (m.stream? other).isSome then duplicate stream other
    else fail ("cannot open " ++ target ++ ": No such file")
  | none =>
    if target = "/dev/zero" then modify (·.setStream stream .zeros)
    else match m.find target with
      | .found _ .directory => modify (·.setStream stream .directory)
      | .found _ (.file content _) =>
        let size? := if target = "/dev/null" then none else some content.length
        set (m.withSource stream { chunks := [(0, content)], closes := 0, size? := size? })
      | arrival => fail ("cannot open " ++ target ++ ": " ++ walkWords "No such file" arrival)

/-- Opens a path to be written, as a redirection says. -/
def openOutput (stream : Nat) (kind : Redirection) (target : String) : Action Unit := do
  let m ← get
  let refuse (why : String) : Action Unit := fail ("cannot create " ++ target ++ ": " ++ why)
  let lead (name : List String) : Action Unit := modify (·.setStream stream (.sink (.file name)))
  match deviceStream? target with
  | some other =>
    if (m.stream? other).isSome then duplicate stream other
    else refuse "Directory nonexistent"
  | none =>
    if target = "/dev/null" then modify (·.setStream stream (.sink .nowhere))
    else match m.find target with
      | .found _ .directory => refuse "Is a directory"
      | .found name (.file _ executable) =>
        if kind = .write && m.has 'C' then refuse "File exists"
        else
          if kind = .write || kind = .overwrite then
            modify (·.edit (.put name (.file [] executable)))
          lead name
      | .missing =>
        let name := m.tree.realName (m.path target)
        if target.isEmpty || m.tree.entry? name.dropLast ≠ some .directory then
          refuse "Directory nonexistent"
        else if target.endsWith "/" then refuse "Is a directory"
        else
          modify (·.edit (.put name (.file [] false)))
          lead name
      | arrival => refuse (walkWords "Directory nonexistent" arrival)

/-- Lets a stream lead where a word says: to another stream, or nowhere. -/
def openDuplicate (stream : Nat) (word : String) : Action Unit := do
  match word.toList with
  | ['-'] => modify (·.closeStream stream)
  | [c] =>
    if c.isDigit then duplicate stream (c.toNat - '0'.toNat) else refuse
  | _ => refuse
where
  /-- Fails at the line up to which the script has been read. -/
  refuse : Action Unit := do
    modify fun m => { m with line := m.reached }
    fail "Syntax error: Bad fd number"

/-- Lets a stream lead where a redirection says, whose word has become a text. -/
def openStream (stream : Nat) (kind : Redirection) (target : String) : Action Unit :=
  match kind with
  | .read => openInput stream target
  | .duplicate => openDuplicate stream target
  | .document _ => modify (·.withBytes stream (Text.held target))
  | .readWrite => do
    let old? := (← get).nodeAt? target
    if old?.isNone || stream ≠ 0 then openOutput stream .append target
    if stream = 0 then openInput stream target
  | _ => openOutput stream kind target

/-- Where streams lead. -/
def Machine.streamsAt (m : Machine) (numbers : List Nat) : List (Nat × Option Stream) :=
  numbers.map fun n => (n, m.stream? n)

/-- Lets streams lead again where they led. -/
def Machine.restoreStreams (m : Machine) (saved : List (Nat × Option Stream)) : Machine :=
  saved.foldl (fun m (n, s?) =>
    match s? with
    | some s => m.setStream n s
    | none => m.closeStream n) m

/-- The number of the stream of a redirection. -/
def Redirect.stream : Redirect → Nat
  | .mk n _ _ => n

end TypeCoverage.Shell
