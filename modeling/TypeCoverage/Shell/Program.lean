import TypeCoverage.Launch

/-!
# Programs of a shell

A shell finds a program as the system does, but takes a file that names no interpreter for a
script of its own.  Where there is no program, it has a status and some words for what is in
the way.
-/

namespace TypeCoverage.Launch

/-- The launch that a name and arguments stand for. -/
def ofName (find : String → FileTree.Arrival) (searchPath name : String) (args : List String) :
    Except Obstacle Launch :=
  search (ofPath find args scriptLimit name) none (candidates searchPath name)

/-- Whether a walk arrives at a regular file. -/
def isRegular : FileTree.Arrival → Bool
  | .found _ (.file ..) => true
  | _ => false

/-- Whether a walk arrives at an executable file. -/
def isExecutable : FileTree.Arrival → Bool
  | .found _ (.file _ executable) => executable
  | _ => false

/-- The obstacle at a path where no executable file is, unless nothing is there. -/
def notable? : FileTree.Arrival → Option Obstacle
  | .found .. => some .denied
  | .tooManyLinks => some .tooManyLinks
  | .nameTooLong => some .nameTooLong
  | _ => none

/-- The status for an obstacle that has met the system. -/
def statusOf : Obstacle → Nat
  | .denied => 126
  | .noFormat => 126
  | _ => 127

/-- The launch of the first of some paths that can be run; `met?` is the last obstacle so
far that is more than that nothing is there. -/
def firstOf (find : String → FileTree.Arrival) (name : String) (args : List String)
    (met? : Option Obstacle) : List String → Except Obstacle Launch
  | [] => .error (met?.getD .missing)
  | text :: texts =>
    match ofPath find args scriptLimit name text with
    | .ok launch => .ok launch
    | .error why =>
      firstOf find name args (if why = .missing || why = .notDirectory then met? else some why)
        texts

/-- The paths at which a shell may find a program, from the first executable file on, or
what is in the way of it. -/
def lookUp (find : String → FileTree.Arrival) (searchPath name : String) :
    Except Obstacle (List String) :=
  let texts := candidates searchPath name
  match texts.dropWhile fun text => !isExecutable (find text) with
  | [] => .error ((texts.filterMap fun text => notable? (find text)).getLast?.getD .missing)
  | found => .ok found

/-- The launch that takes the place of a shell, or why there is none, with the status of the
shell. -/
def ofReplacement (find : String → FileTree.Arrival) (searchPath name : String)
    (args : List String) : Except (Obstacle × Nat) Launch :=
  (firstOf find name args none (candidates searchPath name)).mapError fun why =>
    (why, statusOf why)

/-- The launch that a command of a shell stands for, or why there is none, with the status
of the shell.  A name is looked up first, and from there on it is for one that can be run. -/
def ofCommand (find : String → FileTree.Arrival) (searchPath name : String)
    (args : List String) : Except (Obstacle × Nat) Launch :=
  if name.toList.contains '/' then ofReplacement find searchPath name args
  else match lookUp find searchPath name with
    | .error why => .error (why, 127)
    | .ok texts =>
      (firstOf find name args none texts).mapError fun why => (why, statusOf why)

/-- The path at which a name is found by a shell. -/
def pathOf? (find : String → FileTree.Arrival) (searchPath name : String) : Option String :=
  if name.toList.contains '/' then
    match find name with
    | .found .. => some name
    | _ => none
  else (lookUp find searchPath name).toOption.bind List.head?

/-- The words of a shell for an obstacle. -/
def words : Obstacle → String
  | .denied => "Permission denied"
  | .noFormat => "Exec format error"
  | .nameTooLong => "File name too long"
  | .tooManyLinks => "Too many levels of symbolic links"
  | _ => "not found"

end TypeCoverage.Launch
