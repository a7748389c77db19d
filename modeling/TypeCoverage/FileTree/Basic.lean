import TypeCoverage.FileTree.Path

/-!
# File trees

A `FileTree` holds directories, files and symbolic links by the parts of their absolute
names.  `walk` follows a list of parts from a directory, through at most `linkLimit`
links, and says what it arrives at or why it does not arrive.  `realName` replaces the
links in a name and keeps what does not exist.
-/

namespace TypeCoverage

/-- What stands under a name in a file tree. -/
inductive Node where
  | directory
  | file (content : List UInt8) (executable : Bool)
  | link (target : String)
  deriving DecidableEq, Repr

/-- The entries of a file tree by their names, the newest first, and the directory from
which relative paths are followed. -/
structure FileTree where
  entries : List (List String × Node)
  here : List String
  deriving Repr

namespace FileTree

/-- The entry under a name; the root is always a directory. -/
def entry? (t : FileTree) (name : List String) : Option Node :=
  if name.isEmpty then some .directory else t.entries.lookup name

/-- The most links that a walk follows. -/
def linkLimit : Nat := 40

/-- The most bytes of one part of a name. -/
def partLimit : Nat := 255

/-- The number of bytes at which a whole path is too long. -/
def pathLimit : Nat := 4096

/-- Where a walk arrives, or why it does not. -/
inductive Arrival where
  | found (name : List String) (node : Node)
  | missing
  | notDirectory
  | tooManyLinks
  | nameTooLong
  deriving DecidableEq, Repr

/-- The directory from which a text leads, and its parts.  A text that ends with a slash or
a dot leads to a directory, which a single dot after its parts says. -/
def stepsOf (text : String) (dir : List String) : List String × List String :=
  let path := Path.ofText text
  let last := (Text.splitAtChar '/' text.toList).getLast?.getD []
  let asked := !path.parts.isEmpty && (last = [] || last = ['.'])
  (if path.isAbsolute then [] else dir, path.parts ++ if asked then ["."] else [])

/-- Follows parts from a directory, where a single dot stays in it.  `links` bounds the
links still to be followed. -/
def walkFrom (t : FileTree) (links : Nat) (dir : List String) (parts : List String) : Arrival :=
  match parts with
  | [] => .found dir .directory
  | part :: rest =>
    if part = "." then walkFrom t links dir rest
    else if part = ".." then walkFrom t links dir.dropLast rest
    else if partLimit < part.utf8ByteSize then .nameTooLong
    else
      let name := dir ++ [part]
      match t.entry? name with
      | none => .missing
      | some .directory => walkFrom t links name rest
      | some (.file content executable) =>
        if rest.isEmpty then .found name (.file content executable) else .notDirectory
      | some (.link target) =>
        match links with
        | 0 => .tooManyLinks
        | links + 1 =>
          let (dir, parts) := stepsOf target dir
          walkFrom t links dir (parts ++ rest)
termination_by (links, parts.length)

/-- A text with a null character in it, which no name of a file has. -/
def holdsNull (s : String) : Bool := s.toList.contains '\x00'

/-- The directory from which a path is followed, and its parts. -/
def startOf (t : FileTree) (p : Path) : List String × List String :=
  (if p.isAbsolute then [] else t.here, p.parts)

/-- Follows a path. -/
def walk (t : FileTree) (p : Path) : Arrival :=
  if holdsNull p.text then .missing
  else if pathLimit ≤ p.text.utf8ByteSize then .nameTooLong
  else
    let (dir, parts) := t.startOf p
    t.walkFrom linkLimit dir parts

/-- Follows a text from a directory.  The empty text names nothing. -/
def walkText (t : FileTree) (dir : List String) (text : String) : Arrival :=
  if text.isEmpty || holdsNull text then .missing
  else if pathLimit ≤ text.utf8ByteSize then .nameTooLong
  else
    let (dir, parts) := stepsOf text dir
    t.walkFrom linkLimit dir parts

/-- Resolves parts from a directory without asking that they exist.  The answer is a name
and whether no link led back to itself; `active` holds the links being resolved, and
`depth` bounds their number. -/
def resolveFrom (t : FileTree) (depth : Nat) (active : List (List String)) (dir : List String)
    (parts : List String) : List String × Bool :=
  match parts with
  | [] => (dir, true)
  | part :: rest =>
    if part = ".." then resolveFrom t depth active dir.dropLast rest
    else
      let name := dir ++ [part]
      match t.entry? name with
      | some (.link target) =>
        if active.contains name then (name ++ rest, false)
        else match depth with
          | 0 => (name ++ rest, false)
          | depth + 1 =>
            let path := Path.ofText target
            let (start, steps) := (if path.isAbsolute then [] else dir, path.parts)
            match resolveFrom t depth (name :: active) start steps with
            | (reached, true) => resolveFrom t (depth + 1) active reached rest
            | (reached, false) => (reached ++ rest, false)
      | _ => resolveFrom t depth active name rest
termination_by (depth, parts.length)

/-- Lets each `..` of a name take back the part before it. -/
def collapse (name : List String) : List String :=
  name.foldl (fun done part => if part = ".." then done.dropLast else done ++ [part]) []

/-- The name that a path stands for, with its links replaced.  What does not exist stays
as it is written. -/
def realName (t : FileTree) (p : Path) : List String :=
  let (dir, parts) := t.startOf p
  collapse (t.resolveFrom (t.entries.length + 1) [] dir parts).1

/-- Puts an entry under a name, in place of what was there. -/
def put (t : FileTree) (name : List String) (node : Node) : FileTree :=
  { t with entries := (name, node) :: t.entries.filter (·.1 != name) }

/-- Makes a directory under each beginning of a name that has no entry yet. -/
def makeDirectories (t : FileTree) (name : List String) : FileTree :=
  (List.range name.length).foldl
    (fun t n =>
      let dir := name.take (n + 1)
      if (t.entry? dir).isSome then t else t.put dir .directory) t

/-- The tree with nothing but one directory, from which relative paths are followed. -/
def rooted (here : List String) : FileTree :=
  makeDirectories ⟨[], here⟩ here

/-- Writes a file or makes a directory, through the links on its path; a link itself is
put where it is named.  Directories on the way are made as needed. -/
def write (t : FileTree) (p : Path) (node : Node) : FileTree :=
  match node with
  | .link _ =>
    let dir := t.realName p.parent
    (t.makeDirectories dir).put (dir ++ [p.name]) node
  | .directory => t.makeDirectories (t.realName p)
  | .file .. =>
    let name := t.realName p
    (t.makeDirectories name.dropLast).put name node

/-- Removes an entry and all below it; a link is removed itself. -/
def remove (t : FileTree) (p : Path) : FileTree :=
  let name := t.realName p.parent ++ [p.name]
  { t with entries := t.entries.filter fun (other, _) => !name.isPrefixOf other }

end FileTree

end TypeCoverage
