import TypeCoverage.Shell.Condition
import TypeCoverage.Shell.Format
import TypeCoverage.Shell.Tool.Basic

/-!
# Programs on files

Programs that list, make, change and remove entries of the file tree, and those that only
look at paths.
-/

namespace TypeCoverage.Shell.Tool

open Action (say setStatus)

/-! ## Paths -/

/-- Writes the directories of paths. -/
def dirname : Tool := fun zero args => do
  let (_, operands) ← options zero 1 "z" [] args
  if operands.isEmpty then misuse zero "missing operand" 1
  operands.forM fun operand =>
    say ((if operand.isEmpty then "." else (Path.ofText operand).parent.text) ++ "\n")
  setStatus 0

/-- The last part of a path, without an ending. -/
def baseName (ending path : String) : String :=
  let name := (Path.ofText path).name
  let name := if name.isEmpty then path else name
  if ending ≠ "" && name ≠ ending && name.endsWith ending then
    (name.take (name.length - ending.length)).toString
  else name

/-- Writes the last parts of paths. -/
def basename : Tool := fun zero args => do
  let (letters, operands) ← options zero 1 "as:z" [("multiple", 'a'), ("suffix", 's')] args
  let ending? := Options.value? letters 's'
  if letters.isEmpty then
    match operands with
    | [] => misuse zero "missing operand" 1
    | [path] => say (baseName "" path ++ "\n")
    | [path, ending] => say (baseName ending path ++ "\n")
    | _ => misuse zero ("extra operand " ++ marked ((operands[2]?).getD "")) 1
  else operands.forM fun path => say (baseName (ending?.getD "") path ++ "\n")
  setStatus 0

/-- The text of a name from the root on. -/
def nameText (name : List String) : String := Text.octets (Path.mk .root name).text

/-- Writes the working directory. -/
def pwd : Tool := fun zero args => do
  let (letters, operands) ← options zero 1 "LP" [] args
  let m ← get
  if !operands.isEmpty then warn zero "ignoring non-option arguments"
  say (nameText (if Options.has letters 'L' then m.logical else m.cwd) ++ "\n")
  setStatus 0

/-- Writes where links lead. -/
def readlink : Tool := fun zero args => do
  let (letters, operands) ← options zero 1 "femnqsvz" [("canonicalize", 'f')] args
  if operands.isEmpty then misuse zero "missing operand" 1
  setStatus 0
  operands.forM fun operand => do
    let m ← get
    if !letters.isEmpty then say (nameText (m.tree.realName (m.path operand)) ++ "\n")
    else match m.tree.entry? (m.entryName operand) with
      | some (.link target) => say (Text.octets target ++ "\n")
      | _ => setStatus 1

/-- Writes paths without links. -/
def realpath : Tool := fun zero args => do
  let (_, operands) ← options zero 1 "emqsz" [] args
  if operands.isEmpty then misuse zero "missing operand" 1
  setStatus 0
  operands.forM fun operand => do
    let m ← get
    let name := m.tree.realName (m.path operand)
    match m.tree.entry? name.dropLast with
    | some .directory => say (nameText name ++ "\n")
    | _ => mishap zero (operand ++ ": No such file or directory")

/-! ## Listing -/

/-- The names in a directory that are to be listed. -/
def listed (m : Machine) (letters : List (Char × String)) (directory : List String) :
    List String :=
  let names := m.namesIn directory
  let names := if Options.has letters 'a' then "." :: ".." :: names
    else if Options.has letters 'A' then names
    else names.filter (!·.startsWith ".")
  if Options.has letters 'r' then names.reverse else names

/-- A name as it is listed, with the mark of a directory if that is asked for. -/
def shownName (m : Machine) (letters : List (Char × String)) (path name : String) : String :=
  let isDirectory := m.find path matches .found _ .directory
  let isExecutable := m.find path matches .found _ (.file _ true)
  name ++ (if isDirectory && (Options.has letters 'F' || Options.has letters 'p') then "/"
    else if isExecutable && Options.has letters 'F' then "*" else "") ++ "\n"

/-- Lists directories, each under its name if there are several, and those in them, `depth`
levels deep. -/
def listDirectories (letters : List (Char × String)) (isNamed isFirst : Bool) :
    Nat → List String → Action Unit
  | 0, _ => return
  | _ + 1, [] => return
  | depth + 1, path :: paths => do
    let m ← get
    match m.find path with
    | .found directory .directory =>
      let names := listed m letters directory
      if isNamed then say ((if isFirst then "" else "\n") ++ path ++ ":\n")
      say (String.join (names.map fun name => shownName m letters (path ++ "/" ++ name) name))
      let inner := if !Options.has letters 'R' then []
        else (names.filter fun name => name ≠ "." && name ≠ "..").filterMap fun name =>
          if m.tree.entry? (directory ++ [Text.ofOctets name]) = some .directory then
            some (path ++ "/" ++ name)
          else none
      listDirectories letters isNamed false depth (inner ++ paths)
    | _ => listDirectories letters isNamed isFirst depth paths

/-- Lists files and the names in directories. -/
def ls : Tool := fun zero args => do
  let (letters, operands) ← options zero 2 "aAFprRd1tShlnU"
    [("all", 'a'), ("almost-all", 'A'), ("reverse", 'r'), ("recursive", 'R'), ("directory", 'd'),
     ("classify", 'F')] args
  setStatus 0
  let m ← get
  let operands := (if operands.isEmpty then ["."] else operands).mergeSort
    fun a b => !decide (b < a)
  let isMissing (path : String) : Bool := !m.isEntry path
  operands.forM fun path => do
    if isMissing path then
      warn zero ("cannot access " ++ marked path ++ ": " ++ words (m.find path))
      setStatus 2
  let present := operands.filter (!isMissing ·)
  let (directories, files) := present.partition fun path =>
    !Options.has letters 'd' && m.find path matches .found _ .directory
  say (String.join (files.map fun path => shownName m letters path path))
  let isNamed := 1 < operands.length || Options.has letters 'R'
  listDirectories letters isNamed files.isEmpty (m.tree.entries.length + directories.length + 8)
    directories

/-! ## Making -/

/-- Why nothing can be made under a name, if so. -/
def barrier? (m : Machine) (name : List String) : Option String :=
  match m.tree.entry? name.dropLast with
  | some .directory => none
  | some (.file ..) => some "Not a directory"
  | some (.link _) => some "Too many levels of symbolic links"
  | none =>
    if (List.range name.length).any fun n => m.tree.entry? (name.take n) matches some (.file ..) then
      some "Not a directory"
    else some "No such file or directory"

/-- Makes directories, with `-p` those around them, too. -/
def mkdir : Tool := fun zero args => do
  let (letters, operands) ← options zero 1 "pvm:" [("parents", 'p'), ("verbose", 'v')] args
  if operands.isEmpty then misuse zero "missing operand" 1
  setStatus 0
  let fail (operand why : String) : Action Unit :=
    mishap zero ("cannot create directory " ++ marked operand ++ ": " ++ why)
  operands.forM fun operand => do
    let m ← get
    let name := m.tree.realName (m.path operand)
    if Options.has letters 'p' then
      match (List.range (name.length + 1)).find? fun n =>
        m.tree.entry? (name.take n) matches some (.file ..) with
      | some n =>
        let p := Path.ofText operand
        let shown : Path := ⟨p.anchor, p.parts.take (p.parts.length + n - name.length)⟩
        if n = name.length then fail operand "File exists" else fail shown.text "Not a directory"
      | none =>
        (List.range name.length).forM fun n => do
          let directory := name.take (n + 1)
          if ((← get).tree.entry? directory).isNone then modify (·.edit (.put directory .directory))
    else if m.isEntry operand || m.isEntry (nameText name) then fail operand "File exists"
    else match barrier? m name with
      | some why => fail operand why
      | none =>
        modify (·.edit (.put name .directory))
        if Options.has letters 'v' then
          say (zero ++ ": created directory " ++ marked operand ++ "\n")

/-- Makes empty files, unless they are there. -/
def touch : Tool := fun zero args => do
  let (letters, operands) ← options zero 1 "acmd:r:t:" [("no-create", 'c')] args
  if operands.isEmpty then misuse zero "missing file operand" 1
  setStatus 0
  operands.forM fun operand => do
    let m ← get
    match m.find operand with
    | .found name (.file content executable) =>
      modify (·.edit (.put name (.file content executable)))
    | .found .. => return
    | _ =>
      let name := m.tree.realName (m.path operand)
      match barrier? m name with
      | some why => mishap zero ("cannot touch " ++ marked operand ++ ": " ++ why)
      | none =>
        if !Options.has letters 'c' then modify (·.edit (.put name (.file [] false)))

/-- The name under which something is put that is to go to a target: in the target if that
is a directory, and otherwise the target itself. -/
def placeFor (m : Machine) (target source : String) : List String × String :=
  match m.find target with
  | .found directory .directory =>
    let name := (Path.ofText source).name
    let shown := if target.endsWith "/" then target ++ name else target ++ "/" ++ name
    (directory ++ [Text.ofOctets name], shown)
  | .found name _ => (name, target)
  | _ => (m.tree.realName (m.path target), target)

/-- All entries at and below a name, moved to another one. -/
def moved (m : Machine) (source target : List String) : List Edit :=
  let inside := m.tree.entries.reverse.filter fun (name, _) => source.isPrefixOf name
  inside.map fun (name, node) => .put (target ++ name.drop source.length) node

/-- The sources and the target of a program that takes both. -/
def sourcesAndTarget (zero : String) (operands : List String) :
    Action (List String × String) := do
  match operands with
  | [] => misuse zero "missing file operand" 1
  | [source] => misuse zero ("missing destination file operand after " ++ marked source) 1
  | _ =>
    let target := operands.getLast?.getD ""
    let m ← get
    if 2 < operands.length && !(m.find target matches .found _ .directory) then
      giveUp zero ("target " ++ marked target ++ ": "
        ++ (if (m.nodeAt? target).isSome then "Not a directory" else words (m.find target))) 1
    else return (operands.dropLast, target)

/-- Copies files, with `-r` directories, too. -/
def cp : Tool := fun zero args => do
  let (letters, operands) ← options zero 1 "afipPrRuvLdT" [("recursive", 'r')] args
  let (sources, target) ← sourcesAndTarget zero operands
  setStatus 0
  sources.forM fun source => do
    let m ← get
    let (place, shown) := placeFor m target source
    match m.find source with
    | .found name (.file content executable) =>
      if name = place then
        mishap zero (marked source ++ " and " ++ marked shown ++ " are the same file")
      else match barrier? m place with
        | some why => mishap zero ("cannot create regular file " ++ marked shown ++ ": " ++ why)
        | none => modify (·.edit (.put place (.file content executable)))
    | .found name .directory =>
      if letters.any fun o => o.1 = 'r' || o.1 = 'R' || o.1 = 'a' then
        (moved m name place).forM fun e => modify (·.edit e)
      else mishap zero ("-r not specified; omitting directory " ++ marked source)
    | arrival => mishap zero ("cannot stat " ++ marked source ++ ": " ++ words arrival)

/-- Moves files and directories. -/
def mv : Tool := fun zero args => do
  let (_, operands) ← options zero 1 "finuvT" [("force", 'f')] args
  let (sources, target) ← sourcesAndTarget zero operands
  setStatus 0
  sources.forM fun source => do
    let m ← get
    let (place, shown) := placeFor m target source
    let name := m.entryName source
    match m.tree.entry? name with
    | none => mishap zero ("cannot stat " ++ marked source ++ ": " ++ words (m.find source))
    | some node =>
      if name = place then
        mishap zero (marked source ++ " and " ++ marked shown ++ " are the same file")
      else if node = .directory && FileTree.isFile (m.tree.entry? place) then
        mishap zero ("cannot overwrite non-directory " ++ marked shown ++ " with directory "
          ++ marked source)
      else match barrier? m place with
        | some why =>
          mishap zero ("cannot move " ++ marked source ++ " to " ++ marked shown ++ ": " ++ why)
        | none =>
          let edits := moved m name place
          modify (·.edit (.remove name))
          edits.forM fun e => modify (·.edit e)

/-- Makes links. -/
def ln : Tool := fun zero args => do
  let (letters, operands) ← options zero 1 "sfnrvT" [("symbolic", 's'), ("force", 'f')] args
  let isSymbolic := Options.has letters 's'
  setStatus 0
  match operands with
  | [] => misuse zero "missing file operand" 1
  | source :: rest =>
    let m ← get
    let target := rest.headD ((Path.ofText source).name)
    let (place, shown) := match m.find target with
      | .found .. => placeFor m target source
      | _ => (m.entryName target, target)
    let fail (why : String) : Action Unit :=
      mishap zero ("failed to create " ++ (if isSymbolic then "symbolic" else "hard") ++ " link "
        ++ marked shown ++ ": " ++ why)
    match (if isSymbolic then none else some (m.find source)) with
    | some (.found _ (.file content executable)) =>
      if (m.tree.entry? place).isSome && !Options.has letters 'f' then fail "File exists"
      else modify (·.edit (.put place (.file content executable)))
    | some arrival => mishap zero ("failed to access " ++ marked source ++ ": " ++ words arrival)
    | none =>
      if (m.tree.entry? place).isSome && !Options.has letters 'f' then fail "File exists"
      else match barrier? m place with
        | some why => fail why
        | none => modify (·.edit (.put place (.link (Text.ofOctets source))))

/-- Whether a mode lets files be run, if it says anything about that. -/
def runs? (mode : String) : Option (Option Bool) :=
  let cs := mode.toList
  if !cs.isEmpty && cs.all fun c => (Format.octal? c).isSome then
    some (some ((readDigitsIn 8 cs).1 / 64 % 2 = 1))
  else
    match cs.dropWhile fun c => "ugoa".toList.contains c with
    | sign :: what =>
      if !(what.all fun c => "rwxXst".toList.contains c) || !("+-=".toList.contains sign) then none
      else if sign = '=' then some (some (what.contains 'x'))
      else if what.contains 'x' then some (some (sign = '+'))
      else some none
    | [] => none

/-- Changes whether files can be run. -/
def chmod : Tool := fun zero args => do
  let (letters, operands) :=
    args.partition fun a => a = "-R" || a = "-f" || a = "-v" || a = "--recursive"
  match operands with
  | [] => misuse zero "missing operand" 1
  | [mode] => misuse zero ("missing operand after " ++ marked mode) 1
  | mode :: files =>
    match runs? mode with
    | none => misuse zero ("invalid mode: " ++ marked mode) 1
    | some executable? =>
      setStatus 0
      files.forM fun file => do
        let m ← get
        match m.find file with
        | .found name (.file content old) =>
          modify (·.edit (.put name (.file content (executable?.getD old))))
        | .found .. => return
        | arrival =>
          if letters.contains "-f" then setStatus 1
          else mishap zero ("cannot access " ++ marked file ++ ": " ++ words arrival)

/-! ## Removing -/

/-- Whether a path names a directory itself or the one around it. -/
def isDotted (path : String) : Bool :=
  let name := (Text.splitAtChar '/' path.toList).filter (!·.isEmpty)
  name.getLast? = some ['.'] || name.getLast? = some ['.', '.']

/-- Removes files, with `-r` directories, too. -/
def rm : Tool := fun zero args => do
  let (letters, operands) ← options zero 1 "rRfivdI"
    [("recursive", 'r'), ("force", 'f'), ("verbose", 'v')] args
  let isForced := Options.has letters 'f'
  let isRecursive := Options.has letters 'r' || Options.has letters 'R'
  if operands.isEmpty && !isForced then misuse zero "missing operand" 1
  setStatus 0
  operands.forM fun operand => do
    let m ← get
    let name := m.entryName operand
    let fail (why : String) : Action Unit :=
      mishap zero ("cannot remove " ++ marked operand ++ ": " ++ why)
    let remove : Action Unit := do
      modify (·.edit (.remove name))
      if Options.has letters 'v' then say ("removed " ++ marked operand ++ "\n")
    if isRecursive && isDotted operand then
      mishap zero ("refusing to remove '.' or '..' directory: skipping " ++ marked operand)
    else if isRecursive && (m.path operand).parts.isEmpty then
      warn zero "it is dangerous to operate recursively on '/'"
      mishap zero "use --no-preserve-root to override this failsafe"
    else match (if isDotted operand then some .directory else m.tree.entry? name) with
      | none =>
        let arrival := m.find operand
        if !(isForced && arrival = .missing) then fail (words arrival)
      | some .directory =>
        if isRecursive then remove
        else if Options.has letters 'd' && (m.namesIn name).isEmpty then remove
        else fail (if Options.has letters 'd' then "Directory not empty" else "Is a directory")
      | some (.link _) =>
        if operand.endsWith "/" then
          (if m.find operand matches .found _ .directory then
            fail (if isRecursive then "Not a directory" else "Is a directory")
          else fail "Not a directory")
        else remove
      | some (.file ..) => if operand.endsWith "/" then fail "Not a directory" else remove

/-- Removes empty directories. -/
def rmdir : Tool := fun zero args => do
  let (letters, operands) ← options zero 1 "pv" [("parents", 'p')] args
  if operands.isEmpty then misuse zero "missing operand" 1
  setStatus 0
  operands.forM fun operand => do
    let m ← get
    let name := m.entryName operand
    let names := if Options.has letters 'p' then
        (List.range (Path.ofText operand).parts.length).map fun n => name.take (name.length - n)
      else [name]
    names.forM fun name => do
      let m ← get
      let fail (why : String) : Action Unit :=
        mishap zero ("failed to remove " ++ marked operand ++ ": " ++ why)
      match m.tree.entry? name with
      | some .directory =>
        if (m.namesIn name).isEmpty then modify (·.edit (.remove name))
        else fail "Directory not empty"
      | some _ => fail "Not a directory"
      | none => fail (words (m.find operand))

end TypeCoverage.Shell.Tool
