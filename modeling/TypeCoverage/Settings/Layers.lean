import TypeCoverage.FileTree.Probe
import TypeCoverage.Settings.Check
import TypeCoverage.Text.Utf8
import TypeCoverage.Toml.Reader

/-!
# Layers of settings

Settings come from three layers over the defaults: the section `tool.flowcov` of the
nearest project file, the nearest settings file of its own, and the environment.  A later
layer overrides an earlier one field by field, whichever spelling it uses.  The files are
looked for in a directory and upward from it; each is the nearest regular file of its
name, and there is only so much room to read values in it inside one another.
-/

namespace TypeCoverage.Settings

/-- The name of a project file. -/
def projectFile : String := "pyproject.toml"

/-- The name of a settings file. -/
def settingsFile : String := ".flowcov.toml"

/-- The variables of the environment, by name. -/
abbrev Environment : Type := List (String × String)

/-- A refusal of settings as a failure. -/
def refuse {α : Type} (why : ConfigFault) : Except Failure α :=
  .error (.fault (.config why))

/-- The table in a settings file. -/
def readFile (room : Nat) (path : Path) (content : List UInt8) : Except Failure Members :=
  match Text.decodeStrict content with
  | none => .error .undecodable
  | some text =>
    match Toml.parse room text with
    | .ok members => .ok members
    | .error .malformed => refuse (.unreadable path.text)
    | .error .integerTooLong => .error (.badValue none)
    | .error .tooDeep => .error .tooDeep

/-- The nearest regular file of a name at or above a directory, with its table. -/
def nearest (room : Nat) (t : FileTree) (start : Path) (name : String) :
    Except Failure (Option (Path × Members)) :=
  match FileTree.firstWhere (fun p => (t.probe p).map FileTree.isFile)
      (start.ancestors.map (·.join (Path.ofText name))) with
  | .error e => .error e
  | .ok none => .ok none
  | .ok (some path) =>
    match t.walk path with
    | .found _ (.file content _) =>
      (readFile room path content).map fun members => some (path, members)
    | _ => .ok none

/-- The value of a key of a table, or else an empty table. -/
def member (key : String) (members : Members) : Datum :=
  (members.lookup key).getD (.table [])

/-- The section of the settings in the table of a project file. -/
def section? (path : Path) (members : Members) : Except Failure Members :=
  match member "tool" members with
  | .table tools =>
    match member "flowcov" tools with
    | .table inner => .ok inner
    | _ => refuse (.notTable path.text)
  | other => .error (.noAttribute other.kindName "get")

/-- The layer of the nearest project file. -/
def projectLayer (room : Nat) (t : FileTree) (start : Path) : Except Failure Members :=
  match nearest room t start projectFile with
  | .error e => .error e
  | .ok none => .ok []
  | .ok (some (path, members)) => section? path members

/-- The layer of the nearest settings file. -/
def fileLayer (room : Nat) (t : FileTree) (start : Path) : Except Failure Members :=
  (nearest room t start settingsFile).map fun found => (found.map (·.2)).getD []

/-- The variable of the environment for a field. -/
def variableName (f : Field) : String :=
  "FLOWCOV_" ++ String.ofList (f.name.toList.map Char.toUpper)

/-- The words for true in the environment. -/
def trueWords : List String := ["1", "true", "yes", "on"]

/-- The words for false in the environment. -/
def falseWords : List String := ["0", "false", "no", "off", ""]

/-- A truth value from a variable of the environment: a word in any letter case, with
blanks around it. -/
def readTruthWord (name raw : String) : Except Failure Bool :=
  let word := String.ofList ((Text.strip raw).toList.map Char.toLower)
  if trueWords.contains word then .ok true
  else if falseWords.contains word then .ok false
  else refuse (.notTruthWord name raw)

/-- What a variable of the environment gives a field. -/
def readVariable (f : Field) (raw : String) : Except Failure Datum :=
  match f with
  | .executablePath => .ok (.text raw)
  | .onlyIfAppropriate => (readTruthWord (variableName f) raw).map .boolean
  | .showUncovered => (readTruthWord (variableName f) raw).map .boolean
  | .hyperclickPriority => .ok (.text raw)

/-- The layer of the environment, for the given fields in order. -/
def environmentLayer (env : Environment) : List Field → Except Failure Members
  | [] => .ok []
  | f :: fs =>
    match env.lookup (variableName f) with
    | none => environmentLayer env fs
    | some raw =>
      match readVariable f raw with
      | .error e => .error e
      | .ok d => (environmentLayer env fs).map ((f.name, d) :: ·)

/-- The name of the field that a key spells, or else the key itself. -/
def fieldKey (key : String) : String :=
  match Field.all.find? (·.camelName == key) with
  | some f => f.name
  | none => key

/-- Adds a layer over the ones below it.  A key keeps the place where it first stood. -/
def overlay (below layer : Members) : Members :=
  layer.foldl (fun members (key, d) => Ordered.put (fieldKey key) d members) below

/-- The directory from which the files are looked for: the one that a path stands for, or
the one that holds it if it is a file. -/
def startOf (t : FileTree) (root : Path) : Except Failure Path :=
  if FileTree.holdsNull root.text then .error (.badValue none)
  else
    let start : Path := ⟨.root, t.realName root⟩
    match t.walk start with
    | .tooManyLinks => .error (.runtime ("Symlink loop from " ++ Text.quoted start.text))
    | .nameTooLong => .error (.file .nameTooLong start.text)
    | .found _ (.file ..) => .ok start.parent
    | _ => .ok start

/-- The settings for a directory, from all layers. -/
def load (room : Nat) (t : FileTree) (env : Environment) (root : Path) :
    Except Failure Settings :=
  match startOf t root with
  | .error e => .error e
  | .ok start =>
    match projectLayer room t start, fileLayer room t start, environmentLayer env Field.all with
    | .error e, _, _ => .error e
    | .ok _, .error e, _ => .error e
    | .ok _, .ok _, .error e => .error e
    | .ok project, .ok file, .ok environment =>
      let merged := overlay (overlay (overlay [] project) file) environment
      match ofTable merged with
      | .ok settings => .ok settings
      | .error findings => refuse (.invalid findings)

end TypeCoverage.Settings
