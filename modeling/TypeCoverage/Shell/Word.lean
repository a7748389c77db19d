import TypeCoverage.Shell.Machine
import TypeCoverage.Shell.Pattern
import TypeCoverage.Shell.Token

/-!
# Fields of words

Expanding a word gives pieces: characters, quotation marks and the ends of fields.
`Piece.fields` makes fields of them.  A character that stems from an expansion outside of
quotation marks ends a field if it is one of the separators; of these, blanks count once,
together with one other separator beside them.  A field with unquoted stars, question marks
or brackets stands for the names in the file tree that match it, if there are any.

A tilde in front of a word stands for a home directory, `Tilde.expand` says which ones.
-/

namespace TypeCoverage.Shell

/-- A piece of an expanded word. -/
inductive Piece where
  /-- A character, which may be quoted, or may be a separator. -/
  | char (c : Char) (isQuoted splits : Bool)
  /-- Quotation marks, which make a field even with nothing between them. -/
  | marks
  /-- The end of a field; a soft one is none where no field has begun. -/
  | cut (soft : Bool)
  /-- The beginning of an expansion, before which no separator reaches. -/
  | edge
  deriving DecidableEq, Repr

/-- A character that separates fields and counts once if it is repeated. -/
def isSeparatingBlank (c : Char) : Bool := c = ' ' || c = '\t' || c = '\n'

/-- Where the making of fields is: inside a field, or behind its end, where further
separators still belong to that. -/
inductive Splitting where
  | inside
  /-- Only blanks have been passed over so far. -/
  | behindBlanks
  | behind
  deriving DecidableEq, Repr

namespace Piece

/-- The pieces of a text that is not to be split. -/
def solid (isQuoted : Bool) (text : String) : List Piece :=
  text.toList.map (char · isQuoted false)

/-- The pieces of the value of an expansion, in which a null character ends a field. -/
def ofValue (isQuoted splits : Bool) (value : String) : List Piece :=
  edge :: value.toList.map fun c =>
    if c = '\x00' then cut (!isQuoted) else char c isQuoted (splits && !isQuoted)

/-- The characters of some pieces. -/
def field (pieces : List Piece) : Field :=
  pieces.filterMap fun
    | char c isQuoted _ => some (isQuoted, c)
    | _ => none

/-- The text of some pieces. -/
def text (pieces : List Piece) : String := String.ofList ((field pieces).map (·.2))

/-- The fields that some pieces make; `current?` is the field that is being made, from its
last character on. -/
def fields (separators : List Char) (current? : Option Field) (s : Splitting) :
    List Piece → List Field
  | [] => current?.toList.map List.reverse
  | piece :: pieces =>
    let grow (f : Field) : List Field := fields separators (some f) .inside pieces
    let finish (s : Splitting) : List Field :=
      (current?.getD []).reverse :: fields separators none s pieces
    match piece with
    | .edge => fields separators current? .inside pieces
    | .marks => grow (current?.getD [])
    | .cut false => finish .inside
    | .cut true =>
      if s ≠ .inside || current?.isNone then fields separators current? s pieces
      else finish .behindBlanks
    | .char c isQuoted splits =>
      if !(splits && separators.contains c) then grow ((isQuoted, c) :: current?.getD [])
      else if isSeparatingBlank c then
        if s ≠ .inside || current?.isNone then fields separators current? s pieces
        else finish .behindBlanks
      else if s = .behindBlanks then fields separators current? .behind pieces
      else finish .behind

end Piece

namespace Field

/-- The text of a field. -/
def text (f : Field) : String := String.ofList (f.map (·.2))

/-- A field as a pattern: an unquoted backslash quotes the character behind it. -/
def asPattern : Field → Field
  | (false, '\\') :: (_, c) :: rest => (true, c) :: asPattern rest
  | c :: rest => c :: asPattern rest
  | [] => []

/-- The parts of a field between its slashes. -/
def components (f : Field) : List Field :=
  f.foldr (fun c parts =>
    if c.2 = '/' then [] :: parts
    else match parts with
      | [] => [[c]]
      | part :: more => (c :: part) :: more) [[]]

end Field

namespace Machine

/-- The names behind a path that match the parts of a field. -/
def matching (m : Machine) (path : String) : List Field → List String
  | [] => []
  | part :: parts =>
    let isLast := parts.isEmpty
    let go (name : String) : List String :=
      if isLast then (if m.isEntry (path ++ name) then [path ++ name] else [])
      else matching m (path ++ name ++ "/") parts
    if !Pattern.isActive part then go part.text
    else
      let directory := if path.isEmpty then "." else path
      match m.find directory with
      | .found name .directory =>
        let dotted := part.head?.map (·.2) = some '.'
        let names := (if dotted then [".", ".."] else []) ++ m.namesIn name
        (names.filter fun name =>
          (dotted || !name.startsWith ".")
            && Pattern.isMatch (Pattern.ofField part) name.toList).flatMap go
      | _ => []

/-- The texts that a field stands for: the names that match it, or else the field itself. -/
def namesOf (m : Machine) (f : Field) : List String :=
  let pattern := f.asPattern
  if m.has 'f' || !Pattern.isActive pattern then [f.text]
  else
    let names := m.matching "" pattern.components
    if names.isEmpty then [f.text] else names.mergeSort fun a b => !decide (b < a)

/-- The texts that an expanded word stands for. -/
def textsOf (m : Machine) (pieces : List Piece) : List String :=
  (Piece.fields m.separators none .inside pieces).flatMap m.namesOf

end Machine

/-! ## Tildes -/

/-- Where tildes stand for home directories. -/
inductive Tilde where
  | nowhere
  /-- In front of the word. -/
  | front
  /-- In front of a value and behind each colon in it. -/
  | value
  /-- Behind the first equals sign and behind each colon that follows. -/
  | assignment
  deriving DecidableEq, Repr

namespace Tilde

/-- The home directory of a user; the one without a name is the user of the shell. -/
def home? (m : Machine) (user : String) : Option String :=
  if user.isEmpty then m.value? "HOME"
  else if user = "root" then some "/root"
  else none

/-- The parts of a text that begins with a tilde; `atEnd` tells that nothing follows it. -/
def expandText (m : Machine) (inValue atEnd : Bool) (cs : List Char) : List Part :=
  match cs with
  | '~' :: rest =>
    let user := rest.takeWhile fun c => c ≠ '/' && !(inValue && c = ':')
    let behind := rest.drop user.length
    match (if behind.isEmpty && !atEnd then none else home? m (String.ofList user)) with
    | some directory =>
      .escaped directory :: (if behind.isEmpty then [] else [.bare (String.ofList behind)])
    | none => [.bare (String.ofList cs)]
  | _ => if cs.isEmpty then [] else [.bare (String.ofList cs)]

/-- The stretches of a text, each but the last one with the colon behind it. -/
def stretches (cs : List Char) : List (List Char) :=
  cs.foldr (fun c parts =>
    match c, parts with
    | ':', _ => [':'] :: parts
    | _, part :: more => (c :: part) :: more
    | _, [] => [[c]]) [[]]

/-- The parts of a text in a value; `fresh` tells that it is at the beginning of the
value. -/
def expandValue (m : Machine) (fresh atEnd : Bool) (cs : List Char) : List Part :=
  let parts := stretches cs
  let (_, done) := parts.foldl (fun ((n, done) : Nat × List Part) part =>
    let isLast := n + 1 = parts.length
    (n + 1, done ++
      if n = 0 && !fresh then (if part.isEmpty then [] else [.bare (String.ofList part)])
      else expandText m true (!isLast || atEnd) part)) (0, [])
  done

/-- The parts of a value; `fresh` tells that it begins here. -/
def expandParts (m : Machine) (fresh : Bool) : Word → Word
  | [] => []
  | .bare text :: parts =>
    expandValue m fresh parts.isEmpty text.toList ++ expandParts m false parts
  | part :: parts => part :: expandParts m false parts

/-- A word with home directories in place of its tildes. -/
def expand (m : Machine) (t : Tilde) (word : Word) : Word :=
  match t, word with
  | .front, .bare text :: parts => expandText m false parts.isEmpty text.toList ++ parts
  | .value, _ => expandParts m true word
  | .assignment, .bare text :: parts =>
    let name := text.toList.takeWhile (· ≠ '=')
    let value := text.toList.drop (name.length + 1)
    .bare (String.ofList (name ++ ['='])) ::
      expandParts m true (if value.isEmpty then parts else .bare (String.ofList value) :: parts)
  | _, _ => word

end Tilde

end TypeCoverage.Shell
