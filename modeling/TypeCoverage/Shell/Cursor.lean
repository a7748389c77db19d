import TypeCoverage.Shell.Token

/-!
# Places in a script

A `Cursor` is a place in a text, with what has been learned on the way to it: the line, the
here-documents that are announced and the aliases whose text is being read.  A `Reading`
goes on from a cursor, or fails; the readers of this module know nothing of commands.  A
`Span` is a stretch of text that ends in its own way and in which its own characters have
a meaning.
-/

namespace TypeCoverage.Shell

/-- A here-document whose lines are still to come. -/
structure Announced where
  number : Nat
  delimiter : List Char
  /-- Whether tabs in front of its lines are dropped. -/
  dropsTabs : Bool
  expands : Bool

/-- An alias whose text is being read. -/
structure Unfolding where
  name : String
  /-- How many characters follow the text of the alias. -/
  behind : Nat
  /-- Whether the text ends with a blank: then the next word may be an alias, too. -/
  endsBlank : Bool

/-- A place in a text, with what has been learned on the way to it. -/
structure Cursor where
  rest : List Char
  line : Nat := 1
  /-- A token that has been read and is not used yet. -/
  kept? : Option Token := none
  announced : List Announced := []
  /-- The words of the here-documents by their numbers. -/
  documents : List (Nat × Word) := []
  /-- The number of the next document. -/
  fresh : Nat := 0
  aliases : List (String × String) := []
  unfoldings : List Unfolding := []
  /-- Whether the last token may be an alias wherever it stands. -/
  isOpen : Bool := false

/-- A reader: it goes on from a cursor, or fails. -/
abbrev Reading (α : Type) : Type := StateT Cursor (Except SyntaxFault) α

/-- The text before the next character: joined lines are passed over. -/
def skipJoined : List Char → Nat × List Char
  | '\\' :: '\n' :: cs =>
    let (n, rest) := skipJoined cs
    (n + 1, rest)
  | cs => (0, cs)

namespace Reading

/-- Fails on the current line. -/
def fail {α : Type} (cause : SyntaxCause) : Reading α := do
  throw ⟨cause, (← get).line⟩

/-- Fails at a token that stands where it should not. -/
def unexpected {α : Type} (t : Token) (expected? : Option String) : Reading α :=
  fail (.unexpected t.name expected?)

/-- The next character, which is not used up. -/
def peek? : Reading (Option Char) :=
  modifyGet fun c =>
    let (n, rest) := skipJoined c.rest
    (rest.head?, { c with rest := rest, line := c.line + n })

/-- The character after the next one. -/
def peekSecond? : Reading (Option Char) := do
  return (skipJoined ((← get).rest.drop 1)).2.head?

/-- Uses up some characters. -/
def drop (n : Nat) : Reading Unit :=
  modify fun c => { c with rest := c.rest.drop n, line := c.line + (c.rest.take n).count '\n' }

/-- Uses up one character. -/
def advance : Reading Unit := drop 1

/-- Uses up one character; no line ends with it. -/
def pass : Reading Unit := modify fun c => { c with rest := c.rest.drop 1 }

/-- Uses up the characters in front that satisfy a test. -/
def takeWhile (test : Char → Bool) : Reading String := do
  let front := (← get).rest.takeWhile test
  drop front.length
  return String.ofList front

/-- Uses up characters that satisfy a test, over joined lines. -/
def takeAll (test : Char → Bool) : Nat → Reading String
  | 0 => return ""
  | fuel + 1 => do
    match ← peek? with
    | some c =>
      if test c then
        let front ← takeWhile test
        return front ++ (← takeAll test fuel)
      else return ""
    | none => return ""

/-- Puts a token back. -/
def keep (t : Token) : Reading Unit := modify fun c => { c with kept? := some t }

end Reading

/-- A character that ends an unquoted word. -/
def isMeta (c : Char) : Bool :=
  c = ' ' || c = '\t' || c = '\n' || c = ';' || c = '&' || c = '|' || c = '<' || c = '>'
    || c = '(' || c = ')'

/-- A parameter that is named by one sign. -/
def isSpecialParameter (c : Char) : Bool :=
  c.isDigit || c = '!' || c = '#' || c = '$' || c = '*' || c = '-' || c = '?' || c = '@'

/-- How a stretch of text is quoted. -/
inductive Quoting where
  | none
  | marks
  | document
  deriving DecidableEq, Repr

/-- A stretch of text that is read up to its own end. -/
inductive Span where
  /-- A word; in the delimiter of a document nothing is expanded. -/
  | word (isDelimiter : Bool)
  | marks
  /-- The word in a parameter; `inner` tells that quotation marks are open in it, which are
  those around it, closed and opened again. -/
  | brace (quoting : Quoting) (inner : Bool)
  /-- An expression, with the parentheses that are open in it. -/
  | arithmetic (depth : Nat)
  /-- A line of a document. -/
  | line
  deriving DecidableEq, Repr

namespace Span

/-- Whether a stretch is quoted as a whole. -/
def isQuoted : Span → Bool
  | .word _ => false
  | .brace quoting _ => quoting ≠ .none
  | _ => true

/-- A character without any meaning in a stretch. -/
def isOrdinary (s : Span) (c : Char) : Bool :=
  if c = '\\' || c = '$' || c = '`' then false
  else match s with
    | .word _ => c ≠ '\'' && c ≠ '"' && !isMeta c
    | .marks => c ≠ '"'
    | .brace .none _ => c ≠ '\'' && c ≠ '"' && c ≠ '\x7d'
    | .brace _ _ => c ≠ '"' && c ≠ '\x7d'
    | .arithmetic _ => c ≠ '(' && c ≠ ')'
    | .line => c ≠ '\n'

/-- Whether a backslash takes the meaning of a character away, and goes away itself. -/
def escapes (s : Span) (c : Char) : Bool :=
  !s.isQuoted || c = '\\' || c = '$' || c = '`' || (c = '"' && s ≠ .line)
    || (c = '\x7d' && s matches .brace _ _)

/-- How the word of a parameter in a stretch is quoted. -/
def quoting : Span → Quoting
  | .word _ => .none
  | .brace quoting _ => quoting
  | .line => .document
  | _ => .marks

end Span

namespace Part

/-- Puts characters in front of reversed parts. -/
def pushBare (text : String) : List Part → List Part
  | .bare front :: parts => .bare (front ++ text) :: parts
  | parts => .bare text :: parts

end Part

/-- The text between backquotes, after the first one, up to the other.  A backslash goes
away before a character that has a meaning there. -/
def takeBackquoted (inMarks : Bool) : Nat → List Char → Reading (List Char)
  | 0, _ => Reading.fail .openBackquote
  | fuel + 1, done => do
    match ← Reading.peek? with
    | none => Reading.fail .openBackquote
    | some '`' =>
      Reading.advance
      return done.reverse
    | some '\\' =>
      Reading.advance
      match (← get).rest with
      | [] => takeBackquoted inMarks fuel ('\\' :: done)
      | c :: _ =>
        Reading.advance
        if c = '\\' || c = '`' || c = '$' || (inMarks && c = '"') then
          takeBackquoted inMarks fuel (c :: done)
        else takeBackquoted inMarks fuel (c :: '\\' :: done)
    | some c =>
      Reading.advance
      takeBackquoted inMarks fuel (c :: done)

/-- The lines of a document in which nothing is expanded, up to its delimiter. -/
def takeDocument (a : Announced) : Nat → List Char → Reading (List Char)
  | 0, done => return done
  | fuel + 1, done => do
    let rest := (← get).rest
    if rest.isEmpty then return done
    else
      if a.dropsTabs then let _ ← Reading.takeWhile (· = '\t')
      let line := (← get).rest.takeWhile (· ≠ '\n')
      let more := line.length < (← get).rest.length
      Reading.drop (line.length + 1)
      if line = a.delimiter then return done
      else takeDocument a fuel (done ++ line ++ if more then ['\n'] else [])

/-- Passes over blanks and a comment. -/
def skipBlanks : Nat → Reading Unit
  | 0 => return
  | fuel + 1 => do
    match ← Reading.peek? with
    | some ' ' => Reading.advance; skipBlanks fuel
    | some '\t' => Reading.advance; skipBlanks fuel
    | some '#' =>
      let _ ← Reading.takeWhile (· ≠ '\n')
      skipBlanks fuel
    | _ => return

/-- Leaves the aliases whose text has come to its end. -/
def leaveAliases : Reading Unit :=
  modify fun c =>
    if c.unfoldings.isEmpty then { c with isOpen := false }
    else
      let left := c.rest.length
      let (inside, passed) := c.unfoldings.partition fun u => u.behind < left
      { c with unfoldings := inside, isOpen := passed.any (·.endsBlank) }

/-- The sign of a redirection. -/
def readRedirection (stream? : Option Nat) : Reading Token := do
  let first ← Reading.peek?
  Reading.advance
  let sign (text : String) : Reading Token := do
    Reading.advance
    return .redirection stream? text
  if first = some '>' then
    match ← Reading.peek? with
    | some '>' => sign ">>"
    | some '|' => sign ">|"
    | some '&' => sign ">&"
    | _ => return .redirection stream? ">"
  else
    match ← Reading.peek? with
    | some '<' =>
      Reading.advance
      match ← Reading.peek? with
      | some '-' => sign "<<-"
      | _ => return .redirection stream? "<<"
    | some '&' => sign "<&"
    | some '>' => sign "<>"
    | _ => return .redirection stream? "<"

/-- Replaces the token by the text of the alias that it is, if it is one. -/
def entersAlias (text : String) : Reading Bool := do
  let c ← get
  match c.aliases.lookup text with
  | none => return false
  | some value =>
    if c.unfoldings.any (·.name = text) then return false
    else
      let u : Unfolding :=
        ⟨text, c.rest.length, value.toList.getLast?.any fun d => d = ' ' || d = '\t'⟩
      set { c with rest := value.toList ++ c.rest, unfoldings := u :: c.unfoldings }
      return true

/-- What a sign of redirection does. -/
def redirectionOf : String → Redirection
  | "<" => .read
  | ">" => .write
  | ">|" => .overwrite
  | ">>" => .append
  | "<>" => .readWrite
  | _ => .duplicate

/-- The stream that a sign of redirection is for if none is named. -/
def usualStream (sign : String) : Nat := if sign.startsWith ">" then 1 else 0

end TypeCoverage.Shell
