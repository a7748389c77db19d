import TypeCoverage.Shell.Script

/-!
# Tokens of the shell

A script is read token by token: line breaks, signs, redirections, reserved words and
words.  A script that is none has a `SyntaxFault`, whose `message` names the token that
stands where it should not, and the one that is missing.
-/

namespace TypeCoverage.Shell

/-- A token of a script. -/
inductive Token where
  | ending
  | newline
  | sign (text : String)
  /-- The sign of a redirection, with the number of its stream if it is given. -/
  | redirection (stream? : Option Nat) (sign : String)
  | word (parts : Word) (isQuoted : Bool)
  | reserved (text : String)

/-- Why a text is no script. -/
inductive SyntaxCause where
  | unexpected (found : String) (expected? : Option String)
  | openQuote
  | openBrace
  | openArithmetic
  | openBackquote
  | loopVariable
  | functionName
  | streamNumber
  deriving DecidableEq, Repr

/-- Why a text is no script, and the line on which that shows. -/
structure SyntaxFault where
  cause : SyntaxCause
  line : Nat
  deriving DecidableEq, Repr

/-- The words that have a meaning where a command begins. -/
def reservedWords : List String :=
  ["!", "case", "do", "done", "elif", "else", "esac", "fi", "for", "if", "in", "then", "until",
   "while", "\x7b", "\x7d"]

/-- A character of a name. -/
def isNameChar (c : Char) : Bool := c.isAlphanum || c = '_'

/-- A name of a variable. -/
def isName (s : String) : Bool :=
  match s.toList with
  | [] => false
  | c :: cs => !c.isDigit && (c :: cs).all isNameChar

/-- The commands of the shell that change it or how a script goes on.  No function takes
their names, and their failure ends a shell. -/
def specialNames : List String :=
  [".", ":", "break", "continue", "eval", "exec", "exit", "export", "local", "readonly", "return",
   "set", "shift", "times", "trap", "unset"]

namespace Token

/-- A sign or a reserved word between quotation marks. -/
def marked (text : String) : String := "\"" ++ text ++ "\""

/-- The name of a token in a message. -/
def name : Token → String
  | .ending => "end of file"
  | .newline => "newline"
  | .sign text => marked text
  | .redirection .. => "redirection"
  | .word .. => "word"
  | .reserved text => marked text

/-- The signs and reserved words that close what stands before them. -/
def closings : List String :=
  [")", ";;", "do", "done", "elif", "else", "esac", "fi", "then", "\x7d"]

/-- Whether a token ends a list of commands. -/
def closes : Token → Bool
  | .ending => true
  | .sign text => closings.contains text
  | .reserved text => closings.contains text
  | _ => false

/-- Whether a token is a sign. -/
def isSign (t : Token) (text : String) : Bool :=
  match t with
  | .sign other => other = text
  | _ => false

/-- Whether a token is a reserved word. -/
def isReserved (t : Token) (text : String) : Bool :=
  match t with
  | .reserved other => other = text
  | _ => false

/-- The text of a token that is a word without quotation marks and expansions. -/
def plain? : Token → Option String
  | .word [.bare text] _ => some text
  | _ => none

end Token

/-- The words of a message that says why a text is no script. -/
def SyntaxCause.text : SyntaxCause → String
  | .unexpected found none => found ++ " unexpected"
  | .unexpected found (some expected) => found ++ " unexpected (expecting " ++ expected ++ ")"
  | .openQuote => "Unterminated quoted string"
  | .openBrace => "Missing '\x7d'"
  | .openArithmetic => "Missing '))'"
  | .openBackquote => "EOF in backquote substitution"
  | .loopVariable => "Bad for loop variable"
  | .functionName => "Bad function name"
  | .streamNumber => "Bad fd number"

/-- The message that says why a text is no script. -/
def SyntaxCause.message (c : SyntaxCause) : String := "Syntax error: " ++ c.text

namespace Part

/-- Whether quotation marks or backslashes stand in a word. -/
def isQuoted (parts : Word) : Bool :=
  parts.any fun
    | .escaped _ => true
    | .quoted _ => true
    | _ => false

/-- The name and the value of a word that is an assignment. -/
def assignment? : Word → Option (String × Word)
  | .bare text :: parts =>
    let name := text.toList.takeWhile isNameChar
    match text.toList.drop name.length with
    | '=' :: value =>
      if isName (String.ofList name) then
        some (String.ofList name,
          if value.isEmpty then parts else .bare (String.ofList value) :: parts)
      else none
    | _ => none
  | _ => none

end Part

end TypeCoverage.Shell
