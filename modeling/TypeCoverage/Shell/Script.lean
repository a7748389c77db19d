/-!
# Shell scripts

The parts of a script of the POSIX shell: words with their expansions, commands with
their redirections, and the pipelines, lists and compounds that are made of them.  All
texts in a script hold bytes, one in each character.
-/

namespace TypeCoverage.Shell

/-- Which end of a value a pattern is removed from, and how much of it. -/
inductive Trim where
  | shortestFront
  | longestFront
  | shortestBack
  | longestBack
  deriving DecidableEq, Repr

/-- What is done when a parameter is not set, or is. -/
inductive Fallback where
  | use
  | assign
  | instead
  | demand
  deriving DecidableEq, Repr

/-- What a redirection does to its stream. -/
inductive Redirection where
  | read
  | write
  /-- Writes also where nothing may be overwritten. -/
  | overwrite
  | append
  | readWrite
  | duplicate
  /-- Reads the here-document with a number. -/
  | document (number : Nat)
  deriving DecidableEq, Repr

mutual

/-- A part of a word. -/
inductive Part where
  /-- Characters outside of quotation marks. -/
  | bare (text : String)
  /-- Characters behind backslashes. -/
  | escaped (text : String)
  /-- What stands between quotation marks. -/
  | quoted (parts : List Part)
  | parameter (name : String) (expansion : Expansion)
  | arithmetic (parts : List Part)
  | output (script? : Option Command)

/-- How a parameter is expanded. -/
inductive Expansion where
  | plain
  | length
  /-- What a word does for a parameter that is not set or, with `orEmpty`, is empty. -/
  | fallback (kind : Fallback) (orEmpty : Bool) (word : List Part)
  | trim (kind : Trim) (pattern : List Part)
  /-- An expansion that is none. -/
  | malformed

/-- A redirection of a numbered stream. -/
inductive Redirect where
  | mk (stream : Nat) (kind : Redirection) (target : List Part)

/-- A command.  A list without any command is no command. -/
inductive Command where
  | simple (line : Nat) (assignments : List (String × List Part)) (words : List (List Part))
      (redirects : List Redirect)
  | pipe (commands : List Command) (background : Bool)
  | redirected (line : Nat) (body : Command) (redirects : List Redirect)
  | background (line : Nat) (body : Command) (redirects : List Redirect)
  | subshell (line : Nat) (body : Command) (redirects : List Redirect)
  | negated (body : Command)
  | both (first second : Command)
  | either (first second : Command)
  | sequence (first second : Command)
  | choice (test yes : Command) (no? : Option Command)
  | loop (whileTrue : Bool) (test body : Command)
  | each (line : Nat) (name : String) (words : List (List Part)) (body : Command)
  | select (line : Nat) (subject : List Part) (arms : List (List (List Part) × Option Command))
  | define (name : String) (body : Command)

end

/-- A word of a script. -/
abbrev Word : Type := List Part

namespace Part

/-- The characters of a word in which nothing is expanded, without quotation marks. -/
def literal : List Part → String
  | [] => ""
  | .bare text :: parts => text ++ literal parts
  | .escaped text :: parts => text ++ literal parts
  | .quoted inner :: parts => literal inner ++ literal parts
  | _ :: parts => literal parts

end Part

end TypeCoverage.Shell
